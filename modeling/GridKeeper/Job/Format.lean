import GridKeeper.Text.Cut
import GridKeeper.Text.Numeral
import GridKeeper.Text.Scan

/-!
# Formats of printing

Escapes in a text stand for characters that are hard to write, and places in a format stand for
arguments. A place tells the kind of its argument, and before it flags, a width and a precision.
-/
namespace GridKeeper.Job.Format

/-! ## Escapes -/

/-- The character that a letter behind a backslash stands for. -/
def named? : Char → Option Char
  | 'a' => some '\x07'
  | 'b' => some '\x08'
  | 'e' => some '\x1b'
  | 'f' => some '\x0c'
  | 'n' => some '\n'
  | 'r' => some '\r'
  | 't' => some '\t'
  | 'v' => some '\x0b'
  | '\\' => some '\\'
  | _ => none

def isOctal (c : Char) : Bool := '0' ≤ c && c ≤ '7'

def octalValue (digits : List Char) : Nat :=
  digits.foldl (fun n d => 8 * n + (d.toNat - '0'.toNat)) 0

/-- What the text behind a backslash stands for, and the text that is left. It is the name of a
character or up to three octal digits, else the backslash stands for itself. -/
def escape (cs : List Char) : List Char × List Char :=
  let digits := (cs.take 3).takeWhile isOctal
  if digits ≠ [] then ([Char.ofNat (octalValue digits % 256)], cs.drop digits.length)
  else match cs with
    | [] => (['\\'], [])
    | c :: rest =>
      match named? c with
      | some d => ([d], rest)
      | none => (['\\', c], rest)

/-- A text with its escapes replaced. One escape drops whatever would follow, which the second part
tells. An octal number may have a zero before its three digits. -/
def unescaped (cs : List Char) : List Char × Bool :=
  go cs.length cs
where
  go : Nat → List Char → List Char × Bool
    | 0, _ | _, [] => ([], false)
    | n + 1, '\\' :: rest =>
      if rest.head? = some 'c' then ([], true)
      else
        let (shown, rest) := escape (if rest.head? = some '0' ∧ (rest.drop 1).head?.any isOctal then
          rest.drop 1 else rest)
        let (text, ends) := go n rest
        (shown ++ text, ends)
    | n + 1, c :: rest =>
      let (text, ends) := go n rest
      (c :: text, ends)

/-! ## Numbers -/

/-- The digits of a number, and what is left: hexadecimal behind `0x`, octal behind `0`. -/
def magnitude (cs : List Char) : Nat × List Char :=
  let read := fun (base : Nat) (cs : List Char) =>
    let isDigit := fun c => (Text.hexDigit? c).any (· < base)
    ((Text.readBase? base (cs.takeWhile isDigit)).getD 0, cs.dropWhile isDigit)
  match cs with
  | '0' :: x :: rest => if x = 'x' ∨ x = 'X' then read 16 rest else read 8 cs
  | _ => read 10 cs

/-- The number that an argument is, and whether it is wholly one; no characters are zero. A quote
stands before a character whose number is meant. -/
def number (arg : List Char) : Int × Bool :=
  match arg with
  | '\'' :: c :: _ | '"' :: c :: _ => (c.toNat, true)
  | _ =>
    let cs := arg.dropWhile fun c => c = ' ' ∨ c = '\t' ∨ c = '\n'
    let digits := if cs.head? = some '-' ∨ cs.head? = some '+' then cs.drop 1 else cs
    let (n, rest) := magnitude digits
    let i : Int := if cs.head? = some '-' then -(n : Int) else n
    if i < -(Text.half64 : Int) then (-(Text.half64 : Int), false)
    else if (Text.half64 : Int) ≤ i then ((Text.half64 : Int) - 1, false)
    else (i, arg.isEmpty || (digits.head?.any Char.isDigit && rest.isEmpty))

/-! ## Places -/

structure Place where
  flags : List Char := []
  width : Nat := 0
  precision : Option Nat := none
deriving Repr, DecidableEq

namespace Place

def has (p : Place) (flag : Char) : Bool := p.flags.contains flag

def fit (p : Place) (text : List Char) : List Char :=
  let gap := List.replicate (p.width - text.length) ' '
  if p.has '-' then text ++ gap else gap ++ text

def fitDigits (p : Place) (sign digits : List Char) : List Char :=
  let least := match p.precision with
    | some n => n
    | none => if p.has '0' && !p.has '-' then p.width - sign.length else 1
  let digits := if digits = ['0'] then [] else digits
  p.fit (sign ++ List.replicate (least - digits.length) '0' ++ digits)

def signed (p : Place) (i : Int) : List Char :=
  let sign := if i < 0 then ['-'] else if p.has '+' then ['+'] else if p.has ' ' then [' '] else []
  p.fitDigits sign (Nat.toDigits 10 i.natAbs)

/-- A number without a sign to some base; a negative one is counted from the end of the range. -/
def unsigned (p : Place) (base : Nat) (mark : List Char) (i : Int) : List Char :=
  let n := if i < 0 then (i + 2 * (Text.half64 : Int)).toNat else i.toNat
  p.fitDigits (if p.has '#' && n ≠ 0 then mark else []) (Nat.toDigits base n)

/-- What an argument is shown as, according to the kind of its place; the status it gives, and
whether nothing may follow. Nothing is shown for a kind that does not exist. -/
def shown? (p : Place) (kind : Char) (arg : List Char) : Option (List Char × Nat × Bool) :=
  let cut := fun (cs : List Char) => p.fit (match p.precision with
    | some n => cs.take n
    | none => cs)
  let (i, isNumber) := number arg
  let status := if isNumber then 0 else 1
  match kind with
  | 's' => some (cut arg, 0, false)
  | 'b' =>
    let (text, ends) := unescaped arg
    some (cut text, 0, ends)
  | 'c' => some (p.fit [arg.headD '\x00'], 0, false)
  | 'd' | 'i' => some (p.signed i, status, false)
  | 'u' => some (p.unsigned 10 [] i, status, false)
  | 'o' => some (p.unsigned 8 ['0'] i, status, false)
  | 'x' => some (p.unsigned 16 ['0', 'x'] i, status, false)
  | 'X' => some ((p.unsigned 16 ['0', 'x'] i).map Char.toUpper, status, false)
  | _ => none

end Place

/-! ## Formats -/

structure Filling where
  text : List Char := []
  args : List (List Char)
  status : Nat := 0
  ends : Bool := false
deriving Repr, DecidableEq

/-- Takes a width or a precision: digits, or a star for the next argument. -/
def measure (cs : List Char) (args : List (List Char)) : Nat × List Char × List (List Char) :=
  match cs with
  | '*' :: rest => ((number (args.headD [])).1.natAbs, rest, args.drop 1)
  | _ => (Text.digitsValue (cs.takeWhile Char.isDigit), cs.dropWhile Char.isDigit, args)

/-- Takes a place from behind its sign. -/
def place (cs : List Char) (args : List (List Char)) : Place × List Char × List (List Char) :=
  let isFlag := fun c => ['-', '+', ' ', '#', '0'].contains c
  let (width, rest, args) := measure (cs.dropWhile isFlag) args
  let p : Place := { flags := cs.takeWhile isFlag, width := width }
  match rest with
  | '.' :: rest =>
    let (precision, rest, args) := measure rest args
    ({ p with precision := some precision }, rest, args)
  | _ => (p, rest, args)

/-- Fills the places of a format of at most `n` characters with arguments. Where arguments are
lacking a place is filled with nothing, or with zero. -/
def fill : Nat → List Char → Filling → Filling
  | 0, _, f | _, [], f => f
  | n + 1, '%' :: '%' :: format, f => fill n format { f with text := f.text ++ ['%'] }
  | n + 1, '%' :: format, f =>
    let (p, rest, args) := place format f.args
    match rest with
    | [] => { f with status := 2, ends := true }
    | kind :: rest =>
      match p.shown? kind (args.headD []) with
      | none => { f with status := 2, ends := true }
      | some (text, status, ends) =>
        let f := { text := f.text ++ text, args := args.drop 1, status := max f.status status
                   ends := ends : Filling }
        if ends then f else fill n rest f
  | n + 1, '\\' :: format, f =>
    let (shown, rest) := escape format
    fill n rest { f with text := f.text ++ shown }
  | n + 1, c :: format, f => fill n format { f with text := f.text ++ [c] }

/-- Fills a format again and again until all arguments are used, `rounds` times at most. -/
def fillAll (format : List Char) : Nat → Filling → Filling
  | 0, f => f
  | rounds + 1, f =>
    let g := fill format.length format f
    if g.ends ∨ g.args.isEmpty ∨ g.args.length = f.args.length then g else fillAll format rounds g

end GridKeeper.Job.Format

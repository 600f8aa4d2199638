import GridKeeper.Double.Decimal
import GridKeeper.Text.Scan

/-!
# Numbers in TOML

Integers have 64 bits; they are written in decimal, or without a sign in hexadecimal, octal or
binary. Floats have a fraction or an exponent, or are one of the words for infinity and for not a
number; a float that is too large is refused. Single underscores may stand between digits, and
decimal numbers have no leading zeros.
-/
namespace GridKeeper.Toml

def run? (isDigit : Char → Bool) : Text.Scan (List Char) := fun cs =>
  match cs.takeWhile isDigit with
  | [] => none
  | ds => some (ds, cs.dropWhile isDigit)

/-- Takes digits with single underscores between them; the underscores are left out. -/
def digits? (isDigit : Char → Bool) : Text.Scan (List Char) := fun cs =>
  (Text.separated? (run? isDigit) '_' cs).map fun (runs, rest) => (runs.flatten, rest)

def sign (cs : List Char) : List Char × List Char :=
  match cs with
  | '+' :: rest => (['+'], rest)
  | '-' :: rest => (['-'], rest)
  | _ => ([], cs)

/-- Takes the digits of a decimal number: one zero, or digits that do not begin with a zero. -/
def decimal? : Text.Scan (List Char) := fun cs =>
  match cs with
  | '0' :: rest => some (['0'], rest)
  | _ => digits? Char.isDigit cs

def isDigitTo (base : Nat) (c : Char) : Bool := (Text.readBase? base [c]).isSome

def based? (base : Nat) : Text.Scan Int := fun cs =>
  (digits? (isDigitTo base) cs).bind fun (ds, rest) =>
    (Text.readBase? base ds).bind fun n =>
      if n < Text.half64 then some ((n : Int), rest) else none

def integer? : Text.Scan Int := fun cs =>
  match cs with
  | '0' :: 'x' :: rest => based? 16 rest
  | '0' :: 'o' :: rest => based? 8 rest
  | '0' :: 'b' :: rest => based? 2 rest
  | _ =>
    let (mark, rest) := sign cs
    (decimal? rest).bind fun (ds, rest) =>
      (Text.readSigned? Text.half64 (mark ++ ds)).map fun i => (i, rest)

def fraction? : Text.Scan (List Char)
  | '.' :: rest => (digits? Char.isDigit rest).map fun (ds, rest) => ('.' :: ds, rest)
  | _ => none

def exponent? : Text.Scan (List Char)
  | mark :: rest =>
    if mark = 'e' ∨ mark = 'E' then
      let (s, rest) := sign rest
      (digits? Char.isDigit rest).map fun (ds, rest) => ('e' :: (s ++ ds), rest)
    else none
  | [] => none

/-- Takes a fraction, an exponent, or both in this order. -/
def tail? : Text.Scan (List Char) := fun cs =>
  match fraction? cs with
  | some (f, rest) =>
    match exponent? rest with
    | some (e, rest) => some (f ++ e, rest)
    | none => some (f, rest)
  | none => exponent? cs

/-- Takes one of the words for infinity and for not a number. -/
def specialFloat? : Text.Scan Double := fun cs =>
  let (mark, rest) := sign cs
  match rest with
  | 'i' :: 'n' :: 'f' :: rest => some (.infinite (mark = ['-']), rest)
  | 'n' :: 'a' :: 'n' :: rest => some (.nan, rest)
  | _ => none

def plainFloat? : Text.Scan Double := fun cs =>
  let (mark, rest) := sign cs
  (decimal? rest).bind fun (whole, rest) =>
    (tail? rest).bind fun (t, rest) =>
      match Double.read? (mark ++ whole ++ t) with
      | some x => if x = .infinite false then none else some (x, rest)
      | none => none

def float? : Text.Scan Double := fun cs =>
  match plainFloat? cs with
  | some found => some found
  | none => specialFloat? cs

end GridKeeper.Toml

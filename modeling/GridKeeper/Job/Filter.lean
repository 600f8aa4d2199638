import GridKeeper.Text.Cut
import GridKeeper.Text.Numeral
import GridKeeper.Text.Scan

/-!
# Filters

Ways to make a text from another one: some of its lines or characters, its lines in another order,
its counts, its characters exchanged.
-/
namespace GridKeeper.Job.Filter

/-! ## Lines -/

/-- The lines of a text without their ends; the last one need not have an end. -/
def lines (cs : List Char) : List (List Char) :=
  let all := Text.pieces '\n' cs
  if all.getLast? = some [] then all.dropLast else all

/-- Lines as a text, each of them with an end. -/
def ofLines (ls : List (List Char)) : List Char := ls.flatMap (· ++ ['\n'])

def firstLines : Nat → List Char → List Char
  | 0, _ | _, [] => []
  | n + 1, '\n' :: rest => '\n' :: firstLines n rest
  | n + 1, c :: rest => c :: firstLines (n + 1) rest

def behindLines : Nat → List Char → List Char
  | 0, cs => cs
  | _, [] => []
  | n + 1, '\n' :: rest => behindLines n rest
  | n + 1, _ :: rest => behindLines (n + 1) rest

def lastLines (n : Nat) (cs : List Char) : List Char :=
  behindLines ((lines cs).length - n) cs

def wordCount (cs : List Char) : Nat :=
  ((Text.pieces ' ' (cs.map fun c => if c.isWhitespace then ' ' else c)).filter (· ≠ [])).length

/-! ## Order -/

/-- The number at the front of a line, zero if there is none. -/
def leadingNumber (line : List Char) : Int :=
  let cs := line.dropWhile (· = ' ')
  let digits := (if cs.head? = some '-' then cs.drop 1 else cs).takeWhile Char.isDigit
  if cs.head? = some '-' then -(Text.digitsValue digits : Int) else Text.digitsValue digits

structure Order where
  byNumber : Bool := false
  reversed : Bool := false
  unique : Bool := false
deriving Repr, DecidableEq

/-- Lines without those that are equal to the one before. -/
def withoutRepeats : List (List Char) → List (List Char)
  | a :: b :: rest => if a = b then withoutRepeats (b :: rest) else a :: withoutRepeats (b :: rest)
  | ls => ls

/-- Whether a line may stand before another one. -/
def Order.mayPrecede (o : Order) (a b : List Char) : Bool :=
  let byText := String.ofList a ≤ String.ofList b
  let holds := if o.byNumber && leadingNumber a ≠ leadingNumber b then
      leadingNumber a < leadingNumber b
    else byText
  if o.reversed then a = b || !holds else holds

def sorted (o : Order) (ls : List (List Char)) : List (List Char) :=
  let ls := ls.mergeSort o.mayPrecede
  if o.unique then withoutRepeats ls else ls

/-- Each line of those that are equal and stand together, with their number. -/
def counted : List (List Char) → List (Nat × List Char)
  | [] => []
  | a :: rest =>
    match counted rest with
    | (n, b) :: more => if a = b then (n + 1, b) :: more else (1, a) :: (n, b) :: more
    | [] => [(1, a)]

/-! ## Parts of lines -/

/-- Positions that are wanted, counted from one; an open range has no end. -/
abbrev Ranges := List (Nat × Option Nat)

/-- The positions that a list of numbers and ranges names. -/
def ranges? (cs : List Char) : Option Ranges :=
  (Text.pieces ',' cs).mapM fun item =>
    match Text.cutFirst? ['-'] item with
    | none => (Text.readDigits? item).map fun n => (n, some n)
    | some (first, last) =>
      if first.isEmpty ∧ last.isEmpty then none
      else do
        let low ← if first.isEmpty then some 1 else Text.readDigits? first
        let high ← if last.isEmpty then some none else (Text.readDigits? last).map some
        return (low, high)

def isWanted (rs : Ranges) (i : Nat) : Bool :=
  rs.any fun r => r.1 ≤ i && r.2.all fun high => i ≤ high

/-- The items at the positions that are wanted. -/
def selected {α : Type} (rs : Ranges) (items : List α) : List α :=
  ((items.zipIdx 1).filter fun p => isWanted rs p.2).map Prod.fst

/-- The fields of a line that are wanted; a line without a separator stays whole. -/
def fields (separator : Char) (rs : Ranges) (line : List Char) : List Char :=
  match Text.pieces separator line with
  | [_] => line
  | all => ((selected rs all).intersperse [separator]).flatten

/-! ## Exchange -/

/-- The letters from one to another. -/
def span (low high : Char) : List Char :=
  (List.range (high.toNat + 1 - low.toNat)).map fun i => Char.ofNat (low.toNat + i)

/-- Sets of characters by their names. -/
def classes : List (String × List Char) :=
  [("alnum", span '0' '9' ++ span 'A' 'Z' ++ span 'a' 'z'), ("alpha", span 'A' 'Z' ++ span 'a' 'z'),
    ("blank", ['\t', ' ']), ("digit", span '0' '9'), ("lower", span 'a' 'z'),
    ("space", span '\t' '\r' ++ [' ']), ("upper", span 'A' 'Z')]

/-- The characters that a set of at most `n` signs holds: itself, ranges, classes and escapes. -/
def members : Nat → List Char → List Char
  | 0, _ | _, [] => []
  | n + 1, '\\' :: c :: rest =>
    let meant := if c = 'n' then '\n' else if c = 't' then '\t' else if c = 'r' then '\r' else c
    meant :: members n rest
  | n + 1, c :: '-' :: d :: rest =>
    if c ≤ d then span c d ++ members n rest else c :: members n ('-' :: d :: rest)
  | n + 1, c :: rest =>
    match Text.behind? ['[', ':'] (c :: rest) with
    | some inner =>
      match Text.cutFirst? [':', ']'] inner with
      | some (name, behind) =>
        match classes.lookup (String.ofList name) with
        | some cs => cs ++ members n behind
        | none => c :: members n rest
      | none => c :: members n rest
    | none => c :: members n rest

/-- A text without repeats of the characters of a set. -/
def squeezed (set : Char → Bool) : List Char → List Char
  | a :: b :: rest =>
    if a = b && set a then squeezed set (b :: rest) else a :: squeezed set (b :: rest)
  | cs => cs

/-- The character that takes the place of another one: the one at the same position of the second
set, whose last one counts for all positions behind it. -/
def exchanged (source target : List Char) (c : Char) : Char :=
  match source.reverse.idxOf? c with
  | some i => (target[source.length - 1 - i]? <|> target.getLast?).getD c
  | none => c

end GridKeeper.Job.Filter

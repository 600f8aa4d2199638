/-!
# Scanning texts

A scan takes something from the front of a text and leaves the rest.
-/
namespace GridKeeper.Text

/-- What was found at the front of a text, and the rest of the text. -/
abbrev Scan (α : Type) := List Char → Option (α × List Char)

def char? (c : Char) : Scan Unit
  | d :: rest => if d = c then some ((), rest) else none
  | [] => none

/-- The value of a run of decimal digits, however long; no digits are zero. -/
def digitsValue (cs : List Char) : Nat :=
  cs.foldl (fun n c => 10 * n + (c.toNat - '0'.toNat)) 0

def fixedDigits? (n : Nat) : Scan Nat := fun cs =>
  let digits := cs.take n
  if digits.length = n ∧ digits.all Char.isDigit then some (digitsValue digits, cs.drop n)
  else none

/-- Takes one or more items with a separator between them. A separator without an item behind it is
left in the text. -/
def separated? {α : Type} (item : Scan α) (sep : Char) (cs : List Char) :
    Option (List α × List Char) :=
  match item cs with
  | none => none
  | some (a, []) => some ([a], [])
  | some (a, c :: more) =>
    if c = sep ∧ more.length < cs.length then
      match separated? item sep more with
      | some (as, rest) => some (a :: as, rest)
      | none => some ([a], c :: more)
    else some ([a], c :: more)
termination_by cs.length

end GridKeeper.Text

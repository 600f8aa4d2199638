import GridKeeper.Settings.Value
import GridKeeper.Text.Blank
import GridKeeper.Text.Cut
import GridKeeper.Text.Numeral

/-!
# Places of settings

The place of a setting is written as a path: names with dots between them, and numbers in brackets
for places in an array. A negative number counts from the end of the array. A text that is no path
is the name of an entry as it stands. Case does not count. What is in the way of a path gives way to
a table, or to an array, and an array is filled up with nothing to reach a place beyond its end.
-/
namespace GridKeeper.Settings

inductive Step where
  | name (s : String)
  | index (i : Int)
deriving Repr, DecidableEq

/-- Characters of a name in a path. A blank is one. -/
def isNameChar (c : Char) : Bool := c.isAlphanum || c = '_' || c = '-' || c = ' '

/-- Takes a name from the front of a text. -/
def nameStep? (cs : List Char) : Option (Step × List Char) :=
  match cs.takeWhile isNameChar with
  | [] => none
  | name => some (.name (String.ofList name), cs.dropWhile isNameChar)

/-- Blanks and tabs, which may surround the number in brackets. -/
def isGap (c : Char) : Bool := c = ' ' || c = '\t'

/-- Takes a number and its closing bracket from the front of a text. -/
def indexStep? (cs : List Char) : Option (Step × List Char) :=
  (Text.cutFirst? [']'] cs).bind fun (number, rest) =>
    let number := Text.dropEndWhile isGap (number.dropWhile isGap)
    if number.head? = some '+' then none
    else (Text.readSigned? Text.half64 number).map fun i => (.index i, rest)

def stepsBehind? (cs : List Char) : Option (List Step) :=
  match cs with
  | [] => some []
  | '.' :: rest =>
    match nameStep? rest with
    | some (s, rest') =>
      if rest'.length ≤ rest.length then (stepsBehind? rest').map (s :: ·) else none
    | none => none
  | '[' :: rest =>
    match indexStep? rest with
    | some (s, rest') =>
      if rest'.length ≤ rest.length then (stepsBehind? rest').map (s :: ·) else none
    | none => none
  | _ => none
termination_by cs.length

/-- The path that a text is: a name and further steps. A text that is no path is one name. -/
def pathOf (text : String) : String × List Step :=
  match nameStep? text.toList with
  | some (.name first, rest) =>
    match stepsBehind? rest with
    | some steps => (first, steps)
    | none => (text, [])
  | _ => (text, [])

namespace Value

/-- The position that an index means in an array of the given length. -/
def position (i : Int) (length : Nat) : Nat := if i < 0 then length - i.natAbs else i.toNat

/-- Fills an array up so that it has the given position. -/
def filled (items : List Value) (p : Nat) : List Value :=
  items ++ List.replicate (p + 1 - items.length) nothing

/-- Sets the place at the end of a path: the last step lays the value over what is there. -/
def setSteps (target : Value) (first : Step) (rest : List Step) (v : Value) : Value :=
  match first, rest with
  | .name s, [] => lay target s v
  | .index i, [] =>
    let items := target.itemsOf
    let p := position i items.length
    target.withItems ((filled items p).set p v)
  | .name s, next :: rest =>
    let s := Text.lowercase s
    target.put s (setSteps ((target.get? s).getD nothing) next rest v)
  | .index i, next :: rest =>
    let items := target.itemsOf
    let p := position i items.length
    let items := filled items p
    target.withItems (items.set p (setSteps (items.getD p nothing) next rest v))

def set (target : Value) (place : String) (v : Value) : Value :=
  let (first, rest) := pathOf (Text.lowercase place)
  setSteps target (.name first) rest v

end Value
end GridKeeper.Settings

import GridKeeper.Text.CombiningClass
import GridKeeper.Text.Composition

/-!
# The composed form of a text

A letter with marks can be written in several ways: as one character, as a letter and marks, and
with marks on different places in any order. The composed form is the one in which every letter
has taken in the marks that it can. It is reached by taking all characters apart, putting the marks
of each letter into the order of their classes, and composing from left to right.
-/
namespace GridKeeper.Text

/-! ## Apart -/

/-- The letter and marks of a character, after at most `steps` steps. -/
def takeApart : Nat → Char → List Char
  | 0, c => [c]
  | steps + 1, c =>
    match parts? c with
    | some (first, second) => takeApart steps first ++ [second]
    | none => [c]

/-- A text of letters and marks only; no letter takes in more than three marks. -/
def decomposed (cs : List Char) : List Char := cs.flatMap (takeApart 3)

/-! ## In order -/

/-- Puts a mark behind all marks of its class or a lower one. -/
def insertMark (c : Char) : List Char → List Char
  | [] => [c]
  | m :: ms =>
    if combiningClass m ≤ combiningClass c then m :: insertMark c ms else c :: m :: ms

/-- Puts the marks between two letters in order; `marks` are those since the last letter. -/
def orderMarks (marks : List Char) : List Char → List Char
  | [] => marks
  | c :: cs =>
    if combiningClass c = 0 then marks ++ c :: orderMarks [] cs
    else orderMarks (insertMark c marks) cs

/-! ## Together -/

/-- Composes what follows `letter` and the `marks` that it has not taken in. A mark reaches the
letter past marks of lower classes only. -/
def composeBehind (letter : Char) (marks : List Char) : List Char → List Char
  | [] => letter :: marks
  | c :: cs =>
    let reaches := marks.getLast?.all fun m => combiningClass m < combiningClass c
    match if reaches then compose? letter c else none with
    | some whole => composeBehind whole marks cs
    | none =>
      if combiningClass c = 0 then letter :: marks ++ composeBehind c [] cs
      else composeBehind letter (marks ++ [c]) cs

/-- Composes a text of letters and marks in order. -/
def composed : List Char → List Char
  | [] => []
  | c :: cs => if combiningClass c = 0 then composeBehind c [] cs else c :: composed cs

/-- The composed form of a text. -/
def normalize (cs : List Char) : List Char := composed (orderMarks [] (decomposed cs))

end GridKeeper.Text

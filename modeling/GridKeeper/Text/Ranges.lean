/-!
# Sets of characters as sorted ranges

A property of characters is kept as a list of code point ranges in ascending order. Looking a
character up stops at the first range that begins behind it.
-/
namespace GridKeeper.Text

/-- Whether `n` lies in one of the ranges `(first, last)`, which are in ascending order. -/
def inRanges (n : Nat) : List (Nat × Nat) → Bool
  | [] => false
  | (lo, hi) :: rest => if n < lo then false else if n ≤ hi then true else inRanges n rest

end GridKeeper.Text

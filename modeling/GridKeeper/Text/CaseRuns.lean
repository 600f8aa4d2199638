import GridKeeper.Text.Ranges

/-!
# Case mapping by runs

Lower-case mappings of neighbouring letters mostly keep one distance, over every letter or over
every second one. A `CaseRun` states such a stretch once; a table of runs is in ascending order.
-/
namespace GridKeeper.Text

/-- The code points `first`, `first + step`, … up to `last`, each moved by `shift`. -/
structure CaseRun where
  first : Nat
  last : Nat
  step : Nat
  shift : Int

/-- The image of `n` under a table of runs in ascending order; a code point in no run has none. -/
def shifted? (n : Nat) : List CaseRun → Option Nat
  | [] => none
  | r :: rest =>
    if n < r.first then none
    else if n ≤ r.last && (n - r.first) % r.step == 0 then some (n + r.shift).toNat
    else shifted? n rest

end GridKeeper.Text

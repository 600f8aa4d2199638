/-!
# Double-precision numbers, exactly

A double is kept as what it means: not a number, an infinity, or a sign with a mantissa and a power
of two. Rounding works on whole numbers only, so every result is exact and can be computed by hand.
-/
namespace GridKeeper

/-- A double-precision number; a finite one is `± mantissa · 2 ^ exponent`. -/
inductive Double where
  | nan
  | infinite (negative : Bool)
  | finite (negative : Bool) (mantissa : Nat) (exponent : Int)
deriving Repr, DecidableEq

namespace Double

/-- Mantissas lie below `2 ^ 53`. -/
def precision : Nat := 53

def minExponent : Int := -1074

def maxExponent : Int := 971

/-- The whole number nearest to `num / den`; a tie goes to the even neighbour. -/
def roundEven (num den : Nat) : Nat :=
  let q := num / den
  let r := num % den
  if den < 2 * r ∨ (2 * r = den ∧ q % 2 = 1) then q + 1 else q

/-- The quotient `num / den` divided by `2 ^ e`, as a numerator and a denominator. -/
def scaled (num den : Nat) (e : Int) : Nat × Nat :=
  if 0 ≤ e then (num, den * Nat.pow 2 e.toNat) else (num * Nat.pow 2 (-e).toNat, den)

/-- The greatest exponent that leaves the mantissa of `num / den` its full precision, but never
one below the least exponent. -/
def exponentFor (num den : Nat) : Int :=
  let guess : Int := (num.log2 : Int) - den.log2 - (precision - 1 : Nat)
  let (n, d) := scaled num den guess
  max minExponent (if n / d < Nat.pow 2 (precision - 1) then guess - 1 else guess)

/-- The double nearest to `± num / den`; ties go to the even mantissa, and what lies beyond the
finite range is infinite. -/
def nearest (negative : Bool) (num den : Nat) : Double :=
  if num = 0 then finite negative 0 minExponent
  else
    let e := exponentFor num den
    let (n, d) := scaled num den e
    let m := roundEven n d
    let (m, e) := if m = Nat.pow 2 precision then (Nat.pow 2 (precision - 1), e + 1) else (m, e)
    if maxExponent < e then infinite negative else finite negative m e

/-- Whether the number differs from zero; what is not a number does. -/
def isNonzero : Double → Bool
  | finite _ m _ => m ≠ 0
  | _ => true

/-- The whole number nearest to `mantissa · 2 ^ exponent`; a tie goes up. -/
def roundHalfUp (mantissa : Nat) (exponent : Int) : Nat :=
  if 0 ≤ exponent then mantissa * Nat.pow 2 exponent.toNat
  else (2 * mantissa + Nat.pow 2 (-exponent).toNat) / (2 * Nat.pow 2 (-exponent).toNat)

/-- The nearest whole number from zero to `max`: what lies outside goes to the nearer end, and what
is not a number goes to zero. -/
def clampToNat (max : Nat) : Double → Nat
  | nan => 0
  | infinite negative => if negative then 0 else max
  | finite negative m e => if negative then 0 else min max (roundHalfUp m e)

end Double
end GridKeeper

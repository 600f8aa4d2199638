import GridKeeper.Double
import GridKeeper.Text.Case
import GridKeeper.Text.Numeral

/-!
# Doubles in decimal

Reading rounds the written number to the nearest double. Writing gives the fewest digits that read
back as the same double, the nearest of them to it, and never an exponent.
-/
namespace GridKeeper.Double

/-! ## Reading -/

/-- The double nearest to `± digits · 10 ^ scale`. Far outside the range of doubles the power of
ten need not be computed. -/
def ofDecimal (negative : Bool) (digits : Nat) (scale : Int) : Double :=
  let size : Int := (Nat.toDigits 10 digits).length + scale
  if digits = 0 ∨ size < -400 then finite negative 0 minExponent
  else if 400 < size then infinite negative
  else if 0 ≤ scale then nearest negative (digits * Nat.pow 10 scale.toNat) 1
  else nearest negative digits (Nat.pow 10 (-scale).toNat)

/-- The power of ten behind an exponent mark. -/
def readExponent? : List Char → Option Int
  | [] => some 0
  | c :: rest =>
    if c = 'e' ∨ c = 'E' then
      match rest with
      | '-' :: digits => (Text.readDigits? digits).map fun n => -(n : Int)
      | '+' :: digits => (Text.readDigits? digits).map fun n => (n : Int)
      | digits => (Text.readDigits? digits).map fun n => (n : Int)
    else none

/-- A number without its sign: digits, a fraction and an exponent, each optional but not both the
digits before and behind the point; or the words for infinity and for not a number. -/
def readMagnitude? (negative : Bool) (cs : List Char) : Option Double :=
  let word := Text.lowerAscii cs
  if word = "inf".toList ∨ word = "infinity".toList then some (infinite negative)
  else if word = "nan".toList then some nan
  else
    let whole := cs.takeWhile Char.isDigit
    let rest := cs.dropWhile Char.isDigit
    let (fraction, rest) := match rest with
      | '.' :: r => (r.takeWhile Char.isDigit, r.dropWhile Char.isDigit)
      | r => ([], r)
    (Text.readDigits? (whole ++ fraction)).bind fun digits =>
      (readExponent? rest).map fun e => ofDecimal negative digits (e - fraction.length)

/-- The double that a text stands for, with an optional sign before it. -/
def read? : List Char → Option Double
  | '-' :: cs => readMagnitude? true cs
  | '+' :: cs => readMagnitude? false cs
  | cs => readMagnitude? false cs

/-! ## Writing -/

/-- The numbers that round to `mantissa · 2 ^ exponent` lie between two bounds; they are given with
the number itself over one denominator, as `(lower, value, upper, denominator)`. Below a power of
two the lower neighbour is nearer by half. -/
def interval (mantissa : Nat) (exponent : Int) : Nat × Nat × Nat × Nat :=
  let atPower := mantissa = Nat.pow 2 (precision - 1) ∧ minExponent < exponent
  let below := if atPower then 1 else 2
  if 0 ≤ exponent then
    let unit := Nat.pow 2 exponent.toNat
    ((4 * mantissa - below) * unit, 4 * mantissa * unit, (4 * mantissa + 2) * unit, 4)
  else (4 * mantissa - below, 4 * mantissa, 4 * mantissa + 2, 4 * Nat.pow 2 (-exponent).toNat)

/-- The multiple of `10 ^ p` nearest to the number among the two beside it, if one of them reads
back as the number; a tie goes up. -/
def onGrid? (mantissa : Nat) (exponent : Int) (p : Int) : Option Nat :=
  let (lower, value, upper, den) := interval mantissa exponent
  let (lower, value, upper, den) :=
    if 0 ≤ p then (lower, value, upper, den * Nat.pow 10 p.toNat)
    else
      let k := Nat.pow 10 (-p).toNat
      (lower * k, value * k, upper * k, den)
  let fits := fun c => if mantissa % 2 = 0 then lower ≤ c * den ∧ c * den ≤ upper
    else lower < c * den ∧ c * den < upper
  let down := value / den
  let up := if value % den = 0 then down else down + 1
  if fits down ∧ fits up then
    (if value - down * den < up * den - value then some down else some up)
  else if fits up then some up
  else if fits down then some down
  else none

/-- The coarsest grid of at most `steps` grids, from `10 ^ p` downwards, on which the number can be
written. -/
def coarsest (mantissa : Nat) (exponent : Int) : Nat → Int → Nat × Int
  | 0, p => (0, p)
  | steps + 1, p =>
    match onGrid? mantissa exponent p with
    | some c => (c, p)
    | none => coarsest mantissa exponent steps (p - 1)

/-- A power of ten above `mantissa · 2 ^ exponent`, less than a hundred times as large. -/
def decade (mantissa : Nat) (exponent : Int) : Int :=
  if 0 ≤ exponent then ((Nat.toDigits 10 (mantissa * Nat.pow 2 exponent.toNat)).length : Int)
  else
    let den := Nat.pow 2 (-exponent).toNat
    if den ≤ mantissa then ((Nat.toDigits 10 (mantissa / den)).length : Int)
    else 2 - ((Nat.toDigits 10 (den / mantissa)).length : Int)

/-- The fewest digits `c` and the power `p` such that `c · 10 ^ p` reads back as the number. -/
def shortest (mantissa : Nat) (exponent : Int) : Nat × Int :=
  coarsest mantissa exponent 21 (decade mantissa exponent)

/-- The number `digits · 10 ^ p` without an exponent. -/
def positional (digits : Nat) (p : Int) : String :=
  if 0 ≤ p then toString (digits * Nat.pow 10 p.toNat)
  else
    let unit := Nat.pow 10 (-p).toNat
    toString (digits / unit) ++ "." ++ Text.padded (-p).toNat (digits % unit)

/-- The number as a text: a whole number has no point. -/
def toText : Double → String
  | nan => "NaN"
  | infinite negative => if negative then "-inf" else "inf"
  | finite negative m e =>
    let sign := if negative then "-" else ""
    if m = 0 then sign ++ "0"
    else
      let (digits, p) := shortest m e
      sign ++ positional digits p

/-- The number as a text in which a finite number always has a point. -/
def toPointedText (x : Double) : String :=
  let text := x.toText
  match x with
  | finite .. => if text.toList.contains '.' then text else text ++ ".0"
  | _ => text

end GridKeeper.Double

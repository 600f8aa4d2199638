import GridKeeper.Text.Numeral

/-!
# Punycode

The letters of an international name are written in ASCII by listing, in ascending order, how far
it is from one insertion of a letter to the next. Distances are numbers to base 36 of variable
length, whose digit thresholds adapt to the distances seen.
-/
namespace GridKeeper.Url

/-- A digit to base 36: letters first, then the decimal digits. -/
def punyDigit (d : Nat) : Char :=
  if d < 26 then Char.ofNat ('a'.toNat + d) else Char.ofNat ('0'.toNat + d - 26)

/-- The value of a digit to base 36. -/
def punyValue? (c : Char) : Option Nat :=
  if 'a' ≤ c ∧ c ≤ 'z' then some (c.toNat - 'a'.toNat)
  else if 'A' ≤ c ∧ c ≤ 'Z' then some (c.toNat - 'A'.toNat)
  else if '0' ≤ c ∧ c ≤ '9' then some (c.toNat - '0'.toNat + 26)
  else none

/-- The threshold of the digit at place `k`; a digit below it is the last of its number. -/
def punyThreshold (k bias : Nat) : Nat :=
  if k ≤ bias + 1 then 1 else if bias + 26 ≤ k then 26 else k - bias

theorem punyThreshold_bounds (k bias : Nat) :
    1 ≤ punyThreshold k bias ∧ punyThreshold k bias ≤ 26 := by
  unfold punyThreshold
  split
  · omega
  · split <;> omega

/-- How many times a distance is reduced before it is small, together with what is left. -/
def punyReduce (delta k : Nat) : Nat × Nat :=
  if 455 < delta then punyReduce (delta / 35) (k + 36) else (delta, k)
termination_by delta

/-- The bias that follows a distance, when `count` letters have been placed. -/
def punyAdapt (delta count : Nat) (first : Bool) : Nat :=
  let delta := if first then delta / 700 else delta / 2
  let (rest, k) := punyReduce (delta + delta / count) 0
  k + 36 * rest / (rest + 38)

/-! ## Writing -/

/-- The digits of a distance, from place `k` on. -/
def punyDigits (bias k q : Nat) : List Char :=
  let t := punyThreshold k bias
  if q < t then [punyDigit q]
  else punyDigit (t + (q - t) % (36 - t)) :: punyDigits bias (k + 36) ((q - t) / (36 - t))
termination_by q
decreasing_by
  have bounds := punyThreshold_bounds k bias
  have := Nat.div_le_self (q - punyThreshold k bias) (36 - punyThreshold k bias)
  omega

/-- How far writing has come: the digits so far, the distance since the last insertion, the bias,
and the number of letters placed. -/
structure PunyWriter where
  digits : List Char
  delta : Nat
  bias : Nat
  placed : Nat

/-- Passes one letter of the name while the letters `m` are inserted; `basic` letters are ASCII. -/
def PunyWriter.pass (basic m : Nat) (w : PunyWriter) (c : Char) : PunyWriter :=
  if c.toNat < m then { w with delta := w.delta + 1 }
  else if c.toNat = m then
    { digits := w.digits ++ punyDigits w.bias 36 w.delta
      delta := 0
      bias := punyAdapt w.delta (w.placed + 1) (w.placed == basic)
      placed := w.placed + 1 }
  else w

/-- Inserts the letters `ms`, given in ascending order, where `n` is the least letter that may
come next. -/
def punyInsert (name : List Char) (basic : Nat) : List Nat → Nat → PunyWriter → PunyWriter
  | [], _, w => w
  | m :: ms, n, w =>
    let w := { w with delta := w.delta + (m - n) * (w.placed + 1) }
    let w := name.foldl (PunyWriter.pass basic m) w
    punyInsert name basic ms (m + 1) { w with delta := w.delta + 1 }

/-- Puts a number into an ascending list without repetitions. -/
def insertAscending (x : Nat) : List Nat → List Nat
  | [] => [x]
  | y :: ys =>
    if x < y then x :: y :: ys else if x = y then y :: ys else y :: insertAscending x ys

/-- A name in Punycode: its ASCII letters, a hyphen behind them if there are any, and the digits
of the other letters. -/
def punyEncode (name : List Char) : List Char :=
  let basic := name.filter fun c => c.toNat < 0x80
  let insert := fun (c : Char) ms => if c.toNat < 0x80 then ms else insertAscending c.toNat ms
  let others := name.foldr insert []
  let w := punyInsert name basic.length others 0x80 ⟨[], 0, 72, basic.length⟩
  basic ++ (if basic.isEmpty then [] else ['-']) ++ w.digits

/-! ## Reading -/

/-- How far reading has come: the name so far, the next letter, the place at which the last
distance ended, the bias, and the distance being read with the weight and place of its next
digit. -/
structure PunyReader where
  name : List Char
  letter : Nat
  start : Nat
  bias : Nat
  index : Nat
  weight : Nat
  place : Nat

/-- Reads one digit. The number of a letter must be that of a character, and distances and weights
have 32 bits. -/
def PunyReader.digit? (r : PunyReader) (d : Nat) : Option PunyReader :=
  let index := r.index + d * r.weight
  let t := punyThreshold r.place r.bias
  if Text.max32 < index then none
  else if d < t then
    let count := r.name.length + 1
    let letter := r.letter + index / count
    let spot := index % count
    if letter.isValidChar then
      some { name := r.name.take spot ++ Char.ofNat letter :: r.name.drop spot
             letter := letter
             start := spot + 1
             bias := punyAdapt (index - r.start) count (r.start == 0)
             index := spot + 1
             weight := 1
             place := 36 }
    else none
  else
    let weight := r.weight * (36 - t)
    if Text.max32 < weight then none
    else some { r with index := index, weight := weight, place := r.place + 36 }

/-- Reads the digits of all distances; the last one has to be complete. -/
def punyRead : PunyReader → List Char → Option (List Char)
  | r, [] => if r.place = 36 then some r.name else none
  | r, c :: cs => (punyValue? c).bind fun d => (r.digit? d).bind fun r => punyRead r cs

/-- The name that a Punycode text stands for. -/
def punyDecode? (text : List Char) : Option (List Char) :=
  if text.all fun c => c.toNat < 0x80 then
    let (basic, digits) :=
      let digits := (text.reverse.takeWhile (· ≠ '-')).reverse
      let basic := text.take (text.length - digits.length - 1)
      if basic.isEmpty then ([], text) else (basic, digits)
    punyRead ⟨basic, 0x80, 0, 72, 0, 1, 36⟩ digits
  else none

end GridKeeper.Url

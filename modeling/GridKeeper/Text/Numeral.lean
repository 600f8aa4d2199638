/-!
# Decimal numerals

Reading and writing whole numbers in decimal. A reader takes a range: the number must lie in it,
however many leading zeros are written.
-/
namespace GridKeeper.Text

/-- The value of a nonempty run of ASCII digits. -/
def readDigits? (cs : List Char) : Option Nat :=
  if cs ≠ [] ∧ cs.all Char.isDigit then
    some (cs.foldl (fun n c => 10 * n + (c.toNat - '0'.toNat)) 0)
  else none

/-- A number up to `max`: digits, with an optional plus sign before them. -/
def readUnsigned? (max : Nat) (cs : List Char) : Option Nat :=
  let digits := match cs with
    | '+' :: rest => rest
    | _ => cs
  (readDigits? digits).filter (· ≤ max)

/-- A number from `-half` to `half - 1`: digits, with an optional sign before them. -/
def readSigned? (half : Nat) (cs : List Char) : Option Int :=
  let value : Option Int := match cs with
    | '-' :: rest => (readDigits? rest).map fun n => -(n : Int)
    | '+' :: rest => (readDigits? rest).map fun n => (n : Int)
    | _ => (readDigits? cs).map fun n => (n : Int)
  value.filter fun i => -(half : Int) ≤ i ∧ i < half

/-- The largest 16-bit number without a sign. -/
def max16 : Nat := 65535

/-- The largest 32-bit number without a sign. -/
def max32 : Nat := 4294967295

/-- The largest 64-bit number without a sign. -/
def max64 : Nat := 18446744073709551615

/-- One more than the largest 32-bit number with a sign. -/
def half32 : Nat := 2147483648

/-- One more than the largest 64-bit number with a sign. -/
def half64 : Nat := 9223372036854775808

/-- The value of a hexadecimal digit. -/
def hexDigit? (c : Char) : Option Nat :=
  if '0' ≤ c ∧ c ≤ '9' then some (c.toNat - '0'.toNat)
  else if 'a' ≤ c ∧ c ≤ 'f' then some (c.toNat - 'a'.toNat + 10)
  else if 'A' ≤ c ∧ c ≤ 'F' then some (c.toNat - 'A'.toNat + 10)
  else none

/-- The value of a run of digits to a base of at most sixteen, `none` at the first character that
is no such digit. -/
def readBase? (base : Nat) (cs : List Char) : Option Nat :=
  cs.foldl (fun acc c => acc.bind fun n =>
    (hexDigit? c).bind fun d => if d < base then some (base * n + d) else none) (some 0)

/-- A number in hexadecimal, lower case, without leading zeros. -/
def hex (n : Nat) : List Char := Nat.toDigits 16 n

/-- A number in decimal, padded with zeros on the left to `width` digits. -/
def padded (width n : Nat) : String :=
  let digits := Nat.toDigits 10 n
  String.ofList (List.replicate (width - digits.length) '0' ++ digits)

end GridKeeper.Text

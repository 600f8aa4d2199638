import GridKeeper.Text.Cut
import GridKeeper.Text.Numeral

/-!
# IPv4 hosts

A host whose last part is a number is an IPv4 address. It has one to four numbers, each in decimal,
in octal behind a leading zero or in hexadecimal behind `0x`; the last one fills all the octets
that are left.
-/
namespace GridKeeper.Url

/-- One number of an IPv4 address. A bare `0x` is zero. -/
def ipv4Number? (part : List Char) : Option Nat :=
  match part with
  | [] => none
  | '0' :: 'x' :: digits => Text.readBase? 16 digits
  | '0' :: 'X' :: digits => Text.readBase? 16 digits
  | '0' :: d :: digits => Text.readBase? 8 (d :: digits)
  | digits => Text.readBase? 10 digits

/-- The parts of a host between dots; one dot at the end is not counted. -/
def hostParts (host : List Char) : List (List Char) :=
  let parts := Text.pieces '.' host
  if 1 < parts.length ∧ parts.getLast? = some [] then parts.dropLast else parts

/-- Whether the last part is all digits or some other spelling of a number. -/
def endsInNumber (host : List Char) : Bool :=
  match (hostParts host).getLast? with
  | none => false
  | some part => (!part.isEmpty && part.all Char.isDigit) || (ipv4Number? part).isSome

/-- The address that the numbers write: all but the last are octets, and the last fills the octets
that they leave. -/
def ipv4Value? (numbers : List Nat) : Option Nat :=
  match numbers.getLast? with
  | none => none
  | some last =>
    let octets := numbers.dropLast
    if octets.length < 4 ∧ octets.all (· ≤ 255) ∧ last < Nat.pow 256 (4 - octets.length) then
      some (octets.foldl (fun a o => 256 * a + o) 0 * Nat.pow 256 (4 - octets.length) + last)
    else none

/-- The address written by a host that ends in a number. -/
def ipv4? (host : List Char) : Option Nat :=
  ((hostParts host).mapM ipv4Number?).bind ipv4Value?

def ipv4Text (address : Nat) : String :=
  Text.joined "." ([16777216, 65536, 256, 1].map fun unit => toString (address / unit % 256))

end GridKeeper.Url

import GridKeeper.Text.Cut
import GridKeeper.Text.Numeral

/-!
# IPv6 hosts

An IPv6 address is eight groups of up to four hexadecimal digits between colons. One `::` stands
for at least one group of zeros, and the last two groups may be written as an IPv4 address. In its
canonical form the longest run of two or more zero groups is the `::`, the first of equally long
ones.
-/
namespace GridKeeper.Url

/-- A group of one to four hexadecimal digits. -/
def ipv6Group? (part : List Char) : Option Nat :=
  if 1 ≤ part.length ∧ part.length ≤ 4 then Text.readBase? 16 part else none

/-- An octet in decimal without leading zeros. -/
def strictOctet? (part : List Char) : Option Nat :=
  if part.head? = some '0' ∧ 1 < part.length then none
  else (Text.readDigits? part).filter (· ≤ 255)

/-- The two groups that an IPv4 address in full decimal form stands for. -/
def ipv4Groups? (part : List Char) : Option (List Nat) :=
  match (Text.pieces '.' part).mapM strictOctet? with
  | some [a, b, c, d] => some [256 * a + b, 256 * c + d]
  | _ => none

/-- The groups on one side of a `::`, none for an empty side. The last part may be an IPv4 address
where `tail` allows it. -/
def ipv6Side? (tail : Bool) (side : List Char) : Option (List Nat) :=
  if side.isEmpty then some []
  else
    let parts := Text.pieces ':' side
    match parts.getLast? with
    | none => none
    | some last =>
      let ending := if tail && last.contains '.' then ipv4Groups? last
        else (ipv6Group? last).map ([·])
      (parts.dropLast.mapM ipv6Group?).bind fun front => ending.map (front ++ ·)

/-- The eight groups of an address. -/
def ipv6? (text : List Char) : Option (List Nat) :=
  match Text.cutFirst? [':', ':'] text with
  | none => (ipv6Side? true text).filter fun groups => groups.length = 8
  | some (left, right) =>
    (ipv6Side? false left).bind fun front => (ipv6Side? true right).bind fun back =>
      let written := front.length + back.length
      if written ≤ 7 then some (front ++ List.replicate (8 - written) 0 ++ back) else none

/-- The number of zero groups at the front. -/
def zeroRun (groups : List Nat) : Nat := (groups.takeWhile (· == 0)).length

/-- The start and the length of the longest run of zero groups, the first of equally long ones. -/
def longestZeros : Nat → List Nat → Nat × Nat
  | start, [] => (start, 0)
  | start, g :: rest =>
    let here := zeroRun (g :: rest)
    let later := longestZeros (start + 1) rest
    if later.2 ≤ here then (start, here) else later

/-- Groups in hexadecimal between colons. -/
def groupsText (groups : List Nat) : String :=
  Text.joined ":" (groups.map fun g => String.ofList (Text.hex g))

def ipv6Text (groups : List Nat) : String :=
  let (start, length) := longestZeros 0 groups
  if length < 2 then groupsText groups
  else groupsText (groups.take start) ++ "::" ++ groupsText (groups.drop (start + length))

end GridKeeper.Url

import GridKeeper.Text.Numeral

/-!
# Percent escapes

An octet may be written as a percent sign and two hexadecimal digits. Reading leaves a percent sign
alone that no two digits follow; writing escapes the octets that a text must not hold.
-/
namespace GridKeeper.Url

/-- The octets with every escape replaced by the octet it stands for. -/
def unescape : List UInt8 → List UInt8
  | [] => []
  | 0x25 :: h :: l :: rest =>
    match Text.hexDigit? (Char.ofNat h.toNat), Text.hexDigit? (Char.ofNat l.toNat) with
    | some x, some y => UInt8.ofNat (16 * x + y) :: unescape rest
    | _, _ => 0x25 :: unescape (h :: l :: rest)
  | b :: rest => b :: unescape rest

def upperHexDigit (n : Nat) : Char :=
  if n < 10 then Char.ofNat ('0'.toNat + n) else Char.ofNat ('A'.toNat + n - 10)

def escapeOctet (b : UInt8) : List Char :=
  ['%', upperHexDigit (b.toNat / 16), upperHexDigit (b.toNat % 16)]

/-- Escapes control characters and everything outside ASCII. -/
def escapeControls (cs : List Char) : List Char :=
  cs.flatMap fun c =>
    if 0x20 ≤ c.toNat ∧ c.toNat < 0x7f then [c] else (String.utf8EncodeChar c).flatMap escapeOctet

end GridKeeper.Url

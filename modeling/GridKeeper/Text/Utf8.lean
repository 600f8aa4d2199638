/-!
# UTF-8

Text on the wire and in files is UTF-8. Decoding reports where the first fault lies: how many
octets before it are in order, and how many octets the faulty sequence has, or that the input ends
inside a sequence that was in order so far.
-/
namespace GridKeeper.Text

/-- The first fault of an octet string that is not UTF-8. -/
structure Utf8Fault where
  /-- The number of octets before the fault; they are in order. -/
  validUpTo : Nat
  /-- The number of octets of the faulty sequence, `none` if the input ends inside a sequence. -/
  length : Option Nat
deriving Repr, DecidableEq

def Utf8Fault.message (f : Utf8Fault) : String :=
  match f.length with
  | some n => s!"invalid utf-8 sequence of {n} bytes from index {f.validUpTo}"
  | none => s!"incomplete utf-8 byte sequence from index {f.validUpTo}"

/-- The octets of a text. -/
def encodeUtf8 (cs : List Char) : List UInt8 := cs.flatMap String.utf8EncodeChar

/-- What may follow the first octet of a longer sequence: how many octets are to come, the range
of the next of them (all later ones are from 0x80 to 0xbf), and the bits the first one gives. -/
def leadOctet? (b : UInt8) : Option (Nat × UInt8 × UInt8 × Nat) :=
  if b < 0xc2 then none
  else if b < 0xe0 then some (1, 0x80, 0xbf, b.toNat - 0xc0)
  else if b = 0xe0 then some (2, 0xa0, 0xbf, 0)
  else if b = 0xed then some (2, 0x80, 0x9f, 0xd)
  else if b < 0xf0 then some (2, 0x80, 0xbf, b.toNat - 0xe0)
  else if b = 0xf0 then some (3, 0x90, 0xbf, 0)
  else if b < 0xf4 then some (3, 0x80, 0xbf, b.toNat - 0xf0)
  else if b = 0xf4 then some (3, 0x80, 0x8f, 4)
  else none

/-- Where decoding stands: between characters, or `missing` octets before the end of one. -/
inductive Utf8State where
  | between
  | inside (seen missing : Nat) (lo hi : UInt8) (bits : Nat)
deriving Repr, DecidableEq

/-- Decodes octets of which `done` have been read in order, in the given state. -/
def decodeUtf8From (done : Nat) : Utf8State → List UInt8 → Except Utf8Fault (List Char)
  | .between, [] => .ok []
  | .inside .., [] => .error ⟨done, none⟩
  | .between, b :: rest =>
    if b < 0x80 then (decodeUtf8From (done + 1) .between rest).map (Char.ofNat b.toNat :: ·)
    else match leadOctet? b with
      | some (missing, lo, hi, bits) => decodeUtf8From done (.inside 1 missing lo hi bits) rest
      | none => .error ⟨done, some 1⟩
  | .inside seen missing lo hi bits, b :: rest =>
    if b < lo ∨ hi < b then .error ⟨done, some seen⟩
    else
      let bits := bits * 64 + (b.toNat - 0x80)
      if missing ≤ 1 then
        (decodeUtf8From (done + seen + 1) .between rest).map (Char.ofNat bits :: ·)
      else decodeUtf8From done (.inside (seen + 1) (missing - 1) 0x80 0xbf bits) rest

/-- The text of an octet string. -/
def decodeUtf8 (bytes : List UInt8) : Except Utf8Fault (List Char) :=
  decodeUtf8From 0 .between bytes

end GridKeeper.Text

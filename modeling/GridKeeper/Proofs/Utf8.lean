import GridKeeper.Text.Utf8
import Mathlib.Algebra.Group.Nat.Defs
import Mathlib.Data.List.Basic

/-!
# UTF-8 there and back

Decoding takes the octets of a text back to the text, and takes nothing for a text but the octets of
one. The proof is about what may come in the middle of a character: where the first octets of it
have given `bits`, and `m` octets are missing, exactly the last octets of the characters that begin
with those bits may follow (`decode_inside`, `ok_of_inside`).

**Results.**
* `lead_iff`: which first octet stands before which last ones.
* `decodeUtf8_eq_ok_iff`: octets decode to a text if and only if they are the octets of it.
* `prefix_of_decode`: the first octets of a text, if they are a text, are the beginning of it.
* `encodeUtf8_lt`: texts are in the order of their octets.
-/
namespace GridKeeper.Text

variable {cs : List Char} {bytes rest : List UInt8} {b lo hi : UInt8} {c : Char}
  {done seen m v bits : Nat}

/-! ## The last octets of a character -/

/-- The octet for the last six bits of a number. -/
def tailOctet (v : Nat) : UInt8 := UInt8.ofNat (v % 64 + 0x80)

/-- The octets for the last `m` groups of six bits of a number. -/
def tailOctets : Nat → Nat → List UInt8
  | 0, _ => []
  | m + 1, v => tailOctet (v / 64 ^ m) :: tailOctets m v

@[simp] theorem toNat_tailOctet (v : Nat) : (tailOctet v).toNat = v % 64 + 0x80 := by
  rw [tailOctet, UInt8.toNat_ofNat']
  omega

theorem eq_tailOctet (h : 0x80 ≤ b.toNat) (h' : b.toNat ≤ 0xbf) (hv : v % 64 = b.toNat - 0x80) :
    b = tailOctet v := by
  refine UInt8.toNat_inj.1 ?_
  rw [toNat_tailOctet]
  omega

theorem length_tailOctets (m v : Nat) : (tailOctets m v).length = m := by
  induction m with
  | zero => rfl
  | succ m ih => rw [tailOctets, List.length_cons, ih]

theorem le_of_mem_tailOctets (h : b ∈ tailOctets m v) : 0x80 ≤ b.toNat := by
  induction m with
  | zero => cases h
  | succ m ih =>
    rcases List.mem_cons.1 h with rfl | h
    · rw [toNat_tailOctet]
      omega
    · exact ih h

/-! ## Inside a character -/

/-- The first of the last `m` octets of the number `v` is in the range that is asked of it. -/
def Follows (lo hi : UInt8) (m v : Nat) : Prop :=
  lo.toNat ≤ v / 64 ^ (m - 1) % 64 + 0x80 ∧ v / 64 ^ (m - 1) % 64 + 0x80 ≤ hi.toNat

theorem not_outside_iff : ¬ (b < lo ∨ hi < b) ↔ lo.toNat ≤ b.toNat ∧ b.toNat ≤ hi.toNat := by
  simp only [UInt8.lt_iff_toNat_lt]
  omega

/-- The last octets of a character are read after the first ones. -/
theorem decode_inside (hm : 1 ≤ m) (hf : Follows lo hi m v) :
    decodeUtf8From done (.inside seen m lo hi (v / 64 ^ m)) (tailOctets m v ++ rest) =
      (decodeUtf8From (done + seen + m) .between rest).map (Char.ofNat v :: ·) := by
  induction m generalizing seen lo hi with
  | zero => omega
  | succ m ih =>
    have hin : ¬ (tailOctet (v / 64 ^ m) < lo ∨ hi < tailOctet (v / 64 ^ m)) := by
      rw [not_outside_iff, toNat_tailOctet]
      exact hf
    have hbits : v / 64 ^ (m + 1) * 64 + (v / 64 ^ m % 64 + 0x80 - 0x80) = v / 64 ^ m := by
      rw [Nat.pow_succ, ← Nat.div_div_eq_div_mul]
      omega
    simp only [tailOctets, List.cons_append, decodeUtf8From, if_neg hin, toNat_tailOctet, hbits]
    cases m with
    | zero => simp [tailOctets]
    | succ m =>
      have hnext : Follows 0x80 0xbf (m + 1) v := by
        refine ⟨?_, ?_⟩
        · exact Nat.le_add_left _ _
        · change _ ≤ 0xbf
          omega
      rw [if_neg (by omega)]
      simp only [Nat.add_sub_cancel]
      rw [ih (by omega) hnext, show done + (seen + 1) + (m + 1) = done + seen + (m + 1 + 1) by omega]

/-- What is read after the first octets of a character are the last octets of one. -/
theorem ok_of_inside (hm : 1 ≤ m) (hlo : 0x80 ≤ lo.toNat) (hhi : hi.toNat ≤ 0xbf)
    (h : decodeUtf8From done (.inside seen m lo hi bits) bytes = .ok cs) :
    ∃ v rest cs', v / 64 ^ m = bits ∧ Follows lo hi m v ∧ bytes = tailOctets m v ++ rest ∧
      cs = Char.ofNat v :: cs' ∧ decodeUtf8From (done + seen + m) .between rest = .ok cs' := by
  induction m generalizing seen lo hi bits bytes with
  | zero => omega
  | succ m ih =>
    cases bytes with
    | nil => cases h
    | cons b rest =>
      simp only [decodeUtf8From] at h
      split at h
      · cases h
      · rename_i hin
        obtain ⟨hb, hb'⟩ := not_outside_iff.1 hin
        split at h
        · -- the last octet
          have hm : m = 0 := by omega
          subst hm
          cases hd : decodeUtf8From (done + seen + 1) .between rest with
          | error f => rw [hd] at h; cases h
          | ok cs' =>
            rw [hd] at h
            cases h
            refine ⟨bits * 64 + (b.toNat - 0x80), rest, cs', by omega, ⟨?_, ?_⟩, ?_, rfl, hd⟩
            · simp only [Nat.sub_self, Nat.pow_zero, Nat.div_one]; omega
            · simp only [Nat.sub_self, Nat.pow_zero, Nat.div_one]; omega
            · have : b = tailOctet ((bits * 64 + (b.toNat - 0x80)) / 64 ^ 0) :=
                eq_tailOctet (by omega) (by omega) (by omega)
              rw [tailOctets, ← this]
              rfl
        · obtain ⟨v, rest', cs', hv, hf, rfl, rfl, hd⟩ := ih (by omega) (by decide) (by decide) h
          have hlast : v / 64 ^ m % 64 = b.toNat - 0x80 := by omega
          refine ⟨v, rest', cs', ?_, ⟨?_, ?_⟩, ?_, rfl, ?_⟩
          · rw [Nat.pow_succ, ← Nat.div_div_eq_div_mul]
            omega
          · rw [Nat.add_sub_cancel, hlast]; omega
          · rw [Nat.add_sub_cancel, hlast]; omega
          · rw [tailOctets, ← eq_tailOctet (by omega) (by omega) hlast]
            rfl
          · rwa [show done + seen + (m + 1) = done + (seen + 1) + m by omega]

/-! ## First octets -/

/-- The first octet of a character of more than one: how many octets follow, the range of the next of
them, and the bits of the character that the first one gives. -/
inductive Lead (b : UInt8) : Nat → UInt8 → UInt8 → Nat → Prop
  | two (h : 0xc2 ≤ b.toNat) (h' : b.toNat < 0xe0) : Lead b 1 0x80 0xbf (b.toNat - 0xc0)
  | lowThree (h : b.toNat = 0xe0) : Lead b 2 0xa0 0xbf 0
  | three (h : 0xe0 < b.toNat) (h' : b.toNat < 0xf0) (hne : b.toNat ≠ 0xed) :
    Lead b 2 0x80 0xbf (b.toNat - 0xe0)
  | beforeSurrogates (h : b.toNat = 0xed) : Lead b 2 0x80 0x9f 0xd
  | lowFour (h : b.toNat = 0xf0) : Lead b 3 0x90 0xbf 0
  | four (h : 0xf0 < b.toNat) (h' : b.toNat < 0xf4) : Lead b 3 0x80 0xbf (b.toNat - 0xf0)
  | highFour (h : b.toNat = 0xf4) : Lead b 3 0x80 0x8f 4

theorem lead_iff : leadOctet? b = some (m, lo, hi, bits) ↔ Lead b m lo hi bits := by
  have hlt : ∀ x : UInt8, b < x ↔ b.toNat < x.toNat := fun x => UInt8.lt_iff_toNat_lt
  have heq : ∀ x : UInt8, b = x ↔ b.toNat = x.toNat := fun x => UInt8.toNat_inj.symm
  constructor
  · intro h
    unfold leadOctet? at h
    simp only [hlt, heq, UInt8.reduceToNat] at h
    repeat' split at h
    all_goals cases h
    · exact .two (by omega) (by omega)
    · exact .lowThree (by omega)
    · exact .beforeSurrogates (by omega)
    · exact .three (by omega) (by omega) (by omega)
    · exact .lowFour (by omega)
    · exact .four (by omega) (by omega)
    · exact .highFour (by omega)
  · intro h
    unfold leadOctet?
    simp only [hlt, heq, UInt8.reduceToNat]
    cases h <;> grind

/-! ## The octets of a character -/

/-- What the first octet of a character adds to its bits, when `m` octets follow. -/
def leadMark : Nat → Nat
  | 1 => 0xc0
  | 2 => 0xe0
  | _ => 0xf0

/-- The numbers of the characters that have `m` octets after the first one. -/
def Sized (m v : Nat) : Prop :=
  (m = 1 ∧ 0x80 ≤ v ∧ v < 0x800) ∨
    (m = 2 ∧ 0x800 ≤ v ∧ v < 0x10000 ∧ ¬ (0xd800 ≤ v ∧ v ≤ 0xdfff)) ∨
    (m = 3 ∧ 0x10000 ≤ v ∧ v < 0x110000)

theorem sized_of_high (hc : 0x80 ≤ c.toNat) : ∃ m, Sized m c.toNat := by
  have hvalid : c.toNat < 0xd800 ∨ 0xdfff < c.toNat ∧ c.toNat < 0x110000 := c.valid
  by_cases h2 : c.toNat < 0x800
  · exact ⟨1, .inl ⟨rfl, hc, h2⟩⟩
  by_cases h3 : c.toNat < 0x10000
  · exact ⟨2, .inr (.inl ⟨rfl, by omega, h3, by omega⟩)⟩
  · exact ⟨3, .inr (.inr ⟨rfl, by omega, by omega⟩)⟩

theorem toNat_ofNat_of_sized (h : Sized m v) : (Char.ofNat v).toNat = v := by
  have hv : v < 0xd800 ∨ 0xdfff < v ∧ v < 0x110000 := by
    unfold Sized at h
    omega
  rw [Char.ofNat, dif_pos hv]
  rfl

theorem encodeChar_of_sized (h : Sized m c.toNat) :
    String.utf8EncodeChar c =
      UInt8.ofNat (c.toNat / 64 ^ m + leadMark m) :: tailOctets m c.toNat := by
  have hunfold : String.utf8EncodeChar c =
      if c.toNat ≤ 0x7f then [UInt8.ofNat c.toNat]
      else if c.toNat ≤ 0x7ff then
        [UInt8.ofNat (c.toNat / 64 % 32 + 0xc0), tailOctet c.toNat]
      else if c.toNat ≤ 0xffff then
        [UInt8.ofNat (c.toNat / 4096 % 16 + 0xe0), tailOctet (c.toNat / 64), tailOctet c.toNat]
      else [UInt8.ofNat (c.toNat / 262144 % 8 + 0xf0), tailOctet (c.toNat / 4096),
        tailOctet (c.toNat / 64), tailOctet c.toNat] := rfl
  rw [hunfold]
  rcases h with ⟨rfl, h, h'⟩ | ⟨rfl, h, h', -⟩ | ⟨rfl, h, h'⟩
  · rw [if_neg (by omega), if_pos (by omega), Nat.mod_eq_of_lt (by omega)]
    simp [tailOctets, leadMark]
  · rw [if_neg (by omega), if_neg (by omega), if_pos (by omega), Nat.mod_eq_of_lt (by omega)]
    simp [tailOctets, leadMark]
  · rw [if_neg (by omega), if_neg (by omega), if_neg (by omega), Nat.mod_eq_of_lt (by omega)]
    simp [tailOctets, leadMark]

/-- A first octet, and the last octets that may follow it, are those of a character with its bits. -/
theorem sized_of_lead (hl : Lead b m lo hi (v / 64 ^ m)) (hf : Follows lo hi m v) :
    Sized m v ∧ b = UInt8.ofNat (v / 64 ^ m + leadMark m) := by
  obtain ⟨hlo, hhi⟩ := hf
  have hb : ∀ n, b.toNat = n → b = UInt8.ofNat n := fun n hn => by rw [← hn, UInt8.ofNat_toNat]
  generalize hbits : v / 64 ^ m = bits at hl
  cases hl with
  | two h h' => exact ⟨.inl ⟨rfl, by omega, by omega⟩, hb _ (by simp only [leadMark]; omega)⟩
  | lowThree h =>
    simp only [UInt8.reduceToNat] at hlo hhi
    exact ⟨.inr (.inl ⟨rfl, by omega, by omega, by omega⟩), hb _ (by simp only [leadMark]; omega)⟩
  | three h h' hne =>
    exact ⟨.inr (.inl ⟨rfl, by omega, by omega, by omega⟩), hb _ (by simp only [leadMark]; omega)⟩
  | beforeSurrogates h =>
    simp only [UInt8.reduceToNat] at hlo hhi
    exact ⟨.inr (.inl ⟨rfl, by omega, by omega, by omega⟩), hb _ (by simp only [leadMark]; omega)⟩
  | lowFour h =>
    simp only [UInt8.reduceToNat] at hlo hhi
    exact ⟨.inr (.inr ⟨rfl, by omega, by omega⟩), hb _ (by simp only [leadMark]; omega)⟩
  | four h h' =>
    exact ⟨.inr (.inr ⟨rfl, by omega, by omega⟩), hb _ (by simp only [leadMark]; omega)⟩
  | highFour h =>
    simp only [UInt8.reduceToNat] at hlo hhi
    exact ⟨.inr (.inr ⟨rfl, by omega, by omega⟩), hb _ (by simp only [leadMark]; omega)⟩

theorem toNat_lead (h : Sized m v) :
    (UInt8.ofNat (v / 64 ^ m + leadMark m)).toNat = v / 64 ^ m + leadMark m := by
  rw [UInt8.toNat_ofNat']
  rcases h with ⟨rfl, h⟩ | ⟨rfl, h⟩ | ⟨rfl, h⟩ <;> simp only [leadMark] <;> omega

theorem lead_of_sized (h : Sized m v) :
    ∃ lo hi, Lead (UInt8.ofNat (v / 64 ^ m + leadMark m)) m lo hi (v / 64 ^ m) ∧
      Follows lo hi m v := by
  have hb := toNat_lead h
  generalize UInt8.ofNat (v / 64 ^ m + leadMark m) = b at hb ⊢
  have hbits : v / 64 ^ m = b.toNat - leadMark m := by rw [hb, Nat.add_sub_cancel]
  rcases h with ⟨rfl, h⟩ | ⟨rfl, h⟩ | ⟨rfl, h⟩ <;> simp only [leadMark] at hb hbits
  · rw [hbits]
    exact ⟨_, _, .two (by omega) (by omega), by simp only [UInt8.reduceToNat, Follows]; omega⟩
  · by_cases h0 : v / 64 ^ 2 = 0
    · rw [h0]
      exact ⟨_, _, .lowThree (by omega), by simp only [UInt8.reduceToNat, Follows]; omega⟩
    by_cases hd : v / 64 ^ 2 = 0xd
    · rw [hd]
      exact ⟨_, _, .beforeSurrogates (by omega), by simp only [UInt8.reduceToNat, Follows]; omega⟩
    · rw [hbits]
      exact ⟨_, _, .three (by omega) (by omega) (by omega),
        by simp only [UInt8.reduceToNat, Follows]; omega⟩
  · by_cases h0 : v / 64 ^ 3 = 0
    · rw [h0]
      exact ⟨_, _, .lowFour (by omega), by simp only [UInt8.reduceToNat, Follows]; omega⟩
    by_cases h4 : v / 64 ^ 3 = 4
    · rw [h4]
      exact ⟨_, _, .highFour (by omega), by simp only [UInt8.reduceToNat, Follows]; omega⟩
    · rw [hbits]
      exact ⟨_, _, .four (by omega) (by omega), by simp only [UInt8.reduceToNat, Follows]; omega⟩

theorem Lead.not_ascii (h : Lead b m lo hi bits) : ¬ b < 0x80 := by
  rw [UInt8.lt_iff_toNat_lt]
  cases h <;> simp only [UInt8.reduceToNat] <;> omega

theorem Lead.range (h : Lead b m lo hi bits) : 1 ≤ m ∧ 0x80 ≤ lo.toNat ∧ hi.toNat ≤ 0xbf := by
  cases h <;> decide

/-! ## Whole texts -/

theorem toNat_ofNat_of_ascii (hv : v < 0x80) : (Char.ofNat v).toNat = v := by
  rw [Char.ofNat, dif_pos (.inl (Nat.lt_trans hv (by decide)))]
  rfl

theorem encodeChar_of_ascii (hc : c.toNat < 0x80) :
    String.utf8EncodeChar c = [UInt8.ofNat c.toNat] := by
  change (if c.toNat ≤ 0x7f then _ else _) = _
  rw [if_pos (by omega)]
  rfl

theorem decode_char (c : Char) (rest : List UInt8) :
    decodeUtf8From done .between (String.utf8EncodeChar c ++ rest) =
      (decodeUtf8From (done + (String.utf8EncodeChar c).length) .between rest).map (c :: ·) := by
  by_cases hc : c.toNat < 0x80
  · have hb : (UInt8.ofNat c.toNat).toNat = c.toNat := by
      rw [UInt8.toNat_ofNat']
      omega
    have hlt : UInt8.ofNat c.toNat < 0x80 := by
      rw [UInt8.lt_iff_toNat_lt, hb]
      exact hc
    rw [encodeChar_of_ascii hc]
    simp only [List.singleton_append, decodeUtf8From, if_pos hlt, hb, Char.ofNat_toNat,
      List.length_singleton]
  · obtain ⟨m, hm⟩ := sized_of_high (Nat.le_of_not_lt hc)
    obtain ⟨lo, hi, hl, hf⟩ := lead_of_sized hm
    rw [encodeChar_of_sized hm, List.cons_append]
    simp only [decodeUtf8From, if_neg hl.not_ascii, lead_iff.2 hl]
    rw [decode_inside hl.range.1 hf, Char.ofNat_toNat, List.length_cons, length_tailOctets,
      Nat.add_assoc, Nat.add_comm 1 m]

/-- The octets of a text are read before those that stand behind them. -/
theorem decode_append (cs : List Char) (rest : List UInt8) :
    decodeUtf8From done .between (encodeUtf8 cs ++ rest) =
      (decodeUtf8From (done + (encodeUtf8 cs).length) .between rest).map (cs ++ ·) := by
  induction cs generalizing done with
  | nil =>
    cases h : decodeUtf8From done .between rest <;> simp [encodeUtf8, h, Except.map]
  | cons c cs ih =>
    have hsplit : encodeUtf8 (c :: cs) = String.utf8EncodeChar c ++ encodeUtf8 cs := rfl
    rw [hsplit, List.append_assoc, decode_char, ih, List.length_append, Nat.add_assoc]
    cases decodeUtf8From _ _ rest <;> rfl

theorem decode_encode (cs : List Char) :
    decodeUtf8From done .between (encodeUtf8 cs) = .ok cs := by
  rw [← List.append_nil (encodeUtf8 cs), decode_append]
  exact congrArg Except.ok (List.append_nil cs)

theorem map_eq_ok {α β ε : Type} {f : α → β} {e : Except ε α} {y : β} (h : e.map f = .ok y) :
    ∃ x, e = .ok x ∧ f x = y := by
  cases e with
  | error e => cases h
  | ok x => cases h; exact ⟨x, rfl, rfl⟩

theorem encode_of_decode (h : decodeUtf8From done .between bytes = .ok cs) :
    encodeUtf8 cs = bytes := by
  -- one character is read at a time, so the induction is on the number of octets
  induction hn : bytes.length using Nat.strongRecOn generalizing done bytes cs with
  | ind n ih =>
    cases bytes with
    | nil => cases h; rfl
    | cons b rest =>
      simp only [decodeUtf8From] at h
      split at h
      · rename_i hb
        rw [UInt8.lt_iff_toNat_lt] at hb
        obtain ⟨cs', hd, rfl⟩ := map_eq_ok h
        have hrest := ih rest.length (by rw [← hn]; exact Nat.lt_succ_self _) hd rfl
        have hc : (Char.ofNat b.toNat).toNat = b.toNat := toNat_ofNat_of_ascii hb
        change String.utf8EncodeChar (Char.ofNat b.toNat) ++ encodeUtf8 cs' = b :: rest
        rw [hrest, encodeChar_of_ascii (by rw [hc]; exact hb), hc, UInt8.ofNat_toNat]
        rfl
      · split at h
        · rename_i missing lo hi bits hl
          rw [lead_iff] at hl
          obtain ⟨hm, hlo, hhi⟩ := hl.range
          obtain ⟨v, rest', cs', rfl, hf, rfl, rfl, hd⟩ := ok_of_inside hm hlo hhi h
          obtain ⟨hsized, rfl⟩ := sized_of_lead hl hf
          have hrest := ih rest'.length (by simp only [← hn, List.length_cons, List.length_append]; omega)
            hd rfl
          have henc := encodeChar_of_sized (c := Char.ofNat v) (m := missing)
            (by rwa [toNat_ofNat_of_sized hsized])
          rw [toNat_ofNat_of_sized hsized] at henc
          change String.utf8EncodeChar (Char.ofNat v) ++ encodeUtf8 cs' = _
          rw [hrest, henc]
          rfl
        · cases h

/-- **UTF-8.** Octets decode to a text if and only if they are the octets of it. -/
theorem decodeUtf8_eq_ok_iff : decodeUtf8 bytes = .ok cs ↔ encodeUtf8 cs = bytes :=
  ⟨encode_of_decode, fun h => h ▸ decode_encode cs⟩

/-- The beginning of an octet string is the text of the beginning. -/
theorem prefix_of_decode (hb : bytes <+: encodeUtf8 cs) {begun : List Char}
    (h : decodeUtf8 bytes = .ok begun) : begun <+: cs := by
  obtain ⟨rest, hrest⟩ := hb
  rw [← decodeUtf8_eq_ok_iff.1 h] at hrest
  have hall : decodeUtf8From 0 .between (encodeUtf8 cs) = .ok cs := decode_encode cs
  rw [← hrest, decode_append] at hall
  obtain ⟨more, -, hmore⟩ := map_eq_ok hall
  exact ⟨more, hmore⟩

/-! ## Octets of ASCII -/

theorem eq_of_mem_encodeChar (h : b ∈ String.utf8EncodeChar c) (hb : b < 0x80) :
    c = Char.ofNat b.toNat := by
  by_cases hc : c.toNat < 0x80
  · rw [encodeChar_of_ascii hc, List.mem_singleton] at h
    rw [h, UInt8.toNat_ofNat', Nat.mod_eq_of_lt (by omega), Char.ofNat_toNat]
  · obtain ⟨m, hm⟩ := sized_of_high (Nat.le_of_not_lt hc)
    obtain ⟨lo, hi, hl, -⟩ := lead_of_sized hm
    rw [encodeChar_of_sized hm] at h
    rcases List.mem_cons.1 h with rfl | h
    · exact absurd hb hl.not_ascii
    · rw [UInt8.lt_iff_toNat_lt] at hb
      have := le_of_mem_tailOctets h
      exact absurd hb (Nat.not_lt_of_le this)

/-- An octet of ASCII stands for its character, and nothing else has it. -/
theorem mem_encodeUtf8 (hb : b < 0x80) : b ∈ encodeUtf8 cs ↔ Char.ofNat b.toNat ∈ cs := by
  have hlt : b.toNat < 0x80 := UInt8.lt_iff_toNat_lt.1 hb
  constructor
  · intro h
    obtain ⟨c, hc, hbc⟩ := List.mem_flatMap.1 h
    exact eq_of_mem_encodeChar hbc hb ▸ hc
  · intro h
    have hn : (Char.ofNat b.toNat).toNat = b.toNat := toNat_ofNat_of_ascii hlt
    refine List.mem_flatMap.2 ⟨_, h, ?_⟩
    rw [encodeChar_of_ascii (by rw [hn]; exact hlt), hn, UInt8.ofNat_toNat]
    exact .head _

@[simp] theorem encodeUtf8_append (a b : List Char) :
    encodeUtf8 (a ++ b) = encodeUtf8 a ++ encodeUtf8 b := List.flatMap_append

theorem encodeUtf8_eq_nil : encodeUtf8 cs = [] ↔ cs = [] := by
  constructor
  · intro h
    cases cs with
    | nil => rfl
    | cons c cs => exact absurd (List.append_eq_nil_iff.1 h).1 String.utf8EncodeChar_ne_nil
  · rintro rfl
    rfl

/-! ## The order of octets -/

section
variable {d : Char} {w : Nat} {s t : List UInt8}

/-- Of two numbers that agree in front of their last `m` groups of six bits, the smaller one has the
smaller octets. -/
theorem tailOctets_lt (h : v < w) (he : v / 64 ^ m = w / 64 ^ m) :
    tailOctets m v ++ s < tailOctets m w ++ t := by
  induction m with
  | zero => simp only [Nat.pow_zero, Nat.div_one] at he; omega
  | succ m ih =>
    rw [Nat.pow_succ, ← Nat.div_div_eq_div_mul, ← Nat.div_div_eq_div_mul] at he
    have hle : v / 64 ^ m ≤ w / 64 ^ m := Nat.div_le_div_right (Nat.le_of_lt h)
    rw [tailOctets, tailOctets, List.cons_append, List.cons_append, List.cons_lt_cons_iff]
    by_cases hq : v / 64 ^ m = w / 64 ^ m
    · exact .inr ⟨by rw [hq], ih hq⟩
    · refine .inl ?_
      rw [UInt8.lt_iff_toNat_lt, toNat_tailOctet, toNat_tailOctet]
      omega

theorem encodeChar_lt (h : c < d) :
    String.utf8EncodeChar c ++ s < String.utf8EncodeChar d ++ t := by
  have hlt : c.toNat < d.toNat := h
  by_cases hd : d.toNat < 0x80
  · rw [encodeChar_of_ascii (Nat.lt_trans hlt hd), encodeChar_of_ascii hd, List.cons_append,
      List.cons_append, List.cons_lt_cons_iff, UInt8.lt_iff_toNat_lt, UInt8.toNat_ofNat',
      UInt8.toNat_ofNat']
    omega
  obtain ⟨n, hn⟩ := sized_of_high (Nat.le_of_not_lt hd)
  by_cases hc : c.toNat < 0x80
  · rw [encodeChar_of_ascii hc, encodeChar_of_sized hn, List.cons_append, List.cons_append,
      List.cons_lt_cons_iff, UInt8.lt_iff_toNat_lt, toNat_lead hn, UInt8.toNat_ofNat']
    rcases hn with ⟨rfl, hn⟩ | ⟨rfl, hn⟩ | ⟨rfl, hn⟩ <;> simp only [leadMark] <;> omega
  · obtain ⟨m, hm⟩ := sized_of_high (Nat.le_of_not_lt hc)
    rw [encodeChar_of_sized hm, encodeChar_of_sized hn, List.cons_append, List.cons_append,
      List.cons_lt_cons_iff, UInt8.lt_iff_toNat_lt, toNat_lead hm, toNat_lead hn]
    by_cases hmn : m = n
    · subst hmn
      have hle : c.toNat / 64 ^ m ≤ d.toNat / 64 ^ m := Nat.div_le_div_right (Nat.le_of_lt hlt)
      by_cases hq : c.toNat / 64 ^ m = d.toNat / 64 ^ m
      · exact .inr ⟨by rw [hq], tailOctets_lt hlt hq⟩
      · exact .inl (by omega)
    · refine .inl ?_
      rcases hm with ⟨rfl, hm⟩ | ⟨rfl, hm⟩ | ⟨rfl, hm⟩ <;>
        rcases hn with ⟨rfl, hn⟩ | ⟨rfl, hn⟩ | ⟨rfl, hn⟩ <;> simp only [leadMark] <;> omega

/-- Texts are in the order of their octets. -/
theorem encodeUtf8_lt {a b : List Char} (h : a < b) : encodeUtf8 a < encodeUtf8 b := by
  induction h with
  | nil =>
    rename_i c cs
    obtain ⟨x, xs, hx⟩ := List.exists_cons_of_ne_nil (mt encodeUtf8_eq_nil.1 (List.cons_ne_nil c cs))
    rw [hx]
    exact List.nil_lt_cons _ _
  | rel h => exact encodeChar_lt h
  | cons h ih => exact List.append_left_lt ih

end

end GridKeeper.Text

import GridKeeper.Proofs.Texts
import Mathlib.Algebra.Group.Nat.Defs

/-!
# Numerals

A numeral is digits, with a sign before them where one is allowed, and it is read if the number is
in range. Zeros before the digits and a plus sign do not count; so a number has many spellings
(`Spells`), one of which is the one that it is written in. Of a numeral that is cut off, the digits
that are left are again a numeral, of a smaller number.

**Results.**
* `numeric_of_readSigned`: what is read as a number is digits and signs, and nothing else.
* `readSigned_eq_some`: a number is read where it is spelled, and nowhere else.
* `readSigned_toString`: a number is read back as it was written.
* `readUnsigned_of_prefix`: the beginning of a numeral is read as the number less its last digits.
-/
namespace GridKeeper.Text

variable {cs a b : List Char} {c : Char} {half max m k n : Nat} {i : Int}

/-! ## The signs of a numeral -/

theorem digits_of_readDigits (h : readDigits? cs = some n) :
    cs ≠ [] ∧ ∀ c ∈ cs, c.isDigit = true := by
  simp only [readDigits?, Option.ite_none_right_eq_some] at h
  exact ⟨h.1.1, List.all_eq_true.1 h.1.2⟩

/-- A numeral is digits, perhaps with a sign before them. -/
theorem digits_of_readSigned (h : readSigned? half cs = some i) :
    ∃ sign digits, cs = sign ++ digits ∧ digits ≠ [] ∧ (∀ c ∈ digits, c.isDigit = true) ∧
      (sign = [] ∨ sign = ['+'] ∨ sign = ['-']) := by
  simp only [readSigned?] at h
  obtain ⟨hv, -⟩ := Option.filter_eq_some_iff.1 h
  split at hv <;> obtain ⟨_, hn, -⟩ := Option.map_eq_some_iff.1 hv <;>
    obtain ⟨n, hn, -⟩ := Option.bind_eq_some_iff.1 hn <;>
    obtain ⟨hne, hd⟩ := digits_of_readDigits hn
  · exact ⟨['-'], _, rfl, hne, hd, .inr (.inr rfl)⟩
  · exact ⟨['+'], _, rfl, hne, hd, .inr (.inl rfl)⟩
  · exact ⟨[], _, rfl, hne, hd, .inl rfl⟩

theorem readUnsigned_of_digits (hd : readDigits? cs = some n) (hn : n ≤ max) :
    readUnsigned? max cs = some n := by
  obtain ⟨-, hall⟩ := digits_of_readDigits hd
  unfold readUnsigned?
  split
  · cases hall '+' (.head _)
  · exact Option.filter_eq_some_iff.2 ⟨hd, decide_eq_true hn⟩

theorem le_of_readUnsigned (h : readUnsigned? max cs = some n) : n ≤ max :=
  of_decide_eq_true (Option.filter_eq_some_iff.1 h).2

/-- What is read with a sign allowed is what is read without one, if there is none. -/
theorem readSigned_of_digits (hd : readDigits? cs = some n) (h : readSigned? half cs = some i) :
    i = n := by
  obtain ⟨hne, hall⟩ := digits_of_readDigits hd
  simp only [readSigned?] at h
  obtain ⟨hv, -⟩ := Option.filter_eq_some_iff.1 h
  split at hv
  · cases hall '-' (.head _)
  · cases hall '+' (.head _)
  · rw [hd] at hv
    exact (Option.some.inj hv).symm

theorem hyphen_of_neg (h : readSigned? half cs = some i) (hi : i < 0) :
    ∃ digits, cs = '-' :: digits := by
  simp only [readSigned?] at h
  obtain ⟨hv, -⟩ := Option.filter_eq_some_iff.1 h
  split at hv <;> obtain ⟨_, hn, hv⟩ := Option.map_eq_some_iff.1 hv <;>
    obtain ⟨n, hn, he⟩ := Option.bind_eq_some_iff.1 hn <;> cases he
  · exact ⟨_, rfl⟩
  · omega
  · omega

def isNumeric (c : Char) : Bool := c.isDigit || c = '+' || c = '-'

theorem numeric_of_digit (h : c.isDigit = true) : isNumeric c = true := by
  simp [isNumeric, h]

theorem toNat_of_numeric (h : isNumeric c = true) : 0x2b ≤ c.toNat ∧ c.toNat ≤ 0x39 := by
  simp only [isNumeric, Bool.or_eq_true, decide_eq_true_eq] at h
  rcases h with (h | rfl) | rfl
  · simp only [Char.isDigit, Bool.and_eq_true, decide_eq_true_eq, ge_iff_le,
      UInt32.le_iff_toNat_le] at h
    change 48 ≤ c.val.toNat ∧ c.val.toNat ≤ 57 at h
    change 0x2b ≤ c.val.toNat ∧ c.val.toNat ≤ 0x39
    omega
  · decide
  · decide

theorem solid_of_numeric (h : isNumeric c = true) : isBlank c = false := by
  have := toNat_of_numeric h
  simp only [isBlank, Bool.or_eq_false_iff, Bool.and_eq_false_iff, beq_eq_false_iff_ne, ne_eq,
    decide_eq_false_iff_not]
  omega

theorem numeric_of_readSigned (h : readSigned? half cs = some i) :
    cs ≠ [] ∧ ∀ c ∈ cs, isNumeric c = true := by
  obtain ⟨sign, digits, rfl, hne, hd, hs⟩ := digits_of_readSigned h
  refine ⟨by simp [hne], fun c hc => ?_⟩
  rcases List.mem_append.1 hc with hc | hc
  · rcases hs with rfl | rfl | rfl
    · cases hc
    · rw [List.mem_singleton.1 hc]; rfl
    · rw [List.mem_singleton.1 hc]; rfl
  · exact numeric_of_digit (hd c hc)

theorem colon_not_numeric (h : ∀ c ∈ cs, isNumeric c = true) : ':' ∉ cs :=
  fun hm => by cases h ':' hm

/-! ## Spellings -/

/-- The digits of a number, behind zeros that do not count. -/
def digitsOf (zeros n : Nat) : List Char := List.replicate zeros '0' ++ Nat.toDigits 10 n

inductive Spells : Int → List Char → Prop
  | plain (zeros n : Nat) : Spells n (digitsOf zeros n)
  | plus (zeros n : Nat) : Spells n ('+' :: digitsOf zeros n)
  | minus (zeros n : Nat) : Spells (-n) ('-' :: digitsOf zeros n)

theorem readDigits_toDigits (n : Nat) : readDigits? (Nat.toDigits 10 n) = some n := by
  have hall : (Nat.toDigits 10 n).all Char.isDigit = true :=
    List.all_eq_true.2 fun c hc => Nat.isDigit_of_mem_toDigits (by decide) (by decide) hc
  rw [readDigits?, if_pos ⟨Nat.toDigits_ne_nil, hall⟩, ← Nat.ofDigitChars_eq_foldl,
    Nat.ofDigitChars_ten_toDigits]

theorem digitsOf_succ (zeros n : Nat) : digitsOf (zeros + 1) n = '0' :: digitsOf zeros n := rfl

theorem digitsOf_ne_nil (zeros n : Nat) : digitsOf zeros n ≠ [] :=
  List.append_ne_nil_of_right_ne_nil _ Nat.toDigits_ne_nil

theorem readDigits_zero (h : cs ≠ []) : readDigits? ('0' :: cs) = readDigits? cs := by
  have hzero : ('0' : Char).isDigit = true := by decide
  simp [readDigits?, h, hzero]

theorem readDigits_digitsOf (zeros n : Nat) : readDigits? (digitsOf zeros n) = some n := by
  induction zeros with
  | zero => exact readDigits_toDigits n
  | succ zeros ih => rw [digitsOf_succ, readDigits_zero (digitsOf_ne_nil zeros n), ih]

/-- A digit is what its value is written with. -/
theorem toDigits_of_digit (h : c.isDigit = true) :
    c.toNat - '0'.toNat < 10 ∧ Nat.toDigits 10 (c.toNat - '0'.toNat) = [c] := by
  obtain ⟨hlow, hhigh⟩ := Bool.and_eq_true_iff.1 h
  have hlow : 48 ≤ c.toNat := of_decide_eq_true hlow
  have hhigh : c.toNat ≤ 57 := of_decide_eq_true hhigh
  have hall : ∀ d < 10, 48 + d - '0'.toNat < 10 ∧
      Nat.toDigits 10 (48 + d - '0'.toNat) = [Char.ofNat (48 + d)] := by decide
  have := hall (c.toNat - 48) (by omega)
  rwa [Nat.add_sub_cancel' hlow, Char.ofNat_toNat] at this

/-- Digits are those of a number, behind zeros that do not count. -/
theorem exists_digitsOf (hne : cs ≠ []) (hall : ∀ c ∈ cs, c.isDigit = true) :
    ∃ zeros n, cs = digitsOf zeros n := by
  induction cs using List.reverseRecOn with
  | nil => exact absurd rfl hne
  | append_singleton front c ih =>
    obtain ⟨hc, hdigit⟩ := toDigits_of_digit (hall c (by simp))
    rcases List.eq_nil_or_concat front with rfl | ⟨_, _, hfront⟩
    · exact ⟨0, _, hdigit.symm⟩
    · obtain ⟨zeros, n, hn⟩ := ih (by simp [hfront]) fun x hx => hall x (List.mem_append_left _ hx)
      rcases Nat.eq_zero_or_pos n with rfl | hpos
      · -- a zero that did count does not count before another digit
        refine ⟨zeros + 1, c.toNat - '0'.toNat, ?_⟩
        rw [hn, digitsOf, digitsOf, hdigit, List.replicate_succ']
        rfl
      · refine ⟨zeros, 10 * n + (c.toNat - '0'.toNat), ?_⟩
        rw [hn, digitsOf, digitsOf, List.append_assoc, ← hdigit,
          Nat.toDigits_append_toDigits (by decide) hpos hc]

theorem digitsOf_of_readDigits (h : readDigits? cs = some n) : ∃ zeros, cs = digitsOf zeros n := by
  obtain ⟨hne, hall⟩ := digits_of_readDigits h
  obtain ⟨zeros, m, rfl⟩ := exists_digitsOf hne hall
  rw [readDigits_digitsOf] at h
  exact ⟨zeros, by rw [Option.some.inj h]⟩

/-- A number is read where it is spelled, if it is in range. -/
theorem readSigned_of_spells (h : Spells i cs) :
    readSigned? half cs = (some i).filter fun i => -(half : Int) ≤ i ∧ i < half := by
  cases h with
  | plain zeros n =>
    have hdigits := (digits_of_readDigits (readDigits_digitsOf zeros n)).2
    unfold readSigned?
    split
    · cases hdigits '-' (by assumption ▸ .head _)
    · cases hdigits '+' (by assumption ▸ .head _)
    · rw [readDigits_digitsOf]
      rfl
  | plus zeros n => simp [readSigned?, readDigits_digitsOf]
  | minus zeros n => simp [readSigned?, readDigits_digitsOf]

/-- **A number is read where it is spelled, and nowhere else.** -/
theorem readSigned_eq_some :
    readSigned? half cs = some i ↔ Spells i cs ∧ -(half : Int) ≤ i ∧ i < half := by
  constructor
  · intro h
    obtain ⟨hv, hr⟩ := Option.filter_eq_some_iff.1 h
    refine ⟨?_, of_decide_eq_true hr⟩
    split at hv <;> obtain ⟨_, hread, rfl⟩ := Option.map_eq_some_iff.1 hv <;>
      obtain ⟨n, hn, he⟩ := Option.bind_eq_some_iff.1 hread <;> cases he <;>
      obtain ⟨zeros, rfl⟩ := digitsOf_of_readDigits hn
    · exact .minus zeros n
    · exact .plus zeros n
    · exact .plain zeros n
  · rintro ⟨h, hr⟩
    rw [readSigned_of_spells h, Option.filter_some, if_pos (decide_eq_true hr)]

theorem spells_toString (i : Int) : Spells i (toString i).toList := by
  cases i with
  | ofNat n =>
    have hwritten : (toString (Int.ofNat n)).toList = digitsOf 0 n := Nat.toList_repr
    rw [hwritten]
    exact .plain 0 n
  | negSucc n =>
    have hwritten : (toString (Int.negSucc n)).toList = '-' :: digitsOf 0 (n + 1) := by
      change ("-" ++ Nat.repr (n + 1)).toList = _
      rw [String.toList_append, Nat.toList_repr]
      rfl
    rw [hwritten]
    exact .minus 0 (n + 1)

theorem readSigned_toString (h : -(half : Int) ≤ i ∧ i < half) :
    readSigned? half (toString i).toList = some i :=
  readSigned_eq_some.2 ⟨spells_toString i, h⟩

theorem solid_toString (n : Nat) : ∀ c ∈ (toString n).toList, isBlank c = false := by
  intro c hc
  rw [Nat.toString_eq_repr, Nat.toList_repr] at hc
  exact solid_of_numeric (numeric_of_digit
    (Nat.isDigit_of_mem_toDigits (by decide) (by decide) hc))

/-! ## Numerals in another case -/

theorem not_alpha_of_numeric (h : isNumeric c = true) : c.isAlpha = false := by
  simp only [isNumeric, Bool.or_eq_true, decide_eq_true_eq] at h
  rcases h with (h | rfl) | rfl
  · exact not_alpha_of_digit h
  · rfl
  · rfl

/-- Numerals have no letters, in whatever case. -/
theorem readSigned_lowerAscii (cs : List Char) :
    readSigned? half (lowerAscii cs) = readSigned? half cs := by
  have hkeep : (∀ c ∈ cs, c.toLower = c) → lowerAscii cs = cs := fun h =>
    (List.map_congr_left h).trans (List.map_id' cs)
  refine Option.ext fun i => ⟨fun h => ?_, fun h => ?_⟩
  · have hnum := (numeric_of_readSigned h).2
    have hcs := hkeep fun c hc =>
      (eq_of_toLower (not_alpha_of_numeric (hnum _ (List.mem_map_of_mem hc))) rfl).symm
    rwa [hcs] at h
  · have hnum := (numeric_of_readSigned h).2
    rwa [hkeep fun c hc =>
      toLower_of_not_upper (Bool.or_eq_false_iff.1 (not_alpha_of_numeric (hnum c hc))).1]

/-! ## Numerals that are cut off -/

theorem ofDigitChars_lt (h : ∀ c ∈ cs, c.isDigit = true) :
    Nat.ofDigitChars 10 cs 0 < 10 ^ cs.length := by
  induction cs using List.reverseRecOn with
  | nil => decide
  | append_singleton front c ih =>
    have hc := (toDigits_of_digit (h c (by simp))).1
    have hfront := ih fun x hx => h x (List.mem_append_left _ hx)
    rw [Nat.ofDigitChars_append, Nat.ofDigitChars_cons, Nat.ofDigitChars_nil, List.length_append,
      List.length_singleton, Nat.pow_succ]
    omega

/-- The first digits of a number are the number divided by a power of ten. -/
theorem readDigits_of_prefix (h : a <+: b) (ha : readDigits? a = some m)
    (hb : readDigits? b = some k) : ∃ j, m = k / 10 ^ j := by
  obtain ⟨rest, rfl⟩ := h
  obtain ⟨hane, hall⟩ := digits_of_readDigits ha
  obtain ⟨hbne, hdigits⟩ := digits_of_readDigits hb
  have hlt := ofDigitChars_lt fun c hc => hdigits c (List.mem_append_right a hc)
  rw [readDigits?, if_pos ⟨hane, List.all_eq_true.2 hall⟩, ← Nat.ofDigitChars_eq_foldl,
    Option.some.injEq] at ha
  rw [readDigits?, if_pos ⟨hbne, List.all_eq_true.2 hdigits⟩, ← Nat.ofDigitChars_eq_foldl,
    Option.some.injEq, Nat.ofDigitChars_append, ha, Nat.ofDigitChars_eq_ofDigitChars_zero] at hb
  refine ⟨rest.length, ?_⟩
  rw [← hb, Nat.mul_add_div (Nat.pow_pos (by decide)), Nat.div_eq_of_lt hlt, Nat.add_zero]

theorem readUnsigned_unsigned (hc : c ≠ '+') (cs : List Char) :
    readUnsigned? max (c :: cs) = (readDigits? (c :: cs)).filter (· ≤ max) := by
  unfold readUnsigned?
  split
  · rename_i heq
    exact absurd (List.cons.inj heq).1 hc
  · rfl

theorem readUnsigned_of_prefix (h : a <+: b) (ha : readUnsigned? max a = some m)
    (hb : readUnsigned? max b = some k) : ∃ j, m = k / 10 ^ j := by
  obtain ⟨rest, rfl⟩ := h
  cases a with
  | nil => cases ha
  | cons c a =>
    by_cases hc : c = '+'
    · subst hc
      exact readDigits_of_prefix (List.prefix_append a rest) (Option.filter_eq_some_iff.1 ha).1
        (Option.filter_eq_some_iff.1 hb).1
    · rw [readUnsigned_unsigned hc] at ha
      rw [List.cons_append, readUnsigned_unsigned hc] at hb
      exact readDigits_of_prefix (List.prefix_append (c :: a) rest)
        (Option.filter_eq_some_iff.1 ha).1 (Option.filter_eq_some_iff.1 hb).1

end GridKeeper.Text

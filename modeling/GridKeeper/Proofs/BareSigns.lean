import GridKeeper.Proofs.Utf8
import GridKeeper.Url
import Mathlib.Data.List.Basic

/-!
# Signs that nothing is made of

Three signs go through escapes, UTF-8 and composition as they are, the colon, the closing bracket
and the hyphen: they are *bare* (`isBare`), in that nothing else is made of them and no mark is put
on them.

**Results.**
* `mem_decode_unescape`: a bare sign is still there behind UTF-8 and escapes.
* `mem_normalize`: a bare sign is still there in the composed form of a text.
-/
namespace GridKeeper

open Text

/-! ## Bare signs -/

/-- Signs that pass through every step as they are. -/
def isBare (c : Char) : Bool := c = ':' || c = ']' || c = '-'

section
variable {c : Char}

theorem bare_cases (h : isBare c = true) : c = ':' ∨ c = ']' ∨ c = '-' := by
  simpa [isBare, or_assoc] using h

theorem bare_ascii (h : isBare c = true) : c.toNat < 0x80 := by
  rcases bare_cases h with rfl | rfl | rfl <;> decide

theorem encode_bare (h : isBare c = true) :
    ∃ b : UInt8, String.utf8EncodeChar c = [b] ∧ b < 0x80 ∧ Char.ofNat b.toNat = c ∧ b ≠ 0x25 ∧
      hexDigit? (Char.ofNat b.toNat) = none := by
  rcases bare_cases h with rfl | rfl | rfl
  · exact ⟨58, by decide, by decide, by decide, by decide, by decide⟩
  · exact ⟨93, by decide, by decide, by decide, by decide, by decide⟩
  · exact ⟨45, by decide, by decide, by decide, by decide, by decide⟩

/-! ## Octets -/

theorem mem_unescape {b : UInt8} {bytes : List UInt8} (h : b ∈ bytes) (hp : b ≠ 0x25)
    (hx : hexDigit? (Char.ofNat b.toNat) = none) : b ∈ Url.unescape bytes := by
  fun_induction Url.unescape bytes with
  | case1 => exact h
  | case2 hi lo rest x y hlo hhi ih =>
    simp only [List.mem_cons] at h
    rcases h with rfl | rfl | rfl | h
    · exact absurd rfl hp
    · rw [hx] at hhi; cases hhi
    · rw [hx] at hlo; cases hlo
    · exact .tail _ (ih h)
  | case3 hi lo rest _ ih =>
    rcases List.mem_cons.1 h with rfl | h
    · exact absurd rfl hp
    · exact .tail _ (ih h)
  | case4 a rest _ ih =>
    rcases List.mem_cons.1 h with rfl | h
    · exact .head _
    · exact .tail _ (ih h)

/-- A bare sign of a text is still there when the text has gone through UTF-8 and escapes. -/
theorem mem_decode_unescape {cs name : List Char} (hc : isBare c = true) (hm : c ∈ cs)
    (h : decodeUtf8 (Url.unescape (encodeUtf8 cs)) = .ok name) : c ∈ name := by
  obtain ⟨b, he, hb, hbc, hp, hx⟩ := encode_bare hc
  have hin : b ∈ encodeUtf8 cs := List.mem_flatMap.2 ⟨c, hm, by rw [he]; exact .head _⟩
  have hname := mem_unescape hin hp hx
  rw [← decodeUtf8_eq_ok_iff.1 h] at hname
  exact hbc ▸ (mem_encodeUtf8 hb).1 hname

/-! ## Composition -/

theorem all_of_eq_ofList {s : String} {l : List Char} {p : Char → Bool} (h : s = String.ofList l)
    (hl : l.all p = true) : s.toList.all p = true := by
  rw [h, String.toList_ofList]
  exact hl

theorem markedLetters_bare : ∀ row ∈ markedLetters, row.2.1.toList.all (!isBare ·) = true := by
  unfold markedLetters
  simp only [List.forall_mem_cons]
  and_intros
  all_goals first | (refine all_of_eq_ofList rfl ?_; decide) | nofun

theorem markedLetters_marks : ∀ row ∈ markedLetters, 0x80 ≤ (Char.ofNat row.1).toNat := by
  unfold markedLetters
  decide

theorem markedSigns_bare : ∀ row ∈ markedSigns,
    0x80 ≤ (Char.ofNat row.1).toNat ∧ isBare (Char.ofNat row.2.1) = false := by
  unfold markedSigns
  decide

theorem compositions_bare {x : Char × Char × Char} (h : x ∈ compositions) :
    0x80 ≤ x.1.toNat ∧ isBare x.2.1 = false := by
  rcases List.mem_append.1 h with h | h
  · obtain ⟨row, hr, hx⟩ := List.mem_flatMap.1 h
    obtain ⟨y, hy, rfl⟩ := List.mem_map.1 hx
    have hl : y.1 ∈ row.2.1.toList := (List.of_mem_zip hy).1
    exact ⟨markedLetters_marks row hr,
      by simpa using List.all_eq_true.1 (markedLetters_bare row hr) y.1 hl⟩
  · obtain ⟨row, hr, rfl⟩ := List.mem_map.1 h
    exact markedSigns_bare row hr

theorem compose_ascii (hc : c.toNat < 0x80) (x : Char) : compose? x c = none := by
  have hj : hangulJoin? x.toNat c.toNat = none := by
    unfold hangulJoin?
    split
    · rename_i h
      simp only [hangulVowel] at h
      omega
    · split
      · rename_i h
        simp only [hangulTail] at h
        omega
      · rfl
  unfold compose?
  rw [hj]
  refine List.findSome?_eq_none_iff.2 fun y hy => if_neg ?_
  rintro ⟨-, rfl⟩
  have := (compositions_bare hy).1
  omega

theorem compose_bare (hc : isBare c = true) (x : Char) : compose? c x = none := by
  have hn : c.toNat < 0x80 := bare_ascii hc
  have hj : hangulJoin? c.toNat x.toNat = none := by
    unfold hangulJoin?
    split
    · rename_i h
      simp only [hangulLead] at h
      omega
    · split
      · rename_i h
        simp only [hangulSyllable] at h
        omega
      · rfl
  unfold compose?
  rw [hj]
  refine List.findSome?_eq_none_iff.2 fun y hy => if_neg ?_
  rintro ⟨rfl, -⟩
  rw [(compositions_bare hy).2] at hc
  cases hc

theorem mem_decomposed {cs : List Char} (hc : isBare c = true) (hm : c ∈ cs) :
    c ∈ decomposed cs := by
  refine List.mem_flatMap.2 ⟨c, hm, ?_⟩
  have hp : parts? c = none := by
    rcases bare_cases hc with rfl | rfl | rfl <;> rfl
  simp [takeApart, hp]

theorem mem_insertMark {m x : Char} {marks : List Char} (h : x = m ∨ x ∈ marks) :
    x ∈ insertMark m marks := by
  induction marks with
  | nil =>
    rcases h with rfl | h
    · exact .head _
    · cases h
  | cons y ys ih =>
    simp only [insertMark]
    split
    · rcases h with rfl | h
      · exact .tail _ (ih (.inl rfl))
      · rcases List.mem_cons.1 h with rfl | h
        · exact .head _
        · exact .tail _ (ih (.inr h))
    · rcases h with rfl | h
      · exact .head _
      · exact .tail _ h

theorem mem_orderMarks {x : Char} {marks cs : List Char} (h : x ∈ marks ∨ x ∈ cs) :
    x ∈ orderMarks marks cs := by
  induction cs generalizing marks with
  | nil => exact h.resolve_right nofun
  | cons y ys ih =>
    simp only [orderMarks]
    split
    · rcases h with h | h
      · exact List.mem_append_left _ h
      · refine List.mem_append_right _ ?_
        rcases List.mem_cons.1 h with rfl | h
        · exact .head _
        · exact .tail _ (ih (.inr h))
    · rcases h with h | h
      · exact ih (.inl (mem_insertMark (.inr h)))
      · rcases List.mem_cons.1 h with rfl | h
        · exact ih (.inl (mem_insertMark (.inl rfl)))
        · exact ih (.inr h)

theorem mem_composeBehind {letter : Char} {marks cs : List Char} (hc : isBare c = true)
    (h : c = letter ∨ c ∈ marks ∨ c ∈ cs) : c ∈ composeBehind letter marks cs := by
  have hn : c.toNat < 0x80 := bare_ascii hc
  induction cs generalizing letter marks with
  | nil =>
    rcases h with rfl | h | h
    · exact .head _
    · exact .tail _ h
    · cases h
  | cons x xs ih =>
    simp only [composeBehind]
    split
    · -- `x` is put on the letter, so neither of them is a bare sign
      rename_i whole hw
      split at hw
      · refine ih (.inr ?_)
        rcases h with rfl | h | h
        · rw [compose_bare hc] at hw; cases hw
        · exact .inl h
        · rcases List.mem_cons.1 h with rfl | h
          · rw [compose_ascii hn] at hw; cases hw
          · exact .inr h
      · cases hw
    · split
      · rcases h with rfl | h | h
        · exact .head _
        · exact .tail _ (List.mem_append_left _ h)
        · refine .tail _ (List.mem_append_right _ ?_)
          rcases List.mem_cons.1 h with rfl | h
          · exact ih (.inl rfl)
          · exact ih (.inr (.inr h))
      · refine ih ?_
        rcases h with rfl | h | h
        · exact .inl rfl
        · exact .inr (.inl (List.mem_append_left _ h))
        · rcases List.mem_cons.1 h with rfl | h
          · exact .inr (.inl (List.mem_append_right _ (.head _)))
          · exact .inr (.inr h)

theorem mem_composed {cs : List Char} (hc : isBare c = true) (hm : c ∈ cs) : c ∈ composed cs := by
  induction cs with
  | nil => cases hm
  | cons x xs ih =>
    simp only [composed]
    rcases List.mem_cons.1 hm with rfl | hm
    · split
      · exact mem_composeBehind hc (.inl rfl)
      · exact .head _
    · split
      · exact mem_composeBehind hc (.inr (.inr hm))
      · exact .tail _ (ih hm)

theorem mem_normalize {cs : List Char} (hc : isBare c = true) (hm : c ∈ cs) :
    c ∈ normalize cs :=
  mem_composed hc (mem_orderMarks (.inr (mem_decomposed hc hm)))

end
end GridKeeper

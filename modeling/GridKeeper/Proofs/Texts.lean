import GridKeeper.Text.Blank
import GridKeeper.Text.Case
import GridKeeper.Text.Cut
import GridKeeper.Text.Numeral
import Mathlib.Data.List.DropRight

/-!
# What cutting texts comes to

A text that is stripped at its ends, a text cut at its last colon, a text cut at the first `://`, a
text that is read as a number: here is what each of these says about the text as a whole.

**Results.**
* `strip_split`, `strip_strip`: stripping takes away characters of one kind at both ends, once and
  for all.
* `cutLast_eq_some`, `cutLast_eq_none`: the cut at the last separator, if there is one.
* `cutFirst_isSome`: there is a first cut if the separator occurs.
* `mem_of_sameLetters`: texts that agree up to case agree in all that is no letter.
-/
namespace GridKeeper.Text

variable {cs a b : List Char} {c sep : Char} {p : Char → Bool}

/-! ## Stripping -/

theorem dropEndWhile_split (p : Char → Bool) (cs : List Char) :
    ∃ b, cs = dropEndWhile p cs ++ b ∧ ∀ c ∈ b, p c = true := by
  refine ⟨(cs.reverse.takeWhile p).reverse, ?_, fun c hc => ?_⟩
  · rw [dropEndWhile, ← List.reverse_append, List.takeWhile_append_dropWhile, List.reverse_reverse]
  · exact List.mem_takeWhile_imp (List.mem_reverse.1 hc)

theorem strip_split (p : Char → Bool) (cs : List Char) :
    ∃ a b, cs = a ++ dropEndWhile p (cs.dropWhile p) ++ b ∧ (∀ c ∈ a, p c = true) ∧
      ∀ c ∈ b, p c = true := by
  obtain ⟨b, hb, hp⟩ := dropEndWhile_split p (cs.dropWhile p)
  refine ⟨cs.takeWhile p, b, ?_, fun c hc => List.mem_takeWhile_imp hc, hp⟩
  rw [List.append_assoc, ← hb, List.takeWhile_append_dropWhile]

theorem strip_head (h : (dropEndWhile p (cs.dropWhile p)).head? = some c) : p c = false := by
  obtain ⟨b, hb, -⟩ := dropEndWhile_split p (cs.dropWhile p)
  cases hd : dropEndWhile p (cs.dropWhile p) with
  | nil => rw [hd] at h; cases h
  | cons x rest =>
    rw [hd] at h hb
    cases h
    have hne : cs.dropWhile p ≠ [] := by rw [hb]; exact nofun
    have := List.head_dropWhile_not p hne
    simpa [hb] using this

theorem getLast_dropEndWhile (h : (dropEndWhile p cs).getLast? = some c) : p c = false := by
  rw [dropEndWhile, List.getLast?_reverse] at h
  exact Bool.eq_false_iff.2 (List.head?_dropWhile_not p cs.reverse |> fun hd => by
    rw [h] at hd
    simpa using hd)

theorem strip_strip (p : Char → Bool) (cs : List Char) :
    dropEndWhile p ((dropEndWhile p (cs.dropWhile p)).dropWhile p) =
      dropEndWhile p (cs.dropWhile p) := by
  have hfront : (dropEndWhile p (cs.dropWhile p)).dropWhile p =
      dropEndWhile p (cs.dropWhile p) := by
    cases hd : dropEndWhile p (cs.dropWhile p) with
    | nil => rfl
    | cons x rest =>
      have hx : p x = false := strip_head (by rw [hd]; rfl)
      simp [hx]
  rw [hfront]
  exact List.rdropWhile_idempotent p _

theorem trim_trim (cs : List Char) : trim (trim cs) = trim cs := strip_strip isBlank cs

/-- White space goes with what surrounds a text. -/
theorem trim_split (cs : List Char) :
    ∃ a b, cs = a ++ trim cs ++ b ∧ (∀ c ∈ a, isBlank c = true) ∧ ∀ c ∈ b, isBlank c = true :=
  strip_split isBlank cs

/-- White space around a text that has none is what is stripped. -/
theorem trim_of_surrounded {v : List Char} (ha : ∀ c ∈ a, isBlank c = true)
    (hb : ∀ c ∈ b, isBlank c = true) (hv : ∀ c ∈ v, isBlank c = false) :
    trim (a ++ v ++ b) = v := by
  have hnil : ∀ {l : List Char}, (∀ c ∈ l, isBlank c = true) → l.dropWhile isBlank = [] :=
    fun hl => List.dropWhile_eq_nil_iff.2 hl
  have hkeep : ∀ {l r : List Char}, l ≠ [] → (∀ c ∈ l, isBlank c = false) →
      (l ++ r).dropWhile isBlank = l ++ r := by
    intro l r hl h
    cases l with
    | nil => exact absurd rfl hl
    | cons x l => simp [h x (.head _)]
  have hbr : ∀ c ∈ b.reverse, isBlank c = true := fun c hc => hb c (List.mem_reverse.1 hc)
  unfold trim trimEnd dropEndWhile
  rw [List.append_assoc, List.dropWhile_append_of_pos ha]
  by_cases hne : v = []
  · rw [hne, List.nil_append, hnil hb]
    rfl
  · rw [hkeep hne hv, List.reverse_append, List.dropWhile_append_of_pos hbr]
    have := hkeep (r := []) (l := v.reverse) (by simpa using hne)
      fun c hc => hv c (List.mem_reverse.1 hc)
    rw [List.append_nil] at this
    rw [this, List.reverse_reverse]

theorem trim_of_solid (h : ∀ c ∈ cs, isBlank c = false) : trim cs = cs := by
  have := trim_of_surrounded (a := []) (b := []) nofun nofun h
  rwa [List.nil_append, List.append_nil] at this

theorem trimEnd_of_blanks (hb : ∀ c ∈ b, isBlank c = true) : trimEnd (a ++ b) = trimEnd a := by
  rw [trimEnd, dropEndWhile, List.reverse_append, List.dropWhile_append_of_pos, trimEnd,
    dropEndWhile]
  exact fun c hc => hb c (List.mem_reverse.1 hc)

/-- White space around a text is stripped, whatever the text is. -/
theorem trim_append (ha : ∀ c ∈ a, isBlank c = true) (hb : ∀ c ∈ b, isBlank c = true) :
    trim (a ++ cs ++ b) = trim cs := by
  rw [List.append_assoc, trim, List.dropWhile_append_of_pos ha, List.dropWhile_append]
  split
  · rename_i hnil
    rw [List.dropWhile_eq_nil_iff.2 hb, trim, List.isEmpty_iff.1 hnil]
  · rw [trimEnd_of_blanks hb, trim]

theorem trim_of_blanks (hb : ∀ c ∈ b, isBlank c = true) : trim (cs ++ b) = trim cs :=
  @trim_append cs [] b nofun hb

theorem trimEnd_of_last (h : ∀ c ∈ cs.getLast?, isBlank c = false) : trimEnd cs = cs := by
  rw [trimEnd, dropEndWhile]
  cases hr : cs.reverse with
  | nil => rw [List.reverse_eq_nil_iff.1 hr]; rfl
  | cons c rest =>
    have hlast : cs.getLast? = some c := by rw [← List.head?_reverse, hr]; rfl
    rw [List.dropWhile_cons_of_neg (by rw [h c hlast]; exact Bool.false_ne_true), ← hr,
      List.reverse_reverse]

/-- What is stripped off two texts in a row is what is stripped off the second, unless all of it
is. -/
theorem trimEnd_append (h : ∀ c ∈ (a ++ trimEnd b).getLast?, isBlank c = false) :
    trimEnd (a ++ b) = a ++ trimEnd b := by
  obtain ⟨tail, htail, hblank⟩ := dropEndWhile_split isBlank b
  change b = trimEnd b ++ tail at htail
  conv_lhs => rw [htail, ← List.append_assoc, trimEnd_of_blanks hblank, trimEnd_of_last h]

theorem trimEnd_append_of_ne_nil (h : trimEnd b ≠ []) : trimEnd (a ++ b) = a ++ trimEnd b :=
  trimEnd_append fun c hc => by
    rw [List.getLast?_append_of_ne_nil _ h] at hc
    exact getLast_dropEndWhile hc

theorem trimEnd_append_of_last (h : ∀ c ∈ a.getLast?, isBlank c = false) :
    trimEnd (a ++ b) = a ++ trimEnd b := by
  by_cases hb : trimEnd b = []
  · refine trimEnd_append fun c hc => h c ?_
    rwa [hb, List.append_nil] at hc
  · exact trimEnd_append_of_ne_nil hb

/-- The beginning of a text is its beginning without the white space at the ends, too. -/
theorem prefix_trimEnd (h : a <+: b) : trimEnd a <+: trimEnd b := by
  obtain ⟨rest, rfl⟩ := h
  obtain ⟨tail, htail, -⟩ := dropEndWhile_split isBlank a
  have hsplit : a ++ rest = trimEnd a ++ (tail ++ rest) := by
    rw [← List.append_assoc]
    exact congrArg (· ++ rest) htail
  have hlast : ∀ c ∈ (trimEnd a).getLast?, isBlank c = false := fun c => getLast_dropEndWhile
  rw [hsplit, trimEnd_append_of_last hlast]
  exact List.prefix_append _ _

theorem prefix_trim (h : a <+: b) : trim a <+: trim b := by
  obtain ⟨rest, rfl⟩ := h
  rw [trim, trim, List.dropWhile_append]
  split
  · rename_i hnil
    rw [List.isEmpty_iff.1 hnil]
    exact List.nil_prefix
  · exact prefix_trimEnd (List.prefix_append _ _)

/-- What stands behind a text that does not end in white space is stripped at the front only. -/
theorem trim_append_of_solid (hne : b ≠ []) (hb : ∀ c ∈ b, isBlank c = false) :
    trim (a ++ b) = a.dropWhile isBlank ++ b := by
  have hfront : b.dropWhile isBlank = b := by
    cases b with
    | nil => rfl
    | cons x b => exact List.dropWhile_cons_of_neg (by rw [hb x (.head _)]; exact Bool.false_ne_true)
  have hdrop : (a ++ b).dropWhile isBlank = a.dropWhile isBlank ++ b := by
    rw [List.dropWhile_append]
    split
    · rename_i hnil
      rw [List.isEmpty_iff.1 hnil, hfront, List.nil_append]
    · rfl
  rw [trim, hdrop]
  refine trimEnd_of_last fun c hc => hb c ?_
  rw [List.getLast?_append_of_ne_nil _ hne] at hc
  exact List.mem_of_getLast? hc

/-! ## Cuts -/

theorem cutLast_eq_none : cutLast? sep cs = none ↔ sep ∉ cs := by
  induction cs with
  | nil => simp [cutLast?]
  | cons c cs ih =>
    simp only [cutLast?, List.mem_cons, not_or]
    cases h : cutLast? sep cs with
    | none =>
      have hn : sep ∉ cs := ih.1 h
      by_cases hc : c = sep
      · simp [hc]
      · simp [hc, hn, Ne.symm hc]
    | some x =>
      have hm : sep ∈ cs := by
        by_contra hn
        rw [ih.2 hn] at h
        cases h
      simp [hm]

theorem cutLast_eq_some : cutLast? sep cs = some (a, b) ↔ cs = a ++ sep :: b ∧ sep ∉ b := by
  induction cs generalizing a b with
  | nil => simp [cutLast?]
  | cons c cs ih =>
    simp only [cutLast?]
    cases h : cutLast? sep cs with
    | some x =>
      obtain ⟨a', b'⟩ := x
      obtain ⟨hcs, hb'⟩ := ih.1 h
      constructor
      · rintro ⟨⟩
        exact ⟨by rw [hcs, List.cons_append], hb'⟩
      · rintro ⟨he, hb⟩
        cases a with
        | nil =>
          -- the separator would stand behind the last cut
          obtain ⟨-, rfl⟩ := List.cons.inj he
          exact absurd (hcs ▸ List.mem_append_right a' (List.mem_cons_self)) hb
        | cons x a =>
          rw [List.cons_append, List.cons.injEq] at he
          obtain ⟨rfl, he⟩ := he
          have := ih.2 ⟨he, hb⟩
          rw [h] at this
          cases this
          rfl
    | none =>
      have hn : sep ∉ cs := cutLast_eq_none.1 h
      change (if c = sep then some ([], cs) else none) = some (a, b) ↔ _
      constructor
      · intro he
        split at he
        · rename_i hc
          cases he
          exact ⟨by rw [hc]; rfl, hn⟩
        · cases he
      · rintro ⟨he, hb⟩
        cases a with
        | nil =>
          obtain ⟨rfl, rfl⟩ := List.cons.inj he
          simp
        | cons x a =>
          obtain ⟨rfl, rfl⟩ := List.cons.inj he
          exact absurd (List.mem_append_right a (List.mem_cons_self)) hn

theorem behind_eq_some {lead : List Char} : behind? lead cs = some b ↔ cs = lead ++ b := by
  induction lead generalizing cs with
  | nil => simp [behind?]
  | cons x lead ih =>
    cases cs with
    | nil => simp [behind?]
    | cons c cs =>
      simp only [behind?]
      by_cases h : x = c
      · simp [h, ih]
      · simp [h, Ne.symm h]

/-- A separator is found where its first character stands first. -/
theorem cutFirst_append {x : Char} {sep : List Char} (ha : x ∉ a) :
    cutFirst? (x :: sep) (a ++ x :: (sep ++ b)) = some (a, b) := by
  induction a with
  | nil =>
    have hb : behind? (x :: sep) (x :: (sep ++ b)) = some b := behind_eq_some.2 rfl
    simp only [List.nil_append, cutFirst?, hb]
  | cons c a ih =>
    have hc : x ≠ c := fun e => ha (e ▸ .head _)
    have hb : behind? (x :: sep) (c :: (a ++ x :: (sep ++ b))) = none := by
      simp only [behind?, if_neg hc]
    simp only [List.cons_append, cutFirst?, hb, ih fun h => ha (.tail _ h), Option.map_some]

theorem cutFirst_isSome {sep : List Char} : (cutFirst? sep cs).isSome = true ↔ sep <:+: cs := by
  induction cs with
  | nil =>
    simp only [cutFirst?, Option.isSome_map]
    cases sep with
    | nil => simp [behind?]
    | cons x sep => simp [behind?]
  | cons c cs ih =>
    simp only [cutFirst?]
    rw [List.infix_cons_iff]
    cases h : behind? sep (c :: cs) with
    | some rest => simp [behind_eq_some.1 h]
    | none =>
      have hn : ¬ sep <+: c :: cs := by
        rintro ⟨rest, hr⟩
        rw [behind_eq_some.2 hr.symm] at h
        cases h
      simp [hn, ih]

/-- A sign does not reach into a text that lacks the last of its characters. -/
theorem infix_of_append {sign : List Char} (hc : c ∉ b) (h : sign ++ [c] <:+: a ++ b) :
    sign ++ [c] <:+: a := by
  obtain ⟨front, back, hab⟩ := h
  rcases List.append_eq_append_iff.1 hab with ⟨rest, ha, -⟩ | ⟨beyond, ha, hb⟩
  · exact ⟨front, rest, ha.symm⟩
  · rcases List.eq_nil_or_concat beyond with rfl | ⟨init, last, rfl⟩
    · exact ⟨front, [], by simpa using ha⟩
    · rw [List.concat_eq_append, ← List.append_assoc, ← List.append_assoc] at ha
      obtain ⟨-, hlast⟩ := List.append_inj' ha rfl
      cases hlast
      refine absurd ?_ hc
      rw [hb]
      simp

/-! ## Lower case -/

theorem toLower_of_upper (h : c.isUpper = true) : c.toLower.isLower = true := by
  have hc : c.val ≥ 'A'.val ∧ c.val ≤ 'Z'.val := of_decide_eq_true h
  have hlow : c.toLower.val = c.val + ('a'.val - 'A'.val) := congrArg Char.val (dif_pos hc)
  refine Bool.and_eq_true_iff.2 ⟨decide_eq_true ?_, decide_eq_true ?_⟩ <;> rw [hlow] <;>
    grind [UInt32.toNat_add, UInt32.le_iff_toNat_le]

theorem not_alpha_of_digit (h : c.isDigit = true) : c.isAlpha = false := by
  obtain ⟨-, h9⟩ := Bool.and_eq_true_iff.1 h
  have hle : c.val ≤ '9'.val := of_decide_eq_true h9
  refine Bool.or_eq_false_iff.2 ⟨decide_eq_false fun hu => ?_, Bool.and_eq_false_iff.2 (.inl ?_)⟩
  · have := hu.1
    grind [UInt32.le_iff_toNat_le]
  · refine decide_eq_false fun hl => ?_
    grind [UInt32.le_iff_toNat_le]

theorem toLower_of_not_upper (h : c.isUpper = false) : c.toLower = c :=
  dif_neg (of_decide_eq_false h)

theorem alpha_toLower (h : c.isAlpha = true) : c.toLower.isAlpha = true := by
  cases hu : c.isUpper with
  | true => exact Bool.or_eq_true_iff.2 (.inr (toLower_of_upper hu))
  | false => rwa [toLower_of_not_upper hu]

theorem not_upper_of_lower (h : c.isLower = true) : c.isUpper = false := by
  refine decide_eq_false fun hu => ?_
  have hl := of_decide_eq_true (Bool.and_eq_true_iff.1 h).1
  have := hu.2
  grind [UInt32.le_iff_toNat_le]

theorem lowerAscii_lowerAscii (cs : List Char) : lowerAscii (lowerAscii cs) = lowerAscii cs := by
  rw [lowerAscii, lowerAscii, List.map_map]
  refine List.map_congr_left fun c _ => ?_
  cases hc : c.isUpper with
  | false => rw [Function.comp, toLower_of_not_upper hc, toLower_of_not_upper hc]
  | true => exact toLower_of_not_upper (not_upper_of_lower (toLower_of_upper hc))

/-- What is no letter stays as it is, and nothing else becomes it. -/
theorem mem_lowerAscii (hc : c.isAlpha = false) : c ∈ lowerAscii cs ↔ c ∈ cs := by
  obtain ⟨hup, hlow⟩ := Bool.or_eq_false_iff.1 hc
  constructor
  · intro h
    obtain ⟨x, hx, rfl⟩ := List.mem_map.1 h
    cases hx' : x.isUpper with
    | true =>
      rw [toLower_of_upper hx'] at hlow
      cases hlow
    | false => rwa [toLower_of_not_upper hx']
  · intro h
    exact List.mem_map.2 ⟨c, h, toLower_of_not_upper hup⟩

theorem eq_of_toLower {x : Char} (hc : c.isAlpha = false) (h : x.toLower = c) : x = c := by
  have hm : c ∈ lowerAscii [x] := h ▸ .head _
  exact (List.mem_singleton.1 ((mem_lowerAscii hc).1 hm)).symm

/-- A sign without letters occurs in lower case only where it occurs. -/
theorem infix_of_lowerAscii {sign : List Char} (hs : ∀ c ∈ sign, c.isAlpha = false)
    (h : sign <:+: lowerAscii cs) : sign <:+: cs := by
  have hkeep : ∀ {l : List Char}, l.map Char.toLower = sign → l = sign := by
    intro l hl
    have hid : l.map Char.toLower = l.map id := List.map_congr_left fun x hx =>
      (eq_of_toLower (hs _ (hl ▸ List.mem_map_of_mem hx)) rfl).symm
    rw [← hl, hid, List.map_id]
  obtain ⟨a, b, hab⟩ := h
  obtain ⟨front, b', rfl, hfront, -⟩ := List.map_eq_append_iff.1 hab.symm
  obtain ⟨a', sign', rfl, -, hsign⟩ := List.map_eq_append_iff.1 hfront
  exact ⟨a', b', by rw [hkeep hsign]⟩

theorem marked_of_lowerAscii (h : [':', '/', '/'] <:+: lowerAscii cs) : [':', '/', '/'] <:+: cs :=
  infix_of_lowerAscii (by simp) h

/-- Texts that agree up to case agree in all that is no letter. -/
theorem mem_of_sameLetters (hl : lowerAscii a = lowerAscii b) (hc : c.isAlpha = false) :
    c ∈ a ↔ c ∈ b := by
  rw [← mem_lowerAscii hc, hl, mem_lowerAscii hc]

theorem head_of_sameLetters (hl : lowerAscii a = lowerAscii b) (hc : c.isAlpha = false)
    (hb : b.head? = some c) : a.head? = some c := by
  cases b with
  | nil => cases hb
  | cons y b =>
    cases hb
    cases a with
    | nil => cases hl
    | cons x a =>
      have hx : lowerAscii [x] = lowerAscii [c] := congrArg (fun y => [y]) (List.cons.inj hl).1
      have hm : c ∈ [x] := (mem_of_sameLetters hx hc).2 (.head _)
      rw [List.mem_singleton.1 hm]
      rfl

theorem toLower_ne_of_alpha {x : Char} (h : x.isDigit = true ∨ x = '.') (hc : c.isAlpha = true) :
    x.toLower ≠ c.toLower := by
  have hx : x.isAlpha = false := by
    rcases h with h | rfl
    · exact not_alpha_of_digit h
    · rfl
  intro he
  have hm : x ∈ lowerAscii [c] := by
    rw [← toLower_of_not_upper (Bool.or_eq_false_iff.1 hx).1, he]
    exact .head _
  rw [List.mem_singleton.1 ((mem_lowerAscii hx).1 hm), hc] at hx
  cases hx

theorem not_alpha_of_blank (h : isBlank c = true) : c.isAlpha = false := by
  simp only [isBlank, Bool.or_eq_true, Bool.and_eq_true, beq_iff_eq, decide_eq_true_eq] at h
  refine Bool.or_eq_false_iff.2 ⟨decide_eq_false fun hu => ?_, Bool.eq_false_iff.2 fun hl => ?_⟩
  · have hu : 0x41 ≤ c.toNat ∧ c.toNat ≤ 0x5a := hu
    omega
  · obtain ⟨hlow, hhigh⟩ := Bool.and_eq_true_iff.1 hl
    have hlow : 0x61 ≤ c.toNat := of_decide_eq_true hlow
    have hhigh : c.toNat ≤ 0x7a := of_decide_eq_true hhigh
    omega

theorem solid_lowerAscii (h : ∀ c ∈ cs, isBlank c = false) :
    ∀ c ∈ lowerAscii cs, isBlank c = false := by
  intro c hc
  by_contra hb
  rw [Bool.not_eq_false] at hb
  exact Bool.false_ne_true ((h c ((mem_lowerAscii (not_alpha_of_blank hb)).1 hc)).symm.trans hb)

theorem isBlank_toLower (c : Char) : isBlank c.toLower = isBlank c := by
  cases hc : c.isUpper with
  | false => rw [toLower_of_not_upper hc]
  | true =>
    have hlow : isBlank c.toLower = false := Bool.eq_false_iff.2 fun hb => by
      have := (Bool.or_eq_false_iff.1 (not_alpha_of_blank hb)).2
      rw [toLower_of_upper hc] at this
      cases this
    have hup : isBlank c = false := Bool.eq_false_iff.2 fun hb => by
      have := (Bool.or_eq_false_iff.1 (not_alpha_of_blank hb)).1
      rw [hc] at this
      cases this
    rw [hlow, hup]

theorem trim_lowerAscii (cs : List Char) : trim (lowerAscii cs) = lowerAscii (trim cs) := by
  have hdrop : ∀ l : List Char,
      (l.map Char.toLower).dropWhile isBlank = (l.dropWhile isBlank).map Char.toLower := fun l => by
    rw [List.dropWhile_map]
    exact congrArg _ (congrArg (fun p => l.dropWhile p) (funext isBlank_toLower))
  rw [trim, lowerAscii, hdrop, trimEnd, dropEndWhile, ← List.map_reverse, hdrop, ← List.map_reverse]
  rfl

theorem cutLast_lowerAscii (hs : sep.isAlpha = false) (cs : List Char) :
    cutLast? sep (lowerAscii cs) =
      (cutLast? sep cs).map fun p => (lowerAscii p.1, lowerAscii p.2) := by
  cases hc : cutLast? sep cs with
  | none =>
    rw [cutLast_eq_none] at hc
    exact cutLast_eq_none.2 fun hm => hc ((mem_lowerAscii hs).1 hm)
  | some p =>
    obtain ⟨a, b⟩ := p
    obtain ⟨rfl, hb⟩ := cutLast_eq_some.1 hc
    have hsep : sep.toLower = sep := toLower_of_not_upper (Bool.or_eq_false_iff.1 hs).1
    refine cutLast_eq_some.2 ⟨?_, fun hm => hb ((mem_lowerAscii hs).1 hm)⟩
    rw [lowerAscii, List.map_append, List.map_cons, hsep]
    rfl

end GridKeeper.Text

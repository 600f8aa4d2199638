import GridKeeper.Ledger
import GridKeeper.Proofs.Texts

/-!
# Lists on one line

A list is put on one line with a delimiter between its items. The items have no white space, and so
the delimiter is found between them and nowhere else. If the line is cut off, what is left is the
line of what is left of the list: the first items, and perhaps a part of the next one, or the comma
behind it.

**Results.**
* `piecesOf_joined`: the pieces of the line are the items.
* `last_joined`: the line ends with no white space.
* `exists_leftOn`: what is left of the line of a list is the line of what is left of the list.
-/
namespace GridKeeper.Text

variable {cs a b piece : List Char} {x y : Char} {texts left : List String}

/-! ## Pieces of a line -/

theorem behind_pair {c : Char} (h : cs.head? ≠ some y) : behind? [x, y] (c :: cs) = none := by
  rw [Option.eq_none_iff_forall_ne_some]
  intro rest hr
  cases behind_eq_some.1 hr
  exact h rfl

/-- A piece without the second sign of the separator ends where the separator begins. -/
theorem piecesFrom_append (hxy : x ≠ y) (ha : y ∉ a) :
    piecesFrom [x, y] 0 piece (a ++ x :: y :: b) = (piece.reverse ++ a) :: piecesOf [x, y] b := by
  induction a generalizing piece with
  | nil => simp [piecesFrom, piecesOf, behind?]
  | cons c a ih =>
    have ha : y ∉ a := fun hm => ha (.tail _ hm)
    have hhead : (a ++ x :: y :: b).head? ≠ some y := by
      cases a with
      | nil => simpa using hxy
      | cons d a => exact fun e => ha (Option.some.inj e ▸ .head _)
    rw [List.cons_append, piecesFrom, behind_pair hhead]
    dsimp only
    rw [ih ha]
    simp

theorem piecesFrom_last (ha : y ∉ a) : piecesFrom [x, y] 0 piece a = [piece.reverse ++ a] := by
  induction a generalizing piece with
  | nil => simp [piecesFrom]
  | cons c a ih =>
    have ha : y ∉ a := fun hm => ha (.tail _ hm)
    rw [piecesFrom, behind_pair fun e => ha (List.mem_of_head? e)]
    dsimp only
    rw [ih ha]
    simp

/-- The text is not empty and has no white space. -/
def Item (text : String) : Prop := text.toList ≠ [] ∧ ∀ c ∈ text.toList, isBlank c = false

theorem Item.no_space {text : String} (h : Item text) : ' ' ∉ text.toList := fun hm => by
  cases h.2 ' ' hm

theorem toList_joined (t u : String) (texts : List String) :
    (joined Ledger.delimiter (t :: u :: texts)).toList =
      t.toList ++ ',' :: ' ' :: (joined Ledger.delimiter (u :: texts)).toList := by
  simp [joined, Ledger.delimiter]

theorem piecesOf_joined (h : ∀ t ∈ texts, Item t) (hne : texts ≠ []) :
    piecesOf Ledger.delimiter.toList (joined Ledger.delimiter texts).toList =
      texts.map String.toList := by
  have hsep : Ledger.delimiter.toList = [',', ' '] := by decide
  rw [hsep]
  induction texts with
  | nil => exact absurd rfl hne
  | cons t texts ih =>
    have ht := (h t (.head _)).no_space
    cases texts with
    | nil => exact piecesFrom_last ht
    | cons u texts =>
      rw [toList_joined, piecesOf, piecesFrom_append (by decide) ht,
        ih (fun v hv => h v (.tail _ hv)) (List.cons_ne_nil _ _)]
      rfl

theorem prefix_joined (t : String) (texts : List String) :
    t.toList <+: (joined Ledger.delimiter (t :: texts)).toList := by
  cases texts with
  | nil => exact List.prefix_refl _
  | cons u texts =>
    rw [toList_joined]
    exact List.prefix_append _ _

theorem joined_ne_nil {t : String} (h : Item t) (texts : List String) :
    (joined Ledger.delimiter (t :: texts)).toList ≠ [] := fun e =>
  h.1 (List.prefix_nil.1 (e ▸ prefix_joined t texts))

theorem last_joined (h : ∀ t ∈ texts, Item t) :
    ∀ c ∈ (joined Ledger.delimiter texts).toList.getLast?, isBlank c = false := by
  induction texts with
  | nil => nofun
  | cons t texts ih =>
    cases texts with
    | nil => exact fun c hc => (h t (.head _)).2 c (List.mem_of_getLast? hc)
    | cons u texts =>
      have hrest := joined_ne_nil (h u (.tail _ (.head _))) texts
      rw [toList_joined, List.append_cons, List.append_cons, List.getLast?_append_of_ne_nil _ hrest]
      exact ih fun v hv => h v (.tail _ hv)

/-! ## Lines that are cut off -/

/-- What is left of a list when its line is cut off: the first texts are whole, and the next one may
be there in part, or with the comma that stands behind it. -/
inductive LeftOf : List String → List String → Prop
  | none (texts : List String) : LeftOf [] texts
  | part {s t : String} (rest : List String) (h : s.toList <+: t.toList) : LeftOf [s] (t :: rest)
  | comma (t : String) (rest : List String) : LeftOf [t ++ ","] (t :: rest)
  | whole (t : String) {left rest : List String} (h : LeftOf left rest) :
      LeftOf (t :: left) (t :: rest)

/-- The text is what there is of the line of a list, and `left` what there is of the list. -/
structure LeftOn (texts left : List String) (a : List Char) : Prop where
  begins : LeftOf left texts
  items : ∀ s ∈ left, Item s
  line : trimEnd a = (joined Ledger.delimiter left).toList

theorem leftOn_part {t : String} (ht : Item t) (ha : a <+: t.toList) (rest : List String) :
    ∃ left, LeftOn (t :: rest) left a := by
  have hsolid : ∀ c ∈ a, isBlank c = false := fun c hc => ht.2 c (ha.subset hc)
  by_cases hne : a = []
  · exact ⟨[], .none _, nofun, by rw [hne]; rfl⟩
  · refine ⟨[String.ofList a], .part rest (by rwa [String.toList_ofList]), ?_, ?_⟩
    · exact List.forall_mem_singleton.2 (by rw [Item, String.toList_ofList]; exact ⟨hne, hsolid⟩)
    · rw [trimEnd_of_last fun c hc => hsolid c (List.mem_of_getLast? hc), joined,
        String.toList_ofList]

theorem leftOn_comma {t : String} (ht : Item t) (rest : List String) (hb : trimEnd b = []) :
    LeftOn (t :: rest) [t ++ ","] (t.toList ++ ',' :: b) where
  begins := .comma t rest
  items := List.forall_mem_singleton.2 ⟨by simp, fun c hc => by
    rw [String.toList_append, List.mem_append] at hc
    rcases hc with hc | hc
    · exact ht.2 c hc
    · rw [List.mem_singleton.1 hc]
      rfl⟩
  line := by
    rw [List.append_cons, trimEnd_append_of_last (by simp [isBlank]), hb, joined,
      String.toList_append, List.append_nil]
    rfl

theorem leftOn_whole {t : String} (ht : Item t) (h : LeftOn texts left b) :
    ∃ left, LeftOn (t :: texts) left (t.toList ++ ',' :: ' ' :: b) := by
  cases left with
  | nil =>
    have hb : trimEnd (' ' :: b) = [] := by
      have hline : trimEnd b = [] := h.line
      obtain ⟨tail, htail, hblank⟩ := dropEndWhile_split isBlank b
      change b = trimEnd b ++ tail at htail
      rw [htail, hline, List.nil_append]
      exact @trimEnd_of_blanks [] (' ' :: tail) (List.forall_mem_cons.2 ⟨rfl, hblank⟩)
    exact ⟨_, leftOn_comma ht texts hb⟩
  | cons s left =>
    have hne : trimEnd b ≠ [] := by
      rw [h.line]
      exact joined_ne_nil (h.items s (.head _)) left
    refine ⟨t :: s :: left, .whole t h.begins, List.forall_mem_cons.2 ⟨ht, h.items⟩, ?_⟩
    rw [List.append_cons, List.append_cons, trimEnd_append_of_ne_nil hne, h.line, toList_joined,
      List.append_assoc, List.append_assoc]
    rfl

/-- What is left of the line of a list is the line of what is left of the list. -/
theorem exists_leftOn (h : ∀ t ∈ texts, Item t)
    (ha : a <+: (joined Ledger.delimiter texts).toList) : ∃ left, LeftOn texts left a := by
  induction texts generalizing a with
  | nil =>
    rw [List.prefix_nil.1 ha]
    exact ⟨[], .none [], nofun, rfl⟩
  | cons t texts ih =>
    have ht := h t (.head _)
    cases texts with
    | nil => exact leftOn_part ht ha []
    | cons u texts =>
      rw [toList_joined] at ha
      rcases List.prefix_or_prefix_of_prefix ha (List.prefix_append _ _) with hat | ⟨b, rfl⟩
      · exact leftOn_part ht hat _
      · have hb := (List.prefix_append_right_inj _).1 ha
        rcases List.prefix_cons_iff.1 hb with rfl | ⟨c, rfl, hc⟩
        · exact leftOn_part ht (by simp) _
        · rcases List.prefix_cons_iff.1 hc with rfl | ⟨d, rfl, hd⟩
          · exact ⟨_, leftOn_comma ht _ rfl⟩
          · obtain ⟨left, hleft⟩ := ih (fun v hv => h v (.tail _ hv)) hd
            exact leftOn_whole ht hleft

end GridKeeper.Text

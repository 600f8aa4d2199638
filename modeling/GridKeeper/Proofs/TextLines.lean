import GridKeeper.Proofs.Texts

/-!
# Lines of texts

A line ends in front of a line feed or with the text. The carriage return that may stand there is
white space and goes with the rest of it, so that a line, once it is stripped, is what stands before
the line feed.

**Results.**
* `lines_append`: a line feed ends the first line.
* `line_cases`: a text is its first line, or goes on behind it with a line feed.
* `trim_headD_lines`, `trimEnd_headD_lines`: the first of the lines, less the white space, is what
  stands before the first line feed.
* `drop_lines`: the lines behind the first one are those of what stands behind it.
-/
namespace GridKeeper.Text

variable {cs a b : List Char} {c : Char}

/-! ## Pieces and lines -/

theorem pieces_append (h : c ∉ a) : pieces c (a ++ c :: b) = a :: pieces c b := by
  induction a with
  | nil => rw [List.nil_append, pieces, if_pos rfl]
  | cons x a ih =>
    obtain ⟨hx, ha⟩ := not_or.1 fun hm => h (List.mem_cons.2 hm)
    rw [List.cons_append, pieces, if_neg (Ne.symm hx), ih ha]

theorem pieces_ne_nil (c : Char) (cs : List Char) : pieces c cs ≠ [] := by
  cases cs with
  | nil => exact List.cons_ne_nil _ _
  | cons x cs =>
    rw [pieces]
    split
    · exact List.cons_ne_nil _ _
    · split <;> exact List.cons_ne_nil _ _

theorem mem_pieces {sep : Char} (hm : c ∈ cs) (hc : c ≠ sep) :
    ∃ piece ∈ pieces sep cs, c ∈ piece := by
  induction cs with
  | nil => cases hm
  | cons x xs ih =>
    simp only [pieces]
    split
    · rename_i hx
      have hm : c ∈ xs := (List.mem_cons.1 hm).resolve_left fun e => hc (e.trans hx)
      obtain ⟨piece, hp, hcp⟩ := ih hm
      exact ⟨piece, .tail _ hp, hcp⟩
    · cases hp : pieces sep xs with
      | nil =>
        rcases List.mem_cons.1 hm with rfl | hm
        · exact ⟨_, .head _, .head _⟩
        · obtain ⟨piece, hpm, -⟩ := ih hm
          rw [hp] at hpm
          cases hpm
      | cons first rest =>
        rcases List.mem_cons.1 hm with rfl | hm
        · exact ⟨_, .head _, .head _⟩
        · obtain ⟨piece, hpm, hcp⟩ := ih hm
          rw [hp] at hpm
          rcases List.mem_cons.1 hpm with rfl | hpm
          · exact ⟨_, .head _, .tail _ hcp⟩
          · exact ⟨piece, .tail _ hpm, hcp⟩

theorem lines_append (h : '\n' ∉ a) : lines (a ++ '\n' :: b) = dropReturn a :: lines b := by
  rw [lines, pieces_append h, lines]
  cases hp : pieces '\n' b with
  | nil => exact absurd hp (pieces_ne_nil _ _)
  | cons piece rest => rfl

theorem pieces_of_not_mem (h : c ∉ cs) : pieces c cs = [cs] := by
  induction cs with
  | nil => rfl
  | cons x cs ih =>
    obtain ⟨hx, hcs⟩ := not_or.1 fun hm => h (List.mem_cons.2 hm)
    rw [pieces, if_neg (Ne.symm hx), ih hcs]

/-- What stands before the end of a text is its line, if there is no line feed. -/
theorem headD_lines (h : '\n' ∉ cs) : (lines cs).headD [] = cs := by
  rw [lines, pieces_of_not_mem h]
  cases cs <;> rfl

/-- What is dropped is white space. -/
theorem dropReturn_split (cs : List Char) :
    ∃ b, cs = dropReturn cs ++ b ∧ ∀ c ∈ b, isBlank c = true := by
  rw [dropReturn]
  split
  · rename_i hlast
    obtain ⟨front, rfl⟩ := List.getLast?_eq_some_iff.1 hlast
    exact ⟨['\r'], by rw [List.dropLast_concat], List.forall_mem_singleton.2 rfl⟩
  · exact ⟨[], (List.append_nil cs).symm, nofun⟩

theorem trimEnd_dropReturn (cs : List Char) : trimEnd (dropReturn cs) = trimEnd cs := by
  obtain ⟨b, hb, hblank⟩ := dropReturn_split cs
  conv_rhs => rw [hb, trimEnd_of_blanks hblank]

theorem trim_dropReturn (cs : List Char) : trim (dropReturn cs) = trim cs := by
  obtain ⟨b, hb, hblank⟩ := dropReturn_split cs
  conv_rhs => rw [hb, trim_of_blanks hblank]

/-- What stands before the first line feed. -/
def firstLine (cs : List Char) : List Char := cs.takeWhile (· ≠ '\n')

theorem firstLine_of_not_mem (h : '\n' ∉ cs) : firstLine cs = cs :=
  List.takeWhile_eq_self_iff.2 fun _ hc => decide_eq_true fun e => h (e ▸ hc)

theorem not_mem_firstLine (cs : List Char) : '\n' ∉ firstLine cs := fun hm => by
  have := List.mem_takeWhile_imp hm
  simp at this

/-- A text with a line feed behind it goes on behind its first line with a line feed. -/
theorem firstLine_split (cs : List Char) : ∃ rest, cs ++ ['\n'] = firstLine cs ++ '\n' :: rest := by
  induction cs with
  | nil => exact ⟨[], rfl⟩
  | cons c cs ih =>
    by_cases hc : c = '\n'
    · exact ⟨cs ++ ['\n'], by simp [firstLine, hc]⟩
    · obtain ⟨rest, hrest⟩ := ih
      refine ⟨rest, ?_⟩
      rw [firstLine, List.takeWhile_cons_of_pos (by simpa using hc), List.cons_append, hrest]
      rfl

/-! ## The first two lines -/

/-- What stands behind the first line feed. -/
def behindLine (cs : List Char) : List Char := (cs.dropWhile (· ≠ '\n')).tail

/-- What stands behind the first line feed, up to the next one. -/
def secondLine (cs : List Char) : List Char := firstLine (behindLine cs)

theorem before_feed (h : '\n' ∉ a) : ∀ c ∈ a, decide (c ≠ '\n') = true :=
  fun _ hc => decide_eq_true fun e => h (e ▸ hc)

theorem firstLine_append (h : '\n' ∉ a) : firstLine (a ++ '\n' :: b) = a := by
  rw [firstLine, List.takeWhile_append_of_pos (before_feed h),
    List.takeWhile_cons_of_neg (by simp), List.append_nil]

theorem behindLine_append (h : '\n' ∉ a) : behindLine (a ++ '\n' :: b) = b := by
  rw [behindLine, List.dropWhile_append_of_pos (before_feed h),
    List.dropWhile_cons_of_neg (by simp), List.tail_cons]

theorem behindLine_of_not_mem (h : '\n' ∉ cs) : behindLine cs = [] := by
  rw [behindLine, List.dropWhile_eq_nil_iff.2 (before_feed h), List.tail_nil]

/-- A text is its first line, or goes on behind it with a line feed. -/
theorem line_cases (cs : List Char) :
    '\n' ∉ cs ∨ ∃ a b, '\n' ∉ a ∧ cs = a ++ '\n' :: b := by
  by_cases h : '\n' ∈ cs
  · obtain ⟨a, b, hcs, ha⟩ := List.eq_append_cons_of_mem h
    exact .inr ⟨a, b, ha, hcs⟩
  · exact .inl h

theorem headD_lines_cases (cs : List Char) :
    (lines cs).headD [] = firstLine cs ∨ (lines cs).headD [] = dropReturn (firstLine cs) := by
  obtain h | ⟨a, b, ha, rfl⟩ := line_cases cs
  · exact .inl (by rw [headD_lines h, firstLine_of_not_mem h])
  · exact .inr (by rw [lines_append ha, List.headD_cons, firstLine_append ha])

theorem trim_headD_lines (cs : List Char) : trim ((lines cs).headD []) = trim (firstLine cs) := by
  obtain h | h := headD_lines_cases cs
  · rw [h]
  · rw [h, trim_dropReturn]

theorem trimEnd_headD_lines (cs : List Char) :
    trimEnd ((lines cs).headD []) = trimEnd (firstLine cs) := by
  obtain h | h := headD_lines_cases cs
  · rw [h]
  · rw [h, trimEnd_dropReturn]

/-- The lines behind the first one are those of what stands behind it. -/
theorem drop_lines (cs : List Char) : (lines cs).drop 1 = lines (behindLine cs) := by
  obtain h | ⟨a, b, ha, rfl⟩ := line_cases cs
  · have hpieces : pieces '\n' cs = [cs] := pieces_of_not_mem h
    rw [behindLine_of_not_mem h, lines, hpieces, linesOfPieces]
    split <;> rfl
  · rw [lines_append ha, behindLine_append ha, List.drop_succ_cons, List.drop_zero]

theorem not_mem_trimEnd (h : '\n' ∉ cs) : '\n' ∉ trimEnd cs := fun hm => by
  obtain ⟨b, hb, -⟩ := dropEndWhile_split isBlank cs
  change cs = trimEnd cs ++ b at hb
  exact h (hb ▸ List.mem_append_left b hm)

end GridKeeper.Text

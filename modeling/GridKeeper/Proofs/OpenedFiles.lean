import GridKeeper.Files
import Mathlib.Tactic.Common

/-!
# Opened files

A file is told by what stands at its path, and opening it makes one where nothing stands. Files are
only added that way, and what is found stays where it is; so the same path goes on leading to the
same file.

**Results.**
* `openFile_cases`: what opening a file does.
* `openFile_again`, `openFile_after`: a file that was opened is the one that is opened again,
  whatever other files are made in between.
-/
namespace GridKeeper

namespace Files

variable {fs : Files} {names here there : List String} {path other name : String} {n m : Nat}
  {isProgram : Bool} {e : Entry} {a : Arrival}

/-! ## What is found stays found -/

theorem at?_addFile (h : fs.at? here = some e) (names : List String) (isProgram : Bool) :
    (fs.addFile names isProgram).at? here = some e := by
  unfold at? at h ⊢
  split
  · rename_i he
    rwa [if_pos he] at h
  · rename_i he
    rw [if_neg he] at h
    rw [addFile, List.lookup_append, h]
    rfl

theorem at?_addFile_self (hn : names ≠ []) (h : fs.at? names = none) (isProgram : Bool) :
    (fs.addFile names isProgram).at? names = some (.file fs.next isProgram) := by
  have hne : names.isEmpty = false := List.isEmpty_eq_false_iff.2 hn
  unfold at? at h ⊢
  rw [hne] at h ⊢
  simp only [Bool.false_eq_true, if_false] at h ⊢
  rw [addFile, List.lookup_append, h]
  simp

theorem enter_addFile (h : fs.enter here name = .ok there) (names : List String)
    (isProgram : Bool) : (fs.addFile names isProgram).enter here name = .ok there := by
  unfold enter at h ⊢
  by_cases hstay : name = "."
  · rwa [if_pos hstay] at h ⊢
  by_cases hback : name = ".."
  · rwa [if_neg hstay, if_pos hback] at h ⊢
  by_cases hlong : longestName < name.utf8ByteSize
  · rw [if_neg hstay, if_neg hback, if_pos hlong] at h
    cases h
  rw [if_neg hstay, if_neg hback, if_neg hlong] at h ⊢
  cases hat : fs.at? (here ++ [name]) with
  | none => rw [hat] at h; cases h
  | some e =>
    rw [hat] at h
    rw [at?_addFile hat]
    exact h

theorem foldlM_enter_addFile {steps : List String} (h : steps.foldlM fs.enter here = .ok there)
    (names : List String) (isProgram : Bool) :
    steps.foldlM (fs.addFile names isProgram).enter here = .ok there := by
  induction steps generalizing here with
  | nil => exact h
  | cons step steps ih =>
    rw [List.foldlM_cons] at h ⊢
    cases hs : fs.enter here step with
    | error f => rw [hs] at h; cases h
    | ok next =>
      rw [hs] at h
      rw [enter_addFile hs]
      exact ih h

theorem follow_addFile (h : fs.follow path = .ok a) (names : List String) (isProgram : Bool) :
    (fs.addFile names isProgram).follow path = .ok a := by
  unfold follow at h ⊢
  by_cases hnul : path.toList.contains '\x00' = true
  · rw [if_pos hnul] at h
    cases h
  by_cases hempty : path.isEmpty = true
  · rw [if_neg hnul, if_pos hempty] at h
    cases h
  by_cases hlong : longestPath < path.utf8ByteSize
  · rw [if_neg hnul, if_neg hempty, if_pos hlong] at h
    cases h
  rw [if_neg hnul, if_neg hempty, if_neg hlong] at h ⊢
  cases hw : (namesOf path).dropLast.foldlM fs.enter
      (if path.toList.head? = some '/' then [] else fs.home) with
  | error f =>
    simp only [hw, bind, Except.bind] at h
    cases h
  | ok here =>
    have hw' := foldlM_enter_addFile hw names isProgram
    simp only [hw, bind, Except.bind] at h
    change (namesOf path).dropLast.foldlM (fs.addFile names isProgram).enter
      (if path.toList.head? = some '/' then [] else (fs.addFile names isProgram).home) = _ at hw'
    simp only [hw', bind, Except.bind]
    cases hlast : (namesOf path).getLast? with
    | none =>
      simp only [hlast] at h ⊢
      exact h
    | some last =>
      simp only [hlast] at h ⊢
      by_cases hdot : last = "." ∨ last = ".."
      · rw [if_pos hdot] at h ⊢
        cases he : fs.enter here last with
        | error f =>
          rw [he] at h
          cases h
        | ok there =>
          rw [he] at h
          rw [enter_addFile he]
          exact h
      · rw [if_neg hdot] at h ⊢
        exact h

/-! ## Files that are opened -/

/-- A file is opened where one stands, and is made where nothing does. -/
theorem openFile_cases {fs' : Files} (h : fs.openFile path = .ok (n, fs')) :
    ∃ here name, fs.follow path = .ok (.named here name) ∧ endsInSlash path = false ∧
      ((∃ isProgram, fs.at? (here ++ [name]) = some (.file n isProgram) ∧ fs' = fs) ∨
        (fs.at? (here ++ [name]) = none ∧ n = fs.next ∧
          fs' = fs.addFile (here ++ [name]) false)) := by
  unfold openFile at h
  cases hf : fs.follow path with
  | error f =>
    rw [hf] at h
    cases h
  | ok a =>
    rw [hf] at h
    cases a with
    | inside here => cases h
    | named here name =>
      simp only [bind, Except.bind] at h
      cases hs : endsInSlash path with
      | true =>
        rw [hs] at h
        cases h
      | false =>
        rw [hs] at h
        simp only [Bool.false_eq_true, if_false] at h
        refine ⟨here, name, rfl, rfl, ?_⟩
        cases hat : fs.at? (here ++ [name]) with
        | none =>
          rw [hat] at h
          cases h
          exact .inr ⟨rfl, rfl, rfl⟩
        | some e =>
          rw [hat] at h
          cases e with
          | directory => cases h
          | file m isProgram =>
            cases h
            exact .inl ⟨isProgram, rfl, rfl⟩

theorem openFile_of_file (hf : fs.follow path = .ok (.named here name))
    (hs : endsInSlash path = false) (hat : fs.at? (here ++ [name]) = some (.file n isProgram)) :
    fs.openFile path = .ok (n, fs) := by
  unfold openFile
  simp only [hf, bind, Except.bind, hs, Bool.false_eq_true, if_false, hat]

/-- A file that was opened is the one that is opened again. -/
theorem openFile_again {fs' : Files} (h : fs.openFile path = .ok (n, fs')) :
    fs'.openFile path = .ok (n, fs') := by
  obtain ⟨here, name, hf, hs, ⟨isProgram, hat, rfl⟩ | ⟨hat, rfl, rfl⟩⟩ := openFile_cases h
  · exact openFile_of_file hf hs hat
  · exact openFile_of_file (follow_addFile hf _ _) hs (at?_addFile_self (by simp) hat _)

/-- It is so whatever other file is opened in between. -/
theorem openFile_after {fs' : Files} (h : fs.openFile path = .ok (n, fs))
    (ho : fs.openFile other = .ok (m, fs')) : fs'.openFile path = .ok (n, fs') := by
  obtain ⟨here, name, hf, hs, ⟨isProgram, hat, -⟩ | ⟨hat, -, he⟩⟩ := openFile_cases h
  · obtain ⟨there, name', -, -, ⟨-, -, rfl⟩ | ⟨-, -, rfl⟩⟩ := openFile_cases ho
    · exact openFile_of_file hf hs hat
    · exact openFile_of_file (follow_addFile hf _ _) hs (at?_addFile hat _ _)
  · have hlength := congrArg (fun fs => fs.entries.length) he
    simp [addFile] at hlength

end Files
end GridKeeper

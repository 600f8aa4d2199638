import GridKeeper.Registry
import Mathlib.Data.Char
import Mathlib.Data.List.Lex

/-!
# The order of the ledger

The ledger lists its nodes in ascending order, and `Ledger.alter` looks for a key only as far as the
order tells it to. `Ordered` is that order; every operation keeps it (`ordered_after`), and under it
the ledger is a map from keys to numbers: changing the number of one key changes that and no other
(`find_alter_self`, `find_alter_other`).

**Results.**
* `before_irrefl`, `before_trans`, `before_total`: keys are linearly ordered.
* `ordered_after`: operations keep the ledger in order.
* `count_addSession`, `count_removeSession`: a session is counted for its own node alone.
-/
namespace GridKeeper

/-! ## The order of keys -/

namespace Node.Key

variable {a b c : Key}

theorem before_iff :
    a.before b = true ↔ a.host.toList < b.host.toList ∨ (a.host = b.host ∧ a.port < b.port) := by
  simp [before]

theorem before_irrefl (a : Key) : ¬ a.before a = true := by
  rw [before_iff]
  rintro (h | ⟨-, h⟩)
  · exact lt_irrefl _ h
  · exact Int.lt_irrefl _ h

theorem before_trans (hab : a.before b = true) (hbc : b.before c = true) : a.before c = true := by
  rw [before_iff] at *
  rcases hab with h | ⟨e, h⟩ <;> rcases hbc with h' | ⟨e', h'⟩
  · exact .inl (lt_trans h h')
  · exact .inl (e' ▸ h)
  · exact .inl (e ▸ h')
  · exact .inr ⟨e.trans e', Int.lt_trans h h'⟩

theorem before_total (a b : Key) : a.before b = true ∨ a = b ∨ b.before a = true := by
  rw [before_iff, before_iff]
  rcases lt_trichotomy a.host.toList b.host.toList with h | h | h
  · exact .inl (.inl h)
  · have hh : a.host = b.host := String.toList_inj.1 h
    rcases Int.lt_trichotomy a.port b.port with hp | hp | hp
    · exact .inl (.inr ⟨hh, hp⟩)
    · exact .inr (.inl (by cases a; cases b; simp_all))
    · exact .inr (.inr (.inr ⟨hh.symm, hp⟩))
  · exact .inr (.inr (.inl h))

theorem ne_of_before (h : a.before b = true) : a ≠ b := fun e => before_irrefl b (e ▸ h)

end Node.Key

/-! ## Entries in order -/

namespace Ledger

open Node

variable {k key : Key} {n : Nat} {f : Nat → Nat} {entries rest : List (Key × Nat)}

/-- Every key comes before all that are listed behind it. -/
def Ordered (entries : List (Key × Nat)) : Prop :=
  entries.Pairwise fun a b => a.1.before b.1 = true

theorem find_of_absent (h : ∀ e ∈ entries, e.1 ≠ k) : find k entries = 0 := by
  induction entries with
  | nil => rfl
  | cons e rest ih =>
    rw [find, if_neg (h e (.head _)), ih fun e' he => h e' (.tail _ he)]

theorem mem_alter {e : Key × Nat} (h : e ∈ alter k f entries) :
    e.1 = k ∨ e ∈ entries := by
  induction entries with
  | nil => exact .inl (by rw [List.mem_singleton.1 h])
  | cons x rest ih =>
    obtain ⟨key, n⟩ := x
    simp only [alter] at h
    split at h
    · rcases List.mem_cons.1 h with rfl | h
      · exact .inl rfl
      · exact .inr (.tail _ h)
    · split at h
      · rcases List.mem_cons.1 h with rfl | h
        · exact .inl rfl
        · exact .inr h
      · rcases List.mem_cons.1 h with rfl | h
        · exact .inr (.head _)
        · exact (ih h).imp_right (.tail _)

theorem ordered_alter (h : Ordered entries) : Ordered (alter k f entries) := by
  induction entries with
  | nil => exact List.pairwise_singleton _ _
  | cons x rest ih =>
    obtain ⟨key, n⟩ := x
    obtain ⟨hx, hr⟩ := List.pairwise_cons.1 h
    simp only [alter]
    split
    · rename_i hk
      exact List.pairwise_cons.2 ⟨fun e he => hk ▸ hx e he, hr⟩
    · rename_i hk
      split
      · rename_i hb
        refine List.pairwise_cons.2 ⟨fun e he => ?_, h⟩
        rcases List.mem_cons.1 he with rfl | he
        · exact hb
        · exact Key.before_trans hb (hx e he)
      · rename_i hb
        have hkey : key.before k = true := by
          rcases Key.before_total key k with h | h | h
          · exact h
          · exact absurd h hk
          · exact absurd h hb
        refine List.pairwise_cons.2 ⟨fun e he => ?_, ih hr⟩
        rcases mem_alter he with he | he
        · exact he ▸ hkey
        · exact hx e he

theorem find_alter_self (h : Ordered entries) : find k (alter k f entries) = f (find k entries) := by
  induction entries with
  | nil => simp [alter, find]
  | cons x rest ih =>
    obtain ⟨key, n⟩ := x
    obtain ⟨hx, hr⟩ := List.pairwise_cons.1 h
    simp only [alter]
    split
    · rename_i hk
      simp [find, hk]
    · rename_i hk
      split
      · rename_i hb
        -- the key would stand before all that are listed, so it is not among them
        have ha : find k ((key, n) :: rest) = 0 := find_of_absent fun e he => by
          rcases List.mem_cons.1 he with rfl | he
          · exact hk
          · exact (Key.ne_of_before (Key.before_trans hb (hx e he))).symm
        rw [ha, find, if_pos rfl]
      · rw [find, if_neg hk, ih hr, find, if_neg hk]

theorem find_alter_other (h : key ≠ k) : find key (alter k f entries) = find key entries := by
  induction entries with
  | nil => simp [alter, find, Ne.symm h]
  | cons x rest ih =>
    obtain ⟨key', n⟩ := x
    simp only [alter]
    split
    · rename_i hk
      have hk' : key' ≠ key := fun e => h (e ▸ hk)
      simp [find, Ne.symm h, hk']
    · split
      · simp [find, Ne.symm h]
      · simp only [find, ih]

/-! ## Operations -/

theorem count_addSession {l : Ledger} (h : Ordered l.sessions) (k key : Key) :
    (l.addSession k).count key = if key = k then up (l.count k) else l.count key := by
  split
  · rename_i e
    rw [e]
    exact find_alter_self h
  · exact find_alter_other ‹_›

theorem count_removeSession {l : Ledger} (h : Ordered l.sessions) (k key : Key) :
    (l.removeSession k).count key = if key = k then down (l.count k) else l.count key := by
  split
  · rename_i e
    rw [e]
    exact find_alter_self h
  · exact find_alter_other ‹_›

theorem ordered_resetAll {l : Ledger} (h : Ordered l.sessions) : Ordered l.resetAll.sessions :=
  List.pairwise_map.2 h

end Ledger

namespace Registry

@[simp] theorem ledger_addNode (r : Registry) (address : String) :
    (r.after (.addNode address)).ledger = r.ledger := by
  rcases hd : r.directory.add address with ⟨outcome, d⟩
  simp only [after, apply, hd]

@[simp] theorem ledger_removeNode (r : Registry) (address : String) :
    (r.after (.removeNode address)).ledger = r.ledger := by
  rcases hd : r.directory.remove address with ⟨outcome, d⟩
  simp only [after, apply, hd]

theorem ordered_after {r : Registry} (h : Ledger.Ordered r.ledger.sessions) (op : Operation) :
    Ledger.Ordered (r.after op).ledger.sessions := by
  cases op with
  | addSession k | removeSession k | resetSessions k => exact Ledger.ordered_alter h
  | resetAllSessions => exact Ledger.ordered_resetAll h
  | addNode address => rwa [ledger_addNode]
  | removeNode address => rwa [ledger_removeNode]
  | _ => exact h

end Registry
end GridKeeper

import GridKeeper.Proofs.LedgerOrder
import GridKeeper.Sweep

/-!
# A session keeps clean-ups away from its node

As long as nobody takes sessions on a node away, a session on it stays counted, whatever else is
asked of the registry, and no sweep cleans the node. Sweeps and operations come in any order here,
and a clean-up may change the registry while it is under way.

**Results.**
* `guarded_after`, `guarded_tick`: neither an operation nor a sweep uncounts a session that nobody
  takes away.
* `history_spares`: none of the sweeps to come cleans the node.
-/
namespace GridKeeper

/-- Whether an operation may take sessions on the node `k` away. -/
def Registry.Operation.withdraws (k : Node.Key) : Operation → Bool
  | removeSession key | resetSessions key => key = k
  | resetAllSessions => true
  | _ => false

namespace Registry

variable {k : Node.Key} {r : Registry} {op : Operation}

structure Guarded (k : Node.Key) (r : Registry) : Prop where
  ordered : Ledger.Ordered r.ledger.sessions
  busy : 0 < r.ledger.count k

theorem up_pos (n : Nat) : 0 < Ledger.up n := by
  simp only [Ledger.up, Text.max32]
  omega

theorem guarded_addSession (h : Ledger.Ordered r.ledger.sessions) (k : Node.Key) :
    (r.after (.addSession k)).Guarded k where
  ordered := ordered_after h _
  busy := by
    change 0 < (r.ledger.addSession k).count k
    rw [Ledger.count_addSession h, if_pos rfl]
    exact up_pos _

theorem guarded_after (h : r.Guarded k) (hw : op.withdraws k = false) : (r.after op).Guarded k where
  ordered := ordered_after h.ordered op
  busy := by
    have hb := h.busy
    cases op with
    | addSession key =>
      change 0 < (r.ledger.addSession key).count k
      rw [Ledger.count_addSession h.ordered]
      split
      · exact up_pos _
      · exact hb
    | removeSession key =>
      have hk : k ≠ key := by simpa [Operation.withdraws, eq_comm] using hw
      change 0 < (r.ledger.removeSession key).count k
      rw [Ledger.count_removeSession h.ordered, if_neg hk]
      exact hb
    | resetSessions key =>
      have hk : k ≠ key := by simpa [Operation.withdraws, eq_comm] using hw
      change 0 < Ledger.find k (Ledger.alter key _ r.ledger.sessions)
      rw [Ledger.find_alter_other hk]
      exact hb
    | resetAllSessions => cases hw
    | addNode address => rwa [ledger_addNode]
    | removeNode address => rwa [ledger_removeNode]
    | _ => exact hb

theorem guarded_run {ops : List Operation} (h : r.Guarded k)
    (hw : ∀ op ∈ ops, op.withdraws k = false) : (r.run ops).Guarded k := by
  induction ops generalizing r with
  | nil => exact h
  | cons op ops ih =>
    exact ih (guarded_after h (hw op (.head _))) fun o ho => hw o (.tail _ ho)

end Registry

namespace Sweep

variable {k : Node.Key} {r : Registry} {clean : Cleaner}

/-- What a clean-up does to the registry takes no sessions on the node `k` away. -/
def Cleaner.Upholds (k : Node.Key) (clean : Cleaner) : Prop :=
  ∀ calls n r, ∃ ops : List Registry.Operation,
    (∀ op ∈ ops, op.withdraws k = false) ∧ (clean calls n r).2 = r.run ops

theorem guarded_clean (h : r.Guarded k) (hc : clean.Upholds k) (calls : Nat) (n : Node) :
    (clean calls n r).2.Guarded k := by
  obtain ⟨ops, ho, he⟩ := hc calls n r
  rw [he]
  exact Registry.guarded_run h ho

theorem guarded_walk (h : r.Guarded k) (hc : clean.Upholds k) (calls : Nat) (nodes : List Node) :
    (∀ m ∈ (walk clean calls nodes r).1.filterMap NodeReport.cleaned?, m.key ≠ k) ∧
      (walk clean calls nodes r).2.Guarded k := by
  induction nodes generalizing calls r with
  | nil => exact ⟨nofun, h⟩
  | cons n rest ih =>
    simp only [walk]
    split
    · exact ih h calls
    · rename_i hn
      have hkey : n.key ≠ k := fun e => hn (e ▸ (Nat.pos_iff_ne_zero.1 h.busy))
      obtain ⟨hrest, hg⟩ := ih (guarded_clean h hc calls n) (calls + 1)
      refine ⟨fun m hm => ?_, hg⟩
      rcases List.mem_cons.1 hm with rfl | hm
      · exact hkey
      · exact hrest m hm

/-- A sweep does not clean the node of a session, and leaves the session counted. -/
theorem guarded_tick (h : r.Guarded k) (hc : clean.Upholds k)
    (attempt : Except Lock.Failure Unit) :
    (∀ m ∈ (tick attempt clean r).1.cleaned, m.key ≠ k) ∧ (tick attempt clean r).2.Guarded k := by
  cases attempt with
  | error f => exact ⟨nofun, h⟩
  | ok =>
    simp only [tick, underLock]
    split
    · exact ⟨nofun, h⟩
    · exact guarded_walk h hc 0 _

/-! ## Sweeps and operations over time -/

inductive Happening where
  | operate (op : Registry.Operation)
  | sweep (attempt : Except Lock.Failure Unit) (clean : Cleaner)

/-- Whether no sessions on the node `k` are taken away. -/
def Happening.Upholds (k : Node.Key) : Happening → Prop
  | operate op => op.withdraws k = false
  | sweep _ clean => clean.Upholds k

def history : List Happening → Registry → List Report
  | [], _ => []
  | .operate op :: rest, r => history rest (r.after op)
  | .sweep attempt clean :: rest, r =>
    (tick attempt clean r).1 :: history rest (tick attempt clean r).2

/-- No sweep cleans the node of a session before sessions on it are taken away. -/
theorem history_spares {happenings : List Happening} (h : r.Guarded k)
    (hu : ∀ x ∈ happenings, x.Upholds k) :
    ∀ report ∈ history happenings r, ∀ m ∈ report.cleaned, m.key ≠ k := by
  induction happenings generalizing r with
  | nil => nofun
  | cons x rest ih =>
    have hx : x.Upholds k := hu x (.head _)
    have hrest : ∀ y ∈ rest, y.Upholds k := fun y hy => hu y (.tail _ hy)
    cases x with
    | operate op => exact ih (Registry.guarded_after h hx) hrest
    | sweep attempt clean =>
      obtain ⟨hc, hg⟩ := guarded_tick h hx attempt
      intro report hr
      rcases List.mem_cons.1 hr with rfl | hr
      · exact hc
      · exact ih hg hrest report hr

end Sweep
end GridKeeper

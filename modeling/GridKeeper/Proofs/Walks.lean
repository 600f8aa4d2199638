import GridKeeper.Proofs.DirectoryHistory
import GridKeeper.Proofs.Interleaving

/-!
# What a sweep does, and what it tells

A sweep goes over a directory that it has copied, and looks at the sessions of each node when its
turn comes. In between it has nodes cleaned, and while that goes on anything may happen to the
registry. So what is told of a node hangs on all the clean-ups before it, and on nothing else.

`Cleaner.after` is the registry once some nodes have been cleaned one after the other, and
`Cleaner.verdict` is what is to be told of a node in a registry. Neither knows of a walk. Reports
are told from the reports before them: those say which nodes were cleaned, hence what the registry
is like, hence what is to be told next.

**Results.**
* `nodes_walk`: one report on each node, in order.
* `report_walk`: each report is the verdict on its node after the clean-ups that were told before.
* `registry_walk`: the registry in the end is the one after the clean-ups that were told.
* `walk_congr`: a cleaner is asked for the clean-ups that are told, and for nothing else.
* `walk_effects`: how a clean-up ends makes no difference to what is done afterwards.
* `tick_faithful`: all of this for a whole sweep.
-/
namespace GridKeeper

/-- The directory that any calls lead to has no two nodes with one key. -/
theorem Registry.distinct_called (l : Ledger) (calls : List Call) :
    (calls.foldl called ⟨l, {}⟩).directory.Distinct := by
  rw [directory_calls]
  exact Directory.distinct_edited Directory.distinct_empty _

namespace Sweep

open Interleaving

def NodeReport.node : NodeReport → Node
  | cleaned node _ | busy node _ => node

/-- The registry after the clean-ups of some nodes, one after the other; `calls` went before. -/
def Cleaner.after (clean : Cleaner) (calls : Nat) : List Node → Registry → Registry
  | [], r => r
  | n :: rest, r => clean.after (calls + 1) rest (clean calls n r).2

/-- What is to be told of a node whose turn it is; `calls` clean-ups went before. -/
def Cleaner.verdict (clean : Cleaner) (calls : Nat) (r : Registry) (n : Node) : NodeReport :=
  if r.ledger.count n.key = 0 then .cleaned n (clean calls n r).1
  else .busy n (r.ledger.count n.key)

variable {clean clean' : Cleaner} {calls : Nat} {nodes : List Node} {r : Registry} {n : Node}
  {before after : List NodeReport} {report : NodeReport}

/-! ## One node more -/

theorem walk_cons_busy (h : r.ledger.count n.key ≠ 0) (clean : Cleaner) (calls : Nat)
    (rest : List Node) :
    walk clean calls (n :: rest) r =
      (.busy n (r.ledger.count n.key) :: (walk clean calls rest r).1,
        (walk clean calls rest r).2) := by
  simp only [walk, if_pos h]

theorem walk_cons_idle (h : r.ledger.count n.key = 0) (clean : Cleaner) (calls : Nat)
    (rest : List Node) :
    walk clean calls (n :: rest) r =
      (.cleaned n (clean calls n r).1 :: (walk clean (calls + 1) rest (clean calls n r).2).1,
        (walk clean (calls + 1) rest (clean calls n r).2).2) := by
  simp only [walk, h, ne_eq, not_true_eq_false, if_false]

/-! ## The whole walk -/

theorem nodes_walk (clean : Cleaner) (calls : Nat) (nodes : List Node) (r : Registry) :
    (walk clean calls nodes r).1.map NodeReport.node = nodes := by
  induction nodes generalizing calls r with
  | nil => rfl
  | cons n rest ih =>
    by_cases h : r.ledger.count n.key = 0
    · rw [walk_cons_idle h, List.map_cons, ih]
      rfl
    · rw [walk_cons_busy h, List.map_cons, ih]
      rfl

theorem registry_walk (clean : Cleaner) (calls : Nat) (nodes : List Node) (r : Registry) :
    (walk clean calls nodes r).2 =
      clean.after calls (cleanedIn (walk clean calls nodes r).1) r := by
  induction nodes generalizing calls r with
  | nil => rfl
  | cons n rest ih =>
    by_cases h : r.ledger.count n.key = 0
    · rw [walk_cons_idle h, cleanedIn_cleaned, Cleaner.after]
      exact ih ..
    · rw [walk_cons_busy h, cleanedIn_busy]
      exact ih ..

/-- What is told of a node is the verdict on it after the clean-ups that were told before. -/
theorem report_walk (h : (walk clean calls nodes r).1 = before ++ report :: after) :
    report = clean.verdict (calls + (cleanedIn before).length)
      (clean.after calls (cleanedIn before) r) report.node := by
  induction nodes generalizing calls r before with
  | nil => cases before <;> cases h
  | cons n rest ih =>
    by_cases hc : r.ledger.count n.key = 0
    · simp only [walk_cons_idle hc] at h
      cases before with
      | nil =>
        obtain ⟨rfl, -⟩ := List.cons.inj h
        simp only [cleanedIn_nil, Cleaner.after, Cleaner.verdict, NodeReport.node, if_pos hc]
        rfl
      | cons first before =>
        obtain ⟨rfl, hrest⟩ := List.cons.inj h
        rw [cleanedIn_cleaned, List.length_cons, Nat.add_comm _ 1, ← Nat.add_assoc]
        exact ih hrest
    · simp only [walk_cons_busy hc] at h
      cases before with
      | nil =>
        obtain ⟨rfl, -⟩ := List.cons.inj h
        simp only [cleanedIn_nil, Cleaner.after, Cleaner.verdict, NodeReport.node, if_neg hc]
      | cons first before =>
        obtain ⟨rfl, hrest⟩ := List.cons.inj h
        rw [cleanedIn_busy]
        exact ih hrest

/-- Two cleaners agree on the clean-ups that some reports tell of. -/
def Agree (clean clean' : Cleaner) (calls : Nat) (r : Registry) (reports : List NodeReport) :
    Prop :=
  ∀ before n outcome after, reports = before ++ .cleaned n outcome :: after →
    clean' (calls + (cleanedIn before).length) n (clean.after calls (cleanedIn before) r) =
      clean (calls + (cleanedIn before).length) n (clean.after calls (cleanedIn before) r)

/-- A walk asks for the clean-ups that it tells of, and for no others. -/
theorem walk_congr (h : Agree clean clean' calls r (walk clean calls nodes r).1) :
    walk clean' calls nodes r = walk clean calls nodes r := by
  induction nodes generalizing calls r with
  | nil => rfl
  | cons n rest ih =>
    by_cases hc : r.ledger.count n.key = 0
    · rw [walk_cons_idle hc] at h
      have hfirst : clean' calls n r = clean calls n r := h [] n _ _ rfl
      rw [walk_cons_idle hc, walk_cons_idle hc, hfirst, ih]
      intro before m outcome after hsplit
      have hlater := h (.cleaned n (clean calls n r).1 :: before) m outcome after
        (by rw [hsplit, List.cons_append])
      rw [cleanedIn_cleaned, List.length_cons, Nat.add_comm _ 1, ← Nat.add_assoc] at hlater
      exact hlater
    · rw [walk_cons_busy hc] at h
      rw [walk_cons_busy hc, walk_cons_busy hc, ih]
      intro before m outcome after hsplit
      exact h (.busy n (r.ledger.count n.key) :: before) m outcome after
        (by rw [hsplit, List.cons_append])

/-- How the clean-ups end makes no difference to which ones there are, and to the registry. -/
theorem walk_effects (h : ∀ calls n r, (clean' calls n r).2 = (clean calls n r).2) :
    cleanedIn (walk clean' calls nodes r).1 = cleanedIn (walk clean calls nodes r).1 ∧
      (walk clean' calls nodes r).2 = (walk clean calls nodes r).2 := by
  induction nodes generalizing calls r with
  | nil => exact ⟨rfl, rfl⟩
  | cons n rest ih =>
    by_cases hc : r.ledger.count n.key = 0
    · rw [walk_cons_idle hc, walk_cons_idle hc, h, cleanedIn_cleaned, cleanedIn_cleaned]
      exact ⟨congrArg (n :: ·) ih.1, ih.2⟩
    · rw [walk_cons_busy hc, walk_cons_busy hc, cleanedIn_busy, cleanedIn_busy]
      exact ih

theorem cleanedIn_sublist (reports : List NodeReport) :
    (cleanedIn reports).Sublist (reports.map NodeReport.node) := by
  induction reports with
  | nil => exact .slnil
  | cons report reports ih =>
    cases report with
    | cleaned n outcome => exact ih.cons_cons n
    | busy n sessions => exact ih.cons n

/-! ## A whole sweep -/

theorem tick_of_pending (h : r.ledger.pending ≠ 0) (clean : Cleaner) :
    tick (.ok ()) clean r = (.pendingSessions r.ledger.pending, r) := by
  simp only [tick, underLock, if_pos h]

theorem tick_of_calm (h : r.ledger.pending = 0) (clean : Cleaner) :
    tick (.ok ()) clean r = (.walked (walk clean 0 r.directory.nodes r).1,
      (walk clean 0 r.directory.nodes r).2) := by
  simp only [tick, underLock, h, ne_eq, not_true_eq_false, if_false]

/-- **What a sweep does, and what it tells.** Whatever the registry is when the sweep gets the lock,
and whatever clean-ups come to and do to the registry:

If launches are pending, the sweep tells how many, asks for no clean-up, and changes nothing. Else
it tells of each node that the directory had at that moment, in order, whatever becomes of the
directory meanwhile. Of a node it tells the verdict in the registry that the clean-ups before it
have left: it was cleaned, and how that ended, if no session was counted on it, and how many there
were if there were any. The nodes that were cleaned are listed in order, and the registry in the end
is what their clean-ups have made of it. No key is met twice, as no directory has a key twice. The
clean-ups that are told of are those that are asked for: another cleaner that agrees on them comes
to the same. And one that fails where another succeeds is asked for the same clean-ups. -/
theorem tick_faithful (clean : Cleaner) (r : Registry) :
    (∀ (l : Ledger) (calls : List Registry.Call),
      (calls.foldl Registry.called ⟨l, {}⟩).directory.Distinct) ∧
    (r.ledger.pending ≠ 0 → ∀ clean' : Cleaner,
      tick (.ok ()) clean' r = (.pendingSessions r.ledger.pending, r)) ∧
    (r.ledger.pending = 0 → ∃ reports,
      tick (.ok ()) clean r = (.walked reports, clean.after 0 (Report.walked reports).cleaned r) ∧
      reports.map NodeReport.node = r.directory.nodes ∧
      (∀ before report after, reports = before ++ report :: after →
        report = clean.verdict (Report.walked before).cleaned.length
          (clean.after 0 (Report.walked before).cleaned r) report.node) ∧
      (Report.walked reports).cleaned.Sublist r.directory.nodes ∧
      (r.directory.Distinct → ((Report.walked reports).cleaned.map Node.key).Nodup) ∧
      (∀ clean', Agree clean clean' 0 r reports →
        tick (.ok ()) clean' r = tick (.ok ()) clean r) ∧
      ∀ clean' : Cleaner, (∀ calls n r, (clean' calls n r).2 = (clean calls n r).2) →
        (tick (.ok ()) clean' r).1.cleaned = (Report.walked reports).cleaned ∧
          (tick (.ok ()) clean' r).2 = (tick (.ok ()) clean r).2) := by
  refine ⟨Registry.distinct_called, fun h => tick_of_pending h, fun h => ?_⟩
  let reports := (walk clean 0 r.directory.nodes r).1
  have hnodes : reports.map NodeReport.node = r.directory.nodes := nodes_walk ..
  have hsub : (cleanedIn reports).Sublist r.directory.nodes := hnodes ▸ cleanedIn_sublist reports
  refine ⟨reports, ?_, hnodes, fun before report after hsplit => ?_, hsub, fun hd => ?_,
    fun clean' hagree => ?_, fun clean' heffects => ?_⟩
  · rw [tick_of_calm h, registry_walk]
    rfl
  · have hreport := report_walk hsplit
    rwa [Nat.zero_add] at hreport
  · exact hd.nodup_keys.sublist (hsub.map Node.key)
  · rw [tick_of_calm h, tick_of_calm h, walk_congr hagree]
  · rw [tick_of_calm h, tick_of_calm h]
    exact walk_effects heffects

/-- Of four nodes the first one is cleaned in vain. Meanwhile a session is counted on the second
one, the third one is dropped, and another one is put in. The last one cannot be cleaned, and the
one that was put in is left for the next sweep. A cleaner that would do something else in a fourth
clean-up comes to the same, and one that always succeeds is asked for the same clean-ups. With two
launches pending there are none. -/
theorem tick_faithful_amid_changes :
    let a : Node := ⟨"http", "a", some 1⟩
    let b : Node := ⟨"http", "b", some 2⟩
    let c : Node := ⟨"http", "c", none⟩
    let d : Node := ⟨"http", "d", some 4⟩
    let clean : Cleaner := fun calls n r =>
      if calls = 0 then (.failed (some 3), r.run [.addSession b.key, .removeNode "http://c",
        .addNode "http://e:5"])
      else if n = d then (.notStarted "no such file", r)
      else (.timedOut 2500000, r)
    let other : Cleaner := fun calls n r => if calls < 3 then clean calls n r else (.succeeded, {})
    let apt : Cleaner := fun calls n r => (.succeeded, (clean calls n r).2)
    let r : Registry := ⟨{}, ⟨[a, b, c, d]⟩⟩
    let busy : Registry := ⟨{ pending := 2 }, r.directory⟩
    let reports : List NodeReport :=
      [.cleaned a (.failed (some 3)), .busy b 1, .cleaned c (.timedOut 2500000),
        .cleaned d (.notStarted "no such file")]
    r.ledger.pending = 0 ∧ r.directory.Distinct ∧ Agree clean other 0 r reports ∧
      tick (.ok ()) clean r = (.walked reports, clean.after 0 [a, c, d] r) ∧
      tick (.ok ()) other r = tick (.ok ()) clean r ∧
      (tick (.ok ()) apt r).1.cleaned = [a, c, d] ∧
      (clean.after 0 [a, c, d] r).directory.nodes = [a, b, d, ⟨"http", "e", some 5⟩] ∧
      ((Report.walked reports).cleaned.map Node.key).Nodup ∧
      busy.ledger.pending ≠ 0 ∧ tick (.ok ()) clean busy = (.pendingSessions 2, busy) := by
  intro a b c d clean other apt r busy reports
  have hpending : r.ledger.pending = 0 := rfl
  have hbusy : busy.ledger.pending ≠ 0 := Nat.succ_ne_zero 1
  have hdistinct : r.directory.Distinct := List.pairwise_map.1 (by decide +kernel :
    (r.directory.nodes.map Node.key).Nodup)
  have hagree : Agree clean other 0 r reports := by
    intro before n outcome after hsplit
    have hlength := congrArg (fun reports => (cleanedIn reports).length) hsplit
    have hreports : (cleanedIn reports).length = 3 := rfl
    simp only [hreports, cleanedIn_append, cleanedIn_cleaned, List.length_append,
      List.length_cons] at hlength
    exact if_pos (by omega)
  obtain ⟨told, htick, -, -, -, hnodup, hcongr, heffects⟩ := (tick_faithful clean r).2.2 hpending
  have hreport : (tick (.ok ()) clean r).1 = .walked reports := by decide +kernel
  have htold : told = reports := by
    rw [htick] at hreport
    exact Report.walked.inj hreport
  subst htold
  exact ⟨hpending, hdistinct, hagree, htick, hcongr other hagree,
    (heffects apt fun _ _ _ => rfl).1, by decide +kernel, hnodup hdistinct, hbusy,
    (tick_faithful clean busy).2.1 hbusy clean⟩

end Sweep
end GridKeeper

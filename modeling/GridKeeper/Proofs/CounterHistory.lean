import GridKeeper.Proofs.LedgerOrder
import GridKeeper.Proofs.Utf8
import Mathlib.Data.List.DropRight
import Mathlib.Order.Bounds.Basic

/-!
# What a counter shows

The registry has one counter of launches and, for every node, one of sessions. A counter goes up and
down one at a time and is absorbed at zero, so what it shows is not the number of increases less the
number of decreases. It is the greatest of these differences over all ends of its history: behind
the last decrease that was absorbed none is lost, and no later end can do better than what is shown.

The history of a counter are the operations that are about it (`changes`). All others may come
between them in any number, and `value_run` says that they count for nothing.

**Results.**
* `shown_greatest`: a counter shows the greatest balance of an end of its history.
* `value_run`: what a counter shows depends on its own history alone.
* `mem_hosts_run`: a node is listed if it was ever named by an operation that makes it known.
* `counters_of_history`: all of this together, for every run of operations on an empty registry.
-/
namespace GridKeeper

/-! ## The history of a counter -/

namespace Ledger

inductive Change where
  | more
  | less
  | clear
deriving Repr, DecidableEq

def Change.apply : Change → Nat → Nat
  | more => up
  | less => down
  | clear => fun _ => 0

/-- What a counter shows after some changes, having shown nothing before them. -/
def shown (cs : List Change) : Nat := cs.foldl (fun n c => c.apply n) 0

/-- The changes since the counter was last cleared. -/
def current (cs : List Change) : List Change := cs.rtakeWhile (· ≠ .clear)

def balance (cs : List Change) : Int := cs.count .more - cs.count .less

/-- The balances of all ends of the changes since the counter was last cleared. The end without any
change is one of them. -/
def balances (cs : List Change) : Set Int := {b | ∃ last, last <:+ current cs ∧ balance last = b}

variable {cs : List Change} {n : Int}

@[simp] theorem shown_concat (cs : List Change) (c : Change) :
    shown (cs ++ [c]) = c.apply (shown cs) := List.foldl_concat ..

@[simp] theorem balance_nil : balance [] = 0 := rfl

theorem balance_more (cs : List Change) : balance (cs ++ [.more]) = balance cs + 1 := by
  simp only [balance, List.count_append, List.count_singleton_self,
    List.count_singleton.trans (if_neg (by decide : ¬ (Change.more == Change.less) = true))]
  omega

theorem balance_less (cs : List Change) : balance (cs ++ [.less]) = balance cs - 1 := by
  simp only [balance, List.count_append, List.count_singleton_self,
    List.count_singleton.trans (if_neg (by decide : ¬ (Change.less == Change.more) = true))]
  omega

theorem zero_mem_balances (cs : List Change) : 0 ∈ balances cs := ⟨[], List.nil_suffix, rfl⟩

theorem balances_clear (cs : List Change) : balances (cs ++ [.clear]) = {0} := by
  have hcurrent : current (cs ++ [.clear]) = [] :=
    List.rtakeWhile_concat_neg _ _ _ (by decide)
  ext b
  simp [balances, hcurrent, eq_comm]

/-- Behind one more change, an end is empty or an end of what was there before. -/
theorem mem_balances_concat {c : Change} (hc : c ≠ .clear) {b : Int} :
    b ∈ balances (cs ++ [c]) ↔
      b = 0 ∨ ∃ last, last <:+ current cs ∧ balance (last ++ [c]) = b := by
  have hcurrent : current (cs ++ [c]) = current cs ++ [c] :=
    List.rtakeWhile_concat_pos _ _ _ (by simpa using hc)
  simp only [balances, hcurrent, Set.mem_ofPred_eq, List.suffix_concat_iff]
  constructor
  · rintro ⟨last, rfl | ⟨t, rfl, ht⟩, rfl⟩
    · exact .inl rfl
    · exact .inr ⟨t, ht, rfl⟩
  · rintro (rfl | ⟨last, hl, rfl⟩)
    · exact ⟨[], .inl rfl, rfl⟩
    · exact ⟨last ++ [c], .inr ⟨last, rfl, hl⟩, rfl⟩

theorem greatest_more (h : IsGreatest (balances cs) n) :
    IsGreatest (balances (cs ++ [.more])) (n + 1) := by
  obtain ⟨⟨last, hlast, rfl⟩, hmax⟩ := h
  have hzero := hmax (zero_mem_balances cs)
  constructor
  · exact (mem_balances_concat (by decide)).2 (.inr ⟨last, hlast, balance_more last⟩)
  · intro b hb
    rcases (mem_balances_concat (by decide)).1 hb with rfl | ⟨other, hother, rfl⟩
    · omega
    · have := hmax ⟨other, hother, rfl⟩
      rw [balance_more]
      omega

theorem greatest_less (h : IsGreatest (balances cs) n) :
    IsGreatest (balances (cs ++ [.less])) (max (n - 1) 0) := by
  obtain ⟨⟨last, hlast, rfl⟩, hmax⟩ := h
  constructor
  · rcases Int.le_total (balance last - 1) 0 with hle | hle
    · rw [Int.max_eq_right hle]
      exact zero_mem_balances _
    · rw [Int.max_eq_left hle]
      exact (mem_balances_concat (by decide)).2 (.inr ⟨last, hlast, balance_less last⟩)
  · intro b hb
    rcases (mem_balances_concat (by decide)).1 hb with rfl | ⟨other, hother, rfl⟩
    · exact Int.le_max_right _ _
    · have := hmax ⟨other, hother, rfl⟩
      rw [balance_less]
      omega

theorem shown_le_count (cs : List Change) : shown cs ≤ cs.count .more := by
  induction cs using List.reverseRecOn with
  | nil => exact Nat.le_refl 0
  | append_singleton cs c ih =>
    rw [shown_concat, List.count_append]
    cases c with
    | more => simp only [Change.apply, up, List.count_singleton_self]; omega
    | less => simp only [Change.apply, down]; omega
    | clear => exact Nat.zero_le _

/-- **What a counter shows** is the greatest balance of an end of its history, as long as it is not
increased more often than it can show. -/
theorem shown_greatest (h : cs.count .more ≤ Text.max32) :
    IsGreatest (balances cs) (shown cs) := by
  induction cs using List.reverseRecOn with
  | nil =>
    refine ⟨zero_mem_balances _, ?_⟩
    rintro b ⟨last, hlast, rfl⟩
    rw [List.suffix_nil.1 hlast]
    exact Int.le_refl _
  | append_singleton cs c ih =>
    rw [List.count_append] at h
    have hcs := ih (by omega)
    rw [shown_concat]
    cases c with
    | more =>
      have hroom := shown_le_count cs
      rw [List.count_singleton_self] at h
      have hup : ((up (shown cs) : Nat) : Int) = shown cs + 1 := by
        rw [up, Nat.min_eq_left (by omega), Int.natCast_add, Int.natCast_one]
      exact hup ▸ greatest_more hcs
    | less =>
      have hdown : ((down (shown cs) : Nat) : Int) = max ((shown cs : Int) - 1) 0 := by
        simp only [down]
        omega
      exact hdown ▸ greatest_less hcs
    | clear =>
      rw [balances_clear]
      exact isGreatest_singleton

/-! ## Counters of a ledger -/

inductive Counter where
  | pending
  | sessions (k : Node.Key)
deriving Repr, DecidableEq

def value (l : Ledger) : Counter → Nat
  | .pending => l.pending
  | .sessions k => l.count k

theorem find_cleared (k : Node.Key) (entries : List (Node.Key × Nat)) :
    find k (entries.map fun (key, _) => (key, 0)) = 0 := by
  induction entries with
  | nil => rfl
  | cons e rest ih =>
    rw [List.map_cons, find, ih]
    split <;> rfl

theorem mem_keys_alter {k key : Node.Key} {f : Nat → Nat} {entries : List (Node.Key × Nat)} :
    key ∈ (alter k f entries).map (·.1) ↔ key = k ∨ key ∈ entries.map (·.1) := by
  induction entries with
  | nil => simp [alter]
  | cons x rest ih =>
    obtain ⟨other, n⟩ := x
    simp only [alter]
    split
    · rename_i hk
      simp [hk]
    · split
      · simp
      · simp only [List.map_cons, List.mem_cons, ih]
        exact or_left_comm

end Ledger

namespace Registry

open Ledger

def Operation.change? : Counter → Operation → Option Change
  | .pending, addPending => some .more
  | .pending, removePending => some .less
  | .pending, resetPending => some .clear
  | .sessions k, addSession key => if key = k then some .more else none
  | .sessions k, removeSession key => if key = k then some .less else none
  | .sessions k, resetSessions key => if key = k then some .clear else none
  | .sessions _, resetAllSessions => some .clear
  | _, _ => none

def Operation.counter? : Operation → Option Counter
  | addPending | removePending | pendingCount => some .pending
  | addSession k | removeSession k | sessionCount k => some (.sessions k)
  | _ => none

/-- The node that an operation makes known. -/
def Operation.introduced? : Operation → Option Node.Key
  | addSession k | removeSession k | resetSessions k => some k
  | _ => none

def changes (c : Counter) (ops : List Operation) : List Change := ops.filterMap (·.change? c)

variable {r : Registry} {c : Counter} {op : Operation} {ops : List Operation} {k : Node.Key}

theorem run_concat (r : Registry) (ops : List Operation) (op : Operation) :
    r.run (ops ++ [op]) = (r.run ops).after op := List.foldl_concat ..

theorem ordered_run (ops : List Operation) : Ordered (({} : Registry).run ops).ledger.sessions := by
  induction ops using List.reverseRecOn with
  | nil => exact List.Pairwise.nil
  | append_singleton ops op ih =>
    rw [run_concat]
    exact ordered_after ih op

/-- An operation changes a counter if it is about it, and leaves it alone otherwise. -/
theorem value_after (h : Ordered r.ledger.sessions) (op : Operation) (c : Counter) :
    (r.after op).ledger.value c =
      ((op.change? c).map (·.apply (r.ledger.value c))).getD (r.ledger.value c) := by
  have halter : ∀ (key k : Node.Key) (change : Change),
      find k (alter key change.apply r.ledger.sessions) =
        (((if key = k then some change else none).map
          (·.apply (find k r.ledger.sessions))).getD (find k r.ledger.sessions)) := by
    intro key k change
    split
    · rename_i hk
      rw [hk]
      exact find_alter_self h
    · rename_i hk
      exact find_alter_other (Ne.symm hk)
  cases c with
  | pending =>
    cases op with
    | addNode address => rw [ledger_addNode]; rfl
    | removeNode address => rw [ledger_removeNode]; rfl
    | _ => rfl
  | sessions k =>
    cases op with
    | addSession key => exact halter key k .more
    | removeSession key => exact halter key k .less
    | resetSessions key => exact halter key k .clear
    | resetAllSessions => exact find_cleared k _
    | addNode address => rw [ledger_addNode]; rfl
    | removeNode address => rw [ledger_removeNode]; rfl
    | _ => rfl

/-- **A counter shows what its own history makes it show.** -/
theorem value_run (c : Counter) (ops : List Operation) :
    (({} : Registry).run ops).ledger.value c = shown (changes c ops) := by
  induction ops using List.reverseRecOn with
  | nil => cases c <;> rfl
  | append_singleton ops op ih =>
    have hsplit : changes c (ops ++ [op]) = changes c ops ++ (op.change? c).toList := by
      rw [changes, List.filterMap_append]
      cases h : op.change? c <;> simp [changes, h]
    rw [run_concat, value_after (ordered_run ops), ih, hsplit]
    cases op.change? c with
    | none => simp
    | some change => simp

theorem answer_of_counter (h : op.counter? = some c) :
    (r.apply op).1 = .count ((r.after op).ledger.value c) := by
  cases op <;> cases h <;> rfl

theorem mem_hosts_after :
    k ∈ (r.after op).ledger.hosts ↔ op.introduced? = some k ∨ k ∈ r.ledger.hosts := by
  have halter : ∀ (key : Node.Key) (f : Nat → Nat),
      k ∈ (alter key f r.ledger.sessions).map (·.1) ↔ some key = some k ∨ k ∈ r.ledger.hosts :=
    fun key f => mem_keys_alter.trans (or_congr_left (by rw [Option.some.injEq, eq_comm]))
  cases op with
  | addSession key | removeSession key | resetSessions key => exact halter key _
  | resetAllSessions => simp [after, apply, resetAll, hosts, Operation.introduced?]
  | addNode address => rw [ledger_addNode]; simp [Operation.introduced?]
  | removeNode address => rw [ledger_removeNode]; simp [Operation.introduced?]
  | _ => simp [after, apply, addPending, removePending, resetPending, hosts,
      Operation.introduced?]

theorem mem_hosts_run (k : Node.Key) (ops : List Operation) :
    k ∈ (({} : Registry).run ops).ledger.hosts ↔ ∃ op ∈ ops, op.introduced? = some k := by
  induction ops using List.reverseRecOn with
  | nil => simp [run, hosts]
  | append_singleton ops op ih =>
    rw [run_concat, mem_hosts_after, ih]
    simp only [List.mem_append, List.mem_singleton, or_and_right, exists_or, exists_eq_left]
    exact or_comm

end Registry

/-- Whether one key comes before another: by the octets of its host, and then by its port. -/
def Node.Key.Precedes (a b : Key) : Prop :=
  Text.encodeUtf8 a.host.toList < Text.encodeUtf8 b.host.toList ∨
    (a.host = b.host ∧ a.port < b.port)

theorem Node.Key.precedes_of_before {a b : Key} (h : a.before b = true) : a.Precedes b :=
  (before_iff.1 h).imp_left Text.encodeUtf8_lt

namespace Registry

open Ledger

/-- **What the counters of a registry show.** After any run of operations on an empty registry, a
counter that was not increased more often than it can show shows the greatest balance that an end of
its history has had since it was last cleared. An operation that answers with a counter answers with
just that, itself being the last of the history. Operations that are about other counters, about
nodes, or that only ask, make no difference. The nodes that are listed are those that were named by
an operation that makes a node known, each once, in the order of the octets of their hosts and then
of their ports. -/
theorem counters_of_history (ops : List Operation) :
    let r := ({} : Registry).run ops
    (∀ c, (changes c ops).count .more ≤ Text.max32 →
      IsGreatest (balances (changes c ops)) (r.ledger.value c)) ∧
    (∀ op c, op.counter? = some c → (changes c (ops ++ [op])).count .more ≤ Text.max32 →
      ∃ n : Nat, (r.apply op).1 = .count n ∧ IsGreatest (balances (changes c (ops ++ [op]))) n) ∧
    (∀ c others, changes c others = changes c ops →
      (({} : Registry).run others).ledger.value c = r.ledger.value c) ∧
    ∃ keys, (r.apply .knownHosts).1 = .hosts keys ∧ keys.Pairwise Node.Key.Precedes ∧
      keys.Nodup ∧ ∀ k, k ∈ keys ↔ ∃ op ∈ ops, op.introduced? = some k := by
  intro r
  refine ⟨fun c hc => ?_, fun op c hop hc => ?_, fun c others ho => ?_,
    r.ledger.hosts, rfl, ?_, ?_, fun k => mem_hosts_run k ops⟩
  · rw [value_run]
    exact shown_greatest hc
  · refine ⟨_, answer_of_counter hop, ?_⟩
    rw [← run_concat, value_run]
    exact shown_greatest hc
  · rw [value_run, value_run, ho]
  all_goals have hordered : Ordered r.ledger.sessions := ordered_run ops
  · exact List.pairwise_map.2 (hordered.imp Node.Key.precedes_of_before)
  · exact List.pairwise_map.2 (hordered.imp Node.Key.ne_of_before)

/-- A session counter that is decreased at zero, cleared together with all others, and decreased at
zero again, all among operations on other counters, and in either case of the host. -/
def mixedOperations : List Operation :=
  [.removeSession (.of "grid.test" 80), .addPending, .addSession (.of "GRID.test" 80),
    .addSession (.of "grid.test" 81), .resetAllSessions, .removeSession (.of "Grid.Test" 80),
    .removePending, .addNode "http://[::1]:81", .addSession (.of "Grid.Test" 80),
    .sessionCount (.of "a.test" 1), .addSession (.of "grid.test" 80),
    .removeSession (.of "grid.test" 80), .resetPending]

theorem counters_of_history_mixed :
    (changes (.sessions (.of "Grid.test" 80)) mixedOperations).count .more ≤ Text.max32 ∧
      IsGreatest (balances (changes (.sessions (.of "Grid.test" 80)) mixedOperations)) (1 : Nat) ∧
      (changes (.sessions (.of "Grid.test" 80))
          (mixedOperations ++ [.addSession (.of "GRID.TEST" 80)])).count .more ≤ Text.max32 ∧
      (∃ n : Nat, ((({} : Registry).run mixedOperations).apply
          (.addSession (.of "GRID.TEST" 80))).1 = .count n ∧
        IsGreatest (balances (changes (.sessions (.of "Grid.test" 80))
          (mixedOperations ++ [.addSession (.of "GRID.TEST" 80)]))) n) ∧
      (({} : Registry).run mixedOperations).ledger.hosts =
        [.of "grid.test" 80, .of "grid.test" 81] := by
  obtain ⟨hshown, hanswer, -, -⟩ := counters_of_history mixedOperations
  have hcount : (changes (.sessions (.of "Grid.test" 80)) mixedOperations).count .more ≤
      Text.max32 := by decide +kernel
  have hnext : (changes (.sessions (.of "Grid.test" 80))
      (mixedOperations ++ [.addSession (.of "GRID.TEST" 80)])).count .more ≤ Text.max32 := by
    decide +kernel
  have hvalue : (({} : Registry).run mixedOperations).ledger.value
      (.sessions (.of "Grid.test" 80)) = 1 := by decide +kernel
  have hkey : (Registry.Operation.addSession (.of "GRID.TEST" 80)).counter? =
      some (.sessions (.of "Grid.test" 80)) := by decide +kernel
  have hgreatest := hshown _ hcount
  rw [hvalue] at hgreatest
  exact ⟨hcount, hgreatest, hnext, hanswer _ _ hkey hnext, by decide +kernel⟩

end Registry
end GridKeeper

import GridKeeper.Proofs.LedgerOrder
import GridKeeper.Proofs.Pipelining
import GridKeeper.Proofs.Refusals

/-!
# Where the entries of a registry come from

A registry begins empty. It changes with the requests that are served, and with nodes that are added
without a request, as those of the settings are. No entry of it is arbitrary, then: a key that is
listed was read from a text or belongs to a node, a node was read from an address, and no number has
more than 32 bits. This is what the texts about a registry hang on (`Genuine`).

**Results.**
* `genuine_after`: an operation whose key is legible keeps a registry genuine.
* `genuine_of_reached`: a registry that comes about is genuine.
-/
namespace GridKeeper

/-! ## Nodes that are read -/

namespace Node

variable {n : Node} {address : String}

/-- The node was read from an address. -/
def Genuine (n : Node) : Prop := ∃ address, parse? address = some n

theorem Genuine.signs (h : n.Genuine) : Url.Signs n.host := by
  obtain ⟨address, hn⟩ := h
  obtain ⟨url, host, hu, hh, rfl⟩ := of_parse hn
  exact Url.signs_text (Url.spelled_read hu hh).1

theorem Genuine.solid (h : n.Genuine) : ∀ c ∈ n.host.toList, Text.isBlank c = false :=
  fun c hc => Url.solid_of_hostSign (h.signs c hc)

theorem Genuine.unmarked (h : n.Genuine) : ¬ [':', '/', '/'] <:+: n.host.toList := fun hm => by
  cases h.signs '/' (hm.subset (by simp))

theorem Genuine.range (h : n.Genuine) :
    -(Text.half32 : Int) ≤ n.portNumber ∧ n.portNumber < Text.half32 :=
  Exists.elim h fun _ hn => Key.port_range hn

theorem Genuine.host_ne_nil (h : n.Genuine) : n.host.toList ≠ [] :=
  Exists.elim h fun _ hn => Key.host_ne_nil hn

theorem Genuine.solid_text (h : n.Genuine) : ∀ c ∈ n.text.toList, Text.isBlank c = false :=
  Key.solid_pair h.solid h.range

theorem Genuine.parse_text (h : n.Genuine) : Key.parse? n.text = some n.key :=
  Key.parse_pair h.host_ne_nil h.solid h.unmarked h.range

end Node

/-! ## What operations keep -/

namespace Ledger

variable {k : Node.Key} {f : Nat → Nat} {entries : List (Node.Key × Nat)}

/-- What holds of all entries is kept where it is kept for the one that changes, or that is new. -/
theorem forall_mem_alter {P : Node.Key × Nat → Prop} (h : ∀ e ∈ entries, P e) (hnew : P (k, f 0))
    (hold : ∀ n, P (k, n) → P (k, f n)) : ∀ e ∈ alter k f entries, P e := by
  induction entries with
  | nil => exact List.forall_mem_singleton.2 hnew
  | cons x rest ih =>
    obtain ⟨key, n⟩ := x
    obtain ⟨hx, hrest⟩ := List.forall_mem_cons.1 h
    simp only [alter]
    split
    · rename_i hk
      exact List.forall_mem_cons.2 ⟨hold n (hk ▸ hx), hrest⟩
    · split
      · exact List.forall_mem_cons.2 ⟨hnew, h⟩
      · exact List.forall_mem_cons.2 ⟨hx, ih hrest⟩

theorem find_le {m : Nat} (h : ∀ e ∈ entries, e.2 ≤ m) : find k entries ≤ m := by
  induction entries with
  | nil => exact Nat.zero_le m
  | cons x rest ih =>
    obtain ⟨hx, hrest⟩ := List.forall_mem_cons.1 h
    rw [find]
    split
    · exact hx
    · exact ih hrest

theorem up_le (n : Nat) : up n ≤ Text.max32 := Nat.min_le_right _ _

theorem down_le {n m : Nat} (h : n ≤ m) : down n ≤ m := Nat.le_trans (Nat.sub_le n 1) h

end Ledger

namespace Directory

variable {d : Directory} {n : Node}

theorem genuine_add (h : ∀ n ∈ d.nodes, n.Genuine) (address : String) :
    ∀ n ∈ (d.add address).2.nodes, n.Genuine := by
  unfold add
  split
  · rename_i n hn
    unfold insert
    split
    · exact h
    · exact List.forall_mem_append.2 ⟨h, List.forall_mem_singleton.2 ⟨address, hn⟩⟩
  · exact h

theorem genuine_remove (h : ∀ n ∈ d.nodes, n.Genuine) (address : String) :
    ∀ n ∈ (d.remove address).2.nodes, n.Genuine := by
  unfold remove
  split
  · unfold erase
    split
    · exact fun n hn => h n (List.mem_of_mem_eraseP hn)
    · exact h
  · exact h

end Directory

namespace Registry

variable {r : Registry} {op : Operation}

theorem apply_addNode (r : Registry) (address : String) : r.apply (.addNode address) =
    (.added address (r.directory.add address).1,
      { r with directory := (r.directory.add address).2 }) := by
  rcases hd : r.directory.add address with ⟨outcome, d⟩
  simp only [apply, hd]

theorem apply_removeNode (r : Registry) (address : String) : r.apply (.removeNode address) =
    (.removed address (r.directory.remove address).1,
      { r with directory := (r.directory.remove address).2 }) := by
  rcases hd : r.directory.remove address with ⟨outcome, d⟩
  simp only [apply, hd]

/-- The entries of the registry are such as requests bring about: they are in order, their keys are
legible, their numbers have 32 bits at the most, and the nodes were read from addresses. -/
structure Genuine (r : Registry) : Prop where
  ordered : Ledger.Ordered r.ledger.sessions
  pending : r.ledger.pending ≤ Text.max32
  entries : ∀ e ∈ r.ledger.sessions, e.1.Legible ∧ e.2 ≤ Text.max32
  nodes : ∀ n ∈ r.directory.nodes, n.Genuine

theorem Genuine.count_le (h : r.Genuine) (k : Node.Key) : r.ledger.count k ≤ Text.max32 :=
  Ledger.find_le fun e he => (h.entries e he).2

theorem Genuine.hosts (h : r.Genuine) : ∀ k ∈ r.ledger.hosts, k.Legible := by
  intro k hk
  obtain ⟨e, he, rfl⟩ := List.mem_map.1 hk
  exact (h.entries e he).1

theorem genuine_after (h : r.Genuine) (hk : ∀ k ∈ (Wire.Request.call op).key?, k.Legible) :
    (r.after op).Genuine where
  ordered := ordered_after h.ordered op
  pending := by
    cases op with
    | addPending => exact Ledger.up_le _
    | removePending => exact Ledger.down_le h.pending
    | resetPending => exact Nat.zero_le _
    | addNode address => rw [ledger_addNode]; exact h.pending
    | removeNode address => rw [ledger_removeNode]; exact h.pending
    | _ => exact h.pending
  entries := by
    have halter : ∀ k ∈ (Wire.Request.call op).key?, ∀ f : Nat → Nat,
        (∀ n ≤ Text.max32, f n ≤ Text.max32) →
        ∀ e ∈ Ledger.alter k f r.ledger.sessions, e.1.Legible ∧ e.2 ≤ Text.max32 :=
      fun k hm f hf => Ledger.forall_mem_alter h.entries ⟨hk k hm, hf 0 (Nat.zero_le _)⟩
        fun n hn => ⟨hn.1, hf n hn.2⟩
    cases op with
    | addSession k => exact halter k rfl _ fun n _ => Ledger.up_le n
    | removeSession k => exact halter k rfl _ fun n => Ledger.down_le
    | resetSessions k => exact halter k rfl _ fun n _ => Nat.zero_le _
    | resetAllSessions =>
      intro e he
      obtain ⟨e', he', rfl⟩ := List.mem_map.1 he
      exact ⟨(h.entries e' he').1, Nat.zero_le _⟩
    | addNode address => rw [ledger_addNode]; exact h.entries
    | removeNode address => rw [ledger_removeNode]; exact h.entries
    | _ => exact h.entries
  nodes := by
    cases op with
    | addNode address =>
      rw [after, apply_addNode]
      exact Directory.genuine_add h.nodes address
    | removeNode address =>
      rw [after, apply_removeNode]
      exact Directory.genuine_remove h.nodes address
    | _ => exact h.nodes

/-! ## Registries that come about -/

/-- The registry comes about by requests that are served and nodes that are added. -/
inductive Reached : Registry → Prop
  | empty : Reached {}
  | served {r : Registry} {limit : Option Nat} {attempt : Except Lock.Failure Unit}
      {feed : Wire.Feed} {e : Exchange} (hr : Reached r)
      (h : Exchange.serve? limit attempt feed r = some e) : Reached e.registry
  | added {r : Registry} (hr : Reached r) (address : String) : Reached (r.after (.addNode address))

/-- A request that is read can be read. -/
theorem plain_of_request {limit : Option Nat} {feed : Wire.Feed} {req : Wire.Request}
    (h : Interleaving.request? limit feed = some (.ok req)) : req.Plain := by
  obtain ⟨⟨result, r'⟩, hread, rfl⟩ := Option.map_eq_some_iff.1 h
  exact Wire.readable_iff.1 ⟨limit, _, r', hread⟩

/-- **A registry that comes about is genuine.** -/
theorem genuine_of_reached (h : r.Reached) : r.Genuine := by
  induction h with
  | empty => exact ⟨List.Pairwise.nil, Nat.zero_le _, nofun, nofun⟩
  | served _ h ih =>
    rcases (Exchange.serves_of_serve h).registry_cases with he | ⟨op, hreq, -, he⟩
    · rwa [he]
    · rw [he]
      exact genuine_after ih (plain_of_request hreq).1
  | added _ address ih => exact genuine_after ih nofun

end Registry
end GridKeeper

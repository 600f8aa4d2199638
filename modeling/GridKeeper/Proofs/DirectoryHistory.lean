import GridKeeper.Proofs.DirectoryEdits
import GridKeeper.Proofs.Provenance

/-!
# What the directory lists

The directory changes by edits, each of which puts in or drops one node, and it changes only by
those of them that are applied. What it lists is told by the history of these alone: `standing` are
the nodes that were put in and that no later edit is about, in the order in which they were put in.
A node that is put in once more while it is there is not applied, and so the node that is listed is
the one that came first.

Calls on the registry come in any order here: operations of every kind, nodes that are put in
without an address, and lists of addresses as the settings have them, which are added up to the
first that is not the address of a node.

**Results.**
* `nodes_edited`: the directory lists what stands of its history.
* `mem_standing_iff`: a node is there if and only if the last edit about its key put it in.
* `run_seed`: what adding a list of addresses comes to.
* `directory_of_history`: all of this together, for every run of calls on an empty directory.
-/
namespace GridKeeper

/-! ## The history of a directory -/

namespace Directory

variable {d : Directory} {e : Edit} {es : List Edit} {k : Node.Key}

def edited (d : Directory) (es : List Edit) : Directory := es.foldl (fun d e => (d.edit e).2) d

def applied : Directory → List Edit → List Edit
  | _, [] => []
  | d, e :: rest =>
    if (d.edit e).1 = .applied then e :: applied (d.edit e).2 rest
    else applied (d.edit e).2 rest

/-- What an edit that is applied puts in. -/
def Edit.brought : Edit → List Node
  | .put n => [n]
  | .drop _ => []

/-- What is left of edits that were applied: the nodes that were put in and that no later edit is
about. -/
def standing : List Edit → List Node
  | [] => []
  | e :: rest =>
    if rest.any (·.key = e.key) then standing rest else e.brought ++ standing rest

theorem edited_concat (d : Directory) (es : List Edit) (e : Edit) :
    d.edited (es ++ [e]) = ((d.edited es).edit e).2 := List.foldl_concat ..

theorem edited_append (d : Directory) (es fs : List Edit) :
    d.edited (es ++ fs) = (d.edited es).edited fs := List.foldl_append

theorem applied_concat (d : Directory) (es : List Edit) (e : Edit) :
    d.applied (es ++ [e]) =
      d.applied es ++ if ((d.edited es).edit e).1 = .applied then [e] else [] := by
  induction es generalizing d with
  | nil => by_cases h : (d.edit e).1 = .applied <;> simp [applied, edited, h]
  | cons x es ih =>
    rw [List.cons_append, applied, applied, ih]
    split <;> rfl

/-- An edit behind the others takes the nodes with its key away, and may bring one. -/
theorem standing_concat (es : List Edit) (e : Edit) :
    standing (es ++ [e]) = (standing es).filter (·.key ≠ e.key) ++ e.brought := by
  induction es with
  | nil => simp [standing]
  | cons x es ih =>
    rw [List.cons_append, standing, standing, List.any_append, ih]
    by_cases hany : es.any (·.key = x.key) = true
    · rw [if_pos hany, if_pos (by rw [hany, Bool.true_or])]
    · have hbrought : x.brought.filter (·.key ≠ e.key) =
          if e.key = x.key then [] else x.brought := by
        cases x with
        | put n =>
          by_cases hk : e.key = n.key
          · simp [Edit.brought, hk]
          · simp [Edit.brought, hk, Ne.symm hk]
        | drop n => split <;> rfl
      rw [if_neg hany, List.filter_append, hbrought, Bool.eq_false_iff.2 hany]
      by_cases hk : e.key = x.key
      · simp [hk]
      · simp [hk]

theorem distinct_edited (h : d.Distinct) (es : List Edit) : (d.edited es).Distinct := by
  induction es generalizing d with
  | nil => exact h
  | cons e es ih => exact ih (distinct_edit h e)

theorem distinct_empty : ({} : Directory).Distinct := List.Pairwise.nil

/-- **The directory lists what stands of its history.** -/
theorem nodes_edited (es : List Edit) :
    (({} : Directory).edited es).nodes = standing (({} : Directory).applied es) := by
  induction es using List.reverseRecOn with
  | nil => rfl
  | append_singleton es e ih =>
    rw [edited_concat, applied_concat]
    rcases edit_cases (({} : Directory).edited es) e with
      he | ⟨n, rfl, hnew, he⟩ | ⟨n, before, m, after, rfl, hsplit, hkey, he⟩
    · rw [he, if_neg (by simp), List.append_nil, ih]
    · have hkept : (({} : Directory).edited es).nodes.filter (·.key ≠ n.key) =
          (({} : Directory).edited es).nodes :=
        List.filter_eq_self.2 fun m hm => decide_eq_true (hnew m hm)
      rw [he, if_pos rfl, standing_concat, ← ih]
      exact congrArg (· ++ [n]) hkept.symm
    · rw [he, if_pos rfl, standing_concat, ← ih]
      have hrest := (distinct_edited distinct_empty es).rest_eq_filter hsplit
      rw [hkey] at hrest
      exact hrest.trans (List.append_nil _).symm

/-- **A node is there** if and only if the last of the applied edits about its key put it in. -/
theorem mem_standing_iff (es : List Edit) (n : Node) :
    n ∈ standing es ↔ (es.filter (·.key = n.key)).getLast? = some (.put n) := by
  induction es using List.reverseRecOn with
  | nil => simp [standing]
  | append_singleton es e ih =>
    rw [standing_concat, List.filter_append, List.mem_append, List.mem_filter, ih]
    by_cases hk : e.key = n.key
    · rw [List.filter_cons_of_pos (by simpa using hk), List.filter_nil, List.getLast?_concat]
      cases e with
      | put m => simp [Edit.brought, hk, eq_comm]
      | drop m => simp [Edit.brought, hk]
    · have hother : n ∉ e.brought := fun hm => by
        cases e with
        | put m => exact hk (List.mem_singleton.1 hm ▸ rfl)
        | drop m => cases hm
      rw [List.filter_cons_of_neg (by simpa using hk), List.filter_nil, List.append_nil]
      simp [hother, Ne.symm hk]

/-- A node with a key is there if and only if the last of the applied edits about the key put one
in. -/
theorem held_iff (es : List Edit) (k : Node.Key) : (∃ n ∈ standing es, n.key = k) ↔
    ∃ n, (es.filter (·.key = k)).getLast? = some (.put n) := by
  constructor
  · rintro ⟨n, hn, rfl⟩
    exact ⟨n, (mem_standing_iff es n).1 hn⟩
  · rintro ⟨n, hn⟩
    have hkey : n.key = k := of_decide_eq_true (List.of_mem_filter (List.mem_of_getLast? hn) :)
    subst hkey
    exact ⟨n, (mem_standing_iff es n).2 hn, rfl⟩

/-- What stands was put in as it is, and in that order. -/
theorem standing_sublist (es : List Edit) : ((standing es).map Edit.put).Sublist es := by
  induction es with
  | nil => exact List.Sublist.slnil
  | cons e es ih =>
    rw [standing]
    split
    · exact ih.cons e
    · cases e with
      | put n => exact ih.cons_cons _
      | drop n => exact ih.cons _

/-! ## Lists of addresses -/

def isAddress (address : String) : Bool := (Node.parse? address).isSome

def seedEdits (addresses : List String) : List Edit :=
  ((addresses.takeWhile isAddress).filterMap Node.parse?).map .put

theorem seed_eq (d : Directory) (addresses : List String) : d.seed addresses =
    (addresses.find? (!isAddress ·), d.edited (seedEdits addresses)) := by
  induction addresses generalizing d with
  | nil => rfl
  | cons address rest ih =>
    rw [seed, add]
    cases hp : Node.parse? address with
    | none =>
      have hbad : isAddress address = false := by rw [isAddress, hp]; rfl
      rw [List.find?_cons_of_pos (by rw [hbad]; rfl), seedEdits,
        List.takeWhile_cons_of_neg (by rw [hbad]; exact Bool.false_ne_true)]
      rfl
    | some n =>
      have hgood : isAddress address = true := by rw [isAddress, hp]; rfl
      have hedits : seedEdits (address :: rest) = .put n :: seedEdits rest := by
        rw [seedEdits, List.takeWhile_cons_of_pos hgood, List.filterMap_cons_some hp]
        rfl
      rw [List.find?_cons_of_neg (by rw [hgood]; exact Bool.false_ne_true), hedits, edited,
        List.foldl_cons]
      have hvalid := edit_ne_invalid d (.put n)
      rcases hinsert : d.edit (.put n) with ⟨outcome, next⟩
      rw [hinsert] at hvalid
      change d.insert n = _ at hinsert
      simp only [hinsert]
      cases outcome with
      | invalid => exact absurd rfl hvalid
      | unchanged | applied => exact ih next

end Directory

/-! ## Calls on a registry -/

namespace Registry

open Directory

inductive Call where
  | operate (op : Operation)
  | insert (n : Node)
  | seed (addresses : List String)
deriving Repr, DecidableEq

def called (r : Registry) : Call → Registry
  | .operate op => r.after op
  | .insert n => { r with directory := (r.directory.insert n).2 }
  | .seed addresses => (r.seed addresses).2

def Call.edits : Call → List Edit
  | operate (.addNode address) => (Node.parse? address).toList.map .put
  | operate (.removeNode address) => (Node.parse? address).toList.map .drop
  | operate _ => []
  | insert n => [.put n]
  | seed addresses => seedEdits addresses

/-- Whether a call is an operation that is about no node of the directory. -/
def Call.counts : Call → Bool
  | operate (.addNode _) | operate (.removeNode _) | insert _ | seed _ => false
  | operate _ => true

variable {r : Registry} {c : Call}

theorem seed_eq_edited (r : Registry) (addresses : List String) : r.seed addresses =
    (addresses.find? (!isAddress ·),
      { r with directory := r.directory.edited (seedEdits addresses) }) := by
  rw [seed, Directory.seed_eq]

theorem directory_called (r : Registry) (c : Call) :
    (r.called c).directory = r.directory.edited c.edits := by
  cases c with
  | operate op =>
    cases op with
    | addNode address =>
      simp only [called, after, apply_addNode, Call.edits, Directory.add]
      cases Node.parse? address <;> rfl
    | removeNode address =>
      simp only [called, after, apply_removeNode, Call.edits, Directory.remove]
      cases Node.parse? address <;> rfl
    | _ => rfl
  | insert n => rfl
  | seed addresses => rw [called, seed_eq_edited]; rfl

theorem directory_of_counts (h : c.counts = true) : (r.called c).directory = r.directory := by
  cases c with
  | operate op =>
    cases op with
    | addNode address | removeNode address => cases h
    | _ => rfl
  | insert n | seed addresses => cases h

theorem ledger_of_not_counts (h : ¬ c.counts = true) : (r.called c).ledger = r.ledger := by
  cases c with
  | operate op =>
    cases op with
    | addNode address => exact ledger_addNode r address
    | removeNode address => exact ledger_removeNode r address
    | _ => exact absurd rfl h
  | insert n => rfl
  | seed addresses => rw [called, seed_eq_edited]

theorem directory_calls (r : Registry) (calls : List Call) :
    (calls.foldl called r).directory = r.directory.edited (calls.flatMap Call.edits) := by
  induction calls generalizing r with
  | nil => rfl
  | cons c calls ih =>
    rw [List.foldl_cons, ih, directory_called, List.flatMap_cons, edited_append]

/-- To add a list of addresses is to add one after the other, up to the first that is not the
address of a node. -/
theorem run_seed (r : Registry) (addresses : List String) : r.seed addresses =
    (addresses.find? (!isAddress ·),
      r.run ((addresses.takeWhile isAddress).map .addNode)) := by
  have hrun : ∀ (good : List String) (r : Registry), (∀ a ∈ good, isAddress a = true) →
      r.run (good.map .addNode) = { r with
        directory := r.directory.edited ((good.filterMap Node.parse?).map .put) } := by
    intro good
    induction good with
    | nil => exact fun r _ => rfl
    | cons a good ih =>
      intro r hgood
      obtain ⟨n, hn⟩ := Option.isSome_iff_exists.1 (hgood a (.head _))
      rw [List.map_cons, run, List.foldl_cons]
      refine (ih _ fun b hb => hgood b (.tail _ hb)).trans ?_
      rw [after, apply_addNode, Directory.add, hn, List.filterMap_cons_some hn]
      rfl
  rw [seed_eq_edited, hrun _ _ fun a ha => List.mem_takeWhile_imp ha, seedEdits]

/-- What the directory of a registry lists, if `done` are the edits that were applied to it, and what
the next call comes to. -/
structure Listed (r : Registry) (done : List Edit) : Prop where
  /-- No two nodes have one key. -/
  keys : (r.directory.nodes.map Node.key).Nodup
  /-- No two nodes are listed alike. -/
  texts : r.directory.texts.Nodup
  nodes : r.directory.nodes = standing done
  /-- Each node is as it was put in, and in that order. -/
  order : (r.directory.nodes.map Edit.put).Sublist done
  /-- A node is there if and only if the last of the edits about its key put it in. -/
  mem : ∀ n, n ∈ r.directory.nodes ↔ (done.filter (·.key = n.key)).getLast? = some (.put n)
  held : ∀ k, (∃ n ∈ r.directory.nodes, n.key = k) ↔
    ∃ n, (done.filter (·.key = k)).getLast? = some (.put n)
  add : ∀ address, r.directory.Edits ((Node.parse? address).map .put)
    (r.directory.add address).1 (r.directory.add address).2
  remove : ∀ address, r.directory.Edits ((Node.parse? address).map .drop)
    (r.directory.remove address).1 (r.directory.remove address).2
  insert : ∀ n, r.directory.Edits (some (.put n)) (r.directory.insert n).1 (r.directory.insert n).2
  /-- A list of addresses is added up to the first that is not the address of a node, and that one
  is named. -/
  seed : ∀ addresses, r.seed addresses = (addresses.find? (!isAddress ·),
    r.run ((addresses.takeWhile isAddress).map .addNode))
  /-- Operations that count leave the directory alone, and all other calls leave the counts alone. -/
  apart : ∀ c, if c.counts then (r.called c).directory = r.directory
    else (r.called c).ledger = r.ledger

/-- **What the directory lists.** After any run of calls on an empty directory, whatever was counted
before, the directory lists what stands of the edits that were applied, and so the first of several
nodes with one key stays. What the next call says is so: that an address is not that of a node, that
nothing has changed, or that the directory is longer or shorter by one node. A node that is put in
goes behind the others; a node that is dropped is taken out from between them, and no other node has
its key. -/
theorem directory_of_history (l : Ledger) (calls : List Call) :
    Listed (calls.foldl called ⟨l, {}⟩)
      (({} : Directory).applied (calls.flatMap Call.edits)) := by
  have hdirectory : (calls.foldl called ⟨l, {}⟩).directory =
      ({} : Directory).edited (calls.flatMap Call.edits) := directory_calls ⟨l, {}⟩ calls
  have hdistinct := hdirectory ▸ distinct_edited distinct_empty (calls.flatMap Call.edits)
  have hnodes := hdirectory ▸ nodes_edited (calls.flatMap Call.edits)
  exact {
    keys := hdistinct.nodup_keys
    texts := hdistinct.nodup_texts
    nodes := hnodes
    order := hnodes ▸ standing_sublist _
    mem := hnodes ▸ mem_standing_iff _
    held := hnodes ▸ held_iff _
    add := edits_add hdistinct
    remove := edits_remove hdistinct
    insert := edits_insert hdistinct
    seed := run_seed _
    apart := fun c => by
      split
      · exact directory_of_counts ‹_›
      · exact ledger_of_not_counts ‹_› }

/-- A node that is put in twice in different spellings, dropped, and put in once more behind another
one by a list of addresses that breaks off. -/
def mixedCalls : List Call :=
  [.operate (.addNode "a://Grid:80"), .operate .addPending, .insert ⟨"b", "grid", some 80⟩,
    .operate (.addNode "http://[::1]"), .operate (.addNode "b://GRID:80"),
    .operate (.removeNode "c://grID:80"), .seed ["b://grid:80", "a://[::1]", "nowhere", "a://d:1"]]

theorem directory_of_history_mixed :
    (mixedCalls.foldl called {}).directory.nodes =
        [⟨"http", "[::1]", none⟩, ⟨"b", "grid", some 80⟩] ∧
      standing (({} : Directory).applied (mixedCalls.flatMap Call.edits)) =
        [⟨"http", "[::1]", none⟩, ⟨"b", "grid", some 80⟩] ∧
      ∀ address, (mixedCalls.foldl called {}).directory.Edits ((Node.parse? address).map .put)
        ((mixedCalls.foldl called {}).directory.add address).1
        ((mixedCalls.foldl called {}).directory.add address).2 := by
  have hwell := directory_of_history {} mixedCalls
  have hlisted : (mixedCalls.foldl called {}).directory.nodes =
      [⟨"http", "[::1]", none⟩, ⟨"b", "grid", some 80⟩] := by decide +kernel
  exact ⟨hlisted, hwell.nodes.symm.trans hlisted, hwell.add⟩

end Registry
end GridKeeper

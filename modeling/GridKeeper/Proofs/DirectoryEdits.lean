import GridKeeper.Directory
import GridKeeper.Proofs.KeyTexts

/-!
# Single edits of the directory

The directory compares its nodes by port and by host up to case. That is to say, by their keys
(`same_iff`), under which sessions are counted. A node is listed with the host as its address had it,
and two nodes that are listed alike have one key (`key_of_text`): in the text the port is what stands
behind the last colon, whatever is in the host.

An edit puts a node into the directory or drops it. It is applied if it makes a difference, and then
the directory is longer or shorter by the one node.

**Results.**
* `same_iff`: nodes are the same if and only if they have one key.
* `nodup_texts`: nodes with keys of their own are listed with texts of their own.
* `distinct_edit`: edits keep the keys apart.
* `edits_add`, `edits_remove`, `edits_insert`: what edits do, and what they are said to have done.
-/
namespace GridKeeper

/-! ## Nodes that are the same -/

namespace Node

variable {n m : Node}

theorem same_iff : n.same m = true ↔ n.key = m.key := by
  simp only [same, key, Key.of, Key.mk.injEq, Text.sameLetters, Bool.and_eq_true, beq_iff_eq,
    String.ofList_inj]
  exact and_comm

theorem readSigned_large {i : Int} {bits : Nat} (h : i.natAbs < bits) :
    Text.readSigned? bits (toString i).toList = some i := Text.readSigned_toString (by omega)

theorem colon_not_mem_toString (i : Int) : ':' ∉ (toString i).toList :=
  Text.colon_not_numeric (Text.numeric_of_readSigned (readSigned_large i.natAbs.lt_succ_self)).2

theorem key_of_text (h : n.text = m.text) : n.key = m.key := by
  have hcut : ∀ x : Node, Text.cutLast? ':' x.text.toList =
      some (x.host.toList, (toString x.portNumber).toList) := fun x =>
    Text.cutLast_eq_some.2 ⟨Key.toList_pair x.host x.portNumber, colon_not_mem_toString _⟩
  have hparts := (hcut n).symm.trans (h ▸ hcut m)
  rw [Option.some.injEq, Prod.mk.injEq, String.toList_inj] at hparts
  obtain ⟨hhost, hwritten⟩ := hparts
  have hport : n.portNumber = m.portNumber := by
    let bits := n.portNumber.natAbs + m.portNumber.natAbs + 1
    have hn : Text.readSigned? bits (toString n.portNumber).toList = some n.portNumber :=
      readSigned_large (by omega)
    have hm : Text.readSigned? bits (toString m.portNumber).toList = some m.portNumber :=
      readSigned_large (by omega)
    rw [hwritten, hm] at hn
    exact (Option.some.inj hn).symm
  rw [key, key, hhost, hport]

end Node

namespace Directory

variable {d d' : Directory} {n : Node}

/-! ## Putting and dropping -/

theorem holds_iff : d.holds n = true ↔ ∃ m ∈ d.nodes, m.key = n.key := by
  simp only [holds, List.any_eq_true, Node.same_iff]

theorem insert_of_held (h : d.holds n = true) : d.insert n = (.unchanged, d) := if_pos h

theorem insert_of_new (h : ¬ d.holds n = true) : d.insert n = (.applied, ⟨d.nodes ++ [n]⟩) :=
  if_neg h

theorem erase_of_absent (h : ¬ d.holds n = true) : d.erase n = (.unchanged, d) := if_neg h

/-- A node that is dropped is taken out from between the others. -/
theorem erase_of_held (h : d.holds n = true) : ∃ before m after,
    d.nodes = before ++ m :: after ∧ m.key = n.key ∧ d.erase n = (.applied, ⟨before ++ after⟩) := by
  obtain ⟨x, hx, hkey⟩ := holds_iff.1 h
  obtain ⟨m, before, after, -, hm, hsplit, herase⟩ :=
    List.exists_of_eraseP (p := (·.same n)) hx (Node.same_iff.2 hkey)
  refine ⟨before, m, after, hsplit, Node.same_iff.1 hm, ?_⟩
  rw [erase, if_pos h, herase]

/-- No two nodes of the directory have one key. -/
def Distinct (d : Directory) : Prop := d.nodes.Pairwise fun a b => a.key ≠ b.key

theorem Distinct.nodup_keys (h : d.Distinct) : (d.nodes.map Node.key).Nodup := List.pairwise_map.2 h

theorem Distinct.nodup_texts (h : d.Distinct) : d.texts.Nodup :=
  List.pairwise_map.2 (h.imp fun hkey htext => hkey (Node.key_of_text htext))

inductive Edit where
  | put (n : Node)
  | drop (n : Node)
deriving Repr, DecidableEq

def Edit.node : Edit → Node
  | put n | drop n => n

def Edit.key (e : Edit) : Node.Key := e.node.key

@[simp] theorem Edit.key_put (n : Node) : (put n).key = n.key := rfl

@[simp] theorem Edit.key_drop (n : Node) : (drop n).key = n.key := rfl

def edit (d : Directory) : Edit → Outcome × Directory
  | .put n => d.insert n
  | .drop n => d.erase n

/-- An edit makes no difference, adds a node that was not there, or takes one out. -/
theorem edit_cases (d : Directory) (e : Edit) :
    d.edit e = (.unchanged, d) ∨
    (∃ n, e = .put n ∧ (∀ m ∈ d.nodes, m.key ≠ n.key) ∧
      d.edit e = (.applied, ⟨d.nodes ++ [n]⟩)) ∨
    (∃ n before m after, e = .drop n ∧ d.nodes = before ++ m :: after ∧ m.key = n.key ∧
      d.edit e = (.applied, ⟨before ++ after⟩)) := by
  cases e with
  | put n =>
    by_cases h : d.holds n = true
    · exact .inl (insert_of_held h)
    · have hnew : ∀ m ∈ d.nodes, m.key ≠ n.key := fun m hm hkey => h (holds_iff.2 ⟨m, hm, hkey⟩)
      exact .inr (.inl ⟨n, rfl, hnew, insert_of_new h⟩)
  | drop n =>
    by_cases h : d.holds n = true
    · obtain ⟨before, m, after, hsplit, hkey, herase⟩ := erase_of_held h
      exact .inr (.inr ⟨n, before, m, after, rfl, hsplit, hkey, herase⟩)
    · exact .inl (erase_of_absent h)

theorem edit_ne_invalid (d : Directory) (e : Edit) : (d.edit e).1 ≠ .invalid := by
  rcases edit_cases d e with he | ⟨n, -, -, he⟩ | ⟨n, before, m, after, -, -, -, he⟩ <;>
    simp [he]

theorem distinct_edit (h : d.Distinct) (e : Edit) : (d.edit e).2.Distinct := by
  rcases edit_cases d e with he | ⟨n, -, hnew, he⟩ | ⟨n, before, m, after, -, hsplit, -, he⟩ <;>
    rw [he]
  · exact h
  · refine List.pairwise_append.2 ⟨h, List.pairwise_singleton _ _, fun a ha b hb => ?_⟩
    rw [List.mem_singleton.1 hb]
    exact hnew a ha
  · rw [Distinct, hsplit] at h
    exact h.sublist (List.sublist_append_right [m] after |>.append_left before)

/-- Where keys are apart, what is left of the directory without a node are the nodes with other
keys. -/
theorem Distinct.rest_eq_filter {before after : List Node} {m : Node} (h : d.Distinct)
    (hsplit : d.nodes = before ++ m :: after) :
    before ++ after = d.nodes.filter (·.key ≠ m.key) := by
  rw [Distinct, hsplit, List.pairwise_append, List.pairwise_cons] at h
  obtain ⟨-, ⟨hafter, -⟩, hbefore⟩ := h
  have hb : before.filter (·.key ≠ m.key) = before :=
    List.filter_eq_self.2 fun a ha => decide_eq_true (hbefore a ha m (.head _))
  have ha : after.filter (·.key ≠ m.key) = after :=
    List.filter_eq_self.2 fun a ha => decide_eq_true (hafter a ha).symm
  rw [hsplit, List.filter_append, List.filter_cons_of_neg (by simp), hb, ha]

/-! ## What is said of an edit -/

/-- What is said of an edit is so: `e?` is the edit that was asked for, or `none` if that was about
an address of no node. -/
structure Edits (d : Directory) (e? : Option Edit) (outcome : Outcome) (d' : Directory) : Prop where
  invalid : outcome = .invalid ↔ e? = none
  unchanged : outcome = .unchanged ↔ e?.isSome = true ∧ d' = d
  applied : outcome = .applied ↔
    d'.nodes.length = d.nodes.length + 1 ∨ d.nodes.length = d'.nodes.length + 1
  untouched : outcome ≠ .applied → d' = d
  /-- A node is put behind the others, and none of them has its key. -/
  added : ∀ n, e? = some (.put n) → outcome = .applied →
    (∀ m ∈ d.nodes, m.key ≠ n.key) ∧ d'.nodes = d.nodes ++ [n]
  /-- A node is taken out from between the others, and none of them has its key. -/
  removed : ∀ n, e? = some (.drop n) → outcome = .applied → ∃ before m after,
    d.nodes = before ++ m :: after ∧ m.key = n.key ∧ d'.nodes = before ++ after ∧
      ∀ x ∈ before ++ after, x.key ≠ n.key

theorem edits_none (d : Directory) : d.Edits none .invalid d where
  invalid := by simp
  unchanged := by simp
  applied := by simp
  untouched := fun _ => rfl
  added := nofun
  removed := nofun

theorem edits_edit (h : d.Distinct) (e : Edit) : d.Edits (some e) (d.edit e).1 (d.edit e).2 := by
  rcases edit_cases d e with he | ⟨n, rfl, hnew, he⟩ | ⟨n, before, m, after, rfl, hsplit, hkey, he⟩ <;>
    rw [he]
  · exact ⟨by simp, by simp, by simp, fun _ => rfl, fun _ _ ha => (by cases ha),
      fun _ _ ha => (by cases ha)⟩
  · refine ⟨by simp, ?_, by simp, by simp, fun n' hn _ => ?_, nofun⟩
    · have hne : (⟨d.nodes ++ [n]⟩ : Directory) ≠ d := fun heq => by
        have := congrArg (·.nodes.length) heq
        simp at this
      simp [hne]
    · cases hn
      exact ⟨hnew, rfl⟩
  · have hlength : d.nodes.length = (before ++ after).length + 1 := by
      rw [hsplit, List.length_append, List.length_append, List.length_cons, Nat.add_assoc]
    refine ⟨by simp, ?_, by simp [hlength], by simp, nofun, fun n' hn _ => ?_⟩
    · have hne : (⟨before ++ after⟩ : Directory) ≠ d := fun heq => by
        rw [← heq] at hlength
        exact Nat.succ_ne_self _ hlength.symm
      simp [hne]
    · cases hn
      refine ⟨before, m, after, hsplit, hkey, rfl, fun x hx => ?_⟩
      rw [h.rest_eq_filter hsplit, List.mem_filter, hkey] at hx
      exact of_decide_eq_true hx.2

theorem edits_insert (h : d.Distinct) (n : Node) :
    d.Edits (some (.put n)) (d.insert n).1 (d.insert n).2 := edits_edit h (.put n)

theorem edits_add (h : d.Distinct) (address : String) :
    d.Edits ((Node.parse? address).map .put) (d.add address).1 (d.add address).2 := by
  rw [add]
  cases Node.parse? address with
  | none => exact edits_none d
  | some n => exact edits_edit h (.put n)

theorem edits_remove (h : d.Distinct) (address : String) :
    d.Edits ((Node.parse? address).map .drop) (d.remove address).1 (d.remove address).2 := by
  rw [remove]
  cases Node.parse? address with
  | none => exact edits_none d
  | some n => exact edits_edit h (.drop n)

end Directory
end GridKeeper

import GridKeeper.Proofs.Lines

/-!
# The grammar of requests

The forms of a request are listed (`Form`), and the reader is shown to take exactly these. Which
lines may follow is told by the state the reader is in: a state is reached by the beginnings of the
forms that lead to it (`Reaches`), each state leads to a form, and what a state takes for the last
line completes one.

**Results.**
* `accept_iff`: what each state takes, and what for.
* `form_iff`, `viable_iff`: the forms are what the states take from the first line to the last, and
  the beginnings of forms are what reaches a state.
* `read_iff_verdict`: what is read from a connection that is closed in the end, how many lines are
  taken for it and how many of them are counted.
-/
namespace GridKeeper.Wire

/-! ## The forms of a request -/

/-- The line is a command line with the given word. -/
def Says (line word : String) : Prop := wordOf line = word.toList

/-- The words that may follow `PENDING`, and what they ask for. -/
def pendingActions : List (String × Registry.Operation) :=
  [("INCREASE", .addPending), ("DECREASE", .removePending), ("COUNT", .pendingCount),
    ("RESET", .resetPending)]

/-- The words that may follow `SESSION` before a node key, and what they ask for. -/
def sessionActions : List (String × (Node.Key → Registry.Operation)) :=
  [("INCREASE", .addSession), ("DECREASE", .removeSession), ("COUNT", .sessionCount)]

/-- The words that may follow `NODES` before an address, and what they ask for. -/
def nodesActions : List (String × (String → Registry.Operation)) :=
  [("INCREASE", .addNode), ("DECREASE", .removeNode)]

inductive Form : List String → Request → Prop
  | probe {t : String} (ht : Says t "TEST") : Form [t] .probe
  | pending {t a w : String} {op : Registry.Operation} (ht : Says t "PENDING") (ha : Says a w)
      (hw : (w, op) ∈ pendingActions) : Form [t, a] (.call op)
  | sessions {t a : String} (ht : Says t "SESSION") (ha : Says a "LIST") :
    Form [t, a] (.call .knownHosts)
  | session {t a w l : String} {of : Node.Key → Registry.Operation} {k : Node.Key}
      (ht : Says t "SESSION") (ha : Says a w) (hw : (w, of) ∈ sessionActions)
      (hk : Node.Key.parse? l = some k) : Form [t, a, l] (.call (of k))
  | resetAll {t a s : String} (ht : Says t "SESSION") (ha : Says a "RESET") (hs : Says s "ALL") :
    Form [t, a, s] (.call .resetAllSessions)
  | resetOne {t a s l : String} {k : Node.Key} (ht : Says t "SESSION") (ha : Says a "RESET")
      (hs : Says s "NODE") (hk : Node.Key.parse? l = some k) :
    Form [t, a, s, l] (.call (.resetSessions k))
  | nodes {t a : String} (ht : Says t "NODES") (ha : Says a "LIST") :
    Form [t, a] (.call .listNodes)
  | node {t a w l : String} {of : String → Registry.Operation} (ht : Says t "NODES")
      (ha : Says a w) (hw : (w, of) ∈ nodesActions) : Form [t, a, l] (.call (of l))

/-- The lines begin a request, and more of it is to come. -/
def Viable (texts : List String) : Prop := ∃ more req, more ≠ [] ∧ Form (texts ++ more) req

/-- Why the line is refused behind the given lines, where it continues no request. -/
def faultAt : List String → String → Fault
  | [], line => .unsupportedCommand line
  | [topic], line => .unsupportedAction (String.ofList (wordOf topic)) line
  | [_, action], line =>
    if wordOf action = "RESET".toList then .unsupportedReset line else .invalidKey line
  | _, line => .invalidKey line

/-! ## What each state takes -/

variable {line : String} {op : Registry.Operation} {e : Expecting} {p : Progress}

theorem Topic.read_iff (topic : Topic) : Topic.read? line = some topic ↔ Says line topic.word := by
  constructor
  · intro h
    have := List.find?_some h
    exact (of_decide_eq_true this).symm
  · intro h
    rw [Topic.read?, show wordOf line = _ from h]
    cases topic <;> rfl

theorem Verb.read_iff (verb : Verb) : Verb.read? line = some verb ↔ Says line verb.word := by
  constructor
  · intro h
    have := List.find?_some h
    exact (of_decide_eq_true this).symm
  · intro h
    rw [Verb.read?, show wordOf line = _ from h]
    cases verb <;> rfl

namespace Expecting

def keyUses : List (String × KeyUse) := [("INCREASE", .add), ("DECREASE", .remove), ("COUNT", .count)]

def addressUses : List (String × Bool) := [("INCREASE", true), ("DECREASE", false)]

/-- What a state takes for its next line, and what comes of it. -/
inductive Accepts : Expecting → String → Progress → Prop
  | probe {l : String} (h : Says l "TEST") : Accepts .topic l (.complete .probe)
  | pending {l : String} (h : Says l "PENDING") : Accepts .topic l (.more .pendingAction)
  | session {l : String} (h : Says l "SESSION") : Accepts .topic l (.more .sessionAction)
  | nodes {l : String} (h : Says l "NODES") : Accepts .topic l (.more .nodesAction)
  | pendingAction {l w : String} {op : Registry.Operation} (h : Says l w)
      (hw : (w, op) ∈ pendingActions) : Accepts .pendingAction l (.complete (.call op))
  | listSessions {l : String} (h : Says l "LIST") :
    Accepts .sessionAction l (.complete (.call .knownHosts))
  | useSession {l w : String} {use : KeyUse} (h : Says l w)
      (hw : (w, use) ∈ keyUses) : Accepts .sessionAction l (.more (.key use))
  | reset {l : String} (h : Says l "RESET") : Accepts .sessionAction l (.more .resetScope)
  | resetAll {l : String} (h : Says l "ALL") :
    Accepts .resetScope l (.complete (.call .resetAllSessions))
  | resetOne {l : String} (h : Says l "NODE") : Accepts .resetScope l (.more (.key .reset))
  | listNodes {l : String} (h : Says l "LIST") :
    Accepts .nodesAction l (.complete (.call .listNodes))
  | useNode {l w : String} {add : Bool} (h : Says l w) (hw : (w, add) ∈ addressUses) :
    Accepts .nodesAction l (.more (.address add))
  | key {l : String} {use : KeyUse} {k : Node.Key} (h : Node.Key.parse? l = some k) :
    Accepts (.key use) l (.complete (.call (use.operation k)))
  | address {l : String} {add : Bool} :
    Accepts (.address add) l (.complete (.call (if add then .addNode l else .removeNode l)))

theorem accepts_of_accept (h : e.accept line = .ok p) : Accepts e line p := by
  cases e with
  | topic =>
    simp only [accept, acceptTopic] at h
    split at h <;> rename_i hread <;> cases h
    · exact .probe ((Topic.read_iff .test).1 hread)
    · exact .pending ((Topic.read_iff .pending).1 hread)
    · exact .session ((Topic.read_iff .session).1 hread)
    · exact .nodes ((Topic.read_iff .nodes).1 hread)
  | pendingAction =>
    simp only [accept, acceptPending] at h
    split at h <;> rename_i hread <;> cases h
    · exact .pendingAction ((Verb.read_iff .increase).1 hread) (.head _)
    · exact .pendingAction ((Verb.read_iff .decrease).1 hread) (.tail _ (.head _))
    · exact .pendingAction ((Verb.read_iff .count).1 hread) (.tail _ (.tail _ (.head _)))
    · exact .pendingAction ((Verb.read_iff .reset).1 hread)
        (.tail _ (.tail _ (.tail _ (.head _))))
  | sessionAction =>
    simp only [accept, acceptSession] at h
    split at h <;> rename_i hread <;> cases h
    · exact .useSession ((Verb.read_iff .increase).1 hread) (.head _)
    · exact .useSession ((Verb.read_iff .decrease).1 hread) (.tail _ (.head _))
    · exact .useSession ((Verb.read_iff .count).1 hread) (.tail _ (.tail _ (.head _)))
    · exact .listSessions ((Verb.read_iff .list).1 hread)
    · exact .reset ((Verb.read_iff .reset).1 hread)
  | nodesAction =>
    simp only [accept, acceptNodes] at h
    split at h <;> rename_i hread <;> cases h
    · exact .useNode ((Verb.read_iff .increase).1 hread) (.head _)
    · exact .useNode ((Verb.read_iff .decrease).1 hread) (.tail _ (.head _))
    · exact .listNodes ((Verb.read_iff .list).1 hread)
  | resetScope =>
    simp only [accept, acceptScope] at h
    split at h <;> rename_i hread <;> cases h
    · exact .resetAll ((Verb.read_iff .all).1 hread)
    · exact .resetOne ((Verb.read_iff .node).1 hread)
  | key use =>
    simp only [accept] at h
    split at h <;> rename_i hread <;> cases h
    exact .key hread
  | address add =>
    cases h
    exact .address

theorem accept_of_accepts (h : Accepts e line p) : e.accept line = .ok p := by
  cases h with
  | probe h => simp only [accept, acceptTopic, (Topic.read_iff .test).2 h]
  | pending h => simp only [accept, acceptTopic, (Topic.read_iff .pending).2 h]
  | session h => simp only [accept, acceptTopic, (Topic.read_iff .session).2 h]
  | nodes h => simp only [accept, acceptTopic, (Topic.read_iff .nodes).2 h]
  | pendingAction h hw =>
    simp only [pendingActions, List.mem_cons, Prod.mk.injEq, List.not_mem_nil, or_false] at hw
    rcases hw with ⟨rfl, rfl⟩ | ⟨rfl, rfl⟩ | ⟨rfl, rfl⟩ | ⟨rfl, rfl⟩
    · simp only [accept, acceptPending, (Verb.read_iff .increase).2 h]
    · simp only [accept, acceptPending, (Verb.read_iff .decrease).2 h]
    · simp only [accept, acceptPending, (Verb.read_iff .count).2 h]
    · simp only [accept, acceptPending, (Verb.read_iff .reset).2 h]
  | listSessions h => simp only [accept, acceptSession, (Verb.read_iff .list).2 h]
  | useSession h hw =>
    simp only [keyUses, List.mem_cons, Prod.mk.injEq, List.not_mem_nil, or_false] at hw
    rcases hw with ⟨rfl, rfl⟩ | ⟨rfl, rfl⟩ | ⟨rfl, rfl⟩
    · simp only [accept, acceptSession, (Verb.read_iff .increase).2 h]
    · simp only [accept, acceptSession, (Verb.read_iff .decrease).2 h]
    · simp only [accept, acceptSession, (Verb.read_iff .count).2 h]
  | reset h => simp only [accept, acceptSession, (Verb.read_iff .reset).2 h]
  | resetAll h => simp only [accept, acceptScope, (Verb.read_iff .all).2 h]
  | resetOne h => simp only [accept, acceptScope, (Verb.read_iff .node).2 h]
  | listNodes h => simp only [accept, acceptNodes, (Verb.read_iff .list).2 h]
  | useNode h hw =>
    simp only [addressUses, List.mem_cons, Prod.mk.injEq, List.not_mem_nil, or_false] at hw
    rcases hw with ⟨rfl, rfl⟩ | ⟨rfl, rfl⟩
    · simp only [accept, acceptNodes, (Verb.read_iff .increase).2 h]
    · simp only [accept, acceptNodes, (Verb.read_iff .decrease).2 h]
  | key h => simp only [accept, h]
  | address => rfl

/-- **What the states take.** -/
theorem accept_iff : e.accept line = .ok p ↔ Accepts e line p :=
  ⟨accepts_of_accept, accept_of_accepts⟩

/-! ## From the first line to the last -/

/-- The lines lead from one state to the other. -/
inductive Reaches : Expecting → List String → Expecting → Prop
  | refl {e : Expecting} : Reaches e [] e
  | step {e mid e' : Expecting} {line : String} {texts : List String}
      (h : e.accept line = .ok (.more mid)) (hr : Reaches mid texts e') :
    Reaches e (line :: texts) e'

variable {e' mid : Expecting} {texts more : List String} {req : Request}

theorem reaches_append :
    Reaches e (texts ++ more) e' ↔ ∃ mid, Reaches e texts mid ∧ Reaches mid more e' := by
  constructor
  · intro h
    induction texts generalizing e with
    | nil => exact ⟨e, .refl, h⟩
    | cons line texts ih =>
      cases h with
      | step ha hr =>
        obtain ⟨mid, h1, h2⟩ := ih hr
        exact ⟨mid, .step ha h1, h2⟩
  · rintro ⟨mid, h1, h2⟩
    induction h1 with
    | refl => exact h2
    | step ha _ ih => exact .step ha (ih h2)

theorem reaches_unique (h : Reaches e texts e') (h' : Reaches e texts mid) : e' = mid := by
  induction h with
  | refl =>
    cases h'
    rfl
  | step ha _ ih =>
    cases h' with
    | step ha' hr' =>
      rw [ha] at ha'
      cases ha'
      exact ih hr'

theorem exists_completion (e : Expecting) : ∃ more last mid req,
    Reaches e more mid ∧ mid.accept last = .ok (.complete req) := by
  have hkey : Node.Key.parse? "a:1" = some (Node.Key.of "a" 1) := by decide +kernel
  cases e with
  | topic => exact ⟨[], "TEST", _, _, .refl, accept_iff.2 (.probe rfl)⟩
  | pendingAction => exact ⟨[], "COUNT", _, _, .refl, rfl⟩
  | sessionAction => exact ⟨[], "LIST", _, _, .refl, rfl⟩
  | nodesAction => exact ⟨[], "LIST", _, _, .refl, rfl⟩
  | resetScope => exact ⟨[], "ALL", _, _, .refl, rfl⟩
  | key use => exact ⟨[], "a:1", _, _, .refl, accept_iff.2 (.key hkey)⟩
  | address add => exact ⟨[], "", _, _, .refl, rfl⟩

/-- The beginnings of requests, and the states they lead to. -/
inductive Begun : List String → Expecting → Prop
  | start : Begun [] .topic
  | pending {t : String} (ht : Says t "PENDING") : Begun [t] .pendingAction
  | session {t : String} (ht : Says t "SESSION") : Begun [t] .sessionAction
  | nodes {t : String} (ht : Says t "NODES") : Begun [t] .nodesAction
  | key {t a w : String} {use : KeyUse} (ht : Says t "SESSION") (ha : Says a w)
      (hw : (w, use) ∈ keyUses) : Begun [t, a] (.key use)
  | reset {t a : String} (ht : Says t "SESSION") (ha : Says a "RESET") : Begun [t, a] .resetScope
  | resetOne {t a s : String} (ht : Says t "SESSION") (ha : Says a "RESET") (hs : Says s "NODE") :
    Begun [t, a, s] (.key .reset)
  | address {t a w : String} {add : Bool} (ht : Says t "NODES") (ha : Says a w)
      (hw : (w, add) ∈ addressUses) : Begun [t, a] (.address add)

/-- One more line keeps to the beginnings. -/
theorem begun_snoc (hb : Begun texts e) (ha : Accepts e line (.more e')) :
    Begun (texts ++ [line]) e' := by
  cases hb with
  | start =>
    cases ha with
    | pending h => exact .pending h
    | session h => exact .session h
    | nodes h => exact .nodes h
  | pending ht => cases ha
  | session ht =>
    cases ha with
    | useSession h hw => exact .key ht h hw
    | reset h => exact .reset ht h
  | nodes ht =>
    cases ha with
    | useNode h hw => exact .address ht h hw
  | key ht ha' hw => cases ha
  | reset ht ha' =>
    cases ha with
    | resetOne h => exact .resetOne ht ha' h
  | resetOne ht ha' hs => cases ha
  | address ht ha' hw => cases ha

theorem begun_of_reaches (h : Reaches .topic texts e) : Begun texts e := by
  induction texts using List.reverseRecOn generalizing e with
  | nil =>
    cases h
    exact .start
  | append_singleton texts line ih =>
    obtain ⟨mid, hr, hlast⟩ := reaches_append.1 h
    cases hlast with
    | step ha hr' =>
      cases hr'
      exact begun_snoc (ih hr) (accept_iff.1 ha)

theorem fault_of_reaches {f : Fault} (h : Reaches .topic texts e) (hf : e.accept line = .error f) :
    f = faultAt texts line := by
  cases begun_of_reaches h with
  | start =>
    simp only [accept, acceptTopic] at hf
    split at hf <;> cases hf
    rfl
  | pending ht =>
    simp only [accept, acceptPending] at hf
    split at hf <;> cases hf
    rw [faultAt, show wordOf _ = _ from ht, String.ofList_toList]
    rfl
  | session ht =>
    simp only [accept, acceptSession] at hf
    split at hf <;> cases hf
    rw [faultAt, show wordOf _ = _ from ht, String.ofList_toList]
    rfl
  | nodes ht =>
    simp only [accept, acceptNodes] at hf
    split at hf <;> cases hf
    rw [faultAt, show wordOf _ = _ from ht, String.ofList_toList]
    rfl
  | key ht ha hw =>
    simp only [accept] at hf
    split at hf <;> cases hf
    rw [faultAt, show wordOf _ = _ from ha, if_neg]
    · simp only [keyUses, List.mem_cons, Prod.mk.injEq, List.not_mem_nil, or_false] at hw
      rcases hw with ⟨rfl, rfl⟩ | ⟨rfl, rfl⟩ | ⟨rfl, rfl⟩ <;> decide
  | reset ht ha =>
    simp only [accept, acceptScope] at hf
    split at hf <;> cases hf
    rw [faultAt, show wordOf _ = _ from ha, if_pos rfl]
  | resetOne ht ha hs =>
    simp only [accept] at hf
    split at hf <;> cases hf
    rfl
  | address ht ha hw => cases hf

end Expecting

open Expecting

theorem mem_sessionActions {of : Node.Key → Registry.Operation} {w : String} :
    (w, of) ∈ sessionActions ↔ ∃ use, (w, use) ∈ keyUses ∧ use.operation = of := by
  rw [show sessionActions = keyUses.map fun p => (p.1, p.2.operation) from rfl]
  simp

theorem mem_nodesActions {of : String → Registry.Operation} {w : String} :
    (w, of) ∈ nodesActions ↔ ∃ add, (w, add) ∈ addressUses ∧
      (fun l => if add then .addNode l else .removeNode l) = of := by
  constructor
  · intro h
    rcases List.mem_cons.1 h with h | h
    · cases h
      exact ⟨true, .head _, rfl⟩
    · cases List.mem_singleton.1 h
      exact ⟨false, .tail _ (.head _), rfl⟩
  · rintro ⟨add, h, rfl⟩
    rcases List.mem_cons.1 h with h | h
    · cases h
      exact .head _
    · cases List.mem_singleton.1 h
      exact .tail _ (.head _)

/-- The forms of a request are what the states take from the first line to the last. -/
theorem form_iff : Form texts req ↔ ∃ init last e, texts = init ++ [last] ∧
    Reaches .topic init e ∧ e.accept last = .ok (.complete req) := by
  constructor
  · intro h
    cases h with
    | @probe t ht => exact ⟨[], t, _, rfl, .refl, accept_iff.2 (.probe ht)⟩
    | @pending t a w op ht ha hw =>
      exact ⟨[t], a, _, rfl, .step (accept_iff.2 (.pending ht)) .refl,
        accept_iff.2 (.pendingAction ha hw)⟩
    | @sessions t a ht ha =>
      exact ⟨[t], a, _, rfl, .step (accept_iff.2 (.session ht)) .refl,
        accept_iff.2 (.listSessions ha)⟩
    | @session t a w l of k ht ha hw hk =>
      obtain ⟨use, huse, rfl⟩ := mem_sessionActions.1 hw
      exact ⟨[t, a], l, _, rfl, .step (accept_iff.2 (.session ht))
        (.step (accept_iff.2 (.useSession ha huse)) .refl), accept_iff.2 (.key hk)⟩
    | @resetAll t a s ht ha hs =>
      exact ⟨[t, a], s, _, rfl, .step (accept_iff.2 (.session ht))
        (.step (accept_iff.2 (.reset ha)) .refl), accept_iff.2 (.resetAll hs)⟩
    | @resetOne t a s l k ht ha hs hk =>
      exact ⟨[t, a, s], l, _, rfl, .step (accept_iff.2 (.session ht))
        (.step (accept_iff.2 (.reset ha)) (.step (accept_iff.2 (.resetOne hs)) .refl)),
        accept_iff.2 (.key hk)⟩
    | @nodes t a ht ha =>
      exact ⟨[t], a, _, rfl, .step (accept_iff.2 (.nodes ht)) .refl, accept_iff.2 (.listNodes ha)⟩
    | @node t a w l of ht ha hw =>
      obtain ⟨add, hadd, rfl⟩ := mem_nodesActions.1 hw
      exact ⟨[t, a], l, _, rfl, .step (accept_iff.2 (.nodes ht))
        (.step (accept_iff.2 (.useNode ha hadd)) .refl), accept_iff.2 .address⟩
  · rintro ⟨init, last, e, rfl, hr, hlast⟩
    rw [accept_iff] at hlast
    cases begun_of_reaches hr with
    | start => cases hlast with | probe h => exact .probe h
    | pending ht => cases hlast with | pendingAction h hw => exact .pending ht h hw
    | session ht => cases hlast with | listSessions h => exact .sessions ht h
    | nodes ht => cases hlast with | listNodes h => exact .nodes ht h
    | key ht ha hw =>
      cases hlast with | key h => exact .session ht ha (mem_sessionActions.2 ⟨_, hw, rfl⟩) h
    | reset ht ha => cases hlast with | resetAll h => exact .resetAll ht ha h
    | resetOne ht ha hs => cases hlast with | key h => exact .resetOne ht ha hs h
    | address ht ha hw =>
      cases hlast with | address => exact .node ht ha (mem_nodesActions.2 ⟨_, hw, rfl⟩)

/-- The beginnings of forms are what leads to a state. -/
theorem viable_iff : Viable texts ↔ ∃ e, Reaches .topic texts e := by
  constructor
  · rintro ⟨more, req, hne, h⟩
    obtain ⟨init, last, e, hsplit, hr, -⟩ := form_iff.1 h
    rw [← List.dropLast_concat_getLast hne, ← List.append_assoc] at hsplit
    rw [← (List.append_inj' hsplit rfl).1] at hr
    obtain ⟨mid, hr, -⟩ := reaches_append.1 hr
    exact ⟨mid, hr⟩
  · rintro ⟨e, hr⟩
    obtain ⟨more, last, mid, req, hm, hlast⟩ := exists_completion e
    refine ⟨more ++ [last], req, List.append_ne_nil_of_right_ne_nil _ (List.cons_ne_nil _ _), ?_⟩
    exact form_iff.2 ⟨texts ++ more, last, mid, (List.append_assoc ..).symm,
      reaches_append.2 ⟨e, hr, hm⟩, hlast⟩

theorem form_snoc_iff (hr : Reaches .topic texts e) :
    Form (texts ++ [line]) req ↔ e.accept line = .ok (.complete req) := by
  rw [form_iff]
  constructor
  · rintro ⟨init, last, e', hsplit, hr', h⟩
    obtain ⟨rfl, hlast⟩ := List.append_inj' hsplit rfl
    cases hlast
    rwa [reaches_unique hr hr']
  · intro h
    exact ⟨texts, line, e, rfl, hr, h⟩

theorem viable_snoc_iff (hr : Reaches .topic texts e) :
    Viable (texts ++ [line]) ↔ ∃ next, e.accept line = .ok (.more next) := by
  rw [viable_iff]
  constructor
  · rintro ⟨e', h⟩
    obtain ⟨mid, hmid, hlast⟩ := reaches_append.1 h
    rw [← reaches_unique hr hmid] at hlast
    cases hlast with
    | step ha _ => exact ⟨_, ha⟩
  · rintro ⟨next, h⟩
    exact ⟨next, reaches_append.2 ⟨e, hr, .step h .refl⟩⟩

/-! ## What is read -/

/-- What a request is read as from the given lines, if no more come: the result, how many lines are
taken for it, and how many of them count as read. -/
inductive Verdict (lines : List (Except Text.Utf8Fault String)) :
    Except Fault Request → Nat → Nat → Prop
  | accepted {texts : List String} {req : Request} {rest : List (Except Text.Utf8Fault String)}
      (hl : lines = texts.map .ok ++ rest) (hf : Form texts req) :
    Verdict lines (.ok req) texts.length texts.length
  | refused {texts : List String} {line : String} {rest : List (Except Text.Utf8Fault String)}
      (hl : lines = texts.map .ok ++ .ok line :: rest) (hv : Viable texts)
      (hn : ¬ Viable (texts ++ [line])) (hf : ∀ req, ¬ Form (texts ++ [line]) req) :
    Verdict lines (.error (faultAt texts line)) (texts.length + 1) (texts.length + 1)
  /-- The first lines begin a request, and the next one is not UTF-8. It is not counted. -/
  | garbled {texts : List String} {fault : Text.Utf8Fault}
      {rest : List (Except Text.Utf8Fault String)}
      (hl : lines = texts.map .ok ++ .error fault :: rest) (hv : Viable texts) :
    Verdict lines (.error (.io fault.message)) (texts.length + 1) texts.length
  | closed {texts : List String} (hl : lines = texts.map .ok) (hv : Viable texts) :
    Verdict lines (.error .closed) texts.length texts.length

theorem exists_verdict (lines : List (Except Text.Utf8Fault String)) :
    ∃ result taken counted, Verdict lines result taken counted := by
  have from_state : ∀ (rest : List (Except Text.Utf8Fault String)) (texts : List String)
      (e : Expecting), Reaches .topic texts e → lines = texts.map .ok ++ rest →
      ∃ result taken counted, Verdict lines result taken counted := by
    intro rest
    induction rest with
    | nil =>
      intro texts e hr hl
      exact ⟨_, _, _, .closed (by rw [hl, List.append_nil]) (viable_iff.2 ⟨e, hr⟩)⟩
    | cons next rest ih =>
      intro texts e hr hl
      have hv : Viable texts := viable_iff.2 ⟨e, hr⟩
      cases next with
      | error fault => exact ⟨_, _, _, .garbled hl hv⟩
      | ok line =>
        have hnext : lines = (texts ++ [line]).map .ok ++ rest := by simp [hl]
        cases ha : e.accept line with
        | error f =>
          refine ⟨_, _, _, .refused hl hv ?_ ?_⟩
          · rw [viable_snoc_iff hr, ha]
            rintro ⟨_, h⟩
            cases h
          · intro req
            rw [form_snoc_iff hr, ha]
            exact nofun
        | ok p =>
          cases p with
          | complete req => exact ⟨_, _, _, .accepted hnext ((form_snoc_iff hr).2 ha)⟩
          | more e' => exact ih _ e' (reaches_append.2 ⟨e, hr, .step ha .refl⟩) hnext
  exact from_state lines [] .topic .refl rfl

namespace Reader

variable {r r' : Reader} {limit : Option Nat} {fault : Fault} {e mid : Expecting}
  {taken left : List (List UInt8)}

theorem readFrom_of_error (h : r.nextLine? limit = some (.error fault, r')) :
    r.readFrom? limit e = some (.error fault, r') := by
  rw [readFrom?, h]

theorem readFrom_of_refused (h : r.nextLine? limit = some (.ok line, r'))
    (ha : e.accept line = .error fault) : r.readFrom? limit e = some (.error fault, r') := by
  rw [readFrom?, h]
  dsimp only
  split <;> rename_i heq <;> rw [ha] at heq <;> cases heq
  rfl

theorem readFrom_of_complete (h : r.nextLine? limit = some (.ok line, r'))
    (ha : e.accept line = .ok (.complete req)) : r.readFrom? limit e = some (.ok req, r') := by
  rw [readFrom?, h]
  dsimp only
  split <;> rename_i heq <;> rw [ha] at heq <;> cases heq
  rfl

theorem readFrom_of_more (h : r.nextLine? limit = some (.ok line, r'))
    (ha : e.accept line = .ok (.more mid)) :
    r.readFrom? limit e = r'.readFrom? limit mid := by
  rw [readFrom?, h]
  dsimp only
  split <;> rename_i heq <;> rw [ha] at heq <;> cases heq
  rfl

/-- Reading comes to an end with a limit, and on a connection that is closed in the end. -/
theorem readFrom_isSome (h : limit.isSome = true ∨ r.feed.closing.isSome = true) :
    (r.readFrom? limit e).isSome = true := by
  fun_induction readFrom? limit e r with
  | case1 e r hn =>
    -- the next line would be waited for in vain
    have := nextLine_isSome h
    rw [hn] at this
    cases this
  | case2 | case3 | case4 => rfl
  | case5 e r line r₁ hn next ha hd ih =>
    refine ih (h.imp_right fun hc => ?_)
    rw [(nextLine_cases hn).2, hc]

/-- Lines that are sure to be read, and lead from one state to another, are read. -/
theorem readFrom_of_reaches (hr : Reaches e texts e') {next : List (List UInt8)}
    (hl : r.lines = taken ++ left) (ht : taken.map lineText = texts.map .ok)
    (hs : r.Sure limit (taken ++ next)) : ∃ r' : Reader,
    r.readFrom? limit e = r'.readFrom? limit e' ∧ r'.lines = left ∧
      r'.linesRead = r.linesRead + texts.length ∧ r'.feed.closing = r.feed.closing ∧
      r'.Sure limit next := by
  induction hr generalizing r taken with
  | refl =>
    rw [List.map_nil, List.map_eq_nil_iff] at ht
    subst ht
    exact ⟨r, rfl, hl, rfl, rfl, hs⟩
  | step ha _ ih =>
    cases taken with
    | nil => cases ht
    | cons octets taken =>
      obtain ⟨hline, ht⟩ := List.cons.inj ht
      obtain ⟨r₁, hnext, hlines, hcount, hclose, hs⟩ := nextLine_of_sure hl hs
      rw [hline] at hnext hcount
      obtain ⟨r', hread, hleft, hcount', hclose', hs'⟩ := ih hlines ht hs
      refine ⟨r', ?_, hleft, ?_, hclose'.trans hclose, hs'⟩
      · rw [readFrom_of_more hnext ha, hread]
      · rw [hcount', hcount, List.length_cons, Nat.add_assoc, Nat.add_comm _ 1]
        rfl

/-- The beginning of a request is read, if the peer closes in the end. -/
theorem read_of_reaches (hr : Reaches .topic texts e) (hc : r.feed.closing.isSome = true)
    {rest : List (Except Text.Utf8Fault String)}
    (hl : r.lines.map lineText = texts.map .ok ++ rest) : ∃ r' : Reader,
    r.read? none = r'.readFrom? none e ∧ r'.lines = r.lines.drop texts.length ∧
      r'.lines.map lineText = rest ∧ r'.linesRead = r.linesRead + texts.length ∧
      r'.feed.closing.isSome = true := by
  obtain ⟨taken, left, hsplit, ht, hrest⟩ := List.map_eq_append_iff.1 hl
  obtain ⟨r', hread, hleft, hcount, hclose, -⟩ :=
    readFrom_of_reaches hr hsplit ht (.inl ⟨rfl, hc⟩ : r.Sure none (taken ++ []))
  have hlen : taken.length = texts.length := by simpa using congrArg List.length ht
  refine ⟨r', hread, ?_, by rw [hleft, hrest], hcount, by rw [hclose, hc]⟩
  rw [hleft, hsplit, ← hlen, List.drop_left]

theorem read_next (hr : Reaches .topic texts e) (hc : r.feed.closing.isSome = true)
    {next : Except Text.Utf8Fault String} {rest : List (Except Text.Utf8Fault String)}
    (hl : r.lines.map lineText = texts.map .ok ++ next :: rest) : ∃ r₁ r' : Reader,
    r.read? none = r₁.readFrom? none e ∧
      r₁.nextLine? none = some (lineResult (some next), r') ∧
      r'.lines = r.lines.drop (texts.length + 1) ∧
      r'.linesRead = r.linesRead + (texts.length + lineCount (some next)) := by
  obtain ⟨r₁, hread, hdrop, hmap, hcount, hclose⟩ := read_of_reaches hr hc hl
  obtain ⟨octets, left, hlines, rfl, -⟩ := List.map_eq_cons_iff.1 hmap
  obtain ⟨r', hnext, hleft, hcount', -⟩ :=
    nextLine_of_sure hlines (.inl ⟨rfl, hclose⟩ : r₁.Sure none [octets])
  refine ⟨r₁, r', hread, hnext, ?_, by rw [hcount', hcount, Nat.add_assoc]⟩
  rw [hleft, ← List.drop_drop, ← hdrop, hlines, List.drop_one, List.tail_cons]

theorem read_of_verdict {result : Except Fault Request} {n counted : Nat}
    (hc : r.feed.closing.isSome = true)
    (hv : Verdict (r.lines.map lineText) result n counted) : ∃ r' : Reader,
    r.read? none = some (result, r') ∧ r'.lines = r.lines.drop n ∧
      r'.linesRead = r.linesRead + counted := by
  cases hv with
  | @accepted texts req rest hl hf =>
    obtain ⟨init, last, e, rfl, hr, hlast⟩ := form_iff.1 hf
    rw [List.map_append, List.append_assoc] at hl
    obtain ⟨r₁, r', hread, hnext, hlines, hcount⟩ := read_next hr hc hl
    rw [List.length_append, List.length_singleton]
    exact ⟨r', hread.trans (readFrom_of_complete hnext hlast), hlines, hcount⟩
  | @refused texts line rest hl hv hn hf =>
    obtain ⟨e, hr⟩ := viable_iff.1 hv
    obtain ⟨r₁, r', hread, hnext, hlines, hcount⟩ := read_next hr hc hl
    have hrefuse : e.accept line = .error (faultAt texts line) := by
      cases ha : e.accept line with
      | error f => rw [fault_of_reaches hr ha]
      | ok p =>
        cases p with
        | complete req => exact absurd ((form_snoc_iff hr).2 ha) (hf req)
        | more next => exact absurd ((viable_snoc_iff hr).2 ⟨next, ha⟩) hn
    exact ⟨r', hread.trans (readFrom_of_refused hnext hrefuse), hlines, hcount⟩
  | @garbled texts fault rest hl hv =>
    obtain ⟨e, hr⟩ := viable_iff.1 hv
    obtain ⟨r₁, r', hread, hnext, hlines, hcount⟩ := read_next hr hc hl
    exact ⟨r', hread.trans (readFrom_of_error hnext), hlines, hcount⟩
  | @closed texts hl hv =>
    obtain ⟨e, hr⟩ := viable_iff.1 hv
    obtain ⟨r₁, hread, hdrop, hmap, hcount, hclose⟩ :=
      read_of_reaches hr hc (hl.trans (List.append_nil _).symm)
    have hnil : r₁.lines = [] := List.map_eq_nil_iff.1 hmap
    obtain ⟨r', hnext, hleft, hcount', -⟩ :=
      nextLine_of_completion (completion_isSome.2 (.inl hclose)) (.inl (rfl : none = none))
    rw [nextText, hnil] at hnext hcount'
    refine ⟨r', hread.trans (readFrom_of_error hnext), ?_, hcount'.trans hcount⟩
    rw [hleft, ← hdrop, hnil, List.tail_nil]

/-- **What is read.** On a connection that is closed in the end, and without a limit, a request is
always read to a result. The result, what is left of the octets, and how many lines are counted are
what the lines of the feed give: a request if the first of them are the lines of one, and else the
fault of the first line that does not go on with a request, or the early end. -/
theorem read_iff_verdict (r : Reader) (hc : r.feed.closing.isSome = true) :
    (r.read? none).isSome = true ∧
      ∀ (result : Except Fault Request) (rest : List UInt8) (counted : Nat),
        (∃ r', r.read? none = some (result, r') ∧ r'.feed.bytes = rest ∧
            r'.linesRead = r.linesRead + counted) ↔
          ∃ taken, Verdict (r.lines.map lineText) result taken counted ∧
            rest = (r.lines.drop taken).flatten := by
  obtain ⟨result₀, taken₀, counted₀, hv₀⟩ := exists_verdict (r.lines.map lineText)
  obtain ⟨r₀, hread₀, hlines₀, hcount₀⟩ := read_of_verdict hc hv₀
  refine ⟨by rw [hread₀]; rfl, fun result rest counted => ⟨?_, ?_⟩⟩
  · rintro ⟨r', hread, rfl, hcount⟩
    rw [hread₀] at hread
    cases hread
    have : counted = counted₀ := by omega
    subst this
    exact ⟨taken₀, hv₀, by rw [bytes_eq_flatten, hlines₀]⟩
  · rintro ⟨taken, hv, rfl⟩
    obtain ⟨r', hread, hlines, hcount⟩ := read_of_verdict hc hv
    exact ⟨r', hread, by rw [bytes_eq_flatten, hlines], hcount⟩

/-- A request with blanks and carriage returns, and a line behind it that is not UTF-8. -/
theorem read_iff_verdict_padded :
    let octets := Text.encodeUtf8 "\u00a0session\r\r\nIncrease \nGRID.test:5555\n".toList
    let r : Reader := { feed := .atOnce (octets ++ [0xff, 10]) false }
    r.feed.closing.isSome = true ∧
      ∃ r', r.read? none = some (.ok (.call (.addSession ⟨"grid.test", 5555⟩)), r') ∧
        r'.feed.bytes = [0xff, 10] ∧ r'.linesRead = 3 := by
  intro octets r
  have hform : Form ["\u00a0session", "Increase ", "GRID.test:5555"]
      (.call (.addSession ⟨"grid.test", 5555⟩)) :=
    .session (rfl : wordOf _ = _) (rfl : wordOf _ = "INCREASE".toList) (.head _)
      (by decide +kernel)
  have hlines : r.lines.map lineText =
      ["\u00a0session", "Increase ", "GRID.test:5555"].map .ok ++ [.error ⟨0, some 1⟩] := by
    decide +kernel
  exact ⟨rfl, ((read_iff_verdict r rfl).2 _ _ 3).2 ⟨3, .accepted hlines hform, by decide +kernel⟩⟩

end Reader
end GridKeeper.Wire

import GridKeeper.Node.KeyText
import GridKeeper.Wire.Fault
import GridKeeper.Wire.Request

/-!
# The grammar of requests

Which line may come next depends on the lines before it. An `Expecting` says what the next line has
to be; `accept` takes one line and either completes the request, or says what has to come then, or
refuses the line. Nothing is read ahead: a request ends with the line that completes it, and with
the first line that cannot be part of one.
-/
namespace GridKeeper.Wire

inductive KeyUse where
  | add
  | remove
  | count
  | reset
deriving Repr, DecidableEq

def KeyUse.operation : KeyUse → Node.Key → Registry.Operation
  | add => .addSession
  | remove => .removeSession
  | count => .sessionCount
  | reset => .resetSessions

/-- What the next line of a request has to be. -/
inductive Expecting where
  | topic
  | pendingAction
  | sessionAction
  | nodesAction
  | resetScope
  | key (use : KeyUse)
  /-- The address of a node to be added, or removed. Any text is taken as it is. -/
  | address (add : Bool)
deriving Repr, DecidableEq

inductive Progress where
  | complete (request : Request)
  | more (next : Expecting)
deriving Repr, DecidableEq

namespace Expecting

/-- Takes the first line of a request. -/
def acceptTopic (line : String) : Except Fault Progress :=
  match Topic.read? line with
  | some .test => .ok (.complete .probe)
  | some .pending => .ok (.more .pendingAction)
  | some .session => .ok (.more .sessionAction)
  | some .nodes => .ok (.more .nodesAction)
  | none => .error (.unsupportedCommand line)

/-- Takes the second line of a request about pending launches (`RequestReader.read_pending`). -/
def acceptPending (line : String) : Except Fault Progress :=
  match Verb.read? line with
  | some .increase => .ok (.complete (.call .addPending))
  | some .decrease => .ok (.complete (.call .removePending))
  | some .count => .ok (.complete (.call .pendingCount))
  | some .reset => .ok (.complete (.call .resetPending))
  | _ => .error (.unsupportedAction Topic.pending.word line)

/-- Takes the second line of a request about sessions (`RequestReader.read_session`). -/
def acceptSession (line : String) : Except Fault Progress :=
  match Verb.read? line with
  | some .increase => .ok (.more (.key .add))
  | some .decrease => .ok (.more (.key .remove))
  | some .count => .ok (.more (.key .count))
  | some .list => .ok (.complete (.call .knownHosts))
  | some .reset => .ok (.more .resetScope)
  | _ => .error (.unsupportedAction Topic.session.word line)

/-- Takes the second line of a request about nodes (`RequestReader.read_nodes`). -/
def acceptNodes (line : String) : Except Fault Progress :=
  match Verb.read? line with
  | some .increase => .ok (.more (.address true))
  | some .decrease => .ok (.more (.address false))
  | some .list => .ok (.complete (.call .listNodes))
  | _ => .error (.unsupportedAction Topic.nodes.word line)

/-- Takes the third line of a reset. -/
def acceptScope (line : String) : Except Fault Progress :=
  match Verb.read? line with
  | some .all => .ok (.complete (.call .resetAllSessions))
  | some .node => .ok (.more (.key .reset))
  | _ => .error (.unsupportedReset line)

def accept : Expecting → String → Except Fault Progress
  | topic, line => acceptTopic line
  | pendingAction, line => acceptPending line
  | sessionAction, line => acceptSession line
  | nodesAction, line => acceptNodes line
  | resetScope, line => acceptScope line
  | key use, line =>
    match Node.Key.parse? line with
    | some k => .ok (.complete (.call (use.operation k)))
    | none => .error (.invalidKey line)
  | address add, line =>
    .ok (.complete (.call (if add then .addNode line else .removeNode line)))

/-- The number of lines that can still come. -/
def depth : Expecting → Nat
  | topic => 4
  | pendingAction => 1
  | sessionAction => 3
  | nodesAction => 2
  | resetScope => 2
  | key _ => 1
  | address _ => 1

/-- Every line brings the request nearer to its end. -/
theorem depth_lt_of_accept {e next : Expecting} {line : String}
    (h : e.accept line = .ok (.more next)) : next.depth < e.depth := by
  cases e <;> simp only [accept, acceptTopic, acceptPending, acceptSession, acceptNodes,
    acceptScope] at h <;> split at h <;> simp_all [depth] <;> subst h <;> decide

end Expecting
end GridKeeper.Wire

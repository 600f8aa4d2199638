import GridKeeper.Lock.Failure
import GridKeeper.Registry

/-!
# Sweeps

A sweep goes once over the directory and has every idle node cleaned up. It holds the lock all the
while, and it does nothing as long as launches are pending: a test may be about to use any node.
Nodes are cleaned one after the other in the order of the directory as it was when the sweep began;
whether a node is idle is looked at just before its turn.
-/
namespace GridKeeper.Sweep

/-- How the clean-up of a node ended (`CleanupOutcome`). -/
inductive Outcome where
  | succeeded
  /-- The clean-up failed, with an exit code unless a signal ended it. -/
  | failed (exitCode : Option Int)
  /-- The watchdog ended the clean-up after a time in microseconds. -/
  | timedOut (after : Nat)
  | notStarted (cause : String)
deriving Repr, DecidableEq

/-- The outcome in words; a time is given in whole milliseconds. -/
def Outcome.text : Outcome → String
  | succeeded => "succeeded"
  | failed (some code) => s!"failed with exit code {code}"
  | failed none => "terminated by signal"
  | timedOut after => s!"killed by watchdog after {after / 1000} ms"
  | notStarted cause => s!"could not be started: {cause}"

/-- Whether the clean-up did what it was to do. -/
def Outcome.isSuccess : Outcome → Bool
  | succeeded => true
  | _ => false

/-- What a sweep did about one node. -/
inductive NodeReport where
  | cleaned (node : Node) (outcome : Outcome)
  | busy (node : Node) (sessions : Nat)
deriving Repr, DecidableEq

/-- What came of a sweep (`TickReport`). -/
inductive Report where
  | lockUnavailable (reason : String)
  | pendingSessions (pending : Nat)
  | walked (nodes : List NodeReport)
deriving Repr, DecidableEq

def NodeReport.cleaned? : NodeReport → Option Node
  | cleaned node _ => some node
  | busy _ _ => none

/-- The nodes that were cleaned, in order (`TickReport.cleaned_nodes`). -/
def Report.cleaned : Report → List Node
  | walked nodes => nodes.filterMap NodeReport.cleaned?
  | _ => []

/-- What a clean-up does: told how many there were before it in this sweep, and the node, it ends in
some way and leaves the registry in some state (`CleanupRunner`). -/
abbrev Cleaner := Nat → Node → Registry → Outcome × Registry

/-- Goes over nodes; `calls` clean-ups went before (`CleanupScheduler.walk`). -/
def walk (clean : Cleaner) (calls : Nat) : List Node → Registry → List NodeReport × Registry
  | [], r => ([], r)
  | n :: rest, r =>
    let sessions := r.ledger.count n.key
    if sessions ≠ 0 then
      let (reports, r) := walk clean calls rest r
      (.busy n sessions :: reports, r)
    else
      let (outcome, r) := clean calls n r
      let (reports, r) := walk clean (calls + 1) rest r
      (.cleaned n outcome :: reports, r)

def underLock (clean : Cleaner) (r : Registry) : Report × Registry :=
  if r.ledger.pending ≠ 0 then (.pendingSessions r.ledger.pending, r)
  else
    let (reports, r) := walk clean 0 r.directory.nodes r
    (.walked reports, r)

/-- A whole sweep, given how the attempt to get the lock ends (`CleanupScheduler.tick`). -/
def tick (attempt : Except Lock.Failure Unit) (clean : Cleaner) (r : Registry) :
    Report × Registry :=
  match attempt with
  | .error failure => (.lockUnavailable failure.message, r)
  | .ok () => underLock clean r

end GridKeeper.Sweep

import GridKeeper.Directory
import GridKeeper.Ledger
import GridKeeper.Text.Cut

/-!
# The registry

The registry is the ledger together with the directory. It is changed by operations only, each of
which answers something.

A name in parentheses behind a description, here and in all modules, tells which part of the
coordinator a definition stands for.
-/
namespace GridKeeper

/-- The counts and the monitored nodes (`SessionCoordinator`). -/
structure Registry where
  ledger : Ledger := {}
  directory : Directory := {}
deriving Repr, DecidableEq

namespace Registry

inductive Operation where
  | addPending
  | removePending
  | pendingCount
  | resetPending
  | addSession (key : Node.Key)
  | removeSession (key : Node.Key)
  | sessionCount (key : Node.Key)
  | resetSessions (key : Node.Key)
  | resetAllSessions
  | knownHosts
  | addNode (address : String)
  | removeNode (address : String)
  | listNodes
deriving Repr, DecidableEq

inductive Answer where
  | count (n : Nat)
  | reset
  | hosts (keys : List Node.Key)
  | added (address : String) (outcome : Directory.Outcome)
  | removed (address : String) (outcome : Directory.Outcome)
  | nodes (texts : List String)
deriving Repr, DecidableEq

def apply (r : Registry) : Operation → Answer × Registry
  | .addPending =>
    let l := r.ledger.addPending
    (.count l.pending, { r with ledger := l })
  | .removePending =>
    let l := r.ledger.removePending
    (.count l.pending, { r with ledger := l })
  | .pendingCount => (.count r.ledger.pending, r)
  | .resetPending => (.reset, { r with ledger := r.ledger.resetPending })
  | .addSession k =>
    let l := r.ledger.addSession k
    (.count (l.count k), { r with ledger := l })
  | .removeSession k =>
    let l := r.ledger.removeSession k
    (.count (l.count k), { r with ledger := l })
  | .sessionCount k => (.count (r.ledger.count k), r)
  | .resetSessions k => (.reset, { r with ledger := r.ledger.resetSessions k })
  | .resetAllSessions => (.reset, { r with ledger := r.ledger.resetAll })
  | .knownHosts => (.hosts r.ledger.hosts, r)
  | .addNode address =>
    let (o, d) := r.directory.add address
    (.added address o, { r with directory := d })
  | .removeNode address =>
    let (o, d) := r.directory.remove address
    (.removed address o, { r with directory := d })
  | .listNodes => (.nodes r.directory.texts, r)

def after (r : Registry) (op : Operation) : Registry := (r.apply op).2

def run (r : Registry) (ops : List Operation) : Registry := ops.foldl after r

/-- Adds the nodes at the given addresses up to the first that is not the address of a node; that
one is reported. -/
def seed (r : Registry) (addresses : List String) : Option String × Registry :=
  let (bad, d) := r.directory.seed addresses
  (bad, { r with directory := d })

/-- Known nodes on one line (`SessionCounts.known_hosts_line`). -/
def hostsLine (keys : List Node.Key) : String :=
  Text.joined Ledger.delimiter (keys.map Node.Key.text)

end Registry
end GridKeeper

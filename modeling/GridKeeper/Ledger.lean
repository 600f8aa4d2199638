import GridKeeper.Node.Key
import GridKeeper.Text.Numeral

/-!
# The ledger

The ledger counts the test launches that are under way and, for every node, the sessions that run on
it. A count never falls below zero: a decrease at zero is absorbed. It never rises above what 32
bits hold. A node is listed from the first time that a session on it is added, removed or reset, and
it stays listed.
-/
namespace GridKeeper

/-- Pending launches and running sessions (`SessionCounts`). -/
structure Ledger where
  pending : Nat := 0
  /-- The known nodes in ascending order, each with the number of its sessions. -/
  sessions : List (Node.Key × Nat) := []
deriving Repr, DecidableEq

namespace Ledger

/-- One more, up to the largest number of 32 bits. -/
def up (n : Nat) : Nat := min (n + 1) Text.max32

/-- One less, down to zero. -/
def down (n : Nat) : Nat := n - 1

/-! ## Entries in order of their keys -/

/-- The number kept for a key; a key that is not listed has none. -/
def find (k : Node.Key) : List (Node.Key × Nat) → Nat
  | [] => 0
  | (key, n) :: rest => if key = k then n else find k rest

/-- Changes the number kept for a key. A key that is not listed is put in its place, as if it had
been listed with zero. -/
def alter (k : Node.Key) (f : Nat → Nat) : List (Node.Key × Nat) → List (Node.Key × Nat)
  | [] => [(k, f 0)]
  | (key, n) :: rest =>
    if key = k then (k, f n) :: rest
    else if k.before key then (k, f 0) :: (key, n) :: rest
    else (key, n) :: alter k f rest

/-! ## Operations -/

/-- The number of sessions on a node. -/
def count (l : Ledger) (k : Node.Key) : Nat := find k l.sessions

/-- The known nodes in ascending order (`SessionCounts.known_hosts`). -/
def hosts (l : Ledger) : List Node.Key := l.sessions.map (·.1)

def addPending (l : Ledger) : Ledger := { l with pending := up l.pending }

def removePending (l : Ledger) : Ledger := { l with pending := down l.pending }

def resetPending (l : Ledger) : Ledger := { l with pending := 0 }

def addSession (l : Ledger) (k : Node.Key) : Ledger := { l with sessions := alter k up l.sessions }

/-- One session less runs on a node; the node is known from then on. -/
def removeSession (l : Ledger) (k : Node.Key) : Ledger :=
  { l with sessions := alter k down l.sessions }

/-- No session runs on a node any more; the node is known from then on. -/
def resetSessions (l : Ledger) (k : Node.Key) : Ledger :=
  { l with sessions := alter k (fun _ => 0) l.sessions }

/-- Sets the count of every known node to zero; the nodes stay known. -/
def resetAll (l : Ledger) : Ledger := { l with sessions := l.sessions.map fun (k, _) => (k, 0) }

/-- What separates the entries of a list on one line. -/
def delimiter : String := ", "

end Ledger
end GridKeeper

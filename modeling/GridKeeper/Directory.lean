import GridKeeper.Node

/-!
# The node directory

The directory lists the nodes to be looked after, in the order in which they were added and without
two that are the same.
-/
namespace GridKeeper

/-- The monitored nodes, in the order in which they were added (`NodeDirectory`). -/
structure Directory where
  nodes : List Node := []
deriving Repr, DecidableEq

namespace Directory

/-- What a request to change the directory came to (`NodeOutcome`). -/
inductive Outcome where
  | invalid
  /-- The node was there already, or was not there to be removed. -/
  | unchanged
  | applied
deriving Repr, DecidableEq

def Outcome.code : Outcome → Int
  | invalid => -1
  | unchanged => 0
  | applied => 1

/-- Whether the directory holds a node that is the same as `n`. -/
def holds (d : Directory) (n : Node) : Bool := d.nodes.any (·.same n)

/-- Adds a node at the end, unless the directory holds it (`NodeDirectory.add_identity`). -/
def insert (d : Directory) (n : Node) : Outcome × Directory :=
  if d.holds n then (.unchanged, d) else (.applied, ⟨d.nodes ++ [n]⟩)

/-- Removes the node that is the same as `n`. -/
def erase (d : Directory) (n : Node) : Outcome × Directory :=
  if d.holds n then (.applied, ⟨d.nodes.eraseP (·.same n)⟩) else (.unchanged, d)

/-- Adds the node at an address (`NodeDirectory.add`). -/
def add (d : Directory) (address : String) : Outcome × Directory :=
  match Node.parse? address with
  | some n => d.insert n
  | none => (.invalid, d)

/-- Removes the node at an address (`NodeDirectory.remove`). -/
def remove (d : Directory) (address : String) : Outcome × Directory :=
  match Node.parse? address with
  | some n => d.erase n
  | none => (.invalid, d)

/-- The nodes as they are listed (`NodeDirectory.list`). -/
def texts (d : Directory) : List String := d.nodes.map Node.text

/-- Adds the nodes at the given addresses up to the first that is not the address of a node; that
one is reported (`seed_nodes`). -/
def seed (d : Directory) : List String → Option String × Directory
  | [] => (none, d)
  | address :: rest =>
    match d.add address with
    | (.invalid, d) => (some address, d)
    | (_, d) => seed d rest

end Directory
end GridKeeper

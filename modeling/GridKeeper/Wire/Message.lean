import GridKeeper.Registry
import GridKeeper.Wire.Reply

/-!
# The wording of replies

What the registry answers is put on one line: numbers in decimal, lists with a delimiter, and what
became of a node in words.
-/
namespace GridKeeper.Wire.Message

/-- What is said before the name of a node that was added. -/
def added : String := "Added Node:  "

/-- What is said before the name of a node that was to be added and was there already. -/
def duplicate : String := "Duplicate Node:  "

/-- What is said before the name of a node that was removed. -/
def removed : String := "Removed Node:  "

/-- What is said before the name of a node that was to be removed and was not there. -/
def notFound : String := "Node Not Found:  "

/-- What is said before an address that is none. -/
def invalid : String := "Invalid Node:  "

/-- What stands before a list of nodes. -/
def allNodes : String := "All Nodes:  "

def noNodes : String := "NONE"

def nodesLine (nodes : List String) : String :=
  if nodes.isEmpty then noNodes else Text.joined Ledger.delimiter nodes

def reply : Registry.Answer → Reply
  | .count n => .success (toString n)
  | .reset => .success (toString 0)
  | .hosts keys => .success (Registry.hostsLine keys)
  | .nodes texts => .success (allNodes ++ nodesLine texts)
  | .added address .applied => .success (added ++ address)
  | .added address .unchanged => .success (duplicate ++ address)
  | .removed address .applied => .success (removed ++ address)
  | .removed address .unchanged => .success (notFound ++ address)
  | .added address .invalid | .removed address .invalid => .error (invalid ++ address)

end GridKeeper.Wire.Message

import GridKeeper.Text.Case

/-!
# Node keys

Sessions are counted per node, and a node is told by its host and its port. The case of ASCII
letters in the host does not count, so a key holds the host in lower case; a node without a port
has the port -1. Keys are ordered by host, code point by code point, and then by port.
-/
namespace GridKeeper.Node

/-- What tells one node from another (`NodeKey`). -/
structure Key where
  host : String
  port : Int
deriving Repr, DecidableEq

namespace Key

def noPort : Int := -1

/-- The key of a host in any case and a port (`NodeKey.new`). -/
def of (host : String) (port : Int) : Key :=
  ⟨String.ofList (Text.lowerAscii host.toList), port⟩

/-- The key as it is written, `host:port`. -/
def text (k : Key) : String := k.host ++ ":" ++ toString k.port

def before (a b : Key) : Bool :=
  decide (a.host.toList < b.host.toList) || (a.host == b.host && decide (a.port < b.port))

/-- The keys in order; equal ones stay side by side. -/
def sorted (keys : List Key) : List Key := keys.mergeSort fun a b => !before b a

end Key
end GridKeeper.Node

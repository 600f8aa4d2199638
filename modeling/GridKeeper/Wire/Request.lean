import GridKeeper.Registry
import GridKeeper.Wire.Command

/-!
# Requests

A request either tests the connection or asks for one operation on the registry. It is sent as two
to four lines, each ended by a line feed.
-/
namespace GridKeeper.Wire

inductive Request where
  /-- A test of the connection; it is not answered. -/
  | probe
  | call (op : Registry.Operation)
deriving Repr, DecidableEq

namespace Request

def operationLines : Registry.Operation → List String
  | .addPending => [Topic.pending.word, Verb.increase.word]
  | .removePending => [Topic.pending.word, Verb.decrease.word]
  | .pendingCount => [Topic.pending.word, Verb.count.word]
  | .resetPending => [Topic.pending.word, Verb.reset.word]
  | .addSession k => [Topic.session.word, Verb.increase.word, k.text]
  | .removeSession k => [Topic.session.word, Verb.decrease.word, k.text]
  | .sessionCount k => [Topic.session.word, Verb.count.word, k.text]
  | .resetSessions k => [Topic.session.word, Verb.reset.word, Verb.node.word, k.text]
  | .resetAllSessions => [Topic.session.word, Verb.reset.word, Verb.all.word]
  | .knownHosts => [Topic.session.word, Verb.list.word]
  | .addNode address => [Topic.nodes.word, Verb.increase.word, address]
  | .removeNode address => [Topic.nodes.word, Verb.decrease.word, address]
  | .listNodes => [Topic.nodes.word, Verb.list.word]

/-- The lines of a request (`Request.to_lines`). -/
def lines : Request → List String
  | probe => [Topic.test.word]
  | call op => operationLines op

def encode (r : Request) : String := String.join (r.lines.map (· ++ "\n"))

end Request
end GridKeeper.Wire

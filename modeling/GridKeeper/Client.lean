import GridKeeper.Client.Fault
import GridKeeper.Wire.Expecting
import GridKeeper.Wire.Message
import GridKeeper.Wire.Reader

/-!
# Clients

A client asks a server one thing per connection: it connects, sends a request, and reads the two
lines of the reply. What a call brings is read off the message of the reply. The servers that can be
reached, and what they do with what is sent to them, are a `Network`.
-/
namespace GridKeeper

/-- A client of the server at some address (`SessionClient`). -/
structure Client where
  server : String
  port : Nat
  /-- The time allowed for an exchange, in milliseconds. -/
  limit : Option Nat := none
deriving Repr, DecidableEq

namespace Client

/-- What comes of a connection over which something was sent. -/
inductive Contact where
  | refused (cause : String)
  /-- The peer sent something and closed its side. -/
  | answered (bytes : List UInt8)
  /-- The peer took the connection and never answered. -/
  | silent
deriving Repr, DecidableEq

/-- What the world, in a state of type `σ`, makes of a connection and of what is sent over it. -/
abbrev Network (σ : Type) := σ → List UInt8 → Contact × σ

inductive Outcome where
  | number (n : Nat)
  | done
  | texts (xs : List String)
  | change (o : Directory.Outcome)
  | reply (r : Wire.Reply)
  | summary (pending : Nat) (nodes : List (String × Nat))
deriving Repr, DecidableEq

inductive Call where
  | probe
  /-- An operation that names no node by its key. -/
  | plain (op : Registry.Operation)
  /-- An operation on the node that a text names. -/
  | keyed (use : Wire.KeyUse) (node : String)
  | summary
  | exchange (request : Wire.Request)
deriving Repr, DecidableEq

def address (c : Client) : String := c.server ++ ":" ++ toString c.port

/-! ## Reading replies -/

/-- The text of the first two lines of what came back. -/
def twoLines (bytes : List UInt8) : Except Fault String :=
  let timed := bytes.map ((0, ·))
  let (first, after, _) := Wire.spanLine timed
  let (second, _, _) := Wire.spanLine after
  let text := fun line : List (Nat × UInt8) =>
    (Text.decodeUtf8 (line.map (·.2))).mapError fun f => Fault.io f.message
  match text first with
  | .error f => .error f
  | .ok _ => (text (first ++ second)).map String.ofList

def readReply (bytes : List UInt8) : Except Fault Wire.Reply := do
  let raw ← twoLines bytes
  (Wire.Reply.decode raw).mapError fun _ => .malformed raw

/-- The items of a list on one line; blanks around them and empty items do not count
(`split_list`). -/
def items (line : String) : List String :=
  (((Text.piecesOf Ledger.delimiter.toList line.toList).map Text.trim).filter (· ≠ [])).map
    String.ofList

/-- What an answer that is a number brings (`SessionClient.count`). -/
def readNumber (message : String) : Except Fault Nat :=
  match Text.readUnsigned? Text.max32 (Text.trim message.toList) with
  | some n => .ok n
  | none => .error (.malformed message)

/-- What became of a node, told by how the message begins (`node_outcome`). -/
def readChange (applied unchanged message : String) : Except Fault Directory.Outcome :=
  if applied.toList.isPrefixOf message.toList then .ok .applied
  else if unchanged.toList.isPrefixOf message.toList then .ok .unchanged
  else .error (.malformed message)

/-- The nodes that a message lists (`SessionClient.list_nodes`). -/
def readNodes (message : String) : Except Fault (List String) :=
  match Text.behind? Wire.Message.allNodes.toList message.toList with
  | some body =>
    let body := String.ofList body
    .ok (if body = Wire.Message.noNodes then [] else items body)
  | none => .error (.malformed message)

/-- What the message of a reply to an operation brings. -/
def interpret : Registry.Operation → String → Except Fault Outcome
  | .resetPending, m | .resetSessions _, m | .resetAllSessions, m =>
    (readNumber m).map fun _ => .done
  | .knownHosts, m => .ok (.texts (items m))
  | .addNode _, m => (readChange Wire.Message.added Wire.Message.duplicate m).map .change
  | .removeNode _, m => (readChange Wire.Message.removed Wire.Message.notFound m).map .change
  | .listNodes, m => (readNodes m).map .texts
  | _, m => (readNumber m).map .number

/-! ## Calls -/

/-- A talk with servers: it changes the world, it may end in a fault, and without a limit on the
time it may never end. -/
abbrev Talk (σ α : Type) := ExceptT Fault (StateT σ Option) α

/-- What comes of a talk that begins with the world in the state `w`; `none` if it never ends. -/
def Talk.outcome? {σ α : Type} (t : Talk σ α) (w : σ) : Option (Except Fault α × σ) :=
  (ExceptT.run t).run w

variable {σ : Type}

/-- Sends a request, and brings what comes back (`SessionClient.send`). -/
def send (c : Client) (net : Network σ) (r : Wire.Request) : Talk σ (List UInt8) := do
  let contact ← modifyGet (net · (Text.encodeUtf8 r.encode.toList))
  match contact, c.limit with
  | .refused cause, _ => throw (.unreachable c.address cause)
  | .answered bytes, _ => return bytes
  | .silent, some ms => throw (.late c.address ms)
  | .silent, none => liftM (none : Option (List UInt8))

/-- Sends a request, and brings the reply (`SessionClient.exchange`). -/
def exchange (c : Client) (net : Network σ) (r : Wire.Request) : Talk σ Wire.Reply := do
  match readReply (← c.send net r) with
  | .ok reply => return reply
  | .error f => throw f

/-- Asks for an operation, and brings the message of the server if it carried the operation out
(`SessionClient.success`). -/
def success (c : Client) (net : Network σ) (op : Registry.Operation) : Talk σ String := do
  match ← c.exchange net (.call op) with
  | .success m => return m
  | .error m => throw (.rejected m)

/-- Asks for an operation, and brings what is made of the message. -/
def ask {α : Type} (c : Client) (net : Network σ) (op : Registry.Operation)
    (read : String → Except Fault α) : Talk σ α := do
  match read (← c.success net op) with
  | .ok a => return a
  | .error f => throw f

/-- The key that a text is (`parse_key`). -/
def keyOf (node : String) : Talk σ Node.Key :=
  match Node.Key.parse? node with
  | some k => return k
  | none => throw (.invalidNode node)

/-- Asks for the number of pending launches, for the nodes, and for the number of sessions on each
of them, over as many connections (`SessionClient.summary`). -/
def summary (c : Client) (net : Network σ) : Talk σ Outcome := do
  let pending ← c.ask net .pendingCount readNumber
  let nodes ← c.ask net .listNodes readNodes
  let counts ← nodes.mapM fun node => do
    let n ← c.ask net (.sessionCount (← keyOf node)) readNumber
    return (node, n)
  return .summary pending counts

def call (c : Client) (net : Network σ) : Call → Talk σ Outcome
  | .probe => do
    let _ ← c.send net .probe
    return .done
  | .plain op => c.ask net op (interpret op)
  | .keyed use node => do
    let op := use.operation (← keyOf node)
    c.ask net op (interpret op)
  | .summary => c.summary net
  | .exchange r => do
    return .reply (← c.exchange net r)

end Client
end GridKeeper

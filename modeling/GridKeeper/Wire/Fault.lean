import GridKeeper.Text.Quoted
import GridKeeper.Wire.Command

/-!
# Faults on the wire

Why a request or a reply cannot be read.
-/
namespace GridKeeper.Wire

/-- Why something on the wire cannot be read (`ProtocolError`). -/
inductive Fault where
  | unsupportedCommand (line : String)
  | unsupportedAction (topic line : String)
  /-- A reset applies neither to all nodes nor to one. -/
  | unsupportedReset (line : String)
  | invalidKey (line : String)
  | closed
  | late (limit : Nat)
  /-- What was to be a reply begins with neither status. -/
  | malformedReply (raw : String)
  | io (cause : String)
deriving Repr, DecidableEq

def Fault.message : Fault → String
  | unsupportedCommand line => s!"Unsupported command:  {line}"
  | unsupportedAction topic line => s!"Unsupported level 2 command for {topic}:  {line}"
  | unsupportedReset line => s!"Unsupported reset command:  {line}"
  | invalidKey line => s!"Invalid node key:  {line}"
  | closed => "Connection closed before the request was complete"
  | late limit => s!"No request line received within {limit} ms"
  | malformedReply raw => "Malformed reply: " ++ Text.quoted raw
  | io cause => s!"I/O error: {cause}"

end GridKeeper.Wire

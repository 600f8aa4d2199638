import GridKeeper.Text.Quoted

/-!
# Faults of clients

Why a call to a server came to nothing.
-/
namespace GridKeeper.Client

/-- Why a call failed (`ClientError`). -/
inductive Fault where
  | unreachable (address cause : String)
  /-- The server refused the request. -/
  | rejected (message : String)
  /-- What came back is not what the request is answered with. -/
  | malformed (response : String)
  /-- Nothing came back in time; the limit is in milliseconds. -/
  | late (address : String) (limit : Nat)
  | invalidNode (node : String)
  | io (cause : String)
deriving Repr, DecidableEq

def Fault.message : Fault → String
  | unreachable address cause => s!"Could not connect to {address}: {cause}"
  | rejected message => s!"Server rejected the request: {message}"
  | malformed response => "Malformed response: " ++ Text.quoted response
  | late address limit => s!"No response from {address} within {limit} ms"
  | invalidNode node => s!"Invalid node key: {node}"
  | io cause => s!"I/O error: {cause}"

end GridKeeper.Client

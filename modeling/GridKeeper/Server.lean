import GridKeeper.Server.Admission
import GridKeeper.Settings

/-!
# Servers

A server that runs listens on its address and admits connections. It cannot be started twice, and
stopping it is always possible; connections that are open when it stops are served to their end.
-/
namespace GridKeeper

/-- A server (`SessionServer`). -/
structure Server where
  settings : Settings.Server
  running : Bool := false
  admission : Server.Admission
deriving Repr, DecidableEq

namespace Server

/-- Why a server does not start (`ServerError`). -/
inductive Fault where
  | alreadyRunning
  | bindFailed (address cause : String)
deriving Repr, DecidableEq

def Fault.message : Fault → String
  | alreadyRunning => "Server is already running"
  | bindFailed address cause => s!"Failed to bind to address {address}: {cause}"

/-- A server with the given settings (`SessionServer.new`). There is none if it would need more
permits than can be kept. -/
def ofSettings? (s : Settings.Server) : Option Server :=
  let limit := s.maxConnections.toNat
  if Admission.mostPermits < limit then none
  else some { settings := s, admission := ⟨limit, 0, 0, 0, 0⟩ }

/-- Starts a server, given how listening on its address goes (`SessionServer.start`). -/
def start (s : Server) (listen : Except String Unit) : Except Fault Server :=
  if s.running then .error .alreadyRunning
  else match listen with
    | .ok () => .ok { s with running := true }
    | .error cause => .error (.bindFailed s.settings.address cause)

/-- Stops a server (`SessionServer.stop`). -/
def stop (s : Server) : Server := { s with running := false }

end Server
end GridKeeper

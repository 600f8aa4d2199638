import GridKeeper.Client
import GridKeeper.Exchange
import GridKeeper.Fault
import GridKeeper.Lock.Store
import GridKeeper.Settings.Validation
import GridKeeper.Sweep.Timeline

/-!
# The service

The service is a server with the registry it serves, the lock that guards it, and sweeps over its
directory. It starts in a fixed order: the settings are validated, the lock is made, the nodes of
the settings are put into the directory, and only then does the server listen. The interval of the
sweeps is worked out last of all.
-/
namespace GridKeeper

/-- A service (`CoordinatorHandle`). -/
structure Service where
  settings : Settings
  lock : Lock.Handle
  store : Lock.Store
  registry : Registry
  server : Server
  /-- The seconds between two sweeps that the scheduler is asked for. -/
  pollSeconds : UInt64
deriving Repr

namespace Service

inductive Trouble where
  | fault (f : Fault)
  /-- More connections are to be open at a time than can be kept count of. -/
  | tooManyPermits
  /-- There are more minutes between two sweeps than can be told in seconds. -/
  | tooManyMinutes
deriving Repr, DecidableEq

/-- The name of the lock file in the directory for temporary files. -/
def usualLockFile : String := "~lock.tmp"

/-- The lock that settings ask for (`build_lock`). -/
def lockOf (temporary : String) (s : Settings.Lock) : Lock.Handle :=
  match s.backend with
  | .file => .file (s.filePath.getD (temporary ++ "/" ++ usualLockFile))
  | .socket => .socket s.socketPort.toNat

/-- How the lock that settings ask for is waited for. -/
def paceOf (s : Settings.Lock) : Lock.Pace :=
  match s.backend with
  | .file => .every (s.filePoll.toNat * Lock.milli)
  | .socket => .upTo (s.socketJitter.toNat * Lock.milli)

/-- Starts a service in the given surroundings: where lock files live, the directory for temporary
files, and how listening on the address of the server goes (`bootstrap`). -/
def start (settings : Settings) (store : Lock.Store) (temporary : String)
    (listen : Except String Unit) : Except Trouble Service := do
  let settings ← settings.validate.mapError fun f => .fault (.settings f)
  let lock := lockOf temporary settings.lock
  let store ← (lock.make store).mapError fun f => .fault (.lock f)
  let registry ← match ({} : Registry).seed settings.cleanup.nodes with
    | (none, r) => .ok r
    | (some address, _) => .error (.fault (.invalidNode address))
  match Server.ofSettings? settings.server with
  | none => .error .tooManyPermits
  | some server =>
    let server ← (server.start listen).mapError fun f => .fault (.server f)
    match settings.cleanup.pollSeconds? with
    | none => .error .tooManyMinutes
    | some seconds => return ⟨settings, lock, store, registry, server, seconds⟩

/-- The sweeps over the directory of a service, when they start. -/
def timeline (s : Service) : Sweep.Timeline :=
  .start (1000 * s.pollSeconds.toNat) s.registry

def attempt (s : Service) : Except Lock.Failure Unit := (s.lock.tryNow s.store).1.map fun _ => ()

/-- Has the directory swept, given how the attempt to get the lock ends. -/
def sweep (s : Service) (attempt : Except Lock.Failure Unit) (clean : Sweep.Cleaner) :
    Sweep.Report × Service :=
  let (report, r) := Sweep.tick attempt clean s.registry
  (report, { s with registry := r })

/-- The time allowed for each line of a request, in milliseconds
(`ServerConfig.request_read_timeout`). -/
def readLimit (s : Service) : Option Nat := s.settings.server.readTimeout.map UInt64.toNat

/-- Serves a connection from its arrival to its end, given how an attempt to get the lock ends and
what the peer sends. -/
def serve (s : Service) (attempt : Except Lock.Failure Unit) (feed : Wire.Feed) :
    Client.Contact × Service :=
  let (admitted, a) := s.server.admission.arrive
  let s := { s with server := { s.server with admission := a } }
  if !admitted then (.answered (Text.encodeUtf8 a.refusal.encode.toList), s)
  else match Exchange.serve? s.readLimit attempt feed s.registry with
    | none => (.silent, s)
    | some e =>
      (.answered (Text.encodeUtf8 (e.written true).toList),
        { s with
          registry := e.registry
          server := { s.server with admission := a.leave.giveBack } })

def network : Client.Network Service := fun s bytes =>
  if s.server.running then s.serve s.attempt (.atOnce bytes true)
  else (.refused "Connection refused (os error 111)", s)

end Service
end GridKeeper

import GridKeeper.Files
import GridKeeper.Lock.Acquisition

/-!
# Where locks live

What is locked is a file itself and not its name: a file that is removed while it is locked stays
locked, but its name can be given to a new file, and that one is free. Every attempt opens the file
anew, and makes it if there is none. A socket lock is held by the one who listens on its port. Port 0
stands for any port: whoever asks for it is given a port that nobody listens on, and another one at
every attempt.
-/
namespace GridKeeper.Lock

inductive Resource where
  | file (number : Nat)
  | port (n : Nat)
deriving Repr, DecidableEq

/-- The ports that are given to those who take any port. -/
def sparePorts : List Nat := List.range' 32768 28232

structure Store where
  files : Files := {}
  /-- The ports for those who take any, in the order in which they are given. -/
  ports : List Nat := sparePorts
  locked : List Resource := []
deriving Repr, DecidableEq

namespace Store

/-- The port that is given next to one who takes any. -/
def anyPort? (s : Store) : Option Nat := s.ports.find? fun n => !s.locked.contains (.port n)

def unlock (s : Store) (r : Resource) : Store := { s with locked := s.locked.erase r }

end Store

/-! ## Locks -/

/-- A lock on a file or on a port of the local host (`FileLock` or `SocketLock`). -/
inductive Handle where
  | file (path : String)
  | socket (port : Nat)
deriving Repr, DecidableEq

namespace Handle

/-- The resource behind a lock, as messages name it. -/
def resource : Handle → String
  | file path => s!"file {path}"
  | socket port => s!"socket 127.0.0.1:{port}"

/-- Makes a lock. The file of a file lock is made here, so that it is known early if that cannot be
done. -/
def make (h : Handle) (s : Store) : Except Failure Store :=
  match h with
  | file path =>
    match s.files.openFile path with
    | .ok (_, files) => .ok { s with files := files }
    | .error f => .error (.creation path f.message)
  | socket _ => .ok s

/-- Looks for the resource behind a lock. There is none for one who takes any port when all ports are
in use. -/
def reach (h : Handle) (s : Store) : Except String (Option Resource × Store) :=
  match h with
  | file path =>
    match s.files.openFile path with
    | .ok (n, files) => .ok (some (.file n), { s with files := files })
    | .error f => .error f.message
  | socket 0 => .ok (s.anyPort?.map .port, s)
  | socket port => .ok (some (.port port), s)

/-- How an attempt finds the resource (`FileLock.attempt`, `SocketLock.attempt`). -/
def attempt (h : Handle) (s : Store) : Attempt :=
  match h.reach s with
  | .error cause => .broken cause
  | .ok (none, _) => .held
  | .ok (some r, s) => if s.locked.contains r then .held else .free

/-- Tries to get the lock without waiting for it. -/
def tryNow (h : Handle) (s : Store) : Except Failure Resource × Store :=
  match (acquire (fun _ => h.attempt s) 0 [] 0).result h.resource, h.reach s with
  | some (.ok ()), .ok (some r, s) => (.ok r, { s with locked := r :: s.locked })
  | some (.error f), .ok (_, s) => (.error f, s)
  | some (.error f), .error _ => (.error f, s)
  | _, .error cause => (.error (.io h.resource cause), s)
  | _, .ok (_, s) => (.error (.timeout h.resource 0), s)

end Handle
end GridKeeper.Lock

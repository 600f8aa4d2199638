import GridKeeper.Activity
import GridKeeper.Wire.Message
import GridKeeper.Wire.Reader

/-!
# Exchanges

One connection is one exchange: a request is read, carried out under the lock, and answered. A reply
of success goes out while the lock is still held, so that the client learns of the change before
anybody else can act on it; a reply of error goes out without the lock. A test of the connection is
not answered at all.
-/
namespace GridKeeper

/-- How one connection was served. -/
structure Exchange where
  /-- The reply; a test of the connection has none. -/
  reply : Option Wire.Reply
  activities : List Activity
  registry : Registry
deriving Repr, DecidableEq

namespace Exchange

/-- Refuses a request without having touched anything but, perhaps, the lock. -/
def refuse (before : List Activity) (message : String) (r : Registry) : Exchange :=
  ⟨some (.error message), before ++ [.send (.error message)], r⟩

/-- Carries out an operation, given how the attempt to get the lock ends
(`ConnectionHandler.execute`). -/
def execute (attempt : Except Lock.Failure Unit) (op : Registry.Operation) (r : Registry) :
    Exchange :=
  match attempt with
  | .error failure => refuse [.attempt false] failure.message r
  | .ok () =>
    let (answer, after) := r.apply op
    match Wire.Message.reply answer with
    | .success m =>
      ⟨some (.success m), [.attempt true, .operate op, .send (.success m), .release], after⟩
    | .error m => refuse [.attempt true, .operate op, .release] m after

def answer (attempt : Except Lock.Failure Unit) (r : Registry) :
    Except Wire.Fault Wire.Request → Exchange
  | .ok .probe => ⟨none, [], r⟩
  | .ok (.call op) => execute attempt op r
  | .error fault => refuse [] fault.message r

/-- Serves a connection (`ConnectionHandler.serve`). The result is `none` if reading the request
takes forever. -/
def serve? (limit : Option Nat) (attempt : Except Lock.Failure Unit) (feed : Wire.Feed)
    (r : Registry) : Option Exchange :=
  ((⟨feed, 0, 0⟩ : Wire.Reader).read? limit).map fun (result, _) => answer attempt r result

def written (e : Exchange) (works : Bool) : String :=
  if works then Activity.written e.activities else ""

end Exchange
end GridKeeper

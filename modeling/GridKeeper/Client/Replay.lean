import GridKeeper.Client

/-!
# Replays

A call can be made in a network that is known only as far as it has been asked. What came of the
connections so far is replayed, and where the call goes beyond that, it ends with what it wants to
send next. Once the answer to that is known, the call is made again.
-/
namespace GridKeeper.Client

structure Replay where
  contacts : List Contact
  wanted : Option (List UInt8) := none
deriving Repr, DecidableEq

def replay : Network Replay := fun r bytes =>
  match r.contacts with
  | contact :: rest => (contact, { r with contacts := rest })
  | [] => (.refused "", { r with wanted := r.wanted.or (some bytes) })

end GridKeeper.Client

import GridKeeper.Sweep
import GridKeeper.Wire.Reply

/-!
# Activities

What a served request or a sweep does to the outside, in order: its attempts to get the lock, what
it does to the registry, the replies it sends, the clean-ups it starts, and the release of the lock.
-/
namespace GridKeeper

inductive Activity where
  /-- An attempt to get the lock, and whether it was granted. -/
  | attempt (granted : Bool)
  | operate (op : Registry.Operation)
  | send (reply : Wire.Reply)
  | clean (node : Node)
  | release
deriving Repr, DecidableEq

namespace Activity

/-- Whether the lock is held after an activity. -/
def holds (held : Bool) : Activity → Bool
  | attempt granted => granted
  | release => false
  | _ => held

/-- Whether the lock is held after some activities, having been free before them. -/
def held (as : List Activity) : Bool := as.foldl holds false

def attempts (as : List Activity) : Nat :=
  as.countP fun
    | attempt _ => true
    | _ => false

def written : List Activity → String
  | [] => ""
  | send reply :: rest => reply.encode ++ written rest
  | _ :: rest => written rest

end Activity

def Sweep.Report.activities : Sweep.Report → List Activity
  | .lockUnavailable _ => [.attempt false]
  | report => .attempt true :: report.cleaned.map .clean ++ [.release]

end GridKeeper

import GridKeeper.Client.Fault
import GridKeeper.Lock.Failure
import GridKeeper.Server
import GridKeeper.Settings.Fault
import GridKeeper.Wire.Fault

/-!
# Faults

All faults together, each with the part it comes from.
-/
namespace GridKeeper

/-- A fault of any part (`CoordinatorError`). -/
inductive Fault where
  | settings (f : Settings.Fault)
  | lock (f : Lock.Failure)
  | wire (f : Wire.Fault)
  | server (f : Server.Fault)
  | client (f : Client.Fault)
  /-- A node that was to be in the directory from the start has no address. -/
  | invalidNode (address : String)
deriving Repr, DecidableEq

namespace Fault

/-- The fault in the words of the part it comes from, if it comes from one. -/
def cause? : Fault → Option String
  | settings f => some f.message
  | lock f => some f.message
  | wire f => some f.message
  | server f => some f.message
  | client f => some f.message
  | invalidNode _ => none

def message : Fault → String
  | settings f => "Configuration error: " ++ f.message
  | lock f => "Lock error: " ++ f.message
  | wire f => "Protocol error: " ++ f.message
  | server f => "Server error: " ++ f.message
  | client f => "Client error: " ++ f.message
  | invalidNode address => "Invalid node: " ++ address

/-- The fault with what caused it, on one line. -/
def full (f : Fault) : String :=
  match f.cause? with
  | some cause => f.message ++ ": " ++ cause
  | none => f.message

end Fault
end GridKeeper

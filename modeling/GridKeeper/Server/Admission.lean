import GridKeeper.Wire.Reply

/-!
# Admission

A server has a permit for each connection that may be open at a time, or any number of them. A
connection that finds no permit left is told so and closed. A connection that ends is first taken
off the gauge of open connections, and then gives its permit back.
-/
namespace GridKeeper.Server

/-- Permits, and what is counted about connections (`ConnectionGauges`). -/
structure Admission where
  /-- The number of permits; 0 for any number. -/
  limit : Nat
  inUse : Nat := 0
  /-- The gauge of open connections. -/
  active : Nat := 0
  /-- All connections so far, and those of them that were turned away. -/
  total : Nat := 0
  rejected : Nat := 0
deriving Repr, DecidableEq

namespace Admission

/-- The largest number of permits that can be kept. -/
def mostPermits : Nat := 2305843009213693951

/-- Whether a permit is left. -/
def admits (a : Admission) : Bool := a.limit = 0 || a.inUse < a.limit

/-- A connection arrives; says whether it is admitted (`SessionServer.admit`). -/
def arrive (a : Admission) : Bool × Admission :=
  if a.admits then
    (true, { a with total := a.total + 1, inUse := a.inUse + 1, active := a.active + 1 })
  else (false, { a with total := a.total + 1, rejected := a.rejected + 1 })

/-- A connection that ends is taken off the gauge. -/
def leave (a : Admission) : Admission := { a with active := a.active - 1 }

/-- A connection that has ended gives its permit back. -/
def giveBack (a : Admission) : Admission := { a with inUse := a.inUse - 1 }

/-- What a connection that is turned away is told (`SessionServer.reject`). -/
def refusal (a : Admission) : Wire.Reply := .error s!"Max Connections Reached:  {a.limit}"

end Admission
end GridKeeper.Server

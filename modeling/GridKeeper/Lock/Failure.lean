/-!
# Failures of the lock

Why the lock was not got.
-/
namespace GridKeeper.Lock

/-- Why an attempt to get the lock failed (`LockError`). -/
inductive Failure where
  /-- The lock was held by another for the whole time allowed, and this long, in milliseconds. -/
  | timeout (resource : String) (waited : Nat)
  | io (resource cause : String)
  | creation (path cause : String)
deriving Repr, DecidableEq

def Failure.message : Failure → String
  | timeout resource waited => s!"Could not get lock within timeout:  {waited} ms ({resource})"
  | io resource cause => s!"Lock resource {resource} failed: {cause}"
  | creation path cause => s!"Lock file could not be created at {path}: {cause}"

end GridKeeper.Lock

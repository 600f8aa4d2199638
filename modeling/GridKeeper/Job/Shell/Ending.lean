import GridKeeper.Job.Shell.Session

/-!
# Endings

How commands end: with a status, which may end the script, or with a turn that others act on. What
was changed for a command alone is put back behind it.
-/
namespace GridKeeper.Job.Shell

/-- The status with which a script ends, whichever way it ends by itself. -/
def outcome (act : Sh Unit) : Sh Nat := do
  let run : Sh Nat := do
    act
    return (← scope).status
  tryCatch run fun
    | .leave code | .back code => return code
    | .fault => return refused
    | .stop _ | .again _ => return (← scope).status
    | .halt stop => throw (.halt stop)

/-- Ends the script if a command has failed and that is not allowed. -/
def checked : Sh Unit := do
  let k ← scope
  if !k.tested && k.status ≠ 0 && k.options.contains 'e' then throw (.leave k.status)

/-- Runs something whose failure is only a condition that does not hold, or is more than that. -/
def testing (tested : Bool) (act : Sh Unit) : Sh Unit := do
  let before := (← scope).tested
  modifyScope fun k => { k with tested := tested }
  always act (modifyScope fun k => { k with tested := before })

/-- Runs a part of a loop; tells whether the loop goes on. -/
def goesOn (act : Sh Unit) : Sh Bool :=
  let run : Sh Bool := do
    act
    return true
  tryCatch run fun
    | .stop n => do
      setStatus 0
      if 1 < n then throw (.stop (n - 1)) else return false
    | .again n => do
      setStatus 0
      if 1 < n then throw (.again (n - 1)) else return true
    | turn => throw turn

/-- Runs a loop: what is in it can end it. -/
def inLoop (act : Sh Unit) : Sh Unit := do
  modifyScope fun k => { k with loops := k.loops + 1 }
  always act (modifyScope fun k => { k with loops := k.loops - 1 })

/-- Runs something that fails if it cannot write. -/
def written (act : Sh Nat) : Sh Nat := do
  modify fun s => { s with world := { s.world with unwritten := false } }
  let status ← act
  return if (← get).world.unwritten then max status 1 else status

/-- Sets where descriptors lead, the environment and the place to what they were. -/
def restoreWorld (before : World) : Sh Unit :=
  modify fun s =>
    let w := s.world
    { s with world := { w with
      outputs := before.outputs
      environment := before.environment
      inputs := before.inputs
      files := { w.files with home := before.files.home } } }

def directories (path : List Char) : List String := (Text.pieces ':' path).map textOf

def Scope.directories (k : Scope) : List String :=
  ((k.values.lookup "PATH".toList).map Shell.directories).getD []

/-- The directories in which programs look for programs. -/
def environmentDirectories (w : World) : List String :=
  ((w.environment.lookup "PATH".toList).map directories).getD Files.programDirectories

/-- The status behind a program that cannot be started. -/
def refusalStatus : Files.Fault → Nat
  | .missing | .notDirectory | .nameTooLong => 127
  | _ => 126

/-- Tells that a program cannot be started. -/
def tellRefusal (name : List Char) (fault : Files.Fault) : Sh Unit :=
  tell (name ++ octets (match fault with
    | .missing | .notDirectory => ": not found"
    | _ => ": " ++ fault.text))

/-- How many functions can be called within one another. -/
def deepest : Nat := 1200

/-- The number of the signal that ends a job which leaves its memory. -/
def segmentation : Nat := 11

end GridKeeper.Job.Shell

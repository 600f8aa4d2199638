import GridKeeper.Job.Shell.Run

/-!
# Clean-ups by jobs

A clean-up can run a program, and with a shell as its program a script. The program is told the node
by its last two arguments, and a watchdog ends it when it takes too long.
-/
namespace GridKeeper.Job.Shell

/-- How deep what runs scripts may go. -/
def depth : Nat := 20000

def environment : List (List Char × List Char) :=
  [("HOME".toList, octets "/root"), ("PATH".toList, usualPath)]

def stopOf (program : Sh Nat) : Act Nat := do
  let w ← get
  let k : Scope := { name := [], args := [], values := environment, number := 1000 }
  let (result, s) := (ExceptT.run program).run { scope := k, world := w, next := 1001 }
  set s.world
  match result with
  | .ok code | .error (.leave code) | .error (.back code) => return code % 256
  | .error .fault => return refused
  | .error (.stop _) | .error (.again _) => return s.scope.status
  | .error (.halt stop) => throw stop

/-- Runs a program with some arguments and the host and port of a node, under a watchdog that allows
it some milliseconds; tells how that ended and what the job leaves. -/
def cleanUp (command : String) (fixed : List String) (watchdog : Nat) (node : Node) :
    Sweep.Outcome × World :=
  let args := Job.arguments fixed node
  let idle : World := { Program.surroundings with environment := environment, deadline := watchdog }
  let notStarted := fun fault => (Sweep.Outcome.notStarted (refusalText fault), idle)
  if args.any (·.toList.contains '\x00') then notStarted .hasNul
  else match Program.locate idle.files Files.programDirectories command with
    | .error fault => notStarted fault
    | .ok () =>
      let program := runLocated depth Files.programDirectories (octets command) (args.map octets)
      let (stop, w) := supervise (stopOf program) idle
      (stop.outcome watchdog, w)

end GridKeeper.Job.Shell

import GridKeeper.CommandLine.Options
import GridKeeper.Service
import GridKeeper.Settings.Load

/-!
# The command line of the server

`session-server` takes its settings from a file and from the environment, and its options have the
last word over both; the nodes that are named on the command line come after those of the settings.
-/
namespace GridKeeper.CommandLine.Serve

def program : String := "session-server"

/-- The options of the server. -/
def choices : List Choice :=
  [⟨"config", fun v => v ≠ ""⟩,
    ⟨"port", fun v => (portOf? v).isSome⟩,
    ⟨"max-connections", fun v => (Text.readUnsigned? Text.max64 v.toList).isSome⟩,
    ⟨"poll-minutes", fun v => (Text.readUnsigned? Text.max64 v.toList).isSome⟩,
    ⟨"lock-backend", fun v => (Lock.Backend.read v).isOk⟩,
    ⟨"cleanup-command", fun _ => true⟩]

def grammar : Grammar := { choices := choices, words := none, versioned := true }

/-- What is said about the addresses of nodes. -/
def nodeExamples : String :=
  "Valid Node URL examples:\n1)  http://127.0.0.1\n2)  http://domain.com\n" ++
    "3)  http://127.0.0.1:4444\n4)  http://domain.com:4444"

/-- What is said about the command line. -/
def usageExamples : String :=
  "Examples:\n" ++
    "1)  Infinite connections allowed:  session-server --port 4000 http://127.0.0.1:4444\n" ++
    "2)  Max 100 connections allowed:  session-server --port 4000 --max-connections 100 " ++
      "http://127.0.0.1:4444\n" ++
    "3)  Multiple Nodes:  session-server --port 4000 http://127.0.0.1:4444 http://test.com\n" ++
    "4)  Cleanup every 10m:  session-server --port 4000 --poll-minutes 10 http://127.0.0.1:4444"

def number? (a : Arguments) (name : String) : Option Nat :=
  (a.value? name).bind fun v => Text.readUnsigned? Text.max64 v.toList

def overlay (a : Arguments) (s : Settings) : Settings :=
  let port := (((a.value? "port").bind portOf?).map UInt16.ofNat).getD s.server.port
  let most := ((number? a "max-connections").map UInt64.ofNat).getD s.server.maxConnections
  let poll := ((number? a "poll-minutes").map UInt64.ofNat).getD s.cleanup.pollInterval
  let backend := ((a.value? "lock-backend").bind fun v => (Lock.Backend.read v).toOption).getD
    s.lock.backend
  let command := (a.value? "cleanup-command").getD s.cleanup.command
  { s with
    server := { s.server with port := port, maxConnections := most }
    lock := { s.lock with backend := backend }
    cleanup := { s.cleanup with
      command := command, pollInterval := poll, nodes := s.cleanup.nodes ++ a.words } }

def fileOf (around : Surroundings) (a : Arguments) : Option Settings.File :=
  (a.value? "config").map fun path => ⟨path, around.file path⟩

def failure (words : String) : Finish := { code := failureCode, err := "Error: " ++ words ++ "\n" }

def refusal : Service.Trouble → Finish
  | .fault (.invalidNode address) =>
    failure ("At least one of the node URLs was invalid:  " ++ address ++ "\n\n" ++ nodeExamples)
  | .fault f => failure f.full
  | .tooManyPermits | .tooManyMinutes => { code := crashCode }

def prepare (around : Surroundings) (args : List String) : Except Finish Settings := do
  let (a, _) ← (Arguments.read grammar {} args).mapError (Stop.finish program)
  let loaded := Settings.load (fileOf around a) Settings.usualPrefix around.environment
  let s ← loaded.mapError fun f =>
    failure ("loading configuration: " ++ f.message)
  let s := overlay a s
  if s.cleanup.nodes.isEmpty then
    .error (failure ("at least one node must be specified\n\n" ++ usageExamples))
  else .ok s

def start (around : Surroundings) (store : Lock.Store) (temporary : String)
    (listen : Settings → Except String Unit) (args : List String) : Except Finish Service := do
  let s ← prepare around args
  (Service.start s store temporary (listen s)).mapError refusal

end GridKeeper.CommandLine.Serve

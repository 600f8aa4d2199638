import GridKeeper.Client
import GridKeeper.CommandLine.Options
import GridKeeper.Json
import GridKeeper.Service
import GridKeeper.Settings.Load

/-!
# The command line of the client

`session-client` makes one call to a server and prints what it brings: a number, a list line by
line, what became of a node, or a summary as JSON. It can also hold the lock of the settings for a
while.
-/
namespace GridKeeper.CommandLine.Ask

def program : String := "session-client"

inductive Task where
  | call (c : Client.Call)
  | holdLock (minutes : UInt64)
deriving Repr, DecidableEq

def choices : List Choice :=
  [⟨"server", fun _ => true⟩,
    ⟨"port", fun v => (portOf? v).isSome⟩,
    ⟨"timeout-seconds", fun v => (Text.readUnsigned? Text.max64 v.toList).isSome⟩,
    ⟨"config", fun v => v ≠ ""⟩]

def holdChoices : List Choice :=
  [⟨"minutes", fun v => (Text.readUnsigned? Text.max64 v.toList).isSome⟩]

/-- The calls that name nothing. -/
def plainCalls : List (String × Client.Call) :=
  [("test", .probe), ("add-pending", .plain .addPending),
    ("remove-pending", .plain .removePending), ("pending-count", .plain .pendingCount),
    ("reset-pending", .plain .resetPending), ("reset-all-sessions", .plain .resetAllSessions),
    ("list-hosts", .plain .knownHosts), ("list-nodes", .plain .listNodes), ("summary", .summary)]

/-- The calls that name a node by its key, or by its address. -/
def namingCalls : List (String × (String → Client.Call)) :=
  [("add-session", .keyed .add), ("remove-session", .keyed .remove),
    ("session-count", .keyed .count), ("reset-sessions", .keyed .reset),
    ("add-node", fun url => .plain (.addNode url)),
    ("remove-node", fun url => .plain (.removeNode url))]

def taskNames : List String :=
  plainCalls.map Prod.fst ++ namingCalls.map Prod.fst ++ ["hold-lock"]

/-- The command that asks for help, on a task or on help itself if one is named. -/
def helpName : String := "help"

def readHelp (args : List String) : Stop :=
  match args with
  | [] => .help
  | [name] => if name = helpName ∨ taskNames.contains name then .help else .misuse
  | _ => .misuse

def readTask (name : String) (args : List String) : Except Stop Task := do
  if name = "hold-lock" then
    let (a, _) ← Arguments.read { choices := holdChoices } {} args
    let minutes := (a.value? "minutes").bind fun v => Text.readUnsigned? Text.max64 v.toList
    return .holdLock ((minutes.map UInt64.ofNat).getD 1)
  else match plainCalls.lookup name, namingCalls.lookup name with
    | some c, _ =>
      let _ ← Arguments.read {} {} args
      return .call c
    | none, some c =>
      let (a, _) ← Arguments.read { words := some 1 } {} args
      match a.words with
      | [word] => return .call (c word)
      | _ => .error .misuse
    | none, none => .error .misuse

/-- What the command line of the client may consist of. -/
def grammar : Grammar :=
  { choices := choices, versioned := true, commands := helpName :: taskNames }

def read (args : List String) : Except Stop (Arguments × Task) := do
  let (a, rest) ← Arguments.read grammar {} args
  match rest with
  | [] => .error .misuse
  | name :: rest =>
    if name = helpName then .error (readHelp rest)
    else
      let task ← readTask name rest
      let a ← a.settle grammar
      return (a, task)

def clientOf (a : Arguments) : Client :=
  let number? := fun name => (a.value? name).bind fun v => Text.readUnsigned? Text.max64 v.toList
  { server := (a.value? "server").getD "127.0.0.1"
    port := ((a.value? "port").bind portOf?).getD 4000
    limit := (number? "timeout-seconds").map (1000 * ·) }

/-! ## Printing -/

def lines (xs : List String) : String := String.join (xs.map (· ++ "\n"))

def summaryJson (pending : Nat) (nodes : List (String × Nat)) : Json :=
  .object [("pending", .ofNat pending), ("nodes", .array (nodes.map fun (node, sessions) =>
    .object [("node", .text node), ("sessions", .ofNat sessions)]))]

def printed (client : Client) (call : Client.Call) (o : Client.Outcome) : String :=
  match call, o with
  | .probe, _ => lines ["Connected to " ++ client.address]
  | .plain (.addNode url), .change .applied => lines [Wire.Message.added ++ url]
  | .plain (.addNode url), .change _ => lines [Wire.Message.duplicate ++ url]
  | .plain (.removeNode url), .change .applied => lines [Wire.Message.removed ++ url]
  | .plain (.removeNode url), .change _ => lines [Wire.Message.notFound ++ url]
  | _, .number n => lines [toString n]
  | _, .texts xs => lines xs
  | _, .summary pending nodes => lines [(summaryJson pending nodes).pretty]
  | _, .reply r => lines [r.display]
  | _, .done | _, .change _ => ""

/-- The end of a program that fails, with the words for it and what caused it; the cause is
indented. -/
def failure (words : String) (cause : Option String) : Finish :=
  let indented := fun c : String =>
    Text.joined "\n    " ((Text.pieces '\n' c.toList).map String.ofList)
  let because := match cause with
    | some c => "\n\nCaused by:\n    " ++ indented c
    | none => ""
  { code := failureCode, err := "Error: " ++ words ++ because ++ "\n" }

/-! ## Running -/

def finish (client : Client) (call : Client.Call) : Except Client.Fault Client.Outcome → Finish
  | .ok o => { code := successCode, out := printed client call o }
  | .error (.io cause) => failure (Client.Fault.io cause).message (some cause)
  | .error f => failure f.message none

/-- Gets the lock of the settings and gives it up again. How long it is to be held is worked out
once it has been got. -/
def hold (store : Lock.Store) (temporary : String) (s : Settings.Lock) (minutes : UInt64) :
    Finish :=
  let lock := Service.lockOf temporary s
  match lock.make store with
  | .error f => failure f.message none
  | .ok store =>
    match (lock.tryNow store).1 with
    | .error f => failure "acquiring lock" (some f.message)
    | .ok _ => { code := if (Settings.seconds? minutes).isSome then successCode else crashCode }

/-- Prepares a run: the options, the task and the settings. -/
def prepare (around : Surroundings) (args : List String) :
    Except Finish (Arguments × Task × Settings) := do
  let (a, task) ← (read args).mapError (Stop.finish program)
  let file := (a.value? "config").map fun path => (⟨path, around.file path⟩ : Settings.File)
  let s ← (Settings.load file Settings.usualPrefix around.environment).mapError fun f =>
    failure "loading configuration" (some f.message)
  return (a, task, s)

/-- Runs the client in a network. The result is `none` if the call never ends. -/
def run? {σ : Type} (around : Surroundings) (store : Lock.Store) (temporary : String)
    (net : Client.Network σ) (w : σ) (args : List String) : Option (Finish × σ) :=
  match prepare around args with
  | .error f => some (f, w)
  | .ok (_, .holdLock minutes, s) => some (hold store temporary s.lock minutes, w)
  | .ok (a, .call c, _) =>
    let client := clientOf a
    ((client.call net c).outcome? w).map fun (result, w) => (finish client c result, w)

end GridKeeper.CommandLine.Ask

import GridKeeper.Files
import GridKeeper.Sweep
import GridKeeper.Text.Utf8

/-!
# Jobs

A clean-up can be a job: a program that runs on its own. A job takes time, reads and writes files,
and ends by itself or by a signal; a watchdog allows it some time and ends it when that is over.
Whether a job can be started at all is told by the path or the name of its program.

The texts that a job deals with are sequences of octets, each of them kept as the character of that
number.
-/
namespace GridKeeper.Job

def octets (text : String) : List Char :=
  (Text.encodeUtf8 text.toList).map fun b => Char.ofNat b.toNat

/-- What octets are in memory. -/
def bytes (cs : List Char) : List UInt8 := cs.map fun c => UInt8.ofNat c.toNat

/-- The text that octets are; octets that are none stay as they are. -/
def textOf (cs : List Char) : String :=
  match Text.decodeUtf8 (bytes cs) with
  | .ok text => String.ofList text
  | .error _ => String.ofList cs

/-- Why a program cannot be started, as the system words it. -/
def refusalText : Files.Fault → String
  | .hasNul => "nul byte found in provided data"
  | fault => fault.message

/-- Why a job goes no further. -/
inductive Stop where
  | exited (code : Nat)
  | killed (signal : Nat)
  | overdue
deriving Repr, DecidableEq

/-- Where what a job writes goes. -/
inductive Stream where
  | lost
  | full
  | file (number : Nat)
  | pipe
deriving Repr, DecidableEq

/-- What a job has around it. -/
structure World where
  files : Files
  environment : List (List Char × List Char) := []
  /-- What is in the files, by their numbers; a file that is not listed is empty. -/
  contents : List (Nat × List Char) := []
  inputs : List (Nat × Nat) := []
  sources : List (Nat × List Char) := []
  /-- Where the descriptors for writing lead. -/
  outputs : List (Nat × Stream) := [(1, .lost), (2, .lost)]
  piped : List Char := []
  /-- Whether something could not be written. -/
  unwritten : Bool := false
  /-- The time since the start and the time allowed, in milliseconds. -/
  clock : Nat := 0
  deadline : Nat
deriving Repr, DecidableEq

/-- What a job does: it changes its world, and it may stop. -/
abbrev Act (α : Type) := ExceptT Stop (StateM World) α

/-- A program takes arguments and ends with a status, which is zero for success. -/
abbrev Program := List (List Char) → Act Nat

def pass (time : Nat) : Act Unit := do
  let w ← get
  if w.deadline ≤ w.clock + time then throw .overdue
  else set { w with clock := w.clock + time }

/-! ## Files -/

namespace World

/-- The descriptor of the output, and the one of diagnostics. -/
def output : Nat := 1

def diagnostics : Nat := 2

def content (w : World) (number : Nat) : List Char := (w.contents.lookup number).getD []

def setContent (w : World) (number : Nat) (text : List Char) : World :=
  { w with contents := (number, text) :: w.contents.filter (·.1 ≠ number) }

def rest (w : World) (descriptor : Nat) : List Char :=
  ((w.inputs.lookup descriptor).bind fun source => w.sources.lookup source).getD []

def input (w : World) : List Char := w.rest 0

/-- The world in which something else is left to be read as input. -/
def setInput (w : World) (text : List Char) : World :=
  match w.inputs.lookup 0 with
  | some source => { w with sources := (source, text) :: w.sources.filter (·.1 ≠ source) }
  | none => w

def attach (w : World) (descriptor : Nat) (text : List Char) : World :=
  { w with inputs := (descriptor, w.sources.length) :: w.inputs.filter (·.1 ≠ descriptor)
           sources := (w.sources.length, text) :: w.sources }

/-- What is in the file at a path; no device has anything in it. -/
def read? (w : World) (path : List Char) : Option (List Char) :=
  (w.files.file? (textOf path)).map w.content

def write (w : World) (descriptor : Nat) (text : List Char) : World :=
  match w.outputs.lookup descriptor with
  | some (.file n) => w.setContent n (w.content n ++ text)
  | some .pipe => { w with piped := w.piped ++ text }
  | some .lost => w
  | some .full | none => { w with unwritten := w.unwritten || text ≠ [] }

/-- Where a descriptor leads that is opened for writing at a path, and the world in which that file
has been made. What is written to a device is lost, or not taken. -/
def openStream (w : World) (path : List Char) : Except Files.Fault (Stream × World) := do
  if path = "/dev/stdout".toList then return ((w.outputs.lookup output).getD .lost, w)
  if path = "/dev/stderr".toList then return ((w.outputs.lookup diagnostics).getD .lost, w)
  let (number, files) ← w.files.openFile (textOf path)
  if files.file? "/dev/full" = some number then return (.full, w)
  else if files.isDevice number then return (.lost, w)
  else return (.file number, { w with files := files })

end World

def print (text : List Char) : Act Unit := modify (·.write World.output text)

/-- Writes a line about something that went wrong. -/
def complain (text : String) : Act Unit :=
  modify (·.write World.diagnostics (octets text ++ ['\n']))

/-! ## The watchdog -/

/-- How a clean-up ends whose job stops; the watchdog allowed it some milliseconds. -/
def Stop.outcome (watchdog : Nat) : Stop → Sweep.Outcome
  | exited 0 => .succeeded
  | exited code => .failed (some code)
  | killed _ => .failed none
  | overdue => .timedOut (1000 * watchdog)

/-- Runs a job under a watchdog; tells why it stops and what it leaves
(`ProcessCleanupRunner.run`). -/
def supervise (act : Act Nat) (w : World) : Stop × World :=
  let timed : Act Nat := do
    pass 0
    act
  match (ExceptT.run timed).run w with
  | (.ok code, w) => (.exited code, w)
  | (.error stop, w) => (stop, w)

/-- The arguments of the job that cleans a node up: those that are fixed, then host and port. -/
def arguments (fixed : List String) (node : Node) : List String :=
  fixed ++ [node.host, toString node.portNumber]

end GridKeeper.Job

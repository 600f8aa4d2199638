import GridKeeper.Job
import GridKeeper.Job.Formula
import GridKeeper.Job.Script
import GridKeeper.Job.Signal
import GridKeeper.Text.Scan

/-!
# Sessions of the shell

A session runs a script. It has parameters, functions and options, and it is in a world. A command
that runs apart has them too, but what it changes is lost; only the world stays changed.
-/
namespace GridKeeper.Job.Shell

open Script (Command)

/-- What a script can change and what is lost behind a command that runs apart. -/
structure Scope where
  name : List Char
  args : List (List Char)
  values : List (List Char × List Char) := []
  exported : List (List Char) := []
  fixed : List (List Char) := []
  functions : List (List Char × Command) := []
  /-- The status of the last command, and of the last one whose output was a part of a word. -/
  status : Nat := 0
  substituted : Option Nat := none
  options : List Char := []
  /-- What is done at the end, which has the number zero, and at signals. -/
  traps : List (Nat × List Char) := []
  /-- The number of the line that runs, and the name of the command of the shell that does. -/
  line : Nat := 0
  command : List Char := []
  tested : Bool := false
  /-- The numbers of the job itself and of the last one in the background. -/
  number : Nat
  last : Option Nat := none
  loops : Nat := 0
  calls : Nat := 0
  /-- What the parameters were that belong to the function alone. -/
  outer : List (List Char × Option (List Char)) := []
  arrived : List Nat := []

/-- A command in the background that has not ended yet. -/
structure Pending where
  number : Nat
  command : Command
  scope : Scope
  /-- Where it is, and where its output goes. -/
  home : List String
  outputs : List (Nat × Stream)
  start : Nat

structure Session where
  scope : Scope
  world : World
  pending : List Pending := []
  ended : List (Nat × Nat) := []
  next : Nat

/-- Why a command does not go on. -/
inductive Turn where
  | leave (code : Nat)
  | back (code : Nat)
  /-- A fault ends the script, unless the command is one that only fails. -/
  | fault
  /-- Loops end, or begin anew behind those that end. -/
  | stop (loops : Nat)
  | again (loops : Nat)
  | halt (stop : Stop)
deriving Repr, DecidableEq

abbrev Sh (α : Type) := ExceptT Turn (StateM Session) α

def inWorld {α : Type} (act : Act α) : Sh α := do
  let s ← get
  let (result, w) := (ExceptT.run act).run s.world
  set { s with world := w }
  match result with
  | .ok a => return a
  | .error stop => throw (.halt stop)

def modifyScope (f : Scope → Scope) : Sh Unit := modify fun s => { s with scope := f s.scope }

def scope : Sh Scope := return (← get).scope

def setStatus (status : Nat) : Sh Unit := modifyScope fun k => { k with status := status }

def hasOption (letter : Char) : Sh Bool := return (← scope).options.contains letter

/-! ## Parameters -/

def numeral (n : Nat) : List Char := (toString n).toList

/-- The value of a parameter, if it has one. Those of the arguments together are no text. -/
def Scope.value? (k : Scope) (name : List Char) : Option (List Char) :=
  match name with
  | ['#'] => some (numeral k.args.length)
  | ['?'] => some (numeral k.status)
  | ['-'] => some k.options
  | ['$'] => some (numeral k.number)
  | ['!'] => k.last.map numeral
  | ['0'] => some k.name
  | _ =>
    if name.head?.any Char.isDigit then
      match Text.readDigits? name with
      | some 0 => some k.name
      | some (n + 1) => k.args[n]?
      | none => none
    else k.values.lookup name

/-- The characters at which values are cut where nothing else is said. -/
def blanks : List Char := [' ', '\t', '\n']

/-- The characters at which values are cut. -/
def Scope.separators (k : Scope) : List Char := (k.values.lookup "IFS".toList).getD blanks

def Scope.share (k : Scope) (name : List Char) : Scope :=
  if k.exported.contains name then k else { k with exported := name :: k.exported }

def Scope.assign (k : Scope) (name value : List Char) : Scope :=
  let k := if k.options.contains 'a' then k.share name else k
  { k with values := (name, value) :: k.values.filter (·.1 ≠ name) }

def Scope.ignored (k : Scope) : List (Nat × List Char) :=
  k.traps.filter fun t => t.2.isEmpty && t.1 ≠ 0

def Scope.unset (k : Scope) (name : List Char) : Scope :=
  { k with values := k.values.filter (·.1 ≠ name), exported := k.exported.filter (· ≠ name) }

def Scope.environment (k : Scope) : List (List Char × List Char) :=
  k.values.filter fun v => k.exported.contains v.1

/-- The scope in which some parameters are again what they were in another one. -/
def Scope.restore (k before : Scope) (names : List (List Char)) : Scope :=
  { k with
    values := before.values.filter (fun v => names.contains v.1) ++
      k.values.filter fun v => !names.contains v.1
    exported := before.exported.filter (fun name => names.contains name) ++
      k.exported.filter fun name => !names.contains name }

/-! ## Faults -/

/-- Tells of a fault in the words of the shell. -/
def tell (text : List Char) : Sh Unit := do
  let k ← scope
  let command := if k.command.isEmpty then [] else k.command ++ octets ": "
  let line := k.name ++ octets ": " ++ numeral k.line ++ octets ": " ++ command ++ text ++ ['\n']
  inWorld (modify (·.write World.diagnostics line))

/-- The status of a command that the shell does not accept. -/
def refused : Nat := 2

/-- Does something, and something else behind it even if that ends early. -/
def always {α : Type} (act : Sh α) (after : Sh Unit) : Sh α := do
  let a ← tryCatch act fun turn => do
    after
    throw turn
  after
  return a

/-- Tells of a fault that ends the script. -/
def abort {α : Type} (text : List Char) : Sh α := do
  tell text
  throw .fault

/-- The length of a text for which no job has the time. -/
def longest : Nat := 2000000

def assign (name value : List Char) : Sh Unit := do
  let k ← scope
  if longest ≤ value.length then throw (.halt .overdue)
  if k.fixed.contains name then abort (name ++ octets ": is read only")
  modifyScope fun k => k.assign name value

def evaluate (text : List Char) : Sh Int := do
  let fault := fun (what : String) =>
    abort (octets ("arithmetic expression: " ++ what ++ ": \"") ++ text ++ ['"'])
  let k ← scope
  match Formula.parse text with
  | .error .formula => fault "expecting primary"
  | .error .ending => fault "expecting EOF"
  | .ok formula =>
    match (formula.value fun name => (k.value? name).getD []).run [] with
    | .error .divisionByZero => fault "division by zero"
    | .error (.notNumber held) => abort (octets "Illegal number: " ++ held)
    | .ok (i, given) =>
      for (name, j) in given.reverse do
        assign name (toString j).toList
      return i

/-! ## Redirections -/

/-- A fault of opening in the words of the shell: it depends on whether a file was to be made. -/
def openingFault (makes : Bool) (path : List Char) (fault : Files.Fault) : List Char :=
  octets (if makes then "cannot create " else "cannot open ") ++ path ++ octets ": " ++
    octets (match fault, makes with
      | .missing, true | .notDirectory, true => "Directory nonexistent"
      | .missing, false | .notDirectory, false => "No such file"
      | _, _ => fault.text)

/-- The world in which a descriptor for writing leads somewhere. -/
def sending (w : World) (descriptor : Nat) (stream : Stream) : World :=
  { w with outputs := (descriptor, stream) :: w.outputs.filter (·.1 ≠ descriptor) }

/-- Carries out a redirection whose target is known; a fault is told in words. Files that are there
may have to be spared. -/
def redirected (w : World) (spares : Bool) (descriptor : Nat) (direction : Script.Direction)
    (target : List Char) : Except (List Char) World :=
  match direction with
  | .here => .ok (w.attach descriptor target)
  | .input =>
    if target = "/dev/stdin".toList then .ok w
    else match w.files.find (textOf target) with
      | .ok (.file n _) => .ok (w.attach descriptor (w.content n))
      | .ok .directory => .ok (w.attach descriptor [])
      | .error fault => .error (openingFault false target fault)
  | .duplicate =>
    if target = ['-'] then
      .ok { w with outputs := w.outputs.filter (·.1 ≠ descriptor)
                   inputs := w.inputs.filter (·.1 ≠ descriptor) }
    else
      let source := Text.digitsValue target
      match w.outputs.lookup source, w.inputs.lookup source with
      | some stream, _ => .ok (sending w descriptor stream)
      | none, some source =>
        .ok { w with inputs := (descriptor, source) :: w.inputs.filter (·.1 ≠ descriptor) }
      | none, none =>
        if source = 0 then .ok w else .error (numeral source ++ octets ": Bad file descriptor")
  | _ =>
    let isSpared := spares && direction = .create &&
      (w.files.file? (textOf target)).any fun n => !w.files.isDevice n
    if isSpared then .error (octets "cannot create " ++ target ++ octets ": File exists")
    else match w.openStream target with
      | .error fault => .error (openingFault true target fault)
      | .ok (.file n, w) =>
        .ok (sending (if direction = .append then w else w.setContent n []) descriptor (.file n))
      | .ok (stream, w) => .ok (sending w descriptor stream)

end GridKeeper.Job.Shell

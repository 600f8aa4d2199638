import GridKeeper.Job.Program
import GridKeeper.Job.Shell.Session

/-!
# Commands of the shell itself

Commands that are no programs, since they change the session or ask for something in it. A fault in
one of the special ones ends the script; a fault in any other one only gives it a status.
-/
namespace GridKeeper.Job.Shell

/-- A command of the shell takes arguments and ends with a status. -/
abbrev Builtin := List (List Char) → Sh Nat

namespace Builtin

/-- The largest number that commands of the shell take. -/
def greatest : Nat := Text.half32 - 1

def refuseNumber {α : Type} (cs : List Char) : Sh α := abort (octets "Illegal number: " ++ cs)

/-- A number that is an argument, blanks around it allowed. -/
def number (cs : List Char) : Sh Nat := do
  match (Condition.number? cs).filter fun (i : Int) => 0 ≤ i ∧ i ≤ greatest with
  | some i => return i.toNat
  | none => refuseNumber cs

/-! ## Turns -/

def exit : Builtin := fun args => do
  match args with
  | [] => throw (.leave (← scope).status)
  | code :: _ => throw (.leave (← number code))

def back : Builtin := fun args => do
  match args with
  | [] => throw (.back (← scope).status)
  | code :: _ => throw (.back (← number code))

/-- Ends some of the loops around, or lets the last of them go on. -/
def leaveLoops (turn : Nat → Turn) : Builtin := fun args => do
  let n ← match args with
    | [] => pure 1
    | cs :: _ => number cs
  if n = 0 then refuseNumber ['0']
  let loops := (← scope).loops
  if loops = 0 then return 0 else throw (turn (min n loops))

/-! ## Parameters -/

/-- Drops arguments of the script. -/
def shift : Builtin := fun args => do
  let n ← match args with
    | [] => pure 1
    | cs :: _ => number cs
  let k ← scope
  if k.args.length < n then abort (octets "can't shift that many")
  modifyScope fun k => { k with args := k.args.drop n }
  return 0

def optionNames : List (Char × String) :=
  [('e', "errexit"), ('f', "noglob"), ('I', "ignoreeof"), ('i', "interactive"), ('m', "monitor"),
    ('n', "noexec"), ('s', "stdin"), ('x', "xtrace"), ('v', "verbose"), ('V', "vi"), ('E', "emacs"),
    ('C', "noclobber"), ('a', "allexport"), ('b', "notify"), ('u', "nounset")]

def turnOption (on : Bool) (letter : Char) : Sh Unit :=
  modifyScope fun k =>
    let others := k.options.filter (· ≠ letter)
    { k with options := if on then others ++ [letter] else others }

def scriptOption : Char := 'c'

/-- Reads options from the front of arguments, at the start of a shell or later, and tells the
arguments that are left; `none` where none of them is meant for the script. -/
def takeOptions (atStart : Bool) : Nat → List (List Char) → Sh (Option (List (List Char)))
  | 0, args => return some args
  | n + 1, args => do
    match args with
    | ['-', '-'] :: rest => return some rest
    | ['-'] :: rest => return if rest.isEmpty then none else some rest
    | (sign :: letters@(_ :: _)) :: rest =>
      if sign ≠ '-' ∧ sign ≠ '+' then return some args
      let mut rest := rest
      for letter in letters do
        if letter = 'o' then
          match rest with
          | [] => pure ()
          | name :: more =>
            rest := more
            match optionNames.find? fun p => p.2 = String.ofList name with
            | some (letter, _) => turnOption (sign = '-') letter
            | none => abort (octets "Illegal option -o " ++ name)
        else if (optionNames.lookup letter).isSome || (atStart && letter = scriptOption) then
          turnOption (sign = '-') letter
        else abort (octets "Illegal option " ++ [sign, letter])
      if rest.isEmpty then return none else takeOptions atStart n rest
    | _ => return if args.isEmpty then none else some args

def setOptions : Builtin := fun args => do
  if args.isEmpty then
    let precedes := fun (a b : List Char × List Char) => String.ofList a.1 ≤ String.ofList b.1
    for (name, value) in (← scope).values.mergeSort fun a b => precedes a b do
      inWorld (print (name ++ octets "='" ++ value ++ octets "'\n"))
    return 0
  match ← takeOptions false args.length args with
  | some args => modifyScope fun k => { k with args := args }
  | none => pure ()
  return 0

/-- Makes sure that a parameter can have a name. -/
def requireName (name : List Char) : Sh Unit := do
  if !Script.isName name then abort (name ++ octets ": bad variable name")

/-- Takes the values of parameters away, or functions. -/
def unset : Builtin := fun args => do
  let (options, names) := Program.letters args
  for name in names do
    if options.contains 'f' then
      modifyScope fun k => { k with functions := k.functions.filter (·.1 ≠ name) }
    else
      requireName name
      if (← scope).fixed.contains name then abort (name ++ octets ": is read only")
      modifyScope fun k => k.unset name
  return 0

/-- Does something with parameters, of which those with an equality sign get values. -/
def declare (use : List Char → Sh Unit) : Builtin := fun args => do
  for arg in (Program.letters args).2 do
    let name := arg.takeWhile (· ≠ '=')
    requireName name
    use name
    if name.length < arg.length then assign name (arg.drop (name.length + 1))
  return 0

/-- Lets programs see parameters. -/
def «export» : Builtin := declare fun name => modifyScope fun k => k.share name

/-- Keeps the values of parameters from now on. -/
def readonly : Builtin := fun args => do
  let _ ← declare (fun _ => pure ()) args
  let names := (Program.letters args).2.map fun arg => arg.takeWhile (· ≠ '=')
  modifyScope fun k => { k with fixed := names ++ k.fixed }
  return 0

/-- Makes parameters belong to a function alone. -/
def «local» : Builtin := fun args => do
  if (← scope).calls = 0 then abort (octets "not in a function")
  declare (fun name => modifyScope fun k =>
    { k with outer := (name, k.values.lookup name) :: k.outer }) args

/-! ## Input -/

/-- A line at the front of a text, with the backslashes in it taken as quotes or not; what is left
behind it, and whether the line has an end. -/
def line (raw : Bool) : List Char → List (Char × Bool) × List Char × Bool
  | [] => ([], [], false)
  | '\n' :: rest => ([], rest, true)
  | '\\' :: c :: rest =>
    if raw then
      let (cs, rest, ends) := line raw (c :: rest)
      (('\\', false) :: cs, rest, ends)
    else
      let (cs, rest, ends) := line raw rest
      (if c = '\n' then cs else (c, true) :: cs, rest, ends)
  | c :: rest =>
    let (cs, rest, ends) := line raw rest
    ((c, false) :: cs, rest, ends)

/-- Cuts a line at separators for a number of parameters; the last one gets all that is left. Quoted
characters do not separate. -/
def distributed (separators : List Char) : Nat → List (Char × Bool) → List (List Char)
  | 0, _ => []
  | n + 1, cs =>
    let separates := fun (p : Char × Bool) => !p.2 && separators.contains p.1
    let blank := fun (p : Char × Bool) =>
      separates p && (p.1 = ' ' || p.1 = '\t' || p.1 = '\n')
    let cs := cs.dropWhile blank
    let first := cs.takeWhile fun p => !separates p
    let rest := (cs.drop first.length).dropWhile blank
    let rest := if rest.head?.any separates then (rest.drop 1).dropWhile blank else rest
    let whole := (cs.reverse.dropWhile blank).reverse
    if n = 0 then [(if rest.isEmpty then first else whole).map Prod.fst]
    else first.map Prod.fst :: distributed separators n rest

def read : Builtin := fun args => do
  let (options, names) := Program.letters args
  if names.isEmpty then abort (octets "arg count")
  let s ← get
  let (cs, rest, ends) := line (options.contains 'r') s.world.input
  set { s with world := s.world.setInput rest }
  for (name, value) in names.zip (distributed s.scope.separators names.length cs) do
    assign name value
  return if ends then 0 else 1

/-! ## Directories -/

def cd : Builtin := fun args => do
  let k ← scope
  let held := fun (name : String) => (k.values.lookup name.toList).getD []
  let path := match (Program.letters args).2 with
    | [] => held "HOME"
    | ['-'] :: _ => held "OLDPWD"
    | path :: _ => if path.isEmpty then ['.'] else path
  let w := (← get).world
  match w.files.directory? (textOf path) with
  | none => abort (octets "can't cd to " ++ path)
  | some names =>
    modify fun s => { s with world := { w with files := { w.files with home := names } } }
    assign "OLDPWD".toList (octets ("/" ++ Text.joined "/" w.files.home))
    assign "PWD".toList (octets ("/" ++ Text.joined "/" names))
    if args = [['-']] then inWorld (Program.pwd []) else return 0

/-! ## Signals -/

/-- Sends a signal to the job itself: something is done about it, or nothing, or it has its
effect. -/
def raise (signal : Signal) : Sh Unit := do
  let action := (← scope).traps.lookup signal.number
  if signal.number = 0 ∨ (action = some [] ∧ !Signal.inevitable.contains signal.number) then return
  else if action.isSome ∧ !Signal.inevitable.contains signal.number then
    modifyScope fun k => { k with arrived := k.arrived ++ [signal.number] }
  else match signal.effect with
    | .ends => throw (.halt (.killed signal.number))
    | .halts => throw (.halt .overdue)
    | .nothing => return

def send (signal : Nat) (target : List Char) : Sh Bool := do
  let s ← get
  match Text.readDigits? target with
  | none => refuseNumber target
  | some n =>
    if n = s.scope.number then
      match Signal.numbered? signal with
      | some signal =>
        raise signal
        return true
      | none => return true
    else if s.pending.any (·.number = n) then
      if signal ≠ 0 then
        let others := s.pending.filter (·.number ≠ n)
        set { s with pending := others, ended := (n, 128 + signal) :: s.ended }
      return true
    else
      tell (octets "No such process\n")
      return false

def kill : Builtin := fun args => do
  let signal? := fun (cs : List Char) => do
    match Signal.number? cs with
    | some n => return n
    | none => abort (octets "invalid signal number or name: " ++ cs)
  match args with
  | ['-', 'l'] :: rest =>
    match rest with
    | [] =>
      for signal in Signal.all do
        inWorld (print (octets (signal.name ++ "\n")))
      return 0
    | code :: _ =>
      let n ← number code
      match Signal.numbered? (if 128 < n then n - 128 else n) with
      | some signal =>
        inWorld (print (octets (signal.name ++ "\n")))
        return 0
      | none => abort (octets "invalid signal number or exit status: " ++ code)
  | _ =>
    let (signal, targets) ← match args with
      | ['-', 's'] :: name :: ['-', '-'] :: rest | ['-', 's'] :: name :: rest =>
        pure (← signal? name, rest)
      | ['-', '-'] :: rest => pure (15, rest)
      | ('-' :: name) :: rest => pure (← signal? name, rest)
      | rest => pure (15, rest)
    if targets.isEmpty then abort (octets "Usage: kill [-s sigspec | -signum | -sigspec] [pid]...")
    let mut status := 0
    for target in targets do
      if !(← send signal target) then status := 1
    return status

def trapNumber? (cs : List Char) : Option Nat :=
  if cs.map Char.toUpper = "EXIT".toList then some 0 else Signal.number? cs

/-- Says what is done at signals and at the end. -/
def trap : Builtin := fun args => do
  let args := if args.head? = some ['-', '-'] then args.tail else args
  let (action, names) : Option (List Char) × List (List Char) := match args with
    | [] => (none, [])
    | [name] => (none, [name])
    | action :: names =>
      if (Text.readDigits? action).isSome then (none, args)
      else (if action = ['-'] then none else some action, names)
  let mut status := 0
  for name in names do
    match trapNumber? name with
    | none =>
      tell (name ++ octets ": bad trap")
      status := 1
    | some n =>
      modifyScope fun k =>
        let others := k.traps.filter (·.1 ≠ n)
        { k with traps := match action with
          | some text => (n, text) :: others
          | none => others }
  return status

/-! ## Names -/

def ofProgram (program : Program) : Builtin := fun args => inWorld (program args)

/-- Prints its arguments on a line, or without the end of the line; escapes are replaced. -/
def echo : Builtin := fun args => do
  let (ends, args) := match args with
    | ['-', 'n'] :: rest => (false, rest)
    | _ => (true, args)
  let (text, stops) := Format.unescaped (Program.spaced args)
  inWorld (print (if ends && !stops then text ++ ['\n'] else text))
  return 0

def test : Builtin := fun args => do
  match Condition.holds (← get).world args with
  | .ok true => return 0
  | .ok false => return 1
  | .error fault => abort fault.text

/-- Tests a condition that a bracket closes. -/
def bracket : Builtin := fun args => do
  if args.getLast? = some [']'] then test args.dropLast else abort (octets "missing ]")

def table : List (String × Builtin) :=
  [(":", fun _ => return 0), ("true", fun _ => return 0), ("false", fun _ => return 1),
    ("echo", echo), ("printf", ofProgram Program.printf), ("test", test), ("[", bracket),
    ("pwd", ofProgram Program.pwd), ("exit", exit),
    ("return", back), ("break", leaveLoops .stop),
    ("continue", leaveLoops .again), ("shift", shift), ("set", setOptions),
    ("unset", unset), ("export", «export»), ("readonly", readonly), ("local", «local»),
    ("read", read), ("cd", cd), ("chdir", cd), ("kill", kill), ("trap", trap),
    ("umask", fun args => do
      if args.isEmpty then inWorld (print (octets "0022\n"))
      return 0),
    ("times", fun _ => return 0), ("hash", fun _ => return 0), ("jobs", fun _ => return 0),
    ("ulimit", fun _ => return 0), ("alias", fun _ => return 0), ("unalias", fun _ => return 0),
    ("getopts", fun _ => return 1), ("fg", fun _ => abort (octets "No current job")),
    ("bg", fun _ => abort (octets "No current job"))]

/-- The commands that take values for parameters as arguments. -/
def declaring : List String := ["export", "readonly", "local", "alias"]

def running : List String := ["eval", ".", "exec", "command", "wait", "type"]

end Builtin
end GridKeeper.Job.Shell

import GridKeeper.Job.Script.Reader
import GridKeeper.Job.Shell.Builtin
import GridKeeper.Job.Shell.Ending
import GridKeeper.Job.Shell.Value

/-!
# Running scripts

Words are expanded to arguments, and the first of them names a function, a command of the shell
itself or a program. Programs can be shells again, and words can hold commands.

Scripts can run on and on, so all that runs them carries a bound on how deep it may go. Where the
bound is reached the watchdog would have ended the job long before.
-/
namespace GridKeeper.Job.Shell

open Script (Word Part Redirect Command Source)

mutual

def partGlyphs : Nat → Part → Sh (List Glyph)
  | 0, _ => throw (.halt .overdue)
  | n + 1, p => do
    match p with
    | .text cs true => return Glyph.ofText cs true
    | .text cs false => return cs.map fun c => .char c .written
    | .home => return Glyph.ofText (((← scope).values.lookup "HOME".toList).getD ['~']) true
    | .value name quoted => valueGlyphs name quoted
    | .length name quoted =>
      return Glyph.ofText (numeral (Glyph.text (← valueGlyphs name true)).length) quoted
    | .output body quoted =>
      let w := (← get).world
      modify fun s => { s with world := { sending w World.output .pipe with piped := [] } }
      let tested := (← scope).tested
      modifyScope fun k => { k with tested := false }
      let code ← runApart n (← get).world.files body
      modifyScope fun k => { k with tested := tested }
      let text := (← get).world.piped
      modify fun s => { s with world := { s.world with outputs := w.outputs, piped := w.piped } }
      modifyScope fun k => { k with substituted := some code, status := code }
      return Glyph.ofText (withoutEnds (text.filter (· ≠ '\x00'))) quoted
    | .formula word quoted =>
      let i ← evaluate (Glyph.text (← wordGlyphs n word))
      return Glyph.ofText (toString i).toList quoted
    | .changed name change word quoted =>
      let k ← scope
      let value := wholeValue? k name
      let lacks := fun (orEmpty : Bool) => value.isNone || (orEmpty && value = some [])
      let inner := do
        let gs ← wordGlyphs n word
        return if quoted then .mark :: gs else gs.map Glyph.asFound
      match change with
      | .default orEmpty => if lacks orEmpty then inner else valueGlyphs name quoted
      | .replace orEmpty => if lacks orEmpty then return Glyph.ofText [] quoted else inner
      | .assign orEmpty =>
        if lacks orEmpty then
          let text := Glyph.text (← wordGlyphs n word)
          if Script.isName name then assign name text
          else abort (name ++ octets ": bad variable name")
          return Glyph.ofText text quoted
        else valueGlyphs name quoted
      | .demand orEmpty =>
        if lacks orEmpty then
          let text := Glyph.text (← wordGlyphs n word)
          let usual := if orEmpty then "parameter not set or null" else "parameter not set"
          abort (name ++ octets ": " ++ (if text.isEmpty then octets usual else text))
        else valueGlyphs name quoted
      | .cutFront longest =>
        let pattern := Glyph.pattern (← wordGlyphs n word)
        return Glyph.ofText (pattern.cutFront longest (Glyph.text (← valueGlyphs name true))) quoted
      | .cutBack longest =>
        let pattern := Glyph.pattern (← wordGlyphs n word)
        return Glyph.ofText (pattern.cutBack longest (Glyph.text (← valueGlyphs name true))) quoted

def wordGlyphs : Nat → Word → Sh (List Glyph)
  | 0, _ => throw (.halt .overdue)
  | _ + 1, [] => return []
  | n + 1, p :: rest => do
    let gs ← partGlyphs n p
    return gs ++ (← wordGlyphs n rest)

def wordText : Nat → Word → Sh (List Char)
  | 0, _ => throw (.halt .overdue)
  | n + 1, w => return Glyph.text (← wordGlyphs n w)

/-- The fields of words: patterns among them stand for files. -/
def wordFields : Nat → List Word → Sh (List (List Char))
  | 0, _ => throw (.halt .overdue)
  | _ + 1, [] => return []
  | n + 1, w :: rest => do
    let gs ← wordGlyphs n w
    let k ← scope
    let gs := if k.args.isEmpty && w.any isAllArguments then gs.filter (· ≠ .mark) else gs
    let cut := fields k.separators gs
    let files := (← get).world.files
    let found := if k.options.contains 'f' then cut.map Pattern.text
      else cut.flatMap fun p => p.paths files
    return found ++ (← wordFields n rest)

/-- The arguments of a command: where values for parameters are arguments they are not cut. -/
def arguments : Nat → List Word → Sh (List (List Char))
  | 0, _ => throw (.halt .overdue)
  | _ + 1, [] => return []
  | n + 1, w :: rest => do
    let first ← wordFields n [w]
    if first.head?.any fun name => Builtin.declaring.contains (String.ofList name) then
      return first ++ (← declarations n rest)
    else return first ++ (← if first.isEmpty then arguments n rest else wordFields n rest)

/-- The arguments of a command that gives values to parameters. -/
def declarations : Nat → List Word → Sh (List (List Char))
  | 0, _ => throw (.halt .overdue)
  | _ + 1, [] => return []
  | n + 1, w :: rest => do
    let first ← match Script.Reader.assignment? w with
      | some (name, value) => pure [name ++ '=' :: (← wordText n value)]
      | none => wordFields n [w]
    return first ++ (← declarations n rest)

def assignAll : Nat → List (List Char × Word) → Sh Unit
  | 0, _ => throw (.halt .overdue)
  | _ + 1, [] => return
  | n + 1, (name, w) :: rest => do
    assign name (← wordText n w)
    assignAll n rest

/-- Carries out redirections up to the first that fails; tells whether none of them does. -/
def redirect : Nat → List Redirect → Sh Bool
  | 0, _ => throw (.halt .overdue)
  | _ + 1, [] => return true
  | n + 1, .mk descriptor direction target :: rest => do
    let text ← wordText n target
    if direction = .duplicate ∧ text ≠ ['-'] ∧ !text.all Char.isDigit then
      abort (octets "Syntax error: Bad fd number")
    match redirected (← get).world (← hasOption 'C') descriptor direction text with
    | .ok w =>
      modify fun s => { s with world := w }
      redirect n rest
    | .error fault =>
      tell fault
      return false

/-- Runs a command with redirections, which end with it. Where one fails the command is not run, and
the script may end. -/
def runRedirected : Nat → List Redirect → Bool → Sh Unit → Sh Unit
  | 0, _, _, _ => throw (.halt .overdue)
  | n + 1, redirects, endsScript, act => do
    let before := (← get).world
    let within : Sh Unit := do
      if ← redirect n redirects then act
      else if endsScript then throw .fault
      else setStatus refused
    always within (modify fun s => { s with world := { s.world with
      outputs := before.outputs, inputs := before.inputs } })

/-- Runs the lines of a script. -/
def runSource : Nat → Source → Sh Unit
  | 0, _ => throw (.halt .overdue)
  | n + 1, source => do
    match source.next with
    | .over => return
    | .broken => abort (octets "Syntax error")
    | .commands c rest =>
      run n c
      runSource n rest

def runInput : Nat → Sh Unit
  | 0 => throw (.halt .overdue)
  | n + 1 => do
    let script := (← get).world.input
    runSource n { rest := script }

def runText : Nat → List Char → Sh Nat
  | 0, _ => throw (.halt .overdue)
  | n + 1, text => do
    setStatus 0
    runSource n { rest := text }
    return (← scope).status

/-- Does what is to be done at the signals that have come. -/
def runTraps : Nat → Sh Unit
  | 0 => throw (.halt .overdue)
  | n + 1 => do
    let k ← scope
    match k.arrived with
    | [] => return
    | signal :: rest =>
      modifyScope fun k => { k with arrived := rest }
      let _ ← runText n ((k.traps.lookup signal).getD [])
      setStatus k.status
      runTraps n

/-- Runs something to the end of the script, and does what is to be done there. -/
def ending : Nat → Sh Unit → Sh Nat
  | 0, _ => throw (.halt .overdue)
  | n + 1, act => do
    let code ← outcome act
    match (← scope).traps.lookup 0 with
    | none => return code
    | some text =>
      modifyScope fun k => { k with traps := k.traps.filter (·.1 ≠ 0) }
      outcome do
        setStatus code
        runSource n { rest := text }
        setStatus code

/-- Runs a command apart, among some files; tells its status. -/
def runApart : Nat → Files → Command → Sh Nat
  | 0, _, _ => throw (.halt .overdue)
  | n + 1, files, c => do
    let before ← get
    set { before with
      scope := { before.scope with traps := before.scope.ignored }
      pending := []
      world := { before.world with files := files } }
    let code ← ending n (run n c)
    modify fun s => { s with scope := before.scope, pending := before.pending }
    restoreWorld before.world
    return code

/-- Runs the commands of a pipe, each of which reads what the one before prints; tells the status of
the last one. They run at the same time. -/
def runStages : Nat → List Command → Sh Nat
  | 0, _ => throw (.halt .overdue)
  | _ + 1, [] => return 0
  | n + 1, [c] => do runApart n (← get).world.files c
  | n + 1, c :: rest => do
    let before := (← get).world
    modify fun s => { s with world := { sending before World.output .pipe with piped := [] } }
    let _ ← runApart n (← get).world.files c
    let behind := (← get).world
    modify fun s => { s with world := World.attach { s.world with
      outputs := before.outputs, piped := before.piped, clock := before.clock } 0 behind.piped }
    let code ← runStages n rest
    modify fun s => { s with world := { s.world with
      inputs := before.inputs, clock := max behind.clock s.world.clock } }
    return code

/-- Runs a command of the background up to a time; tells when it has ended, if it has. What it does
before that time stays done where it may end there. -/
def runPending : Nat → Pending → Nat → Bool → Sh (Option Nat)
  | 0, _, _, _ => throw (.halt .overdue)
  | n + 1, p, limit, mayStop => do
    let before ← get
    let w := before.world
    set { before with
      scope := p.scope
      pending := []
      world := { w with
        clock := p.start, deadline := limit, outputs := p.outputs, inputs := []
        files := { w.files with home := p.home } } }
    let trial : Sh (Option Nat) := do return some (← runApart n (← get).world.files p.command)
    let result ← tryCatch trial fun
      | .halt (.killed signal) => return some (128 + signal)
      | _ => return none
    let after ← get
    let world := { after.world with
      clock := w.clock, deadline := w.deadline, outputs := w.outputs, inputs := w.inputs
      environment := w.environment, files := { after.world.files with home := w.files.home } }
    match result with
    | some code =>
      set { before with
        world := world, next := after.next, ended := (p.number, code) :: before.ended
        pending := before.pending.filter (·.number ≠ p.number) }
      return some after.world.clock
    | none =>
      set (if mayStop then { before with world := world } else before)
      return none

/-- Lets commands of the background go on up to now. -/
def settle : Nat → List Pending → Bool → Sh Unit
  | 0, _, _ => throw (.halt .overdue)
  | _ + 1, [], _ => return
  | n + 1, p :: rest, mayStop => do
    let _ ← runPending n p ((← get).world.clock + 1) mayStop
    settle n rest mayStop

/-- Waits for commands of the background. -/
def await : Nat → List Pending → Sh Unit
  | 0, _ => throw (.halt .overdue)
  | _ + 1, [] => return
  | n + 1, p :: rest => do
    match ← runPending n p (← get).world.deadline true with
    | some time =>
      modify fun s => { s with world := { s.world with clock := max s.world.clock time } }
      await n rest
    | none => throw (.halt .overdue)

/-- Runs a function: its arguments are those of the script meanwhile. -/
def call : Nat → Command → List (List Char) → Sh Nat
  | 0, _, _ => throw (.halt .overdue)
  | n + 1, body, args => do
    let before ← scope
    if deepest ≤ before.calls then throw (.halt (.killed segmentation))
    modifyScope fun k => { k with args := args, loops := 0, calls := k.calls + 1, outer := [] }
    let act : Sh Unit := tryCatch (run n body) fun
      | .back code => setStatus code
      | turn => throw turn
    always act (modifyScope fun k =>
      let k := k.outer.foldl (fun (k : Scope) (name, value) => match value with
        | some value => k.assign name value
        | none => k.unset name) k
      { k with args := before.args, loops := before.loops, calls := before.calls
               outer := before.outer })
    return (← scope).status

/-- Runs a shell of its own with some arguments: options, and a script or the path of one. -/
def runShell : Nat → List (List Char) → Sh Nat
  | 0, _ => throw (.halt .overdue)
  | n + 1, args => do
    let before ← get
    let environment := before.world.environment
    let fresh : Scope :=
      { name := "sh".toList, args := [], values := environment ++ initial
        exported := environment.map Prod.fst, number := before.next
        traps := before.scope.ignored }
    set { before with scope := fresh, pending := [], next := before.next + 1 }
    let act : Sh Unit := do
      let args := (← Builtin.takeOptions true args.length args).getD []
      let isScript ← hasOption Builtin.scriptOption
      Builtin.turnOption false Builtin.scriptOption
      let readsInput ← hasOption 's'
      match isScript, args with
      | true, [] => abort (octets "-c requires an argument")
      | true, script :: rest =>
        modifyScope fun k => { k with name := rest.headD k.name, args := rest.tail }
        runSource n { rest := script }
      | false, path :: rest =>
        if readsInput then
          modifyScope fun k => { k with args := args }
          runInput n
        else match (← get).world.read? path with
          | none =>
            tell (octets "cannot open " ++ path ++ octets ": No such file")
            throw (.leave refused)
          | some script =>
            modifyScope fun k => { k with name := path, args := rest }
            runSource n { rest := script }
      | false, [] => runInput n
    let code ← ending n act
    settle n (← get).pending true
    modify fun s => { s with scope := before.scope, pending := before.pending }
    restoreWorld before.world
    return code % 256

def runRunner : Nat → String → List (List Char) → Sh Nat
  | 0, _, _ => throw (.halt .overdue)
  | n + 1, name, args => do
    let directories := environmentDirectories (← get).world
    match name, args with
    | "env", [] => inWorld (Program.printenv [])
    | "env", ['-', 'i'] :: rest =>
      modify fun s => { s with world := { s.world with environment := [] } }
      runRunner n "env" rest
    | "env", ['-', 'u'] :: parameter :: rest =>
      modify fun s => { s with world := { s.world with
        environment := s.world.environment.filter (·.1 ≠ parameter) } }
      runRunner n "env" rest
    | "env", arg :: rest =>
      let parameter := arg.takeWhile (· ≠ '=')
      if parameter.length < arg.length then
        modify fun s => { s with world := { s.world with
          environment := s.world.environment.filter (·.1 ≠ parameter) ++
            [(parameter, arg.drop (parameter.length + 1))] } }
        runRunner n "env" rest
      else runLocated n directories arg rest
    | "nice", ['-', 'n'] :: _ :: rest => runRunner n "nice" rest
    | "nice", command :: rest | "nohup", command :: rest => runLocated n directories command rest
    | "nohup", [] => return 125
    | "nice", [] =>
      inWorld (print ['0', '\n'])
      return 0
    | "timeout", _ =>
      let (options, rest) := Program.valued args
      let code := if (options.lookup 's').bind Signal.number? = some 9 then 137 else 124
      match rest.head?.bind Program.duration?, rest.tail with
      | some time, command :: rest => runTimed n time code (runLocated n directories command rest)
      | _, _ => return 125
    | _, _ => runShell n args

/-- Runs something for some milliseconds at most; it has a status of its own where they are not
enough. -/
def runTimed : Nat → Nat → Nat → Sh Nat → Sh Nat
  | 0, _, _, _ => throw (.halt .overdue)
  | _ + 1, time, code, act => do
    let w := (← get).world
    let limit := w.clock + time
    if w.deadline ≤ limit ∨ time = 0 then act
    else
      modify fun s => { s with world := { w with deadline := limit } }
      let code ← tryCatch act fun
        | .halt .overdue => do
          modify fun s => { s with world := { s.world with clock := limit } }
          return code
        | turn => throw turn
      modify fun s => { s with world := { s.world with deadline := w.deadline } }
      return code

/-- Runs a program that is found by its name in some directories, in the environment that there
is. -/
def runLocated : Nat → List String → List Char → List (List Char) → Sh Nat
  | 0, _, _, _ => throw (.halt .overdue)
  | n + 1, directories, name, args => do
    let path := textOf name
    let w := (← get).world
    match Program.locate w.files directories path with
    | .error fault =>
      tellRefusal name fault
      return refusalStatus fault
    | .ok () =>
      let own := Program.ownName path
      if Program.runners.contains own then runRunner n own args
      else match Program.table.lookup own with
        | some program => written (inWorld (program args))
        | none => runShell n (name :: args)

/-- Runs a program as a job of its own: where a signal ends it, the script goes on. -/
def runProgram : Nat → List Char → List (List Char) → Sh Nat
  | 0, _, _ => throw (.halt .overdue)
  | n + 1, name, args => do
    let before ← get
    modify fun s => { s with world := { s.world with environment := s.scope.environment } }
    let code ← tryCatch (runLocated n before.scope.directories name args) fun
      | .halt (.killed signal) => return 128 + signal
      | turn => throw turn
    modify fun s => { s with scope := before.scope, pending := before.pending }
    restoreWorld before.world
    if before.world.clock < (← get).world.clock then settle n before.pending false
    return code

def runRunning : Nat → String → List (List Char) → Sh Nat
  | 0, _, _ => throw (.halt .overdue)
  | n + 1, name, args => do
    match name, args with
    | "eval", _ => runText n (Program.spaced args)
    | ".", [] => return 0
    | ".", path :: _ =>
      if !path.contains '/' then abort (path ++ octets ": not found")
      match (← get).world.read? path with
      | some text =>
        modifyScope fun k => { k with command := path }
        runText n text
      | none => abort (octets "cannot open " ++ path ++ octets ": No such file")
    | "exec", [] => return 0
    | "exec", command :: rest =>
      let k ← scope
      modify fun s => { s with world := { s.world with environment := k.environment } }
      modifyScope fun k => { k with traps := [] }
      throw (.leave (← runLocated n k.directories command rest))
    | "wait", _ =>
      let s ← get
      let numbers := args.filterMap Text.readDigits?
      let wanted := s.pending.filter fun p => args.isEmpty || numbers.contains p.number
      await n wanted
      let ended := (← get).ended
      match numbers.getLast? with
      | none => return 0
      | some number => return (ended.lookup number).getD 127
    | "command", ['-', c] :: names =>
      if c = 'v' ∨ c = 'V' then describe n (c = 'V') names
      else runNamed n false names
    | "command", names => runNamed n false names
    | _, names => describe n true names

/-- Prints what names mean, in words or as short as can be; tells whether all of them mean
something. -/
def describe : Nat → Bool → List (List Char) → Sh Nat
  | 0, _, _ => throw (.halt .overdue)
  | _ + 1, _, [] => return 0
  | n + 1, inWords, name :: rest => do
    let text := String.ofList name
    let k ← scope
    let say := fun (plain : List Char) (words : String) (more : List Char) => do
      inWorld (print ((if inWords then name ++ octets words ++ more else plain) ++ ['\n']))
      return 0
    let status ←
      if Script.reservedWords.contains text then say name " is a shell keyword" []
      else if (k.functions.lookup name).isSome && !Script.isSpecialName name then
        say name " is a shell function" []
      else if Script.isSpecialName name then say name " is a special shell builtin" []
      else if (Builtin.table.lookup text).isSome || Builtin.running.contains text then
        say name " is a shell builtin" []
      else
        let files := (← get).world.files
        match Program.locate files k.directories (textOf name) with
        | .ok () =>
          let path := if name.contains '/' then name else octets "/usr/bin/" ++ name
          say path " is " path
        | .error _ =>
          if inWords then inWorld (print (name ++ octets ": not found\n"))
          pure 127
    let others ← describe n inWords rest
    return if status = 0 then others else status

/-- Runs what a name means: a function, a command of the shell or a program. Functions may be left
out, and then no command is special. -/
def runNamed : Nat → Bool → List (List Char) → Sh Nat
  | 0, _, _ => throw (.halt .overdue)
  | _ + 1, _, [] => return 0
  | n + 1, functions, name :: args => do
    let before ← scope
    let text := String.ofList name
    let isSpecial := Script.isSpecialName name && functions
    let asCommand := fun (act : Sh Nat) => do
      modifyScope fun k => { k with command := name }
      let status ← always (tryCatch (written act) fun
          | .fault => if isSpecial then throw .fault else return refused
          | turn => throw turn)
        (modifyScope fun k => { k with command := before.command })
      return status
    match if functions && !isSpecial then before.functions.lookup name else none with
    | some body => call n body args
    | none =>
      if Builtin.running.contains text then asCommand (runRunning n text args)
      else match Builtin.table.lookup text with
        | some act => asCommand (act args)
        | none => runProgram n name args

def runSimple : Nat → List (List Char × Word) → List Word → List Redirect → Sh Unit
  | 0, _, _, _ => throw (.halt .overdue)
  | n + 1, values, words, redirects => do
    match ← arguments n words with
    | [] => runRedirected n redirects false do
      assignAll n values
      setStatus ((← scope).substituted.getD 0)
    | fields@(name :: args) =>
      if name = "exec".toList ∧ args.isEmpty then
        if !(← redirect n redirects) then throw .fault
        assignAll n values
        setStatus 0
      else if Script.isSpecialName name then
        runRedirected n redirects true do
          assignAll n values
          setStatus (← runNamed n true fields)
      else
        runRedirected n redirects false do
          let before ← scope
          let names := values.map Prod.fst
          assignAll n values
          modifyScope fun k => names.foldl Scope.share k
          always (do setStatus (← runNamed n true fields))
            (modifyScope fun k => k.restore before names)

def runAll : Nat → List Command → Sh Unit
  | 0, _ => throw (.halt .overdue)
  | _ + 1, [] => return
  | n + 1, c :: rest => do
    run n c
    runAll n rest

def runChoice : Nat → List (Command × Command) → Option Command → Sh Unit
  | 0, _, _ => throw (.halt .overdue)
  | n + 1, [], some c => run n c
  | _ + 1, [], none => setStatus 0
  | n + 1, (condition, body) :: rest, otherwise => do
    testing true (run n condition)
    if (← scope).status = 0 then run n body else runChoice n rest otherwise

/-- Runs a loop behind a body with the given status. -/
def runLoop : Nat → Bool → Command → Command → Nat → Sh Unit
  | 0, _, _, _, _ => throw (.halt .overdue)
  | n + 1, onSuccess, condition, body, status => do
    if ← goesOn (testing true (run n condition)) then
      if ((← scope).status = 0) = onSuccess then
        if ← goesOn (run n body) then
          runLoop n onSuccess condition body (← scope).status
      else setStatus status

def runEach : Nat → List Char → List (List Char) → Command → Sh Unit
  | 0, _, _, _ => throw (.halt .overdue)
  | _ + 1, _, [], _ => return
  | n + 1, name, item :: rest, body => do
    assign name item
    if ← goesOn (run n body) then runEach n name rest body

/-- Runs the first branch that has a pattern for a text. -/
def runCases : Nat → List Char → List (List Word × Command) → Sh Unit
  | 0, _, _ => throw (.halt .overdue)
  | _ + 1, _, [] => return
  | n + 1, text, (patterns, body) :: rest => do
    if ← acceptsAny n text patterns then run n body else runCases n text rest

/-- Whether one of some patterns stands for a text. -/
def acceptsAny : Nat → List Char → List Word → Sh Bool
  | 0, _, _ => throw (.halt .overdue)
  | _ + 1, _, [] => return false
  | n + 1, text, w :: rest => do
    if (Glyph.pattern (← wordGlyphs n w)).accepts text then return true
    else acceptsAny n text rest

def run : Nat → Command → Sh Unit
  | 0, _ => throw (.halt .overdue)
  | n + 1, c => do
    if ← hasOption 'n' then return
    match c with
    | .simple line values words redirects =>
      modifyScope fun k => { k with line := line, substituted := none }
      runSimple n values words redirects
      runTraps n
      checked
    | .sequence cs => runAll n cs
    | .pipe cs =>
      setStatus (← runStages n cs)
      checked
    | .negation c =>
      testing true (run n c)
      setStatus (if (← scope).status = 0 then 1 else 0)
    | .both first second =>
      testing true (run n first)
      if (← scope).status = 0 then run n second
    | .either first second =>
      testing true (run n first)
      if (← scope).status ≠ 0 then run n second
    | .background c =>
      let s ← get
      let p : Pending :=
        { number := s.next, command := c, scope := s.scope, home := s.world.files.home
          outputs := s.world.outputs, start := s.world.clock }
      set { s with
        scope := { s.scope with last := some p.number, status := 0 }
        pending := s.pending ++ [p], next := s.next + 1 }
      settle n [p] false
    | .apart c =>
      setStatus (← runApart n (← get).world.files c)
      checked
    | .redirected c redirects => runRedirected n redirects false (run n c)
    | .choice branches otherwise => runChoice n branches otherwise
    | .loop onSuccess condition body =>
      inLoop (runLoop n onSuccess condition body 0)
    | .each name words body =>
      let items ← match words with
        | some ws => wordFields n ws
        | none => pure (← scope).args
      setStatus 0
      inLoop (runEach n name items body)
    | .cases word branches =>
      let text ← wordText n word
      setStatus 0
      runCases n text branches
    | .define name body =>
      modifyScope fun k =>
        { k with functions := (name, body) :: k.functions.filter (·.1 ≠ name), status := 0 }

end

end GridKeeper.Job.Shell

import GridKeeper.Job.Filter
import GridKeeper.Job.Program.Basic

/-!
# Programs for files and directories

They make files and directories, copy, move, remove and list them.
-/
namespace GridKeeper.Job.Program

def change (f : Files → Files) : Act Unit := modify fun w => { w with files := f w.files }

def touch : Program := fun args =>
  atEach "touch" (letters args).2 fun path => do
    let w ← get
    if (w.files.directory? (textOf path)).isSome then return true
    match w.files.openFile (textOf path) with
    | .ok (_, files) =>
      set { w with files := files }
      return true
    | .error fault =>
      complainOf "touch: cannot touch '" path ("': " ++ fault.text)
      return false

/-- The paths that lead to a path: what stands before each of its slashes, and itself. -/
def stepsTo (path : List Char) : List (List Char) :=
  ((List.range (path.length + 1)).filter fun i => path[i]?.all (· = '/') && 0 < i).map path.take

/-- Makes directories; an option makes those that lead to them. -/
def mkdir : Program := fun args =>
  let (options, paths) := letters args
  atEach "mkdir" paths fun path => do
    if options.contains 'p' then
      for step in stepsTo path do
        change fun fs => (fs.makeDirectory (textOf step)).2
      if ((← get).files.directory? (textOf path)).isSome then return true
    let fs := (← get).files
    let (done, files) := fs.makeDirectory (textOf path)
    change fun _ => files
    if !done then
      complainOf "mkdir: cannot create directory '" path ("': " ++ (match fs.find (textOf path) with
        | .ok _ => "File exists"
        | .error fault => fault.text))
    return done

def rmdir : Program := fun args =>
  atEach "rmdir" (letters args).2 fun path => do
    let fs := (← get).files
    let fault ← match fs.find (textOf path), fs.directory? (textOf path) with
      | _, some names =>
        if (fs.namesIn names).isEmpty then
          change (·.remove names)
          return true
        pure "Directory not empty"
      | .error fault, _ => pure fault.text
      | .ok _, none => pure Files.Fault.notDirectory.text
    complainOf "rmdir: failed to remove '" path ("': " ++ fault)
    return false

/-- Removes files; options allow what is not there, and directories. -/
def rm : Program := fun args => do
  let (options, paths) := letters args
  let isForced := options.contains 'f'
  if isForced && paths.isEmpty then return 0
  atEach "rm" paths fun path => do
    let fs := (← get).files
    let fault ← match fs.find (textOf path), fs.directory? (textOf path) with
      | .ok _, some names =>
        if options.contains 'r' || options.contains 'R' then
          change (·.remove names)
          return true
        pure Files.Fault.isDirectory
      | .ok _, none =>
        change fun fs => (fs.removeFile (textOf path)).2
        return true
      | .error fault, _ =>
        if isForced ∧ fault = .missing then return true
        pure fault
    complainOf "rm: cannot remove '" path ("': " ++ fault.text)
    return false

def chmod : Program := fun args => do
  let some mode := args.head? | lacks "chmod"
  let isProgram := match Text.readBase? 8 mode with
    | some n => n / 64 % 2 = 1
    | none => mode.contains 'x' && !mode.contains '-'
  atEach "chmod" args.tail fun path => do
    let fs := (← get).files
    let (done, files) := fs.setProgram (textOf path) isProgram
    change fun _ => files
    if !done then complainOf "chmod: cannot access '" path ("': " ++ Files.Fault.missing.text)
    return done

/-- The path at which something from another path shall be: in a directory it keeps its name. -/
def destination (fs : Files) (source target : List Char) : List Char :=
  if (fs.directory? (textOf target)).isSome then
    target ++ '/' :: ((Files.namesOf (textOf source)).getLast?.getD "").toList
  else target

def copy (source target : List Char) : Act Bool := do
  let w ← get
  let target := destination w.files source target
  match w.files.find (textOf source), w.openStream target with
  | .ok (.file n _), .ok (.file m, w) =>
    set (w.setContent m (w.content n))
    return true
  | .ok (.file _ _), .ok _ => return true
  | .ok .directory, _ =>
    complainOf "cp: -r not specified; omitting directory '" source "'"
    return false
  | .error fault, _ =>
    complainOf "cp: cannot stat '" source ("': " ++ fault.text)
    return false
  | _, .error fault =>
    complainOf "cp: cannot create regular file '" target ("': " ++ fault.text)
    return false

/-- Gives a file or a directory another path. -/
def move (source target : List Char) : Act Bool := do
  let fs := (← get).files
  let target := destination fs source target
  match fs.follow (textOf source), fs.find (textOf source), fs.follow (textOf target) with
  | .ok (.named here name), .ok _, .ok (.named there other) =>
    change (·.rename (here ++ [name]) (there ++ [other]))
    return true
  | _, .error fault, _ =>
    complainOf "mv: cannot stat '" source ("': " ++ fault.text)
    return false
  | _, _, _ => return false

/-- Does something from each of its arguments to the last one. -/
def toLast (program : String) (act : List Char → List Char → Act Bool) : Program := fun args => do
  let paths := (letters args).2
  let some target := paths.getLast? | lacks program
  let sources := paths.dropLast
  if 2 ≤ sources.length ∧ ((← get).files.directory? (textOf target)).isNone then return 1
  atEach program sources fun source => act source target

/-- Lists names: those in a directory in order, without those that begin with a point. -/
def ls : Program := fun args => do
  let (options, paths) := letters args
  let mut status := 0
  for path in if paths.isEmpty then [['.']] else paths do
    let fs := (← get).files
    match fs.find (textOf path), fs.directory? (textOf path) with
    | .ok _, some names =>
      let all := (if options.contains 'a' then [".", ".."] else []) ++ fs.namesIn names
      let shown := all.filter fun name =>
        name.toList.head? ≠ some '.' || options.contains 'a' || options.contains 'A'
      print (Filter.ofLines ((shown.mergeSort fun a b => a ≤ b).map fun name => octets name))
    | .ok _, none => print (path ++ ['\n'])
    | .error fault, _ =>
      complainOf "ls: cannot access '" path ("': " ++ fault.text)
      status := 2
  return status

end GridKeeper.Job.Program

import GridKeeper.Text.Cut

/-!
# Files and directories

Files stand in directories under names, and a path is a way through directories to a name. A file is
told by its number and not by its name: when a file is removed and another one is made in its place,
that is another file. Paths that begin with a slash start at the root, all others at home.
-/
namespace GridKeeper

/-- What a directory has under a name. -/
inductive Files.Entry where
  | directory
  /-- A file, told by its number; some files are programs. -/
  | file (number : Nat) (isProgram : Bool)
deriving Repr, DecidableEq

structure Files where
  /-- What stands in directories, each under the names that lead to it from the root. -/
  entries : List (List String × Files.Entry) := []
  /-- The names that lead from the root to the directory where relative paths start. -/
  home : List String := []
  next : Nat := 0
deriving Repr, DecidableEq

namespace Files

/-! ## Ways -/

/-- Why a path leads nowhere. -/
inductive Fault where
  | missing
  | isDirectory
  | notDirectory
  | nameTooLong
  | denied
  | hasNul
deriving Repr, DecidableEq

def Fault.text : Fault → String
  | missing => "No such file or directory"
  | denied => "Permission denied"
  | notDirectory => "Not a directory"
  | isDirectory => "Is a directory"
  | nameTooLong => "File name too long"
  | hasNul => "file name contained an unexpected NUL byte"

def Fault.number? : Fault → Option Nat
  | missing => some 2
  | denied => some 13
  | notDirectory => some 20
  | isDirectory => some 21
  | nameTooLong => some 36
  | hasNul => none

def Fault.message (fault : Fault) : String :=
  match fault.number? with
  | some n => fault.text ++ " (os error " ++ toString n ++ ")"
  | none => fault.text

/-- What stands at some names; the root has none. -/
def at? (fs : Files) (names : List String) : Option Entry :=
  if names.isEmpty then some .directory else fs.entries.lookup names

/-- The names in a path; repeated slashes count as one. -/
def namesOf (path : String) : List String :=
  ((Text.pieces '/' path.toList).filter (· ≠ [])).map String.ofList

/-- Whether a path ends in a slash, so that it can only mean a directory. -/
def endsInSlash (path : String) : Bool := path.toList.getLast? = some '/'

def longestName : Nat := 255

def longestPath : Nat := 4095

/-- Goes from the directory `here` into the directory that a name means. -/
def enter (fs : Files) (here : List String) (name : String) : Except Fault (List String) :=
  if name = "." then .ok here
  else if name = ".." then .ok here.dropLast
  else if longestName < name.utf8ByteSize then .error .nameTooLong
  else match fs.at? (here ++ [name]) with
    | some .directory => .ok (here ++ [name])
    | some (.file _ _) => .error .notDirectory
    | none => .error .missing

/-- Where a path ends: in a directory that has been gone into, or at a name in one. -/
inductive Arrival where
  | inside (here : List String)
  | named (here : List String) (name : String)
deriving Repr, DecidableEq

def follow (fs : Files) (path : String) : Except Fault Arrival :=
  if path.toList.contains '\x00' then .error .hasNul
  else if path.isEmpty then .error .missing
  else if longestPath < path.utf8ByteSize then .error .nameTooLong
  else do
    let names := namesOf path
    let start := if path.toList.head? = some '/' then [] else fs.home
    let here ← names.dropLast.foldlM fs.enter start
    match names.getLast? with
    | none => .ok (.inside here)
    | some last =>
      if last = "." ∨ last = ".." then return .inside (← fs.enter here last)
      else if longestName < last.utf8ByteSize then .error .nameTooLong
      else .ok (.named here last)

def find (fs : Files) (path : String) : Except Fault Entry := do
  match ← fs.follow path with
  | .inside _ => return .directory
  | .named here name =>
    match fs.at? (here ++ [name]) with
    | none => .error .missing
    | some (.file n isProgram) =>
      if endsInSlash path then .error .notDirectory else return .file n isProgram
    | some .directory => return .directory

def file? (fs : Files) (path : String) : Option Nat :=
  match fs.find path with
  | .ok (.file n _) => some n
  | _ => none

/-- The names that lead from the root to the directory at a path. -/
def directory? (fs : Files) (path : String) : Option (List String) :=
  match fs.follow path with
  | .ok (.inside here) => some here
  | .ok (.named here name) =>
    if fs.at? (here ++ [name]) = some .directory then some (here ++ [name]) else none
  | .error _ => none

def namesIn (fs : Files) (directory : List String) : List String :=
  fs.entries.filterMap fun e =>
    if e.1.length = directory.length + 1 ∧ e.1.dropLast = directory then e.1.getLast? else none

def isDevice (fs : Files) (number : Nat) : Bool :=
  fs.entries.any fun e => e.1.head? = some "dev" && e.2 = .file number false

/-! ## Changes -/

def addFile (fs : Files) (names : List String) (isProgram : Bool) : Files :=
  { fs with entries := fs.entries ++ [(names, .file fs.next isProgram)], next := fs.next + 1 }

def addDirectory (fs : Files) (names : List String) : Files :=
  { fs with entries := fs.entries ++ [(names, .directory)] }

/-- Opens the file at a path for writing, and makes it if there is none. -/
def openFile (fs : Files) (path : String) : Except Fault (Nat × Files) := do
  match ← fs.follow path with
  | .inside _ => .error .isDirectory
  | .named here name =>
    if endsInSlash path then .error .isDirectory
    else match fs.at? (here ++ [name]) with
      | some .directory => .error .isDirectory
      | some (.file n _) => .ok (n, fs)
      | none => .ok (fs.next, fs.addFile (here ++ [name]) false)

/-- Makes a directory; says whether it was made. -/
def makeDirectory (fs : Files) (path : String) : Bool × Files :=
  match fs.follow path with
  | .ok (.named here name) =>
    let names := here ++ [name]
    if (fs.at? names).isSome then (false, fs) else (true, fs.addDirectory names)
  | _ => (false, fs)

/-- Makes the file at a path a program, or makes it none; says whether it is there. -/
def setProgram (fs : Files) (path : String) (isProgram : Bool) : Bool × Files :=
  match fs.find path with
  | .ok (.file n _) =>
    (true, { fs with entries := fs.entries.map fun e => match e.2 with
      | .file m _ => if m = n then (e.1, .file n isProgram) else e
      | .directory => e })
  | found => (found.toOption.isSome, fs)

def removeFile (fs : Files) (path : String) : Bool × Files :=
  match fs.follow path, fs.file? path with
  | .ok (.named here name), some _ =>
    (true, { fs with entries := fs.entries.filter (·.1 ≠ here ++ [name]) })
  | _, _ => (false, fs)

def remove (fs : Files) (names : List String) : Files :=
  { fs with entries := fs.entries.filter fun e => !names.isPrefixOf e.1 }

/-- Moves what stands under some names, and all that is in it, to other names. -/
def rename (fs : Files) (source target : List String) : Files :=
  if source = target then fs
  else { fs with entries := (fs.entries.filter fun e => !target.isPrefixOf e.1).map fun e =>
    if source.isPrefixOf e.1 then (target ++ e.1.drop source.length, e.2) else e }

/-! ## What is always there -/

def systemDirectories : List (List String) :=
  [["bin"], ["boot"], ["dev"], ["etc"], ["home"], ["lib"], ["media"], ["mnt"], ["opt"], ["proc"],
    ["root"], ["run"], ["sbin"], ["srv"], ["sys"], ["tmp"], ["usr"], ["usr", "bin"], ["usr", "lib"],
    ["usr", "local"], ["usr", "local", "bin"], ["usr", "sbin"], ["usr", "share"], ["var"],
    ["var", "lib"], ["var", "log"], ["var", "tmp"]]

def systemFiles : List (List String) :=
  [["dev", "full"], ["dev", "null"], ["dev", "random"], ["dev", "tty"], ["dev", "urandom"],
    ["dev", "zero"], ["etc", "group"], ["etc", "hostname"], ["etc", "hosts"], ["etc", "passwd"],
    ["etc", "resolv.conf"], ["etc", "shadow"]]

def programDirectories : List String :=
  ["/usr/local/sbin", "/usr/local/bin", "/usr/sbin", "/usr/bin", "/sbin", "/bin"]

/-- A home with nothing in it, in a system that has the programs of the given names. -/
def system (programs : List String) : Files :=
  let home := ["tmp", "home"]
  let fs := (systemDirectories ++ [home]).foldl addDirectory { home := home }
  let fs := systemFiles.foldl (fun fs names => fs.addFile names false) fs
  programs.foldl (fun fs name =>
    (fs.addFile ["bin", name] true).addFile ["usr", "bin", name] true) fs

end Files
end GridKeeper

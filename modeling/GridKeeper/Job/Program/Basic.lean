import GridKeeper.Job
import GridKeeper.Text.Numeral

/-!
# What programs have in common

Programs take options in front of their other arguments, read files or what is left to be read, and
tell what goes wrong.
-/
namespace GridKeeper.Job.Program

/-- Texts with a blank between neighbours. -/
def spaced (texts : List (List Char)) : List Char := (texts.intersperse [' ']).flatten

/-! ## Options -/

/-- The letters of the options at the front of some arguments, and the arguments behind them. -/
def letters : List (List Char) → List Char × List (List Char)
  | ['-', '-'] :: rest => ([], rest)
  | args@(('-' :: c :: cs) :: rest) =>
    if c = '-' then ([], args)
    else
      let (more, rest) := letters rest
      (c :: cs ++ more, rest)
  | args => ([], args)

/-- The options at the front of some arguments, where each has a value: the text behind its letter,
or the next argument. -/
def valued : List (List Char) → List (Char × List Char) × List (List Char)
  | ['-', c] :: value :: rest =>
    let (more, rest) := valued rest
    ((c, value) :: more, rest)
  | ('-' :: c :: d :: ds) :: rest =>
    let (more, rest) := valued rest
    ((c, d :: ds) :: more, rest)
  | args => ([], args)

/-! ## Complaints -/

/-- Tells where more can be learned about a program. -/
def refer (program : String) : Act Unit :=
  complain ("Try '" ++ program ++ " --help' for more information.")

def lacks (program : String) : Act Nat := do
  complain (program ++ ": missing operand")
  refer program
  return 1

/-! ## Reading -/

def readInput : Act (List Char) := do
  let w ← get
  set (w.setInput [])
  return w.input

/-- Tells what is wrong with a path, which stands between two texts. -/
def complainOf (front : String) (path : List Char) (back : String) : Act Unit :=
  modify (·.write World.diagnostics (octets front ++ path ++ octets (back ++ "\n")))

/-- The path at which a program finds its input. -/
def isInput (path : List Char) : Bool := path = ['-'] || path = "/dev/stdin".toList

/-- What is in a file, or what is left to be read. Of what is not there the program tells: two texts
around the path, and the fault behind them. -/
def contentOf (front back : String) (path : List Char) : Act (Option (List Char)) := do
  if isInput path then return some (← readInput)
  let w ← get
  match w.files.find (textOf path) with
  | .ok (.file n _) => return some (w.content n)
  | .ok .directory =>
    complainOf front path (back ++ ": " ++ Files.Fault.isDirectory.text)
    return none
  | .error fault =>
    complainOf front path (back ++ ": " ++ fault.text)
    return none

/-- Does something with what is in each of some files, or with what is left to be read if there are
no paths; a path that leads nowhere gives a status of one. -/
def forEach (front back : String) (paths : List (List Char))
    (use : List Char → List Char → Act Unit) : Act Nat := do
  let paths := if paths.isEmpty then [['-']] else paths
  let mut status := 0
  for path in paths do
    match ← contentOf front back path with
    | some text => use path text
    | none => status := 1
  return status

/-- What is in some files, one after the other. -/
def gathered (front : String) (paths : List (List Char)) : Act (List Char × Nat) := do
  let mut all := []
  let mut status := 0
  for path in if paths.isEmpty then [['-']] else paths do
    match ← contentOf front "" path with
    | some text => all := all ++ text
    | none => status := 1
  return (all, status)

/-- Does something at each path; one that fails gives a status of one. -/
def atEach (program : String) (paths : List (List Char)) (act : List Char → Act Bool) :
    Act Nat := do
  if paths.isEmpty then return ← lacks program
  let mut status := 0
  for path in paths do
    if !(← act path) then status := 1
  return status

end GridKeeper.Job.Program

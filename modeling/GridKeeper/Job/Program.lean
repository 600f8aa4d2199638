import GridKeeper.Job.Condition
import GridKeeper.Job.Format
import GridKeeper.Job.Program.Filing
import GridKeeper.Job.Program.Filtering

/-!
# Programs

The programs that are always there, told by their names, and how a program is found.
-/
namespace GridKeeper.Job.Program

/-! ## Texts -/

/-- Prints its arguments on a line. Options in front leave the end of the line out, and turn escapes
on or off. -/
def echo : Program := go true false
where
  go (ends escapes : Bool) : Program
    | [] => do
      if ends then print ['\n']
      return 0
    | args@(arg :: rest) =>
      let letters := arg.drop 1
      if arg.head? = some '-' ∧ letters ≠ [] ∧ letters.all ['n', 'e', 'E'].contains then
        go (ends && !letters.contains 'n')
          (match letters.reverse.find? (· ≠ 'n') with
            | some c => c = 'e'
            | none => escapes) rest
      else do
        let text := spaced args
        let (text, stops) := if escapes then Format.unescaped text else (text, false)
        print (if ends && !stops then text ++ ['\n'] else text)
        return 0

/-- Prints arguments in a format. -/
def printf : Program := fun args => do
  let filled := fun (args : List (List Char)) => do
    let some format := args.head? | return 2
    let filling := Format.fillAll format args.length { args := args.tail }
    print filling.text
    return filling.status
  match args with
  | ['-', '-'] :: rest => filled rest
  | ('-' :: _ :: _) :: _ => return 2
  | _ => filled args

/-! ## Time -/

/-- The milliseconds in a unit of time. -/
def unit? : List Char → Option Nat
  | [] | ['s'] => some 1000
  | ['m'] => some 60000
  | ['h'] => some 3600000
  | ['d'] => some 86400000
  | _ => none

/-- More milliseconds than any watchdog allows. -/
def forever : Nat := Text.max64

/-- A duration in milliseconds: digits, perhaps a fraction, and a unit. -/
def duration? (cs : List Char) : Option Nat :=
  let whole := cs.takeWhile Char.isDigit
  let (fraction, rest) := match cs.dropWhile Char.isDigit with
    | '.' :: rest => (rest.takeWhile Char.isDigit, rest.dropWhile Char.isDigit)
    | rest => ([], rest)
  if ["inf", "infinity"].contains (String.ofList (cs.map Char.toLower)) then some forever
  else if whole.isEmpty ∧ fraction.isEmpty then none
  else (unit? rest).map fun unit =>
    Text.digitsValue (whole ++ fraction) * unit / Nat.pow 10 fraction.length

/-- Waits for the sum of its arguments. -/
def sleep : Program := fun args => do
  if args.isEmpty then return ← lacks "sleep"
  let wrong := args.filter fun arg => (duration? arg).isNone
  for arg in wrong do
    complainOf "sleep: invalid time interval '" arg "'"
  if !wrong.isEmpty then
    refer "sleep"
    return 1
  pass ((args.filterMap duration?).foldl Nat.add 0)
  return 0

/-! ## Conditions -/

def test : Program := fun args => do
  match Condition.holds (← get) args with
  | .ok true => return 0
  | .ok false => return 1
  | .error _ => return 2

/-- Tests a condition that a bracket closes. -/
def bracket : Program := fun args => do
  if args.getLast? = some [']'] then test args.dropLast else return 2

/-! ## Small things -/

/-- Prints the numbers from one to another, by steps. -/
def seq : Program := fun args =>
  let run := fun (first step last : Int) => do
    if step = 0 then return 1
    let count := if 0 < step then (last - first) / step + 1 else (first - last) / -step + 1
    print (Filter.ofLines ((List.range count.toNat).map fun (i : Nat) =>
      (toString (first + step * (i : Int))).toList))
    return 0
  match args.mapM (Text.readSigned? Text.half64) with
  | some [last] => run 1 1 last
  | some [first, last] => run first 1 last
  | some [first, step, last] => run first step last
  | _ => return 1

/-- The last name in a path, without an ending that it is not the whole of. -/
def lastName (path ending : List Char) : List Char :=
  match (Files.namesOf (String.ofList path)).getLast? with
  | none => if path.isEmpty then [] else ['/']
  | some name =>
    let name := name.toList
    let rest := name.take (name.length - ending.length)
    if ending.isSuffixOf name && ending ≠ name then rest else name

def basename : Program := fun args => do
  match args with
  | [path] =>
    print (lastName path [] ++ ['\n'])
    return 0
  | [path, ending] =>
    print (lastName path ending ++ ['\n'])
    return 0
  | _ => lacks "basename"

def withoutLast (path : List Char) : List Char :=
  let isSlash := fun c => c = '/'
  let trim := fun (cs : List Char) => (cs.reverse.dropWhile isSlash).reverse
  let front := (trim path).reverse.dropWhile (fun c => !isSlash c) |>.reverse
  if (trim path).isEmpty then (if path.isEmpty then ['.'] else ['/'])
  else if front.isEmpty then ['.']
  else if (trim front).isEmpty then ['/'] else trim front

def dirname : Program := fun args => do
  for path in args do
    print (withoutLast path ++ ['\n'])
  return if args.isEmpty then 1 else 0

/-- Prints what stands in the environment under its arguments, or all of it. -/
def printenv : Program := fun args => do
  let environment := (← get).environment
  if args.isEmpty then
    for (name, value) in environment do
      print (name ++ '=' :: value ++ ['\n'])
    return 0
  let found := args.filterMap fun name => environment.lookup name
  print (Filter.ofLines found)
  return if found.length = args.length then 0 else 1

/-- Prints the path of the directory that it is in. -/
def pwd : Program := fun _ => do
  print (octets ("/" ++ Text.joined "/" (← get).files.home) ++ ['\n'])
  return 0

/-- What an expression of three words is: a number or a truth value. -/
def expression? (a sign b : List Char) : Option (List Char) :=
  let numbers := (Text.readSigned? Text.half64 a).bind fun m =>
    (Text.readSigned? Text.half64 b).map fun n => (m, n)
  let truth := fun (holds : Bool) => if holds then ['1'] else ['0']
  match String.ofList sign, numbers with
  | "+", some (m, n) => some (toString (m + n)).toList
  | "-", some (m, n) => some (toString (m - n)).toList
  | "*", some (m, n) => some (toString (m * n)).toList
  | "/", some (m, n) => if n = 0 then none else some (toString (m.tdiv n)).toList
  | "%", some (m, n) => if n = 0 then none else some (toString (m.tmod n)).toList
  | "<", some (m, n) => some (truth (m < n))
  | "<=", some (m, n) => some (truth (m ≤ n))
  | ">", some (m, n) => some (truth (n < m))
  | ">=", some (m, n) => some (truth (n ≤ m))
  | "=", some (m, n) => some (truth (m = n))
  | "!=", some (m, n) => some (truth (m ≠ n))
  | "=", none => some (truth (a = b))
  | "!=", none => some (truth (a ≠ b))
  | _, _ => none

/-- Prints the value of an expression; nothing and zero count as failures. -/
def expr : Program := fun args => do
  let value := match args with
    | [a] => some a
    | [a, sign, b] => expression? a sign b
    | _ => none
  match value with
  | none => return 2
  | some text =>
    print (text ++ ['\n'])
    return if text.isEmpty ∨ text = ['0'] then 1 else 0

/-- How often a line is printed that is printed again and again, where no one reads that many. -/
def manyTimes : Nat := 2000

/-- Prints a line again and again, until no one reads it any more. -/
def yes : Program := fun args => do
  let line := (if args.isEmpty then ['y'] else spaced args) ++ ['\n']
  print (List.replicate manyTimes line).flatten
  if (← get).outputs.lookup World.output = some .pipe then throw (.killed 13)
  pass forever
  return 1

/-- Prints the time, of which nothing is known, if its arguments are signs. -/
def date : Program := fun args => do
  if !args.all fun arg => arg.head? = some '+' || arg.head? = some '-' then return 1
  print ['0', '\n']
  return 0

/-- Prints who it runs for. -/
def id : Program := fun args => do
  match args with
  | [] => print (octets "uid=0(root) gid=0(root) groups=0(root)\n")
  | [['-', _]] => print ['0', '\n']
  | _ => return 1
  return 0

/-- A program that prints something if it has no arguments. -/
def saying (text : String) : Program := fun args => do
  if args.isEmpty then
    print (octets (text ++ "\n"))
    return 0
  else return 1

/-! ## Names -/

/-- Programs that work on files, with the status that they have where they cannot. -/
def workers : List (String × Nat) :=
  [("awk", 2), ("base64", 1), ("chown", 1), ("cmp", 2), ("comm", 1), ("dd", 1), ("df", 1),
    ("diff", 2), ("du", 1), ("factor", 1), ("find", 1), ("fold", 1), ("grep", 2), ("groups", 1),
    ("gzip", 1), ("install", 1), ("join", 1), ("link", 1), ("ln", 1), ("md5sum", 1),
    ("mktemp", 1), ("nl", 1), ("nproc", 1), ("od", 1), ("paste", 1), ("readlink", 1), ("sed", 2),
    ("sha256sum", 1), ("shuf", 1), ("split", 1), ("stat", 1), ("sync", 1), ("tac", 1), ("tty", 2),
    ("unlink", 1), ("users", 1)]

/-- A program that has the same status whatever it is given. -/
def constant (status : Nat) : Program := fun _ => return status

def table : List (String × Program) :=
  [("true", constant 0), ("false", constant 1), ("echo", echo), ("printf", printf),
    ("sleep", sleep), ("test", test), ("[", bracket), ("cat", cat), ("touch", touch),
    ("mkdir", mkdir), ("rmdir", rmdir), ("rm", rm), ("chmod", chmod), ("cp", toLast "cp" copy),
    ("mv", toLast "mv" move), ("ls", ls), ("head", head), ("tail", tail), ("wc", wc),
    ("sort", sort), ("uniq", uniq), ("cut", cut), ("tr", tr), ("tee", tee), ("seq", seq),
    ("basename", basename), ("dirname", dirname), ("printenv", printenv), ("pwd", pwd),
    ("expr", expr), ("yes", yes), ("date", date), ("id", id), ("whoami", saying "root"),
    ("uname", saying "Linux"), ("kill", constant 1)] ++
  workers.map fun w => (w.1, constant w.2)

/-- The names of programs that run other ones. -/
def runners : List String := ["sh", "dash", "bash", "env", "nice", "nohup", "timeout"]

/-- Looks for a program in directories, one after the other; what is no program there is passed by,
but told in the end. -/
def search (fs : Files) (name : String) (fault : Files.Fault) :
    List String → Except Files.Fault Unit
  | [] => .error fault
  | directory :: rest =>
    match fs.find (if directory.isEmpty then name else directory ++ "/" ++ name) with
    | .ok (.file _ true) => .ok ()
    | .ok _ => search fs name .denied rest
    | .error _ => search fs name fault rest

/-- Makes sure that a path, or a name without a slash that is looked for in some directories, leads
to a program. -/
def locate (fs : Files) (directories : List String) (name : String) : Except Files.Fault Unit :=
  if name.toList.contains '\x00' then .error .hasNul
  else if name.toList.contains '/' then
    match fs.find name with
    | .ok (.file _ true) => .ok ()
    | .ok _ => .error .denied
    | .error fault => .error fault
  else if name.isEmpty then .error .missing
  else if Files.longestName < name.utf8ByteSize then .error .nameTooLong
  else search fs name .missing directories

def ownName (path : String) : String := (Files.namesOf path).getLast?.getD ""

/-- What is in files of every system. -/
def systemTexts : List (String × String) :=
  [("/etc/passwd", "root:x:0:0:root:/root:/bin/sh\n"), ("/etc/group", "root:x:0:\n"),
    ("/etc/hostname", "host\n"), ("/etc/hosts", "127.0.0.1\tlocalhost\n")]

/-- The world in which a job finds itself, without time. -/
def surroundings : World :=
  let files := Files.system (table.map Prod.fst ++ runners)
  { files := files, deadline := 0
    contents := systemTexts.filterMap fun (path, text) =>
      (files.file? path).map fun n => (n, octets text) }

end GridKeeper.Job.Program

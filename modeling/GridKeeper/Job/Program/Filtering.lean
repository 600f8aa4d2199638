import GridKeeper.Job.Filter
import GridKeeper.Job.Program.Basic

/-!
# Programs for texts

They print files, or what they read, as a whole or in part, in order or changed.
-/
namespace GridKeeper.Job.Program

/-- Prints files one after the other. A file is not printed into itself. -/
def cat : Program := fun args => do
  let mut status := 0
  let paths := (letters args).2
  for path in if paths.isEmpty then [['-']] else paths do
    let w ← get
    let own := (w.files.file? (textOf path)).any fun n =>
      w.outputs.lookup World.output = some (.file n) && w.content n ≠ []
    if own then
      complainOf "cat: " path ": input file is output file"
      status := 1
    else match ← contentOf "cat: " "" path with
      | some text => print text
      | none => status := 1
  return status

/-! ## Parts and counts -/

/-- Prints a part of each file: lines or characters, in a number that an option tells. -/
def part (program : String) (lines characters : List Char → Option (List Char → List Char)) :
    Program := fun args =>
  let shown := fun (take : Option (List Char → List Char)) (paths : List (List Char)) => do
    match take with
    | some take =>
      forEach (program ++ ": cannot open '") "' for reading" paths fun _ text => print (take text)
    | none => return 1
  match valued args, args with
  | ([], paths), _ => shown (lines ['1', '0']) paths
  | _, ('-' :: d :: digits) :: paths =>
    if d.isDigit then shown (lines (d :: digits)) paths
    else match valued args with
      | ([('n', number)], paths) => shown (lines number) paths
      | ([('c', number)], paths) => shown (characters number) paths
      | _ => return 1
  | _, _ => return 1

def head : Program :=
  part "head" (fun number => (Text.readDigits? number).map Filter.firstLines)
    fun number => (Text.readDigits? number).map List.take

/-- Prints the last part of each file, or what begins at some place if the number has a sign. -/
def tail : Program :=
  part "tail"
    (fun
      | '+' :: number => (Text.readDigits? number).map fun n => Filter.behindLines (n - 1)
      | number => (Text.readDigits? number).map Filter.lastLines)
    fun
      | '+' :: number => (Text.readDigits? number).map fun n => List.drop (n - 1)
      | number => (Text.readDigits? number).map fun n cs => cs.drop (cs.length - n)

def wc : Program := fun args =>
  let (options, paths) := letters args
  let wanted := if options.isEmpty then ['l', 'w', 'c'] else options
  let count := fun (text : List Char) =>
    [('l', text.count '\n'), ('w', Filter.wordCount text), ('c', text.length), ('m', text.length)]
      |>.filterMap fun p => if wanted.contains p.1 then some p.2 else none
  forEach "wc: " "" paths fun path text =>
    let counts := count text
    let width := if counts.length = 1 then 1
      else if paths.isEmpty then 7 else (toString text.length).length
    let shown := counts.map fun n =>
      List.replicate (width - (toString n).length) ' ' ++ (toString n).toList
    print (spaced (if paths.isEmpty then shown else shown ++ [path]) ++ ['\n'])

/-- Prints the lines of files in order. -/
def sort : Program := fun args => do
  let (options, paths) := letters args
  let (text, status) ← gathered "sort: cannot read: " paths
  let order : Filter.Order :=
    { byNumber := options.contains 'n', reversed := options.contains 'r'
      unique := options.contains 'u' }
  print (Filter.ofLines (Filter.sorted order (Filter.lines text)))
  return if status = 0 then 0 else 2

/-- Prints lines without repeats; an option tells how many there were. -/
def uniq : Program := fun args => do
  let (options, paths) := letters args
  let (text, status) ← gathered "uniq: " paths
  for (n, line) in Filter.counted (Filter.lines text) do
    let count := (toString n).toList
    if (options.contains 'd' && n = 1) || (options.contains 'u' && n ≠ 1) then continue
    if options.contains 'c' then print (List.replicate (7 - count.length) ' ' ++ count ++ [' '])
    print (line ++ ['\n'])
  return status

/-- Prints parts of lines: fields or characters at the positions that are wanted. -/
def cut : Program := fun args =>
  let (options, paths) := valued args
  let separator := ((options.lookup 'd').getD []).headD '\t'
  let list := options.lookup 'f' <|> options.lookup 'c' <|> options.lookup 'b'
  let wanted := list.bind Filter.ranges?
  match wanted with
  | none => return 1
  | some rs => forEach "cut: " "" paths fun _ text =>
    print (Filter.ofLines ((Filter.lines text).map fun line =>
      if (options.lookup 'f').isSome then Filter.fields separator rs line
      else Filter.selected rs line))

/-- Exchanges characters, removes them or removes their repeats. -/
def tr : Program := fun args => do
  let (options, sets) := letters args
  let sets := sets.map fun cs => Filter.members cs.length cs
  let negated := options.contains 'c' || options.contains 'C'
  let text ← readInput
  let isIn := fun (set : List Char) (c : Char) => set.contains c != negated
  match sets with
  | [set] =>
    if options.contains 'd' then print (text.filter fun c => !isIn set c)
    else if options.contains 's' then print (Filter.squeezed (isIn set) text)
    else return 1
    return 0
  | [source, target] =>
    if options.contains 'd' then
      print (Filter.squeezed target.contains (text.filter fun c => !isIn source c))
    else
      let changed := if negated then
          text.map fun c => if source.contains c then c else target.getLast?.getD c
        else text.map (Filter.exchanged source target)
      print (if options.contains 's' then Filter.squeezed target.contains changed else changed)
    return 0
  | _ => return 1

/-- Writes what it reads to files and to its output. -/
def tee : Program := fun args => do
  let (options, paths) := letters args
  let text ← readInput
  print text
  let mut status := 0
  for path in paths do
    match (← get).openStream path with
    | .ok (.file n, w) =>
      set (w.setContent n (if options.contains 'a' then w.content n ++ text else text))
    | .ok _ => pure ()
    | .error fault =>
      complainOf "tee: " path (": " ++ fault.text)
      status := 1
  return status

end GridKeeper.Job.Program

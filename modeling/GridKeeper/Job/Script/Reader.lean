import GridKeeper.Job.Script
import GridKeeper.Text.Cut
import GridKeeper.Text.Scan

/-!
# Reading scripts

A reader takes something from the front of a script. Nested things are read by the same readers, so
all of them carry a bound on how deep they may go; the length of the script is bound enough.
-/
namespace GridKeeper.Job.Script

/-- What is left of a script, and the number of the line where it begins. -/
structure Source where
  rest : List Char
  line : Nat := 1
deriving Repr, DecidableEq

abbrev Reader := StateT Source Option

namespace Reader

/-! ## Characters -/

def peek : Reader (Option Char) := return (← get).rest.head?

def sees (cs : List Char) : Reader Bool := return cs.isPrefixOf (← get).rest

def skip (n : Nat) : Reader Unit :=
  modify fun s => { rest := s.rest.drop n, line := s.line + (s.rest.take n).count '\n' }

/-- Takes the characters at the front that satisfy a condition. -/
def takeWhile (p : Char → Bool) : Reader (List Char) := do
  let cs := (← get).rest.takeWhile p
  skip cs.length
  return cs

/-- Takes a text if it is next; tells whether it is. -/
def accept (cs : List Char) : Reader Bool := do
  if ← sees cs then
    skip cs.length
    return true
  else return false

/-- Takes a text, which must be next. -/
def expect (cs : List Char) : Reader Unit := do
  if ← accept cs then return () else failure

/-- Takes blanks, continued lines, and a comment behind them. -/
def blanks : Nat → Reader Unit
  | 0 => failure
  | n + 1 => do
    if ← accept ['\\', '\n'] then blanks n
    else match ← peek with
      | some '#' =>
        let _ ← takeWhile (· ≠ '\n')
      | some c =>
        if c = ' ' ∨ c = '\t' then
          skip 1
          blanks n
      | none => return ()

/-- Takes blanks, comments and ends of lines. -/
def gaps : Nat → Reader Unit
  | 0 => failure
  | n + 1 => do
    blanks n
    if ← accept ['\n'] then gaps n

def endsWord (c : Char) : Bool := [' ', '\t', '\n', ';', '&', '|', '<', '>', '(', ')'].contains c

/-- The character that quotes commands. -/
def grave : Char := Char.ofNat 96

/-! ## Parts of words -/

/-- Where parts of a word stand, which tells what ends them and what is special in them. -/
inductive Place where
  | bare
  | double
  | brace (quoted : Bool)
  | formula (depth : Nat)
  | here
deriving Repr, DecidableEq

def Place.isQuoted : Place → Bool
  | bare => false
  | brace quoted => quoted
  | double | formula _ | here => true

def Place.escapes (p : Place) (c : Char) : Bool :=
  match p with
  | bare | brace false => true
  | here => ['$', '\\', grave].contains c
  | brace true => ['$', '\\', grave, '"', '\x7d'].contains c
  | double | formula _ => ['$', '\\', grave, '"'].contains c

/-- The commands between two quoting characters, and what stands behind them: a backslash before a
special character is dropped. -/
def quotedCommands? (quoted : Bool) : List Char → Option (List Char × List Char)
  | [] => none
  | '\\' :: c :: rest =>
    (quotedCommands? quoted rest).map fun (cs, rest) =>
      (if ['$', '\\', grave].contains c || (quoted && c = '"') then (c :: cs, rest)
        else ('\\' :: c :: cs, rest))
  | c :: rest =>
    if c = grave then some ([], rest)
    else (quotedCommands? quoted rest).map fun (cs, rest) => (c :: cs, rest)

/-- What is done with the value of a parameter, told by the signs behind its name. -/
def change? : Reader (Option Change) := do
  let orEmpty ← accept [':']
  match ← peek with
  | some '-' => skip 1; return some (.default orEmpty)
  | some '=' => skip 1; return some (.assign orEmpty)
  | some '?' => skip 1; return some (.demand orEmpty)
  | some '+' => skip 1; return some (.replace orEmpty)
  | some c =>
    if orEmpty then failure
    else if c = '%' then
      skip 1
      return some (.cutBack (← accept ['%']))
    else if c = '#' then
      skip 1
      return some (.cutFront (← accept ['#']))
    else return none
  | none => return none

def bracedName : Reader (List Char) := do
  match ← peek with
  | some c =>
    if isNameStart c then takeWhile isNamePart
    else if c.isDigit then takeWhile Char.isDigit
    else if isSpecial c then
      skip 1
      return [c]
    else failure
  | none => failure

/-! ## Texts that stand below -/

/-- The text that lines make up to the one that ends it, and the lines behind that one. The last
line of all has no end. -/
def bodyLines (ending : List Char) (dropsTabs : Bool) : List (List Char) →
    List Char × List (List Char)
  | [] => ([], [])
  | line :: rest =>
    let line := if dropsTabs then line.dropWhile (· = '\t') else line
    if line = ending then ([], rest)
    else if rest.isEmpty then (line, [])
    else
      let (body, rest) := bodyLines ending dropsTabs rest
      (line ++ '\n' :: body, rest)

/-- Takes the text that stands below the line that is read. -/
def takeBody (ending : List Char) (dropsTabs : Bool) : Reader (List Char) := do
  let s ← get
  let (front, below) := (Text.cutFirst? ['\n'] s.rest).getD (s.rest, [])
  let (body, rest) := bodyLines ending dropsTabs (Text.pieces '\n' below)
  set { s with rest := front ++ rest.flatMap ('\n' :: ·) }
  return body

/-! ## Words that mean something -/

/-- The word that is next, if it means something where a command may begin. -/
def reserved? (n : Nat) : Reader (Option String) := do
  blanks n
  let word := String.ofList ((← get).rest.takeWhile fun c => !endsWord c)
  return if reservedWords.contains word then some word else none

/-- Takes a word that means something if it is next; tells whether it is. -/
def acceptWord (n : Nat) (word : String) : Reader Bool := do
  if (← reserved? n) = some word then accept word.toList else return false

/-- Takes a word that means something, which must be next. -/
def expectWord (n : Nat) (word : String) : Reader Unit := do
  if ← acceptWord n word then return () else failure

/-- The words behind which no command of the same sequence stands. -/
def closingWords : List String := ["do", "done", "elif", "else", "esac", "fi", "then", "\x7d"]

/-- Whether a sequence of commands is over. -/
def atEnd (n : Nat) : Reader Bool := do
  if (← reserved? n).any closingWords.contains then return true
  else if ← sees [';', ';'] then return true
  else match ← peek with
    | none => return true
    | some c => return c = ')'

/-- Takes a sign that stands at the front of another one only if that other one is not next. -/
def acceptAlone (sign : Char) : Reader Bool := do
  if ← sees [sign, sign] then return false else accept [sign]

/-- Takes what stands behind a command in a sequence: the command, which may run in the background
now, and whether another one can follow. -/
def separator (n : Nat) (c : Command) : Reader (Command × Bool) := do
  blanks n
  if ← acceptAlone ';' then return (c, true)
  else if ← acceptAlone '&' then return (.background c, true)
  else return (c, (← peek) = some '\n')

/-- Whether what stands behind a tilde lets it stand for the directory called home. -/
def endsHome : Word → Bool
  | [] => true
  | .text [c] false :: _ => c = '/' || c = ':'
  | _ => false

/-- A value of a parameter with the directory called home in the place of tildes, at the front and
behind colons. -/
def withHomes (atFront : Bool) : Word → Word
  | [] => []
  | .text ['~'] false :: rest =>
    (if atFront && endsHome rest then .home else .text ['~'] false) :: withHomes false rest
  | .text [':'] false :: rest => .text [':'] false :: withHomes true rest
  | p :: rest => p :: withHomes false rest

/-- The parameter that a word gives a value, and the rest of the word. Outside of quotes each
character is a part of its own. -/
def assignment? (w : Word) : Option (List Char × Word) :=
  go [] w
where
  go (name : List Char) : Word → Option (List Char × Word)
    | .text [c] false :: rest =>
      if c = '=' then (if isName name then some (name, withHomes true rest) else none)
      else go (name ++ [c]) rest
    | _ => none

/-! ## Words and commands -/

mutual

def parts : Nat → Place → Reader (List Part)
  | 0, _ => failure
  | n + 1, place => do
    match place, ← peek with
    | .bare, none | .here, none => return []
    | _, none => failure
    | .bare, some c =>
      if endsWord c then return [] else return (← part n place c) ++ (← parts n place)
    | .double, some '"' => return []
    | .brace _, some '\x7d' => return []
    | .formula depth, some c =>
      if depth = 0 ∧ (← sees [')', ')']) then return []
      else
        let depth := if c = '(' then depth + 1 else if c = ')' then depth - 1 else depth
        return (← part n place c) ++ (← parts n (.formula depth))
    | _, some c => return (← part n place c) ++ (← parts n place)

def part : Nat → Place → Char → Reader (List Part)
  | 0, _, _ => failure
  | n + 1, place, c => do
    let quotes := place = .bare || place = .brace false || place = .brace true
    skip 1
    if c = '\\' then
      match ← peek with
      | some '\n' =>
        skip 1
        return []
      | some d =>
        if place.escapes d then
          skip 1
          return [.text [d] true]
        else return [.text [c] true]
      | none => return [.text [c] true]
    else if c = '\'' ∧ quotes ∧ place ≠ .brace true then
      let cs ← takeWhile (· ≠ '\'')
      expect ['\'']
      return [.text cs true]
    else if c = '"' ∧ quotes then
      let inner ← parts n .double
      expect ['"']
      return inner ++ [.text [] true]
    else if c = '$' then dollar n place
    else if c = grave then
      let s ← get
      let (commands, rest) ← quotedCommands? place.isQuoted s.rest
      set { s with rest := commands }
      let body ← sequence n
      if (← peek).isSome then failure
      set { s with rest := rest }
      return [.output (.sequence body) place.isQuoted]
    else return [.text [c] place.isQuoted]

def dollar : Nat → Place → Reader (List Part)
  | 0, _ => failure
  | n + 1, place => do
    let quoted := place.isQuoted
    if ← accept ['(', '('] then
      let inner ← parts n (.formula 0)
      expect [')', ')']
      return [.formula inner quoted]
    else if ← accept ['('] then
      let body ← sequence n
      expect [')']
      return [.output (.sequence body) quoted]
    else if ← accept ['\x7b'] then
      let rest := (← get).rest
      if rest.head? = some '#' ∧ rest[1]? ≠ some '\x7d' then
        skip 1
        let name ← bracedName
        expect ['\x7d']
        return [.length name quoted]
      else
        let name ← bracedName
        let some change ← change?
          | expect ['\x7d']
            return [.value name quoted]
        let word ← parts n (.brace (match change with
          | .cutFront _ | .cutBack _ => false
          | _ => quoted))
        expect ['\x7d']
        return [.changed name change word quoted]
    else match ← peek with
      | some c =>
        if isNameStart c then return [.value (← takeWhile isNamePart) quoted]
        else if c.isDigit || isSpecial c then
          skip 1
          return [.value [c] quoted]
        else return [.text ['$'] quoted]
      | none => return [.text ['$'] quoted]

def word? : Nat → Reader (Option Word)
  | 0 => failure
  | n + 1 => do
    blanks n
    match ← peek with
    | none => return none
    | some c =>
      if endsWord c then return none
      else if c = '~' ∧ (((← get).rest.drop 1).head?.all fun d => d = '/' || endsWord d) then
        skip 1
        return some (.home :: (← parts n .bare))
      else return some (← parts n .bare)

def redirect? : Nat → Reader (Option Redirect)
  | 0 => failure
  | n + 1 => do
    blanks n
    let rest := (← get).rest
    let digits := rest.takeWhile Char.isDigit
    let rest := rest.drop digits.length
    if rest.head? ≠ some '<' ∧ rest.head? ≠ some '>' then return none
    skip digits.length
    let descriptor := fun other => if digits.isEmpty then other else Text.digitsValue digits
    if ← accept ['<', '<'] then
      let dropsTabs ← accept ['-']
      let some ending ← word? n | failure
      let body ← takeBody (ending.flatMap fun
        | .text cs _ => cs
        | _ => []) dropsTabs
      if ending.any fun
        | .text _ quoted => quoted
        | _ => false
      then return some (.mk (descriptor 0) .here [.text body true])
      else
        let s ← get
        set { s with rest := body }
        let text ← parts n .here
        set s
        return some (.mk (descriptor 0) .here text)
    let direction ←
      if ← accept ['>', '>'] then pure Direction.append
      else if ← accept ['>', '&'] then pure Direction.duplicate
      else if ← accept ['<', '&'] then pure Direction.duplicate
      else if ← accept ['>', '|'] then pure Direction.replace
      else if ← accept ['<', '>'] then pure Direction.append
      else if ← accept ['>'] then pure Direction.create
      else
        skip 1
        pure Direction.input
    let some target ← word? n | failure
    let isNumber := (bare? target).all fun cs => cs = ['-'] || cs.all Char.isDigit
    if direction = .duplicate ∧ !isNumber then failure
    return some (.mk (descriptor (if rest.head? = some '<' then 0 else 1)) direction target)

def redirects : Nat → Reader (List Redirect)
  | 0 => failure
  | n + 1 => do
    match ← redirect? n with
    | some r => return r :: (← redirects n)
    | none => return []

def words : Nat → Reader (List Word)
  | 0 => failure
  | n + 1 => do
    match ← word? n with
    | some w => return w :: (← words n)
    | none => return []

/-- Takes the rest of a simple command, or the definition of a function. -/
def simple : Nat → Nat → List (List Char × Word) → List Word → List Redirect → Reader Command
  | 0, _, _, _, _ => failure
  | n + 1, line, values, ws, rs => do
    match ← redirect? n with
    | some r => simple n line values ws (rs ++ [r])
    | none =>
      match ← word? n with
      | none =>
        if values.isEmpty ∧ ws.isEmpty ∧ rs.isEmpty then failure
        else return .simple line values ws rs
      | some w =>
        match if ws.isEmpty then assignment? w else none with
        | some value => simple n line (values ++ [value]) ws rs
        | none =>
          blanks n
          if values.isEmpty ∧ ws.isEmpty ∧ rs.isEmpty ∧ (← accept ['(']) then
            blanks n
            expect [')']
            gaps n
            match (bare? w).filter fun name => isName name && !isSpecialName name with
            | some name => return .define name (← command n)
            | none => failure
          else simple n line values (ws ++ [w]) rs

def command : Nat → Reader Command
  | 0 => failure
  | n + 1 => do
    let reserved ← reserved? n
    let c ← match reserved with
      | none =>
        if ← accept ['('] then
          let body ← block n
          expect [')']
          pure (.apart body)
        else return ← simple n (← get).line [] [] []
      | some "\x7b" =>
        expectWord n "\x7b"
        let body ← block n
        expectWord n "\x7d"
        pure body
      | some "if" =>
        expectWord n "if"
        choice n []
      | some "while" =>
        expectWord n "while"
        loop n true
      | some "until" =>
        expectWord n "until"
        loop n false
      | some "for" =>
        expectWord n "for"
        each n
      | some "case" =>
        expectWord n "case"
        let some w ← word? n | failure
        gaps n
        expectWord n "in"
        return ← withRedirects n (.cases w (← branches n))
      | some _ => failure
    withRedirects n c

def withRedirects : Nat → Command → Reader Command
  | 0, _ => failure
  | n + 1, c => do
    let rs ← redirects n
    return if rs.isEmpty then c else .redirected c rs

/-- Takes the branches of a choice, from behind the word that opens one. -/
def choice : Nat → List (Command × Command) → Reader Command
  | 0, _ => failure
  | n + 1, before => do
    let condition ← block n
    expectWord n "then"
    let body ← block n
    let before := before ++ [(condition, body)]
    if ← acceptWord n "elif" then choice n before
    else if ← acceptWord n "else" then
      let otherwise ← block n
      expectWord n "fi"
      return .choice before (some otherwise)
    else
      expectWord n "fi"
      return .choice before none

def loop : Nat → Bool → Reader Command
  | 0, _ => failure
  | n + 1, onSuccess => do
    let condition ← block n
    return .loop onSuccess condition (← loopBody n)

def loopBody : Nat → Reader Command
  | 0 => failure
  | n + 1 => do
    gaps n
    expectWord n "do"
    let body ← block n
    expectWord n "done"
    return body

/-- Takes a loop over fields from behind its first word. -/
def each : Nat → Reader Command
  | 0 => failure
  | n + 1 => do
    let some w ← word? n | failure
    let some name := (bare? w).filter isName | failure
    gaps n
    if ← acceptWord n "in" then
      let ws ← words n
      if ← acceptAlone ';' then pure () else expect ['\n']
      return .each name (some ws) (← loopBody n)
    else
      let _ ← acceptAlone ';'
      return .each name none (← loopBody n)

def branches : Nat → Reader (List (List Word × Command))
  | 0 => failure
  | n + 1 => do
    gaps n
    if ← acceptWord n "esac" then return []
    let _ ← accept ['(']
    let patterns ← alternatives n
    expect [')']
    let body ← sequence n
    gaps n
    if ← accept [';', ';'] then return (patterns, .sequence body) :: (← branches n)
    else
      expectWord n "esac"
      return [(patterns, .sequence body)]

/-- Takes patterns, one of which is enough. -/
def alternatives : Nat → Reader (List Word)
  | 0 => failure
  | n + 1 => do
    let some w ← word? n | failure
    blanks n
    if ← accept ['|'] then return w :: (← alternatives n) else return [w]

/-- Takes one command or more up to what closes them. -/
def block : Nat → Reader Command
  | 0 => failure
  | n + 1 => do
    let cs ← sequence n
    if cs.isEmpty then failure else return .sequence cs

/-- Takes commands up to what closes them. -/
def sequence : Nat → Reader (List Command)
  | 0 => failure
  | n + 1 => do
    gaps n
    if ← atEnd n then return []
    let (c, more) ← separator n (← joined n (← pipeline n))
    if more then return c :: (← sequence n) else return [c]

def joined : Nat → Command → Reader Command
  | 0, _ => failure
  | n + 1, first => do
    blanks n
    if ← accept ['&', '&'] then
      gaps n
      joined n (.both first (← pipeline n))
    else if ← accept ['|', '|'] then
      gaps n
      joined n (.either first (← pipeline n))
    else return first

/-- Takes commands of which each reads what the one before prints. -/
def pipeline : Nat → Reader Command
  | 0 => failure
  | n + 1 => do
    if ← acceptWord n "!" then return .negation (← pipe n) else pipe n

/-- The same behind a negation. -/
def pipe : Nat → Reader Command
  | 0 => failure
  | n + 1 => do
    match ← stages n with
    | [c] => return c
    | cs => return .pipe cs

def stages : Nat → Reader (List Command)
  | 0 => failure
  | n + 1 => do
    let c ← command n
    blanks n
    if ← acceptAlone '|' then
      gaps n
      return c :: (← stages n)
    else return [c]

end

def lineCommands : Nat → Reader (List Command)
  | 0 => failure
  | n + 1 => do
    let (c, more) ← separator n (← joined n (← pipeline n))
    blanks n
    match ← peek with
    | none | some '\n' => return [c]
    | some _ => if more then return c :: (← lineCommands n) else failure

end Reader

/-- How deep the readers may go in a script. -/
def Source.depth (s : Source) : Nat := 16 * (s.rest.length + 4)

inductive Next where
  | over
  | commands (c : Command) (rest : Source)
  | broken

def Source.next (s : Source) : Next :=
  let read : Reader (List Command) := do
    Reader.gaps s.depth
    if (← Reader.peek).isNone then return [] else Reader.lineCommands s.depth
  match read.run s with
  | none => .broken
  | some ([], _) => .over
  | some (cs, rest) => .commands (.sequence cs) rest

end GridKeeper.Job.Script

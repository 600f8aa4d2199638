/-!
# Scripts

The language of a small shell. A script is a sequence of lines; a line holds commands, and a command
is made of words. A word is made of parts, and some parts are found out only when the command runs.
-/
namespace GridKeeper.Job.Script

/-- What is done with the value of a parameter before it is used. -/
inductive Change where
  /-- Another text takes its place if there is no value, or an empty one. -/
  | default (orEmpty : Bool)
  | assign (orEmpty : Bool)
  /-- Without a value the script ends. -/
  | demand (orEmpty : Bool)
  | replace (orEmpty : Bool)
  | cutFront (longest : Bool)
  | cutBack (longest : Bool)
deriving Repr, DecidableEq

/-- What a redirection does with a descriptor. -/
inductive Direction where
  | create
  | replace
  | append
  | input
  | duplicate
  | here
deriving Repr, DecidableEq

mutual

/-- A part of a word. Whether it stands in quotes tells whether its text is cut at blanks. -/
inductive Part where
  | text (cs : List Char) (quoted : Bool)
  | value (name : List Char) (quoted : Bool)
  | length (name : List Char) (quoted : Bool)
  | changed (name : List Char) (change : Change) (word : List Part) (quoted : Bool)
  /-- What a script prints. -/
  | output (body : Command) (quoted : Bool)
  | formula (word : List Part) (quoted : Bool)
  | home

inductive Redirect where
  | mk (descriptor : Nat) (direction : Direction) (target : List Part)

inductive Command where
  /-- A program or a function with its arguments, on some line of the script; before them stand the
  values that parameters get. -/
  | simple (line : Nat) (values : List (List Char × List Part)) (words : List (List Part))
    (redirects : List Redirect)
  | sequence (commands : List Command)
  | pipe (commands : List Command)
  | negation (command : Command)
  | both (first second : Command)
  | either (first second : Command)
  | background (command : Command)
  /-- A command that runs apart and leaves no value behind. -/
  | apart (command : Command)
  | redirected (command : Command) (redirects : List Redirect)
  | choice (branches : List (Command × Command)) (otherwise : Option Command)
  /-- As long as the condition gives success or, otherwise, failure. -/
  | loop (onSuccess : Bool) (condition body : Command)
  | each (name : List Char) (words : Option (List (List Part))) (body : Command)
  | cases (word : List Part) (branches : List (List (List Part) × Command))
  | define (name : List Char) (body : Command)

end

abbrev Word := List Part

def Command.nothing : Command := .sequence []

instance : Inhabited Command := ⟨.nothing⟩

/-- The characters of a part that is plain text outside of quotes. -/
def Part.bare? : Part → Option (List Char)
  | text cs false => some cs
  | _ => none

/-- The characters of a word that has no quotes and no parameters. -/
def bare? (w : Word) : Option (List Char) := (w.mapM Part.bare?).map List.flatten

/-! ## Names -/

def isNameStart (c : Char) : Bool := c.isAlpha || c = '_'

def isNamePart (c : Char) : Bool := c.isAlphanum || c = '_'

/-- Whether a text is a name that a parameter can be given. -/
def isName (cs : List Char) : Bool := cs.head?.any isNameStart && cs.all isNamePart

/-- The parameters that have a character that is no letter for a name. -/
def isSpecial (c : Char) : Bool := ['@', '*', '#', '?', '-', '$', '!'].contains c

/-- Words that mean something where a command may begin. -/
def reservedWords : List String :=
  ["!", "case", "do", "done", "elif", "else", "esac", "fi", "for", "if", "in", "then", "until",
    "while", "\x7b", "\x7d"]

/-- The names of commands that no function can take. -/
def specialNames : List String :=
  [":", ".", "break", "continue", "eval", "exec", "exit", "export", "local", "readonly", "return",
    "set", "shift", "times", "trap", "unset"]

def isSpecialName (name : List Char) : Bool := specialNames.contains (String.ofList name)

end GridKeeper.Job.Script

import GridKeeper.Files

/-!
# Patterns

A pattern stands for many texts. A star stands for any text, a question mark for any character, and
a bracket for the characters in it; where they are quoted they stand for themselves. Patterns are
matched against texts and against the names of files.
-/
namespace GridKeeper.Job

/-- A pattern: its characters, and whether each of them may have a meaning of its own. -/
abbrev Pattern := List (Char × Bool)

namespace Pattern

/-! ## Items -/

inductive Item where
  | one (c : Char)
  | any
  | many
  | set (negated : Bool) (members : List (Char → Bool))

def classes : List (String × (Char → Bool)) :=
  [("alnum", Char.isAlphanum), ("alpha", Char.isAlpha), ("blank", fun c => c = ' ' || c = '\t'),
    ("cntrl", fun c => c.toNat < 32 || c.toNat = 127), ("digit", Char.isDigit),
    ("graph", fun c => 32 < c.toNat && c.toNat < 127), ("lower", Char.isLower),
    ("print", fun c => 32 ≤ c.toNat && c.toNat < 127),
    ("punct", fun c => 32 < c.toNat && c.toNat < 127 && !c.isAlphanum),
    ("space", fun c => c = ' ' || (9 ≤ c.toNat && c.toNat ≤ 13)), ("upper", Char.isUpper),
    ("xdigit", fun c => c.isDigit || ('a' ≤ c && c ≤ 'f') || ('A' ≤ c && c ≤ 'F'))]

/-- The class whose name stands between colons at the front of a bracket, and what is left. -/
def class? (p : Pattern) : Option ((Char → Bool) × Pattern) :=
  let name := p.takeWhile (·.1 ≠ ':')
  match p.drop name.length with
  | (':', _) :: (']', _) :: rest =>
    (classes.lookup (String.ofList (name.map Prod.fst))).map fun holds => (holds, rest)
  | _ => none

/-- The members of a bracket of at most `n` characters, and what stands behind it; a bracket that is
not closed is none. -/
def members? (isFirst : Bool) : Nat → Pattern → Option (List (Char → Bool) × Pattern)
  | 0, _ | _, [] => none
  | n + 1, (c, active) :: rest =>
    if c = ']' ∧ active ∧ !isFirst then some ([], rest)
    else
      let (holds, rest) := match c, rest with
        | '[', (':', _) :: inner =>
          match class? inner with
          | some found => found
          | none => ((· = '['), rest)
        | _, ('-', true) :: (d, isOpen) :: behind =>
          if d = ']' ∧ isOpen then ((· = c), rest) else (fun x => c ≤ x && x ≤ d, behind)
        | _, _ => ((· = c), rest)
      (members? false n rest).map fun (hs, rest) => (holds :: hs, rest)

/-- The items of a pattern of at most `n` characters. -/
def items : Nat → Pattern → List Item
  | 0, _ | _, [] => []
  | n + 1, (c, active) :: rest =>
    if !active then .one c :: items n rest
    else if c = '*' then .many :: items n rest
    else if c = '?' then .any :: items n rest
    else if c = '[' then
      let negated := rest.head? = some ('!', true)
      match members? true (n + 1) (if negated then rest.drop 1 else rest) with
      | some (members, rest) => .set negated members :: items n rest
      | none => .one c :: items n rest
    else .one c :: items n rest

/-- Whether items stand for a text. -/
def Item.accept : List Item → List Char → Bool
  | [], cs => cs.isEmpty
  | many :: rest, [] => accept rest []
  | many :: rest, c :: cs => accept rest (c :: cs) || accept (many :: rest) cs
  | _ :: _, [] => false
  | one d :: rest, c :: cs => c = d && accept rest cs
  | any :: rest, _ :: cs => accept rest cs
  | set negated members :: rest, c :: cs => (members.any (· c) != negated) && accept rest cs
termination_by items cs => items.length + cs.length

def accepts (p : Pattern) (cs : List Char) : Bool := Item.accept (items p.length p) cs

def text (p : Pattern) : List Char := p.map Prod.fst

/-- Whether a pattern can stand for more than its own characters. -/
def isOpen (p : Pattern) : Bool := p.any fun c => c.2 && ['*', '?', '['].contains c.1

/-! ## Cutting -/

/-- A text without a front that a pattern stands for, the longest or the shortest there is. -/
def cutFront (p : Pattern) (longest : Bool) (cs : List Char) : List Char :=
  let lengths := List.range (cs.length + 1)
  let lengths := if longest then lengths.reverse else lengths
  match lengths.find? fun n => p.accepts (cs.take n) with
  | some n => cs.drop n
  | none => cs

/-- A text without a back that a pattern stands for, the longest or the shortest there is. -/
def cutBack (p : Pattern) (longest : Bool) (cs : List Char) : List Char :=
  let lengths := List.range (cs.length + 1)
  let lengths := if longest then lengths else lengths.reverse
  match lengths.find? fun n => p.accepts (cs.drop n) with
  | some n => cs.take n
  | none => cs

/-! ## Names of files -/

def pieces : Pattern → List Pattern
  | [] => [[]]
  | c :: rest =>
    if c.1 = '/' then [] :: pieces rest
    else match pieces rest with
      | [] => [[c]]
      | first :: others => (c :: first) :: others

/-- The names in a directory that a piece of a pattern stands for, in order. A name that begins with
a point is meant only where the point is written. -/
def namesIn (fs : Files) (directory : List Char) (p : Pattern) : List (List Char) :=
  let path := String.ofList (if directory.isEmpty then ['.'] else directory)
  let names := ((fs.directory? path).map fs.namesIn).getD []
  ((names.filter fun name => p.accepts name.toList &&
    (name.toList.head? ≠ some '.' || p.head?.map Prod.fst = some '.')).mergeSort
      fun a b => a ≤ b).map String.toList

/-- Goes on from some paths to those that further pieces of a pattern stand for. -/
def continued (fs : Files) (paths : List (List Char)) : List Pattern → List (List Char)
  | [] => paths
  | p :: rest =>
    let paths := paths.flatMap fun path =>
      if p.isOpen then (namesIn fs path p).map (path ++ ·) else [path ++ p.text]
    continued fs (if rest.isEmpty then paths else paths.map (· ++ ['/'])) rest

/-- The paths of the files that a pattern stands for; without one the pattern is a text. -/
def paths (fs : Files) (p : Pattern) : List (List Char) :=
  if !p.isOpen then [p.text]
  else
    let found := (continued fs [[]] p.pieces).filter fun path =>
      (fs.find (String.ofList path)).toOption.isSome
    if found.isEmpty then [p.text] else found

end Pattern
end GridKeeper.Job

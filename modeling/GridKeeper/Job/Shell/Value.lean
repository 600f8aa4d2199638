import GridKeeper.Job.Program
import GridKeeper.Job.Shell.Field
import GridKeeper.Job.Shell.Session

/-!
# Values in words

What parameters stand for in words, and what shells know from the start.
-/
namespace GridKeeper.Job.Shell

open Script (Part)

def valueGlyphs (name : List Char) (quoted : Bool) : Sh (List Glyph) := do
  let k ← scope
  if name = ['*'] ∧ quoted then
    let separator := match k.values.lookup "IFS".toList with
      | none => [' ']
      | some cs => cs.take 1
    return Glyph.ofText (k.args.intersperse separator).flatten true
  else if name = ['@'] ∨ name = ['*'] then
    return ((k.args.map fun arg => Glyph.ofText arg quoted).intersperse [.border]).flatten
  else match k.value? name with
    | some value => return Glyph.ofText value quoted
    | none =>
      if ← hasOption 'u' then abort (name ++ octets ": parameter not set")
      else return Glyph.ofText [] quoted

/-- The value of a parameter as one text, if it has one. -/
def wholeValue? (k : Scope) (name : List Char) : Option (List Char) :=
  if name = ['@'] ∨ name = ['*'] then
    if k.args.isEmpty then none else some (Program.spaced k.args)
  else k.value? name

/-- Whether a part stands for all arguments, in quotes. -/
def isAllArguments : Part → Bool
  | .value name true => name = ['@']
  | _ => false

def withoutEnds (cs : List Char) : List Char := (cs.reverse.dropWhile (· = '\n')).reverse

/-- The directories in which programs are looked for, as a text. -/
def usualPath : List Char := octets (Text.joined ":" Files.programDirectories)

/-- The parameters that have a value in every shell if the environment gives them no other one. -/
def initial : List (List Char × List Char) :=
  [("IFS".toList, blanks), ("PATH".toList, usualPath)]

end GridKeeper.Job.Shell

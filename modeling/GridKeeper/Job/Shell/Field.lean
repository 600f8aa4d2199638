import GridKeeper.Job.Pattern

/-!
# Fields

A word is expanded to glyphs, and the glyphs are cut into fields. Only what came from a value
outside of quotes is cut; quotes keep a field even if there is nothing in it.
-/
namespace GridKeeper.Job.Shell

/-- Where a character of an expanded word comes from. -/
inductive Origin where
  | written
  | quoted
  | found
deriving Repr, DecidableEq

inductive Glyph where
  | char (c : Char) (origin : Origin)
  /-- The place between two arguments that stand for one parameter. -/
  | border
  | mark
deriving Repr, DecidableEq

namespace Glyph

def ofText (cs : List Char) (quoted : Bool) : List Glyph :=
  if quoted then mark :: cs.map (char · .quoted) else cs.map (char · .found)

/-- A glyph as it is in the place of a value outside of quotes. -/
def asFound : Glyph → Glyph
  | char c .written => char c .found
  | g => g

def text : List Glyph → List Char
  | [] => []
  | char c _ :: rest => c :: text rest
  | border :: rest => ' ' :: text rest
  | mark :: rest => text rest

def pattern : List Glyph → Pattern
  | [] => []
  | char c origin :: rest => (c, origin ≠ .quoted) :: pattern rest
  | border :: rest => (' ', false) :: pattern rest
  | mark :: rest => pattern rest

end Glyph

/-! ## Cutting -/

structure Cutting where
  done : List Pattern := []
  field : Option Pattern := none
  /-- Whether the last cut was at a blank, so that a separator still belongs to it. -/
  atBlank : Bool := false

namespace Cutting

/-- Ends the field that has begun. -/
def close (k : Cutting) : Cutting :=
  match k.field with
  | some f => { k with done := k.done ++ [f], field := none }
  | none => k

def add (k : Cutting) (p : Pattern) : Cutting :=
  { k with field := some (k.field.getD [] ++ p), atBlank := false }

/-- Takes a glyph. Blanks among the separators count as one; each of the others ends a field. -/
def step (separators : List Char) (k : Cutting) : Glyph → Cutting
  | .mark => k.add []
  | .border => { k.close with atBlank := false }
  | .char c .found =>
    if !separators.contains c then k.add [(c, true)]
    else if c = ' ' ∨ c = '\t' ∨ c = '\n' then
      { k.close with atBlank := k.field.isSome || k.atBlank }
    else if k.field.isNone ∧ k.atBlank then { k with atBlank := false }
    else { (k.add []).close with atBlank := false }
  | .char c origin => k.add [(c, origin = .written)]

end Cutting

def fields (separators : List Char) (gs : List Glyph) : List Pattern :=
  (gs.foldl (Cutting.step separators) {}).close.done

end GridKeeper.Job.Shell

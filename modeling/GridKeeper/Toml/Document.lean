import GridKeeper.Toml.Expression
import GridKeeper.Toml.Tagged

/-!
# TOML documents

A document is read line by line: headers begin tables, and the lines up to the next header fill
them. The table that is being filled is kept apart from the document until it is complete.
-/
namespace GridKeeper.Toml

structure Document where
  root : Draft
  current : Draft
  /-- Where it belongs; the root table has the empty path. -/
  path : List String
  /-- Whether it is one of several tables under the same header. -/
  oneOfMany : Bool

namespace Document

/-- A document of which nothing has been read. -/
def start : Document := ⟨.empty, .empty, [], false⟩

/-- Puts the table that is being filled into its parent. -/
def settle (d : Document) (key : String) (parent : Draft) : Option (Unit × Draft) :=
  if d.oneOfMany then
    match parent.find? key with
    | none => some ((), parent.put key (.tables [d.current]))
    | some (.tables ts) => some ((), parent.put key (.tables (ts ++ [d.current])))
    | some _ => none
  else some ((), parent.put key (.table d.current))

/-- Puts the table that is being filled into the document. -/
def finish (d : Document) : Option Draft :=
  match d.path.getLast? with
  | none => some d.current
  | some key => (d.root.visit false (d.settle key) d.path.dropLast).map Prod.snd

/-- Takes a table out of its parent in order to fill it: it must be new, or only longer headers may
have passed through it. -/
def take (key : String) (parent : Draft) : Option (Draft × Draft) :=
  match parent.find? key with
  | none => some (.empty, parent)
  | some (.table t) => if t.implicit && !t.dotted then some (t.headed, parent.erase key) else none
  | some _ => none

/-- Makes sure that a header may begin one more of several tables. -/
def takeOne (key : String) (parent : Draft) : Option (Draft × Draft) :=
  match parent.find? key with
  | none | some (.tables _) => some (.empty, parent)
  | some _ => none

/-- Begins a table, or one of several. -/
def header (d : Document) (path : List String) (oneOfMany : Bool) : Option Document := do
  let key ← path.getLast?
  let root ← d.finish
  let change := if oneOfMany then takeOne key else take key
  let (current, root) ← root.visit false change path.dropLast
  return ⟨root, current, path, oneOfMany⟩

def add (d : Document) (key : List String) (v : Value) : Option Document :=
  (d.current.add key v).map fun t => { d with current := t }

/-! ## Lines -/

/-- Takes the end of a line: blanks, a comment, and a line break or the end of the text. -/
def lineEnd? : Text.Scan Unit := fun cs =>
  match dropComment (dropSpace cs) with
  | [] => some ((), [])
  | '\n' :: rest => some ((), rest)
  | '\r' :: '\n' :: rest => some ((), rest)
  | _ => none

/-- Takes one line, from its first character that is not blank. -/
def line? (d : Document) : Text.Scan Document := fun cs =>
  match cs with
  | '[' :: '[' :: rest => do
    let (path, rest) ← key? rest
    let (_, rest) ← Text.char? ']' rest
    let (_, rest) ← Text.char? ']' rest
    let (_, rest) ← lineEnd? rest
    let d ← d.header path true
    return (d, rest)
  | '[' :: rest => do
    let (path, rest) ← key? rest
    let (_, rest) ← Text.char? ']' rest
    let (_, rest) ← lineEnd? rest
    let d ← d.header path false
    return (d, rest)
  | _ =>
    match lineEnd? cs with
    | some (_, rest) => some (d, rest)
    | none => do
      let ((key, v), rest) ← keyValue? (value? (nestingLimit - 1)) cs
      let (_, rest) ← lineEnd? rest
      let d ← d.add key v
      return (d, rest)

/-- Takes lines up to the end of the text. -/
def lines? (d : Document) (cs : List Char) : Option Document :=
  match dropSpace cs with
  | [] => some d
  | c :: cs' =>
    match d.line? (c :: cs') with
    | some (d, rest) => if rest.length < cs.length then lines? d rest else none
    | none => none
termination_by cs.length

end Document

/-- The value of a document: its root table, or the moment that this stands for. A byte order mark
at the front does not count. -/
def parse? (cs : List Char) : Option Value :=
  let cs := match cs with
    | '\ufeff' :: rest => rest
    | _ => cs
  ((Document.start.lines? cs).bind Document.finish).bind fun root =>
    (Value.table root.entries).resolved?

end GridKeeper.Toml

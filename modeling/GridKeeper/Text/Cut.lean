/-!
# Cutting texts

Cuts at the first or last separator, pieces between separators, and lines.
-/
namespace GridKeeper.Text

/-- The text behind `lead`, if it begins with `lead`. -/
def behind? : List Char → List Char → Option (List Char)
  | [], cs => some cs
  | _ :: _, [] => none
  | a :: lead, c :: cs => if a = c then behind? lead cs else none

/-- The parts before and behind the first occurrence of `sep`. -/
def cutFirst? (sep : List Char) : List Char → Option (List Char × List Char)
  | [] => (behind? sep []).map fun rest => ([], rest)
  | c :: cs =>
    match behind? sep (c :: cs) with
    | some rest => some ([], rest)
    | none => (cutFirst? sep cs).map fun p => (c :: p.1, p.2)

/-- The parts before and behind the last occurrence of the character `sep`. -/
def cutLast? (sep : Char) : List Char → Option (List Char × List Char)
  | [] => none
  | c :: cs =>
    match cutLast? sep cs with
    | some (before, after) => some (c :: before, after)
    | none => if c = sep then some ([], cs) else none

/-- The pieces of a text between occurrences of the character `sep`; there is at least one. -/
def pieces (sep : Char) : List Char → List (List Char)
  | [] => [[]]
  | c :: cs =>
    if c = sep then [] :: pieces sep cs
    else match pieces sep cs with
      | [] => [[c]]
      | first :: rest => (c :: first) :: rest

/-- One pass over a text looking for `sep`: `skip` characters still belong to the separator
just found, and `piece` holds the characters since then in reverse. -/
def piecesFrom (sep : List Char) : Nat → List Char → List Char → List (List Char)
  | _, piece, [] => [piece.reverse]
  | skip + 1, piece, _ :: cs => piecesFrom sep skip piece cs
  | 0, piece, c :: cs =>
    match behind? sep (c :: cs) with
    | some _ => piece.reverse :: piecesFrom sep (sep.length - 1) [] cs
    | none => piecesFrom sep 0 (c :: piece) cs

/-- The pieces of a text between occurrences of the nonempty text `sep`, found from the left. -/
def piecesOf (sep cs : List Char) : List (List Char) := piecesFrom sep 0 [] cs

/-- Without one carriage return at the end. -/
def dropReturn (cs : List Char) : List Char :=
  if cs.getLast? = some '\r' then cs.dropLast else cs

/-- Lines from the pieces between line feeds: only the last piece has no line feed behind it, and
it counts if it is not empty. -/
def linesOfPieces : List (List Char) → List (List Char)
  | [] => []
  | [last] => if last.isEmpty then [] else [last]
  | piece :: rest => dropReturn piece :: linesOfPieces rest

/-- The lines of a text: each ends behind a line feed, which is dropped together with one carriage
return before it; a last line without a line feed counts if it is not empty. -/
def lines (cs : List Char) : List (List Char) := linesOfPieces (pieces '\n' cs)

/-- The texts one after the other with `sep` between neighbours. -/
def joined (sep : String) : List String → String
  | [] => ""
  | [s] => s
  | s :: rest => s ++ sep ++ joined sep rest

end GridKeeper.Text

import GridKeeper.Toml.Draft
import GridKeeper.Toml.Moment
import GridKeeper.Toml.Number
import GridKeeper.Toml.Quoted

/-!
# Keys and values in TOML

A key is bare or quoted, and keys can be joined by dots. A value is a string, a number, a moment, a
truth value, an array or an inline table. Arrays can run over several lines and hold comments;
inline tables stand on one line. Arrays and inline tables nest less than eighty deep, and fewer than
eighty keys can be joined.
-/
namespace GridKeeper.Toml

/-- Values nest less deep than this, and keys have fewer parts than this. -/
def nestingLimit : Nat := 80

/-- Drops blanks within the line. -/
def dropSpace (cs : List Char) : List Char := cs.dropWhile isSpace

/-- Drops a comment at the front up to the end of its line, or up to a character that no comment may
hold. -/
def dropComment : List Char → List Char
  | '#' :: rest => rest.dropWhile isPrintable
  | cs => cs

/-- Drops blanks, line breaks and comments. -/
def dropLayout (commented : Bool) : List Char → List Char
  | [] => []
  | '\n' :: rest => dropLayout false rest
  | '\r' :: '\n' :: rest => dropLayout false rest
  | c :: rest =>
    if commented then (if isPrintable c then dropLayout true rest else c :: rest)
    else if isSpace c then dropLayout false rest
    else if c = '#' then dropLayout true rest
    else c :: rest

/-! ## Keys -/

def isKeyChar (c : Char) : Bool := c.isAlphanum || c = '-' || c = '_'

def keyPart? : Text.Scan String := fun cs =>
  let cs := dropSpace cs
  (match cs.takeWhile isKeyChar with
    | [] => shortString? cs
    | bare => some (String.ofList bare, cs.dropWhile isKeyChar)).map fun (k, rest) =>
      (k, dropSpace rest)

def key? : Text.Scan (List String) := fun cs =>
  (Text.separated? keyPart? '.' cs).filter fun (parts, _) => parts.length < nestingLimit

/-! ## Values -/

def word? (word : String) (v : Value) : Text.Scan Value := fun cs =>
  if word.toList.isPrefixOf cs then some (v, cs.drop word.length) else none

/-- Takes a moment or a number. -/
def numeric? : Text.Scan Value := fun cs =>
  match moment? .written cs with
  | some (m, rest) => some (.dateTime m, rest)
  | none =>
    match float? cs with
    | some (x, rest) => some (.float x, rest)
    | none => (integer? cs).map fun (i, rest) => (.integer i, rest)

/-- Takes a key, an equals sign and a value with the blanks around it. -/
def keyValue? (item : Text.Scan Value) : Text.Scan (List String × Value) := fun cs => do
  let (key, cs) ← key? cs
  let (_, cs) ← Text.char? '=' cs
  let (v, cs) ← item (dropSpace cs)
  return ((key, v), dropSpace cs)

def inlineTable? (pairs : List (List String × Value)) : Option Value :=
  (pairs.foldlM (fun (t : Draft) (pair : List String × Value) => t.add pair.1 pair.2)
    Draft.empty).map fun t => .table t.entries

/-- Takes the rest of an array. The last item may be followed by a comma. -/
def arrayRest? (item : Text.Scan Value) : Text.Scan Value := fun cs =>
  let padded : Text.Scan Value := fun cs =>
    (item (dropLayout false cs)).map fun (v, rest) => (v, dropLayout false rest)
  let (items, rest) := match Text.separated? padded ',' cs with
    | some (items, ',' :: rest) => (items, rest)
    | some found => found
    | none => ([], cs)
  (Text.char? ']' (dropLayout false rest)).map fun (_, rest) => (.array items, rest)

def inlineRest? (item : Text.Scan Value) : Text.Scan Value := fun cs => do
  let (pairs, rest) := (Text.separated? (keyValue? item) ',' cs).getD ([], cs)
  let (_, rest) ← Text.char? '\x7d' (dropSpace rest)
  let t ← inlineTable? pairs
  return (t, rest)

/-- Takes a value that nests at most `depth` deep. -/
def value? : Nat → Text.Scan Value
  | depth, cs =>
    match cs with
    | [] => none
    | c :: rest =>
      if c = '"' ∨ c = '\'' then (string? cs).map fun (s, rest) => (.text s, rest)
      else if c = '[' then
        match depth with
        | 0 => none
        | depth + 1 => arrayRest? (value? depth) rest
      else if c = '\x7b' then
        match depth with
        | 0 => none
        | depth + 1 => inlineRest? (value? depth) rest
      else if c = 't' then word? "true" (.boolean true) cs
      else if c = 'f' then word? "false" (.boolean false) cs
      else numeric? cs

end GridKeeper.Toml

import GridKeeper.Text.Numeral
import GridKeeper.Text.Scan

/-!
# Strings in TOML

Basic strings stand in double quotes and know escapes, literal strings stand in single quotes and
know none. Either kind can run over several lines between tripled quotes; then a line break right
behind the opening quotes does not count, line breaks are single line feeds, and one or two more
quotes may stand before the closing ones. In a basic string a backslash at the end of a line hides
the line break and all blanks and line breaks after it.
-/
namespace GridKeeper.Toml

/-- Blanks within a line. -/
def isSpace (c : Char) : Bool := c = ' ' || c = '\t'

/-- Characters that may stand in a text within a line: no control characters but the tab. -/
def isPrintable (c : Char) : Bool := c = '\t' || (' ' ≤ c && c ≠ '\x7f')

def dropBreak : List Char → List Char
  | '\n' :: rest => rest
  | '\r' :: '\n' :: rest => rest
  | cs => cs

/-- Whether only blanks stand before the next line break. -/
def endsLine (cs : List Char) : Bool :=
  match cs.dropWhile isSpace with
  | '\n' :: _ => true
  | '\r' :: '\n' :: _ => true
  | _ => false

/-- The character that a single letter stands for behind a backslash. -/
def escaped? : Char → Option Char
  | 'b' => some '\x08'
  | 't' => some '\t'
  | 'n' => some '\n'
  | 'f' => some '\x0c'
  | 'r' => some '\r'
  | '"' => some '"'
  | '\\' => some '\\'
  | _ => none

def codePoint? (digits : List Char) : Option Char :=
  (Text.readBase? 16 digits).bind fun n =>
    if h : n.isValidChar then some (Char.ofNatAux n h) else none

def adding (c : Option Char) (rest : Option (List Char × List Char)) :
    Option (List Char × List Char) :=
  match c, rest with
  | some c, some (cs, rest) => some (c :: cs, rest)
  | _, _ => none

def basicRest : List Char → Option (List Char × List Char)
  | '"' :: rest => some ([], rest)
  | '\\' :: 'u' :: a :: b :: c :: d :: rest => adding (codePoint? [a, b, c, d]) (basicRest rest)
  | '\\' :: 'U' :: a :: b :: c :: d :: e :: f :: g :: h :: rest =>
    adding (codePoint? [a, b, c, d, e, f, g, h]) (basicRest rest)
  | '\\' :: c :: rest => adding (escaped? c) (basicRest rest)
  | c :: rest => if isPrintable c then adding (some c) (basicRest rest) else none
  | [] => none

def literalRest : List Char → Option (List Char × List Char)
  | '\'' :: rest => some ([], rest)
  | c :: rest => if isPrintable c then adding (some c) (literalRest rest) else none
  | [] => none

/-- What a run of quotes at the front closes: with three to five of them the text ends, and those
before the last three belong to it. -/
def closing? (quote : Char) (cs : List Char) : Option (List Char × List Char) :=
  let run := (cs.takeWhile (· = quote)).length
  if 3 ≤ run ∧ run ≤ 5 then some (List.replicate (run - 3) quote, cs.drop run) else none

/-- The rest of a basic string over several lines. While `folding`, blanks and line breaks are
dropped. -/
def basicLines (folding : Bool) : List Char → Option (List Char × List Char)
  | [] => none
  | '\n' :: rest =>
    if folding then basicLines true rest else adding (some '\n') (basicLines false rest)
  | '\r' :: '\n' :: rest =>
    if folding then basicLines true rest else adding (some '\n') (basicLines false rest)
  | '"' :: '"' :: '"' :: rest => closing? '"' ('"' :: '"' :: '"' :: rest)
  | '\\' :: 'u' :: a :: b :: c :: d :: rest =>
    adding (codePoint? [a, b, c, d]) (basicLines false rest)
  | '\\' :: 'U' :: a :: b :: c :: d :: e :: f :: g :: h :: rest =>
    adding (codePoint? [a, b, c, d, e, f, g, h]) (basicLines false rest)
  | '\\' :: c :: rest =>
    if endsLine (c :: rest) then basicLines true (c :: rest)
    else adding (escaped? c) (basicLines false rest)
  | c :: rest =>
    if folding && isSpace c then basicLines true rest
    else if isPrintable c then adding (some c) (basicLines false rest) else none

/-- The rest of a literal string over several lines. -/
def literalLines : List Char → Option (List Char × List Char)
  | [] => none
  | '\n' :: rest => adding (some '\n') (literalLines rest)
  | '\r' :: '\n' :: rest => adding (some '\n') (literalLines rest)
  | '\'' :: '\'' :: '\'' :: rest => closing? '\'' ('\'' :: '\'' :: '\'' :: rest)
  | c :: rest => if isPrintable c then adding (some c) (literalLines rest) else none

/-- A string on one line, as keys may be. -/
def shortString? : Text.Scan String := fun cs =>
  (match cs with
    | '"' :: rest => basicRest rest
    | '\'' :: rest => literalRest rest
    | _ => none).map fun (s, rest) => (String.ofList s, rest)

def string? : Text.Scan String := fun cs =>
  match cs with
  | '"' :: '"' :: '"' :: rest =>
    (basicLines false (dropBreak rest)).map fun (s, rest) => (String.ofList s, rest)
  | '\'' :: '\'' :: '\'' :: rest =>
    (literalLines (dropBreak rest)).map fun (s, rest) => (String.ofList s, rest)
  | _ => shortString? cs

end GridKeeper.Toml

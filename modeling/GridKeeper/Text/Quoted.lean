import GridKeeper.Text.Numeral
import GridKeeper.Text.Visible

/-!
# Quoted texts in messages

A text that came from outside is quoted in a message so that every character of it can be told:
quotes stand around it, the quote, the backslash and the usual control characters are escaped by
a letter, and every other character that would not be visible is given by its code point.
-/
namespace GridKeeper.Text

def quoteChar (c : Char) : List Char :=
  match c with
  | '\x00' => ['\\', '0']
  | '\t' => ['\\', 't']
  | '\r' => ['\\', 'r']
  | '\n' => ['\\', 'n']
  | '"' => ['\\', '"']
  | '\\' => ['\\', '\\']
  | _ => if isVisible c then [c] else ['\\', 'u', '\x7b'] ++ hex c.toNat ++ ['\x7d']

/-- A text in quotes, with every hidden character escaped. -/
def quoted (s : String) : String :=
  String.ofList ('"' :: s.toList.flatMap quoteChar ++ ['"'])

end GridKeeper.Text

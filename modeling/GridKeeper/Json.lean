import GridKeeper.Text.Cut
import GridKeeper.Text.Numeral

/-!
# JSON

Values of JSON and their text over several lines, indented by two blanks.
-/
namespace GridKeeper

inductive Json where
  | null
  | boolean (b : Bool)
  /-- The number `mantissa / 10 ^ scale`; a whole number is written with the scale zero. -/
  | number (mantissa : Int) (scale : Nat)
  | text (s : String)
  | array (items : List Json)
  | object (entries : List (String × Json))
deriving Repr, Inhabited

namespace Json

def ofNat (n : Nat) : Json := number n 0

def ofOption {α : Type} (f : α → Json) : Option α → Json
  | some a => f a
  | none => null

/-- One character of a string. Only quotes, backslashes and control characters are escaped. -/
def escape (c : Char) : List Char :=
  match c with
  | '"' => ['\\', '"']
  | '\\' => ['\\', '\\']
  | '\x08' => ['\\', 'b']
  | '\t' => ['\\', 't']
  | '\n' => ['\\', 'n']
  | '\x0c' => ['\\', 'f']
  | '\r' => ['\\', 'r']
  | _ =>
    if c.toNat < 0x20 then
      let digits := Text.hex c.toNat
      ['\\', 'u'] ++ List.replicate (4 - digits.length) '0' ++ digits
    else [c]

def quote (s : String) : String := String.ofList ('"' :: s.toList.flatMap escape ++ ['"'])

def numeral (mantissa : Int) (scale : Nat) : String :=
  if scale = 0 then toString mantissa
  else
    let unit := Nat.pow 10 scale
    (if mantissa < 0 then "-" else "") ++ toString (mantissa.natAbs / unit) ++ "." ++
      Text.padded scale (mantissa.natAbs % unit)

/-- The start of a line at the given depth. -/
def margin (depth : Nat) : String := "\n" ++ String.ofList (List.replicate (2 * depth) ' ')

/-- Parts on lines of their own between brackets; without parts, the brackets stand together. -/
def bracketed (opening closing : String) (depth : Nat) (parts : List String) : String :=
  if parts.isEmpty then opening ++ closing
  else
    opening ++ Text.joined "," (parts.map (margin (depth + 1) ++ ·)) ++ margin depth ++ closing

mutual

/-- The text of a value that begins at the given depth. -/
def render (depth : Nat) : Json → String
  | null => "null"
  | boolean b => toString b
  | number mantissa scale => numeral mantissa scale
  | text s => quote s
  | array items => bracketed "[" "]" depth (renderItems (depth + 1) items)
  | object entries => bracketed "\x7b" "\x7d" depth (renderEntries (depth + 1) entries)

def renderItems (depth : Nat) : List Json → List String
  | [] => []
  | v :: rest => render depth v :: renderItems depth rest

def renderEntries (depth : Nat) : List (String × Json) → List String
  | [] => []
  | (name, v) :: rest => (quote name ++ ": " ++ render depth v) :: renderEntries depth rest

end

/-- The text of a value over several lines. -/
def pretty (v : Json) : String := render 0 v

end Json
end GridKeeper

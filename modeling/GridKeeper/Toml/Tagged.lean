import GridKeeper.Toml.Moment
import GridKeeper.Toml.Value

/-!
# Tables that stand for a moment

A date or a time can also be given as a table: one that begins with a key set aside for it, under
which stands the moment as a text. Whatever else is in such a table does not count.
-/
namespace GridKeeper.Toml

def momentKey : String := "$__toml_private_datetime"

namespace Value

mutual

/-- The value with moments in place of the tables that stand for them; `none` if such a table gives
no moment. -/
def resolved? : Value → Option Value
  | array items => (resolvedItems? items).map array
  | table [] => some (table [])
  | table ((key, v) :: rest) =>
    if key = momentKey then
      match v with
      | text s => (momentText? s).map dateTime
      | _ => none
    else do
      let v ← resolved? v
      let rest ← resolvedEntries? rest
      return table ((key, v) :: rest)
  | v => some v

/-- The items with moments in place. -/
def resolvedItems? : List Value → Option (List Value)
  | [] => some []
  | v :: rest => do
    let v ← resolved? v
    let rest ← resolvedItems? rest
    return v :: rest

/-- The entries with moments in place. -/
def resolvedEntries? : List (String × Value) → Option (List (String × Value))
  | [] => some []
  | (key, v) :: rest => do
    let v ← resolved? v
    let rest ← resolvedEntries? rest
    return (key, v) :: rest

end

end Value
end GridKeeper.Toml

import GridKeeper.Double
import GridKeeper.Text.Lowercase
import GridKeeper.Toml.Value

/-!
# Values of settings

Settings come from several sources and are laid over one another before anything is made of them. A
value remembers where it came from, so that a fault can name its place. Names are kept in lower
case.
-/
namespace GridKeeper.Settings

inductive Atom where
  /-- Nothing: a place in an array that was left open. -/
  | nothing
  | boolean (b : Bool)
  | integer (i : Int)
  | float (x : Double)
  | text (s : String)
deriving Repr, DecidableEq

/-- A value with the source it came from. -/
inductive Value where
  | atom (origin : Option String) (a : Atom)
  | array (origin : Option String) (items : List Value)
  | table (origin : Option String) (entries : List (String × Value))
deriving Repr

namespace Value

/-- The source that a value came from. -/
def origin : Value → Option String
  | atom o _ | array o _ | table o _ => o

/-- A table without entries, from no source. -/
def emptyTable : Value := table none []

/-- An array without items, from no source. -/
def emptyArray : Value := array none []

def nothing : Value := atom none .nothing

mutual

/-- A TOML value that came from the given source. Dates and times are taken as texts. -/
def ofToml (origin : String) : Toml.Value → Value
  | .text s => atom (some origin) (.text s)
  | .integer i => atom (some origin) (.integer i)
  | .float x => atom (some origin) (.float x)
  | .boolean b => atom (some origin) (.boolean b)
  | .dateTime s => atom (some origin) (.text s)
  | .array items => array (some origin) (itemsOfToml origin items)
  | .table entries => table (some origin) (entriesOfToml origin entries)

def itemsOfToml (origin : String) : List Toml.Value → List Value
  | [] => []
  | v :: rest => ofToml origin v :: itemsOfToml origin rest

def entriesOfToml (origin : String) : List (String × Toml.Value) → List (String × Value)
  | [] => []
  | (name, v) :: rest => (name, ofToml origin v) :: entriesOfToml origin rest

end

/-! ## Laying values over one another -/

/-- The entries of a table; anything else gives way to an empty table. -/
def entriesOf : Value → List (String × Value)
  | table _ entries => entries
  | _ => []

/-- The items of an array; anything else gives way to an empty array. -/
def itemsOf : Value → List Value
  | array _ items => items
  | _ => []

/-- The value with other entries, a table in any case. -/
def withEntries : Value → List (String × Value) → Value
  | table o _, entries => table o entries
  | _, entries => table none entries

/-- The value with other items, an array in any case. -/
def withItems : Value → List Value → Value
  | array o _, items => array o items
  | _, items => array none items

def place (name : String) (v : Value) : List (String × Value) → List (String × Value)
  | [] => [(name, v)]
  | (n, w) :: rest => if n = name then (name, v) :: rest else (n, w) :: place name v rest

def get? (v : Value) (name : String) : Option Value := v.entriesOf.lookup name

/-- The value with another one under a name. -/
def put (v : Value) (name : String) (w : Value) : Value :=
  v.withEntries (place name w v.entriesOf)

mutual

/-- Lays a value over what stands under a name. A table is laid over it entry by entry; anything
else replaces it. -/
def lay (target : Value) (name : String) : Value → Value
  | table _ entries =>
    let name := Text.lowercase name
    target.put name (layAll ((target.get? name).getD emptyTable) entries)
  | v => target.put (Text.lowercase name) v

def layAll (target : Value) : List (String × Value) → Value
  | [] => target
  | (name, v) :: rest => layAll (lay target name v) rest

end

end Value
end GridKeeper.Settings

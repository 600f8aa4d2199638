import GridKeeper.Double.Decimal
import GridKeeper.Settings.Fields
import GridKeeper.Settings.Value
import GridKeeper.Text.Numeral
import GridKeeper.Text.Quoted

/-!
# Making settings of values

Settings are made leniently: numbers, truth values and texts stand in for one another where that has
a meaning. A section may be given by names or as an array in the order of its fields; what is not
given stays as it usually is, and what is not known is ignored. A fault names what was found, what
was expected, the place of it from the root, and the source. A section, a list or a kind of lock
that is something else altogether has no place and no source in its fault.
-/
namespace GridKeeper.Settings

/-- Why no setting can be made of a value. -/
inductive Misfit where
  /-- The value is of the wrong kind; `place` leads to it from the value that was looked at. -/
  | kind (found expected place : String) (origin : Option String)
  | other (message : String)
deriving Repr, DecidableEq

namespace Misfit

def message : Misfit → String
  | kind found expected place origin =>
    s!"invalid type: {found}, expected {expected}" ++
      (if place.isEmpty then "" else s!" for key `{place}`") ++
      (match origin with
        | some source => s!" in {source}"
        | none => "")
  | other message => message

/-- The misfit as seen from the table in which the value stands under a name. -/
def inEntry (name : String) : Misfit → Misfit
  | kind found expected place origin =>
    let dot := if place.isEmpty || place.front = '[' then "" else "."
    kind found expected (name ++ dot ++ place) origin
  | m => m

/-- The misfit as seen from the array in which the value stands. -/
def inItem (i : Nat) : Misfit → Misfit := inEntry s!"[{i}]"

end Misfit

abbrev Made (α : Type) := Except Misfit α

namespace Value

/-! ## Single values -/

/-- What a value is, in words. -/
def kindText : Value → String
  | atom _ .nothing => "unit value"
  | atom _ (.boolean b) => s!"boolean `{b}`"
  | atom _ (.integer i) => s!"64-bit integer `{i}`"
  | atom _ (.float x) => s!"floating point `{x.toText}`"
  | atom _ (.text s) => "string " ++ Text.quoted s
  | array .. => "sequence"
  | table .. => "map"

/-- What a value is, in words, where a section or a list was expected. -/
def shapeText : Value → String
  | atom _ (.integer i) => s!"integer `{i}`"
  | atom _ (.float x) => s!"floating point `{x.toPointedText}`"
  | v => v.kindText

def misfit {α : Type} (v : Value) (expected : String) : Made α :=
  .error (.kind v.kindText expected "" v.origin)

def yesWords : List String := ["true", "on", "yes"]

def noWords : List String := ["false", "off", "no"]

def toNatural (v : Value) : Made Nat :=
  match v with
  | atom _ (.integer i) =>
    if 0 ≤ i then .ok i.toNat else v.misfit "an unsigned 64 bit or less integer"
  | atom _ (.boolean b) => .ok b.toNat
  | atom _ (.float x) => .ok (x.clampToNat Text.max64)
  | atom _ (.text s) =>
    let word := Text.lowercase s
    if yesWords.contains word then .ok 1
    else if noWords.contains word then .ok 0
    else match Text.readUnsigned? Text.max64 s.toList with
      | some n => .ok n
      | none => v.misfit "an integer"
  | _ => v.misfit "an integer"

def toUInt64 (v : Value) : Made UInt64 := v.toNatural.map UInt64.ofNat

def toUInt16 (v : Value) : Made UInt16 := do
  let n ← v.toNatural
  if n ≤ Text.max16 then .ok (UInt16.ofNat n)
  else .error (.kind s!"64-bit unsigned integer `{n}`" "an unsigned 16 bit integer" "" none)

def toBoolean (v : Value) : Made Bool :=
  match v with
  | atom _ (.boolean b) => .ok b
  | atom _ (.integer i) => .ok (i ≠ 0)
  | atom _ (.float x) => .ok x.isNonzero
  | atom o (.text s) =>
    let word := Text.lowercase s
    if word = "1" ∨ yesWords.contains word then .ok true
    else if word = "0" ∨ noWords.contains word then .ok false
    else (atom o (.text word)).misfit "a boolean"
  | _ => v.misfit "a boolean"

def toText (v : Value) : Made String :=
  match v with
  | atom _ (.text s) => .ok s
  | atom _ (.boolean b) => .ok (toString b)
  | atom _ (.integer i) => .ok (toString i)
  | atom _ (.float x) => .ok x.toText
  | _ => v.misfit "a string"

def toOptional {α : Type} (made : Value → Made α) : Value → Made (Option α)
  | atom _ .nothing => .ok none
  | v => (made v).map some

/-- A kind of lock: its word in any case, or a table whose only name is the word. -/
def toBackend (v : Value) : Made Lock.Backend :=
  let named := fun word => match Lock.Backend.named? (Text.lowercase word) with
    | some b => .ok b
    | none => .error (.other s!"enum LockBackend does not have variant constructor {word}")
  match v with
  | atom _ (.text s) => named s
  | table _ [(name, _)] => named name
  | _ =>
    let forms := "either string or table with exactly one key"
    .error (.other s!"value of enum LockBackend should be represented by {forms}")

/-! ## Lists and sections -/

/-- Makes something of every item, from position `i` on. -/
def toItems {α : Type} (made : Value → Made α) (i : Nat) : List Value → Made (List α)
  | [] => .ok []
  | v :: rest => do
    let a ← (made v).mapError (Misfit.inItem i)
    let as ← toItems made (i + 1) rest
    return a :: as

def toTexts (v : Value) : Made (List String) :=
  match v with
  | array _ items => toItems toText 0 items
  | _ => .error (.other s!"invalid type: {v.shapeText}, expected a sequence")

def fillEntries {σ : Type} (fields : Fields Value Misfit σ) (s : σ) :
    List (String × Value) → Made σ
  | [] => .ok s
  | (name, v) :: rest => do
    let s ← match fields.lookup name with
      | some fill => (fill s v).mapError (Misfit.inEntry name)
      | none => .ok s
    fillEntries fields s rest

/-- Fills fields in order, from position `i` on. -/
def fillItems {σ : Type} (s : σ) (i : Nat) :
    List (Filler Value Misfit σ) → List Value → Made σ
  | fill :: fields, v :: rest => do
    let s ← (fill s v).mapError (Misfit.inItem i)
    fillItems s (i + 1) fields rest
  | _, _ => .ok s

/-- A section with the given name and fields; `usual` is what it is if nothing is given. -/
def toSection {σ : Type} (title : String) (fields : Fields Value Misfit σ) (usual : σ)
    (v : Value) : Made σ :=
  match v with
  | table _ entries => fillEntries fields usual entries
  | array _ items => fillItems usual 0 (fields.map (·.2)) items
  | _ => .error (.other s!"invalid type: {v.shapeText}, expected struct {title}")

def reading : Reading Value Misfit where
  text := toText
  texts := toTexts
  word16 := toUInt16
  word64 := toUInt64
  boolean := toBoolean
  backend := toBackend
  optional := toOptional
  part := toSection

def toSettings (v : Value) : Made Settings := reading.settings v

end Value
end GridKeeper.Settings

import GridKeeper.Toml.Value

/-!
# Tables under construction

A TOML table is built up line by line, and what may still be added to it depends on how it came
about. A table that was only passed through by a longer header may get its own header later; a table
that was begun by a dotted key may be extended by dotted keys only; any other table is complete once
it has been written down.
-/
namespace GridKeeper.Toml

mutual

inductive Item where
  | value (v : Value)
  | table (t : Draft)
  /-- Tables that are given one by one under the same header, the first one first. -/
  | tables (ts : List Draft)

inductive Draft where
  /-- A table is `implicit` if only longer keys or headers have mentioned it so far, and `dotted` if
  those were keys. -/
  | mk (implicit dotted : Bool) (items : List (String × Item))

end

namespace Draft

/-- Whether only longer keys or headers have mentioned the table. -/
def implicit : Draft → Bool
  | mk i _ _ => i

/-- Whether dotted keys have mentioned the table. -/
def dotted : Draft → Bool
  | mk _ d _ => d

def items : Draft → List (String × Item)
  | mk _ _ xs => xs

/-- An empty table that has been written down. -/
def empty : Draft := mk false false []

/-- The table with the same items, now written down under its own header. -/
def headed (t : Draft) : Draft := mk false false t.items

def find? (t : Draft) (key : String) : Option Item := t.items.lookup key

def put (t : Draft) (key : String) (item : Item) : Draft :=
  let rec place : List (String × Item) → List (String × Item)
    | [] => [(key, item)]
    | (k, i) :: rest => if k = key then (key, item) :: rest else (k, i) :: place rest
  mk t.implicit t.dotted (place t.items)

/-- Takes the item under a key away. -/
def erase (t : Draft) (key : String) : Draft :=
  mk t.implicit t.dotted (t.items.filter fun (k, _) => k ≠ key)

/-- Goes to the table at the end of a path, changes it and brings something from there. Tables on
the way are made if there are none; of tables given one by one the last is meant. Dotted keys may
not enter tables that have been written down. -/
def visit {α : Type} (dotted : Bool) (change : Draft → Option (α × Draft)) :
    List String → Draft → Option (α × Draft)
  | [], t => change t
  | key :: path, t =>
    match t.find? key with
    | none =>
      (visit dotted change path (mk true dotted [])).map fun (a, c) => (a, t.put key (.table c))
    | some (.table c) =>
      if dotted && !c.implicit then none
      else (visit dotted change path c).map fun (a, c) => (a, t.put key (.table c))
    | some (.tables ts) =>
      match ts.getLast? with
      | some c =>
        (visit dotted change path c).map fun (a, c) => (a, t.put key (.tables (ts.dropLast ++ [c])))
      | none => none
    | some (.value _) => none

/-- Adds a value under a dotted key: the table it goes into must have been begun by dotted keys if
the key has a dot, and by a header if it has none, and it must not have the key yet. -/
def add (t : Draft) (key : List String) (v : Value) : Option Draft :=
  match key.getLast? with
  | none => none
  | some last =>
    let path := key.dropLast
    (visit true (fun t =>
      if t.dotted == path.isEmpty || (t.find? last).isSome then none
      else some ((), t.put last (.value v))) path t).map Prod.snd

mutual

def itemValue : Item → Value
  | .value v => v
  | .table t => .table t.entries
  | .tables ts => .array (tableValues ts)

def tableValues : List Draft → List Value
  | [] => []
  | t :: rest => .table t.entries :: tableValues rest

def entries : Draft → List (String × Value)
  | mk _ _ items => itemValues items

def itemValues : List (String × Item) → List (String × Value)
  | [] => []
  | (key, item) :: rest => (key, itemValue item) :: itemValues rest

end

end Draft
end GridKeeper.Toml

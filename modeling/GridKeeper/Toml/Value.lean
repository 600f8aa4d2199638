import GridKeeper.Double

/-!
# TOML values

What a TOML document holds. A date or a time is kept in its canonical written form.
-/
namespace GridKeeper.Toml

inductive Value where
  | text (s : String)
  | integer (i : Int)
  | float (x : Double)
  | boolean (b : Bool)
  | dateTime (canonical : String)
  | array (items : List Value)
  | table (entries : List (String × Value))
deriving Repr

end GridKeeper.Toml

import GridKeeper.Double.Decimal
import GridKeeper.Settings.Place

/-!
# Settings from the environment

A variable whose name begins with a prefix and two underscores is a setting. The rest of its name is
the place, with dots in place of double underscores. What reads as a truth value or as a number is
taken for one.
-/
namespace GridKeeper.Settings

/-- Where values from the environment come from. -/
def environmentOrigin : String := "the environment"

def usualPrefix : String := "SESSION_COORDINATOR"

def nameSeparator : String := "__"

/-- What a variable holds. -/
def atomOf (value : String) : Atom :=
  let word := Text.lowercase value
  if word = "true" then .boolean true
  else if word = "false" then .boolean false
  else match Text.readSigned? Text.half64 value.toList with
    | some i => .integer i
    | none =>
      match Double.read? value.toList with
      | some x => .float x
      | none => .text value

/-- The place that a variable sets, if it is a setting. -/
def variablePlace? (lead name : String) : Option String :=
  let lead := Text.lowercase (lead ++ nameSeparator)
  (Text.behind? lead.toList (Text.lowercase name).toList).map fun rest =>
    String.intercalate "." ((Text.piecesOf nameSeparator.toList rest).map String.ofList)

/-- Lays the settings among some variables over what there is. -/
def Value.setVariables (target : Value) (lead : String) (environment : List (String × String)) :
    Value :=
  environment.foldl (fun target (name, value) =>
    match variablePlace? lead name with
    | some place => target.set place (.atom (some environmentOrigin) (atomOf value))
    | none => target) target

end GridKeeper.Settings

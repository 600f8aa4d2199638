/-!
# Faults of settings

Why settings cannot be loaded, or are refused.
-/
namespace GridKeeper.Settings

/-- What is wrong with settings (`ConfigurationError`). -/
inductive Fault where
  | fileNotFound (path : String)
  /-- A source cannot be read, or holds something of the wrong kind. -/
  | invalidSource (source detail : String)
  | malformed (source : String)
  | missingField (field context : String)
  | invalidValue (field value context : String)
deriving Repr, DecidableEq

/-- What is said of a source that is not a TOML document. -/
def malformedDetail : String := "TOML parse error"

def Fault.message : Fault → String
  | fileNotFound path => s!"Configuration file not found: {path}"
  | invalidSource source detail => s!"Invalid configuration in '{source}': {detail}"
  | malformed source => s!"Invalid configuration in '{source}': {malformedDetail}"
  | missingField field context => s!"Missing required configuration field '{field}' in {context}"
  | invalidValue field value context => s!"Invalid value '{value}' for field '{field}': {context}"

end GridKeeper.Settings

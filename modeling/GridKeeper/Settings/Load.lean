import GridKeeper.Settings.Conversion
import GridKeeper.Settings.Environment
import GridKeeper.Settings.Validation
import GridKeeper.Text.Utf8
import GridKeeper.Toml.Document

/-!
# Loading settings

Settings are loaded from a TOML file, if one is named, and from the environment, which has the last
word; both are laid over the usual settings, and the result is validated. A fault names the file if
there is one, also for a value from the environment.
-/
namespace GridKeeper.Settings

structure File where
  path : String
  /-- What is in the file; `none` if there is no such file. -/
  content : Option (List UInt8)

/-- What a fault names as its source if no file was asked for. -/
def noFile : String := "environment"

/-- What is said of a file that is not text. -/
def notText : String := "stream did not contain valid UTF-8"

/-- What is said of a file that holds a single value. -/
def notTable (path : String) (v : Value) : String :=
  (Misfit.kind v.kindText "a map" "" (some path)).message ++ s!" in {path}"

def fileEntries (file : Option File) : Except Fault (List (String × Value)) :=
  match file with
  | none => .ok []
  | some f =>
    match f.content with
    | none => .error (.fileNotFound f.path)
    | some bytes =>
      match Text.decodeUtf8 bytes with
      | .error _ => .error (.invalidSource f.path notText)
      | .ok text =>
        match Toml.parse? text with
        | none => .error (.malformed f.path)
        | some (.table entries) => .ok (Value.entriesOfToml f.path entries)
        | some v => .error (.invalidSource f.path (notTable f.path (Value.ofToml f.path v)))

/-- Loads and validates settings (`ConfigLoader.load`). -/
def load (file : Option File) (lead : String) (environment : List (String × String)) :
    Except Fault Settings := do
  let entries ← fileEntries file
  let fromFile := entries.foldl (fun v (place, w) => v.set place w) Value.emptyTable
  match (fromFile.setVariables lead environment).toSettings with
  | .error m => .error (.invalidSource ((file.map (·.path)).getD noFile) m.message)
  | .ok s => s.validate

end GridKeeper.Settings

import GridKeeper.Json
import GridKeeper.Settings.Fields

/-!
# Settings as JSON

Settings are written as a JSON object of sections, each an object of fields in order. They are read
back strictly: numbers are whole and in range, texts are strings, and only what may be left open can
be null. A section may also be an array of its fields in order, complete or cut short.
-/
namespace GridKeeper.Settings

/-! ## Writing -/

def textsJson (xs : List String) : Json := .array (xs.map .text)

def word (n : UInt64) : Json := .ofNat n.toNat

/-- Settings as JSON (`CoordinatorConfig.to_json_pretty`). -/
def toJson (s : Settings) : Json :=
  .object [
    ("server", .object [
      ("bind_host", .text s.server.bindHost),
      ("port", .ofNat s.server.port.toNat),
      ("max_connections", word s.server.maxConnections),
      ("request_read_timeout_ms", .ofOption word s.server.readTimeout)]),
    ("lock", .object [
      ("backend", .text s.lock.backend.word),
      ("file_path", .ofOption .text s.lock.filePath),
      ("socket_port", .ofNat s.lock.socketPort.toNat),
      ("acquire_timeout_seconds", word s.lock.acquireTimeout),
      ("file_poll_interval_ms", word s.lock.filePoll),
      ("socket_max_jitter_ms", word s.lock.socketJitter)]),
    ("cleanup", .object [
      ("command", .text s.cleanup.command),
      ("args", textsJson s.cleanup.args),
      ("poll_interval_minutes", word s.cleanup.pollInterval),
      ("watchdog_timeout_seconds", word s.cleanup.watchdog),
      ("nodes", textsJson s.cleanup.nodes)]),
    ("logging", .object [
      ("level", .ofOption .text s.logging.level),
      ("json", .boolean s.logging.json)])]

/-! ## Reading -/

namespace Stored

/-- A whole number up to `max`. -/
def natural (max : Nat) : Json → Except Unit Nat
  | .number m 0 => if 0 ≤ m ∧ m ≤ max then .ok m.toNat else .error ()
  | _ => .error ()

def text : Json → Except Unit String
  | .text s => .ok s
  | _ => .error ()

def texts : Json → Except Unit (List String)
  | .array items => items.mapM text
  | _ => .error ()

def boolean : Json → Except Unit Bool
  | .boolean b => .ok b
  | _ => .error ()

/-- A kind of lock: its word, or an object with null under the word. -/
def backend (v : Json) : Except Unit Lock.Backend :=
  let word? := match v with
    | .text s => some s
    | .object [(name, .null)] => some name
    | _ => none
  match word?.bind Lock.Backend.named? with
  | some b => .ok b
  | none => .error ()

def optional {α : Type} (read : Json → Except Unit α) : Json → Except Unit (Option α)
  | .null => .ok none
  | v => (read v).map some

def fillEntries {σ : Type} (fields : Fields Json Unit σ) (s : σ) :
    List (String × Json) → Except Unit σ
  | [] => .ok s
  | (name, v) :: rest => do
    let s ← match fields.lookup name with
      | some fill => fill s v
      | none => .ok s
    fillEntries fields s rest

/-- Fills fields in order; there may not be more values than fields. -/
def fillItems {σ : Type} (s : σ) : List (Filler Json Unit σ) → List Json → Except Unit σ
  | _, [] => .ok s
  | [], _ :: _ => .error ()
  | fill :: fields, v :: rest => do fillItems (← fill s v) fields rest

/-- A section: an object with the names of its fields, or an array of its fields in order. -/
def part {σ : Type} (_title : String) (fields : Fields Json Unit σ) (usual : σ) :
    Json → Except Unit σ
  | .object entries => fillEntries fields usual entries
  | .array items => fillItems usual (fields.map (·.2)) items
  | _ => .error ()

def reading : Reading Json Unit where
  text := text
  texts := texts
  word16 := fun v => (natural Text.max16 v).map UInt16.ofNat
  word64 := fun v => (natural Text.max64 v).map UInt64.ofNat
  boolean := boolean
  backend := backend
  optional := optional
  part := part

end Stored

def ofJson? (v : Json) : Option Settings := (Stored.reading.settings v).toOption

end GridKeeper.Settings

import GridKeeper.Settings

/-!
# The fields of settings

Settings have sections and sections have fields, all of them with names and in an order. They can be
read from values of any kind for which it is said how the fields are read.
-/
namespace GridKeeper.Settings

abbrev Filler (V ε σ : Type) := σ → V → Except ε σ

abbrev Fields (V ε σ : Type) := List (String × Filler V ε σ)

structure Reading (V ε : Type) where
  text : V → Except ε String
  texts : V → Except ε (List String)
  word16 : V → Except ε UInt16
  word64 : V → Except ε UInt64
  boolean : V → Except ε Bool
  backend : V → Except ε Lock.Backend
  optional : {α : Type} → (V → Except ε α) → V → Except ε (Option α)
  /-- A section, given its title, its fields, and what it is if nothing is said. -/
  part : {σ : Type} → String → Fields V ε σ → σ → V → Except ε σ

namespace Reading

variable {V ε : Type}

/-- A field whose value is read in the given way. -/
def field {σ α : Type} (read : V → Except ε α) (update : σ → α → σ) : Filler V ε σ :=
  fun s v => (read v).map (update s)

def server (r : Reading V ε) : Fields V ε Server :=
  [("bind_host", field r.text fun s x => { s with bindHost := x }),
    ("port", field r.word16 fun s x => { s with port := x }),
    ("max_connections", field r.word64 fun s x => { s with maxConnections := x }),
    ("request_read_timeout_ms",
      field (r.optional r.word64) fun s x => { s with readTimeout := x })]

def lock (r : Reading V ε) : Fields V ε Settings.Lock :=
  [("backend", field r.backend fun s x => { s with backend := x }),
    ("file_path", field (r.optional r.text) fun s x => { s with filePath := x }),
    ("socket_port", field r.word16 fun s x => { s with socketPort := x }),
    ("acquire_timeout_seconds", field r.word64 fun s x => { s with acquireTimeout := x }),
    ("file_poll_interval_ms", field r.word64 fun s x => { s with filePoll := x }),
    ("socket_max_jitter_ms", field r.word64 fun s x => { s with socketJitter := x })]

def cleanup (r : Reading V ε) : Fields V ε Cleanup :=
  [("command", field r.text fun s x => { s with command := x }),
    ("args", field r.texts fun s x => { s with args := x }),
    ("poll_interval_minutes", field r.word64 fun s x => { s with pollInterval := x }),
    ("watchdog_timeout_seconds", field r.word64 fun s x => { s with watchdog := x }),
    ("nodes", field r.texts fun s x => { s with nodes := x })]

def logging (r : Reading V ε) : Fields V ε Logging :=
  [("level", field (r.optional r.text) fun s x => { s with level := x }),
    ("json", field r.boolean fun s x => { s with json := x })]

def sections (r : Reading V ε) : Fields V ε Settings :=
  [("server", field (r.part "ServerConfig" r.server {}) fun s x => { s with server := x }),
    ("lock", field (r.part "LockConfig" r.lock {}) fun s x => { s with lock := x }),
    ("cleanup", field (r.part "CleanupConfig" r.cleanup {}) fun s x => { s with cleanup := x }),
    ("logging", field (r.part "LoggingConfig" r.logging {}) fun s x => { s with logging := x })]

def settings (r : Reading V ε) (v : V) : Except ε Settings :=
  r.part "CoordinatorConfig" r.sections {} v

end Reading
end GridKeeper.Settings

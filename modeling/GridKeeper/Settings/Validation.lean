import GridKeeper.Settings
import GridKeeper.Settings.Fault
import GridKeeper.Text.Blank

/-!
# Validation of settings

Waiting for the lock, polling a lock file and the watchdog need a time above zero, and the command
and the host need a text that is not blank. The time between two sweeps is not validated: it is
raised to the shortest one where it is used.
-/
namespace GridKeeper.Settings

/-- Whether a text has nothing but white space. -/
def isBlankText (s : String) : Bool := (Text.trim s.toList).isEmpty

/-- The first fault of settings, in the order in which they are looked at. -/
def fault? (s : Settings) : Option Fault :=
  if s.lock.acquireTimeout = 0 then
    some (.invalidValue "lock.acquire_timeout_seconds" "0" "lock wait must be greater than 0")
  else if s.lock.backend = .file ∧ s.lock.filePoll = 0 then
    some (.invalidValue "lock.file_poll_interval_ms" "0"
      "file lock poll interval must be greater than 0")
  else if s.cleanup.watchdog = 0 then
    some (.invalidValue "cleanup.watchdog_timeout_seconds" "0"
      "cleanup watchdog must be greater than 0")
  else if isBlankText s.cleanup.command then
    some (.missingField "cleanup.command" "cleanup configuration")
  else if isBlankText s.server.bindHost then
    some (.missingField "server.bind_host" "server configuration")
  else none

/-- The settings if they have no fault (`CoordinatorConfig.validate`). -/
def validate (s : Settings) : Except Fault Settings :=
  match s.fault? with
  | some f => .error f
  | none => .ok s

end GridKeeper.Settings

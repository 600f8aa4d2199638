import GridKeeper.Lock.Backend
import GridKeeper.Text.Numeral

/-!
# Settings

All that can be set: where the server listens, what the lock is made of and how long it is waited
for, how nodes are cleaned up and how often, and what is logged. Numbers have the width that they
have in configuration files.
-/
namespace GridKeeper

/-- Where and how connections are accepted (`ServerConfig`). -/
structure Settings.Server where
  bindHost : String := "0.0.0.0"
  port : UInt16 := 4000
  /-- The number of connections that may be open at a time; 0 for any number. -/
  maxConnections : UInt64 := 0
  /-- The time allowed for each line of a request, in milliseconds; without one, a line is waited
  for however long it takes. -/
  readTimeout : Option UInt64 := none
deriving Repr, DecidableEq

/-- The lock and the patience it is waited for with (`LockConfig`). -/
structure Settings.Lock where
  backend : Lock.Backend := Lock.Backend.usual
  /-- The lock file; without one, a file in the directory for temporary files is used. -/
  filePath : Option String := none
  socketPort : UInt16 := 6666
  /-- How long the lock is waited for, in seconds. -/
  acquireTimeout : UInt64 := 300
  /-- The time between two attempts on a lock file, in milliseconds. -/
  filePoll : UInt64 := 1000
  /-- The longest time between two attempts on a socket, in milliseconds. -/
  socketJitter : UInt64 := 2000
deriving Repr, DecidableEq

/-- How nodes are cleaned up (`CleanupConfig`). -/
structure Settings.Cleanup where
  /-- The program that is run as `command arguments… host port`. -/
  command : String := "cleanup.cmd"
  args : List String := []
  /-- The time between two sweeps, in minutes. -/
  pollInterval : UInt64 := 1
  /-- The time after which a clean-up is ended, in seconds. -/
  watchdog : UInt64 := 60
  nodes : List String := []
deriving Repr, DecidableEq

/-- What is logged, and in which form (`LoggingConfig`). -/
structure Settings.Logging where
  level : Option String := none
  json : Bool := false
deriving Repr, DecidableEq

/-- All settings (`CoordinatorConfig`). -/
structure Settings where
  server : Settings.Server := {}
  lock : Settings.Lock := {}
  cleanup : Settings.Cleanup := {}
  logging : Settings.Logging := {}
deriving Repr, DecidableEq

namespace Settings

/-- The address that the server listens on (`ServerConfig.bind_address`). -/
def Server.address (s : Server) : String := s.bindHost ++ ":" ++ toString s.port.toNat

/-- The shortest time between two sweeps, in minutes. -/
def shortestPoll : UInt64 := 1

/-- Minutes in seconds of 64 bits; `none` if there are too many of them for that. -/
def seconds? (minutes : UInt64) : Option UInt64 :=
  let n := minutes.toNat * 60
  if n ≤ Text.max64 then some (.ofNat n) else none

/-- The time between two sweeps, in seconds (`CleanupConfig.poll_interval`). -/
def Cleanup.pollSeconds? (c : Cleanup) : Option UInt64 := seconds? (max c.pollInterval shortestPoll)

end Settings
end GridKeeper

import GridKeeper.Client.Replay
import GridKeeper.CommandLine.Ask
import GridKeeper.CommandLine.Serve
import GridKeeper.Job.Shell
import Std.Async.System
import Std.Async.TCP
import Std.Async.Timer

/-!
# The programs

The first argument names the program that is run: `session-client` or `session-server`. What is
decided here is only when something is read, written, locked and waited for.
-/
namespace GridKeeper.Main

open CommandLine
open Std.Async

/-! ## Surroundings -/

def contentOf (path : String) : IO (Option (List UInt8)) := do
  try return some (← IO.FS.readBinFile path).toList
  catch _ => return none

/-- The variables of the environment, and the one file that the arguments may name. -/
def surroundings (args : List String) : IO Surroundings := do
  let files ← args.mapM fun a => do
    let path := (Text.behind? "--config=".toList a.toList).map String.ofList |>.getD a
    return (path, ← contentOf path)
  return { file := fun path => (files.lookup path).join
           environment := (← Std.Internal.UV.System.osEnviron).toList }

/-- The directory for temporary files. -/
def temporary : IO String := do
  return (← IO.getEnv "TMPDIR").getD "/tmp"

/-- What a lock finds: if its file can be opened, the directories that lead there. -/
def storeFor : Lock.Handle → IO Lock.Store
  | .file path => do
    try
      let _ ← IO.FS.Handle.mk path .append
      let names := Files.namesOf path
      let above := (List.range names.length).tail.map fun n => names.take n
      return { files := { entries := above.map fun names => (names, .directory) } }
    catch _ => return {}
  | .socket _ => return {}

/-! ## The lock -/

inductive Token where
  | file (h : IO.FS.Handle)
  | port (s : TCP.Socket.Server)

def Token.release : Token → IO Unit
  | file h => h.unlock
  | port _ => return ()

def localHost : Std.Net.IPv4Addr := .ofParts 127 0 0 1

def tryLock : Lock.Handle → IO (Except Lock.Attempt Token)
  | .file path => do
    try
      let h ← IO.FS.Handle.mk path .append
      if ← h.tryLock then return .ok (.file h) else return .error .held
    catch e => return .error (.broken (toString e))
  | .socket port => do
    try
      let s ← TCP.Socket.Server.mk
      s.bind (.v4 ⟨localHost, port.toUInt16⟩)
      s.listen 1
      return .ok (.port s)
    catch _ => return .error .held

def largestDraw : Nat := 4294967295

/-- Waits for the lock from the time `start` on, for at most `limit` nanoseconds. -/
partial def waitLock (lock : Lock.Handle) (pace : Lock.Pace) (limit start : Nat) :
    IO (Except Lock.Failure Token) := do
  match ← tryLock lock with
  | .ok token => return .ok token
  | .error (.broken cause) => return .error (.io lock.resource cause)
  | .error _ =>
    let waited := (← IO.monoNanosNow) - start
    if limit ≤ waited then return .error (.timeout lock.resource (waited / Lock.milli))
    let nap := pace.nap ⟨← IO.rand 0 largestDraw, 0⟩
    IO.sleep (nap.asked limit waited / Lock.milli).toUInt32
    waitLock lock pace limit start

/-- Does something under the lock, given how getting it ended. -/
def underLock {α : Type} (lock : Lock.Handle) (s : Settings.Lock)
    (act : Except Lock.Failure Unit → IO α) : IO α := do
  let limit := s.acquireTimeout.toNat * 1000 * Lock.milli
  match ← waitLock lock (Service.paceOf s) limit (← IO.monoNanosNow) with
  | .error failure => act (.error failure)
  | .ok token =>
    let a ← act (.ok ())
    token.release
    return a

/-! ## Connections -/

/-- The address of a host, given by its number or as the local host. -/
def addressOf? (host : String) (port : Nat) : Option Std.Net.SocketAddress :=
  (if host = "localhost" then some localHost else Std.Net.IPv4Addr.ofString host).map fun a =>
    .v4 ⟨a, port.toUInt16⟩

def unknownHost : String := "failed to lookup address information: Name or service not known"

partial def receiveAll (c : TCP.Socket.Client) (got : List UInt8) : Async (List UInt8) := do
  match ← c.recv? 65536 with
  | some more => receiveAll c (got ++ more.toList)
  | none => return got

/-- Does something within a time in milliseconds, or else something is taken for its result. -/
def within {α : Type} (limit : Option Nat) (late : α) (act : Async α) : Async α :=
  match limit with
  | none => act
  | some ms =>
    have : Inhabited α := ⟨late⟩
    Async.race act do
      sleep (.ofNat ms)
      return late

/-- Sends octets to a server and waits for what it answers. -/
def contact (client : Client) (bytes : List UInt8) : IO Client.Contact := do
  match addressOf? client.server client.port with
  | none => return .refused unknownHost
  | some address =>
    let talk : Async Client.Contact := do
      let socket ← TCP.Socket.Client.mk
      socket.connect address
      socket.send ⟨bytes.toArray⟩
      return .answered (← receiveAll socket [])
    try (within client.limit .silent talk).block
    catch e => return .refused (toString e)

/-! ## The client -/

/-- Makes a call, given what came of its connections so far. -/
partial def askOn (around : Surroundings) (temporary : String) (args : List String)
    (contacts : List Client.Contact) : IO Finish := do
  match Ask.run? around {} temporary Client.replay ⟨contacts, none⟩ args, Ask.read args with
  | some (finish, ⟨_, none⟩), _ => return finish
  | some (_, ⟨_, some bytes⟩), .ok (a, _) =>
    let answer ← contact (Ask.clientOf a) bytes
    askOn around temporary args (contacts ++ [answer])
  | _, _ => return { code := failureCode }

def ask (args : List String) : IO Finish := do
  let around ← surroundings args
  match Ask.prepare around args with
  | .ok (_, .holdLock minutes, s) =>
    underLock (Service.lockOf (← temporary) s.lock) s.lock fun attempt => do
      match attempt, Settings.seconds? minutes with
      | .ok (), some seconds =>
        (sleep (.ofNat (1000 * seconds.toNat)) : Async Unit).block
        return { code := successCode }
      | .ok (), none => return { code := crashCode }
      | .error f, _ => return Ask.failure "acquiring lock" (some f.message)
  | _ => askOn around (← temporary) args []

/-! ## The server -/

def request? (feed : Wire.Feed) : Option (Except Wire.Fault Wire.Request) :=
  ((⟨feed, 0, 0⟩ : Wire.Reader).read? none).map (·.1)

/-- Receives octets until they make up a request, or no more come in time. -/
partial def collect (limit : Option Nat) (c : TCP.Socket.Client) (got : List UInt8) :
    Async Wire.Feed := do
  let feed := Wire.Feed.atOnce got true
  if (request? feed).isSome then return feed
  match ← within limit none (some <$> c.recv? 65536) with
  | some (some more) => collect limit c (got ++ more.toList)
  | some none => return .atOnce got false
  | none => return feed

def serveOne (service : IO.Ref Service) (c : TCP.Socket.Client) : Async Unit := do
  let s ← service.get
  let feed ← collect s.readLimit c []
  let answer := fun attempt => service.modifyGet (·.serve attempt feed)
  let result ← match request? feed with
    | some (.ok (.call _)) => underLock s.lock s.settings.lock answer
    | _ => answer (.ok ())
  if let .answered bytes := result then c.send ⟨bytes.toArray⟩
  c.shutdown

/-- Serves connections one after another as they come, each on its own. -/
partial def serveAll (service : IO.Ref Service) (server : TCP.Socket.Server) : Async Unit := do
  let c ← server.accept
  background (do try serveOne service c catch _ => return () : Async Unit)
  serveAll service server

partial def sweepAll (service : IO.Ref Service) : Async Unit := do
  let s ← service.get
  let cleanup := s.settings.cleanup
  sleep (.ofNat s.timeline.interval)
  underLock s.lock s.settings.lock fun attempt =>
    service.modify fun s => (s.sweep attempt fun _ node r =>
      let watchdog := 1000 * cleanup.watchdog.toNat
      ((Job.Shell.cleanUp cleanup.command cleanup.args watchdog node).1, r)).2
  sweepAll service

/-- Listens on the address that settings name. -/
def listen (server : TCP.Socket.Server) (s : Settings.Server) : IO (Except String Unit) := do
  match addressOf? s.bindHost s.port.toNat with
  | none => return .error unknownHost
  | some address =>
    try
      server.bind address
      server.listen 128
      return .ok ()
    catch e => return .error (toString e)

/-- Runs the server; it ends only if it does not start. -/
def serve (args : List String) : IO Finish := do
  let around ← surroundings args
  let directory ← temporary
  match Serve.prepare around args with
  | .error finish => return finish
  | .ok s =>
    let server ← TCP.Socket.Server.mk
    let listening ← listen server s.server
    let store ← storeFor (Service.lockOf directory s.lock)
    match Serve.start around store directory (fun _ => listening) args with
    | .error finish => return finish
    | .ok service =>
      let service ← IO.mkRef service
      let run : Async Unit := do
        background (sweepAll service)
        serveAll service server
      run.block
      return { code := successCode }

def run (program : List String → IO Finish) (args : List String) : IO UInt32 := do
  let finish ← program args
  IO.print finish.out
  IO.eprint finish.err
  return finish.code.toUInt32

end GridKeeper.Main

open GridKeeper in
/-- Runs the program that the first argument names. -/
def main : List String → IO UInt32
  | "session-client" :: args => Main.run Main.ask args
  | "session-server" :: args => Main.run Main.serve args
  | _ => return CommandLine.misuseCode.toUInt32

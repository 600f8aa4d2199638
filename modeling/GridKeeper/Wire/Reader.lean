import GridKeeper.Text.Utf8
import GridKeeper.Wire.Expecting
import GridKeeper.Wire.Feed

/-!
# Reading requests

A reader takes requests off a feed, line by line and no line more than the request needs. A line is
what stands before a line feed, or before the end of the stream if anything does. The time allowed
for reading counts anew for every line. What is there when the reading of a line begins is always in
time; what comes later has to come before the time is up. A line that is not complete in time is
lost as far as it had arrived.
-/
namespace GridKeeper.Wire

/-- A feed that is being read (`RequestReader`). -/
structure Reader where
  feed : Feed
  now : Nat := 0
  linesRead : Nat := 0
deriving Repr, DecidableEq

/-! ## Lines as octets -/

/-- The octets of a line, and what follows them. The line keeps its line feed; without one, all that
is left is taken for the line, and the third part is false. -/
def spanLine : List (Nat × UInt8) → List (Nat × UInt8) × List (Nat × UInt8) × Bool
  | [] => ([], [], false)
  | b :: rest =>
    if b.2 = 10 then ([b], rest, true)
    else
      let (line, after, whole) := spanLine rest
      (b :: line, after, whole)

/-- The text of a line, without the carriage returns and line feeds at its end. -/
def lineText (bytes : List UInt8) : Except Text.Utf8Fault String :=
  (Text.decodeUtf8 bytes).map fun cs =>
    String.ofList (Text.dropEndWhile (fun c => c = '\r' ∨ c = '\n') cs)

namespace Reader

/-- When the next line is complete, if it ever is: with the arrival of its line feed, or when the
peer closes. -/
def completion (r : Reader) : Option Nat :=
  let (line, _, whole) := spanLine r.feed.arrivals
  if whole then line.getLast?.map (·.1) else r.feed.closing

/-- Whether what comes at the time `t` comes in time for a line whose reading begins now. -/
def inTime (r : Reader) (ms t : Nat) : Bool := t ≤ r.now || t < r.now + ms

/-- Gives up the next line after `ms` milliseconds. -/
def giveUp (r : Reader) (ms : Nat) : Reader :=
  let left := r.feed.arrivals.dropWhile fun b => r.inTime ms b.1
  { r with feed := { r.feed with arrivals := left }, now := r.now + ms }

/-- Takes the next line, which is complete at the time `t`. -/
def takeLine (r : Reader) (t : Nat) : Except Fault String × Reader :=
  let (line, after, _) := spanLine r.feed.arrivals
  let r := { r with feed := { r.feed with arrivals := after }, now := max r.now t }
  if line.isEmpty then (.error .closed, r)
  else match lineText (line.map (·.2)) with
    | .error fault => (.error (.io fault.message), r)
    | .ok text => (.ok text, { r with linesRead := r.linesRead + 1 })

/-- Reads the next line (`RequestReader.next_line`). Without a limit, the result is `none` if the
line never comes. -/
def nextLine? (limit : Option Nat) (r : Reader) : Option (Except Fault String × Reader) :=
  match limit, r.completion with
  | none, none => none
  | none, some t => some (r.takeLine t)
  | some ms, none => some (.error (.late ms), r.giveUp ms)
  | some ms, some t =>
    if r.inTime ms t then some (r.takeLine t) else some (.error (.late ms), r.giveUp ms)

/-- Reads the lines of a request of which some lines are still expected. -/
def readFrom? (limit : Option Nat) (e : Expecting) (r : Reader) :
    Option (Except Fault Request × Reader) :=
  match r.nextLine? limit with
  | none => none
  | some (.error fault, r) => some (.error fault, r)
  | some (.ok line, r) =>
    match h : e.accept line with
    | .error fault => some (.error fault, r)
    | .ok (.complete request) => some (.ok request, r)
    | .ok (.more next) =>
      have := Expecting.depth_lt_of_accept h
      readFrom? limit next r
termination_by e.depth

/-- Reads a request (`RequestReader.read_request`). The result is `none` if that takes forever. -/
def read? (limit : Option Nat) (r : Reader) : Option (Except Fault Request × Reader) :=
  r.readFrom? limit .topic

end Reader
end GridKeeper.Wire

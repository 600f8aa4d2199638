/-!
# Feeds

A feed is what a peer sends, octet by octet, with the time at which each octet arrives, and the time
at which the peer closes its side, if it ever does. Times count milliseconds from the start of the
connection.
-/
namespace GridKeeper.Wire

structure Feed where
  /-- The octets still to be read, each with the time of its arrival. -/
  arrivals : List (Nat × UInt8)
  /-- When the peer closes; `none` if it leaves the connection open. -/
  closing : Option Nat
deriving Repr, DecidableEq

namespace Feed

def bytes (f : Feed) : List UInt8 := f.arrivals.map (·.2)

/-- A feed whose octets are all there from the start. -/
def atOnce (bytes : List UInt8) (stays : Bool) : Feed :=
  ⟨bytes.map ((0, ·)), if stays then none else some 0⟩

/-- The arrivals of chunks of which each comes a given time after the one before it, the first of
them that time after `start`; and the time of the last one. -/
def schedule (start : Nat) : List (Nat × List UInt8) → List (Nat × UInt8) × Nat
  | [] => ([], start)
  | (delay, chunk) :: rest =>
    let (later, last) := schedule (start + delay) rest
    (chunk.map ((start + delay, ·)) ++ later, last)

/-- The feed of a peer that sends chunks with delays between them, and then closes or stays. -/
def ofChunks (chunks : List (Nat × List UInt8)) (stays : Bool) : Feed :=
  let (arrivals, last) := schedule 0 chunks
  ⟨arrivals, if stays then none else some last⟩

end Feed
end GridKeeper.Wire

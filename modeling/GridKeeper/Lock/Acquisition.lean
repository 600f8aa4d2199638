import GridKeeper.Lock.Failure
import GridKeeper.Text.Numeral

/-!
# Getting the lock

The lock is tried at once, and while another holds it, again and again until the time allowed is up.
Between two attempts there is a nap; it is never asked to last beyond the end of that time, but it
may last longer than asked. The attempt at the end of the time is the last one. Times are in
nanoseconds.
-/
namespace GridKeeper.Lock

inductive Attempt where
  | free
  | held
  | broken (cause : String)
deriving Repr, DecidableEq

/-- A nap between two attempts: how long it was to be before it was cut at the end of the time
allowed, and how much longer than asked it was. -/
structure Nap where
  wanted : Nat
  excess : Nat := 0
deriving Repr, DecidableEq

def milli : Nat := 1000000

/-- How long naps are to be. A lock file is looked at in regular intervals, and a port after random
ones of whole milliseconds. -/
inductive Pace where
  | every (interval : Nat)
  | upTo (longest : Nat)
deriving Repr, DecidableEq

/-- What is not up to the lock: the number that is drawn for a nap, and how much longer than asked
the nap is. -/
structure Chance where
  draw : Nat
  excess : Nat := 0
deriving Repr, DecidableEq

namespace Pace

/-- The longest random nap, in whole milliseconds of 64 bits. -/
def millis (longest : Nat) : Nat := min (longest / milli) Text.max64

/-- The nap that comes up (`SocketLock.jitter`). -/
def nap (chance : Chance) : Pace → Nap
  | every interval => ⟨interval, chance.excess⟩
  | upTo longest => ⟨chance.draw % (millis longest + 1) * milli, chance.excess⟩

end Pace

/-- How waiting for the lock ends, and when. -/
inductive Ending where
  | acquired (time : Nat)
  | failed (time : Nat) (cause : String)
  | timedOut (time : Nat)
  | waiting (time : Nat)
deriving Repr, DecidableEq

/-- How long a nap that begins at `now` is asked to last. -/
def Nap.asked (nap : Nap) (limit now : Nat) : Nat := min nap.wanted (limit - now)

/-- Waits for the lock from the time `now` on (`try_acquire`). `resource` tells how an attempt at
some time finds the resource, and `naps` are the naps to come. -/
def acquire (resource : Nat → Attempt) (limit : Nat) : List Nap → Nat → Ending
  | naps, now =>
    match resource now with
    | .free => .acquired now
    | .broken cause => .failed now cause
    | .held =>
      if limit ≤ now then .timedOut now
      else match naps with
        | [] => .waiting now
        | nap :: rest => acquire resource limit rest (now + nap.asked limit now + nap.excess)

/-- What an ending means for the one who waited; waiting is told in whole milliseconds. -/
def Ending.result (resource : String) : Ending → Option (Except Failure Unit)
  | acquired _ => some (.ok ())
  | failed _ cause => some (.error (.io resource cause))
  | timedOut waited => some (.error (.timeout resource (waited / milli)))
  | waiting _ => none

end GridKeeper.Lock

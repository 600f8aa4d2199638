import GridKeeper.Sweep

/-!
# Sweeps over time

Sweeps are due at an interval, the first of them one interval after the start. A sweep that is due
while another is under way starts when that one ends, and the next one is then due one interval
after this start; a start that is hardly late counts as one in time. The lock is asked for at the
start of a sweep and may be waited for. A clean-up takes its time in parts, and at the end of each
part it does something to the registry; all else takes no time. When sweeping is stopped, a sweep
under way is given up on the spot, and with it its lock and its clean-up.

The clock runs from one event to the next: the start of a sweep, the end of the wait for the lock,
or the end of a part of a clean-up.
-/
namespace GridKeeper.Sweep

def shortestInterval : Nat := 60000

/-- A sweep that starts this many milliseconds late still counts as being in time. -/
def leeway : Nat := 5

/-- The interval that is kept when `ms` is asked for (`CleanupScheduler.new`). -/
def intervalFor (ms : Nat) : Nat := max ms shortestInterval

/-- What sweeps find around them. -/
structure Surroundings where
  /-- How long the n-th attempt to get the lock takes. -/
  wait : Nat → Nat
  attempt : Nat → Except Lock.Failure Unit
  /-- The parts of the n-th clean-up, which is one of the given node: how long each of them takes,
  and what is done to the registry at its end. -/
  course : Nat → Node → List (Nat × (Registry → Registry))

/-- What is being waited for in a sweep that is under way. -/
inductive Underway where
  | waiting (ends : Nat)
  /-- The end of a part of a clean-up, some parts of which are over; other nodes come after it. -/
  | cleaning (node : Node) (ended : Nat) (ends : Nat) (rest : List Node)
deriving Repr, DecidableEq

inductive Deed where
  | ask
  | granted
  /-- The lock is not got, and the sweep is over. -/
  | refused
  /-- The wait for the lock is given up, and the sweep is over. -/
  | giveUp
  | look
  | call (node : Node)
  | change
  | release
deriving Repr, DecidableEq

/-- A scheduler of sweeps at a point in time (`CleanupScheduler`). -/
structure Timeline where
  interval : Nat
  now : Nat := 0
  due : Nat
  underway : Option Underway := none
  stopped : Bool := false
  registry : Registry
  log : List (Nat × Deed) := []
deriving Repr, DecidableEq

namespace Timeline

def start (interval : Nat) (r : Registry) : Timeline :=
  let i := intervalFor interval
  { interval := i, due := i, registry := r }

/-- The clean-ups that were started, each with its time. -/
def calls (s : Timeline) : List (Nat × Node) :=
  s.log.filterMap fun
    | (t, .call n) => some (t, n)
    | _ => none

def attempts (s : Timeline) : Nat := s.log.countP (·.2 = .ask)

def record (s : Timeline) (d : Deed) : Timeline := { s with log := s.log ++ [(s.now, d)] }

@[simp] theorem calls_record (s : Timeline) (d : Deed) : (s.record d).calls =
    s.calls ++ match d with
      | .call n => [(s.now, n)]
      | _ => [] := by
  cases d <;> simp [calls, record]

/-- Goes on with the nodes that are left, up to the next one whose clean-up takes time. -/
def proceed (env : Surroundings) (s : Timeline) : List Node → Timeline
  | [] => { s.record .release with underway := none }
  | n :: rest =>
    let s := s.record .look
    if s.registry.ledger.count n.key ≠ 0 then proceed env s rest
    else match env.course s.calls.length n with
      | [] => proceed env (s.record (.call n)) rest
      | (pause, _) :: _ =>
        { s.record (.call n) with underway := some (.cleaning n 0 (s.now + pause) rest) }

/-- Ends the wait for the lock. -/
def enter (env : Surroundings) (s : Timeline) : Timeline :=
  match env.attempt (s.attempts - 1) with
  | .error _ => { s.record .refused with underway := none }
  | .ok () =>
    let s := (s.record .granted).record .look
    if s.registry.ledger.pending ≠ 0 then { s.record .release with underway := none }
    else proceed env (s.record .look) s.registry.directory.nodes

/-- The parts of the last clean-up started, which is one of the given node. -/
def course (env : Surroundings) (s : Timeline) (n : Node) : List (Nat × (Registry → Registry)) :=
  env.course (s.calls.length - 1) n

/-- What is done at the end of a part of a clean-up. -/
def change (s : Timeline) (part : Option (Nat × (Registry → Registry))) : Timeline :=
  match part with
  | some (_, effect) => { s.record .change with registry := effect s.registry }
  | none => s

/-- Ends a part of a clean-up, having ended `ended` parts of it before. -/
def resume (env : Surroundings) (s : Timeline) (n : Node) (ended : Nat) (rest : List Node) :
    Timeline :=
  let changed := s.change (s.course env n)[ended]?
  match (s.course env n)[ended + 1]? with
  | some (pause, _) =>
    { changed with underway := some (.cleaning n (ended + 1) (s.now + pause) rest) }
  | none => proceed env changed rest

/-- When the sweep after one that starts now is due. -/
def following (s : Timeline) : Nat :=
  (if s.due + leeway < s.now then s.now else s.due) + s.interval

def begin (env : Surroundings) (s : Timeline) : Timeline :=
  { s.record .ask with
    due := s.following
    underway := some (.waiting (s.now + env.wait s.attempts)) }

def next (s : Timeline) : Nat :=
  match s.underway with
  | some (.waiting ends) | some (.cleaning _ _ ends _) => max s.now ends
  | none => max s.now s.due

def step (env : Surroundings) (s : Timeline) : Timeline :=
  let s := { s with now := s.next }
  match s.underway with
  | some (.waiting _) => enter env s
  | some (.cleaning n ended _ rest) => resume env s n ended rest
  | none => begin env s

/-- What the sweep under way still has to deal with: nodes, and parts of a clean-up. -/
def work (env : Surroundings) (s : Timeline) : Nat × Nat :=
  match s.underway with
  | some (.waiting _) => (s.registry.directory.nodes.length + 1, 0)
  | some (.cleaning n ended _ rest) => (rest.length + 1, (s.course env n).length - ended)
  | none => (0, 0)

/-! ## Events come to an end -/

section
variable {env : Surroundings} {s : Timeline} {n : Node} {ended ends t : Nat} {rest : List Node}

theorem due_proceed (env : Surroundings) (s : Timeline) (nodes : List Node) :
    (proceed env s nodes).due = s.due := by
  induction nodes generalizing s with
  | nil => rfl
  | cons n rest ih =>
    rw [proceed]
    split
    · exact ih _
    · split
      · exact ih _
      · rfl

theorem due_enter (env : Surroundings) (s : Timeline) : (enter env s).due = s.due := by
  unfold enter
  split
  · rfl
  · dsimp only
    split
    · rfl
    · exact due_proceed ..

theorem due_change (s : Timeline) (part : Option (Nat × (Registry → Registry))) :
    (s.change part).due = s.due := by
  cases part <;> rfl

theorem due_resume (env : Surroundings) (s : Timeline) (n : Node) (ended : Nat)
    (rest : List Node) : (resume env s n ended rest).due = s.due := by
  unfold resume
  dsimp only
  split
  · exact due_change ..
  · rw [due_proceed, due_change]

theorem work_proceed_le (env : Surroundings) (s : Timeline) (nodes : List Node) :
    ((proceed env s nodes).work env).1 ≤ nodes.length := by
  induction nodes generalizing s with
  | nil => exact Nat.le_refl 0
  | cons n rest ih =>
    rw [proceed]
    split
    · exact Nat.le_succ_of_le (ih _)
    · split
      · exact Nat.le_succ_of_le (ih _)
      · exact Nat.le_refl _

theorem work_enter_lt (hu : s.underway = some (.waiting ends)) :
    ((enter env s).work env).1 < (s.work env).1 := by
  have hwork : (s.work env).1 = s.registry.directory.nodes.length + 1 := by rw [work, hu]
  rw [hwork]
  unfold enter
  split
  · exact Nat.succ_pos _
  · dsimp only
    split
    · exact Nat.succ_pos _
    · exact Nat.lt_succ_of_le (work_proceed_le ..)

theorem calls_change (s : Timeline) (part : Option (Nat × (Registry → Registry))) :
    (s.change part).calls = s.calls := by
  cases part with
  | none => rfl
  | some part => exact (calls_record s .change).trans (List.append_nil _)

/-- The end of a part of a clean-up leaves fewer parts of it, or fewer nodes. -/
theorem work_resume_lt (hu : s.underway = some (.cleaning n ended ends rest)) :
    Prod.Lex (· < ·) (· < ·) ((resume env s n ended rest).work env) (s.work env) := by
  have hwork : s.work env = (rest.length + 1, (s.course env n).length - ended) := by
    rw [work, hu]
  rw [hwork, Prod.lex_def]
  unfold resume
  dsimp only
  split
  · -- the same clean-up goes on
    rename_i part hpart
    have hlt : ended + 1 < (s.course env n).length := (List.getElem?_eq_some_iff.1 hpart).1
    have hcourse : (s.change (s.course env n)[ended]?).course env n = s.course env n := by
      rw [course, calls_change, course]
    refine .inr ⟨rfl, ?_⟩
    change ((s.change (s.course env n)[ended]?).course env n).length - (ended + 1)
      < (s.course env n).length - ended
    rw [hcourse]
    omega
  · exact .inl (Nat.lt_succ_of_le (work_proceed_le ..))

/-- An event brings the next sweep nearer to its time, or is one of the sweep under way. -/
theorem step_decreases (env : Surroundings) (s : Timeline) (t : Nat) (hi : 0 < s.interval)
    (ht : s.next ≤ t) : Prod.Lex (· < ·) (Prod.Lex (· < ·) (· < ·))
      (t + 1 - (s.step env).due, (s.step env).work env) (t + 1 - s.due, s.work env) := by
  rw [Prod.lex_def]
  unfold step
  dsimp only
  split
  · rename_i ends hu
    right
    rw [due_enter]
    exact ⟨rfl, Prod.lex_def.2 (.inl (work_enter_lt (s := { s with now := s.next }) hu))⟩
  · rename_i n ended ends rest hu
    right
    rw [due_resume]
    exact ⟨rfl, work_resume_lt (s := { s with now := s.next }) hu⟩
  · rename_i hu
    left
    have hnext : s.next = max s.now s.due := by rw [next, hu]
    simp only [begin, following]
    split <;> omega

end

/-- The scheduler at the time `t`, all events before then having taken place; what falls on `t`
itself is still to come. -/
def advance (env : Surroundings) (t : Nat) (s : Timeline) : Timeline :=
  if _ : s.stopped = false ∧ 0 < s.interval ∧ s.next < t then
    advance env t (s.step env)
  else { s with now := max s.now t }
termination_by (t + 1 - s.due, s.work env)
decreasing_by
  rename_i h
  exact step_decreases env s t h.2.1 (Nat.le_of_lt h.2.2)

/-- Gives up the sweep under way, and with it the lock. -/
def abandon (s : Timeline) : Timeline :=
  match s.underway with
  | some (.waiting _) => { s.record .giveUp with underway := none }
  | some (.cleaning ..) => { s.record .release with underway := none }
  | none => s

/-- Stops sweeping; says whether there was anything to be stopped. -/
def stop (s : Timeline) : Bool × Timeline := (!s.stopped, { s.abandon with stopped := true })

end Timeline
end GridKeeper.Sweep

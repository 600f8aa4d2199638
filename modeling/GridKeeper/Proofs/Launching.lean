import GridKeeper.Proofs.Interleaving

/-!
# Launching tests

A test process announces a launch, adds a session on the node that it was given, takes the
announcement back, runs its test, and removes the session; then it may launch the next test. Each of
these is a request on a connection of its own, and it is sent only when the request before it has
been answered with success. A process that is answered with an error, or not at all, stops for good;
it may also stop at any other time.

A `Launcher` is such a process. It knows of the grid only what it has been told: its phase is what
has been confirmed to it. The operation that it has asked for last may have been carried out already
without its knowing, and `Launcher.reached` is the phase with that taken into account.

Launchers work side by side with the connections and sweeps of `World`. Other connections may come
as well, but none that changes a count.

**Results.**
* `step_cases`: a step is one of the world, or a launcher asks, hears a reply, or stops.
-/
namespace GridKeeper

/-- Whether an operation may change a count. -/
def Registry.Operation.counting : Operation → Bool
  | pendingCount | sessionCount _ | knownHosts | addNode _ | removeNode _ | listNodes => false
  | _ => true

namespace Interleaving

/-! ## Connections -/

/-- Whether what a connection asks for is `op`, unless it cannot be read. -/
def asks (limit : Option Nat) (feed : Wire.Feed) (op : Registry.Operation) : Bool :=
  match request? limit feed with
  | some (.ok request) => request = .call op
  | _ => true

/-- Whether a connection asks for nothing that may change a count. -/
def neutral (limit : Option Nat) (feed : Wire.Feed) : Bool :=
  match request? limit feed with
  | some (.ok (.call op)) => !op.counting
  | _ => true

def Party.carried : Party → Bool
  | connection _ _ (.replying _) => true
  | connection _ _ (.leaving (.success _)) => true
  | connection _ _ (.closed (some (.success _))) => true
  | _ => false

/-- Whether a party has sent a reply of success. -/
def Party.confirmed : Party → Bool
  | connection _ _ (.leaving (.success _)) => true
  | connection _ _ (.closed (some (.success _))) => true
  | _ => false

def World.carried (w : World) (i : Nat) : Bool := w.parties[i]?.any Party.carried

def World.confirmed (w : World) (i : Nat) : Bool := w.parties[i]?.any Party.confirmed

/-! ## Launchers -/

inductive Phase where
  | idle
  /-- The launch is announced. -/
  | announced
  /-- There is a session on the node as well. -/
  | launching (k : Node.Key)
  /-- The announcement is taken back, and the test runs. -/
  | running (k : Node.Key)
deriving Repr, DecidableEq

/-- The phase that an operation leads to, if it is the next one of a launch. -/
def Phase.next? : Phase → Registry.Operation → Option Phase
  | idle, .addPending => some .announced
  | announced, .addSession k => some (.launching k)
  | launching k, .removePending => some (.running k)
  | running k, .removeSession key => if key = k then some .idle else none
  | _, _ => none

def Phase.pending : Phase → Bool
  | announced | launching _ => true
  | _ => false

def Phase.on (k : Node.Key) : Phase → Bool
  | launching key | running key => key = k
  | _ => false

structure Launcher where
  phase : Phase := .idle
  /-- What has been asked for and not been confirmed yet, and the connection. -/
  asked : Option (Nat × Registry.Operation) := none
  stopped : Bool := false
deriving Repr, DecidableEq

/-- How far the launch is, confirmed or not. -/
def Launcher.reached (w : World) (l : Launcher) : Phase :=
  match l.asked with
  | some (i, op) => if w.carried i then (l.phase.next? op).getD l.phase else l.phase
  | none => l.phase

/-- Whether the launch has been confirmed to be pending, and has not been asked to be so no more. -/
def Launcher.announces (l : Launcher) : Bool :=
  match l.phase, l.asked with
  | .announced, _ | .launching _, none => true
  | _, _ => false

/-- Whether a session on the node `k` has been confirmed, and has not been asked to be removed. -/
def Launcher.holds (k : Node.Key) (l : Launcher) : Bool :=
  match l.phase, l.asked with
  | .launching key, _ | .running key, none => key = k
  | _, _ => false

/-! ## Launchers at work -/

structure Bench where
  world : World
  launchers : List Launcher
deriving Repr, DecidableEq

/-- What happens next: something in the world, or launcher `c` asks for something over a new
connection, hears that it has been done, or stops. -/
inductive Act where
  | world (e : Event)
  | ask (c : Nat) (op : Registry.Operation) (limit : Option Nat) (feed : Wire.Feed)
  | hear (c : Nat)
  | stop (c : Nat)
deriving Repr, DecidableEq

/-- Whether an event is no change of a count asked for by somebody else. -/
def Event.neutral : Event → Bool
  | connect limit feed => Interleaving.neutral limit feed
  | _ => true

namespace Bench

def start (r : Registry) (n : Nat) : Bench := ⟨.start r, List.replicate n {}⟩

/-- What an act leads to; `none` if it cannot take place. -/
def step (run : Runner) (b : Bench) : Act → Option Bench
  | .world e =>
    if e.neutral then (b.world.step run e).map fun w => { b with world := w } else none
  | .ask c op limit feed => b.launchers[c]?.bind fun l =>
    if !l.stopped && l.asked.isNone && (l.phase.next? op).isSome && asks limit feed op then
      let l := { l with asked := some (b.world.parties.length, op) }
      some ⟨b.world.join (.connection limit feed .arrived), b.launchers.set c l⟩
    else none
  | .hear c => b.launchers[c]?.bind fun l => l.asked.bind fun (i, op) =>
    if !l.stopped && b.world.confirmed i then
      (l.phase.next? op).map fun phase =>
        { b with launchers := b.launchers.set c { l with phase := phase, asked := none } }
    else none
  | .stop c => b.launchers[c]?.map fun l =>
    { b with launchers := b.launchers.set c { l with stopped := true } }

abbrev exec (run : Runner) : Bench → List Act → Option Bench := Runs.exec (step run)

/-- Whether `b` is reached by `n` launchers from a start with the registry `r`. -/
def Reachable (run : Runner) (r : Registry) (n : Nat) (b : Bench) : Prop :=
  Runs.Reaches (step run) (start r n) b

/-! ## What a step can do -/

variable {run : Runner} {b b' : Bench} {a : Act}

theorem step_cases (h : b.step run a = some b') :
    (∃ e w, e.neutral = true ∧ b.world.step run e = some w ∧ b' = { b with world := w }) ∨
    (∃ c l op limit feed, b.launchers[c]? = some l ∧ l.asked = none ∧
      (l.phase.next? op).isSome = true ∧ asks limit feed op = true ∧
      b' = ⟨b.world.join (.connection limit feed .arrived),
        b.launchers.set c { l with asked := some (b.world.parties.length, op) }⟩) ∨
    (∃ c l i op phase, b.launchers[c]? = some l ∧ l.asked = some (i, op) ∧
      b.world.confirmed i = true ∧ l.phase.next? op = some phase ∧
      b' = { b with launchers := b.launchers.set c { l with phase := phase, asked := none } }) ∨
    (∃ c l, b.launchers[c]? = some l ∧
      b' = { b with launchers := b.launchers.set c { l with stopped := true } }) := by
  cases a with
  | world e =>
    simp only [step, Option.ite_none_right_eq_some, Option.map_eq_some_iff] at h
    obtain ⟨he, w, hw, rfl⟩ := h
    exact .inl ⟨e, w, he, hw, rfl⟩
  | ask c op limit feed =>
    simp only [step, Option.bind_eq_some_iff, Option.ite_none_right_eq_some, Bool.and_eq_true,
      Option.isNone_iff_eq_none] at h
    obtain ⟨l, hl, ⟨⟨⟨-, ha⟩, hn⟩, hq⟩, hb⟩ := h
    cases hb
    exact .inr (.inl ⟨c, l, op, limit, feed, hl, ha, hn, hq, rfl⟩)
  | hear c =>
    simp only [step, Option.bind_eq_some_iff, Option.ite_none_right_eq_some, Bool.and_eq_true,
      Option.map_eq_some_iff] at h
    obtain ⟨l, hl, ⟨i, op⟩, ha, ⟨-, hc⟩, phase, hp, rfl⟩ := h
    exact .inr (.inr (.inl ⟨c, l, i, op, phase, hl, ha, hc, hp, rfl⟩))
  | stop c =>
    simp only [step, Option.map_eq_some_iff] at h
    obtain ⟨l, hl, rfl⟩ := h
    exact .inr (.inr (.inr ⟨c, l, hl, rfl⟩))

end Bench
end Interleaving
end GridKeeper

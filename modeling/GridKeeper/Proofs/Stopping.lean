import GridKeeper.Proofs.Runs
import GridKeeper.Proofs.Timetable

/-!
# Stopping sweeps

A scheduler of sweeps goes from one event of its own to the next. In between, others do things to
the registry, and at some time it is told to stop. It stops on the spot, wherever it is: waiting for
the next sweep, waiting for the lock, or in the middle of a clean-up. The lock is free then, and
nothing more comes from the scheduler. What it did until then is what it would have done anyhow.

The signal to stop is an event like any other here, so when it comes at the time of another event,
either of the two may be the first.

**Results.**
* `sound_exec`: whatever happens, the timetable is kept to.
* `exists_goes`: time does not stand still, however many events there are.
* `exec_of_stopped`: nothing more comes from a stopped scheduler.
* `log_of_running`: a scheduler that is not stopped does nothing before its next event.
* `stop_at_any_time`: all of this together, for every course of events.
-/
namespace GridKeeper.Sweep

inductive Event where
  | go
  /-- Something is done to the registry from outside. -/
  | outside (time : Nat) (effect : Registry → Registry)
  | stop (time : Nat)

/-- What was done to a registry from outside, by what happened. -/
def outcome (events : List Event) (r : Registry) : Registry :=
  events.foldl (fun r e => match e with
    | .outside _ effect => effect r
    | _ => r) r

namespace Timeline

/-- Whether it gets as late as `t` before the next event of a scheduler. -/
def Reaches (s : Timeline) (t : Nat) : Prop := s.now ≤ t ∧ (s.stopped = true ∨ t ≤ s.next)

instance (s : Timeline) (t : Nat) : Decidable (s.Reaches t) :=
  inferInstanceAs (Decidable (_ ∧ _))

def halt (s : Timeline) (t : Nat) : Timeline := { s with now := t }.stop.2

/-- What something that happens leaves, if it can happen. -/
def happen (env : Surroundings) (s : Timeline) : Event → Option Timeline
  | .go => if s.stopped then none else some (s.step env)
  | .outside t effect =>
    if s.Reaches t then some { s with now := t, registry := effect s.registry } else none
  | .stop t => if s.Reaches t then some (s.halt t) else none

abbrev exec (env : Surroundings) : Timeline → List Event → Option Timeline :=
  Runs.exec (happen env)

section
variable {env : Surroundings} {s s' s'' : Timeline} {e : Event} {es : List Event} {i t : Nat}

theorem happen_cases (h : happen env s e = some s') :
    (e = .go ∧ s.stopped = false ∧ s' = s.step env) ∨
      (∃ t effect, e = .outside t effect ∧ s.Reaches t ∧
        s' = { s with now := t, registry := effect s.registry }) ∨
      ∃ t, e = .stop t ∧ s.Reaches t ∧ s' = s.halt t := by
  cases e with
  | go =>
    rw [happen] at h
    split at h
    · cases h
    · exact .inl ⟨rfl, by simpa using ‹¬s.stopped = true›, (Option.some.inj h).symm⟩
  | outside t effect =>
    rw [happen] at h
    split at h
    · exact .inr (.inl ⟨t, effect, rfl, ‹_›, (Option.some.inj h).symm⟩)
    · cases h
  | stop t =>
    rw [happen] at h
    split at h
    · exact .inr (.inr ⟨t, rfl, ‹_›, (Option.some.inj h).symm⟩)
    · cases h

/-! ## One event -/

theorem now_step (env : Surroundings) (s : Timeline) : (s.step env).now = s.next := by
  rcases step_cases env s with ⟨-, hstep⟩ | ⟨-, hacts⟩
  · rw [hstep]
    rfl
  · exact hacts.now

theorem stopped_step (env : Surroundings) (s : Timeline) : (s.step env).stopped = s.stopped := by
  rcases step_cases env s with ⟨-, hstep⟩ | ⟨-, hacts⟩
  · rw [hstep]
    rfl
  · exact hacts.stopped

theorem log_step (env : Surroundings) (s : Timeline) :
    ∃ later, (s.step env).log = s.log ++ later ∧ ∀ d ∈ later, d.1 = s.next := by
  rcases step_cases env s with ⟨-, hstep⟩ | ⟨-, hacts⟩
  · rw [hstep]
    exact ⟨[(s.next, .ask)], rfl, by simp⟩
  · obtain ⟨later, hlog, hlater⟩ := hacts.log
    exact ⟨later, hlog, fun d hd => (hlater d hd).1⟩

/-- Giving up is the last deed of the sweep under way, if there is one. -/
theorem halt_cases (s : Timeline) (t : Nat) :
    (s.underway = none ∧ s.halt t = { s with now := t, stopped := true }) ∨
      ∃ d, (d = .giveUp ∨ d = .release) ∧ s.halt t =
        { ({ s with now := t } : Timeline).record d with underway := none, stopped := true } := by
  cases hu : s.underway with
  | none => exact .inl ⟨rfl, by simp only [halt, stop, abandon, hu]⟩
  | some u =>
    cases u with
    | waiting ends => exact .inr ⟨.giveUp, .inl rfl, by simp only [halt, stop, abandon, hu]⟩
    | cleaning => exact .inr ⟨.release, .inr rfl, by simp only [halt, stop, abandon, hu]⟩

theorem underway_halt (s : Timeline) (t : Nat) : (s.halt t).underway = none := by
  rcases halt_cases s t with ⟨hidle, hhalt⟩ | ⟨d, -, hhalt⟩ <;> rw [hhalt]
  exact hidle

theorem now_halt (s : Timeline) (t : Nat) : (s.halt t).now = t := by
  rcases halt_cases s t with ⟨-, hhalt⟩ | ⟨d, -, hhalt⟩ <;> rw [hhalt]
  rfl

theorem registry_halt (s : Timeline) (t : Nat) : (s.halt t).registry = s.registry := by
  rcases halt_cases s t with ⟨-, hhalt⟩ | ⟨d, -, hhalt⟩ <;> rw [hhalt]
  rfl

theorem calls_halt (s : Timeline) (t : Nat) : (s.halt t).calls = s.calls := by
  rcases halt_cases s t with ⟨-, hhalt⟩ | ⟨d, hd, hhalt⟩ <;> rw [hhalt]
  · rfl
  · refine (calls_record _ d).trans ?_
    rcases hd with rfl | rfl <;> exact List.append_nil _

theorem starts_halt (s : Timeline) (t : Nat) : (s.halt t).starts = s.starts := by
  rcases halt_cases s t with ⟨-, hhalt⟩ | ⟨d, hd, hhalt⟩ <;> rw [hhalt]
  · rfl
  · refine (starts_record _ d).trans ?_
    rcases hd with rfl | rfl <;> exact List.append_nil _

theorem sound_halt (h : Sound i s.phase { s with now := t }) :
    Sound i (s.halt t).phase (s.halt t) := by
  have hidle : Sound i .idle ({ s with now := t } : Timeline).abandon :=
    sound_acts h (acts_abandon { s with now := t })
  have hphase : (s.halt t).phase = .idle := by rw [phase, underway_halt]
  rw [hphase]
  exact { hidle with fresh := fun hrun => by cases hrun }

theorem sound_reaches (h : Sound i s.phase s) (ht : s.Reaches t) :
    Sound i s.phase { s with now := t } := by
  refine sound_pass h ht.1 fun hrun hnil => ?_
  rcases ht.2 with hstop | hle
  · simp [hrun] at hstop
  · exact (h.next_eq hrun hnil).2 ▸ hle

theorem sound_happen (h : Sound i s.phase s) (hs : happen env s e = some s') :
    Sound i s'.phase s' := by
  rcases happen_cases hs with ⟨-, hrun, rfl⟩ | ⟨t, effect, -, ht, rfl⟩ | ⟨t, -, ht, rfl⟩
  · exact sound_step env h hrun
  · exact (sound_reaches h ht).congr rfl
  · exact sound_halt (sound_reaches h ht)

theorem sound_exec (h : Sound i s.phase s) (hs : exec env s es = some s') :
    Sound i s'.phase s' :=
  Runs.exec_induct (P := fun s => Sound i s.phase s) (fun _ => True)
    (fun _ _ _ hp _ hs => sound_happen hp hs) h (fun _ _ => trivial) hs

/-! ## The clock -/

/-- A scheduler that is not stopped gets as late as one likes. -/
theorem exists_goes (h : Sound i s.phase s) (hi : 0 < i) (hrun : s.stopped = false)
    (hle : s.now ≤ t) :
    ∃ k s', exec env s (List.replicate k .go) = some s' ∧ s'.stopped = false ∧ s'.Reaches t ∧
      advance env t s = { s' with now := t } := by
  induction s using advance.induct env t with
  | case1 s hnext ih =>
    obtain ⟨-, -, hlt⟩ := hnext
    have hrun₁ : (s.step env).stopped = false := (stopped_step env s).trans hrun
    have hle₁ : (s.step env).now ≤ t := now_step env s ▸ Nat.le_of_lt hlt
    obtain ⟨k, s', hexec, hrest⟩ := ih (sound_step env h hrun) hrun₁ hle₁
    refine ⟨k + 1, s', ?_, ?_⟩
    · rw [List.replicate_succ, exec, Runs.exec_cons, happen, hrun]
      exact hexec
    · rw [advance, dif_pos ⟨hrun, h.interval ▸ hi, hlt⟩]
      exact hrest
  | case2 s hnext =>
    have hle' : t ≤ s.next := by
      have hinterval : 0 < s.interval := h.interval ▸ hi
      exact Nat.le_of_not_lt fun hlt => hnext ⟨hrun, hinterval, hlt⟩
    refine ⟨0, s, rfl, hrun, ⟨hle, .inr hle'⟩, ?_⟩
    rw [advance, dif_neg hnext, Nat.max_eq_right hle]

/-! ## After the signal -/

/-- Nothing more comes from a stopped scheduler. -/
theorem exec_of_stopped (hstop : s.stopped = true) (hidle : s.underway = none)
    (hs : exec env s es = some s') :
    s'.stopped = true ∧ s'.underway = none ∧ s'.log = s.log ∧
      s'.registry = outcome es s.registry := by
  induction es generalizing s with
  | nil =>
    obtain rfl : s = s' := Option.some.inj hs
    exact ⟨hstop, hidle, rfl, rfl⟩
  | cons e es ih =>
    obtain ⟨s₁, h₁, h₂⟩ := Runs.exec_cons_eq_some.1 hs
    rcases happen_cases h₁ with ⟨-, hrun, -⟩ | ⟨t, effect, rfl, -, rfl⟩ | ⟨t, rfl, -, rfl⟩
    · simp [hstop] at hrun
    · exact ih (s := { s with now := t, registry := effect s.registry }) hstop hidle h₂
    · have hsame : s.halt t = { s with now := t, stopped := true } := by
        simp only [halt, stop, abandon, hidle]
      rw [hsame] at h₂
      exact ih (s := { s with now := t, stopped := true }) rfl hidle h₂

/-! ## What would have happened anyhow -/

theorem next_le_next_step (env : Surroundings) (s : Timeline) : s.next ≤ (s.step env).next := by
  have hle := now_le_next (s.step env)
  rwa [now_step] at hle

/-- Time going by, or something done from outside, does not bring the next event nearer. -/
theorem next_le_next_pass (s : Timeline) (r : Registry) (hle : s.now ≤ t) :
    s.next ≤ ({ s with now := t, registry := r } : Timeline).next := by
  unfold next
  dsimp only
  split <;> omega

/-- A scheduler that is not stopped does nothing before its next event. -/
theorem log_of_running (hrun : s.stopped = false) (ht : t ≤ s.next)
    (hs : exec env s es = some s') (hrun' : s'.stopped = false) :
    ∃ later, s'.log = s.log ++ later ∧ ∀ d ∈ later, t ≤ d.1 := by
  induction es generalizing s with
  | nil =>
    obtain rfl : s = s' := Option.some.inj hs
    exact ⟨[], (List.append_nil _).symm, nofun⟩
  | cons e es ih =>
    obtain ⟨s₁, h₁, h₂⟩ := Runs.exec_cons_eq_some.1 hs
    rcases happen_cases h₁ with ⟨-, -, rfl⟩ | ⟨t', effect, -, ht', rfl⟩ | ⟨t', -, -, rfl⟩
    · obtain ⟨done, hdone, htimes⟩ := log_step env s
      have ht₁ : t ≤ (s.step env).next := Nat.le_trans ht (next_le_next_step env s)
      obtain ⟨later, hlog, hlater⟩ := ih ((stopped_step env s).trans hrun) ht₁ h₂
      refine ⟨done ++ later, by rw [hlog, hdone, List.append_assoc], fun d hd => ?_⟩
      rcases List.mem_append.1 hd with hd | hd
      · rwa [htimes d hd]
      · exact hlater d hd
    · have ht₁ := Nat.le_trans ht (next_le_next_pass s (effect s.registry) ht'.1)
      exact ih (s := { s with now := t', registry := effect s.registry }) hrun ht₁ h₂
    · -- once stopped, it remains so
      simp [(exec_of_stopped rfl (underway_halt s t') h₂).1] at hrun'

theorem calls_of_log {later : List (Nat × Deed)} (hlog : s'.log = s.log ++ later)
    (hlater : ∀ d ∈ later, t ≤ d.1) :
    ∃ more, s'.calls = s.calls ++ more ∧ ∀ c ∈ more, t ≤ c.1 := by
  refine ⟨_, by rw [calls, hlog, List.filterMap_append]; rfl, fun c hc => ?_⟩
  obtain ⟨⟨t', d⟩, hd, hc⟩ := List.mem_filterMap.1 hc
  have ht' := hlater _ hd
  cases d <;> simp at hc
  subst hc
  exact ht'

/-! ## Stopping at any time -/

/-- What becomes of a scheduler that is told to stop at the time `t`. -/
structure Halted (env : Surroundings) (t : Nat) (s s' : Timeline) : Prop where
  stopped : s'.stopped = true
  now : s'.now = t
  idle : s'.underway = none
  /-- The lock is free. -/
  free : s'.held = false
  registry : s'.registry = s.registry
  calls : s'.calls = s.calls
  past : ∀ d ∈ s'.log, d.1 ≤ t
  /-- Nothing more comes from the scheduler. -/
  after : ∀ es s'', exec env s' es = some s'' →
    s''.log = s'.log ∧ s''.underway = none ∧ s''.registry = outcome es s'.registry
  /-- What else would have been called, had it not been told to stop, is called from then on. -/
  alike : ∀ es s'', exec env s es = some s'' → s''.stopped = false →
    ∃ more, s''.calls = s'.calls ++ more ∧ ∀ c ∈ more, t ≤ c.1

theorem halted (h : Sound i s.phase s) (hrun : s.stopped = false) (ht : s.Reaches t) :
    Halted env t s (s.halt t) := by
  have hsound : Sound i (s.halt t).phase (s.halt t) := sound_halt (sound_reaches h ht)
  have hidle := underway_halt s t
  have hnow := now_halt s t
  have hcalls := calls_halt s t
  have hnext : t ≤ s.next := by simpa [hrun] using ht.2
  refine ⟨rfl, hnow, hidle, ?_, registry_halt s t, hcalls, ?_, ?_, ?_⟩
  · have hphase : (s.halt t).phase ≠ .holding := by simp [phase, hidle]
    simpa [hphase] using hsound.held_iff
  · intro d hd
    exact hnow ▸ hsound.past d hd
  · intro es s'' hs
    obtain ⟨-, hidle', hlog, hregistry⟩ := exec_of_stopped rfl hidle hs
    exact ⟨hlog, hidle', hregistry⟩
  · intro es s'' hs hrun'
    obtain ⟨later, hlog, hlater⟩ := log_of_running hrun hnext hs hrun'
    rw [hcalls]
    exact calls_of_log hlog hlater

/-- **Sweeps keep to their timetable and can be stopped at any time.** Whatever happens to a
scheduler, the first sweep starts after one interval, the k-th one no earlier than after k, and none
before the one ahead of it is over. As long as the scheduler is not stopped it gets as late as one
likes, and it can be told to stop at any time that it gets to. It stops at that time, and `Halted`
says what becomes of it. -/
theorem stop_at_any_time (env : Surroundings) (ms : Nat) (r : Registry) (es : List Event)
    (s : Timeline) (hs : exec env (start ms r) es = some s) :
    Timetable (intervalFor ms) s ∧
      (s.stopped = false → intervalFor ms < s.now → s.starts[0]? = some (intervalFor ms)) ∧
      (s.stopped = false → ∀ t, s.now ≤ t → ∃ k s',
        exec env s (List.replicate k .go) = some s' ∧ s'.stopped = false ∧ s'.Reaches t ∧
          advance env t s = { s' with now := t }) ∧
      (s.stopped = false → ∀ t, s.Reaches t → ∃ s',
        happen env s (.stop t) = some s' ∧ Halted env t s s' ∧
          (intervalFor ms < t → s'.starts[0]? = some (intervalFor ms))) := by
  have hsound : Sound (intervalFor ms) s.phase s := sound_exec (sound_start ms r) hs
  have hpos : 0 < intervalFor ms := by simp only [intervalFor, shortestInterval]; omega
  -- once the first interval is over, a first sweep has started
  have hbegun : ∀ {s : Timeline}, Sound (intervalFor ms) s.phase s → s.stopped = false →
      intervalFor ms < s.now → s.starts[0]? = some (intervalFor ms) := by
    intro s h hrun hlt
    cases hstarts : s.starts with
    | nil => have := (h.fresh hrun hstarts).2; omega
    | cons t rest => simp [← h.first t (by simp [hstarts])]
  refine ⟨hsound.toTimetable, hbegun hsound, fun hrun t hle => ?_, fun hrun t ht => ?_⟩
  · exact exists_goes hsound hpos hrun hle
  · refine ⟨s.halt t, by rw [happen, if_pos ht], halted hsound hrun ht, fun hlt => ?_⟩
    rw [starts_halt]
    have hpass : Sound (intervalFor ms) s.phase { s with now := t } := sound_reaches hsound ht
    exact hbegun (s := { s with now := t }) hpass hrun hlt

theorem stop_at_any_time_amid_call :
    let n : Node := ⟨"http", "grid.test", some 81⟩
    let env : Surroundings := ⟨fun _ => 3, fun _ => .ok (),
      fun _ _ => [(10, (·.after .addPending)), (20, (·.after .removePending))]⟩
    let events : List Event := [.outside 30000 (·.after .addPending),
      .outside 40000 (·.after .removePending), .go, .go, .go]
    ∃ s s', exec env (start 5000 ⟨{}, ⟨[n]⟩⟩) events = some s ∧ s.held = true ∧
      Timetable 60000 s ∧ happen env s (.stop 60020) = some s' ∧ Halted env 60020 s s' ∧
      s'.calls = [(60003, n)] ∧ s'.registry.ledger.pending = 1 ∧ s'.starts[0]? = some 60000 := by
  intro n env events
  have he : (exec env (start 5000 ⟨{}, ⟨[n]⟩⟩) events).map (fun s =>
      (decide (s.stopped = false ∧ s.Reaches 60020 ∧ s.held = true), s.calls,
        s.registry.ledger.pending)) = some (true, [(60003, n)], 1) := by decide +kernel
  obtain ⟨s, hs, hfacts⟩ := Option.map_eq_some_iff.1 he
  simp only [Prod.mk.injEq, decide_eq_true_eq] at hfacts
  obtain ⟨⟨hrun, hreaches, hheld⟩, hcalls, hpending⟩ := hfacts
  obtain ⟨htable, -, -, hstop⟩ := stop_at_any_time env 5000 _ events s hs
  obtain ⟨s', hs', hhalted, hfirst⟩ := hstop hrun 60020 hreaches
  exact ⟨s, s', hs, hheld, htable, hs', hhalted, hhalted.calls.trans hcalls,
    hhalted.registry ▸ hpending, hfirst (by decide)⟩

end
end Timeline
end GridKeeper.Sweep

import GridKeeper.Sweep.Timeline

/-!
# The timetable of sweeps

Whatever a sweep meets with, it asks for the lock once, and its deeds come in a fixed order: either
it is not given the lock and is over, or it is given the lock, looks at the registry, has nodes
cleaned, and gives the lock up. `Acts` says this of every event of a scheduler, and the timetable is
derived from it: the first sweep starts one interval after the start of the scheduler, the k-th one
no earlier than k intervals after it, and no sweep starts before the one ahead of it is over.

What carries the induction is when the next sweep is due: never before the number of sweeps so far,
and one more, times the interval (`Sound.ahead`).

**Results.**
* `step_cases`: an event is the start of a sweep, or deeds of the sweep under way.
* `sound_step`: every event keeps to the timetable.
-/
namespace GridKeeper.Sweep

/-- Whether a deed is the last one of a sweep. -/
def Deed.ending : Deed → Bool
  | .refused | .giveUp | .release => true
  | _ => false

inductive Phase where
  | idle
  | asking
  | holding
deriving Repr, DecidableEq

/-- The number of sweeps under way. -/
def Phase.underway : Phase → Nat
  | .idle => 0
  | _ => 1

/-- What a deed within a sweep leads to. -/
inductive Leads : Phase → Deed → Phase → Prop where
  | granted : Leads .asking .granted .holding
  | refused : Leads .asking .refused .idle
  | giveUp : Leads .asking .giveUp .idle
  | look : Leads .holding .look .holding
  | call (n : Node) : Leads .holding (.call n) .holding
  | change : Leads .holding .change .holding
  | release : Leads .holding .release .idle

namespace Timeline

def phase (s : Timeline) : Phase :=
  match s.underway with
  | none => .idle
  | some (.waiting _) => .asking
  | some (.cleaning ..) => .holding

def starts (s : Timeline) : List Nat := (s.log.filter (·.2 = .ask)).map (·.1)

def ends (s : Timeline) : List Nat := (s.log.filter (·.2.ending)).map (·.1)

/-- Whether a scheduler has the lock, by what it did. -/
def held (s : Timeline) : Bool :=
  s.log.foldl (fun held d => match d.2 with
    | .granted => true
    | .release => false
    | _ => held) false

section
variable {env : Surroundings} {s s' s₁ : Timeline} {p q : Phase} {d : Deed} {i t : Nat}

/-! ## The order of deeds -/

/-- A scheduler but for the registry and what is under way. -/
def bare (s : Timeline) : Timeline := { s with registry := {}, underway := none }

/-- One scheduler is what another one becomes by deeds at one point in time, which lead from one
phase to another. -/
inductive Acts : Phase → Timeline → Phase → Timeline → Prop where
  | done {p : Phase} {s s' : Timeline} (same : s'.bare = s.bare) : Acts p s p s'
  | more {p q q' : Phase} {d : Deed} {s s₁ s' : Timeline} (leads : Leads p d q)
      (same : s₁.bare = (s.record d).bare) (acts : Acts q s₁ q' s') : Acts p s q' s'

theorem acts_one (hd : Leads p d q) (hs : s'.bare = (s.record d).bare) : Acts p s q s' :=
  .more hd hs (.done rfl)

theorem acts_proceed (env : Surroundings) (s : Timeline) (nodes : List Node) :
    Acts .holding s (proceed env s nodes).phase (proceed env s nodes) := by
  induction nodes generalizing s with
  | nil => exact acts_one .release rfl
  | cons n rest ih =>
    rw [proceed]
    split
    · exact .more .look rfl (ih _)
    · split
      · exact .more .look rfl (.more (.call n) rfl (ih _))
      · exact .more .look rfl (acts_one (.call n) rfl)

theorem acts_enter (env : Surroundings) (s : Timeline) :
    Acts .asking s (enter env s).phase (enter env s) := by
  unfold enter
  split
  · exact acts_one .refused rfl
  · dsimp only
    split
    · exact .more .granted rfl (.more .look rfl (acts_one .release rfl))
    · exact .more .granted rfl (.more .look rfl (.more .look rfl (acts_proceed ..)))

theorem acts_resume (env : Surroundings) (s : Timeline) (n : Node) (ended : Nat)
    (rest : List Node) :
    Acts .holding s (resume env s n ended rest).phase (resume env s n ended rest) := by
  -- what is done at the end of the part, if anything, comes first
  have hchange : ∀ {s'}, Acts .holding (s.change (s.course env n)[ended]?) s'.phase s' →
      Acts .holding s s'.phase s' := by
    intro s' h
    cases hp : (s.course env n)[ended]? with
    | none => rwa [hp] at h
    | some part =>
      rw [hp] at h
      have hbare : (s.change (some part)).bare = (s.record .change).bare := rfl
      exact .more .change hbare h
  apply hchange
  unfold resume
  dsimp only
  split
  · exact .done rfl
  · exact acts_proceed ..

theorem acts_abandon (s : Timeline) : Acts s.phase s .idle s.abandon := by
  unfold abandon
  split <;> rename_i hu <;> simp only [phase, hu]
  · exact acts_one .giveUp rfl
  · exact acts_one .release rfl
  · exact .done rfl

/-- What an event is: a sweep starts, or deeds of the sweep under way. -/
theorem step_cases (env : Surroundings) (s : Timeline) :
    (s.underway = none ∧ s.step env = begin env { s with now := s.next }) ∨
      (s.underway ≠ none ∧
        Acts s.phase { s with now := s.next } (s.step env).phase (s.step env)) := by
  cases hu : s.underway with
  | none => exact .inl ⟨rfl, by simp only [step, hu]⟩
  | some u =>
    refine .inr ⟨nofun, ?_⟩
    cases u with
    | waiting ends =>
      have hstep : s.step env = enter env { s with now := s.next } := by simp only [step, hu]
      rw [hstep, phase, hu]
      exact acts_enter ..
    | cleaning n ended ends rest =>
      have hstep : s.step env = resume env { s with now := s.next } n ended rest := by
        simp only [step, hu]
      rw [hstep, phase, hu]
      exact acts_resume ..

/-! ## What deeds leave alone -/

/-- Deeds take place at the time they are done, and come behind those done before. -/
theorem Acts.log (h : Acts p s q s') :
    ∃ later, s'.log = s.log ++ later ∧ ∀ d ∈ later, d.1 = s.now ∧ d.2 ≠ .ask := by
  induction h with
  | @done p s s' same =>
    have hlog : s'.log = s.log := (congrArg Timeline.log same :)
    exact ⟨[], by simp [hlog], by simp⟩
  | @more p q q' d s s₁ s' leads same acts ih =>
    obtain ⟨later, hlog, hlater⟩ := ih
    have hnow : s₁.now = s.now := (congrArg Timeline.now same :)
    have hlog₁ : s₁.log = s.log ++ [(s.now, d)] := (congrArg Timeline.log same :)
    refine ⟨(s.now, d) :: later, by simp [hlog, hlog₁], ?_⟩
    intro d' hd'
    rcases List.mem_cons.1 hd' with rfl | hd'
    · exact ⟨rfl, by cases leads <;> nofun⟩
    · exact hnow ▸ hlater d' hd'

theorem Acts.now (h : Acts p s q s') : s'.now = s.now := by
  induction h with
  | done same => exact (congrArg Timeline.now same :)
  | more _ same _ ih => exact ih.trans (congrArg Timeline.now same :)

theorem Acts.stopped (h : Acts p s q s') : s'.stopped = s.stopped := by
  induction h with
  | done same => exact (congrArg Timeline.stopped same :)
  | more _ same _ ih => exact ih.trans (congrArg Timeline.stopped same :)

/-! ## The timetable -/

@[simp] theorem starts_record (s : Timeline) (d : Deed) :
    (s.record d).starts = s.starts ++ if d = .ask then [s.now] else [] := by
  by_cases hd : d = .ask <;> simp [starts, record, hd]

@[simp] theorem ends_record (s : Timeline) (d : Deed) :
    (s.record d).ends = s.ends ++ if d.ending then [s.now] else [] := by
  by_cases hd : d.ending <;> simp [ends, record, hd]

@[simp] theorem held_record (s : Timeline) (d : Deed) :
    (s.record d).held = match d with
      | .granted => true
      | .release => false
      | _ => s.held := by
  cases d <;> simp [held, record]

structure Timetable (i : Nat) (s : Timeline) : Prop where
  /-- The first sweep starts after one interval. -/
  first : ∀ t : Nat, s.starts[0]? = some t → t = i
  /-- Each sweep starts no earlier than its number of intervals allows. -/
  spaced : ∀ k t : Nat, s.starts[k]? = some t → (k + 1) * i ≤ t
  /-- No sweep starts before the one ahead of it is over. -/
  apart : ∀ k t : Nat, s.starts[k + 1]? = some t → ∃ e : Nat, s.ends[k]? = some e ∧ e ≤ t
  /-- No sweep is over before it starts. -/
  inside : ∀ k e : Nat, s.ends[k]? = some e → ∃ t : Nat, s.starts[k]? = some t ∧ t ≤ e

structure Sound (i : Nat) (p : Phase) (s : Timeline) : Prop extends Timetable i s where
  interval : s.interval = i
  past : ∀ d ∈ s.log, d.1 ≤ s.now
  balanced : s.starts.length = s.ends.length + p.underway
  held_iff : s.held = true ↔ p = .holding
  ahead : (s.starts.length + 1) * i ≤ s.due
  fresh : s.stopped = false → s.starts = [] → s.due = i ∧ s.now ≤ i

theorem Sound.congr (h : Sound i p s) (hs : s'.bare = s.bare) : Sound i p s' := by
  obtain ⟨⟨h₁, h₂, h₃, h₄⟩, h₅, h₆, h₇, h₈, h₉, h₁₀⟩ := h
  have hbare : Sound i p s.bare := ⟨⟨h₁, h₂, h₃, h₄⟩, h₅, h₆, h₇, h₈, h₉, h₁₀⟩
  rw [← hs] at hbare
  obtain ⟨⟨h₁, h₂, h₃, h₄⟩, h₅, h₆, h₇, h₈, h₉, h₁₀⟩ := hbare
  exact ⟨⟨h₁, h₂, h₃, h₄⟩, h₅, h₆, h₇, h₈, h₉, h₁₀⟩

theorem Sound.le_now (h : Sound i p s) {which : Nat × Deed → Bool} {k : Nat}
    (ht : ((s.log.filter which).map (·.1))[k]? = some t) : t ≤ s.now := by
  obtain ⟨d, hd, rfl⟩ := List.mem_map.1 (List.mem_of_getElem? ht)
  exact h.past d (List.mem_filter.1 hd).1

theorem sound_start (ms : Nat) (r : Registry) :
    Sound (intervalFor ms) (start ms r).phase (start ms r) := by
  have hstarts : (start ms r).starts = [] := rfl
  have hends : (start ms r).ends = [] := rfl
  refine ⟨⟨?_, ?_, ?_, ?_⟩, rfl, nofun, rfl, ⟨nofun, nofun⟩, ?_, ?_⟩
  · simp [hstarts]
  · simp [hstarts]
  · simp [hstarts]
  · simp [hends]
  · rw [hstarts, List.length_nil, Nat.zero_add, Nat.one_mul]
    exact Nat.le_refl _
  · intro _ _
    exact ⟨rfl, Nat.zero_le _⟩

theorem some_append {l : List Nat} {k : Nat} (m : List Nat) (h : l[k]? = some t) :
    (l ++ m)[k]? = some t := by
  rw [List.getElem?_append_left (List.getElem?_eq_some_iff.1 h).1, h]

/-- A number in a list with one more at its end is an old one or the new one. -/
theorem some_concat {l : List Nat} {k n : Nat} (h : (l ++ [n])[k]? = some t) :
    l[k]? = some t ∨ (k = l.length ∧ t = n) := by
  by_cases hk : k < l.length
  · exact .inl (List.getElem?_append_left hk ▸ h)
  · have hlt := (List.getElem?_eq_some_iff.1 h).1
    have hlast : k = l.length := by simp at hlt; omega
    subst hlast
    exact .inr ⟨rfl, by simpa using h.symm⟩

theorem past_record (h : Sound i p s) (d : Deed) : ∀ d' ∈ (s.record d).log, d'.1 ≤ s.now := by
  intro d' hd'
  rcases List.mem_append.1 hd' with hd' | hd'
  · exact h.past d' hd'
  · exact Nat.le_of_eq (congrArg Prod.fst (List.mem_singleton.1 hd'))

/-- A deed within a sweep keeps to the timetable. -/
theorem sound_record (h : Sound i p s) (hd : Leads p d q) : Sound i q (s.record d) := by
  have hp : p.underway = 1 := by cases hd <;> rfl
  have hq : q.underway = if d.ending then 0 else 1 := by cases hd <;> rfl
  have hstarts : (s.record d).starts = s.starts := by cases hd <;> simp
  have hends : (s.record d).ends = s.ends ++ if d.ending then [s.now] else [] := ends_record s d
  have hbalanced := h.balanced
  refine ⟨⟨hstarts ▸ h.first, hstarts ▸ h.spaced, ?_, ?_⟩, h.interval, past_record h d, ?_, ?_,
    hstarts ▸ h.ahead, hstarts ▸ h.fresh⟩
  · intro k t ht
    rw [hstarts] at ht
    obtain ⟨e, he, hle⟩ := h.apart k t ht
    exact ⟨e, by rw [hends, some_append _ he], hle⟩
  · intro k e he
    rw [hstarts]
    by_cases hd' : d.ending
    · rw [hends, if_pos hd'] at he
      rcases some_concat he with he | ⟨rfl, rfl⟩
      · exact h.inside k e he
      · -- what is over is the last sweep that started
        have ht := List.getElem?_eq_getElem (l := s.starts) (i := s.ends.length) (by omega)
        exact ⟨_, ht, h.le_now ht⟩
    · rw [hends, if_neg hd', List.append_nil] at he
      exact h.inside k e he
  · rw [hstarts, hends, hq, List.length_append]
    split <;> simp <;> omega
  · have hheld := h.held_iff
    cases hd <;> simp_all

theorem sound_acts (h : Sound i p s) (ha : Acts p s q s') : Sound i q s' := by
  induction ha with
  | done same => exact h.congr same
  | more leads same _ ih => exact ih ((sound_record h leads).congr same)

theorem sound_begin (h : Sound i .idle s) (hdue : s.due ≤ s.now)
    (hfirst : s.starts = [] → s.now = i) : Sound i .asking (begin env s) := by
  have hbalanced : s.starts.length = s.ends.length := h.balanced
  have hstarts : (begin env s).starts = s.starts ++ [s.now] := starts_record s .ask
  have hends : (begin env s).ends = s.ends := (ends_record s .ask).trans (List.append_nil _)
  have hheld : (begin env s).held = s.held := held_record s .ask
  have hahead := h.ahead
  have hinterval := h.interval
  refine ⟨⟨?_, ?_, ?_, ?_⟩, h.interval, past_record h .ask, ?_, ?_, ?_, ?_⟩
  · intro t ht
    rw [hstarts] at ht
    rcases some_concat ht with ht | ⟨hnil, rfl⟩
    · exact h.first t ht
    · exact hfirst (List.length_eq_zero_iff.1 hnil.symm)
  · intro k t ht
    rw [hstarts] at ht
    rcases some_concat ht with ht | ⟨rfl, rfl⟩
    · exact h.spaced k t ht
    · omega
  · intro k t ht
    rw [hstarts] at ht
    rw [hends]
    rcases some_concat ht with ht | ⟨hk, rfl⟩
    · exact h.apart k t ht
    · -- every sweep before this one is over by now
      have he := List.getElem?_eq_getElem (l := s.ends) (i := k) (by omega)
      exact ⟨_, he, h.le_now he⟩
  · intro k e he
    rw [hends] at he
    obtain ⟨t, ht, hle⟩ := h.inside k e he
    exact ⟨t, by rw [hstarts, some_append _ ht], hle⟩
  · rw [hstarts, hends, List.length_append, hbalanced]
    rfl
  · rw [hheld]
    simpa using h.held_iff
  · have hdue' : (begin env s).due = s.following := rfl
    rw [hstarts, hdue', List.length_append, List.length_singleton, following, Nat.add_mul]
    split <;> omega
  · intro _ hnil
    simp [hstarts] at hnil

theorem sound_pass (h : Sound i p s) (hle : s.now ≤ t)
    (hfresh : s.stopped = false → s.starts = [] → t ≤ i) : Sound i p { s with now := t } :=
  { h with
    past := fun d hd => Nat.le_trans (h.past d hd) hle
    fresh := fun hrun hnil => ⟨(h.fresh hrun hnil).1, hfresh hrun hnil⟩ }

theorem now_le_next (s : Timeline) : s.now ≤ s.next := by
  unfold next
  split <;> exact Nat.le_max_left ..

/-- Until the first sweep starts, nothing else takes place. -/
theorem Sound.next_eq (h : Sound i s.phase s) (hrun : s.stopped = false) (hnil : s.starts = []) :
    s.underway = none ∧ s.next = i := by
  have hfresh := h.fresh hrun hnil
  have hbalanced := h.balanced
  have hidle : s.underway = none := by
    cases hu : s.underway with
    | none => rfl
    | some u => cases u <;> simp [phase, hu, Phase.underway, hnil] at hbalanced
  refine ⟨hidle, ?_⟩
  rw [next, hidle]
  simp only
  omega

theorem sound_step (env : Surroundings) (h : Sound i s.phase s) (hrun : s.stopped = false) :
    Sound i (s.step env).phase (s.step env) := by
  have hpass : Sound i s.phase { s with now := s.next } :=
    sound_pass h (now_le_next s) fun hrun hnil => Nat.le_of_eq (h.next_eq hrun hnil).2
  rcases step_cases env s with ⟨hidle, hstep⟩ | ⟨_, hacts⟩
  · have hnext : s.next = max s.now s.due := by rw [next, hidle]
    have hphase : s.phase = .idle := by rw [phase, hidle]
    rw [hphase] at hpass
    rw [hstep]
    exact sound_begin hpass (hnext ▸ Nat.le_max_right ..) fun hnil => (h.next_eq hrun hnil).2
  · exact sound_acts hpass hacts

end
end Timeline
end GridKeeper.Sweep

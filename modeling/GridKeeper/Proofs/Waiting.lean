import GridKeeper.Lock.Acquisition

/-!
# Waiting for the lock

The naps between attempts fix when the lock is tried, whatever is found: at once, behind each nap,
and for the last time when the time allowed is up. Waiting goes through these times in order, and
the first attempt that does not find the lock held decides.

**Results.**
* `acquired_iff`, `failed_iff`, `timedOut_iff`: how waiting ends, told from the schedule and from
  what is found at its times.
* `asked_le`: a nap is asked to end when the time allowed is up, or before.
* `length_schedule_le`, `reaches_of_every`: in regular intervals there are few attempts, and the
  last of them is made when the time is up.
* `bounded`: what the lock promises of waiting, at any pace and whatever is found.
-/
namespace GridKeeper.Lock

/-- When the lock is tried as long as it is found held. -/
def schedule (limit : Nat) : List Nap → Nat → List Nat
  | [], now => [now]
  | nap :: rest, now =>
    now :: if limit ≤ now then []
      else schedule limit rest (now + nap.asked limit now + nap.excess)

variable {resource other : Nat → Attempt} {limit now t : Nat} {nap : Nap} {naps : List Nap}
  {cause : String}

/-! ## The schedule -/

theorem schedule_of_late (h : limit ≤ now) (naps : List Nap) : schedule limit naps now = [now] := by
  cases naps with
  | nil => rfl
  | cons nap rest => rw [schedule, if_pos h]

theorem schedule_of_early (h : now < limit) : schedule limit (nap :: naps) now =
    now :: schedule limit naps (now + nap.asked limit now + nap.excess) := by
  rw [schedule, if_neg (Nat.not_le_of_lt h)]

theorem now_mem_schedule (limit : Nat) (naps : List Nap) (now : Nat) :
    now ∈ schedule limit naps now := by
  cases naps <;> exact .head _

/-- All attempts but the last are made before the time is up. -/
theorem lt_of_schedule {before after : List Nat}
    (h : schedule limit naps now = before ++ t :: after) : ∀ x ∈ before, x < limit := by
  induction naps generalizing now before with
  | nil =>
    cases before with
    | nil => nofun
    | cons x before => cases before <;> cases (List.cons.inj h).2
  | cons nap rest ih =>
    by_cases hl : limit ≤ now
    · rw [schedule_of_late hl] at h
      cases before with
      | nil => nofun
      | cons x before => cases before <;> cases (List.cons.inj h).2
    · have hl : now < limit := Nat.lt_of_not_le hl
      rw [schedule_of_early hl] at h
      cases before with
      | nil => nofun
      | cons x before =>
        obtain ⟨rfl, htail⟩ := List.cons.inj h
        exact List.forall_mem_cons.2 ⟨hl, ih htail⟩

theorem asked_le (h : now ≤ limit) (nap : Nap) : now + nap.asked limit now ≤ limit := by
  have := Nat.min_le_right nap.wanted (limit - now)
  unfold Nap.asked
  omega

/-! ## How waiting goes -/

theorem acquire_of_free (h : resource now = .free) (limit : Nat) (naps : List Nap) :
    acquire resource limit naps now = .acquired now := by
  unfold acquire
  rw [h]

theorem acquire_of_broken (h : resource now = .broken cause) (limit : Nat) (naps : List Nap) :
    acquire resource limit naps now = .failed now cause := by
  unfold acquire
  rw [h]

theorem acquire_of_late (h : resource now = .held) (hl : limit ≤ now) (naps : List Nap) :
    acquire resource limit naps now = .timedOut now := by
  unfold acquire
  rw [h]
  exact if_pos hl

theorem acquire_nil (h : resource now = .held) (hl : now < limit) :
    acquire resource limit [] now = .waiting now := by
  unfold acquire
  rw [h]
  exact if_neg (Nat.not_le_of_lt hl)

theorem acquire_cons (h : resource now = .held) (hl : now < limit) :
    acquire resource limit (nap :: naps) now =
      acquire resource limit naps (now + nap.asked limit now + nap.excess) := by
  rw [acquire, h]
  exact if_neg (Nat.not_le_of_lt hl)

/-- The attempt at the time `t` is made, all attempts before it having found the lock held, and
`after` are the times that would follow. -/
def Comes (resource : Nat → Attempt) (limit : Nat) (naps : List Nap) (now t : Nat)
    (after : List Nat) : Prop :=
  ∃ before, schedule limit naps now = before ++ t :: after ∧ ∀ x ∈ before, resource x = .held

/-- What the attempt that ends the waiting, or the last one so far, has found. -/
def Found (resource : Nat → Attempt) (limit : Nat) (after : List Nat) : Ending → Prop
  | .acquired t => resource t = .free
  | .failed t cause => resource t = .broken cause
  | .timedOut t => resource t = .held ∧ limit ≤ t
  | .waiting t => resource t = .held ∧ t < limit ∧ after = []

/-- When waiting ended, or the time of the last attempt so far. -/
def Ending.time : Ending → Nat
  | acquired t | failed t _ | timedOut t | waiting t => t

/-- The attempt that waiting ends with is made, and ends it. -/
theorem acquire_comes (resource : Nat → Attempt) (limit : Nat) (naps : List Nap) (now : Nat) :
    ∃ after, Comes resource limit naps now (acquire resource limit naps now).time after ∧
      Found resource limit after (acquire resource limit naps now) := by
  induction naps generalizing now with
  | nil =>
    have hc : Comes resource limit [] now now [] := ⟨[], rfl, nofun⟩
    cases hr : resource now with
    | free => rw [acquire_of_free hr]; exact ⟨[], hc, hr⟩
    | broken cause => rw [acquire_of_broken hr]; exact ⟨[], hc, hr⟩
    | held =>
      by_cases hl : limit ≤ now
      · rw [acquire_of_late hr hl]
        exact ⟨[], hc, hr, hl⟩
      · rw [acquire_nil hr (Nat.lt_of_not_le hl)]
        exact ⟨[], hc, hr, Nat.lt_of_not_le hl, rfl⟩
  | cons nap rest ih =>
    obtain ⟨after, hsplit⟩ : ∃ after, schedule limit (nap :: rest) now = now :: after := ⟨_, rfl⟩
    have hc : Comes resource limit (nap :: rest) now now after := ⟨[], hsplit, nofun⟩
    cases hr : resource now with
    | free => rw [acquire_of_free hr]; exact ⟨after, hc, hr⟩
    | broken cause => rw [acquire_of_broken hr]; exact ⟨after, hc, hr⟩
    | held =>
      by_cases hl : limit ≤ now
      · rw [acquire_of_late hr hl]
        exact ⟨after, hc, hr, hl⟩
      · have hl : now < limit := Nat.lt_of_not_le hl
        rw [acquire_cons hr hl]
        obtain ⟨after, ⟨before, hs, hheld⟩, hf⟩ := ih (now + nap.asked limit now + nap.excess)
        refine ⟨after, ⟨now :: before, ?_, List.forall_mem_cons.2 ⟨hr, hheld⟩⟩, hf⟩
        rw [schedule_of_early hl, hs]
        rfl

/-- Waiting goes through the schedule up to the first attempt that does not find the lock held. -/
theorem acquire_of_split {before after : List Nat} (hr : resource t ≠ .held)
    (hs : schedule limit naps now = before ++ t :: after) (hb : ∀ x ∈ before, resource x = .held) :
    acquire resource limit naps now = acquire resource limit [] t := by
  induction naps generalizing now before with
  | nil =>
    cases before with
    | nil => rw [(List.cons.inj hs).1]
    | cons x before => cases before <;> cases (List.cons.inj hs).2
  | cons nap rest ih =>
    cases before with
    | nil =>
      obtain ⟨rfl, -⟩ := List.cons.inj hs
      cases h : resource now with
      | free => rw [acquire_of_free h, acquire_of_free h]
      | broken cause => rw [acquire_of_broken h, acquire_of_broken h]
      | held => exact absurd h hr
    | cons x before =>
      obtain ⟨hx, hrest⟩ := List.forall_mem_cons.1 hb
      have hl : x < limit := lt_of_schedule hs x (.head _)
      obtain ⟨rfl, htail⟩ := List.cons.inj hs
      rw [if_neg (Nat.not_le_of_lt hl)] at htail
      rw [acquire_cons hx hl]
      exact ih htail hrest

/-! ## How waiting ends -/

/-- Of some times, the first at which the lock is not found held. -/
theorem exists_first {times : List Nat} (ht : t ∈ times) (hr : resource t ≠ .held) :
    ∃ before x after, times = before ++ x :: after ∧ resource x ≠ .held ∧
      ∀ y ∈ before, resource y = .held := by
  induction times with
  | nil => cases ht
  | cons x times ih =>
    by_cases hx : resource x = .held
    · have ht : t ∈ times := (List.mem_cons.1 ht).resolve_left fun e => hr (e ▸ hx)
      obtain ⟨before, y, after, rfl, hy, hb⟩ := ih ht
      exact ⟨x :: before, y, after, rfl, hy, List.forall_mem_cons.2 ⟨hx, hb⟩⟩
    · exact ⟨[], x, times, rfl, hx, nofun⟩

/-- The lock is got if and only if some attempt of the schedule finds it free, and none before that
fails. -/
theorem acquired_iff : (∃ t, acquire resource limit naps now = .acquired t) ↔
    ∃ before t after, schedule limit naps now = before ++ t :: after ∧ resource t = .free ∧
      ∀ x ∈ before, ∀ cause, resource x ≠ .broken cause := by
  constructor
  · rintro ⟨t, h⟩
    obtain ⟨after, ⟨before, hs, hb⟩, hf⟩ := acquire_comes resource limit naps now
    rw [h] at hs hf
    exact ⟨before, t, after, hs, hf, fun x hx cause => by rw [hb x hx]; nofun⟩
  · rintro ⟨before, t, after, hs, hfree, hb⟩
    obtain ⟨front, x, back, hsplit, hx, hheld⟩ :=
      exists_first (List.mem_append_right before (List.mem_singleton_self t))
        (by rw [hfree]; nofun : resource t ≠ .held)
    have hxfree : resource x = .free := by
      rcases List.mem_append.1 (hsplit ▸ List.mem_append_right front (.head back)) with hm | hm
      · cases h : resource x with
        | free => rfl
        | held => exact absurd h hx
        | broken cause => exact absurd h (hb x hm cause)
      · rw [List.mem_singleton.1 hm, hfree]
    have hwhole : schedule limit naps now = front ++ x :: (back ++ after) := by
      rw [hs, List.append_cons, hsplit, List.append_assoc, List.cons_append]
    exact ⟨x, (acquire_of_split hx hwhole hheld).trans (acquire_of_free hxfree _ _)⟩

theorem failed_iff : (∃ t, acquire resource limit naps now = .failed t cause) ↔
    ∃ before t after, schedule limit naps now = before ++ t :: after ∧
      resource t = .broken cause ∧ ∀ x ∈ before, resource x = .held := by
  constructor
  · rintro ⟨t, h⟩
    obtain ⟨after, ⟨before, hs, hb⟩, hf⟩ := acquire_comes resource limit naps now
    rw [h] at hs hf
    exact ⟨before, t, after, hs, hf, hb⟩
  · rintro ⟨before, t, after, hs, hbroken, hb⟩
    exact ⟨t, (acquire_of_split (by rw [hbroken]; nofun) hs hb).trans
      (acquire_of_broken hbroken _ _)⟩

theorem acquire_of_held (h : ∀ x ∈ schedule limit naps now, resource x = .held) :
    ∃ before t, schedule limit naps now = before ++ [t] ∧
      acquire resource limit naps now = if limit ≤ t then .timedOut t else .waiting t := by
  induction naps generalizing now with
  | nil =>
    refine ⟨[], now, rfl, ?_⟩
    split
    · rename_i hl
      exact acquire_of_late (h now (now_mem_schedule _ _ _)) hl []
    · rename_i hl
      exact acquire_nil (h now (now_mem_schedule _ _ _)) (Nat.lt_of_not_le hl)
  | cons nap rest ih =>
    have hnow := h now (now_mem_schedule _ _ _)
    by_cases hl : limit ≤ now
    · refine ⟨[], now, schedule_of_late hl _, ?_⟩
      rw [acquire_of_late hnow hl, if_pos hl]
    · have hl : now < limit := Nat.lt_of_not_le hl
      rw [schedule_of_early hl] at h ⊢
      obtain ⟨before, t, hs, ha⟩ := ih (List.forall_mem_cons.1 h).2
      exact ⟨now :: before, t, by rw [hs]; rfl, (acquire_cons hnow hl).trans ha⟩

/-- An attempt behind which no other comes, the time being up or no nap being left. -/
theorem held_of_last {before after : List Nat}
    (hs : schedule limit naps now = before ++ t :: after) (hb : ∀ x ∈ before, resource x = .held)
    (ht : resource t = .held) (hl : limit ≤ t ∨ after = []) :
    (∃ before, schedule limit naps now = before ++ [t]) ∧
      ∀ x ∈ schedule limit naps now, resource x = .held := by
  have hend : after = [] := by
    cases after with
    | nil => rfl
    | cons y after =>
      rw [List.append_cons] at hs
      have hearly := lt_of_schedule hs t (List.mem_append_right _ (.head _))
      exact hl.elim (fun hl => absurd hearly (Nat.not_lt_of_le hl)) nofun
  subst hend
  refine ⟨⟨before, hs⟩, fun x hx => ?_⟩
  rcases List.mem_append.1 (hs ▸ hx) with hm | hm
  · exact hb x hm
  · rw [List.mem_singleton.1 hm]
    exact ht

/-- Waiting is in vain if and only if all attempts of the schedule find the lock held, and the last
of them is made when the time is up. -/
theorem timedOut_iff : acquire resource limit naps now = .timedOut t ↔
    (∃ before, schedule limit naps now = before ++ [t]) ∧ limit ≤ t ∧
      ∀ x ∈ schedule limit naps now, resource x = .held := by
  constructor
  · intro h
    obtain ⟨after, ⟨before, hs, hb⟩, hf⟩ := acquire_comes resource limit naps now
    rw [h] at hs hf
    obtain ⟨hheld, hl⟩ := hf
    obtain ⟨hlast, hall⟩ := held_of_last hs hb hheld (.inl hl)
    exact ⟨hlast, hl, hall⟩
  · rintro ⟨⟨before, hs⟩, hl, hheld⟩
    obtain ⟨before', t', hs', ha⟩ := acquire_of_held hheld
    obtain ⟨-, ht⟩ := List.append_inj' (hs.symm.trans hs') rfl
    cases ht
    rw [ha, if_pos hl]

theorem waiting_iff : acquire resource limit naps now = .waiting t ↔
    (∃ before, schedule limit naps now = before ++ [t]) ∧ t < limit ∧
      ∀ x ∈ schedule limit naps now, resource x = .held := by
  constructor
  · intro h
    obtain ⟨after, ⟨before, hs, hb⟩, hf⟩ := acquire_comes resource limit naps now
    rw [h] at hs hf
    obtain ⟨hheld, hl, hend⟩ := hf
    obtain ⟨hlast, hall⟩ := held_of_last hs hb hheld (.inr hend)
    exact ⟨hlast, hl, hall⟩
  · rintro ⟨⟨before, hs⟩, hl, hheld⟩
    obtain ⟨before', t', hs', ha⟩ := acquire_of_held hheld
    obtain ⟨-, ht⟩ := List.append_inj' (hs.symm.trans hs') rfl
    cases ht
    rw [ha, if_neg (Nat.not_le_of_lt hl)]

theorem acquire_congr (h : ∀ x ∈ schedule limit naps now, other x = resource x) :
    acquire other limit naps now = acquire resource limit naps now := by
  induction naps generalizing now with
  | nil => simp only [acquire, h now (now_mem_schedule _ _ _)]
  | cons nap rest ih =>
    have hnow := h now (now_mem_schedule _ _ _)
    cases hr : resource now with
    | free => rw [acquire_of_free hr, acquire_of_free (hnow.trans hr)]
    | broken cause => rw [acquire_of_broken hr, acquire_of_broken (hnow.trans hr)]
    | held =>
      by_cases hl : limit ≤ now
      · rw [acquire_of_late hr hl, acquire_of_late (hnow.trans hr) hl]
      · have hl : now < limit := Nat.lt_of_not_le hl
        rw [schedule_of_early hl] at h
        rw [acquire_cons hr hl, acquire_cons (hnow.trans hr) hl]
        exact ih (List.forall_mem_cons.1 h).2

/-! ## How long waiting goes on -/

/-- A resource that stays free from some time on is got at an attempt from then on at the latest,
unless an attempt fails before. -/
theorem acquired_of_freed {freed : Nat} (hfree : ∀ x, freed ≤ x → resource x = .free)
    (hsound : ∀ x ∈ schedule limit naps now, x < freed → ∀ cause, resource x ≠ .broken cause)
    (hr : ∃ x ∈ schedule limit naps now, freed ≤ x) :
    ∃ t, acquire resource limit naps now = .acquired t := by
  obtain ⟨x, hx, hle⟩ := hr
  obtain ⟨before, after, hs⟩ := List.append_of_mem hx
  refine acquired_iff.2 ⟨before, x, after, hs, hfree x hle, fun y hy cause => ?_⟩
  by_cases hf : freed ≤ y
  · rw [hfree y hf]
    nofun
  · exact hsound y (hs ▸ List.mem_append_left _ hy) (Nat.lt_of_not_le hf) cause

/-- Waiting is never in vain for a resource that is free when the time is up. -/
theorem not_timedOut_of_freed {freed : Nat} (hfree : ∀ x, freed ≤ x → resource x = .free)
    (hle : freed ≤ limit) : acquire resource limit naps now ≠ .timedOut t := by
  intro h
  obtain ⟨⟨before, hs⟩, hl, hheld⟩ := timedOut_iff.1 h
  have hheld := hheld t (hs ▸ List.mem_append_right _ (.head _))
  rw [hfree t (Nat.le_trans hle hl)] at hheld
  cases hheld

/-! ## Regular intervals -/

section
variable {p : Nat}

theorem next_attempt_ge (hp : nap.wanted = p) (limit now : Nat) :
    min (now + p) limit ≤ now + nap.asked limit now + nap.excess := by
  unfold Nap.asked
  omega

/-- Attempts that are all made before the time is up are a whole interval apart. -/
theorem lt_of_all_early (hn : ∀ nap ∈ naps, nap.wanted = p)
    (h : ∀ x ∈ schedule limit naps now, x < limit) : now + p * naps.length < limit := by
  induction naps generalizing now with
  | nil => exact h now (now_mem_schedule _ _ _)
  | cons nap rest ih =>
    have hnow := h now (now_mem_schedule _ _ _)
    rw [schedule_of_early hnow] at h
    have htail := (List.forall_mem_cons.1 h).2
    have hlater := htail _ (now_mem_schedule _ _ _)
    have hrest := ih (fun nap hm => hn nap (.tail _ hm)) htail
    have hge := next_attempt_ge (hn nap (.head _)) limit now
    rw [List.length_cons, Nat.mul_succ]
    omega

/-- Once there are enough naps, the last attempt is made when the time is up. -/
theorem reaches_of_every (hn : ∀ nap ∈ naps, nap.wanted = p) (h : limit ≤ now + p * naps.length) :
    ∃ x ∈ schedule limit naps now, limit ≤ x := by
  refine Decidable.byContradiction fun hnone => ?_
  have hall : ∀ x ∈ schedule limit naps now, x < limit := fun x hx =>
    Nat.lt_of_not_le fun hle => hnone ⟨x, hx, hle⟩
  exact Nat.not_lt_of_le h (lt_of_all_early hn hall)

/-- In regular intervals there are as many attempts as there are intervals, begun or whole, in the
time allowed, and one more. -/
theorem length_schedule_le (hp : 0 < p) (hn : ∀ nap ∈ naps, nap.wanted = p) :
    (schedule limit naps now).length ≤ (limit - now + (p - 1)) / p + 1 := by
  induction naps generalizing now with
  | nil => exact Nat.le_add_left _ _
  | cons nap rest ih =>
    by_cases hl : limit ≤ now
    · rw [schedule_of_late hl]
      exact Nat.le_add_left _ _
    · have hl : now < limit := Nat.lt_of_not_le hl
      have hge := next_attempt_ge (hn nap (.head _)) limit now
      have hrest := @ih (now + nap.asked limit now + nap.excess) fun nap hm => hn nap (.tail _ hm)
      rw [schedule_of_early hl, List.length_cons]
      generalize now + nap.asked limit now + nap.excess = later at hge hrest
      have hstep : (limit - later + (p - 1)) / p + 1 ≤ (limit - now + (p - 1)) / p := by
        by_cases hend : limit ≤ later
        · rw [Nat.sub_eq_zero_of_le hend, Nat.zero_add, Nat.div_eq_of_lt (by omega)]
          exact (Nat.one_le_div_iff hp).2 (by omega)
        · rw [← Nat.add_div_right _ hp]
          exact Nat.div_le_div_right (by omega)
      omega

end

/-! ## What is promised of waiting -/

theorem wanted_le (longest : Nat) (chance : Chance) :
    ((Pace.upTo longest).nap chance).wanted ≤ longest := by
  have hm : chance.draw % (Pace.millis longest + 1) ≤ longest / milli :=
    Nat.le_trans (Nat.le_of_lt_succ (Nat.mod_lt _ (Nat.succ_pos _))) (Nat.min_le_left _ _)
  exact Nat.le_trans (Nat.mul_le_mul_right milli hm) (Nat.div_mul_le_self longest milli)

variable {name : String}

theorem result_eq_ok {e : Ending} : e.result name = some (.ok ()) ↔ ∃ t, e = .acquired t := by
  cases e <;> simp [Ending.result]

theorem result_eq_io {e : Ending} :
    e.result name = some (.error (.io name cause)) ↔ ∃ t, e = .failed t cause := by
  cases e <;> simp [Ending.result]

theorem result_eq_timeout {e : Ending} {waited : Nat} :
    e.result name = some (.error (.timeout name waited)) ↔
      ∃ t, e = .timedOut t ∧ waited = t / milli := by
  cases e <;> simp [Ending.result, eq_comm]

theorem result_eq_none {e : Ending} : e.result name = none ↔ ∃ t, e = .waiting t := by
  cases e <;> simp [Ending.result]

/-- Waiting for the lock called `name`, for the time `limit` at most, with the naps that come of
`pace` and of chance. -/
structure Bounded (resource : Nat → Attempt) (name : String) (limit : Nat) (pace : Pace)
    (chances : List Chance) : Prop where
  /-- The lock is got if and only if some attempt of the schedule finds it free, and none before
  fails. -/
  got : (acquire resource limit (chances.map pace.nap) 0).result name = some (.ok ()) ↔
    ∃ before t after, schedule limit (chances.map pace.nap) 0 = before ++ t :: after ∧
      resource t = .free ∧ ∀ x ∈ before, ∀ cause, resource x ≠ .broken cause
  /-- Waiting fails if and only if an attempt fails first. -/
  broken : ∀ cause, (acquire resource limit (chances.map pace.nap) 0).result name =
      some (.error (.io name cause)) ↔
    ∃ before t after, schedule limit (chances.map pace.nap) 0 = before ++ t :: after ∧
      resource t = .broken cause ∧ ∀ x ∈ before, resource x = .held
  /-- Waiting is in vain if and only if all attempts find the lock held, and the last of them is made
  when the time is up; that is the time that is told. -/
  vain : ∀ waited, (acquire resource limit (chances.map pace.nap) 0).result name =
      some (.error (.timeout name waited)) ↔
    ∃ before t, schedule limit (chances.map pace.nap) 0 = before ++ [t] ∧ limit ≤ t ∧
      waited = t / milli ∧ ∀ x ∈ schedule limit (chances.map pace.nap) 0, resource x = .held
  /-- Otherwise more naps are to come, the time not being up. -/
  going : (acquire resource limit (chances.map pace.nap) 0).result name = none ↔
    ∃ before t, schedule limit (chances.map pace.nap) 0 = before ++ [t] ∧ t < limit ∧
      ∀ x ∈ schedule limit (chances.map pace.nap) 0, resource x = .held
  /-- No attempt is made but those of the schedule. -/
  scheduled : ∀ other : Nat → Attempt,
    (∀ x ∈ schedule limit (chances.map pace.nap) 0, other x = resource x) →
      acquire other limit (chances.map pace.nap) 0 = acquire resource limit (chances.map pace.nap) 0
  /-- What becomes free by the end of the time and stays free is not waited for in vain; it is got as
  soon as an attempt comes that late, if none fails before. -/
  freed : ∀ freed ≤ limit, (∀ x, freed ≤ x → resource x = .free) →
    (∀ waited, (acquire resource limit (chances.map pace.nap) 0).result name ≠
      some (.error (.timeout name waited))) ∧
    ((∀ x ∈ schedule limit (chances.map pace.nap) 0, x < freed →
        ∀ cause, resource x ≠ .broken cause) →
      (∃ x ∈ schedule limit (chances.map pace.nap) 0, freed ≤ x) →
      (acquire resource limit (chances.map pace.nap) 0).result name = some (.ok ()))
  /-- A nap begins before the time is up, and is asked to last to its end at most. -/
  asked : ∀ done chance rest now, chances = done ++ chance :: rest →
    acquire resource limit (done.map pace.nap) 0 = .waiting now →
      now < limit ∧ now + (pace.nap chance).asked limit now ≤ limit
  /-- In regular intervals, attempts are few, and waiting ends with the naps of as many intervals as
  it takes to fill the time. -/
  regular : ∀ p, pace = .every p → 0 < p →
    (schedule limit (chances.map pace.nap) 0).length ≤ (limit + (p - 1)) / p + 1 ∧
    (limit ≤ p * chances.length →
      (∃ x ∈ schedule limit (chances.map pace.nap) 0, limit ≤ x) ∧
      (acquire resource limit (chances.map pace.nap) 0).result name ≠ none)
  /-- Random naps keep to their bound. -/
  random : ∀ longest, pace = .upTo longest → ∀ chance, (pace.nap chance).wanted ≤ longest

/-- Waiting has ended once an attempt was made when the time was up. -/
theorem result_ne_none (h : ∃ x ∈ schedule limit naps now, limit ≤ x) :
    (acquire resource limit naps now).result name ≠ none := by
  intro hnone
  obtain ⟨t, ht⟩ := result_eq_none.1 hnone
  obtain ⟨⟨before, hs⟩, hl, -⟩ := waiting_iff.1 ht
  obtain ⟨x, hx, hle⟩ := h
  rcases List.mem_append.1 (hs ▸ hx) with hm | hm
  · exact Nat.not_lt_of_le hle (lt_of_schedule hs x hm)
  · rw [List.mem_singleton.1 hm] at hle
    exact Nat.not_lt_of_le hle hl

/-- **Waiting is bounded.** -/
theorem bounded (resource : Nat → Attempt) (name : String) (limit : Nat) (pace : Pace)
    (chances : List Chance) : Bounded resource name limit pace chances where
  got := result_eq_ok.trans acquired_iff
  broken cause := result_eq_io.trans failed_iff
  vain waited := by
    rw [result_eq_timeout]
    constructor
    · rintro ⟨t, ht, rfl⟩
      obtain ⟨⟨before, hs⟩, hl, hheld⟩ := timedOut_iff.1 ht
      exact ⟨before, t, hs, hl, rfl, hheld⟩
    · rintro ⟨before, t, hs, hl, rfl, hheld⟩
      exact ⟨t, timedOut_iff.2 ⟨⟨before, hs⟩, hl, hheld⟩, rfl⟩
  going := by
    rw [result_eq_none]
    constructor
    · rintro ⟨t, ht⟩
      obtain ⟨⟨before, hs⟩, hl, hheld⟩ := waiting_iff.1 ht
      exact ⟨before, t, hs, hl, hheld⟩
    · rintro ⟨before, t, hs, hl, hheld⟩
      exact ⟨t, waiting_iff.2 ⟨⟨before, hs⟩, hl, hheld⟩⟩
  scheduled other h := acquire_congr h
  freed freed hle hfree := by
    refine ⟨fun waited hw => ?_, fun hsound hr => result_eq_ok.2 (acquired_of_freed hfree hsound hr)⟩
    obtain ⟨t, ht, -⟩ := result_eq_timeout.1 hw
    exact not_timedOut_of_freed hfree hle ht
  asked done chance rest now _ hw := by
    obtain ⟨-, hl, -⟩ := waiting_iff.1 hw
    exact ⟨hl, asked_le (Nat.le_of_lt hl) _⟩
  regular p hp hpos := by
    have hn : ∀ nap ∈ chances.map pace.nap, nap.wanted = p := by
      intro nap hm
      obtain ⟨chance, -, rfl⟩ := List.mem_map.1 hm
      rw [hp]
      rfl
    refine ⟨length_schedule_le hpos hn, fun hl => ?_⟩
    have hreach : ∃ x ∈ schedule limit (chances.map pace.nap) 0, limit ≤ x :=
      reaches_of_every hn (by rwa [List.length_map, Nat.zero_add])
    exact ⟨hreach, result_ne_none hreach⟩
  random longest hp chance := by
    rw [hp]
    exact wanted_le longest chance

end GridKeeper.Lock

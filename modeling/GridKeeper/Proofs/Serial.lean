import GridKeeper.Proofs.Interleaving

/-!
# Mixed steps come to the same as one after the other

Parties that take their steps in any order, as long as only one of them holds the lock at a time,
come to what they would come to one after the other: `serial?` lets the parties that got the lock
take whole turns in the order in which they got it, each turn being `Exchange.serve?` or
`Sweep.tick` on the registry that the turns before it left.

The proof looks forward from where a party stands. `Party.onward?` says what would come of it if
nobody else did anything from now on. A move of the party keeps that (`onward_move`), a move of
another party does not touch it while the party holds the lock, and at the moment when it gets the
lock it is what a whole turn would come to (`alone_granted`). `Replayed` puts this together for a
whole run, as an invariant (`replayed_step`).

**Results.**
* `serializable`: the turns in the order of the lock give the same replies, reports and clean-ups
  and the same registry; each party does in its own order what it would do alone, and one that
  never got the lock comes to what a failed attempt comes to and leaves the registry alone.
-/
namespace GridKeeper.Interleaving

inductive Result where
  | reply (reply : Option Wire.Reply)
  | report (report : Sweep.Report)
deriving Repr, DecidableEq

structure Turn where
  result : Result
  activities : List Activity
  registry : Registry
deriving Repr, DecidableEq

/-- Clean-ups that leave the registry alone. -/
def still (outcome : Nat → Node → Sweep.Outcome) : Sweep.Cleaner := fun calls n r =>
  (outcome calls n, r)

/-- The turn of a party that is alone, given how its attempt to get the lock ends; `none` if it
never ends. -/
def Party.alone? (outcome : Nat → Node → Sweep.Outcome) (attempt : Except Lock.Failure Unit)
    (r : Registry) : Party → Option Turn
  | connection limit feed _ =>
    (Exchange.serve? limit attempt feed r).map fun e => ⟨.reply e.reply, e.activities, e.registry⟩
  | sweep _ =>
    let (report, after) := Sweep.tick attempt (still outcome) r
    some ⟨.report report, report.activities, after⟩

/-- Turns one after the other. -/
def serial? (turn? : Nat → Registry → Option Turn) :
    List Nat → Registry → Option (List (Nat × Turn) × Registry)
  | [], r => some ([], r)
  | i :: rest, r =>
    (turn? i r).bind fun t =>
      (serial? turn? rest t.registry).map fun (turns, r) => ((i, t) :: turns, r)

def order (log : List (Nat × Activity)) : List Nat :=
  log.filterMap fun (i, a) => if a = .attempt true then some i else none

/-- The node whose clean-up an activity starts. -/
def cleaned? : Activity → Option Node
  | .clean n => some n
  | _ => none

/-- The clean-ups that were started, in order, each with the sweep that started it. -/
def calls (log : List (Nat × Activity)) : List (Nat × Node) :=
  log.filterMap fun (i, a) => (cleaned? a).map (i, ·)

/-- What was done by party `i`, in order. -/
def deeds (log : List (Nat × Activity)) (i : Nat) : List Activity :=
  (log.filter (·.1 == i)).map (·.2)

/-- What has come of a party that is done with the lock. A reply of error may still be unsent. -/
def Party.result? : Party → Option Result
  | connection _ _ (.closed reply) => some (.reply reply)
  | connection _ _ (.refusing m) => some (.reply (some (.error m)))
  | sweep (.ended report) => some (.report report)
  | _ => none

/-- What such a party is still to do. -/
def Party.unsent : Party → List Activity
  | connection _ _ (.refusing m) => [.send (.error m)]
  | _ => []

/-! ## What is still to come of a party -/

/-- `rest` is what is left of the turn `t` once `done` has been done. -/
structure Turn.Left (t : Turn) (done : List Activity) (rest : Turn) : Prop where
  result : rest.result = t.result
  activities : t.activities = done ++ rest.activities
  registry : rest.registry = t.registry

theorem Turn.Left.trans {t u v : Turn} {as bs : List Activity} (h : t.Left as u)
    (h' : u.Left bs v) : t.Left (as ++ bs) v where
  result := h'.result.trans h.result
  activities := by rw [h.activities, h'.activities, List.append_assoc]
  registry := h'.registry.trans h.registry

/-- What a connection does with a reply while it holds the lock. -/
def parting : Wire.Reply → List Activity
  | .success m => [.send (.success m), .release]
  | .error m => [.release, .send (.error m)]

/-- The report that a sweep goes on to, and the nodes whose clean-up is still to be started. -/
def Course.onward? (outcome : Nat → Node → Sweep.Outcome) (r : Registry) :
    Course → Option (Sweep.Report × List Node)
  | entered =>
    let report := (Sweep.underLock (still outcome) r).1
    some (report, report.cleaned)
  | copying =>
    let more := (Sweep.walk (still outcome) 0 r.directory.nodes r).1
    some (.walked more, cleanedIn more)
  | walking reports rest =>
    let more := (Sweep.walk (still outcome) (cleanedIn reports).length rest r).1
    some (.walked (reports ++ more), cleanedIn more)
  | chosen reports n rest =>
    let calls := (cleanedIn reports).length
    let more := (Sweep.walk (still outcome) (calls + 1) rest r).1
    some (.walked (reports ++ .cleaned n (outcome calls n) :: more), n :: cleanedIn more)
  | cleaning reports n rest =>
    let calls := (cleanedIn reports).length
    let more := (Sweep.walk (still outcome) (calls + 1) rest r).1
    some (.walked (reports ++ .cleaned n (outcome calls n) :: more), cleanedIn more)
  | leaving report => some (report, [])
  | _ => none

/-- What comes of a party that has been given the lock, or is done with it, if nobody else does
anything from now on. -/
def Party.onward? (outcome : Nat → Node → Sweep.Outcome) (r : Registry) : Party → Option Turn
  | connection _ _ (.admitted op) =>
    let reply := Wire.Message.reply (r.apply op).1
    some ⟨.reply (some reply), .operate op :: parting reply, r.after op⟩
  | connection _ _ (.replying m) =>
    some ⟨.reply (some (.success m)), [.send (.success m), .release], r⟩
  | connection _ _ (.leaving (.success m)) => some ⟨.reply (some (.success m)), [.release], r⟩
  | connection _ _ (.leaving (.error m)) =>
    some ⟨.reply (some (.error m)), [.release, .send (.error m)], r⟩
  | connection _ _ (.refusing m) => some ⟨.reply (some (.error m)), [.send (.error m)], r⟩
  | connection _ _ (.closed reply) => some ⟨.reply reply, [], r⟩
  | connection _ _ _ => none
  | sweep (.ended report) => some ⟨.report report, [], r⟩
  | sweep course =>
    (course.onward? outcome r).map fun (report, nodes) =>
      ⟨.report report, nodes.map .clean ++ [.release], r⟩

section
variable {outcome : Nat → Node → Sweep.Outcome} {free : Bool} {r : Registry} {how : Push}
  {p : Party} {m : Move} {t : Turn}

/-- Clean-ups that leave the registry alone leave it alone over a whole walk. -/
theorem walk_still (calls : Nat) (nodes : List Node) (r : Registry) :
    (Sweep.walk (still outcome) calls nodes r).2 = r := by
  induction nodes generalizing calls with
  | nil => rfl
  | cons n rest ih =>
    simp only [Sweep.walk]
    split
    · exact ih calls
    · exact ih (calls + 1)

theorem underLock_still (r : Registry) : (Sweep.underLock (still outcome) r).2 = r := by
  unfold Sweep.underLock
  split
  · rfl
  · exact walk_still 0 _ r

theorem walk_busy {n : Node} (h : r.ledger.count n.key ≠ 0) (calls : Nat) (rest : List Node) :
    (Sweep.walk (still outcome) calls (n :: rest) r).1 =
      .busy n (r.ledger.count n.key) :: (Sweep.walk (still outcome) calls rest r).1 := by
  simp only [Sweep.walk, if_pos h]

theorem walk_idle {n : Node} (h : r.ledger.count n.key = 0) (calls : Nat) (rest : List Node) :
    (Sweep.walk (still outcome) calls (n :: rest) r).1 =
      .cleaned n (outcome calls n) :: (Sweep.walk (still outcome) (calls + 1) rest r).1 := by
  simp only [Sweep.walk, h, ne_eq, not_true_eq_false, if_false, still]

/-- A move of the party leaves what comes of it as it was, less what it has just done. -/
theorem onward_move (h : Moves outcome free r how p m) (hd : how ≠ .drop)
    (ht : p.onward? outcome r = some t) :
    ∃ rest, m.party.onward? outcome m.registry = some rest ∧ t.Left m.activity.toList rest := by
  cases h with
  | probe | read | misread | grant | refuse | enter | skip => cases ht
  | succeed h => cases ht; exact ⟨_, rfl, by simp [h], by simp [h, parting], rfl⟩
  | decline h => cases ht; exact ⟨_, rfl, by simp [h], by simp [h, parting], rfl⟩
  | reply | finish | giveUp | deny => cases ht; exact ⟨_, rfl, rfl, rfl, rfl⟩
  | pending h =>
    have e : Sweep.underLock (still outcome) r = (.pendingSessions r.ledger.pending, r) := by
      simp only [Sweep.underLock, if_pos h]
    cases ht
    exact ⟨_, rfl, by simp [e], by simp [e, Sweep.Report.cleaned], rfl⟩
  | calm h =>
    have e : (Sweep.underLock (still outcome) r).1 =
        .walked (Sweep.walk (still outcome) 0 r.directory.nodes r).1 := by
      simp only [Sweep.underLock, h, ne_eq, not_true_eq_false, if_false]
    cases ht
    exact ⟨_, rfl, by simp [e], by simp [e, Sweep.Report.cleaned, cleanedIn], rfl⟩
  | copy => cases ht; exact ⟨_, rfl, rfl, rfl, rfl⟩
  | busy h =>
    cases ht
    exact ⟨_, rfl, by simp [walk_busy h], by simp [walk_busy h], rfl⟩
  | idle h =>
    cases ht
    exact ⟨_, rfl, by simp [walk_idle h], by simp [walk_idle h], rfl⟩
  | begin => cases ht; exact ⟨_, rfl, rfl, rfl, rfl⟩
  | done =>
    cases ht
    exact ⟨_, rfl, by simp, by simp, rfl⟩
  | last =>
    cases ht
    exact ⟨_, rfl, by simp [Sweep.walk], by simp [Sweep.walk], rfl⟩
  | leave => cases ht; exact ⟨_, rfl, rfl, rfl, rfl⟩
  | dropInside | dropOutside => exact absurd rfl hd

/-- Outside its locked section, what comes of a party has come already. -/
theorem onward_outside (hp : p.inside = false) (ht : p.onward? outcome r = some t) :
    p.result? = some t.result ∧ t.activities = p.unsent ∧ t.registry = r := by
  cases p with
  | connection limit feed stage => cases stage <;> cases hp <;> cases ht <;> exact ⟨rfl, rfl, rfl⟩
  | sweep course => cases course <;> cases hp <;> cases ht; exact ⟨rfl, rfl, rfl⟩

/-- A party that is done with the lock can only send what it has not sent. -/
theorem result_move (h : Moves outcome free r how p m) {x : Result} (hx : p.result? = some x) :
    m.party.result? = some x ∧ p.unsent = m.activity.toList ++ m.party.unsent := by
  cases h with
  | deny => cases hx; exact ⟨rfl, rfl⟩
  | @dropInside course hc => cases course <;> cases hx; cases hc
  | _ => cases hx

/-- A party that stays outside neither gets the lock nor starts a clean-up. -/
theorem quiet_of_outside (h : Moves outcome free r how p m) (hp : p.inside = false)
    (hm : m.party.inside = false) :
    m.activity ≠ some (.attempt true) ∧ m.activity.bind cleaned? = none := by
  cases h with
  | probe | read | misread | refuse | deny | skip | dropOutside => exact ⟨nofun, rfl⟩
  | grant | enter => cases hm
  | dropInside hc => rw [show (Party.sweep _).inside = true from hc] at hp; cases hp
  | _ => cases hp

theorem attempt_of_inside (h : Moves outcome free r how p m) (hp : p.inside = true) :
    m.activity ≠ some (.attempt true) := by
  cases h with
  | grant | enter => cases hp
  | _ => nofun

/-! ## The turn that begins when the lock is got -/

/-- A party that has not tried to get the lock yet; what it asks for is what was read. -/
def Party.Waiting : Party → Prop
  | connection _ _ .arrived => True
  | connection limit feed (.asking op) => request? limit feed = some (.ok (.call op))
  | sweep .due => True
  | _ => False

theorem serve_of_request {limit : Option Nat} {feed : Wire.Feed}
    {read : Except Wire.Fault Wire.Request} (h : request? limit feed = some read)
    (attempt : Except Lock.Failure Unit) (r : Registry) :
    Exchange.serve? limit attempt feed r = some (Exchange.answer attempt r read) := by
  unfold request? at h
  unfold Exchange.serve?
  obtain ⟨x, hx, rfl⟩ := Option.map_eq_some_iff.1 h
  rw [hx]
  rfl

theorem activities_underLock (clean : Sweep.Cleaner) (r : Registry) :
    (Sweep.underLock clean r).1.activities =
      .attempt true :: ((Sweep.underLock clean r).1.cleaned.map .clean ++ [.release]) := by
  unfold Sweep.underLock
  split <;> rfl

/-- With the lock a party begins the turn that it would take alone. -/
theorem alone_granted (h : Moves outcome free r how p m) (hp : p.Waiting)
    (hm : m.party.inside = true) :
    ∃ t rest, p.alone? outcome (.ok ()) r = some t ∧
      m.party.onward? outcome m.registry = some rest ∧ t.Left [.attempt true] rest := by
  cases h with
  | @grant limit feed op hf =>
    have hs := serve_of_request hp (.ok ()) r
    simp only [Party.alone?, hs, Option.map_some]
    simp only [Exchange.answer, Exchange.execute]
    cases hr : Wire.Message.reply (r.apply op).1 with
    | success s => exact ⟨_, _, rfl, rfl, by simp [hr], by simp [hr, parting], rfl⟩
    | error s =>
      exact ⟨_, _, rfl, rfl, by simp [hr, Exchange.refuse],
        by simp [hr, parting, Exchange.refuse], rfl⟩
  | enter hf =>
    have hu : (Sweep.underLock (still outcome) r).2 = r := underLock_still r
    exact ⟨_, _, rfl, rfl, rfl, activities_underLock _ r, hu.symm⟩
  | probe | read | misread | refuse | skip | dropOutside => cases hm
  | dropInside hc => cases hm
  | _ => cases hp

/-- Without the lock a party comes to what it comes to alone when its attempt fails. -/
theorem alone_refused (h : Moves outcome free r how p m) (hd : how ≠ .drop) (hp : p.Waiting)
    (hm : m.party.inside = false) :
    (m.party.Waiting ∧ m.activity = none) ∨
    ∃ f, ∀ r', ∃ t, p.alone? outcome (.error f) r' = some t ∧ t.registry = r' ∧
      m.party.result? = some t.result ∧ t.activities = m.activity.toList ++ m.party.unsent := by
  cases h with
  | read h => exact .inl ⟨h, rfl⟩
  | probe h =>
    refine .inr ⟨.timeout "" 0, fun r' => ?_⟩
    simp only [Party.alone?, serve_of_request h, Option.map_some]
    exact ⟨_, rfl, rfl, rfl, rfl⟩
  | misread h =>
    refine .inr ⟨.timeout "" 0, fun r' => ?_⟩
    simp only [Party.alone?, serve_of_request h, Option.map_some]
    exact ⟨_, rfl, rfl, rfl, rfl⟩
  | refuse f =>
    refine .inr ⟨f, fun r' => ?_⟩
    simp only [Party.alone?, serve_of_request hp, Option.map_some]
    exact ⟨_, rfl, rfl, rfl, rfl⟩
  | skip f => exact .inr ⟨f, fun r' => ⟨_, rfl, rfl, rfl, rfl⟩⟩
  | grant | enter => cases hm
  | dropInside | dropOutside => exact absurd rfl hd
  | _ => cases hp

/-- A move does not change what would come of the party alone. -/
theorem alone_move (h : Moves outcome free r how p m) (attempt : Except Lock.Failure Unit)
    (r' : Registry) : m.party.alone? outcome attempt r' = p.alone? outcome attempt r' := by
  cases h <;> rfl

theorem inside_of_waiting (h : p.Waiting) : p.inside = false ∧ p.result? = none := by
  cases p with
  | connection limit feed stage => cases stage <;> first | exact ⟨rfl, rfl⟩ | cases h
  | sweep course => cases course <;> first | exact ⟨rfl, rfl⟩ | cases h

theorem inside_of_result {x : Result} (h : p.result? = some x) : p.inside = false := by
  cases p with
  | connection limit feed stage => cases stage <;> first | rfl | cases h
  | sweep course => cases course <;> first | rfl | cases h

end

/-! ## Logs -/

/-- Activities of one party. -/
def tagged (i : Nat) (as : List Activity) : List (Nat × Activity) := as.map (i, ·)

theorem order_append (as bs : List (Nat × Activity)) : order (as ++ bs) = order as ++ order bs :=
  List.filterMap_append

theorem calls_append (as bs : List (Nat × Activity)) : calls (as ++ bs) = calls as ++ calls bs :=
  List.filterMap_append

theorem deeds_append (as bs : List (Nat × Activity)) (i : Nat) :
    deeds (as ++ bs) i = deeds as i ++ deeds bs i := by
  simp [deeds]

theorem deeds_tagged_self (i : Nat) (as : List Activity) : deeds (tagged i as) i = as := by
  induction as with
  | nil => rfl
  | cons a as ih => simpa [deeds, tagged] using ih

theorem deeds_tagged_other {i j : Nat} (h : j ≠ i) (as : List Activity) :
    deeds (tagged i as) j = [] := by
  induction as with
  | nil => rfl
  | cons a as ih => simp [deeds, tagged, Ne.symm h]

theorem calls_unsent (i : Nat) (p : Party) : calls (tagged i p.unsent) = [] := by
  unfold Party.unsent
  split <;> rfl

theorem order_none {i : Nat} {a : Option Activity} (h : a ≠ some (.attempt true)) :
    order (tagged i a.toList) = [] := by
  cases a with
  | none => rfl
  | some a =>
    have ha : a ≠ .attempt true := fun e => h (by rw [e])
    simp [order, tagged, ha]

theorem calls_none {i : Nat} {a : Option Activity} (h : a.bind cleaned? = none) :
    calls (tagged i a.toList) = [] := by
  cases a with
  | none => rfl
  | some a =>
    have ha : cleaned? a = none := h
    simp [calls, tagged, ha]

/-! ## Turns one after the other -/

theorem serial_mono {f g : Nat → Registry → Option Turn}
    (h : ∀ i r t, f i r = some t → g i r = some t) :
    ∀ {ids : List Nat} {r : Registry} {x : List (Nat × Turn) × Registry},
      serial? f ids r = some x → serial? g ids r = some x
  | [], _, _, hx => hx
  | i :: ids, r, x, hx => by
    simp only [serial?, Option.bind_eq_some_iff, Option.map_eq_some_iff] at hx ⊢
    obtain ⟨t, ht, y, hy, rfl⟩ := hx
    exact ⟨t, h i r t ht, y, serial_mono h hy, rfl⟩

theorem serial_snoc {f : Nat → Registry → Option Turn} {i : Nat} {t : Turn} :
    ∀ {ids : List Nat} {r base : Registry} {turns : List (Nat × Turn)},
      serial? f ids r = some (turns, base) → f i base = some t →
      serial? f (ids ++ [i]) r = some (turns ++ [(i, t)], t.registry)
  | [], r, base, turns, h, ht => by
    cases h
    simp [serial?, ht]
  | j :: ids, r, base, turns, h, ht => by
    simp only [serial?, Option.bind_eq_some_iff, Option.map_eq_some_iff] at h
    obtain ⟨u, hu, ⟨ts, b⟩, hy, he⟩ := h
    cases he
    simp [serial?, hu, serial_snoc hy ht]

theorem serial_ids {f : Nat → Registry → Option Turn} :
    ∀ {ids : List Nat} {r base : Registry} {turns : List (Nat × Turn)},
      serial? f ids r = some (turns, base) → turns.map (·.1) = ids
  | [], r, base, turns, h => by cases h; rfl
  | j :: ids, r, base, turns, h => by
    simp only [serial?, Option.bind_eq_some_iff, Option.map_eq_some_iff] at h
    obtain ⟨u, hu, ⟨ts, b⟩, hy, he⟩ := h
    cases he
    simp [serial_ids hy]

def turnCalls (turns : List (Nat × Turn)) : List (Nat × Node) :=
  turns.flatMap fun (i, t) => calls (tagged i t.activities)

theorem turnCalls_snoc (turns : List (Nat × Turn)) (i : Nat) (t : Turn) :
    turnCalls (turns ++ [(i, t)]) = turnCalls turns ++ calls (tagged i t.activities) := by
  simp [turnCalls]

/-! ## What the turns come to, at every point of a run -/

namespace World

def alone? (w : World) (run : Runner) (attempt : Except Lock.Failure Unit) (i : Nat)
    (r : Registry) : Option Turn :=
  w.parties[i]?.bind (·.alone? (run i) attempt r)

/-- Party `i` is done with the lock and has come to what the turn `t` comes to. -/
def Settled (w : World) (i : Nat) (t : Turn) : Prop :=
  ∃ p, w.parties[i]? = some p ∧ p.result? = some t.result ∧
    t.activities = deeds w.log i ++ p.unsent

/-- How things stand after whole turns that led to the registry `base` and started the clean-ups
`past`: either the lock is free, or its holder is in the middle of its turn. -/
def Present (w : World) (run : Runner) (base : Registry) (past : List (Nat × Node)) : Prop :=
  match w.holder with
  | none => w.registry = base ∧ calls w.log = past
  | some i => ∃ p t rest, w.parties[i]? = some p ∧ w.alone? run (.ok ()) i base = some t ∧
      p.onward? (run i) w.registry = some rest ∧ t.Left (deeds w.log i) rest ∧
      calls w.log = past ++ calls (tagged i (deeds w.log i))

/-- Party `i` has not tried to get the lock, or has come to what it comes to when that fails. -/
def Apart (w : World) (run : Runner) (i : Nat) : Prop :=
  (∃ p, w.parties[i]? = some p ∧ p.Waiting ∧ deeds w.log i = []) ∨
  ∃ f, ∀ r, ∃ t, w.alone? run (.error f) i r = some t ∧ t.registry = r ∧ w.Settled i t

/-- Whole turns in the order of the lock lead from `r₀` to where things stand. -/
structure Replayed (run : Runner) (r₀ : Registry) (w : World) : Prop where
  owned : w.Owned
  logged : ∀ x ∈ w.log, x.1 < w.parties.length
  turns : ∃ ids turns base, order w.log = ids ++ w.holder.toList ∧
    serial? (w.alone? run (.ok ())) ids r₀ = some (turns, base) ∧
    (∀ x ∈ turns, w.Settled x.1 x.2) ∧ w.Present run base (turnCalls turns)
  apart : ∀ i, i < w.parties.length → i ∉ order w.log → w.Apart run i

variable {run : Runner} {r₀ : Registry} {w w' : World} {e : Event} {i j : Nat} {p : Party}
  {m : Move} {how : Push} {t : Turn}

theorem replayed_start (run : Runner) (r₀ : Registry) : (start r₀).Replayed run r₀ where
  owned := owned_start r₀
  logged := nofun
  turns := ⟨[], [], r₀, rfl, rfl, nofun, rfl, rfl⟩
  apart := nofun

/-! ### Arrivals -/

theorem alone_join {a : Except Lock.Failure Unit} {r : Registry} {q : Party}
    (h : w.alone? run a i r = some t) : (w.join q).alone? run a i r = some t := by
  obtain ⟨p, hp, ht⟩ := Option.bind_eq_some_iff.1 h
  exact Option.bind_eq_some_iff.2 ⟨p, parties_join_of_some hp, ht⟩

theorem settled_join {q : Party} (h : w.Settled i t) : (w.join q).Settled i t := by
  obtain ⟨p, hp, h⟩ := h
  exact ⟨p, parties_join_of_some hp, h⟩

theorem present_join {q : Party} {base : Registry} {past : List (Nat × Node)}
    (h : w.Present run base past) : (w.join q).Present run base past := by
  unfold Present at h ⊢
  change match w.holder with | none => _ | some i => _
  cases hh : w.holder with
  | none => rw [hh] at h; exact h
  | some i =>
    rw [hh] at h
    obtain ⟨p, t, rest, hp, ht, h⟩ := h
    exact ⟨p, t, rest, parties_join_of_some hp, alone_join ht, h⟩

theorem apart_join {q : Party} (h : w.Apart run i) : (w.join q).Apart run i := by
  rcases h with ⟨p, hp, h⟩ | ⟨f, h⟩
  · exact .inl ⟨p, parties_join_of_some hp, h⟩
  · refine .inr ⟨f, fun r => ?_⟩
    obtain ⟨t, ht, hr, hs⟩ := h r
    exact ⟨t, alone_join ht, hr, settled_join hs⟩

theorem deeds_of_new (hl : ∀ x ∈ w.log, x.1 < w.parties.length) :
    deeds w.log w.parties.length = [] := by
  simp only [deeds, List.map_eq_nil_iff, List.filter_eq_nil_iff, beq_iff_eq]
  intro x hx
  have := hl x hx
  omega

theorem replayed_join (h : w.Replayed run r₀) (hp : p.Waiting) :
    (w.join p).Replayed run r₀ where
  owned := owned_join h.owned (inside_of_waiting hp).1
  logged := fun x hx => by
    have := h.logged x hx
    simp only [join, List.length_append, List.length_singleton]
    omega
  turns := by
    obtain ⟨ids, turns, base, ho, hs, hd, hn⟩ := h.turns
    exact ⟨ids, turns, base, ho, serial_mono (fun _ _ _ => alone_join) hs,
      fun x hx => settled_join (hd x hx), present_join hn⟩
  apart := fun i hi ho => by
    simp only [join, List.length_append, List.length_singleton] at hi
    by_cases he : i = w.parties.length
    · subst he
      exact .inl ⟨p, by rw [parties_join, if_pos rfl], hp, deeds_of_new h.logged⟩
    · exact apart_join (h.apart i (by omega) ho)

/-! ### Moves -/

theorem log_put (w : World) (i : Nat) (m : Move) :
    (w.put i m).log = w.log ++ tagged i m.activity.toList := rfl

theorem deeds_put_self (w : World) (i : Nat) (m : Move) :
    deeds (w.put i m).log i = deeds w.log i ++ m.activity.toList := by
  rw [log_put, deeds_append, deeds_tagged_self]

theorem deeds_put_other (m : Move) (h : j ≠ i) : deeds (w.put i m).log j = deeds w.log j := by
  rw [log_put, deeds_append, deeds_tagged_other h, List.append_nil]

theorem alone_put {free : Bool} {r : Registry} (hi : w.parties[i]? = some p)
    (hm : Moves (run i) free r how p m) : (w.put i m).alone? run = w.alone? run := by
  funext a j r'
  unfold alone?
  by_cases hj : j = i
  · subst hj
    rw [parties_put_self hi, hi]
    exact alone_move hm a r'
  · rw [parties_put_other m hj]

theorem settled_put_other (hj : j ≠ i) (h : w.Settled j t) : (w.put i m).Settled j t := by
  obtain ⟨q, hq, hr, ha⟩ := h
  exact ⟨q, by rw [parties_put_other m hj, hq], hr, by rw [deeds_put_other m hj, ha]⟩

theorem settled_put {free : Bool} {r : Registry} (hi : w.parties[i]? = some p)
    (hm : Moves (run i) free r how p m) (h : w.Settled j t) : (w.put i m).Settled j t := by
  by_cases hj : j = i
  · subst hj
    obtain ⟨q, hq, hr, ha⟩ := h
    rw [hi] at hq
    cases hq
    obtain ⟨hr', hu⟩ := result_move hm hr
    exact ⟨m.party, parties_put_self hi m, hr',
      by rw [deeds_put_self, ha, hu, List.append_assoc]⟩
  · exact settled_put_other hj h

theorem apart_put_other {free : Bool} {r : Registry} (hi : w.parties[i]? = some p)
    (hm : Moves (run i) free r how p m) (hj : j ≠ i) (h : w.Apart run j) :
    (w.put i m).Apart run j := by
  rcases h with ⟨q, hq, hw, hd⟩ | ⟨f, h⟩
  · exact .inl ⟨q, by rw [parties_put_other m hj, hq], hw, by rw [deeds_put_other m hj, hd]⟩
  · refine .inr ⟨f, fun r' => ?_⟩
    obtain ⟨t, ht, hr, hs⟩ := h r'
    exact ⟨t, by rw [alone_put hi hm, ht], hr, settled_put_other hj hs⟩

theorem logged_put (h : ∀ x ∈ w.log, x.1 < w.parties.length) (hi : w.parties[i]? = some p) :
    ∀ x ∈ (w.put i m).log, x.1 < (w.put i m).parties.length := by
  have hl : i < w.parties.length := (List.getElem?_eq_some_iff.1 hi).1
  intro x hx
  simp only [log_put, tagged, List.mem_append, List.mem_map] at hx
  simp only [put, List.length_set]
  rcases hx with hx | ⟨a, -, rfl⟩
  · exact h x hx
  · exact hl

/-- A party whose turn has been replayed is done with the lock. -/
theorem result_of_turn {ids : List Nat} {base : Registry} {turns : List (Nat × Turn)}
    (hs : serial? (w.alone? run (.ok ())) ids r₀ = some (turns, base))
    (hd : ∀ x ∈ turns, w.Settled x.1 x.2) (hi : w.parties[i]? = some p) (hm : i ∈ ids) :
    ∃ x, p.result? = some x := by
  rw [← serial_ids hs, List.mem_map] at hm
  obtain ⟨x, hx, rfl⟩ := hm
  obtain ⟨q, hq, hr, -⟩ := hd x hx
  rw [hi] at hq
  cases hq
  exact ⟨_, hr⟩

theorem replayed_granted (h : w.Replayed run r₀) (hi : w.parties[i]? = some p)
    (hm : Moves (run i) w.holder.isNone w.registry how p m) (hin : m.party.inside = true)
    (hf : w.holder = none)
    (ha : m.activity = some (.attempt true)) : (w.put i m).Replayed run r₀ := by
  obtain ⟨ids, turns, base, ho, hs, hd, hn⟩ := h.turns
  have hres : ∀ x, p.result? ≠ some x := fun x hx => by
    rw [inside_of_result (result_move hm hx).1] at hin
    cases hin
  have hord : order w.log = ids := by rw [ho, hf, Option.toList_none, List.append_nil]
  have hni : i ∉ order w.log := fun hc => by
    rw [hord] at hc
    obtain ⟨x, hx⟩ := result_of_turn hs hd hi hc
    exact hres x hx
  have hl : i < w.parties.length := (List.getElem?_eq_some_iff.1 hi).1
  have hw : p.Waiting ∧ deeds w.log i = [] := by
    rcases h.apart i hl hni with ⟨q, hq, hw⟩ | ⟨f, hx⟩
    · rw [hi] at hq; cases hq; exact hw
    · obtain ⟨t, -, -, q, hq, hx, -⟩ := hx w.registry
      rw [hi] at hq; cases hq
      exact absurd hx (hres _)
  have ⟨hbase, hcalls⟩ : w.registry = base ∧ calls w.log = turnCalls turns := by
    unfold Present at hn; rwa [hf] at hn
  obtain ⟨t, rest, ht, hrest, hleft⟩ := alone_granted hm hw.1 hin
  have hlog : (w.put i m).log = w.log ++ [(i, .attempt true)] := by rw [log_put, ha]; rfl
  have hdeeds : deeds (w.put i m).log i = [.attempt true] := by rw [deeds_put_self, hw.2, ha]; rfl
  have hhold : (w.put i m).holder = some i := by simp [put, ha, hold]
  refine ⟨owned_put h.owned hi hm, logged_put h.logged hi, ⟨ids, turns, base, ?_, ?_, ?_, ?_⟩, ?_⟩
  · rw [hlog, order_append, hord, hhold]; rfl
  · rw [alone_put hi hm]; exact hs
  · exact fun x hx => settled_put hi hm (hd x hx)
  · unfold Present
    rw [hhold]
    refine ⟨m.party, t, rest, parties_put_self hi m, ?_, hrest, ?_, ?_⟩
    · rw [alone_put hi hm, ← hbase]; unfold alone?; rw [hi]; exact ht
    · rw [hdeeds]; exact hleft
    · rw [hdeeds, hlog, calls_append, hcalls]; rfl
  · intro j hj hjo
    rw [hlog, order_append] at hjo
    have hji : j ≠ i := fun he => hjo (by simp [he, order])
    exact apart_put_other hi hm hji (h.apart j (by simpa [put] using hj)
      (fun hc => hjo (List.mem_append_left _ hc)))

theorem replayed_outside (h : w.Replayed run r₀) (hi : w.parties[i]? = some p)
    (hm : Moves (run i) w.holder.isNone w.registry how p m) (hdrop : how ≠ .drop)
    (hp : p.inside = false) (hout : m.party.inside = false) (hr : m.registry = w.registry)
    (hh : ∀ i holder, hold i holder m.activity = holder) : (w.put i m).Replayed run r₀ := by
  obtain ⟨ids, turns, base, ho, hs, hd, hn⟩ := h.turns
  obtain ⟨hna, hnc⟩ := quiet_of_outside hm hp hout
  have hhold : (w.put i m).holder = w.holder := hh i w.holder
  have hord : order (w.put i m).log = order w.log := by
    rw [log_put, order_append, order_none hna, List.append_nil]
  have hcalls : calls (w.put i m).log = calls w.log := by
    rw [log_put, calls_append, calls_none hnc, List.append_nil]
  have hl : i < w.parties.length := (List.getElem?_eq_some_iff.1 hi).1
  refine ⟨owned_put h.owned hi hm, logged_put h.logged hi, ⟨ids, turns, base, ?_, ?_, ?_, ?_⟩, ?_⟩
  · rw [hord, hhold, ho]
  · rw [alone_put hi hm]; exact hs
  · exact fun x hx => settled_put hi hm (hd x hx)
  · unfold Present at hn ⊢
    rw [hhold, hcalls]
    cases hw : w.holder with
    | none =>
      rw [hw] at hn
      exact ⟨hr.trans hn.1, hn.2⟩
    | some j =>
      rw [hw] at hn
      obtain ⟨q, t, rest, hq, ht, hrest, hleft, hc⟩ := hn
      have hji : j ≠ i := fun he => by
        obtain ⟨q', hq', hin⟩ := (h.owned j).1 hw
        rw [he, hi] at hq'
        cases hq'
        rw [hp] at hin
        cases hin
      refine ⟨q, t, rest, by rw [parties_put_other m hji, hq], by rw [alone_put hi hm, ht], ?_, ?_,
        ?_⟩
      · change q.onward? (run j) m.registry = some rest; rw [hr]; exact hrest
      · rw [deeds_put_other m hji]; exact hleft
      · rw [deeds_put_other m hji]; exact hc
  · intro j hj hjo
    rw [hord] at hjo
    have haj := h.apart j (by simpa [put] using hj) hjo
    by_cases hji : j = i
    · subst hji
      rcases haj with ⟨q, hq, hw, hdeeds⟩ | ⟨f, hf⟩
      · rw [hi] at hq
        cases hq
        rcases alone_refused hm hdrop hw hout with ⟨hw', hna'⟩ | ⟨f, hf⟩
        · exact .inl ⟨m.party, parties_put_self hi m, hw',
            by rw [deeds_put_self, hdeeds, hna']; rfl⟩
        · refine .inr ⟨f, fun r' => ?_⟩
          obtain ⟨t, ht, hr', hres, hact⟩ := hf r'
          refine ⟨t, ?_, hr', m.party, parties_put_self hi m, hres, ?_⟩
          · rw [alone_put hi hm]; unfold alone?; rw [hi]; exact ht
          · rw [deeds_put_self, hdeeds, List.nil_append, hact]
      · refine .inr ⟨f, fun r' => ?_⟩
        obtain ⟨t, ht, hr', hset⟩ := hf r'
        exact ⟨t, by rw [alone_put hi hm, ht], hr', settled_put hi hm hset⟩
    · exact apart_put_other hi hm hji haj

/-- What a party has in common before and after a move that it begins inside. -/
theorem present_inside (h : w.Replayed run r₀) (hi : w.parties[i]? = some p)
    (hm : Moves (run i) w.holder.isNone w.registry how p m) (hdrop : how ≠ .drop)
    (hp : p.inside = true) {base : Registry} {past : List (Nat × Node)}
    (hn : w.Present run base past) :
    ∃ t rest, (w.put i m).alone? run (.ok ()) i base = some t ∧
      m.party.onward? (run i) m.registry = some rest ∧ t.Left (deeds (w.put i m).log i) rest ∧
      calls (w.put i m).log = past ++ calls (tagged i (deeds (w.put i m).log i)) := by
  have hw : w.holder = some i := (h.owned i).2 ⟨p, hi, hp⟩
  unfold Present at hn
  rw [hw] at hn
  obtain ⟨q, t, rest, hq, ht, hrest, hleft, hc⟩ := hn
  rw [hi] at hq
  cases hq
  obtain ⟨rest', hrest', hleft'⟩ := onward_move hm hdrop hrest
  refine ⟨t, rest', by rw [alone_put hi hm, ht], hrest', ?_, ?_⟩
  · rw [deeds_put_self]; exact hleft.trans hleft'
  · rw [deeds_put_self, log_put, calls_append, hc, List.append_assoc, ← calls_append]
    simp [tagged]

theorem apart_inside (h : w.Replayed run r₀) (hi : w.parties[i]? = some p)
    (hm : Moves (run i) w.holder.isNone w.registry how p m) (hp : p.inside = true) :
    ∀ j, j < (w.put i m).parties.length → j ∉ order (w.put i m).log → (w.put i m).Apart run j := by
  have hw : w.holder = some i := (h.owned i).2 ⟨p, hi, hp⟩
  obtain ⟨ids, turns, base, ho, -⟩ := h.turns
  intro j hj hjo
  rw [log_put, order_append, order_none (attempt_of_inside hm hp), List.append_nil] at hjo
  have hji : j ≠ i := fun he => hjo (by rw [ho, hw, he]; simp)
  exact apart_put_other hi hm hji (h.apart j (by simpa [put] using hj) hjo)

theorem replayed_inside (h : w.Replayed run r₀) (hi : w.parties[i]? = some p)
    (hm : Moves (run i) w.holder.isNone w.registry how p m) (hdrop : how ≠ .drop)
    (hp : p.inside = true) (hh : ∀ i holder, hold i holder m.activity = holder) :
    (w.put i m).Replayed run r₀ := by
  have hw : w.holder = some i := (h.owned i).2 ⟨p, hi, hp⟩
  have hhold : (w.put i m).holder = some i := (hh i w.holder).trans hw
  obtain ⟨ids, turns, base, ho, hs, hd, hn⟩ := h.turns
  refine ⟨owned_put h.owned hi hm, logged_put h.logged hi, ⟨ids, turns, base, ?_, ?_, ?_, ?_⟩,
    apart_inside h hi hm hp⟩
  · rw [log_put, order_append, order_none (attempt_of_inside hm hp), List.append_nil, ho, hw, hhold]
  · rw [alone_put hi hm]; exact hs
  · exact fun x hx => settled_put hi hm (hd x hx)
  · obtain ⟨t, rest, ht, hrest, hleft, hc⟩ := present_inside h hi hm hdrop hp hn
    unfold Present
    rw [hhold]
    exact ⟨m.party, t, rest, parties_put_self hi m, ht, hrest, hleft, hc⟩

theorem replayed_left (h : w.Replayed run r₀) (hi : w.parties[i]? = some p)
    (hm : Moves (run i) w.holder.isNone w.registry how p m) (hdrop : how ≠ .drop)
    (hp : p.inside = true) (hout : m.party.inside = false) (ha : m.activity = some .release) :
    (w.put i m).Replayed run r₀ := by
  have hw : w.holder = some i := (h.owned i).2 ⟨p, hi, hp⟩
  have hhold : (w.put i m).holder = none := by simp [put, ha, hold]
  obtain ⟨ids, turns, base, ho, hs, hd, hn⟩ := h.turns
  obtain ⟨t, rest, ht, hrest, hleft, hc⟩ := present_inside h hi hm hdrop hp hn
  obtain ⟨hres, hact, hreg⟩ := onward_outside hout hrest
  refine ⟨owned_put h.owned hi hm, logged_put h.logged hi,
    ⟨ids ++ [i], turns ++ [(i, t)], t.registry, ?_, ?_, ?_, ?_⟩, apart_inside h hi hm hp⟩
  · rw [log_put, order_append, order_none (attempt_of_inside hm hp), List.append_nil, ho, hw, hhold]
    simp
  · refine serial_snoc ?_ ht
    rw [alone_put hi hm]; exact hs
  · intro x hx
    rcases List.mem_append.1 hx with hx | hx
    · exact settled_put hi hm (hd x hx)
    · rw [List.mem_singleton] at hx
      subst hx
      exact ⟨m.party, parties_put_self hi m, by rw [hres, hleft.result],
        by rw [hleft.activities, hact]⟩
  · unfold Present
    rw [hhold]
    refine ⟨?_, ?_⟩
    · change m.registry = t.registry
      rw [← hleft.registry, hreg]
    · rw [hc, turnCalls_snoc, hleft.activities, hact]
      simp only [tagged, List.map_append, calls_append]
      rw [show calls (m.party.unsent.map (i, ·)) = [] from calls_unsent i m.party, List.append_nil]

/-! ## Whole runs -/

theorem replayed_step (h : w.Replayed run r₀) (hdrop : ∀ i, e ≠ .push i .drop)
    (hs : w.step run e = some w') : w'.Replayed run r₀ := by
  rcases step_cases hs with ⟨limit, feed, -, rfl⟩ | ⟨-, rfl⟩ | ⟨i, how, p, m, he, hi, hm, rfl⟩
  · exact replayed_join h trivial
  · exact replayed_join h trivial
  · have hd : how ≠ .drop := fun e' => hdrop i (by rw [he, e'])
    rcases move_lock hm with ⟨-, h2, -, h4, h5⟩ | ⟨h1, h2, h3, h4⟩ | ⟨h1, -, h4⟩ | ⟨h1, h2, -, h5⟩
    · exact replayed_granted h hi hm h2 (by simpa using h4) h5
    · exact replayed_outside h hi hm hd h1 h2 h3 h4
    · exact replayed_inside h hi hm hd h1 h4
    · exact replayed_left h hi hm hd h1 h2 h5

/-- At every point of a run in which no sweep is dropped, whole turns account for it. -/
theorem exec_replayed {es : List Event} (h : exec run (start r₀) es = some w)
    (hd : ∀ e ∈ es, ∀ i, e ≠ .push i .drop) : w.Replayed run r₀ :=
  Runs.exec_induct (fun e => ∀ i, e ≠ .push i .drop) (fun _ _ _ hw hd hs => replayed_step hw hd hs)
    (replayed_start run r₀) hd h

/-- **Serializability.** Let connections and sweeps take their steps in any order, up to a point
where the lock is free and without dropping a sweep. Then those that got the lock, taking whole
turns in the order in which they got it, come to the same registry, start the same clean-ups in the
same order, and each comes to the same reply or report by the same activities. Of the others, each
has not tried yet, or it has come to what it comes to alone when its attempt fails; either way it
leaves the registry alone. -/
theorem serializable (run : Runner) (r₀ : Registry) (es : List Event) (w : World)
    (h : exec run (start r₀) es = some w) (hd : ∀ e ∈ es, ∀ i, e ≠ .push i .drop)
    (hf : w.holder = none) :
    (∃ turns, serial? (w.alone? run (.ok ())) (order w.log) r₀ = some (turns, w.registry) ∧
      calls w.log = turnCalls turns ∧ ∀ x ∈ turns, w.Settled x.1 x.2) ∧
    ∀ i, i < w.parties.length → i ∉ order w.log → w.Apart run i := by
  have hr := exec_replayed h hd
  obtain ⟨ids, turns, base, ho, hs, ht, hn⟩ := hr.turns
  have ⟨hb, hc⟩ : w.registry = base ∧ calls w.log = turnCalls turns := by
    unfold Present at hn; rwa [hf] at hn
  rw [hf, Option.toList_none, List.append_nil] at ho
  exact ⟨⟨turns, by rw [ho, hb, hs], hc, ht⟩, hr.apart⟩

/-- A launch is announced and called off while a sweep is under way: the first attempt of the one
fails, the sweep cleans the only node, and the other waits for it to end. -/
def mixed : List Event :=
  [.connect none (.atOnce (Text.encodeUtf8 (Wire.Request.call .addPending).encode.toList) false),
    .wake,
    .connect none (.atOnce (Text.encodeUtf8 (Wire.Request.call .removePending).encode.toList) true),
    .push 0 .go, .push 1 .go, .push 1 .go, .push 2 .go, .push 1 .go,
    .push 0 (.fail (.timeout "lock" 20)),
    .push 1 .go, .push 1 .go, .push 0 .go, .push 1 .go, .push 1 .go, .push 1 .go,
    .push 2 .go, .push 2 .go, .push 2 .go, .push 2 .go]

theorem serializable_mixed :
    ∃ w, exec (fun _ _ _ => .succeeded) (start ⟨{}, ⟨[⟨"http", "grid.test", some 81⟩]⟩⟩) mixed =
        some w ∧ w.holder = none ∧ order w.log = [1, 2] ∧
      ∃ turns, serial? (w.alone? (fun _ _ _ => .succeeded) (.ok ())) [1, 2]
          ⟨{}, ⟨[⟨"http", "grid.test", some 81⟩]⟩⟩ = some (turns, w.registry) ∧
        calls w.log = turnCalls turns := by
  have he : (exec (fun _ _ _ => .succeeded) (start ⟨{}, ⟨[⟨"http", "grid.test", some 81⟩]⟩⟩)
      mixed).map (fun w => (w.holder, order w.log)) = some (none, [1, 2]) := by decide +kernel
  obtain ⟨w, hw, he⟩ := Option.map_eq_some_iff.1 he
  have hn : w.holder = none := congrArg Prod.fst he
  have ho : order w.log = [1, 2] := congrArg Prod.snd he
  obtain ⟨⟨turns, hs, hc, -⟩, -⟩ := serializable _ _ mixed w hw (by simp [mixed]) hn
  exact ⟨w, hw, hn, ho, turns, ho ▸ hs, hc⟩

end World
end GridKeeper.Interleaving

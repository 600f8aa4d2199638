import GridKeeper.Proofs.Interleaving
import GridKeeper.Service

/-!
# Connections at the door

`Admission.arrive` says what the arrival of a connection comes to when nothing happens meanwhile.
Here it is taken apart: the connection is counted, it gets a permit or finds none left, and then it
is put on the gauge and served, or counted as turned away and told so. Once its exchange is over, it
is taken off the gauge first, and gives its permit back afterwards. Any number of connections do
this side by side, and in between the connections that are served, and sweeps, take their steps.

A `Guest` is a connection as the door sees it. Only one that is served is a party in the world of
the registry and the lock.

**Results.**
* `step_cases`: a step is an arrival, a step of the world, or one guest who goes on.
* `reachable_orderly`: the counters count the guests, and every connection in the world is that of
  a guest who was admitted.
* `whole_arrival`: an arrival without anything in between is `Admission.arrive`.
* `admission_kept`: what holds at all times of permits, gauge and counters, and of those who are
  turned away.
-/
namespace GridKeeper.Server

open Interleaving

/-! ## The parts of an arrival -/

namespace Admission

def count (a : Admission) : Admission := { a with total := a.total + 1 }

def take (a : Admission) : Admission := { a with inUse := a.inUse + 1 }

def enter (a : Admission) : Admission := { a with active := a.active + 1 }

def turnAway (a : Admission) : Admission := { a with rejected := a.rejected + 1 }

theorem arrive_eq (a : Admission) :
    a.arrive = if a.admits then (true, a.count.take.enter) else (false, a.count.turnAway) := rfl

theorem admits_eq_false_iff {a : Admission} (h : 0 < a.limit → a.inUse ≤ a.limit) :
    a.admits = false ↔ 0 < a.limit ∧ a.inUse = a.limit := by
  simp only [admits, Bool.or_eq_false_iff, decide_eq_false_iff_not]
  omega

/-- What a connection that is turned away gets, as it is sent. -/
def refusalText (m : Nat) : String := "ERROR\nMax Connections Reached:  " ++ toString m ++ "\n"

theorem refusal_encode (a : Admission) : a.refusal.encode = refusalText a.limit := by
  have hmessage : a.refusal.message = "Max Connections Reached:  " ++ toString a.limit :=
    rfl
  have hstatus : a.refusal.status = Wire.Reply.errorWord := rfl
  have hfirst : Wire.Reply.errorWord ++ "\n" ++ "Max Connections Reached:  " =
      "ERROR\nMax Connections Reached:  " := by decide
  rw [Wire.Reply.encode, hmessage, hstatus, ← String.append_assoc, hfirst]
  rfl

end Admission

/-! ## Guests -/

/-- Where a connection stands (`SessionServer.admit`). -/
inductive Standing where
  | counted
  | permitted
  | refused
  /-- It is on the gauge, and is served as this party. -/
  | served (p : Nat)
  /-- Its exchange is over, and it is off the gauge. -/
  | leaving (p : Nat)
  /-- It has given its permit back. -/
  | gone (p : Nat)
  | turnedAway
  | told (text : String)
deriving Repr, DecidableEq

namespace Standing

def atDoor : Standing → Bool
  | counted | permitted | refused => true
  | _ => false

def holding : Standing → Bool
  | permitted | served _ | leaving _ => true
  | _ => false

def live : Standing → Bool
  | served _ => true
  | _ => false

/-- Was admitted, and may have gone since. -/
def admitted : Standing → Bool
  | served _ | leaving _ | gone _ => true
  | _ => false

def terminated : Standing → Bool
  | leaving _ | gone _ => true
  | _ => false

def rejected : Standing → Bool
  | turnedAway | told _ => true
  | _ => false

def barred : Standing → Bool
  | refused | turnedAway | told _ => true
  | _ => false

/-- The party as which the connection is, or was, served. -/
def party? : Standing → Option Nat
  | served p | leaving p | gone p => some p
  | _ => none

theorem barred_of_rejected {st : Standing} (h : st.rejected = true) : st.barred = true := by
  cases st <;> first | rfl | cases h

theorem split (st : Standing) :
    st.rejected.toNat + st.admitted.toNat + st.atDoor.toNat = 1 ∧
      st.admitted.toNat = st.live.toNat + st.terminated.toNat ∧
      st.live.toNat ≤ st.holding.toNat := by
  cases st <;>
    simp [rejected, admitted, atDoor, live, terminated, holding]

end Standing

structure Guest where
  limit : Option Nat
  feed : Wire.Feed
  standing : Standing := .counted
deriving Repr, DecidableEq

structure Reception where
  admission : Admission
  world : World
  guests : List Guest := []
deriving Repr, DecidableEq

inductive Event where
  | arrive (limit : Option Nat) (feed : Wire.Feed)
  | go (i : Nat)
  | push (j : Nat) (how : Push)
  | wake
deriving Repr, DecidableEq

def isOver (w : World) (p : Nat) : Bool :=
  match w.parties[p]? with
  | some (.connection _ _ (.closed _)) => true
  | _ => false

namespace Reception

def start (m : Nat) (r : Registry) : Reception := ⟨⟨m, 0, 0, 0, 0⟩, World.start r, []⟩

def put (s : Reception) (i : Nat) (g : Guest) (standing : Standing) (a : Admission) (w : World) :
    Reception := ⟨a, w, s.guests.set i { g with standing }⟩

def advance? (s : Reception) (i : Nat) (g : Guest) : Option Reception :=
  let a := s.admission
  let w := s.world
  match g.standing with
  | .counted =>
    if a.admits then some (s.put i g .permitted a.take w) else some (s.put i g .refused a w)
  | .permitted =>
    some (s.put i g (.served w.parties.length) a.enter
      (w.join (.connection g.limit g.feed .arrived)))
  | .refused => some (s.put i g .turnedAway a.turnAway w)
  | .turnedAway => some (s.put i g (.told a.refusal.encode) a w)
  | .served p => if isOver w p then some (s.put i g (.leaving p) a.leave w) else none
  | .leaving p => some (s.put i g (.gone p) a.giveBack w)
  | .gone _ | .told _ => none

/-- What an event leads to; `none` if it cannot take place. -/
def step (run : Runner) (s : Reception) : Event → Option Reception
  | .arrive limit feed =>
    some { s with admission := s.admission.count, guests := s.guests ++ [⟨limit, feed, .counted⟩] }
  | .go i => s.guests[i]?.bind (s.advance? i)
  | .push j how => (s.world.step run (.push j how)).map fun w => { s with world := w }
  | .wake => (s.world.step run .wake).map fun w => { s with world := w }

abbrev exec (run : Runner) : Reception → List Event → Option Reception := Runs.exec (step run)

/-- Whether `s` is reached with `m` permits, or with any number of them if `m` is 0, from a start
with the registry `r`. -/
def Reachable (run : Runner) (m : Nat) (r : Registry) (s : Reception) : Prop :=
  Runs.Reaches (step run) (start m r) s

def number (s : Reception) (f : Standing → Bool) : Nat := s.guests.countP fun g => f g.standing

end Reception

/-! ## What a step can do -/

/-- How a guest goes on: from what standing to what other one, and what becomes of permits,
counters and the world. -/
inductive Passes (a : Admission) (w : World) (g : Guest) :
    Standing → Standing → Admission → World → Prop
  | permit (h : a.admits = true) : Passes a w g .counted .permitted a.take w
  | refuse (h : a.admits = false) : Passes a w g .counted .refused a w
  | enter : Passes a w g .permitted (.served w.parties.length) a.enter
      (w.join (.connection g.limit g.feed .arrived))
  | turnAway : Passes a w g .refused .turnedAway a.turnAway w
  | tell : Passes a w g .turnedAway (.told a.refusal.encode) a w
  | leave {p : Nat} (h : isOver w p = true) : Passes a w g (.served p) (.leaving p) a.leave w
  | giveBack {p : Nat} : Passes a w g (.leaving p) (.gone p) a.giveBack w

section
variable {a a' : Admission} {w w' : World} {g : Guest} {st st' : Standing} {run : Runner}
  {s s' : Reception} {e : Event} {i m : Nat} {r : Registry}

theorem passes_of_advance (h : s.advance? i g = some s') : ∃ st a w,
    Passes s.admission s.world g g.standing st a w ∧ s' = s.put i g st a w := by
  unfold Reception.advance? at h
  cases hs : g.standing with
  | counted =>
    simp only [hs] at h
    by_cases ha : s.admission.admits = true
    · rw [if_pos ha] at h
      exact ⟨_, _, _, .permit ha, (Option.some.inj h).symm⟩
    · rw [if_neg ha] at h
      exact ⟨_, _, _, .refuse (Bool.eq_false_iff.2 ha), (Option.some.inj h).symm⟩
  | permitted =>
    simp only [hs] at h
    exact ⟨_, _, _, .enter, (Option.some.inj h).symm⟩
  | refused =>
    simp only [hs] at h
    exact ⟨_, _, _, .turnAway, (Option.some.inj h).symm⟩
  | turnedAway =>
    simp only [hs] at h
    exact ⟨_, _, _, .tell, (Option.some.inj h).symm⟩
  | served p =>
    simp only [hs] at h
    by_cases ho : isOver s.world p = true
    · rw [if_pos ho] at h
      exact ⟨_, _, _, .leave ho, (Option.some.inj h).symm⟩
    · rw [if_neg ho] at h
      cases h
  | leaving p =>
    simp only [hs] at h
    exact ⟨_, _, _, .giveBack, (Option.some.inj h).symm⟩
  | gone p => simp only [hs] at h; cases h
  | told text => simp only [hs] at h; cases h

namespace Reception

/-- A step is the arrival of a connection, a guest who goes on, or a step of the world in which no
connection arrives. -/
theorem step_cases (h : s.step run e = some s') :
    (∃ limit feed, e = .arrive limit feed ∧
      s' = ⟨s.admission.count, s.world, s.guests ++ [⟨limit, feed, .counted⟩]⟩) ∨
    (∃ i g st a w, e = .go i ∧ s.guests[i]? = some g ∧
      Passes s.admission s.world g g.standing st a w ∧ s' = s.put i g st a w) ∨
    (∃ e' w, (∀ limit feed, e' ≠ .connect limit feed) ∧ s.world.step run e' = some w ∧
      s' = { s with world := w }) := by
  cases e with
  | arrive limit feed =>
    cases h
    exact .inl ⟨limit, feed, rfl, rfl⟩
  | go i =>
    obtain ⟨g, hg, h⟩ := Option.bind_eq_some_iff.1 h
    obtain ⟨st, a, w, hp, rfl⟩ := passes_of_advance h
    exact .inr (.inl ⟨i, g, st, a, w, rfl, hg, hp, rfl⟩)
  | push j how =>
    obtain ⟨w, hw, rfl⟩ := Option.map_eq_some_iff.1 h
    exact .inr (.inr ⟨.push j how, w, nofun, hw, rfl⟩)
  | wake =>
    cases h
    exact .inr (.inr ⟨.wake, _, nofun, rfl, rfl⟩)

end Reception

/-! ## The world behind the door -/

/-- A connection stays a connection, and a sweep a sweep. -/
theorem moves_kin {outcome : Nat → Node → Sweep.Outcome} {free : Bool} {how : Push} {p : Party}
    {mv : Move} (h : Moves outcome free r how p mv) :
    (∃ limit feed st st', p = .connection limit feed st ∧ mv.party = .connection limit feed st') ∨
      ∃ c c', p = .sweep c ∧ mv.party = .sweep c' := by
  cases h <;> first
    | exact .inl ⟨_, _, _, _, rfl, rfl⟩
    | exact .inr ⟨_, _, rfl, rfl⟩

theorem connection_of_step {e : Interleaving.Event} {p : Nat} {limit : Option Nat}
    {feed : Wire.Feed} {stage : Stage} (he : ∀ limit feed, e ≠ .connect limit feed)
    (h : w.step run e = some w') (hp : w'.parties[p]? = some (.connection limit feed stage)) :
    ∃ stage', w.parties[p]? = some (.connection limit feed stage') := by
  rcases World.step_cases h with ⟨limit, feed, rfl, -⟩ | ⟨-, rfl⟩ | ⟨i, how, q, mv, -, hi, hm, rfl⟩
  · exact absurd rfl (he limit feed)
  · rw [World.parties_join] at hp
    split at hp
    · cases hp
    · exact ⟨stage, hp⟩
  · by_cases hpi : p = i
    · subst hpi
      rw [World.parties_put_self hi] at hp
      rcases moves_kin hm with ⟨limit', feed', st, st', rfl, hst'⟩ | ⟨c, c', -, hc'⟩
      · rw [hst'] at hp
        cases hp
        exact ⟨st, hi⟩
      · rw [hc'] at hp
        cases hp
    · rw [World.parties_put_other mv hpi] at hp
      exact ⟨stage, hp⟩

/-- What is done in the world is done by somebody who is there. -/
theorem logged_step {e : Interleaving.Event} (hl : ∀ x ∈ w.log, x.1 < w.parties.length)
    (h : w.step run e = some w') : ∀ x ∈ w'.log, x.1 < w'.parties.length := by
  have hjoin : ∀ p : Party, ∀ x ∈ (w.join p).log, x.1 < (w.join p).parties.length :=
    fun p x hx => Nat.lt_of_lt_of_le (hl x hx) (by simp [World.join])
  rcases World.step_cases h with ⟨limit, feed, -, rfl⟩ | ⟨-, rfl⟩ | ⟨i, how, q, mv, -, hi, hm, rfl⟩
  · exact hjoin _
  · exact hjoin _
  · intro x hx
    rw [World.put, List.length_set]
    rcases List.mem_append.1 hx with hx | hx
    · exact hl x hx
    · obtain ⟨_, -, rfl⟩ := List.mem_map.1 hx
      exact (List.getElem?_eq_some_iff.1 hi).1

/-! ## Counters and guests -/

/-- What a guest who goes on does to permits and counters is what its change of standing says. No
counter goes below zero by it. -/
theorem counters_passes (h : Passes a w g st st' a' w') (hlive : st.live.toNat ≤ a.active)
    (hhold : st.holding.toNat ≤ a.inUse) :
    a'.limit = a.limit ∧ a'.total = a.total ∧
      a'.inUse + st.holding.toNat = a.inUse + st'.holding.toNat ∧
      a'.active + st.live.toNat = a.active + st'.live.toNat ∧
      a'.rejected + st.rejected.toNat = a.rejected + st'.rejected.toNat := by
  cases h with
  | leave =>
    refine ⟨rfl, rfl, rfl, ?_, rfl⟩
    exact Nat.sub_add_cancel hlive
  | giveBack =>
    refine ⟨rfl, rfl, ?_, rfl, rfl⟩
    exact Nat.sub_add_cancel hhold
  | _ => exact ⟨rfl, rfl, rfl, rfl, rfl⟩

theorem bounded_passes (h : Passes a w g st st' a' w') (hb : 0 < a.limit → a.inUse ≤ a.limit)
    (hm : 0 < a.limit) : a'.inUse ≤ a.limit := by
  cases h with
  | permit h =>
    simp only [Admission.admits, Bool.or_eq_true, decide_eq_true_eq] at h
    change a.inUse + 1 ≤ a.limit
    omega
  | giveBack => exact Nat.le_trans (Nat.sub_le _ _) (hb hm)
  | _ => exact hb hm

theorem barred_passes (h : Passes a w g st st' a' w') (hst' : st'.barred = true) :
    st.barred = true ∨ 0 < a.limit := by
  cases h with
  | refuse h =>
    simp only [Admission.admits, Bool.or_eq_false_iff, decide_eq_false_iff_not] at h
    exact .inr (by omega)
  | turnAway | tell => exact .inl rfl
  | _ => cases hst'

theorem told_passes {text : String} (h : Passes a w g st st' a' w') (hst' : st' = .told text) :
    text = Admission.refusalText a.limit := by
  cases h <;> cases hst'
  exact Admission.refusal_encode a

theorem atDoor_passes (h : Passes a w g st st' a' w') : st'.atDoor.toNat ≤ st.atDoor.toNat := by
  cases h with
  | permit | refuse => exact Nat.le_refl 1
  | _ => exact Nat.zero_le _

/-- Only a guest who is put on the gauge is let into the world, as a connection of its own. -/
theorem world_passes (h : Passes a w g st st' a' w') :
    (w' = w ∧ st'.party? = st.party?) ∨
    (st = .permitted ∧ st' = .served w.parties.length ∧
      w' = w.join (.connection g.limit g.feed .arrived)) := by
  cases h with
  | enter => exact .inr ⟨rfl, rfl, rfl⟩
  | _ => exact .inl ⟨rfl, rfl⟩

theorem countP_set_add {α : Type} {xs : List α} {x y : α} (hx : xs[i]? = some x) (f : α → Bool) :
    (xs.set i y).countP f + (f x).toNat = xs.countP f + (f y).toNat := by
  obtain ⟨hi, rfl⟩ := List.getElem?_eq_some_iff.1 hx
  rw [List.countP_set hi]
  cases hf : f xs[i] with
  | false => cases f y <;> simp
  | true =>
    have hpos : 0 < xs.countP f := List.countP_pos_iff.2 ⟨_, List.getElem_mem hi, hf⟩
    cases f y <;> simp <;> omega

namespace Reception

theorem number_put (hg : s.guests[i]? = some g) (st : Standing) (a : Admission) (w : World)
    (f : Standing → Bool) :
    (s.put i g st a w).number f + (f g.standing).toNat = s.number f + (f st).toNat :=
  countP_set_add hg fun g => f g.standing

theorem le_number (hg : s.guests[i]? = some g) (f : Standing → Bool) :
    (f g.standing).toNat ≤ s.number f := by
  cases hf : f g.standing with
  | false => exact Nat.zero_le _
  | true => exact List.countP_pos_iff.2 ⟨g, List.mem_of_getElem? hg, hf⟩

/-- Every guest is at the door, was turned away, or was admitted, and of those who were admitted
every one is live or has terminated. -/
theorem number_split (s : Reception) :
    s.guests.length = s.number Standing.rejected + s.number Standing.admitted +
        s.number Standing.atDoor ∧
      s.number Standing.admitted = s.number Standing.live + s.number Standing.terminated ∧
      s.number Standing.live ≤ s.number Standing.holding := by
  unfold number
  induction s.guests with
  | nil => exact ⟨rfl, rfl, Nat.le_refl _⟩
  | cons g gs ih =>
    have hcons : ∀ f : Standing → Bool, ((g :: gs).countP fun g => f g.standing) =
        (gs.countP fun g => f g.standing) + (f g.standing).toNat := fun f => by
      rw [List.countP_cons]
      cases f g.standing <;> rfl
    obtain ⟨hone, hadmitted, hlive⟩ := g.standing.split
    simp only [hcons, List.length_cons]
    omega

/-- The counters count the guests, permits are kept to, and every connection in the world, and
everything that was done there, is that of a guest who was admitted, or of a sweep. -/
structure Orderly (m : Nat) (s : Reception) : Prop where
  limit : s.admission.limit = m
  inUse : s.admission.inUse = s.number Standing.holding
  active : s.admission.active = s.number Standing.live
  rejected : s.admission.rejected = s.number Standing.rejected
  total : s.admission.total = s.guests.length
  bounded : 0 < m → s.admission.inUse ≤ m
  barred : ∀ g ∈ s.guests, g.standing.barred = true → 0 < m
  told : ∀ g ∈ s.guests, ∀ text, g.standing = .told text → text = Admission.refusalText m
  hosted : ∀ p limit feed stage, s.world.parties[p]? = some (.connection limit feed stage) →
    ∃ g ∈ s.guests, g.standing.party? = some p ∧ g.limit = limit ∧ g.feed = feed
  logged : ∀ x ∈ s.world.log, x.1 < s.world.parties.length

theorem orderly_start (m : Nat) (r : Registry) : (start m r).Orderly m where
  limit := rfl
  inUse := rfl
  active := rfl
  rejected := rfl
  total := rfl
  bounded := fun _ => Nat.zero_le _
  barred := nofun
  told := nofun
  hosted := nofun
  logged := nofun

theorem orderly_arrive (h : s.Orderly m) (limit : Option Nat) (feed : Wire.Feed) :
    Orderly m ⟨s.admission.count, s.world, s.guests ++ [⟨limit, feed, .counted⟩]⟩ := by
  have hnumber : ∀ f : Standing → Bool, f .counted = false →
      number ⟨s.admission.count, s.world, s.guests ++ [⟨limit, feed, .counted⟩]⟩ f =
        s.number f := fun f hf => by
    simp [number, hf]
  have hold : ∀ {P : Guest → Prop}, (∀ g ∈ s.guests, P g) → P ⟨limit, feed, .counted⟩ →
      ∀ g ∈ s.guests ++ [⟨limit, feed, .counted⟩], P g := fun hs hn g hg =>
    (List.mem_append.1 hg).elim (hs g) fun hg => List.mem_singleton.1 hg ▸ hn
  exact {
    limit := h.limit
    inUse := h.inUse.trans (hnumber _ rfl).symm
    active := h.active.trans (hnumber _ rfl).symm
    rejected := h.rejected.trans (hnumber _ rfl).symm
    total := (congrArg (· + 1) h.total).trans (by simp)
    bounded := h.bounded
    barred := hold h.barred nofun
    told := hold h.told nofun
    hosted := fun p limit feed stage hp =>
      let ⟨g, hg, hparty⟩ := h.hosted p limit feed stage hp
      ⟨g, List.mem_append_left _ hg, hparty⟩
    logged := h.logged }

/-- What goes on in the world makes no new connections there. -/
theorem orderly_world (h : s.Orderly m) {e : Interleaving.Event}
    (he : ∀ limit feed, e ≠ .connect limit feed) (hw : s.world.step run e = some w) :
    Orderly m { s with world := w } :=
  { h with
    hosted := fun p limit feed _ hp =>
      let ⟨stage', hp'⟩ := connection_of_step he hw hp
      h.hosted p limit feed stage' hp'
    logged := logged_step h.logged hw }

theorem mem_put {g' : Guest} (hg : s.guests[i]? = some g) (hg' : g' ∈ s.guests) :
    g' ∈ (s.put i g st a w).guests ∨ g' = g := by
  obtain ⟨j, hj⟩ := List.mem_iff_getElem?.1 hg'
  by_cases hji : j = i
  · subst hji
    rw [hg] at hj
    exact .inr (Option.some.inj hj).symm
  · refine .inl (List.mem_iff_getElem?.2 ⟨j, ?_⟩)
    rw [put, List.getElem?_set_ne (Ne.symm hji), hj]

theorem mem_put_self (hg : s.guests[i]? = some g) :
    { g with standing := st } ∈ (s.put i g st a w).guests :=
  List.mem_set (List.getElem?_eq_some_iff.1 hg).1 _

/-- A connection in the world stays that of a guest who was admitted. -/
theorem hosted_put (h : s.Orderly m) (hg : s.guests[i]? = some g)
    (hp : Passes s.admission s.world g g.standing st a w) {p : Nat} {limit : Option Nat}
    {feed : Wire.Feed} {stage : Stage} (hw : w.parties[p]? = some (.connection limit feed stage)) :
    ∃ g' ∈ (s.put i g st a w).guests,
      g'.standing.party? = some p ∧ g'.limit = limit ∧ g'.feed = feed := by
  rcases world_passes hp with ⟨rfl, hparty⟩ | ⟨hst, rfl, rfl⟩
  · obtain ⟨g', hg', hp', hl', hf'⟩ := h.hosted p limit feed stage hw
    rcases mem_put hg hg' with hmem | rfl
    · exact ⟨g', hmem, hp', hl', hf'⟩
    · exact ⟨_, mem_put_self hg, hparty.trans hp', hl', hf'⟩
  · rw [World.parties_join] at hw
    split at hw
    · rename_i hp
      cases hw
      exact ⟨_, mem_put_self hg, congrArg some hp.symm, rfl, rfl⟩
    · obtain ⟨g', hg', hp', hl', hf'⟩ := h.hosted p limit feed stage hw
      rcases mem_put hg hg' with hmem | rfl
      · exact ⟨g', hmem, hp', hl', hf'⟩
      · rw [hst] at hp'
        cases hp'

theorem orderly_put (h : s.Orderly m) (hg : s.guests[i]? = some g)
    (hp : Passes s.admission s.world g g.standing st a w) : (s.put i g st a w).Orderly m := by
  have hlive : g.standing.live.toNat ≤ s.admission.active := h.active ▸ le_number hg _
  have hhold : g.standing.holding.toNat ≤ s.admission.inUse := h.inUse ▸ le_number hg _
  obtain ⟨hlimit, htotal, hinUse, hactive, hrejected⟩ := counters_passes hp hlive hhold
  have hnumber := number_put hg st a w
  have hlim := h.limit
  have hall : ∀ {P : Guest → Prop}, (∀ g ∈ s.guests, P g) → P { g with standing := st } →
      ∀ g' ∈ (s.put i g st a w).guests, P g' := fun hs hn g' hg' =>
    (List.mem_or_eq_of_mem_set hg').elim (hs g') fun e => e ▸ hn
  have hmem : g ∈ s.guests := List.mem_of_getElem? hg
  exact {
    limit := hlimit.trans h.limit
    inUse := by
      have := hnumber Standing.holding
      have := h.inUse
      change a.inUse = _
      omega
    active := by
      have := hnumber Standing.live
      have := h.active
      change a.active = _
      omega
    rejected := by
      have := hnumber Standing.rejected
      have := h.rejected
      change a.rejected = _
      omega
    total := htotal.trans (h.total.trans List.length_set.symm)
    bounded := hlim ▸ fun hm => bounded_passes hp (hlim.symm ▸ h.bounded) hm
    barred := hall h.barred fun hb => (barred_passes hp hb).elim (h.barred g hmem) (hlim ▸ id)
    told := hall h.told fun text ht => hlim ▸ told_passes hp ht
    hosted := fun p limit feed stage hw => hosted_put h hg hp hw
    logged := by
      rcases world_passes hp with ⟨rfl, -⟩ | ⟨-, -, rfl⟩
      · exact h.logged
      · exact fun x hx => Nat.lt_of_lt_of_le (h.logged x hx) (by simp [World.join, put]) }

theorem orderly_step (h : s.Orderly m) (hs : s.step run e = some s') : s'.Orderly m := by
  rcases step_cases hs with ⟨limit, feed, -, rfl⟩ | ⟨i, g, st, a, w, -, hg, hp, rfl⟩ |
    ⟨e', w, he, hw, rfl⟩
  · exact orderly_arrive h limit feed
  · exact orderly_put h hg hp
  · exact orderly_world h he hw

theorem reachable_orderly (h : Reachable run m r s) : s.Orderly m :=
  h.induct (orderly_start m r) fun _ _ _ => orderly_step

/-! ## Decisions -/

theorem Orderly.admits_of_full (h : s.Orderly m) (hfull : 0 < m ∧ s.admission.inUse = m) :
    s.admission.admits = false := by
  refine (Admission.admits_eq_false_iff (h.limit.symm ▸ h.bounded)).2 ?_
  rwa [h.limit]

theorem Orderly.admits_of_free (h : s.Orderly m) (hfree : ¬ (0 < m ∧ s.admission.inUse = m)) :
    s.admission.admits = true := by
  rw [← h.limit] at hfree
  rw [← Bool.not_eq_false]
  exact mt (Admission.admits_eq_false_iff (h.limit.symm ▸ h.bounded)).1 hfree

/-- A connection that has been counted is refused if all permits are in use, and else gets one. -/
theorem step_counted (h : s.Orderly m) (hg : s.guests[i]? = some g) (hs : g.standing = .counted)
    (run : Runner) :
    s.step run (.go i) = some (if 0 < m ∧ s.admission.inUse = m
      then s.put i g .refused s.admission s.world
      else s.put i g .permitted s.admission.take s.world) := by
  rw [step, hg, Option.bind_some, advance?, hs]
  by_cases hfull : 0 < m ∧ s.admission.inUse = m
  · simp only [h.admits_of_full hfull, if_pos hfull, Bool.false_eq_true, if_false]
  · simp only [h.admits_of_free hfull, if_neg hfull, if_true]

theorem step_served {p : Nat} (hg : s.guests[i]? = some g) (hs : g.standing = .served p)
    (hover : isOver s.world p = true) (run : Runner) :
    s.step run (.go i) = some (s.put i g (.leaving p)
      { s.admission with active := s.admission.active - 1 } s.world) := by
  rw [step, hg, Option.bind_some, advance?, hs]
  simp only [hover, if_true]
  rfl

theorem step_leaving {p : Nat} (hg : s.guests[i]? = some g) (hs : g.standing = .leaving p)
    (run : Runner) :
    s.step run (.go i) = some (s.put i g (.gone p)
      { s.admission with inUse := s.admission.inUse - 1 } s.world) := by
  rw [step, hg, Option.bind_some, advance?, hs]
  rfl

theorem Orderly.live_pos (h : s.Orderly m) (hg : s.guests[i]? = some g)
    (hl : g.standing.live = true) : 0 < s.admission.active := by
  have hle := le_number hg Standing.live
  rw [hl, Bool.toNat_true] at hle
  rwa [h.active]

theorem Orderly.holding_pos (h : s.Orderly m) (hg : s.guests[i]? = some g)
    (hh : g.standing.holding = true) : 0 < s.admission.inUse := by
  have hle := le_number hg Standing.holding
  rw [hh, Bool.toNat_true] at hle
  rwa [h.inUse]

/-- A permit that has been given back is there for the next connection that looks for one. -/
theorem Orderly.reused {p j : Nat} {g' : Guest} (h : s.Orderly m) (hg : s.guests[i]? = some g)
    (hs : g.standing = .leaving p) (hstep : s.step run (.go i) = some s')
    (hg' : s'.guests[j]? = some g') (hs' : g'.standing = .counted) :
    s'.step run (.go j) = some (s'.put j g' .permitted s'.admission.take s'.world) := by
  have hpos : 0 < s.admission.inUse := h.holding_pos hg (by rw [hs]; rfl)
  have hinUse : s'.admission.inUse = s.admission.inUse - 1 := by
    rw [step_leaving hg hs] at hstep
    cases hstep
    rfl
  have hfree : ¬ (0 < m ∧ s'.admission.inUse = m) := fun ⟨hm, he⟩ => by
    have hle := h.bounded hm
    omega
  rw [step_counted (orderly_step h hstep) hg' hs', if_neg hfree]

theorem atDoor_step (h : s.number Standing.atDoor = 0) (he : ∀ limit feed, e ≠ .arrive limit feed)
    (hs : s.step run e = some s') : s'.number Standing.atDoor = 0 := by
  rcases step_cases hs with ⟨limit, feed, rfl, -⟩ | ⟨i, g, st, a, w, -, hg, hp, rfl⟩ |
    ⟨e', w, -, -, rfl⟩
  · exact absurd rfl (he limit feed)
  · have hle := le_number hg Standing.atDoor
    have hnumber := number_put hg st a w Standing.atDoor
    have hst : st.atDoor.toNat ≤ g.standing.atDoor.toNat := atDoor_passes hp
    omega
  · exact h

/-- A guest who found no permit goes on without touching the world. -/
theorem world_of_barred (hg : s.guests[i]? = some g) (hb : g.standing.barred = true)
    (hs : s.step run (.go i) = some s') : s'.world = s.world := by
  obtain ⟨g', hg', hadvance⟩ := Option.bind_eq_some_iff.1 hs
  rw [hg] at hg'
  cases hg'
  obtain ⟨st, a, w, hp, rfl⟩ := passes_of_advance hadvance
  rcases world_passes hp with ⟨rfl, -⟩ | ⟨hst, -⟩
  · rfl
  · rw [hst] at hb
    cases hb

theorem step_arrive (s : Reception) (run : Runner) (limit : Option Nat) (feed : Wire.Feed) :
    s.step run (.arrive limit feed) =
      some ⟨s.admission.count, s.world, s.guests ++ [⟨limit, feed, .counted⟩]⟩ := rfl

theorem step_last (run : Runner) (a : Admission) (w : World) (gs : List Guest) (g : Guest) :
    step run ⟨a, w, gs ++ [g]⟩ (.go gs.length) = advance? ⟨a, w, gs ++ [g]⟩ gs.length g := by
  simp [step]

theorem put_last (a₀ a : Admission) (w₀ w : World) (gs : List Guest) (g : Guest) (st : Standing) :
    put ⟨a₀, w₀, gs ++ [g]⟩ gs.length g st a w = ⟨a, w, gs ++ [{ g with standing := st }]⟩ := by
  simp [put]

/-- An arrival without anything in between: what `Admission.arrive` says becomes of the counters,
and the connection is served, or else it is told that it is not. -/
theorem whole_arrival (h : s.Orderly m) (run : Runner) (limit : Option Nat) (feed : Wire.Feed) :
    let n := s.guests.length
    if 0 < m ∧ s.admission.inUse = m then
      s.admission.arrive.1 = false ∧
        exec run s [.arrive limit feed, .go n, .go n, .go n] =
          some ⟨s.admission.arrive.2, s.world,
            s.guests ++ [⟨limit, feed, .told (Admission.refusalText m)⟩]⟩
    else
      s.admission.arrive.1 = true ∧
        exec run s [.arrive limit feed, .go n, .go n] =
          some ⟨s.admission.arrive.2, s.world.join (.connection limit feed .arrived),
            s.guests ++ [⟨limit, feed, .served s.world.parties.length⟩]⟩ := by
  intro n
  by_cases hfull : 0 < m ∧ s.admission.inUse = m
  · have hadmits : s.admission.admits = false := h.admits_of_full hfull
    have hcount : s.admission.count.admits = false := hadmits
    have htext : s.admission.count.turnAway.refusal.encode = Admission.refusalText m :=
      (Admission.refusal_encode _).trans (congrArg Admission.refusalText h.limit)
    simp only [if_pos hfull, Admission.arrive_eq, hadmits, Bool.false_eq_true, if_false, n]
    refine ⟨trivial, ?_⟩
    simp only [exec, Runs.exec_cons, Runs.exec_nil, step_arrive, Option.bind_some, step_last,
      advance?, hcount, put_last,
      Bool.false_eq_true, if_false, htext]
  · have hadmits : s.admission.admits = true := h.admits_of_free hfull
    have hcount : s.admission.count.admits = true := hadmits
    simp only [if_neg hfull, Admission.arrive_eq, hadmits, if_true, n]
    refine ⟨trivial, ?_⟩
    simp only [exec, Runs.exec_cons, Runs.exec_nil, step_arrive, Option.bind_some, step_last,
      advance?, hcount, put_last, if_true]

/-- A service that has no permit left answers with the refusal, whatever the peer sends and however
an attempt to get the lock would end, and only counts the connection. -/
theorem serve_of_full (h : s.Orderly m) (hfull : 0 < m ∧ s.admission.inUse = m) {v : Service}
    (hv : v.server.admission = s.admission) (attempt : Except Lock.Failure Unit)
    (feed : Wire.Feed) :
    v.serve attempt feed =
      (.answered (Text.encodeUtf8 (Admission.refusalText m).toList),
        { v with server := { v.server with admission := s.admission.arrive.2 } }) := by
  have harrive : s.admission.arrive = (false, s.admission.count.turnAway) := by
    rw [Admission.arrive_eq, h.admits_of_full hfull]
    rfl
  have htext : s.admission.count.turnAway.refusal.encode = Admission.refusalText m :=
    (Admission.refusal_encode _).trans (congrArg Admission.refusalText h.limit)
  simp only [Service.serve, hv, harrive, Bool.not_false, if_true, htext]

/-! ## What holds at all times -/

/-- What is kept to at the door with `m` permits, or with any number of connections allowed if `m`
is 0. -/
structure Kept (run : Runner) (m : Nat) (s : Reception) : Prop where
  /-- The permits in use are those that guests hold. -/
  inUse : s.admission.inUse = s.number Standing.holding
  /-- The gauge shows how many are live. -/
  active : s.admission.active = s.number Standing.live
  bounded : 0 < m → s.admission.active ≤ s.admission.inUse ∧ s.admission.inUse ≤ m
  rejected : s.admission.rejected = s.number Standing.rejected
  /-- All connections so far were turned away, or were admitted, or their arrival is not over. -/
  total : s.admission.total =
    s.admission.rejected + s.number Standing.admitted + s.number Standing.atDoor
  /-- Those who were admitted are live or have terminated. -/
  admitted : s.admission.active + s.number Standing.terminated = s.number Standing.admitted
  /-- Nobody is at the door unless somebody has just arrived. -/
  atDoor : s.number Standing.atDoor = 0 → ∀ e s', (∀ limit feed, e ≠ .arrive limit feed) →
    s.step run e = some s' → s'.number Standing.atDoor = 0
  /-- Without a limit nobody is turned away. -/
  unlimited : m = 0 → s.admission.rejected = 0 ∧ ∀ g ∈ s.guests, g.standing.barred = false
  /-- A connection is refused if and only if all permits are in use when it looks for one. -/
  decided : ∀ i g, s.guests[i]? = some g → g.standing = .counted →
    s.step run (.go i) = some (if 0 < m ∧ s.admission.inUse = m
      then s.put i g .refused s.admission s.world
      else s.put i g .permitted s.admission.take s.world)
  /-- An arrival without anything in between leads to what `Admission.arrive` says. -/
  arrives : ∀ limit feed, let n := s.guests.length
    if 0 < m ∧ s.admission.inUse = m then
      s.admission.arrive.1 = false ∧ exec run s [.arrive limit feed, .go n, .go n, .go n] =
        some ⟨s.admission.arrive.2, s.world,
          s.guests ++ [⟨limit, feed, .told (Admission.refusalText m)⟩]⟩
    else
      s.admission.arrive.1 = true ∧ exec run s [.arrive limit feed, .go n, .go n] =
        some ⟨s.admission.arrive.2, s.world.join (.connection limit feed .arrived),
          s.guests ++ [⟨limit, feed, .served s.world.parties.length⟩]⟩
  /-- Who has been served is taken off the gauge, which shows it until then; its permit stays in
  use. -/
  leaves : ∀ i g p, s.guests[i]? = some g → g.standing = .served p →
    0 < s.admission.active ∧ (isOver s.world p = true →
      s.step run (.go i) = some (s.put i g (.leaving p)
        { s.admission with active := s.admission.active - 1 } s.world))
  /-- Only then the permit is given back, which is in use until then. -/
  returns : ∀ i g p, s.guests[i]? = some g → g.standing = .leaving p →
    0 < s.admission.inUse ∧ s.step run (.go i) = some (s.put i g (.gone p)
      { s.admission with inUse := s.admission.inUse - 1 } s.world)
  /-- Behind that, whoever looks for a permit gets one. -/
  reused : ∀ i g p s' j g', s.guests[i]? = some g → g.standing = .leaving p →
    s.step run (.go i) = some s' → s'.guests[j]? = some g' → g'.standing = .counted →
    s'.step run (.go j) = some (s'.put j g' .permitted s'.admission.take s'.world)
  /-- Who is turned away is told so, and how many permits there are. -/
  told : ∀ g ∈ s.guests, ∀ text, g.standing = .told text → text = Admission.refusalText m
  /-- Who is turned away leaves the registry and the lock alone. -/
  barred : ∀ i g s', s.guests[i]? = some g → g.standing.barred = true →
    s.step run (.go i) = some s' → s'.world = s.world
  /-- All that is done there is done by sweeps and by guests who were admitted. -/
  logged : ∀ x ∈ s.world.log, (∃ course, s.world.parties[x.1]? = some (.sweep course)) ∨
    ∃ g ∈ s.guests, g.standing.party? = some x.1
  /-- A service that has no permit left only counts the connection and tells it so. -/
  full : 0 < m ∧ s.admission.inUse = m →
    ∀ v : Service, v.server.admission = s.admission → ∀ attempt feed,
      v.serve attempt feed =
        (.answered (Text.encodeUtf8 (Admission.refusalText m).toList),
          { v with server := { v.server with admission := s.admission.arrive.2 } })

theorem Orderly.not_barred (h : s.Orderly m) (hm : m = 0) :
    ∀ g ∈ s.guests, g.standing.barred = false := fun g hg =>
  Bool.eq_false_iff.2 fun hb => by
    have hpos := h.barred g hg hb
    omega

theorem Orderly.party (h : s.Orderly m) {x : Nat × Activity} (hx : x ∈ s.world.log) :
    (∃ course, s.world.parties[x.1]? = some (.sweep course)) ∨
      ∃ g ∈ s.guests, g.standing.party? = some x.1 := by
  cases hp : s.world.parties[x.1]? with
  | none => exact absurd (h.logged x hx) (Nat.not_lt.2 (List.getElem?_eq_none_iff.1 hp))
  | some p =>
    cases p with
    | connection limit feed stage =>
      obtain ⟨g, hg, hparty, -⟩ := h.hosted x.1 limit feed stage hp
      exact .inr ⟨g, hg, hparty⟩
    | sweep course => exact .inl ⟨course, rfl⟩

/-- **Permits are kept to, and the counters count.** With `m` permits, or with any number of
connections allowed if `m` is 0, whatever guests come, and however they go on side by side. -/
theorem admission_kept (h : Reachable run m r s) : s.Kept run m := by
  have ho := reachable_orderly h
  obtain ⟨hlength, hadmitted, hlive⟩ := s.number_split
  have hinUse : s.admission.inUse = s.number Standing.holding := ho.inUse
  have hactive : s.admission.active = s.number Standing.live := ho.active
  have hrejected : s.admission.rejected = s.number Standing.rejected := ho.rejected
  have htotal : s.admission.total = s.guests.length := ho.total
  exact {
    inUse := hinUse
    active := hactive
    bounded := fun hm => ⟨by omega, ho.bounded hm⟩
    rejected := hrejected
    total := by omega
    admitted := by omega
    atDoor := fun hd e s' => atDoor_step hd
    unlimited := fun hm => by
      refine ⟨hrejected.trans (List.countP_eq_zero.2 fun g hg hr => ?_), ho.not_barred hm⟩
      exact Bool.eq_false_iff.1 (ho.not_barred hm g hg) (Standing.barred_of_rejected hr)
    decided := fun i g hg hs => step_counted ho hg hs run
    arrives := whole_arrival ho run
    leaves := fun i g p hg hs =>
      ⟨ho.live_pos hg (by rw [hs]; rfl), fun hover => step_served hg hs hover run⟩
    returns := fun i g p hg hs =>
      ⟨ho.holding_pos hg (by rw [hs]; rfl), step_leaving hg hs run⟩
    reused := fun i g p s' j g' => ho.reused
    told := ho.told
    barred := fun i g s' => world_of_barred
    logged := fun x hx => ho.party hx
    full := fun hfull v hv => serve_of_full ho hfull hv }

/-- With one permit, a guest tests the connection and is taken off the gauge, and another one was
turned away meanwhile. As long as the permit has not been given back, a third one is refused; once
it has been, a fourth one gets it. In the world there are only a sweep, which has the lock, and the
first guest. -/
theorem admission_kept_again :
    let run : Runner := fun _ _ _ => .succeeded
    let feed : Wire.Feed := .atOnce (Text.encodeUtf8 "TEST\n".toList) true
    let refusal := "ERROR\nMax Connections Reached:  1\n"
    let first : Guest := ⟨none, feed, .leaving 1⟩
    let second : Guest := ⟨some 5, feed, .told refusal⟩
    let third : Guest := ⟨none, feed, .counted⟩
    let world : World :=
      ⟨{}, some 0, [.sweep .entered, .connection none feed (.closed none)], [(0, .attempt true)]⟩
    let s : Reception := ⟨⟨1, 1, 0, 3, 1⟩, world, [first, second, third]⟩
    let t : Reception := ⟨⟨1, 0, 0, 4, 2⟩, world,
      [{ first with standing := .gone 1 }, second, { third with standing := .told refusal },
        third]⟩
    Reachable run 1 {} s ∧ Reachable run 1 {} t ∧
      s.number Standing.live = 0 ∧ s.number Standing.holding = 1 ∧
      s.number Standing.terminated = s.number Standing.admitted ∧
      s.step run (.go 2) = some (s.put 2 third .refused ⟨1, 1, 0, 3, 1⟩ world) ∧
      s.step run (.go 0) = some (s.put 0 first (.gone 1) ⟨1, 0, 0, 3, 1⟩ world) ∧
      t.number Standing.holding = 0 ∧
      t.step run (.go 3) = some (t.put 3 third .permitted ⟨1, 1, 0, 4, 2⟩ world) ∧
      (∀ text, second.standing = .told text → text = Admission.refusalText 1) ∧
      ∀ s', s.step run (.go 1) = some s' → s'.world = world := by
  intro run feed refusal first second third world s t
  let before : List Event := [.arrive none feed, .go 0, .wake, .go 0, .arrive (some 5) feed, .go 1,
    .push 0 .go, .push 1 .go, .go 0, .go 1, .go 1, .arrive none feed]
  have hs : Reachable run 1 {} s := ⟨before, by decide +kernel⟩
  have ht : Reachable run 1 {} t :=
    ⟨before ++ [.go 2, .go 2, .go 0, .go 2, .arrive none feed], by decide +kernel⟩
  have hkept := admission_kept hs
  have hlater := admission_kept ht
  have hrefused := hkept.decided 2 third rfl rfl
  have hpermitted := hlater.decided 3 third rfl rfl
  rw [if_pos ⟨Nat.one_pos, rfl⟩] at hrefused
  rw [if_neg (fun hfull => Nat.zero_ne_one hfull.2)] at hpermitted
  have hsettled : s.number Standing.terminated = s.number Standing.admitted := by
    rw [← hkept.admitted]
    exact (Nat.zero_add _).symm
  exact ⟨hs, ht, hkept.active.symm, hkept.inUse.symm, hsettled, hrefused,
    (hkept.returns 0 first 1 rfl rfl).2, hlater.inUse.symm, hpermitted,
    hkept.told second (.tail _ (.head _)), fun s' => hkept.barred 1 second s' rfl rfl⟩

end Reception
end
end GridKeeper.Server

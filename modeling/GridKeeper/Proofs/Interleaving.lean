import GridKeeper.Exchange
import GridKeeper.Proofs.Runs

/-!
# Connections and sweeps side by side

`Exchange.serve?` and `Sweep.tick` say what a connection or a sweep does when nobody else is there.
Here any number of them, the *parties*, share one registry and one lock, and take their steps in
any order. A step is what the registry or the lock answers at once:

* a connection reads its request (`arrived`), gets the lock or fails to (`asking`), carries its
  operation out (`admitted`), sends a reply of success (`replying`), gives the lock up (`leaving`),
  and sends a reply of error without the lock (`refusing`);
* a sweep gets the lock or fails to (`due`), looks at the number of pending launches (`entered`),
  copies the directory (`copying`), looks at the sessions of the next node (`walking`), starts its
  clean-up (`chosen`), ends it (`cleaning`), and gives the lock up (`leaving`).

The lock is granted to one party at a time, and any attempt may fail. A sweep may be dropped between
any two of its steps: its lock is given up, and a clean-up under way ends with it. Sweeps may
overlap here, which a scheduler does not let happen; nothing below depends on that. What a clean-up
comes to is left to a `Runner`, which has no way to touch the registry.

**Results.**
* `step_cases`: a step is the arrival of a party, or one move of one party.
* `move_lock`: a move gets the lock only if it is free, and gives up only a lock that is held.
* `reachable_owned`: exactly the party that holds the lock stands inside its locked section.
* `registry_of_outside`: a party outside leaves the registry alone.
-/
namespace GridKeeper.Interleaving

/-- What the clean-ups come to: told the sweep, the number of clean-ups that went before in it, and
the node. -/
abbrev Runner := Nat → Nat → Node → Sweep.Outcome

/-! ## Parties -/

/-- Where a connection stands (`ConnectionHandler.serve`). -/
inductive Stage where
  | arrived
  | asking (op : Registry.Operation)
  | admitted (op : Registry.Operation)
  | replying (message : String)
  | leaving (reply : Wire.Reply)
  | refusing (message : String)
  | closed (reply : Option Wire.Reply)
deriving Repr, DecidableEq

/-- Where a sweep stands, with its reports so far and the nodes that are left
(`CleanupScheduler.walk`). -/
inductive Course where
  | due
  | entered
  | copying
  | walking (reports : List Sweep.NodeReport) (rest : List Node)
  | chosen (reports : List Sweep.NodeReport) (n : Node) (rest : List Node)
  | cleaning (reports : List Sweep.NodeReport) (n : Node) (rest : List Node)
  | leaving (report : Sweep.Report)
  | ended (report : Sweep.Report)
  | dropped
deriving Repr, DecidableEq

inductive Party where
  | connection (limit : Option Nat) (feed : Wire.Feed) (stage : Stage)
  | sweep (course : Course)
deriving Repr, DecidableEq

def Stage.inside : Stage → Bool
  | admitted _ | replying _ | leaving _ => true
  | _ => false

def Course.inside : Course → Bool
  | entered | copying | walking .. | chosen .. | cleaning .. | leaving _ => true
  | _ => false

def Party.inside : Party → Bool
  | connection _ _ stage => stage.inside
  | sweep course => course.inside

/-- What is read off a feed; `none` if that takes forever. -/
def request? (limit : Option Nat) (feed : Wire.Feed) : Option (Except Wire.Fault Wire.Request) :=
  ((⟨feed, 0, 0⟩ : Wire.Reader).read? limit).map (·.1)

/-- The nodes that were cleaned, as reports have it. -/
def cleanedIn (reports : List Sweep.NodeReport) : List Node :=
  reports.filterMap Sweep.NodeReport.cleaned?

@[simp] theorem cleanedIn_nil : cleanedIn [] = [] := rfl

@[simp] theorem cleanedIn_busy (n : Node) (k : Nat) (reports : List Sweep.NodeReport) :
    cleanedIn (.busy n k :: reports) = cleanedIn reports := rfl

@[simp] theorem cleanedIn_cleaned (n : Node) (o : Sweep.Outcome)
    (reports : List Sweep.NodeReport) :
    cleanedIn (.cleaned n o :: reports) = n :: cleanedIn reports := rfl

@[simp] theorem cleanedIn_append (as bs : List Sweep.NodeReport) :
    cleanedIn (as ++ bs) = cleanedIn as ++ cleanedIn bs := List.filterMap_append

/-! ## Moves -/

/-- What a move comes to: where the party stands then, the registry, and what was done. -/
structure Move where
  party : Party
  registry : Registry
  activity : Option Activity := none
deriving Repr, DecidableEq

/-- How a party is made to move: it goes on, its attempt to get the lock fails, or it is dropped. -/
inductive Push where
  | go
  | fail (f : Lock.Failure)
  | drop
deriving Repr, DecidableEq

def Stage.go? (limit : Option Nat) (feed : Wire.Feed) (free : Bool) (r : Registry) :
    Stage → Option Move
  | arrived =>
    match request? limit feed with
    | none => none
    | some (.ok .probe) => some ⟨.connection limit feed (.closed none), r, none⟩
    | some (.ok (.call op)) => some ⟨.connection limit feed (.asking op), r, none⟩
    | some (.error f) => some ⟨.connection limit feed (.refusing f.message), r, none⟩
  | asking op =>
    if free then some ⟨.connection limit feed (.admitted op), r, some (.attempt true)⟩ else none
  | admitted op =>
    let (answer, after) := r.apply op
    let stage := match Wire.Message.reply answer with
      | .success m => .replying m
      | .error m => .leaving (.error m)
    some ⟨.connection limit feed stage, after, some (.operate op)⟩
  | replying m =>
    some ⟨.connection limit feed (.leaving (.success m)), r, some (.send (.success m))⟩
  | leaving reply =>
    let stage := match reply with
      | .success m => .closed (some (.success m))
      | .error m => .refusing m
    some ⟨.connection limit feed stage, r, some .release⟩
  | refusing m =>
    some ⟨.connection limit feed (.closed (some (.error m))), r, some (.send (.error m))⟩
  | closed _ => none

/-- A sweep goes on; `outcome` tells what its clean-ups come to. -/
def Course.go? (outcome : Nat → Node → Sweep.Outcome) (free : Bool) (r : Registry) :
    Course → Option Move
  | due => if free then some ⟨.sweep .entered, r, some (.attempt true)⟩ else none
  | entered =>
    if r.ledger.pending ≠ 0 then
      some ⟨.sweep (.leaving (.pendingSessions r.ledger.pending)), r, none⟩
    else some ⟨.sweep .copying, r, none⟩
  | copying => some ⟨.sweep (.walking [] r.directory.nodes), r, none⟩
  | walking reports [] => some ⟨.sweep (.leaving (.walked reports)), r, none⟩
  | walking reports (n :: rest) =>
    if r.ledger.count n.key ≠ 0 then
      some ⟨.sweep (.walking (reports ++ [.busy n (r.ledger.count n.key)]) rest), r, none⟩
    else some ⟨.sweep (.chosen reports n rest), r, none⟩
  | chosen reports n rest => some ⟨.sweep (.cleaning reports n rest), r, some (.clean n)⟩
  | cleaning reports n rest =>
    let report := .cleaned n (outcome (cleanedIn reports).length n)
    some ⟨.sweep (.walking (reports ++ [report]) rest), r, none⟩
  | leaving report => some ⟨.sweep (.ended report), r, some .release⟩
  | ended _ | dropped => none

def Party.move? (outcome : Nat → Node → Sweep.Outcome) (free : Bool) (r : Registry) :
    Push → Party → Option Move
  | .go, connection limit feed stage => stage.go? limit feed free r
  | .go, sweep course => course.go? outcome free r
  | .fail f, connection limit feed (.asking _) =>
    some ⟨.connection limit feed (.refusing f.message), r, some (.attempt false)⟩
  | .fail f, sweep .due =>
    some ⟨.sweep (.ended (.lockUnavailable f.message)), r, some (.attempt false)⟩
  | .fail _, _ => none
  | .drop, connection .. => none
  | .drop, sweep (.ended _) | .drop, sweep .dropped => none
  | .drop, sweep course => some ⟨.sweep .dropped, r, if course.inside then some .release else none⟩

/-! ## Steps -/

structure World where
  registry : Registry
  holder : Option Nat := none
  parties : List Party := []
  log : List (Nat × Activity) := []
deriving Repr, DecidableEq

inductive Event where
  | connect (limit : Option Nat) (feed : Wire.Feed)
  | wake
  | push (i : Nat) (p : Push)
deriving Repr, DecidableEq

/-- Who holds the lock once party `i` has done something. -/
def hold (i : Nat) (holder : Option Nat) : Option Activity → Option Nat
  | some (.attempt true) => some i
  | some .release => none
  | _ => holder

namespace World

def start (r : Registry) : World := { registry := r }

def join (w : World) (p : Party) : World := { w with parties := w.parties ++ [p] }

def put (w : World) (i : Nat) (m : Move) : World where
  registry := m.registry
  holder := hold i w.holder m.activity
  parties := w.parties.set i m.party
  log := w.log ++ m.activity.toList.map (i, ·)

/-- What an event leads to; `none` if it cannot take place. -/
def step (run : Runner) (w : World) : Event → Option World
  | .connect limit feed => some (w.join (.connection limit feed .arrived))
  | .wake => some (w.join (.sweep .due))
  | .push i how =>
    w.parties[i]?.bind fun p => (p.move? (run i) w.holder.isNone w.registry how).map (w.put i)

abbrev exec (run : Runner) : World → List Event → Option World := Runs.exec (step run)

/-- Whether `w` is reached from a start with the registry `r`. -/
def Reachable (run : Runner) (r : Registry) (w : World) : Prop :=
  Runs.Reaches (step run) (start r) w

def Cleaning (w : World) (i : Nat) (n : Node) : Prop :=
  ∃ reports rest, w.parties[i]? = some (.sweep (.cleaning reports n rest))

end World

/-! ## What a move can do -/

inductive Moves (outcome : Nat → Node → Sweep.Outcome) (free : Bool) (r : Registry) :
    Push → Party → Move → Prop
  | probe {limit feed} (h : request? limit feed = some (.ok .probe)) :
    Moves outcome free r .go (.connection limit feed .arrived)
      ⟨.connection limit feed (.closed none), r, none⟩
  | read {limit feed op} (h : request? limit feed = some (.ok (.call op))) :
    Moves outcome free r .go (.connection limit feed .arrived)
      ⟨.connection limit feed (.asking op), r, none⟩
  | misread {limit feed f} (h : request? limit feed = some (.error f)) :
    Moves outcome free r .go (.connection limit feed .arrived)
      ⟨.connection limit feed (.refusing f.message), r, none⟩
  | grant {limit feed op} (h : free = true) :
    Moves outcome free r .go (.connection limit feed (.asking op))
      ⟨.connection limit feed (.admitted op), r, some (.attempt true)⟩
  | refuse {limit feed op} (f : Lock.Failure) :
    Moves outcome free r (.fail f) (.connection limit feed (.asking op))
      ⟨.connection limit feed (.refusing f.message), r, some (.attempt false)⟩
  | succeed {limit feed op m} (h : Wire.Message.reply (r.apply op).1 = .success m) :
    Moves outcome free r .go (.connection limit feed (.admitted op))
      ⟨.connection limit feed (.replying m), r.after op, some (.operate op)⟩
  | decline {limit feed op m} (h : Wire.Message.reply (r.apply op).1 = .error m) :
    Moves outcome free r .go (.connection limit feed (.admitted op))
      ⟨.connection limit feed (.leaving (.error m)), r.after op, some (.operate op)⟩
  | reply {limit feed m} :
    Moves outcome free r .go (.connection limit feed (.replying m))
      ⟨.connection limit feed (.leaving (.success m)), r, some (.send (.success m))⟩
  | finish {limit feed m} :
    Moves outcome free r .go (.connection limit feed (.leaving (.success m)))
      ⟨.connection limit feed (.closed (some (.success m))), r, some .release⟩
  | giveUp {limit feed m} :
    Moves outcome free r .go (.connection limit feed (.leaving (.error m)))
      ⟨.connection limit feed (.refusing m), r, some .release⟩
  | deny {limit feed m} :
    Moves outcome free r .go (.connection limit feed (.refusing m))
      ⟨.connection limit feed (.closed (some (.error m))), r, some (.send (.error m))⟩
  | enter (h : free = true) :
    Moves outcome free r .go (.sweep .due) ⟨.sweep .entered, r, some (.attempt true)⟩
  | skip (f : Lock.Failure) :
    Moves outcome free r (.fail f) (.sweep .due)
      ⟨.sweep (.ended (.lockUnavailable f.message)), r, some (.attempt false)⟩
  | pending (h : r.ledger.pending ≠ 0) :
    Moves outcome free r .go (.sweep .entered)
      ⟨.sweep (.leaving (.pendingSessions r.ledger.pending)), r, none⟩
  | calm (h : r.ledger.pending = 0) :
    Moves outcome free r .go (.sweep .entered) ⟨.sweep .copying, r, none⟩
  | copy :
    Moves outcome free r .go (.sweep .copying) ⟨.sweep (.walking [] r.directory.nodes), r, none⟩
  | busy {reports n rest} (h : r.ledger.count n.key ≠ 0) :
    Moves outcome free r .go (.sweep (.walking reports (n :: rest)))
      ⟨.sweep (.walking (reports ++ [.busy n (r.ledger.count n.key)]) rest), r, none⟩
  | idle {reports n rest} (h : r.ledger.count n.key = 0) :
    Moves outcome free r .go (.sweep (.walking reports (n :: rest)))
      ⟨.sweep (.chosen reports n rest), r, none⟩
  | begin {reports n rest} :
    Moves outcome free r .go (.sweep (.chosen reports n rest))
      ⟨.sweep (.cleaning reports n rest), r, some (.clean n)⟩
  | done {reports n rest} :
    Moves outcome free r .go (.sweep (.cleaning reports n rest))
      ⟨.sweep (.walking (reports ++ [.cleaned n (outcome (cleanedIn reports).length n)]) rest), r,
        none⟩
  | last {reports} :
    Moves outcome free r .go (.sweep (.walking reports []))
      ⟨.sweep (.leaving (.walked reports)), r, none⟩
  | leave {report} :
    Moves outcome free r .go (.sweep (.leaving report))
      ⟨.sweep (.ended report), r, some .release⟩
  | dropInside {course} (h : course.inside = true) :
    Moves outcome free r .drop (.sweep course) ⟨.sweep .dropped, r, some .release⟩
  | dropOutside :
    Moves outcome free r .drop (.sweep .due) ⟨.sweep .dropped, r, none⟩

section
variable {outcome : Nat → Node → Sweep.Outcome} {free : Bool} {r : Registry} {how : Push}
  {p : Party} {m : Move}

theorem moves_stage {limit : Option Nat} {feed : Wire.Feed} {stage : Stage}
    (h : stage.go? limit feed free r = some m) :
    Moves outcome free r .go (.connection limit feed stage) m := by
  cases stage with
  | arrived =>
    simp only [Stage.go?] at h
    split at h
    · cases h
    · cases h; exact .probe ‹_›
    · cases h; exact .read ‹_›
    · cases h; exact .misread ‹_›
  | asking op =>
    simp only [Stage.go?] at h
    split at h
    · cases h; exact .grant ‹_›
    · cases h
  | admitted op =>
    simp only [Stage.go?] at h
    cases hr : Wire.Message.reply (r.apply op).1 with
    | success s => rw [hr] at h; cases h; exact .succeed hr
    | error s => rw [hr] at h; cases h; exact .decline hr
  | replying s => cases h; exact .reply
  | leaving reply =>
    cases reply with
    | success m => cases h; exact .finish
    | error m => cases h; exact .giveUp
  | refusing s => cases h; exact .deny
  | closed reply => cases h

theorem moves_course {course : Course} (h : course.go? outcome free r = some m) :
    Moves outcome free r .go (.sweep course) m := by
  cases course with
  | due =>
    simp only [Course.go?] at h
    split at h
    · cases h; exact .enter ‹_›
    · cases h
  | entered =>
    simp only [Course.go?] at h
    split at h
    · cases h; exact .pending ‹_›
    · cases h; exact .calm (by omega)
  | copying => cases h; exact .copy
  | walking reports nodes =>
    cases nodes with
    | nil => cases h; exact .last
    | cons n rest =>
      simp only [Course.go?] at h
      split at h
      · cases h; exact .busy ‹_›
      · cases h; exact .idle (by omega)
  | chosen reports n rest => cases h; exact .begin
  | cleaning reports n rest => cases h; exact .done
  | leaving report => cases h; exact .leave
  | ended report => cases h
  | dropped => cases h

theorem moves_of_move (h : p.move? outcome free r how = some m) :
    Moves outcome free r how p m := by
  cases how with
  | go =>
    cases p with
    | connection limit feed stage => exact moves_stage h
    | sweep course => exact moves_course h
  | fail f =>
    cases p with
    | connection limit feed stage => cases stage <;> cases h; exact .refuse f
    | sweep course => cases course <;> cases h; exact .skip f
  | drop =>
    cases p with
    | connection limit feed stage => cases h
    | sweep course =>
      cases course with
      | due => cases h; exact .dropOutside
      | ended report => cases h
      | dropped => cases h
      | _ => cases h; exact .dropInside rfl

/-- A move enters the locked section, stays outside or inside, or leaves; only a move that stays
inside may change the registry. -/
theorem move_lock (h : Moves outcome free r how p m) :
    (p.inside = false ∧ m.party.inside = true ∧ m.registry = r ∧ free = true ∧
      m.activity = some (.attempt true)) ∨
    (p.inside = false ∧ m.party.inside = false ∧ m.registry = r ∧
      ∀ i holder, hold i holder m.activity = holder) ∨
    (p.inside = true ∧ m.party.inside = true ∧ ∀ i holder, hold i holder m.activity = holder) ∨
    (p.inside = true ∧ m.party.inside = false ∧ m.registry = r ∧ m.activity = some .release) := by
  cases h
  case grant h | enter h => exact .inl ⟨rfl, rfl, rfl, h, rfl⟩
  case probe | read | misread | refuse | deny | skip | dropOutside =>
    exact .inr (.inl ⟨rfl, rfl, rfl, fun _ _ => rfl⟩)
  case finish | giveUp | leave => exact .inr (.inr (.inr ⟨rfl, rfl, rfl, rfl⟩))
  case dropInside h => exact .inr (.inr (.inr ⟨h, rfl, rfl, rfl⟩))
  all_goals exact .inr (.inr (.inl ⟨rfl, rfl, fun _ _ => rfl⟩))

theorem registry_of_outside (h : Moves outcome free r how p m) (hp : p.inside = false) :
    m.registry = r := by
  rcases move_lock h with ⟨-, -, hr, -⟩ | ⟨-, -, hr, -⟩ | ⟨hi, -⟩ | ⟨hi, -⟩
  · exact hr
  · exact hr
  · rw [hp] at hi; cases hi
  · rw [hp] at hi; cases hi

end

/-! ## What a step can do -/

namespace World

variable {run : Runner} {r : Registry} {w w' : World} {e : Event}

/-- A step is the arrival of a connection, the arrival of a sweep, or a move of one party. -/
theorem step_cases (h : w.step run e = some w') :
    (∃ limit feed, e = .connect limit feed ∧ w' = w.join (.connection limit feed .arrived)) ∨
    (e = .wake ∧ w' = w.join (.sweep .due)) ∨
    (∃ i how p m, e = .push i how ∧ w.parties[i]? = some p ∧
      Moves (run i) w.holder.isNone w.registry how p m ∧ w' = w.put i m) := by
  cases e with
  | connect limit feed => cases h; exact .inl ⟨limit, feed, rfl, rfl⟩
  | wake => cases h; exact .inr (.inl ⟨rfl, rfl⟩)
  | push i how =>
    simp only [step, Option.bind_eq_some_iff, Option.map_eq_some_iff] at h
    obtain ⟨p, hp, m, hm, rfl⟩ := h
    exact .inr (.inr ⟨i, how, p, m, rfl, hp, moves_of_move hm, rfl⟩)

theorem parties_join (w : World) (p : Party) (i : Nat) :
    (w.join p).parties[i]? =
      if i = w.parties.length then some p else w.parties[i]? := by
  simp only [join, List.getElem?_append]
  by_cases h : i < w.parties.length
  · rw [if_pos h, if_neg (by omega)]
  · rw [if_neg h]
    by_cases he : i = w.parties.length
    · simp [he]
    · rw [if_neg he, List.getElem?_eq_none (by simp; omega), List.getElem?_eq_none (by omega)]

theorem parties_join_of_some {i : Nat} {p q : Party} (h : w.parties[i]? = some p) :
    (w.join q).parties[i]? = some p := by
  have hi : i < w.parties.length := (List.getElem?_eq_some_iff.1 h).1
  rw [parties_join, if_neg (by omega), h]

theorem parties_put_self {i : Nat} {p : Party} (h : w.parties[i]? = some p) (m : Move) :
    (w.put i m).parties[i]? = some m.party := by
  have hi : i < w.parties.length := (List.getElem?_eq_some_iff.1 h).1
  simp [put, hi]

theorem parties_put_other {i j : Nat} (m : Move) (h : j ≠ i) :
    (w.put i m).parties[j]? = w.parties[j]? := by
  simp only [put, List.getElem?_set_ne (Ne.symm h)]

/-! ## Who holds the lock -/

/-- Exactly the holder of the lock stands inside its locked section. -/
def Owned (w : World) : Prop :=
  ∀ i, w.holder = some i ↔ ∃ p, w.parties[i]? = some p ∧ p.inside = true

theorem Owned.outside (hw : w.Owned) {i j : Nat} {p q : Party} (hi : w.parties[i]? = some p)
    (hp : p.inside = true) (hj : w.parties[j]? = some q) (hne : j ≠ i) : q.inside = false := by
  have hh : w.holder = some i := (hw i).2 ⟨p, hi, hp⟩
  cases hq : q.inside with
  | false => rfl
  | true =>
    have hj' : w.holder = some j := (hw j).2 ⟨q, hj, hq⟩
    rw [hh] at hj'
    exact absurd (Option.some.inj hj').symm hne

theorem owned_start (r : Registry) : (start r).Owned := by
  intro i
  simp [start]

theorem owned_join (hw : w.Owned) {p : Party} (hp : p.inside = false) : (w.join p).Owned := by
  intro i
  rw [parties_join]
  change w.holder = some i ↔ _
  rw [hw i]
  by_cases hi : i = w.parties.length
  · subst hi
    simp [hp]
  · rw [if_neg hi]

theorem owned_put (hw : w.Owned) {i : Nat} {p : Party} {m : Move} {how : Push}
    (hi : w.parties[i]? = some p)
    (hm : Moves (run i) w.holder.isNone w.registry how p m) : (w.put i m).Owned := by
  intro j
  change hold i w.holder m.activity = some j ↔ _
  by_cases hj : j = i
  · subst hj
    rw [parties_put_self hi]
    simp only [Option.some.injEq, exists_eq_left']
    have hp : w.holder = some j ↔ p.inside = true := by rw [hw j, hi]; simp
    rcases move_lock hm with ⟨-, h2, -, -, h5⟩ | ⟨h1, h2, -, h4⟩ | ⟨h1, h2, h4⟩ | ⟨-, h2, -, h5⟩
    · simp [h5, h2, hold]
    · rw [h4, hp, h1, h2]
    · rw [h4, hp, h1, h2]
    · simp [h5, h2, hold]
  · rw [parties_put_other m hj, ← hw j]
    rcases move_lock hm with ⟨-, -, -, hf, h5⟩ | ⟨-, -, -, h4⟩ | ⟨-, -, h4⟩ | ⟨h1, -, -, h5⟩
    · have hn : w.holder = none := by simpa using hf
      simp [h5, hn, hold, Ne.symm hj]
    · rw [h4]
    · rw [h4]
    · have hh : w.holder = some i := (hw i).2 ⟨p, hi, h1⟩
      simp [h5, hh, hold, Ne.symm hj]

theorem owned_step (hw : w.Owned) (h : w.step run e = some w') : w'.Owned := by
  rcases step_cases h with ⟨limit, feed, -, rfl⟩ | ⟨-, rfl⟩ | ⟨i, how, p, m, -, hi, hm, rfl⟩
  · exact owned_join hw rfl
  · exact owned_join hw rfl
  · exact owned_put hw hi hm

theorem reachable_owned (h : Reachable run r w) : w.Owned :=
  h.induct (owned_start r) fun _ _ _ hw hs => owned_step hw hs

end World
end GridKeeper.Interleaving

import GridKeeper.Proofs.Refusals

/-!
# Lock discipline

A request or a sweep tries to get the lock at most once, does its work only while it holds it, and
gives it up in the end, whatever goes wrong on the way. `Licit` says what may be done while the lock
is held and what while it is not, `Keeps` that a whole trail of activities is of that kind. A sweep
has no trail of its own in its report, so `Sweep.trail` follows the sweep as it goes, and
`told_trail` says that the report tells the same.

**Results.**
* `disciplined`: each step keeps to the discipline, from any registry.
* `lock_discipline`: so does a whole run of steps, and after each of them the lock is free.
-/
namespace GridKeeper

open Interleaving

variable {r r' r'' : Registry} {held held' held'' : Bool} {a : Activity}
  {limit : Option Nat} {attempt : Except Lock.Failure Unit} {feed : Wire.Feed} {e : Exchange}

/-! ## What may be done with the lock, and what without it -/

/-- What may be done while the lock is held, or is not, and what that leaves: whether the lock is
held, and the registry. -/
inductive Licit : Bool → Registry → Activity → Bool → Registry → Prop where
  | attempt (r : Registry) (granted : Bool) : Licit false r (.attempt granted) granted r
  | operate (r : Registry) (op : Registry.Operation) :
    Licit true r (.operate op) true (r.after op)
  | success (r : Registry) (m : String) : Licit true r (.send (.success m)) true r
  | error (r : Registry) (m : String) : Licit false r (.send (.error m)) false r
  | clean (r r' : Registry) (n : Node) : Licit true r (.clean n) true r'
  | release (r : Registry) : Licit true r .release false r

/-- A trail, which is activities each with the registry that it leaves, of what may be done. -/
inductive Keeps : Bool → Registry → List (Activity × Registry) → Bool → Registry → Prop where
  | done {held : Bool} {r : Registry} : Keeps held r [] held r
  | more {held held' held'' : Bool} {r r' r'' : Registry} {a : Activity}
      {rest : List (Activity × Registry)} (licit : Licit held r a held' r')
      (keeps : Keeps held' r' rest held'' r'') : Keeps held r ((a, r') :: rest) held'' r''

theorem Keeps.append {as bs : List (Activity × Registry)} (h : Keeps held r as held' r')
    (h' : Keeps held' r' bs held'' r'') : Keeps held r (as ++ bs) held'' r'' := by
  induction h with
  | done => exact h'
  | more licit _ ih => exact .more licit (ih h')

theorem Licit.holds (h : Licit held r a held' r') : Activity.holds held a = held' := by
  cases h <;> rfl

/-- The lock is held after a trail as the activities in it say. -/
theorem Keeps.holds {as : List (Activity × Registry)} (h : Keeps held r as held' r') :
    (as.map (·.1)).foldl Activity.holds held = held' := by
  induction h with
  | done => rfl
  | more licit _ ih =>
    rw [List.map_cons, List.foldl_cons, licit.holds]
    exact ih

/-! ## The trails of requests and sweeps -/

def Activity.trail : List Activity → Registry → List (Activity × Registry)
  | [], _ => []
  | .operate op :: rest, r => (.operate op, r.after op) :: trail rest (r.after op)
  | a :: rest, r => (a, r) :: trail rest r

theorem Activity.told_trail (as : List Activity) (r : Registry) : (trail as r).map (·.1) = as := by
  induction as generalizing r with
  | nil => rfl
  | cons a rest ih => cases a <;> simp only [trail, List.map_cons, ih]

namespace Sweep

/-- The trail of going over nodes. -/
def walkTrail (clean : Cleaner) (calls : Nat) : List Node → Registry → List (Activity × Registry)
  | [], _ => []
  | n :: rest, r =>
    if r.ledger.count n.key ≠ 0 then walkTrail clean calls rest r
    else
      let after := (clean calls n r).2
      (.clean n, after) :: walkTrail clean (calls + 1) rest after

def trail (attempt : Except Lock.Failure Unit) (clean : Cleaner) (r : Registry) :
    List (Activity × Registry) :=
  match attempt with
  | .error _ => [(.attempt false, r)]
  | .ok () =>
    let cleaned := if r.ledger.pending ≠ 0 then [] else walkTrail clean 0 r.directory.nodes r
    (.attempt true, r) :: cleaned ++ [(.release, (underLock clean r).2)]

variable {clean : Cleaner}

theorem told_walkTrail (clean : Cleaner) (calls : Nat) (nodes : List Node) (r : Registry) :
    (walkTrail clean calls nodes r).map (·.1) =
      (cleanedIn (walk clean calls nodes r).1).map .clean := by
  induction nodes generalizing calls r with
  | nil => rfl
  | cons n rest ih =>
    unfold walkTrail walk
    dsimp only
    split
    · rw [cleanedIn_busy, ih]
    · rw [cleanedIn_cleaned, List.map_cons, List.map_cons, ih]

theorem told_trail (attempt : Except Lock.Failure Unit) (clean : Cleaner) (r : Registry) :
    (trail attempt clean r).map (·.1) = (tick attempt clean r).1.activities := by
  cases attempt with
  | error f => rfl
  | ok =>
    unfold trail tick underLock
    dsimp only
    split
    · rfl
    · rw [List.map_append, List.map_cons, told_walkTrail]
      rfl

theorem keeps_walkTrail (clean : Cleaner) (calls : Nat) (nodes : List Node) (r : Registry) :
    Keeps true r (walkTrail clean calls nodes r) true (walk clean calls nodes r).2 := by
  induction nodes generalizing calls r with
  | nil => exact .done
  | cons n rest ih =>
    unfold walkTrail walk
    dsimp only
    split
    · exact ih ..
    · exact .more (.clean _ _ n) (ih ..)

theorem keeps_trail (attempt : Except Lock.Failure Unit) (clean : Cleaner) (r : Registry) :
    Keeps false r (trail attempt clean r) false (tick attempt clean r).2 := by
  cases attempt with
  | error f => exact .more (.attempt r false) .done
  | ok =>
    unfold trail tick underLock
    dsimp only
    split
    · exact .more (.attempt r true) (.more (.release r) .done)
    · exact .more (.attempt r true)
        ((keeps_walkTrail clean 0 _ r).append (.more (.release _) .done))

theorem attempts_cleans (ns : List Node) : Activity.attempts (ns.map .clean) = 0 := by
  simp [Activity.attempts, Function.comp_def]

theorem attempts_activities (report : Report) : Activity.attempts report.activities = 1 := by
  cases report with
  | lockUnavailable => rfl
  | pendingSessions | walked =>
    have hcleans := attempts_cleans
    simp_all [Activity.attempts, Report.activities]

theorem sent_activities (report : Report) : Activity.sent report.activities = [] := by
  cases report <;> simp [Activity.sent, Report.activities]

end Sweep

namespace Exchange

theorem Serves.keeps (h : Serves limit attempt feed r e) :
    Keeps false r (Activity.trail e.activities r) false e.registry := by
  cases h with
  | probe => exact .done
  | misread => exact .more (.error r _) .done
  | locked => exact .more (.attempt r false) (.more (.error r _) .done)
  | declined =>
    exact .more (.attempt r true) (.more (.operate r _) (.more (.release _)
      (.more (.error _ _) .done)))
  | done =>
    exact .more (.attempt r true) (.more (.operate r _) (.more (.success _ _)
      (.more (.release _) .done)))

/-- The operation that is read off a feed, if it is one that is read. -/
def operation? (limit : Option Nat) (feed : Wire.Feed) : Option Registry.Operation :=
  match request? limit feed with
  | some (.ok (.call op)) => some op
  | _ => none

/-- The lock is asked for, once, if an operation is read. -/
theorem Serves.attempts (h : Serves limit attempt feed r e) :
    Activity.attempts e.activities = if (operation? limit feed).isSome then 1 else 0 := by
  cases h with
  | probe h | misread h | locked h | declined h | done h =>
    simp [operation?, h, refuse, Activity.attempts]

/-- Without the lock a request for an operation comes to nothing but the message of the failure. -/
theorem Serves.of_refused {failure : Lock.Failure} (h : Serves limit attempt feed r e)
    (hop : (operation? limit feed).isSome = true) (ha : attempt = .error failure) :
    e = refuse [.attempt false] failure.message r := by
  subst ha
  cases h with
  | probe h | misread h => simp [operation?, h] at hop
  | locked h ha => cases ha; rfl
  | declined h ha | done h ha => cases ha

end Exchange

/-! ## Steps -/

inductive Step where
  /-- A connection is served. Of a reply that is sent, `writer` lets some text through. -/
  | request (limit : Option Nat) (attempt : Except Lock.Failure Unit) (feed : Wire.Feed)
    (writer : Wire.Reply → String)
  | sweep (attempt : Except Lock.Failure Unit) (clean : Sweep.Cleaner)
  /-- An operation on the registry that nobody asked for over a connection. -/
  | direct (op : Registry.Operation)

structure Done where
  result : Option Result := none
  written : String := ""
  trail : List (Activity × Registry) := []
  registry : Registry

def Done.deeds (d : Done) : List Activity := d.trail.map (·.1)

namespace Step

/-- Takes a step. A request that is waited for forever comes to nothing. -/
def run (r : Registry) : Step → Done
  | request limit attempt feed writer =>
    match Exchange.serve? limit attempt feed r with
    | none => { result := some (.reply none), registry := r }
    | some e =>
      { result := some (.reply e.reply)
        written := (Activity.carryOut writer e.activities r).2
        trail := Activity.trail e.activities r
        registry := e.registry }
  | sweep attempt clean =>
    { result := some (.report (Sweep.tick attempt clean r).1)
      trail := Sweep.trail attempt clean r
      registry := (Sweep.tick attempt clean r).2 }
  | direct op => { registry := r.after op }

/-- Whether a step asks for the lock: it is a sweep, or a request for an operation is read. -/
def asks : Step → Bool
  | request limit _ feed _ => (Exchange.operation? limit feed).isSome
  | sweep _ _ => true
  | direct _ => false

/-- What comes of the attempt that a step makes, if it makes one. -/
def attempt? : Step → Option (Except Lock.Failure Unit)
  | request _ attempt _ _ | sweep attempt _ => some attempt
  | direct _ => none

def replies : Option Result → List Wire.Reply
  | some (.reply reply) => reply.toList
  | _ => []

def refusal (failure : Lock.Failure) : Step → Option Result
  | request _ _ _ _ => some (.reply (some (.error failure.message)))
  | sweep _ _ => some (.report (.lockUnavailable failure.message))
  | direct _ => none

/-- What a step lets through of a reply. -/
def writer : Step → Wire.Reply → String
  | request _ _ _ writer => writer
  | _ => fun _ => ""

/-- The discipline of a step that is taken from the registry `r`. -/
structure Disciplined (x : Step) (r : Registry) : Prop where
  /-- It does what may be done, and in the end the lock is free. -/
  keeps : Keeps false r (x.run r).trail false (x.run r).registry ∨
    ∃ op, x = direct op ∧ (x.run r).trail = [] ∧ (x.run r).registry = r.after op
  /-- It tries to get the lock once, or not at all. -/
  attempts : Activity.attempts (x.run r).deeds = if x.asks then 1 else 0
  /-- What is sent is the reply. -/
  sent : Activity.sent (x.run r).deeds = replies (x.run r).result
  /-- Nothing gets through but of what is sent. -/
  written : (x.run r).written = String.join ((Activity.sent (x.run r).deeds).map x.writer)
  /-- A report tells what was done. -/
  told : ∀ report, (x.run r).result = some (.report report) →
    (x.run r).deeds = report.activities
  /-- Without the lock nothing is done but to say why. -/
  refused : ∀ failure, x.asks = true → x.attempt? = some (.error failure) →
    (x.run r).result = x.refusal failure ∧ (x.run r).registry = r ∧
      ∀ a ∈ (x.run r).deeds, a = .attempt false ∨ a = .send (.error failure.message)

variable {writer : Wire.Reply → String}

theorem disciplined_unread (h : Exchange.serve? limit attempt feed r = none) :
    (request limit attempt feed writer).Disciplined r := by
  have hrun : (request limit attempt feed writer).run r =
      { result := some (.reply none), registry := r } := by simp only [run, h]
  have hasks : (request limit attempt feed writer).asks = false := by
    have hreq : request? limit feed = none := by
      rw [Exchange.serve?, Option.map_eq_none_iff] at h
      rw [request?, h]
      rfl
    simp only [asks, Exchange.operation?, hreq, Option.isSome_none]
  refine ⟨?_, ?_, ?_, ?_, ?_, ?_⟩ <;> simp only [hrun, hasks]
  · exact .inl .done
  · rfl
  · rfl
  · rfl
  · intro report hreport
    cases hreport
  · intro failure hasked
    cases hasked

theorem disciplined_served (h : Exchange.serve? limit attempt feed r = some e) :
    (request limit attempt feed writer).Disciplined r := by
  have hs := Exchange.serves_of_serve h
  have hrun : (request limit attempt feed writer).run r =
      { result := some (.reply e.reply)
        written := (Activity.carryOut writer e.activities r).2
        trail := Activity.trail e.activities r
        registry := e.registry } := by simp only [run, h]
  have hdeeds : ((request limit attempt feed writer).run r).deeds = e.activities := by
    rw [hrun]
    exact Activity.told_trail ..
  refine ⟨.inl ?_, ?_, ?_, ?_, ?_, ?_⟩
  · rw [hrun]
    exact hs.keeps
  · rw [hdeeds]
    exact hs.attempts
  · rw [hdeeds, hs.sent, hrun]
    cases e.reply <;> rfl
  · rw [hdeeds, hs.sent, hrun, hs.carryOut]
    cases e.reply <;> simp [Step.writer, String.join]
  · rw [hrun]
    intro report hreport
    cases hreport
  · intro failure hasks hfailed
    have hattempt : attempt = .error failure := Option.some.inj hfailed
    rw [hdeeds, hrun, hs.of_refused hasks hattempt]
    exact ⟨rfl, rfl, by simp [Exchange.refuse]⟩

theorem disciplined_sweep (attempt : Except Lock.Failure Unit) (clean : Sweep.Cleaner)
    (r : Registry) : (sweep attempt clean).Disciplined r := by
  have hdeeds : ((sweep attempt clean).run r).deeds =
      (Sweep.tick attempt clean r).1.activities := Sweep.told_trail attempt clean r
  refine ⟨.inl (Sweep.keeps_trail attempt clean r), ?_, ?_, ?_, ?_, ?_⟩
  · rw [hdeeds]
    exact Sweep.attempts_activities _
  · rw [hdeeds]
    exact Sweep.sent_activities _
  · rw [hdeeds, Sweep.sent_activities]
    rfl
  · rintro report ⟨⟩
    exact hdeeds
  · intro failure _ hfailed
    cases hfailed
    exact ⟨rfl, rfl, by simp [run, Done.deeds, Sweep.trail]⟩

theorem disciplined_direct (op : Registry.Operation) (r : Registry) :
    (direct op).Disciplined r where
  keeps := .inr ⟨op, rfl, rfl, rfl⟩
  attempts := rfl
  sent := rfl
  written := rfl
  told := by
    intro report hreport
    cases hreport
  refused := by
    intro failure hasks
    cases hasks

theorem disciplined (x : Step) (r : Registry) : x.Disciplined r := by
  cases x with
  | request limit attempt feed writer =>
    cases h : Exchange.serve? limit attempt feed r with
    | none => exact disciplined_unread h
    | some e => exact disciplined_served h
  | sweep attempt clean => exact disciplined_sweep ..
  | direct op => exact disciplined_direct ..

/-! ## Whole runs -/

/-- What was done in steps taken one after the other, and the registry after them. -/
def course : List Step → Registry → List Activity × Registry
  | [], r => ([], r)
  | x :: rest, r =>
    let done := x.run r
    let (later, last) := course rest done.registry
    (done.deeds ++ later, last)

theorem holds_deeds (x : Step) (r : Registry) :
    (x.run r).deeds.foldl Activity.holds false = false := by
  rcases (disciplined x r).keeps with hkeeps | ⟨_, _, htrail, _⟩
  · exact hkeeps.holds
  · rw [Done.deeds, htrail]
    rfl

theorem held_course (steps : List Step) (r : Registry) :
    Activity.held (course steps r).1 = false := by
  induction steps generalizing r with
  | nil => rfl
  | cons x rest ih =>
    simp only [course, Activity.held, List.foldl_append]
    rw [holds_deeds]
    exact ih _

theorem attempts_course (steps : List Step) (r : Registry) :
    Activity.attempts (course steps r).1 = steps.countP asks := by
  induction steps generalizing r with
  | nil => rfl
  | cons x rest ih =>
    have hfirst := (disciplined x r).attempts
    have hrest := ih (x.run r).registry
    simp only [Activity.attempts] at hfirst hrest
    simp only [course, Activity.attempts, List.countP_append, List.countP_cons]
    omega

/-- **Lock discipline.** Whatever steps are taken, and whatever their attempts at the lock come to,
each step keeps to the discipline, and after each of them the lock is free. The attempts are those
of the steps that ask for the lock, one for each. -/
theorem lock_discipline (steps : List Step) (r : Registry) :
    (∀ before x after, steps = before ++ x :: after →
      x.Disciplined (course before r).2 ∧
        Activity.held (course (before ++ [x]) r).1 = false) ∧
      Activity.attempts (course steps r).1 = steps.countP asks :=
  ⟨fun before x _ _ => ⟨disciplined x _, held_course (before ++ [x]) r⟩, attempts_course steps r⟩

/-- A reply that does not get through, a sweep that finds a launch pending, an attempt that fails, a
sweep that cleans a node and has a session counted, a request for no node, and one that stalls. -/
def mixedSteps : List Step :=
  [.direct (.addNode "http://[::1]:81"),
    .request none (.ok ()) (closedFeed "PENDING\nINCREASE\n") fun _ => "",
    .sweep (.ok ()) fun _ _ r => (.succeeded, r),
    .request none (.error (.timeout "lock" 20)) (closedFeed "PENDING\nDECREASE\n")
      Wire.Reply.encode,
    .request none (.ok ()) (closedFeed "PENDING\nDECREASE\n") Wire.Reply.encode,
    .sweep (.ok ()) fun _ n r => (.failed none, r.after (.addSession n.key)),
    .request none (.ok ()) (closedFeed "NODES\nINCREASE\nnowhere\n") Wire.Reply.encode,
    .request (some 5) (.ok ()) ⟨[(0, 0x54)], none⟩ Wire.Reply.encode]

theorem lock_discipline_mixed :
    (course mixedSteps {}).1 =
        [.attempt true, .operate .addPending, .send (.success "1"), .release,
          .attempt true, .release,
          .attempt false, .send (.error (Lock.Failure.timeout "lock" 20).message),
          .attempt true, .operate .removePending, .send (.success "0"), .release,
          .attempt true, .clean ⟨"http", "[::1]", some 81⟩, .release,
          .attempt true, .operate (.addNode "nowhere"), .release,
          .send (.error "Invalid Node:  nowhere"),
          .send (.error (Wire.Fault.late 5).message)] ∧
      Activity.attempts (course mixedSteps {}).1 = 6 ∧
      (course mixedSteps {}).2.ledger.count ⟨"[::1]", 81⟩ = 1 ∧
      (sweep (.ok ()) fun _ _ r => (.succeeded, r)).Disciplined
        (course (mixedSteps.take 2) {}).2 := by
  obtain ⟨heach, hattempts⟩ := lock_discipline mixedSteps {}
  have hsweep := heach (mixedSteps.take 2) (sweep (.ok ()) fun _ _ r => (.succeeded, r))
    (mixedSteps.drop 3) rfl
  exact ⟨by decide +kernel, hattempts.trans (by decide +kernel), by decide +kernel, hsweep.1⟩

end Step
end GridKeeper

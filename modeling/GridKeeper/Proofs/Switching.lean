import GridKeeper.Proofs.Runs
import GridKeeper.Server
import Mathlib.Tactic.Common

/-!
# Starting and stopping a server side by side

`Server.start` and `Server.stop` say what becomes of a server that is started, or stopped, when
nobody else does so. Here any number of such calls are made on one server, and take their steps in
any order.

* A start gets the lock on the state of the server, looks whether it runs, listens on the address,
  sets the server running, and gives the lock up. Only then does it subscribe to the messages that
  end a server, and start the loop that accepts connections.
* A stop gets the lock, and if the server runs, sends a message, sets the server to be no longer
  running, and gives the lock up.

A message comes to those who have subscribed by then. A start that has given the lock up and has not
subscribed yet misses it, and its loop will accept connections on a server that was stopped. How
many messages were missed is kept here beside the calls, nothing hangs on it.

**Results.**
* `step_cases`: a step is a new call, a connection that a loop accepts, or one call that goes on.
* `reachable_sound`: a call that has not been warned and has missed nothing is the only one, and the
  server runs.
* `stopped_warned_or_missed`: if the server does not run, then every loop has ended, is warned, or
  has missed the message; and when a message is missed.
-/
namespace GridKeeper.Server

/-! ## Calls -/

/-- Where a start stands (`SessionServer.start`). -/
inductive Rise where
  | asking
  | locked
  /-- The server does not run. -/
  | checked
  | bound
  | announced
  /-- The lock is given up, and so many messages were missed since. -/
  | loose (missed : Nat)
  /-- It has subscribed, and so many messages are waiting. -/
  | subscribed (missed waiting : Nat)
  | looping (missed waiting : Nat)
  | ended (missed : Nat)
  | failed (f : Fault)
deriving Repr, DecidableEq

/-- Where a stop stands (`SessionServer.stop`). -/
inductive Fall where
  | asking
  | locked
  | sent
  /-- The server does not run any more. -/
  | cleared
  | done
deriving Repr, DecidableEq

inductive Call where
  | start (rise : Rise)
  | stop (fall : Fall)
deriving Repr, DecidableEq

namespace Call

def inside : Call → Bool
  | start .locked | start .checked | start .bound | start .announced => true
  | stop .locked | stop .sent | stop .cleared => true
  | _ => false

/-- Whether the call is a start that has seen that the server does not run, and is about to set it
running. -/
def opening : Call → Bool
  | start .checked | start .bound => true
  | _ => false

/-- Whether the call is a start that has set the server running. -/
def past : Call → Bool
  | start .announced | start (.loose _) | start (.subscribed ..) | start (.looping ..)
  | start (.ended _) => true
  | _ => false

/-- Whether the loop of the call has ended, or has a message waiting for it. -/
def warned : Call → Bool
  | start (.subscribed _ waiting) | start (.looping _ waiting) => 0 < waiting
  | start (.ended _) => true
  | _ => false

def missed : Call → Nat
  | start (.loose missed) | start (.subscribed missed _) | start (.looping missed _)
  | start (.ended missed) => missed
  | _ => 0

/-- Whether the call has set the server running, and has no reason to give that up. -/
def current (c : Call) : Bool := c.past && !c.warned && c.missed = 0

def hear : Call → Call
  | start (.loose missed) => start (.loose (missed + 1))
  | start (.subscribed missed waiting) => start (.subscribed missed (waiting + 1))
  | start (.looping missed waiting) => start (.looping missed (waiting + 1))
  | c => c

end Call

/-! ## Steps -/

/-- What a call that goes on comes to: where it stands then, the server, and whether a message is
sent. -/
structure Turn where
  call : Call
  server : Server
  sends : Bool := false
deriving Repr, DecidableEq

/-- A start goes on, given how listening on the address goes; `free` tells whether the lock is. -/
def Rise.go? (listen : Except String Unit) (free : Bool) (v : Server) : Rise → Option Turn
  | asking => if free then some ⟨.start .locked, v, false⟩ else none
  | locked =>
    if v.running then some ⟨.start (.failed .alreadyRunning), v, false⟩
    else some ⟨.start .checked, v, false⟩
  | checked =>
    match listen with
    | .ok () => some ⟨.start .bound, v, false⟩
    | .error cause => some ⟨.start (.failed (.bindFailed v.settings.address cause)), v, false⟩
  | bound => some ⟨.start .announced, { v with running := true }, false⟩
  | announced => some ⟨.start (.loose 0), v, false⟩
  | loose missed => some ⟨.start (.subscribed missed 0), v, false⟩
  | subscribed missed waiting => some ⟨.start (.looping missed waiting), v, false⟩
  | looping missed (_ + 1) => some ⟨.start (.ended missed), v, false⟩
  | looping _ 0 | ended _ | failed _ => none

/-- A stop goes on; `free` tells whether the lock is. -/
def Fall.go? (free : Bool) (v : Server) : Fall → Option Turn
  | asking => if free then some ⟨.stop .locked, v, false⟩ else none
  | locked => if v.running then some ⟨.stop .sent, v, true⟩ else some ⟨.stop .done, v, false⟩
  | sent => some ⟨.stop .cleared, v.stop, false⟩
  | cleared => some ⟨.stop .done, v, false⟩
  | done => none

def Call.go? (listen : Except String Unit) (free : Bool) (v : Server) : Call → Option Turn
  | start rise => rise.go? listen free v
  | stop fall => fall.go? free v

structure Switch where
  server : Server
  holder : Option Nat := none
  calls : List Call := []
deriving Repr, DecidableEq

/-- What happens next: somebody starts the server, or stops it, a call goes on, or the loop of a
start accepts a connection. -/
inductive Switch.Event where
  | start
  | stop
  | go (i : Nat) (listen : Except String Unit)
  | accept (i : Nat)
deriving Repr, DecidableEq

namespace Switch

/-- A server that does not run, and that nobody has started yet. -/
def initial (v : Server) : Switch := { server := { v with running := false } }

def put (b : Switch) (i : Nat) (c : Call) (t : Turn) : Switch where
  server := t.server
  holder := if t.call.inside then some i else if c.inside then none else b.holder
  calls := (if t.sends then b.calls.map Call.hear else b.calls).set i t.call

/-- A connection is accepted by the loop of a start. -/
def accept (b : Switch) : Switch :=
  { b with server := { b.server with admission := b.server.admission.arrive.2 } }

/-- What an event leads to; `none` if it cannot take place. -/
def step (b : Switch) : Event → Option Switch
  | .start => some { b with calls := b.calls ++ [.start .asking] }
  | .stop => some { b with calls := b.calls ++ [.stop .asking] }
  | .go i listen =>
    b.calls[i]?.bind fun c => (c.go? listen b.holder.isNone b.server).map (b.put i c)
  | .accept i =>
    b.calls[i]?.bind fun
      | .start (.looping ..) => some b.accept
      | _ => none

abbrev exec : Switch → List Event → Option Switch := Runs.exec step

/-- Whether `b` is reached by calls on the server `v`. -/
def Reachable (v : Server) (b : Switch) : Prop := Runs.Reaches step (initial v) b

end Switch

/-! ## What a turn can do -/

inductive Turns (listen : Except String Unit) (free : Bool) (v : Server) : Call → Turn → Prop
  | enter (h : free = true) : Turns listen free v (.start .asking) ⟨.start .locked, v, false⟩
  | refuse (h : v.running = true) :
    Turns listen free v (.start .locked) ⟨.start (.failed .alreadyRunning), v, false⟩
  | check (h : v.running = false) :
    Turns listen free v (.start .locked) ⟨.start .checked, v, false⟩
  | bind (h : listen = .ok ()) : Turns listen free v (.start .checked) ⟨.start .bound, v, false⟩
  | fail {cause : String} (h : listen = .error cause) :
    Turns listen free v (.start .checked)
      ⟨.start (.failed (.bindFailed v.settings.address cause)), v, false⟩
  | announce :
    Turns listen free v (.start .bound) ⟨.start .announced, { v with running := true }, false⟩
  | loosen : Turns listen free v (.start .announced) ⟨.start (.loose 0), v, false⟩
  | subscribe {missed : Nat} :
    Turns listen free v (.start (.loose missed)) ⟨.start (.subscribed missed 0), v, false⟩
  | spawn {missed waiting : Nat} :
    Turns listen free v (.start (.subscribed missed waiting))
      ⟨.start (.looping missed waiting), v, false⟩
  | finish {missed waiting : Nat} :
    Turns listen free v (.start (.looping missed (waiting + 1)))
      ⟨.start (.ended missed), v, false⟩
  | enterStop (h : free = true) : Turns listen free v (.stop .asking) ⟨.stop .locked, v, false⟩
  | send (h : v.running = true) : Turns listen free v (.stop .locked) ⟨.stop .sent, v, true⟩
  | skip (h : v.running = false) : Turns listen free v (.stop .locked) ⟨.stop .done, v, false⟩
  | clear : Turns listen free v (.stop .sent) ⟨.stop .cleared, v.stop, false⟩
  | leave : Turns listen free v (.stop .cleared) ⟨.stop .done, v, false⟩

section
variable {listen : Except String Unit} {free : Bool} {v : Server} {c d : Call} {t : Turn}

theorem turns_rise {rise : Rise} (h : rise.go? listen free v = some t) :
    Turns listen free v (.start rise) t := by
  cases rise with
  | asking =>
    simp only [Rise.go?] at h
    split at h
    · cases h; exact .enter ‹_›
    · cases h
  | locked =>
    simp only [Rise.go?] at h
    split at h
    · cases h; exact .refuse ‹_›
    · cases h; exact .check (Bool.eq_false_iff.2 ‹_›)
  | checked =>
    simp only [Rise.go?] at h
    split at h
    · cases h; exact .bind rfl
    · cases h; exact .fail rfl
  | bound => cases h; exact .announce
  | announced => cases h; exact .loosen
  | loose missed => cases h; exact .subscribe
  | subscribed missed waiting => cases h; exact .spawn
  | looping missed waiting =>
    cases waiting with
    | zero => cases h
    | succ waiting => cases h; exact .finish
  | ended missed => cases h
  | failed f => cases h

theorem turns_fall {fall : Fall} (h : fall.go? free v = some t) :
    Turns listen free v (.stop fall) t := by
  cases fall with
  | asking =>
    simp only [Fall.go?] at h
    split at h
    · cases h; exact .enterStop ‹_›
    · cases h
  | locked =>
    simp only [Fall.go?] at h
    split at h
    · cases h; exact .send ‹_›
    · cases h; exact .skip (Bool.eq_false_iff.2 ‹_›)
  | sent => cases h; exact .clear
  | cleared => cases h; exact .leave
  | done => cases h

theorem turns_of_go (h : c.go? listen free v = some t) : Turns listen free v c t := by
  cases c with
  | start rise => exact turns_rise h
  | stop fall => exact turns_fall h

/-- A call that has the lock after its turn had it before, or has got it because it was free. -/
theorem inside_turn (h : Turns listen free v c t) (ht : t.call.inside = true) :
    c.inside = true ∨ free = true := by
  cases h with
  | enter h | enterStop h => exact .inr h
  | _ => first | exact .inl rfl | cases ht

/-- Only a call that has the lock sets the server running, or no longer running. -/
theorem running_turn (h : Turns listen free v c t) :
    t.server.running = v.running ∨
      (c = .start .bound ∧ t.call = .start .announced ∧ t.server.running = true) ∨
      (c = .stop .sent ∧ t.call = .stop .cleared ∧ t.server.running = false) := by
  cases h with
  | announce => exact .inr (.inl ⟨rfl, rfl, rfl⟩)
  | clear => exact .inr (.inr ⟨rfl, rfl, rfl⟩)
  | _ => exact .inl rfl

theorem current_turn (h : Turns listen free v c t) (ht : t.call.current = true) :
    c.current = true ∨ (c = .start .bound ∧ t.call = .start .announced) := by
  cases h with
  | announce => exact .inr ⟨rfl, rfl⟩
  | loosen => exact .inl rfl
  | subscribe | spawn => exact .inl ht
  | finish => cases ht
  | _ => cases ht

theorem opening_turn (h : Turns listen free v c t) (ht : t.call.opening = true) :
    t.server = v ∧ (v.running = false ∨ c.opening = true) := by
  cases h with
  | check h => exact ⟨rfl, .inl h⟩
  | bind => exact ⟨rfl, .inr rfl⟩
  | _ => cases ht

/-- A message is sent by a stop that has the lock, of a server that runs. -/
theorem sends_turn (h : Turns listen free v c t) :
    (t.sends = false ∧ (t.call = .stop .sent → False)) ∨
      (c = .stop .locked ∧ t.call = .stop .sent ∧ t.sends = true ∧ t.server = v) := by
  cases h with
  | send => exact .inr ⟨rfl, rfl, rfl, rfl⟩
  | _ => exact .inl ⟨rfl, nofun⟩

theorem missed_turn (h : Turns listen free v c t) : t.call.missed ≤ c.missed := by
  cases h <;> exact Nat.le_refl _

/-! ## What a message does -/

namespace Call

@[simp] theorem inside_hear (c : Call) : c.hear.inside = c.inside := by
  unfold hear
  split <;> rfl

@[simp] theorem opening_hear (c : Call) : c.hear.opening = c.opening := by
  unfold hear
  split <;> rfl

/-- No call is current after a message, but for one that has not given the lock up yet. -/
theorem current_hear (h : c.hear.current = true) : c = .start .announced := by
  cases c with
  | stop fall => cases h
  | start rise =>
    cases rise with
    | announced => rfl
    | loose missed => simp [hear, current, Call.missed] at h
    | subscribed missed waiting | looping missed waiting => simp [hear, current, warned] at h
    | _ => cases h

theorem missed_hear (h : c.missed < c.hear.missed) : ∃ m, c = .start (.loose m) := by
  unfold hear at h
  split at h
  · exact ⟨_, rfl⟩
  · cases Nat.lt_irrefl _ h
  · cases Nat.lt_irrefl _ h
  · cases Nat.lt_irrefl _ h

theorem hear_stop {fall : Fall} (h : c.hear = .stop fall) : c = .stop fall := by
  unfold hear at h
  split at h
  · cases h
  · cases h
  · cases h
  · exact h

theorem current_asking (h : c = .start .asking ∨ c = .stop .asking) :
    c.inside = false ∧ c.opening = false ∧ c.current = false ∧ c ≠ .stop .sent := by
  rcases h with rfl | rfl <;> exact ⟨rfl, rfl, rfl, nofun⟩

end Call
end

/-! ## What a step can do -/

namespace Switch

variable {b b' : Switch} {v : Server} {e : Event} {i j : Nat} {c d : Call} {t : Turn}
  {listen : Except String Unit}

/-- A step is a new call, a connection that a loop accepts, or a call that goes on. -/
theorem step_cases (h : b.step e = some b') :
    (∃ c, (c = .start .asking ∨ c = .stop .asking) ∧ b' = { b with calls := b.calls ++ [c] }) ∨
    (∃ i missed waiting, e = .accept i ∧ b.calls[i]? = some (.start (.looping missed waiting)) ∧
      b' = b.accept) ∨
    (∃ i listen c t, e = .go i listen ∧ b.calls[i]? = some c ∧
      Turns listen b.holder.isNone b.server c t ∧ b' = b.put i c t) := by
  cases e with
  | start => cases h; exact .inl ⟨_, .inl rfl, rfl⟩
  | stop => cases h; exact .inl ⟨_, .inr rfl, rfl⟩
  | go i listen =>
    obtain ⟨c, hc, h⟩ := Option.bind_eq_some_iff.1 h
    obtain ⟨t, ht, rfl⟩ := Option.map_eq_some_iff.1 h
    exact .inr (.inr ⟨i, listen, c, t, rfl, hc, turns_of_go ht, rfl⟩)
  | accept i =>
    obtain ⟨c, hc, h⟩ := Option.bind_eq_some_iff.1 h
    split at h
    · cases h
      exact .inr (.inl ⟨i, _, _, rfl, hc, rfl⟩)
    · cases h

theorem calls_put_self (hc : b.calls[i]? = some c) (t : Turn) :
    (b.put i c t).calls[i]? = some t.call := by
  have hi : i < b.calls.length := (List.getElem?_eq_some_iff.1 hc).1
  rw [put, List.getElem?_set_self]
  split
  · rwa [List.length_map]
  · exact hi

theorem calls_put_other (hj : j ≠ i) :
    (b.put i c t).calls[j]? = b.calls[j]?.map (if t.sends then Call.hear else id) := by
  rw [put, List.getElem?_set_ne (Ne.symm hj)]
  split
  · rw [List.getElem?_map]
  · rw [Option.map_id]
    rfl

theorem other_of_put (hj : j ≠ i) (h : (b.put i c t).calls[j]? = some d) :
    ∃ d', b.calls[j]? = some d' ∧
      ((t.sends = false ∧ d = d') ∨ (t.sends = true ∧ d = d'.hear)) := by
  rw [calls_put_other hj] at h
  obtain ⟨d', hd', rfl⟩ := Option.map_eq_some_iff.1 h
  refine ⟨d', hd', ?_⟩
  split
  · exact .inr ⟨‹_›, rfl⟩
  · exact .inl ⟨Bool.eq_false_iff.2 ‹_›, rfl⟩

theorem inside_put_other (hj : j ≠ i) :
    (∃ d, (b.put i c t).calls[j]? = some d ∧ d.inside = true) ↔
      ∃ d, b.calls[j]? = some d ∧ d.inside = true := by
  rw [calls_put_other hj]
  constructor
  · rintro ⟨d, hd, hin⟩
    obtain ⟨d', hd', rfl⟩ := Option.map_eq_some_iff.1 hd
    refine ⟨d', hd', ?_⟩
    split at hin
    · rwa [Call.inside_hear] at hin
    · exact hin
  · rintro ⟨d, hd, hin⟩
    refine ⟨_, congrArg _ hd, ?_⟩
    split
    · rwa [Call.inside_hear]
    · exact hin

/-! ## Who is current -/

/-- Exactly the holder of the lock stands inside; who is about to set the server running has seen
that it does not run; if a call is current then the server runs; no call is current between the
message of a stop and its end; and no two calls are current. -/
structure Sound (b : Switch) : Prop where
  owned : ∀ i, b.holder = some i ↔ ∃ c, b.calls[i]? = some c ∧ c.inside = true
  opening : ∀ (i : Nat) (c : Call), b.calls[i]? = some c → c.opening = true →
    b.server.running = false
  runs : ∀ (i : Nat) (c : Call), b.calls[i]? = some c → c.current = true →
    b.server.running = true
  silent : ∀ (i j : Nat) (c : Call), b.calls[i]? = some (.stop .sent) → b.calls[j]? = some c →
    c.current = false
  single : ∀ (i j : Nat) (c d : Call), b.calls[i]? = some c → b.calls[j]? = some d →
    c.current = true → d.current = true → i = j

theorem sound_initial (v : Server) : (initial v).Sound where
  owned := fun _ => ⟨nofun, fun ⟨_, h, _⟩ => nomatch h⟩
  opening := nofun
  runs := nofun
  silent := nofun
  single := nofun

theorem Sound.apart (h : b.Sound) (hc : b.calls[i]? = some c) (hd : b.calls[j]? = some d)
    (hci : c.inside = true) (hdi : d.inside = true) : i = j := by
  have hi := (h.owned i).2 ⟨c, hc, hci⟩
  have hj := (h.owned j).2 ⟨d, hd, hdi⟩
  rw [hi] at hj
  exact Option.some.inj hj

theorem inside_of_opening (h : c.opening = true) : c.inside = true := by
  cases c with
  | start rise => cases rise <;> first | rfl | cases h
  | stop fall => cases h

theorem calls_append (h : (b.calls ++ [c])[j]? = some d) :
    b.calls[j]? = some d ∨ d = c := by
  rw [List.getElem?_append] at h
  split at h
  · exact .inl h
  · exact .inr (List.mem_singleton.1 (List.mem_of_getElem? h))

theorem sound_call (h : b.Sound) (hc : c = .start .asking ∨ c = .stop .asking) :
    Sound { b with calls := b.calls ++ [c] } := by
  obtain ⟨hin, hop, hcur, hsent⟩ := Call.current_asking hc
  refine ⟨fun j => ?_, fun j d hd ho => ?_, fun j d hd ho => ?_, fun j k d hj hd => ?_,
    fun j k d d' hd hd' ho ho' => ?_⟩
  · rw [h.owned j]
    constructor
    · rintro ⟨d, hd, hdi⟩
      have hj : j < b.calls.length := (List.getElem?_eq_some_iff.1 hd).1
      exact ⟨d, by rwa [List.getElem?_append_left hj], hdi⟩
    · rintro ⟨d, hd, hdi⟩
      rcases calls_append hd with hd | rfl
      · exact ⟨d, hd, hdi⟩
      · rw [hin] at hdi; cases hdi
  · rcases calls_append hd with hd | rfl
    · exact h.opening j d hd ho
    · rw [hop] at ho; cases ho
  · rcases calls_append hd with hd | rfl
    · exact h.runs j d hd ho
    · rw [hcur] at ho; cases ho
  · rcases calls_append hj with hj | hj
    · rcases calls_append hd with hd | rfl
      · exact h.silent j k d hj hd
      · exact hcur
    · exact absurd hj.symm hsent
  · rcases calls_append hd with hd | rfl
    · rcases calls_append hd' with hd' | rfl
      · exact h.single j k d d' hd hd' ho ho'
      · rw [hcur] at ho'; cases ho'
    · rw [hcur] at ho; cases ho

section
variable (h : b.Sound) (hc : b.calls[i]? = some c)
  (ht : Turns listen b.holder.isNone b.server c t)
include h hc ht

theorem owned_put (j : Nat) :
    (b.put i c t).holder = some j ↔
      ∃ d, (b.put i c t).calls[j]? = some d ∧ d.inside = true := by
  have hown : b.holder = some i ↔ c.inside = true := by
    rw [h.owned i, hc]
    simp
  change (if t.call.inside then some i else if c.inside then none else b.holder) = some j ↔ _
  by_cases hj : j = i
  · subst hj
    rw [calls_put_self hc]
    simp only [Option.some.injEq, exists_eq_left']
    by_cases htin : t.call.inside = true
    · simp [htin]
    · by_cases hcin : c.inside = true
      · simp [htin, hcin]
      · simp [htin, hcin, hown]
  · rw [inside_put_other hj, ← h.owned j]
    by_cases htin : t.call.inside = true
    · rw [if_pos htin]
      refine ⟨fun he => absurd (Option.some.inj he).symm hj, fun he => ?_⟩
      rcases inside_turn ht htin with hcin | hfree
      · rw [hown.2 hcin] at he
        exact he
      · rw [he] at hfree
        cases hfree
    · rw [if_neg htin]
      by_cases hcin : c.inside = true
      · rw [if_pos hcin, hown.2 hcin]
        exact ⟨nofun, fun he => absurd (Option.some.inj he).symm hj⟩
      · rw [if_neg hcin]

theorem opening_put (hd : (b.put i c t).calls[j]? = some d) (ho : d.opening = true) :
    t.server.running = false := by
  by_cases hj : j = i
  · subst hj
    rw [calls_put_self hc] at hd
    cases hd
    obtain ⟨hserver, hrun | hop⟩ := opening_turn ht ho
    · rw [hserver, hrun]
    · rw [hserver, h.opening j c hc hop]
  · obtain ⟨d', hd', hkept⟩ := other_of_put hj hd
    have hop : d'.opening = true := by
      rcases hkept with ⟨-, rfl⟩ | ⟨-, rfl⟩
      · exact ho
      · rwa [Call.opening_hear] at ho
    rcases running_turn ht with hrun | ⟨rfl, -, -⟩ | ⟨-, -, hrun⟩
    · rw [hrun, h.opening j d' hd' hop]
    · exact absurd (h.apart hd' hc (inside_of_opening hop) rfl) hj
    · exact hrun

theorem current_put (hd : (b.put i c t).calls[j]? = some d) (hcur : d.current = true) :
    (c = .start .bound ∧ t.call = .start .announced ∧ j = i) ∨
      (t.sends = false ∧ ∃ d', b.calls[j]? = some d' ∧ d'.current = true) := by
  by_cases hj : j = i
  · subst hj
    rw [calls_put_self hc] at hd
    cases hd
    rcases current_turn ht hcur with hbefore | ⟨rfl, hannounced⟩
    · rcases sends_turn ht with ⟨hsends, -⟩ | ⟨rfl, -⟩
      · exact .inr ⟨hsends, c, hc, hbefore⟩
      · cases hbefore
    · exact .inl ⟨rfl, hannounced, rfl⟩
  · obtain ⟨d', hd', ⟨hsends, rfl⟩ | ⟨hsends, rfl⟩⟩ := other_of_put hj hd
    · exact .inr ⟨hsends, d, hd', hcur⟩
    · -- only who has not given the lock up would stay current, but the lock is in the stop's hands
      have hannounced : d' = .start .announced := Call.current_hear hcur
      rcases sends_turn ht with ⟨hnot, -⟩ | ⟨rfl, -⟩
      · rw [hsends] at hnot
        cases hnot
      · subst hannounced
        exact absurd (h.apart hd' hc rfl rfl) hj

theorem runs_put (hd : (b.put i c t).calls[j]? = some d) (hcur : d.current = true) :
    t.server.running = true := by
  rcases current_put h hc ht hd hcur with ⟨rfl, hannounced, -⟩ | ⟨-, d', hd', hcur'⟩
  · rcases running_turn ht with hrun | ⟨-, -, hrun⟩ | ⟨hsent, -⟩
    · cases ht with
      | announce => rfl
    · exact hrun
    · cases hsent
  · rcases running_turn ht with hrun | ⟨-, -, hrun⟩ | ⟨rfl, -, -⟩
    · rw [hrun, h.runs j d' hd' hcur']
    · exact hrun
    · rw [h.silent i j d' hc hd'] at hcur'
      cases hcur'

theorem silent_put {k : Nat} (hk : (b.put i c t).calls[k]? = some (.stop .sent))
    (hd : (b.put i c t).calls[j]? = some d) : d.current = false := by
  refine Bool.eq_false_iff.2 fun hcur => ?_
  have hbefore : k ≠ i → b.calls[k]? = some (.stop .sent) := fun hki => by
    obtain ⟨d', hd', ⟨-, rfl⟩ | ⟨-, hhear⟩⟩ := other_of_put hki hk
    · exact hd'
    · rw [hd', Call.hear_stop hhear.symm]
  rcases current_put h hc ht hd hcur with ⟨rfl, hannounced, rfl⟩ | ⟨hsends, d', hd', hcur'⟩
  · by_cases hkj : k = j
    · subst hkj
      rw [calls_put_self hc, hannounced] at hk
      cases hk
    · exact hkj (h.apart (hbefore hkj) hc rfl rfl)
  · by_cases hki : k = i
    · subst hki
      rw [calls_put_self hc] at hk
      rcases sends_turn ht with ⟨-, hnot⟩ | ⟨-, -, hyes, -⟩
      · exact hnot (Option.some.inj hk)
      · rw [hsends] at hyes
        cases hyes
    · rw [h.silent k j d' (hbefore hki) hd'] at hcur'
      cases hcur'

theorem single_put {k : Nat} {d' : Call} (hj : (b.put i c t).calls[j]? = some d)
    (hk : (b.put i c t).calls[k]? = some d') (hcur : d.current = true)
    (hcur' : d'.current = true) : j = k := by
  -- who sets the server running has seen that it does not run, so that nobody was current
  have hnew : ∀ {m : Nat} {x : Call}, c = .start .bound → b.calls[m]? = some x →
      x.current = true → False := fun hbound hx hcurx => by
    subst hbound
    have hruns := h.runs _ _ hx hcurx
    rw [h.opening i _ hc rfl] at hruns
    cases hruns
  rcases current_put h hc ht hj hcur with ⟨hbound, -, hji⟩ | ⟨-, x, hx, hcurx⟩
  · rcases current_put h hc ht hk hcur' with ⟨-, -, hki⟩ | ⟨-, y, hy, hcury⟩
    · rw [hji, hki]
    · exact (hnew hbound hy hcury).elim
  · rcases current_put h hc ht hk hcur' with ⟨hbound, -, -⟩ | ⟨-, y, hy, hcury⟩
    · exact (hnew hbound hx hcurx).elim
    · exact h.single j k x y hx hy hcurx hcury

end

theorem sound_step (h : b.Sound) (hs : b.step e = some b') : b'.Sound := by
  rcases step_cases hs with ⟨c, hc, rfl⟩ | ⟨i, missed, waiting, -, hi, rfl⟩ |
    ⟨i, listen, c, t, -, hc, ht, rfl⟩
  · exact sound_call h hc
  · exact ⟨h.owned, h.opening, h.runs, h.silent, h.single⟩
  · exact ⟨owned_put h hc ht, fun j d => opening_put h hc ht, fun j d => runs_put h hc ht,
      fun k j d => silent_put h hc ht, fun j k d d' => single_put h hc ht⟩

theorem reachable_sound (h : Reachable v b) : b.Sound :=
  h.induct (sound_initial v) fun _ _ _ => sound_step

/-! ## One call alone -/

section
variable {cs : List Call} {holder : Option Nat}

theorem step_set (hi : i < cs.length) (listen : Except String Unit) :
    step ⟨v, holder, cs.set i c⟩ (.go i listen) =
      (c.go? listen holder.isNone v).map (put ⟨v, holder, cs.set i c⟩ i c) := by
  simp [step, hi]

/-- A start that nobody disturbs comes to what `Server.start` says. -/
theorem start_alone (hi : i < cs.length) (v : Server) (listen : Except String Unit) :
    match v.start listen with
    | .ok v' => exec ⟨v, none, cs.set i (.start .asking)⟩ (List.replicate 5 (.go i listen)) =
        some ⟨v', none, cs.set i (.start (.loose 0))⟩
    | .error f => ∃ n, exec ⟨v, none, cs.set i (.start .asking)⟩
        (List.replicate n (.go i listen)) = some ⟨v, none, cs.set i (.start (.failed f))⟩ := by
  cases hr : v.running with
  | true =>
    simp only [Server.start, hr, if_true]
    refine ⟨2, ?_⟩
    simp [Runs.exec_cons, step_set hi, Call.go?, Rise.go?, put, Call.inside, hr]
  | false =>
    cases listen with
    | error cause =>
      simp only [Server.start, hr, Bool.false_eq_true, if_false]
      refine ⟨3, ?_⟩
      simp [Runs.exec_cons, step_set hi, Call.go?, Rise.go?, put, Call.inside, hr]
    | ok u =>
      simp [Server.start, Runs.exec_cons, step_set hi, Call.go?, Rise.go?, put, Call.inside, hr]

/-- A stop that nobody disturbs comes to what `Server.stop` says. -/
theorem stop_alone (hi : i < cs.length) (v : Server) (listen : Except String Unit) :
    ∃ n, exec ⟨v, none, cs.set i (.stop .asking)⟩ (List.replicate n (.go i listen)) =
      some ⟨v.stop, none, (if v.running then cs.map Call.hear else cs).set i (.stop .done)⟩ := by
  cases hr : v.running with
  | true =>
    have hi' : i < (cs.map Call.hear).length := by rwa [List.length_map]
    refine ⟨4, ?_⟩
    simp [Runs.exec_cons, step_set hi, step_set hi', Call.go?, Fall.go?, put, Call.inside, hr]
  | false =>
    have hstop : v.stop = v := by
      cases v
      cases hr
      rfl
    refine ⟨2, ?_⟩
    simp [Runs.exec_cons, step_set hi, Call.go?, Fall.go?, put, Call.inside, hr, hstop]

end

/-! ## Loops that go on -/

/-- A message is missed by a start that has given the lock up and has not subscribed, when a stop
sends it. -/
theorem missed_step (hs : b.step e = some b') (hc : b.calls[i]? = some c)
    (hd : b'.calls[i]? = some d) (hm : c.missed < d.missed) :
    (∃ missed, c = .start (.loose missed)) ∧
      ∃ j listen, e = .go j listen ∧ b.calls[j]? = some (.stop .locked) := by
  rcases step_cases hs with ⟨c', -, rfl⟩ | ⟨j, _, _, -, -, rfl⟩ | ⟨j, listen, c', t, rfl, hc', ht, rfl⟩
  · have hi : i < b.calls.length := (List.getElem?_eq_some_iff.1 hc).1
    rw [List.getElem?_append_left hi, hc] at hd
    cases hd
    cases Nat.lt_irrefl _ hm
  · rw [accept, hc] at hd
    cases hd
    cases Nat.lt_irrefl _ hm
  · by_cases hij : i = j
    · subst hij
      rw [calls_put_self hc'] at hd
      rw [hc] at hc'
      cases hd
      cases hc'
      cases Nat.not_lt.2 (missed_turn ht) hm
    · obtain ⟨x, hx, hkept⟩ := other_of_put hij hd
      rw [hc] at hx
      cases hx
      rcases hkept with ⟨-, rfl⟩ | ⟨hsends, rfl⟩
      · cases Nat.lt_irrefl _ hm
      · refine ⟨Call.missed_hear hm, j, listen, rfl, ?_⟩
        rcases sends_turn ht with ⟨hnot, -⟩ | ⟨rfl, -⟩
        · rw [hsends] at hnot
          cases hnot
        · exact hc'

theorem current_of_past (hp : c.past = true) (hw : c.warned = false) (hm : c.missed = 0) :
    c.current = true := by
  simp [Call.current, hp, hw, hm]

/-- **What a stopped server still accepts.** However starts and stops of one server go on side by
side: if the server does not run, then every start that has set it running has ended, or a message
is waiting for its loop, or it has missed one. There is at most one that has none of that; and the
loop of a start without a message goes on on a server that does not run only if it has missed one. A
start misses a message when a stop sends it after the start has given the lock up, and before it has
subscribed, and in no other way. Calls that nobody disturbs come to what `Server.start` and
`Server.stop` say. -/
theorem stopped_warned_or_missed (h : Reachable v b) :
    (b.server.running = false → ∀ c ∈ b.calls, c.past = true →
      c.warned = true ∨ 0 < c.missed) ∧
    (∀ (i j : Nat) (c d : Call), b.calls[i]? = some c → b.calls[j]? = some d →
      c.past = true → d.past = true → c.warned = false → d.warned = false →
      c.missed = 0 → d.missed = 0 → i = j) ∧
    (∀ (e : Event) (b' : Switch) (i : Nat) (c d : Call), b.step e = some b' →
      b.calls[i]? = some c → b'.calls[i]? = some d → c.missed < d.missed →
      (∃ missed, c = .start (.loose missed)) ∧
        ∃ j listen, e = .go j listen ∧ b.calls[j]? = some (.stop .locked)) ∧
    ∀ (cs : List Call) (i : Nat) (u : Server) (listen : Except String Unit), i < cs.length →
      (match u.start listen with
        | .ok u' => exec ⟨u, none, cs.set i (.start .asking)⟩ (List.replicate 5 (.go i listen)) =
            some ⟨u', none, cs.set i (.start (.loose 0))⟩
        | .error f => ∃ n, exec ⟨u, none, cs.set i (.start .asking)⟩
            (List.replicate n (.go i listen)) = some ⟨u, none, cs.set i (.start (.failed f))⟩) ∧
      ∃ n, exec ⟨u, none, cs.set i (.stop .asking)⟩ (List.replicate n (.go i listen)) =
        some ⟨u.stop, none, (if u.running then cs.map Call.hear else cs).set i (.stop .done)⟩ := by
  have hb := reachable_sound h
  refine ⟨fun hstopped c hc hp => ?_, fun i j c d hi hj hp hp' hw hw' hm hm' => ?_,
    fun e b' i c d => missed_step, fun cs i u listen hi =>
      ⟨start_alone hi u listen, stop_alone hi u listen⟩⟩
  · by_contra hneither
    obtain ⟨hw, hm⟩ := not_or.1 hneither
    obtain ⟨i, hi⟩ := List.mem_iff_getElem?.1 hc
    have hcur := current_of_past hp (Bool.eq_false_iff.2 hw) (Nat.eq_zero_of_not_pos hm)
    rw [hb.runs i c hi hcur] at hstopped
    cases hstopped
  · exact hb.single i j c d hi hj (current_of_past hp hw hm) (current_of_past hp' hw' hm')

/-- A start gives the lock up, a stop sends its message and is done, and only then does the start
subscribe. The server does not run, and a connection is accepted. Then somebody starts the server
again: two loops accept connections, and no message is waiting for either of them. -/
theorem stopped_warned_or_missed_race :
    let v : Server := ⟨{}, false, ⟨1, 0, 0, 0, 0⟩⟩
    let late : Call := .start (.looping 1 0)
    let stopped : Switch :=
      ⟨{ v with admission := ⟨1, 1, 1, 1, 0⟩ }, none, [late, .stop .done]⟩
    let again : Switch :=
      ⟨{ stopped.server with running := true }, none, [late, .stop .done, .start (.looping 0 0)]⟩
    Reachable v stopped ∧ Reachable v again ∧ stopped.server.running = false ∧
      late.past = true ∧ late.warned = false ∧ (late.warned = true ∨ 0 < late.missed) ∧
      (stopped.step (.accept 0)).isSome = true ∧ (again.step (.accept 0)).isSome = true ∧
      (again.step (.accept 2)).isSome = true := by
  intro v late stopped again
  let rise : List Event := List.replicate 5 (.go 0 (.ok ()))
  let fall : List Event := List.replicate 4 (.go 1 (.ok ()))
  let race : List Event := [.start, .stop] ++ rise ++ fall ++
    [.go 0 (.ok ()), .go 0 (.ok ()), .accept 0]
  have hstopped : Reachable v stopped := ⟨race, by decide +kernel⟩
  have hagain : Reachable v again :=
    ⟨race ++ .start :: List.replicate 7 (.go 2 (.ok ())), by decide +kernel⟩
  exact ⟨hstopped, hagain, rfl, rfl, rfl,
    (stopped_warned_or_missed hstopped).1 rfl late (.head _) rfl, rfl, rfl, rfl⟩

end Switch
end GridKeeper.Server

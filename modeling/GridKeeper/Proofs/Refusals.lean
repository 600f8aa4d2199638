import GridKeeper.Proofs.Grammar
import GridKeeper.Proofs.Serial

/-!
# Refused requests leave no trace

A request can fail in many places: it is not read to its end, the lock is not got, or the operation
has been carried out under the lock and turns out to be about no node. Wherever it is, the registry
is as it was before. A request that succeeds has done the one operation that it names, and whether
the reply gets through makes no difference.

**Results.**
* `after_of_error`: an operation that is answered with an error changes nothing.
* `serves_of_serve`: all the ways in which a connection is served.
* `chronicle_without_refused`: what was refused can be left out of the course of events.
* `refused_invisible`: all of this together.
-/
namespace GridKeeper

open Interleaving

variable {limit : Option Nat} {attempt : Except Lock.Failure Unit} {feed : Wire.Feed}
  {r : Registry} {e : Exchange}

/-! ## Operations that fail -/

theorem Directory.add_of_invalid {d : Directory} {address : String}
    (h : (d.add address).1 = .invalid) : (d.add address).2 = d := by
  unfold add at h ⊢
  split
  · rename_i n hn
    simp only [hn, insert] at h
    split at h <;> cases h
  · rfl

theorem Directory.remove_of_invalid {d : Directory} {address : String}
    (h : (d.remove address).1 = .invalid) : (d.remove address).2 = d := by
  unfold remove at h ⊢
  split
  · rename_i n hn
    simp only [hn, erase] at h
    split at h <;> cases h
  · rfl

/-- Only an address that is none is answered with an error. -/
theorem Wire.Message.invalid_of_error {answer : Registry.Answer} {m : String}
    (h : reply answer = .error m) :
    ∃ address, answer = .added address .invalid ∨ answer = .removed address .invalid := by
  cases answer with
  | added address outcome =>
    cases outcome with
    | invalid => exact ⟨address, .inl rfl⟩
    | unchanged | applied => cases h
  | removed address outcome =>
    cases outcome with
    | invalid => exact ⟨address, .inr rfl⟩
    | unchanged | applied => cases h
  | count | reset | hosts | nodes => cases h

theorem Registry.after_of_error {op : Operation} {m : String}
    (h : Wire.Message.reply (r.apply op).1 = .error m) : r.after op = r := by
  obtain ⟨_, h⟩ := Wire.Message.invalid_of_error h
  cases op with
  | addNode address =>
    obtain ⟨-, hinvalid⟩ : _ ∧ (r.directory.add address).1 = .invalid := by simpa [apply] using h
    simp only [after, apply, Directory.add_of_invalid hinvalid]
  | removeNode address =>
    obtain ⟨-, hinvalid⟩ : _ ∧ (r.directory.remove address).1 = .invalid := by
      simpa [apply] using h
    simp only [after, apply, Directory.remove_of_invalid hinvalid]
  | _ => rcases h with h | h <;> cases h

/-! ## What an exchange does -/

/-- Does activities one after the other; of a reply that is sent, `writer` lets some text through.
The result is the registry after them, and the text that got through. -/
def Activity.carryOut (writer : Wire.Reply → String) : List Activity → Registry → Registry × String
  | [], r => (r, "")
  | .operate op :: rest, r => carryOut writer rest (r.after op)
  | .send reply :: rest, r =>
    let (r, text) := carryOut writer rest r
    (r, writer reply ++ text)
  | _ :: rest, r => carryOut writer rest r

def Activity.sent (as : List Activity) : List Wire.Reply :=
  as.filterMap fun
    | .send reply => some reply
    | _ => none

namespace Exchange

inductive Serves (limit : Option Nat) (attempt : Except Lock.Failure Unit) (feed : Wire.Feed)
    (r : Registry) : Exchange → Prop
  | probe (h : request? limit feed = some (.ok .probe)) : Serves limit attempt feed r ⟨none, [], r⟩
  | misread {fault : Wire.Fault} (h : request? limit feed = some (.error fault)) :
    Serves limit attempt feed r (refuse [] fault.message r)
  | locked {op : Registry.Operation} {failure : Lock.Failure}
      (h : request? limit feed = some (.ok (.call op))) (ha : attempt = .error failure) :
    Serves limit attempt feed r (refuse [.attempt false] failure.message r)
  | declined {op : Registry.Operation} {m : String}
      (h : request? limit feed = some (.ok (.call op))) (ha : attempt = .ok ())
      (hm : Wire.Message.reply (r.apply op).1 = .error m) :
    Serves limit attempt feed r (refuse [.attempt true, .operate op, .release] m (r.after op))
  | done {op : Registry.Operation} {m : String}
      (h : request? limit feed = some (.ok (.call op))) (ha : attempt = .ok ())
      (hm : Wire.Message.reply (r.apply op).1 = .success m) :
    Serves limit attempt feed r ⟨some (.success m),
      [.attempt true, .operate op, .send (.success m), .release], r.after op⟩

theorem serves_of_serve (h : serve? limit attempt feed r = some e) :
    Serves limit attempt feed r e := by
  obtain ⟨⟨read, rest⟩, hread, rfl⟩ := Option.map_eq_some_iff.1 h
  have hreq : request? limit feed = some read := by
    rw [request?, hread]
    rfl
  cases read with
  | error fault => exact .misread hreq
  | ok req =>
    cases req with
    | probe => exact .probe hreq
    | call op =>
      cases attempt with
      | error failure => exact .locked hreq rfl
      | ok =>
        simp only [answer, execute]
        split
        · exact .done hreq rfl ‹_›
        · exact .declined hreq rfl ‹_›

theorem Serves.registry_of_refused (h : Serves limit attempt feed r e)
    (hr : e.reply = none ∨ ∃ m, e.reply = some (.error m)) : e.registry = r := by
  cases h with
  | probe | misread | locked => rfl
  | declined h ha hm => exact Registry.after_of_error hm
  | done h ha hm => rcases hr with hr | ⟨m, hr⟩ <;> cases hr

/-- The registry is left as it is, or the operation that was read is carried out under the lock. -/
theorem Serves.registry_cases (h : Serves limit attempt feed r e) : e.registry = r ∨
    ∃ op, request? limit feed = some (.ok (.call op)) ∧ attempt = .ok () ∧
      e.registry = r.after op := by
  cases h with
  | probe | misread | locked => exact .inl rfl
  | declined h ha | done h ha => exact .inr ⟨_, h, ha, rfl⟩

theorem Serves.carryOut (h : Serves limit attempt feed r e) (writer : Wire.Reply → String) :
    Activity.carryOut writer e.activities r = (e.registry, (e.reply.map writer).getD "") := by
  cases h <;> simp [Activity.carryOut, refuse]

/-- A reply is sent once, whichever way it takes. -/
theorem Serves.sent (h : Serves limit attempt feed r e) :
    Activity.sent e.activities = e.reply.toList := by
  cases h <;> rfl

/-- What is written to a writer that works, or to one that does not. -/
theorem written_eq_carryOut (e : Exchange) (works : Bool) (r : Registry) : e.written works =
    (Activity.carryOut (fun reply => if works then reply.encode else "") e.activities r).2 := by
  have hlist : ∀ (activities : List Activity) (r : Registry),
      (if works then Activity.written activities else "") =
        (Activity.carryOut (fun reply => if works then reply.encode else "") activities r).2 := by
    intro activities
    induction activities with
    | nil => intro r; cases works <;> rfl
    | cons a rest ih =>
      intro r
      cases a with
      | operate op => exact ih (r.after op)
      | send reply =>
        have := ih r
        cases works <;> simp_all [Activity.written, Activity.carryOut]
      | _ => exact ih r
  exact hlist e.activities r

/-- A connection is served in the end if there is a limit, or if the peer closes in the end. -/
theorem serve_isSome (h : limit.isSome = true ∨ feed.closing.isSome = true) :
    (serve? limit attempt feed r).isSome = true := by
  rw [serve?, Option.isSome_map]
  exact Wire.Reader.readFrom_isSome h

end Exchange

/-! ## Requests and sweeps over time -/

inductive Episode where
  | request (limit : Option Nat) (attempt : Except Lock.Failure Unit) (feed : Wire.Feed)
  | sweep (attempt : Except Lock.Failure Unit) (clean : Sweep.Cleaner)

namespace Episode

/-- What comes of an episode, and the registry after it. A request that is waited for forever is
answered with nothing. -/
def run (r : Registry) : Episode → Result × Registry
  | request limit attempt feed =>
    match Exchange.serve? limit attempt feed r with
    | none => (.reply none, r)
    | some e => (.reply e.reply, e.registry)
  | sweep attempt clean =>
    let (report, after) := Sweep.tick attempt clean r
    (.report report, after)

/-- Whether a request was answered with an error, or with nothing. -/
def refused : Result → Bool
  | .reply none | .reply (some (.error _)) => true
  | _ => false

/-- The episodes with what came of each, and the registry after the last one. -/
def chronicle : List Episode → Registry → List (Episode × Result) × Registry
  | [], r => ([], r)
  | x :: rest, r =>
    let (result, after) := x.run r
    let (later, last) := chronicle rest after
    ((x, result) :: later, last)

/-- The episodes less the requests that were refused, with what came of them. -/
def kept (xs : List Episode) (r : Registry) : List (Episode × Result) :=
  (chronicle xs r).1.filter fun x => !refused x.2

theorem run_of_refused {x : Episode} (h : refused (x.run r).1 = true) : (x.run r).2 = r := by
  cases x with
  | sweep attempt clean => cases h
  | request limit attempt feed =>
    unfold run at h ⊢
    dsimp only at h ⊢
    cases hs : Exchange.serve? limit attempt feed r with
    | none => rfl
    | some e =>
      rw [hs] at h
      refine (Exchange.serves_of_serve hs).registry_of_refused ?_
      cases hr : e.reply with
      | none => exact .inl rfl
      | some reply =>
        cases reply with
        | error m => exact .inr ⟨m, rfl⟩
        | success m =>
          dsimp only at h
          rw [hr] at h
          cases h

theorem chronicle_without_refused (xs : List Episode) (r : Registry) :
    chronicle ((kept xs r).map (·.1)) r = (kept xs r, (chronicle xs r).2) := by
  induction xs generalizing r with
  | nil => rfl
  | cons x rest ih =>
    by_cases h : refused (x.run r).1 = true
    · have hkept : kept (x :: rest) r = kept rest r := by
        have hrun := run_of_refused h
        simp [kept, chronicle, h, hrun]
      have hlast : (chronicle (x :: rest) r).2 = (chronicle rest r).2 := by
        change (chronicle rest (x.run r).2).2 = _
        rw [run_of_refused h]
      rw [hkept, hlast, ih]
    · have hkept : kept (x :: rest) r = (x, (x.run r).1) :: kept rest (x.run r).2 := by
        simp [kept, chronicle, h]
      rw [hkept, List.map_cons]
      simp only [chronicle, ih]

end Episode

open Exchange Episode

/-- **Refused requests leave no trace.** A connection is served in the end if there is a limit, or
if the peer closes in the end. What it does comes to the same registry whatever gets through of its
reply: to the one before it if the reply is an error or none, and if it is a success, to what the
one operation that was asked for makes of it. From a course of requests and sweeps all refused
requests can be left out, and the others come to the same replies and reports, and to the same
registry. -/
theorem refused_invisible :
    (∀ (limit : Option Nat) (attempt : Except Lock.Failure Unit) (feed : Wire.Feed) (r : Registry),
      (limit.isSome = true ∨ feed.closing.isSome = true →
        (serve? limit attempt feed r).isSome = true) ∧
      ∀ e, serve? limit attempt feed r = some e →
        (∀ writer, Activity.carryOut writer e.activities r =
          (e.registry, (e.reply.map writer).getD "")) ∧
        (∀ works, e.written works =
          (Activity.carryOut (fun reply => if works then reply.encode else "") e.activities r).2) ∧
        (e.reply = none ∨ (∃ m, e.reply = some (.error m)) → e.registry = r) ∧
        ∀ m, e.reply = some (.success m) → ∃ op,
          request? limit feed = some (.ok (.call op)) ∧ attempt = .ok () ∧
            Wire.Message.reply (r.apply op).1 = .success m ∧ e.registry = r.after op) ∧
    ∀ (xs : List Episode) (r : Registry),
      chronicle ((kept xs r).map (·.1)) r = (kept xs r, (chronicle xs r).2) := by
  refine ⟨fun limit attempt feed r => ⟨serve_isSome, fun e he => ?_⟩, chronicle_without_refused⟩
  have hs := serves_of_serve he
  refine ⟨hs.carryOut, fun works => written_eq_carryOut e works r, hs.registry_of_refused,
    fun m hm => ?_⟩
  cases hs with
  | probe | misread | locked | declined => cases hm
  | done h ha hr => cases hm; exact ⟨_, h, ha, hr, rfl⟩

def closedFeed (text : String) : Wire.Feed := .atOnce (Text.encodeUtf8 text.toList) false

/-- A request for no node, one that breaks off, one without the lock, a test and one that stalls are
left out; the node that is added and the sweep over it stay. -/
def mixedEpisodes : List Episode :=
  [.request none (.ok ()) (closedFeed "NODES\nINCREASE\nnowhere\n"),
    .request none (.ok ()) (closedFeed "PENDING\n"),
    .request none (.error (.timeout "lock" 20)) (closedFeed "PENDING\nINCREASE\n"),
    .request none (.ok ()) (closedFeed "NODES\nINCREASE\nhttp://[::1]:81"),
    .request none (.ok ()) (closedFeed "TEST\n"),
    .request (some 5) (.ok ()) ⟨[(0, 0x54)], none⟩,
    .sweep (.ok ()) (still fun _ _ => .succeeded)]

theorem refused_invisible_mixed :
    (kept mixedEpisodes {}).map (·.2) =
        [.reply (some (.success "Added Node:  http://[::1]:81")),
          .report (.walked [.cleaned ⟨"http", "[::1]", some 81⟩ .succeeded])] ∧
      chronicle ((kept mixedEpisodes {}).map (·.1)) {} =
        (kept mixedEpisodes {}, (chronicle mixedEpisodes {}).2) ∧
      ∃ e, serve? (some 5) (.ok ()) ⟨[(0, 0x54)], none⟩ {} = some e ∧
        e.reply = some (.error (Wire.Fault.late 5).message) ∧ e.registry = {} := by
  refine ⟨by decide +kernel, refused_invisible.2 mixedEpisodes {}, ?_⟩
  obtain ⟨hserved, hall⟩ := refused_invisible.1 (some 5) (.ok ()) ⟨[(0, 0x54)], none⟩ {}
  obtain ⟨e, he⟩ := Option.isSome_iff_exists.1 (hserved (.inl rfl))
  have hreply : (serve? (some 5) (.ok ()) ⟨[(0, 0x54)], none⟩ {}).map (·.reply) =
      some (some (.error (Wire.Fault.late 5).message)) := by decide +kernel
  rw [he, Option.map_some, Option.some.injEq] at hreply
  exact ⟨e, he, hreply, (hall e he).2.2.1 (.inr ⟨_, hreply⟩)⟩

end GridKeeper

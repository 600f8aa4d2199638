import GridKeeper.Proofs.Chunks
import GridKeeper.Proofs.Pipelining

/-!
# Requests at any pace

However octets are divided into chunks, and however long those take, the requests that are read are
those that would be read if all octets were there at once. Time counts in one way only: when a line
is not complete within the time allowed for it, the reading of the request is given up.

**Results.**
* `nextLine_late_iff`: a line is given up if and only if it is not complete in time.
* `readAll_alike`: two readers of the same octets come to the same results until one gives up.
* `Inbox.readAll_reader`: what is read from chunk to chunk is what is read octet by octet.
* `pace_invisible`: requests are read at any pace as they are read at once, and what it takes for
  one of them to be given up, or to be waited for in vain.
-/
namespace GridKeeper.Wire

/-! ## Octets in order -/

theorem inOrder_flat {coming : List (Nat × List UInt8)} {closing : Option Nat}
    (h : InOrder coming closing) : InOrder (flat coming) closing := by
  refine ⟨?_, fun c hc a ha => ?_⟩
  · induction coming with
    | nil => exact .nil
    | cons first later ih =>
      obtain ⟨hfirst, hlater⟩ := List.pairwise_cons.1 h.1
      rw [flat_cons, List.map_append, List.pairwise_append]
      refine ⟨?_, ih ⟨hlater, fun c hc x hx => h.2 c hc x (.tail _ hx)⟩, ?_⟩
      · rw [tagged, List.map_map]
        exact List.pairwise_map.2 (List.pairwise_of_forall fun _ _ => Nat.le_refl _)
      · intro s hs t ht
        obtain ⟨a, ha, rfl⟩ := List.mem_map.1 hs
        obtain ⟨b, hb, rfl⟩ := List.mem_map.1 ht
        obtain ⟨x, hx, hbx⟩ := mem_flat hb
        rw [time_of_mem_tagged ha, hbx]
        exact hfirst _ (List.mem_map_of_mem hx)
  · obtain ⟨x, hx, hax⟩ := mem_flat ha
    rw [hax]
    exact h.2 c hc x hx

theorem inOrder_ofChunks (chunks : List (Nat × List UInt8)) (stays : Bool) :
    InOrder (Feed.ofChunks chunks stays).arrivals (Feed.ofChunks chunks stays).closing := by
  have hflat := inOrder_flat (Inbox.timely_ofChunks chunks stays).inOrder
  rw [Feed.ofChunks, schedule_timed]
  exact hflat

theorem bytes_ofChunks (chunks : List (Nat × List UInt8)) (stays : Bool) :
    (Feed.ofChunks chunks stays).bytes = chunks.flatMap (·.2) := by
  have hfrom : ∀ start, (flat (timed start chunks)).map (·.2) = chunks.flatMap (·.2) := by
    induction chunks with
    | nil => exact fun _ => rfl
    | cons c rest ih =>
      intro start
      rw [timed, flat_cons, List.map_append, octets_tagged, ih, List.flatMap_cons]
  rw [Feed.ofChunks, schedule_timed]
  exact hfrom 0

/-- When the first line of octets in order is complete: as soon as there is a line feed, or when the
stream ends. -/
theorem completionOf_le_iff {arrivals : List (Nat × UInt8)} {closing : Option Nat} {t : Nat}
    (ho : InOrder arrivals closing) :
    (∃ c ∈ completionOf arrivals closing, c ≤ t) ↔
      (∃ a ∈ arrivals, a.2 = 10 ∧ a.1 ≤ t) ∨ ∃ c ∈ closing, c ≤ t := by
  induction arrivals with
  | nil => exact ⟨.inr, fun h => h.resolve_left fun ⟨a, ha, _⟩ => nomatch ha⟩
  | cons b rest ih =>
    have hrest : InOrder rest closing := ho.suffix (List.suffix_cons _ _)
    by_cases hb : b.2 = 10
    · have hfirst : completionOf (b :: rest) closing = some b.1 := by
        rw [completionOf, spanLine, if_pos hb]
        rfl
      have hle : ∀ a ∈ b :: rest, b.1 ≤ a.1 := List.forall_mem_cons.2
        ⟨Nat.le_refl _, fun a ha => (List.pairwise_cons.1 ho.1).1 _ (List.mem_map_of_mem ha)⟩
      rw [hfirst]
      constructor
      · rintro ⟨c, hc, hct⟩
        cases hc
        exact .inl ⟨b, .head _, hb, hct⟩
      · rintro (⟨a, ha, -, hat⟩ | ⟨c, hc, hct⟩)
        · exact ⟨b.1, rfl, Nat.le_trans (hle a ha) hat⟩
        · exact ⟨b.1, rfl, Nat.le_trans (ho.2 c hc b (.head _)) hct⟩
    · have hunsplit : splitLine [b.2] = none := by rw [splitLine, if_neg hb]; rfl
      have hnext : completionOf (b :: rest) closing = completionOf rest closing :=
        completionOf_of_unsplit (t := b.1) hunsplit
      simp only [hnext, ih hrest, List.exists_mem_cons_iff, hb, false_and, false_or]

namespace Reader

variable {r r' s : Reader} {limit : Option Nat} {ms t n : Nat} {e : Expecting}
  {line : String} {result : Except Fault String}

/-! ## When a line is given up -/

/-- The end of the next line has come by the time `t`: a line feed, or the end of the stream. -/
def Complete (r : Reader) (t : Nat) : Prop :=
  (∃ a ∈ r.feed.arrivals, a.2 = 10 ∧ a.1 ≤ t) ∨ ∃ c ∈ r.feed.closing, c ≤ t

/-- A line is read, and then it is complete, and in time if there is a limit; or it is given up. -/
theorem nextLine_split (h : r.nextLine? limit = some (result, r')) :
    (∃ t ∈ r.completion, r.takeLine t = (result, r') ∧
      ∀ ms, limit = some ms → r.inTime ms t = true) ∨
    ∃ ms, limit = some ms ∧ (∀ t ∈ r.completion, r.inTime ms t = false) ∧
      result = .error (.late ms) ∧ r' = r.giveUp ms := by
  cases limit with
  | none =>
    cases hc : r.completion with
    | none => simp only [nextLine?, hc] at h; cases h
    | some t =>
      have hlimit : ∀ ms, none = some ms → r.inTime ms t = true := by
        intro ms h
        cases h
      rw [nextLine_of_inTime hc hlimit] at h
      exact .inl ⟨t, rfl, Option.some.inj h, hlimit⟩
  | some ms =>
    by_cases hin : ∃ t ∈ r.completion, r.inTime ms t = true
    · obtain ⟨t, hc, hin⟩ := hin
      have hlimit : ∀ ms', some ms = some ms' → r.inTime ms' t = true := fun ms' hms =>
        Option.some.inj hms ▸ hin
      rw [nextLine_of_inTime hc hlimit] at h
      exact .inl ⟨t, hc, Option.some.inj h, hlimit⟩
    · have hlate : ∀ t ∈ r.completion, r.inTime ms t = false := fun t ht =>
        Bool.eq_false_iff.2 fun hit => hin ⟨t, ht, hit⟩
      rw [nextLine_of_late hlate] at h
      cases h
      exact .inr ⟨ms, rfl, hlate, rfl, rfl⟩

theorem takeLine_ne_late : (r.takeLine t).1 ≠ .error (.late ms) := by
  rw [takeLine_eq]
  dsimp only
  cases textOf ((spanLine r.feed.arrivals).1.map (·.2)) with
  | none => nofun
  | some text => cases text <;> nofun

theorem nextLine_late_iff (ho : InOrder r.feed.arrivals r.feed.closing) :
    r.nextLine? limit = some (.error (.late ms), r') ↔
      limit = some ms ∧ r' = r.giveUp ms ∧
        ∀ t, t ≤ r.now ∨ t < r.now + ms → ¬ r.Complete t := by
  have hin : ∀ t, r.inTime ms t = true ↔ t ≤ r.now ∨ t < r.now + ms := fun t => by
    simp only [inTime, Bool.or_eq_true, decide_eq_true_eq]
  constructor
  · intro h
    rcases nextLine_split h with ⟨t, -, ht, -⟩ | ⟨_, rfl, hlate, hms, rfl⟩
    · exact absurd (congrArg Prod.fst ht) takeLine_ne_late
    · cases hms
      refine ⟨rfl, rfl, fun t ht hcomplete => ?_⟩
      obtain ⟨c, hc, hct⟩ := (completionOf_le_iff ho).2 hcomplete
      refine Bool.eq_false_iff.1 (hlate c hc) ((hin c).2 ?_)
      exact ht.imp (Nat.le_trans hct) (Nat.lt_of_le_of_lt hct)
  · rintro ⟨rfl, rfl, hnever⟩
    refine nextLine_of_late fun t ht => Bool.eq_false_iff.2 fun hit => ?_
    exact hnever t ((hin t).1 hit) ((completionOf_le_iff ho).1 ⟨t, ht, Nat.le_refl _⟩)

/-! ## What is left -/

/-- The second reader is on the same connection, and not before the first one. -/
def Beyond (r r' : Reader) : Prop :=
  r'.feed.arrivals <:+ r.feed.arrivals ∧ r'.feed.closing = r.feed.closing

theorem Beyond.refl (r : Reader) : r.Beyond r := ⟨List.suffix_refl _, rfl⟩

theorem Beyond.trans {r₁ r₂ r₃ : Reader} (h : r₁.Beyond r₂) (h' : r₂.Beyond r₃) : r₁.Beyond r₃ :=
  ⟨h'.1.trans h.1, h'.2.trans h.2⟩

theorem Beyond.inOrder (h : r.Beyond r') (ho : InOrder r.feed.arrivals r.feed.closing) :
    InOrder r'.feed.arrivals r'.feed.closing := by
  rw [h.2]
  exact ho.suffix h.1

theorem nextLine_beyond (h : r.nextLine? limit = some (result, r')) : r.Beyond r' := by
  rcases nextLine_split h with ⟨t, -, ht, -⟩ | ⟨ms, -, -, -, rfl⟩
  · rw [takeLine_eq] at ht
    cases ht
    exact ⟨⟨_, spanLine_append _⟩, rfl⟩
  · exact ⟨List.dropWhile_suffix _, rfl⟩

theorem readFrom_beyond {result : Except Fault Request}
    (h : r.readFrom? limit e = some (result, r')) : r.Beyond r' := by
  fun_induction readFrom? limit e r with
  | case1 => cases h
  | case2 e r fault r₁ hn | case3 e r line r₁ hn | case4 e r line r₁ hn =>
    cases h
    exact nextLine_beyond hn
  | case5 e r line r₁ hn next ha hd ih => exact (nextLine_beyond hn).trans (ih h)

theorem readAll_succ {results : List (Except Fault Request)}
    (h : r.readAll? limit (n + 1) = some (results, r')) : ∃ result r₁ more,
      r.read? limit = some (result, r₁) ∧ r₁.readAll? limit n = some (more, r') ∧
      results = result :: more := by
  obtain ⟨⟨result, r₁⟩, hread, h⟩ := Option.bind_eq_some_iff.1 h
  obtain ⟨⟨more, r₂⟩, hall, heq⟩ := Option.map_eq_some_iff.1 h
  cases heq
  exact ⟨result, r₁, more, hread, hall, rfl⟩

theorem readAll_beyond {results : List (Except Fault Request)}
    (h : r.readAll? limit n = some (results, r')) : r.Beyond r' := by
  induction n generalizing r results with
  | zero =>
    cases h
    exact .refl _
  | succ n ih =>
    obtain ⟨result, r₁, more, hread, hall, -⟩ := readAll_succ h
    exact (readFrom_beyond hread).trans (ih hall)

/-! ## When a request is given up -/

/-- From one state of a request and of its reader, lines are read that lead to another. -/
inductive Partway (limit : Option Nat) : Expecting → Reader → Expecting → Reader → Prop
  | start (e : Expecting) (r : Reader) : Partway limit e r e r
  | line {e next e' : Expecting} {r r₁ r' : Reader} {line : String}
      (hn : r.nextLine? limit = some (.ok line, r₁)) (ha : e.accept line = .ok (.more next))
      (hp : Partway limit next r₁ e' r') : Partway limit e r e' r'

theorem Partway.beyond {e' : Expecting} (h : Partway limit e r e' r') : r.Beyond r' := by
  induction h with
  | start e r => exact .refl r
  | line hn _ _ ih => exact (nextLine_beyond hn).trans ih

theorem accept_ne_late : e.accept line ≠ .error (.late ms) := by
  intro h
  cases e <;> simp only [Expecting.accept, Expecting.acceptTopic, Expecting.acceptPending,
    Expecting.acceptSession, Expecting.acceptNodes, Expecting.acceptScope] at h <;>
    (try split at h) <;> cases h

/-- A request is given up at one of its lines. -/
theorem readFrom_late (h : r.readFrom? limit e = some (.error (.late ms), r')) :
    ∃ e' r₀, Partway limit e r e' r₀ ∧ r₀.nextLine? limit = some (.error (.late ms), r') := by
  fun_induction readFrom? limit e r with
  | case1 => cases h
  | case2 e r fault r₁ hn =>
    cases h
    exact ⟨e, r, .start e r, hn⟩
  | case3 e r line r₁ hn fault ha =>
    cases h
    exact absurd ha accept_ne_late
  | case4 => cases h
  | case5 e r line r₁ hn next ha hd ih =>
    obtain ⟨e', r₀, hp, hlate⟩ := ih h
    exact ⟨e', r₀, .line hn ha hp, hlate⟩

/-! ## Two readers of the same octets -/

/-- The second reader has the same octets before it, up to the end of the stream, and has read as
many lines. -/
structure Alike (r s : Reader) : Prop where
  bytes : s.feed.bytes = r.feed.bytes
  linesRead : s.linesRead = r.linesRead
  closes : s.feed.closing.isSome = true

theorem nextLine_alike (hs : r.Alike s) (h : r.nextLine? limit = some (result, r'))
    (hl : ∀ ms, result ≠ .error (.late ms)) :
    ∃ s', s.nextLine? none = some (result, s') ∧ r'.Alike s' := by
  rcases nextLine_split h with ⟨t, -, ht, -⟩ | ⟨ms, -, -, rfl, -⟩
  · obtain ⟨r₁, htake, hlines, hcount, -⟩ := takeLine_spec r t
    rw [ht] at htake
    cases htake
    have hsame : s.lines = r.lines := congrArg cutLines hs.bytes
    have hnext : s.nextText = r.nextText := congrArg (·.head?.map lineText) hsame
    obtain ⟨s', hread, hleft, hcount', hclose, -⟩ :=
      nextLine_of_completion (completion_isSome.2 (.inl hs.closes)) (.inl (rfl : none = none))
    rw [hnext] at hread hcount'
    refine ⟨s', hread, ?_, ?_, by rw [hclose, hs.closes]⟩
    · rw [bytes_eq_flatten, bytes_eq_flatten, hleft, hlines, hsame]
    · rw [hcount', hcount, hs.linesRead]
  · exact absurd rfl (hl ms)

theorem readFrom_alike {result : Except Fault Request} (hs : r.Alike s)
    (h : r.readFrom? limit e = some (result, r')) (hl : ∀ ms, result ≠ .error (.late ms)) :
    ∃ s', s.readFrom? none e = some (result, s') ∧ r'.Alike s' := by
  have hok : ∀ {line : String} (ms : Nat), (.ok line : Except Fault String) ≠ .error (.late ms) := by
    intro line ms h
    cases h
  fun_induction readFrom? limit e r generalizing s with
  | case1 => cases h
  | case2 e r fault r₁ hn =>
    cases h
    obtain ⟨s', hnext, hs'⟩ := nextLine_alike hs hn fun ms hms => hl ms (by cases hms; rfl)
    exact ⟨s', readFrom_of_error hnext, hs'⟩
  | case3 e r line r₁ hn fault ha =>
    cases h
    obtain ⟨s', hnext, hs'⟩ := nextLine_alike hs hn hok
    exact ⟨s', readFrom_of_refused hnext ha, hs'⟩
  | case4 e r line r₁ hn req ha =>
    cases h
    obtain ⟨s', hnext, hs'⟩ := nextLine_alike hs hn hok
    exact ⟨s', readFrom_of_complete hnext ha, hs'⟩
  | case5 e r line r₁ hn next ha hd ih =>
    obtain ⟨s₁, hnext, hs₁⟩ := nextLine_alike hs hn hok
    rw [readFrom_of_more hnext ha]
    exact ih hs₁ h

/-- As long as none is given up, requests are read alike. -/
theorem readAll_alike {results : List (Except Fault Request)} (hs : r.Alike s)
    (h : r.readAll? limit n = some (results, r')) (hl : ∀ ms, .error (.late ms) ∉ results) :
    ∃ s', s.readAll? none n = some (results, s') ∧ r'.Alike s' := by
  induction n generalizing r s results with
  | zero =>
    cases h
    exact ⟨s, rfl, hs⟩
  | succ n ih =>
    obtain ⟨result, r₁, more, hread, hall, rfl⟩ := readAll_succ h
    obtain ⟨s₁, hread', hs₁⟩ :=
      readFrom_alike hs hread fun ms hms => hl ms (hms ▸ .head _)
    obtain ⟨s', hall', hs'⟩ := ih hs₁ hall fun ms hm => hl ms (.tail _ hm)
    refine ⟨s', ?_, hs'⟩
    simp only [readAll?, read?, hread', Option.bind_some, hall', Option.map_some]

end Reader

/-! ## Requests from chunk to chunk -/

namespace Inbox

def readFrom? (limit : Option Nat) (e : Expecting) (b : Inbox) :
    Option (Except Fault Request × Inbox) :=
  match b.nextLine? limit with
  | none => none
  | some (.error fault, b) => some (.error fault, b)
  | some (.ok line, b) =>
    match h : e.accept line with
    | .error fault => some (.error fault, b)
    | .ok (.complete request) => some (.ok request, b)
    | .ok (.more next) =>
      have := Expecting.depth_lt_of_accept h
      readFrom? limit next b
termination_by e.depth

def readAll? (limit : Option Nat) : Nat → Inbox → Option (List (Except Fault Request) × Inbox)
  | 0, b => some ([], b)
  | n + 1, b =>
    (b.readFrom? limit .topic).bind fun (result, b) =>
      (readAll? limit n b).map fun (results, b) => (result :: results, b)

variable {b b' : Inbox} {limit : Option Nat} {e : Expecting}

theorem reader_of_nextLine {result : Except Fault String} (hb : b.Timely)
    (h : b.nextLine? limit = some (result, b')) :
    b.reader.nextLine? limit = some (result, b'.reader) := by
  rw [← nextLine_reader hb, h]
  rfl

theorem timely_readFrom {result : Except Fault Request} (hb : b.Timely)
    (h : b.readFrom? limit e = some (result, b')) : b'.Timely := by
  fun_induction readFrom? limit e b with
  | case1 => cases h
  | case2 e b fault b₁ hn | case3 e b line b₁ hn | case4 e b line b₁ hn =>
    cases h
    exact timely_nextLine hb hn
  | case5 e b line b₁ hn next ha hd ih => exact ih (timely_nextLine hb hn) h

theorem readFrom_reader (hb : b.Timely) :
    (b.readFrom? limit e).map (fun next => (next.1, next.2.reader)) =
      b.reader.readFrom? limit e := by
  fun_induction readFrom? limit e b with
  | case1 e b hn =>
    rw [Reader.readFrom?, ← nextLine_reader hb, hn]
    rfl
  | case2 e b fault b₁ hn =>
    rw [Reader.readFrom_of_error (reader_of_nextLine hb hn)]
    rfl
  | case3 e b line b₁ hn fault ha =>
    rw [Reader.readFrom_of_refused (reader_of_nextLine hb hn) ha]
    rfl
  | case4 e b line b₁ hn req ha =>
    rw [Reader.readFrom_of_complete (reader_of_nextLine hb hn) ha]
    rfl
  | case5 e b line b₁ hn next ha hd ih =>
    rw [Reader.readFrom_of_more (reader_of_nextLine hb hn) ha]
    exact ih (timely_nextLine hb hn)

theorem readAll_reader (hb : b.Timely) (n : Nat) :
    (b.readAll? limit n).map (fun next => (next.1, next.2.reader)) =
      b.reader.readAll? limit n := by
  induction n generalizing b with
  | zero => rfl
  | succ n ih =>
    rw [readAll?, Reader.readAll?, Reader.read?, ← readFrom_reader hb]
    cases hread : b.readFrom? limit .topic with
    | none => rfl
    | some next =>
      obtain ⟨result, b₁⟩ := next
      simp only [Option.bind_some, Option.map_some, ← ih (timely_readFrom hb hread),
        Option.map_map, Function.comp_def]

end Inbox

/-! ## Any pace -/

/-- **Reading at any pace.** Let octets come in chunks, with any delays, on a connection that is
closed in the end or stays open, and let there be a limit or none. Requests are read off it one
behind the other, and it makes no difference whether this is done from chunk to chunk or octet by
octet.

As long as none is given up, they are read as if all octets were there at once, on a connection that
is closed and without a limit: with the same results and as many lines, and with the same octets
left. A request that is given up is given up at one of its lines, whose end did not come in the time
allowed, counted from when the reading of that line began. And a request is waited for in vain only
without a limit, on a connection that stays open. -/
theorem pace_invisible (limit : Option Nat) (chunks : List (Nat × List UInt8)) (stays : Bool) :
    let paced : Reader := { feed := .ofChunks chunks stays }
    let whole : Reader := { feed := .atOnce (chunks.flatMap (·.2)) false }
    (∀ n, ((Inbox.ofChunks chunks stays).readAll? limit n).map
        (fun next => (next.1, next.2.reader)) = paced.readAll? limit n) ∧
    ∀ n results r, paced.readAll? limit n = some (results, r) →
      ((∀ ms, .error (.late ms) ∉ results) → ∃ s, whole.readAll? none n = some (results, s) ∧
        s.linesRead = r.linesRead ∧ s.feed.bytes = r.feed.bytes) ∧
      (∀ ms r', r.read? limit = some (.error (.late ms), r') →
        limit = some ms ∧ ∃ e r₀, Reader.Partway limit .topic r e r₀ ∧
          r₀.nextLine? limit = some (.error (.late ms), r') ∧
          ∀ t, t ≤ r₀.now ∨ t < r₀.now + ms → ¬ r₀.Complete t) ∧
      (r.read? limit = none → limit = none ∧ stays = true) := by
  intro paced whole
  have hinbox : (Inbox.ofChunks chunks stays).reader = paced := Inbox.reader_ofChunks chunks stays
  have halike : paced.Alike whole :=
    ⟨(bytes_atOnce _ _).trans (bytes_ofChunks chunks stays).symm, rfl, rfl⟩
  have horder : InOrder paced.feed.arrivals paced.feed.closing := inOrder_ofChunks chunks stays
  refine ⟨fun n => ?_, fun n results r hread => ⟨fun hl => ?_, fun ms r' hlate => ?_, fun hn => ?_⟩⟩
  · rw [Inbox.readAll_reader (Inbox.timely_ofChunks chunks stays), hinbox]
  · obtain ⟨s, hall, hs⟩ := Reader.readAll_alike halike hread hl
    exact ⟨s, hall, hs.linesRead, hs.bytes⟩
  · obtain ⟨e, r₀, hp, hline⟩ := Reader.readFrom_late hlate
    have ho := hp.beyond.inOrder ((Reader.readAll_beyond hread).inOrder horder)
    obtain ⟨hlimit, -, hnever⟩ := (Reader.nextLine_late_iff ho).1 hline
    exact ⟨hlimit, e, r₀, hp, hline, hnever⟩
  · have hnot : ¬ (limit.isSome = true ∨ r.feed.closing.isSome = true) := fun h => by
      have hsome : (r.read? limit).isSome = true := Reader.readFrom_isSome h
      rw [hn] at hsome
      cases hsome
    rw [(Reader.readAll_beyond hread).2] at hnot
    cases limit with
    | some ms => exact absurd (.inl rfl) hnot
    | none =>
      cases stays with
      | true => exact ⟨rfl, rfl⟩
      | false => exact absurd (.inr rfl) hnot

/-- A line end is cut in two between chunks, and so is a character; a chunk ends three lines and
begins another one. Each line comes within five milliseconds, though a request takes seven. Then the
peer falls silent in the middle of a line. -/
theorem pace_invisible_cut :
    let octets := fun text : String => Text.encodeUtf8 text.toList
    let chunks := [(3, octets "TEST\r\nPEND"), (4, octets "ING\ncount\r"),
      (3, octets "\nSESSION\nincrease\nh" ++ [0xc3]), (3, 0xb6 :: octets ":1\nNODES\nLI")]
    let paced : Reader := { feed := .ofChunks chunks true }
    let whole : Reader := { feed := .atOnce (chunks.flatMap (·.2)) false }
    let results : List (Except Fault Request) :=
      [.ok .probe, .ok (.call .pendingCount), .ok (.call (.addSession ⟨"hö", 1⟩))]
    let r : Reader := ⟨⟨(octets "NODES\nLI").map ((13, ·)), none⟩, 13, 6⟩
    paced.readAll? (some 5) 3 = some (results, r) ∧ (∀ ms, .error (.late ms) ∉ results) ∧
      (∃ s, whole.readAll? none 3 = some (results, s) ∧ s.linesRead = 6 ∧
        s.feed.bytes = octets "NODES\nLI") ∧
      ∃ r', r.read? (some 5) = some (.error (.late 5), r') ∧
        ∃ e r₀, Reader.Partway (some 5) .topic r e r₀ ∧
          ∀ t, t ≤ r₀.now ∨ t < r₀.now + 5 → ¬ r₀.Complete t := by
  intro octets chunks paced whole results r
  have hread : paced.readAll? (some 5) 3 = some (results, r) := by decide +kernel
  have hlate : ∀ ms, .error (.late ms) ∉ results := by simp [results]
  have hnext : r.read? (some 5) = some (.error (.late 5), ⟨⟨[], none⟩, 18, 7⟩) := by decide +kernel
  obtain ⟨hwhole, hgiven, -⟩ := (pace_invisible (some 5) chunks true).2 3 results r hread
  obtain ⟨s, hall, hlines, hbytes⟩ := hwhole hlate
  obtain ⟨-, e, r₀, hp, -, hnever⟩ := hgiven 5 _ hnext
  exact ⟨hread, hlate, ⟨s, hall, hlines, hbytes.trans (by decide +kernel)⟩, _, hnext, e, r₀, hp,
    hnever⟩

end GridKeeper.Wire

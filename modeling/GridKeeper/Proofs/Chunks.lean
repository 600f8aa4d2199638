import GridKeeper.Proofs.Lines

/-!
# Lines out of chunks

A reader looks at a feed octet by octet, and knows when the next line is complete. What is there in
practice are chunks. An `Inbox` has one chunk at hand; it looks for a line feed in what is left of
that, keeps the octets if there is none, and waits for the next chunk, for as long as the time
allowed for the line has not passed. A line may begin in one chunk and end in another one, with a
character or a line end cut in two between them, and a chunk may hold many lines.

**Results.**
* `gather_spec`: what is gathered from chunk to chunk is the first line of all octets to come.
* `nextLine_reader`: an inbox comes to the same lines as a reader, at the same times, and has as
  much left.
* `reader_ofChunks`: so it is from the start, whichever way octets are divided into chunks.
-/
namespace GridKeeper.Wire

/-! ## Chunks and their octets -/

def tagged (t : Nat) (chunk : List UInt8) : List (Nat × UInt8) := chunk.map ((t, ·))

def flat (coming : List (Nat × List UInt8)) : List (Nat × UInt8) :=
  coming.flatMap fun c => tagged c.1 c.2

/-- The octets of a chunk up to its first line feed, and those behind it. -/
def splitLine : List UInt8 → Option (List UInt8 × List UInt8)
  | [] => none
  | b :: rest =>
    if b = 10 then some ([b], rest)
    else (splitLine rest).map fun (line, after) => (b :: line, after)

inductive Gathered where
  /-- The line is complete at the time `t`; of the chunk that came then, some octets are left. -/
  | line (bytes : List UInt8) (t : Nat) (hand : List UInt8) (coming : List (Nat × List UInt8))
  /-- The line was not complete in time; these chunks came later. -/
  | lacking (coming : List (Nat × List UInt8))

/-- Gathers a line of which `line` is there, from the chunk at hand, which came at the time
`arrived`, and from those to come. The end of the stream completes a line too. -/
def gather (soon : Nat → Bool) (closing : Option Nat) (line hand : List UInt8) (arrived : Nat)
    (coming : List (Nat × List UInt8)) : Gathered :=
  match splitLine hand with
  | some (last, after) => .line (line ++ last) arrived after coming
  | none =>
    match coming with
    | (t, chunk) :: later =>
      if soon t then gather soon closing (line ++ hand) chunk t later
      else .lacking ((t, chunk) :: later)
    | [] =>
      match closing with
      | some t => if soon t then .line (line ++ hand) t [] [] else .lacking []
      | none => .lacking []

variable {line hand chunk last after : List UInt8} {coming : List (Nat × List UInt8)}
  {arrivals : List (Nat × UInt8)} {closing : Option Nat} {soon : Nat → Bool} {arrived t : Nat}

@[simp] theorem tagged_nil (t : Nat) : tagged t [] = [] := rfl

@[simp] theorem flat_cons (t : Nat) (chunk : List UInt8) (coming : List (Nat × List UInt8)) :
    flat ((t, chunk) :: coming) = tagged t chunk ++ flat coming := rfl

@[simp] theorem octets_tagged (t : Nat) (chunk : List UInt8) :
    (tagged t chunk).map (·.2) = chunk := by
  simp [tagged, Function.comp_def]

theorem time_of_mem_tagged {a : Nat × UInt8} (h : a ∈ tagged t chunk) : a.1 = t := by
  obtain ⟨b, -, rfl⟩ := List.mem_map.1 h
  rfl

theorem mem_flat {a : Nat × UInt8} (h : a ∈ flat coming) : ∃ c ∈ coming, a.1 = c.1 := by
  obtain ⟨c, hc, ha⟩ := List.mem_flatMap.1 h
  exact ⟨c, hc, time_of_mem_tagged ha⟩

/-! ## The first line of what arrives, chunk by chunk -/

theorem spanLine_of_split (h : splitLine hand = some (last, after)) :
    spanLine (tagged t hand ++ arrivals) = (tagged t last, tagged t after ++ arrivals, true) ∧
      (tagged t last).getLast? = some (t, 10) := by
  induction hand generalizing last with
  | nil => cases h
  | cons b rest ih =>
    rw [splitLine] at h
    by_cases hb : b = 10
    · rw [if_pos hb] at h
      cases h
      subst hb
      exact ⟨rfl, rfl⟩
    · rw [if_neg hb] at h
      obtain ⟨⟨line, after'⟩, hsplit, heq⟩ := Option.map_eq_some_iff.1 h
      cases heq
      obtain ⟨hspan, hlast⟩ := ih hsplit
      have hcons : ∀ chunk, tagged t (b :: chunk) = (t, b) :: tagged t chunk := fun _ => rfl
      constructor
      · rw [hcons, List.cons_append, spanLine, if_neg hb, hspan]
        rfl
      · rw [hcons, List.getLast?_cons, hlast]
        rfl

theorem spanLine_of_unsplit (h : splitLine hand = none) :
    spanLine (tagged t hand ++ arrivals) =
      (tagged t hand ++ (spanLine arrivals).1, (spanLine arrivals).2) := by
  induction hand with
  | nil => rfl
  | cons b rest ih =>
    rw [splitLine] at h
    by_cases hb : b = 10
    · rw [if_pos hb] at h
      cases h
    · rw [if_neg hb, Option.map_eq_none_iff] at h
      have hcons : tagged t (b :: rest) = (t, b) :: tagged t rest := rfl
      rw [hcons, List.cons_append, spanLine, if_neg hb, ih h]
      rfl

def completionOf (arrivals : List (Nat × UInt8)) (closing : Option Nat) : Option Nat :=
  if (spanLine arrivals).2.2 then (spanLine arrivals).1.getLast?.map (·.1) else closing

theorem completionOf_of_unsplit (h : splitLine hand = none) :
    completionOf (tagged t hand ++ arrivals) closing = completionOf arrivals closing := by
  rw [completionOf, completionOf, spanLine_of_unsplit h]
  by_cases hw : (spanLine arrivals).2.2 = true
  · have hne : (spanLine arrivals).1 ≠ [] := by
      intro hnil
      cases arrivals with
      | nil => cases hw
      | cons b rest =>
        rw [spanLine] at hnil
        split at hnil <;> cases hnil
    simp only [hw, if_true, List.getLast?_append_of_ne_nil _ hne]
  · simp only [hw, Bool.false_eq_true, if_false]

theorem completionOf_ge (ha : ∀ a ∈ arrivals, t ≤ a.1) (hc : ∀ c ∈ closing, t ≤ c) :
    ∀ c ∈ completionOf arrivals closing, t ≤ c := by
  intro c h
  unfold completionOf at h
  split at h
  · obtain ⟨a, hlast, rfl⟩ := Option.map_eq_some_iff.1 (Option.mem_def.1 h)
    refine ha a ?_
    rw [← spanLine_append arrivals]
    exact List.mem_append_left _ (List.mem_of_getLast? hlast)
  · exact hc c h

theorem octets_spanLine_of_unsplit (h : splitLine hand = none) :
    (spanLine (tagged t hand ++ arrivals)).1.map (·.2) =
      hand ++ (spanLine arrivals).1.map (·.2) := by
  rw [spanLine_of_unsplit h, List.map_append, octets_tagged]

/-- What came in time is lost with a line that is given up. -/
theorem dropWhile_tagged (h : soon t = true) :
    (tagged t hand ++ arrivals).dropWhile (fun a => soon a.1) =
      arrivals.dropWhile fun a => soon a.1 :=
  List.dropWhile_append_of_pos fun _ ha => (congrArg soon (time_of_mem_tagged ha)).trans h

/-- What comes, octets or chunks, comes in order, and before the end of the stream. -/
def InOrder {α : Type} (coming : List (Nat × α)) (closing : Option Nat) : Prop :=
  (coming.map (·.1)).Pairwise (· ≤ ·) ∧ ∀ c ∈ closing, ∀ x ∈ coming, x.1 ≤ c

theorem InOrder.suffix {α : Type} {coming later : List (Nat × α)} (h : InOrder coming closing)
    (hs : later <:+ coming) : InOrder later closing :=
  ⟨h.1.sublist (hs.sublist.map _), fun c hc x hx => h.2 c hc x (hs.mem hx)⟩

/-- What is gathered is right: the first of the octets `all`, behind those of the line that were
there before, and with the other ones left; or else their first line is not complete in time, and
what came in time is lost. -/
def Gathered.Right (soon : Nat → Bool) (closing : Option Nat) (line : List UInt8)
    (all : List (Nat × UInt8)) (coming : List (Nat × List UInt8)) : Gathered → Prop
  | .line bytes t hand later =>
    completionOf all closing = some t ∧ soon t = true ∧
      bytes = line ++ (spanLine all).1.map (·.2) ∧
      tagged t hand ++ flat later = (spanLine all).2.1 ∧ later <:+ coming
  | .lacking later =>
    (∀ t ∈ completionOf all closing, soon t = false) ∧
      flat later = all.dropWhile (fun a => soon a.1) ∧ later <:+ coming

theorem Gathered.Right.before {g : Gathered} {later : List (Nat × List UInt8)}
    (hu : splitLine hand = none) (hin : soon arrived = true) (hs : later <:+ coming)
    (hg : g.Right soon closing (line ++ hand) arrivals later) :
    g.Right soon closing line (tagged arrived hand ++ arrivals) coming := by
  cases g with
  | line bytes t hand' later' =>
    obtain ⟨hc, ht, hb, hrest, hs'⟩ := hg
    refine ⟨(completionOf_of_unsplit hu).trans hc, ht, ?_, ?_, hs'.trans hs⟩
    · rw [hb, octets_spanLine_of_unsplit hu, List.append_assoc]
    · rw [hrest, spanLine_of_unsplit hu]
  | lacking later' =>
    obtain ⟨hc, hrest, hs'⟩ := hg
    refine ⟨?_, ?_, hs'.trans hs⟩
    · rw [completionOf_of_unsplit hu]
      exact hc
    · rw [hrest, dropWhile_tagged hin]

theorem gather_of_split (h : splitLine hand = some (last, after)) :
    gather soon closing line hand arrived coming =
      .line (line ++ last) arrived after coming := by
  rw [gather.eq_def, h]

theorem right_of_split (h : splitLine hand = some (last, after)) (hin : soon arrived = true) :
    (Gathered.line (line ++ last) arrived after coming).Right soon closing line
      (tagged arrived hand ++ flat coming) coming := by
  have ⟨hspan, hlast⟩ : spanLine (tagged arrived hand ++ flat coming) =
      (tagged arrived last, tagged arrived after ++ flat coming, true) ∧
        (tagged arrived last).getLast? = some (arrived, 10) := spanLine_of_split h
  refine ⟨?_, hin, ?_, ?_, List.suffix_refl _⟩
  · simp only [completionOf, hspan, hlast, if_true, Option.map_some]
  · rw [hspan, octets_tagged]
  · rw [hspan]

theorem right_of_end (h : splitLine hand = none) (hin : soon arrived = true) :
    (gather soon closing line hand arrived []).Right soon closing line
      (tagged arrived hand ++ flat []) [] := by
  have hend : completionOf (flat []) closing = closing := rfl
  refine Gathered.Right.before h hin (List.suffix_refl []) ?_
  rw [gather.eq_def, h]
  cases closing with
  | none => exact ⟨nofun, rfl, List.suffix_refl _⟩
  | some t =>
    by_cases ht : soon t = true
    · simp only [ht, if_true]
      exact ⟨hend, ht, (List.append_nil _).symm, rfl, List.suffix_refl _⟩
    · simp only [ht, Bool.false_eq_true, if_false]
      refine ⟨fun c hc => ?_, rfl, List.suffix_refl _⟩
      rw [hend] at hc
      cases hc
      exact Bool.eq_false_iff.2 ht

theorem right_of_late (hdown : ∀ s t, s ≤ t → soon t = true → soon s = true)
    (ho : InOrder ((t, chunk) :: coming) closing) (ht : soon t = false) :
    (Gathered.lacking ((t, chunk) :: coming)).Right soon closing line
      (flat ((t, chunk) :: coming)) ((t, chunk) :: coming) := by
  have hlate : ∀ c, t ≤ c → soon c = false := fun c hc =>
    Bool.eq_false_iff.2 fun h => Bool.eq_false_iff.1 ht (hdown t c hc h)
  have hafter : ∀ a ∈ flat ((t, chunk) :: coming), t ≤ a.1 := by
    intro a ha
    obtain ⟨c, hc, hac⟩ := mem_flat ha
    rw [hac]
    rcases List.mem_cons.1 hc with rfl | hc
    · exact Nat.le_refl _
    · exact (List.pairwise_cons.1 ho.1).1 _ (List.mem_map_of_mem hc)
  refine ⟨fun c hc => ?_, (List.dropWhile_eq_self_iff.2 fun hl => ?_).symm, List.suffix_refl _⟩
  · exact hlate c (completionOf_ge hafter (fun c hc => ho.2 c hc _ (.head _)) c hc)
  · exact Bool.eq_false_iff.1 (hlate _ (hafter _ (List.getElem_mem hl)))

/-- What is gathered from chunk to chunk is the first line of all octets there are, if it is
complete in time. -/
theorem gather_spec (hdown : ∀ s t, s ≤ t → soon t = true → soon s = true)
    (hin : soon arrived = true) (ho : InOrder coming closing) :
    (gather soon closing line hand arrived coming).Right soon closing line
      (tagged arrived hand ++ flat coming) coming := by
  induction coming generalizing line hand arrived with
  | nil =>
    cases h : splitLine hand with
    | none => exact right_of_end h hin
    | some split =>
      rw [gather_of_split h]
      exact right_of_split h hin
  | cons next later ih =>
    obtain ⟨t, chunk⟩ := next
    cases h : splitLine hand with
    | none =>
      rw [gather, h]
      by_cases ht : soon t = true
      · simp only [ht, if_true]
        exact (ih ht (ho.suffix (List.suffix_cons _ _))).before h hin (List.suffix_cons _ _)
      · simp only [ht, Bool.false_eq_true, if_false]
        exact (right_of_late hdown ho (Bool.eq_false_iff.2 ht)).before h hin (List.suffix_refl _)
    | some split =>
      rw [gather_of_split h]
      exact right_of_split h hin

/-! ## Reading from chunk to chunk -/

/-- The text on the octets of a line; there is none if the stream has ended. -/
def textOf (bytes : List UInt8) : Option (Except Text.Utf8Fault String) :=
  if bytes.isEmpty then none else some (lineText bytes)

structure Inbox where
  arrived : Nat := 0
  hand : List UInt8 := []
  /-- The chunks to come, each with its time. -/
  coming : List (Nat × List UInt8)
  /-- When the peer closes; `none` if it leaves the connection open. -/
  closing : Option Nat
  now : Nat := 0
  linesRead : Nat := 0

/-- The times of chunks of which each comes a given time after the one before it. -/
def timed (start : Nat) : List (Nat × List UInt8) → List (Nat × List UInt8)
  | [] => []
  | (delay, chunk) :: rest => (start + delay, chunk) :: timed (start + delay) rest

def lastOf (start : Nat) (chunks : List (Nat × List UInt8)) : Nat :=
  chunks.foldl (fun t c => t + c.1) start

namespace Inbox

variable {b : Inbox} {limit : Option Nat}

/-- A connection from its start, on which chunks come with delays between them. -/
def ofChunks (chunks : List (Nat × List UInt8)) (stays : Bool) : Inbox where
  coming := timed 0 chunks
  closing := if stays then none else some (lastOf 0 chunks)

/-- Whether what comes at the time `t` comes in time for a line whose reading begins now. -/
def inTime (limit : Option Nat) (b : Inbox) (t : Nat) : Bool :=
  match limit with
  | none => true
  | some ms => t ≤ b.now || t < b.now + ms

/-- Reads the next line from chunk to chunk. Without a limit, the result is `none` if the line
never comes. -/
def nextLine? (limit : Option Nat) (b : Inbox) : Option (Except Fault String × Inbox) :=
  match gather (b.inTime limit) b.closing [] b.hand b.arrived b.coming, limit with
  | .line bytes t hand coming, _ =>
    some (Reader.lineResult (textOf bytes),
      { b with arrived := t, hand, coming, now := max b.now t,
               linesRead := b.linesRead + Reader.lineCount (textOf bytes) })
  | .lacking _, none => none
  | .lacking coming, some ms =>
    some (.error (.late ms), { b with hand := [], coming, now := b.now + ms })

/-- The same connection, read octet by octet. -/
def reader (b : Inbox) : Reader where
  feed := ⟨tagged b.arrived b.hand ++ flat b.coming, b.closing⟩
  now := b.now
  linesRead := b.linesRead

/-- What is at hand has come, and the rest comes in order. -/
structure Timely (b : Inbox) : Prop where
  came : b.arrived ≤ b.now
  inOrder : InOrder b.coming b.closing

theorem inTime_mono {s t : Nat} (hst : s ≤ t) (h : b.inTime limit t = true) :
    b.inTime limit s = true := by
  cases limit with
  | none => rfl
  | some ms =>
    simp only [inTime, Bool.or_eq_true, decide_eq_true_eq] at h ⊢
    omega

theorem Timely.inTime_arrived (hb : b.Timely) : b.inTime limit b.arrived = true := by
  cases limit with
  | none => rfl
  | some ms => simp [inTime, hb.came]

end Inbox

theorem Reader.takeLine_eq (r : Reader) (t : Nat) :
    r.takeLine t =
      let text := textOf ((spanLine r.feed.arrivals).1.map (·.2))
      (lineResult text,
        { feed := ⟨(spanLine r.feed.arrivals).2.1, r.feed.closing⟩
          now := max r.now t
          linesRead := r.linesRead + lineCount text }) := by
  unfold takeLine textOf
  cases h : (spanLine r.feed.arrivals).1 with
  | nil => simp [h, lineResult, lineCount]
  | cons b line =>
    simp only [h, List.isEmpty_cons, List.map_cons, Bool.false_eq_true, if_false]
    cases lineText (b.2 :: line.map (·.2)) with
    | error fault => rfl
    | ok text => rfl

theorem Reader.nextLine_of_inTime {r : Reader} {limit : Option Nat} (hc : r.completion = some t)
    (ht : ∀ ms, limit = some ms → r.inTime ms t = true) :
    r.nextLine? limit = some (r.takeLine t) := by
  cases limit with
  | none => simp only [nextLine?, hc]
  | some ms => simp only [nextLine?, hc, ht ms rfl, if_true]

theorem Reader.nextLine_of_late {r : Reader} {ms : Nat}
    (h : ∀ t ∈ r.completion, r.inTime ms t = false) :
    r.nextLine? (some ms) = some (.error (.late ms), r.giveUp ms) := by
  cases hc : r.completion with
  | none => simp only [nextLine?, hc]
  | some t => simp only [nextLine?, hc, h t hc, Bool.false_eq_true, if_false]

namespace Inbox

variable {b b' : Inbox} {limit : Option Nat}

theorem Timely.right (hb : b.Timely) (limit : Option Nat) :
    (gather (b.inTime limit) b.closing [] b.hand b.arrived b.coming).Right (b.inTime limit)
      b.closing [] (tagged b.arrived b.hand ++ flat b.coming) b.coming :=
  gather_spec (fun _ _ => inTime_mono) hb.inTime_arrived hb.inOrder

/-- **Lines out of chunks.** A connection that is read from chunk to chunk comes to the same lines
as one that is read octet by octet, and has as much left. -/
theorem nextLine_reader (hb : b.Timely) :
    (b.nextLine? limit).map (fun next => (next.1, next.2.reader)) = b.reader.nextLine? limit := by
  have hright := hb.right limit
  have hcompletion : b.reader.completion =
      completionOf (tagged b.arrived b.hand ++ flat b.coming) b.closing := rfl
  unfold nextLine?
  cases hg : gather (b.inTime limit) b.closing [] b.hand b.arrived b.coming with
  | line bytes t hand coming =>
    rw [hg] at hright
    obtain ⟨hc, ht, hbytes, hrest, -⟩ := hright
    rw [← hcompletion] at hc
    rw [Reader.nextLine_of_inTime hc (fun ms hl => by subst hl; exact ht), Reader.takeLine_eq]
    simp only [Option.map_some, reader, hrest, hbytes, List.nil_append]
  | lacking coming =>
    rw [hg] at hright
    obtain ⟨hc, hrest, -⟩ := hright
    rw [← hcompletion] at hc
    cases limit with
    | none =>
      have hnever : b.reader.completion = none := Option.eq_none_iff_forall_not_mem.2
        fun t ht => Bool.eq_false_iff.1 (hc t ht) rfl
      simp only [Reader.nextLine?, hnever, Option.map_none]
    | some ms =>
      rw [Reader.nextLine_of_late hc]
      simp only [Option.map_some, reader, Reader.giveUp, hrest, tagged_nil, List.nil_append]
      rfl

theorem timely_nextLine (hb : b.Timely) {result : Except Fault String}
    (h : b.nextLine? limit = some (result, b')) : b'.Timely := by
  have hright := hb.right limit
  unfold nextLine? at h
  cases hg : gather (b.inTime limit) b.closing [] b.hand b.arrived b.coming with
  | line bytes t hand coming =>
    rw [hg] at h hright
    obtain ⟨-, -, -, -, hs⟩ := hright
    cases h
    exact ⟨Nat.le_max_right _ _, hb.inOrder.suffix hs⟩
  | lacking coming =>
    rw [hg] at h hright
    obtain ⟨-, -, hs⟩ := hright
    cases limit with
    | none => cases h
    | some ms =>
      cases h
      exact ⟨Nat.le_trans hb.came (Nat.le_add_right _ _), hb.inOrder.suffix hs⟩

end Inbox

/-! ## From the start of a connection -/

theorem schedule_timed (start : Nat) (chunks : List (Nat × List UInt8)) :
    Feed.schedule start chunks = (flat (timed start chunks), lastOf start chunks) := by
  induction chunks generalizing start with
  | nil => rfl
  | cons c rest ih =>
    rw [Feed.schedule, ih]
    rfl

theorem timed_ge {start : Nat} {chunks : List (Nat × List UInt8)} :
    (∀ c ∈ timed start chunks, start ≤ c.1) ∧ start ≤ lastOf start chunks := by
  induction chunks generalizing start with
  | nil => exact ⟨nofun, Nat.le_refl _⟩
  | cons c rest ih =>
    have hstart : start ≤ start + c.1 := Nat.le_add_right _ _
    refine ⟨List.forall_mem_cons.2 ⟨hstart, fun x hx => ?_⟩, ?_⟩
    · exact Nat.le_trans hstart (ih.1 x hx)
    · exact Nat.le_trans hstart ih.2

theorem timed_le_lastOf {start : Nat} {chunks : List (Nat × List UInt8)} :
    ∀ c ∈ timed start chunks, c.1 ≤ lastOf start chunks := by
  induction chunks generalizing start with
  | nil => nofun
  | cons c rest ih => exact List.forall_mem_cons.2 ⟨timed_ge.2, ih⟩

theorem timed_sorted (start : Nat) (chunks : List (Nat × List UInt8)) :
    ((timed start chunks).map (·.1)).Pairwise (· ≤ ·) := by
  induction chunks generalizing start with
  | nil => exact .nil
  | cons c rest ih =>
    refine List.pairwise_cons.2 ⟨fun t ht => ?_, ih _⟩
    obtain ⟨x, hx, rfl⟩ := List.mem_map.1 ht
    exact timed_ge.1 x hx

namespace Inbox

variable (chunks : List (Nat × List UInt8)) (stays : Bool)

theorem timely_ofChunks : (ofChunks chunks stays).Timely := by
  refine ⟨Nat.le_refl _, timed_sorted 0 chunks, fun c hc x hx => ?_⟩
  cases stays with
  | true => cases hc
  | false =>
    cases hc
    exact timed_le_lastOf x hx

/-- From the start, and whichever way octets are divided into chunks, what is read from chunk to
chunk is what is read octet by octet. -/
theorem reader_ofChunks :
    (ofChunks chunks stays).reader = { feed := .ofChunks chunks stays } := by
  simp only [reader, ofChunks, Feed.ofChunks, schedule_timed, tagged_nil, List.nil_append]

end Inbox
end GridKeeper.Wire

import GridKeeper.Proofs.Texts
import GridKeeper.Proofs.Utf8
import GridKeeper.Wire.Reader

/-!
# The lines of a feed

A reader takes lines off a feed as they come, with the time in hand. What it takes does not hang on
the time: the octets are cut behind each line feed (`cutLines`), and each line read is the next
piece.

**Results.**
* `nextLine_of_completion`: the next line is the first piece, what is left are the others, and the
  line is counted if it is UTF-8.
* `lineText_clean`, `lineText_of_clean`: the texts of lines are those without a line feed and
  without a carriage return at the end.
* `nextLine_isSome`: a line is waited for in vain only without a limit, and on an open connection.
-/
namespace GridKeeper.Wire

variable {bytes body line rest : List UInt8} {more : List (List UInt8)}
  {arrivals : List (Nat × UInt8)} {text : String} {limit : Option Nat} {t : Nat}

/-! ## Cutting octets into lines -/

/-- The octets cut into lines, each up to its line feed. What stands behind the last line feed is a
line if there is anything. -/
def cutLines : List UInt8 → List (List UInt8)
  | [] => []
  | b :: rest =>
    if b = 10 then [b] :: cutLines rest
    else match cutLines rest with
      | [] => [[b]]
      | line :: more => (b :: line) :: more

theorem flatten_cutLines (bytes : List UInt8) : (cutLines bytes).flatten = bytes := by
  induction bytes with
  | nil => rfl
  | cons b rest ih =>
    rw [cutLines]
    split
    · rw [List.flatten_cons, ih]
      rfl
    · split
      · rename_i hnil
        rw [hnil] at ih
        rw [← ih]
        rfl
      · rename_i line more hcons
        rw [hcons] at ih
        rw [← ih]
        rfl

theorem cutLines_eq_nil : cutLines bytes = [] ↔ bytes = [] := by
  constructor
  · intro h
    rw [← flatten_cutLines bytes, h]
    rfl
  · rintro rfl
    rfl

theorem cutLines_append (h : 10 ∉ body) :
    cutLines (body ++ 10 :: rest) = (body ++ [10]) :: cutLines rest := by
  induction body with
  | nil => rfl
  | cons b body ih =>
    obtain ⟨hb, hbody⟩ := not_or.1 (fun hm => h (List.mem_cons.2 hm))
    rw [List.cons_append, cutLines, if_neg (Ne.symm hb), ih hbody]
    rfl

/-- What stands before the end of the stream is a line, if it is anything. -/
theorem cutLines_of_open (h : 10 ∉ body) (hne : body ≠ []) : cutLines body = [body] := by
  induction body with
  | nil => exact absurd rfl hne
  | cons b body ih =>
    obtain ⟨hb, hbody⟩ := not_or.1 fun hm => h (List.mem_cons.2 hm)
    rw [cutLines, if_neg (Ne.symm hb)]
    cases body with
    | nil => rfl
    | cons b' body => rw [ih hbody (List.cons_ne_nil _ _)]

/-- A line feed stands at the end of a line only. -/
theorem eq_nil_of_mem_cutLines {a b : List UInt8} (hl : line ∈ cutLines bytes)
    (hs : line = a ++ 10 :: b) : b = [] := by
  induction bytes generalizing line a with
  | nil => cases hl
  | cons x bytes ih =>
    rw [cutLines] at hl
    split at hl
    · rcases List.mem_cons.1 hl with rfl | hl
      · cases a with
        | nil => exact (List.cons.inj hs).2.symm
        | cons y a => cases a <;> cases (List.cons.inj hs).2
      · exact ih hl hs
    · rename_i hx
      -- the octet before a line does not change where its line feeds stand
      have hcons : ∀ l, x :: l = a ++ 10 :: b → ∃ a', l = a' ++ 10 :: b := by
        intro l hs
        cases a with
        | nil => exact absurd (List.cons.inj hs).1 hx
        | cons y a => exact ⟨a, (List.cons.inj hs).2⟩
      split at hl
      · rw [List.mem_singleton.1 hl] at hs
        obtain ⟨a', ha'⟩ := hcons _ hs
        cases a' <;> cases ha'
      · rename_i l more hc
        rcases List.mem_cons.1 hl with rfl | hl
        · obtain ⟨a', ha'⟩ := hcons _ hs
          exact ih (hc ▸ .head _) ha'
        · exact ih (hc ▸ .tail _ hl) hs

/-! ## The first line of what arrives -/

theorem spanLine_append (arrivals : List (Nat × UInt8)) :
    (spanLine arrivals).1 ++ (spanLine arrivals).2.1 = arrivals := by
  induction arrivals with
  | nil => rfl
  | cons b rest ih =>
    rw [spanLine]
    split
    · rfl
    · exact congrArg (b :: ·) ih

/-- What is taken for a line is the first one of those that are cut. -/
theorem cutLines_arrivals (h : arrivals ≠ []) :
    cutLines (arrivals.map (·.2)) =
      (spanLine arrivals).1.map (·.2) :: cutLines ((spanLine arrivals).2.1.map (·.2)) := by
  induction arrivals with
  | nil => exact absurd rfl h
  | cons b rest ih =>
    rw [List.map_cons, cutLines, spanLine]
    by_cases hb : b.2 = 10
    · simp [hb]
    · simp only [if_neg hb]
      cases rest with
      | nil => rfl
      | cons b' rest' =>
        rw [ih (List.cons_ne_nil _ _)]
        rfl

theorem spanLine_isEmpty : (spanLine arrivals).1.isEmpty = arrivals.isEmpty := by
  cases arrivals with
  | nil => rfl
  | cons b rest =>
    rw [spanLine]
    split <;> rfl

/-- A line is whole if a line feed is to come. -/
theorem spanLine_whole : (spanLine arrivals).2.2 = true ↔ 10 ∈ arrivals.map (·.2) := by
  induction arrivals with
  | nil => simp [spanLine]
  | cons b rest ih =>
    rw [spanLine]
    by_cases hb : b.2 = 10
    · simp [hb]
    · simp only [if_neg hb, List.map_cons, List.mem_cons, Ne.symm hb, false_or]
      exact ih

/-! ## Texts of lines -/

/-- The text can stand on a line: it has no line feed, and no carriage return at its end. -/
def Clean (text : String) : Prop := '\n' ∉ text.toList ∧ text.toList.getLast? ≠ some '\r'

instance : DecidablePred Clean := fun text =>
  inferInstanceAs (Decidable ('\n' ∉ text.toList ∧ text.toList.getLast? ≠ some '\r'))

def isLineEnd (c : Char) : Bool := c = '\r' ∨ c = '\n'

theorem lineText_eq (bytes : List UInt8) : lineText bytes =
    (Text.decodeUtf8 bytes).map fun cs => String.ofList (Text.dropEndWhile isLineEnd cs) := rfl

theorem lineText_clean (hl : line ∈ cutLines bytes) (h : lineText line = .ok text) :
    Clean text := by
  rw [lineText_eq] at h
  obtain ⟨cs, hd, rfl⟩ := Text.map_eq_ok h
  obtain ⟨tail, htail, -⟩ := Text.dropEndWhile_split isLineEnd cs
  have hlast : ∀ c, (Text.dropEndWhile isLineEnd cs).getLast? = some c → isLineEnd c = false :=
    fun c => Text.getLast_dropEndWhile
  generalize Text.dropEndWhile isLineEnd cs = kept at htail hlast
  rw [Clean, String.toList_ofList]
  refine ⟨fun hm => ?_, fun he => by cases hlast _ he⟩
  obtain ⟨a, b, rfl⟩ := List.append_of_mem hm
  have hline : line = Text.encodeUtf8 a ++ 10 :: Text.encodeUtf8 (b ++ tail) := by
    rw [← Text.decodeUtf8_eq_ok_iff.1 hd, htail, List.append_assoc, Text.encodeUtf8_append]
    rfl
  have hb : b ++ tail = [] := Text.encodeUtf8_eq_nil.1 (eq_nil_of_mem_cutLines hl hline)
  rw [(List.append_eq_nil_iff.1 hb).1] at hlast
  cases hlast '\n' List.getLast?_concat

def lineOctets (text : String) : List UInt8 := Text.encodeUtf8 text.toList ++ [10]

theorem lineText_of_clean (h : Clean text) : lineText (lineOctets text) = .ok text := by
  have hlf : ([10] : List UInt8) = Text.encodeUtf8 ['\n'] := rfl
  rw [lineText_eq, lineOctets, hlf, ← Text.encodeUtf8_append, Text.decodeUtf8_eq_ok_iff.2 rfl]
  refine congrArg Except.ok ?_
  have hkeep : text.toList.reverse.dropWhile isLineEnd = text.toList.reverse := by
    cases hr : text.toList.reverse with
    | nil => rfl
    | cons c cs =>
      have hlast : text.toList.getLast? = some c := by
        rw [← List.head?_reverse, hr]
        rfl
      have hmem : c ∈ text.toList := List.mem_of_getLast? hlast
      have hc : isLineEnd c = false := by
        simp only [isLineEnd, Bool.decide_or, Bool.or_eq_false_iff, decide_eq_false_iff_not]
        exact ⟨fun e => h.2 (e ▸ hlast), fun e => h.1 (e ▸ hmem)⟩
      simp [hc]
  have hdrop : Text.dropEndWhile isLineEnd (text.toList ++ ['\n']) = text.toList := by
    rw [Text.dropEndWhile, List.reverse_append, List.reverse_singleton, List.singleton_append,
      List.dropWhile_cons_of_pos rfl, hkeep, List.reverse_reverse]
  exact (congrArg String.ofList hdrop).trans String.ofList_toList

theorem cutLines_of_clean (h : Clean text) :
    cutLines (lineOctets text ++ rest) = lineOctets text :: cutLines rest := by
  rw [lineOctets, List.append_assoc]
  exact cutLines_append fun hm => h.1 ((Text.mem_encodeUtf8 (by decide)).1 hm)

/-! ## Reading a line -/

namespace Reader

variable {r r' : Reader}

def lines (r : Reader) : List (List UInt8) := cutLines r.feed.bytes

/-- What the next line is read as, where `next` is the text on the first of the lines that are
left. -/
def lineResult : Option (Except Text.Utf8Fault String) → Except Fault String
  | none => .error .closed
  | some (.error fault) => .error (.io fault.message)
  | some (.ok text) => .ok text

/-- How many lines are counted when the next one is read. -/
def lineCount : Option (Except Text.Utf8Fault String) → Nat
  | some (.ok _) => 1
  | _ => 0

def nextText (r : Reader) : Option (Except Text.Utf8Fault String) := r.lines.head?.map lineText

theorem completion_isSome :
    r.completion.isSome = true ↔ r.feed.closing.isSome = true ∨ 10 ∈ r.feed.bytes := by
  unfold completion
  rw [Feed.bytes, ← spanLine_whole]
  by_cases hw : (spanLine r.feed.arrivals).2.2 = true
  · have hne : (spanLine r.feed.arrivals).1 ≠ [] := by
      intro hnil
      have he : r.feed.arrivals.isEmpty = true := by rw [← spanLine_isEmpty, hnil]; rfl
      rw [List.isEmpty_iff.1 he] at hw
      cases hw
    simp [hw, hne]
  · simp [hw]

theorem takeLine_spec (r : Reader) (t : Nat) : ∃ r',
    r.takeLine t = (lineResult r.nextText, r') ∧ r'.lines = r.lines.tail ∧
      r'.linesRead = r.linesRead + lineCount r.nextText ∧ r'.feed.closing = r.feed.closing ∧
      (∀ a ∈ r'.feed.arrivals, a ∈ r.feed.arrivals) ∧ r.now ≤ r'.now := by
  have hsub : ∀ a ∈ (spanLine r.feed.arrivals).2.1, a ∈ r.feed.arrivals := fun a ha => by
    rw [← spanLine_append r.feed.arrivals]
    exact List.mem_append_right _ ha
  by_cases hnil : r.feed.arrivals = []
  · have hl : r.lines = [] := cutLines_eq_nil.2 (by rw [Feed.bytes, hnil]; rfl)
    refine ⟨{ r with feed := { r.feed with arrivals := [] }, now := max r.now t }, ?_, ?_, ?_, rfl,
      nofun, Nat.le_max_left _ _⟩
    · simp [takeLine, hnil, nextText, hl, spanLine, lineResult]
    · rw [hl]
      rfl
    · rw [nextText, hl]
      rfl
  · have hl : r.lines = (spanLine r.feed.arrivals).1.map (·.2) ::
        cutLines ((spanLine r.feed.arrivals).2.1.map (·.2)) := cutLines_arrivals hnil
    have hline : (spanLine r.feed.arrivals).1.isEmpty = false := by
      rw [spanLine_isEmpty]
      simpa using hnil
    simp only [takeLine, hline, nextText, hl, List.head?_cons, List.tail_cons, Option.map_some]
    cases lineText ((spanLine r.feed.arrivals).1.map (·.2)) with
    | error fault => exact ⟨_, rfl, rfl, rfl, rfl, hsub, Nat.le_max_left _ _⟩
    | ok text => exact ⟨_, rfl, rfl, rfl, rfl, hsub, Nat.le_max_left _ _⟩

theorem nextLine_of_completion (hc : r.completion.isSome = true)
    (ht : limit = none ∨ ∀ t ∈ r.completion, t ≤ r.now) : ∃ r',
    r.nextLine? limit = some (lineResult r.nextText, r') ∧ r'.lines = r.lines.tail ∧
      r'.linesRead = r.linesRead + lineCount r.nextText ∧ r'.feed.closing = r.feed.closing ∧
      (∀ a ∈ r'.feed.arrivals, a ∈ r.feed.arrivals) ∧ r.now ≤ r'.now := by
  obtain ⟨t, hct⟩ := Option.isSome_iff_exists.1 hc
  obtain ⟨r', hr', hspec⟩ := takeLine_spec r t
  refine ⟨r', ?_, hspec⟩
  cases limit with
  | none => simp only [nextLine?, hct, hr']
  | some ms =>
    have hin : r.inTime ms t = true := by
      rcases ht with ht | ht
      · cases ht
      · simp [inTime, ht t (by rw [hct]; rfl)]
    simp only [nextLine?, hct, hr', hin, if_true]

theorem bytes_eq_flatten (r : Reader) : r.feed.bytes = r.lines.flatten :=
  (flatten_cutLines r.feed.bytes).symm

theorem completion_le (h : 10 ∈ r.feed.bytes) (ha : ∀ a ∈ r.feed.arrivals, a.1 ≤ r.now) :
    ∀ t ∈ r.completion, t ≤ r.now := by
  intro t ht
  have hw : (spanLine r.feed.arrivals).2.2 = true := spanLine_whole.2 h
  simp only [completion, hw, if_true] at ht
  obtain ⟨a, hlast, rfl⟩ := Option.map_eq_some_iff.1 (Option.mem_def.1 ht)
  refine ha a ?_
  rw [← spanLine_append r.feed.arrivals]
  exact List.mem_append_left _ (List.mem_of_getLast? hlast)

/-- The lines `next` are sure to be read: the peer closes in the end and there is no limit, or they
are whole and are there in time. -/
def Sure (limit : Option Nat) (r : Reader) (next : List (List UInt8)) : Prop :=
  (limit = none ∧ r.feed.closing.isSome = true) ∨
    ((∀ line ∈ next, 10 ∈ line) ∧ (limit = none ∨ ∀ a ∈ r.feed.arrivals, a.1 ≤ r.now))

theorem nextLine_of_sure {next : List (List UInt8)} (hl : r.lines = line :: more)
    (hs : r.Sure limit (line :: next)) : ∃ r',
    r.nextLine? limit = some (lineResult (some (lineText line)), r') ∧ r'.lines = more ∧
      r'.linesRead = r.linesRead + lineCount (some (lineText line)) ∧
      r'.feed.closing = r.feed.closing ∧ r'.Sure limit next := by
  have hcome : r.completion.isSome = true ∧ (limit = none ∨ ∀ t ∈ r.completion, t ≤ r.now) := by
    rcases hs with ⟨hlim, hclose⟩ | ⟨hwhole, htime⟩
    · exact ⟨completion_isSome.2 (.inl hclose), .inl hlim⟩
    · have hmem : 10 ∈ r.feed.bytes := by
        rw [bytes_eq_flatten, hl]
        exact List.mem_append_left _ (hwhole line (.head _))
      exact ⟨completion_isSome.2 (.inr hmem), htime.imp_right (completion_le hmem)⟩
  obtain ⟨r', hr', hlines, hcount, hclose, hsub, hnow⟩ :=
    nextLine_of_completion hcome.1 hcome.2
  rw [nextText, hl] at hr' hcount
  rw [hl] at hlines
  refine ⟨r', hr', hlines, hcount, hclose, ?_⟩
  rcases hs with ⟨hlim, hc⟩ | ⟨hwhole, htime⟩
  · exact .inl ⟨hlim, by rw [hclose]; exact hc⟩
  · refine .inr ⟨fun l hl => hwhole l (.tail _ hl), htime.imp_right fun h a ha => ?_⟩
    exact Nat.le_trans (h a (hsub a ha)) hnow

/-- What is read next is the first line that is left, or it is given up. -/
theorem nextLine_cases {result : Except Fault String} (h : r.nextLine? limit = some (result, r')) :
    (result = lineResult r.nextText ∨ ∃ ms, result = .error (.late ms)) ∧
      r'.feed.closing = r.feed.closing := by
  have hgive (ms : Nat) (h : (.error (.late ms), r.giveUp ms) = (result, r')) :
      (result = lineResult r.nextText ∨ ∃ ms, result = .error (.late ms)) ∧
        r'.feed.closing = r.feed.closing := by
    cases h
    exact ⟨.inr ⟨ms, rfl⟩, rfl⟩
  have htake (t : Nat) (h : r.takeLine t = (result, r')) :
      (result = lineResult r.nextText ∨ ∃ ms, result = .error (.late ms)) ∧
        r'.feed.closing = r.feed.closing := by
    obtain ⟨_, ht, -, -, hclose, -⟩ := takeLine_spec r t
    rw [h] at ht
    cases ht
    exact ⟨.inl rfl, hclose⟩
  unfold nextLine? at h
  split at h
  · cases h
  · exact htake _ (Option.some.inj h)
  · exact hgive _ (Option.some.inj h)
  · split at h
    · exact htake _ (Option.some.inj h)
    · exact hgive _ (Option.some.inj h)

theorem clean_of_nextLine (h : r.nextLine? limit = some (.ok text, r')) : Clean text := by
  rcases (nextLine_cases h).1 with h | ⟨_, h⟩
  · cases hn : r.nextText with
    | none => rw [hn] at h; cases h
    | some next =>
      rw [hn] at h
      obtain ⟨line, hline, rfl⟩ := Option.map_eq_some_iff.1 hn
      cases hread : lineText line with
      | error fault => rw [hread] at h; cases h
      | ok text =>
        rw [hread] at h
        cases h
        exact lineText_clean (List.mem_of_mem_head? (Option.mem_def.2 hline)) hread
  · cases h

/-- A line is waited for in vain only without a limit, and on a connection that stays open. -/
theorem nextLine_isSome (h : limit.isSome = true ∨ r.feed.closing.isSome = true) :
    (r.nextLine? limit).isSome = true := by
  cases limit with
  | none =>
    have hclose : r.feed.closing.isSome = true := h.resolve_left nofun
    obtain ⟨t, ht⟩ := Option.isSome_iff_exists.1 (completion_isSome.2 (.inl hclose))
    simp only [nextLine?, ht]
    rfl
  | some ms =>
    cases ht : r.completion with
    | none => simp only [nextLine?, ht]; rfl
    | some t => simp only [nextLine?, ht]; split <;> rfl

end Reader
end GridKeeper.Wire

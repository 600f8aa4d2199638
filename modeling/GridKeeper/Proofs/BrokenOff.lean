import GridKeeper.Proofs.Pipelining
import GridKeeper.Proofs.Refusals

/-!
# Requests that break off

A peer that is lost while it sends leaves the first octets of its request, and then the end of the
stream. Most of what may be left is refused: a command word that is cut is no other command word,
and where a line is missing the stream is at its end too early. But a line may end with the stream
as well as with a line feed. The last line of a request is taken as far as it came, and what is left
of a key or of an address may be another one.

**Results.**
* `cut_cases`: what is left of lines are the first of them, whole, and a part of the next.
* `accept_of_prefix`: what is left of a command word is that word or none.
* `accept_of_cut`: only what is left of an argument is taken for another request.
* `read_broken_iff`: which requests a broken one is taken for.
-/
namespace GridKeeper

/-- The operation on what `text` names, in place of the key or the address that it names itself. -/
def Registry.Operation.renamed? (text : String) : Operation → Option Operation
  | .addSession _ => (Node.Key.parse? text).map .addSession
  | .removeSession _ => (Node.Key.parse? text).map .removeSession
  | .sessionCount _ => (Node.Key.parse? text).map .sessionCount
  | .resetSessions _ => (Node.Key.parse? text).map .resetSessions
  | .addNode _ => some (.addNode text)
  | .removeNode _ => some (.removeNode text)
  | _ => none

namespace Wire

variable {req other : Request} {texts : List String} {line text : String} {part : List UInt8}
  {e mid : Expecting} {p p' : Progress} {n : Nat}

/-! ## What is left of lines -/

def octetsOf (texts : List String) : List UInt8 := (texts.map lineOctets).flatten

/-- What is left of lines are the first of them, whole, and a part of the next. -/
theorem cut_cases (hn : n < (octetsOf texts).length) : ∃ init line rest part,
    texts = init ++ line :: rest ∧ (octetsOf texts).take n = octetsOf init ++ part ∧
      part <+: Text.encodeUtf8 line.toList := by
  induction texts generalizing n with
  | nil => exact absurd hn (Nat.not_lt_zero n)
  | cons line texts ih =>
    have hsplit : octetsOf (line :: texts) = lineOctets line ++ octetsOf texts := rfl
    have hline : (lineOctets line).length = (Text.encodeUtf8 line.toList).length + 1 := by
      rw [lineOctets, List.length_append, List.length_singleton]
    by_cases h : n ≤ (Text.encodeUtf8 line.toList).length
    · refine ⟨[], line, texts, (Text.encodeUtf8 line.toList).take n, rfl, ?_, List.take_prefix _ _⟩
      rw [hsplit, lineOctets, List.append_assoc, List.take_append_of_le_length h]
      rfl
    · rw [hsplit, List.length_append] at hn
      obtain ⟨init, next, rest, part, rfl, htake, hpart⟩ :=
        ih (n := n - (lineOctets line).length) (by omega)
      refine ⟨line :: init, next, rest, part, rfl, ?_, hpart⟩
      rw [hsplit, List.take_append, List.take_of_length_le (by omega), htake, ← List.append_assoc]
      rfl

theorem octetsOf_append (a b : List String) : octetsOf (a ++ b) = octetsOf a ++ octetsOf b := by
  rw [octetsOf, List.map_append, List.flatten_append]
  rfl

/-- What is left of a text on a line is the text of what is left, less carriage returns. -/
theorem prefix_of_lineText (hb : part <+: Text.encodeUtf8 line.toList)
    (h : lineText part = .ok text) : text.toList <+: line.toList := by
  rw [lineText_eq] at h
  obtain ⟨cs, hd, rfl⟩ := Text.map_eq_ok h
  obtain ⟨tail, htail, -⟩ := Text.dropEndWhile_split isLineEnd cs
  rw [String.toList_ofList]
  exact List.IsPrefix.trans ⟨tail, htail.symm⟩ (Text.prefix_of_decode hb hd)

/-- A part of a line is a line of its own at the end of the stream, if it is anything. -/
theorem cutLines_of_part (hc : Clean line) (hb : part <+: Text.encodeUtf8 line.toList)
    (hne : part ≠ []) : cutLines part = [part] :=
  cutLines_of_open (fun hm => hc.1 ((Text.mem_encodeUtf8 (by decide)).1 (hb.subset hm))) hne

/-! ## What is left of a command word -/

/-- The line is its own command word, as it is sent. -/
def Bare (line : String) : Prop := wordOf line = line.toList

theorem eq_word_of_bare (hl : Bare line) {word : String} (h : Says line word) : line = word :=
  String.toList_inj.1 (hl.symm.trans h)

theorem eq_take_of_prefix {word : String} (hp : text.toList <+: word.toList) :
    ∃ i ≤ word.toList.length, text = String.ofList (word.toList.take i) :=
  ⟨_, hp.length_le, by rw [← List.prefix_iff_eq_take.1 hp, String.ofList_toList]⟩

theorem Topic.eq_of_prefix {a b : Topic} (hp : text.toList <+: a.word.toList)
    (h : Says text b.word) : b = a := by
  have hall : ∀ i ≤ a.word.toList.length,
      wordOf (String.ofList (a.word.toList.take i)) = b.word.toList → b = a := by
    cases a <;> cases b <;> decide
  obtain ⟨i, hi, rfl⟩ := eq_take_of_prefix hp
  exact hall i hi h

theorem Verb.eq_of_prefix {a b : Verb} (hp : text.toList <+: a.word.toList)
    (h : Says text b.word) : b = a := by
  have hall : ∀ i ≤ a.word.toList.length,
      wordOf (String.ofList (a.word.toList.take i)) = b.word.toList → b = a := by
    cases a <;> cases b <;> decide
  obtain ⟨i, hi, rfl⟩ := eq_take_of_prefix hp
  exact hall i hi h

namespace Expecting

/-- Whether the state takes an argument, and not a command word. -/
def isArgument : Expecting → Bool
  | key _ | address _ => true
  | _ => false

theorem accept_of_prefix (he : e.isArgument = false) (hl : Bare line)
    (hp : text.toList <+: line.toList) (h : e.accept line = .ok p) (h' : e.accept text = .ok p') :
    p' = p := by
  have htopic : ∀ {a b : Topic}, Topic.read? line = some a → Topic.read? text = some b → b = a :=
    fun ha hb => Topic.eq_of_prefix (eq_word_of_bare hl ((Topic.read_iff _).1 ha) ▸ hp)
      ((Topic.read_iff _).1 hb)
  have hverb : ∀ {a b : Verb}, Verb.read? line = some a → Verb.read? text = some b → b = a :=
    fun ha hb => Verb.eq_of_prefix (eq_word_of_bare hl ((Verb.read_iff _).1 ha) ▸ hp)
      ((Verb.read_iff _).1 hb)
  cases e with
  | key | address => cases he
  | topic =>
    simp only [accept, acceptTopic] at h h'
    cases ha : Topic.read? line with
    | none => rw [ha] at h; cases h
    | some a =>
      cases hb : Topic.read? text with
      | none => rw [hb] at h'; cases h'
      | some b =>
        obtain rfl := htopic ha hb
        rw [ha] at h
        rw [hb] at h'
        cases b <;> cases h <;> cases h' <;> rfl
  | pendingAction | sessionAction | nodesAction | resetScope =>
    simp only [accept, acceptPending, acceptSession, acceptNodes, acceptScope] at h h'
    cases ha : Verb.read? line with
    | none => rw [ha] at h; cases h
    | some a =>
      cases hb : Verb.read? text with
      | none => rw [hb] at h'; cases h'
      | some b =>
        obtain rfl := hverb ha hb
        rw [ha] at h
        rw [hb] at h'
        cases b <;> cases h <;> cases h' <;> rfl

end Expecting

/-! ## What is left of an argument -/

/-- The request for what `text` names, in place of the key or the address that it names itself. -/
def Request.renamed? (text : String) : Request → Option Request
  | .probe => none
  | .call op => (op.renamed? text).map .call

namespace Expecting

theorem accept_of_argument (he : e.isArgument = true) (h : e.accept line = .ok (.complete req)) :
    e.accept text = .ok (.complete other) ↔ req.renamed? text = some other := by
  cases e with
  | key use =>
    simp only [accept] at h ⊢
    cases hk : Node.Key.parse? line with
    | none => rw [hk] at h; cases h
    | some k =>
      rw [hk] at h
      cases h
      cases hp : Node.Key.parse? text <;> cases use <;>
        simp [Request.renamed?, Registry.Operation.renamed?, KeyUse.operation, hp]
  | address add =>
    cases h
    cases add <;> simp [accept, Request.renamed?, Registry.Operation.renamed?]
  | topic | pendingAction | sessionAction | nodesAction | resetScope => cases he

theorem not_more_of_argument (he : e.isArgument = true) : e.accept text ≠ .ok (.more mid) := by
  intro h
  cases accept_iff.1 h <;> cases he

/-- A request that a command word completes has no argument. -/
theorem renamed_of_word (he : e.isArgument = false) (h : e.accept line = .ok (.complete req)) :
    req.renamed? text = none := by
  cases accept_iff.1 h with
  | key | address => cases he
  | probe | listSessions | resetAll | listNodes => rfl
  | pendingAction _ hw =>
    simp only [pendingActions, List.mem_cons, Prod.mk.injEq, List.not_mem_nil, or_false] at hw
    rcases hw with ⟨-, rfl⟩ | ⟨-, rfl⟩ | ⟨-, rfl⟩ | ⟨-, rfl⟩ <;> rfl

end Expecting

theorem bare_topic (t : Topic) : Bare t.word := by cases t <;> exact rfl

theorem bare_verb (v : Verb) : Bare v.word := by cases v <;> exact rfl

/-- All lines of a request but an argument are command words. -/
theorem bare_lines (req : Request) : (∀ line ∈ req.lines.dropLast, Bare line) ∧
    ((∀ text, req.renamed? text = none) → ∀ line ∈ req.lines, Bare line) := by
  have hone (t : Topic) : ∀ line ∈ [t.word], Bare line :=
    List.forall_mem_singleton.2 (bare_topic t)
  have htwo (t : Topic) (v : Verb) : ∀ line ∈ [t.word, v.word], Bare line :=
    List.forall_mem_cons.2 ⟨bare_topic t, List.forall_mem_singleton.2 (bare_verb v)⟩
  have hthree (t : Topic) (v w : Verb) : ∀ line ∈ [t.word, v.word, w.word], Bare line :=
    List.forall_mem_cons.2 ⟨bare_topic t,
      List.forall_mem_cons.2 ⟨bare_verb v, List.forall_mem_singleton.2 (bare_verb w)⟩⟩
  -- some text is a key, so a request for a key can be renamed
  have hkey : Node.Key.parse? "a:1" = some (Node.Key.of "a" 1) := by decide +kernel
  cases req with
  | probe => exact ⟨nofun, fun _ => hone _⟩
  | call op =>
    cases op with
    | addPending | removePending | pendingCount | resetPending | knownHosts | listNodes =>
      exact ⟨hone _, fun _ => htwo _ _⟩
    | resetAllSessions => exact ⟨htwo _ _, fun _ => hthree _ _ _⟩
    | addSession k | removeSession k | sessionCount k =>
      exact ⟨htwo _ _, fun h => absurd (h "a:1") (by
        simp [Request.renamed?, Registry.Operation.renamed?, hkey])⟩
    | resetSessions k =>
      exact ⟨hthree _ _ _, fun h => absurd (h "a:1") (by
        simp [Request.renamed?, Registry.Operation.renamed?, hkey])⟩
    | addNode address | removeNode address => exact ⟨htwo _ _, fun h => by cases h ""⟩

/-! ## What is read of what is left -/

namespace Reader

variable {r : Reader}

theorem readFrom_of_end (hl : r.lines = []) (hc : r.feed.closing.isSome = true) :
    ∃ r', r.readFrom? none e = some (.error .closed, r') := by
  obtain ⟨r', hnext, -⟩ :=
    nextLine_of_completion (completion_isSome.2 (.inl hc)) (.inl (rfl : none = none))
  rw [nextText, hl] at hnext
  exact ⟨r', readFrom_of_error hnext⟩

/-- What the last line of a stream is read as. -/
def lastResult (e : Expecting) (part : List UInt8) : Except Fault Request :=
  match lineText part with
  | .error fault => .error (.io fault.message)
  | .ok text =>
    match e.accept text with
    | .error fault => .error fault
    | .ok (.complete req) => .ok req
    | .ok (.more _) => .error .closed

theorem readFrom_of_last (hl : r.lines = [part]) (hc : r.feed.closing.isSome = true) :
    ∃ r', r.readFrom? none e = some (lastResult e part, r') := by
  obtain ⟨r₁, hnext, hlines, -, hclose, -⟩ :=
    nextLine_of_sure hl (.inl ⟨rfl, hc⟩ : r.Sure none [part])
  rw [lastResult]
  cases ht : lineText part with
  | error fault =>
    rw [ht] at hnext
    exact ⟨r₁, readFrom_of_error hnext⟩
  | ok text =>
    rw [ht] at hnext
    dsimp only
    cases ha : e.accept text with
    | error fault => exact ⟨r₁, readFrom_of_refused hnext ha⟩
    | ok p =>
      cases p with
      | complete req => exact ⟨r₁, readFrom_of_complete hnext ha⟩
      | more next =>
        obtain ⟨r', hend⟩ := readFrom_of_end (e := next) hlines (hclose ▸ hc)
        exact ⟨r', (readFrom_of_more hnext ha).trans hend⟩

theorem lastResult_eq_ok : lastResult e part = .ok other ↔
    ∃ text, lineText part = .ok text ∧ e.accept text = .ok (.complete other) := by
  unfold lastResult
  cases lineText part with
  | error fault => simp
  | ok text =>
    cases ha : e.accept text with
    | error fault => simp [ha]
    | ok p => cases p <;> simp [ha]

end Reader

/-- Where a request is cut: lines that lead to a state, and a line that goes on from there or
completes the request. -/
theorem state_of_lines (hp : req.Plain) {init rest : List String}
    (hl : req.lines = init ++ line :: rest) : ∃ e, Expecting.Reaches .topic init e ∧
      ((rest = [] ∧ e.accept line = .ok (.complete req)) ∨
        (rest ≠ [] ∧ ∃ mid, e.accept line = .ok (.more mid))) := by
  obtain ⟨front, last, e, hsplit, hr, hlast⟩ := form_iff.1 (form_lines hp)
  rw [hl] at hsplit
  rcases List.eq_nil_or_concat rest with rfl | ⟨more, last', rfl⟩
  · obtain ⟨rfl, hline⟩ := List.append_inj' hsplit rfl
    cases hline
    exact ⟨e, hr, .inl ⟨rfl, hlast⟩⟩
  · rw [List.concat_eq_append, ← List.cons_append, ← List.append_assoc] at hsplit
    obtain ⟨rfl, -⟩ := List.append_inj' hsplit rfl
    obtain ⟨mid, hinit, hmore⟩ := Expecting.reaches_append.1 hr
    cases hmore with
    | step ha _ => exact ⟨mid, hinit, .inr ⟨by simp, _, ha⟩⟩

/-- Of the last line of a request, its first `n` octets leave `text`. -/
def Request.Leaves (req : Request) (n : Nat) (text : String) : Prop :=
  ∃ part, (octetsOf req.lines).take n = octetsOf req.lines.dropLast ++ part ∧ part ≠ [] ∧
    lineText part = .ok text

theorem leaves_iff {init rest : List String} (hl : req.lines = init ++ line :: rest)
    (ht : (octetsOf req.lines).take n = octetsOf init ++ part)
    (hp : part <+: Text.encodeUtf8 line.toList) :
    req.Leaves n text ↔ rest = [] ∧ part ≠ [] ∧ lineText part = .ok text := by
  rcases List.eq_nil_or_concat rest with rfl | ⟨more, last, rfl⟩
  · have hfront : req.lines.dropLast = init := by rw [hl, List.dropLast_concat]
    rw [Request.Leaves, ht, hfront]
    constructor
    · rintro ⟨part', hpart, hne, htext⟩
      rw [List.append_cancel_left hpart]
      exact ⟨rfl, hne, htext⟩
    · rintro ⟨-, hne, htext⟩
      exact ⟨part, rfl, hne, htext⟩
  · rw [List.concat_eq_append] at hl ⊢
    have hfront : req.lines.dropLast = init ++ line :: more := by
      rw [hl, ← List.cons_append, ← List.append_assoc, List.dropLast_concat]
    -- more than a part of the line would have come
    have hshort : ∀ part', octetsOf init ++ part ≠ octetsOf req.lines.dropLast ++ part' := by
      intro part' he
      rw [hfront, octetsOf_append, List.append_assoc] at he
      have hlen := congrArg List.length (List.append_cancel_left he)
      have hle := hp.length_le
      have hline : octetsOf (line :: more) = lineOctets line ++ octetsOf more := rfl
      simp only [hline, lineOctets, List.length_append, List.length_singleton] at hlen
      omega
    have hnone : ¬ req.Leaves n text := by
      rintro ⟨part', hpart, -⟩
      exact hshort part' (ht.symm.trans hpart)
    simp [hnone]

/-- What is left of a line is taken for another request only if it is left of the argument, and
names another one. -/
theorem accept_of_cut {init rest : List String} (hl : req.lines = init ++ line :: rest)
    (hgoes : (rest = [] ∧ e.accept line = .ok (.complete req)) ∨
      (rest ≠ [] ∧ ∃ mid, e.accept line = .ok (.more mid)))
    (hp : text.toList <+: line.toList) (hother : other ≠ req) :
    e.accept text = .ok (.complete other) ↔ rest = [] ∧ req.renamed? text = some other := by
  rcases hgoes with ⟨rfl, ha⟩ | ⟨hrest, mid, ha⟩
  · rw [eq_self, true_and]
    cases he : e.isArgument with
    | true => exact Expecting.accept_of_argument he ha
    | false =>
      have hnone : ∀ text, req.renamed? text = none := fun _ => Expecting.renamed_of_word he ha
      have hbare : Bare line := (bare_lines req).2 hnone line (by simp [hl])
      rw [hnone]
      refine iff_of_false (fun ho => ?_) (Option.some_ne_none _).symm
      cases Expecting.accept_of_prefix he hbare hp ha ho
      exact hother rfl
  · have he : e.isArgument = false := by
      by_contra h
      exact Expecting.not_more_of_argument (Bool.not_eq_false _ ▸ h) ha
    have hbare : Bare line := by
      refine (bare_lines req).1 line ?_
      rw [hl, List.dropLast_append_of_ne_nil (List.cons_ne_nil _ _),
        List.dropLast_cons_of_ne_nil hrest]
      exact List.mem_append_right _ (.head _)
    refine iff_of_false (fun ho => ?_) fun h => hrest h.1
    cases Expecting.accept_of_prefix he hbare hp ha ho

/-- What is left of a request is read to a result, and that is another request only if what is left
of the argument names another one. -/
theorem read_broken {r : Reader} (hp : req.Plain) (hn : n < (octetsOf req.lines).length)
    (hb : r.feed.bytes = (octetsOf req.lines).take n) (hc : r.feed.closing.isSome = true) :
    ∃ result r', r.read? none = some (result, r') ∧ ∀ other, other ≠ req →
      (result = .ok other ↔ ∃ text, req.Leaves n text ∧ req.renamed? text = some other) := by
  obtain ⟨init, line, rest, part, hlines, htake, hpart⟩ := cut_cases hn
  obtain ⟨e, hr, hgoes⟩ := state_of_lines hp hlines
  have hclean : ∀ t ∈ init ++ line :: rest, Clean t := hlines ▸ clean_lines hp
  have hinit : ∀ t ∈ init, Clean t := fun t ht => hclean t (List.mem_append_left _ ht)
  have hline : Clean line := hclean line (List.mem_append_right _ (.head _))
  have hl : r.lines = init.map lineOctets ++ cutLines part := by
    rw [Reader.lines, hb, htake, octetsOf, cutLines_octets hinit]
  obtain ⟨r₁, hread, hleft, -, hclose, -⟩ :=
    Reader.readFrom_of_reaches hr hl (Reader.lineText_octets hinit)
      (.inl ⟨rfl, hc⟩ : r.Sure none (init.map lineOctets ++ []))
  have hc₁ : r₁.feed.closing.isSome = true := hclose ▸ hc
  simp only [leaves_iff hlines htake hpart]
  by_cases hne : part = []
  · rw [hne] at hleft
    obtain ⟨r', hend⟩ := Reader.readFrom_of_end (e := e) hleft hc₁
    exact ⟨_, r', hread.trans hend, fun other _ => by simp [hne]⟩
  rw [cutLines_of_part hline hpart hne] at hleft
  obtain ⟨r', hlast⟩ := Reader.readFrom_of_last (e := e) hleft hc₁
  refine ⟨_, r', hread.trans hlast, fun other hother => ?_⟩
  rw [Reader.lastResult_eq_ok]
  have hcut {text : String} (ht : lineText part = .ok text) :
      e.accept text = .ok (.complete other) ↔ rest = [] ∧ req.renamed? text = some other :=
    accept_of_cut hlines hgoes (prefix_of_lineText hpart ht) hother
  constructor
  · rintro ⟨text, ht, ho⟩
    obtain ⟨hrest, hnamed⟩ := (hcut ht).1 ho
    exact ⟨text, ⟨hrest, hne, ht⟩, hnamed⟩
  · rintro ⟨text, ⟨hrest, -, ht⟩, hnamed⟩
    exact ⟨text, ht, (hcut ht).2 ⟨hrest, hnamed⟩⟩

end Wire

namespace Exchange

open Interleaving Wire

/-- **Requests that break off.** Of a request that is read back as it was sent, the first octets
come, but not all, and the stream ends. Then a fault is read, or the request itself, or another one;
and another one is read if and only if the request names a node and the break is in its last line,
and what is left there names a node as well, a key by a key and an address by any text. A connection
that is served carries out what was read, if it gets the lock; so what it does to the registry, if
it does anything, is the operation that was meant, or that operation on what is named by what is
left. -/
theorem read_broken_iff {req : Request} {n : Nat} {feed : Feed}
    (hr : ∃ r', ({ feed := .atOnce (Text.encodeUtf8 req.encode.toList) false } : Reader).read?
      none = some (.ok req, r'))
    (hn : n < (Text.encodeUtf8 req.encode.toList).length)
    (hb : feed.bytes = (Text.encodeUtf8 req.encode.toList).take n)
    (hc : feed.closing.isSome = true) :
    ∃ result, request? none feed = some result ∧
      (∀ other, other ≠ req →
        (result = .ok other ↔ ∃ text, req.Leaves n text ∧ req.renamed? text = some other)) ∧
      ∀ (attempt : Except Lock.Failure Unit) (r : Registry),
        ∃ e, serve? none attempt feed r = some e ∧
          (∀ op, attempt = .ok () → result = .ok (.call op) → e.registry = r.after op) ∧
          (e.registry ≠ r → ∃ op, e.registry = r.after op ∧
            (req = .call op ∨ ∃ text, req.Leaves n text ∧ req.renamed? text = some (.call op))) := by
  have hp : req.Plain := readable_iff.1 ⟨none, _, hr⟩
  rw [encode_octets] at hn hb
  obtain ⟨result, r', hread, hother⟩ := read_broken (r := ⟨feed, 0, 0⟩) hp hn hb hc
  have hreq : request? none feed = some result := by rw [request?, hread]; rfl
  refine ⟨result, hreq, hother, fun attempt r => ?_⟩
  obtain ⟨e, he⟩ : ∃ e, serve? none attempt feed r = some e :=
    Option.isSome_iff_exists.1 (serve_isSome (.inr hc))
  refine ⟨e, he, fun op ha hresult => ?_, fun hne => ?_⟩
  · subst ha hresult
    cases serves_of_serve he with
    | probe h | misread h => rw [hreq] at h; cases h
    | locked h ha => cases ha
    | declined h | done h => rw [hreq] at h; cases h; rfl
  · rcases (serves_of_serve he).registry_cases with h | ⟨op, h, -, hafter⟩
    · exact absurd h hne
    · rw [hreq, Option.some.injEq] at h
      refine ⟨op, hafter, ?_⟩
      by_cases hsame : req = .call op
      · exact .inl hsame
      · exact .inr ((hother _ (Ne.symm hsame)).1 h)

/-- Of a request for a session on `grid.test:4444`, what is left before the last two digits is taken
for a request for a session on another node, and that one is counted. -/
theorem read_broken_iff_short_port :
    let req : Request := .call (.addSession ⟨"grid.test", 4444⟩)
    let octets := Text.encodeUtf8 req.encode.toList
    let feed : Feed := .atOnce (octets.take 29) false
    (∃ r', ({ feed := .atOnce octets false } : Reader).read? none = some (.ok req, r')) ∧
      29 < octets.length ∧ feed.bytes = octets.take 29 ∧ feed.closing.isSome = true ∧
      request? none feed = some (.ok (.call (.addSession ⟨"grid.test", 44⟩))) ∧
      ∃ e, serve? none (.ok ()) feed {} = some e ∧
        e.registry = ({} : Registry).after (.addSession ⟨"grid.test", 44⟩) := by
  intro req octets feed
  have hkey : Node.Key.parse? "grid.test:4444" = some ⟨"grid.test", 4444⟩ := by decide +kernel
  have hplain : req.Plain := Request.plain_of_key rfl rfl (Node.Key.legible_of_parse hkey)
  have hback : ∃ r', ({ feed := .atOnce octets false } : Reader).read? none =
      some (.ok req, r') := by
    obtain ⟨r', hread, -⟩ := Reader.read_of_form (r := { feed := .atOnce octets false })
      (form_lines hplain) (clean_lines hplain)
      (lines_of_bytes hplain (by rw [bytes_atOnce, List.append_nil])) (.inl rfl)
    exact ⟨r', hread⟩
  have hlen : 29 < octets.length := by decide +kernel
  have hbytes : feed.bytes = octets.take 29 := bytes_atOnce _ _
  obtain ⟨result, hread, hother, hserve⟩ := read_broken_iff hback hlen hbytes rfl
  have hleft : req.Leaves 29 "grid.test:44" :=
    ⟨Text.encodeUtf8 "grid.test:44".toList, by decide +kernel, by decide +kernel, by decide +kernel⟩
  have hresult : result = .ok (.call (.addSession ⟨"grid.test", 44⟩)) :=
    (hother _ (by decide +kernel)).2 ⟨_, hleft, by decide +kernel⟩
  obtain ⟨e, he, hop, -⟩ := hserve (.ok ()) {}
  exact ⟨hback, hlen, hbytes, rfl, by rw [hread, hresult], e, he, hop _ rfl hresult⟩

end Exchange
end GridKeeper

import GridKeeper.Proofs.Provenance
import GridKeeper.Proofs.TextLines

/-!
# Replies in two lines

A reply is framed by line feeds alone, and its message repeats what others said: a line of the
client, an address, hosts, the cause of a failure. The frame holds because no line feed gets into
any of these. What a client says was read off a line; hosts come from texts without white space; and
the words around them are ours (`OneLine`).

A reply of success is sent where the lock is still held, and one of error at the very end. Each way
of serving a connection does one of these once, or none if the request was a test.

**Results.**
* `decode_encode`: what a client makes of a reply is the first line of its message, less the white
  space at the end.
* `oneLine_of_misread`, `oneLine_of_answer`: the messages stay on one line.
* `served_framed`: what is sent over a connection is nothing, or one reply on two lines.
-/
namespace GridKeeper

/-! ## Texts on one line -/

/-- The text has no line feed. -/
def OneLine (text : String) : Prop := '\n' ∉ text.toList

instance : DecidablePred OneLine := fun text => inferInstanceAs (Decidable ('\n' ∉ text.toList))

theorem OneLine.append {a b : String} (ha : OneLine a) (hb : OneLine b) : OneLine (a ++ b) := by
  rw [OneLine, String.toList_append, List.mem_append, not_or]
  exact ⟨ha, hb⟩

theorem oneLine_of_solid {text : String} (h : ∀ c ∈ text.toList, Text.isBlank c = false) :
    OneLine text := (Wire.clean_of_solid h).1

theorem oneLine_toString (n : Nat) : OneLine (toString n) :=
  oneLine_of_solid (Text.solid_toString n)

theorem oneLine_quoted (text : String) : OneLine (Text.quoted text) := by
  have hhex : ∀ c : Char, '\n' ∉ Text.hex c.toNat := fun c hm => by
    have hdigit : ∀ d < 16, '\n' ≠ d.digitChar := by decide
    obtain ⟨d, hd, he⟩ := Url.mem_hex hm
    exact hdigit d hd he
  have hchar : ∀ c, '\n' ∉ Text.quoteChar c := by
    intro c
    unfold Text.quoteChar
    split <;> try decide
    rename_i hlf _ _
    split
    · exact fun hm => hlf (List.mem_singleton.1 hm).symm
    · simp [hhex]
  simpa [OneLine, Text.quoted] using fun c _ => hchar c

theorem oneLine_joined {sep : String} (hs : OneLine sep) :
    ∀ {texts : List String}, (∀ t ∈ texts, OneLine t) → OneLine (Text.joined sep texts)
  | [], _ => nofun
  | [t], h => h t (.head _)
  | t :: u :: rest, h => by
    have hrest : ∀ v ∈ u :: rest, OneLine v := fun v hv => h v (.tail _ hv)
    exact ((h t (.head _)).append hs).append (oneLine_joined hs hrest)

/-! ## Replies as a client reads them -/

namespace Wire

def Reply.mapMessage (f : String → String) : Reply → Reply
  | .success m => .success (f m)
  | .error m => .error (f m)

theorem Reply.oneLine_status (r : Reply) : OneLine r.status := by
  cases r with
  | success m => exact (by decide : OneLine successWord)
  | error m => exact (by decide : OneLine errorWord)

theorem Reply.toList_encode (r : Reply) :
    r.encode.toList = r.status.toList ++ '\n' :: (r.message.toList ++ ['\n']) := by
  simp [encode]

theorem Reply.decode_status (r : Reply) (cs : List Char) :
    Reply.decode (String.ofList (r.status.toList ++ '\n' :: cs)) =
      .ok (r.mapMessage fun _ => String.ofList (Text.trimEnd ((Text.lines cs).headD []))) := by
  have hsuccess : Text.trim (Text.dropReturn successWord.toList) = successWord.toList := by decide
  have herror : Text.trim (Text.dropReturn errorWord.toList) = errorWord.toList := by decide
  rw [Reply.decode, String.toList_ofList, Text.lines_append r.oneLine_status]
  simp only [List.headD_cons, List.drop_succ_cons, List.drop_zero]
  cases r with
  | success m =>
    simp only [status, hsuccess, mapMessage]
    rw [if_pos (by decide)]
  | error m =>
    simp only [status, herror, mapMessage]
    rw [if_neg (by decide), if_pos (by decide)]

/-- **What is read of a reply.** -/
theorem Reply.decode_encode (r : Reply) : Reply.decode r.encode =
    .ok (r.mapMessage fun m => String.ofList (Text.trimEnd (Text.firstLine m.toList))) := by
  obtain ⟨rest, hrest⟩ := Text.firstLine_split r.message.toList
  have hline : Text.trimEnd ((Text.lines (r.message.toList ++ ['\n'])).headD []) =
      Text.trimEnd (Text.firstLine r.message.toList) := by
    rw [hrest, Text.lines_append (Text.not_mem_firstLine _), List.headD_cons,
      Text.trimEnd_dropReturn]
  have hread := r.decode_status (r.message.toList ++ ['\n'])
  rw [hline, ← toList_encode, String.ofList_toList] at hread
  cases r <;> exact hread

def Reply.trimmed (r : Reply) : Reply := r.mapMessage fun m => String.ofList (Text.trimEnd m.toList)

theorem Reply.decode_of_oneLine {r : Reply} (h : OneLine r.message) :
    Reply.decode r.encode = .ok r.trimmed := by
  rw [Reply.decode_encode]
  cases r with
  | success m | error m =>
    have hone : '\n' ∉ m.toList := h
    simp only [trimmed, mapMessage, Text.firstLine_of_not_mem hone]

theorem Reply.octets_encode (r : Reply) :
    Text.encodeUtf8 r.encode.toList = lineOctets r.status ++ lineOctets r.message := by
  have hlf : Text.encodeUtf8 ['\n'] = [10] := by decide
  rw [toList_encode, List.append_cons, Text.encodeUtf8_append, Text.encodeUtf8_append,
    Text.encodeUtf8_append, hlf]
  rfl

/-- A reply whose message stays on one line is two lines. -/
theorem Reply.cutLines_encode {r : Reply} (h : OneLine r.message) :
    cutLines (Text.encodeUtf8 r.encode.toList) = [lineOctets r.status, lineOctets r.message] := by
  have hcut : ∀ {text : String} {rest : List UInt8}, OneLine text →
      cutLines (lineOctets text ++ rest) = lineOctets text :: cutLines rest := by
    intro text rest ht
    rw [lineOctets, List.append_assoc]
    exact cutLines_append fun hm => ht ((Text.mem_encodeUtf8 (by decide)).1 hm)
  have hlast := @hcut r.message [] h
  rw [List.append_nil] at hlast
  rw [octets_encode, hcut r.oneLine_status, hlast]
  rfl

/-! ## What is said when a request cannot be read -/

variable {limit : Option Nat} {r r' : Reader} {e : Expecting} {fault : Fault}

theorem oneLine_of_utf8 (f : Text.Utf8Fault) : OneLine f.message := by
  unfold Text.Utf8Fault.message
  split
  · have hlead : OneLine "invalid utf-8 sequence of " := by decide
    have hmiddle : OneLine " bytes from index " := by decide
    exact ((hlead.append (oneLine_toString _)).append hmiddle).append (oneLine_toString _)
  · have hlead : OneLine "incomplete utf-8 byte sequence from index " := by decide
    exact hlead.append (oneLine_toString _)

def Fault.repeated : Fault → List String
  | unsupportedCommand line | unsupportedReset line | invalidKey line => [line]
  | unsupportedAction topic line => [topic, line]
  | io cause => [cause]
  | closed | late _ | malformedReply _ => []

theorem Fault.oneLine_message {f : Fault} (h : ∀ text ∈ f.repeated, OneLine text) :
    OneLine f.message := by
  cases f with
  | unsupportedCommand line =>
    have hlead : OneLine "Unsupported command:  " := by decide
    exact hlead.append (h line (.head _))
  | unsupportedAction topic line =>
    have hlead : OneLine "Unsupported level 2 command for " := by decide
    have hmiddle : OneLine ":  " := by decide
    exact ((hlead.append (h topic (.head _))).append hmiddle).append (h line (.tail _ (.head _)))
  | unsupportedReset line =>
    have hlead : OneLine "Unsupported reset command:  " := by decide
    exact hlead.append (h line (.head _))
  | invalidKey line =>
    have hlead : OneLine "Invalid node key:  " := by decide
    exact hlead.append (h line (.head _))
  | closed => exact (by decide : OneLine "Connection closed before the request was complete")
  | late limit =>
    have hlead : OneLine "No request line received within " := by decide
    have htail : OneLine " ms" := by decide
    exact (hlead.append (oneLine_toString limit)).append htail
  | malformedReply raw =>
    have hlead : OneLine "Malformed reply: " := by decide
    exact hlead.append (oneLine_quoted raw)
  | io cause =>
    have hlead : OneLine "I/O error: " := by decide
    exact hlead.append (h cause (.head _))

theorem oneLine_of_nextLine (h : r.nextLine? limit = some (.error fault, r')) :
    OneLine fault.message := by
  rcases (Reader.nextLine_cases h).1 with h | ⟨ms, h⟩
  · cases hn : r.nextText with
    | none =>
      rw [hn] at h
      cases h
      exact Fault.oneLine_message nofun
    | some next =>
      rw [hn] at h
      cases next with
      | ok text => cases h
      | error f =>
        cases h
        exact Fault.oneLine_message (List.forall_mem_singleton.2 (oneLine_of_utf8 f))
  · cases h
    exact Fault.oneLine_message nofun

theorem oneLine_of_refused {line : String} (hl : OneLine line) (h : e.accept line = .error fault) :
    OneLine fault.message := by
  have htopic (t : Topic) : OneLine t.word := by cases t <;> decide
  refine Fault.oneLine_message fun text ht => ?_
  cases e <;> simp only [Expecting.accept, Expecting.acceptTopic, Expecting.acceptPending,
    Expecting.acceptSession, Expecting.acceptNodes, Expecting.acceptScope] at h <;>
    split at h <;> cases h <;>
    simp only [Fault.repeated, List.mem_cons, List.not_mem_nil, or_false] at ht <;> grind

theorem oneLine_of_readFrom (h : r.readFrom? limit e = some (.error fault, r')) :
    OneLine fault.message := by
  fun_induction Reader.readFrom? limit e r with
  | case1 | case4 => cases h
  | case2 e r f r₁ hn =>
    cases h
    exact oneLine_of_nextLine hn
  | case3 e r line r₁ hn f ha =>
    cases h
    exact oneLine_of_refused (Reader.clean_of_nextLine hn).1 ha
  | case5 e r line r₁ hn next ha hd ih => exact ih h

end Wire

theorem oneLine_of_misread {limit : Option Nat} {feed : Wire.Feed} {fault : Wire.Fault}
    (h : Interleaving.request? limit feed = some (.error fault)) : OneLine fault.message := by
  obtain ⟨⟨result, r'⟩, hread, rfl⟩ := Option.map_eq_some_iff.1 h
  exact Wire.oneLine_of_readFrom hread

/-! ## What the registry answers -/

namespace Registry

variable {r : Registry} {op : Operation}

theorem oneLine_hosts (h : r.Genuine) : OneLine (hostsLine r.ledger.hosts) := by
  refine oneLine_joined (by decide) fun t ht => ?_
  obtain ⟨k, hk, rfl⟩ := List.mem_map.1 ht
  exact oneLine_of_solid (h.hosts k hk).solid_text

theorem oneLine_nodes (h : r.Genuine) : OneLine (Wire.Message.nodesLine r.directory.texts) := by
  unfold Wire.Message.nodesLine
  split
  · decide
  · refine oneLine_joined (by decide) fun t ht => ?_
    obtain ⟨n, hn, rfl⟩ := List.mem_map.1 ht
    exact oneLine_of_solid (h.nodes n hn).solid_text

/-- What became of a node is said on one line if its address is on one. -/
theorem oneLine_of_change {address : String} (h : OneLine address) (outcome : Directory.Outcome) :
    OneLine (Wire.Message.reply (.added address outcome)).message ∧
      OneLine (Wire.Message.reply (.removed address outcome)).message := by
  have hlead : OneLine Wire.Message.added ∧ OneLine Wire.Message.duplicate ∧
      OneLine Wire.Message.removed ∧ OneLine Wire.Message.notFound ∧
      OneLine Wire.Message.invalid := by decide
  obtain ⟨hadded, hduplicate, hremoved, hnotFound, hinvalid⟩ := hlead
  cases outcome with
  | invalid => exact ⟨hinvalid.append h, hinvalid.append h⟩
  | unchanged => exact ⟨hduplicate.append h, hnotFound.append h⟩
  | applied => exact ⟨hadded.append h, hremoved.append h⟩

theorem oneLine_addNode (r : Registry) {address : String} (h : OneLine address) :
    OneLine (Wire.Message.reply (r.apply (.addNode address)).1).message := by
  rw [apply_addNode]
  exact (oneLine_of_change h _).1

theorem oneLine_removeNode (r : Registry) {address : String} (h : OneLine address) :
    OneLine (Wire.Message.reply (r.apply (.removeNode address)).1).message := by
  rw [apply_removeNode]
  exact (oneLine_of_change h _).2

/-- The answer to an operation on a genuine registry is said on one line, if the address is. -/
theorem oneLine_of_answer (h : r.Genuine)
    (ha : ∀ address ∈ (Wire.Request.call op).address?, OneLine address) :
    OneLine (Wire.Message.reply (r.apply op).1).message := by
  cases op with
  | addPending | removePending | pendingCount | addSession | removeSession | sessionCount =>
    exact oneLine_toString _
  | resetPending | resetSessions | resetAllSessions => exact oneLine_toString 0
  | knownHosts => exact oneLine_hosts h
  | listNodes =>
    have hlead : OneLine Wire.Message.allNodes := by decide
    exact hlead.append (oneLine_nodes h)
  | addNode address => exact oneLine_addNode r (ha address rfl)
  | removeNode address => exact oneLine_removeNode r (ha address rfl)

end Registry

/-! ## Replies that are sent -/

namespace Exchange

variable {limit : Option Nat} {attempt : Except Lock.Failure Unit} {feed : Wire.Feed}
  {r : Registry} {e : Exchange}

theorem Serves.reply_eq_none (h : Serves limit attempt feed r e) :
    e.reply = none ↔ Interleaving.request? limit feed = some (.ok .probe) := by
  cases h with
  | probe h => exact ⟨fun _ => h, fun _ => rfl⟩
  | misread h | locked h | declined h | done h => rw [h]; exact ⟨nofun, nofun⟩

theorem Serves.written (h : Serves limit attempt feed r e) :
    e.written true = (e.reply.map Wire.Reply.encode).getD "" := by
  rw [written_eq_carryOut e true r, h.carryOut]
  rfl

/-- No line feed gets into the message of a reply. -/
theorem Serves.oneLine (h : Serves limit attempt feed r e) (hr : r.Genuine)
    (ha : ∀ failure, attempt = .error failure → OneLine failure.message) :
    ∀ reply ∈ e.reply, OneLine reply.message := by
  have hanswer : ∀ {op : Registry.Operation},
      Interleaving.request? limit feed = some (.ok (.call op)) →
      OneLine (Wire.Message.reply (r.apply op).1).message := fun h =>
    Registry.oneLine_of_answer hr fun address hm => ((Registry.plain_of_request h).2 address hm).1
  intro reply hreply
  cases h with
  | probe => cases hreply
  | misread h => exact Option.some.inj hreply ▸ oneLine_of_misread h
  | locked _ hlock => exact Option.some.inj hreply ▸ ha _ hlock
  | declined h _ hm | done h _ hm => exact Option.some.inj hreply ▸ hm ▸ hanswer h

/-- **What is sent over a connection is nothing, or one reply on two lines.** A connection whose
peer closes in the end, or whose lines have to come in time, is served in the end. Nothing is sent
if the request was a test, and only then. Otherwise one reply is sent, and what is written are its
two lines and no more. It is read as a reply of the same kind, with the same message less the white
space at its end. -/
theorem served_framed (limit : Option Nat) (attempt : Except Lock.Failure Unit) (feed : Wire.Feed)
    (r : Registry) (hr : r.Reached)
    (ha : ∀ failure, attempt = .error failure → OneLine failure.message)
    (hend : limit.isSome = true ∨ feed.closing.isSome = true) :
    ∃ e, serve? limit attempt feed r = some e ∧
      (e.reply = none ↔ Interleaving.request? limit feed = some (.ok .probe)) ∧
      (e.reply = none → Activity.sent e.activities = [] ∧ e.written true = "") ∧
      ∀ reply, e.reply = some reply →
        Activity.sent e.activities = [reply] ∧ e.written true = reply.encode ∧
        Wire.cutLines (Text.encodeUtf8 (e.written true).toList) =
          [Wire.lineOctets reply.status, Wire.lineOctets reply.message] ∧
        Wire.Reply.decode (e.written true) = .ok reply.trimmed := by
  obtain ⟨e, he⟩ : ∃ e, serve? limit attempt feed r = some e :=
    Option.isSome_iff_exists.1 (serve_isSome hend)
  have hs := serves_of_serve he
  refine ⟨e, he, hs.reply_eq_none, fun hnone => ?_, fun reply hreply => ?_⟩
  · rw [hs.sent, hs.written, hnone]
    exact ⟨rfl, rfl⟩
  · have hone : OneLine reply.message :=
      hs.oneLine (Registry.genuine_of_reached hr) ha reply hreply
    rw [hs.sent, hs.written, hreply]
    exact ⟨rfl, rfl, Wire.Reply.cutLines_encode hone, Wire.Reply.decode_of_oneLine hone⟩

/-- The white space behind an address that is none is sent back, and is not read back. -/
theorem served_framed_blank :
    let r := ({} : Registry).after (.addNode "http://b:80")
    let feed := closedFeed "nodes\nincrease\nnowhere \r\r\n"
    r.Reached ∧ feed.closing.isSome = true ∧
      ∃ e, serve? none (.ok ()) feed r = some e ∧ e.reply = some (.error "Invalid Node:  nowhere ") ∧
        Activity.sent e.activities = [.error "Invalid Node:  nowhere "] ∧
        Wire.Reply.decode (e.written true) = .ok (.error "Invalid Node:  nowhere") := by
  intro r feed
  have hr : r.Reached := .added .empty _
  obtain ⟨e, he, -, -, hall⟩ := served_framed none (.ok ()) feed r hr nofun (.inr rfl)
  have hreply : (serve? none (.ok ()) feed r).map (·.reply) =
      some (some (.error "Invalid Node:  nowhere ")) := by decide +kernel
  rw [he, Option.map_some, Option.some.injEq] at hreply
  obtain ⟨hsent, -, -, hdecode⟩ := hall _ hreply
  refine ⟨hr, rfl, e, he, hreply, hsent, hdecode.trans ?_⟩
  decide

end Exchange
end GridKeeper

import GridKeeper.Proofs.BrokenOff
import GridKeeper.Proofs.Calls

/-!
# Replies that are cut off

A client reads two lines and takes what stands before the end of the stream for a line, though no
line feed has come. A reply of which the end is missing is noticed only where the status is not
whole. Behind that, what is left of the message is taken for the message, and if nothing is left,
the message is taken to be empty.

So a call can bring what the server did not answer: a number without its last digits, a list without
its last items, or with a part of one, or with a comma. What it says of a change to the directory is
right, if it says anything, because the words that tell one from the other stand at the beginning;
and a reply that refuses is never taken for one that does not.

**Results.**
* `readReply_cut`: what the first octets of a reply are read as.
* `readNumber_longer`, `readChange_longer`, `left_of_hosts`, `left_of_nodes`: what the
  beginning of a message is taken for.
* `cut_reply_iff`: what is read of a reply that is cut off, and what calls bring of it.
-/
namespace GridKeeper

namespace Wire

variable {reply : Reply} {n : Nat} {begun : String}

def Reply.withMessage (reply : Reply) (m : String) : Reply := reply.mapMessage fun _ => m

/-- The first `n` octets of the reply have the whole status, and `begun` is what is left of the
message. -/
def Reply.Leaves (reply : Reply) (n : Nat) (begun : String) : Prop :=
  reply.status.length ≤ n ∧ Text.encodeUtf8 begun.toList =
    (Text.encodeUtf8 reply.message.toList).take (n - (reply.status.length + 1))

theorem Reply.Leaves.prefix (h : reply.Leaves n begun) :
    begun.toList <+: reply.message.toList :=
  Text.prefix_of_decode (List.take_prefix _ _) (Text.decodeUtf8_eq_ok_iff.2 h.2)

theorem Reply.Leaves.unique {text : String} (h : reply.Leaves n begun) (h' : reply.Leaves n text) :
    text = begun := by
  have htext := Text.decodeUtf8_eq_ok_iff.2 (h'.2.trans h.2.symm)
  rw [Text.decodeUtf8_eq_ok_iff.2 rfl] at htext
  exact (String.toList_inj.1 (Except.ok.inj htext)).symm

end Wire

namespace Client

open Wire

variable {reply other : Reply} {n : Nat} {part : List UInt8} {begun : String}

/-! ## Reading what is left -/

theorem octets_status (reply : Reply) :
    (Text.encodeUtf8 reply.status.toList).length = reply.status.length := by
  cases reply with
  | success m =>
    exact (by decide : (Text.encodeUtf8 Reply.successWord.toList).length = Reply.successWord.length)
  | error m =>
    exact (by decide : (Text.encodeUtf8 Reply.errorWord.toList).length = Reply.errorWord.length)

/-- A status that is cut off is malformed, and a bare one is read as a reply without a message. -/
theorem readReply_status (reply : Reply) : ∀ n ≤ reply.status.length,
    readReply ((Text.encodeUtf8 reply.status.toList).take n) =
      if n < reply.status.length then
        .error (.malformed (String.ofList (reply.status.toList.take n)))
      else .ok (reply.withMessage "") := by
  cases reply with
  | success m =>
    have hlen : (Reply.success m).status.length = 7 := (by decide : Reply.successWord.length = 7)
    rw [hlen]
    exact (by decide +kernel : ∀ n ≤ 7,
      readReply ((Text.encodeUtf8 Reply.successWord.toList).take n) =
        if n < 7 then .error (.malformed (String.ofList (Reply.successWord.toList.take n)))
        else .ok (.success ""))
  | error m =>
    have hlen : (Reply.error m).status.length = 5 := (by decide : Reply.errorWord.length = 5)
    rw [hlen]
    exact (by decide +kernel : ∀ n ≤ 5,
      readReply ((Text.encodeUtf8 Reply.errorWord.toList).take n) =
        if n < 5 then .error (.malformed (String.ofList (Reply.errorWord.toList.take n)))
        else .ok (.error ""))

/-- What stands behind the line of the status, up to the end of the stream, is the message. -/
theorem readReply_part (reply : Reply) (hp : 10 ∉ part) :
    readReply (lineOctets reply.status ++ part) =
      match Text.decodeUtf8From (lineOctets reply.status).length .between part with
      | .ok cs => .ok (reply.withMessage (String.ofList cs)).trimmed
      | .error f => .error (.io f.message) := by
  have hstatus : lineOctets reply.status = Text.encodeUtf8 (reply.status.toList ++ ['\n']) :=
    Text.decodeUtf8_eq_ok_iff.1 (decode_status reply) |>.symm
  have hcut : cutLines (lineOctets reply.status ++ part) =
      lineOctets reply.status :: cutLines part := by
    rw [lineOctets, List.append_assoc]
    exact cutLines_append fun hm => reply.oneLine_status ((Text.mem_encodeUtf8 (by decide)).1 hm)
  have hlast : (cutLines part).headD [] = part := by
    by_cases hne : part = []
    · rw [hne]
      rfl
    · rw [cutLines_of_open hp hne]
      rfl
  have htext : Text.decodeUtf8 (lineOctets reply.status ++ part) =
      (Text.decodeUtf8From (lineOctets reply.status).length .between part).map
        (reply.status.toList ++ ['\n'] ++ ·) := by
    rw [hstatus, Text.decodeUtf8, Text.decode_append, Nat.zero_add]
  rw [readReply, twoLines_eq, hcut, List.headD_cons, List.tail_cons, hlast, decode_status, htext]
  cases hd : Text.decodeUtf8From (lineOctets reply.status).length .between part with
  | error f => rfl
  | ok cs =>
    have hopen : '\n' ∉ cs := fun hm => hp (by
      rw [← Text.encode_of_decode hd]
      exact (Text.mem_encodeUtf8 (by decide)).2 hm)
    have hread := reply.decode_status cs
    have htrim : (reply.withMessage (String.ofList cs)).trimmed =
        reply.mapMessage fun _ => String.ofList (Text.trimEnd cs) := by
      cases reply <;> simp only [Reply.withMessage, Reply.trimmed, Reply.mapMessage,
        String.toList_ofList]
    rw [Text.headD_lines hopen, ← htrim, List.append_cons] at hread
    simp only [Except.map, Except.bind, Except.mapError, bind, hread]

/-- What can be read of a reply when only its first `n` octets come. -/
inductive ReadCut (reply : Reply) (n : Nat) : Except Fault Reply → Prop
  | malformed (h : n < reply.status.length) :
      ReadCut reply n (.error (.malformed (String.ofList (reply.status.toList.take n))))
  | shorter {begun : String} (h : reply.Leaves n begun) :
      ReadCut reply n (.ok (reply.withMessage begun).trimmed)
  /-- What is left ends within a character. -/
  | garbled {cause : String} (hn : reply.status.length ≤ n) (h : ∀ begun, ¬ reply.Leaves n begun) :
      ReadCut reply n (.error (.io cause))

namespace ReadCut

variable {result : Except Fault Reply}

theorem malformed_iff (h : ReadCut reply n result) (raw : String) :
    result = .error (.malformed raw) ↔
      n < reply.status.length ∧ raw = String.ofList (reply.status.toList.take n) := by
  cases h with
  | malformed hlt => exact ⟨fun he => by cases he; exact ⟨hlt, rfl⟩, fun ⟨_, he⟩ => by rw [he]⟩
  | shorter hb => exact ⟨nofun, fun ⟨hlt, _⟩ => absurd hb.1 (Nat.not_le_of_lt hlt)⟩
  | garbled hn _ => exact ⟨nofun, fun ⟨hlt, _⟩ => absurd hn (Nat.not_le_of_lt hlt)⟩

theorem io_iff (h : ReadCut reply n result) : (∃ cause, result = .error (.io cause)) ↔
    reply.status.length ≤ n ∧ ∀ begun, ¬ reply.Leaves n begun := by
  cases h with
  | malformed hlt => exact ⟨nofun, fun ⟨hn, _⟩ => absurd hn (Nat.not_le_of_lt hlt)⟩
  | shorter hb => exact ⟨nofun, fun ⟨_, hno⟩ => absurd hb (hno _)⟩
  | garbled hn hno => exact ⟨fun _ => ⟨hn, hno⟩, fun _ => ⟨_, rfl⟩⟩

theorem ok_iff (h : ReadCut reply n result) (other : Reply) : result = .ok other ↔
    ∃ begun, reply.Leaves n begun ∧ other = (reply.withMessage begun).trimmed := by
  cases h with
  | malformed hlt => exact ⟨nofun, fun ⟨_, hb, _⟩ => absurd hb.1 (Nat.not_le_of_lt hlt)⟩
  | @shorter begun hb =>
    refine ⟨fun he => ⟨begun, hb, (Except.ok.inj he).symm⟩, fun ⟨text, ht, he⟩ => ?_⟩
    rw [he, hb.unique ht]
  | garbled _ hno => exact ⟨nofun, fun ⟨_, hb, _⟩ => absurd hb (hno _)⟩

end ReadCut

theorem readReply_cut (h : OneLine reply.message)
    (hn : n < (Text.encodeUtf8 reply.encode.toList).length) :
    ReadCut reply n (readReply ((Text.encodeUtf8 reply.encode.toList).take n)) := by
  have hlen := octets_status reply
  rw [Reply.octets_encode] at hn ⊢
  rcases Nat.lt_or_ge reply.status.length n with hl | hl
  · -- the cut is behind the first line feed
    have hline : (lineOctets reply.status).length = reply.status.length + 1 := by
      rw [lineOctets, List.length_append, hlen, List.length_singleton]
    have hle : n - (reply.status.length + 1) ≤ (Text.encodeUtf8 reply.message.toList).length := by
      rw [List.length_append, hline, lineOctets, List.length_append, List.length_singleton] at hn
      omega
    have htake : (lineOctets reply.status ++ lineOctets reply.message).take n =
        lineOctets reply.status ++
          (Text.encodeUtf8 reply.message.toList).take (n - (reply.status.length + 1)) := by
      rw [List.take_append, List.take_of_length_le (by omega), hline, lineOctets, lineOctets,
        List.take_append_of_le_length hle]
    have hopen : 10 ∉ (Text.encodeUtf8 reply.message.toList).take
        (n - (reply.status.length + 1)) := fun hm =>
      h ((Text.mem_encodeUtf8 (by decide)).1 (List.mem_of_mem_take hm))
    rw [htake, readReply_part reply hopen]
    split
    · rename_i cs hd
      refine .shorter ⟨Nat.le_of_lt hl, ?_⟩
      rw [String.toList_ofList, Text.encode_of_decode hd]
    · rename_i f hd
      refine .garbled (Nat.le_of_lt hl) fun begun hb => ?_
      rw [← hb.2, Text.decode_encode] at hd
      cases hd
  · have htake : (lineOctets reply.status ++ lineOctets reply.message).take n =
        (Text.encodeUtf8 reply.status.toList).take n := by
      rw [lineOctets, List.append_assoc, List.take_append_of_le_length (by omega)]
    rw [htake, readReply_status reply n hl]
    split
    · rename_i hlt
      exact .malformed hlt
    · rename_i hge
      have hzero : n - (reply.status.length + 1) = 0 := by omega
      have hleft : reply.Leaves n "" := ⟨by omega, by rw [hzero]; rfl⟩
      have hbare : (reply.withMessage "").trimmed = reply.withMessage "" := by
        cases reply <;> rfl
      exact hbare ▸ .shorter hleft

/-! ## What is made of what is left -/

variable {applied unchanged : String} {o : Directory.Outcome} {m k : Nat}
  {op : Registry.Operation} {texts left : List String}

theorem readNumber_eq_ok {message : String} : readNumber message = .ok m ↔
    Text.readUnsigned? Text.max32 (Text.trim message.toList) = some m := by
  unfold readNumber
  split
  · rename_i n hn
    rw [hn, Except.ok.injEq, Option.some.injEq]
  · rename_i hn
    rw [hn]
    exact ⟨nofun, nofun⟩

/-- What is read off the beginning of a number is the number without its last digits. -/
theorem readNumber_longer {a b : String} (h : a.toList <+: b.toList)
    (ha : readNumber a = .ok m) (hb : readNumber b = .ok k) : ∃ j, m = k / 10 ^ j :=
  Text.readUnsigned_of_prefix (Text.prefix_trim h) (readNumber_eq_ok.1 ha) (readNumber_eq_ok.1 hb)

theorem eq_append_of_prefix {a b : String} (h : a.toList <+: b.toList) : ∃ rest, b = a ++ rest := by
  obtain ⟨rest, hrest⟩ := h
  exact ⟨String.ofList rest, String.toList_inj.1 (by
    rw [String.toList_append, String.toList_ofList, hrest])⟩

/-- What became of a node is told by the first words, and what stands behind them does not count. -/
theorem readChange_longer {a b : String} (h : a.toList <+: b.toList)
    (hd : applied.toList.head? ≠ unchanged.toList.head?) (hap : applied.toList ≠ [])
    (hun : unchanged.toList ≠ []) (ha : readChange applied unchanged a = .ok o) :
    readChange applied unchanged b = .ok o := by
  simp only [readChange, List.isPrefixOf_iff_prefix] at ha
  split at ha
  · rename_i hlead
    cases ha
    obtain ⟨rest, rfl⟩ := eq_append_of_prefix (hlead.trans h)
    exact readChange_applied rest
  · split at ha
    · rename_i hlead
      cases ha
      obtain ⟨rest, rfl⟩ := eq_append_of_prefix (hlead.trans h)
      exact readChange_unchanged hd hap hun rest
    · cases ha

theorem interpret_number_longer {a b : String} (h : a.toList <+: b.toList)
    (ha : interpret op a = .ok (.number m)) (hb : interpret op b = .ok (.number k)) :
    ∃ j, m = k / 10 ^ j := by
  have hread : ∀ {message : String} {n : Nat},
      (readNumber message).map Outcome.number = .ok (.number n) → readNumber message = .ok n :=
    fun hn => by
      obtain ⟨n, hn, he⟩ := Text.map_eq_ok hn
      cases he
      exact hn
  have hdone : ∀ {message : String} {n : Nat},
      (readNumber message).map (fun _ => Outcome.done) ≠ .ok (.number n) := fun hn => by
    obtain ⟨_, -, he⟩ := Text.map_eq_ok hn
    cases he
  cases op with
  | addPending | removePending | pendingCount | addSession | removeSession | sessionCount =>
    exact readNumber_longer h (hread ha) (hread hb)
  | resetPending | resetSessions | resetAllSessions => exact absurd ha hdone
  | knownHosts => cases ha
  | addNode | removeNode | listNodes =>
    obtain ⟨_, -, he⟩ := Text.map_eq_ok ha
    cases he

theorem interpret_change_longer {a b : String} (h : a.toList <+: b.toList)
    (ha : interpret op a = .ok (.change o)) : interpret op b = .ok (.change o) := by
  cases op with
  | addNode address | removeNode address =>
    obtain ⟨_, hread, he⟩ := Text.map_eq_ok ha
    cases he
    exact congrArg (Except.map Outcome.change)
      (readChange_longer h (by decide) (by decide) (by decide) hread)
  | knownHosts => cases ha
  | _ =>
    obtain ⟨_, -, he⟩ := Text.map_eq_ok ha
    cases he

/-- Of a list of hosts the first ones are read, and what is left of the next. -/
theorem left_of_hosts (h : ∀ t ∈ texts, Text.Item t)
    (hb : begun.toList <+: (Text.joined Ledger.delimiter texts).toList)
    (hread : interpret .knownHosts (String.ofList (Text.trimEnd begun.toList)) =
      .ok (.texts left)) : Text.LeftOf left texts := by
  obtain ⟨kept, hkept⟩ := Text.exists_leftOn h hb
  rw [hkept.line, String.ofList_toList, interpret, items_joined hkept.items] at hread
  cases hread
  exact hkept.begins

/-- Of a list of nodes, too. A list of no nodes is put in a word, which may be cut off as well. -/
theorem left_of_nodes (h : ∀ t ∈ texts, Text.Item t)
    (hb : begun.toList <+: (Message.allNodes ++ Message.nodesLine texts).toList)
    (hread : interpret .listNodes (String.ofList (Text.trimEnd begun.toList)) =
      .ok (.texts left)) :
    Text.LeftOf left (if texts = [] then [Message.noNodes] else texts) := by
  have hsolid : Message.noNodes.toList.all (fun c => Text.isBlank c = false) = true := by decide
  have hword : Text.Item Message.noNodes :=
    ⟨by decide, fun c hc => of_decide_eq_true (List.all_eq_true.1 hsolid c hc)⟩
  have hlisted : ∀ t ∈ (if texts = [] then [Message.noNodes] else texts), Text.Item t := by
    split
    · exact List.forall_mem_singleton.2 hword
    · exact h
  have hline : Message.nodesLine texts =
      Text.joined Ledger.delimiter (if texts = [] then [Message.noNodes] else texts) := by
    cases texts <;> rfl
  obtain ⟨found, hfound, he⟩ := Text.map_eq_ok hread
  cases he
  rw [readNodes, String.toList_ofList] at hfound
  split at hfound
  · rename_i body hbody
    have hlead := Text.behind_eq_some.1 hbody
    obtain ⟨tail, htail, -⟩ := Text.dropEndWhile_split Text.isBlank begun.toList
    obtain ⟨x, hx⟩ : Message.allNodes.toList <+: begun.toList :=
      (hlead ▸ List.prefix_append _ _ : Message.allNodes.toList <+: Text.trimEnd begun.toList).trans
        ⟨tail, htail.symm⟩
    rw [← hx, String.toList_append, List.prefix_append_right_inj, hline] at hb
    obtain ⟨kept, hkept⟩ := Text.exists_leftOn hlisted hb
    -- the words before the list end with white space, which would be stripped with the list
    have hne : Text.trimEnd x ≠ [] := fun hnil => by
      obtain ⟨rest, hrest, hblank⟩ := Text.dropEndWhile_split Text.isBlank x
      change x = Text.trimEnd x ++ rest at hrest
      rw [hnil, List.nil_append] at hrest
      rw [← hx, hrest, Text.trimEnd_of_blanks hblank] at hlead
      have hlen := congrArg List.length hlead
      have hshort : (Text.trimEnd Message.allNodes.toList).length <
          Message.allNodes.toList.length := by decide
      rw [List.length_append] at hlen
      omega
    rw [← hx, Text.trimEnd_append_of_ne_nil hne, List.append_right_inj] at hlead
    rw [← hlead, hkept.line, String.ofList_toList] at hfound
    simp only [items_joined hkept.items] at hfound
    cases hfound
    split
    · exact .none _
    · exact hkept.begins
  · cases hfound

/-- The call asks for the operation, over one connection. -/
inductive Call.Asks : Call → Registry.Operation → Prop
  | plain (op : Registry.Operation) : Asks (.plain op) op
  | keyed (use : KeyUse) {node : String} {key : Node.Key} (h : Node.Key.parse? node = some key) :
      Asks (.keyed use node) (use.operation key)

theorem call_of_bytes {σ : Type} {c : Client} {net : Network σ} {w w' : σ} {call : Call}
    {bytes : List UInt8} (ha : call.Asks op)
    (h : net w (Text.encodeUtf8 (Request.call op).encode.toList) = (.answered bytes, w')) :
    (c.call net call).outcome? w = some ((readReply bytes).bind (reading (interpret op)), w') := by
  cases ha with
  | plain op => exact ask_of_bytes h
  | keyed use hkey => exact (Talk.outcome_bind (keyOf_some hkey w)).trans (ask_of_bytes h)

/-- What a call that asks for `op` can bring of the reply when the end of it is missing. -/
structure Curtailed (op : Registry.Operation) (reply : Reply)
    (result : Except Fault Outcome) : Prop where
  /-- What became of a node is what the whole reply says. -/
  change : ∀ o, result = .ok (.change o) → reading (interpret op) reply.trimmed = .ok (.change o)
  /-- A number lacks its last digits. -/
  number : ∀ m k, result = .ok (.number m) →
    reading (interpret op) reply.trimmed = .ok (.number k) → ∃ j, m = k / 10 ^ j
  hosts : ∀ texts left, op = .knownHosts → (∀ t ∈ texts, Text.Item t) →
    reply = .success (Text.joined Ledger.delimiter texts) →
    result = .ok (.texts left) → Text.LeftOf left texts
  nodes : ∀ texts left, op = .listNodes → (∀ t ∈ texts, Text.Item t) →
    reply = .success (Message.allNodes ++ Message.nodesLine texts) →
    result = .ok (.texts left) → Text.LeftOf left (if texts = [] then [Message.noNodes] else texts)

/-- What is brought was read off what is left of the message of a reply that does not refuse. -/
theorem exists_leaves {result : Except Fault Reply} {outcome : Outcome} (h : ReadCut reply n result)
    (ho : result.bind (reading (interpret op)) = .ok outcome) : ∃ message begun : String,
      reply = .success message ∧ begun.toList <+: message.toList ∧
        interpret op (String.ofList (Text.trimEnd begun.toList)) = .ok outcome := by
  cases h with
  | malformed | garbled => cases ho
  | @shorter begun hb =>
    cases reply with
    | error message => cases ho
    | success message => exact ⟨message, begun, rfl, hb.prefix, ho⟩

theorem curtailed_of_cut {result : Except Fault Reply} (op : Registry.Operation)
    (h : ReadCut reply n result) :
    Curtailed op reply (result.bind (reading (interpret op))) where
  change o ho := by
    obtain ⟨message, begun, rfl, hb, hread⟩ := exists_leaves h ho
    exact interpret_change_longer
      (by simpa only [String.toList_ofList] using Text.prefix_trimEnd hb) hread
  number m k hm hk := by
    obtain ⟨message, begun, rfl, hb, hread⟩ := exists_leaves h hm
    exact interpret_number_longer
      (by simpa only [String.toList_ofList] using Text.prefix_trimEnd hb) hread hk
  hosts texts left hop hitems hreply hl := by
    subst hop
    obtain ⟨message, begun, hm, hb, hread⟩ := exists_leaves h hl
    cases hm.symm.trans hreply
    exact left_of_hosts hitems hb hread
  nodes texts left hop hitems hreply hl := by
    subst hop
    obtain ⟨message, begun, hm, hb, hread⟩ := exists_leaves h hl
    cases hm.symm.trans hreply
    exact left_of_nodes hitems hb hread

/-- **Replies that are cut off.** Of a reply whose message stays on one line, the first octets come,
but not all, and the stream ends. What comes is malformed if and only if the status is not whole; it
is no text if and only if it ends within a character of the message; and else what is left of the
message is taken for the message of a reply of the same kind, be it as it was sent or shorter. A
call brings what is read off that. -/
theorem cut_reply_iff (h : OneLine reply.message)
    (hn : n < (Text.encodeUtf8 reply.encode.toList).length) :
    let cut := (Text.encodeUtf8 reply.encode.toList).take n
    (∀ raw, readReply cut = .error (.malformed raw) ↔
      n < reply.status.length ∧ raw = String.ofList (reply.status.toList.take n)) ∧
    ((∃ cause, readReply cut = .error (.io cause)) ↔
      reply.status.length ≤ n ∧ ∀ begun, ¬ reply.Leaves n begun) ∧
    (∀ other, readReply cut = .ok other ↔
      ∃ begun, reply.Leaves n begun ∧ other = (reply.withMessage begun).trimmed) ∧
    ∀ (σ : Type) (c : Client) (net : Network σ) (w w' : σ) (call : Call)
      (op : Registry.Operation), call.Asks op →
      net w (Text.encodeUtf8 (Request.call op).encode.toList) = (.answered cut, w') →
      ∃ result, (c.call net call).outcome? w = some (result, w') ∧
        result = (readReply cut).bind (reading (interpret op)) ∧ Curtailed op reply result := by
  intro cut
  have hcut : ReadCut reply n (readReply cut) := readReply_cut h hn
  exact ⟨hcut.malformed_iff, hcut.io_iff, hcut.ok_iff, fun _ _ _ _ _ _ op ha hnet =>
    ⟨_, call_of_bytes ha hnet, rfl, curtailed_of_cut op hcut⟩⟩

/-- Of the answer that twelve launches are pending the last digit is missing, and one is brought. -/
theorem cut_reply_iff_short_number :
    let octets := Text.encodeUtf8 (Reply.success "12").encode.toList
    OneLine (Reply.success "12").message ∧ 9 < octets.length ∧
      readReply (octets.take 9) = .ok (.success "1") ∧
      ∀ c : Client,
        (c.call (fun w _ => (.answered (octets.take 9), w)) (.plain .pendingCount)).outcome? () =
          some (.ok (.number 1), ()) := by
  intro octets
  have hone : OneLine (Reply.success "12").message := by decide
  have hlen : 9 < octets.length := by decide +kernel
  obtain ⟨-, -, hok, hcall⟩ := cut_reply_iff hone hlen
  have hread : readReply (octets.take 9) = .ok (.success "1") :=
    (hok _).2 ⟨"1", ⟨by decide +kernel, by decide +kernel⟩, by decide +kernel⟩
  refine ⟨hone, hlen, hread, fun c => ?_⟩
  obtain ⟨result, hout, hresult, -⟩ := hcall Unit c (fun w _ => (.answered (octets.take 9), w)) () ()
    (.plain .pendingCount) .pendingCount (.plain _) rfl
  have hnumber : reading (interpret .pendingCount) (.success "1") = .ok (.number 1) := by
    decide +kernel
  rw [hread] at hresult
  rw [hout, hresult, ← hnumber]
  rfl

end Client
end GridKeeper

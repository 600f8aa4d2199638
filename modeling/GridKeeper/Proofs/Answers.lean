import GridKeeper.Client
import GridKeeper.Proofs.Framing
import GridKeeper.Proofs.JoinedLists

/-!
# What a client makes of an answer

The answers of the registry are put into words and read out of words: numbers as numerals, lists
with a delimiter between the items, an empty list of nodes as a word of its own, and what became of
a node by how the message begins. What is read is what was answered. For lists this hangs on the
items: they have no white space, and so the delimiter is found between them and nowhere else.

**Results.**
* `items_joined`: a list on one line is read as the list it was made from.
* `readReply_encode`: a reply comes back as it was sent, less white space at its end.
* `reading_number`, `reading_nodes`, `reading_reply`: what is made of the answers.
-/
namespace GridKeeper

/-- **A list on one line is read as the list it was made from.** -/
theorem Client.items_joined {texts : List String} (h : ∀ t ∈ texts, Text.Item t) :
    items (Text.joined Ledger.delimiter texts) = texts := by
  by_cases hne : texts = []
  · rw [hne]
    decide
  · rw [items, Text.piecesOf_joined h hne, List.map_map]
    have hmap : texts.map (Text.trim ∘ String.toList) = texts.map String.toList :=
      List.map_congr_left fun t ht => Text.trim_of_solid (h t ht).2
    have hfilter : (texts.map String.toList).filter (· ≠ []) = texts.map String.toList :=
      List.filter_eq_self.2 fun cs hcs => by
        obtain ⟨t, ht, rfl⟩ := List.mem_map.1 hcs
        exact decide_eq_true (h t ht).1
    rw [hmap, hfilter, List.map_map]
    simp

/-! ## Replies that come back -/

namespace Client

open Wire

variable {reply : Reply}

/-- What is taken for a line of some octets is the first one of those that are cut. -/
theorem spanLine_eq_cutLines (arrivals : List (Nat × UInt8)) :
    (spanLine arrivals).1.map (·.2) = (cutLines (arrivals.map (·.2))).headD [] ∧
      cutLines ((spanLine arrivals).2.1.map (·.2)) = (cutLines (arrivals.map (·.2))).tail := by
  by_cases hne : arrivals = []
  · rw [hne]
    exact ⟨rfl, rfl⟩
  · rw [cutLines_arrivals hne]
    exact ⟨rfl, rfl⟩

/-- The text that is taken for a reply is that of the first two lines, where they are text. -/
theorem twoLines_eq (bytes : List UInt8) : twoLines bytes =
    ((Text.decodeUtf8 ((cutLines bytes).headD [])).bind fun _ =>
      (Text.decodeUtf8 ((cutLines bytes).headD [] ++ (cutLines bytes).tail.headD [])).map
        String.ofList).mapError fun f => .io f.message := by
  have htimed : (bytes.map fun b => ((0 : Nat), b)).map (·.2) = bytes := by
    rw [List.map_map]
    exact List.map_id bytes
  obtain ⟨hfirst, hafter⟩ := spanLine_eq_cutLines (bytes.map ((0, ·)))
  obtain ⟨hsecond, -⟩ := spanLine_eq_cutLines (spanLine (bytes.map ((0, ·)))).2.1
  rw [htimed] at hfirst hafter
  rw [hafter] at hsecond
  simp only [twoLines, List.map_append, hfirst, hsecond]
  cases Text.decodeUtf8 ((cutLines bytes).headD []) with
  | error f => rfl
  | ok _ =>
    cases Text.decodeUtf8 ((cutLines bytes).headD [] ++ (cutLines bytes).tail.headD []) <;> rfl

theorem decode_status (reply : Reply) :
    Text.decodeUtf8 (lineOctets reply.status) = .ok (reply.status.toList ++ ['\n']) :=
  Text.decodeUtf8_eq_ok_iff.2 (Text.encodeUtf8_append _ _)

theorem twoLines_encode (h : OneLine reply.message) :
    twoLines (Text.encodeUtf8 reply.encode.toList) = .ok reply.encode := by
  have hcut := Reply.cutLines_encode h
  rw [twoLines_eq, hcut]
  simp only [List.headD_cons, List.tail_cons, ← Reply.octets_encode, decode_status,
    Text.decodeUtf8_eq_ok_iff.2 rfl, Except.bind, Except.map, Except.mapError,
    String.ofList_toList]

/-- **A reply comes back as it was sent,** less the white space at its end. -/
theorem readReply_encode (h : OneLine reply.message) :
    readReply (Text.encodeUtf8 reply.encode.toList) = .ok reply.trimmed := by
  simp only [readReply, twoLines_encode h, bind, Except.bind, Reply.decode_of_oneLine h,
    Except.mapError]

/-! ## What is made of a reply -/

/-- What a call makes of a reply whose message it reads. -/
def reading {α : Type} (read : String → Except Fault α) : Reply → Except Fault α
  | .success m => read m
  | .error m => .error (.rejected m)

theorem reading_success {α : Type} {read : String → Except Fault α} {m : String}
    (h : ∀ c ∈ m.toList.getLast?, Text.isBlank c = false) :
    reading read (Reply.success m).trimmed = read m := by
  rw [Reply.trimmed, Reply.mapMessage, Text.trimEnd_of_last h, String.ofList_toList]
  rfl

theorem reading_number {n : Nat} (h : n ≤ Text.max32) :
    reading readNumber (Reply.success (toString n)).trimmed = .ok n := by
  have hsolid := Text.solid_toString n
  have hread : Text.readDigits? (toString n).toList = some n := by
    rw [Nat.toString_eq_repr, Nat.toList_repr, Text.readDigits_toDigits]
  rw [reading_success fun c hc => hsolid c (List.mem_of_getLast? hc), readNumber,
    Text.trim_of_solid hsolid, Text.readUnsigned_of_digits hread h]

theorem reading_hosts {keys : List Node.Key} (h : ∀ k ∈ keys, k.Legible) :
    reading (interpret .knownHosts) (Reply.success (Registry.hostsLine keys)).trimmed =
      .ok (.texts (keys.map Node.Key.text)) := by
  have hitem : ∀ t ∈ keys.map Node.Key.text, Text.Item t := fun t ht => by
    obtain ⟨k, hk, rfl⟩ := List.mem_map.1 ht
    exact ⟨by simp [Node.Key.text], (h k hk).solid_text⟩
  rw [Registry.hostsLine, reading_success (Text.last_joined hitem), interpret, items_joined hitem]

theorem joined_ne_noNodes (n : Node) (texts : List String) :
    Text.joined Ledger.delimiter (n.text :: texts) ≠ Message.noNodes := by
  intro e
  have hcolon : ':' ∈ n.text.toList := by simp [Node.text]
  have hmem := (Text.prefix_joined n.text texts).subset hcolon
  rw [e] at hmem
  revert hmem
  decide

theorem reading_nodes {nodes : List Node} (h : ∀ n ∈ nodes, n.Genuine) :
    reading readNodes
        (Reply.success (Message.allNodes ++ Message.nodesLine (nodes.map Node.text))).trimmed =
      .ok (nodes.map Node.text) := by
  have hitem : ∀ t ∈ nodes.map Node.text, Text.Item t := fun t ht => by
    obtain ⟨n, hn, rfl⟩ := List.mem_map.1 ht
    exact ⟨by simp [Node.text], (h n hn).solid_text⟩
  cases nodes with
  | nil => decide
  | cons n nodes =>
    have hbody : Message.nodesLine ((n :: nodes).map Node.text) =
        Text.joined Ledger.delimiter (n.text :: nodes.map Node.text) := rfl
    have hne := Text.joined_ne_nil (hitem _ (.head _)) (nodes.map Node.text)
    have hlast := Text.last_joined hitem
    rw [hbody, reading_success, readNodes, String.toList_append, Text.behind_eq_some.2 rfl]
    · simp only [String.ofList_toList, if_neg (joined_ne_noNodes n _)]
      rw [← List.map_cons, items_joined hitem]
    · rw [String.toList_append]
      intro c hc
      rw [List.getLast?_append_of_ne_nil _ hne] at hc
      exact hlast c hc

/-! ## What becomes of a node -/

variable {applied unchanged lead address : String}

theorem readChange_applied (rest : String) :
    readChange applied unchanged (applied ++ rest) = .ok .applied := by
  have hlead : applied.toList.isPrefixOf (applied ++ rest).toList = true := by
    rw [List.isPrefixOf_iff_prefix, String.toList_append]
    exact List.prefix_append _ _
  rw [readChange, if_pos hlead]

/-- The two ways in which a message begins are told apart by the first sign. -/
theorem readChange_unchanged (h : applied.toList.head? ≠ unchanged.toList.head?)
    (ha : applied.toList ≠ []) (hu : unchanged.toList ≠ []) (rest : String) :
    readChange applied unchanged (unchanged ++ rest) = .ok .unchanged := by
  have hlead : unchanged.toList.isPrefixOf (unchanged ++ rest).toList = true := by
    rw [List.isPrefixOf_iff_prefix, String.toList_append]
    exact List.prefix_append _ _
  have hother : ¬ applied.toList.isPrefixOf (unchanged ++ rest).toList = true := by
    rw [List.isPrefixOf_iff_prefix, String.toList_append]
    generalize applied.toList = a at h ha
    generalize unchanged.toList = u at h hu
    intro hp
    cases a with
    | nil => exact ha rfl
    | cons x a =>
      cases u with
      | nil => exact hu rfl
      | cons y u => exact h (congrArg some (List.cons_prefix_cons.1 hp).1)
  rw [readChange, if_neg hother, if_pos hlead]

/-- White space at the end of a message is that at the end of the address, where it is one. -/
theorem trimmed_led (h : Text.trimEnd address.toList ≠ []) :
    (Reply.success (lead ++ address)).trimmed =
      .success (lead ++ String.ofList (Text.trimEnd address.toList)) := by
  refine congrArg Reply.success (String.toList_inj.1 ?_)
  simp only [String.toList_ofList, String.toList_append, Text.trimEnd_append_of_ne_nil h]

/-- A message that begins with the first words, or with the others, tells what became of a node. -/
theorem reading_change (applied unchanged : String) (h : Text.trimEnd address.toList ≠ [])
    (hd : applied.toList.head? ≠ unchanged.toList.head?) (ha : applied.toList ≠ [])
    (hu : unchanged.toList ≠ []) :
    reading (readChange applied unchanged) (Reply.success (applied ++ address)).trimmed =
        .ok .applied ∧
      reading (readChange applied unchanged) (Reply.success (unchanged ++ address)).trimmed =
        .ok .unchanged := by
  rw [trimmed_led h, trimmed_led h]
  exact ⟨readChange_applied _, readChange_unchanged hd ha hu _⟩

theorem reading_map {α β : Type} (f : α → β) (read : String → Except Fault α) (reply : Reply) :
    reading (fun m => (read m).map f) reply = (reading read reply).map f := by
  cases reply <;> rfl

theorem trimEnd_ne_nil {n : Node} (h : Node.parse? address = some n) :
    Text.trimEnd address.toList ≠ [] := by
  intro e
  obtain ⟨tail, htail, hblank⟩ := Text.dropEndWhile_split Text.isBlank address.toList
  change address.toList = Text.trimEnd address.toList ++ tail at htail
  rw [e, List.nil_append] at htail
  have htrim : Text.trim address.toList = [] := by
    rw [Text.trim, htail, List.dropWhile_eq_nil_iff.2 hblank]
    rfl
  have hnone : Url.parse? [] = none := by decide +kernel
  rw [Node.parse?, htrim, hnone] at h
  cases h

end Client

/-- What an answer of the registry brings to the one who asked. -/
def Registry.Answer.brought : Registry.Answer → Except Client.Fault Client.Outcome
  | .count n => .ok (.number n)
  | .reset => .ok .done
  | .hosts keys => .ok (.texts (keys.map Node.Key.text))
  | .nodes texts => .ok (.texts texts)
  | .added address .invalid | .removed address .invalid =>
    .error (.rejected (String.ofList (Text.trimEnd (Wire.Message.invalid ++ address).toList)))
  | .added _ outcome | .removed _ outcome => .ok (.change outcome)

namespace Client

open Wire

variable {r : Registry}

/-- What is made of a change to the directory is what became of the node, whatever the registry. -/
theorem reading_addNode (r : Registry) (address : String) :
    reading (interpret (.addNode address)) (Message.reply (r.apply (.addNode address)).1).trimmed =
      (r.apply (.addNode address)).1.brought := by
  simp only [Registry.apply, Directory.add]
  cases hn : Node.parse? address with
  | none => rfl
  | some n =>
    obtain ⟨happlied, hunchanged⟩ := reading_change Message.added Message.duplicate
      (trimEnd_ne_nil hn) (by decide) (by decide) (by decide)
    simp only [Directory.insert]
    split <;> refine (reading_map _ _ _).trans ?_
    · exact congrArg (Except.map Outcome.change) hunchanged
    · exact congrArg (Except.map Outcome.change) happlied

theorem reading_removeNode (r : Registry) (address : String) :
    reading (interpret (.removeNode address))
        (Message.reply (r.apply (.removeNode address)).1).trimmed =
      (r.apply (.removeNode address)).1.brought := by
  simp only [Registry.apply, Directory.remove]
  cases hn : Node.parse? address with
  | none => rfl
  | some n =>
    obtain ⟨happlied, hunchanged⟩ := reading_change Message.removed Message.notFound
      (trimEnd_ne_nil hn) (by decide) (by decide) (by decide)
    simp only [Directory.erase]
    split <;> refine (reading_map _ _ _).trans ?_
    · exact congrArg (Except.map Outcome.change) happlied
    · exact congrArg (Except.map Outcome.change) hunchanged

/-- **What a client makes of an answer is the answer,** if the registry is one that comes about. -/
theorem reading_reply (h : r.Genuine) (op : Registry.Operation) :
    reading (interpret op) (Message.reply (r.apply op).1).trimmed = (r.apply op).1.brought := by
  have hcount : ∀ {n : Nat}, n ≤ Text.max32 →
      reading (fun m => (readNumber m).map Outcome.number) (Reply.success (toString n)).trimmed =
        .ok (.number n) := fun hn => by
    rw [reading_map, reading_number hn]
    rfl
  have hdone : reading (fun m => (readNumber m).map fun _ => Outcome.done)
      (Reply.success (toString 0)).trimmed = .ok .done := by
    rw [reading_map, reading_number (Nat.zero_le _)]
    rfl
  cases op with
  | addPending => exact hcount (Ledger.up_le _)
  | removePending => exact hcount (Ledger.down_le h.pending)
  | pendingCount => exact hcount h.pending
  | addSession k =>
    refine hcount ?_
    rw [Ledger.count_addSession h.ordered, if_pos rfl]
    exact Ledger.up_le _
  | removeSession k =>
    refine hcount ?_
    rw [Ledger.count_removeSession h.ordered, if_pos rfl]
    exact Ledger.down_le (h.count_le k)
  | sessionCount k => exact hcount (h.count_le k)
  | resetPending | resetSessions k | resetAllSessions => exact hdone
  | knownHosts => exact reading_hosts h.hosts
  | listNodes =>
    exact (reading_map Outcome.texts readNodes _).trans
      (congrArg (Except.map Outcome.texts) (reading_nodes h.nodes))
  | addNode address => exact reading_addNode r address
  | removeNode address => exact reading_removeNode r address

end Client
end GridKeeper

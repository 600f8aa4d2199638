import GridKeeper.Proofs.Calls
import GridKeeper.Proofs.DirectoryEdits

/-!
# Calls that name a node by its address

An address is sent as it was given, on a line of its own. What is heard of it is what can stand on
one line: it ends with the first line feed, and with the carriage returns before that. Where the
address has no line feed, nothing is lost but white space, which does not count. Where it has one,
the service is asked about another text: an address that is read over the line feed as one node can
be heard as another node, or as none.

**Results.**
* `network_of_address`: a service does for an address what is asked for the text that is heard.
* `call_address`: so does the call.
* `parse_heard`: an address without a line feed is heard as the node that it is.
* `names_iff`: when a call names the node that it was given.
-/
namespace GridKeeper

/-! ## What is heard of an address -/

namespace Wire

variable {address : String}

/-- What is read of a text that is sent on a line of its own. -/
def heard (text : String) : String :=
  String.ofList (Text.dropEndWhile isLineEnd (Text.firstLine text.toList))

/-- The octets of a text that is sent are a line, and what stands behind a line feed in the text. -/
theorem lineOctets_split (text : String) : ∃ line rest,
    lineOctets text = (line ++ [10]) ++ rest ∧ 10 ∉ line ∧
      lineText (line ++ [10]) = .ok (heard text) := by
  obtain ⟨rest, hrest⟩ := Text.firstLine_split text.toList
  have hlf : Text.encodeUtf8 ['\n'] = [10] := by decide
  refine ⟨Text.encodeUtf8 (Text.firstLine text.toList), Text.encodeUtf8 rest, ?_, fun hm => ?_, ?_⟩
  · rw [lineOctets, ← hlf, ← Text.encodeUtf8_append, hrest, List.append_cons,
      Text.encodeUtf8_append, Text.encodeUtf8_append]
  · exact Text.not_mem_firstLine _ ((Text.mem_encodeUtf8 (by decide)).1 hm)
  · rw [← hlf, ← Text.encodeUtf8_append, lineText_eq, Text.decodeUtf8_eq_ok_iff.2 rfl]
    have hdrop : Text.dropEndWhile isLineEnd (Text.firstLine text.toList ++ ['\n']) =
        Text.dropEndWhile isLineEnd (Text.firstLine text.toList) := by
      rw [Text.dropEndWhile, List.reverse_append, List.reverse_singleton, List.singleton_append,
        List.dropWhile_cons_of_pos rfl, Text.dropEndWhile]
    exact congrArg (fun cs => Except.ok (String.ofList cs)) hdrop

theorem oneLine_heard (text : String) : OneLine (heard text) := fun hm => by
  obtain ⟨tail, htail, -⟩ := Text.dropEndWhile_split isLineEnd (Text.firstLine text.toList)
  rw [heard, String.toList_ofList] at hm
  refine Text.not_mem_firstLine text.toList ?_
  rw [htail]
  exact List.mem_append_left _ hm

/-- Only white space is lost of a text without a line feed. -/
theorem trim_heard (h : OneLine address) :
    Text.trim (heard address).toList = Text.trim address.toList := by
  obtain ⟨tail, htail, hend⟩ := Text.dropEndWhile_split isLineEnd address.toList
  have hblank : ∀ c ∈ tail, Text.isBlank c = true := fun c hc => by
    have := hend c hc
    simp only [isLineEnd, Bool.decide_or, Bool.or_eq_true, decide_eq_true_eq] at this
    rcases this with rfl | rfl <;> rfl
  rw [heard, Text.firstLine_of_not_mem h, String.toList_ofList]
  conv_rhs => rw [htail]
  exact (Text.trim_of_blanks hblank).symm

/-- **An address without a line feed is heard as the node that it is,** or as none if it is none. -/
theorem parse_heard (h : OneLine address) : Node.parse? (heard address) = Node.parse? address := by
  rw [Node.parse?, Node.parse?, trim_heard h]

/-! ## What is asked of a service -/

variable {word : String} {ofText : String → Registry.Operation}

theorem lines_of_address (hw : (word, ofText) ∈ nodesActions) (text : String) :
    (Request.call (ofText text)).lines = ["NODES", word, text] := by
  simp only [nodesActions, List.mem_cons, Prod.mk.injEq, List.not_mem_nil, or_false] at hw
  rcases hw with ⟨rfl, rfl⟩ | ⟨rfl, rfl⟩ <;> rfl

theorem clean_of_nodesAction (hw : (word, ofText) ∈ nodesActions) :
    Clean word ∧ Says word word := by
  simp only [nodesActions, List.mem_cons, Prod.mk.injEq, List.not_mem_nil, or_false] at hw
  rcases hw with ⟨rfl, -⟩ | ⟨rfl, -⟩
  · exact ⟨by decide, rfl⟩
  · exact ⟨by decide, rfl⟩

end Wire

namespace Service

open Wire

variable {s : Service} {word : String} {ofText : String → Registry.Operation}

/-- A service does for an address what is asked for the text that is heard. -/
theorem network_of_address (hs : s.Ready) (hw : (word, ofText) ∈ nodesActions) (address : String) :
    network s (Text.encodeUtf8 (Request.call (ofText address)).encode.toList) =
      (.answered (Text.encodeUtf8
          (Message.reply (s.registry.apply (ofText (heard address))).1).encode.toList),
        s.served 1 (s.registry.after (ofText (heard address)))) := by
  obtain ⟨line, rest, hsplit, hline, hheard⟩ := lineOctets_split address
  obtain ⟨hword, hspelled⟩ := clean_of_nodesAction hw
  have hnodes : Clean "NODES" := by decide
  have hform : Form ["NODES", word, heard address] (.call (ofText (heard address))) :=
    .node rfl hspelled hw
  let taken := [lineOctets "NODES", lineOctets word, line ++ [10]]
  have htexts : taken.map lineText = ["NODES", word, heard address].map .ok := by
    simp [taken, lineText_of_clean hnodes, lineText_of_clean hword, hheard]
  have hwhole : ∀ l ∈ taken, 10 ∈ l := by simp [taken, lineOctets]
  have hlines : (⟨.atOnce (Text.encodeUtf8 (Request.call (ofText address)).encode.toList) true,
      0, 0⟩ : Reader).lines = taken ++ cutLines rest := by
    rw [Reader.lines, bytes_atOnce, encode_octets, lines_of_address hw]
    simp only [List.map_cons, List.map_nil, List.flatten_cons, List.flatten_nil, List.append_nil,
      hsplit]
    rw [cutLines_of_clean hnodes, cutLines_of_clean hword, List.append_assoc,
      List.singleton_append, cutLines_append hline]
    rfl
  obtain ⟨r', hread, -⟩ := Reader.read_of_lines hform htexts hwhole hlines
    (prompt_atOnce s.readLimit _ true)
  exact network_of_read hs hread

end Service

/-! ## Changes of the directory -/

namespace Directory

variable {d : Directory} {n : Node} {address other : String}

theorem add_congr (h : Node.parse? other = Node.parse? address) : d.add other = d.add address := by
  rw [add, add, h]

theorem erase_congr {m : Node} (h : n.key = m.key) : d.erase n = d.erase m := by
  have hsame : (fun x : Node => x.same n) = fun x => x.same m := by
    funext x
    rw [Bool.eq_iff_iff, Node.same_iff, Node.same_iff, h]
  unfold erase holds
  rw [hsame]

theorem remove_congr
    (h : (Node.parse? other).map Node.key = (Node.parse? address).map Node.key) :
    d.remove other = d.remove address := by
  rw [remove, remove]
  cases ho : Node.parse? other with
  | none =>
    rw [ho] at h
    rw [Option.map_eq_none_iff.1 h.symm]
  | some n =>
    rw [ho] at h
    obtain ⟨m, hm, hkey⟩ := Option.map_eq_some_iff.1 h.symm
    rw [hm]
    exact erase_congr hkey.symm

theorem add_empty (address : String) :
    (({} : Directory).add address).2.nodes = (Node.parse? address).toList := by
  rw [add]
  cases Node.parse? address <;> rfl

theorem remove_eq_invalid : (d.remove address).1 = .invalid ↔ Node.parse? address = none := by
  rw [remove]
  cases Node.parse? address with
  | none => simp only
  | some n =>
    simp only [erase, reduceCtorEq, iff_false]
    split <;> simp only [reduceCtorEq, not_false_eq_true]

theorem key_of_removed (h : ((⟨[n]⟩ : Directory).remove address).1 = .applied) :
    (Node.parse? address).map Node.key = some n.key := by
  rw [remove] at h
  cases hp : Node.parse? address with
  | none => rw [hp] at h; cases h
  | some m =>
    rw [hp] at h
    simp only [erase, holds, List.any_cons, List.any_nil, Bool.or_false] at h
    split at h
    · rename_i hs
      rw [Option.map_some, Node.same_iff.1 hs]
    · cases h

end Directory

/-! ## Calls that name a node -/

namespace Client

open Wire

variable {s : Service} {c : Client} {address : String} {word : String}
  {ofText : String → Registry.Operation}

/-- A call does for an address what is asked for the text that is heard. -/
theorem call_address (hs : s.Ready) (hw : (word, ofText) ∈ nodesActions) (c : Client)
    (address : String) : (c.call Service.network (.plain (ofText address))).outcome? s =
      some ((s.registry.apply (ofText (heard address))).1.brought,
        s.served 1 (s.registry.after (ofText (heard address)))) := by
  have hnet := Service.network_of_address hs hw address
  have hone := oneLine_heard address
  simp only [nodesActions, List.mem_cons, Prod.mk.injEq, List.not_mem_nil, or_false] at hw
  rcases hw with ⟨-, rfl⟩ | ⟨-, rfl⟩
  · rw [← reading_addNode]
    exact ask_of_answered (Registry.oneLine_addNode _ hone) hnet
  · rw [← reading_removeNode]
    exact ask_of_answered (Registry.oneLine_removeNode _ hone) hnet

/-- The call does with the node that it is given what the operation itself would do: the registry is
left as the operation leaves it, and the client is told what became of the node, or is refused if
there is none. -/
def Names (c : Client) (s : Service) (op : Registry.Operation) : Prop :=
  ∃ result, (c.call Service.network (.plain op)).outcome? s =
      some (result, s.served 1 (s.registry.after op)) ∧
    match (s.registry.apply op).1.brought with
    | .ok outcome => result = .ok outcome
    | .error _ => ∃ m, result = .error (.rejected m)

/-- A call names the node if what is heard is answered like the address, and leaves the same. -/
theorem names_iff_heard (hs : s.Ready) (hw : (word, ofText) ∈ nodesActions) :
    c.Names s (ofText address) ↔
      s.registry.after (ofText (heard address)) = s.registry.after (ofText address) ∧
      match (s.registry.apply (ofText address)).1.brought with
      | .ok outcome => (s.registry.apply (ofText (heard address))).1.brought = .ok outcome
      | .error _ => ∃ m,
          (s.registry.apply (ofText (heard address))).1.brought = .error (.rejected m) := by
  rw [Names, call_address hs hw c address]
  constructor
  · rintro ⟨result, hcall, htold⟩
    obtain ⟨rfl, hserved⟩ := Prod.mk.inj (Option.some.inj hcall)
    exact ⟨congrArg Service.registry hserved, htold⟩
  · rintro ⟨hafter, htold⟩
    exact ⟨_, by rw [hafter], htold⟩

/-- What becomes of a node is told in the same way, whatever its address. -/
theorem told_of_change {answer : String → Directory.Outcome → Registry.Answer}
    (ha : answer = .added ∨ answer = .removed) (outcome : Directory.Outcome) (address : String) :
    match (answer address outcome).brought with
    | .ok told => (answer (heard address) outcome).brought = .ok told
    | .error _ => ∃ m, (answer (heard address) outcome).brought = .error (.rejected m) := by
  rcases ha with rfl | rfl <;> cases outcome <;> first | rfl | exact ⟨_, rfl⟩

theorem names_addNode (hs : s.Ready) (h : Node.parse? (heard address) = Node.parse? address) :
    c.Names s (.addNode address) := by
  rw [names_iff_heard hs (.head _), Registry.after, Registry.after, Registry.apply_addNode,
    Registry.apply_addNode, Directory.add_congr h]
  exact ⟨rfl, told_of_change (.inl rfl) _ address⟩

theorem names_removeNode (hs : s.Ready)
    (h : (Node.parse? (heard address)).map Node.key = (Node.parse? address).map Node.key) :
    c.Names s (.removeNode address) := by
  rw [names_iff_heard hs (.tail _ (.head _)), Registry.after, Registry.after,
    Registry.apply_removeNode, Registry.apply_removeNode, Directory.remove_congr h]
  exact ⟨rfl, told_of_change (.inr rfl) _ address⟩

/-- The outcome of a removal can be told from what the client is told. -/
theorem outcome_of_told {outcome : Directory.Outcome} {told : Except Fault Outcome}
    (h : (Registry.Answer.removed address outcome).brought = told) :
    (told = .ok (.change .applied) → outcome = .applied) ∧
      (∀ fault, told = .error fault → outcome = .invalid) := by
  subst h
  cases outcome <;> exact ⟨by simp [Registry.Answer.brought], by simp [Registry.Answer.brought]⟩

theorem parse_of_names (hs : s.Ready)
    (h : ∀ r, c.Names { s with registry := r } (.addNode address)) :
    Node.parse? (heard address) = Node.parse? address := by
  have hready : Service.Ready { s with registry := {} } := ⟨hs.running, hs.permit, hs.free⟩
  obtain ⟨hafter, -⟩ := (names_iff_heard hready (.head _)).1 (h {})
  have hnodes := congrArg (·.directory.nodes) hafter
  simp only [Registry.after, Registry.apply_addNode, Directory.add_empty] at hnodes
  cases ho : Node.parse? (heard address) <;> cases ha : Node.parse? address <;>
    rw [ho, ha] at hnodes <;> simp_all

theorem key_of_names (hs : s.Ready)
    (h : ∀ r, c.Names { s with registry := r } (.removeNode address)) :
    (Node.parse? (heard address)).map Node.key = (Node.parse? address).map Node.key := by
  have hready (r : Registry) : Service.Ready { s with registry := r } :=
    ⟨hs.running, hs.permit, hs.free⟩
  cases ha : Node.parse? address with
  | none =>
    obtain ⟨-, htold⟩ := (names_iff_heard (hready {}) (.tail _ (.head _))).1 (h {})
    have hinvalid : (({} : Directory).remove address).1 = .invalid :=
      Directory.remove_eq_invalid.2 ha
    simp only [Registry.apply_removeNode, hinvalid] at htold
    obtain ⟨m, htold⟩ := htold
    rw [Directory.remove_eq_invalid.1 ((outcome_of_told htold).2 _ rfl)]
  | some n =>
    -- a directory in which nothing but the node can be removed
    obtain ⟨-, htold⟩ := (names_iff_heard (hready _) (.tail _ (.head _))).1 (h ⟨{}, ⟨[n]⟩⟩)
    have happlied : ((⟨[n]⟩ : Directory).remove address).1 = .applied := by
      have hsame : n.same n = true := Node.same_iff.2 rfl
      simp [Directory.remove, ha, Directory.erase, Directory.holds, hsame]
    simp only [Registry.apply_removeNode, happlied] at htold
    exact Directory.key_of_removed ((outcome_of_told htold).1 rfl)

/-- **When a call names the node that it was given.** A service that can be reached does for an
address what is asked for the text that is heard, and the client is told so. To add the node is to
add the one at the address, whatever the registry, if and only if the text that is heard is read as
the same node; to remove it, if and only if it is read as a node with the same key. This is so of
every address without a line feed. -/
theorem names_iff (s : Service) (hs : s.Ready) (c : Client) (address : String) :
    (∀ ofText ∈ [Registry.Operation.addNode, Registry.Operation.removeNode],
      (c.call Service.network (.plain (ofText address))).outcome? s =
        some ((s.registry.apply (ofText (heard address))).1.brought,
          s.served 1 (s.registry.after (ofText (heard address))))) ∧
    ((∀ r, c.Names { s with registry := r } (.addNode address)) ↔
      Node.parse? (heard address) = Node.parse? address) ∧
    ((∀ r, c.Names { s with registry := r } (.removeNode address)) ↔
      (Node.parse? (heard address)).map Node.key = (Node.parse? address).map Node.key) ∧
    ('\n' ∉ address.toList → Node.parse? (heard address) = Node.parse? address) := by
  have hready (r : Registry) : Service.Ready { s with registry := r } :=
    ⟨hs.running, hs.permit, hs.free⟩
  refine ⟨?_, ⟨parse_of_names hs, fun h r => names_addNode (hready r) h⟩,
    ⟨key_of_names hs, fun h r => names_removeNode (hready r) h⟩, parse_heard⟩
  intro ofText hof
  simp only [List.mem_cons, List.not_mem_nil, or_false] at hof
  rcases hof with rfl | rfl
  · exact call_address hs (.head _) c address
  · exact call_address hs (.tail _ (.head _)) c address

/-- An address with a line feed in its port. -/
def cutPort : String := "http://[::1]:5\n555"

/-- A line feed in the port: another node is added, and the client is told that it was added. -/
theorem names_iff_cut_port :
    let s := Service.opened {}
    let c : Client := ⟨"grid.test", 4000, none⟩
    s.Ready ∧
      (c.call Service.network (.plain (.addNode cutPort))).outcome? s =
        some (.ok (.change .applied), s.served 1 ⟨{}, ⟨[⟨"http", "[::1]", some 5⟩]⟩⟩) ∧
      s.registry.after (.addNode cutPort) = ⟨{}, ⟨[⟨"http", "[::1]", some 5555⟩]⟩⟩ ∧
      ¬ (∀ r, c.Names { s with registry := r } (.addNode cutPort)) ∧
      ¬ (∀ r, c.Names { s with registry := r } (.removeNode cutPort)) := by
  intro s c
  have hs : s.Ready := Service.ready_opened {}
  have hheard : Node.parse? (heard cutPort) = some ⟨"http", "[::1]", some 5⟩ := by decide +kernel
  have hgiven : Node.parse? cutPort = some ⟨"http", "[::1]", some 5555⟩ := by decide +kernel
  have hadded : s.registry.directory.add (heard cutPort) =
      (.applied, ⟨[⟨"http", "[::1]", some 5⟩]⟩) := by
    rw [Directory.add, hheard]
    rfl
  obtain ⟨hcall, hadd, hremove, -⟩ := names_iff s hs c cutPort
  refine ⟨hs, (hcall _ (.head _)).trans ?_, ?_, fun h => ?_, fun h => ?_⟩
  · rw [Registry.after, Registry.apply_addNode, hadded]
    rfl
  · rw [Registry.after, Registry.apply_addNode, Directory.add, hgiven]
    rfl
  · rw [hadd, hheard, hgiven] at h
    revert h
    decide
  · rw [hremove, hheard, hgiven] at h
    revert h
    decide

end Client
end GridKeeper

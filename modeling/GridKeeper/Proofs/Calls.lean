import GridKeeper.Proofs.Answers
import GridKeeper.Service

/-!
# Calls and what they come to

A client calls a service over a connection: the request is put into lines, read, carried out under
the lock, and answered, and the answer is put into lines and read. At the end of all this stands
what the operation itself answers, and a registry as the operation itself leaves it. The service is
one that can be reached (`Service.Ready`); of it nothing else changes than the number of connections
it has served (`Service.served`).

**Results.**
* `outcome_bind`, `outcome_bind_fault`: a talk goes on with what was brought, and ends with a fault.
* `network_of_read`: what a service makes of the octets that it is sent.
* `call_plain`, `call_keyed`, `summary_service`: what single calls come to.
* `call_direct`: all of this together.
-/
namespace GridKeeper

/-! ## Talks -/

namespace Client

namespace Talk

variable {σ α β : Type} {t : Talk σ α} {f : α → Talk σ β} {w w' : σ} {a : α} {fault : Fault}

theorem outcome_bind (h : t.outcome? w = some (.ok a, w')) :
    (t >>= f).outcome? w = (f a).outcome? w' := by
  change (t.outcome? w).bind _ = _
  rw [h]
  rfl

theorem outcome_bind_fault (h : t.outcome? w = some (.error fault, w')) :
    (t >>= f).outcome? w = some (.error fault, w') := by
  change (t.outcome? w).bind _ = _
  rw [h]
  rfl

end Talk

open Wire

variable {σ α : Type} {c : Client} {net : Network σ} {w w' : σ} {reply : Reply}

theorem exchange_of_bytes {req : Request} {bytes : List UInt8}
    (h : net w (Text.encodeUtf8 req.encode.toList) = (.answered bytes, w')) :
    (c.exchange net req).outcome? w = some (readReply bytes, w') := by
  have hsend : (c.send net req).outcome? w = some (.ok bytes, w') := by
    have hnet : (modifyGet (net · (Text.encodeUtf8 req.encode.toList)) :
        Talk σ Contact).outcome? w = some (.ok (.answered bytes), w') := by
      change some (Except.ok (net w _).1, (net w _).2) = _
      rw [h]
    unfold send
    rw [Talk.outcome_bind hnet]
    rfl
  rw [exchange, Talk.outcome_bind hsend]
  cases readReply bytes <;> rfl

/-- What is asked for is read off the reply, if there is one. -/
theorem ask_of_bytes {op : Registry.Operation} {read : String → Except Fault α}
    {bytes : List UInt8}
    (h : net w (Text.encodeUtf8 (Request.call op).encode.toList) = (.answered bytes, w')) :
    (c.ask net op read).outcome? w = some ((readReply bytes).bind (reading read), w') := by
  have hexchange := exchange_of_bytes (c := c) h
  have hsuccess : (c.success net op).outcome? w =
      some ((readReply bytes).bind (reading .ok), w') := by
    unfold success
    cases hr : readReply bytes with
    | error fault =>
      rw [hr] at hexchange
      exact Talk.outcome_bind_fault hexchange
    | ok reply =>
      rw [hr] at hexchange
      rw [Talk.outcome_bind hexchange]
      cases reply <;> rfl
  unfold ask
  cases hr : readReply bytes with
  | error fault =>
    rw [hr] at hsuccess
    exact Talk.outcome_bind_fault hsuccess
  | ok reply =>
    rw [hr] at hsuccess
    cases reply with
    | error m => exact Talk.outcome_bind_fault hsuccess
    | success m =>
      have hread : (Except.ok (Reply.success m)).bind (reading read) = read m := rfl
      rw [Talk.outcome_bind hsuccess, hread]
      cases read m <;> rfl

theorem ask_of_answered {op : Registry.Operation} {read : String → Except Fault α}
    (hr : OneLine reply.message)
    (h : net w (Text.encodeUtf8 (Request.call op).encode.toList) =
      (.answered (Text.encodeUtf8 reply.encode.toList), w')) :
    (c.ask net op read).outcome? w = some (reading read reply.trimmed, w') := by
  rw [ask_of_bytes h, readReply_encode hr]
  rfl

end Client

/-! ## Services that can be reached -/

/-- With the lock, the operation is carried out, and its answer is what is written. -/
theorem Exchange.execute_granted (op : Registry.Operation) (r : Registry) :
    (execute (.ok ()) op r).registry = r.after op ∧
      (execute (.ok ()) op r).written true = (Wire.Message.reply (r.apply op).1).encode := by
  cases hm : Wire.Message.reply (r.apply op).1 <;>
    simp [execute, hm, refuse, written, Activity.written, Registry.after]

namespace Service

variable {s : Service} {r r' : Registry} {op : Registry.Operation} {n m : Nat}

/-- A client can be served: the server runs, a permit is left, and the lock can be got. -/
structure Ready (s : Service) : Prop where
  running : s.server.running = true
  permit : s.server.admission.admits = true
  free : s.attempt = .ok ()

def served (s : Service) (n : Nat) (r : Registry) : Service :=
  { s with
    registry := r
    server := { s.server with
      admission := { s.server.admission with total := s.server.admission.total + n } } }

theorem Ready.served (h : s.Ready) (n : Nat) (r : Registry) : (s.served n r).Ready :=
  ⟨h.running, h.permit, h.free⟩

theorem served_served : (s.served n r).served m r' = s.served (n + m) r' := by
  simp [served, Nat.add_assoc]

/-- A service that runs, has one permit, and whose lock is free. -/
def opened (r : Registry) : Service :=
  ⟨{}, .socket 6666, {}, r, { settings := {}, running := true, admission := { limit := 1 } }, 60⟩

theorem ready_opened (r : Registry) : (opened r).Ready := ⟨rfl, rfl, rfl⟩

/-- A request that is read is carried out and answered, and the permit is given back. -/
theorem network_of_read (h : s.Ready) {bytes : List UInt8} {rest : Wire.Reader}
    (hread : (⟨.atOnce bytes true, 0, 0⟩ : Wire.Reader).read? s.readLimit =
      some (.ok (.call op), rest)) :
    network s bytes =
      (.answered (Text.encodeUtf8 (Wire.Message.reply (s.registry.apply op).1).encode.toList),
        s.served 1 (s.registry.after op)) := by
  obtain ⟨hregistry, hwritten⟩ := Exchange.execute_granted op s.registry
  have hserve : Exchange.serve? s.readLimit (.ok ()) (.atOnce bytes true) s.registry =
      some (Exchange.execute (.ok ()) op s.registry) := by
    rw [Exchange.serve?, hread]
    rfl
  have harrive : s.server.admission.arrive = (true, { s.server.admission with
      total := s.server.admission.total + 1, inUse := s.server.admission.inUse + 1,
      active := s.server.admission.active + 1 }) := by
    rw [Server.Admission.arrive, if_pos h.permit]
  rw [network, if_pos h.running, h.free, serve, harrive]
  simp only [Bool.not_true, Bool.false_eq_true, if_false]
  have hlimit : ∀ server : Server, ({ s with server } : Service).readLimit = s.readLimit :=
    fun _ => rfl
  rw [hlimit, hserve]
  simp only [hwritten, hregistry]
  rfl

/-- A request that can be read is read as it is sent. -/
theorem network_of_plain (h : s.Ready) (hp : (Wire.Request.call op).Plain) :
    network s (Text.encodeUtf8 (Wire.Request.call op).encode.toList) =
      (.answered (Text.encodeUtf8 (Wire.Message.reply (s.registry.apply op).1).encode.toList),
        s.served 1 (s.registry.after op)) := by
  have hlines : (⟨.atOnce (Text.encodeUtf8 (Wire.Request.call op).encode.toList) true, 0, 0⟩ :
      Wire.Reader).lines = (Wire.Request.call op).lines.map Wire.lineOctets ++ Wire.cutLines [] :=
    Wire.lines_of_bytes hp (by rw [Wire.bytes_atOnce, List.append_nil])
  obtain ⟨rest, hread, -⟩ := Wire.Reader.read_of_form (Wire.form_lines hp) (Wire.clean_lines hp)
    hlines (Wire.prompt_atOnce s.readLimit _ true)
  exact network_of_read h hread

end Service

/-! ## Calls of a service -/

namespace Client

open Wire

variable {s : Service} {op : Registry.Operation} {node : String} {k : Node.Key}

/-- What is asked for is read off the answer of the registry. -/
theorem ask_service {α : Type} {read : String → Except Fault α} (hs : s.Ready)
    (hg : s.registry.Genuine) (hp : (Request.call op).Plain) (c : Client) :
    (c.ask Service.network op read).outcome? s =
      some (reading read (Message.reply (s.registry.apply op).1).trimmed,
        s.served 1 (s.registry.after op)) :=
  ask_of_answered (Registry.oneLine_of_answer hg fun address ha => (hp.2 address ha).1)
    (Service.network_of_plain hs hp)

/-- **A call brings what the operation answers, and leaves the registry that it leaves.** -/
theorem call_plain (hs : s.Ready) (hg : s.registry.Genuine) (hp : (Request.call op).Plain)
    (c : Client) : (c.call Service.network (.plain op)).outcome? s =
      some ((s.registry.apply op).1.brought, s.served 1 (s.registry.after op)) := by
  rw [call, ask_service hs hg hp, reading_reply hg]

theorem keyOf_some {σ : Type} (h : Node.Key.parse? node = some k) (w : σ) :
    (keyOf node).outcome? w = some (.ok k, w) := by
  rw [keyOf, h]
  rfl

theorem keyOf_none {σ : Type} (h : Node.Key.parse? node = none) (w : σ) :
    (keyOf node : Talk σ Node.Key).outcome? w = some (.error (.invalidNode node), w) := by
  rw [keyOf, h]
  rfl

theorem plain_of_parse (h : Node.Key.parse? node = some k) (use : KeyUse) :
    (Request.call (use.operation k)).Plain := by
  have hk := Node.Key.legible_of_parse h
  cases use <;> exact Request.plain_of_key rfl rfl hk

theorem call_keyed (hs : s.Ready) (hg : s.registry.Genuine) (c : Client) (use : KeyUse)
    (node : String) : (c.call Service.network (.keyed use node)).outcome? s =
      match Node.Key.parse? node with
      | some k => some ((s.registry.apply (use.operation k)).1.brought,
          s.served 1 (s.registry.after (use.operation k)))
      | none => some (.error (.invalidNode node), s) := by
  cases hk : Node.Key.parse? node with
  | some k =>
    rw [call, Talk.outcome_bind (keyOf_some hk s)]
    exact call_plain hs hg (plain_of_parse hk use) c
  | none => exact Talk.outcome_bind_fault (keyOf_none hk s)

/-- Asks for the number of sessions on one node that is listed. -/
def countOf {σ : Type} (c : Client) (net : Network σ) (node : String) : Talk σ (String × Nat) := do
  let n ← c.ask net (.sessionCount (← keyOf node)) readNumber
  return (node, n)

theorem ask_number {n : Nat} (hs : s.Ready) (hg : s.registry.Genuine)
    (hp : (Request.call op).Plain) (ha : s.registry.apply op = (.count n, s.registry))
    (hn : n ≤ Text.max32) (c : Client) :
    (c.ask Service.network op readNumber).outcome? s =
      some (.ok n, s.served 1 s.registry) := by
  rw [ask_service hs hg hp, Registry.after, ha]
  change some (reading readNumber (Reply.success (toString n)).trimmed, _) = _
  rw [reading_number hn]

/-- A node as it is listed is read as its own key, and its own sessions are counted. -/
theorem countOf_text (hs : s.Ready) (hg : s.registry.Genuine) (c : Client) {n : Node}
    (hn : n.Genuine) : (c.countOf Service.network n.text).outcome? s =
      some (.ok (n.text, s.registry.ledger.count n.key), s.served 1 s.registry) := by
  have hkey := hn.parse_text
  have hplain : (Request.call (.sessionCount n.key)).Plain := plain_of_parse hkey .count
  have hask := ask_number hs hg hplain rfl (hg.count_le n.key) c
  rw [countOf, Talk.outcome_bind (keyOf_some hkey s), Talk.outcome_bind hask]
  rfl

theorem counts_of_nodes (hs : s.Ready) (hg : s.registry.Genuine) (c : Client) {nodes : List Node}
    (hn : ∀ n ∈ nodes, n.Genuine) :
    ((nodes.map Node.text).mapM (c.countOf Service.network)).outcome? s =
      some (.ok (nodes.map fun n => (n.text, s.registry.ledger.count n.key)),
        s.served nodes.length s.registry) := by
  induction nodes generalizing s with
  | nil => rfl
  | cons n nodes ih =>
    have hrest := ih (hs.served 1 s.registry) hg fun n' hn' => hn n' (.tail _ hn')
    rw [List.map_cons, List.mapM_cons, Talk.outcome_bind (countOf_text hs hg c (hn n (.head _))),
      Talk.outcome_bind hrest, Service.served_served]
    rw [List.length_cons, Nat.add_comm]
    rfl

theorem ask_nodes (hs : s.Ready) (hg : s.registry.Genuine) (c : Client) :
    (c.ask Service.network .listNodes readNodes).outcome? s =
      some (.ok s.registry.directory.texts, s.served 1 s.registry) := by
  have hplain : (Request.call .listNodes).Plain := Request.plain_of_nameless rfl rfl
  rw [ask_service hs hg hplain]
  change some (reading readNodes (Reply.success (Message.allNodes ++
    Message.nodesLine (s.registry.directory.nodes.map Node.text))).trimmed, _) = _
  rw [reading_nodes hg.nodes]
  rfl

theorem summary_service (hs : s.Ready) (hg : s.registry.Genuine) (c : Client) :
    (c.summary Service.network).outcome? s =
      some (.ok (.summary s.registry.ledger.pending (s.registry.directory.nodes.map fun n =>
          (n.text, s.registry.ledger.count n.key))),
        s.served (2 + s.registry.directory.nodes.length) s.registry) := by
  have hplain : (Request.call .pendingCount).Plain := Request.plain_of_nameless rfl rfl
  have hpending := ask_number hs hg hplain rfl hg.pending c
  have hnodes := ask_nodes (hs.served 1 s.registry) hg c
  have hcounts := counts_of_nodes ((hs.served 1 s.registry).served 1 s.registry) hg c hg.nodes
  rw [Service.served_served, Service.served_served] at hcounts
  unfold summary
  rw [Talk.outcome_bind hpending, Talk.outcome_bind hnodes, Service.served_served]
  exact Talk.outcome_bind hcounts

/-- **A call comes to what is asked of the registry.** Where a service can be reached, and its
registry is one that comes about, a client that calls it gets what the operation itself answers, and
the registry is left as the operation itself leaves it. A node that is named by no key is refused
before anything is sent. The known nodes come in order; the nodes to be looked after come as they
are listed, and with the summary each of them has the number of sessions that are counted under its
own key. -/
theorem call_direct (s : Service) (hs : s.Ready) (hr : s.registry.Reached) (c : Client) :
    (∀ op ∈ [Registry.Operation.addPending, .removePending, .pendingCount, .resetPending,
        .resetAllSessions],
      (c.call Service.network (.plain op)).outcome? s =
        some ((s.registry.apply op).1.brought, s.served 1 (s.registry.after op))) ∧
    (∀ (use : KeyUse) (node : String), (c.call Service.network (.keyed use node)).outcome? s =
      match Node.Key.parse? node with
      | some k => some ((s.registry.apply (use.operation k)).1.brought,
          s.served 1 (s.registry.after (use.operation k)))
      | none => some (.error (.invalidNode node), s)) ∧
    ((c.call Service.network (.plain .knownHosts)).outcome? s =
        some (.ok (.texts (s.registry.ledger.hosts.map Node.Key.text)), s.served 1 s.registry) ∧
      s.registry.ledger.hosts.Pairwise fun a b => a.before b = true) ∧
    ((c.call Service.network (.plain .listNodes)).outcome? s =
        some (.ok (.texts s.registry.directory.texts), s.served 1 s.registry) ∧
      (s.registry.directory.texts = [] ↔ s.registry.directory.nodes = [])) ∧
    (c.call Service.network .summary).outcome? s =
      some (.ok (.summary s.registry.ledger.pending (s.registry.directory.nodes.map fun n =>
          (n.text, s.registry.ledger.count n.key))),
        s.served (2 + s.registry.directory.nodes.length) s.registry) := by
  have hg := Registry.genuine_of_reached hr
  refine ⟨fun op hop => call_plain hs hg ?_ c, call_keyed hs hg c,
    ⟨call_plain hs hg (Request.plain_of_nameless rfl rfl) c, List.pairwise_map.2 hg.ordered⟩,
    ⟨call_plain hs hg (Request.plain_of_nameless rfl rfl) c, List.map_eq_nil_iff⟩,
    summary_service hs hg c⟩
  simp only [List.mem_cons, List.not_mem_nil, or_false] at hop
  rcases hop with rfl | rfl | rfl | rfl | rfl <;> exact Request.plain_of_nameless rfl rfl

/-- One node with a session, and a session on a node that nobody looks after. -/
def stocked : Registry :=
  ⟨⟨0, [(⟨"[::1]", 80⟩, 1), (⟨"b,", 1⟩, 1)]⟩, ⟨[⟨"http", "[::1]", some 80⟩]⟩⟩

/-- A comma at the end of a host does no harm to the list of hosts, and the node that is listed is
found again under its key. -/
theorem call_direct_comma :
    let s := Service.opened stocked
    let c : Client := ⟨"grid.test", 4000, none⟩
    s.Ready ∧ s.registry.Reached ∧
      (c.call Service.network (.plain .knownHosts)).outcome? s =
        some (.ok (.texts ["[::1]:80", "b,:1"]), s.served 1 stocked) ∧
      (c.call Service.network .summary).outcome? s =
        some (.ok (.summary 0 [("[::1]:80", 1)]), s.served 3 stocked) := by
  intro s c
  have hs : s.Ready := Service.ready_opened stocked
  have hr : s.registry.Reached := by
    have hnode := Registry.Reached.added .empty "http://[::1]:80"
    have hone : (Exchange.serve? none (.ok ()) (closedFeed "SESSION\nINCREASE\n[::1]:80\n")
        (({} : Registry).after (.addNode "http://[::1]:80"))).map (·.registry) =
        some { stocked with ledger := ⟨0, [(⟨"[::1]", 80⟩, 1)]⟩ } := by decide +kernel
    have htwo : (Exchange.serve? none (.ok ()) (closedFeed "SESSION\nINCREASE\nB,:1\n")
        { stocked with ledger := ⟨0, [(⟨"[::1]", 80⟩, 1)]⟩ }).map (·.registry) =
        some stocked := by decide +kernel
    obtain ⟨e, he, hfirst⟩ := Option.map_eq_some_iff.1 hone
    obtain ⟨e', he', hsecond⟩ := Option.map_eq_some_iff.1 htwo
    rw [← hfirst] at he'
    have hlast := (hnode.served he).served he'
    rwa [hsecond] at hlast
  have htexts : stocked.ledger.hosts.map Node.Key.text = ["[::1]:80", "b,:1"] := by decide
  have hcounts : (stocked.directory.nodes.map fun n => (n.text, stocked.ledger.count n.key)) =
      [("[::1]:80", 1)] := by decide
  obtain ⟨-, -, ⟨hhosts, -⟩, -, hsummary⟩ := call_direct s hs hr c
  refine ⟨hs, hr, ?_, ?_⟩
  · rw [← htexts]
    exact hhosts
  · rw [← hcounts]
    exact hsummary

end Client
end GridKeeper

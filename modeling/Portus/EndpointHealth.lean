import Mathlib.Data.PNat.Notation
import Portus.Lib.Run

/-!
# Health of an endpoint

`Endpoint::observe` (`pool.rs`) counts the observations in a row that contradict the health of an
endpoint, with one counter for both directions, and flips the health when there are enough.
`Reference` remembers every observation since the last flip instead.
-/

namespace Portus.EndpointHealth

open Lib List

structure Endpoint where
  healthy : Bool := true
  consecutive : Nat := 0

def Endpoint.observe (ep : Endpoint) (healthy : Bool) (flipThreshold : Nat) : Endpoint :=
  if ep.healthy = healthy then { ep with consecutive := 0 }
  else if max flipThreshold 1 ≤ ep.consecutive + 1 then ⟨healthy, 0⟩
  else { ep with consecutive := ep.consecutive + 1 }

structure HealthCheck where
  consecutiveSuccess : ℕ+
  consecutiveFailure : ℕ+

def HealthCheck.threshold (check : HealthCheck) (healthy : Bool) : Nat :=
  if healthy then check.consecutiveSuccess else check.consecutiveFailure

variable (check : HealthCheck)

def probe (ep : Endpoint) (healthy : Bool) : Endpoint :=
  ep.observe healthy (check.threshold healthy)

/-- The health with the observations since it flipped last, the newest first. -/
structure Reference where
  healthy : Bool := true
  since : List Bool := []

/-- The last observations, as many as are needed, contradict the health. -/
def contradicted (health : Bool) (since : List Bool) : Bool :=
  let needed : Nat := if health then check.consecutiveFailure else check.consecutiveSuccess
  decide (needed ≤ since.length) && (since.take needed).all (· != health)

def Reference.step (r : Reference) (healthy : Bool) : Reference :=
  if contradicted check r.healthy (healthy :: r.since) then ⟨!r.healthy, []⟩
  else { r with since := healthy :: r.since }

variable {check}

theorem take_all_iff {p : α → Bool} {l : List α} :
    n ≤ l.length ∧ (l.take n).all p = true ↔ n ≤ (l.takeWhile p).length := by
  induction l generalizing n with
  | nil => simp
  | cons a l ih =>
    cases n with
    | zero => simp
    | succ n => cases h : p a <;> simp [h, ← ih]

theorem threshold_pos (healthy : Bool) : 1 ≤ check.threshold healthy := by
  unfold HealthCheck.threshold
  split
  · exact check.consecutiveSuccess.2
  · exact check.consecutiveFailure.2

/-- The counter is the length of the run that contradicts the health. -/
structure Counts (ep : Endpoint) (r : Reference) : Prop where
  healthy : ep.healthy = r.healthy
  consecutive : ep.consecutive = (r.since.takeWhile (· != r.healthy)).length

theorem counts_step (h : Counts ep r) :
    Counts (probe check ep healthy) (r.step check healthy) := by
  obtain ⟨hh, hc⟩ := h
  have hf : contradicted check r.healthy (healthy :: r.since) = true ↔
      check.threshold (!r.healthy) ≤ ((healthy :: r.since).takeWhile (· != r.healthy)).length := by
    have ht : (if r.healthy then (check.consecutiveFailure : Nat) else check.consecutiveSuccess) =
        check.threshold !r.healthy := by
      cases r.healthy <;> rfl
    rw [contradicted, ht, Bool.and_eq_true, decide_eq_true_iff, take_all_iff]
  rw [probe, Endpoint.observe, Reference.step, hh]
  have hp := @threshold_pos check (!r.healthy)
  by_cases ha : r.healthy = healthy
  · -- an observation that agrees ends the run
    subst ha
    rw [takeWhile_cons_of_neg (by simp), length_nil] at hf
    rw [if_pos rfl, if_neg fun hs => absurd (hf.1 hs) (by omega)]
    exact ⟨rfl, by simp⟩
  · obtain rfl : healthy = !r.healthy := Bool.eq_not.2 fun h => ha h.symm
    rw [takeWhile_cons_of_pos (by simp), length_cons, ← hc] at hf
    rw [if_neg ha, Nat.max_eq_left hp]
    by_cases hn : check.threshold (!r.healthy) ≤ ep.consecutive + 1
    · rw [if_pos hn, if_pos (hf.2 hn)]
      exact ⟨rfl, rfl⟩
    · rw [if_neg hn, if_neg fun hs => hn (hf.1 hs)]
      exact ⟨rfl, by simp [hc]⟩

/-- After every sequence of observations the endpoint has the health of the reference. -/
theorem healthy_run (check : HealthCheck) (observations : List Bool) :
    (run (probe check) {} observations).healthy =
      (run (Reference.step check) {} observations).healthy := by
  suffices h : ∀ {ep r}, Counts ep r →
      Counts (run (probe check) ep observations) (run (Reference.step check) r observations) from
    (h ⟨rfl, rfl⟩).healthy
  induction observations with
  | nil => exact id
  | cons o os ih => exact fun h => ih (counts_step h)

end Portus.EndpointHealth

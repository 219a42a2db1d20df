import Portus.DataPlane.Breaker
import Portus.Lib.Run

/-!
# The half-open state of a circuit breaker

A half-open breaker is meant to be decided by its probe, and lets nothing else through. Outcomes
carry no name, so it is also decided by requests that were let through before: a late failure opens
it again, a late success counts as one of the probe (`decidedByProbe_iff`). And since one probe is
one success, a breaker that asks for more of them closes only with the late successes of requests
that are still under way (`recovers_iff`); without these it stays half-open for good.
-/

namespace Portus.BreakerRecovery

open Lib DataPlane List

/-- The breaker with the requests that were let through and have no outcome yet. A probe is known
by the number of the half-open period that it began. -/
structure System where
  breaker : CircuitBreaker
  period : Nat := 0
  pending : List (Option Nat) := []
  /-- The requests whose outcomes were recorded since the period began. -/
  recorded : List (Option Nat) := []

inductive Action where
  | request (now : UInt32)
  | outcome (i : Nat) (status : UInt16) (now : UInt32)

def step (s : System) : Action → System
  | .request now =>
    match s.breaker.allowRequest now with
    | (_, false) => s
    | (breaker, true) =>
      if s.breaker.currentState = .opened then
        ⟨breaker, s.period + 1, s.pending ++ [some (s.period + 1)], []⟩
      else { s with breaker, pending := s.pending ++ [none] }
  | .outcome i status now =>
    if i < s.pending.length then
      { s with
        breaker := s.breaker.record status now
        pending := s.pending.eraseIdx i
        recorded := s.recorded ++ s.pending[i]?.toList }
    else s

def start (config : BreakerConfig) : System := { breaker := { config } }

variable {s : System} {a : Action}

theorem step_request (s : System) :
    (s.breaker.currentState = .closed ∧ (step s (.request now)).breaker = s.breaker) ∨
      (s.breaker.currentState = .opened ∧ s.breaker.timedOut now = true ∧
        step s (.request now) = ⟨{ s.breaker with state := pack .halfOpen now 0 0 }, s.period + 1,
          s.pending ++ [some (s.period + 1)], []⟩) ∨
      (¬ (s.breaker.currentState = .opened ∧ s.breaker.timedOut now = true) ∧
        step s (.request now) = s) := by
  unfold step CircuitBreaker.allowRequest
  cases hs : s.breaker.currentState with
  | closed => simp
  | halfOpen => simp
  | opened => cases ht : s.breaker.timedOut now <;> simp [ht]

/-- If the breaker stops being half-open, all outcomes since it became so are those of its probe. -/
def DecidedByProbe (s : System) (a : Action) : Prop :=
  s.breaker.currentState = .halfOpen → (step s a).breaker.currentState ≠ .halfOpen →
    ∀ request ∈ (step s a).recorded, request = some s.period

/-- An outcome that decides a half-open breaker, a failure or the last success that is needed, is
that of the probe, and so are the outcomes before it. -/
def OthersDecideNothing (s : System) : Action → Prop
  | .request _ => True
  | .outcome i status _ => i < s.pending.length → s.breaker.currentState = .halfOpen →
    status ≥ 500 ∨ s.breaker.lastSuccess = true →
      ∀ request ∈ s.recorded ++ s.pending[i]?.toList, request = some s.period

theorem decidedByProbe_step_iff :
    DecidedByProbe s a ↔ OthersDecideNothing s a := by
  cases a with
  | request now =>
    refine iff_of_true (fun hh hl => ?_) trivial
    rcases step_request s with ⟨hc, -⟩ | ⟨ho, -⟩ | ⟨-, hs⟩
    · cases hh.symm.trans hc
    · cases hh.symm.trans ho
    · rw [hs] at hl
      exact absurd hh hl
  | outcome i status now =>
    unfold DecidedByProbe OthersDecideNothing step
    by_cases hi : i < s.pending.length
    · simp only [if_pos hi, ne_eq, s.breaker.record_halfOpen_iff]
      grind
    · simp only [if_neg hi]
      exact iff_of_true (fun hh hl => absurd hh hl) fun h => absurd h hi

/-- All along a run half-open is decided by the probe exactly when no other outcome decides it. -/
theorem decidedByProbe_iff (config : BreakerConfig) (actions : List Action) :
    StepsMeet step DecidedByProbe (start config) actions ↔
      StepsMeet step OthersDecideNothing (start config) actions := by
  have hs : DecidedByProbe = OthersDecideNothing :=
    funext₂ fun s a => propext decidedByProbe_step_iff
  rw [hs]

/-- Two requests are let through; the first opens the breaker, and the second fails when a probe is
under way. -/
def lateFailure : List Action :=
  [.request 0, .request 0, .outcome 0 500 0, .request 30, .outcome 0 500 31]

theorem lateFailure_decides :
    ¬ StepsMeet step DecidedByProbe (start { failureThreshold := 1 }) lateFailure := by
  rintro ⟨-, -, -, -, hl, -⟩
  exact absurd (hl (by decide) (by decide)) (by decide)

/-- What happens at `now`, with no failure. -/
def Succeeds (now : UInt32) : Action → Prop
  | .request t => t = now
  | .outcome _ status t => t = now ∧ ¬ status ≥ 500

/-- Requests and successes, one after the other from a time on. -/
def SucceedFrom : Nat → List Action → Prop
  | _, [] => True
  | t₀, a :: actions => ∃ t ≥ t₀, Succeeds (.ofNat t) a ∧ SucceedFrom t actions

/-- However late it is, there are requests and successes that close the breaker. -/
def Recovers (s : System) : Prop :=
  ∀ t₀ : Nat, ∃ actions, SucceedFrom t₀ actions ∧
    (run step s actions).breaker.currentState = .closed

/-- There are as many successes to come as the breaker asks for. An open breaker lets one more
request through. -/
def CanClose (s : System) : Prop :=
  match s.breaker.currentState with
  | .closed => True
  | .opened => s.breaker.config.successThreshold.toNat ≤ s.pending.length + 1
  | .halfOpen => s.pending ≠ [] ∧ s.breaker.config.successThreshold.toNat ≤
    (extractSuccesses s.breaker.state).toNat + s.pending.length

theorem toNat_countUp (n : UInt16) : (countUp n).toNat = min (n.toNat + 1) 65535 := by
  have hn := n.toNat_lt
  unfold countUp
  split
  next h =>
    subst h
    rfl
  next h =>
    have hne : n.toNat ≠ 65535 := fun heq => h (UInt16.toNat_inj.1 heq)
    rw [UInt16.toNat_add, show UInt16.toNat 1 = 1 from rfl]
    omega

theorem lastSuccess_iff (cb : CircuitBreaker) : cb.lastSuccess = true ↔
    cb.config.successThreshold.toNat ≤ (extractSuccesses cb.state).toNat + 1 := by
  have hlt := cb.config.successThreshold.toNat_lt
  rw [CircuitBreaker.lastSuccess, decide_eq_true_eq, ge_iff_le, UInt16.le_iff_toNat_le,
    toNat_countUp]
  omega

theorem canClose_success_iff (hh : s.breaker.currentState = .halfOpen) (hi : i < s.pending.length)
    (hok : ¬ status ≥ 500) : CanClose (step s (.outcome i status now)) ↔ CanClose s := by
  have hle := length_eraseIdx_of_lt hi
  have hlt := s.breaker.config.successThreshold.toNat_lt
  have hc := toNat_countUp (extractSuccesses s.breaker.state)
  simp only [step, if_pos hi, CircuitBreaker.record, if_neg hok, CircuitBreaker.recordSuccess, hh,
    CanClose, ← length_pos_iff]
  by_cases hla : s.breaker.lastSuccess = true
  · have ht := (lastSuccess_iff s.breaker).1 hla
    simp only [if_pos hla, CircuitBreaker.currentState_mk, true_iff]
    omega
  · have ht := mt (lastSuccess_iff s.breaker).2 hla
    simp only [if_neg hla, CircuitBreaker.currentState_mk, extractSuccesses_pack, hle]
    omega

theorem canClose_of_step (ha : Succeeds now a) (h : CanClose (step s a)) :
    CanClose s := by
  cases a with
  | request t =>
    rcases step_request s with ⟨hc, -⟩ | ⟨ho, -, hs'⟩ | ⟨-, hsa⟩
    · simp only [CanClose, hc]
    · rw [hs'] at h
      simp only [CanClose, ho, CircuitBreaker.currentState_mk, extractSuccesses_pack,
        length_append, length_singleton] at h ⊢
      simpa using h.2
    · exact hsa ▸ h
  | outcome i status t =>
    by_cases hi : i < s.pending.length
    · cases hs : s.breaker.currentState with
      | closed => simp only [CanClose, hs]
      | halfOpen => exact (canClose_success_iff hs hi ha.2).1 h
      | opened =>
        simp only [step, if_pos hi, CircuitBreaker.record, if_neg ha.2, CircuitBreaker.recordSuccess,
          hs, CanClose, length_eraseIdx_of_lt hi] at h ⊢
        omega
    · rwa [step, if_neg hi] at h

theorem exists_closing (hh : s.breaker.currentState = .halfOpen) (h : CanClose s) :
    ∃ actions, (∀ a ∈ actions, Succeeds now a) ∧
      (run step s actions).breaker.currentState = .closed := by
  -- each success leaves one request less under way
  induction hn : s.pending.length generalizing s with
  | zero =>
    rw [CanClose, hh] at h
    exact absurd (length_eq_zero_iff.1 hn) h.1
  | succ n ih =>
    have hi : 0 < s.pending.length := hn ▸ Nat.succ_pos n
    have hok : ¬ (200 : UInt16) ≥ 500 := by decide
    have hne : CanClose (step s (.outcome 0 200 now)) := (canClose_success_iff hh hi hok).2 h
    cases hs : (step s (.outcome 0 200 now)).breaker.currentState with
    | closed => exact ⟨[.outcome 0 200 now], by simp [Succeeds], hs⟩
    | opened =>
      simp only [step, if_pos hi, CircuitBreaker.record, if_neg hok, CircuitBreaker.recordSuccess,
        hh] at hs
      split at hs <;> simp at hs
    | halfOpen =>
      have hl : (step s (.outcome 0 200 now)).pending.length = n := by
        rw [step, if_pos hi]
        exact (length_eraseIdx_of_lt hi).trans (hn ▸ rfl)
      obtain ⟨actions, ha, hc⟩ := ih hs hne hl
      exact ⟨.outcome 0 200 now :: actions, forall_mem_cons.2 ⟨⟨rfl, hok⟩, ha⟩, hc⟩

theorem canClose_of_succeedFrom {actions : List Action} {t₀ : Nat} (h : SucceedFrom t₀ actions)
    (hc : (run step s actions).breaker.currentState = .closed) : CanClose s := by
  induction actions generalizing s t₀ with
  | nil =>
    rw [CanClose, show s.breaker.currentState = .closed from hc]
    trivial
  | cons a actions ih =>
    obtain ⟨t, -, ha, h⟩ := h
    exact canClose_of_step ha (ih h hc)

theorem canClose_of_recovers (h : Recovers s) : CanClose s := by
  obtain ⟨actions, ha, hc⟩ := h 0
  exact canClose_of_succeedFrom ha hc

theorem succeedFrom_of_forall {actions : List Action} {t₀ t : Nat} (ht : t₀ ≤ t)
    (h : ∀ a ∈ actions, Succeeds (.ofNat t) a) : SucceedFrom t₀ actions := by
  induction actions generalizing t₀ with
  | nil => trivial
  | cons a actions ih =>
    exact ⟨t, ht, h a mem_cons_self, ih (le_refl t) fun b hb => h b (mem_cons_of_mem a hb)⟩

/-- A breaker can close again exactly when there are enough successes to come. -/
theorem recovers_iff (s : System) : Recovers s ↔ CanClose s := by
  refine ⟨canClose_of_recovers, fun h t₀ => ?_⟩
  cases hs : s.breaker.currentState with
  | closed => exact ⟨[], trivial, hs⟩
  | halfOpen =>
    obtain ⟨actions, ha, hc⟩ := @exists_closing s (.ofNat t₀) hs h
    exact ⟨actions, succeedFrom_of_forall (le_refl t₀) ha, hc⟩
  | opened =>
    -- the clock shows the end of the timeout again and again
    let late := s.breaker.config.timeoutSecs + extractTimestamp s.breaker.state
    have hnow : UInt32.ofNat (t₀ * 2 ^ 32 + late.toNat) = late := by
      apply UInt32.toNat_inj.1
      have := late.toNat_lt
      rw [UInt32.toNat_ofNat']
      omega
    have ht : s.breaker.timedOut late = true := by simp [CircuitBreaker.timedOut, late]
    rcases step_request s with ⟨hcl, -⟩ | ⟨-, -, hs'⟩ | ⟨hnot, -⟩
    · cases hs.symm.trans hcl
    · have hh : (step s (.request late)).breaker.currentState = .halfOpen := by
        rw [hs', CircuitBreaker.currentState_mk]
      have hca : CanClose (step s (.request late)) := by
        rw [CanClose, hs] at h
        rw [CanClose, hs']
        simpa using h
      obtain ⟨actions, hal, hcl⟩ := exists_closing hh hca
      refine ⟨.request late :: actions,
        succeedFrom_of_forall (by omega : t₀ ≤ t₀ * 2 ^ 32 + late.toNat) ?_, hcl⟩
      rw [hnow]
      exact forall_mem_cons.2 ⟨rfl, hal⟩
    · exact absurd ⟨hs, ht⟩ hnot

/-- The breaker opens at the first failure. -/
def firstFailure : List Action := [.request 0, .outcome 0 500 0]

/-- With two successes to close, it never does. -/
theorem firstFailure_never_recovers :
    ¬ Recovers (run step (start { failureThreshold := 1, successThreshold := 2 }) firstFailure) := by
  intro h
  have hc := canClose_of_recovers h
  have ho : (run step (start { failureThreshold := 1, successThreshold := 2 })
    firstFailure).breaker.currentState = .opened := by decide
  rw [CanClose, ho] at hc
  exact absurd hc (by decide)

end Portus.BreakerRecovery

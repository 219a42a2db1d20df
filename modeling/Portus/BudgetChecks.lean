import Mathlib.Tactic.SplitIfs
import Portus.DataPlane.Budget
import Portus.DataPlane.Windows
import Portus.Lib.Run

/-!
# What a budget counts and in which arithmetic

A request is held against what is left of its subject's budget by signed 64-bit figures, while the
client names `max_tokens` itself: a large one wraps around and is let through (`affordable_iff`).

A counter outlives the configuration it was made under. Each check hands it the limits of the policy
at hand; its unit, its window, its scope and what it does without an answer stay those of the first
version (`inEffect_iff`).
-/

namespace Portus.BudgetChecks

open DataPlane.Budget Lib

def estimate (maxTokens : Option UInt64) (requestBytes : UInt64) : UInt64 :=
  maxTokens.getD 0 + requestBytes / 4

def cost (unit : BudgetUnit) (maxTokens : Option UInt64) (requestBytes : UInt64) : UInt64 :=
  match unit with
  | .tokens => estimate maxTokens requestBytes
  | .calls => 1

def asked (maxTokens : Option UInt64) (requestBytes : UInt64) : Nat :=
  (maxTokens.getD 0).toNat + requestBytes.toNat / 4

def left (c : Counter) : Int :=
  c.budget.toNat - c.globalSpent.toNat - c.unsyncedSpent.toNat - c.reserved.toNat

theorem toInt_toInt64 (n : UInt64) : n.toInt64.toInt = (n.toNat : Int).bmod (2 ^ 64) :=
  BitVec.toInt_eq_toNat_bmod n.toBitVec

theorem toInt_remaining : c.remaining.toInt = (left c).bmod (2 ^ 64) := by
  simp [Counter.remaining, left, toInt_toInt64]

theorem toInt_cost : (cost .tokens maxTokens requestBytes).toInt64.toInt =
      (asked maxTokens requestBytes : Int).bmod (2 ^ 64) := by
  have hf : (4 : UInt64).toNat = 4 := rfl
  rw [toInt_toInt64, cost, estimate, UInt64.toNat_add, UInt64.toNat_div, asked, hf,
    Int.natCast_emod, Int.emod_bmod]

section Checks

variable (pod : Pod) (policy : BudgetPolicy) (maxTokens : Option UInt64) (requestBytes now : UInt64)
  (accepted : Bool)

/-- A request that is allowed asks for no more than is left, and that much is reserved for it. -/
def Affordable : Prop :=
  ∀ reservation, (pod.check policy (cost .tokens maxTokens requestBytes) now accepted).2 =
      .allow reservation →
    (asked maxTokens requestBytes : Int) ≤ left (pod.atWindow policy now).counter ∧
      (pod.check policy (cost .tokens maxTokens requestBytes) now accepted).1.counter.reserved.toNat
        = (pod.atWindow policy now).counter.reserved.toNat + asked maxTokens requestBytes

/-- Nothing has wrapped around where the cost, as a signed number, is no more than what is left. -/
def Exact : Prop :=
  let c := (pod.atWindow policy now).counter
  c.synced = true → 0 < (left c).bmod (2 ^ 64) →
    (asked maxTokens requestBytes : Int).bmod (2 ^ 64) ≤ (left c).bmod (2 ^ 64) →
    asked maxTokens requestBytes < 2 ^ 63 ∧ -2 ^ 63 ≤ left c

theorem admits_iff (c : Pod) : c.admits (cost .tokens maxTokens requestBytes) = true ↔
    c.counter.synced = true ∧ 0 < (left c.counter).bmod (2 ^ 64) ∧
      (asked maxTokens requestBytes : Int).bmod (2 ^ 64) ≤ (left c.counter).bmod (2 ^ 64) := by
  rw [← toInt_cost, ← toInt_remaining, Pod.admits, Bool.and_eq_true, Bool.not_eq_true',
    decide_eq_false_iff_not, not_or, Int64.not_le, Int64.not_lt, Int64.lt_iff_toInt_lt,
    Int64.le_iff_toInt_le]
  rfl

theorem admits_of_allow (h : (pod.check policy e now accepted).2 = .allow r) :
    (pod.atWindow policy now).admits e = true := by
  unfold Pod.check at h
  unfold Pod.admits
  dsimp only at h
  split_ifs at h with hs hr <;> simp_all

theorem reserved_check (h : (pod.atWindow policy now).admits e = true) :
    (pod.check policy e now accepted).1.counter.reserved =
      (pod.atWindow policy now).counter.reserved + e := by
  rw [pod.check_eq_reserve accepted h]
  unfold Pod.reserve Pod.ask
  dsimp only
  split_ifs <;> rfl

/-- What is allowed is affordable exactly when nothing wraps around. -/
theorem affordable_iff : Affordable pod policy maxTokens requestBytes now accepted ↔
    Exact pod policy maxTokens requestBytes now := by
  have hc : ∀ n : UInt64, n.toNat < 2 ^ 64 := UInt64.toNat_lt
  have hb := hc (pod.atWindow policy now).counter.budget
  constructor
  · intro h hs hp hle
    have hr := And.intro hp hle
    have had := (admits_iff _ _ _).2 ⟨hs, hr⟩
    obtain ⟨hfi, -⟩ := h _ (by rw [pod.check_eq_reserve accepted had])
    simp only [left, Int.bmod_def] at hr hfi ⊢
    split_ifs at hr <;> omega
  · intro h r hal
    have had := admits_of_allow pod policy now accepted hal
    have hr := (admits_iff _ _ _).1 had
    obtain ⟨has, hl⟩ := h hr.1 hr.2.1 hr.2.2
    rw [reserved_check pod policy now accepted had, cost, estimate, UInt64.toNat_add,
      UInt64.toNat_add, UInt64.toNat_div]
    simp only [left, asked, Int.bmod_def] at hr has hl ⊢
    have hfo : (4 : UInt64).toNat = 4 := rfl
    rw [hfo]
    split_ifs at hr <;> omega

end Checks

def tenLeft : Pod where
  counter := { Counter.new ⟨10, 10, .tokens⟩ with synced := true, windowEnd := 3600000000 }
  reservations := []
  sync := .idle

/-- Of ten tokens 2^63 are reserved. -/
theorem halfRange_not_affordable :
    ¬ Affordable tenLeft ⟨10, 10, .tokens⟩ (some 9223372036854775808) 0 0 true := by
  intro h
  have ha : (tenLeft.atWindow ⟨10, 10, .tokens⟩ 0).admits
      (cost .tokens (some 9223372036854775808) 0) = true := by decide +kernel
  exact absurd (h _ (by rw [tenLeft.check_eq_reserve true ha])).1 (by decide +kernel)

inductive Scope where
  | key
  | tenant
  | route
  | subject

structure Version extends BudgetPolicy where
  window : Window
  per : Scope
  failOpen : Bool

structure SyncRequest where
  window : Window
  limit : UInt64
  unit : BudgetUnit
  per : Scope
  failOpen : Bool
  subjectLimit : UInt64

def Version.request (v : Version) : SyncRequest :=
  ⟨v.window, v.routeLimit, v.unit, v.per, v.failOpen, v.limit⟩

/-- The counter of a policy and a subject, with what it took from the policy when it was made. -/
structure Held where
  pod : Pod
  window : Window
  per : Scope
  failOpen : Bool

def Held.new (v : Version) : Held :=
  ⟨⟨.new v.toBudgetPolicy, [], .idle⟩, v.window, v.per, v.failOpen⟩

def Held.request (h : Held) : SyncRequest :=
  ⟨h.window, h.pod.counter.routeLimit, h.pod.counter.unit, h.per, h.failOpen, h.pod.counter.budget⟩

inductive Action where
  | check (v : Version) (estimate now : UInt64) (accepted : Bool)
  | settle (i : Nat) (tokens : Option Tokens)
  | tick (now : UInt64) (accepted : Bool)
  | noClient
  | swap
  | store (spentTotal windowEnd : UInt64)
  | fail
  | loseAnswer
  | answer (now : UInt64)

structure State where
  held : Option Held := none
  /-- The version of the last check. -/
  latest : Option Version := none

def State.withPod (s : State) (f : Pod → Pod) : State :=
  { s with held := s.held.map fun h => { h with pod := f h.pod } }

def step (s : State) : Action → State
  | .check v estimate now accepted =>
    let h := s.held.getD (.new v)
    ⟨some { h with pod := (h.pod.check v.toBudgetPolicy estimate now accepted).1 }, some v⟩
  | .settle i tokens => s.withPod (·.settle i tokens)
  | .tick now accepted => s.withPod (·.tick now accepted)
  | .noClient => s.withPod (·.noClient)
  | .swap => s.withPod (·.swap)
  | .store spentTotal windowEnd => s.withPod fun pod =>
    match pod.sync with
    | .shipped delta => { pod with sync := .stored delta spentTotal windowEnd }
    | _ => pod
  | .fail => s.withPod (·.fail)
  | .loseAnswer => s.withPod (·.loseAnswer)
  | .answer now => s.withPod (·.answer now)

/-- The next settlement and the next sync request go by the version of the last check. -/
def InEffect (s : State) : Prop :=
  ∀ h, s.held = some h → ∀ v, s.latest = some v →
    (∀ tokens, actual h.pod.counter.unit tokens = actual v.unit tokens) ∧ h.request = v.request

/-- A version differs from the one that the counter was made for in its limits alone. -/
def KeepsKind (s : State) : Action → Prop
  | .check v _ _ _ => ∀ h, s.held = some h →
    v.window = h.window ∧ v.unit = h.pod.counter.unit ∧ v.per = h.per ∧ v.failOpen = h.failOpen
  | _ => True

def settings (pod : Pod) : UInt64 × UInt64 × BudgetUnit :=
  (pod.counter.budget, pod.counter.routeLimit, pod.counter.unit)

theorem settings_check (pod : Pod) (policy : BudgetPolicy) (estimate now : UInt64)
    (accepted : Bool) : settings (pod.check policy estimate now accepted).1 =
      (policy.limit, policy.routeLimit, pod.counter.unit) := by
  unfold Pod.check Pod.atWindow Pod.ask
  dsimp only
  split_ifs <;> rfl

theorem inEffect_withPod (hf : ∀ pod, settings (f pod) = settings pod)
    (h : InEffect s) : InEffect (s.withPod f) := by
  obtain ⟨held | h', latest⟩ := s
  · exact fun _ hh => nomatch hh
  · have hp := hf h'.pod
    simp only [settings, Prod.mk.injEq] at hp
    simpa [InEffect, State.withPod, Held.request, hp] using h

theorem inEffect_step_iff (h : InEffect s) :
    InEffect (step s a) ↔ KeepsKind s a := by
  have hk {f : Pod → Pod} (hf : ∀ pod, settings (f pod) = settings pod) :
      InEffect (s.withPod f) ↔ True := iff_true_intro (inEffect_withPod hf h)
  cases a with
  | check v e now accepted =>
    have hc := settings_check (s.held.getD (.new v)).pod v.toBudgetPolicy e now accepted
    simp only [settings, Prod.mk.injEq] at hc
    cases hh : s.held with
    | none =>
      simp_all [InEffect, step, KeepsKind, Held.request, Version.request, Held.new, Counter.new]
    | some h' =>
      simp_all [InEffect, step, KeepsKind, Held.request, Version.request]
      grind
  | settle i tokens => exact hk fun pod => by unfold Pod.settle; split <;> rfl
  | tick now accepted => exact hk fun pod => by unfold Pod.tick Pod.ask; split_ifs <;> rfl
  | noClient => exact hk fun pod => by unfold Pod.noClient; split <;> rfl
  | swap => exact hk fun pod => by unfold Pod.swap; split <;> rfl
  | store total windowEnd => exact hk fun pod => by split <;> rfl
  | fail => exact hk fun pod => by unfold Pod.fail; split <;> rfl
  | loseAnswer => exact hk fun pod => by unfold Pod.loseAnswer; split <;> rfl
  | answer now => exact hk fun pod => by unfold Pod.answer; split <;> rfl

/-- Versions take effect all along a run exactly when each differs from the first in its limits
alone. -/
theorem inEffect_iff (actions : List Action) :
    StepsMeet step (fun s a => InEffect (step s a)) {} actions ↔
      StepsMeet step KeepsKind {} actions :=
  stepsMeet_iff (J := fun _ => True) (fun _ _ _ => trivial) (fun s a _ => inEffect_step_iff)
    trivial (fun _ h => by cases h) actions

def tokensADay : Version := ⟨⟨1000, 1000, .tokens⟩, .daily, .key, false⟩

/-- The policy counts calls from the second check on; the counter goes on counting tokens. -/
theorem calls_not_inEffect : ¬ StepsMeet step (fun s a => InEffect (step s a)) {}
    [.check tokensADay 0 0 true, .check { tokensADay with unit := .calls } 0 0 true] := by
  rintro ⟨-, h, -⟩
  exact absurd ((h _ rfl _ rfl).1 none) (by decide)

end Portus.BudgetChecks

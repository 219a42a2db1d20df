import Portus.Reconcilers.Conflicts

/-!
# Targets with an accepted policy

A table is `Covered` when every target with a stored policy has an accepted one.
Storing and deleting policies keeps it so, as long as a target that a policy leaves
or is rejected on has another accepted policy (`covered_storePolicy`,
`covered_erase`).
-/

namespace Portus.Reconcilers

open Portus Lib

section Covered

variable {σ : Type}

/-- Every target with a stored policy has an accepted policy. -/
def Covered (t : PolicyTable σ) : Prop :=
  ∀ k p, t.lookup k = some p → ∃ k' q, t.lookup k' = some q ∧ q.target = p.target ∧
    q.accepted = true

/-- A policy other than the one under `key` is accepted on the target. -/
def AcceptedBeside (t : PolicyTable σ) (key : NamespacedName) (target : PolicyTargetKey) : Prop :=
  ∃ k q, k ≠ key ∧ t.lookup k = some q ∧ q.target = target ∧ q.accepted = true

/-- If the policy under `key` goes away, its target has an accepted policy or none at all. -/
def CoveredWithout (t : PolicyTable σ) (key : NamespacedName) (target : PolicyTargetKey) : Prop :=
  (∃ k q, k ≠ key ∧ t.lookup k = some q ∧ q.target = target) → AcceptedBeside t key target

theorem acceptedBeside_of_covered {q : PolicyState σ} (hc : Covered t)
    (hl : ∀ old, t.lookup key = some old → old.target = q.target →
      CoveredWithout t key q.target) (hk : k ≠ key) (hq : t.lookup k = some q) :
    AcceptedBeside t key q.target := by
  obtain ⟨k', q', hq', ht, ha⟩ := hc k q hq
  by_cases hke : k' = key
  · subst hke
    exact hl q' hq' ht ⟨k, q, hk, hq, rfl⟩
  · exact ⟨k', q', hke, hq', ht, ha⟩

theorem covered_storePolicy {t : PolicyTable σ} (hc : Covered t)
    (hl : ∀ old, t.lookup key = some old → old.target ≠ p.target →
      CoveredWithout t key old.target) (hr : valid = false → AcceptedBeside t key p.target) :
    Covered (storePolicy order key valid t p) := by
  intro k q hq
  by_cases ht : q.target = p.target
  · cases valid with
    | true =>
      obtain ⟨k', q', hq', ht', ha⟩ := exists_accepted_storePolicy
      exact ⟨k', q', hq', ht'.trans ht.symm, ha⟩
    | false =>
      obtain ⟨k', q', hne, hq', ht', ha⟩ := hr rfl
      exact ⟨k', q', (lookup_storePolicy_rejected hne).trans hq', ht'.trans ht.symm, ha⟩
  · -- a policy on another target is not the one just stored, and was there before
    have hk : k ≠ key := by
      rintro rfl
      have hs := shapeAt_storePolicy_self order k valid t p
      rw [shapeAt, hq, Option.map_some, Option.some.injEq, Prod.mk.injEq] at hs
      exact ht hs.1
    obtain ⟨q₀, hq₀, ht₀, -⟩ := exists_of_lookup_storePolicy hk hq
    obtain ⟨k', q', hne, hq', ht', ha⟩ := acceptedBeside_of_covered hc
      (fun old ho h => h ▸ hl old ho (by rwa [h, ht₀])) hk hq₀
    have ht'' : q'.target ≠ p.target := by rwa [ht', ht₀]
    exact ⟨k', q', lookup_storePolicy_of_target_ne hne ht'' hq', ht'.trans ht₀, ha⟩

theorem covered_erase (hc : Covered t)
    (hl : ∀ old, t.lookup key = some old → CoveredWithout t key old.target) :
    Covered (t.erase key) := by
  intro k q hq
  obtain ⟨hk, hq⟩ := Table.lookup_erase_eq_some.1 hq
  obtain ⟨k', q', hne, hq', ht', ha⟩ := acceptedBeside_of_covered hc
    (fun old ho h => h ▸ hl old ho) hk hq
  exact ⟨k', q', (AList.lookup_erase_ne hne).trans hq', ht', ha⟩

end Covered

end Portus.Reconcilers

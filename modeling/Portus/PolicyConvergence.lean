import Portus.Lib.Run
import Portus.Reconcilers.Conflicts

/-!
# Convergence of policy conflicts

The policies of one kind, from the watch to the store (`policy_common.rs`, `triggers.rs`). A
policy the cluster no longer has is evicted by the runtime's hook, which publishes an event
(`gone_policy`), or by the periodic prune, which does not (`prune_map`).

A target is resolved whenever a policy is stored on it, so it can only come apart when a
policy leaves it. Two ways of leaving wake nobody on the target that is left: a reconcile
that moves a policy publishes the new target only, and the prune publishes nothing.
-/

namespace Portus.PolicyConvergence

open Portus Lib Reconcilers List Option AList

structure Policy (σ : Type) where
  target : PolicyTargetKey
  spec : σ
  creationTimestamp : Option Int

def Policy.state {σ : Type} (policy : Policy σ) : PolicyState σ :=
  ⟨policy.target, policy.spec, policy.creationTimestamp, true⟩

structure PolicyEvent where
  key : NamespacedName
  target : PolicyTargetKey

variable {σ : Type}

section Controller

variable [DecidableEq σ]

def reconcilePublishing (order : IterOrder Contender) (key : NamespacedName) (policy : Policy σ)
    (policies : PolicyTable σ) : PolicyTable σ × Option PolicyEvent :=
  let after := storePolicy order key true policies policy.state
  (after,
    if policies.lookup key = after.lookup key then none
    else ((after.lookup key).or (policies.lookup key)).map fun p => ⟨key, p.target⟩)

def gonePolicy (key : NamespacedName) (policies : PolicyTable σ) :
    PolicyTable σ × Option PolicyEvent :=
  (policies.erase key, (policies.lookup key).map fun p => ⟨key, p.target⟩)

def policiesFor (event : PolicyEvent) (objects : Table NamespacedName (Policy σ)) :
    List NamespacedName :=
  (objects.pairs.filter fun e => e.1 ≠ event.key ∧ e.2.target = event.target).map (·.1)

structure State (σ : Type) where
  /-- What the watch has seen last. -/
  objects : Table NamespacedName (Policy σ)
  policies : PolicyTable σ
  /-- Events published and not yet delivered, oldest first. -/
  events : List PolicyEvent
  /-- The keys a reconcile is due for. -/
  todo : List NamespacedName
  /-- What a prune under way has found to be gone. -/
  stale : List NamespacedName

def start : State σ := ⟨∅, ∅, [], [], []⟩

inductive Action (σ : Type) where
  /-- A policy is created or its spec changes. -/
  | apply (key : NamespacedName) (policy : Policy σ)
  /-- A policy is deleted; the flag says whether the runtime asks for a reconcile. -/
  | delete (key : NamespacedName) (scheduled : Bool)
  | reconcile (order : IterOrder Contender) (key : NamespacedName)
  | deliver
  | prune
  | evict (key : NamespacedName)

def step (s : State σ) : Action σ → State σ
  | .apply key policy =>
    { s with objects := s.objects.insert key policy, todo := key :: s.todo }
  | .delete key scheduled =>
    { s with
      objects := s.objects.erase key
      todo := if scheduled then key :: s.todo else s.todo }
  | .reconcile order key =>
    let done := match s.objects.lookup key with
      | some policy => reconcilePublishing order key policy s.policies
      | none => gonePolicy key s.policies
    { s with
      policies := done.1
      events := s.events ++ done.2.toList
      todo := s.todo.filter (· ≠ key) }
  | .deliver =>
    match s.events with
    | [] => s
    | event :: events =>
      { s with events := events, todo := policiesFor event s.objects ++ s.todo }
  | .prune => { s with stale := s.policies.keys.filter fun k => (s.objects.lookup k).isNone }
  | .evict key =>
    if key ∈ s.stale then
      { s with policies := s.policies.erase key, stale := s.stale.filter (· ≠ key) }
    else s

end Controller

/-- If there are policies on the target, exactly one is accepted, and it wins against all. -/
def Resolved (policies : PolicyTable σ) (target : PolicyTargetKey) : Prop :=
  (∃ k p, policies.lookup k = some p ∧ p.target = target) →
    ∃ k p, policies.lookup k = some p ∧ p.target = target ∧ p.accepted = true ∧
      ∀ k' p', policies.lookup k' = some p' → p'.target = target →
        isPolicyWinner (k, p.creationTimestamp) (k', p'.creationTimestamp) = true ∧
          (p'.accepted = true → k' = k)

/-- Nothing is left to do: events are delivered, reconciles done, deletions evicted. -/
structure Quiescent (s : State σ) : Prop where
  delivered : s.events = []
  reconciled : s.todo = []
  evicted : ∀ k p, s.policies.lookup k = some p → s.objects.lookup k ≠ none

def Converged (s : State σ) : Prop := Quiescent s → ∀ target, Resolved s.policies target

/-- The policy can leave its target with nobody told: it is not the accepted one, or every other
policy there is due for a reconcile or gone itself. -/
def Dispensable (s : State σ) (key : NamespacedName) : Prop :=
  ∀ p, s.policies.lookup key = some p → p.accepted = true →
    ∀ k q, k ≠ key → s.policies.lookup k = some q → q.target = p.target →
      k ∈ s.todo ∨ s.objects.lookup k = none

/-- A reconcile moves only a policy its old target can do without, and so does the prune. -/
def Unmissed (s : State σ) : Action σ → Prop
  | .reconcile _ key => ∀ policy p, s.objects.lookup key = some policy →
      s.policies.lookup key = some p → p.target ≠ policy.target → Dispensable s key
  | .evict key => key ∈ s.stale → Dispensable s key
  | _ => True

section Targets

variable {policies policies' : PolicyTable σ} {key : NamespacedName} {target : PolicyTargetKey}

/-- On the target, `policies'` is `policies` without `key`. -/
def WithoutOn (target : PolicyTargetKey) (key : NamespacedName)
    (policies policies' : PolicyTable σ) : Prop :=
  ∀ k q, q.target = target → (policies'.lookup k = some q ↔ k ≠ key ∧ policies.lookup k = some q)

theorem withoutOn_erase : WithoutOn target key policies
    (policies.erase key) := by
  exact fun k q _ => Table.lookup_erase_eq_some

theorem withoutOn_storePolicy (ht : target ≠ p.target) :
    WithoutOn target key policies (storePolicy order key true policies p) := by
  intro k q hq
  have hne : q.target ≠ p.target := by rwa [hq]
  constructor
  · intro h
    have hk : k ≠ key := by
      rintro rfl
      have hs := shapeAt_storePolicy_self order k true policies p
      rw [shapeAt, h, map_some, Option.some.injEq, Prod.mk.injEq] at hs
      exact hne hs.1
    obtain ⟨q₀, hq₀, ht₀, -⟩ := exists_of_lookup_storePolicy hk h
    have hke : (storePolicy order key true policies p).lookup k = some q₀ :=
      lookup_storePolicy_of_target_ne hk (by rwa [ht₀]) hq₀
    rw [h] at hke
    cases hke
    exact ⟨hk, hq₀⟩
  · rintro ⟨hk, h⟩
    exact lookup_storePolicy_of_target_ne hk hne h

theorem Resolved.without (h : Resolved policies target)
    (hw : WithoutOn target key policies policies')
    (hacc : ∀ p, policies.lookup key = some p → p.target = target → p.accepted = false) :
    Resolved policies' target := by
  rintro ⟨k₀, p₀, hk₀, ht₀⟩
  obtain ⟨k, p, hk, ht, ha, hb⟩ := h ⟨k₀, p₀, ((hw k₀ p₀ ht₀).1 hk₀).2, ht₀⟩
  have hne : k ≠ key := by
    rintro rfl
    rw [hacc p hk ht] at ha
    cases ha
  refine ⟨k, p, (hw k p ht).2 ⟨hne, hk⟩, ht, ha, ?_⟩
  intro k' p' hk' ht'
  exact hb k' p' ((hw k' p' ht').1 hk').2 ht'

theorem resolved_storePolicy :
    Resolved (storePolicy order key true policies p) p.target := by
  intro _
  obtain ⟨w, ⟨hco, hwi⟩, hl⟩ := exists_winner
  obtain ⟨pw, hpw, htw, hts⟩ := mem_contenders.1 (mem_contenders_insert.2 hco)
  refine ⟨w.1, { pw with accepted := true }, ?_, htw, rfl, ?_⟩
  · rw [hl, hpw, map_some, if_pos htw]
    simp
  · intro k' p' hk' ht'
    rw [hl, map_eq_some_iff] at hk'
    obtain ⟨q, hq, rfl⟩ := hk'
    dsimp only at ht' ⊢
    have htq : q.target = p.target := by
      split at ht' <;> exact ht'
    have hb := hwi (k', q.creationTimestamp)
      (mem_contenders_insert.1 (mem_contenders.2 ⟨q, hq, htq, rfl⟩))
    rw [if_pos htq]
    exact ⟨by rwa [hts], by simp⟩

end Targets

/-- The policy will be reconciled, or is gone, or is woken by an event on the target. -/
def Awaits (s : State σ) (target : PolicyTargetKey) (k : NamespacedName) : Prop :=
  k ∈ s.todo ∨ s.objects.lookup k = none ∨ ∃ e ∈ s.events, e.target = target ∧ e.key ≠ k

def Woken (s : State σ) (target : PolicyTargetKey) : Prop :=
  ∀ k p, s.policies.lookup k = some p → p.target = target → Awaits s target k

theorem Awaits.mono {s s' : State σ} (h : Awaits s target k) (hto : k ∈ s.todo → k ∈ s'.todo)
    (ho : s.objects.lookup k = none → s'.objects.lookup k = none) (he : s.events ⊆ s'.events) :
    Awaits s' target k :=
  h.imp hto (Or.imp ho fun ⟨e, hm, hr⟩ => ⟨e, he hm, hr⟩)

structure Inv (s : State σ) : Prop where
  /-- What is stored for a policy names its target, or the policy is due. -/
  synced : ∀ k p policy, s.policies.lookup k = some p → s.objects.lookup k = some policy →
    k ∈ s.todo ∨ p.target = policy.target
  settled : ∀ target, Resolved s.policies target ∨ Woken s target

theorem Inv.converged {s : State σ} (h : Inv s) : Converged s := by
  intro hq target
  rcases h.settled target with hr | hw
  · exact hr
  · rintro ⟨k, p, hk, ht⟩
    rcases hw k p hk ht with hto | hg | ⟨e, he, -⟩
    · rw [hq.reconciled] at hto
      cases hto
    · exact absurd hg (hq.evicted k p hk)
    · rw [hq.delivered] at he
      cases he

theorem settled_without {s : State σ} {key : NamespacedName} {target : PolicyTargetKey}
    (hs : Resolved s.policies target ∨ Woken s target)
    (hw : WithoutOn target key s.policies s'.policies)
    (hke : ∀ k, k ≠ key → Awaits s target k → Awaits s' target k)
    (hl : ∀ p, s.policies.lookup key = some p → p.target = target → p.accepted = true →
      ∀ k q, k ≠ key → s.policies.lookup k = some q → q.target = target → Awaits s' target k) :
    Resolved s'.policies target ∨ Woken s' target := by
  by_cases hm : ∃ p, s.policies.lookup key = some p ∧ p.target = target ∧ p.accepted = true
  · obtain ⟨p, hp, ht, ha⟩ := hm
    right
    intro k q hk htq
    obtain ⟨hne, hk⟩ := (hw k q htq).1 hk
    exact hl p hp ht ha k q hne hk htq
  · rcases hs with hr | hwo
    · refine .inl (hr.without hw fun p hp ht => ?_)
      exact Bool.eq_false_iff.2 fun ha => hm ⟨p, hp, ht, ha⟩
    · right
      intro k q hk htq
      obtain ⟨hne, hk⟩ := (hw k q htq).1 hk
      exact hke k hne (hwo k q hk htq)

theorem inv_start : Inv (start : State σ) where
  synced := by
    intro k p o hk
    cases hk
  settled := by
    rintro target
    left
    rintro ⟨k, p, hk, -⟩
    cases hk

theorem mem_policiesFor (hk : objects.lookup k = some policy) (ht : policy.target = event.target)
    (hne : event.key ≠ k) : k ∈ policiesFor event objects :=
  List.mem_map.2 ⟨(k, policy), mem_filter.2 ⟨Table.mem_pairs.2 hk, by simp [ht, hne.symm]⟩, rfl⟩

section Steps

variable [DecidableEq σ] {s : State σ}

theorem Inv.apply (h : Inv s) (key : NamespacedName) (policy : Policy σ) :
    Inv (step s (.apply key policy)) where
  synced := by
    intro k p o hk ho
    by_cases hke : k = key
    · exact .inl (hke ▸ mem_cons_self)
    · simp only [step, lookup_insert_ne hke] at ho
      exact (h.synced k p o hk ho).imp_left (mem_cons_of_mem key)
  settled := by
    intro target
    refine (h.settled target).imp_right fun hw k p hk ht => ?_
    by_cases hke : k = key
    · exact .inl (hke ▸ mem_cons_self)
    · exact (hw k p hk ht).mono (mem_cons_of_mem key) (lookup_insert_ne hke).trans (.refl _)

theorem Inv.delete (h : Inv s) (key : NamespacedName) (scheduled : Bool) :
    Inv (step s (.delete key scheduled)) := by
  have hto {k : NamespacedName} (hk : k ∈ s.todo) : k ∈ (step s (.delete key scheduled)).todo := by
    cases scheduled
    · exact hk
    · exact mem_cons_of_mem key hk
  constructor
  · intro k p o hk ho
    exact (h.synced k p o hk (Table.lookup_erase_eq_some.1 ho).2).imp_left hto
  · intro target
    refine (h.settled target).imp_right fun hw k p hk ht => ?_
    by_cases hke : k = key
    · exact .inr (.inl (hke ▸ lookup_erase key s.objects))
    · exact (hw k p hk ht).mono hto (lookup_erase_ne hke).trans (.refl _)

theorem Inv.deliver (h : Inv s) : Inv (step s .deliver) := by
  cases hev : s.events with
  | nil =>
    simp only [step, hev]
    exact h
  | cons event events =>
    simp only [step, hev]
    constructor
    · intro k p o hk ho
      exact (h.synced k p o hk ho).imp_left (mem_append_right _)
    · intro target
      refine (h.settled target).imp_right fun hw k p hk ht => ?_
      rcases hw k p hk ht with hto | hg | ⟨e, he, het, hek⟩
      · exact .inl (mem_append_right _ hto)
      · exact .inr (.inl hg)
      · rw [hev, mem_cons] at he
        rcases he with rfl | he
        · cases ho : s.objects.lookup k with
          | none => exact .inr (.inl ho)
          | some policy =>
            left
            rcases h.synced k p policy hk ho with hd | hta
            · exact mem_append_right _ hd
            · have hp : policy.target = e.target := by rw [← hta, ht, het]
              exact mem_append_left _ (mem_policiesFor ho hp hek)
        · exact .inr (.inr ⟨e, he, het, hek⟩)

theorem Inv.evict (h : Inv s) {key : NamespacedName} (hok : Unmissed s (.evict key)) :
    Inv (step s (.evict key)) := by
  by_cases hs : key ∈ s.stale
  · simp only [step, if_pos hs]
    constructor
    · intro k p o hk ho
      exact h.synced k p o (Table.lookup_erase_eq_some.1 hk).2 ho
    · intro target
      refine settled_without (h.settled target) withoutOn_erase (fun _ _ haw => haw) ?_
      rintro p hp rfl ha k q hne hk htq
      rcases hok hs p hp ha k q hne hk htq with hd | hg
      · exact .inl hd
      · exact .inr (.inl hg)
  · simp only [step, if_neg hs]
    exact h

theorem Inv.reconcile_some (h : Inv s) {key : NamespacedName}
    (hob : s.objects.lookup key = some policy) (hok : Unmissed s (.reconcile order key)) :
    Inv (step s (.reconcile order key)) := by
  simp only [step, hob, reconcilePublishing]
  constructor
  · intro k p o hk ho
    by_cases hkey : k = key
    · subst hkey
      have hs := shapeAt_storePolicy_self order k true s.policies policy.state
      rw [shapeAt, hk, map_some, Option.some.injEq, Prod.mk.injEq] at hs
      rw [hob, Option.some.injEq] at ho
      exact .inr (hs.1.trans (congrArg Policy.target ho))
    · obtain ⟨q, hq, hqt, -⟩ := exists_of_lookup_storePolicy hkey hk
      refine (h.synced k q o hq ho).imp (fun hd => ?_) fun ht => hqt.symm.trans ht
      exact mem_filter.2 ⟨hd, by simpa using hkey⟩
  · intro target
    by_cases ht : target = policy.target
    · subst ht
      exact .inl resolved_storePolicy
    · have hk' (k : NamespacedName) (hne : k ≠ key) (hd : k ∈ s.todo) :
          k ∈ s.todo.filter (· ≠ key) := mem_filter.2 ⟨hd, by simpa using hne⟩
      refine settled_without (h.settled target) (withoutOn_storePolicy ht) ?_ ?_
      · exact fun k hne haw => haw.mono (hk' k hne) id (subset_append_left _ _)
      · rintro p hp rfl ha k q hne hk htq
        rcases hok policy p hob hp ht p hp ha k q hne hk htq with hd | hg
        · exact .inl (hk' k hne hd)
        · exact .inr (.inl hg)

theorem Inv.reconcile_none (h : Inv s) {key : NamespacedName}
    (hob : s.objects.lookup key = none) : Inv (step s (.reconcile order key)) := by
  simp only [step, hob, gonePolicy]
  have hke (k : NamespacedName) (hne : k ≠ key) (hd : k ∈ s.todo) :
      k ∈ s.todo.filter (· ≠ key) := mem_filter.2 ⟨hd, by simpa using hne⟩
  constructor
  · intro k p o hk ho
    obtain ⟨hne, hk⟩ := Table.lookup_erase_eq_some.1 hk
    exact (h.synced k p o hk ho).imp_left (hke k hne)
  · intro target
    refine settled_without (h.settled target) withoutOn_erase ?_ ?_
    · exact fun k hne haw => haw.mono (hke k hne) id (subset_append_left _ _)
    · -- the event of the eviction wakes the others
      rintro p hp rfl - k q hne - -
      refine .inr (.inr ⟨⟨key, p.target⟩, mem_append_right _ ?_, rfl, hne.symm⟩)
      simp [hp]

theorem inv_step (a : Action σ) (h : Inv s) (hok : Unmissed s a) : Inv (step s a) := by
  cases a with
  | apply key policy => exact h.apply key policy
  | delete key scheduled => exact h.delete key scheduled
  | deliver => exact h.deliver
  | prune => exact ⟨h.synced, h.settled⟩
  | evict key => exact h.evict hok
  | reconcile order key =>
    cases ho : s.objects.lookup key with
    | some policy => exact h.reconcile_some ho hok
    | none => exact h.reconcile_none ho

end Steps

/-- Whenever such a run has nothing left to do, every target with a policy has exactly one accepted
policy, the oldest. -/
theorem converged_run {σ : Type} [DecidableEq σ] (actions : List (Action σ))
    (h : StepsMeet step Unmissed start actions) : Converged (run step start actions) :=
  (run_invariant (fun _ a => inv_step a) inv_start h).converged

section Fixtures

def onRoute (name : String) : PolicyTargetKey :=
  { kind := "HTTPRoute", namespaceName := "shop", name := name }

def older : NamespacedName := ⟨"shop", "older"⟩

def younger : NamespacedName := ⟨"shop", "younger"⟩

def bothSettled : List (Action Unit) :=
  [.apply older ⟨onRoute "api", (), some 1⟩, .apply younger ⟨onRoute "api", (), some 2⟩,
    .reconcile .insertion older, .reconcile .insertion younger, .deliver, .deliver,
    .reconcile .insertion older, .reconcile .insertion younger]

theorem unmissed_reconcile {s : State σ} {key : NamespacedName}
    (h : ∀ policy ∈ s.objects.lookup key, ∀ p ∈ s.policies.lookup key,
      p.target = policy.target) : Unmissed s (.reconcile order key) := by
  intro policy p hpo hp hne
  exact absurd (h policy hpo p hp) hne

theorem quiescent_of_pairs {s : State σ} (he : s.events = []) (ht : s.todo = [])
    (h : ∀ e ∈ s.policies.pairs, s.objects.lookup e.1 ≠ none) : Quiescent s :=
  ⟨he, ht, fun k p hk => h (k, p) (Table.mem_pairs.2 hk)⟩

theorem not_resolved {policies : PolicyTable σ} {target : PolicyTargetKey} (he : e ∈ policies.pairs)
    (ht : e.2.target = target)
    (h : ∀ e ∈ policies.pairs, e.2.target = target → e.2.accepted = false) :
    ¬ Resolved policies target := by
  intro hr
  obtain ⟨k, p, hk, hkt, ha, -⟩ := hr ⟨e.1, e.2, Table.mem_pairs.1 he, ht⟩
  rw [h (k, p) (Table.mem_pairs.2 hk) hkt] at ha
  cases ha

def olderDeleted : List (Action Unit) :=
  bothSettled ++ [.delete older true, .reconcile .insertion older, .deliver,
    .reconcile .insertion younger, .deliver]

theorem olderDeleted_resolved : Quiescent (run step start olderDeleted) ∧
      Resolved (run step start olderDeleted).policies (onRoute "api") := by
  have hm : StepsMeet step Unmissed start olderDeleted := by
    refine ⟨trivial, trivial, unmissed_reconcile ?_, unmissed_reconcile ?_, trivial, trivial,
      unmissed_reconcile ?_, unmissed_reconcile ?_, trivial, unmissed_reconcile ?_, trivial,
      unmissed_reconcile ?_, trivial, trivial⟩ <;> decide +kernel
  have hq : Quiescent (run step start olderDeleted) :=
    quiescent_of_pairs (by decide +kernel) (by decide +kernel) (by decide +kernel)
  exact ⟨hq, converged_run olderDeleted hm hq _⟩

def olderMoved : List (Action Unit) :=
  bothSettled ++ [.apply older ⟨onRoute "web", (), some 1⟩, .reconcile .insertion older, .deliver]

def olderPruned : List (Action Unit) :=
  bothSettled ++ [.delete older false, .prune, .evict older]

/-- Either way the younger policy, alone on its route, stays unaccepted. -/
theorem younger_left_unaccepted :
    ¬ Converged (run step start olderMoved) ∧ ¬ Converged (run step start olderPruned) := by
  let left : NamespacedName × PolicyState Unit := (younger, ⟨onRoute "api", (), some 2, false⟩)
  have hm : Quiescent (run step start olderMoved) :=
    quiescent_of_pairs (by decide +kernel) (by decide +kernel) (by decide +kernel)
  have hp : Quiescent (run step start olderPruned) :=
    quiescent_of_pairs (by decide +kernel) (by decide +kernel) (by decide +kernel)
  have hnm : ¬ Resolved (run step start olderMoved).policies (onRoute "api") :=
    not_resolved (show left ∈ _ by decide +kernel) rfl (by decide +kernel)
  have hnp : ¬ Resolved (run step start olderPruned).policies (onRoute "api") :=
    not_resolved (show left ∈ _ by decide +kernel) rfl (by decide +kernel)
  exact ⟨fun h => hnm (h hm _), fun h => hnp (h hp _)⟩

end Fixtures

end Portus.PolicyConvergence

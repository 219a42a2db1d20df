import Mathlib
import Portus.Lib.Choice
import Portus.Store

/-!
# Conflicts between policies on one target

`policy_common.rs`: the policies of a kind that name the same target contend for it;
the oldest wins, a missing timestamp counts as youngest, and the printed key breaks
ties (`isPolicyWinner`). `resolveConflicts` runs after a policy that passed its own
checks is stored, and writes the `accepted` flag of every contender.
-/

namespace Portus.Reconcilers

open Portus Lib List Option AList Prod

/-- A policy as conflict resolution sees it: its key and its creation timestamp. -/
abbrev Contender := NamespacedName × Option Int

/-- The existing policy wins over a new one: oldest first, then by the printed key. -/
def isPolicyWinner (existing new : Contender) : Bool :=
  match existing.2, new.2 with
  | some e, some n => if e = n then existing.1.display ≤ new.1.display else e < n
  | some _, none => true
  | none, some _ => false
  | none, none => existing.1.display ≤ new.1.display

def created : Option Int → WithTop Int
  | none => ⊤
  | some t => (t : WithTop Int)

def rank (c : Contender) : WithTop Int ×ₗ String := toLex (created c.2, c.1.display)

theorem isPolicyWinner_iff : isPolicyWinner a b = true ↔ rank a ≤ rank b := by
  obtain ⟨ka, ta⟩ := a
  obtain ⟨kb, tb⟩ := b
  unfold isPolicyWinner rank
  rw [Prod.Lex.toLex_le_toLex]
  cases ta with
  | none => cases tb <;> simp [created]
  | some e =>
    cases tb with
    | none => simp [created, WithTop.coe_lt_top]
    | some n =>
      by_cases h : e = n
      all_goals simp [created, h]

theorem isPolicyWinner_total (a b : Contender) :
    isPolicyWinner a b = true ∨ isPolicyWinner b a = true := by
  simpa only [isPolicyWinner_iff] using le_total (rank a) (rank b)

theorem isPolicyWinner_trans (a b c : Contender) (hab : isPolicyWinner a b = true)
    (hbc : isPolicyWinner b c = true) : isPolicyWinner a c = true :=
  isPolicyWinner_iff.2 ((isPolicyWinner_iff.1 hab).trans (isPolicyWinner_iff.1 hbc))

section Resolve

variable {σ : Type}

abbrev PolicyTable (σ : Type) := Table NamespacedName (PolicyState σ)

def contenders (target : PolicyTargetKey) (policies : PolicyTable σ) : List Contender :=
  (policies.pairs.filter fun e => e.2.target = target).map fun e => (e.1, e.2.creationTimestamp)

def setAccepted (policies : PolicyTable σ) (key : NamespacedName) (v : Bool) : PolicyTable σ :=
  match policies.lookup key with
  | some p => policies.insert key { p with accepted := v }
  | none => policies

/-- The contender that wins the target; the one looked at first when they are equal. -/
def winner (first : Contender) (rest : List Contender) : Contender :=
  keepBest isPolicyWinner first rest

/-- Write the `accepted` flags of the policies on a target. With one contender it is the policy
just stored; among several only the winner is accepted. -/
def resolveConflicts (order : IterOrder Contender) (currentKey : NamespacedName)
    (target : PolicyTargetKey) (policies : PolicyTable σ) : PolicyTable σ :=
  match order.order (contenders target policies) with
  | first :: second :: rest =>
    (first :: second :: rest).foldl
      (fun t c => setAccepted t c.1 (c.1 = (winner first (second :: rest)).1)) policies
  | _ => setAccepted policies currentKey true

variable {policies : PolicyTable σ} {q p : PolicyState σ}

theorem mem_contenders : c ∈ contenders target policies ↔
      ∃ p, policies.lookup c.1 = some p ∧ p.target = target ∧ p.creationTimestamp = c.2 := by
  simp only [contenders, List.mem_map, mem_filter, decide_eq_true_eq]
  constructor
  · rintro ⟨⟨k, p⟩, ⟨hm, ht⟩, rfl⟩
    exact ⟨p, Table.mem_pairs.1 hm, ht, rfl⟩
  · rintro ⟨p, hl, ht, hts⟩
    exact ⟨(c.1, p), ⟨Table.mem_pairs.2 hl, ht⟩, Prod.ext rfl hts⟩

theorem lookup_setAccepted : (setAccepted policies key v).lookup k =
      (policies.lookup k).map fun p => if k = key then { p with accepted := v } else p := by
  unfold setAccepted
  by_cases hk : k = key
  · subst hk
    cases h : policies.lookup k <;> simp [h]
  · split <;> simp [hk]

theorem lookup_foldl_setAccepted (keys : List Contender)
    (v : NamespacedName → Bool) :
    (keys.foldl (fun t c => setAccepted t c.1 (v c.1)) policies).lookup k =
      (policies.lookup k).map fun p =>
        if k ∈ keys.map (·.1) then { p with accepted := v k } else p := by
  induction keys generalizing policies with
  | nil => simp
  | cons c keys ih =>
    rw [foldl_cons, ih, lookup_setAccepted, Option.map_map]
    congr 1
    funext p
    by_cases hk : k = c.1
    · subst hk
      simp
    · simp only [Function.comp_apply, map_cons, mem_cons, hk, if_false, false_or]

def winnerOf (order : IterOrder Contender) (target : PolicyTargetKey) (policies : PolicyTable σ) :
    Option Contender :=
  match order.order (contenders target policies) with
  | first :: second :: rest => some (winner first (second :: rest))
  | _ => none

theorem lookup_resolveConflicts :
    (resolveConflicts order key target policies).lookup k = (policies.lookup k).map fun p =>
        match winnerOf order target policies with
        | some w => if p.target = target then { p with accepted := k = w.1 } else p
        | none => if k = key then { p with accepted := true } else p := by
  have hm (c : Contender) : c ∈ order.order (contenders target policies) ↔ _ :=
    order.mem_order.trans mem_contenders
  unfold resolveConflicts winnerOf
  split
  next first second rest hl =>
    rw [hl] at hm
    rw [lookup_foldl_setAccepted _ fun k => k = (winner first (second :: rest)).1]
    cases hp : policies.lookup k with
    | none => rfl
    | some p =>
      have hi : k ∈ (first :: second :: rest).map (·.1) ↔ p.target = target := by
        rw [List.mem_map]
        constructor
        · rintro ⟨c, hc, rfl⟩
          obtain ⟨q, hq, ht, -⟩ := (hm c).1 hc
          rw [hp] at hq
          cases hq
          exact ht
        · intro ht
          exact ⟨(k, p.creationTimestamp), (hm _).2 ⟨p, hp, ht, rfl⟩, rfl⟩
      simp only [map_some, hi]
  next =>
    rw [lookup_setAccepted]

variable {order : IterOrder Contender} {key k : NamespacedName} {valid : Bool}

theorem winnerOf_spec (h : winnerOf order target policies = some w) :
    w ∈ contenders target policies ∧
      ∀ c ∈ contenders target policies, isPolicyWinner w c = true := by
  unfold winnerOf at h
  split at h
  next first second rest hl =>
    cases h
    have hm (c : Contender) : c ∈ first :: second :: rest ↔ c ∈ contenders target policies := by
      rw [← hl]
      exact order.mem_order
    exact ⟨(hm _).1 (keepBest_mem _ _ _), fun c hc =>
      keepBest_wins isPolicyWinner_total isPolicyWinner_trans _ _ c ((hm c).2 hc)⟩
  next => cases h

theorem winnerOf_isSome (ha : a ∈ contenders target policies) (hb : b ∈ contenders target policies)
    (hab : a ≠ b) : ∃ w, winnerOf order target policies = some w := by
  unfold winnerOf
  split
  next => exact ⟨_, rfl⟩
  next l hl =>
    exfalso
    have ha' := order.mem_order.2 ha
    have hb' := order.mem_order.2 hb
    match hc : order.order (contenders target policies) with
    | [] => rw [hc] at ha'; cases ha'
    | [c] =>
      rw [hc, mem_singleton] at ha' hb'
      exact hab (ha'.trans hb'.symm)
    | first :: second :: rest => exact hl _ _ _ hc

/-- Store a policy: accepted and resolved against its contenders when it passed its own checks,
and otherwise not accepted, where later conflict resolution still finds it. -/
def storePolicy (order : IterOrder Contender) (key : NamespacedName) (valid : Bool)
    (policies : PolicyTable σ) (p : PolicyState σ) : PolicyTable σ :=
  if valid then
    resolveConflicts order key p.target (policies.insert key { p with accepted := true })
  else policies.insert key { p with accepted := false }

/-- Store the states of a policy one after the other, one for each target it names. -/
def storePolicies (order : IterOrder Contender) (key : NamespacedName) (valid : Bool)
    (states : List (PolicyState σ)) (policies : PolicyTable σ) : PolicyTable σ :=
  states.foldl (storePolicy order key valid) policies

theorem map_lookup_storePolicy (hf : ∀ p v, f { p with accepted := v } = f p)
    (order : IterOrder Contender) (key : NamespacedName) (valid : Bool) (policies : PolicyTable σ)
    (p : PolicyState σ) (k : NamespacedName) :
    ((storePolicy order key valid policies p).lookup k).map f =
      if k = key then some (f p) else (policies.lookup k).map f := by
  have hi (v : Bool) : ((policies.insert key { p with accepted := v }).lookup k).map f =
      if k = key then some (f p) else (policies.lookup k).map f := by
    rw [Table.lookup_insert_apply]
    split
    · rw [map_some, hf]
    · rfl
  unfold storePolicy
  split
  · rw [lookup_resolveConflicts, Option.map_map, ← hi true]
    congr 1
    funext q
    simp only [Function.comp_apply]
    split <;> split <;> first | rfl | exact hf _ _
  · exact hi false

theorem spec_of_lookup_storePolicies
    (h : (storePolicies order key valid states policies).lookup k = some q) :
    (∃ p ∈ states, q.spec = p.spec) ∨ ∃ q₀, policies.lookup k = some q₀ ∧ q.spec = q₀.spec := by
  induction states generalizing policies with
  | nil => exact .inr ⟨q, h, rfl⟩
  | cons p states ih =>
    rcases ih h with ⟨p', hp', heq⟩ | ⟨q₀, hq₀, heq⟩
    · exact .inl ⟨p', mem_cons_of_mem _ hp', heq⟩
    · have hs : ((storePolicy order key valid policies p).lookup k).map PolicyState.spec =
          if k = key then some p.spec else (policies.lookup k).map PolicyState.spec :=
        map_lookup_storePolicy (fun _ _ => rfl) order key valid policies p k
      rw [hq₀] at hs
      split at hs
      · exact .inl ⟨p, mem_cons_self, heq.trans (Option.some.inj hs)⟩
      · obtain ⟨q₁, hq₁, hs⟩ := map_eq_some_iff.1 hs.symm
        exact .inr ⟨q₁, hq₁, heq.trans hs.symm⟩

def shapeAt (policies : PolicyTable σ) (k : NamespacedName) :
    Option (PolicyTargetKey × Option Int) :=
  (policies.lookup k).map fun p => (p.target, p.creationTimestamp)

theorem shapeAt_storePolicy (hk : k ≠ key) :
    shapeAt (storePolicy order key valid policies p) k = shapeAt policies k := by
  rw [shapeAt, map_lookup_storePolicy (fun _ _ => rfl), if_neg hk, shapeAt]

theorem exists_of_lookup_storePolicy (hk : k ≠ key)
    (hq : (storePolicy order key valid policies p).lookup k = some q) :
    ∃ q₀, policies.lookup k = some q₀ ∧ q₀.target = q.target ∧
      q₀.creationTimestamp = q.creationTimestamp := by
  have hs : shapeAt (storePolicy order key valid policies p) k = shapeAt policies k :=
    shapeAt_storePolicy hk
  rw [shapeAt, hq, map_some, shapeAt, eq_comm, map_eq_some_iff] at hs
  obtain ⟨q₀, hq₀, h⟩ := hs
  exact ⟨q₀, hq₀, congrArg fst h, congrArg snd h⟩

theorem shapeAt_storePolicy_self (order : IterOrder Contender) (key : NamespacedName)
    (valid : Bool) (policies : PolicyTable σ) (p : PolicyState σ) :
    shapeAt (storePolicy order key valid policies p) key =
      some (p.target, p.creationTimestamp) := by
  rw [shapeAt, map_lookup_storePolicy (fun _ _ => rfl), if_pos rfl]

theorem lookup_storePolicy_rejected (hk : k ≠ key) :
    (storePolicy order key false policies p).lookup k = policies.lookup k := by
  rw [storePolicy, if_neg Bool.false_ne_true, lookup_insert_ne hk]

/-- A contender for the target once a policy under `key` is stored there: that policy itself or
another stored one. -/
def ContendsWith (policies : PolicyTable σ) (key : NamespacedName) (p : PolicyState σ)
    (c : Contender) : Prop :=
  c = (key, p.creationTimestamp) ∨ (c.1 ≠ key ∧ shapeAt policies c.1 = some (p.target, c.2))

theorem mem_contenders_insert :
    c ∈ contenders p.target (policies.insert key { p with accepted := v }) ↔
      ContendsWith policies key p c := by
  rw [mem_contenders, ContendsWith]
  by_cases hc : c.1 = key
  · obtain ⟨k, ts⟩ := c
    subst hc
    simp [lookup_insert, eq_comm]
  · rw [lookup_insert_ne hc]
    simp only [shapeAt, map_eq_some_iff, Prod.mk.injEq, ne_eq, hc, not_false_eq_true, true_and]
    constructor
    · intro h
      exact .inr h
    · rintro (h | h)
      · exact absurd (congrArg fst h) hc
      · exact h

/-- What storing a policy that passed its checks does: one of the contenders for its target wins
against all of them, and is the one that is accepted there. -/
theorem exists_winner :
    ∃ w, (ContendsWith policies key p w ∧
        ∀ c, ContendsWith policies key p c → isPolicyWinner w c = true) ∧
      ∀ k, (storePolicy order key true policies p).lookup k =
        ((policies.insert key { p with accepted := true }).lookup k).map fun q =>
          if q.target = p.target then { q with accepted := decide (k = w.1) } else q := by
  have hs : ContendsWith policies key p (key, p.creationTimestamp) := .inl rfl
  simp only [storePolicy, if_true, lookup_resolveConflicts]
  cases hw : winnerOf order p.target (policies.insert key { p with accepted := true }) with
  | some w =>
    obtain ⟨hm, hwi⟩ := winnerOf_spec hw
    exact ⟨w, ⟨mem_contenders_insert.1 hm, fun c hc => hwi c (mem_contenders_insert.2 hc)⟩,
      fun _ => rfl⟩
  | none =>
    -- nobody else is on the target
    have ho (c) (hc : ContendsWith policies key p c) : c = (key, p.creationTimestamp) := by
      by_contra hne
      obtain ⟨w, hw'⟩ := winnerOf_isSome (mem_contenders_insert.2 hc) (mem_contenders_insert.2 hs) hne
      rw [hw] at hw'
      cases hw'
    refine ⟨_, ⟨hs, fun c hc => by rw [ho c hc, isPolicyWinner_iff]⟩, fun k => ?_⟩
    by_cases hk : k = key
    · subst hk
      simp
    · rw [lookup_insert_ne hk]
      cases hq : policies.lookup k with
      | none => rfl
      | some q =>
        have ht : q.target ≠ p.target := fun ht => hk (congrArg fst
          (ho (k, q.creationTimestamp) (.inr ⟨hk, by rw [shapeAt, hq, map_some, ht]⟩)))
        simp [hk, ht]

theorem accepted_storePolicy (hk : k ≠ key)
    (hq : (storePolicy order key true policies p).lookup k = some q) (ha : q.accepted = true) :
    (q.target ≠ p.target ∧ policies.lookup k = some q) ∨
      (q.target = p.target ∧ ∀ c, ContendsWith policies key p c →
        isPolicyWinner (k, q.creationTimestamp) c = true) := by
  obtain ⟨w, ⟨hco, hwi⟩, hl⟩ := exists_winner
  rw [hl, lookup_insert_ne hk, map_eq_some_iff] at hq
  obtain ⟨q₀, hq₀, rfl⟩ := hq
  by_cases ht : q₀.target = p.target
  · simp only [ht, if_true, decide_eq_true_eq] at ha ⊢
    subst ha
    -- the winner has this key, so it is this policy
    have hw : w = (w.1, q₀.creationTimestamp) := by
      rcases hco with h | ⟨-, h⟩
      · exact absurd (congrArg fst h) hk
      · rw [shapeAt, hq₀, map_some, Option.some.injEq, Prod.mk.injEq] at h
        exact Prod.ext rfl h.2.symm
    exact .inr ⟨trivial, hw ▸ hwi⟩
  · rw [if_neg ht]
    exact .inl ⟨ht, hq₀⟩

theorem lookup_storePolicy_of_target_ne (hk : k ≠ key) (ht : q.target ≠ p.target)
    (hq : policies.lookup k = some q) :
    (storePolicy order key valid policies p).lookup k = some q := by
  cases valid with
  | true =>
    obtain ⟨w, -, hl⟩ := exists_winner
    rw [hl, lookup_insert_ne hk, hq, map_some, if_neg ht]
  | false => exact (lookup_storePolicy_rejected hk).trans hq

theorem exists_accepted_storePolicy :
    ∃ k q, (storePolicy order key true policies p).lookup k = some q ∧ q.target = p.target ∧
      q.accepted = true := by
  obtain ⟨w, ⟨hco, -⟩, hl⟩ := exists_winner
  obtain ⟨q, hq, ht, -⟩ := mem_contenders.1 (mem_contenders_insert.2 hco)
  refine ⟨w.1, { q with accepted := true }, ?_, ht, rfl⟩
  rw [hl, hq, map_some, if_pos ht]
  simp

end Resolve

end Portus.Reconcilers

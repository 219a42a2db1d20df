import Portus.Triggers

/-!
# What a BasicAuthPolicy, an APIKeyAuthPolicy and an ExtAuthPolicy report

A policy is rejected by its own checks, accepted, or in conflict with the older policy
that takes its target (`Verdict`). An ExtAuthPolicy also says whether it may use its
Service. The policies on a target are in the namespace of the target (`KeyedTable`), so no
two of them print the same key and exactly one takes it (`takesTarget_unique`), in
whatever order the table is walked. `outcome_eq_iff` says when a policy reports the same of
two stores.
-/

namespace Portus.Reconcilers

open Portus Lib Triggers List Option AList

/-- The authentication policies whose outcome depends on other objects. -/
inductive AuthPolicyKind where
  | basicAuth
  | apiKeyAuth
  | extAuth
deriving DecidableEq

namespace AuthPolicyKind

def name : AuthPolicyKind → PolicyKindName
  | .basicAuth => .basicAuth
  | .apiKeyAuth => .apiKeyAuth
  | .extAuth => .extAuth

def State : AuthPolicyKind → Type
  | .basicAuth => BasicAuthPolicy
  | .apiKeyAuth => ApiKeyAuthPolicy
  | .extAuth => ExtAuthPolicy

def kind : (k : AuthPolicyKind) → PolicyKind k.State
  | .basicAuth => basicAuthKind
  | .apiKeyAuth => apiKeyAuthKind
  | .extAuth => extAuthKind

instance : (k : AuthPolicyKind) → DecidableEq k.State
  | .basicAuth => inferInstanceAs (DecidableEq BasicAuthPolicy)
  | .apiKeyAuth => inferInstanceAs (DecidableEq ApiKeyAuthPolicy)
  | .extAuth => inferInstanceAs (DecidableEq ExtAuthPolicy)

instance : (k : AuthPolicyKind) → PolicyRefs k.kind.Spec
  | .basicAuth => inferInstanceAs (PolicyRefs BasicAuthPolicySpec)
  | .apiKeyAuth => inferInstanceAs (PolicyRefs APIKeyAuthPolicySpec)
  | .extAuth => inferInstanceAs (PolicyRefs ExtAuthPolicySpec)

end AuthPolicyKind

/-- What a policy reports of its acceptance; a rejection carries what the message prints. -/
inductive Verdict where
  | rejected (reason : Rejection)
  | accepted
  | conflicted (winner : Option NamespacedName)

/-- What a reconcile leaves of a policy and what it reports. -/
structure PolicyOutcome (σ : Type) where
  stored : Option (PolicyState σ)
  verdict : Verdict
  resolvedRefs : Option Bool
  programmed : Bool
  generation : Int

section

variable {σ : Type}

def findWinnerKey (walk : IterOrder NamespacedName) (target : PolicyTargetKey)
    (exclude : NamespacedName) (policies : PolicyTable σ) : Option NamespacedName :=
  (walk.order policies.keys).find? fun k =>
    k ≠ exclude && (policies.lookup k).any fun p => p.target = target && p.accepted

def verdictOf (walk : IterOrder NamespacedName) (key : NamespacedName) (target : PolicyTargetKey)
    (policies : PolicyTable σ) : Option Rejection → Verdict
  | some reason => .rejected reason
  | none =>
    if (policies.lookup key).any (·.accepted) then .accepted
    else .conflicted (findWinnerKey walk target key policies)

end

/-- Whether the policy may use its Service: it is in the policy's namespace, or granted. -/
def referencePermitted (store : ConfigStore) (policyNamespace : String) (state : ExtAuthPolicy) :
    Bool :=
  state.serviceNamespace == policyNamespace ||
    isReferenceAllowedFrom store.referenceGrants "portus-gateway.dev" policyNamespace
      "ExtAuthPolicy" state.serviceNamespace "Service" (some state.serviceName)

def secretPermitted (store : ConfigStore) (kind ns : String) (secret : NamespacedName) : Bool :=
  isReferenceAllowedFrom store.referenceGrants "portus-gateway.dev" ns kind secret.namespaceName
    "Secret" (some secret.name)

namespace AuthPolicyKind

/-- Whether the reference of the policy is permitted, if it gets to be looked at: an ExtAuthPolicy
is validated first. -/
def permission : (k : AuthPolicyKind) → ConfigStore → String → k.kind.Spec → Option Bool
  | .basicAuth, store, ns, (spec : BasicAuthPolicySpec) =>
    some (secretPermitted store "BasicAuthPolicy" ns (spec.secretRef.key ns))
  | .apiKeyAuth, store, ns, (spec : APIKeyAuthPolicySpec) =>
    some (secretPermitted store "APIKeyAuthPolicy" ns (spec.secretRef.key ns))
  | .extAuth, store, ns, (spec : ExtAuthPolicySpec) =>
    (validateExtAuth ns spec).toOption.map (referencePermitted store ns)

/-- The `ResolvedRefs` condition, which only an ExtAuthPolicy has. -/
def resolvedRefs (k : AuthPolicyKind) (store : ConfigStore) (ns : String) (spec : k.kind.Spec) :
    Option Bool :=
  if k = .extAuth then k.permission store ns spec else none

/-- Reconcile a policy: its own state, the verdict, and the two conditions beside it. -/
def outcome (k : AuthPolicyKind) (order : IterOrder Contender) (walk : IterOrder NamespacedName)
    (isProgrammed : Bool) (store : ConfigStore) (policy : PolicyObject k.kind.Spec) :
    Except ReconcileError (PolicyOutcome k.State) :=
  policy.metadata.key.map fun key =>
    let checked :=
      k.kind.check store key.namespaceName policy.metadata.creationTimestamp policy.spec
    let policies :=
      storePolicies order key checked.rejected.isNone checked.states (k.kind.table store)
    { stored := policies.lookup key
      verdict := verdictOf walk key (policyTarget policy) policies checked.rejected
      resolvedRefs := k.resolvedRefs store key.namespaceName policy.spec
      programmed := isProgrammed
      generation := policy.metadata.generation.getD 0 }

theorem stored_outcome {k : AuthPolicyKind} {policy : PolicyObject k.kind.Spec}
    {key : NamespacedName} (h : policy.metadata.key = .ok key) :
    (k.kind.reconcileInner order store policy).map (fun r => (k.kind.table r.1).lookup key) =
      (k.outcome order walk isProgrammed store policy).map (·.stored) := by
  rw [PolicyKind.reconcileInner, outcome, h]
  exact congrArg (fun t => Except.ok (AList.lookup key t)) (k.kind.table_setTable _ _)

end AuthPolicyKind

section Taking

variable {σ : Type} {policies policies' : PolicyTable σ} {key : NamespacedName} {p : PolicyState σ}
  {w w' : Contender}

/-- A policy is in the namespace of its target. -/
def KeyedTable (policies : PolicyTable σ) : Prop :=
  ∀ k q, policies.lookup k = some q → q.target.namespaceName = k.namespaceName

/-- Once `p` is stored under `key`, `w` contends for its target and wins against all others. -/
def TakesTarget (policies : PolicyTable σ) (key : NamespacedName) (p : PolicyState σ)
    (w : Contender) : Prop :=
  ContendsWith policies key p w ∧ ∀ c, ContendsWith policies key p c → isPolicyWinner w c = true

theorem ContendsWith.namespace_eq (h : ContendsWith policies key p w) (hk : KeyedTable policies)
    (hp : p.target.namespaceName = key.namespaceName) :
    w.1.namespaceName = p.target.namespaceName := by
  rcases h with rfl | ⟨-, hs⟩
  · exact hp.symm
  · obtain ⟨q, hq, hs⟩ := map_eq_some_iff.1 hs
    have ht : q.target = p.target := congrArg Prod.fst hs
    rw [← ht]
    exact (hk w.1 q hq).symm

theorem name_eq_of_display_eq {b : NamespacedName} (h : a.display = b.display)
    (hns : a.namespaceName = b.namespaceName) : a = b := by
  obtain ⟨ns, name⟩ := a
  obtain ⟨ns', name'⟩ := b
  cases hns
  have hl := congrArg String.toList h
  simp only [NamespacedName.display, String.toList_append, append_cancel_left_eq] at hl
  rw [String.toList_inj.1 hl]

theorem created_injective (h : created a = created b) : a = b := by
  cases a <;> cases b <;> simp_all [created]

theorem takesTarget_unique (hk : KeyedTable policies)
    (hp : p.target.namespaceName = key.namespaceName) (h : TakesTarget policies key p w)
    (h' : TakesTarget policies key p w') : w = w' := by
  have hr : rank w = rank w' :=
    le_antisymm (isPolicyWinner_iff.1 (h.2 w' h'.1)) (isPolicyWinner_iff.1 (h'.2 w h.1))
  have hc := created_injective (congrArg (fun r => (ofLex r).1) hr)
  have hd : w.1.display = w'.1.display := congrArg (fun r => (ofLex r).2) hr
  have hns : w.1.namespaceName = w'.1.namespaceName :=
    (h.1.namespace_eq hk hp).trans (h'.1.namespace_eq hk hp).symm
  exact Prod.ext (name_eq_of_display_eq hd hns) hc

theorem find?_eq_some_of_unique {l : List α} (ha : a ∈ l) (hq : ∀ b, q b = true ↔ b = a) :
    l.find? q = some a := by
  cases h : l.find? q with
  | none => exact absurd ((hq a).2 rfl) (find?_eq_none.1 h a ha)
  | some b => rw [(hq b).1 (find?_some h)]

theorem stored_of_valid (order : IterOrder Contender) (walk : IterOrder NamespacedName) :
    ∃ w, TakesTarget policies key p w ∧ (storePolicy order key true policies p).lookup key =
        some { p with accepted := decide (key = w.1) } ∧
      (key ≠ w.1 → findWinnerKey walk p.target key (storePolicy order key true policies p) =
        some w.1) := by
  obtain ⟨w, ht, hl⟩ := exists_winner
  obtain ⟨q, hq, hta, -⟩ := mem_contenders.1 (mem_contenders_insert.2 ht.1)
  refine ⟨w, ht, ?_, fun hne => find?_eq_some_of_unique ?_ fun k => ?_⟩
  · rw [hl]
    simp
  · refine walk.mem_order.2 (AList.mem_keys.1 (lookup_isSome.1 ?_))
    rw [hl, hq]
    rfl
  · have ha : (((storePolicy order key true policies p).lookup k).any fun r =>
        r.target = p.target && r.accepted) = true ↔ k = w.1 := by
      rw [hl]
      by_cases hk : k = w.1
      · subst hk
        rw [hq]
        simp [hta]
      · cases hr : (policies.insert key { p with accepted := true }).lookup k with
        | none => simp [hk]
        | some r => by_cases ht : r.target = p.target <;> simp [hk, ht]
    rw [Bool.and_eq_true, ha, decide_eq_true_eq]
    constructor
    · rintro ⟨-, hk⟩
      exact hk
    · rintro rfl
      exact ⟨hne.symm, rfl⟩

theorem exists_takesTarget :
    ∃ w, TakesTarget policies key p w := by
  obtain ⟨w, hw, -⟩ := stored_of_valid .insertion .insertion
  exact ⟨w, hw⟩

def SameTaker (policies policies' : PolicyTable σ) (key : NamespacedName) (p : PolicyState σ) :
    Prop :=
  ∀ w w', TakesTarget policies key p w → TakesTarget policies' key p w' → w.1 = w'.1

theorem sameTaker_self (hk : KeyedTable policies)
    (hp : p.target.namespaceName = key.namespaceName) : SameTaker policies policies key p :=
  fun _ _ h h' => congrArg Prod.fst (takesTarget_unique hk hp h h')

theorem sameTaker_iff_of_leaves (hk : KeyedTable policies)
    (hp : p.target.namespaceName = key.namespaceName) (hu : u ≠ key)
    (ho : ∀ k, k ≠ u → shapeAt policies' k = shapeAt policies k)
    (hl : ∀ ts, shapeAt policies' u ≠ some (p.target, ts)) :
    SameTaker policies policies' key p ↔ ∀ ts, ¬ TakesTarget policies key p (u, ts) := by
  have hco {c : Contender} :
      ContendsWith policies' key p c ↔ ContendsWith policies key p c ∧ c.1 ≠ u := by
    unfold ContendsWith
    by_cases hc : c.1 = u
    · refine iff_of_false ?_ fun h => h.2 hc
      rintro (h | ⟨-, h⟩)
      · exact hu (hc.symm.trans (congrArg Prod.fst h))
      · exact hl c.2 (hc ▸ h)
    · rw [ho c.1 hc, and_iff_left hc]
  constructor
  · intro h ts ht
    obtain ⟨w', hw'⟩ := exists_takesTarget
    exact (hco.1 hw'.1).2 (h (u, ts) w' ht hw').symm
  · intro h w w' hw hw'
    have hne : w.1 ≠ u := by
      rintro rfl
      exact h w.2 hw
    -- the taker among the remaining ones wins against the old taker, and so against all
    have hle := isPolicyWinner_iff.1 (hw'.2 w (hco.2 ⟨hw.1, hne⟩))
    have hw'' : TakesTarget policies key p w' :=
      ⟨(hco.1 hw'.1).1, fun c hc =>
        isPolicyWinner_iff.2 (hle.trans (isPolicyWinner_iff.1 (hw.2 c hc)))⟩
    exact congrArg Prod.fst (takesTarget_unique hk hp hw hw'')

end Taking

namespace AuthPolicyKind

variable {k : AuthPolicyKind}

def checked (k : AuthPolicyKind) (store : ConfigStore) (ns : String)
    (policy : PolicyObject k.kind.Spec) : Checked k.State :=
  k.kind.check store ns policy.metadata.creationTimestamp policy.spec

theorem exists_state (k : AuthPolicyKind) (ns : String) (policy : PolicyObject k.kind.Spec) :
    ∃ p : PolicyState k.State, p.target = (PolicyRefs.targetRef policy.spec).targetKey ns ∧
      ∀ store, (k.checked store ns policy).states = [p] := by
  cases k with
  | basicAuth | apiKeyAuth => exact ⟨_, rfl, fun _ => rfl⟩
  | extAuth =>
    unfold checked
    simp only [kind, extAuthKind, checkExtAuth]
    cases validateExtAuth ns policy.spec with
    | ok state | error e => exact ⟨_, rfl, fun _ => rfl⟩

def verdictWith (key winner : NamespacedName) : Option Rejection → Verdict
  | some reason => .rejected reason
  | none => if key = winner then .accepted else .conflicted (some winner)

section

variable {s s' : ConfigStore} {policy : PolicyObject k.kind.Spec} {key : NamespacedName}
  {p : PolicyState k.State}

theorem exists_outcome (hk : policy.metadata.key = .ok key) (hp : p.target = policyTarget policy)
    (hs : (k.checked s key.namespaceName policy).states = [p]) :
    ∃ w, TakesTarget (k.kind.table s) key p w ∧ k.outcome order walk isProgrammed s policy =
        .ok { stored := some { p with accepted :=
                (k.checked s key.namespaceName policy).rejected.isNone && decide (key = w.1) }
              verdict := verdictWith key w.1 (k.checked s key.namespaceName policy).rejected
              resolvedRefs := k.resolvedRefs s key.namespaceName policy.spec
              programmed := isProgrammed
              generation := policy.metadata.generation.getD 0 } := by
  obtain ⟨w, hw, hs', hwi⟩ := stored_of_valid order walk
  refine ⟨w, hw, ?_⟩
  rw [outcome, hk]
  refine congrArg Except.ok ?_
  have hpo (valid : Bool) : storePolicies order key valid
        (k.kind.check s key.namespaceName policy.metadata.creationTimestamp policy.spec).states
        (k.kind.table s) = storePolicy order key valid (k.kind.table s) p := by
    rw [storePolicies, ← checked, hs, foldl_cons, foldl_nil]
  dsimp only
  rw [hpo, ← checked, ← hp]
  cases hr : (k.checked s key.namespaceName policy).rejected with
  | some reason =>
    simp only [isNone_some, Bool.false_and]
    rw [storePolicy, if_neg Bool.false_ne_true, lookup_insert]
    rfl
  | none =>
    simp only [isNone_none, Bool.true_and]
    rw [verdictOf, verdictWith, hs']
    by_cases hm : key = w.1
    · simp [hm]
    · simp [hm, hwi hm]

theorem verdictWith_inj {w w' : NamespacedName} :
    verdictWith key w' rejected' = verdictWith key w rejected ↔
      rejected' = rejected ∧ (rejected = none → w = w') := by
  cases rejected' with
  | some reason' => cases rejected with
    | some reason => simp [verdictWith]
    | none => by_cases h : key = w <;> simp [verdictWith, h]
  | none => cases rejected with
    | some reason => by_cases h : key = w' <;> simp [verdictWith, h]
    | none =>
      by_cases h : key = w <;> by_cases h' : key = w' <;> simp_all [verdictWith, eq_comm]

theorem outcome_eq_iff (hkey : policy.metadata.key = .ok key) (hp : p.target = policyTarget policy)
    (hs : ∀ store, (k.checked store key.namespaceName policy).states = [p])
    (hk : KeyedTable (k.kind.table s)) (hkeyed' : KeyedTable (k.kind.table s'))
    (order order' : IterOrder Contender) (walk walk' : IterOrder NamespacedName)
    (isProgrammed : Bool) :
    k.outcome order' walk' isProgrammed s' policy = k.outcome order walk isProgrammed s policy ↔
      (k.checked s' key.namespaceName policy).rejected =
          (k.checked s key.namespaceName policy).rejected ∧
        k.resolvedRefs s' key.namespaceName policy.spec =
          k.resolvedRefs s key.namespaceName policy.spec ∧
        ((k.checked s key.namespaceName policy).rejected = none →
          SameTaker (k.kind.table s) (k.kind.table s') key p) := by
  have hns : p.target.namespaceName = key.namespaceName := by
    rw [hp, ← looseKey_of_key hkey]
    rfl
  obtain ⟨w, hw, hout⟩ := exists_outcome hkey hp (hs s)
  obtain ⟨w', hw', hout'⟩ := exists_outcome hkey hp (hs s')
  have ht : SameTaker (k.kind.table s) (k.kind.table s') key p ↔ w.1 = w'.1 := by
    constructor
    · intro h
      exact h w w' hw hw'
    · intro h v v' hv hv'
      rw [takesTarget_unique hk hns hv hw, takesTarget_unique hkeyed' hns hv' hw', h]
  rw [hout, hout', ht, Except.ok.injEq]
  constructor
  · intro h
    obtain ⟨hr', hwi⟩ := verdictWith_inj.1 (congrArg PolicyOutcome.verdict h)
    exact ⟨hr', congrArg PolicyOutcome.resolvedRefs h, hwi⟩
  · rintro ⟨hr', href, hwi⟩
    rw [hr', href]
    cases hr : (k.checked s key.namespaceName policy).rejected with
    | some reason => rfl
    | none => rw [hwi hr]

end

theorem secretRejection_eq (kind ns : String) :
    secretRejection store kind ns secret =
      if secretPermitted store kind ns secret then
        if (store.secrets.lookup secret).isNone then
          some (.invalidSecret secret.namespaceName secret.name)
        else none
      else some (.refNotPermitted secret.namespaceName secret.name) := by
  rw [secretRejection, ← secretPermitted]
  by_cases hns : secret.namespaceName = ns
  · have hp : secretPermitted store kind ns secret = true := by
      rw [secretPermitted, isReferenceAllowedFrom, if_pos hns.symm]
    simp [hns, hp]
  · cases secretPermitted store kind ns secret <;> simp [hns]

theorem secretRejection_eq_iff {s s' : ConfigStore} (hs : s'.secrets = s.secrets)
    (kind ns : String) (secret : NamespacedName) :
    secretRejection s' kind ns secret = secretRejection s kind ns secret ↔
      secretPermitted s' kind ns secret = secretPermitted s kind ns secret := by
  rw [secretRejection_eq, secretRejection_eq, hs]
  cases secretPermitted s' kind ns secret <;> cases secretPermitted s kind ns secret
  case false.false => simp
  case true.true => simp
  all_goals cases (s.secrets.lookup secret).isNone <;> simp

theorem checks_eq_iff {s s' : ConfigStore} (hs : s'.secrets = s.secrets) :
    (k.checked s' ns policy).rejected = (k.checked s ns policy).rejected ∧
        k.resolvedRefs s' ns policy.spec = k.resolvedRefs s ns policy.spec ↔
      k.permission s' ns policy.spec = k.permission s ns policy.spec := by
  cases k with
  | basicAuth =>
    have hi := secretRejection_eq_iff hs "BasicAuthPolicy" ns
      (BasicAuthPolicySpec.secretRef policy.spec |>.key ns)
    exact (and_iff_left rfl).trans (hi.trans some_inj.symm)
  | apiKeyAuth =>
    have hi := secretRejection_eq_iff hs "APIKeyAuthPolicy" ns
      (APIKeyAuthPolicySpec.secretRef policy.spec |>.key ns)
    exact (and_iff_left rfl).trans (hi.trans some_inj.symm)
  | extAuth => exact and_iff_right rfl

theorem permission_congr {s s' : ConfigStore} (h : s'.referenceGrants = s.referenceGrants) :
    k.permission s' ns spec = k.permission s ns spec := by
  cases k with
  | basicAuth | apiKeyAuth => simp only [permission, secretPermitted, h]
  | extAuth =>
    have hp : referencePermitted s' ns = referencePermitted s ns := by
      funext state
      rw [referencePermitted, referencePermitted, h]
    simp only [permission, hp]

end AuthPolicyKind

end Portus.Reconcilers

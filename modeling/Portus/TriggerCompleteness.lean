import Portus.Controller.Updates
import Portus.Reconcilers.GatewayStatus

/-!
# Completeness of the dependency triggers

An object whose reconcile would come out differently after a store update should be listed
for the event of the update: otherwise it stays in a state computed from data that has
since changed (`Complete`).

The mappings are complete for routes and for Gateways. But a ReferenceGrant lists neither the
ListenerSets whose certificates nor the policies whose Secret or Service it permits, and a
ListenerSet or a policy that moves lists the siblings it comes to and not those it leaves.
`Covered` says of such an update that it makes no difference to the object.
-/

namespace Portus.Triggers

open Portus Lib Reconcilers List

/-- An object of a kind with triggers. What the data planes report is none of the updates here, so
it comes with the object. -/
inductive Dependent where
  | httpRoute (route : HTTPRoute)
  | grpcRoute (route : GRPCRoute)
  | tlsRoute (route : StreamRoute)
  | tcpRoute (route : StreamRoute)
  | udpRoute (route : StreamRoute)
  | gateway (gw : Gateway) (requests : GatewayRequests) (isProgrammed : Bool)
  | listenerSet (ls : ListenerSet)
  | policy (k : AuthPolicyKind) (object : PolicyObject k.kind.Spec) (isProgrammed : Bool)

namespace Dependent

/-- Reconciling the object gives the same stored state and the same conditions against both
stores, whichever way their tables are walked. -/
def Unchanged (libs : PemLibs) (regexBuilds : String → Bool) (s s' : ConfigStore) : Dependent → Prop
  | .httpRoute route => httpOutcome regexBuilds s' route = httpOutcome regexBuilds s route
  | .grpcRoute route => grpcOutcome s' route = grpcOutcome s route
  | .tlsRoute route => tlsOutcome s' route = tlsOutcome s route
  | .tcpRoute route => tcpOutcome s' route = tcpOutcome s route
  | .udpRoute route => udpOutcome s' route = udpOutcome s route
  | .gateway gw requests isProgrammed =>
    gatewayOutcome libs s' isProgrammed requests gw = gatewayOutcome libs s isProgrammed requests gw
  | .listenerSet ls => listenerSetOutcome s' ls = listenerSetOutcome s ls
  | .policy k object isProgrammed => ∀ order order' walk walk',
    k.outcome order' walk' isProgrammed s' object = k.outcome order walk isProgrammed s object

/-- Whatever else its controller knows, the mapping for the object's kind lists it. -/
def Listed (e : Event) (store : ConfigStore) : Dependent → Prop
  | .httpRoute route => ∀ routes, route ∈ routes → route.metadata.looseKey ∈ routesFor e routes
  | .grpcRoute route => ∀ routes, route ∈ routes → route.metadata.looseKey ∈ routesFor e routes
  | .tlsRoute route => ∀ routes, route ∈ routes → route.metadata.looseKey ∈ routesFor e routes
  | .tcpRoute route => ∀ routes, route ∈ routes → route.metadata.looseKey ∈ routesFor e routes
  | .udpRoute route => ∀ routes, route ∈ routes → route.metadata.looseKey ∈ routesFor e routes
  | .gateway gw _ _ => ∀ gws, gw ∈ gws → gw.metadata.looseKey ∈ gatewaysFor e gws store
  | .listenerSet ls => ∀ sets, ls ∈ sets → ls.metadata.looseKey ∈ listenerSetsFor e sets
  | .policy _ object _ =>
    ∀ policies, object ∈ policies → object.metadata.looseKey ∈ policiesFor e policies

def IsSubject (e : Event) : Dependent → Prop
  | .gateway gw _ _ => e = .gateway gw.metadata.looseKey
  | .listenerSet ls => ∃ parent, e = .listenerSet ls.metadata.looseKey parent
  | .policy k object _ => ∃ target, e = .policy k.name object.metadata.looseKey target
  | _ => False

/-- A policy moved off the target, or removed, was not the one that had taken the target from the
object; a policy its own checks reject does not contend. -/
def KeepsTaker (k : AuthPolicyKind) (object : PolicyObject k.kind.Spec) (s : ConfigStore)
    (moved : NamespacedName) : Prop :=
  ∀ key, object.metadata.key = .ok key → (k.checked s key.namespaceName object).rejected = none →
      ∀ p ∈ (k.checked s key.namespaceName object).states, ∀ created,
        ¬ TakesTarget (k.kind.table s) key p (moved, created)

/-- The update is of a sort that is followed, or makes no difference to the object. -/
def Covered (s s' : ConfigStore) : Dependent → Event → Prop
  | .listenerSet ls, .listenerSet _ parent =>
    parent = listenerSetParent ls ∨ (ls.Live → SameConflicts s s' ls)
  | .listenerSet ls, .referenceGrant _ => ls.Live → SamePermissions s s' ls
  | .policy k object _, .referenceGrant _ => ∀ key, object.metadata.key = .ok key →
    k.permission s' key.namespaceName object.spec = k.permission s key.namespaceName object.spec
  | .policy k object _, .policy kind moved target =>
    kind = k.name → target = policyTarget object ∨ KeepsTaker k object s moved
  | _, _ => True

end Dependent

/-- If the update makes a difference to the object, the mapping for its kind lists it. -/
def Complete (libs : PemLibs) (regexBuilds : String → Bool) (s s' : ConfigStore) (e : Event)
    (o : Dependent) : Prop :=
  ¬ o.Unchanged libs regexBuilds s s' → o.Listed e s'

theorem listed_filter_iff : (∀ l : List α, a ∈ l → f a ∈ (l.filter q).map f) ↔ q a = true := by
  constructor
  · intro h
    have hse := h [a] (mem_singleton_self a)
    cases hq : q a with
    | true => rfl
    | false => simp [hq] at hse
  · intro hq l hl
    exact mem_map_of_mem (mem_filter.2 ⟨hl, hq⟩)

section Grants

variable {s : ConfigStore} {key : NamespacedName}
  {grants : Table NamespacedName ReferenceGrantState} {ns : String} (hs : Keyed s)
  (others : ∀ k, k ≠ key → grants.lookup k = s.referenceGrants.lookup k)
  (own : ∀ g, grants.lookup key = some g → g.namespaceName = key.namespaceName)
  (hns : ns ≠ key.namespaceName)

include hs others own hns

theorem any_grants_congr (permits : ReferenceGrantState → Bool) :
    (grants.values.any fun g => g.namespaceName == ns && permits g) =
      s.referenceGrants.values.any fun g => g.namespaceName == ns && permits g := by
  rw [Bool.eq_iff_iff, any_eq_true, any_eq_true]
  simp only [Table.mem_values, Bool.and_eq_true, beq_iff_eq]
  refine exists_congr fun g => and_congr_left fun hg => exists_congr fun k => ?_
  by_cases hk : k = key
  · subst hk
    refine iff_of_false (fun h => hns ?_) fun h => hns ?_
    · rw [← hg.1, own g h]
    · rw [← hg.1, hs.grants k g h]
  · rw [others k hk]

theorem isReferenceAllowed_congr :
    isReferenceAllowed grants fromNs fromKind ns toKind toName =
      isReferenceAllowed s.referenceGrants fromNs fromKind ns toKind toName := by
  unfold isReferenceAllowed isReferenceAllowedFrom
  rw [any_grants_congr hs others own hns]

theorem sameGrants_of_ne (fromNs : String) :
    SameGrants s { s with referenceGrants := grants } fromNs ns := by
  intro kind name
  unfold referenceGrantAllows
  simp only [Bool.and_assoc]
  exact any_grants_congr hs others own hns _

end Grants

section Routes

variable {s s' : ConfigStore} {e : Event} {K : Type} [RouteRefs K] {route : K}

theorem serviceExists_congr {key : NamespacedName} (changes : ChangesService key s s') {ns : String}
    (hne : (⟨ns, name⟩ : NamespacedName) ≠ key) :
    serviceExists s' ns name = serviceExists s ns name := by
  obtain ⟨ports, protocols, names, rfl, hp⟩ := changes
  unfold serviceExists
  rw [Bool.eq_iff_iff, any_eq_true, any_eq_true]
  refine exists_congr fun k => and_congr_left fun hk => ?_
  have ho : ofService key k = false := by
    rw [Bool.and_eq_true, beq_iff_eq, beq_iff_eq] at hk
    rw [ofService, Bool.and_eq_false_iff, beq_eq_false_iff_ne, beq_eq_false_iff_ne, hk.1, hk.2,
      ← not_and_or]
    rintro ⟨rfl, rfl⟩
    exact hne rfl
  rw [mem_append, mem_append, hp k ho]

theorem mem_parents (hp : pref ∈ RouteRefs.parentRefs route)
    (hk : (pref.parentKey (routeNamespace route)).1 = kind) :
    (kind, pref.key (routeNamespace route)) ∈ parents route := by
  rw [← hk]
  exact mem_map_of_mem hp

theorem mem_backendServices (hb : bref ∈ RouteRefs.backendRefs route) :
    ⟨bref.namespaceName.getD (routeNamespace route), bref.name⟩ ∈ backendServices route :=
  mem_map.2 ⟨bref, hb, rfl⟩

theorem sameForRoute_of_not_affected (hs : Keyed s) (h : Effect s s' e)
    (hn : ¬ routeAffected e route = true) :
    SameForRoute s s' checks (routeNamespace route) (RouteRefs.parentRefs route)
      (RouteRefs.backendRefs route) := by
  cases h with
  | gateway others =>
    refine ⟨⟨fun pref hp hk => others _ ?_, fun _ _ _ => rfl⟩, rfl, fun _ _ => rfl⟩
    rintro rfl
    exact hn (contains_iff_mem.2 (mem_parents hp hk))
  | listenerSet others =>
    refine ⟨⟨fun _ _ _ => rfl, fun pref hp hk => others _ ?_⟩, rfl, fun _ _ => rfl⟩
    rintro rfl
    exact hn (contains_iff_mem.2 (mem_parents hp hk))
  | @service key _ changes =>
    have he (bref : RouteBackendRef) (hb : bref ∈ RouteRefs.backendRefs route) :
        serviceExists s' (bref.namespaceName.getD (routeNamespace route)) bref.name =
          serviceExists s (bref.namespaceName.getD (routeNamespace route)) bref.name := by
      refine serviceExists_congr changes ?_
      rintro rfl
      exact hn (contains_iff_mem.2 (mem_backendServices hb))
    obtain ⟨_, _, _, rfl, -⟩ := changes
    refine ⟨⟨fun _ _ _ => rfl, fun _ _ _ => rfl⟩, rfl, fun bref hb => ?_⟩
    unfold refProblem
    dsimp only
    rw [he bref hb]
  | @referenceGrant key grants others own =>
    refine ⟨⟨fun _ _ _ => rfl, fun _ _ _ => rfl⟩, rfl, fun bref hb => ?_⟩
    unfold refProblem
    dsimp only
    by_cases ho : bref.namespaceName.getD (routeNamespace route) = routeNamespace route
    · rw [ho]
      simp only [ne_eq, not_true_eq_false, false_and, if_false]
      rfl
    · rw [isReferenceAllowed_congr hs others own]
      · rfl
      · intro hns
        refine hn (any_eq_true.2 ⟨_, mem_backendServices hb, ?_⟩)
        rw [Bool.and_eq_true, bne_iff_ne, beq_iff_eq]
        exact ⟨ho, hns⟩
  | namespaceLabels others =>
    refine ⟨⟨fun _ _ _ => rfl, fun _ _ _ => rfl⟩, ?_, fun _ _ => rfl⟩
    unfold namespaceLabelsOf
    rw [others]
    rintro rfl
    exact hn (beq_self_eq_true _)
  | @policy k => cases k <;> exact ⟨⟨fun _ _ _ => rfl, fun _ _ _ => rfl⟩, rfl, fun _ _ => rfl⟩
  | otherPolicy => exact ⟨⟨fun _ _ _ => rfl, fun _ _ _ => rfl⟩, rfl, fun _ _ => rfl⟩

end Routes

section Gateways

variable {libs : PemLibs} {regexBuilds : String → Bool} {s s' : ConfigStore} {e : Event}

theorem sameForGateway_of_not_referenced (hs : Keyed s) (h : Effect s s' e)
    (ho : e ≠ .gateway gw.metadata.looseKey)
    (hn : ∀ ns, e = .referenceGrant ns → ¬ gatewayReferencesNamespace gw ns = true) :
    SameForGateway s s' gw := by
  cases h with
  | gateway others othersTls =>
    have hne : gw.metadata.looseKey ≠ _ := fun hk => ho (congrArg Event.gateway hk.symm)
    exact ⟨rfl, rfl, rfl, others _ hne, othersTls _ hne, fun _ _ _ _ => rfl⟩
  | listenerSet | namespaceLabels | otherPolicy =>
    exact ⟨rfl, rfl, rfl, rfl, rfl, fun _ _ _ _ => rfl⟩
  | service changes =>
    obtain ⟨_, _, _, rfl, -⟩ := changes
    exact ⟨rfl, rfl, rfl, rfl, rfl, fun _ _ _ _ => rfl⟩
  | referenceGrant others own =>
    refine ⟨rfl, rfl, rfl, rfl, rfl, fun ns hns => sameGrants_of_ne hs others own ?_ _⟩
    rintro rfl
    exact hn _ rfl hns
  | @policy k => cases k <;> exact ⟨rfl, rfl, rfl, rfl, rfl, fun _ _ _ _ => rfl⟩

theorem complete_gateway {isProgrammed : Bool} (hs : Keyed s) (h : Effect s s' e)
    (ho : e ≠ .gateway gw.metadata.looseKey) :
    Complete libs regexBuilds s s' e (.gateway gw requests isProgrammed) := by
  intro hc
  by_contra hlisted
  refine hc (gatewayOutcome_congr (sameForGateway_of_not_referenced hs h ho ?_))
  rintro ns rfl hr
  exact hlisted fun gws hgw =>
    mem_map_of_mem (mem_filter.2 ⟨hgw, hr⟩)

end Gateways

section ListenerSets

variable {libs : PemLibs} {regexBuilds : String → Bool} {s s' : ConfigStore} {e : Event}
  {ls : ListenerSet}

theorem listenerSetParent_eq : listenerSetParent ls = ls.input.parentKey := by
  unfold listenerSetParent ListenerSet.input
  cases ls.spec.parentRef.namespaceName <;> rfl

theorem sameParentFor_of_not_affected (h : Effect s s' e)
    (hn : ¬ listenerSetAffected e ls = true) : SameParentFor s s' ls := by
  cases h with
  | gateway others othersTls =>
    have hne : ls.input.parentKey ≠ _ := fun hk =>
      hn (beq_iff_eq.2 (listenerSetParent_eq.trans hk))
    exact ⟨others _ hne, othersTls _ hne, rfl⟩
  | listenerSet | referenceGrant | otherPolicy => exact ⟨rfl, rfl, rfl⟩
  | service changes =>
    obtain ⟨_, _, _, rfl, -⟩ := changes
    exact ⟨rfl, rfl, rfl⟩
  | namespaceLabels => exact absurd rfl hn
  | @policy k => cases k <;> exact ⟨rfl, rfl, rfl⟩

theorem complete_listenerSet_iff (h : Effect s s' e)
    (ho : ¬ (Dependent.listenerSet ls).IsSubject e) :
    Complete libs regexBuilds s s' e (.listenerSet ls) ↔
      (Dependent.listenerSet ls).Covered s s' e := by
  have hl : (Dependent.listenerSet ls).Listed e s' ↔ listenerSetAffected e ls = true :=
    listed_filter_iff
  rw [Complete, hl, not_imp_comm]
  have hpa : ¬ listenerSetAffected e ls = true → SameParentFor s s' ls :=
    sameParentFor_of_not_affected h
  cases h with
  | gateway | otherPolicy => exact iff_of_true (fun hn => (hpa hn).outcome_eq rfl rfl) trivial
  | @listenerSet key parent sets =>
    have hk : ls.metadata.looseKey ≠ key := by
      rintro rfl
      exact ho ⟨parent, rfl⟩
    have ha : listenerSetAffected (.listenerSet key parent) ls = true ↔
        parent = listenerSetParent ls := by
      rw [listenerSetAffected, Bool.and_eq_true, beq_iff_eq, bne_iff_ne, and_iff_left hk, eq_comm]
    by_cases hp : parent = listenerSetParent ls
    · exact iff_of_true (fun hn => absurd (ha.2 hp) hn) (.inl hp)
    · have hn := mt ha.1 hp
      exact (forall_prop_of_true hn).trans
        (((hpa hn).outcome_eq_iff_conflicts rfl).trans (or_iff_right hp).symm)
  | service changes =>
    obtain ⟨_, _, _, rfl, -⟩ := changes
    exact iff_of_true (fun hn => (hpa hn).outcome_eq rfl rfl) trivial
  | @referenceGrant key grants =>
    have hn : ¬ listenerSetAffected (.referenceGrant key.namespaceName) ls = true :=
      Bool.false_ne_true
    exact (forall_prop_of_true hn).trans ((hpa hn).outcome_eq_iff_permissions rfl)
  | namespaceLabels => exact iff_of_true (fun hn => absurd rfl hn) trivial
  | @policy k =>
    cases k <;> exact iff_of_true (fun hn => (hpa hn).outcome_eq rfl rfl) trivial

end ListenerSets

section Policies

variable {libs : PemLibs} {regexBuilds : String → Bool} {s s' : ConfigStore} {e : Event}
  {k : AuthPolicyKind} {object : PolicyObject k.kind.Spec} {isProgrammed : Bool}

theorem unchanged_policy_iff (hs : Keyed s) (hs' : Keyed s') (hse : s'.secrets = s.secrets) :
    (Dependent.policy k object isProgrammed).Unchanged libs regexBuilds s s' ↔
      ∀ key, object.metadata.key = .ok key → k.permission s' key.namespaceName object.spec =
            k.permission s key.namespaceName object.spec ∧
          ((k.checked s key.namespaceName object).rejected = none →
            ∀ p ∈ (k.checked s key.namespaceName object).states,
              SameTaker (k.kind.table s) (k.kind.table s') key p) := by
  cases hk : object.metadata.key with
  | error err =>
    refine iff_of_true (fun order order' walk walk' => ?_) fun key h => by cases h
    unfold AuthPolicyKind.outcome
    rw [hk]
    rfl
  | ok key =>
    obtain ⟨p, hp, hst⟩ := k.exists_state key.namespaceName object
    replace hp : p.target = policyTarget object := by
      rw [hp, ← looseKey_of_key hk]
      rfl
    have hi (order order' : IterOrder Contender) (walk walk' : IterOrder NamespacedName) :=
      AuthPolicyKind.outcome_eq_iff hk hp hst (hs.policies k) (hs'.policies k) order order'
        walk walk' isProgrammed
    simp only [Dependent.Unchanged, hi, ← and_assoc, AuthPolicyKind.checks_eq_iff hse,
      hst, forall_mem_singleton, Except.ok.injEq, forall_eq']
    exact ⟨fun h => h .insertion .insertion .insertion .insertion, fun h _ _ _ _ => h⟩

theorem target_of_mem_states {key : NamespacedName} (hk : object.metadata.key = .ok key)
    (hp : p ∈ (k.checked s key.namespaceName object).states) : p.target = policyTarget object := by
  obtain ⟨q, hq, hst⟩ := k.exists_state key.namespaceName object
  rw [hst, mem_singleton] at hp
  rw [hp, hq, ← looseKey_of_key hk]
  rfl

theorem namespace_of_mem_states {key : NamespacedName} (hk : object.metadata.key = .ok key)
    (hp : p ∈ (k.checked s key.namespaceName object).states) :
    p.target.namespaceName = key.namespaceName := by
  rw [target_of_mem_states hk hp, ← looseKey_of_key hk]
  rfl

theorem unchanged_of_same (hs : Keyed s) (hs' : Keyed s')
    (hg : s'.referenceGrants = s.referenceGrants) (hse : s'.secrets = s.secrets)
    (ht : k.kind.table s' = k.kind.table s) :
    (Dependent.policy k object isProgrammed).Unchanged libs regexBuilds s s' := by
  refine (unchanged_policy_iff hs hs' hse).2 fun key hk => ?_
  refine ⟨AuthPolicyKind.permission_congr hg, fun _ p hp => ?_⟩
  rw [ht]
  exact sameTaker_self (hs.policies k) (namespace_of_mem_states hk hp)

theorem name_injective {k : AuthPolicyKind} (h : k.name = k'.name) : k = k' := by
  cases k <;> cases k' <;> first | rfl | cases h

theorem unchanged_policy_iff_keepsTaker (hs : Keyed s) (hs' : Keyed (k.kind.setTable s policies))
    (others : ∀ k', k' ≠ moved → shapeAt policies k' = shapeAt (k.kind.table s) k')
    (own : ∀ q, policies.lookup moved = some q → q.target = target)
    (hm : moved ≠ object.metadata.looseKey) (ht : target ≠ policyTarget object) :
    (Dependent.policy k object isProgrammed).Unchanged libs regexBuilds s
        (k.kind.setTable s policies) ↔ Dependent.KeepsTaker k object s moved := by
  have hf : (k.kind.setTable s policies).referenceGrants = s.referenceGrants ∧
      (k.kind.setTable s policies).secrets = s.secrets := by
    cases k <;> exact ⟨rfl, rfl⟩
  refine (unchanged_policy_iff hs hs' hf.2).trans (forall₂_congr fun key hk => ?_)
  refine (and_iff_right (AuthPolicyKind.permission_congr hf.1)).trans ?_
  refine forall_congr' fun _ => forall₂_congr fun p hp => ?_
  rw [k.kind.table_setTable]
  refine sameTaker_iff_of_leaves (hs.policies k) (namespace_of_mem_states hk hp) ?_ others ?_
  · rwa [looseKey_of_key hk] at hm
  · intro ts hsh
    obtain ⟨q, hq, hsh⟩ := Option.map_eq_some_iff.1 hsh
    refine ht ?_
    rw [← own q hq, ← target_of_mem_states hk hp]
    exact congrArg Prod.fst hsh

theorem complete_policy_iff (hs : Keyed s) (h : Effect s s' e)
    (ho : ¬ (Dependent.policy k object isProgrammed).IsSubject e) :
    Complete libs regexBuilds s s' e (.policy k object isProgrammed) ↔
      (Dependent.policy k object isProgrammed).Covered s s' e := by
  have hl : (Dependent.policy k object isProgrammed).Listed e s' ↔
      policyAffected e object = true := listed_filter_iff
  have hs' := h.keyed hs
  rw [Complete, hl, not_imp_comm]
  cases h with
  | gateway | listenerSet | namespaceLabels =>
    exact iff_of_true (fun _ => unchanged_of_same hs hs' rfl rfl (by cases k <;> rfl)) trivial
  | service changes =>
    obtain ⟨_, _, _, rfl, -⟩ := changes
    exact iff_of_true (fun _ => unchanged_of_same hs hs' rfl rfl (by cases k <;> rfl)) trivial
  | @referenceGrant key grants =>
    have hta : k.kind.table { s with referenceGrants := grants } = k.kind.table s := by
      cases k <;> rfl
    refine (forall_prop_of_true Bool.false_ne_true).trans
      ((unchanged_policy_iff hs hs' rfl).trans ?_)
    refine forall₂_congr fun key hke => and_iff_left fun _ p hp => ?_
    rw [hta]
    exact sameTaker_self (hs.policies k) (namespace_of_mem_states hke hp)
  | @policy k' moved target policies others own =>
    by_cases hk : k' = k
    · subst hk
      have hm : moved ≠ object.metadata.looseKey := by
        rintro rfl
        exact ho ⟨target, rfl⟩
      have ha : policyAffected (.policy k'.name moved target) object = true ↔
          target = policyTarget object := by
        have hki : k'.name = PolicyRefs.kind k'.kind.Spec := by cases k' <;> rfl
        rw [policyAffected, Bool.and_eq_true, Bool.and_eq_true, beq_iff_eq, bne_iff_ne, beq_iff_eq,
          and_iff_right ⟨hki, Ne.symm hm⟩, eq_comm]
      by_cases ht : target = policyTarget object
      · exact iff_of_true (fun hn => absurd (ha.2 ht) hn) fun _ => .inl ht
      · refine (forall_prop_of_true (mt ha.1 ht)).trans ?_
        refine (unchanged_policy_iff_keepsTaker hs hs' others (fun q hq => (own q hq).1) hm
          ht).trans ?_
        exact ⟨fun h _ => .inr h, fun h => (h rfl).resolve_left ht⟩
    · refine iff_of_true (fun _ => ?_) fun hki => absurd (name_injective hki) hk
      exact unchanged_of_same hs hs' (by cases k' <;> rfl) (by cases k' <;> rfl)
        (table_setTable_ne (Ne.symm hk))
  | @otherPolicy kind hki =>
    refine iff_of_true (fun _ => ?_) fun h => absurd h.symm (hki k)
    exact unchanged_of_same hs hs' rfl rfl (by cases k <;> rfl)

end Policies

/-- An update that makes a difference to another object has it listed exactly where it is
covered. -/
theorem complete_iff (libs : PemLibs) (regexBuilds : String → Bool) {s s' : ConfigStore}
    {u : Update} {e : Event} (o : Dependent) (hs : Keyed s)
    (hrun : u.run libs s = .ok (s', some e)) (hother : ¬ o.IsSubject e) :
    Complete libs regexBuilds s s' e o ↔ o.Covered s s' e := by
  have h := effect_of_run hrun
  have hr {K : Type} [RouteRefs K] {route : K} {checks : BackendChecks} {U : Prop}
      (hU : SameForRoute s s' checks (routeNamespace route) (RouteRefs.parentRefs route)
        (RouteRefs.backendRefs route) → U) (hc : ¬ U) (routes : List K) (hm : route ∈ routes) :
      (RouteRefs.metadata route).looseKey ∈ routesFor e routes := by
    refine listed_filter_iff.2 (by_contra fun hnot => hc ?_) routes hm
    exact hU (sameForRoute_of_not_affected hs h hnot)
  cases o with
  | httpRoute route => exact iff_of_true (hr httpOutcome_congr) trivial
  | grpcRoute route => exact iff_of_true (hr grpcOutcome_congr) trivial
  | tlsRoute route => exact iff_of_true (hr tlsOutcome_congr) trivial
  | tcpRoute route => exact iff_of_true (hr l4Outcome_congr) trivial
  | udpRoute route => exact iff_of_true (hr l4Outcome_congr) trivial
  | gateway gw requests isProgrammed => exact iff_of_true (complete_gateway hs h hother) trivial
  | listenerSet ls => exact complete_listenerSet_iff h hother
  | policy k object isProgrammed => exact complete_policy_iff hs h hother

def lenientPem : PemLibs where
  firstCert pem := Text.trim pem != ""
  privateKey pem := Text.trim pem != ""
  trim_ne_empty _ h := bne_iff_ne.1 h

def edgeStore : ConfigStore where
  gateways := Table.collect [(⟨"infra", "edge"⟩,
    { name := "edge", namespaceName := "infra", listeners := []
      allowedListenerNamespacesFrom := some "All" })]

theorem keyed_edgeStore : Keyed edgeStore :=
  ⟨keyed_empty.grants, fun k => by cases k <;> exact keyed_empty.policies _⟩

def tenantSet : ListenerSet where
  metadata := { name := some "extra", namespaceName := some "tenant", generation := some 1 }
  spec :=
    { parentRef := { name := "edge", namespaceName := some "infra" }
      listeners := [{ name := "https", port := 443, protocol := "HTTPS",
                      tls := some { certificateRefs :=
                        [{ name := "cert", namespaceName := some "certs" }] } }] }

def grantIn (ns : String) : ReferenceGrant where
  metadata := { name := some "allow", namespaceName := some ns }
  grantFrom := [⟨gatewayApiGroup, "ListenerSet", "tenant"⟩]
  grantTo := [⟨"", "Secret", none⟩]

def grantedStore (ns : String) : ConfigStore :=
  { edgeStore with
    referenceGrants :=
      edgeStore.referenceGrants.insert ⟨ns, "allow"⟩
        ⟨ns, (grantIn ns).grantFrom, (grantIn ns).grantTo⟩ }

theorem run_grantIn : (Update.referenceGrant (grantIn ns)).run lenientPem edgeStore =
    .ok (grantedStore ns, some (.referenceGrant ns)) := by
  have he : referenceGrantEvent ⟨ns, "allow"⟩ edgeStore (grantedStore ns) =
      some (.referenceGrant ns) := by
    rw [referenceGrantEvent, grantedStore, AList.lookup_insert]
    exact if_neg (Option.some_ne_none _).symm
  exact congrArg (fun e => Except.ok (grantedStore ns, e)) he

/-- The ListenerSet of a Gateway that is gone reports it, and is listed. -/
theorem gatewayGone_complete :
    (Update.gatewayGone ⟨"infra", "edge"⟩).run lenientPem edgeStore =
        .ok ({ edgeStore with gateways := ∅ }, some (.gateway ⟨"infra", "edge"⟩)) ∧
      ¬ (Dependent.listenerSet tenantSet).Unchanged lenientPem (fun _ => true) edgeStore
        { edgeStore with gateways := ∅ } ∧
      Complete lenientPem (fun _ => true) edgeStore { edgeStore with gateways := ∅ }
        (.gateway ⟨"infra", "edge"⟩) (.listenerSet tenantSet) := by
  have hrun : (Update.gatewayGone ⟨"infra", "edge"⟩).run lenientPem edgeStore =
      .ok ({ edgeStore with gateways := ∅ }, some (.gateway ⟨"infra", "edge"⟩)) := rfl
  refine ⟨hrun, ?_, (complete_iff lenientPem (fun _ => true) (.listenerSet tenantSet)
    keyed_edgeStore hrun ?_).2 trivial⟩
  · have hc : ¬ listenerSetOutcome { edgeStore with gateways := ∅ } tenantSet =
        listenerSetOutcome edgeStore tenantSet := by decide +kernel
    exact hc
  · rintro ⟨parent, h⟩
    cases h

/-- The grant that permits the certificate is not followed: the ListenerSet keeps reporting that
none does. -/
theorem certificateGrant_unlisted :
    (Update.referenceGrant (grantIn "certs")).run lenientPem edgeStore =
        .ok (grantedStore "certs", some (.referenceGrant "certs")) ∧
      ¬ Complete lenientPem (fun _ => true) edgeStore (grantedStore "certs") (.referenceGrant "certs")
        (.listenerSet tenantSet) := by
  refine ⟨run_grantIn, fun h => ?_⟩
  have hc : ¬ listenerSetOutcome (grantedStore "certs") tenantSet =
      listenerSetOutcome edgeStore tenantSet := by decide +kernel
  have hl := h hc [tenantSet] (mem_singleton_self _)
  revert hl
  decide +kernel

end Portus.Triggers

import Portus.Lib.Run
import Portus.Reconcilers.PolicyStatus
import Portus.Reconcilers.Sources

/-!
# Store updates and the events they publish

Reconcilers and the hooks for objects that are gone write the store and publish an event
when what it holds for their object has changed (`main.rs` and the reconcilers). `Update`
lists those whose events are `Gateway`, `ListenerSet`, `Service`, `ReferenceGrant`,
`Namespace` and `Policy`. The reconciler of a Gateway that is being deleted removes it and
publishes nothing. Of the policy kinds other than the three authentication kinds only the
tables are kept: an update of one of them may leave anything there.
-/

namespace Portus.Triggers

open Portus Lib Reconcilers Option AList

inductive Update where
  | gateway (isProgrammed : Bool) (gw : Gateway)
  | gatewayGone (key : NamespacedName)
  | listenerSet (ls : ListenerSet)
  | listenerSetGone (key : NamespacedName)
  | service (svc : Service)
  | serviceGone (key : NamespacedName)
  | referenceGrant (grant : ReferenceGrant)
  | referenceGrantGone (key : NamespacedName)
  | namespaceLabels (ns : Namespace)
  | namespaceGone (name : String)
  | policy (k : AuthPolicyKind) (order : IterOrder Contender) (object : PolicyObject k.kind.Spec)
  | policyGone (k : AuthPolicyKind) (key : NamespacedName)
  /-- A policy of another kind; `after` has the tables of these kinds as it leaves them. -/
  | otherPolicy (kind : PolicyKindName) (hkind : ∀ k : AuthPolicyKind, k.name ≠ kind)
      (key : NamespacedName) (target : PolicyTargetKey) (after : ConfigStore)

def withOtherPolicies (s after : ConfigStore) : ConfigStore :=
  { s with
    rateLimitPolicies := after.rateLimitPolicies
    circuitBreakerPolicies := after.circuitBreakerPolicies
    connectionPolicies := after.connectionPolicies
    jwtAuthPolicies := after.jwtAuthPolicies
    issuerKeys := after.issuerKeys
    retryPolicies := after.retryPolicies
    ipAllowlistPolicies := after.ipAllowlistPolicies
    requestBodySizeLimitPolicies := after.requestBodySizeLimitPolicies
    healthCheckPolicies := after.healthCheckPolicies
    corsPolicies := after.corsPolicies
    timeoutPolicies := after.timeoutPolicies
    backendTlsPolicies := after.backendTlsPolicies
    aiUsagePolicies := after.aiUsagePolicies }

def Update.apply (libs : PemLibs) (s : ConfigStore) : Update → Except ReconcileError ConfigStore
  | .gateway isProgrammed gw => reconcileGateway libs s isProgrammed gw
  | .gatewayGone key =>
    .ok { s with gatewayTls := s.gatewayTls.erase key, gateways := s.gateways.erase key }
  | .listenerSet ls => reconcileListenerSet s ls
  | .listenerSetGone key => .ok { s with listenerSets := s.listenerSets.erase key }
  | .service svc => reconcileService svc s
  | .serviceGone key => .ok (forgetService s key)
  | .referenceGrant grant => reconcileReferenceGrant grant s
  | .referenceGrantGone key => .ok { s with referenceGrants := s.referenceGrants.erase key }
  | .namespaceLabels ns => reconcileNamespace ns s
  | .namespaceGone name => .ok { s with namespaceLabels := s.namespaceLabels.erase name }
  | .policy k order object => (k.kind.reconcileInner order s object).map (·.1)
  | .policyGone k key => .ok (k.kind.setTable s ((k.kind.table s).erase key))
  | .otherPolicy _ _ _ _ after => .ok (withOtherPolicies s after)

def unchanged {α : Type} (same : α → α → Bool) : Option α → Option α → Bool
  | none, none => true
  | some a, some b => same a b
  | _, _ => false

def sameContent {κ β : Type} [DecidableEq κ] [DecidableEq β] (a b : Table κ β) : Bool :=
  (a.keys ++ b.keys).all fun k => a.lookup k = b.lookup k

def sameTls (a b : GatewayTlsState) : Bool :=
  a.frontendDefault == b.frontendDefault && sameContent a.frontendPerPort b.frontendPerPort &&
    a.backendClientCertRef == b.backendClientCertRef

def serviceSnapshot (s : ConfigStore) (key : NamespacedName) :
    List (UInt16 × UInt16 × Option String × Option String) :=
  let mine := s.servicePortMap.pairs.filter fun e => ofService key e.1
  (mine.map fun e =>
    (e.1.port, e.2, s.serviceAppProtocols.lookup e.1, s.servicePortNames.lookup e.1)).insertionSort
    fun a b => a.1 ≤ b.1

def holdsService (s : ConfigStore) (key : NamespacedName) : Bool :=
  s.servicePortMap.keys.any (ofService key) || s.serviceAppProtocols.keys.any (ofService key) ||
    s.servicePortNames.keys.any (ofService key)

def listenerSetEvent (key : NamespacedName) (s s' : ConfigStore) : Option Event :=
  let (before, after) := (s.listenerSets.lookup key, s'.listenerSets.lookup key)
  if before = after then none
  else (after.or before).map fun state => .listenerSet key state.parentGateway

def referenceGrantEvent (key : NamespacedName) (s s' : ConfigStore) : Option Event :=
  if s.referenceGrants.lookup key = s'.referenceGrants.lookup key then none
  else some (.referenceGrant key.namespaceName)

def namespaceEvent (name : String) (s s' : ConfigStore) : Option Event :=
  if unchanged sameContent (s.namespaceLabels.lookup name) (s'.namespaceLabels.lookup name) then
    none
  else some (.namespaceLabels name)

/-- A policy's own state has changed; its target now, or before if it is gone. -/
def policyEvent (k : AuthPolicyKind) (key : NamespacedName) (s s' : ConfigStore) : Option Event :=
  let (before, after) := ((k.kind.table s).lookup key, (k.kind.table s').lookup key)
  if before = after then none
  else (after.or before).map fun state => .policy k.name key state.target

def Update.event (s s' : ConfigStore) : Update → Option Event
  | .gateway _ gw =>
    let key := gw.metadata.looseKey
    if gw.metadata.deletionTimestamp.isSome then none
    else if s.gateways.lookup key = s'.gateways.lookup key ∧
        unchanged sameTls (s.gatewayTls.lookup key) (s'.gatewayTls.lookup key) then none
    else some (.gateway key)
  | .gatewayGone key => (s.gateways.lookup key).map fun _ => .gateway key
  | .listenerSet ls => listenerSetEvent ls.metadata.looseKey s s'
  | .listenerSetGone key => listenerSetEvent key s s'
  | .service svc =>
    let key := svc.metadata.looseKey
    if svc.metadata.deletionTimestamp.isSome then
      if holdsService s key then some (.service key) else none
    else if serviceSnapshot s key = serviceSnapshot s' key then none
    else some (.service key)
  | .serviceGone key => if holdsService s key then some (.service key) else none
  | .referenceGrant grant => referenceGrantEvent grant.metadata.looseKey s s'
  | .referenceGrantGone key => referenceGrantEvent key s s'
  | .namespaceLabels ns => namespaceEvent (ns.name.getD "") s s'
  | .namespaceGone name => namespaceEvent name s s'
  | .policy k _ object => policyEvent k object.metadata.looseKey s s'
  | .policyGone k key => policyEvent k key s s'
  | .otherPolicy kind _ key target _ => some (.policy kind key target)

def Update.run (libs : PemLibs) (s : ConfigStore) (u : Update) :
    Except ReconcileError (ConfigStore × Option Event) :=
  (u.apply libs s).map fun s' => (s', u.event s s')

/-- What an update does to the store, with the event that goes with it. -/
inductive Effect (s : ConfigStore) : ConfigStore → Event → Prop where
  | gateway {key : NamespacedName} {gateways : Table NamespacedName GatewayState}
      {tls : Table NamespacedName GatewayTlsState}
      (others : ∀ k, k ≠ key → gateways.lookup k = s.gateways.lookup k)
      (othersTls : ∀ k, k ≠ key → tls.lookup k = s.gatewayTls.lookup k) :
      Effect s { s with gatewayTls := tls, gateways := gateways } (.gateway key)
  | listenerSet {key parent : NamespacedName} {sets : Table NamespacedName ListenerSetState}
      (others : ∀ k, k ≠ key → sets.lookup k = s.listenerSets.lookup k) :
      Effect s { s with listenerSets := sets } (.listenerSet key parent)
  | service {key : NamespacedName} {s' : ConfigStore} (changes : ChangesService key s s') :
      Effect s s' (.service key)
  | referenceGrant {key : NamespacedName} {grants : Table NamespacedName ReferenceGrantState}
      (others : ∀ k, k ≠ key → grants.lookup k = s.referenceGrants.lookup k)
      (own : ∀ g, grants.lookup key = some g → g.namespaceName = key.namespaceName) :
      Effect s { s with referenceGrants := grants } (.referenceGrant key.namespaceName)
  | namespaceLabels {name : String} {labels : Table String (Table String String)}
      (others : ∀ n, n ≠ name → labels.lookup n = s.namespaceLabels.lookup n) :
      Effect s { s with namespaceLabels := labels } (.namespaceLabels name)
  | policy {k : AuthPolicyKind} {key : NamespacedName} {target : PolicyTargetKey}
      {policies : PolicyTable k.State}
      (others : ∀ k', k' ≠ key → shapeAt policies k' = shapeAt (k.kind.table s) k')
      (own : ∀ q, policies.lookup key = some q →
        q.target = target ∧ q.target.namespaceName = key.namespaceName) :
      Effect s (k.kind.setTable s policies) (.policy k.name key target)
  | otherPolicy {kind : PolicyKindName} (hkind : ∀ k : AuthPolicyKind, k.name ≠ kind)
      {key : NamespacedName} {target : PolicyTargetKey} {after : ConfigStore} :
      Effect s (withOtherPolicies s after) (.policy kind key target)

/-- An update has an effect, and if it publishes an event, the one of that event. -/
def Does (u : Update) (s s' : ConfigStore) : Prop :=
  (∃ e, Effect s s' e) ∧ ∀ e, u.event s s' = some e → Effect s s' e

section Does

variable {libs : PemLibs} {s s' : ConfigStore}

theorem does_of_effect {e : Event} (h : Effect s s' e)
    (he : ∀ e', u.event s s' = some e' → e' = e) : Does u s s' :=
  ⟨⟨e, h⟩, fun e' he' => he e' he' ▸ h⟩

theorem eq_of_ite_eq_some [Decidable c] (h : (if c then none else some a) = some b) : b = a := by
  split at h
  · cases h
  · exact (Option.some.inj h).symm

theorem exists_of_listenerSetEvent {e : Event} (h : listenerSetEvent key s s' = some e) :
    ∃ parent, e = .listenerSet key parent := by
  unfold listenerSetEvent at h
  dsimp only at h
  split at h
  · cases h
  · obtain ⟨state, -, rfl⟩ := map_eq_some_iff.1 h
    exact ⟨_, rfl⟩

theorem exists_of_policyEvent {e : Event} (h : policyEvent k key s s' = some e) :
    ∃ state, ((k.kind.table s').lookup key).or ((k.kind.table s).lookup key) = some state ∧
      e = .policy k.name key state.target := by
  unfold policyEvent at h
  dsimp only at h
  split at h
  · cases h
  · obtain ⟨state, hs, rfl⟩ := map_eq_some_iff.1 h
    exact ⟨state, hs, rfl⟩

theorem of_bind_key {metadata : ObjectMeta} (h : metadata.key >>= f = .ok a) :
    f metadata.looseKey = .ok a := by
  cases hk : metadata.key with
  | error e =>
    rw [hk] at h
    cases h
  | ok key =>
    rw [hk] at h
    rwa [looseKey_of_key hk]

theorem effect_gateway (h : reconcileGateway libs s isProgrammed gw = .ok s') :
    Effect s s' (.gateway gw.metadata.looseKey) := by
  replace h := of_bind_key h
  split at h
  · cases h
    exact .gateway (fun k hk => lookup_erase_ne hk) fun k hk => lookup_erase_ne hk
  · split at h
    · cases h
      exact .gateway (fun _ _ => rfl) fun _ _ => rfl
    · cases h
      refine .gateway (fun k hk => lookup_insert_ne hk) fun k hk => ?_
      split
      · exact lookup_erase_ne hk
      · exact lookup_insert_ne hk

theorem effect_listenerSet (h : reconcileListenerSet s ls = .ok s') (parent : NamespacedName) :
    Effect s s' (.listenerSet ls.metadata.looseKey parent) := by
  replace h := of_bind_key h
  split at h
  · cases h
    exact .listenerSet fun k hk => lookup_erase_ne hk
  · cases h
    exact .listenerSet fun k hk => lookup_insert_ne hk

theorem effect_service (h : reconcileService svc s = .ok s') :
    Effect s s' (.service svc.metadata.looseKey) := by
  unfold reconcileService Service.key at h
  cases hns : svc.metadata.namespaceName with
  | none =>
    rw [hns] at h
    cases h
  | some ns =>
    cases hn : svc.metadata.name with
    | none =>
      rw [hns, hn] at h
      cases h
    | some name =>
      simp only [hns, hn, bind, Except.bind, pure, Except.pure] at h
      rw [ObjectMeta.looseKey, hns, hn]
      split at h
      · cases h
        exact .service (changesService_forgetService _ s)
      · split at h
        · cases h
          exact .service (.refl _ s)
        · cases h
          exact .service (changesService_storeService _ s)

theorem effect_referenceGrant (h : reconcileReferenceGrant grant s = .ok s') :
    Effect s s' (.referenceGrant grant.metadata.looseKey.namespaceName) := by
  replace h := of_bind_key h
  split at h
  · cases h
    refine .referenceGrant (fun k hk => lookup_erase_ne hk) fun g hg => ?_
    rw [lookup_erase] at hg
    cases hg
  · cases h
    refine .referenceGrant (fun k hk => lookup_insert_ne hk) fun g hg => ?_
    rw [lookup_insert] at hg
    cases hg
    rfl

theorem effect_namespaceLabels (h : reconcileNamespace ns s = .ok s') :
    Effect s s' (.namespaceLabels (ns.name.getD "")) := by
  unfold reconcileNamespace at h
  split at h
  next => cases h
  next name hna =>
    rw [hna]
    split at h
    · cases h
      exact .namespaceLabels fun n hn => lookup_erase_ne hn
    · cases h
      exact .namespaceLabels fun n hn => lookup_insert_ne hn

theorem effect_policy {k : AuthPolicyKind} {object : PolicyObject k.kind.Spec}
    (h : (k.kind.reconcileInner order s object).map (·.1) = .ok s') :
    Effect s s' (.policy k.name object.metadata.looseKey (policyTarget object)) ∧
      ∃ q, (k.kind.table s').lookup object.metadata.looseKey = some q ∧
        q.target = policyTarget object := by
  cases hk : object.metadata.key with
  | error e =>
    rw [PolicyKind.reconcileInner, hk] at h
    cases h
  | ok key =>
    have hl := looseKey_of_key hk
    obtain ⟨p, hp, hst⟩ := k.exists_state key.namespaceName object
    replace hp : p.target = policyTarget object := by
      rw [hp, ← hl]
      rfl
    have hns : p.target.namespaceName = key.namespaceName := by
      rw [hp, ← hl]
      rfl
    rw [PolicyKind.reconcileInner, hk] at h
    obtain ⟨valid, hs'⟩ : ∃ valid, k.kind.setTable s
        (storePolicy order key valid (k.kind.table s) p) = s' := by
      refine ⟨(k.checked s key.namespaceName object).rejected.isNone, Eq.trans ?_ (Except.ok.inj h)⟩
      rw [storePolicies, ← AuthPolicyKind.checked, hst, List.foldl_cons, List.foldl_nil]
    have hsh := shapeAt_storePolicy_self order key valid (k.kind.table s) p
    obtain ⟨q, hq, hqs⟩ := map_eq_some_iff.1 hsh
    have hqt : q.target = p.target := congrArg Prod.fst hqs
    rw [hl, ← hs', k.kind.table_setTable]
    refine ⟨.policy (fun k' hk' => shapeAt_storePolicy hk') fun q' hq' => ?_, q, hq, hqt.trans hp⟩
    rw [hq] at hq'
    cases hq'
    rw [hqt]
    exact ⟨hp, hns⟩

theorem effect_policyGone (k : AuthPolicyKind) (target : PolicyTargetKey) :
    Effect s (k.kind.setTable s ((k.kind.table s).erase key)) (.policy k.name key target) := by
  refine .policy (fun k' hk' => ?_) fun q hq => ?_
  · rw [shapeAt, lookup_erase_ne hk', shapeAt]
  · rw [lookup_erase] at hq
    cases hq

theorem does_of_apply {u : Update} (h : u.apply libs s = .ok s') : Does u s s' := by
  cases u with
  | gateway isProgrammed gw =>
    refine does_of_effect (effect_gateway h) fun e he => ?_
    simp only [Update.event] at he
    split at he
    · cases he
    · exact eq_of_ite_eq_some he
  | gatewayGone key =>
    cases h
    refine does_of_effect (.gateway (fun k hk => lookup_erase_ne hk)
      fun k hk => lookup_erase_ne hk) fun e he => ?_
    obtain ⟨_, -, rfl⟩ := map_eq_some_iff.1 he
    rfl
  | listenerSet ls =>
    refine ⟨⟨_, effect_listenerSet h ls.metadata.looseKey⟩, fun e he => ?_⟩
    obtain ⟨parent, rfl⟩ := exists_of_listenerSetEvent he
    exact effect_listenerSet h parent
  | listenerSetGone key =>
    cases h
    have hef (parent : NamespacedName) : Effect s
        { s with listenerSets := s.listenerSets.erase key } (.listenerSet key parent) :=
      .listenerSet fun k hk => lookup_erase_ne hk
    refine ⟨⟨_, hef key⟩, fun e he => ?_⟩
    obtain ⟨parent, rfl⟩ := exists_of_listenerSetEvent he
    exact hef parent
  | service svc =>
    refine does_of_effect (effect_service h) fun e he => ?_
    simp only [Update.event] at he
    split at he
    · split at he
      · exact (Option.some.inj he).symm
      · cases he
    · exact eq_of_ite_eq_some he
  | serviceGone key =>
    cases h
    refine does_of_effect (.service (changesService_forgetService key s)) fun e he => ?_
    simp only [Update.event] at he
    split at he
    · exact (Option.some.inj he).symm
    · cases he
  | referenceGrant grant =>
    exact does_of_effect (effect_referenceGrant h) fun e he => eq_of_ite_eq_some he
  | referenceGrantGone key =>
    cases h
    have hef : Effect s { s with referenceGrants := s.referenceGrants.erase key }
        (.referenceGrant key.namespaceName) := by
      refine .referenceGrant (fun k hk => lookup_erase_ne hk) fun g hg => ?_
      rw [lookup_erase] at hg
      cases hg
    exact does_of_effect hef fun e he => eq_of_ite_eq_some he
  | namespaceLabels ns =>
    exact does_of_effect (effect_namespaceLabels h) fun e he => eq_of_ite_eq_some he
  | namespaceGone name =>
    cases h
    exact does_of_effect (.namespaceLabels fun n hn => lookup_erase_ne hn) fun e he =>
      eq_of_ite_eq_some he
  | policy k order object =>
    obtain ⟨hef, q, hq, ht⟩ := effect_policy h
    refine does_of_effect hef fun e he => ?_
    obtain ⟨state, hs, rfl⟩ := exists_of_policyEvent he
    rw [hq, some_or, Option.some.injEq] at hs
    rw [← hs, ht]
  | policyGone k key =>
    cases h
    refine ⟨⟨_, effect_policyGone k ⟨"", "", "", "", none⟩⟩, fun e he => ?_⟩
    obtain ⟨state, -, rfl⟩ := exists_of_policyEvent he
    exact effect_policyGone k state.target
  | otherPolicy kind hki key target after =>
    cases h
    exact does_of_effect (.otherPolicy hki) fun e he => (Option.some.inj he).symm

theorem effect_of_run {u : Update} {e : Event} (h : u.run libs s = .ok (s', some e)) :
    Effect s s' e := by
  unfold Update.run at h
  cases ha : u.apply libs s with
  | error err =>
    rw [ha] at h
    cases h
  | ok s'' =>
    rw [ha] at h
    obtain ⟨rfl, he⟩ := Prod.mk.inj (Except.ok.inj h)
    exact (does_of_apply ha).2 e he

end Does

/-- Grants say the namespace they are in, and policies target their own. -/
structure Keyed (s : ConfigStore) : Prop where
  grants : ∀ k g, s.referenceGrants.lookup k = some g → g.namespaceName = k.namespaceName
  policies : ∀ k : AuthPolicyKind, KeyedTable (k.kind.table s)

section Keyed

variable {s s' : ConfigStore} {e : Event}

theorem table_setTable_ne {k' : AuthPolicyKind} (h : k' ≠ k) :
    k'.kind.table (k.kind.setTable s policies) = k'.kind.table s := by
  cases k <;> cases k' <;> first | rfl | exact absurd rfl h

theorem keyed_empty : Keyed {} :=
  ⟨fun _ _ h => (not_mem_none _ h).elim, fun k => by
    cases k <;> exact fun _ _ h => (not_mem_none _ h).elim⟩

theorem Effect.keyed (h : Effect s s' e) (hs : Keyed s) : Keyed s' := by
  cases h with
  | gateway | listenerSet | namespaceLabels | otherPolicy =>
    exact ⟨hs.grants, fun k => by cases k <;> exact hs.policies _⟩
  | service changes =>
    obtain ⟨_, _, _, rfl, -⟩ := changes
    exact ⟨hs.grants, fun k => by cases k <;> exact hs.policies _⟩
  | @referenceGrant key grants others own =>
    refine ⟨fun k g hg => ?_, fun k => by cases k <;> exact hs.policies _⟩
    by_cases hk : k = key
    · subst hk
      exact own g hg
    · exact hs.grants k g ((others k hk).symm.trans hg)
  | @policy k key target policies others own =>
    refine ⟨?_, fun k' => ?_⟩
    · cases k <;> exact hs.grants
    · by_cases hk : k' = k
      · subst hk
        rw [k'.kind.table_setTable]
        intro j q hq
        by_cases hj : j = key
        · subst hj
          exact (own q hq).2
        · have hsh := others j hj
          rw [shapeAt, hq, map_some, eq_comm, shapeAt, map_eq_some_iff] at hsh
          obtain ⟨q₀, hq₀, hsh⟩ := hsh
          have ht : q₀.target = q.target := congrArg Prod.fst hsh
          rw [← ht]
          exact hs.policies k' j q₀ hq₀
      · rw [table_setTable_ne hk]
        exact hs.policies k'

/-- A failed update leaves the store as it is. -/
def Update.step (libs : PemLibs) (s : ConfigStore) (u : Update) : ConfigStore :=
  (u.apply libs s).toOption.getD s

/-- Whatever the updates, and whichever of them fail. -/
theorem keyed_run (libs : PemLibs) (us : List Update) : Keyed (run (Update.step libs) {} us) := by
  refine run_keeps (fun s u hs => ?_) keyed_empty us
  unfold Update.step
  cases ha : u.apply libs s with
  | error e => exact hs
  | ok s' =>
    obtain ⟨e, he⟩ := (does_of_apply ha).1
    exact he.keyed hs

end Keyed

end Portus.Triggers

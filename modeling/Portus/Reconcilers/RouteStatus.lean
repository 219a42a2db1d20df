import Portus.Reconcilers.Routes

/-!
# What a route reports

A reconcile stores a route and writes two conditions for every parent it knows: whether
the parent accepts the route, and whether the route's backends resolve. `RouteOutcome` is
both together; `stored_httpOutcome` and its siblings say that what it stores is what the
reconciler stores.
-/

namespace Portus.Reconcilers

open Portus Lib List Option AList Except

/-- A route as it is stored, with what became of its parents and, for the kinds that keep it, why
its backends do not resolve. -/
structure StoredRoute (σ : Type) where
  state : σ
  parents : List BoundParent
  resolvedReason : Option String

/-- What a reconcile leaves of a route and what it reports. -/
structure RouteOutcome (σ : Type) where
  stored : Option (StoredRoute σ)
  conditions : List Condition

/-- Without a parent of this controller a route is neither stored nor reported on. -/
def routeOutcome {σ : Type} (store : ConfigStore) (route : StoredRoute σ)
    (report : BoundParent → List Condition) : RouteOutcome σ :=
  if anyParentKnown store route.parents then
    ⟨some route, (route.parents.filter fun p => parentKnown store p.ref).flatMap report⟩
  else ⟨none, []⟩

def RefProblem.reason : RefProblem → String
  | .invalidKind => "InvalidKind"
  | .refNotPermitted => "RefNotPermitted"
  | .backendNotFound => "BackendNotFound"

/-- The backends of a route did or did not resolve: noted on the parents that accept it. -/
def markAccepted (resolved : Bool) (parents : List BoundParent) : List BoundParent :=
  parents.map fun p => if p.ref.accepted then { p with resolvedRefs := resolved } else p

def httpConditions (generation : Int) (resolvedReason : String) (p : BoundParent) :
    List Condition :=
  let rejectReason := p.rejectReason.getD "NotAllowedByListeners"
  [⟨"Accepted", p.ref.accepted, if p.ref.accepted then "Accepted" else rejectReason,
      if p.ref.accepted then "Route accepted by parent Gateway"
      else if rejectReason = "NoMatchingListenerHostname" then
        "Route hostname does not match any listener hostname"
      else "Route not allowed by listener", generation⟩,
    ⟨"ResolvedRefs", p.resolvedRefs, if p.resolvedRefs then "ResolvedRefs" else resolvedReason,
      if p.resolvedRefs then "All backend references resolved"
      else if resolvedReason = "InvalidKind" then "Backend ref has unsupported group or kind"
      else if resolvedReason = "RefNotPermitted" then
        "Cross-namespace backend ref not permitted by ReferenceGrant"
      else "One or more backend references could not be resolved", generation⟩]

/-- A GRPCRoute has one reason for each condition. -/
def grpcConditions (generation : Int) (p : BoundParent) : List Condition :=
  [⟨"Accepted", p.ref.accepted, if p.ref.accepted then "Accepted" else "NotAllowedByListeners",
      if p.ref.accepted then "Route accepted by parent Gateway"
      else "Route not allowed by listener", generation⟩,
    ⟨"ResolvedRefs", p.resolvedRefs, if p.resolvedRefs then "ResolvedRefs" else "BackendNotFound",
      if p.resolvedRefs then "All backend references resolved"
      else "One or more backend references could not be resolved", generation⟩]

def l4Conditions (protocol : String) (generation : Int) (storedReason : Option String)
    (p : BoundParent) : List Condition :=
  let (acceptedReason, acceptedMessage) : String × String :=
    if p.ref.accepted then ("Accepted", "Route accepted by parent Gateway")
    else if p.rejectReason = some "NotAllowedByListeners" then
      ("NotAllowedByListeners",
        s!"The referenced listener is not a {protocol} listener or does not allow routes from " ++
          "this namespace")
    else
      ("NoMatchingParent", "No listener on the parent Gateway matches this parentRef")
  let resolvedReason :=
    if p.resolvedRefs then "ResolvedRefs" else storedReason.getD "BackendNotFound"
  [⟨"Accepted", p.ref.accepted, acceptedReason, acceptedMessage, generation⟩,
    ⟨"ResolvedRefs", p.resolvedRefs, resolvedReason,
      if resolvedReason = "ResolvedRefs" then "All backend references resolved"
      else if resolvedReason = "RefNotPermitted" then
        "A cross-namespace backend reference is not permitted by any ReferenceGrant"
      else "One or more backend Services do not exist", generation⟩]

section Outcomes

variable (regexBuilds : String → Bool) (store : ConfigStore)

/-- Whether all rules resolve, and the reason of the first that does not. A rule with a bad regular
expression alone gives no reason. -/
def httpResolution (routeNamespace : String) (rules : List HTTPRouteRule) : Bool × String :=
  rules.foldl (fun acc rule =>
    let problem := (resolveBackendRefs store httpChecks routeNamespace rule.backendRefs).2
    if problem.isSome || (convertMatches regexBuilds rule.specMatches).2 then
      (false, if acc.2 = "ResolvedRefs" then (problem.map RefProblem.reason).getD "ResolvedRefs"
        else acc.2)
    else acc) (true, "ResolvedRefs")

def httpStored (ns : String) (route : HTTPRoute) : StoredRoute HTTPRouteState where
  state := httpRouteState regexBuilds store ns route
  parents := markAccepted (httpResolution regexBuilds store ns route.rules).1
    (httpParents store ns route)
  resolvedReason := none

def httpOutcome (route : HTTPRoute) : Except ReconcileError (RouteOutcome HTTPRouteState) :=
  route.metadata.key.map fun key =>
    if route.metadata.deletionTimestamp.isSome then ⟨none, []⟩
    else
      routeOutcome store (httpStored regexBuilds store key.namespaceName route)
        (httpConditions (max (route.metadata.generation.getD 0) 1)
          (httpResolution regexBuilds store key.namespaceName route.rules).2)

/-- Every parent of a GRPCRoute is told whether the backends resolve. -/
def grpcStored (ns : String) (route : GRPCRoute) : StoredRoute GRPCRouteState where
  state := grpcRouteState store ns route
  parents := (grpcParents store ns route).map fun p =>
    { p with resolvedRefs := route.rules.all fun rule =>
        (resolveBackendRefs store grpcChecks ns rule.backendRefs).2.isNone }
  resolvedReason := none

def grpcOutcome (route : GRPCRoute) : Except ReconcileError (RouteOutcome GRPCRouteState) :=
  if route.metadata.deletionTimestamp.isSome then .ok ⟨none, []⟩
  else
    route.metadata.key.map fun key =>
      routeOutcome store (grpcStored store key.namespaceName route)
        (grpcConditions (max (route.metadata.generation.getD 0) 1))

def streamProblem (checks : BackendChecks) (ns : String) (route : StreamRoute) :
    Option RefProblem :=
  (resolveBackendRefs store checks ns (route.rules.head?.getD [])).2

def tlsReason (ns : String) (route : StreamRoute) : String :=
  ((streamProblem store tlsChecks ns route).map RefProblem.reason).getD "ResolvedRefs"

def tlsStored (ns : String) (route : StreamRoute) : StoredRoute TLSRouteState where
  state := tlsRouteState store ns route
  parents := markAccepted (streamProblem store tlsChecks ns route).isNone
    (tlsParents store ns route)
  resolvedReason := some (tlsReason store ns route)

def tlsOutcome (route : StreamRoute) : Except ReconcileError (RouteOutcome TLSRouteState) :=
  if route.metadata.deletionTimestamp.isSome then .ok ⟨none, []⟩
  else
    route.metadata.key.map fun key =>
      routeOutcome store (tlsStored store key.namespaceName route)
        (httpConditions (max (route.metadata.generation.getD 0) 1)
          (tlsReason store key.namespaceName route))

def l4Reason (checks : BackendChecks) (ns : String) (route : StreamRoute) : Option String :=
  (streamProblem store checks ns route).map RefProblem.reason

def l4Stored (checks : BackendChecks) (protocol ns : String) (route : StreamRoute) :
    StoredRoute L4RouteState where
  state := l4RouteState store checks protocol ns route
  parents := markAccepted (streamProblem store checks ns route).isNone
    (l4Parents store protocol ns route)
  resolvedReason := l4Reason store checks ns route

/-- A TCPRoute or a UDPRoute; the generation it reports is not raised to 1. -/
def l4Outcome (checks : BackendChecks) (protocol : String) (route : StreamRoute) :
    Except ReconcileError (RouteOutcome L4RouteState) :=
  if route.metadata.deletionTimestamp.isSome then .ok ⟨none, []⟩
  else
    route.metadata.key.map fun key =>
      routeOutcome store (l4Stored store checks protocol key.namespaceName route)
        (l4Conditions protocol (route.metadata.generation.getD 0)
          (l4Reason store checks key.namespaceName route))

def tcpOutcome (route : StreamRoute) : Except ReconcileError (RouteOutcome L4RouteState) :=
  l4Outcome store tcpChecks "TCP" route

def udpOutcome (route : StreamRoute) : Except ReconcileError (RouteOutcome L4RouteState) :=
  l4Outcome store udpChecks "UDP" route

end Outcomes

section Stored

variable {store : ConfigStore} {key : NamespacedName}

theorem looseKey_of_key {metadata : ObjectMeta} (h : metadata.key = .ok key) :
    metadata.looseKey = key := by
  unfold ObjectMeta.key at h
  split at h
  next => cases h
  next => cases h
  next name ns hn hns =>
    cases h
    rw [ObjectMeta.looseKey, hn, hns]
    rfl

@[simp] theorem anyParentKnown_markAccepted :
    anyParentKnown store (markAccepted resolved parents) = anyParentKnown store parents := by
  rw [anyParentKnown, markAccepted, List.any_map]
  congr 1
  funext p
  rw [Function.comp_apply]
  split <;> rfl

theorem stored_routeOutcome (route : StoredRoute σ) (report : BoundParent → List Condition)
    (hp : anyParentKnown store route.parents = anyParentKnown store parents)
    (table : Table NamespacedName σ) :
    (storeRoute store parents key route.state table).lookup key =
      (routeOutcome store route report).stored.map (·.state) := by
  rw [lookup_storeRoute, routeOutcome, hp]
  split <;> rfl

theorem stored_httpOutcome (h : route.metadata.key = .ok key) :
    (reconcileHttpRoute regexBuilds store route).map (·.httpRoutes.lookup key) =
      (httpOutcome regexBuilds store route).map fun o => o.stored.map (·.state) := by
  rw [reconcileHttpRoute, httpOutcome, h]
  cases hd : route.metadata.deletionTimestamp with
  | some t => exact congrArg ok (lookup_erase key store.httpRoutes)
  | none =>
    exact congrArg ok (stored_routeOutcome
      (httpStored regexBuilds store key.namespaceName route) _ anyParentKnown_markAccepted _)

theorem stored_grpcOutcome {route : GRPCRoute} (h : route.metadata.key = .ok key) :
    (reconcileGrpcRoute store route).map (·.grpcRoutes.lookup key) =
      (grpcOutcome store route).map fun o => o.stored.map (·.state) := by
  rw [reconcileGrpcRoute, grpcOutcome]
  cases hd : route.metadata.deletionTimestamp with
  | some t =>
    rw [looseKey_of_key h]
    exact congrArg ok (lookup_erase key store.grpcRoutes)
  | none =>
    rw [h]
    refine congrArg ok (stored_routeOutcome (grpcStored store key.namespaceName route) _ ?_ _)
    rw [anyParentKnown, grpcStored, List.any_map]
    rfl

theorem stored_tlsOutcome {route : StreamRoute} (h : route.metadata.key = .ok key) :
    (reconcileTlsRoute store route).map (·.tlsRoutes.lookup key) =
      (tlsOutcome store route).map fun o => o.stored.map (·.state) := by
  rw [reconcileTlsRoute, tlsOutcome]
  cases hd : route.metadata.deletionTimestamp with
  | some t =>
    rw [looseKey_of_key h]
    exact congrArg ok (lookup_erase key store.tlsRoutes)
  | none =>
    rw [h]
    exact congrArg ok (stored_routeOutcome (tlsStored store key.namespaceName route) _
      anyParentKnown_markAccepted _)

theorem stored_l4Outcome {route : StreamRoute} (h : route.metadata.key = .ok key)
    (checks : BackendChecks) (protocol : String) (table : Table NamespacedName L4RouteState) :
    (reconcileL4Route store checks protocol table route).map (·.lookup key) =
      (l4Outcome store checks protocol route).map fun o => o.stored.map (·.state) := by
  rw [reconcileL4Route, l4Outcome]
  cases hd : route.metadata.deletionTimestamp with
  | some t =>
    rw [looseKey_of_key h]
    exact congrArg ok (lookup_erase key table)
  | none =>
    rw [h]
    exact congrArg ok (stored_routeOutcome
      (l4Stored store checks protocol key.namespaceName route) _
      anyParentKnown_markAccepted table)

end Stored

/-- The parent a reference stands for (`triggers.rs`, `parent_key`): anything that does not say
ListenerSet is taken for a Gateway. -/
def ParentReference.parentKey (pref : ParentReference) (ns : String) :
    ParentKind × NamespacedName :=
  (if pref.kind = some "ListenerSet" then .listenerSet else .gateway, pref.key ns)

/-- Two stores have the same for the parents the references name. -/
structure SameParents (s s' : ConfigStore) (ns : String) (parentRefs : List ParentReference) :
    Prop where
  gateways : ∀ pref ∈ parentRefs, (pref.parentKey ns).1 = .gateway →
    s'.gateways.lookup (pref.key ns) = s.gateways.lookup (pref.key ns)
  listenerSets : ∀ pref ∈ parentRefs, (pref.parentKey ns).1 = .listenerSet →
    s'.listenerSets.lookup (pref.key ns) = s.listenerSets.lookup (pref.key ns)

/-- Two stores have the same to say of the backend references. -/
def SameRefs (s s' : ConfigStore) (checks : BackendChecks) (ns : String)
    (backendRefs : List RouteBackendRef) : Prop :=
  ∀ bref ∈ backendRefs, refProblem s' checks ns bref = refProblem s checks ns bref

theorem ParentReference.parentKey_of_parentKind {pref : ParentReference} {kind : ParentKind}
    (h : pref.parentKind = some kind) (ns : String) : (pref.parentKey ns).1 = kind := by
  unfold ParentReference.parentKind at h
  split at h
  next => cases h
  next =>
    split at h
    next hki =>
      cases h
      have hne : pref.kind ≠ some "ListenerSet" := by
        intro hls
        simp [hls] at hki
      exact if_neg hne
    next hki =>
      cases h
      cases hk : pref.kind with
      | none => simp [hk] at hki
      | some k =>
        rw [hk, getD_some] at hki
        exact if_pos (by rw [hk, hki])
    next => cases h

theorem ParentReference.parentKey_of_gateway {pref : ParentReference}
    (h : pref.kind.getD "Gateway" = "Gateway") : (pref.parentKey ns).1 = .gateway := by
  refine if_neg fun hls => ?_
  simp [hls] at h

/-- A bound parent is the one its reference stands for. -/
def BoundTo (ns : String) (pref : ParentReference) (p : BoundParent) : Prop :=
  ∃ accepted, p.ref = pref.state (pref.parentKey ns).1 ns accepted

section Congr

variable {s s' : ConfigStore} {ns : String} {parentRefs : List ParentReference}
  {pref : ParentReference} {p : BoundParent}

section

variable (h : SameParents s s' ns parentRefs)

include h

theorem SameParents.parentKnown (hpr : pref ∈ parentRefs)
    (hp : BoundTo ns pref p) : parentKnown s' p.ref = parentKnown s p.ref := by
  obtain ⟨accepted, hp⟩ := hp
  rw [hp]
  cases hk : (pref.parentKey ns).1 with
  | gateway => exact congrArg Option.isSome (h.gateways pref hpr hk)
  | listenerSet => exact congrArg Option.isSome (h.listenerSets pref hpr hk)

theorem bindToParent_congr (hpr : pref ∈ parentRefs) :
    bindToParent s' ns labels hostnames pref = bindToParent s ns labels hostnames pref := by
  unfold bindToParent
  cases hk : pref.parentKind with
  | none => rfl
  | some kind =>
    have hpa := ParentReference.parentKey_of_parentKind hk ns
    cases kind with
    | gateway => rw [map_some, map_some, h.gateways pref hpr hpa]
    | listenerSet => rw [map_some, map_some, h.listenerSets pref hpr hpa]

omit h in
theorem boundTo_bindToParent {labels : Table String String}
    (h : bindToParent s ns labels hostnames pref = some p) : BoundTo ns pref p := by
  obtain ⟨kind, hk, rfl⟩ := map_eq_some_iff.1 h
  rw [BoundTo, ParentReference.parentKey_of_parentKind hk ns]
  cases kind with
  | gateway =>
    dsimp only
    split
    next => exact ⟨_, rfl⟩
    next => exact exists_ref_bindToListeners
  | listenerSet =>
    dsimp only
    split
    next => exact ⟨_, rfl⟩
    next =>
      split
      next => exact ⟨_, rfl⟩
      next => exact exists_ref_bindToListeners

theorem bindGrpcToParent_congr (hp : pref ∈ parentRefs) :
    bindGrpcToParent s' ns pref = bindGrpcToParent s ns pref := by
  unfold bindGrpcToParent
  by_cases hk : pref.kind.getD "Gateway" = "Gateway"
  · rw [h.gateways pref hp (ParentReference.parentKey_of_gateway hk)]
  · simp [hk]

omit h in
theorem boundTo_bindGrpcToParent (h : bindGrpcToParent s ns pref = some p) : BoundTo ns pref p := by
  unfold bindGrpcToParent at h
  dsimp only at h
  split at h
  next => cases h
  next =>
    split at h
    next => cases h
    next hk =>
      rw [not_not] at hk
      cases h
      rw [BoundTo, ParentReference.parentKey_of_gateway hk]
      exact ⟨_, rfl⟩

theorem bindTlsToParent_congr (hp : pref ∈ parentRefs) :
    bindTlsToParent s' ns hostnames pref = bindTlsToParent s ns hostnames pref := by
  unfold bindTlsToParent
  split
  next => rfl
  next hk =>
    rw [not_or, not_not, not_not] at hk
    rw [h.gateways pref hp (ParentReference.parentKey_of_gateway hk.2)]

omit h in
theorem boundTo_bindTlsToParent (h : bindTlsToParent s ns hostnames pref = some p) :
    BoundTo ns pref p := by
  unfold bindTlsToParent at h
  split at h
  next => cases h
  next hk =>
    rw [not_or, not_not, not_not] at hk
    cases h
    rw [BoundTo, ParentReference.parentKey_of_gateway hk.2]
    split
    next => exact ⟨_, rfl⟩
    next =>
      dsimp only
      split_ifs <;> exact ⟨_, rfl⟩

theorem bindL4ToParent_congr (hp : pref ∈ parentRefs) :
    bindL4ToParent s' protocol ns labels pref = bindL4ToParent s protocol ns labels pref := by
  unfold bindL4ToParent
  split
  next => rfl
  next hk =>
    rw [not_or, not_not, not_not] at hk
    rw [h.gateways pref hp (ParentReference.parentKey_of_gateway hk.2)]

end

theorem boundTo_bindL4ToParent (h : bindL4ToParent s protocol ns labels pref = some p) :
    BoundTo ns pref p := by
  unfold bindL4ToParent at h
  split at h
  next => cases h
  next hk =>
    rw [not_or, not_not, not_not] at hk
    cases h
    rw [BoundTo, ParentReference.parentKey_of_gateway hk.2]
    split
    next => exact ⟨_, rfl⟩
    next =>
      dsimp only
      split_ifs <;> exact ⟨_, rfl⟩

theorem BoundTo.of_ref_eq (h : BoundTo ns pref p) (hq : q.ref = p.ref) : BoundTo ns pref q := by
  obtain ⟨accepted, hp⟩ := h
  exact ⟨accepted, hq.trans hp⟩

/-- Every parent of the list is one the references stand for. -/
def AllBound (ns : String) (parentRefs : List ParentReference) (parents : List BoundParent) :
    Prop :=
  ∀ p ∈ parents, ∃ pref ∈ parentRefs, BoundTo ns pref p

theorem allBound_filterMap {bind : ParentReference → Option BoundParent}
    (hbi : ∀ pref p, bind pref = some p → BoundTo ns pref p) :
    AllBound ns parentRefs (parentRefs.filterMap bind) := by
  intro p hp
  obtain ⟨pref, hpr, hbo⟩ := mem_filterMap.1 hp
  exact ⟨pref, hpr, hbi pref p hbo⟩

theorem AllBound.markAccepted (h : AllBound ns parentRefs parents) (resolved : Bool) :
    AllBound ns parentRefs (markAccepted resolved parents) := by
  intro p hp
  obtain ⟨q, hq, rfl⟩ := List.mem_map.1 hp
  obtain ⟨pref, hpr, hb⟩ := h q hq
  refine ⟨pref, hpr, hb.of_ref_eq ?_⟩
  split <;> rfl

theorem routeOutcome_congr (h : SameParents s s' ns parentRefs)
    (hb : AllBound ns parentRefs route.parents) (report : BoundParent → List Condition) :
    routeOutcome s' route report = routeOutcome s route report := by
  have hk : ∀ p ∈ route.parents,
      Reconcilers.parentKnown s' p.ref = Reconcilers.parentKnown s p.ref := by
    intro p hp
    obtain ⟨pref, hpref, hpref'⟩ := hb p hp
    exact h.parentKnown hpref hpref'
  have ha : anyParentKnown s' route.parents = anyParentKnown s route.parents := by
    rw [Bool.eq_iff_iff, anyParentKnown, anyParentKnown, List.any_eq_true, List.any_eq_true]
    exact exists_congr fun p => and_congr_right fun hp => by rw [hk p hp]
  rw [routeOutcome, routeOutcome, ha, filter_congr hk]

theorem resolveBackendRefs_congr (h : SameRefs s s' checks ns backendRefs) :
    resolveBackendRefs s' checks ns backendRefs = resolveBackendRefs s checks ns backendRefs := by
  unfold resolveBackendRefs
  rw [filterMap_congr h, filter_congr fun bref hb => by rw [h bref hb]]

end Congr

/-- Two stores have the same for everything a route is derived from: its parents, the labels of its
namespace and its backend references. -/
structure SameForRoute (s s' : ConfigStore) (checks : BackendChecks) (ns : String)
    (parentRefs : List ParentReference) (backendRefs : List RouteBackendRef) : Prop where
  parents : SameParents s s' ns parentRefs
  labels : namespaceLabelsOf s' ns = namespaceLabelsOf s ns
  refs : SameRefs s s' checks ns backendRefs

section OutcomeCongr

variable {s s' : ConfigStore}

theorem map_key_congr {α : Type} {metadata : ObjectMeta} {f g : NamespacedName → α}
    (h : f metadata.looseKey = g metadata.looseKey) : metadata.key.map f = metadata.key.map g := by
  cases hk : metadata.key with
  | error e => rfl
  | ok key =>
    rw [looseKey_of_key hk] at h
    exact congrArg ok h

theorem SameForRoute.resolve {parentRefs : List ParentReference} {rules : List α}
    (h : SameForRoute s s' checks ns parentRefs (rules.flatMap backendRefs)) (hr : rule ∈ rules) :
    resolveBackendRefs s' checks ns (backendRefs rule) =
      resolveBackendRefs s checks ns (backendRefs rule) :=
  resolveBackendRefs_congr fun bref hb => h.refs bref (mem_flatMap.2 ⟨rule, hr, hb⟩)

theorem httpOutcome_congr {regexBuilds : String → Bool} {route : HTTPRoute}
    (h : SameForRoute s s' httpChecks route.metadata.looseKey.namespaceName route.parentRefs
      (route.rules.flatMap (·.backendRefs))) :
    httpOutcome regexBuilds s' route = httpOutcome regexBuilds s route := by
  refine map_key_congr ?_
  generalize route.metadata.looseKey.namespaceName = ns at h ⊢
  have hpa : httpParents s' ns route = httpParents s ns route := by
    rw [httpParents, bindToParents, h.labels]
    exact filterMap_congr fun pref hpr => bindToParent_congr h.parents hpr
  have hre : httpResolution regexBuilds s' ns route.rules =
      httpResolution regexBuilds s ns route.rules :=
    foldl_ext _ _ _ fun acc rule hm => by rw [h.resolve hm]
  have hru : route.rules.map (httpRuleState regexBuilds s' ns) =
      route.rules.map (httpRuleState regexBuilds s ns) :=
    map_congr_left fun rule hm => by rw [httpRuleState, httpRuleState, h.resolve hm]
  have hs : httpStored regexBuilds s' ns route = httpStored regexBuilds s ns route := by
    rw [httpStored, httpStored, httpRouteState, httpRouteState, hpa, hre, hru]
  rw [hs, hre]
  split
  next => rfl
  next =>
    refine routeOutcome_congr h.parents (AllBound.markAccepted ?_ _) _
    exact allBound_filterMap fun _ _ => boundTo_bindToParent

theorem grpcOutcome_congr
    (h : SameForRoute s s' grpcChecks route.metadata.looseKey.namespaceName route.parentRefs
      (route.rules.flatMap (·.backendRefs))) : grpcOutcome s' route = grpcOutcome s route := by
  unfold grpcOutcome
  split
  next => rfl
  next =>
    refine map_key_congr ?_
    generalize route.metadata.looseKey.namespaceName = ns at h ⊢
    have hpa : grpcParents s' ns route = grpcParents s ns route :=
      filterMap_congr fun pref hpr => bindGrpcToParent_congr h.parents hpr
    have hr : route.rules.map (grpcRuleState s' ns) = route.rules.map (grpcRuleState s ns) :=
      map_congr_left fun rule hm => by rw [grpcRuleState, grpcRuleState, h.resolve hm]
    have ha : (route.rules.all fun rule =>
          (resolveBackendRefs s' grpcChecks ns rule.backendRefs).2.isNone) =
        route.rules.all fun rule =>
          (resolveBackendRefs s grpcChecks ns rule.backendRefs).2.isNone := by
      rw [Bool.eq_iff_iff, List.all_eq_true, List.all_eq_true]
      exact forall₂_congr fun rule hm => by rw [h.resolve hm]
    have hs : grpcStored s' ns route = grpcStored s ns route := by
      rw [grpcStored, grpcStored, grpcRouteState, grpcRouteState, hpa, hr, ha]
    rw [hs]
    refine routeOutcome_congr h.parents ?_ _
    intro p hp
    obtain ⟨q, hq, rfl⟩ := List.mem_map.1 hp
    obtain ⟨pref, hpr, hb⟩ := mem_filterMap.1 hq
    exact ⟨pref, hpr, (boundTo_bindGrpcToParent hb).of_ref_eq rfl⟩

theorem SameForRoute.head {parentRefs : List ParentReference}
    {rules : List (List RouteBackendRef)}
    (h : SameForRoute s s' checks ns parentRefs rules.flatten) :
    resolveBackendRefs s' checks ns (rules.head?.getD []) =
      resolveBackendRefs s checks ns (rules.head?.getD []) := by
  refine resolveBackendRefs_congr fun bref hb => h.refs bref ?_
  cases rules with
  | nil => exact absurd hb not_mem_nil
  | cons rule rules => exact mem_flatten.2 ⟨rule, mem_cons_self, hb⟩

theorem SameForRoute.streamProblem
    (h : SameForRoute s s' checks ns route.parentRefs route.rules.flatten) :
    streamProblem s' checks ns route = streamProblem s checks ns route := by
  rw [Reconcilers.streamProblem, Reconcilers.streamProblem, h.head]

theorem tlsOutcome_congr
    (h : SameForRoute s s' tlsChecks route.metadata.looseKey.namespaceName route.parentRefs
      route.rules.flatten) : tlsOutcome s' route = tlsOutcome s route := by
  unfold tlsOutcome
  split
  next => rfl
  next =>
    refine map_key_congr ?_
    generalize route.metadata.looseKey.namespaceName = ns at h ⊢
    have hpa : tlsParents s' ns route = tlsParents s ns route :=
      filterMap_congr fun pref hp => bindTlsToParent_congr h.parents hp
    have hp' := h.streamProblem
    have hs : tlsStored s' ns route = tlsStored s ns route := by
      rw [tlsStored, tlsStored, tlsRouteState, tlsRouteState, tlsReason, tlsReason, hpa,
        hp', h.head]
    rw [hs, tlsReason, hp']
    refine routeOutcome_congr h.parents (AllBound.markAccepted ?_ _) _
    exact allBound_filterMap fun _ _ => boundTo_bindTlsToParent

theorem l4Outcome_congr {protocol : String} {route : StreamRoute}
    (h : SameForRoute s s' checks route.metadata.looseKey.namespaceName route.parentRefs
      route.rules.flatten) :
    l4Outcome s' checks protocol route = l4Outcome s checks protocol route := by
  unfold l4Outcome
  split
  next => rfl
  next =>
    refine map_key_congr ?_
    generalize route.metadata.looseKey.namespaceName = ns at h ⊢
    have hpa : l4Parents s' protocol ns route = l4Parents s protocol ns route := by
      rw [l4Parents, bindL4ToParents, h.labels]
      exact filterMap_congr fun pref hp => bindL4ToParent_congr h.parents hp
    have hp' := h.streamProblem
    have hs : l4Stored s' checks protocol ns route = l4Stored s checks protocol ns route := by
      rw [l4Stored, l4Stored, l4RouteState, l4RouteState, l4Reason, l4Reason, hpa, hp', h.head]
    rw [hs, l4Reason, hp']
    refine routeOutcome_congr h.parents (AllBound.markAccepted ?_ _) _
    exact allBound_filterMap fun _ _ => boundTo_bindL4ToParent

end OutcomeCongr

end Portus.Reconcilers

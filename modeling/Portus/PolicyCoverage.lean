import Portus.Compiler.Backends

/-!
# Which policies cover which listeners

A policy on a Gateway is meant for every route attached to it, and with a section
for the routes attached to that listener. The compiler matches it against the
`parentRef`s of the route instead: against what they name, and not against the
listener a configuration was emitted for.
-/

namespace Portus

open Lib Proto Compiler List Option

variable (store : ConfigStore)

/-- A configuration was emitted for the listener `listener` of `gateway`, for a route with these
parents. -/
inductive EmittedFor (store : ConfigStore) (e : Emission) :
    NamespacedName → String → List ParentRefState → Prop where
  | http {key : NamespacedName} {hr : HTTPRouteState} {bd : Binding} {rule : HTTPRouteRuleState}
      (route : (key, hr) ∈ httpRoutesOf store) (bound : bd ∈ httpBindings store hr)
      (mem : rule ∈ hr.rules) (emitted : e ∈ httpRuleEmissions store key hr bd rule) :
      EmittedFor store e (ownerGateway store bd.parentRef) bd.listener.name hr.parentRefs
  | grpc {key : NamespacedName} {gr : GRPCRouteState} {bd : Binding} {rule : GRPCRouteRuleState}
      (route : (key, gr) ∈ store.grpcRoutes.pairs) (bound : bd ∈ grpcBindings store gr)
      (mem : rule ∈ gr.rules) (emitted : e ∈ grpcRuleEmissions store key gr bd rule) :
      EmittedFor store e (ownerGateway store bd.parentRef) bd.listener.name gr.parentRefs

theorem gatewayRefs_of_emittedFor {store : ConfigStore}
    (h : EmittedFor store e gateway listener parentRefs) :
    e.source.gatewayRefs = gatewayRefsOf parentRefs := by
  cases h with
  | http route bound mem emitted =>
    obtain ⟨host, -, rc, -, rfl⟩ := exists_of_mem_httpRuleEmissions emitted
    simp only [httpSource]
    split <;> rfl
  | grpc route bound mem emitted =>
    obtain ⟨entry, -, emitted⟩ := mem_flatMap.1 emitted
    obtain ⟨host, -, rfl⟩ := List.mem_map.1 emitted
    rfl

def CoversListener (t : PolicyTargetKey) (gateway : NamespacedName) (listener : String) : Prop :=
  t.kind = "Gateway" ∧ t.namespaceName = gateway.namespaceName ∧ t.name = gateway.name ∧
    (t.sectionName = none ∨ t.sectionName = some listener)

/-- The target is the route, its Gateway, or the listener it was emitted for. -/
def Covers (t : PolicyTargetKey) (source : RouteSource) (gateway : NamespacedName)
    (listener : String) : Prop :=
  directMatches t source = true ∨ CoversListener t gateway listener

/-- A `parentRef` of the route has the name of the target, and its section if it has one. -/
def NamedByParent (t : PolicyTargetKey) (parentRefs : List ParentRefState) : Prop :=
  t.kind = "Gateway" ∧ ∃ pr ∈ parentRefs, t.namespaceName = pr.gatewayNamespace ∧
    t.name = pr.gatewayName ∧ (t.sectionName = none ∨ pr.sectionName = t.sectionName)

variable {source : RouteSource}

theorem parentMatches_iff (h : source.gatewayRefs = gatewayRefsOf parentRefs) :
    parentMatches t source = true ↔ NamedByParent t parentRefs := by
  simp only [parentMatches, gatewayMatches, NamedByParent, h, gatewayRefsOf, List.any_map,
    List.any_eq_true, Function.comp_apply, Bool.and_eq_true, Bool.or_eq_true, beq_iff_eq,
    isNone_iff_eq_none, and_assoc]

section Selection

variable {σ : Type}

/-- Two tables hold the same policies, in whatever order. -/
def SameEntries (t' t : Table NamespacedName (PolicyState σ)) : Prop :=
  ∀ k, t'.lookup k = t.lookup k

def IsAccepted (t : Table NamespacedName (PolicyState σ)) (p : PolicyState σ) : Prop :=
  ∃ k, t.lookup k = some p ∧ p.accepted = true

variable {t : Table NamespacedName (PolicyState σ)}

theorem isAccepted_congr (h : SameEntries t' t) : IsAccepted t' p ↔ IsAccepted t p := by
  simp only [IsAccepted, h _]

theorem selectPolicy_isSome_iff : (selectPolicy t source).isSome ↔ ∃ p, IsAccepted t p ∧
        (directMatches p.target source = true ∨ parentMatches p.target source = true) := by
  rw [selectPolicy_eq, isSome_or, Bool.or_eq_true, find?_isSome, find?_isSome]
  constructor
  · rintro (⟨p, hp, h⟩ | ⟨p, hp, h⟩)
    · exact ⟨p, mem_acceptedPolicies.1 hp, .inl h⟩
    · exact ⟨p, mem_acceptedPolicies.1 hp, .inr h⟩
  · rintro ⟨p, hp, h | h⟩
    · exact .inl ⟨p, mem_acceptedPolicies.2 hp, h⟩
    · exact .inr ⟨p, mem_acceptedPolicies.2 hp, h⟩

theorem selectPolicy_eq_some (h : selectPolicy t source = some p) : IsAccepted t p ∧
      (directMatches p.target source = true ∨ (parentMatches p.target source = true ∧
          ∀ q, IsAccepted t q → directMatches q.target source = false)) := by
  refine ⟨mem_acceptedPolicies.1 (mem_of_selectPolicy h), ?_⟩
  rw [selectPolicy_eq] at h
  rcases or_eq_some_iff.1 h with h | ⟨hn, h⟩
  · have hd := find?_some h
    exact .inl hd
  · have hp := find?_some h
    refine .inr ⟨hp, fun q hq => ?_⟩
    simpa using find?_eq_none.1 hn q (mem_acceptedPolicies.2 hq)

theorem exists_order_selectPolicy (hp : IsAccepted t p)
    (hpa : parentMatches p.target source = true)
    (hn : ∀ q, IsAccepted t q → directMatches q.target source = false) :
    ∃ t', SameEntries t' t ∧ selectPolicy t' source = some p := by
  obtain ⟨k, hk, ha⟩ := hp
  have hs : SameEntries (t.insert k p) t := by
    intro k'
    rw [Table.lookup_insert_apply]
    split
    next h => rw [h, hk]
    next => rfl
  refine ⟨t.insert k p, hs, ?_⟩
  -- an insertion puts the policy first
  obtain ⟨rest, hr⟩ : ∃ rest, acceptedPolicies (t.insert k p) = p :: rest :=
    ⟨_, filter_cons_of_pos ha⟩
  have hd : (acceptedPolicies (t.insert k p)).find?
      (fun p => directMatches p.target source) = none := by
    refine find?_eq_none.2 fun q hq => ?_
    rw [hn q ((isAccepted_congr hs).1 (mem_acceptedPolicies.1 hq))]
    exact Bool.false_ne_true
  rw [selectPolicy_eq, hd, hr, find?_cons, hpa]
  rfl

end Selection

/-- The kinds that are applied to routes, in the order the compiler applies them. -/
inductive RoutePolicyKind where
  | rateLimit | circuitBreaker | connection | basicAuth | apiKeyAuth | jwtAuth | extAuth | retry
  | ipAllowlist | requestBodySizeLimit | cors | timeout
deriving DecidableEq

namespace RoutePolicyKind

def State : RoutePolicyKind → Type
  | rateLimit => RateLimitPolicy
  | circuitBreaker => CircuitBreakerPolicy
  | connection => ConnectionPolicy
  | basicAuth => BasicAuthPolicy
  | apiKeyAuth => ApiKeyAuthPolicy
  | jwtAuth => JwtAuthPolicy
  | extAuth => ExtAuthPolicy
  | retry => RetryPolicy
  | ipAllowlist => IPAllowlistPolicy
  | requestBodySizeLimit => RequestBodySizeLimitPolicy
  | cors => CORSPolicy
  | timeout => TimeoutPolicy

def table : (kind : RoutePolicyKind) → Table NamespacedName (PolicyState kind.State)
  | rateLimit => store.rateLimitPolicies
  | circuitBreaker => store.circuitBreakerPolicies
  | connection => store.connectionPolicies
  | basicAuth => store.basicAuthPolicies
  | apiKeyAuth => store.apiKeyAuthPolicies
  | jwtAuth => store.jwtAuthPolicies
  | extAuth => store.extAuthPolicies
  | retry => store.retryPolicies
  | ipAllowlist => store.ipAllowlistPolicies
  | requestBodySizeLimit => store.requestBodySizeLimitPolicies
  | cors => store.corsPolicies
  | timeout => store.timeoutPolicies

def set : (kind : RoutePolicyKind) → PolicyState kind.State → RouteConfig → RouteConfig
  | rateLimit => setRateLimit
  | circuitBreaker => setCircuitBreaker
  | connection => setMaxConnections
  | basicAuth => setBasicAuth store
  | apiKeyAuth => setApiKeyAuth store
  | jwtAuth => setJwtAuth
  | extAuth => setExtAuth store
  | retry => setRetry
  | ipAllowlist => setIpAllowlist
  | requestBodySizeLimit => setBodySizeLimit
  | cors => setCors
  | timeout => setTimeout

/-- Some accepted policy of the kind is on the route or on a parent it names. -/
def Matches (source : RouteSource) (kind : RoutePolicyKind) : Prop :=
  ∃ p, IsAccepted (kind.table store) p ∧
    (directMatches p.target source = true ∨ parentMatches p.target source = true)

/-- Something else takes the place of a policy of the kind: the other kinds of authentication,
one after the other, the rule's own `retry`, or the rule's own CORS filter. -/
def Yields (e : Emission) : RoutePolicyKind → Prop
  | apiKeyAuth => basicAuth.Matches store e.source
  | jwtAuth => basicAuth.Matches store e.source ∨ apiKeyAuth.Matches store e.source
  | retry => e.route.maxRetries ≠ 0 ∨ e.route.retryCodes ≠ []
  | cors => e.route.cors.isSome
  | _ => False

open Classical in
/-- The policy of the kind that is applied, when the table is walked in the order of `t`. -/
noncomputable def applied (e : Emission) (kind : RoutePolicyKind)
    (t : Table NamespacedName (PolicyState kind.State)) : Option (PolicyState kind.State) :=
  if kind.Yields store e then none else selectPolicy t e.source

noncomputable def withApplied (e : Emission) (kind : RoutePolicyKind)
    (route : RouteConfig) : RouteConfig :=
  match kind.applied store e (kind.table store) with
  | some p => kind.set store p route
  | none => route

def all : List RoutePolicyKind :=
  [rateLimit, circuitBreaker, connection, basicAuth, apiKeyAuth, jwtAuth, extAuth, retry,
    ipAllowlist, requestBodySizeLimit, cors, timeout]

theorem withApplied_of_yields {store : ConfigStore} {kind : RoutePolicyKind}
    (h : kind.Yields store e) : kind.withApplied store e route = route := by
  rw [withApplied, applied, if_pos h]

theorem withApplied_of_not_yields {store : ConfigStore} {kind : RoutePolicyKind}
    (h : ¬ kind.Yields store e) (route : RouteConfig) :
    kind.withApplied store e route =
      withPolicy (kind.table store) e.source (kind.set store) route := by
  rw [withApplied, applied, if_neg h, withPolicy]
  cases selectPolicy (kind.table store) e.source <;> rfl

end RoutePolicyKind

open RoutePolicyKind

section Applied

variable {store : ConfigStore} {e : Emission} {r : RouteConfig}

theorem matches_iff (kind : RoutePolicyKind) :
    kind.Matches store e.source ↔ (selectPolicy (kind.table store) e.source).isSome :=
  selectPolicy_isSome_iff.symm

theorem ite_eq_withApplied (kind : RoutePolicyKind) [Decidable own]
    (h : own ↔ kind.Yields store e) :
    (if own then r else withPolicy (kind.table store) e.source (kind.set store) r) =
      kind.withApplied store e r := by
  split
  next hr => exact (withApplied_of_yields (h.1 hr)).symm
  next hr => exact (withApplied_of_not_yields (fun hy => hr (h.2 hy)) r).symm

theorem applyApiKeyAuth_eq (h : r.auth.isSome ↔ apiKeyAuth.Yields store e) :
    applyApiKeyAuth store e.source r = apiKeyAuth.withApplied store e r :=
  ite_eq_withApplied apiKeyAuth h

theorem applyJwtAuth_eq (h : r.auth.isSome ↔ jwtAuth.Yields store e) :
    applyJwtAuth store e.source r = jwtAuth.withApplied store e r :=
  ite_eq_withApplied jwtAuth h

theorem applyApiKeyAuth_update : applyApiKeyAuth store source r =
    { r with auth := r.auth.or ((selectPolicy store.apiKeyAuthPolicies source).bind fun p =>
        (setApiKeyAuth store p {}).auth) } := by
  exact unlessOwn_auth r (fun _ _ => rfl) _

theorem applyJwtAuth_update : applyJwtAuth store source r =
    { r with auth := r.auth.or ((selectPolicy store.jwtAuthPolicies source).bind fun p =>
        (setJwtAuth p {}).auth) } := by
  exact unlessOwn_auth r (fun _ _ => rfl) _

theorem applyRetry_eq (hm : r.maxRetries = e.route.maxRetries)
    (hc : r.retryCodes = e.route.retryCodes) :
    applyRetry store e.source r = retry.withApplied store e r := by
  have hy : ¬ (e.route.maxRetries = 0 ∧ e.route.retryCodes.isEmpty = true) ↔
      retry.Yields store e := by
    rw [List.isEmpty_iff, not_and_or]
    exact Iff.rfl
  rw [applyRetry, hm, hc, ← ite_not]
  exact ite_eq_withApplied retry hy

theorem applyCors_eq (h : r.cors = e.route.cors) :
    applyCors store e.source r = cors.withApplied store e r :=
  ite_eq_withApplied cors (by rw [h]; exact Iff.rfl)

theorem not_yields_of_plain
    (h : kind ∉ [apiKeyAuth, jwtAuth, retry, cors]) : ¬ kind.Yields store e := by
  cases kind <;> first | exact not_false | exact absurd (by decide) h

theorem withApplied_of_plain (h : kind ∉ [apiKeyAuth, jwtAuth, retry, cors]) :
    kind.withApplied store e = withPolicy (kind.table store) e.source (kind.set store) :=
  funext (withApplied_of_not_yields (not_yields_of_plain h))

theorem exists_basicAuth (r : RouteConfig) : ∃ rate breaker connections,
    applyBasicAuth store e.source (applyConnection store e.source
      (applyCircuitBreaker store e.source (applyRateLimit store e.source r))) =
      { r with rateLimit := rate, circuitBreaker := breaker, maxConnections := connections
               auth := ((selectPolicy store.basicAuthPolicies e.source).bind fun p =>
                 (setBasicAuth store p {}).auth).or r.auth } := by
  rw [applyRateLimit, withPolicy_eq, applyTaken_setRateLimit, applyCircuitBreaker, withPolicy_eq,
    applyTaken_setCircuitBreaker, applyConnection, withPolicy_eq, applyTaken_setMaxConnections,
    applyBasicAuth, withPolicy_eq, applyTaken_setBasicAuth]
  exact ⟨_, _, _, rfl⟩

theorem exists_beforeRetry (r : RouteConfig) : ∃ rate breaker connections auth ext,
    applyExtAuth store e.source (applyJwtAuth store e.source (applyApiKeyAuth store e.source
      (applyBasicAuth store e.source (applyConnection store e.source
        (applyCircuitBreaker store e.source (applyRateLimit store e.source r)))))) =
      { r with rateLimit := rate, circuitBreaker := breaker, maxConnections := connections
               auth := auth, extAuth := ext } := by
  obtain ⟨_, _, _, hb⟩ := @exists_basicAuth store e r
  rw [hb, applyApiKeyAuth_update, applyJwtAuth_update, applyExtAuth, withPolicy_eq,
    applyTaken_setExtAuth]
  exact ⟨_, _, _, _, _, rfl⟩

theorem applyPolicies_eq_foldl (store : ConfigStore) :
    (emissions store).map (fun e => applyPolicies store e.source e.route) = (emissions store).map
      fun e => RoutePolicyKind.all.foldl (fun r kind => kind.withApplied store e r) e.route := by
  refine map_congr_left fun e he => ?_
  obtain ⟨_, _, _, hn⟩ := @exists_basicAuth store e e.route
  have hba : (applyBasicAuth store e.source (applyConnection store e.source
      (applyCircuitBreaker store e.source (applyRateLimit store e.source e.route)))).auth.isSome ↔
        apiKeyAuth.Yields store e := by
    rw [hn, (unannotated_of_mem_emissions he).auth]
    refine Iff.trans ?_ (matches_iff basicAuth).symm
    show _ ↔ (selectPolicy store.basicAuthPolicies e.source).isSome
    cases selectPolicy store.basicAuthPolicies e.source <;> exact Iff.rfl
  have hk : (applyApiKeyAuth store e.source (applyBasicAuth store e.source
      (applyConnection store e.source (applyCircuitBreaker store e.source
        (applyRateLimit store e.source e.route))))).auth.isSome ↔ jwtAuth.Yields store e := by
    rw [applyApiKeyAuth_update]
    show (Option.or _ _).isSome = true ↔ _
    rw [isSome_or, Bool.or_eq_true, hba]
    refine or_congr Iff.rfl (Iff.trans ?_ (matches_iff apiKeyAuth).symm)
    show _ ↔ (selectPolicy store.apiKeyAuthPolicies e.source).isSome
    cases selectPolicy store.apiKeyAuthPolicies e.source <;> exact Iff.rfl
  rw [applyPolicies, applyCors_eq, applyRetry_eq, applyJwtAuth_eq hk, applyApiKeyAuth_eq hba]
  · simp only [RoutePolicyKind.all, foldl_cons, foldl_nil]
    simp (disch := decide) only [withApplied_of_plain]
    rfl
  all_goals obtain ⟨_, _, _, _, _, hbe⟩ := @exists_beforeRetry store e e.route
  · rw [hbe]
  · rw [hbe]
  rw [hbe, Compiler.applyRetry_eq, unlessOwn_setRetry, applyIpAllowlist, withPolicy_eq,
    applyTaken_setIpAllowlist, applyBodySizeLimit, withPolicy_eq, applyTaken_setBodySizeLimit]

end Applied

section Coverage

variable (store : ConfigStore) (kind : RoutePolicyKind) (e : Emission) (gateway : NamespacedName)
  (listener : String)

/-- Some accepted policy of the kind is meant for the configuration. -/
def IsCovered : Prop :=
  ∃ p, IsAccepted (kind.table store) p ∧ Covers p.target e.source gateway listener

/-- Whatever the order of the table, what is applied is meant for the configuration, and something
is applied if some policy is meant for it. -/
def CoversExactly : Prop :=
  ∀ t, SameEntries t (kind.table store) →
    (∀ p, kind.applied store e t = some p → Covers p.target e.source gateway listener) ∧
      (IsCovered store kind e gateway listener → (kind.applied store e t).isSome)

def OnRoute : Prop :=
  ∃ p, IsAccepted (kind.table store) p ∧ directMatches p.target e.source = true

/-- A parent of the route names the target of an accepted policy of the kind. -/
def OnNamedParent (parentRefs : List ParentRefState) : Prop :=
  ∃ p, IsAccepted (kind.table store) p ∧ NamedByParent p.target parentRefs

/-- Every accepted policy of the kind that a parent of the route names covers the listener. -/
def NamedCover (parentRefs : List ParentRefState) : Prop :=
  ∀ p, IsAccepted (kind.table store) p → NamedByParent p.target parentRefs →
    CoversListener p.target gateway listener

/-- The `parentRef`s of the route agree with the listener: no policy of the kind is meant for the
configuration if another one takes its place, and else one is on the route, or those that the
`parentRef`s name cover the listener, and there is one if any covers it. -/
def ParentsAgree (parentRefs : List ParentRefState) : Prop :=
  (kind.Yields store e → ¬ IsCovered store kind e gateway listener) ∧
    (¬ kind.Yields store e → OnRoute store kind e ∨
      (NamedCover store kind gateway listener parentRefs ∧
        (IsCovered store kind e gateway listener → OnNamedParent store kind parentRefs)))

end Coverage

section

variable {store : ConfigStore} {kind : RoutePolicyKind} {e : Emission} {gateway : NamespacedName}
  {listener : String} {parentRefs : List ParentRefState}

theorem coversExactly_of_yields (hy : kind.Yields store e) :
    CoversExactly store kind e gateway listener ↔ ¬ IsCovered store kind e gateway listener := by
  have ha : ∀ t, kind.applied store e t = none := fun t => if_pos hy
  constructor
  · intro h hc
    have hs := (h _ fun _ => rfl).2 hc
    rw [ha] at hs
    cases hs
  · intro hn t _
    rw [ha]
    exact ⟨nofun, fun hc => absurd hc hn⟩

theorem coversExactly_of_not_yields (hy : ¬ kind.Yields store e)
    (hre : e.source.gatewayRefs = gatewayRefsOf parentRefs) :
    CoversExactly store kind e gateway listener ↔
      OnRoute store kind e ∨ (NamedCover store kind gateway listener parentRefs ∧
        (IsCovered store kind e gateway listener → OnNamedParent store kind parentRefs)) := by
  have ha : ∀ t, kind.applied store e t = selectPolicy t e.source := fun t => if_neg hy
  constructor
  · intro h
    by_cases hro : OnRoute store kind e
    · exact .inl hro
    have hno : ∀ q, IsAccepted (kind.table store) q → directMatches q.target e.source = false :=
      fun q hq => Bool.eq_false_iff.2 fun hd => hro ⟨q, hq, hd⟩
    refine .inr ⟨fun p hp hnamed => ?_, fun hc => ?_⟩
    · -- walk the table in the order that finds this policy first
      obtain ⟨t, hsa, hse⟩ :=
        exists_order_selectPolicy hp ((parentMatches_iff hre).2 hnamed) hno
      have hcover := (h t hsa).1 p ((ha t).trans hse)
      exact hcover.resolve_left (by rw [hno p hp]; exact Bool.false_ne_true)
    · have hso := (h _ fun _ => rfl).2 hc
      rw [ha, selectPolicy_isSome_iff] at hso
      obtain ⟨p, hp, hd | hpa⟩ := hso
      · exact absurd ⟨p, hp, hd⟩ hro
      · exact ⟨p, hp, (parentMatches_iff hre).1 hpa⟩
  · intro h t hsa
    rw [ha]
    refine ⟨fun p hse => ?_, fun hc => ?_⟩
    · obtain ⟨hp, hd | ⟨hpa, hno⟩⟩ := selectPolicy_eq_some hse
      · exact .inl hd
      · rcases h with ⟨q, hq, hd⟩ | ⟨hnamed, -⟩
        · exact absurd hd (by rw [hno q ((isAccepted_congr hsa).2 hq)]; exact Bool.false_ne_true)
        · exact .inr (hnamed p ((isAccepted_congr hsa).1 hp) ((parentMatches_iff hre).1 hpa))
    · rw [selectPolicy_isSome_iff]
      rcases h with ⟨q, hq, hd⟩ | ⟨-, hnamed⟩
      · exact ⟨q, (isAccepted_congr hsa).2 hq, .inl hd⟩
      · obtain ⟨q, hq, hname⟩ := hnamed hc
        exact ⟨q, (isAccepted_congr hsa).2 hq, .inr ((parentMatches_iff hre).2 hname)⟩

end

/-- The policies of every kind cover exactly the route, the Gateway and the listener they are
on. -/
def PoliciesCoverListeners : Prop :=
  ∀ e gateway listener parentRefs, EmittedFor store e gateway listener parentRefs →
    ∀ kind : RoutePolicyKind, CoversExactly store kind e gateway listener

/-- **Policies cover their listeners** exactly when the `parentRef`s of every route agree with the
listeners it is emitted for. -/
theorem policiesCoverListeners_iff : PoliciesCoverListeners store ↔
      ∀ e gateway listener parentRefs, EmittedFor store e gateway listener parentRefs →
        ∀ kind : RoutePolicyKind, ParentsAgree store kind e gateway listener parentRefs := by
  refine forall_congr' fun e => forall_congr' fun gateway => forall_congr' fun listener =>
    forall_congr' fun parentRefs => forall_congr' fun he => forall_congr' fun kind => ?_
  have hr := gatewayRefs_of_emittedFor he
  by_cases hyi : kind.Yields store e
  · rw [coversExactly_of_yields hyi]
    exact ⟨fun h => ⟨fun _ => h, fun hn => absurd hyi hn⟩, fun h => h.1 hyi⟩
  · rw [coversExactly_of_not_yields hyi hr]
    exact ⟨fun h => ⟨fun hy => absurd hy hyi, fun _ => h⟩, fun h => h.2 hyi⟩

def listenerPassword : PolicyState BasicAuthPolicy :=
  ⟨⟨"gateway.networking.k8s.io", "Gateway", "infra", "gw", some "http"⟩,
    ⟨"infra", "users", "Restricted"⟩, some 1, true⟩

def attachedRoute : HTTPRouteState :=
  plainRoute "team" "team.example" [{ namespaceName := "team", name := "app", port := 80 }]

def listenerPolicyStore : ConfigStore :=
  { gateways := Table.collect [(⟨"infra", "gw"⟩, sharedGateway)]
    httpRoutes := Table.collect [(⟨"team", "r"⟩, attachedRoute)]
    basicAuthPolicies := Table.collect [(⟨"infra", "password"⟩, listenerPassword)] }

/-- The route is served on the listener without the password. -/
theorem listenerPolicy_not_applied : ¬ PoliciesCoverListeners listenerPolicyStore := by
  intro h
  let key : NamespacedName := ⟨"team", "r"⟩
  let bd : Binding :=
    ⟨{ gatewayNamespace := "infra", gatewayName := "gw" },
      { name := "http", port := 80, protocol := "HTTP" }, ["team.example"]⟩
  have hb : bd ∈ httpBindings listenerPolicyStore attachedRoute := by decide
  obtain ⟨e, he⟩ : ∃ e, e ∈ httpRuleEmissions listenerPolicyStore key attachedRoute bd
      { backendRefs := [{ namespaceName := "team", name := "app", port := 80 }] } :=
    ⟨_, mem_cons_self⟩
  have hs' : e.source = httpSource key attachedRoute := by
    obtain ⟨host, -, rc, -, rfl⟩ := exists_of_mem_httpRuleEmissions he
    rfl
  have hem := EmittedFor.http mem_cons_self hb (mem_singleton.2 rfl) he
  have hs := (h e _ _ _ hem .basicAuth _ fun _ => rfl).2
    ⟨listenerPassword, ⟨⟨"infra", "password"⟩, rfl, rfl⟩, .inr ⟨rfl, rfl, rfl, .inr rfl⟩⟩
  have ha : RoutePolicyKind.applied listenerPolicyStore e .basicAuth
      (RoutePolicyKind.table listenerPolicyStore .basicAuth) =
        selectPolicy listenerPolicyStore.basicAuthPolicies e.source := if_neg not_false
  have hn : selectPolicy listenerPolicyStore.basicAuthPolicies
      (httpSource key attachedRoute) = none := by decide
  rw [ha, hs', hn] at hs
  cases hs

end Portus

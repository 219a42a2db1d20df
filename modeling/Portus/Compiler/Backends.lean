import Portus.Compiler.Choices

/-!
# The backends of a compiled configuration

The passes over the emitted configurations change policies, protocol and AI
fields and leave the backends alone (`backendFields_finishRoute`), so the backends
of a compiled route are those of its rule.
-/

namespace Portus.Compiler

open Portus Lib Proto Reconcilers List

variable (store : ConfigStore)

structure BackendFields where
  serviceName : String
  port : UInt32
  weightedBackends : List WeightedBackend
  mirrorBackends : List MirrorBackend
  redirect : Option RedirectFilter

def backendFields (r : RouteConfig) : BackendFields :=
  ⟨r.serviceName, r.port, r.weightedBackends, r.mirrorBackends, r.redirect⟩

theorem backendFields_finishRoute :
    backendFields (finishRoute store e) = backendFields e.route := by
  rw [finishRoute_eq, passes_frame (f := backendFields) (by intros; rfl) (by intros; rfl)
      (by intros; rfl), applyChoice_frame (f := backendFields) (by intros; rfl)]

def authFields (r : RouteConfig) : Option AuthType × Option ExtAuthConfig := (r.auth, r.extAuth)

theorem authFields_finishRoute :
    authFields (finishRoute store e) = authFields (applyPolicies store e.source e.route) := by
  rw [finishRoute_eq, passes_frame (f := authFields) (by intros; rfl) (by intros; rfl)
    (by intros; rfl), applyPolicies_eq]

theorem serviceName_finishRoute : (finishRoute store e).serviceName = e.route.serviceName :=
  congrArg BackendFields.serviceName (backendFields_finishRoute store)

theorem mirrorBackends_finishRoute :
    (finishRoute store e).mirrorBackends = e.route.mirrorBackends :=
  congrArg BackendFields.mirrorBackends (backendFields_finishRoute store)

theorem redirect_finishRoute : (finishRoute store e).redirect = e.route.redirect :=
  congrArg BackendFields.redirect (backendFields_finishRoute store)

variable {store} {key : NamespacedName} {hr : HTTPRouteState} {b bd : Binding}
  {rule : HTTPRouteRuleState} {e : Emission} {gr : GRPCRouteState}

theorem exists_of_mem_httpRuleEmissions (h : e ∈ httpRuleEmissions store key hr b rule) :
    ∃ host ∈ b.hosts, ∃ rc ∈ baseConfigs store b rule,
      e = ⟨revokeGrant store hr rule { rc with host := host }, httpSource key hr⟩ := by
  obtain ⟨host, hh, h⟩ := mem_flatMap.1 h
  obtain ⟨rc, hrc, rfl⟩ := mem_map.1 h
  exact ⟨host, hh, rc, hrc, rfl⟩

theorem exists_of_mem_baseConfigs (h : rc ∈ baseConfigs store b rule) :
    ∃ rc₀ ∈ compileHttpRule rule (b.hosts.head?.getD "*") b.listenerName b.listener.port
        b.listenerHostname,
      rc = { rc₀ with gatewayNamespace := (ownerGateway store b.parentRef).namespaceName,
                      gatewayName := (ownerGateway store b.parentRef).name } := by
  obtain ⟨rc₀, hrc₀, rfl⟩ := mem_map.1 h
  exact ⟨rc₀, hrc₀, rfl⟩

theorem backendsOfRule_of_mem_baseConfigs (h : rc ∈ baseConfigs store b rule) :
    BackendsOfRule rule rc := by
  obtain ⟨rc₀, hrc₀, rfl⟩ := exists_of_mem_baseConfigs h
  obtain ⟨h1, h2, h3, h4, h5⟩ := backendsOfRule_of_mem hrc₀
  exact ⟨h1, h2, h3, h4, h5⟩

theorem baseConfigs_ne_nil :
    baseConfigs store b rule ≠ [] := by
  intro h
  exact compileHttpRule_ne_nil _ _ (map_eq_nil_iff.1 h)

theorem exists_mem_httpRuleEmissions (hb : b ∈ httpBindings store hr) (rule : HTTPRouteRuleState) :
    ∃ e, e ∈ httpRuleEmissions store key hr b rule := by
  obtain ⟨host, hh⟩ := exists_mem_of_ne_nil _ (mem_bindings.1 hb).2.2.2.2.2
  obtain ⟨rc, hrc⟩ := exists_mem_of_ne_nil _ baseConfigs_ne_nil
  exact ⟨_, mem_flatMap.2 ⟨host, hh, mem_map.2 ⟨rc, hrc, rfl⟩⟩⟩

theorem exists_mem_grpcRuleEmissions (hb : b ∈ grpcBindings store gr) (rule : GRPCRouteRuleState) :
    ∃ e, e ∈ grpcRuleEmissions store key gr b rule := by
  obtain ⟨host, hh⟩ := exists_mem_of_ne_nil _ (mem_bindings.1 hb).2.2.2.2.2
  obtain ⟨entry, he⟩ := exists_mem_of_ne_nil _ orMatchAll_ne_nil
  exact ⟨_, mem_flatMap.2 ⟨entry, he, mem_map.2 ⟨host, hh, rfl⟩⟩⟩

theorem mem_emissions : e ∈ emissions store ↔
    (∃ key hr, (key, hr) ∈ httpRoutesOf store ∧ ∃ b ∈ httpBindings store hr, ∃ rule ∈ hr.rules,
        e ∈ httpRuleEmissions store key hr b rule) ∨
      ∃ key gr, (key, gr) ∈ store.grpcRoutes.pairs ∧ ∃ b ∈ grpcBindings store gr,
        ∃ rule ∈ gr.rules, e ∈ grpcRuleEmissions store key gr b rule := by
  simp only [emissions, httpEmissions, grpcEmissions, mem_append, mem_flatMap, Prod.exists]

/-- How a configuration carries the backends of its rule: the first one as `service_name` while it
is `kept`, and all of them as weighted backends when the rule is `split`. -/
structure CarriesRefs (refs : List BackendRefState) (kept : BackendRefState → Prop) (split : Prop)
    (f : BackendFields) : Prop where
  primary : ∀ b, refs.head? = some b → kept b → f.serviceName = b.name ∧ f.port = b.port.toUInt32
  revoked : ∀ b, refs.head? = some b → ¬ kept b → f.serviceName = ""
  unnamed : refs = [] → f.serviceName = ""
  weighted : split → ∃ hdr : BackendRefState → Option HeaderMutation,
    f.weightedBackends = refs.map fun b => ⟨b.name, b.port.toUInt32, b.weight, hdr b⟩
  single : ¬ split → f.weightedBackends = []

theorem CarriesRefs.exists_primary (h : CarriesRefs refs kept split f) (hn : f.serviceName ≠ "") :
    ∃ b, refs.head? = some b ∧ kept b ∧ f.serviceName = b.name ∧ f.port = b.port.toUInt32 := by
  cases hb : refs.head? with
  | none => exact absurd (h.unnamed (head?_eq_none_iff.1 hb)) hn
  | some b =>
    by_cases hk : kept b
    · exact ⟨b, rfl, hk, h.primary b hb hk⟩
    · exact absurd (h.revoked b hb hk) hn

theorem weightedBackendsOf_ne_nil (h : weightedBackendsOf rule ≠ []) :
    weightedBackendsOf rule = rule.backendRefs.map fun b =>
      ⟨b.name, b.port.toUInt32, b.weight, filtersToRequestHeaderMutation b.filters⟩ := by
  unfold weightedBackendsOf at h ⊢
  split
  next => rfl
  next hc => exact absurd (if_neg hc) h

theorem grpcWeightedBackendsOf_ne_nil {rule : GRPCRouteRuleState}
    (h : grpcWeightedBackendsOf rule ≠ []) :
    grpcWeightedBackendsOf rule = rule.backendRefs.map fun b =>
      ⟨b.name, b.port.toUInt32, b.weight, none⟩ := by
  unfold grpcWeightedBackendsOf at h ⊢
  split
  next => rfl
  next hc => exact absurd (if_neg hc) h

theorem backendFields_revokeGrant (store : ConfigStore) (hr : HTTPRouteState)
    (rule : HTTPRouteRuleState) (rc : RouteConfig) :
    (backendFields (revokeGrant store hr rule rc)).weightedBackends = rc.weightedBackends ∧
      (backendFields (revokeGrant store hr rule rc)).mirrorBackends = rc.mirrorBackends ∧
      (backendFields (revokeGrant store hr rule rc)).redirect = rc.redirect := by
  unfold revokeGrant
  dsimp only
  split
  · exact ⟨rfl, rfl, rfl⟩
  · split <;> exact ⟨rfl, rfl, rfl⟩

theorem find?_primary {refs : List BackendRefState} {b : BackendRefState}
    (h : refs.head? = some b) :
    refs.find? (fun b' => b'.name == b.name && b'.port.toUInt32 == b.port.toUInt32) = some b := by
  obtain ⟨bs, rfl⟩ := head?_eq_some_iff.1 h
  simp

section

variable (h : e ∈ httpRuleEmissions store key hr bd rule)

include h

theorem carriesRefs_http : CarriesRefs rule.backendRefs
      (fun b => grantOk store "HTTPRoute" hr.namespaceName b.namespaceName b.name = true)
      (weightedBackendsOf rule ≠ []) (backendFields (finishRoute store e)) := by
  rw [backendFields_finishRoute]
  obtain ⟨host, -, rc, hrc, rfl⟩ := exists_of_mem_httpRuleEmissions h
  obtain ⟨hna, hp, hw, -, -⟩ := backendsOfRule_of_mem_baseConfigs hrc
  have hwe := (backendFields_revokeGrant store hr rule { rc with host := host }).1
  refine ⟨fun b hb hk => ?_, fun b hb hk => ?_, fun hni => ?_, fun hs => ?_, fun hs => ?_⟩
  · simp only [hb, Option.map_some, Option.getD_some] at hna hp
    by_cases he : b.name = ""
    · simp [revokeGrant, backendFields, hna, hp, he]
    · simp [revokeGrant, backendFields, hna, hp, he, find?_primary hb, hk]
  · simp only [hb, Option.map_some, Option.getD_some] at hna hp
    by_cases he : b.name = ""
    · simp [revokeGrant, backendFields, hna, he]
    · simp [revokeGrant, backendFields, hna, hp, he, find?_primary hb, hk]
  · simp [revokeGrant, backendFields, hna, hni]
  · exact ⟨_, hwe.trans (hw.trans (weightedBackendsOf_ne_nil hs))⟩
  · exact hwe.trans (hw.trans (not_not.1 hs))

omit h in
theorem carriesRefs_grpc {rule : GRPCRouteRuleState}
    (h : e ∈ grpcRuleEmissions store key gr bd rule) :
    CarriesRefs rule.backendRefs (fun b => grpcWeightedBackendsOf rule ≠ [] ∨
        grantOk store "GRPCRoute" gr.namespaceName b.namespaceName b.name = true)
      (grpcWeightedBackendsOf rule ≠ []) (backendFields (finishRoute store e)) := by
  rw [backendFields_finishRoute]
  obtain ⟨entry, -, h⟩ := mem_flatMap.1 h
  obtain ⟨host, -, rfl⟩ := mem_map.1 h
  refine ⟨fun b hb hk => ?_, fun b hb hk => ?_, fun hn => ?_, fun hs => ?_, fun hs => ?_⟩
  · obtain ⟨bs, hbs⟩ := head?_eq_some_iff.1 hb
    simp only [backendFields, grpcPrimary, hbs]
    rw [if_pos]
    · exact ⟨rfl, rfl⟩
    · simpa using hk
  · obtain ⟨bs, hbs⟩ := head?_eq_some_iff.1 hb
    simp only [backendFields, grpcPrimary, hbs]
    rw [if_neg]
    simpa using hk
  · simp [backendFields, grpcPrimary, hn]
  · exact ⟨_, grpcWeightedBackendsOf_ne_nil hs⟩
  · exact not_not.1 hs

theorem mirrorBackends_http : (finishRoute store e).mirrorBackends =
      (mirrorsOf rule.filters).map fun m => ⟨m.1.name, m.1.port.toUInt32, m.2⟩ := by
  rw [mirrorBackends_finishRoute]
  obtain ⟨host, -, rc, hrc, rfl⟩ := exists_of_mem_httpRuleEmissions h
  exact (backendFields_revokeGrant store hr rule _).2.1.trans
    (backendsOfRule_of_mem_baseConfigs hrc).mirrors

theorem redirect_http : (finishRoute store e).redirect = (ruleFilters rule.filters).redirect := by
  rw [redirect_finishRoute]
  obtain ⟨host, -, rc, hrc, rfl⟩ := exists_of_mem_httpRuleEmissions h
  exact (backendFields_revokeGrant store hr rule _).2.2.trans
    (backendsOfRule_of_mem_baseConfigs hrc).redirect

end

theorem mirrorsAndRedirect_grpc {rule : GRPCRouteRuleState}
    (h : e ∈ grpcRuleEmissions store key gr bd rule) :
    (finishRoute store e).mirrorBackends = [] ∧ (finishRoute store e).redirect = none := by
  rw [mirrorBackends_finishRoute, redirect_finishRoute]
  obtain ⟨entry, -, h⟩ := mem_flatMap.1 h
  obtain ⟨host, -, rfl⟩ := mem_map.1 h
  exact ⟨rfl, rfl⟩

/-- A configuration that no policy and no AI pass has touched. -/
structure Unannotated (rc : RouteConfig) : Prop where
  auth : rc.auth = none
  extAuth : rc.extAuth = none
  aiDialect : rc.aiDialect = ""
  aiFederation : rc.aiFederation = ""
  upstreamTls : rc.upstreamTls = none

theorem unannotated_of_mem_emissions (h : e ∈ emissions store) : Unannotated e.route := by
  rcases mem_emissions.1 h with ⟨key, hr, -, b, -, rule, -, he⟩ | ⟨key, gr, -, b, -, rule, -, he⟩
  · obtain ⟨host, -, rc, hrc, rfl⟩ := exists_of_mem_httpRuleEmissions he
    obtain ⟨rc₀, hrc₀, rfl⟩ := exists_of_mem_baseConfigs hrc
    obtain ⟨entry, -, hrc₀⟩ := mem_flatMap.1 hrc₀
    rw [entryConfigs_eq rfl, mem_singleton] at hrc₀
    subst hrc₀
    unfold revokeGrant
    dsimp only
    split
    · exact ⟨rfl, rfl, rfl, rfl, rfl⟩
    · split <;> exact ⟨rfl, rfl, rfl, rfl, rfl⟩
  · obtain ⟨entry, -, he⟩ := mem_flatMap.1 he
    obtain ⟨host, -, rfl⟩ := mem_map.1 he
    exact ⟨rfl, rfl, rfl, rfl, rfl⟩

def extAuthConfigOf (store : ConfigStore) (p : PolicyState ExtAuthPolicy) : ExtAuthConfig :=
  ⟨if referencePermitted store p.target.namespaceName p.spec then p.spec.serviceName else "",
    p.spec.serviceNamespace, p.spec.port.toUInt32, p.spec.path, p.spec.timeoutMs, p.spec.failOpen,
    p.spec.requestHeaders, p.spec.responseHeaders⟩

theorem extAuth_applyPolicies : (applyPolicies store source r).extAuth =
      ((selectPolicy store.extAuthPolicies source).map (extAuthConfigOf store)).or r.extAuth := by
  rw [applyPolicies_eq_settings]
  show ((selectPolicy store.extAuthPolicies source).bind _).or _ = _
  cases selectPolicy store.extAuthPolicies source <;> rfl

theorem extAuth_finishRoute (he : e ∈ emissions store) : (finishRoute store e).extAuth =
      (selectPolicy store.extAuthPolicies e.source).map (extAuthConfigOf store) := by
  have h : (finishRoute store e).extAuth = (applyPolicies store e.source e.route).extAuth :=
    congrArg Prod.snd (authFields_finishRoute store)
  rw [h, extAuth_applyPolicies, (unannotated_of_mem_emissions he).extAuth, Option.or_none]

/-- Something in the store refers to a Service port, so that it gets an endpoint group. -/
inductive Referenced (store : ConfigStore) : ServiceKey → Prop where
  /-- A backend of an HTTPRoute or AIRoute that its grant permits. -/
  | http {key : NamespacedName} {hr : HTTPRouteState} {rule : HTTPRouteRuleState}
      {b : BackendRefState} (route : (key, hr) ∈ httpRoutesOf store) (mem : rule ∈ hr.rules)
      (ref : b ∈ rule.backendRefs)
      (grant : grantOk store "HTTPRoute" hr.namespaceName b.namespaceName b.name = true) :
      Referenced store b.serviceKey
  /-- A mirror of a bound HTTPRoute or AIRoute, in the namespace of the route. -/
  | mirror {key : NamespacedName} {hr : HTTPRouteState} {bd : Binding} {rule : HTTPRouteRuleState}
      {m : ServiceKey × UInt32} (route : (key, hr) ∈ httpRoutesOf store)
      (bound : bd ∈ httpBindings store hr) (mem : rule ∈ hr.rules)
      (ref : m ∈ mirrorsOf rule.filters) :
      Referenced store ⟨hr.namespaceName, m.1.name, m.1.port⟩
  /-- A backend of a GRPCRoute that its grant permits. -/
  | grpc {key : NamespacedName} {gr : GRPCRouteState} {rule : GRPCRouteRuleState}
      {b : BackendRefState} (route : (key, gr) ∈ store.grpcRoutes.pairs) (mem : rule ∈ gr.rules)
      (ref : b ∈ rule.backendRefs)
      (grant : grantOk store "GRPCRoute" gr.namespaceName b.namespaceName b.name = true) :
      Referenced store b.serviceKey
  /-- The authorization Service of a policy that applies to an emitted configuration. -/
  | extAuth {e : Emission} {p : PolicyState ExtAuthPolicy} (mem : e ∈ emissions store)
      (policy : selectPolicy store.extAuthPolicies e.source = some p)
      (permitted : referencePermitted store p.target.namespaceName p.spec = true)
      (named : p.spec.serviceName ≠ "") :
      Referenced store ⟨p.spec.serviceNamespace, p.spec.serviceName, p.spec.port⟩
  /-- The first backend of a TLSRoute that is programmed. -/
  | tls {tr : TLSRouteState} {b : BackendRefState} (route : tr ∈ store.tlsRoutes.values)
      (programmed : (compileTlsRoute store tr).isSome) (ref : tr.backendRefs.head? = some b) :
      Referenced store b.serviceKey
  /-- A backend of a TCPRoute. -/
  | tcp {key : NamespacedName} {tr : L4RouteState} {b : BackendRefState}
      (route : (key, tr) ∈ store.tcpRoutes.pairs) (ref : b ∈ tr.backendRefs) :
      Referenced store b.serviceKey
  /-- A backend of a UDPRoute. -/
  | udp {key : NamespacedName} {tr : L4RouteState} {b : BackendRefState}
      (route : (key, tr) ∈ store.udpRoutes.pairs) (ref : b ∈ tr.backendRefs) :
      Referenced store b.serviceKey
  /-- A member of an MCP federation. -/
  | mcp {fed : AIProviderState} {m : AIFederationMember × AIProviderState}
      (provider : fed ∈ mcpFederationProviders store) (mem : m ∈ federationMembers store fed) :
      Referenced store m.2.serviceKey

theorem mem_httpMirrorKeys : k ∈ httpMirrorKeys store hr ↔
      ∃ bd ∈ httpBindings store hr, ∃ rule ∈ hr.rules, ∃ m ∈ mirrorsOf rule.filters,
        k = ⟨hr.namespaceName, m.1.name, m.1.port⟩ := by
  simp only [httpMirrorKeys, mem_flatMap, mem_map]
  constructor
  · rintro ⟨bd, hbd, rule, hru, rc, hrc, mb, hmb, rfl⟩
    rw [(backendsOfRule_of_mem_baseConfigs hrc).mirrors] at hmb
    obtain ⟨m, hm, rfl⟩ := mem_map.1 hmb
    exact ⟨bd, hbd, rule, hru, m, hm, by simp⟩
  · rintro ⟨bd, hbd, rule, hru, m, hm, rfl⟩
    obtain ⟨rc, hrc⟩ := exists_mem_of_ne_nil _ baseConfigs_ne_nil
    refine ⟨bd, hbd, rule, hru, rc, hrc, ⟨m.1.name, m.1.port.toUInt32, m.2⟩, ?_, by simp⟩
    rw [(backendsOfRule_of_mem_baseConfigs hrc).mirrors]
    exact mem_map.2 ⟨m, hm, rfl⟩

theorem mem_extAuthKeys :
    k ∈ extAuthKeys ((emissions store).map fun e => applyPolicies store e.source e.route) ↔
      ∃ e ∈ emissions store, ∃ p, selectPolicy store.extAuthPolicies e.source = some p ∧
        referencePermitted store p.target.namespaceName p.spec = true ∧ p.spec.serviceName ≠ "" ∧
        k = ⟨p.spec.serviceNamespace, p.spec.serviceName, p.spec.port⟩ := by
  simp only [extAuthKeys, mem_map, mem_filter, mem_filterMap]
  constructor
  · rintro ⟨c, ⟨⟨_, ⟨e, he, rfl⟩, hc⟩, hne⟩, rfl⟩
    rw [extAuth_applyPolicies, (unannotated_of_mem_emissions he).extAuth, Option.or_none,
      Option.map_eq_some_iff] at hc
    obtain ⟨p, hp, rfl⟩ := hc
    by_cases hpe : referencePermitted store p.target.namespaceName p.spec = true
    · simp only [extAuthConfigOf, hpe, ↓reduceIte] at hne ⊢
      exact ⟨e, he, p, hp, hpe, by simpa using hne, by simp⟩
    · simp [extAuthConfigOf, hpe] at hne
  · rintro ⟨e, he, p, hp, hpe, hne, rfl⟩
    refine ⟨extAuthConfigOf store p, ⟨⟨_, ⟨e, he, rfl⟩, ?_⟩, ?_⟩, ?_⟩
    · rw [extAuth_applyPolicies, hp]
      rfl
    · simpa [extAuthConfigOf, hpe] using hne
    · simp [extAuthConfigOf, hpe]

theorem mem_backendKeys : k ∈ backendKeys store ↔ Referenced store k := by
  simp only [backendKeys, mem_dedup, insertedKeys, httpBackendKeys, grpcBackendKeys,
    l4BackendKeys, mem_append, mem_flatMap, mem_map, mem_filter, mem_filterMap, mem_extAuthKeys,
    mem_httpMirrorKeys, or_assoc]
  constructor
  · rintro (⟨_, hr, ⟨rule, hru, b, ⟨hb, hg⟩, rfl⟩ | ⟨bd, hbd, rule, hru, m, hm, rfl⟩⟩ |
      ⟨_, hr, rule, hru, b, ⟨hb, hg⟩, rfl⟩ | ⟨e, he, p, hp, hpe, hne, rfl⟩ | ⟨tr, htr, h⟩ |
      ⟨_, htr, b, hb, rfl⟩ | ⟨_, htr, b, hb, rfl⟩ | ⟨fed, hf, m, hm, rfl⟩)
    · exact .http hr hru hb hg
    · exact .mirror hr hbd hru hm
    · exact .grpc hr hru hb hg
    · exact .extAuth he hp hpe hne
    · obtain ⟨t, ht, h⟩ := Option.bind_eq_some_iff.1 h
      obtain ⟨b, hb, rfl⟩ := Option.map_eq_some_iff.1 h
      exact .tls htr (by rw [ht]; rfl) hb
    · exact .tcp htr hb
    · exact .udp htr hb
    · exact .mcp hf hm
  · intro h
    cases h with
    | http route mem ref grant => exact .inl ⟨_, route, .inl ⟨_, mem, _, ⟨ref, grant⟩, rfl⟩⟩
    | mirror route bound mem ref =>
      exact .inl ⟨_, route, .inr ⟨_, bound, _, mem, _, ref, rfl⟩⟩
    | grpc route mem ref grant =>
      exact .inr <| .inl ⟨_, route, _, mem, _, ⟨ref, grant⟩, rfl⟩
    | extAuth mem policy permitted named =>
      exact .inr <| .inr <| .inl ⟨_, mem, _, policy, permitted, named, rfl⟩
    | tls route programmed ref =>
      obtain ⟨t, ht⟩ := Option.isSome_iff_exists.1 programmed
      refine .inr <| .inr <| .inr <| .inl ⟨_, route, ?_⟩
      rw [tlsBackendKey, ht, ref]
      rfl
    | tcp route ref =>
      exact .inr <| .inr <| .inr <| .inr <| .inl ⟨_, route, _, ref, rfl⟩
    | udp route ref =>
      exact .inr <| .inr <| .inr <| .inr <| .inr <| .inl ⟨_, route, _, ref, rfl⟩
    | mcp provider mem =>
      exact .inr <| .inr <| .inr <| .inr <| .inr <| .inr ⟨_, provider, _, mem, rfl⟩

def sharedGateway : GatewayState :=
  { name := "gw", namespaceName := "infra"
    listeners := [{ name := "http", port := 80, protocol := "HTTP" }] }

def plainRoute (ns host : String) (backendRefs : List BackendRefState) : HTTPRouteState :=
  { namespaceName := ns
    hostnames := [host]
    parentRefs := [{ gatewayNamespace := "infra", gatewayName := "gw" }]
    rules := [{ backendRefs := backendRefs }] }

end Portus.Compiler

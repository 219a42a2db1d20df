import Portus.Compiler.Policies

/-!
# Compiling the store

`compile_config` put together: the passes over the emitted configurations, the
listeners, the L4 routes, the MCP federations, the issuer keys, and the endpoint
groups of every Service port that something refers to.
-/

namespace Portus.Compiler

open Portus Lib Proto Reconcilers List

variable (store : ConfigStore)

def backendNsIndex : Table (String × UInt16) String :=
  Table.collect <| (httpRoutesOf store).flatMap fun (_, hr) =>
    hr.rules.flatMap fun rule => rule.backendRefs.map fun b => ((b.name, b.port), b.namespaceName)

def overrideProtocol (route : RouteConfig) : RouteConfig :=
  if route.serviceName.isEmpty || route.protocol == "GRPC" then route
  else
    let port := portOfProto route.port
    match (backendNsIndex store).lookup (route.serviceName, port) with
    | none => route
    | some ns =>
      match store.serviceAppProtocols.lookup ⟨ns, route.serviceName, port⟩ with
      | some "kubernetes.io/h2c" => { route with protocol := "H2C" }
      | some "kubernetes.io/ws" => { route with protocol := "WS" }
      | some "HTTPS" => { route with upstreamTls := some ⟨true, true, route.serviceName⟩ }
      | _ => route

def aiBudgets : Table (String × String) AiBudget :=
  Table.collect <| (store.aiUsagePolicies.pairs.filter fun (_, p) =>
    p.accepted && p.target.kind == "AIRoute").map fun (key, p) =>
      ((p.target.namespaceName, p.target.name),
        ⟨key.display, p.spec.limit, p.spec.unit, p.spec.window, p.spec.per, p.spec.failOpen,
          p.spec.fallbackModel, p.spec.overflowLimit⟩)

def annotateAiRoute (source : RouteSource) (route : RouteConfig) :
    RouteConfig :=
  if source.kind ≠ "AIRoute" then route
  else
    let ar := store.aiRoutes.lookup ⟨source.namespaceName, source.name⟩
    let jwt := (ar.bind (·.jwt)).map fun j =>
      AiJwt.mk j.issuer (j.audience.getD "") j.tenantClaim j.toolsClaim j.scopes j.groupsClaim
        j.toolsByGroup
    let onBehalfOf := (ar.bind (·.onBehalfOf)).map fun o => AiOnBehalfOf.mk o.header o.trustedKeys
    { route with
      aiKeyRequired := (ar.map (·.requireApiKey)).getD false || route.aiKeyRequired
      aiJwt := jwt.or route.aiJwt
      aiOnBehalfOf := onBehalfOf.or route.aiOnBehalfOf
      aiBudget := ((aiBudgets store).lookup (source.namespaceName, source.name)).or route.aiBudget }

def providerOfService (serviceName : String) : Option AIProviderState := do
  let rest ← Text.stripPrefix aiProviderServicePrefix serviceName
  let (ns, name) ← Text.splitOnce '/' rest
  store.aiProviders.lookup ⟨ns, name⟩

def annotateAiProvider (route : RouteConfig) : RouteConfig :=
  match providerOfService store route.serviceName with
  | none => route
  | some p =>
    { route with
      aiDialect :=
        if p.kind = "anthropic" then "anthropic"
        else if p.kind = "mcp" ∨ p.kind = "mcp-federation" then "mcp"
        else "openai"
      aiProvider := p.name
      aiSessionAffinity := p.sessionAffinity
      aiFederation :=
        if p.kind = "mcp-federation" then p.namespaceName ++ "/" ++ p.name else route.aiFederation
      upstreamTls := if p.tls then some ⟨true, true, p.host⟩ else route.upstreamTls }

def finishRoute (e : Emission) : RouteConfig :=
  annotateAiProvider store <| annotateAiRoute store e.source <| overrideProtocol store <|
    applyPolicies store e.source e.route

def certOf (secretRef : String × String) : Option TlsCertRef := do
  let secret ← store.secrets.lookup ⟨secretRef.1, secretRef.2⟩
  let certPem ← secret.data.lookup "tls.crt"
  let keyPem ← secret.data.lookup "tls.key"
  pure ⟨certPem, keyPem⟩

/-- The bundle a ConfigMap holds now; a blank one counts as missing. -/
def configMapBundle (key : NamespacedName) : Option String :=
  ((store.configMaps.lookup key).bind (·.data.lookup "ca.crt")).filter
    fun pem => !(Text.trim pem).isEmpty

/-- The client validation of an HTTPS listener, its trust anchors read from the ConfigMaps now. -/
def clientValidationForListener (gw : NamespacedName) (port : UInt16) :
    Option ClientValidation :=
  match store.frontendValidation gw port with
  | some (.valid refs) =>
    let caCertPems := refs.caConfigMaps.filterMap (configMapBundle store)
    if caCertPems.isEmpty then none else some ⟨caCertPems, refs.mode⟩
  | _ => none

theorem clientValidationForListener_isSome {store : ConfigStore} :
    (clientValidationForListener store gw port).isSome = true ↔
      ∃ refs, store.frontendValidation gw port = some (.valid refs) ∧
        ∃ key ∈ refs.caConfigMaps, (configMapBundle store key).isSome = true := by
  unfold clientValidationForListener
  split
  next refs hv =>
    have hb : refs.caConfigMaps.filterMap (configMapBundle store) ≠ [] ↔
        ∃ key ∈ refs.caConfigMaps, (configMapBundle store key).isSome = true := by
      simp [filterMap_eq_nil_iff, Option.isSome_iff_ne_none]
    simp only [hv, Option.some.injEq, ClientValidationOutcome.valid.injEq, exists_eq_left', ← hb]
    split
    next he => simp [List.isEmpty_iff.1 he]
    next hne => simp [mt List.isEmpty_iff.2 hne]
  next hv =>
    refine iff_of_false Bool.false_ne_true ?_
    rintro ⟨refs, hs, -⟩
    exact hv refs hs

def compileListener (gw : NamespacedName) (l : ListenerState) : Listener :=
  { name := l.name
    port := l.port.toUInt32
    protocol := l.protocol
    hostname := l.hostname.getD ""
    tlsCertRef :=
      if l.protocol = "HTTPS" ∨ l.protocol = "TLS" then l.tlsCertRefs.head?.bind (certOf store)
      else none
    gatewayNamespace := gw.namespaceName
    gatewayName := gw.name
    clientValidation :=
      if l.protocol = "HTTPS" then clientValidationForListener store gw l.port else none }

def ownedListeners : List (NamespacedName × ListenerState) :=
  (store.gateways.pairs.flatMap fun (key, gw) => gw.listeners.map fun l => (key, l)) ++
    (store.listenerSets.values.filter (·.accepted)).flatMap fun ls =>
      ls.listeners.map fun l => (ls.parentGateway, l)

theorem mem_ownedListeners {store : ConfigStore} : (key, l) ∈ ownedListeners store ↔
      (∃ gw, store.gateways.lookup key = some gw ∧ l ∈ gw.listeners) ∨
        ∃ k ls, store.listenerSets.lookup k = some ls ∧ ls.accepted = true ∧
          ls.parentGateway = key ∧ l ∈ ls.listeners := by
  simp only [ownedListeners, mem_append, mem_flatMap, Prod.exists, Table.mem_pairs,
    mem_map, Prod.mk.injEq, mem_filter, Table.mem_values]
  constructor
  · rintro (⟨k, gw, hk, l', hl, rfl, rfl⟩ | ⟨ls, ⟨⟨k, hk⟩, ha⟩, l', hl, rfl, rfl⟩)
    · exact .inl ⟨gw, hk, hl⟩
    · exact .inr ⟨k, ls, hk, ha, rfl, hl⟩
  · rintro (⟨gw, hk, hl⟩ | ⟨k, ls, hk, ha, rfl, hl⟩)
    · exact .inl ⟨key, gw, hk, l, hl, rfl, rfl⟩
    · exact .inr ⟨ls, ⟨⟨k, hk⟩, ha⟩, l, hl, rfl, rfl⟩

def compileListeners : List Listener :=
  ((ownedListeners store).filter (·.2.accepted)).map fun (gw, l) => compileListener store gw l

def collectListenerHostnames (parentRefs : List ParentRefState)
    (protocols : List String) : List (Option String) :=
  (parentRefs.filter (·.accepted)).flatMap fun pr =>
    let listeners := ((store.gateways.lookup pr.parentKey).map (·.listeners)).getD []
    (listeners.filter fun l =>
      l.accepted && (pr.sectionName.isNone || pr.sectionName == some l.name) &&
        (pr.port.isNone || pr.port == some l.port) && protocols.contains l.protocol).map (·.hostname)

def tlsListenerFor (tr : TLSRouteState) (pr : ParentRefState) :
    Option ListenerState := do
  let gw ← store.gateways.lookup pr.parentKey
  match pr.sectionName with
  | some sn => gw.listeners.find? fun l => l.name == sn && l.protocol == "TLS" && l.accepted
  | none =>
    let tlsListeners := gw.listeners.filter fun l => l.protocol == "TLS" && l.accepted
    if tlsListeners.length ≤ 1 then tlsListeners.head?
    else tlsListeners.find? fun l =>
      match l.hostname with
      | some lh => tr.hostnames.any (hostnameMatches lh)
      | none => true

/-- The passthrough entry of a TLSRoute: the first parent whose listener is in the store. A route
with neither a backend nor a hostname has no entry. -/
def compileTlsRoute (tr : TLSRouteState) : Option TlsPassthroughRoute :=
  (tr.parentRefs.findSome? fun pr => (tlsListenerFor store tr pr).map (pr, ·)).bind fun (pr, l) =>
  let tlsMode := l.tlsMode.getD "Passthrough"
  let cert :=
    if tlsMode = "Terminate" then l.tlsCertRefs.head?.bind (certOf store) else none
  let hostnames := computeEffectiveHostnamesInner
    (collectListenerHostnames store tr.parentRefs ["TLS"]) tr.hostnames
  let backend := tr.backendRefs.head?
  if backend.isNone && hostnames.isEmpty then none
  else some
    { sniHostnames := hostnames
      backendService := (backend.map (·.name)).getD ""
      backendPort := (backend.map (·.port.toUInt32)).getD 0
      listenerName := pr.sectionName.getD ""
      listenerHostname := l.hostname.getD ""
      tlsMode := tlsMode
      certPem := (cert.map (·.certPem)).getD ""
      keyPem := (cert.map (·.keyPem)).getD ""
      listenerPort := l.port.toUInt32
      gatewayNamespace := pr.gatewayNamespace
      gatewayName := pr.gatewayName }

def tlsBackendKey (tr : TLSRouteState) : Option ServiceKey :=
  (compileTlsRoute store tr).bind fun _ => tr.backendRefs.head?.map (·.serviceKey)

structure L4Candidate where
  listenerKey : String × String × String
  listenerPort : UInt32
  created : Option Int
  routeName : String
  route : L4RouteState

def L4Candidate.compare (a b : L4Candidate) : Ordering :=
  (Ord.compare a.listenerKey.1 b.listenerKey.1).then <|
    (Ord.compare a.listenerKey.2.1 b.listenerKey.2.1).then <|
      (Ord.compare a.listenerKey.2.2 b.listenerKey.2.2).then <| (match a.created, b.created with
          | some x, some y => Ord.compare x y
          | some _, none => .lt
          | none, some _ => .gt
          | none, none => .eq).then <|
          Ord.compare a.routeName b.routeName

def dedupByListener : List L4Candidate → List L4Candidate
  | [] => []
  | c :: cs => c :: (dedupByListener cs).dropWhile (·.listenerKey == c.listenerKey)

def l4Candidates (protocol : String)
    (routes : List (NamespacedName × L4RouteState)) : List L4Candidate :=
  routes.flatMap fun (key, tr) =>
    (tr.parentRefs.filter (·.accepted)).flatMap fun pr =>
      match store.gateways.lookup pr.parentKey with
      | none => []
      | some gw =>
        (gw.listeners.filter fun l =>
          l.protocol == protocol && l.accepted &&
            (pr.sectionName.isNone || pr.sectionName == some l.name) &&
            (pr.port.isNone || pr.port == some l.port)).map fun l =>
              ⟨(gw.namespaceName, gw.name, l.name), l.port.toUInt32, tr.creationTimestamp,
                key.name, tr⟩

def l4Programmed (protocol : String)
    (routes : List (NamespacedName × L4RouteState)) : List L4Candidate :=
  dedupByListener <| (l4Candidates store protocol routes).insertionSort fun a b => a.compare b ≠ .gt

/-- The entry of a route on a listener; a route without backends has none. -/
def L4Candidate.entry (c : L4Candidate) : Option L4ProxyRoute :=
  c.route.backendRefs.head?.map fun first =>
    { backendService := first.name
      backendPort := first.port.toUInt32
      listenerName := c.listenerKey.2.2
      listenerPort := c.listenerPort
      backends := c.route.backendRefs.map fun b => ⟨b.name, b.port.toUInt32, b.weight, none⟩
      gatewayNamespace := c.listenerKey.1
      gatewayName := c.listenerKey.2.1 }

def compileL4Routes (protocol : String)
    (routes : List (NamespacedName × L4RouteState)) : List L4ProxyRoute :=
  (l4Programmed store protocol routes).filterMap (·.entry)

def federationMembers (fed : AIProviderState) : List (AIFederationMember × AIProviderState) :=
  fed.members.filterMap fun m =>
    (store.aiProviders.lookup ⟨fed.namespaceName, m.provider⟩).map (m, ·)

def mcpFederationProviders : List AIProviderState :=
  store.aiProviders.values.filter (·.kind == "mcp-federation")

def compileMcpFederations : List McpFederation :=
  ((mcpFederationProviders store).map fun fed =>
    { name := fed.namespaceName ++ "/" ++ fed.name
      members := (federationMembers store fed).map fun (m, p) =>
        { name := m.name
          serviceName := p.serviceName
          port := p.port.toUInt32
          tls := p.tls
          sni := p.host
          host := p.host
          headers := Table.collect (providerRequestHeaders store p)
          path := m.path } : McpFederation }).insertionSort fun a b => a.name ≤ b.name

def jwtIssuers (route : RouteConfig) : List String :=
  match route.auth with
  | some (.jwt providers) => providers.map (·.issuer)
  | _ => []

def compileIssuerKeys (routes : List RouteConfig) : List IssuerKeys :=
  (btreeSet (routes.flatMap jwtIssuers)).map fun issuer =>
    ⟨issuer, ((store.issuerKeys.lookup issuer).bind (·.jwksJson)).getD ""⟩

def compileGatewayBackendTls : List GatewayBackendTls :=
  (store.gatewayTls.pairs.filterMap fun (key, tls) =>
    (tls.backendClientCertRef.bind fun r => certOf store (r.namespaceName, r.name)).map fun c =>
      GatewayBackendTls.mk key.namespaceName key.name c.certPem c.keyPem).insertionSort fun a b =>
        ((Ord.compare a.gatewayNamespace b.gatewayNamespace).then
          (Ord.compare a.gatewayName b.gatewayName)) ≠ .gt

def httpBackendKeys (hr : HTTPRouteState) : List ServiceKey :=
  hr.rules.flatMap fun rule =>
    (rule.backendRefs.filter fun b =>
      grantOk store "HTTPRoute" hr.namespaceName b.namespaceName b.name).map (·.serviceKey)

/-- The mirrors of the HTTP loop, looked up in the namespace of the route. -/
def httpMirrorKeys (hr : HTTPRouteState) : List ServiceKey :=
  (httpBindings store hr).flatMap fun b =>
    hr.rules.flatMap fun rule =>
      (baseConfigs store b rule).flatMap fun rc =>
        rc.mirrorBackends.map fun m => ⟨hr.namespaceName, m.serviceName, portOfProto m.port⟩

def grpcBackendKeys (gr : GRPCRouteState) : List ServiceKey :=
  gr.rules.flatMap fun rule =>
    (rule.backendRefs.filter fun b =>
      grantOk store "GRPCRoute" gr.namespaceName b.namespaceName b.name).map (·.serviceKey)

def extAuthKeys (routes : List RouteConfig) : List ServiceKey :=
  ((routes.filterMap (·.extAuth)).filter (!·.serviceName.isEmpty)).map fun e =>
    ⟨e.serviceNamespace, e.serviceName, e.port.toUInt16⟩

def l4BackendKeys (routes : List (NamespacedName × L4RouteState)) : List ServiceKey :=
  routes.flatMap fun (_, tr) => tr.backendRefs.map (·.serviceKey)

/-- Every insertion into the set of referenced Service ports, in the order it is made. -/
def insertedKeys : List ServiceKey :=
  ((httpRoutesOf store).flatMap fun (_, hr) => httpBackendKeys store hr ++ httpMirrorKeys store hr) ++
    (store.grpcRoutes.pairs.flatMap fun (_, gr) => grpcBackendKeys store gr) ++
    extAuthKeys ((emissions store).map fun e => applyPolicies store e.source e.route) ++
    store.tlsRoutes.values.filterMap (tlsBackendKey store) ++
    l4BackendKeys store.tcpRoutes.pairs ++ l4BackendKeys store.udpRoutes.pairs ++
    ((mcpFederationProviders store).flatMap fun fed =>
      (federationMembers store fed).map fun (_, p) => p.serviceKey)

def backendKeys : List ServiceKey := (insertedKeys store).dedup

/-- The endpoints the store holds for a Service port, its target port looked up first. -/
def endpointsOf (key : ServiceKey) : List BackendEndpoint :=
  let targetPort := (store.servicePortMap.lookup key).getD key.port
  (store.endpoints.lookup { key with port := targetPort }).getD []

def healthCheckOf (key : ServiceKey) : Option HealthCheckConfig :=
  (store.healthCheckPolicies.values.find? fun p =>
    p.accepted && p.target.kind == "Service" && p.target.namespaceName == key.namespaceName &&
      p.target.name == key.name).map fun p =>
        ⟨p.spec.path, p.spec.intervalSecs, p.spec.timeoutSecs, p.spec.healthyThreshold,
          p.spec.unhealthyThreshold⟩

/-- The older of two policies; the current one unless the candidate is strictly older. -/
def pickOldest (current : Option (PolicyState BackendTLSPolicy))
    (candidate : PolicyState BackendTLSPolicy) : PolicyState BackendTLSPolicy :=
  match current with
  | none => candidate
  | some c =>
    match c.creationTimestamp, candidate.creationTimestamp with
    | some ct, some bt => if bt < ct then candidate else c
    | _, _ => c

/-- The accepted BackendTLSPolicies on a Service, and the name of the port asked for. -/
def backendTlsCandidates (key : ServiceKey) : List (PolicyState BackendTLSPolicy) :=
  store.backendTlsPolicies.values.filter fun p =>
    p.accepted && p.target.kind == "Service" && p.target.namespaceName == key.namespaceName &&
      p.target.name == key.name

def oldestPolicy (l : List (PolicyState BackendTLSPolicy)) : Option (PolicyState BackendTLSPolicy) :=
  l.foldl (fun current p => some (pickOldest current p)) none

/-- The BackendTLSPolicy of a Service port: one on the port's name first, then one on the whole
Service, the oldest within each. -/
def backendTlsPolicyOf (key : ServiceKey) : Option (PolicyState BackendTLSPolicy) :=
  let portName := store.servicePortNames.lookup key
  let candidates := backendTlsCandidates store key
  (oldestPolicy (candidates.filter fun p =>
      p.target.sectionName.isSome && p.target.sectionName == portName)).or
    (oldestPolicy (candidates.filter fun p => p.target.sectionName.isNone))

theorem pickOldest_eq_or :
    pickOldest current p = p ∨ current = some (pickOldest current p) := by
  cases current with
  | none => exact .inl rfl
  | some c =>
    unfold pickOldest
    dsimp only
    split
    · split
      · exact .inl rfl
      · exact .inr rfl
    · exact .inr rfl

variable {p : PolicyState BackendTLSPolicy}

theorem mem_of_foldl_pickOldest {l : List (PolicyState BackendTLSPolicy)}
    (h : l.foldl (fun current p => some (pickOldest current p)) current = some p) :
    p ∈ l ∨ current = some p := by
  induction l generalizing current with
  | nil => exact .inr h
  | cons a l ih =>
    rcases ih h with hm | heq
    · exact .inl (mem_cons_of_mem _ hm)
    · cases heq
      rcases pickOldest_eq_or with h | h
      · rw [h]
        exact .inl mem_cons_self
      · exact .inr h

theorem mem_of_oldestPolicy {l : List (PolicyState BackendTLSPolicy)}
    (h : oldestPolicy l = some p) : p ∈ l :=
  (mem_of_foldl_pickOldest h).resolve_right (by simp)

theorem oldestPolicy_isSome (h : p ∈ l) : (oldestPolicy l).isSome := by
  have hk (l : List (PolicyState BackendTLSPolicy))
      (current : Option (PolicyState BackendTLSPolicy)) (hc : current.isSome) :
      (l.foldl (fun current p => some (pickOldest current p)) current).isSome := by
    induction l generalizing current with
    | nil => exact hc
    | cons a l ih => exact ih _ rfl
  cases l with
  | nil => cases h
  | cons a l => exact hk l _ rfl

theorem mem_of_backendTlsPolicyOf {store : ConfigStore}
    (h : backendTlsPolicyOf store key = some p) :
    p ∈ backendTlsCandidates store key ∧
      (p.target.sectionName = none ∨ p.target.sectionName = store.servicePortNames.lookup key) := by
  rcases Option.or_eq_some_iff.1 h with h | ⟨-, h⟩
  · obtain ⟨hm, hs⟩ := mem_filter.1 (mem_of_oldestPolicy h)
    simp only [Bool.and_eq_true, beq_iff_eq] at hs
    exact ⟨hm, .inr hs.2⟩
  · obtain ⟨hm, hs⟩ := mem_filter.1 (mem_of_oldestPolicy h)
    exact ⟨hm, .inl (by simpa using hs)⟩

/-- The group of a Service port. Its name and port are all that is left of the key. -/
def backendGroup (key : ServiceKey) : BackendGroup :=
  { serviceName := key.name
    port := key.port.toUInt32
    endpoints := endpointsOf store key
    healthCheck := healthCheckOf store key
    backendTls := (backendTlsPolicyOf store key).map fun p =>
      ⟨p.spec.caCertPem, p.spec.hostname, p.spec.subjectAltNames⟩ }

def compileRoutes : List RouteConfig :=
  (emissions store).map (finishRoute store)

def tlsPassthroughListenerHostnames : List String :=
  store.gateways.values.flatMap fun gw =>
    (gw.listeners.filter fun l => l.accepted && l.protocol == "TLS").filterMap (·.hostname)

/-- The configuration of a store, with the referenced Service ports walked in `order`. -/
def compileConfig (order : IterOrder ServiceKey) (store : ConfigStore) : CompiledConfig :=
  { schemaVersion := "1.0.0"
    routes := compileRoutes store
    backends := (order.order (backendKeys store)).map (backendGroup store)
    listeners := compileListeners store
    tlsPassthroughRoutes := store.tlsRoutes.values.filterMap (compileTlsRoute store)
    tcpProxyRoutes := compileL4Routes store "TCP" store.tcpRoutes.pairs
    udpProxyRoutes := compileL4Routes store "UDP" store.udpRoutes.pairs
    tlsPassthroughListenerHostnames := tlsPassthroughListenerHostnames store
    gatewayBackendTls := compileGatewayBackendTls store
    mcpFederations := compileMcpFederations store
    issuerKeys := compileIssuerKeys store (compileRoutes store) }

end Portus.Compiler

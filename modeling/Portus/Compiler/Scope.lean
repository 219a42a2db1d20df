import Portus.Compiler.Backends
import Portus.Compiler.Fingerprint

/-!
# The slice of a Gateway

`scope_config`: what the dedicated data plane of a Gateway is sent. Routes and
listeners are kept by their Gateway; endpoint groups, federations and issuer keys by
what the kept routes name. The Service ports are collected from the routes and the L4
entries (`wantedPorts`), and not from the members of the federations.
-/

namespace Portus.Compiler

open Portus Lib Proto List Option

def routePorts (r : RouteConfig) : List (String × UInt32) :=
  (if r.serviceName.isEmpty then [] else [(r.serviceName, r.port)]) ++
    r.weightedBackends.map (fun w => (w.serviceName, w.port)) ++
    r.mirrorBackends.map (fun m => (m.serviceName, m.port)) ++
    (r.extAuth.map fun e => (e.serviceName, e.port)).toList

def tlsPorts (t : TlsPassthroughRoute) : List (String × UInt32) :=
  if t.backendService.isEmpty then [] else [(t.backendService, t.backendPort)]

def l4Ports (t : L4ProxyRoute) : List (String × UInt32) :=
  (if t.backendService.isEmpty then [] else [(t.backendService, t.backendPort)]) ++
    t.backends.map fun w => (w.serviceName, w.port)

section Owned

variable (gw : NamespacedName)

def owned (namespaceName name : String) : Bool := namespaceName == gw.namespaceName && name == gw.name

def ownedRoutes (routes : List RouteConfig) : List RouteConfig :=
  routes.filter fun r => owned gw r.gatewayNamespace r.gatewayName

def ownedTlsRoutes (routes : List TlsPassthroughRoute) : List TlsPassthroughRoute :=
  routes.filter fun t => owned gw t.gatewayNamespace t.gatewayName

def ownedL4Routes (routes : List L4ProxyRoute) : List L4ProxyRoute :=
  routes.filter fun t => owned gw t.gatewayNamespace t.gatewayName

def wantedPorts (config : CompiledConfig) : List (String × UInt32) :=
  (ownedRoutes gw config.routes).flatMap routePorts ++
    (ownedTlsRoutes gw config.tlsPassthroughRoutes).flatMap tlsPorts ++
    (ownedL4Routes gw config.tcpProxyRoutes ++ ownedL4Routes gw config.udpProxyRoutes).flatMap l4Ports

def slice (config : CompiledConfig) : CompiledConfig :=
  let routes := ownedRoutes gw config.routes
  let listeners := config.listeners.filter fun l => owned gw l.gatewayNamespace l.gatewayName
  { schemaVersion := config.schemaVersion
    version := config.version
    routes
    backends := config.backends.filter fun b =>
      (wantedPorts gw config).contains (b.serviceName, b.port)
    listeners
    tlsPassthroughRoutes := ownedTlsRoutes gw config.tlsPassthroughRoutes
    tcpProxyRoutes := ownedL4Routes gw config.tcpProxyRoutes
    udpProxyRoutes := ownedL4Routes gw config.udpProxyRoutes
    tlsPassthroughListenerHostnames := (listeners.filter fun l =>
      l.protocol == "TLS" && !l.hostname.isEmpty).map (·.hostname)
    gatewayBackendTls := config.gatewayBackendTls.filter fun g =>
      owned gw g.gatewayNamespace g.gatewayName
    mcpFederations := config.mcpFederations.filter fun f =>
      ((routes.map (·.aiFederation)).filter (!·.isEmpty)).contains f.name
    issuerKeys := config.issuerKeys.filter fun k => (routes.flatMap jwtIssuers).contains k.issuer }

end Owned

def scopeConfig (hash : Element → UInt64) (config : CompiledConfig) (gw : NamespacedName) :
    CompiledConfig :=
  { slice gw config with fingerprint := configFingerprint hash (slice gw config) }

/-! ## Ports of compiled configurations

Service ports are 16 bits wide in the store and 32 in the messages, so a port of a compiled
configuration survives the way back. -/

def ShortPort (p : String × UInt32) : Prop := p.2.toUInt16.toUInt32 = p.2

theorem shortPort_toUInt32 (name : String) (port : UInt16) : ShortPort (name, port.toUInt32) := by
  simp [ShortPort]

theorem CarriesRefs.shortPorts (h : CarriesRefs refs kept split f) :
    (f.serviceName ≠ "" → ShortPort (f.serviceName, f.port)) ∧
      ∀ w ∈ f.weightedBackends, ShortPort (w.serviceName, w.port) := by
  constructor
  · intro hn
    obtain ⟨b, -, -, -, hp⟩ := h.exists_primary hn
    rw [hp]
    exact shortPort_toUInt32 _ _
  · intro w hw
    by_cases hs : split
    · obtain ⟨hdr, hwe⟩ := h.weighted hs
      rw [hwe] at hw
      obtain ⟨b, -, rfl⟩ := List.mem_map.1 hw
      exact shortPort_toUInt32 _ _
    · rw [h.single hs] at hw
      cases hw

variable {store : ConfigStore} {p : String × UInt32}

theorem shortPort_routePorts (hr : r ∈ compileRoutes store) (hp : p ∈ routePorts r) :
    ShortPort p := by
  obtain ⟨e, he, rfl⟩ := List.mem_map.1 hr
  have hmi : ∀ m ∈ (finishRoute store e).mirrorBackends, ShortPort (m.serviceName, m.port) := by
    intro m hm
    rcases mem_emissions.1 he with ⟨key, hr, -, b, -, rule, -, he⟩ | ⟨key, gr, -, b, -, rule, -, he⟩
    · rw [mirrorBackends_http he] at hm
      obtain ⟨m, -, rfl⟩ := List.mem_map.1 hm
      exact shortPort_toUInt32 _ _
    · rw [(mirrorsAndRedirect_grpc he).1] at hm
      cases hm
  have hre : ((finishRoute store e).serviceName ≠ "" →
        ShortPort ((finishRoute store e).serviceName, (finishRoute store e).port)) ∧
      ∀ w ∈ (finishRoute store e).weightedBackends, ShortPort (w.serviceName, w.port) := by
    rcases mem_emissions.1 he with ⟨key, hr, -, b, -, rule, -, he⟩ | ⟨key, gr, -, b, -, rule, -, he⟩
    · exact (carriesRefs_http he).shortPorts
    · exact (carriesRefs_grpc he).shortPorts
  simp only [routePorts, mem_append, List.mem_map, mem_toList, map_eq_some_iff] at hp
  rcases hp with ((hp | ⟨w, hw, rfl⟩) | ⟨m, hm, rfl⟩) | ⟨ext, hex, rfl⟩
  · split at hp
    next => cases hp
    next hn =>
      cases mem_singleton.1 hp
      exact hre.1 (by simpa using hn)
  · exact hre.2 w hw
  · exact hmi m hm
  · rw [extAuth_finishRoute he, map_eq_some_iff] at hex
    obtain ⟨policy, -, rfl⟩ := hex
    exact shortPort_toUInt32 _ _

theorem shortPort_tlsPorts (ht : compileTlsRoute store tr = some t) (hp : p ∈ tlsPorts t) :
    ShortPort p := by
  have hba : t.backendService = (tr.backendRefs.head?.map (·.name)).getD "" ∧
      t.backendPort = (tr.backendRefs.head?.map (·.port.toUInt32)).getD 0 := by
    obtain ⟨⟨pr, l⟩, -, ht⟩ := bind_eq_some_iff.1 ht
    dsimp only at ht
    split at ht
    next => cases ht
    next =>
      cases ht
      exact ⟨rfl, rfl⟩
  rw [tlsPorts, hba.1, hba.2] at hp
  cases hb : tr.backendRefs.head? with
  | none => simp [hb] at hp
  | some b =>
    rw [hb] at hp
    split at hp
    next => cases hp
    next =>
      cases mem_singleton.1 hp
      exact shortPort_toUInt32 _ _

theorem shortPort_l4Ports (ht : t ∈ compileL4Routes store protocol routes) (hp : p ∈ l4Ports t) :
    ShortPort p := by
  obtain ⟨c, -, hc⟩ := mem_filterMap.1 ht
  obtain ⟨b, -, rfl⟩ := map_eq_some_iff.1 hc
  rcases mem_append.1 hp with hp | hp
  · split at hp
    next => cases hp
    next =>
      cases mem_singleton.1 hp
      exact shortPort_toUInt32 _ _
  · obtain ⟨w, hw, rfl⟩ := List.mem_map.1 hp
    obtain ⟨ref, -, rfl⟩ := List.mem_map.1 hw
    exact shortPort_toUInt32 _ _

theorem shortPort_wantedPorts {gw : NamespacedName}
    (hp : p ∈ wantedPorts gw (compileConfig order store)) : ShortPort p := by
  rw [wantedPorts, mem_append, mem_append] at hp
  rcases hp with (hp | hp) | hp
  · obtain ⟨r, hr, hp⟩ := mem_flatMap.1 hp
    exact shortPort_routePorts (mem_of_mem_filter hr) hp
  · obtain ⟨t, ht, hp⟩ := mem_flatMap.1 hp
    obtain ⟨tr, -, htr⟩ := mem_filterMap.1 (mem_of_mem_filter ht)
    exact shortPort_tlsPorts htr hp
  · obtain ⟨t, ht, hp⟩ := mem_flatMap.1 hp
    rcases mem_append.1 ht with ht | ht
    all_goals exact shortPort_l4Ports (mem_of_mem_filter ht) hp

end Portus.Compiler

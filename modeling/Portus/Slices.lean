import Portus.CompiledPools
import Portus.Compiler.Scope
import Portus.DataPlane.Jwt
import Portus.DataPlane.RouteSlice

/-!
# A Gateway served from its slice

The dedicated data plane of a Gateway is sent a slice of the configuration. Whatever is
looked up while something of the Gateway is served has to be found there exactly as it
is in the whole, and every request has to be routed as it is by the whole (`FaithfulSlice`).

The whole routes by port, whatever the Gateway, so the Gateway must have its ports to itself
(`OwnPorts`). Then the slice is faithful but for two things it works out on its own
(`SelfContained`): the pools of federation members, which it keeps only where something else of
the Gateway names the same Service port, and the hostnames of TLS listeners, among which it
counts those of ListenerSets.
-/

namespace Portus

open Lib Proto Compiler DataPlane List

def portSlot (p : String × UInt32) : Slot := (p.1, p.2.toUInt16)

def serviceSlots (rc : RouteConfig) : List Slot :=
  (if rc.serviceName = "" then [] else [(rc.serviceName, rc.port.toUInt16)]) ++
    rc.weightedBackends.map (fun w => (w.serviceName, w.port.toUInt16)) ++
    rc.mirrorBackends.map (fun m => (m.serviceName, m.port.toUInt16)) ++
    (rc.extAuth.map fun e => (e.serviceName, e.port.toUInt16)).toList

def tlsSlots (t : TlsPassthroughRoute) : List Slot :=
  if t.backendService = "" then [] else [(t.backendService, t.backendPort.toUInt16)]

def l4Slots (t : L4ProxyRoute) : List Slot := (l4Target t).backends.map fun b => (b.service, b.port)

def poolAt (hash : LbHash) (config : CompiledConfig) (slot : Slot) : Option Pool :=
  (buildLbMapFromProto hash {} config.backends).lbs.lookup slot

def federationAt (config : CompiledConfig) (id : String) : Option (List Slot) :=
  (buildFederationsFromProto config.mcpFederations).lookup id

def SamePools (part config : CompiledConfig) (slots : List Slot) : Prop :=
  ∀ slot ∈ slots, ∀ hash, poolAt hash part slot = poolAt hash config slot

/-- What is looked up for a Gateway is in the part as it is in the whole. -/
structure FaithfulSlice (gw : NamespacedName) (config part : CompiledConfig) : Prop where
  services : ∀ r ∈ config.routes, owned gw r.gatewayNamespace r.gatewayName = true →
    SamePools part config (serviceSlots r)
  tls : ∀ t ∈ config.tlsPassthroughRoutes, owned gw t.gatewayNamespace t.gatewayName = true →
    SamePools part config (tlsSlots t)
  l4 : ∀ t ∈ config.tcpProxyRoutes ++ config.udpProxyRoutes,
    owned gw t.gatewayNamespace t.gatewayName = true → SamePools part config (l4Slots t)
  federations : ∀ r ∈ config.routes, owned gw r.gatewayNamespace r.gatewayName = true →
    ∀ id, federationId r = some id → federationAt part id = federationAt config id ∧
        SamePools part config ((federationAt config id).getD [])
  issuers : ∀ r ∈ config.routes, owned gw r.gatewayNamespace r.gatewayName = true →
    ∀ issuer ∈ jwtIssuers r, ∀ (Key Claims : Type) (libs : JwtLibs Key Claims),
      (jwksFromEntries libs part.issuerKeys).lookup issuer =
        (jwksFromEntries libs config.issuerKeys).lookup issuer
  hostnames : ∀ l ∈ config.listeners, owned gw l.gatewayNamespace l.gatewayName = true →
    l.protocol = "TLS" → l.hostname ≠ "" → (l.hostname ∈ part.tlsPassthroughListenerHostnames ↔
        l.hostname ∈ config.tlsPassthroughListenerHostnames)
  /-- A request to a port of the Gateway is routed the same, however the maps are walked. -/
  planned : ∀ libs orders orders' facts, (∃ l ∈ config.listeners,
      owned gw l.gatewayNamespace l.gatewayName = true ∧ l.port.toUInt16 = facts.localPort) →
    routeRequest libs (buildListenerBucketsFromProto libs orders config.routes) facts =
      routeRequest libs (buildListenerBucketsFromProto libs orders' part.routes) facts

/-- The ports of a Gateway are its own, and its hostnames differ not only in case. -/
structure OwnPorts (gw : NamespacedName) (config : CompiledConfig) : Prop where
  /-- No route of another Gateway is on one of the ports, or on port 0, which serves every port. -/
  routes : ∀ l ∈ config.listeners, owned gw l.gatewayNamespace l.gatewayName = true →
    ∀ r ∈ config.routes, r.listenerPort.toUInt16 = l.port.toUInt16 ∨ r.listenerPort.toUInt16 = 0 →
      owned gw r.gatewayNamespace r.gatewayName = true
  hostnames : ∀ r ∈ ownedRoutes gw config.routes, ∀ r' ∈ ownedRoutes gw config.routes,
    r.listenerPort.toUInt16 = r'.listenerPort.toUInt16 →
      Text.toAsciiLowercase r.listenerHostname = Text.toAsciiLowercase r'.listenerHostname →
        r.listenerHostname = r'.listenerHostname

/-- The members and hostnames of a Gateway are accounted for elsewhere. -/
structure SelfContained (gw : NamespacedName) (config : CompiledConfig) : Prop where
  /-- A member of a federation that a route of the Gateway names has no address, or something of the
  Gateway names its Service port. -/
  members : ∀ r ∈ config.routes, owned gw r.gatewayNamespace r.gatewayName = true →
    ∀ id, federationId r = some id → ∀ slot ∈ (federationAt config id).getD [],
      slot ∈ (wantedPorts gw config).map portSlot ∨
        ∀ g ∈ config.backends, slotOfGroup g = slot → addrsOf g.endpoints = []
  /-- The hostname of a TLS listener of the Gateway is one of those collected from Gateways. -/
  hostnames : ∀ l ∈ config.listeners, owned gw l.gatewayNamespace l.gatewayName = true →
    l.protocol = "TLS" → l.hostname ≠ "" → l.hostname ∈ config.tlsPassthroughListenerHostnames

section Pools

variable {order : IterOrder ServiceKey} {store : ConfigStore} {gw : NamespacedName}

theorem serviceSlots_eq : serviceSlots rc = (routePorts rc).map portSlot := by
  unfold serviceSlots routePorts
  by_cases hn : rc.serviceName = "" <;> cases rc.extAuth <;>
    simp [hn, portSlot, Function.comp_def]

theorem poolAt_eq (hash : LbHash) :
    poolAt hash config slot = (Table.collect (freshEntries config.backends)).lookup slot :=
  lookup_buildLbMapFromProto (priorAgrees_empty hash config.backends) slot

theorem poolAt_eq_none {hash : LbHash} {config : CompiledConfig} {slot : Slot} :
    poolAt hash config slot = none ↔
      ∀ g ∈ config.backends, slotOfGroup g = slot → addrsOf g.endpoints = [] := by
  rw [poolAt_eq, Table.lookup_collect_eq_none]
  constructor
  · intro h g hg hs
    by_contra hne
    obtain ⟨pool, hpool⟩ := freshPool_isSome hne
    refine h pool (mem_filterMap.2 ⟨g, hg, ?_⟩)
    rw [hpool, hs]
    rfl
  · intro h pool hm
    obtain ⟨g, hg, he⟩ := mem_filterMap.1 hm
    obtain ⟨pool', hpool', heq⟩ := Option.map_eq_some_iff.1 he
    cases heq
    exact (freshPool_eq_some hpool').1 (h g hg rfl)

theorem mem_wantedPorts_of_slot (hg : g ∈ (compileConfig order store).backends)
    (hs : slotOfGroup g ∈ (wantedPorts gw (compileConfig order store)).map portSlot) :
    (g.serviceName, g.port) ∈ wantedPorts gw (compileConfig order store) := by
  obtain ⟨⟨name, port⟩, hm, heq⟩ := mem_map.1 hs
  have hw : port.toUInt16.toUInt32 = port := shortPort_wantedPorts hm
  have hgr : g.port.toUInt16.toUInt32 = g.port := by
    obtain ⟨k, -, rfl⟩ := mem_map.1 hg
    exact shortPort_toUInt32 "" _
  simp only [portSlot, slotOfGroup, Prod.mk.injEq] at heq
  rw [heq.2, hgr] at hw
  rwa [← heq.1, hw]

theorem poolAt_slice_of_wanted
    (h : slot ∈ (wantedPorts gw (compileConfig order store)).map portSlot) (hash : LbHash) :
    poolAt hash (slice gw (compileConfig order store)) slot =
      poolAt hash (compileConfig order store) slot := by
  rw [poolAt_eq, poolAt_eq]
  refine Table.lookup_collect_filter fun g hg pool he => ?_
  obtain ⟨pool', -, heq⟩ := Option.map_eq_some_iff.1 he
  cases heq
  exact contains_iff_mem.2 (mem_wantedPorts_of_slot hg h)

theorem poolAt_slice_of_not_wanted
    (h : slot ∉ (wantedPorts gw (compileConfig order store)).map portSlot) (hash : LbHash) :
    poolAt hash (slice gw (compileConfig order store)) slot = none := by
  refine poolAt_eq_none.2 fun g hg hs => absurd ?_ h
  have hw := contains_iff_mem.1 (mem_filter.1 hg).2
  exact mem_map.2 ⟨_, hw, hs⟩

theorem samePools_of_wanted
    (h : ∀ slot ∈ slots, slot ∈ (wantedPorts gw (compileConfig order store)).map portSlot) :
    SamePools (slice gw (compileConfig order store)) (compileConfig order store) slots :=
  fun slot hs hash => poolAt_slice_of_wanted (h slot hs) hash

theorem samePools_iff :
    SamePools (slice gw (compileConfig order store)) (compileConfig order store) slots ↔
      ∀ slot ∈ slots, slot ∈ (wantedPorts gw (compileConfig order store)).map portSlot ∨
        ∀ g ∈ (compileConfig order store).backends, slotOfGroup g = slot →
          addrsOf g.endpoints = [] := by
  refine forall₂_congr fun slot _ => ?_
  by_cases hw : slot ∈ (wantedPorts gw (compileConfig order store)).map portSlot
  · exact iff_of_true (poolAt_slice_of_wanted hw) (.inl hw)
  · simp only [hw, false_or, poolAt_slice_of_not_wanted hw, ← @poolAt_eq_none (fun _ _ => 0)]
    constructor
    · intro h
      exact (h _).symm
    · intro h hash
      rw [poolAt_eq] at h ⊢
      exact h.symm

end Pools

section Kept

variable {config : CompiledConfig} {gw : NamespacedName} {r : RouteConfig}

theorem mem_ownedRoutes (hr : r ∈ config.routes)
    (ho : owned gw r.gatewayNamespace r.gatewayName = true) :
    r ∈ ownedRoutes gw config.routes :=
  mem_filter.2 ⟨hr, ho⟩

theorem federationAt_slice (hr : r ∈ ownedRoutes gw config.routes) {id : String}
    (hid : federationId r = some id) :
    federationAt (slice gw config) id = federationAt config id := by
  have hn : r.aiFederation = id ∧ id ≠ "" := by
    unfold federationId at hid
    split at hid
    next h =>
      cases hid
      rw [Bool.and_eq_true, Bool.not_eq_true', String.isEmpty_eq_false_iff] at h
      exact ⟨rfl, h.2⟩
    next => cases hid
  unfold federationAt buildFederationsFromProto
  rw [← filterMap_eq_map]
  refine Table.lookup_collect_filter fun f _ members hf => ?_
  have hf : f.name = id := congrArg Prod.fst (Option.some.inj hf)
  rw [contains_iff_mem, mem_filter, mem_map, hf]
  exact ⟨⟨r, hr, hn.1⟩, by simp [hn.2]⟩

theorem jwksFromEntries_slice (hr : r ∈ ownedRoutes gw config.routes)
    (hi : issuer ∈ jwtIssuers r) :
    (jwksFromEntries libs (slice gw config).issuerKeys).lookup issuer =
      (jwksFromEntries libs config.issuerKeys).lookup issuer := by
  refine Table.lookup_collect_filter fun k _ keys hk => ?_
  obtain ⟨set, -, heq⟩ := Option.map_eq_some_iff.1 hk
  have hk : k.issuer = issuer := congrArg Prod.fst heq
  rw [contains_iff_mem, mem_flatMap, hk]
  exact ⟨r, hr, hi⟩

theorem OwnPorts.routeRequest_slice (h : OwnPorts gw config) {libs : RouterLibs}
    {orders orders' : MapOrders} {facts : RequestFacts} {l : Listener} (hl : l ∈ config.listeners)
    (ho : owned gw l.gatewayNamespace l.gatewayName = true) (hp : l.port.toUInt16 = facts.localPort) :
    routeRequest libs (buildListenerBucketsFromProto libs orders config.routes) facts =
      routeRequest libs (buildListenerBucketsFromProto libs orders' (slice gw config).routes)
        facts := by
  have hon {port : UInt16} (hport : port = facts.localPort ∨ port = 0) :
      onPort config.routes port = onPort (slice gw config).routes port := by
    show onPort config.routes port = onPort (ownedRoutes gw config.routes) port
    rw [onPort, onPort, ownedRoutes, filter_filter]
    refine filter_congr fun r hr => ?_
    by_cases hrp : r.listenerPort.toUInt16 = port
    · have hown := h.routes l hl ho r hr (by rwa [hp, hrp])
      simp [hown]
    · simp [hrp]
  refine routeRequest_congr (hon (.inl rfl)) (hon (.inr rfl)) ?_
  rintro port lh lh' ⟨r, hr, rfl, rfl⟩ ⟨r', hr', hp', rfl⟩
  exact h.hostnames r hr r' hr' hp'.symm

theorem mem_hostnames_slice {l : Listener} (hl : l ∈ config.listeners)
    (ho : owned gw l.gatewayNamespace l.gatewayName = true) (ht : l.protocol = "TLS")
    (hn : l.hostname ≠ "") : l.hostname ∈ (slice gw config).tlsPassthroughListenerHostnames :=
  mem_map.2 ⟨l, mem_filter.2 ⟨mem_filter.2 ⟨hl, ho⟩, by simp [ht, hn]⟩, rfl⟩

end Kept

section Wanted

variable {config : CompiledConfig} {gw : NamespacedName} {slot : Slot}

theorem wanted_of_route (hr : r ∈ ownedRoutes gw config.routes)
    (h : slot ∈ serviceSlots r) : slot ∈ (wantedPorts gw config).map portSlot := by
  rw [serviceSlots_eq] at h
  obtain ⟨p, hp, rfl⟩ := mem_map.1 h
  refine mem_map_of_mem (mem_append_left _ (mem_append_left _ ?_))
  exact mem_flatMap.2 ⟨r, hr, hp⟩

theorem wanted_of_tls (ht : t ∈ ownedTlsRoutes gw config.tlsPassthroughRoutes)
    (h : slot ∈ tlsSlots t) : slot ∈ (wantedPorts gw config).map portSlot := by
  unfold tlsSlots at h
  split at h
  next => cases h
  next hn =>
    cases mem_singleton.1 h
    refine mem_map.2 ⟨(t.backendService, t.backendPort), ?_, rfl⟩
    refine mem_append_left _ (mem_append_right _ (mem_flatMap.2 ⟨t, ht, ?_⟩))
    simp [tlsPorts, hn]

theorem wanted_of_l4
    (ht : t ∈ ownedL4Routes gw config.tcpProxyRoutes ++ ownedL4Routes gw config.udpProxyRoutes)
    (h : slot ∈ l4Slots t) : slot ∈ (wantedPorts gw config).map portSlot := by
  obtain ⟨b, hb, rfl⟩ := mem_map.1 h
  obtain ⟨w, hw, rfl⟩ := mem_map.1 hb
  refine mem_map.2 ⟨(w.serviceName, w.port), ?_, rfl⟩
  refine mem_append_right _ (mem_flatMap.2 ⟨t, ht, mem_append_right _ ?_⟩)
  exact mem_map_of_mem hw

end Wanted

theorem faithfulSlice_fingerprint :
    FaithfulSlice gw config { part with fingerprint := fingerprint } ↔
      FaithfulSlice gw config part :=
  ⟨fun h => ⟨h.services, h.tls, h.l4, h.federations, h.issuers, h.hostnames, h.planned⟩,
    fun h => ⟨h.services, h.tls, h.l4, h.federations, h.issuers, h.hostnames, h.planned⟩⟩

theorem FaithfulSlice.poolAt_member
    (h : FaithfulSlice gw config part) {id : String} (hro : config.routes.any (fun r =>
      owned gw r.gatewayNamespace r.gatewayName && federationId r == some id) = true)
    (hslots : federationAt config id = some slots) (hslot : slot ∈ slots) (hash : LbHash) :
    poolAt hash part slot = poolAt hash config slot := by
  obtain ⟨r, hr, ho⟩ := any_eq_true.1 hro
  rw [Bool.and_eq_true, beq_iff_eq] at ho
  have hp := (h.federations r hr ho.1 id ho.2).2
  rw [hslots] at hp
  exact hp slot hslot hash

def toolsProvider : AIProviderState :=
  { namespaceName := "ai", name := "tools", kind := "mcp-federation", tls := false, host := "tools"
    port := 80, members := [⟨"git", "git", "/mcp"⟩] }

def gitProvider : AIProviderState :=
  { namespaceName := "ai", name := "git", kind := "mcp", tls := false, host := "git", port := 8080 }

/-- A Gateway with a route whose rules fan out or go to one member. -/
def toolsStoreWith (rules : List AIRouteRuleState) : ConfigStore :=
  { gateways := Table.collect [(⟨"infra", "gw"⟩, sharedGateway)]
    aiProviders := Table.collect [(⟨"ai", "tools"⟩, toolsProvider), (⟨"ai", "git"⟩, gitProvider)]
    aiRoutes := Table.collect [(⟨"ai", "mcp"⟩,
      { namespaceName := "ai", hostnames := ["tools.example"]
        parentRefs := [{ gatewayNamespace := "infra", gatewayName := "gw" }]
        rules })]
    endpoints := Table.collect [(gitProvider.serviceKey, [⟨"10.0.0.9", 8080⟩])] }

def namedMember : ConfigStore :=
  toolsStoreWith [{ provider := ⟨"ai", "tools"⟩ }, { provider := ⟨"ai", "git"⟩ }]

end Portus

import Portus.CompiledPools

/-!
# Whose endpoints a backend reaches

A route names its backends by namespace, name and port; the data plane looks them
up by name and port. `EmittedBackend` pairs each lookup of a compiled route with
the `backendRef` or mirror filter it was compiled from, and `DeclaredBackend` says
the same in terms of the routes in the store.
-/

namespace Portus

open Lib Proto Compiler DataPlane List

/-- The addresses are those of the endpoints, no more and no fewer. -/
def ServesExactly (addrs : List SocketAddr) (endpoints : List BackendEndpoint) : Prop :=
  (∀ a ∈ addrs, ∃ ep ∈ endpoints, endpointAddr ep = some a) ∧
    ∀ ep ∈ endpoints, ∃ a ∈ addrs, endpointAddr ep = some a

theorem ServesExactly.congr {l₁ l₂ : List SocketAddr} {eps : List BackendEndpoint} (h : ∀ a, a ∈ l₁ ↔ a ∈ l₂) :
    ServesExactly l₁ eps ↔ ServesExactly l₂ eps := by
  unfold ServesExactly
  simp only [h]

/-- The lookups of a configuration with a nonempty name, each with the `backendRef` behind it. The
primary backend comes from the first reference, each weighted one from its own. -/
def refOrigins (refs : List BackendRefState) (rc : BackendFields) : List (Slot × ServiceKey) :=
  let primary := refs.head?.toList.map fun b : BackendRefState =>
    ((rc.serviceName, rc.port.toUInt16), b.serviceKey)
  let weighted := (rc.weightedBackends.zip refs).map fun wb =>
    ((wb.1.serviceName, wb.1.port.toUInt16), wb.2.serviceKey)
  (primary ++ weighted).filter (!·.1.1.isEmpty)

def mirrorOrigins (filters : List HTTPFilterState) (rc : BackendFields) :
    List (Slot × ServiceKey) :=
  (rc.mirrorBackends.zip (mirrorsOf filters)).map fun (m, d) =>
    ((m.serviceName, m.port.toUInt16), d.1)

/-- A compiled route looks up `slot` for a backend that its rule declares as `origin`. -/
inductive EmittedBackend (store : ConfigStore) (slot : Slot) (origin : ServiceKey) : Prop where
  | http {key : NamespacedName} {hr : HTTPRouteState} {bd : Binding} {rule : HTTPRouteRuleState}
      {e : Emission} (route : (key, hr) ∈ httpRoutesOf store) (bound : bd ∈ httpBindings store hr)
      (mem : rule ∈ hr.rules) (emitted : e ∈ httpRuleEmissions store key hr bd rule)
      (lookup : (slot, origin) ∈ refOrigins rule.backendRefs (backendFields (finishRoute store e)) ++
        mirrorOrigins rule.filters (backendFields (finishRoute store e)))
  | grpc {key : NamespacedName} {gr : GRPCRouteState} {bd : Binding} {rule : GRPCRouteRuleState}
      {e : Emission} (route : (key, gr) ∈ store.grpcRoutes.pairs) (bound : bd ∈ grpcBindings store gr)
      (mem : rule ∈ gr.rules) (emitted : e ∈ grpcRuleEmissions store key gr bd rule)
      (lookup : (slot, origin) ∈ refOrigins rule.backendRefs (backendFields (finishRoute store e)))

/-- A bound route declares a backend that its compiled configurations can look up. A single plain
backend needs its grant; a backend among several, and a mirror, is looked up without one. -/
inductive DeclaredBackend (store : ConfigStore) : ServiceKey → Prop where
  | httpPrimary {key : NamespacedName} {hr : HTTPRouteState} {bd : Binding}
      {rule : HTTPRouteRuleState} {b : BackendRefState} (route : (key, hr) ∈ httpRoutesOf store)
      (bound : bd ∈ httpBindings store hr) (mem : rule ∈ hr.rules)
      (ref : rule.backendRefs.head? = some b) (named : b.name ≠ "")
      (grant : grantOk store "HTTPRoute" hr.namespaceName b.namespaceName b.name = true) :
      DeclaredBackend store b.serviceKey
  | httpWeighted {key : NamespacedName} {hr : HTTPRouteState} {bd : Binding}
      {rule : HTTPRouteRuleState} {b : BackendRefState} (route : (key, hr) ∈ httpRoutesOf store)
      (bound : bd ∈ httpBindings store hr) (mem : rule ∈ hr.rules) (ref : b ∈ rule.backendRefs)
      (named : b.name ≠ "") (split : weightedBackendsOf rule ≠ []) :
      DeclaredBackend store b.serviceKey
  | mirror {key : NamespacedName} {hr : HTTPRouteState} {bd : Binding}
      {rule : HTTPRouteRuleState} {m : ServiceKey × UInt32}
      (route : (key, hr) ∈ httpRoutesOf store) (bound : bd ∈ httpBindings store hr)
      (mem : rule ∈ hr.rules) (ref : m ∈ mirrorsOf rule.filters) : DeclaredBackend store m.1
  | grpcPrimary {key : NamespacedName} {gr : GRPCRouteState} {bd : Binding}
      {rule : GRPCRouteRuleState} {b : BackendRefState} (route : (key, gr) ∈ store.grpcRoutes.pairs)
      (bound : bd ∈ grpcBindings store gr) (mem : rule ∈ gr.rules)
      (ref : rule.backendRefs.head? = some b) (named : b.name ≠ "")
      (grant : grantOk store "GRPCRoute" gr.namespaceName b.namespaceName b.name = true) :
      DeclaredBackend store b.serviceKey
  | grpcWeighted {key : NamespacedName} {gr : GRPCRouteState} {bd : Binding}
      {rule : GRPCRouteRuleState} {b : BackendRefState} (route : (key, gr) ∈ store.grpcRoutes.pairs)
      (bound : bd ∈ grpcBindings store gr) (mem : rule ∈ gr.rules) (ref : b ∈ rule.backendRefs)
      (named : b.name ≠ "") (split : grpcWeightedBackendsOf rule ≠ []) :
      DeclaredBackend store b.serviceKey

theorem zip_map_self (f : α → β) (l : List α) : (l.map f).zip l = l.map fun a => (f a, a) := by
  nth_rewrite 2 [← map_id l]
  exact zip_map'

theorem mem_refOrigins (hc : CarriesRefs refs kept split f) : (slot, k) ∈ refOrigins refs f ↔
      slot = slotOf k ∧ ((∃ b, refs.head? = some b ∧ kept b ∧ b.name ≠ "" ∧ k = b.serviceKey) ∨
          (split ∧ ∃ b ∈ refs, b.name ≠ "" ∧ k = b.serviceKey)) := by
  have hpr : (slot, k) ∈ (refs.head?.toList.map fun b : BackendRefState =>
        ((f.serviceName, f.port.toUInt16), b.serviceKey)).filter (!·.1.1.isEmpty) ↔
      slot = slotOf k ∧ ∃ b, refs.head? = some b ∧ kept b ∧ b.name ≠ "" ∧ k = b.serviceKey := by
    simp only [mem_filter, mem_map, Option.mem_toList, Prod.mk.injEq]
    constructor
    · rintro ⟨⟨b, hb, rfl, rfl⟩, hne⟩
      by_cases hk : kept b
      · obtain ⟨hn, hp⟩ := hc.primary b hb hk
        exact ⟨by simp [slotOf, BackendRefState.serviceKey, hn, hp], b, hb, hk,
          by simpa [hn] using hne, rfl⟩
      · simp [hc.revoked b hb hk] at hne
    · rintro ⟨rfl, b, hb, hk, hne, rfl⟩
      obtain ⟨hn, hp⟩ := hc.primary b hb hk
      refine ⟨⟨b, hb, ?_, rfl⟩, by simpa [slotOf, BackendRefState.serviceKey] using hne⟩
      simp [hn, hp, slotOf, BackendRefState.serviceKey]
  have hwe : (slot, k) ∈ ((f.weightedBackends.zip refs).map fun wb =>
        ((wb.1.serviceName, wb.1.port.toUInt16), wb.2.serviceKey)).filter (!·.1.1.isEmpty) ↔
      slot = slotOf k ∧ split ∧ ∃ b ∈ refs, b.name ≠ "" ∧ k = b.serviceKey := by
    by_cases hs : split
    · obtain ⟨hdr, hw⟩ := hc.weighted hs
      have hz : f.weightedBackends.zip refs =
          refs.map fun b => (⟨b.name, b.port.toUInt32, b.weight, hdr b⟩, b) := by
        rw [hw, zip_map_self]
      rw [hz]
      simp only [hs, true_and, map_map, mem_filter, mem_map, Function.comp_apply,
        Prod.mk.injEq, UInt16.toUInt16_toUInt32]
      constructor
      · rintro ⟨⟨b, hb, rfl, rfl⟩, hne⟩
        exact ⟨rfl, b, hb, by simpa using hne, rfl⟩
      · rintro ⟨rfl, b, hb, hne, rfl⟩
        exact ⟨⟨b, hb, rfl, rfl⟩, by simpa [slotOf, BackendRefState.serviceKey] using hne⟩
    · rw [hc.single hs]
      simp [hs]
  unfold refOrigins
  dsimp only
  rw [filter_append, mem_append, hpr, hwe, and_or_left]

theorem mem_mirrorOrigins
    (h : f.mirrorBackends = (mirrorsOf filters).map fun m => ⟨m.1.name, m.1.port.toUInt32, m.2⟩) :
    (slot, k) ∈ mirrorOrigins filters f ↔ slot = slotOf k ∧ ∃ m ∈ mirrorsOf filters, k = m.1 := by
  have hz : f.mirrorBackends.zip (mirrorsOf filters) =
      (mirrorsOf filters).map fun m => (⟨m.1.name, m.1.port.toUInt32, m.2⟩, m) := by
    rw [h, zip_map_self]
  rw [mirrorOrigins, hz]
  simp only [map_map, mem_map, Function.comp_apply, Prod.mk.injEq, UInt16.toUInt16_toUInt32]
  constructor
  · rintro ⟨m, hm, rfl, rfl⟩
    exact ⟨rfl, m, hm, rfl⟩
  · rintro ⟨rfl, m, hm, rfl⟩
    exact ⟨m, hm, rfl, rfl⟩

theorem emittedBackend_iff :
    EmittedBackend store slot origin ↔ slot = slotOf origin ∧ DeclaredBackend store origin := by
  constructor
  · rintro (⟨route, bound, mem, emitted, lookup⟩ | ⟨route, bound, mem, emitted, lookup⟩)
    · rcases mem_append.1 lookup with lookup | lookup
      · obtain ⟨hsl, ⟨b, hb, hk, hne, rfl⟩ | ⟨hs, b, hb, hne, rfl⟩⟩ :=
          (mem_refOrigins (carriesRefs_http emitted)).1 lookup
        · exact ⟨hsl, .httpPrimary route bound mem hb hne hk⟩
        · exact ⟨hsl, .httpWeighted route bound mem hb hne hs⟩
      · obtain ⟨hsl, m, hm, rfl⟩ := (mem_mirrorOrigins (mirrorBackends_http emitted)).1 lookup
        exact ⟨hsl, .mirror route bound mem hm⟩
    · obtain ⟨hsl, ⟨b, hb, hk, hne, rfl⟩ | ⟨hs, b, hb, hne, rfl⟩⟩ :=
        (mem_refOrigins (carriesRefs_grpc emitted)).1 lookup
      · rcases hk with hs | hk
        · exact ⟨hsl, .grpcWeighted route bound mem (mem_of_mem_head? hb) hne hs⟩
        · exact ⟨hsl, .grpcPrimary route bound mem hb hne hk⟩
      · exact ⟨hsl, .grpcWeighted route bound mem hb hne hs⟩
  · rintro ⟨hsl, h⟩
    cases h with
    | httpPrimary route bound mem ref named grant =>
      obtain ⟨e, he⟩ := exists_mem_httpRuleEmissions bound _
      exact .http route bound mem he <| mem_append_left _ <|
        (mem_refOrigins (carriesRefs_http he)).2 ⟨hsl, .inl ⟨_, ref, grant, named, rfl⟩⟩
    | httpWeighted route bound mem ref named split =>
      obtain ⟨e, he⟩ := exists_mem_httpRuleEmissions bound _
      exact .http route bound mem he <| mem_append_left _ <|
        (mem_refOrigins (carriesRefs_http he)).2 ⟨hsl, .inr ⟨split, _, ref, named, rfl⟩⟩
    | mirror route bound mem ref =>
      obtain ⟨e, he⟩ := exists_mem_httpRuleEmissions bound _
      exact .http route bound mem he <| mem_append_right _ <|
        (mem_mirrorOrigins (mirrorBackends_http he)).2 ⟨hsl, _, ref, rfl⟩
    | grpcPrimary route bound mem ref named grant =>
      obtain ⟨e, he⟩ := exists_mem_grpcRuleEmissions bound _
      exact .grpc route bound mem he <|
        (mem_refOrigins (carriesRefs_grpc he)).2 ⟨hsl, .inl ⟨_, ref, .inr grant, named, rfl⟩⟩
    | grpcWeighted route bound mem ref named split =>
      obtain ⟨e, he⟩ := exists_mem_grpcRuleEmissions bound _
      exact .grpc route bound mem he <|
        (mem_refOrigins (carriesRefs_grpc he)).2 ⟨hsl, .inr ⟨split, _, ref, named, rfl⟩⟩

/-- The addresses a route reaches under a name and port: none if there is no pool. -/
def reached (hash : LbHash) (prior : LbState) (order : IterOrder ServiceKey) (store : ConfigStore)
    (slot : Slot) : List SocketAddr :=
  ((poolsOf hash prior order store).lookup slot).elim [] (·.addrs)

/-- What a compiled route reaches for a backend are the endpoints the store has for the Service
that the route named, in the namespace it named. -/
def PoolsServeOrigin (store : ConfigStore) : Prop :=
  ∀ (hash : LbHash) (prior : LbState) (order : IterOrder ServiceKey),
    PriorAgrees hash prior (compileConfig order store).backends →
      ∀ (slot : Slot) (origin : ServiceKey), EmittedBackend store slot origin →
        ServesExactly (reached hash prior order store slot) (endpointsOf store origin)

/-- A declared backend that has endpoints shares its name and port with a referenced Service port
that has an address, and all of those have the addresses of the backend. -/
structure OwnEndpoints (store : ConfigStore) (origin : ServiceKey) : Prop where
  found : endpointsOf store origin ≠ [] → ∃ k, Referenced store k ∧ slotOf k = slotOf origin ∧
    addrsOf (endpointsOf store k) ≠ []
  same : ∀ k, Referenced store k → slotOf k = slotOf origin → addrsOf (endpointsOf store k) ≠ [] →
    ServesExactly (addrsOf (endpointsOf store k)) (endpointsOf store origin)

theorem servesExactly_nil {eps : List BackendEndpoint} : ServesExactly [] eps ↔ eps = [] := by
  simp [ServesExactly, eq_nil_iff_forall_not_mem]

theorem OwnEndpoints.servesExactly {store : ConfigStore} {origin : ServiceKey}
    (h : OwnEndpoints store origin) {hash : LbHash} {prior : LbState}
    {order : IterOrder ServiceKey}
    (hpr : PriorAgrees hash prior (compileConfig order store).backends) :
    ServesExactly (reached hash prior order store (slotOf origin)) (endpointsOf store origin) := by
  unfold reached
  cases hp : (poolsOf hash prior order store).lookup (slotOf origin) with
  | some pool =>
    obtain ⟨k, hk, hs, hf⟩ := exists_of_lookup_poolsOf hpr hp
    obtain ⟨hne, hm⟩ := freshPool_eq_some hf
    exact (ServesExactly.congr hm).2 (h.same k hk hs hne)
  | none =>
    refine servesExactly_nil.2 (by_contra fun hne => ?_)
    obtain ⟨k, hk, hs, ha⟩ := h.found hne
    exact ha ((lookup_poolsOf_eq_none hpr).1 hp k hk hs)

/-- **Isolation of backends by namespace**: pools serve their origin exactly in the stores where
every declared backend has its endpoints for itself (`OwnEndpoints`). -/
theorem poolsServeOrigin_iff (store : ConfigStore) : PoolsServeOrigin store ↔
      ∀ origin, DeclaredBackend store origin → OwnEndpoints store origin := by
  constructor
  · intro h origin hd
    have hs (order : IterOrder ServiceKey) := h (fun _ _ => 0) {} order (priorAgrees_empty _ _)
      (slotOf origin) origin (emittedBackend_iff.2 ⟨rfl, hd⟩)
    constructor
    case found =>
      intro hne
      by_contra hno
      push Not at hno
      have hn := hs .insertion
      rw [reached, (lookup_poolsOf_eq_none (priorAgrees_empty _ _)).2 hno] at hn
      exact hne (servesExactly_nil.1 hn)
    case same =>
      intro k hk hsl hne
      obtain ⟨pool, hp⟩ := freshPool_isSome (g := backendGroup store k) hne
      have hl := hs (.endingIn k)
      rw [reached, ← hsl, exists_order_lookup_poolsOf hk hp] at hl
      exact (ServesExactly.congr (freshPool_eq_some hp).2).1 hl
  · intro h hash prior order hpr slot origin he
    obtain ⟨rfl, hd⟩ := emittedBackend_iff.1 he
    exact (h origin hd).servesExactly hpr

def apiRoute (ns host : String) : HTTPRouteState :=
  plainRoute ns host [{ namespaceName := ns, name := "api", port := 80 }]

/-- Two namespaces, each with a Service `api` on port 80 and a route to it. -/
def twoTenants : ConfigStore :=
  { gateways := Table.collect [(⟨"infra", "gw"⟩, sharedGateway)]
    httpRoutes := Table.collect
      [(⟨"blue", "r"⟩, apiRoute "blue" "blue.example"), (⟨"red", "r"⟩, apiRoute "red" "red.example")]
    endpoints := Table.collect
      [(⟨"blue", "api", 80⟩, [⟨"10.0.0.1", 8080⟩]), (⟨"red", "api", 80⟩, [⟨"10.0.0.2", 8080⟩])] }

/-- A tenant's route is served by the other tenant's endpoint. -/
theorem twoTenants_not_isolated : ¬ PoolsServeOrigin twoTenants := by
  intro h
  have hb : (⟨{ gatewayNamespace := "infra", gatewayName := "gw" },
      { name := "http", port := 80, protocol := "HTTP" }, ["blue.example"]⟩ : Binding) ∈
      httpBindings twoTenants (apiRoute "blue" "blue.example") := by decide
  have hd : DeclaredBackend twoTenants ⟨"blue", "api", 80⟩ :=
    @DeclaredBackend.httpPrimary _ ⟨"blue", "r"⟩ (apiRoute "blue" "blue.example") _ _
      { namespaceName := "blue", name := "api", port := 80 }
      (by decide) hb (mem_singleton.2 rfl) rfl (by decide) (by decide)
  have hk : Referenced twoTenants ⟨"red", "api", 80⟩ := mem_backendKeys.1 (by decide)
  have hs := h (fun _ _ => 0) {} (.endingIn ⟨"red", "api", 80⟩) (priorAgrees_empty _ _)
    ("api", 80) ⟨"blue", "api", 80⟩ (emittedBackend_iff.2 ⟨rfl, hd⟩)
  have hl := exists_order_lookup_poolsOf hk
    (by decide +kernel : freshPool _ = some ⟨[.v4 [10, 0, 0, 2] 8080], none⟩) fun _ _ => 0
  rw [reached, show ("api", 80) = slotOf ⟨"red", "api", 80⟩ from rfl, hl] at hs
  obtain ⟨ep, hep, ha⟩ := hs.1 _ (mem_singleton.2 rfl)
  have ho : endpointsOf twoTenants ⟨"blue", "api", 80⟩ = [⟨"10.0.0.1", 8080⟩] := by decide
  rw [ho, mem_singleton] at hep
  subst hep
  revert ha
  decide +kernel

end Portus

import Portus.CompiledPools
import Portus.DataPlane.Plan

/-!
# Requests across namespaces without a grant

A route may refer to a Service of another namespace only while a ReferenceGrant
there permits it. `Route.Sends` says which pools a request or connection matched by
a compiled route can reach: through the weighted choice, the mirrors, the fan-out of
a federation, or the plain forward of the L4 proxies. `GrantsEnforced` asks that none
of them holds an endpoint of a Service that the route refers to without a grant.
-/

namespace Portus

open Lib Proto Reconcilers Compiler DataPlane List Option

variable (store : ConfigStore)

/-- A rule as the compiler treats its backends: whether its only one stands (`kept`), whether it
is compiled to weighted ones (`split`), its mirrors, and whether it redirects. -/
structure BackendRule where
  refs : List BackendRefState
  kept : BackendRefState → Prop
  split : Prop
  mirrors : List ServiceKey
  redirects : Prop

def BackendRule.Chosen (R : BackendRule) (b : BackendRefState) : Prop :=
  b.name ≠ "" ∧
    ((¬ R.split ∧ R.refs.head? = some b ∧ R.kept b) ∨ (R.split ∧ HasShare (·.weight) R.refs b))

def federationOf (serviceName : String) : Option String :=
  (providerOfService store serviceName).bind fun p =>
    if p.kind = "mcp-federation" then some (p.namespaceName ++ "/" ++ p.name) else none

def federationsOf : Table String (List Slot) :=
  buildFederationsFromProto (compileMcpFederations store)

/-- The rule's first backend is a federation with these members. -/
def BackendRule.Federates (R : BackendRule) (members : List Slot) : Prop :=
  ∃ b, R.refs.head? = some b ∧ R.kept b ∧
    (federationOf store b.name).bind (federationsOf store).lookup = some members

/-- The pools a request matched by the rule can reach. -/
inductive BackendRule.Reaches (store : ConfigStore) (R : BackendRule) : Slot → Prop where
  | backend {b : BackendRefState} (stays : ¬ R.redirects) (chosen : R.Chosen b)
      (plain : ∀ members, ¬ R.Federates store members) : Reaches store R (slotOf b.serviceKey)
  | member {b : BackendRefState} {members : List Slot} {slot : Slot} (stays : ¬ R.redirects)
      (chosen : R.Chosen b) (fed : R.Federates store members) (mem : slot ∈ members) :
      Reaches store R slot
  | mirror {b : BackendRefState} {m : ServiceKey} (stays : ¬ R.redirects) (chosen : R.Chosen b)
      (mem : m ∈ R.mirrors) : Reaches store R (slotOf m)

theorem exists_backendOf_iff {R : BackendRule}
    (hc : CarriesRefs R.refs R.kept R.split (backendFields rc)) :
    (∃ counter, backendOf rc counter = slot ∧ slot.1 ≠ "") ↔
      ∃ b, R.Chosen b ∧ slot = slotOf b.serviceKey := by
  by_cases hs : R.split
  · obtain ⟨hdr, hw⟩ := hc.weighted hs
    have hch (counter : UInt64) : selectWeightedBackend rc.weightedBackends counter =
        (weightedChoice (·.weight) R.refs counter).map fun b =>
          ⟨b.name, b.port.toUInt32, b.weight, hdr b⟩ := by
      rw [selectWeightedBackend, show rc.weightedBackends = _ from hw, weightedChoice_map]
    constructor
    · rintro ⟨counter, rfl, hne⟩
      unfold backendOf at hne ⊢
      rw [hch counter] at hne ⊢
      cases hb : weightedChoice (·.weight) R.refs counter with
      | none =>
        rw [hb] at hne
        exact absurd (hc.unnamed (weightedChoice_eq_none hb)) hne
      | some b =>
        rw [hb] at hne
        refine ⟨b, ⟨hne, .inr ⟨hs, exists_weightedChoice_iff.1 ⟨counter, hb⟩⟩⟩, ?_⟩
        simp [slotOf, BackendRefState.serviceKey]
    · rintro ⟨b, ⟨hne, ⟨hns, -⟩ | ⟨-, hsh⟩⟩, rfl⟩
      · exact absurd hs hns
      · obtain ⟨counter, hb⟩ := exists_weightedChoice_iff.2 hsh
        refine ⟨counter, ?_, hne⟩
        simp [backendOf, hch, hb, slotOf, BackendRefState.serviceKey]
  · have hpr (counter : UInt64) : backendOf rc counter = (rc.serviceName, rc.port.toUInt16) := by
      rw [backendOf, show rc.weightedBackends = [] from hc.single hs]
      rfl
    simp only [hpr]
    constructor
    · rintro ⟨-, rfl, hne⟩
      obtain ⟨b, hb, hk, hna, hpo⟩ := hc.exists_primary hne
      have hne' : b.name ≠ "" := hna ▸ hne
      refine ⟨b, ⟨hne', .inl ⟨hs, hb, hk⟩⟩, ?_⟩
      rw [show rc.serviceName = b.name from hna, show rc.port = b.port.toUInt32 from hpo]
      simp [slotOf, BackendRefState.serviceKey]
    · rintro ⟨b, ⟨hne, ⟨-, hb, hk⟩ | ⟨hsp, -⟩⟩, rfl⟩
      · obtain ⟨hna, hpo⟩ := hc.primary b hb hk
        refine ⟨0, ?_, hne⟩
        rw [show rc.serviceName = b.name from hna, show rc.port = b.port.toUInt32 from hpo]
        simp [slotOf, BackendRefState.serviceKey]
      · exact absurd hsp hs

theorem exists_receivers_iff_reaches {store : ConfigStore} {R : BackendRule}
    (hc : CarriesRefs R.refs R.kept R.split (backendFields rc))
    (hm : rc.mirrorBackends.map (fun m => (m.serviceName, m.port.toUInt16)) = R.mirrors.map slotOf)
    (hr : rc.redirect = none ↔ ¬ R.redirects)
    (hf : federationId rc = federationOf store rc.serviceName) :
    (∃ inputs, slot ∈ receivers (federationsOf store) rc (planMatched rc inputs)) ↔
      R.Reaches store slot := by
  -- a revoked or missing first backend leaves an empty name, which is no federation
  have hfe (members : List Slot) :
      (federationId rc).bind (federationsOf store).lookup = some members ↔
        R.Federates store members := by
    rw [hf]
    constructor
    · intro h
      have hne : rc.serviceName ≠ "" := by
        intro hn
        rw [hn] at h
        cases h
      obtain ⟨b, hb, hk, hna, -⟩ := hc.exists_primary hne
      rw [show rc.serviceName = b.name from hna] at h
      exact ⟨b, hb, hk, h⟩
    · rintro ⟨b, hb, hk, h⟩
      rwa [show rc.serviceName = b.name from (hc.primary b hb hk).1]
  have hmi : (∃ m ∈ rc.mirrorBackends, slot = (m.serviceName, m.port.toUInt16)) ↔
      ∃ m ∈ R.mirrors, slot = slotOf m := by
    have hme : slot ∈ _ ↔ slot ∈ _ := iff_of_eq (congrArg (slot ∈ ·) hm)
    simpa only [List.mem_map, eq_comm] using hme
  rw [exists_receivers_iff, hr]
  constructor
  · rintro ⟨hs, counter, hne, h⟩
    obtain ⟨b, hb, ht⟩ := (exists_backendOf_iff hc).1 ⟨counter, rfl, hne⟩
    rcases h with h | h
    · obtain ⟨m, hm', rfl⟩ := hmi.1 h
      exact .mirror hs hb hm'
    · cases hme : (federationId rc).bind (federationsOf store).lookup with
      | none =>
        rw [hme, ht, getD_none, mem_singleton] at h
        subst h
        refine .backend hs hb fun members hf' => ?_
        rw [(hfe members).2 hf'] at hme
        cases hme
      | some members =>
        rw [hme] at h
        exact .member hs hb ((hfe members).1 hme) h
  · intro h
    cases h with
    | @backend b hs hb hplain =>
      obtain ⟨counter, ht, hne⟩ := (exists_backendOf_iff hc).2 ⟨b, hb, rfl⟩
      refine ⟨hs, counter, ht ▸ hne, .inr ?_⟩
      cases hme : (federationId rc).bind (federationsOf store).lookup with
      | none => rw [ht]; exact mem_singleton.2 rfl
      | some members => exact absurd ((hfe members).1 hme) (hplain members)
    | @member b members _ hs hb hf' hme =>
      obtain ⟨counter, ht, hne⟩ := (exists_backendOf_iff hc).2 ⟨b, hb, rfl⟩
      refine ⟨hs, counter, ht ▸ hne, .inr ?_⟩
      rwa [(hfe members).2 hf']
    | @mirror b m hs hb hm' =>
      obtain ⟨counter, ht, hne⟩ := (exists_backendOf_iff hc).2 ⟨b, hb, rfl⟩
      exact ⟨hs, counter, ht ▸ hne, .inl (hmi.2 ⟨m, hm', rfl⟩)⟩

def federationFields (r : RouteConfig) : String × String × String :=
  (r.serviceName, r.aiDialect, r.aiFederation)

theorem federationId_annotateAiProvider {store : ConfigStore} (hd : r.aiDialect = "")
    (hf : r.aiFederation = "") :
    federationId (annotateAiProvider store r) = federationOf store r.serviceName := by
  unfold annotateAiProvider federationOf
  cases providerOfService store r.serviceName with
  | none => simp [federationId, knownDialect, hd]
  | some p =>
    by_cases hk : p.kind = "mcp-federation"
    · have hne : (p.namespaceName ++ "/" ++ p.name).isEmpty = false := by
        simp [String.isEmpty_eq_false_iff]
      simp [federationId, knownDialect, hk, hne]
    · simp [federationId, hk, hf]

theorem federationId_finishRoute {store : ConfigStore} (he : e ∈ emissions store) :
    federationId (finishRoute store e) = federationOf store (finishRoute store e).serviceName := by
  let c := takenFor store e
  have hp : federationFields (annotateAiRouteWith store c.budget e.source
      (overrideProtocolIn store c.backendNs (applyChoice store c e.route))) =
        federationFields e.route := by
    rw [annotateAiRouteWith_frame (f := federationFields) (by intros; rfl),
      overrideProtocolIn_frame (f := federationFields) (by intros; rfl),
      applyChoice_frame (f := federationFields) (by intros; rfl)]
  simp only [federationFields, Prod.mk.injEq] at hp
  obtain ⟨hn, hd, hf⟩ := hp
  obtain ⟨-, -, hd', hf', -⟩ := unannotated_of_mem_emissions he
  rw [serviceName_finishRoute, finishRoute_eq, finishWith,
    federationId_annotateAiProvider (hd.trans hd') (hf.trans hf'), hn]

inductive Route where
  | http (key : NamespacedName) (hr : HTTPRouteState)
  | grpc (key : NamespacedName) (gr : GRPCRouteState)
  | tls (key : NamespacedName) (tr : TLSRouteState)
  | tcp (key : NamespacedName) (tr : L4RouteState)
  | udp (key : NamespacedName) (tr : L4RouteState)

namespace Route

def Stored : Route → Prop
  | .http key hr => store.httpRoutes.lookup key = some hr
  | .grpc key gr => store.grpcRoutes.lookup key = some gr
  | .tls key tr => store.tlsRoutes.lookup key = some tr
  | .tcp key tr => store.tcpRoutes.lookup key = some tr
  | .udp key tr => store.udpRoutes.lookup key = some tr

def kind : Route → String
  | .http .. => "HTTPRoute"
  | .grpc .. => "GRPCRoute"
  | .tls .. => "TLSRoute"
  | .tcp .. => "TCPRoute"
  | .udp .. => "UDPRoute"

def namespaceName : Route → String
  | .http _ hr => hr.namespaceName
  | .grpc _ gr => gr.namespaceName
  | .tls _ tr => tr.namespaceName
  | .tcp _ tr => tr.namespaceName
  | .udp _ tr => tr.namespaceName

def refs : Route → List ServiceKey
  | .http _ hr => hr.rules.flatMap fun rule =>
    rule.backendRefs.map (·.serviceKey) ++ (mirrorsOf rule.filters).map (·.1)
  | .grpc _ gr => gr.rules.flatMap fun rule => rule.backendRefs.map (·.serviceKey)
  | .tls _ tr => tr.backendRefs.map (·.serviceKey)
  | .tcp _ tr => tr.backendRefs.map (·.serviceKey)
  | .udp _ tr => tr.backendRefs.map (·.serviceKey)

/-- A compiled HTTP or gRPC configuration sends some request it matches to a pool. -/
def RouteSends (e : Emission) (slot : Slot) : Prop :=
  ∃ inputs, slot ∈ receivers (federationsOf store) (finishRoute store e)
    (planMatched (finishRoute store e) inputs)

/-- A TCP or UDP entry of the route sends some connection to a pool. -/
def L4Sends (programmed : List L4Candidate) (tr : L4RouteState) (slot : Slot) : Prop :=
  ∃ c ∈ programmed, c.route = tr ∧ ∃ entry, c.entry = some entry ∧
    ∃ counter b, (l4Target entry).select counter = some b ∧ slot = (b.service, b.port)

/-- The compiled route sends some request or connection that it matches to a pool. -/
def Sends : Route → Slot → Prop
  | .http key hr, slot => ∃ bd ∈ httpBindings store hr, ∃ rule ∈ hr.rules,
    ∃ e ∈ httpRuleEmissions store key hr bd rule, RouteSends store e slot
  | .grpc key gr, slot => ∃ bd ∈ grpcBindings store gr, ∃ rule ∈ gr.rules,
    ∃ e ∈ grpcRuleEmissions store key gr bd rule, RouteSends store e slot
  | .tls _ tr, slot => ∃ entry, compileTlsRoute store tr = some entry ∧
    slot = (entry.backendService, entry.backendPort.toUInt16)
  | .tcp _ tr, slot => L4Sends (l4Programmed store "TCP" store.tcpRoutes.pairs) tr slot
  | .udp _ tr, slot => L4Sends (l4Programmed store "UDP" store.udpRoutes.pairs) tr slot

end Route

def httpBackendRule (hr : HTTPRouteState) (rule : HTTPRouteRuleState) : BackendRule where
  refs := rule.backendRefs
  kept b := grantOk store "HTTPRoute" hr.namespaceName b.namespaceName b.name = true
  split := weightedBackendsOf rule ≠ []
  mirrors := (mirrorsOf rule.filters).map (·.1)
  redirects := rule.filters.any isRedirect = true

def grpcBackendRule (gr : GRPCRouteState) (rule : GRPCRouteRuleState) : BackendRule where
  refs := rule.backendRefs
  kept b := grpcWeightedBackendsOf rule ≠ [] ∨
    grantOk store "GRPCRoute" gr.namespaceName b.namespaceName b.name = true
  split := grpcWeightedBackendsOf rule ≠ []
  mirrors := []
  redirects := False

/-- A backend of a TCPRoute or UDPRoute gets a share of the connections of a listener. -/
def L4Declares (programmed : List L4Candidate) (tr : L4RouteState) (slot : Slot) : Prop :=
  (∃ c ∈ programmed, c.route = tr) ∧
    ∃ before b after, tr.backendRefs = before ++ b :: after ∧ 0 < b.weight.toNat ∧
      (before.map fun b => b.weight.toNat).sum <
        (tr.backendRefs.map fun b => b.weight.toNat).sum % 2 ^ 64 ∧
      slot = slotOf b.serviceKey

/-- The pools a route reaches, in terms of its rules and the grants. -/
def Route.Declares : Route → Slot → Prop
  | .http _ hr, slot => httpBindings store hr ≠ [] ∧
    ∃ rule ∈ hr.rules, (httpBackendRule store hr rule).Reaches store slot
  | .grpc _ gr, slot => grpcBindings store gr ≠ [] ∧
    ∃ rule ∈ gr.rules, (grpcBackendRule store gr rule).Reaches store slot
  | .tls _ tr, slot => (compileTlsRoute store tr).isSome ∧
    slot = ((tr.backendRefs.head?.map (·.serviceKey)).map slotOf).getD ("", 0)
  | .tcp _ tr, slot => L4Declares (l4Programmed store "TCP" store.tcpRoutes.pairs) tr slot
  | .udp _ tr, slot => L4Declares (l4Programmed store "UDP" store.udpRoutes.pairs) tr slot

theorem routeSends_http_iff {store : ConfigStore} (route : (key, hr) ∈ httpRoutesOf store)
    (bound : bd ∈ httpBindings store hr) (mem : rule ∈ hr.rules)
    (he : e ∈ httpRuleEmissions store key hr bd rule) :
    Route.RouteSends store e slot ↔ (httpBackendRule store hr rule).Reaches store slot := by
  refine exists_receivers_iff_reaches (carriesRefs_http he) ?_ ?_
    (federationId_finishRoute (mem_emissions.2 (.inl ⟨_, _, route, _, bound, _, mem, he⟩)))
  · rw [mirrorBackends_http he]
    simp [httpBackendRule, slotOf, Function.comp_def]
  · rw [redirect_http he, ← not_isSome_iff_eq_none, ruleFilters, redirect_foldl_isSome]
    rfl

theorem routeSends_grpc_iff {store : ConfigStore} (route : (key, gr) ∈ store.grpcRoutes.pairs)
    (bound : bd ∈ grpcBindings store gr) (mem : rule ∈ gr.rules)
    (he : e ∈ grpcRuleEmissions store key gr bd rule) :
    Route.RouteSends store e slot ↔ (grpcBackendRule store gr rule).Reaches store slot := by
  obtain ⟨hm, hr⟩ := mirrorsAndRedirect_grpc he
  refine exists_receivers_iff_reaches (carriesRefs_grpc he) ?_ ?_
    (federationId_finishRoute (mem_emissions.2 (.inr ⟨_, _, route, _, bound, _, mem, he⟩)))
  · rw [hm]
    rfl
  · rw [hr]
    simp [grpcBackendRule]

def l4BackendOf (b : BackendRefState) : L4Backend := ⟨b.name, b.port, b.weight⟩

theorem backends_l4Target {c : L4Candidate} (h : c.entry = some entry) :
    (l4Target entry).backends = c.route.backendRefs.map l4BackendOf := by
  obtain ⟨first, -, rfl⟩ := map_eq_some_iff.1 h
  simp [l4Target, l4BackendOf, Function.comp_def]

theorem l4Sends_iff {programmed : List L4Candidate} :
    Route.L4Sends programmed tr slot ↔ L4Declares programmed tr slot := by
  constructor
  · rintro ⟨c, hc, rfl, entry, he, counter, b, hb, rfl⟩
    obtain ⟨before, after, hl, hp, hlt⟩ := L4RouteTarget.exists_select_iff.1 ⟨counter, hb⟩
    rw [backends_l4Target he] at hl hlt
    obtain ⟨before, rest, href, rfl, hres⟩ := map_eq_append_iff.1 hl
    obtain ⟨b, after, rfl, rfl, rfl⟩ := map_eq_cons_iff.1 hres
    rw [List.map_map, List.map_map] at hlt
    exact ⟨⟨c, hc, rfl⟩, before, b, after, href, hp, hlt, rfl⟩
  · rintro ⟨⟨c, hc, rfl⟩, before, b, after, href, hp, hlt, rfl⟩
    obtain ⟨entry, he⟩ : ∃ entry, c.entry = some entry := by
      cases hf : c.route.backendRefs with
      | nil => simp [hf] at href
      | cons first rest => exact ⟨_, by rw [L4Candidate.entry, hf]; rfl⟩
    have hba := backends_l4Target he
    obtain ⟨counter, hb⟩ := (L4RouteTarget.exists_select_iff (b := l4BackendOf b)).2
      ⟨before.map l4BackendOf, after.map l4BackendOf, by rw [hba, href]; simp, hp, by
        rw [hba, List.map_map, List.map_map]
        exact hlt⟩
    exact ⟨c, hc, rfl, entry, he, counter, _, hb, rfl⟩

theorem compileTlsRoute_backend {store : ConfigStore} (h : compileTlsRoute store tr = some entry) :
    (entry.backendService, entry.backendPort.toUInt16) =
      ((tr.backendRefs.head?.map (·.serviceKey)).map slotOf).getD ("", 0) := by
  obtain ⟨⟨pr, l⟩, -, h⟩ := bind_eq_some_iff.1 h
  dsimp only at h
  split at h
  next => cases h
  next =>
    cases h
    cases tr.backendRefs.head? with
    | none => rfl
    | some b => simp [slotOf, BackendRefState.serviceKey]

theorem sends_iff_declares {store : ConfigStore} {r : Route} (hr : r.Stored store) :
    r.Sends store slot ↔ r.Declares store slot := by
  cases r with
  | http key hr' =>
    have route : (key, hr') ∈ httpRoutesOf store :=
      mem_append_left _ (Table.mem_pairs.2 hr)
    constructor
    · rintro ⟨bd, hbd, rule, hru, e, he, h⟩
      exact ⟨ne_nil_of_mem hbd, rule, hru, (routeSends_http_iff route hbd hru he).1 h⟩
    · rintro ⟨hne, rule, hru, h⟩
      obtain ⟨bd, hbd⟩ := exists_mem_of_ne_nil _ hne
      obtain ⟨e, he⟩ := exists_mem_httpRuleEmissions hbd rule
      exact ⟨bd, hbd, rule, hru, e, he, (routeSends_http_iff route hbd hru he).2 h⟩
  | grpc key gr =>
    have route : (key, gr) ∈ store.grpcRoutes.pairs := Table.mem_pairs.2 hr
    constructor
    · rintro ⟨bd, hbd, rule, hru, e, he, h⟩
      exact ⟨ne_nil_of_mem hbd, rule, hru, (routeSends_grpc_iff route hbd hru he).1 h⟩
    · rintro ⟨hne, rule, hru, h⟩
      obtain ⟨bd, hbd⟩ := exists_mem_of_ne_nil _ hne
      obtain ⟨e, he⟩ := exists_mem_grpcRuleEmissions hbd rule
      exact ⟨bd, hbd, rule, hru, e, he, (routeSends_grpc_iff route hbd hru he).2 h⟩
  | tls key tr =>
    constructor
    · rintro ⟨entry, hen, rfl⟩
      exact ⟨by rw [hen]; rfl, compileTlsRoute_backend hen⟩
    · rintro ⟨hs, rfl⟩
      obtain ⟨entry, hen⟩ := isSome_iff_exists.1 hs
      exact ⟨entry, hen, (compileTlsRoute_backend hen).symm⟩
  | tcp key tr | udp key tr => exact l4Sends_iff

/-- The route refers to a Service of another namespace that no grant there permits. -/
def Unpermitted (r : Route) (k : ServiceKey) : Prop :=
  k ∈ r.refs ∧ k.namespaceName ≠ r.namespaceName ∧
    ¬ Permits store.referenceGrants gatewayApiGroup r.namespaceName r.kind k.namespaceName "Service"
      (some k.name)

def EndpointOf (ns name : String) (a : SocketAddr) : Prop :=
  ∃ port endpoints, store.endpoints.lookup ⟨ns, name, port⟩ = some endpoints ∧ a ∈ addrsOf endpoints

/-- No request matched by a route reaches an endpoint of a Service that the route refers to
without a grant, whatever data plane applies the configuration. -/
def GrantsEnforced : Prop :=
  ∀ (hash : LbHash) (prior : LbState) (order : IterOrder ServiceKey),
    PriorAgrees hash prior (compileConfig order store).backends →
      ∀ (r : Route) (k : ServiceKey), r.Stored store → Unpermitted store r k →
        ∀ (slot : Slot) (pool : Pool), r.Sends store slot →
          (poolsOf hash prior order store).lookup slot = some pool →
            ∀ a ∈ pool.addrs, ¬ EndpointOf store k.namespaceName k.name a

/-- **Grants at compile time**: they are enforced exactly in the stores where, for every reference
without a grant, no Service port that something refers to and that shares its name and port with
a pool the route reaches has an endpoint of the forbidden Service. -/
theorem grantsEnforced_iff : GrantsEnforced store ↔
      ∀ (r : Route) (k : ServiceKey), r.Stored store → Unpermitted store r k →
        ∀ slot, r.Declares store slot → ∀ k', Referenced store k' → slotOf k' = slot →
          ∀ a ∈ addrsOf (endpointsOf store k'), ¬ EndpointOf store k.namespaceName k.name a := by
  constructor
  · intro h r k hr hk slot hs
    refine forall_addrs_poolsOf_iff.1 fun hash prior order pool hpr hp => ?_
    exact h hash prior order hpr r k hr hk slot pool ((sends_iff_declares hr).2 hs) hp
  · intro h hash prior order hpr r k hr hk slot pool hs hp
    exact forall_addrs_poolsOf_iff.2 (h r k hr hk slot ((sends_iff_declares hr).1 hs))
      hash prior order pool hpr hp

def ownBackend : BackendRefState := { namespaceName := "web", name := "app", port := 80 }

def foreignBackend : BackendRefState := { namespaceName := "data", name := "db", port := 80 }

/-- A route that splits its traffic between its own Service and one of another namespace, which
has a route of its own and no ReferenceGrant. -/
def splitWithoutGrant : ConfigStore :=
  { gateways := Table.collect [(⟨"infra", "gw"⟩, sharedGateway)]
    httpRoutes := Table.collect
      [(⟨"web", "r"⟩, plainRoute "web" "web.example" [ownBackend, foreignBackend]),
        (⟨"data", "r"⟩, plainRoute "data" "data.example" [foreignBackend])]
    endpoints := Table.collect
      [(⟨"web", "app", 80⟩, [⟨"10.0.0.1", 8080⟩]), (⟨"data", "db", 80⟩, [⟨"10.0.0.9", 5432⟩])] }

/-- Half of the route's requests go to the Service it has no grant for. -/
theorem splitWithoutGrant_not_enforced : ¬ GrantsEnforced splitWithoutGrant := by
  intro h
  let hr := plainRoute "web" "web.example" [ownBackend, foreignBackend]
  let r := Route.http ⟨"web", "r"⟩ hr
  have hst : r.Stored splitWithoutGrant := by
    show splitWithoutGrant.httpRoutes.lookup ⟨"web", "r"⟩ = some hr
    decide
  have hu : Unpermitted splitWithoutGrant r foreignBackend.serviceKey := by
    refine ⟨by decide, by decide, ?_⟩
    rintro ⟨key, grant, hg, -⟩
    cases hg
  have hc : (httpBackendRule splitWithoutGrant hr
      { backendRefs := [ownBackend, foreignBackend] }).Chosen foreignBackend :=
    ⟨by decide, .inr ⟨cons_ne_nil _ _, .inr ⟨[ownBackend], [], rfl, by decide, by decide⟩⟩⟩
  have hpl : ∀ members, ¬ (httpBackendRule splitWithoutGrant hr
      { backendRefs := [ownBackend, foreignBackend] }).Federates splitWithoutGrant members := by
    rintro members ⟨b, hb, -, hfe⟩
    cases hb
    cases hfe
  have hse : r.Sends splitWithoutGrant ("db", 80) := by
    refine (sends_iff_declares hst).2 ⟨by decide, _, mem_singleton.2 rfl, ?_⟩
    exact .backend Bool.false_ne_true hc hpl
  have hre : Referenced splitWithoutGrant ⟨"data", "db", 80⟩ :=
    mem_backendKeys.1 (by decide)
  have ha : (.v4 [10, 0, 0, 9] 5432) ∈
      addrsOf (endpointsOf splitWithoutGrant ⟨"data", "db", 80⟩) := by decide +kernel
  have hfo := forall_addrs_poolsOf_iff.1 (fun hash prior order pool hpr hp =>
      h hash prior order hpr r _ hst hu ("db", 80) pool hse hp)
    ⟨"data", "db", 80⟩ hre rfl _ ha
  exact hfo ⟨80, [⟨"10.0.0.9", 5432⟩], by decide, by decide +kernel⟩

end Portus

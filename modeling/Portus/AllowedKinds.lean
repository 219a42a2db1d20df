import Portus.AcceptedParents
import Portus.Reconcilers.Gateways
import Portus.StreamAttachment

/-!
# Allowed route kinds

The kinds that a listener of a Gateway lists are checked against its protocol when the
Gateway is evaluated, and end in the listener's status. They are not part of the stored
listener, so nothing that binds or compiles a route sees them. A route of a kind that is
left out stays off the listener only if something else keeps it off (`MeetsTheRest`).
-/

namespace Portus

open Lib Proto Compiler Reconcilers List

inductive RouteKind where
  | http
  | grpc
  | tls
  | tcp
  | udp

def RouteKind.name : RouteKind → String
  | http => "HTTPRoute"
  | grpc => "GRPCRoute"
  | tls => "TLSRoute"
  | tcp => "TCPRoute"
  | udp => "UDPRoute"

def LeavesOut (l : ListenerSpec) (kind : RouteKind) : Prop :=
  listedKinds l.allowedRoutes ≠ [] ∧ (gatewayApiGroup, kind.name) ∉ listedKinds l.allowedRoutes

section

variable (store : ConfigStore) (gwKey : NamespacedName) (gw : GatewayState) (l : ListenerState)

/-- A route of the kind is compiled for a listener of the Gateway. -/
def ProgrammedOn : RouteKind → Prop
  | .http => ∃ key hr, store.httpRoutes.lookup key = some hr ∧ ∃ b ∈ httpBindings store hr,
    b.parentRef.parentKind = .gateway ∧ b.parentRef.parentKey = gwKey ∧ b.listener = l ∧
    ∃ rule ∈ hr.rules, ∃ e ∈ httpRuleEmissions store key hr b rule,
      finishRoute store e ∈ compileRoutes store
  | .grpc => ∃ key gr, store.grpcRoutes.lookup key = some gr ∧ ∃ b ∈ grpcBindings store gr,
    b.parentRef.parentKind = .gateway ∧ b.parentRef.parentKey = gwKey ∧ b.listener = l ∧
    ∃ rule ∈ gr.rules, ∃ e ∈ grpcRuleEmissions store key gr b rule,
      finishRoute store e ∈ compileRoutes store
  | .tls => ∃ key tr, store.tlsRoutes.lookup key = some tr ∧ (compileTlsRoute store tr).isSome ∧
    ∃ pr, tlsMeant store tr = some (pr, l) ∧ pr.parentKey = gwKey
  | .tcp => ∃ key tr, store.tcpRoutes.lookup key = some tr ∧
    L4ProgrammedOn store "TCP" store.tcpRoutes key tr gw l
  | .udp => ∃ key tr, store.udpRoutes.lookup key = some tr ∧
    L4ProgrammedOn store "UDP" store.udpRoutes key tr gw l

/-- An accepted reference to the Gateway names the listener, which is accepted, speaks HTTP, shares
a hostname and takes routes of the namespace. -/
def BoundTo (ns : String) (hostnames : List String) (parentRefs : List ParentRefState) : Prop :=
  l.accepted = true ∧ speaksHttp l = true ∧ hostnamesCompatible l.hostname hostnames = true ∧
    ∃ pr ∈ parentRefs, pr.accepted = true ∧ pr.parentKind = .gateway ∧ pr.parentKey = gwKey ∧
      Names pr l ∧ namespaceAllowed l.allowedRoutes ns pr.gatewayNamespace
        (namespaceLabelsOf store ns) = true

/-- A stored route of the kind meets everything but the kinds that the listener lists. -/
def MeetsTheRest : RouteKind → Prop
  | .http => ∃ key hr, store.httpRoutes.lookup key = some hr ∧ hr.rules ≠ [] ∧
    BoundTo store gwKey l hr.namespaceName hr.hostnames hr.parentRefs
  | .grpc => ∃ key gr, store.grpcRoutes.lookup key = some gr ∧ gr.rules ≠ [] ∧
    BoundTo store gwKey l gr.namespaceName gr.hostnames gr.parentRefs
  | .tls => ∃ key tr, store.tlsRoutes.lookup key = some tr ∧
    (tr.backendRefs ≠ [] ∨ tlsServerNames store tr ≠ []) ∧
    ∃ pr, tlsMeant store tr = some (pr, l) ∧ pr.parentKey = gwKey
  | .tcp => ∃ c, oldestOn store "TCP" store.tcpRoutes.pairs (gw.namespaceName, gw.name, l.name) =
    some c ∧ EntryOn c l
  | .udp => ∃ c, oldestOn store "UDP" store.udpRoutes.pairs (gw.namespaceName, gw.name, l.name) =
    some c ∧ EntryOn c l

end

section

variable {store : ConfigStore} {gwKey : NamespacedName} {gw : GatewayState} {l : ListenerState}

theorem exists_binding_on_iff (hgw : store.gateways.lookup gwKey = some gw)
    (hl : l ∈ gw.listeners) :
    (∃ b ∈ bindings store ns hostnames parentRefs, b.parentRef.parentKind = .gateway ∧
      b.parentRef.parentKey = gwKey ∧ b.listener = l) ↔
      BoundTo store gwKey l ns hostnames parentRefs := by
  constructor
  · rintro ⟨b, hb, hki, hke, rfl⟩
    obtain ⟨hpr, hac, -, hat, hhosts, hne⟩ := mem_bindings.1 hb
    obtain ⟨hla, hs, hn, had⟩ := (attaches_iff hki).1 hat
    rw [hhosts, computeEffectiveHostnamesInner_ne_nil] at hne
    exact ⟨hla, hs, hne, b.parentRef, hpr, hac, hki, hke, hn, had⟩
  · rintro ⟨hla, hs, hhost, pr, hpr, hac, hki, rfl, hn, had⟩
    have hli : l ∈ parentListeners store pr := by
      rw [parentListeners, hki]
      simpa [hgw] using hl
    refine ⟨⟨pr, l, computeEffectiveHostnamesInner [l.hostname] hostnames⟩, ?_, hki, rfl, rfl⟩
    exact mem_bindings.2 ⟨hpr, hac, hli,
      (attaches_iff hki).2 ⟨hla, hs, hn, had⟩, rfl,
      computeEffectiveHostnamesInner_ne_nil.2 hhost⟩

theorem isSome_compileTlsRoute_iff (hm : tlsMeant store tr = some (pr, l)) :
    (compileTlsRoute store tr).isSome ↔ tr.backendRefs ≠ [] ∨ tlsServerNames store tr ≠ [] := by
  have hp := congrArg Option.isSome (map_tlsPlace_compileTlsRoute store tr)
  rw [Option.isSome_map, hm] at hp
  rw [hp]
  by_cases hn : tr.backendRefs = [] ∧ tlsServerNames store tr = []
  · simp [hn]
  · rw [if_neg hn]
    exact iff_of_true rfl (not_and_or.1 hn)

theorem exists_l4ProgrammedOn_iff :
    (∃ key tr, table.lookup key = some tr ∧ L4ProgrammedOn store protocol table key tr gw l) ↔
      ∃ c, oldestOn store protocol table.pairs (gw.namespaceName, gw.name, l.name) = some c ∧
        EntryOn c l := by
  simp only [l4ProgrammedOn_iff]
  constructor
  · rintro ⟨-, -, -, c, hc, he, -⟩
    exact ⟨c, hc, he⟩
  · rintro ⟨c, hc, he⟩
    obtain ⟨key, hl, hn, -⟩ := exists_lookup_of_oldestOn hc
    exact ⟨key, c.route, hl, c, hc, he, hn, rfl⟩

theorem programmedOn_iff (hgw : store.gateways.lookup gwKey = some gw) (hl : l ∈ gw.listeners) :
    ProgrammedOn store gwKey gw l kind ↔ MeetsTheRest store gwKey gw l kind := by
  cases kind with
  | http =>
    constructor
    · rintro ⟨key, hr, hlo, b, hb, hki, hke, hli, rule, hrule, -⟩
      exact ⟨key, hr, hlo, ne_nil_of_mem hrule,
        (exists_binding_on_iff hgw hl).1 ⟨b, hb, hki, hke, hli⟩⟩
    · rintro ⟨key, hr, hlo, hrules, hbo⟩
      obtain ⟨b, hb, hki, hke, hli⟩ := (exists_binding_on_iff hgw hl).2 hbo
      exact ⟨key, hr, hlo, b, hb, hki, hke, hli, exists_compiled_http hlo hrules hb⟩
  | grpc =>
    constructor
    · rintro ⟨key, gr, hlo, b, hb, hki, hke, hli, rule, hrule, -⟩
      exact ⟨key, gr, hlo, ne_nil_of_mem hrule,
        (exists_binding_on_iff hgw hl).1 ⟨b, hb, hki, hke, hli⟩⟩
    · rintro ⟨key, gr, hlo, hrules, hbo⟩
      obtain ⟨b, hb, hki, hke, hli⟩ := (exists_binding_on_iff hgw hl).2 hbo
      exact ⟨key, gr, hlo, b, hb, hki, hke, hli, exists_compiled_grpc hlo hrules hb⟩
  | tls =>
    constructor
    · rintro ⟨key, tr, hlo, he, pr, hm, hke⟩
      exact ⟨key, tr, hlo, (isSome_compileTlsRoute_iff hm).1 he, pr, hm, hke⟩
    · rintro ⟨key, tr, hlo, he, pr, hm, hke⟩
      exact ⟨key, tr, hlo, (isSome_compileTlsRoute_iff hm).2 he, pr, hm, hke⟩
  | tcp | udp => exact exists_l4ProgrammedOn_iff

end

/-- No route of a kind that a listener of a spec leaves out is programmed on the listener's
state. -/
def KindsEnforced (store : ConfigStore) (gwKey : NamespacedName) (spec : GatewaySpec)
    (gw : GatewayState) : Prop :=
  ∀ p ∈ spec.listeners.zip gw.listeners, ∀ kind, LeavesOut p.1 kind →
    ¬ ProgrammedOn store gwKey gw p.2 kind

section

variable (libs : PemLibs) (base : ConfigStore) (isProgrammed : Bool) (key : NamespacedName)
  (gw : Gateway)

def evaluated : GatewayState :=
  (evaluateGateway libs base isProgrammed key (max (gw.metadata.generation.getD 0) 1) gw.spec
    (resolveGatewayTls libs base gw.spec.tls key.namespaceName).1).1

theorem lookup_storeGateway : (storeGateway libs base isProgrammed key gw).gateways.lookup key =
      some (evaluated libs base isProgrammed key gw) :=
  AList.lookup_insert _

/-- In a store that holds a Gateway as it was evaluated, and any routes: the kinds its listeners
list are enforced exactly if no route of a kind left out meets the rest. -/
theorem kindsEnforced_iff {store : ConfigStore} (hgw : store.gateways.lookup key =
      (storeGateway libs base isProgrammed key gw).gateways.lookup key) :
    KindsEnforced store key gw.spec (evaluated libs base isProgrammed key gw) ↔
      ∀ p ∈ gw.spec.listeners.zip (evaluated libs base isProgrammed key gw).listeners, ∀ kind,
        LeavesOut p.1 kind →
          ¬ MeetsTheRest store key (evaluated libs base isProgrammed key gw) p.2 kind := by
  rw [lookup_storeGateway] at hgw
  refine forall₂_congr fun p hp => forall₂_congr fun kind _ => not_congr ?_
  exact programmedOn_iff hgw (of_mem_zip hp).2

end

def noPem : PemLibs := ⟨fun _ => false, fun _ => false, fun _ h => nomatch h⟩

def oneKindGateway (kind : String) : Gateway :=
  { metadata := { name := some "gw", namespaceName := some "infra" }
    spec :=
      { gatewayClassName := "portus"
        listeners := [{ name := "http", port := 80, protocol := "HTTP",
                        allowedRoutes := some { kinds := [{ kind := kind }] } }] } }

def classStore : ConfigStore := { gatewayClasses := (∅ : Table _ _).insert "portus" ⟨true⟩ }

def oneKindBase (kind : String) : ConfigStore :=
  storeGateway noPem classStore true ⟨"infra", "gw"⟩ (oneKindGateway kind)

def oneKindStore (kind : String) : ConfigStore :=
  { oneKindBase kind with
    httpRoutes := (∅ : Table _ _).insert ⟨"infra", "console"⟩
      (httpRouteState (fun _ => true) (oneKindBase kind) "infra" consoleRoute) }

example : reconcileHttpRoute (fun _ => true) (oneKindBase "GRPCRoute") consoleRoute =
    .ok (oneKindStore "GRPCRoute") := rfl

/-- A GRPCRoute of the Gateway, for a listener it does not have. -/
def callsRoute : GRPCRouteState where
  namespaceName := "infra"
  parentRefs := [{ gatewayNamespace := "infra", gatewayName := "gw", sectionName := some "grpc" }]
  rules := [{}]

def callsStore : ConfigStore :=
  { oneKindStore "HTTPRoute" with
    grpcRoutes := (∅ : Table _ _).insert ⟨"infra", "calls"⟩ callsRoute }

/-- A route of a kind that is left out is stored, and its section keeps it off the listener. -/
theorem kindsEnforced_oneKindStore :
    KindsEnforced callsStore ⟨"infra", "gw"⟩ (oneKindGateway "HTTPRoute").spec
      (evaluated noPem classStore true ⟨"infra", "gw"⟩ (oneKindGateway "HTTPRoute")) := by
  have hs : callsStore.gateways.lookup ⟨"infra", "gw"⟩ =
      (storeGateway noPem classStore true ⟨"infra", "gw"⟩
        (oneKindGateway "HTTPRoute")).gateways.lookup ⟨"infra", "gw"⟩ := rfl
  refine (kindsEnforced_iff noPem classStore true _ _ hs).2 ?_
  intro p hp kind hle
  cases mem_singleton.1 hp
  cases kind with
  | http => exact absurd hle.2 (by decide)
  | grpc =>
    rintro ⟨key, gr, hlo, -, -, -, -, pr, hpr, -, -, -, hn, -⟩
    change ((∅ : Table _ _).insert ⟨"infra", "calls"⟩ callsRoute).lookup key = some gr at hlo
    by_cases hk : key = ⟨"infra", "calls"⟩
    · rw [hk, AList.lookup_insert] at hlo
      cases hlo
      cases mem_singleton.1 hpr
      exact absurd hn.1 (by decide)
    · rw [AList.lookup_insert_ne hk] at hlo
      cases hlo
  | tls => rintro ⟨_, _, hlo, -⟩; cases hlo
  | tcp | udp => rintro ⟨_, ho, -⟩; cases ho

/-- An HTTPRoute is programmed on a listener for GRPCRoutes. -/
theorem http_programmed_on_grpc_listener :
    ¬ ∀ (libs : PemLibs) (base : ConfigStore) (isProgrammed : Bool) (key : NamespacedName)
      (gw : Gateway) (store : ConfigStore), store.gateways.lookup key =
        (storeGateway libs base isProgrammed key gw).gateways.lookup key →
      KindsEnforced store key gw.spec (evaluated libs base isProgrammed key gw) := by
  intro h
  have hs : (oneKindStore "GRPCRoute").gateways.lookup ⟨"infra", "gw"⟩ =
      (storeGateway noPem classStore true ⟨"infra", "gw"⟩
        (oneKindGateway "GRPCRoute")).gateways.lookup ⟨"infra", "gw"⟩ := rfl
  have he := h noPem classStore true _ _ _ hs
  refine he _ (mem_singleton_self _) .http ⟨by decide, by decide⟩ ?_
  refine (programmedOn_iff hs (mem_singleton_self _)).2 ?_
  exact ⟨⟨"infra", "console"⟩, _, rfl, cons_ne_nil _ _, rfl, rfl, rfl, _,
    mem_singleton_self _, rfl, rfl, rfl, ⟨.inl rfl, .inl rfl⟩, rfl⟩

end Portus

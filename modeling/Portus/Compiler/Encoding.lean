import Portus.Compiler.Scope
import Portus.Lib.Reorder

/-!
# Messages as they are encoded

The map fields of a message are hash maps, and the encoder writes their entries in the order
in which it walks them. What is hashed for a message is therefore any message with its maps
walked in another order (`Walked`). A message is written in one way exactly if each of its
maps has at most one entry (`rigid_route`, `rigid_federation`).
-/

namespace Portus.Proto

open Portus Lib List

def HeaderMutation.Walked (h h' : HeaderMutation) : Prop :=
  h.add.Reordered h'.add ∧ h.set.Reordered h'.set ∧ h'.remove = h.remove

def WeightedBackend.Walked (w w' : WeightedBackend) : Prop :=
  Option.Rel HeaderMutation.Walked w.requestHeaders w'.requestHeaders ∧
    { w' with requestHeaders := w.requestHeaders } = w

def AuthType.Walked : AuthType → AuthType → Prop
  | .basicAuth credentials realm, .basicAuth credentials' realm' =>
    credentials.Reordered credentials' ∧ realm' = realm
  | auth, auth' => auth' = auth

structure RouteConfig.Walked (r r' : RouteConfig) : Prop where
  requestHeaders : Option.Rel HeaderMutation.Walked r.requestHeaders r'.requestHeaders
  responseHeaders : Option.Rel HeaderMutation.Walked r.responseHeaders r'.responseHeaders
  weightedBackends : List.Forall₂ WeightedBackend.Walked r.weightedBackends r'.weightedBackends
  auth : Option.Rel AuthType.Walked r.auth r'.auth
  others : { r' with
    requestHeaders := r.requestHeaders, responseHeaders := r.responseHeaders
    weightedBackends := r.weightedBackends, auth := r.auth } = r

def L4ProxyRoute.Walked (t t' : L4ProxyRoute) : Prop :=
  List.Forall₂ WeightedBackend.Walked t.backends t'.backends ∧ { t' with backends := t.backends } = t

def McpMember.Walked (m m' : McpMember) : Prop :=
  m.headers.Reordered m'.headers ∧ { m' with headers := m.headers } = m

def McpFederation.Walked (f f' : McpFederation) : Prop :=
  List.Forall₂ McpMember.Walked f.members f'.members ∧ f'.name = f.name

/-- A configuration with the maps of its messages walked in another order. -/
structure CompiledConfig.Walked (c c' : CompiledConfig) : Prop where
  routes : List.Forall₂ RouteConfig.Walked c.routes c'.routes
  tcpProxyRoutes : List.Forall₂ L4ProxyRoute.Walked c.tcpProxyRoutes c'.tcpProxyRoutes
  udpProxyRoutes : List.Forall₂ L4ProxyRoute.Walked c.udpProxyRoutes c'.udpProxyRoutes
  mcpFederations : List.Forall₂ McpFederation.Walked c.mcpFederations c'.mcpFederations
  others : { c' with
    routes := c.routes, tcpProxyRoutes := c.tcpProxyRoutes, udpProxyRoutes := c.udpProxyRoutes
    mcpFederations := c.mcpFederations } = c

section Refl

theorem relWalked_refl : Option.Rel HeaderMutation.Walked o o := by
  cases o with
  | none => exact .none
  | some h => exact .some ⟨.refl _, .refl _, rfl⟩

theorem WeightedBackend.Walked.refl (w : WeightedBackend) : w.Walked w :=
  ⟨relWalked_refl, rfl⟩

theorem AuthType.Walked.refl (a : AuthType) : a.Walked a := by
  cases a with
  | basicAuth credentials realm => exact ⟨.refl _, rfl⟩
  | apiKey validKeys headerName | jwt providers => exact rfl

theorem RouteConfig.Walked.refl (r : RouteConfig) : r.Walked r where
  requestHeaders := relWalked_refl
  responseHeaders := relWalked_refl
  weightedBackends := forall₂_same.2 fun w _ => .refl w
  auth := by
    cases r.auth with
    | none => exact .none
    | some a => exact .some (.refl a)
  others := rfl

theorem L4ProxyRoute.Walked.refl (t : L4ProxyRoute) : t.Walked t :=
  ⟨forall₂_same.2 fun w _ => .refl w, rfl⟩

theorem McpMember.Walked.refl (m : McpMember) : m.Walked m := ⟨.refl _, rfl⟩

theorem McpFederation.Walked.refl (f : McpFederation) : f.Walked f :=
  ⟨forall₂_same.2 fun m _ => .refl m, rfl⟩

theorem CompiledConfig.Walked.refl (c : CompiledConfig) : c.Walked c where
  routes := forall₂_same.2 fun r _ => .refl r
  tcpProxyRoutes := forall₂_same.2 fun t _ => .refl t
  udpProxyRoutes := forall₂_same.2 fun t _ => .refl t
  mcpFederations := forall₂_same.2 fun f _ => .refl f
  others := rfl

end Refl

/-- At most one header is added, and at most one is set. -/
def HeaderMutation.Single (h : HeaderMutation) : Prop :=
  h.add.pairs.length ≤ 1 ∧ h.set.pairs.length ≤ 1

/-- Every header mutation of a configuration has at most one entry a map. -/
structure RouteConfig.SingleHeaders (r : RouteConfig) : Prop where
  requestHeaders : ∀ h ∈ r.requestHeaders, h.Single
  responseHeaders : ∀ h ∈ r.responseHeaders, h.Single
  weightedBackends : ∀ w ∈ r.weightedBackends, ∀ h ∈ w.requestHeaders, h.Single

instance (h : HeaderMutation) : Decidable h.Single :=
  inferInstanceAs (Decidable (_ ∧ _))

instance (r : RouteConfig) : Decidable r.SingleHeaders :=
  decidable_of_iff ((∀ h ∈ r.requestHeaders, h.Single) ∧ (∀ h ∈ r.responseHeaders, h.Single) ∧
      ∀ w ∈ r.weightedBackends, ∀ h ∈ w.requestHeaders, h.Single)
    ⟨fun ⟨hrequest, hresponse, hweighted⟩ => ⟨hrequest, hresponse, hweighted⟩,
      fun h => ⟨h.requestHeaders, h.responseHeaders, h.weightedBackends⟩⟩

theorem rigid_headerMutation : Rigid HeaderMutation.Walked h ↔ h.Single := by
  rw [HeaderMutation.Single, ← Table.rigid_reordered, ← Table.rigid_reordered]
  constructor
  · intro hr
    refine ⟨fun add had => ?_, fun set hse => ?_⟩
    · exact congrArg HeaderMutation.add (hr { h with add := add } ⟨had, .refl _, rfl⟩)
    · exact congrArg HeaderMutation.set (hr { h with set := set } ⟨.refl _, hse, rfl⟩)
  · rintro ⟨had, hse⟩ ⟨add, set, remove⟩ ⟨ha, hs, rfl⟩
    cases h
    rw [had add ha, hse set hs]

theorem rigid_weightedBackend :
    Rigid WeightedBackend.Walked w ↔ ∀ h ∈ w.requestHeaders, h.Single := by
  simp only [← rigid_headerMutation, ← rigid_option]
  constructor
  · intro hr headers hh
    exact congrArg WeightedBackend.requestHeaders
      (hr { w with requestHeaders := headers } ⟨hh, rfl⟩)
  · rintro hr w' ⟨hh, ho⟩
    rwa [← hr _ hh] at ho

theorem rigid_authType : Rigid AuthType.Walked a ↔
    ∀ credentials realm, a = .basicAuth credentials realm → credentials.pairs.length ≤ 1 := by
  cases a with
  | basicAuth credentials realm =>
    have hs : (∀ credentials' realm', AuthType.basicAuth credentials realm =
        .basicAuth credentials' realm' → credentials'.pairs.length ≤ 1) ↔
        credentials.pairs.length ≤ 1 := by
      simp
    rw [hs, ← Table.rigid_reordered]
    constructor
    · intro hri credentials' hre
      exact (AuthType.basicAuth.inj (hri (.basicAuth credentials' realm) ⟨hre, rfl⟩)).1
    · rintro hri (⟨credentials', realm'⟩ | _ | _) hw
      · obtain ⟨hre, rfl⟩ := hw
        rw [hri credentials' hre]
      · cases hw
      · cases hw
  | apiKey validKeys headerName | jwt providers => exact iff_of_true (fun _ h => h) (by simp)

theorem rigid_route : Rigid RouteConfig.Walked r ↔ r.SingleHeaders ∧
    ∀ credentials realm, r.auth = some (.basicAuth credentials realm) →
      credentials.pairs.length ≤ 1 := by
  have ha : (∀ credentials realm, r.auth = some (.basicAuth credentials realm) →
      credentials.pairs.length ≤ 1) ↔ Rigid (Option.Rel AuthType.Walked) r.auth := by
    simp only [rigid_option, rigid_authType, Option.mem_def]
    grind
  have hr : (∀ h ∈ r.requestHeaders, h.Single) ↔
      Rigid (Option.Rel HeaderMutation.Walked) r.requestHeaders := by
    simp only [rigid_option, rigid_headerMutation]
  have hresp : (∀ h ∈ r.responseHeaders, h.Single) ↔
      Rigid (Option.Rel HeaderMutation.Walked) r.responseHeaders := by
    simp only [rigid_option, rigid_headerMutation]
  have hwe : (∀ w ∈ r.weightedBackends, ∀ h ∈ w.requestHeaders, h.Single) ↔
      Rigid (List.Forall₂ WeightedBackend.Walked) r.weightedBackends := by
    simp only [rigid_forall₂ WeightedBackend.Walked.refl, rigid_weightedBackend]
  have hs := RouteConfig.Walked.refl r
  rw [ha]
  constructor
  · intro hri
    refine ⟨⟨hr.2 fun x hx => ?_, hresp.2 fun x hx => ?_, hwe.2 fun x hx => ?_⟩, fun x hx => ?_⟩
    · exact congrArg RouteConfig.requestHeaders
        (hri { r with requestHeaders := x } { hs with requestHeaders := hx })
    · exact congrArg RouteConfig.responseHeaders
        (hri { r with responseHeaders := x } { hs with responseHeaders := hx })
    · exact congrArg RouteConfig.weightedBackends
        (hri { r with weightedBackends := x } { hs with weightedBackends := hx })
    · exact congrArg RouteConfig.auth (hri { r with auth := x } { hs with auth := hx })
  · rintro ⟨⟨hreq, hres, hw⟩, hri⟩ r' h
    have heq := h.others
    rw [← hr.1 hreq _ h.requestHeaders, ← hresp.1 hres _ h.responseHeaders,
      ← hwe.1 hw _ h.weightedBackends, ← hri _ h.auth] at heq
    exact heq

theorem rigid_l4ProxyRoute (h : ∀ w ∈ t.backends, w.requestHeaders = none) :
    Rigid L4ProxyRoute.Walked t := by
  rintro t' ⟨hb, ho⟩
  have hr : Rigid (List.Forall₂ WeightedBackend.Walked) t.backends := by
    refine (rigid_forall₂ WeightedBackend.Walked.refl).2 fun w hw => ?_
    simp [rigid_weightedBackend, h w hw]
  rwa [← hr _ hb] at ho

theorem rigid_member : Rigid McpMember.Walked m ↔ m.headers.pairs.length ≤ 1 := by
  rw [← Table.rigid_reordered]
  constructor
  · intro hr headers hh
    exact congrArg McpMember.headers (hr { m with headers := headers } ⟨hh, rfl⟩)
  · rintro hr m' ⟨hh, ho⟩
    rwa [← hr _ hh] at ho

theorem rigid_federation : Rigid McpFederation.Walked f ↔
    ∀ m ∈ f.members, m.headers.pairs.length ≤ 1 := by
  simp only [← rigid_member, ← rigid_forall₂ McpMember.Walked.refl]
  constructor
  · intro hr members hm
    exact congrArg McpFederation.members (hr { f with members := members } ⟨hm, rfl⟩)
  · rintro hr ⟨name, members⟩ ⟨hm, rfl⟩
    cases f
    rw [hr members hm]

end Portus.Proto

namespace Portus.Compiler

open Portus Lib Proto

/-- The same messages of each kind, in whatever order. -/
structure SameMessages (c1 c2 : CompiledConfig) : Prop where
  routes : c1.routes.Perm c2.routes
  backends : c1.backends.Perm c2.backends
  listeners : c1.listeners.Perm c2.listeners
  tlsPassthroughRoutes : c1.tlsPassthroughRoutes.Perm c2.tlsPassthroughRoutes
  tcpProxyRoutes : c1.tcpProxyRoutes.Perm c2.tcpProxyRoutes
  udpProxyRoutes : c1.udpProxyRoutes.Perm c2.udpProxyRoutes
  tlsPassthroughListenerHostnames :
    c1.tlsPassthroughListenerHostnames.Perm c2.tlsPassthroughListenerHostnames
  gatewayBackendTls : c1.gatewayBackendTls.Perm c2.gatewayBackendTls
  mcpFederations : c1.mcpFederations.Perm c2.mcpFederations
  issuerKeys : c1.issuerKeys.Perm c2.issuerKeys

namespace SameMessages

variable {c1 c2 c3 : CompiledConfig}

variable (h : SameMessages c1 c2)

include h

theorem symm : SameMessages c2 c1 := by
  cases h
  constructor <;> exact List.Perm.symm (by assumption)

theorem trans (h' : SameMessages c2 c3) : SameMessages c1 c3 where
  routes := h.routes.trans h'.routes
  backends := h.backends.trans h'.backends
  listeners := h.listeners.trans h'.listeners
  tlsPassthroughRoutes := h.tlsPassthroughRoutes.trans h'.tlsPassthroughRoutes
  tcpProxyRoutes := h.tcpProxyRoutes.trans h'.tcpProxyRoutes
  udpProxyRoutes := h.udpProxyRoutes.trans h'.udpProxyRoutes
  tlsPassthroughListenerHostnames :=
    h.tlsPassthroughListenerHostnames.trans h'.tlsPassthroughListenerHostnames
  gatewayBackendTls := h.gatewayBackendTls.trans h'.gatewayBackendTls
  mcpFederations := h.mcpFederations.trans h'.mcpFederations
  issuerKeys := h.issuerKeys.trans h'.issuerKeys

theorem elements : (elements c1).Perm (elements c2) :=
  ((((((((((h.routes.map _).append (h.backends.map _)).append (h.listeners.map _)).append
    (h.tlsPassthroughRoutes.map _)).append (h.tcpProxyRoutes.map _)).append
    (h.udpProxyRoutes.map _)).append (h.tlsPassthroughListenerHostnames.map _)).append
    (h.gatewayBackendTls.map _)).append (h.mcpFederations.map _)).append (h.issuerKeys.map _))

theorem wantedPorts (gw : NamespacedName) : (wantedPorts gw c1).Perm (wantedPorts gw c2) := by
  have hr := (h.routes.filter fun r => owned gw r.gatewayNamespace r.gatewayName).flatMap_right
    routePorts
  have htl := (h.tlsPassthroughRoutes.filter fun t =>
    owned gw t.gatewayNamespace t.gatewayName).flatMap_right tlsPorts
  have htc := h.tcpProxyRoutes.filter fun t => owned gw t.gatewayNamespace t.gatewayName
  have hu := h.udpProxyRoutes.filter fun t => owned gw t.gatewayNamespace t.gatewayName
  exact (hr.append htl).append ((htc.append hu).flatMap_right l4Ports)

omit h in
theorem filter_contains_perm [BEq β] [LawfulBEq β] {l1 : List α} {m1 m2 : List β} (f : α → β)
    (hl : l1.Perm l2) (hm : ∀ b, b ∈ m1 ↔ b ∈ m2) :
    (l1.filter fun a => m1.contains (f a)).Perm (l2.filter fun a => m2.contains (f a)) := by
  have ht : (fun a => m1.contains (f a)) = fun a => m2.contains (f a) := by
    funext a
    rw [Bool.eq_iff_iff, List.contains_iff_mem, List.contains_iff_mem]
    exact hm (f a)
  rw [ht]
  exact hl.filter _

theorem slice (gw : NamespacedName) : SameMessages (slice gw c1) (slice gw c2) := by
  have hr := h.routes.filter fun r => owned gw r.gatewayNamespace r.gatewayName
  have hl := h.listeners.filter fun l => owned gw l.gatewayNamespace l.gatewayName
  have hp := h.wantedPorts gw
  exact
    { routes := hr
      backends := filter_contains_perm (fun b : BackendGroup => (b.serviceName, b.port))
        h.backends fun _ => hp.mem_iff
      listeners := hl
      tlsPassthroughRoutes := h.tlsPassthroughRoutes.filter _
      tcpProxyRoutes := h.tcpProxyRoutes.filter _
      udpProxyRoutes := h.udpProxyRoutes.filter _
      tlsPassthroughListenerHostnames := (hl.filter _).map _
      gatewayBackendTls := h.gatewayBackendTls.filter _
      mcpFederations := filter_contains_perm (fun f : McpFederation => f.name) h.mcpFederations
        fun _ => ((hr.map _).filter _).mem_iff
      issuerKeys := filter_contains_perm (fun k : IssuerKeys => k.issuer) h.issuerKeys
        fun _ => (hr.flatMap_right jwtIssuers).mem_iff }

theorem configFingerprint (hash : Element → UInt64) :
    configFingerprint hash c1 = configFingerprint hash c2 :=
  configFingerprint_perm h.elements

end SameMessages

section Elements

variable {c1 c2 : CompiledConfig}

variable (h : (elements c1).Perm (elements c2))

include h

theorem perm_of_elements (part : Element → Option α) (of : CompiledConfig → List α)
    (hp : ∀ c, (elements c).filterMap part = of c) : (of c1).Perm (of c2) := by
  rw [← hp c1, ← hp c2]
  exact h.filterMap part

def Element.backend? : Element → Option BackendGroup
  | .backend b => some b
  | _ => none

def Element.mcpFederation? : Element → Option McpFederation
  | .mcpFederation f => some f
  | _ => none

def Element.l4ProxyRoute? : Element → Option L4ProxyRoute
  | .l4ProxyRoute t => some t
  | _ => none

theorem backends_perm : c1.backends.Perm c2.backends :=
  perm_of_elements h Element.backend? (·.backends)
    (fun c => by simp [elements, List.filterMap_map, Function.comp_def, Element.backend?])

theorem mcpFederations_perm : c1.mcpFederations.Perm c2.mcpFederations :=
  perm_of_elements h Element.mcpFederation? (·.mcpFederations)
    (fun c => by simp [elements, List.filterMap_map, Function.comp_def, Element.mcpFederation?])

theorem l4ProxyRoutes_perm :
    (c1.tcpProxyRoutes ++ c1.udpProxyRoutes).Perm (c2.tcpProxyRoutes ++ c2.udpProxyRoutes) :=
  perm_of_elements h Element.l4ProxyRoute? (fun c => c.tcpProxyRoutes ++ c.udpProxyRoutes)
    (fun c => by simp [elements, List.filterMap_map, Function.comp_def, Element.l4ProxyRoute?])

end Elements

end Portus.Compiler

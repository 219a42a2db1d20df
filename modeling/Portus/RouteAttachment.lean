import Portus.AcceptedParents
import Portus.Compiler.Matching
import Portus.Compiler.Scope
import Portus.DataPlane.RouteSlice

/-!
# Attachment, end to end

From a rule that the data plane of a Gateway selects for a request back to the listener
that its route is attached to. A configuration carries the port and the hostname of the
listener it was compiled for, and a host that the listener and the route share. The data
plane looks requests up by port, by the hostname that claims the host and by the host, so
the rule it selects is of a route attached to a listener of that port and that hostname.
A port of 0 stands for every port.
-/

namespace Portus

open Lib Proto Compiler Reconcilers DataPlane List Text

variable (store : ConfigStore)

/-- A hostname of a route covers a host: it is the host, `*.` and a domain of the host, or `*`. -/
def HostnameCovers (hostname host : String) : Prop :=
  Text.toAsciiLowercase hostname = "*" ∨
    Text.toAsciiLowercase host = Text.toAsciiLowercase hostname ∨
    ∃ suffix, Text.toAsciiLowercase hostname = "*." ++ suffix ∧
      Text.endsWith (Text.toAsciiLowercase host) ("." ++ suffix) = true

theorem mem_dotSuffixes (h : s ∈ dotSuffixes cs) :
    ∃ t front, s = "." ++ t ∧ cs = front ++ s.toList := by
  induction cs with
  | nil => cases h
  | cons c cs ih =>
    have hc (h : s ∈ dotSuffixes cs) : ∃ t front, s = "." ++ t ∧ c :: cs = front ++ s.toList := by
      obtain ⟨t, front, hs, hf⟩ := ih h
      exact ⟨t, c :: front, hs, congrArg (c :: ·) hf⟩
    unfold dotSuffixes at h
    split at h
    next hdot =>
      rcases mem_cons.1 h with rfl | h
      · exact ⟨.ofList cs, [], String.toList_inj.1 (by simp [hdot]), by simp⟩
      · exact hc h
    next => exact hc h

/-- A request is looked up under a host that stands for it. -/
def StandsFor (host requested : String) : Prop :=
  host = "*" ∨ host = requested ∨
    ∃ suffix, host = "*." ++ suffix ∧ Text.endsWith requested ("." ++ suffix) = true

theorem standsFor_of_slot (h : hostSlot host ∈ requestSlots requested) :
    StandsFor host requested := by
  have hs := (host_hostSlot host).symm
  simp only [requestSlots, cons_append, mem_cons, mem_append, mem_map, not_mem_nil, or_false] at h
  obtain h | ⟨suffix, hsu, h⟩ | h := h
  · exact .inr (.inl (hs.trans (congrArg HostSlot.host h)))
  · obtain ⟨t, front, rfl, hf⟩ := mem_dotSuffixes hsu
    rw [← h] at hs
    refine .inr (.inr ⟨t, hs.trans (String.append_assoc ..).symm, endsWith_iff.2 ?_⟩)
    exact ⟨.ofList front, String.toList_inj.1 (by simpa using hf)⟩
  · exact .inl (hs.trans (congrArg HostSlot.host h))

theorem lower_suffix (h : toAsciiLowercase hostname = "*." ++ suffix) :
    toAsciiLowercase suffix = suffix := by
  have hs := stripStar_toAsciiLowercase (toAsciiLowercase hostname)
  rw [toAsciiLowercase_toAsciiLowercase, stripPrefix_eq_some.2 h, Option.map_some,
    Option.some.injEq] at hs
  exact hs.symm

theorem endsWith_lower (h : endsWith host ("." ++ suffix) = true)
    (hs : toAsciiLowercase suffix = suffix) :
    endsWith (toAsciiLowercase host) ("." ++ suffix) = true := by
  obtain ⟨front, rfl⟩ := endsWith_iff.1 h
  have hd : toAsciiLowercase "." = "." := rfl
  rw [toAsciiLowercase_append, toAsciiLowercase_append, hs]
  exact endsWith_iff.2 ⟨_, rfl⟩

theorem wider_of_intersect (h : intersectHostnames lh rh = some host) :
    toAsciiLowercase host = host ∧ (toAsciiLowercase rh = host ∨
      ∃ suffix, toAsciiLowercase rh = "*." ++ suffix ∧ endsWith host ("." ++ suffix) = true) := by
  have hlo (s : String) := toAsciiLowercase_toAsciiLowercase s
  unfold intersectHostnames at h
  obtain ⟨ls, hl, -, hlL, hlT⟩ | ⟨hl, -⟩ := hostname_cases lh
  · obtain ⟨rs, hr, -, hrL, hrT⟩ | ⟨hr, -⟩ := hostname_cases rh
    · simp only [hl, hr, hlT, hrT] at h
      split_ifs at h with hsa hn hw
      · rw [Option.some.injEq] at h
        subst h
        refine ⟨hlo lh, .inl ?_⟩
        have hst : "*." = "*" ++ "." := rfl
        rw [hlL, hrL, hst, String.append_assoc, String.append_assoc, hsa]
      · rw [Option.some.injEq] at h
        exact ⟨h ▸ hlo rh, .inl h⟩
      · rw [Option.some.injEq] at h
        subst h
        refine ⟨hlo lh, .inr ⟨rs, hrL, ?_⟩⟩
        obtain ⟨front, hf⟩ := endsWith_iff.1 hw
        refine endsWith_iff.2 ⟨"*" ++ front, ?_⟩
        rw [hlL, String.append_assoc, ← hf]
        rfl
    · simp only [hl, hr] at h
      split_ifs at h
      rw [Option.some.injEq] at h
      exact ⟨h ▸ hlo rh, .inl h⟩
  · obtain ⟨rs, hr, -, hrL, hrT⟩ | ⟨hr, -⟩ := hostname_cases rh
    · simp only [hl, hr, hrT] at h
      split_ifs at h with hu
      rw [Option.some.injEq] at h
      subst h
      obtain ⟨front, -, hf⟩ := endsWith_and_lt_iff.1 hu
      refine ⟨hlo lh, .inr ⟨rs, hrL, endsWith_iff.2 ⟨front, ?_⟩⟩⟩
      rw [hf, String.append_assoc]
    · simp only [hl, hr] at h
      split_ifs at h with hsa
      rw [Option.some.injEq] at h
      exact ⟨h ▸ hlo lh, .inl (hsa.symm.trans h)⟩

theorem covers_of_wider (hl : toAsciiLowercase host = host)
    (hw : toAsciiLowercase rh = host ∨ ∃ suffix,
      toAsciiLowercase rh = "*." ++ suffix ∧ endsWith host ("." ++ suffix) = true)
    (hst : StandsFor host requested) : HostnameCovers rh requested := by
  rcases hw with hrh | ⟨suffix, hrh, he⟩
  · rcases hst with rfl | rfl | ⟨suffix, rfl, he⟩
    · exact .inl hrh
    · exact .inr (.inl (hl.trans hrh.symm))
    · exact .inr (.inr ⟨suffix, hrh, endsWith_lower he (lower_suffix hrh)⟩)
  · have hsu := lower_suffix hrh
    rcases hst with rfl | rfl | ⟨t, rfl, hreq⟩
    · -- `*` does not end with a dot and a domain
      exfalso
      obtain ⟨front, hf⟩ := endsWith_iff.1 he
      have hc := congrArg String.toList hf
      have hm : '.' ∈ "*".toList := by rw [hc]; simp
      exact absurd hm (by decide)
    · exact .inr (.inr ⟨suffix, hrh, endsWith_lower he hsu⟩)
    · refine .inr (.inr ⟨suffix, hrh, endsWith_lower ?_ hsu⟩)
      obtain ⟨p, rfl⟩ := endsWith_iff.1 hreq
      obtain ⟨front, hf⟩ := endsWith_iff.1 he
      -- the domain of the host lies at or under that of the hostname
      have hd : ∃ q, "." ++ t = q ++ ("." ++ suffix) := by
        have hc := congrArg String.toList hf
        rw [String.toList_append, String.toList_append] at hc
        cases hq : front.toList with
        | nil =>
          rw [hq] at hc
          simp at hc
        | cons c q =>
          rw [hq] at hc
          refine ⟨String.ofList q, String.toList_inj.1 ?_⟩
          have hres := congrArg List.tail hc
          simpa using hres
      obtain ⟨q, hq⟩ := hd
      exact endsWith_iff.2 ⟨p ++ q, by rw [hq, String.append_assoc]⟩

theorem covers_of_effective (h : host ∈ computeEffectiveHostnamesInner [lh] hostnames)
    (hs : StandsFor host requested) :
    hostnames = [] ∨ ∃ rh ∈ hostnames, HostnameCovers rh requested := by
  rw [computeEffectiveHostnamesInner, mem_btreeSet, flatMap_singleton] at h
  by_cases hn : hostnames = []
  · exact .inl hn
  · right
    cases lh with
    | none =>
      simp only [List.isEmpty_iff, hn, if_false] at h
      obtain ⟨rh, hrh, rfl⟩ := mem_map.1 h
      exact ⟨rh, hrh, covers_of_wider (toAsciiLowercase_toAsciiLowercase rh) (.inl rfl) hs⟩
    | some lh =>
      simp only [List.isEmpty_iff, hn, if_false] at h
      obtain ⟨rh, hrh, hi⟩ := mem_filterMap.1 h
      obtain ⟨hl, hw⟩ := wider_of_intersect hi
      exact ⟨rh, hrh, covers_of_wider hl hw hs⟩

/-- A stored route that is compiled for HTTP listeners. -/
inductive ListenedRoute where
  | http (hr : HTTPRouteState)
  | ai (ar : AIRouteState)
  | grpc (gr : GRPCRouteState)

def aiRouteAsHttpRoute (ar : AIRouteState) : HTTPRouteState :=
  { namespaceName := ar.namespaceName
    hostnames := ar.hostnames
    parentRefs := ar.parentRefs
    rules := ar.rules.map (aiRuleAsHttpRule store) }

namespace ListenedRoute

def namespaceName : ListenedRoute → String
  | http hr => hr.namespaceName
  | ai ar => ar.namespaceName
  | grpc gr => gr.namespaceName

def hostnames : ListenedRoute → List String
  | http hr => hr.hostnames
  | ai ar => ar.hostnames
  | grpc gr => gr.hostnames

def parentRefs : ListenedRoute → List ParentRefState
  | http hr => hr.parentRefs
  | ai ar => ar.parentRefs
  | grpc gr => gr.parentRefs

def Stored (key : NamespacedName) : ListenedRoute → Prop
  | http hr => store.httpRoutes.lookup key = some hr
  | ai ar => store.aiRoutes.lookup key = some ar
  | grpc gr => store.grpcRoutes.lookup key = some gr

def emissions (key : NamespacedName) : ListenedRoute → List Emission
  | http hr => httpEmissions store key hr
  | ai ar => httpEmissions store ⟨key.namespaceName, aiRouteKeyPrefix ++ key.name⟩
    (aiRouteAsHttpRoute store ar)
  | grpc gr => grpcEmissions store key gr

def Compiles (route : ListenedRoute) (config : RouteConfig) : Prop :=
  ∃ key, route.Stored store key ∧ ∃ e ∈ route.emissions store key, config = finishRoute store e

end ListenedRoute

theorem exists_compiles {store : ConfigStore} (h : config ∈ compileRoutes store) :
    ∃ route : ListenedRoute, route.Compiles store config := by
  obtain ⟨e, he, rfl⟩ := mem_map.1 h
  rcases mem_append.1 he with he | he
  · obtain ⟨⟨key, hr⟩, hro, he⟩ := mem_flatMap.1 he
    rcases mem_append.1 hro with hro | hro
    · exact ⟨.http hr, key, Table.mem_pairs.1 hro, e, he, rfl⟩
    · obtain ⟨⟨aiKey, ar⟩, hai, heq⟩ := mem_map.1 hro
      cases heq
      exact ⟨.ai ar, aiKey, Table.mem_pairs.1 hai, e, he, rfl⟩
  · obtain ⟨⟨key, gr⟩, hro, he⟩ := mem_flatMap.1 he
    exact ⟨.grpc gr, key, Table.mem_pairs.1 hro, e, he, rfl⟩

/-- A configuration has the host, the listener and the Gateway of a binding. -/
def AtBinding (config : RouteConfig) (b : Binding) : Prop :=
  config.host ∈ b.hosts ∧ config.listenerPort = b.listener.port.toUInt32 ∧
    config.listenerHostname = b.listener.hostname.getD "" ∧
    config.gatewayNamespace = (ownerGateway store b.parentRef).namespaceName ∧
    config.gatewayName = (ownerGateway store b.parentRef).name

theorem atBinding_of_http {store : ConfigStore} {key : NamespacedName} {hr : HTTPRouteState}
    {e : Emission} (he : e ∈ httpEmissions store key hr) :
    ∃ b ∈ httpBindings store hr, AtBinding store (finishRoute store e) b := by
  obtain ⟨b, hb, he⟩ := mem_flatMap.1 he
  obtain ⟨rule, -, he⟩ := mem_flatMap.1 he
  obtain ⟨host, hhost, entry, -, hf⟩ := exists_httpRouting he
  have hhostE : (finishRoute store e).host = host := congrArg RoutingFields.host hf
  exact ⟨b, hb, hhostE ▸ hhost, congrArg RoutingFields.listenerPort hf,
    congrArg RoutingFields.listenerHostname hf,
    congrArg RoutingFields.gatewayNamespace hf, congrArg RoutingFields.gatewayName hf⟩

theorem atBinding_of_grpc {store : ConfigStore} (he : e ∈ grpcEmissions store key gr) :
    ∃ b ∈ grpcBindings store gr, AtBinding store (finishRoute store e) b := by
  obtain ⟨b, hb, he⟩ := mem_flatMap.1 he
  obtain ⟨rule, -, he⟩ := mem_flatMap.1 he
  rw [grpcRuleEmissions_eq] at he
  obtain ⟨entry, -, he⟩ := mem_flatMap.1 he
  obtain ⟨host, hhost, hf⟩ := exists_grpcRouting he
  have hhostE : (finishRoute store e).host = host := congrArg RoutingFields.host hf
  exact ⟨b, hb, hhostE ▸ hhost, congrArg RoutingFields.listenerPort hf,
    congrArg RoutingFields.listenerHostname hf,
    congrArg RoutingFields.gatewayNamespace hf, congrArg RoutingFields.gatewayName hf⟩

theorem exists_atBinding {store : ConfigStore} {route : ListenedRoute}
    (h : route.Compiles store config) :
    ∃ b ∈ bindings store route.namespaceName route.hostnames route.parentRefs,
      AtBinding store config b := by
  obtain ⟨key, -, e, he, rfl⟩ := h
  cases route with
  | http hr => exact atBinding_of_http he
  | ai ar =>
    obtain ⟨b, hb, hat⟩ := @atBinding_of_http store
      ⟨key.namespaceName, aiRouteKeyPrefix ++ key.name⟩ (aiRouteAsHttpRoute store ar) e he
    exact ⟨b, hb, hat⟩
  | grpc gr => exact atBinding_of_grpc he

/-- A listener of the Gateway, or of an accepted ListenerSet of it, that a reference names. -/
def BelongsTo (gw : NamespacedName) (pr : ParentRefState) (l : ListenerState) : Prop :=
  match pr.parentKind with
  | .gateway => pr.parentKey = gw ∧
    ∃ state, store.gateways.lookup gw = some state ∧ l ∈ state.listeners
  | .listenerSet => ∃ ls, store.listenerSets.lookup pr.parentKey = some ls ∧
    ls.accepted = true ∧ ls.parentGateway = gw ∧ l ∈ ls.listeners

/-- An accepted reference of a route names a listener of the Gateway that serves the host of a
request and that the route may be attached to. -/
structure AttachedTo (store : ConfigStore) (gw : NamespacedName) (route : ListenedRoute)
    (host : String) (pr : ParentRefState) (l : ListenerState) : Prop where
  reference : pr ∈ route.parentRefs
  acceptedReference : pr.accepted = true
  belongs : BelongsTo store gw pr l
  accepted : l.accepted = true
  speaks : speaksHttp l = true
  named : Names pr l
  admits : namespaceAllowed l.allowedRoutes route.namespaceName (parentNamespace store pr)
    (namespaceLabelsOf store route.namespaceName) = true
  claims : listenerHostnameClaims (l.hostname.getD "") host = true
  covered : route.hostnames = [] ∨ ∃ rh ∈ route.hostnames, HostnameCovers rh host

def Selects (libs : RouterLibs) (orders : MapOrders) (config : CompiledConfig)
    (facts : RequestFacts) (rule : PathRoute) : Prop :=
  routeRequest libs (buildListenerBucketsFromProto libs orders config.routes) facts = .matched rule

theorem belongsTo_of_owned {store : ConfigStore} {gw : NamespacedName}
    (hl : l ∈ parentListeners store pr) (ho : ownerGateway store pr = gw) :
    BelongsTo store gw pr l := by
  unfold parentListeners at hl
  unfold ownerGateway at ho
  unfold BelongsTo
  cases hk : pr.parentKind with
  | gateway =>
    simp only [hk] at hl ho ⊢
    subst ho
    cases hlo : store.gateways.lookup pr.parentKey with
    | none => simp [hlo] at hl
    | some state => exact ⟨rfl, state, rfl, by simpa [hlo] using hl⟩
  | listenerSet =>
    simp only [hk] at hl ho ⊢
    cases hlo : store.listenerSets.lookup pr.parentKey with
    | none => simp [hlo] at hl
    | some ls =>
      simp only [hlo] at hl ho
      by_cases ha : ls.accepted = true
      · rw [if_pos ha] at hl
        exact ⟨ls, rfl, ha, ho, hl⟩
      · rw [if_neg ha] at hl
        cases hl

theorem attachedTo_of_binding {store : ConfigStore} {gw : NamespacedName}
    (hb : b ∈ bindings store route.namespaceName route.hostnames route.parentRefs)
    (hat : AtBinding store config b)
    (ho : owned gw config.gatewayNamespace config.gatewayName = true)
    (hc : listenerHostnameClaims config.listenerHostname host = true)
    (hsl : hostSlot config.host ∈ requestSlots host) :
    AttachedTo store gw route host b.parentRef b.listener := by
  obtain ⟨hpr, hac, hl, ha, hhosts, -⟩ := mem_bindings.1 hb
  obtain ⟨hhost, -, hlh, hgwNs, hgwNa⟩ := hat
  simp only [attaches, Bool.and_eq_true, Bool.or_eq_true, beq_iff_eq,
    Option.isNone_iff_eq_none] at ha
  obtain ⟨⟨⟨⟨hla, hp⟩, hse⟩, hpo⟩, had⟩ := ha
  have howner : ownerGateway store b.parentRef = gw := by
    simp only [owned, Bool.and_eq_true, beq_iff_eq] at ho
    exact congrArg₂ NamespacedName.mk (hgwNs.symm.trans ho.1) (hgwNa.symm.trans ho.2)
  exact
    { reference := hpr
      acceptedReference := hac
      belongs := belongsTo_of_owned hl howner
      accepted := hla
      speaks := by simpa [speaksHttp] using hp
      named := ⟨hse, hpo⟩
      admits := had
      claims := hlh ▸ hc
      covered := covers_of_effective (hhosts ▸ hhost) (standsFor_of_slot hsl) }

section

variable {libs : RouterLibs} {orders : MapOrders} {hash : Element → UInt64}
  {order : IterOrder ServiceKey} {store : ConfigStore} {gw : NamespacedName}
  {facts : RequestFacts} {rule : PathRoute}

theorem served_of_selects
    (h : Selects libs orders (scopeConfig hash (compileConfig order store) gw) facts rule) :
    rule.spec ∈ ownedRoutes gw (compileRoutes store) ∧
      hostSlot rule.spec.host ∈ requestSlots facts.host ∧
      ServedBy (ownedRoutes gw (compileRoutes store)) facts rule.spec.listenerPort.toUInt16
        rule.spec.listenerHostname := by
  obtain ⟨-, port, lh, hse, hd⟩ := exists_servedBy_of_matched h
  have hsp := exists_of_mem_rulesFor (mem_of_bestRule (decideRules_eq_matched.1 hd).2.2)
  obtain ⟨hm, rfl, rfl, hsl⟩ := mem_routesFor hsp
  exact ⟨hm, hsl, hse⟩

/-- Whatever the data plane of a Gateway selects is of a route, and every route it is of is
attached to a listener of the Gateway that serves the host, on the port of the request; or on
port 0, where no listener on the port claims the host. -/
theorem attached_of_selected
    (h : Selects libs orders (scopeConfig hash (compileConfig order store) gw) facts rule) :
    (∃ route : ListenedRoute, route.Compiles store rule.spec) ∧
      ∀ route : ListenedRoute, route.Compiles store rule.spec →
        ∃ pr l, AttachedTo store gw route facts.host pr l ∧ (l.port = facts.localPort ∨ l.port = 0 ∧
            ∀ c ∈ ownedRoutes gw (compileRoutes store), c.listenerPort.toUInt16 = facts.localPort →
              listenerHostnameClaims c.listenerHostname facts.host = false) := by
  obtain ⟨hm, hsl, hse⟩ := served_of_selects h
  obtain ⟨hm, ho⟩ := mem_filter.1 hm
  refine ⟨exists_compiles hm, fun route hco => ?_⟩
  obtain ⟨b, hb, hat⟩ := exists_atBinding hco
  have hto := attachedTo_of_binding hb hat ho hse.1.2.1 hsl
  refine ⟨b.parentRef, b.listener, hto, ?_⟩
  have hp : rule.spec.listenerPort.toUInt16 = b.listener.port := by
    rw [hat.2.1]
    simp
  rw [← hp]
  refine hse.2.imp id fun hz => ⟨hz.1, fun c hc hcp => ?_⟩
  by_contra hcl
  rw [Bool.not_eq_false] at hcl
  obtain ⟨lh, ht⟩ := exists_topListener ⟨c, hc, hcp, rfl⟩ hcl
  exact hz.2 lh ht

end

def portStore (port : UInt16) : ConfigStore :=
  { gateways := (∅ : Table _ _).insert ⟨"infra", "gw"⟩
      { sharedGateway with listeners := [{ name := "http", port := port, protocol := "HTTP" }] }
    httpRoutes := (∅ : Table _ _).insert ⟨"shop", "front"⟩ (plainRoute "shop" "shop.example.com" []) }

def portSlice (port : UInt16) : CompiledConfig :=
  scopeConfig (fun _ => 0) (compileConfig .insertion (portStore port)) ⟨"infra", "gw"⟩

def shopRequest (port : UInt16) : RequestFacts :=
  { host := "shop.example.com", path := "/", localPort := port }

def Decision.isMatched : Decision → Bool
  | .matched _ => true
  | _ => false

theorem exists_selects (port local_ : UInt16) (h : Decision.isMatched (routeRequest plainNames
      (buildListenerBucketsFromProto plainNames ⟨.insertion, .insertion⟩ (portSlice port).routes)
      (shopRequest local_)) = true) :
    ∃ rule, Selects plainNames ⟨.insertion, .insertion⟩ (portSlice port) (shopRequest local_)
      rule := by
  unfold Selects
  cases hd : routeRequest plainNames (buildListenerBucketsFromProto plainNames
    ⟨.insertion, .insertion⟩ (portSlice port).routes) (shopRequest local_) with
  | matched rule => exact ⟨rule, rfl⟩
  | _ => rw [hd] at h; cases h

theorem attached_shopRequest :
    ∃ rule, Selects plainNames ⟨.insertion, .insertion⟩ (portSlice 80) (shopRequest 80) rule ∧
      ∃ route : ListenedRoute, route.Compiles (portStore 80) rule.spec ∧
        ∃ pr l, AttachedTo (portStore 80) ⟨"infra", "gw"⟩ route "shop.example.com" pr l := by
  obtain ⟨rule, hs⟩ := exists_selects 80 80 (by decide +kernel)
  obtain ⟨⟨route, hc⟩, ha⟩ := attached_of_selected hs
  obtain ⟨pr, l, hto, -⟩ := ha route hc
  exact ⟨rule, hs, route, hc, pr, l, hto⟩

/-- A listener on port 0 serves the requests of every port. -/
theorem port_zero_serves_other_port :
    ¬ ∀ (libs : RouterLibs) (orders : MapOrders) (hash : Element → UInt64)
      (order : IterOrder ServiceKey) (store : ConfigStore) (gw : NamespacedName)
      (facts : RequestFacts) (rule : PathRoute),
      Selects libs orders (scopeConfig hash (compileConfig order store) gw) facts rule →
      ∀ route : ListenedRoute, route.Compiles store rule.spec →
        ∃ pr l, AttachedTo store gw route facts.host pr l ∧ l.port = facts.localPort := by
  intro h
  obtain ⟨rule, hse⟩ := exists_selects 0 8080 (by decide +kernel)
  obtain ⟨route, hc⟩ := exists_compiles (mem_of_mem_filter (served_of_selects hse).1)
  obtain ⟨pr, l, hto, hp⟩ := h _ _ _ _ _ _ _ rule hse route hc
  have hb := hto.belongs
  unfold BelongsTo at hb
  split at hb
  next =>
    obtain ⟨-, state, hst, hl⟩ := hb
    cases hst
    cases mem_singleton.1 hl
    cases hp
  next =>
    obtain ⟨ls, hls, -⟩ := hb
    cases hls

end Portus

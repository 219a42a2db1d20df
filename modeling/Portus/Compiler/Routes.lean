import Mathlib.Data.List.Dedup
import Mathlib.Data.List.Sort
import Portus.Compiler.Rules
import Portus.Reconcilers.References

/-!
# Binding routes to listeners and emitting their configurations

The HTTP and gRPC part of `compile_config`. A route is bound to every listener of
an accepted `parentRef` that fits its section, port, protocol and namespaces and
shares a hostname with it (`bindings`). Each rule is then emitted once for each
binding, host and match entry, with the route it came from (`Emission`).
-/

namespace Portus.Compiler

open Portus Lib Proto Reconcilers List

variable (store : ConfigStore)

/-- The route a configuration was emitted for. `gatewayRefs` lists all the parents the route
names, as (namespace, name, section). -/
structure RouteSource where
  kind : String
  namespaceName : String
  name : String
  gatewayRefs : List (String × String × Option String)

structure Emission where
  route : RouteConfig
  source : RouteSource

def btreeSet (l : List String) : List String := l.dedup.insertionSort (· ≤ ·)

theorem mem_btreeSet : a ∈ btreeSet l ↔ a ∈ l := by
  rw [btreeSet, mem_insertionSort, mem_dedup]

def computeEffectiveHostnamesInner (listenerHostnames : List (Option String))
    (routeHostnames : List String) : List String :=
  btreeSet <| listenerHostnames.flatMap fun
    | none => if routeHostnames.isEmpty then ["*"] else routeHostnames.map Text.toAsciiLowercase
    | some lh =>
      if routeHostnames.isEmpty then [Text.toAsciiLowercase lh]
      else routeHostnames.filterMap (intersectHostnames lh)

def ownerGateway (pr : ParentRefState) : NamespacedName :=
  match pr.parentKind with
  | .gateway => pr.parentKey
  | .listenerSet => ((store.listenerSets.lookup pr.parentKey).map (·.parentGateway)).getD pr.parentKey

def parentListeners (pr : ParentRefState) : List ListenerState :=
  match pr.parentKind with
  | .gateway => ((store.gateways.lookup pr.parentKey).map (·.listeners)).getD []
  | .listenerSet =>
    match store.listenerSets.lookup pr.parentKey with
    | some ls => if ls.accepted then ls.listeners else []
    | none => []

/-- The namespace that `namespaces.from: Same` means for a parent. -/
def parentNamespace (pr : ParentRefState) : String :=
  match pr.parentKind with
  | .gateway => pr.gatewayNamespace
  | .listenerSet =>
    ((store.listenerSets.lookup pr.parentKey).map (·.namespaceName)).getD pr.gatewayNamespace

def attaches (routeNamespace : String) (pr : ParentRefState) (l : ListenerState) : Bool :=
  l.accepted && (l.protocol == "HTTP" || l.protocol == "HTTPS") &&
    (pr.sectionName.isNone || pr.sectionName == some l.name) &&
    (pr.port.isNone || pr.port == some l.port) &&
    namespaceAllowed l.allowedRoutes routeNamespace (parentNamespace store pr)
      ((store.namespaceLabels.lookup routeNamespace).getD ∅)

def Names (pr : ParentRefState) (l : ListenerState) : Prop :=
  (pr.sectionName = none ∨ pr.sectionName = some l.name) ∧ (pr.port = none ∨ pr.port = some l.port)

/-- A listener a route is emitted for, with the hosts it serves there. -/
structure Binding where
  parentRef : ParentRefState
  listener : ListenerState
  hosts : List String
deriving DecidableEq

def Binding.listenerName (b : Binding) : String := b.parentRef.sectionName.getD b.listener.name

def Binding.listenerHostname (b : Binding) : String := b.listener.hostname.getD ""

def bindings (routeNamespace : String) (hostnames : List String)
    (parentRefs : List ParentRefState) : List Binding :=
  (parentRefs.filter (·.accepted)).flatMap fun pr =>
    ((parentListeners store pr).filter (attaches store routeNamespace pr)).filterMap fun l =>
      let hosts := computeEffectiveHostnamesInner [l.hostname] hostnames
      if hosts.isEmpty then none else some ⟨pr, l, hosts⟩

theorem mem_bindings {store : ConfigStore} : b ∈ bindings store ns hostnames parentRefs ↔
      b.parentRef ∈ parentRefs ∧ b.parentRef.accepted = true ∧
        b.listener ∈ parentListeners store b.parentRef ∧
        attaches store ns b.parentRef b.listener = true ∧
        b.hosts = computeEffectiveHostnamesInner [b.listener.hostname] hostnames ∧ b.hosts ≠ [] := by
  unfold bindings
  simp only [mem_flatMap, mem_filter, mem_filterMap]
  constructor
  · rintro ⟨pr, ⟨hpr, hac⟩, l, ⟨hl, hat⟩, h⟩
    split at h
    next => cases h
    next hne =>
      cases h
      exact ⟨hpr, hac, hl, hat, rfl, by simpa using hne⟩
  · rintro ⟨hpr, hac, hl, hat, hh, hne⟩
    refine ⟨_, ⟨hpr, hac⟩, _, ⟨hl, hat⟩, ?_⟩
    rw [← hh, if_neg (by simpa using hne)]

def gatewayRefsOf (parentRefs : List ParentRefState) : List (String × String × Option String) :=
  parentRefs.map fun pr => (pr.gatewayNamespace, pr.gatewayName, pr.sectionName)

/-- Marks an AIRoute among the HTTPRoutes. -/
def aiRouteKeyPrefix : String := "airoute/"

def providerRequestHeaders (p : AIProviderState) : List (String × String) :=
  let credential : Option (String × String) := do
    let cred ← p.credential
    let secret ← store.secrets.lookup ⟨p.namespaceName, cred.secretName⟩
    let value ← secret.data.lookup cred.secretKey
    pure (cred.header, cred.valuePrefix ++ Text.trim value)
  ("host", p.host) :: credential.toList

def aiRuleAsHttpRule (rule : AIRouteRuleState) : HTTPRouteRuleState :=
  let provider := store.aiProviders.lookup rule.provider
  let set :=
    match provider with
    | some p => if p.kind = "mcp-federation" then [] else providerRequestHeaders store p
    | none => []
  { matchEntries := rule.matchEntries
    filters := rule.filters ++
      (if set.isEmpty then [] else [HTTPFilterState.requestHeaderModifier [] set []])
    backendRefs := (provider.map fun p =>
      { namespaceName := p.namespaceName, name := p.serviceName, port := p.port }).toList }

def aiRoutesAsHttpRoutes : List (NamespacedName × HTTPRouteState) :=
  store.aiRoutes.pairs.map fun (key, ar) =>
    (⟨key.namespaceName, aiRouteKeyPrefix ++ key.name⟩,
      { namespaceName := ar.namespaceName
        hostnames := ar.hostnames
        parentRefs := ar.parentRefs
        rules := ar.rules.map (aiRuleAsHttpRule store) })

def httpRoutesOf : List (NamespacedName × HTTPRouteState) :=
  store.httpRoutes.pairs ++ aiRoutesAsHttpRoutes store

def grantOk (kind routeNamespace backendNamespace backendName : String) :
    Bool :=
  backendNamespace == routeNamespace ||
    isReferenceAllowed store.referenceGrants routeNamespace kind backendNamespace "Service"
      (some backendName)

/-- Empty the backend of a configuration whose cross-namespace grant is gone. The namespace is
that of the first `backendRef` with the configuration's name and port. -/
def revokeGrant (hr : HTTPRouteState) (rule : HTTPRouteRuleState)
    (rc : RouteConfig) : RouteConfig :=
  if rc.serviceName.isEmpty then rc
  else
    let backendNs := ((rule.backendRefs.find? fun b =>
      b.name == rc.serviceName && b.port.toUInt32 == rc.port).map (·.namespaceName)).getD
        hr.namespaceName
    if grantOk store "HTTPRoute" hr.namespaceName backendNs rc.serviceName then rc
    else { rc with serviceName := "", port := 0 }

/-- The source of a configuration: an AIRoute travels under a marked name. -/
def httpSource (key : NamespacedName) (hr : HTTPRouteState) : RouteSource :=
  match Text.stripPrefix aiRouteKeyPrefix key.name with
  | some aiName => ⟨"AIRoute", key.namespaceName, aiName, gatewayRefsOf hr.parentRefs⟩
  | none => ⟨"HTTPRoute", key.namespaceName, key.name, gatewayRefsOf hr.parentRefs⟩

/-- The configurations of a rule on a listener, before they are copied for each host. -/
def baseConfigs (b : Binding) (rule : HTTPRouteRuleState) :
    List RouteConfig :=
  let owner := ownerGateway store b.parentRef
  (compileHttpRule rule (b.hosts.head?.getD "*") b.listenerName b.listener.port
    b.listenerHostname).map fun rc =>
      { rc with gatewayNamespace := owner.namespaceName, gatewayName := owner.name }

def httpRuleEmissions (key : NamespacedName) (hr : HTTPRouteState)
    (b : Binding) (rule : HTTPRouteRuleState) : List Emission :=
  b.hosts.flatMap fun host =>
    (baseConfigs store b rule).map fun rc =>
      ⟨revokeGrant store hr rule { rc with host := host }, httpSource key hr⟩

def httpBindings (hr : HTTPRouteState) : List Binding :=
  bindings store hr.namespaceName hr.hostnames hr.parentRefs

def httpEmissions (key : NamespacedName) (hr : HTTPRouteState) :
    List Emission :=
  (httpBindings store hr).flatMap fun b => hr.rules.flatMap (httpRuleEmissions store key hr b)

def grpcPaths (m : GrpcRouteMatch) : List PathRule :=
  let path :=
    if !m.service.isEmpty && !m.method.isEmpty then "/" ++ m.service ++ "/" ++ m.method
    else if !m.service.isEmpty then "/" ++ m.service
    else "/"
  [⟨path, "Prefix"⟩]

def grpcWeightedBackendsOf (rule : GRPCRouteRuleState) : List WeightedBackend :=
  if 1 < rule.backendRefs.length || rule.backendRefs.any (·.weight != 1) then
    rule.backendRefs.map fun b => ⟨b.name, b.port.toUInt32, b.weight, none⟩
  else []

/-- The backend a gRPC rule names: the first of several, none, or the single one while its
grant stands. -/
def grpcPrimary (gr : GRPCRouteState) (rule : GRPCRouteRuleState) : String × UInt32 :=
  match rule.backendRefs with
  | [] => ("", 0)
  | b :: _ =>
    if !(grpcWeightedBackendsOf rule).isEmpty ||
        grantOk store "GRPCRoute" gr.namespaceName b.namespaceName b.name then
      (b.name, b.port.toUInt32)
    else ("", 0)

def grpcRuleEmissions (key : NamespacedName) (gr : GRPCRouteState)
    (b : Binding) (rule : GRPCRouteRuleState) : List Emission :=
  let owner := ownerGateway store b.parentRef
  (orMatchAll rule.matchEntries).flatMap fun entry =>
    let grpcMatch := entry.map fun m =>
      GrpcRouteMatch.mk (m.service.getD "") (m.method.getD "") m.matchType
    b.hosts.map fun host =>
      { route :=
          { host := host
            paths := (grpcMatch.map grpcPaths).getD []
            serviceName := (grpcPrimary store gr rule).1
            port := (grpcPrimary store gr rule).2
            protocol := "GRPC"
            grpcMatch := grpcMatch
            headerMatches := (entry.map fun m => headerMatchesOf m.headers).getD []
            listenerName := b.listenerName
            listenerPort := b.listener.port.toUInt32
            listenerHostname := b.listenerHostname
            gatewayNamespace := owner.namespaceName
            gatewayName := owner.name
            weightedBackends := grpcWeightedBackendsOf rule }
        source := ⟨"GRPCRoute", key.namespaceName, key.name, gatewayRefsOf gr.parentRefs⟩ }

def grpcBindings (gr : GRPCRouteState) : List Binding :=
  bindings store gr.namespaceName gr.hostnames gr.parentRefs

def grpcEmissions (key : NamespacedName) (gr : GRPCRouteState) :
    List Emission :=
  (grpcBindings store gr).flatMap fun b => gr.rules.flatMap (grpcRuleEmissions store key gr b)

def emissions : List Emission :=
  ((httpRoutesOf store).flatMap fun (key, hr) => httpEmissions store key hr) ++
    store.grpcRoutes.pairs.flatMap fun (key, gr) => grpcEmissions store key gr

end Portus.Compiler

import Portus.Reconcilers.Objects
import Portus.Reconcilers.References
import Portus.Reconcilers.RouteMatches

/-!
# Reconciling routes

The route reconcilers. Each looks its `parentRefs` up in the store and marks the ones it
accepts, converts its rules, and stores the route, or removes it when it names no Gateway
or ListenerSet of this controller. The kinds check a listener differently: an HTTPRoute
does not ask whether the listener is accepted, a GRPCRoute asks for nothing but the
protocol and the section, a TLSRoute for no port.
-/

namespace Portus.Reconcilers

open Portus Lib

variable (store : ConfigStore)

structure ParentReference where
  group : Option String := none
  kind : Option String := none
  namespaceName : Option String := none
  name : String
  sectionName : Option String := none
  port : Option UInt16 := none

structure RouteBackendRef where
  group : Option String := none
  kind : Option String := none
  name : String
  namespaceName : Option String := none
  port : Option UInt16 := none
  weight : Option UInt32 := none
  filters : List HTTPFilterState := []

structure HTTPRouteRule where
  specMatches : List HTTPRouteMatch := []
  filters : List HTTPFilterState := []
  backendRefs : List RouteBackendRef := []
  requestTimeoutMs : Option UInt64 := none
  backendRequestTimeoutMs : Option UInt64 := none
  retry : Option RouteRetryState := none

structure HTTPRoute where
  metadata : ObjectMeta
  hostnames : List String := []
  parentRefs : List ParentReference := []
  rules : List HTTPRouteRule := []

structure GRPCRouteRule where
  specMatches : List GRPCRouteMatch := []
  backendRefs : List RouteBackendRef := []

structure GRPCRoute where
  metadata : ObjectMeta
  hostnames : List String := []
  parentRefs : List ParentReference := []
  rules : List GRPCRouteRule := []

/-- A TLSRoute, a TCPRoute or a UDPRoute; the last two have no hostnames. A rule is its
`backendRefs`. -/
structure StreamRoute where
  metadata : ObjectMeta
  hostnames : List String := []
  parentRefs : List ParentReference := []
  rules : List (List RouteBackendRef) := []

structure BoundParent where
  ref : ParentRefState
  resolvedRefs : Bool
  rejectReason : Option String
deriving DecidableEq

def ParentReference.state (pref : ParentReference) (parentKind : ParentKind)
    (routeNamespace : String) (accepted : Bool) : ParentRefState :=
  { parentKind
    gatewayNamespace := pref.namespaceName.getD routeNamespace
    gatewayName := pref.name
    sectionName := pref.sectionName
    port := pref.port
    accepted }

def ParentReference.key (pref : ParentReference) (routeNamespace : String) : NamespacedName :=
  ⟨pref.namespaceName.getD routeNamespace, pref.name⟩

/-- The kind of parent an HTTPRoute or an AIRoute takes a reference for. -/
def ParentReference.parentKind (pref : ParentReference) : Option ParentKind :=
  if pref.group.getD gatewayApiGroup ≠ gatewayApiGroup then none
  else
    match pref.kind.getD "Gateway" with
    | "Gateway" => some .gateway
    | "ListenerSet" => some .listenerSet
    | _ => none

def hostnamesCompatible (listenerHostname : Option String) (routeHostnames : List String) : Bool :=
  match listenerHostname with
  | none => true
  | some lh => routeHostnames.isEmpty || routeHostnames.any (hostnameMatches lh)

def portMatches (pref : ParentReference) (l : ListenerState) : Bool :=
  pref.port.isNone || pref.port == some l.port

def speaksHttp (l : ListenerState) : Bool := l.protocol == "HTTP" || l.protocol == "HTTPS"

section Http

variable (store : ConfigStore) (routeNamespace : String) (labels : Table String String)
  (hostnames : List String)

def httpListenerFits (parentNamespace : String) (pref : ParentReference) (l : ListenerState) :
    Bool :=
  portMatches pref l && speaksHttp l && hostnamesCompatible l.hostname hostnames &&
    namespaceAllowed l.allowedRoutes routeNamespace parentNamespace labels

/-- Bind an HTTPRoute to one of some listeners of a parent, or say why none fits. -/
def bindToChecked (parentKind : ParentKind) (parentNamespace : String) (pref : ParentReference)
    (toCheck : List ListenerState) : BoundParent :=
  let reject (reason : String) : BoundParent :=
    ⟨pref.state parentKind routeNamespace false, true, some reason⟩
  if pref.port.isSome && !toCheck.any (portMatches pref) then reject "NoMatchingParent"
  else if toCheck.any (httpListenerFits routeNamespace labels hostnames parentNamespace pref) then
    ⟨pref.state parentKind routeNamespace true, true, none⟩
  else
    let protocolMatch := toCheck.filter fun l => portMatches pref l && speaksHttp l
    if !protocolMatch.isEmpty &&
        !protocolMatch.any fun l => hostnamesCompatible l.hostname hostnames then
      reject "NoMatchingListenerHostname"
    else reject "NotAllowedByListeners"

/-- Bind an HTTPRoute to the listeners of a parent. Of the listeners with the name of the section
only the first is looked at. -/
def bindToListeners (parentKind : ParentKind) (parentNamespace : String)
    (listeners : List ListenerState) (pref : ParentReference) : BoundParent :=
  let check := bindToChecked routeNamespace labels hostnames parentKind parentNamespace pref
  match pref.sectionName with
  | none => check listeners
  | some section_ =>
    match listeners.find? (·.name == section_) with
    | some l => check [l]
    | none => ⟨pref.state parentKind routeNamespace false, true, some "NoMatchingParent"⟩

/-- Bind an HTTPRoute to a parent; a reference of another group or kind is skipped. -/
def bindToParent (pref : ParentReference) : Option BoundParent :=
  pref.parentKind.map fun
    | .gateway =>
      match store.gateways.lookup (pref.key routeNamespace) with
      | none => ⟨pref.state .gateway routeNamespace false, false, some "NoMatchingParent"⟩
      | some gw =>
        bindToListeners routeNamespace labels hostnames .gateway gw.namespaceName gw.listeners pref
    | .listenerSet =>
      match store.listenerSets.lookup (pref.key routeNamespace) with
      | none => ⟨pref.state .listenerSet routeNamespace false, false, some "NoMatchingParent"⟩
      | some ls =>
        if !ls.accepted then
          ⟨pref.state .listenerSet routeNamespace false, true,
            some (ls.notAcceptedReason.getD "NotAllowed")⟩
        else
          bindToListeners routeNamespace labels hostnames .listenerSet ls.namespaceName ls.listeners
            pref

def bindToParents (parentRefs : List ParentReference) : List BoundParent :=
  parentRefs.filterMap (bindToParent store routeNamespace labels hostnames)

end Http

theorem exists_ref_bindToListeners :
    ∃ accepted, (bindToListeners ns labels hostnames kind parentNs listeners pref).ref =
      pref.state kind ns accepted := by
  have hc (toCheck : List ListenerState) : ∃ accepted,
      (bindToChecked ns labels hostnames kind parentNs pref toCheck).ref =
        pref.state kind ns accepted := by
    unfold bindToChecked
    dsimp only
    split_ifs <;> exact ⟨_, rfl⟩
  unfold bindToListeners
  split
  · exact hc _
  · split
    · exact hc _
    · exact ⟨_, rfl⟩

/-- Bind a GRPCRoute to a parent: an accepted HTTP listener of the section is enough. -/
def bindGrpcToParent (routeNamespace : String) (pref : ParentReference) : Option BoundParent :=
  let group := pref.group.getD gatewayApiGroup
  if group ≠ gatewayApiGroup ∧ group ≠ "" then none
  else if pref.kind.getD "Gateway" ≠ "Gateway" then none
  else
    let accepted :=
      match store.gateways.lookup (pref.key routeNamespace) with
      | some gw => gw.listeners.any fun l =>
        speaksHttp l && (pref.sectionName.isNone || pref.sectionName == some l.name) && l.accepted
      | none => false
    some ⟨pref.state .gateway routeNamespace accepted, true, none⟩

def bindGrpcToParents (routeNamespace : String)
    (parentRefs : List ParentReference) : List BoundParent :=
  parentRefs.filterMap (bindGrpcToParent store routeNamespace)

/-- Whether a TLSRoute may bind to a listener; selectors are matched against no labels. -/
def tlsListenerFits (routeNamespace : String) (hostnames : List String) (parentNamespace : String)
    (l : ListenerState) : Bool :=
  l.protocol == "TLS" && hostnamesCompatible l.hostname hostnames &&
    namespaceAllowed l.allowedRoutes routeNamespace parentNamespace ∅ && l.accepted

/-- Bind a TLSRoute to a Gateway. The port of the reference is not looked at. -/
def bindTlsToParent (routeNamespace : String) (hostnames : List String)
    (pref : ParentReference) : Option BoundParent :=
  if pref.group.getD gatewayApiGroup ≠ gatewayApiGroup ∨ pref.kind.getD "Gateway" ≠ "Gateway" then
    none
  else
    some <|
      match store.gateways.lookup (pref.key routeNamespace) with
      | none => ⟨pref.state .gateway routeNamespace false, false, some "NoMatchingParent"⟩
      | some gw =>
        let reject (reason : String) : BoundParent :=
          ⟨pref.state .gateway routeNamespace false, true, some reason⟩
        let toCheck := gw.listeners.filter fun l =>
          pref.sectionName.isNone || pref.sectionName == some l.name
        if pref.sectionName.isSome && toCheck.isEmpty then reject "NoMatchingParent"
        else if toCheck.any (tlsListenerFits routeNamespace hostnames gw.namespaceName) then
          ⟨pref.state .gateway routeNamespace true, true, none⟩
        else
          let protocolMatch := toCheck.filter (·.protocol == "TLS")
          if !protocolMatch.isEmpty &&
              !protocolMatch.any fun l => hostnamesCompatible l.hostname hostnames then
            reject "NoMatchingListenerHostname"
          else reject "NotAllowedByListeners"

def bindTlsToParents (routeNamespace : String) (hostnames : List String)
    (parentRefs : List ParentReference) : List BoundParent :=
  parentRefs.filterMap (bindTlsToParent store routeNamespace hostnames)

def l4ListenerFits (protocol routeNamespace : String) (labels : Table String String)
    (parentNamespace : String) (l : ListenerState) : Bool :=
  l.protocol == protocol && namespaceAllowed l.allowedRoutes routeNamespace parentNamespace labels

def bindL4ToParent (protocol routeNamespace : String)
    (labels : Table String String) (pref : ParentReference) : Option BoundParent :=
  if pref.group.getD gatewayApiGroup ≠ gatewayApiGroup ∨ pref.kind.getD "Gateway" ≠ "Gateway" then
    none
  else
    some <|
      match store.gateways.lookup (pref.key routeNamespace) with
      | none => ⟨pref.state .gateway routeNamespace false, false, none⟩
      | some gw =>
        let reject (reason : String) : BoundParent :=
          ⟨pref.state .gateway routeNamespace false, true, some reason⟩
        let candidates := gw.listeners.filter fun l =>
          (pref.sectionName.isNone || pref.sectionName == some l.name) && portMatches pref l
        let fits := l4ListenerFits protocol routeNamespace labels gw.namespaceName
        if candidates.isEmpty then reject "NoMatchingParent"
        else if !candidates.any (·.protocol == protocol) then reject "NotAllowedByListeners"
        else if !candidates.any fits then reject "NotAllowedByListeners"
        else if candidates.any fun l => l.accepted && fits l then
          ⟨pref.state .gateway routeNamespace true, true, none⟩
        else reject "NoMatchingParent"

def bindL4ToParents (protocol routeNamespace : String)
    (labels : Table String String) (parentRefs : List ParentReference) : List BoundParent :=
  parentRefs.filterMap (bindL4ToParent store protocol routeNamespace labels)

inductive RefProblem where
  | invalidKind
  | refNotPermitted
  | backendNotFound
deriving DecidableEq

/-- What a route kind checks of its backend references. -/
structure BackendChecks where
  routeKind : String
  checksGroup : Bool
  checksKind : Bool
  checksService : Bool

def httpChecks : BackendChecks := ⟨"HTTPRoute", true, true, true⟩
def grpcChecks : BackendChecks := ⟨"GRPCRoute", false, true, false⟩
def tlsChecks : BackendChecks := ⟨"TLSRoute", true, true, true⟩
def tcpChecks : BackendChecks := ⟨"TCPRoute", false, false, true⟩
def udpChecks : BackendChecks := ⟨"UDPRoute", false, false, true⟩

section Backends

variable (store : ConfigStore) (checks : BackendChecks) (routeNamespace : String)

def serviceExists (namespaceName name : String) : Bool :=
  (store.servicePortMap.keys ++ store.endpoints.keys).any fun key =>
    key.namespaceName == namespaceName && key.name == name

def refProblem (bref : RouteBackendRef) : Option RefProblem :=
  let ns := bref.namespaceName.getD routeNamespace
  if (checks.checksGroup && !(bref.group.getD "").isEmpty) ||
      (checks.checksKind && bref.kind.getD "Service" != "Service") then
    some .invalidKind
  else if ns ≠ routeNamespace ∧ !isReferenceAllowed store.referenceGrants routeNamespace
      checks.routeKind ns "Service" (some bref.name) then
    some .refNotPermitted
  else if checks.checksService && !serviceExists store ns bref.name then some .backendNotFound
  else none

def RouteBackendRef.state (bref : RouteBackendRef) : BackendRefState :=
  { namespaceName := bref.namespaceName.getD routeNamespace
    name := bref.name
    port := bref.port.getD 0
    weight := bref.weight.getD 1
    filters := bref.filters }

/-- The references that are kept, and why the route is not resolved: an invalid kind, or what
came first. A Service that is not there is kept. -/
def resolveBackendRefs (backendRefs : List RouteBackendRef) :
    List BackendRefState × Option RefProblem :=
  let problems := backendRefs.filterMap (refProblem store checks routeNamespace)
  ((backendRefs.filter fun bref =>
      refProblem store checks routeNamespace bref ∉
        [some RefProblem.invalidKind, some RefProblem.refNotPermitted]).map
        (RouteBackendRef.state routeNamespace),
    if RefProblem.invalidKind ∈ problems then some .invalidKind else problems.head?)

end Backends

/-- The key of an object with what is missing left empty. -/
def ObjectMeta.looseKey (metadata : ObjectMeta) : NamespacedName :=
  ⟨metadata.namespaceName.getD "", metadata.name.getD ""⟩

def parentKnown (pr : ParentRefState) : Bool :=
  match pr.parentKind with
  | .gateway => (store.gateways.lookup pr.parentKey).isSome
  | .listenerSet => (store.listenerSets.lookup pr.parentKey).isSome

def anyParentKnown (parents : List BoundParent) : Bool :=
  parents.any fun p => parentKnown store p.ref

def storeRoute {σ : Type} (store : ConfigStore) (parents : List BoundParent) (key : NamespacedName)
    (state : σ) (table : Table NamespacedName σ) : Table NamespacedName σ :=
  if anyParentKnown store parents then table.insert key state else table.erase key

theorem lookup_storeRoute (store : ConfigStore) (parents : List BoundParent) (key : NamespacedName)
    (state : σ) (table : Table NamespacedName σ) :
    (storeRoute store parents key state table).lookup key =
      if anyParentKnown store parents then some state else none := by
  unfold storeRoute
  split
  · exact AList.lookup_insert _
  · exact AList.lookup_erase _ _

def namespaceLabelsOf (namespaceName : String) : Table String String :=
  (store.namespaceLabels.lookup namespaceName).getD ∅

section Reconcile

variable (regexBuilds : String → Bool) (store : ConfigStore)

def httpRuleState (routeNamespace : String) (rule : HTTPRouteRule) : HTTPRouteRuleState where
  matchEntries := (convertMatches regexBuilds rule.specMatches).1
  filters := rule.filters
  backendRefs := (resolveBackendRefs store httpChecks routeNamespace rule.backendRefs).1
  requestTimeoutMs := rule.requestTimeoutMs
  backendRequestTimeoutMs := rule.backendRequestTimeoutMs
  retry := rule.retry

def httpParents (namespaceName : String) (route : HTTPRoute) : List BoundParent :=
  bindToParents store namespaceName (namespaceLabelsOf store namespaceName) route.hostnames
    route.parentRefs

def httpRouteState (namespaceName : String) (route : HTTPRoute) : HTTPRouteState where
  namespaceName
  hostnames := route.hostnames
  parentRefs := (httpParents store namespaceName route).map (·.ref)
  rules := route.rules.map (httpRuleState regexBuilds store namespaceName)

def reconcileHttpRoute (route : HTTPRoute) : Except ReconcileError ConfigStore := do
  let key ← route.metadata.key
  if route.metadata.deletionTimestamp.isSome then
    pure { store with httpRoutes := store.httpRoutes.erase key }
  else
    pure { store with
      httpRoutes := storeRoute store (httpParents store key.namespaceName route) key
        (httpRouteState regexBuilds store key.namespaceName route) store.httpRoutes }

def grpcParents (namespaceName : String) (route : GRPCRoute) : List BoundParent :=
  bindGrpcToParents store namespaceName route.parentRefs

def grpcRuleState (routeNamespace : String) (rule : GRPCRouteRule) : GRPCRouteRuleState where
  matchEntries := convertGrpcMatches rule.specMatches
  backendRefs := (resolveBackendRefs store grpcChecks routeNamespace rule.backendRefs).1

def grpcRouteState (namespaceName : String) (route : GRPCRoute) : GRPCRouteState where
  namespaceName
  hostnames := route.hostnames
  parentRefs := (grpcParents store namespaceName route).map (·.ref)
  rules := route.rules.map (grpcRuleState store namespaceName)

def reconcileGrpcRoute (route : GRPCRoute) : Except ReconcileError ConfigStore :=
  if route.metadata.deletionTimestamp.isSome then
    .ok { store with grpcRoutes := store.grpcRoutes.erase route.metadata.looseKey }
  else do
    let key ← route.metadata.key
    pure { store with
      grpcRoutes := storeRoute store (grpcParents store key.namespaceName route) key
        (grpcRouteState store key.namespaceName route) store.grpcRoutes }

def tlsParents (namespaceName : String) (route : StreamRoute) : List BoundParent :=
  bindTlsToParents store namespaceName route.hostnames route.parentRefs

/-- Only the first rule of a TLSRoute is read. -/
def tlsRouteState (namespaceName : String) (route : StreamRoute) : TLSRouteState where
  namespaceName
  hostnames := route.hostnames
  parentRefs := (tlsParents store namespaceName route).map (·.ref)
  backendRefs := (resolveBackendRefs store tlsChecks namespaceName (route.rules.head?.getD [])).1

def reconcileTlsRoute (route : StreamRoute) : Except ReconcileError ConfigStore :=
  if route.metadata.deletionTimestamp.isSome then
    .ok { store with tlsRoutes := store.tlsRoutes.erase route.metadata.looseKey }
  else do
    let key ← route.metadata.key
    pure { store with
      tlsRoutes := storeRoute store (tlsParents store key.namespaceName route) key
        (tlsRouteState store key.namespaceName route) store.tlsRoutes }

def l4Parents (protocol namespaceName : String) (route : StreamRoute) : List BoundParent :=
  bindL4ToParents store protocol namespaceName (namespaceLabelsOf store namespaceName)
    route.parentRefs

/-- Only the first rule of a TCPRoute or a UDPRoute is read. -/
def l4RouteState (checks : BackendChecks) (protocol namespaceName : String) (route : StreamRoute) :
    L4RouteState where
  namespaceName
  parentRefs := (l4Parents store protocol namespaceName route).map (·.ref)
  backendRefs := (resolveBackendRefs store checks namespaceName (route.rules.head?.getD [])).1
  creationTimestamp := route.metadata.creationTimestamp

def reconcileL4Route (checks : BackendChecks) (protocol : String)
    (table : Table NamespacedName L4RouteState) (route : StreamRoute) :
    Except ReconcileError (Table NamespacedName L4RouteState) :=
  if route.metadata.deletionTimestamp.isSome then
    .ok (table.erase route.metadata.looseKey)
  else do
    let key ← route.metadata.key
    pure (storeRoute store (l4Parents store protocol key.namespaceName route) key
      (l4RouteState store checks protocol key.namespaceName route) table)

def reconcileTcpRoute (route : StreamRoute) : Except ReconcileError ConfigStore := do
  let table ← reconcileL4Route store tcpChecks "TCP" store.tcpRoutes route
  pure { store with tcpRoutes := table }

def reconcileUdpRoute (route : StreamRoute) : Except ReconcileError ConfigStore := do
  let table ← reconcileL4Route store udpChecks "UDP" store.udpRoutes route
  pure { store with udpRoutes := table }

end Reconcile

end Portus.Reconcilers

import Mathlib.Data.List.Destutter
import Portus.Reconcilers.ListenerSets
import Portus.Reconcilers.PolicyKinds
import Portus.Reconcilers.RouteStatus

/-!
# Dependency triggers

`triggers.rs`: a reconciler that has written the store publishes an `Event`, and every
controller maps it to those of its own objects whose reconcile must run. The mappings see
the event and the objects of the controller, and only for a route event the store.
-/

namespace Portus.Triggers

open Portus Reconcilers

inductive PolicyKindName where
  | rateLimit
  | circuitBreaker
  | connection
  | basicAuth
  | apiKeyAuth
  | jwtAuth
  | extAuth
  | retry
  | ipAllowlist
  | requestBodySizeLimit
  | healthCheck
  | cors
  | timeout
  | aiUsage
  | backendTls
deriving DecidableEq

inductive Event where
  | gatewayClass (name : String)
  | gateway (key : NamespacedName)
  | listenerSet (key parent : NamespacedName)
  | route (parents : List (ParentKind × NamespacedName))
  | referenceGrant (namespaceName : String)
  | service (key : NamespacedName)
  | namespaceLabels (name : String)
  | policy (kind : PolicyKindName) (key : NamespacedName) (target : PolicyTargetKey)
  | programmed (gateway : NamespacedName)

/-- What every route kind exposes; the backend references are those of all rules. -/
class RouteRefs (K : Type) where
  metadata : K → ObjectMeta
  parentRefs : K → List ParentReference
  backendRefs : K → List RouteBackendRef

instance : RouteRefs HTTPRoute where
  metadata := HTTPRoute.metadata
  parentRefs := HTTPRoute.parentRefs
  backendRefs route := route.rules.flatMap (·.backendRefs)

instance : RouteRefs GRPCRoute where
  metadata := GRPCRoute.metadata
  parentRefs := GRPCRoute.parentRefs
  backendRefs route := route.rules.flatMap (·.backendRefs)

instance : RouteRefs StreamRoute where
  metadata := StreamRoute.metadata
  parentRefs := StreamRoute.parentRefs
  backendRefs route := route.rules.flatten

section Routes

variable {K : Type} [RouteRefs K]

def routeNamespace (route : K) : String := (RouteRefs.metadata route).namespaceName.getD ""

def parents (route : K) : List (ParentKind × NamespacedName) :=
  (RouteRefs.parentRefs route).map (·.parentKey (routeNamespace route))

/-- A reference without a namespace is in the route's. -/
def backendServices (route : K) : List NamespacedName :=
  (RouteRefs.backendRefs route).map fun bref =>
    ⟨bref.namespaceName.getD (routeNamespace route), bref.name⟩

def routeAffected (event : Event) (route : K) : Bool :=
  match event with
  | .gateway gw => (parents route).contains (.gateway, gw)
  | .listenerSet key _ => (parents route).contains (.listenerSet, key)
  | .service svc => (backendServices route).contains svc
  | .referenceGrant ns => (backendServices route).any fun svc =>
      svc.namespaceName != routeNamespace route && svc.namespaceName == ns
  | .namespaceLabels name => routeNamespace route == name
  | .gatewayClass _ | .route _ | .policy _ _ _ | .programmed _ => false

def routesFor (event : Event) (routes : List K) : List NamespacedName :=
  (routes.filter (routeAffected event)).map fun route => (RouteRefs.metadata route).looseKey

end Routes

def gatewayReferencesNamespace (gw : Gateway) (ns : String) : Bool :=
  let listenerRefs := (gw.spec.listeners.flatMap fun l => l.tls.toList).flatMap (·.certificateRefs)
  let backendRef := (gw.spec.tls.bind (·.backend)).bind (·.clientCertificateRef)
  let frontendConfigs := (gw.spec.tls.bind (·.frontend)).toList.flatMap fun f =>
    f.defaultConfig :: f.perPort.map (·.tls)
  let frontendRefs := (frontendConfigs.flatMap fun c => c.validation.toList).flatMap
    (·.caCertificateRefs)
  listenerRefs.any (·.namespaceName == some ns) ||
    backendRef.any (·.namespaceName == some ns) ||
    frontendRefs.any (·.namespaceName == some ns)

def gatewayUsesSelectors (gw : Gateway) : Bool :=
  gw.spec.listeners.any (fun l =>
      ((l.allowedRoutes.bind (·.namespaces)).bind (·.namespacesFrom)) == some "Selector") ||
    (gw.spec.allowedListeners.bind (·.namespaces)).bind (·.namespacesFrom) == some "Selector"

def keyLe (a b : NamespacedName) : Prop :=
  a.namespaceName < b.namespaceName ∨ (a.namespaceName = b.namespaceName ∧ a.name ≤ b.name)

instance : DecidableRel keyLe := fun _ _ => inferInstanceAs (Decidable (_ ∨ _))

/-- The Gateways to reconcile; a route's ListenerSet stands for the Gateway the store has for
it. -/
def gatewaysFor (event : Event) (gateways : List Gateway) (store : ConfigStore) :
    List NamespacedName :=
  let listed (affected : Gateway → Bool) : List NamespacedName :=
    (gateways.filter affected).map (·.metadata.looseKey)
  match event with
  | .gatewayClass name => listed fun gw => gw.spec.gatewayClassName == name
  | .programmed gw => [gw]
  | .listenerSet _ parent => [parent]
  | .route parents =>
    let keys := parents.filterMap fun
      | (.gateway, key) => some key
      | (.listenerSet, key) => (store.listenerSets.lookup key).map (·.parentGateway)
    (keys.insertionSort keyLe).destutter (· ≠ ·)
  | .referenceGrant ns => listed (gatewayReferencesNamespace · ns)
  | .namespaceLabels _ => listed gatewayUsesSelectors
  | .gateway _ | .service _ | .policy _ _ _ => []

def listenerSetParent (ls : ListenerSet) : NamespacedName :=
  ⟨(ls.spec.parentRef.namespaceName.or ls.metadata.namespaceName).getD "", ls.spec.parentRef.name⟩

def listenerSetAffected (event : Event) (ls : ListenerSet) : Bool :=
  match event with
  | .gateway gw | .programmed gw => listenerSetParent ls == gw
  | .listenerSet key parent => listenerSetParent ls == parent && ls.metadata.looseKey != key
  | .route parents => parents.contains (.listenerSet, ls.metadata.looseKey)
  | .namespaceLabels _ => true
  | .gatewayClass _ | .referenceGrant _ | .service _ | .policy _ _ _ => false

def listenerSetsFor (event : Event) (sets : List ListenerSet) : List NamespacedName :=
  (sets.filter (listenerSetAffected event)).map (·.metadata.looseKey)

class PolicyRefs (α : Type) where
  kind : PolicyKindName
  targetRef : α → PolicyTargetRef

instance : PolicyRefs BasicAuthPolicySpec := ⟨.basicAuth, BasicAuthPolicySpec.targetRef⟩

instance : PolicyRefs APIKeyAuthPolicySpec := ⟨.apiKeyAuth, APIKeyAuthPolicySpec.targetRef⟩

instance : PolicyRefs ExtAuthPolicySpec := ⟨.extAuth, ExtAuthPolicySpec.targetRef⟩

section Policies

variable {α : Type} [PolicyRefs α]

def policyTarget (policy : PolicyObject α) : PolicyTargetKey :=
  (PolicyRefs.targetRef policy.spec).targetKey (policy.metadata.namespaceName.getD "")

/-- The policy that publishes is not told of itself. -/
def policyAffected (event : Event) (policy : PolicyObject α) : Bool :=
  match event with
  | .programmed _ => true
  | .policy kind key target =>
    kind == PolicyRefs.kind α && policy.metadata.looseKey != key && policyTarget policy == target
  | _ => false

def policiesFor (event : Event) (policies : List (PolicyObject α)) : List NamespacedName :=
  (policies.filter (policyAffected event)).map (·.metadata.looseKey)

end Policies

end Portus.Triggers

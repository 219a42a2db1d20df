import Portus.Store

/-!
# Kubernetes objects

What the reconcilers read of an object: its metadata, and the specs of a Gateway and a
ListenerSet (`gateway_types.rs`). A reconciler reports on an object with conditions;
the time of a condition's last change is not among what it decides, so it is left out.
-/

namespace Portus.Reconcilers

open Portus

structure ObjectMeta where
  name : Option String
  namespaceName : Option String
  creationTimestamp : Option Int := none
  generation : Option Int := none
  deletionTimestamp : Option Int := none

inductive ReconcileError where
  | missingField (field : String)
deriving DecidableEq

/-- The key of an object; both parts must be set. -/
def ObjectMeta.key (metadata : ObjectMeta) : Except ReconcileError NamespacedName :=
  match metadata.name, metadata.namespaceName with
  | none, _ => .error (.missingField "metadata.name")
  | some _, none => .error (.missingField "metadata.namespace")
  | some name, some ns => .ok ⟨ns, name⟩

structure Condition where
  conditionType : String
  status : Bool
  reason : String
  message : String
  observedGeneration : Int
deriving DecidableEq

structure SecretObjectReference where
  group : Option String := none
  kind : Option String := none
  name : String
  namespaceName : Option String := none

structure GatewayTLSConfig where
  mode : Option String := none
  certificateRefs : List SecretObjectReference := []

/-- The label selectors read only `matchLabels`. -/
structure LabelSelector where
  matchLabels : Option (List (String × String)) := none

/-- `namespaces` of `allowedRoutes` and of `allowedListeners`. -/
structure NamespaceRule where
  namespacesFrom : Option String := none
  selector : Option LabelSelector := none

structure RouteGroupKind where
  group : Option String := none
  kind : String

structure AllowedRoutes where
  namespaces : Option NamespaceRule := none
  kinds : List RouteGroupKind := []

/-- A listener as a Gateway or a ListenerSet specifies it. -/
structure ListenerSpec where
  name : String
  port : UInt16
  protocol : String
  hostname : Option String := none
  tls : Option GatewayTLSConfig := none
  allowedRoutes : Option AllowedRoutes := none

structure ObjectReference where
  group : String := ""
  kind : String := ""
  name : String
  namespaceName : Option String := none

/-- Client certificate validation: the trust anchors and how strictly they are enforced. -/
structure FrontendTLSValidation where
  caCertificateRefs : List ObjectReference := []
  mode : Option String := none

structure FrontendTLSListenerConfig where
  validation : Option FrontendTLSValidation := none

structure TLSPortConfig where
  port : UInt16
  tls : FrontendTLSListenerConfig := {}

structure FrontendTLSConfig where
  defaultConfig : FrontendTLSListenerConfig := {}
  perPort : List TLSPortConfig := []

structure GatewayBackendTLS where
  clientCertificateRef : Option SecretObjectReference := none

structure GatewayTLS where
  backend : Option GatewayBackendTLS := none
  frontend : Option FrontendTLSConfig := none

structure AllowedListeners where
  namespaces : Option NamespaceRule := none

structure GatewaySpec where
  gatewayClassName : String
  listeners : List ListenerSpec := []
  allowedListeners : Option AllowedListeners := none
  tls : Option GatewayTLS := none

structure Gateway where
  metadata : ObjectMeta
  spec : GatewaySpec

structure ParentGatewayReference where
  name : String
  namespaceName : Option String := none

structure ListenerSetSpec where
  parentRef : ParentGatewayReference
  listeners : List ListenerSpec := []

structure ListenerSet where
  metadata : ObjectMeta
  spec : ListenerSetSpec

end Portus.Reconcilers

import Portus.Lib.Table

/-!
# The controller's store

The reconciled state of the cluster as the controller keeps it (`store.rs`): one
table for each resource kind, filled by the reconcilers and read by the compiler.
A `DashMap` is a `Table`, whose entries stand in the order its iterator visits
them; a Kubernetes `Time` is an integer.
-/

namespace Portus

open Lib

structure NamespacedName where
  namespaceName : String
  name : String
deriving DecidableEq

def NamespacedName.display (n : NamespacedName) : String := n.namespaceName ++ "/" ++ n.name

structure ServiceKey where
  namespaceName : String
  name : String
  port : UInt16
deriving DecidableEq

structure PolicyTargetKey where
  group : String := "gateway.networking.k8s.io"
  kind : String
  namespaceName : String
  name : String
  sectionName : Option String := none
deriving DecidableEq

inductive ParentKind where
  | gateway
  | listenerSet
deriving DecidableEq

structure ParentRefState where
  parentKind : ParentKind := .gateway
  gatewayNamespace : String
  gatewayName : String
  sectionName : Option String := none
  port : Option UInt16 := none
  accepted : Bool := true
deriving DecidableEq

def ParentRefState.parentKey (p : ParentRefState) : NamespacedName :=
  ⟨p.gatewayNamespace, p.gatewayName⟩

structure AllowedRoutesState where
  namespacesFrom : String
  namespaceSelector : Option (List (String × String)) := none
deriving DecidableEq

structure ListenerState where
  name : String
  port : UInt16
  protocol : String
  hostname : Option String := none
  accepted : Bool := true
  conflicted : Bool := false
  resolvedRefs : Bool := true
  allowedRoutes : AllowedRoutesState := ⟨"All", none⟩
  tlsCertRefs : List (String × String) := []
  tlsMode : Option String := none
deriving DecidableEq

structure GatewayClassState where
  accepted : Bool

structure GatewayState where
  name : String
  namespaceName : String
  listeners : List ListenerState
  allowedListenerNamespacesFrom : Option String := none
  allowedListenerMatchLabels : List (String × String) := []
deriving DecidableEq

structure ListenerSetState where
  name : String
  namespaceName : String
  parentGateway : NamespacedName
  listeners : List ListenerState
  accepted : Bool
  notAcceptedReason : Option String := none
  creationTimestamp : Int := 0
deriving DecidableEq

/-- The trust anchors of a client validation block and how strictly they are enforced. -/
structure ClientValidationRefs where
  caConfigMaps : List NamespacedName
  mode : String
  refError : Option (String × String) := none
deriving DecidableEq

inductive ClientValidationOutcome where
  | valid (refs : ClientValidationRefs)
  | invalid (reason message : String)
deriving DecidableEq

structure GatewayTlsState where
  frontendDefault : Option ClientValidationOutcome := none
  frontendPerPort : Table UInt16 ClientValidationOutcome := ∅
  backendClientCertRef : Option NamespacedName := none

def GatewayTlsState.frontendValidationForPort (t : GatewayTlsState) (port : UInt16) :
    Option ClientValidationOutcome :=
  (t.frontendPerPort.lookup port).or t.frontendDefault

inductive HTTPFilterState where
  | requestHeaderModifier (add set : List (String × String)) (remove : List String)
  | responseHeaderModifier (add set : List (String × String)) (remove : List String)
  | requestRedirect (scheme hostname : Option String) (port : Option UInt16)
      (path pathType : Option String) (statusCode : UInt16)
  | urlRewrite (hostname path pathType : Option String)
  | requestMirror (backendNamespace backendName : String) (backendPort : UInt16) (percent : UInt32)
  | cors (allowOrigins allowMethods allowHeaders exposeHeaders : List String)
      (allowCredentials : Bool) (maxAge : Option UInt32)
deriving DecidableEq

structure BackendRefState where
  namespaceName : String
  name : String
  port : UInt16
  weight : UInt32 := 1
  filters : List HTTPFilterState := []
deriving DecidableEq

def BackendRefState.serviceKey (b : BackendRefState) : ServiceKey := ⟨b.namespaceName, b.name, b.port⟩

/-- One match entry; headers and query parameters are (name, value, match type). -/
structure HTTPRouteMatchState where
  path : Option (String × String) := none
  headers : List (String × String × String) := []
  method : Option String := none
  queryParams : List (String × String × String) := []
deriving DecidableEq

structure RouteRetryState where
  codes : List UInt16
  attempts : UInt32
deriving DecidableEq

structure HTTPRouteRuleState where
  matchEntries : List HTTPRouteMatchState := []
  filters : List HTTPFilterState := []
  backendRefs : List BackendRefState := []
  requestTimeoutMs : Option UInt64 := none
  backendRequestTimeoutMs : Option UInt64 := none
  retry : Option RouteRetryState := none
deriving DecidableEq

structure HTTPRouteState where
  namespaceName : String
  hostnames : List String := []
  parentRefs : List ParentRefState := []
  rules : List HTTPRouteRuleState := []
deriving DecidableEq

structure GRPCRouteMatchState where
  service : Option String := none
  method : Option String := none
  matchType : String := "Exact"
  headers : List (String × String × String) := []

structure GRPCRouteRuleState where
  matchEntries : List GRPCRouteMatchState := []
  backendRefs : List BackendRefState := []

structure GRPCRouteState where
  namespaceName : String
  hostnames : List String := []
  parentRefs : List ParentRefState := []
  rules : List GRPCRouteRuleState := []

structure TLSRouteState where
  namespaceName : String
  hostnames : List String := []
  parentRefs : List ParentRefState := []
  backendRefs : List BackendRefState := []

structure L4RouteState where
  namespaceName : String
  parentRefs : List ParentRefState := []
  backendRefs : List BackendRefState := []
  creationTimestamp : Option Int := none

structure AICredentialState where
  secretName : String
  secretKey : String
  header : String
  valuePrefix : String

structure AIFederationMember where
  name : String
  provider : String
  path : String

structure AIProviderState where
  namespaceName : String
  name : String
  kind : String
  tls : Bool
  host : String
  port : UInt16
  credential : Option AICredentialState := none
  sessionAffinity : Bool := false
  members : List AIFederationMember := []

def aiProviderServicePrefix : String := "aiprovider/"

def aiProviderServiceName (namespaceName name : String) : String :=
  aiProviderServicePrefix ++ namespaceName ++ "/" ++ name

def AIProviderState.serviceName (p : AIProviderState) : String :=
  aiProviderServiceName p.namespaceName p.name

def AIProviderState.serviceKey (p : AIProviderState) : ServiceKey :=
  ⟨p.namespaceName, p.serviceName, p.port⟩

structure AIRouteRuleState where
  matchEntries : List HTTPRouteMatchState := []
  provider : NamespacedName
  filters : List HTTPFilterState := []

structure AIJwtState where
  issuer : String
  audience : Option String
  tenantClaim : String
  toolsClaim : String
  scopes : String
  groupsClaim : String
  toolsByGroup : List (String × List String)

structure AIOnBehalfOfState where
  header : String
  trustedKeys : List String

structure AIRouteState where
  namespaceName : String
  hostnames : List String := []
  parentRefs : List ParentRefState := []
  rules : List AIRouteRuleState := []
  requireApiKey : Bool := false
  jwt : Option AIJwtState := none
  onBehalfOf : Option AIOnBehalfOfState := none

/-- A stored policy: its target, the fields of its kind and whether it won its target. -/
structure PolicyState (σ : Type) where
  target : PolicyTargetKey
  spec : σ
  creationTimestamp : Option Int := none
  accepted : Bool
deriving DecidableEq

structure RateLimitPolicy where
  requestsPerSecond : UInt32
  perClient : Bool

structure CircuitBreakerPolicy where
  failureThreshold : UInt32
  successThreshold : UInt32
  timeoutSecs : UInt32

structure ConnectionPolicy where
  maxConnections : UInt32

structure BasicAuthPolicy where
  secretNamespace : String
  secretName : String
  realm : String
deriving DecidableEq

structure ApiKeyAuthPolicy where
  secretNamespace : String
  secretName : String
  headerName : String
deriving DecidableEq

structure JwtProviderState where
  issuer : String
  audiences : List String
  jwksUri : Option String
  claimToHeaders : List (String × String)
deriving DecidableEq

structure JwtAuthPolicy where
  providers : List JwtProviderState
deriving DecidableEq

structure ExtAuthPolicy where
  serviceNamespace : String
  serviceName : String
  port : UInt16
  path : String
  timeoutMs : UInt32
  failOpen : Bool
  requestHeaders : List String
  responseHeaders : List String
deriving DecidableEq

structure RetryPolicy where
  maxRetries : UInt32
  retryOn : List String

structure IPAllowlistPolicy where
  allowCidrs : List String
  denyCidrs : List String
  trustedProxyCidrs : List String

structure RequestBodySizeLimitPolicy where
  maxBytes : UInt64

structure HealthCheckPolicy where
  path : String
  intervalSecs : UInt32
  timeoutSecs : UInt32
  healthyThreshold : UInt32
  unhealthyThreshold : UInt32
deriving DecidableEq

structure CORSPolicy where
  allowOrigins : List String
  allowMethods : List String
  allowHeaders : List String
  exposeHeaders : List String
  allowCredentials : Bool
  maxAge : UInt32

structure TimeoutPolicy where
  requestTimeoutMs : UInt64
  backendRequestTimeoutMs : UInt64
  connectTimeoutMs : UInt64

/-- A required subject alternative name; the type is `Hostname` or `URI`. -/
structure SubjectAltNameState where
  sanType : String
  value : String
deriving DecidableEq

structure BackendTLSPolicy where
  caCertPem : String
  hostname : String
  subjectAltNames : List SubjectAltNameState := []
deriving DecidableEq

structure AIUsagePolicy where
  limit : UInt64
  unit : String
  window : String
  per : String
  failOpen : Bool
  fallbackModel : String
  overflowLimit : UInt64
deriving DecidableEq

structure SecretState where
  data : Table String String

structure ReferenceGrantFrom where
  group : String
  kind : String
  namespaceName : String
deriving DecidableEq

structure ReferenceGrantTo where
  group : String
  kind : String
  name : Option String
deriving DecidableEq

structure ReferenceGrantState where
  namespaceName : String
  grantFrom : List ReferenceGrantFrom
  grantTo : List ReferenceGrantTo
deriving DecidableEq

structure BackendEndpoint where
  address : String
  port : UInt32
deriving DecidableEq

/-- What the last fetch of an issuer's keys left: where they came from, the keys, the error. -/
structure IssuerKeysState where
  jwksUri : Option String
  jwksJson : Option String
  error : Option String
  fetchedAt : Nat

/-- Everything the reconcilers know and the compiler reads. -/
structure ConfigStore where
  gatewayClasses : Table String GatewayClassState := ∅
  gateways : Table NamespacedName GatewayState := ∅
  listenerSets : Table NamespacedName ListenerSetState := ∅
  httpRoutes : Table NamespacedName HTTPRouteState := ∅
  grpcRoutes : Table NamespacedName GRPCRouteState := ∅
  tlsRoutes : Table NamespacedName TLSRouteState := ∅
  tcpRoutes : Table NamespacedName L4RouteState := ∅
  udpRoutes : Table NamespacedName L4RouteState := ∅
  referenceGrants : Table NamespacedName ReferenceGrantState := ∅
  endpoints : Table ServiceKey (List BackendEndpoint) := ∅
  rateLimitPolicies : Table NamespacedName (PolicyState RateLimitPolicy) := ∅
  circuitBreakerPolicies : Table NamespacedName (PolicyState CircuitBreakerPolicy) := ∅
  connectionPolicies : Table NamespacedName (PolicyState ConnectionPolicy) := ∅
  basicAuthPolicies : Table NamespacedName (PolicyState BasicAuthPolicy) := ∅
  apiKeyAuthPolicies : Table NamespacedName (PolicyState ApiKeyAuthPolicy) := ∅
  jwtAuthPolicies : Table NamespacedName (PolicyState JwtAuthPolicy) := ∅
  extAuthPolicies : Table NamespacedName (PolicyState ExtAuthPolicy) := ∅
  issuerKeys : Table String IssuerKeysState := ∅
  retryPolicies : Table NamespacedName (PolicyState RetryPolicy) := ∅
  ipAllowlistPolicies : Table NamespacedName (PolicyState IPAllowlistPolicy) := ∅
  requestBodySizeLimitPolicies : Table NamespacedName (PolicyState RequestBodySizeLimitPolicy) := ∅
  healthCheckPolicies : Table NamespacedName (PolicyState HealthCheckPolicy) := ∅
  corsPolicies : Table NamespacedName (PolicyState CORSPolicy) := ∅
  timeoutPolicies : Table NamespacedName (PolicyState TimeoutPolicy) := ∅
  backendTlsPolicies : Table NamespacedName (PolicyState BackendTLSPolicy) := ∅
  aiProviders : Table NamespacedName AIProviderState := ∅
  aiRoutes : Table NamespacedName AIRouteState := ∅
  aiUsagePolicies : Table NamespacedName (PolicyState AIUsagePolicy) := ∅
  secrets : Table NamespacedName SecretState := ∅
  configMaps : Table NamespacedName SecretState := ∅
  gatewayTls : Table NamespacedName GatewayTlsState := ∅
  servicePortMap : Table ServiceKey UInt16 := ∅
  serviceAppProtocols : Table ServiceKey String := ∅
  servicePortNames : Table ServiceKey String := ∅
  namespaceLabels : Table String (Table String String) := ∅

def ConfigStore.frontendValidation (store : ConfigStore) (gw : NamespacedName) (port : UInt16) :
    Option ClientValidationOutcome :=
  (store.gatewayTls.lookup gw).bind (·.frontendValidationForPort port)

end Portus

import Portus.Store

/-!
# Configuration messages

The messages a controller sends to its data planes (`config.proto`). A field that
is not set has its protobuf default, as `..Default::default()` leaves it. A
protobuf map is a `Table` in the order its encoder walks it.
-/

namespace Portus.Proto

open Portus Lib

/-- `u16::try_from(port).unwrap_or(0)`. -/
def portOfProto (port : UInt32) : UInt16 := if port.toNat < 65536 then port.toUInt16 else 0

@[simp] theorem portOfProto_toUInt32 (port : UInt16) : portOfProto port.toUInt32 = port := by
  have h := port.toNat_lt
  simp [portOfProto, h]

structure PathRule where
  path : String
  matchType : String

structure TimeoutConfig where
  connectTimeoutMs : UInt64
  readTimeoutMs : UInt64
  writeTimeoutMs : UInt64

structure UpstreamTlsConfig where
  enabled : Bool
  verifyCert : Bool
  sni : String
deriving DecidableEq

structure HeaderMutation where
  add : Table String String
  set : Table String String
  remove : List String

structure RateLimitConfig where
  requestsPerSecond : UInt32
  perClient : Bool

structure CircuitBreakerConfig where
  failureThreshold : UInt32
  successThreshold : UInt32
  timeoutSecs : UInt32

structure HeaderMatch where
  name : String
  value : String
  matchType : String

structure QueryParamMatch where
  name : String
  value : String
  matchType : String

structure RedirectFilter where
  scheme : String
  hostname : String
  port : UInt32
  path : String
  pathType : String
  statusCode : UInt32

structure UrlRewriteFilter where
  hostname : String
  path : String
  pathType : String

structure GrpcRouteMatch where
  service : String
  method : String
  matchType : String

/-- `percent = 0` mirrors every request. -/
structure MirrorBackend where
  serviceName : String
  port : UInt32
  percent : UInt32

structure WeightedBackend where
  serviceName : String
  port : UInt32
  weight : UInt32
  requestHeaders : Option HeaderMutation := none

structure JwtClaimHeader where
  claim : String
  header : String

structure JwtProvider where
  issuer : String
  audiences : List String
  claimToHeaders : List JwtClaimHeader

/-- The authentication a route requires; exactly one kind. -/
inductive AuthType where
  | basicAuth (credentials : Table String String) (realm : String)
  | apiKey (validKeys : List String) (headerName : String)
  | jwt (providers : List JwtProvider)

/-- An empty `serviceName` refuses every request. -/
structure ExtAuthConfig where
  serviceName : String
  serviceNamespace : String
  port : UInt32
  path : String
  timeoutMs : UInt32
  failOpen : Bool
  requestHeaders : List String
  responseHeaders : List String

structure CorsConfig where
  allowOrigins : List String
  allowMethods : List String
  allowHeaders : List String
  exposeHeaders : List String
  allowCredentials : Bool
  maxAge : UInt32

structure IpAllowlistConfig where
  allowCidrs : List String
  denyCidrs : List String
  trustedProxyCidrs : List String

structure AiBudget where
  policy : String
  limit : UInt64
  unit : String
  window : String
  per : String
  failOpen : Bool
  fallbackModel : String
  overflowLimit : UInt64

structure AiJwt where
  issuer : String
  audience : String
  tenantClaim : String
  toolsClaim : String
  scopes : String
  groupsClaim : String
  toolsByGroup : List (String × List String)

structure AiOnBehalfOf where
  header : String
  trustedKeys : List String

structure RouteConfig where
  host : String := ""
  paths : List PathRule := []
  serviceName : String := ""
  port : UInt32 := 0
  timeouts : Option TimeoutConfig := none
  maxRetries : UInt32 := 0
  upstreamTls : Option UpstreamTlsConfig := none
  protocol : String := ""
  requestHeaders : Option HeaderMutation := none
  responseHeaders : Option HeaderMutation := none
  rateLimit : Option RateLimitConfig := none
  circuitBreaker : Option CircuitBreakerConfig := none
  maxConnections : Option UInt32 := none
  headerMatches : List HeaderMatch := []
  methodMatch : String := ""
  queryParamMatches : List QueryParamMatch := []
  redirect : Option RedirectFilter := none
  urlRewrite : Option UrlRewriteFilter := none
  grpcMatch : Option GrpcRouteMatch := none
  listenerName : String := ""
  mirrorBackend : Option MirrorBackend := none
  weightedBackends : List WeightedBackend := []
  requestTimeoutMs : UInt64 := 0
  backendRequestTimeoutMs : UInt64 := 0
  auth : Option AuthType := none
  cors : Option CorsConfig := none
  mirrorBackends : List MirrorBackend := []
  listenerPort : UInt32 := 0
  ipAllowlist : Option IpAllowlistConfig := none
  maxRequestBodyBytes : UInt64 := 0
  retryOn : List String := []
  retryCodes : List UInt32 := []
  aiDialect : String := ""
  aiProvider : String := ""
  aiKeyRequired : Bool := false
  aiBudget : Option AiBudget := none
  aiSessionAffinity : Bool := false
  aiJwt : Option AiJwt := none
  aiOnBehalfOf : Option AiOnBehalfOf := none
  aiFederation : String := ""
  extAuth : Option ExtAuthConfig := none
  listenerHostname : String := ""
  gatewayNamespace : String := ""
  gatewayName : String := ""

structure HealthCheckConfig where
  path : String
  intervalSecs : UInt32
  timeoutSecs : UInt32
  healthyThreshold : UInt32
  unhealthyThreshold : UInt32

structure BackendTlsConfig where
  caCertPem : String
  hostname : String
  subjectAltNames : List SubjectAltNameState

structure BackendGroup where
  serviceName : String
  port : UInt32
  endpoints : List BackendEndpoint
  healthCheck : Option HealthCheckConfig
  backendTls : Option BackendTlsConfig

structure TlsCertRef where
  certPem : String
  keyPem : String
deriving DecidableEq

structure ClientValidation where
  caCertPems : List String
  mode : String
deriving DecidableEq

structure Listener where
  name : String
  port : UInt32
  protocol : String
  hostname : String
  tlsCertRef : Option TlsCertRef
  gatewayNamespace : String
  gatewayName : String
  clientValidation : Option ClientValidation
deriving DecidableEq

structure TlsPassthroughRoute where
  sniHostnames : List String
  backendService : String
  backendPort : UInt32
  listenerName : String
  listenerHostname : String
  tlsMode : String
  certPem : String
  keyPem : String
  listenerPort : UInt32
  gatewayNamespace : String
  gatewayName : String

structure L4ProxyRoute where
  backendService : String
  backendPort : UInt32
  listenerName : String
  listenerPort : UInt32
  backends : List WeightedBackend
  gatewayNamespace : String
  gatewayName : String

structure GatewayBackendTls where
  gatewayNamespace : String
  gatewayName : String
  certPem : String
  keyPem : String

structure McpMember where
  name : String
  serviceName : String
  port : UInt32
  tls : Bool
  sni : String
  host : String
  headers : Table String String
  path : String

structure McpFederation where
  name : String
  members : List McpMember

structure IssuerKeys where
  issuer : String
  jwksJson : String
deriving DecidableEq

structure CompiledConfig where
  schemaVersion : String
  version : UInt64 := 0
  fingerprint : UInt64 := 0
  routes : List RouteConfig
  backends : List BackendGroup
  listeners : List Listener
  tlsPassthroughRoutes : List TlsPassthroughRoute
  tcpProxyRoutes : List L4ProxyRoute
  udpProxyRoutes : List L4ProxyRoute
  tlsPassthroughListenerHostnames : List String
  gatewayBackendTls : List GatewayBackendTls
  mcpFederations : List McpFederation
  issuerKeys : List IssuerKeys

end Portus.Proto

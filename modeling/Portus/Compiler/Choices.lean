import Portus.Compiler.Config

/-!
# What is taken for a configuration

`Choice` is what is taken for an emitted configuration of what the store leaves open, and
`finishWith` the configuration it makes (`finishRoute_eq`). Each kind of policy sets its own
fields as if it were alone (`applyChoice_eq`), except that a route has one authentication; the
other fields are left alone (`applyChoice_frame`, `passes_frame`).
-/

namespace Portus.Compiler

open Portus Lib Proto Option

/-- What is added to a configuration: the policy of each kind, the budget of an AIRoute, and the
namespace in which the Service is looked up. -/
@[ext] structure Choice where
  rateLimit : Option (PolicyState RateLimitPolicy) := none
  circuitBreaker : Option (PolicyState CircuitBreakerPolicy) := none
  connection : Option (PolicyState ConnectionPolicy) := none
  basicAuth : Option (PolicyState BasicAuthPolicy) := none
  apiKeyAuth : Option (PolicyState ApiKeyAuthPolicy) := none
  jwtAuth : Option (PolicyState JwtAuthPolicy) := none
  extAuth : Option (PolicyState ExtAuthPolicy) := none
  retry : Option (PolicyState RetryPolicy) := none
  ipAllowlist : Option (PolicyState IPAllowlistPolicy) := none
  bodySizeLimit : Option (PolicyState RequestBodySizeLimitPolicy) := none
  cors : Option (PolicyState CORSPolicy) := none
  timeout : Option (PolicyState TimeoutPolicy) := none
  budget : Option AiBudget := none
  backendNs : Option String := none

def applyTaken {σ : Type} (taken : Option (PolicyState σ))
    (apply : PolicyState σ → RouteConfig → RouteConfig) (route : RouteConfig) : RouteConfig :=
  match taken with
  | some p => apply p route
  | none => route

section Finish

variable (store : ConfigStore)

/-- Change a configuration unless it has something of its own. -/
def unlessOwn (own : RouteConfig → Bool) (apply : RouteConfig → RouteConfig) (route : RouteConfig) :
    RouteConfig :=
  if own route then route else apply route

def ownRetry (route : RouteConfig) : Bool := !(route.maxRetries == 0 && route.retryCodes.isEmpty)

def applyChoice (c : Choice) (route : RouteConfig) : RouteConfig :=
  (applyTaken c.timeout setTimeout <| unlessOwn (·.cors.isSome) (applyTaken c.cors setCors) <|
    applyTaken c.bodySizeLimit setBodySizeLimit <| applyTaken c.ipAllowlist setIpAllowlist <|
    unlessOwn ownRetry (applyTaken c.retry setRetry) <| applyTaken c.extAuth (setExtAuth store) <|
    unlessOwn (·.auth.isSome) (applyTaken c.jwtAuth setJwtAuth) <|
    unlessOwn (·.auth.isSome) (applyTaken c.apiKeyAuth (setApiKeyAuth store)) <|
    applyTaken c.basicAuth (setBasicAuth store) <| applyTaken c.connection setMaxConnections <|
    applyTaken c.circuitBreaker setCircuitBreaker <| applyTaken c.rateLimit setRateLimit route)

def overrideProtocolIn (ns : Option String) (route : RouteConfig) : RouteConfig :=
  if route.serviceName.isEmpty || route.protocol == "GRPC" then route
  else
    match ns with
    | none => route
    | some ns =>
      match store.serviceAppProtocols.lookup ⟨ns, route.serviceName, portOfProto route.port⟩ with
      | some "kubernetes.io/h2c" => { route with protocol := "H2C" }
      | some "kubernetes.io/ws" => { route with protocol := "WS" }
      | some "HTTPS" => { route with upstreamTls := some ⟨true, true, route.serviceName⟩ }
      | _ => route

def annotateAiRouteWith (budget : Option AiBudget) (source : RouteSource) (route : RouteConfig) :
    RouteConfig :=
  if source.kind ≠ "AIRoute" then route
  else
    let ar := store.aiRoutes.lookup ⟨source.namespaceName, source.name⟩
    let jwt := (ar.bind (·.jwt)).map fun j =>
      AiJwt.mk j.issuer (j.audience.getD "") j.tenantClaim j.toolsClaim j.scopes j.groupsClaim
        j.toolsByGroup
    let onBehalfOf := (ar.bind (·.onBehalfOf)).map fun o => AiOnBehalfOf.mk o.header o.trustedKeys
    { route with
      aiKeyRequired := (ar.map (·.requireApiKey)).getD false || route.aiKeyRequired
      aiJwt := jwt.or route.aiJwt
      aiOnBehalfOf := onBehalfOf.or route.aiOnBehalfOf
      aiBudget := budget.or route.aiBudget }

def finishWith (c : Choice) (e : Emission) : RouteConfig :=
  annotateAiProvider store <| annotateAiRouteWith store c.budget e.source <|
    overrideProtocolIn store c.backendNs <| applyChoice store c e.route

def serviceBehind (e : Emission) : String × UInt16 :=
  (e.route.serviceName, portOfProto e.route.port)

def takenFor (e : Emission) : Choice where
  rateLimit := selectPolicy store.rateLimitPolicies e.source
  circuitBreaker := selectPolicy store.circuitBreakerPolicies e.source
  connection := selectPolicy store.connectionPolicies e.source
  basicAuth := selectPolicy store.basicAuthPolicies e.source
  apiKeyAuth := selectPolicy store.apiKeyAuthPolicies e.source
  jwtAuth := selectPolicy store.jwtAuthPolicies e.source
  extAuth := selectPolicy store.extAuthPolicies e.source
  retry := selectPolicy store.retryPolicies e.source
  ipAllowlist := selectPolicy store.ipAllowlistPolicies e.source
  bodySizeLimit := selectPolicy store.requestBodySizeLimitPolicies e.source
  cors := selectPolicy store.corsPolicies e.source
  timeout := selectPolicy store.timeoutPolicies e.source
  budget := (aiBudgets store).lookup (e.source.namespaceName, e.source.name)
  backendNs := (backendNsIndex store).lookup (e.route.serviceName, portOfProto e.route.port)

end Finish

section Kinds

variable (store : ConfigStore) (r : RouteConfig)

theorem applyTaken_setRateLimit :
    applyTaken o setRateLimit r =
      { r with rateLimit := (o.bind fun p => (setRateLimit p {}).rateLimit).or r.rateLimit } := by
  cases o <;> rfl

theorem applyTaken_setCircuitBreaker :
    applyTaken o setCircuitBreaker r = { r with circuitBreaker :=
          (o.bind fun p => (setCircuitBreaker p {}).circuitBreaker).or r.circuitBreaker } := by
  cases o <;> rfl

theorem applyTaken_setMaxConnections :
    applyTaken o setMaxConnections r = { r with maxConnections :=
          (o.bind fun p => (setMaxConnections p {}).maxConnections).or r.maxConnections } := by
  cases o <;> rfl

theorem applyTaken_setBasicAuth :
    applyTaken o (setBasicAuth store) r =
      { r with auth := (o.bind fun p => (setBasicAuth store p {}).auth).or r.auth } := by
  cases o <;> rfl

theorem unlessOwn_auth {set : PolicyState σ → RouteConfig → RouteConfig}
    (hs : ∀ p r, set p r = { r with auth := (set p {}).auth }) (o : Option (PolicyState σ)) :
    unlessOwn (·.auth.isSome) (applyTaken o set) r =
      { r with auth := r.auth.or (o.bind fun p => (set p {}).auth) } := by
  unfold unlessOwn
  split
  next ho => rw [or_of_isSome ho]
  next ho =>
    have hn : r.auth = none := not_isSome_iff_eq_none.1 ho
    cases o with
    | none => rw [bind_none, or_none]; rfl
    | some p => rw [hn]; exact hs p r

theorem applyTaken_setExtAuth :
    applyTaken o (setExtAuth store) r =
      { r with extAuth := (o.bind fun p => (setExtAuth store p {}).extAuth).or r.extAuth } := by
  cases o <;> rfl

theorem unlessOwn_setRetry :
    unlessOwn ownRetry (applyTaken o setRetry) r = { r with
        maxRetries := if ownRetry r then r.maxRetries
          else (o.map (·.spec.maxRetries)).getD r.maxRetries
        retryOn := if ownRetry r then r.retryOn else (o.map (·.spec.retryOn)).getD r.retryOn } := by
  unfold unlessOwn
  split
  next => rfl
  next => cases o <;> rfl

theorem applyTaken_setIpAllowlist :
    applyTaken o setIpAllowlist r = { r with ipAllowlist :=
          (o.bind fun p => (setIpAllowlist p {}).ipAllowlist).or r.ipAllowlist } := by
  cases o <;> rfl

theorem applyTaken_setBodySizeLimit :
    applyTaken o setBodySizeLimit r =
      { r with maxRequestBodyBytes := (o.map (·.spec.maxBytes)).getD r.maxRequestBodyBytes } := by
  cases o <;> rfl

theorem unlessOwn_setCors :
    unlessOwn (·.cors.isSome) (applyTaken o setCors) r =
      { r with cors := r.cors.or (o.bind fun p => (setCors p {}).cors) } := by
  unfold unlessOwn
  split
  next ho => rw [or_of_isSome ho]
  next ho =>
    have hn : r.cors = none := not_isSome_iff_eq_none.1 ho
    cases o with
    | none => rw [bind_none, or_none]; rfl
    | some p => rw [hn]; rfl

/-- A timeout of a policy; zero leaves the route's own. -/
def timeoutOver (own policy : UInt64) : UInt64 := if 0 < policy then policy else own

def connectOver (own : Option TimeoutConfig) (policy : UInt64) : Option TimeoutConfig :=
  if 0 < policy then some { own.getD ⟨0, 0, 0⟩ with connectTimeoutMs := policy } else own

theorem applyTaken_setTimeout : applyTaken o setTimeout r =
      { r with
        requestTimeoutMs := timeoutOver r.requestTimeoutMs ((o.map (·.spec.requestTimeoutMs)).getD 0)
        backendRequestTimeoutMs := timeoutOver r.backendRequestTimeoutMs
          ((o.map (·.spec.backendRequestTimeoutMs)).getD 0)
        timeouts := connectOver r.timeouts ((o.map (·.spec.connectTimeoutMs)).getD 0) } := by
  cases o with
  | none => rfl
  | some p =>
    have hc : (setTimeout p r).timeouts = connectOver r.timeouts p.spec.connectTimeoutMs := by
      unfold setTimeout connectOver
      split
      next => cases r.timeouts <;> rfl
      next => rfl
    show setTimeout p r = { r with
      requestTimeoutMs := timeoutOver r.requestTimeoutMs p.spec.requestTimeoutMs
      backendRequestTimeoutMs := timeoutOver r.backendRequestTimeoutMs p.spec.backendRequestTimeoutMs
      timeouts := connectOver r.timeouts p.spec.connectTimeoutMs }
    rw [← hc]
    rfl

end Kinds

section Choice

variable (store : ConfigStore) (c : Choice)

/-- The authentication of a route: a BasicAuthPolicy wins, then its own, then an APIKeyAuthPolicy,
then a JWTAuthPolicy. -/
def authOver (own : Option AuthType) : Option AuthType :=
  (((c.basicAuth.bind fun p => (setBasicAuth store p {}).auth).or own).or
    (c.apiKeyAuth.bind fun p => (setApiKeyAuth store p {}).auth)).or
      (c.jwtAuth.bind fun p => (setJwtAuth p {}).auth)

def settings (r : RouteConfig) : PolicyFields where
  rateLimit := (c.rateLimit.bind fun p => (setRateLimit p {}).rateLimit).or r.rateLimit
  circuitBreaker :=
    (c.circuitBreaker.bind fun p => (setCircuitBreaker p {}).circuitBreaker).or r.circuitBreaker
  maxConnections :=
    (c.connection.bind fun p => (setMaxConnections p {}).maxConnections).or r.maxConnections
  auth := authOver store c r.auth
  extAuth := (c.extAuth.bind fun p => (setExtAuth store p {}).extAuth).or r.extAuth
  maxRetries := if ownRetry r then r.maxRetries
    else (c.retry.map (·.spec.maxRetries)).getD r.maxRetries
  retryOn := if ownRetry r then r.retryOn else (c.retry.map (·.spec.retryOn)).getD r.retryOn
  ipAllowlist := (c.ipAllowlist.bind fun p => (setIpAllowlist p {}).ipAllowlist).or r.ipAllowlist
  maxRequestBodyBytes := (c.bodySizeLimit.map (·.spec.maxBytes)).getD r.maxRequestBodyBytes
  cors := r.cors.or (c.cors.bind fun p => (setCors p {}).cors)
  requestTimeoutMs :=
    timeoutOver r.requestTimeoutMs ((c.timeout.map (·.spec.requestTimeoutMs)).getD 0)
  backendRequestTimeoutMs :=
    timeoutOver r.backendRequestTimeoutMs ((c.timeout.map (·.spec.backendRequestTimeoutMs)).getD 0)
  timeouts := connectOver r.timeouts ((c.timeout.map (·.spec.connectTimeoutMs)).getD 0)

theorem applyChoice_eq :
    applyChoice store c r = setPolicyFields r (settings store c r) := by
  unfold applyChoice
  rw [applyTaken_setRateLimit, applyTaken_setCircuitBreaker, applyTaken_setMaxConnections,
    applyTaken_setBasicAuth, unlessOwn_auth _ (fun _ _ => rfl), unlessOwn_auth _ (fun _ _ => rfl),
    applyTaken_setExtAuth, unlessOwn_setRetry, applyTaken_setIpAllowlist,
    applyTaken_setBodySizeLimit, unlessOwn_setCors, applyTaken_setTimeout]
  rfl

end Choice

section Passes

variable {store : ConfigStore}

theorem withPolicy_eq (apply : PolicyState σ → RouteConfig → RouteConfig) :
    withPolicy table source apply = applyTaken (selectPolicy table source) apply := by
  funext route
  unfold withPolicy applyTaken
  cases selectPolicy table source <;> rfl

theorem applyRetry_eq (source : RouteSource) (route : RouteConfig) : applyRetry store source route =
      unlessOwn ownRetry (applyTaken (selectPolicy store.retryPolicies source) setRetry) route := by
  rw [applyRetry, unlessOwn, ownRetry, withPolicy_eq]
  by_cases h : route.maxRetries = 0 ∧ route.retryCodes.isEmpty
  · rw [if_pos h, if_neg (by simp [h.1, h.2])]
  · rw [if_neg h, if_pos (by simpa [imp_iff_not_or] using h)]

theorem applyPolicies_eq (e : Emission) :
    applyPolicies store e.source e.route = applyChoice store (takenFor store e) e.route := by
  unfold applyPolicies applyTimeout applyCors applyBodySizeLimit applyIpAllowlist
    applyExtAuth applyJwtAuth applyApiKeyAuth applyBasicAuth applyConnection applyCircuitBreaker
    applyRateLimit
  simp only [withPolicy_eq, applyRetry_eq]
  rfl

theorem applyPolicies_eq_settings :
    applyPolicies store source r =
      setPolicyFields r (settings store (takenFor store ⟨r, source⟩) r) :=
  (applyPolicies_eq ⟨r, source⟩).trans (applyChoice_eq store _)

theorem finishRoute_eq :
    finishRoute store e = finishWith store (takenFor store e) e := by
  rw [finishRoute, finishWith, applyPolicies_eq, applyChoice_eq]
  rfl

theorem auth_isSome_applyPolicies : (applyPolicies store source r).auth.isSome =
      (r.auth.isSome || (selectPolicy store.basicAuthPolicies source).isSome ||
        (selectPolicy store.apiKeyAuthPolicies source).isSome ||
        (selectPolicy store.jwtAuthPolicies source).isSome) := by
  rw [applyPolicies_eq_settings]
  show (authOver store (takenFor store ⟨r, source⟩) r.auth).isSome = _
  simp only [authOver, takenFor, isSome_or]
  cases selectPolicy store.basicAuthPolicies source <;>
    cases selectPolicy store.apiKeyAuthPolicies source <;>
    cases selectPolicy store.jwtAuthPolicies source <;> cases r.auth <;> rfl

end Passes

section Frame

variable {α : Type} {f : RouteConfig → α} {store : ConfigStore}

theorem applyChoice_frame (h : ∀ r p, f (setPolicyFields r p) = f r) (c : Choice) :
    f (applyChoice store c r) = f r := by
  rw [applyChoice_eq]
  exact h _ _

variable (hprot : ∀ r p t, f { r with protocol := p, upstreamTls := t } = f r) (hr : ∀ r k j o b,
    f { r with aiKeyRequired := k, aiJwt := j, aiOnBehalfOf := o, aiBudget := b } = f r)
  (hprov : ∀ r d p s g t, f { r with
    aiDialect := d, aiProvider := p, aiSessionAffinity := s, aiFederation := g,
    upstreamTls := t } = f r)

include hprot in
theorem overrideProtocolIn_frame (ns : Option String) : f (overrideProtocolIn store ns r) = f r := by
  unfold overrideProtocolIn
  split
  · rfl
  · split
    · rfl
    · split
      · exact hprot r _ r.upstreamTls
      · exact hprot r _ r.upstreamTls
      · exact hprot r r.protocol _
      · rfl

include hr in
theorem annotateAiRouteWith_frame (budget : Option AiBudget) :
    f (annotateAiRouteWith store budget source r) = f r := by
  unfold annotateAiRouteWith
  split
  · rfl
  · exact hr _ _ _ _ _

include hprov in
theorem annotateAiProvider_frame (r : RouteConfig) : f (annotateAiProvider store r) = f r := by
  unfold annotateAiProvider
  split
  · rfl
  · exact hprov _ _ _ _ _ _

include hprot hr hprov in
theorem passes_frame (c : Choice) :
    f (finishWith store c e) = f (applyChoice store c e.route) := by
  rw [finishWith, annotateAiProvider_frame hprov, annotateAiRouteWith_frame hr,
    overrideProtocolIn_frame hprot]

end Frame

end Portus.Compiler

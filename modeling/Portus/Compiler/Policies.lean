import Portus.Compiler.Routes

/-!
# Applying policies to emitted configurations

`apply_policies`: for each policy kind the accepted policies are collected in the
order of their table, indexed by their target (`indexPolicies`) and searched for
each configuration (`findMatchingPolicy`): a policy on the route itself comes
first, then a policy on a Gateway that one of the route's parents names.
-/

namespace Portus.Compiler

open Portus Lib Proto Reconcilers
open List hiding beq_eq_decide

section Matching

variable {σ : Type}

/-- Route-targeted policies by (kind, namespace, name), and the Gateway-targeted ones, as
positions in the list of accepted policies. -/
structure PolicyIndex where
  routeIndex : Table (String × String × String) (List Nat)
  gatewayPolicies : List Nat

def routeTargetKey (t : PolicyTargetKey) : String × String × String :=
  (t.kind, t.namespaceName, t.name)

def RouteSource.targetKey (s : RouteSource) : String × String × String :=
  (s.kind, s.namespaceName, s.name)

def PolicyIndex.add (index : PolicyIndex) (t : PolicyTargetKey) (i : Nat) : PolicyIndex :=
  if t.kind = "Gateway" then { index with gatewayPolicies := index.gatewayPolicies ++ [i] }
  else
    let key := routeTargetKey t
    { index with routeIndex :=
        index.routeIndex.insert key ((index.routeIndex.lookup key).getD [] ++ [i]) }

def indexPolicies (policies : List (PolicyState σ)) : PolicyIndex :=
  policies.zipIdx.foldl (fun index (p, i) => index.add p.target i) ⟨∅, []⟩

/-- A Gateway-targeted policy matches a route one of whose parents has the target's name, and the
target's section if it has one. -/
def gatewayMatches (t : PolicyTargetKey) (source : RouteSource) : Bool :=
  source.gatewayRefs.any fun (gwNs, gwName, section?) =>
    t.namespaceName == gwNs && t.name == gwName &&
      (t.sectionName.isNone || section? == t.sectionName)

def findMatchingPolicy (policies : List (PolicyState σ)) (index : PolicyIndex)
    (source : RouteSource) : Option Nat :=
  match ((index.routeIndex.lookup source.targetKey).getD []).head? with
  | some i => some i
  | none => index.gatewayPolicies.find? fun i =>
      (policies[i]?).any fun p => gatewayMatches p.target source

def acceptedPolicies (table : Table NamespacedName (PolicyState σ)) : List (PolicyState σ) :=
  table.values.filter (·.accepted)

def selectPolicy (table : Table NamespacedName (PolicyState σ)) (source : RouteSource) :
    Option (PolicyState σ) :=
  let policies := acceptedPolicies table
  (findMatchingPolicy policies (indexPolicies policies) source).bind (policies[·]?)

def directMatches (t : PolicyTargetKey) (source : RouteSource) : Bool :=
  t.kind != "Gateway" && routeTargetKey t == source.targetKey

def parentMatches (t : PolicyTargetKey) (source : RouteSource) : Bool :=
  t.kind == "Gateway" && gatewayMatches t source

theorem indexPolicies_append_singleton :
    indexPolicies (policies ++ [p]) = (indexPolicies policies).add p.target policies.length := by
  unfold indexPolicies
  rw [zipIdx_append]
  simp

theorem gatewayPolicies_indexPolicies (policies : List (PolicyState σ)) :
    (indexPolicies policies).gatewayPolicies =
      (policies.zipIdx.filter fun e => e.1.target.kind == "Gateway").map (·.2) := by
  induction policies using reverseRecOn with
  | nil => rfl
  | append_singleton ps p ih =>
    rw [indexPolicies_append_singleton, zipIdx_append, filter_append, map_append,
      ← ih, PolicyIndex.add]
    by_cases h : p.target.kind = "Gateway" <;> simp [h]

theorem routeIndex_indexPolicies (policies : List (PolicyState σ)) :
    ((indexPolicies policies).routeIndex.lookup source.targetKey).getD [] =
      (policies.zipIdx.filter fun e => directMatches e.1.target source).map (·.2) := by
  induction policies using reverseRecOn with
  | nil => rfl
  | append_singleton ps p ih =>
    rw [indexPolicies_append_singleton, zipIdx_append, filter_append, map_append,
      ← ih, PolicyIndex.add]
    by_cases hg : p.target.kind = "Gateway"
    · simp [hg, directMatches]
    · by_cases hk : routeTargetKey p.target = source.targetKey
      · rw [hk]
        simp [directMatches, hg, hk]
      · rw [if_neg hg]
        rw [AList.lookup_insert_ne (Ne.symm hk)]
        simp [directMatches, hk]

theorem getElem?_of_mem_zipIdx {l : List (PolicyState σ)} (h : e ∈ l.zipIdx) :
    l[e.2]? = some e.1 := by
  obtain ⟨p, i⟩ := e
  exact mem_zipIdx_iff_getElem?.1 h

theorem find?_zipIdx_bind (l : List (PolicyState σ)) (p : PolicyState σ → Bool) :
    ((l.zipIdx.find? fun e => p e.1).map (·.2)).bind (l[·]?) = l.find? p := by
  have hl : l.find? p = (l.zipIdx.find? fun e => p e.1).map (·.1) := by
    conv_lhs => rw [← zipIdx_map_fst 0 l, find?_map]
    rfl
  rw [hl]
  cases h : l.zipIdx.find? fun e => p e.1 with
  | none => rfl
  | some e => exact getElem?_of_mem_zipIdx (mem_of_find?_eq_some h)

theorem find?_positions (es : List (PolicyState σ × Nat)) (l : List (PolicyState σ))
    (q : PolicyState σ → Bool) (hes : ∀ e ∈ es, l[e.2]? = some e.1) :
    (es.map (·.2)).find? (fun i => (l[i]?).any q) = (es.find? fun e => q e.1).map (·.2) := by
  induction es with
  | nil => rfl
  | cons e es ih =>
    have he := hes e mem_cons_self
    have ih := ih fun e' he' => hes e' (mem_cons_of_mem _ he')
    rw [map_cons, find?_cons, he, Option.any_some, find?_cons]
    cases q e.1 with
    | true => rfl
    | false => exact ih

theorem selectPolicy_eq (table : Table NamespacedName (PolicyState σ)) :
    selectPolicy table source =
      ((acceptedPolicies table).find? fun p => directMatches p.target source).or
        ((acceptedPolicies table).find? fun p => parentMatches p.target source) := by
  unfold selectPolicy findMatchingPolicy
  generalize acceptedPolicies table = ps
  dsimp only
  rw [routeIndex_indexPolicies, gatewayPolicies_indexPolicies, head?_map, head?_filter,
    find?_positions _ _ _ fun e he => getElem?_of_mem_zipIdx (mem_of_mem_filter he), ←
    find?_zipIdx_bind ps fun p => directMatches p.target source, ← find?_zipIdx_bind ps fun p =>
    parentMatches p.target source]
  cases hd : ps.zipIdx.find? fun e => directMatches e.1.target source with
  | none => simp [parentMatches, beq_eq_decide]
  | some e => simp [getElem?_of_mem_zipIdx (mem_of_find?_eq_some hd)]

theorem mem_acceptedPolicies :
    p ∈ acceptedPolicies table ↔ ∃ k, table.lookup k = some p ∧ p.accepted = true := by
  rw [acceptedPolicies, mem_filter, Table.mem_values]
  constructor
  · rintro ⟨⟨k, hk⟩, ha⟩
    exact ⟨k, hk, ha⟩
  · rintro ⟨k, hk, ha⟩
    exact ⟨⟨k, hk⟩, ha⟩

theorem mem_of_selectPolicy {source : RouteSource} (h : selectPolicy table source = some p) :
    p ∈ acceptedPolicies table := by
  rw [selectPolicy_eq] at h
  rcases Option.or_eq_some_iff.1 h with h | ⟨-, h⟩
  all_goals exact mem_of_find?_eq_some h

def withPolicy (table : Table NamespacedName (PolicyState σ)) (source : RouteSource)
    (apply : PolicyState σ → RouteConfig → RouteConfig) (route : RouteConfig) : RouteConfig :=
  match selectPolicy table source with
  | some p => apply p route
  | none => route

end Matching

section Kinds

variable (store : ConfigStore)

def setRateLimit (p : PolicyState RateLimitPolicy) (route : RouteConfig) : RouteConfig :=
  { route with rateLimit := some ⟨p.spec.requestsPerSecond, p.spec.perClient⟩ }

def setCircuitBreaker (p : PolicyState CircuitBreakerPolicy) (route : RouteConfig) : RouteConfig :=
  { route with
    circuitBreaker := some ⟨p.spec.failureThreshold, p.spec.successThreshold, p.spec.timeoutSecs⟩ }

def setMaxConnections (p : PolicyState ConnectionPolicy) (route : RouteConfig) : RouteConfig :=
  { route with maxConnections := some p.spec.maxConnections }

/-- The credentials are read from the Secret now; without it nobody passes. -/
def setBasicAuth (p : PolicyState BasicAuthPolicy) (route : RouteConfig) : RouteConfig :=
  let credentials :=
    ((store.secrets.lookup ⟨p.spec.secretNamespace, p.spec.secretName⟩).map (·.data)).getD ∅
  { route with auth := some (.basicAuth credentials p.spec.realm) }

/-- The valid keys are read from the Secret now; without it nobody passes. -/
def setApiKeyAuth (p : PolicyState ApiKeyAuthPolicy) (route : RouteConfig) : RouteConfig :=
  let validKeys := ((store.secrets.lookup ⟨p.spec.secretNamespace, p.spec.secretName⟩).map
    (·.data.values)).getD []
  { route with auth := some (.apiKey validKeys p.spec.headerName) }

/-- The keys of the issuers travel apart, in `issuer_keys`. -/
def setJwtAuth (p : PolicyState JwtAuthPolicy) (route : RouteConfig) : RouteConfig :=
  { route with auth := some (.jwt (p.spec.providers.map fun provider =>
      ⟨provider.issuer, provider.audiences, provider.claimToHeaders.map fun (claim, header) =>
        ⟨claim, header⟩⟩)) }

def referencePermitted (policyNamespace : String) (e : ExtAuthPolicy) : Bool :=
  e.serviceNamespace == policyNamespace ||
    isReferenceAllowedFrom store.referenceGrants "portus-gateway.dev" policyNamespace
      "ExtAuthPolicy" e.serviceNamespace "Service" (some e.serviceName)

def setExtAuth (p : PolicyState ExtAuthPolicy) (route : RouteConfig) : RouteConfig :=
  let permitted := referencePermitted store p.target.namespaceName p.spec
  { route with
    extAuth := some ⟨if permitted then p.spec.serviceName else "", p.spec.serviceNamespace,
        p.spec.port.toUInt32, p.spec.path, p.spec.timeoutMs, p.spec.failOpen,
        p.spec.requestHeaders, p.spec.responseHeaders⟩ }

def setRetry (p : PolicyState RetryPolicy) (route : RouteConfig) : RouteConfig :=
  { route with maxRetries := p.spec.maxRetries, retryOn := p.spec.retryOn }

def setIpAllowlist (p : PolicyState IPAllowlistPolicy) (route : RouteConfig) : RouteConfig :=
  { route with
    ipAllowlist := some ⟨p.spec.allowCidrs, p.spec.denyCidrs, p.spec.trustedProxyCidrs⟩ }

def setBodySizeLimit (p : PolicyState RequestBodySizeLimitPolicy) (route : RouteConfig) :
    RouteConfig :=
  { route with maxRequestBodyBytes := p.spec.maxBytes }

def setCors (p : PolicyState CORSPolicy) (route : RouteConfig) : RouteConfig :=
  { route with cors := some ⟨p.spec.allowOrigins, p.spec.allowMethods, p.spec.allowHeaders,
      p.spec.exposeHeaders, p.spec.allowCredentials, p.spec.maxAge⟩ }

/-- A zero in the policy leaves the route's own timeout. -/
def setTimeout (p : PolicyState TimeoutPolicy) (route : RouteConfig) : RouteConfig :=
  { route with
    requestTimeoutMs :=
      if 0 < p.spec.requestTimeoutMs then p.spec.requestTimeoutMs else route.requestTimeoutMs
    backendRequestTimeoutMs :=
      if 0 < p.spec.backendRequestTimeoutMs then p.spec.backendRequestTimeoutMs
      else route.backendRequestTimeoutMs
    timeouts :=
      if 0 < p.spec.connectTimeoutMs then
        match route.timeouts with
        | some t => some { t with connectTimeoutMs := p.spec.connectTimeoutMs }
        | none => some ⟨p.spec.connectTimeoutMs, 0, 0⟩
      else route.timeouts }

variable (source : RouteSource)

def applyRateLimit : RouteConfig → RouteConfig :=
  withPolicy store.rateLimitPolicies source setRateLimit

def applyCircuitBreaker : RouteConfig → RouteConfig :=
  withPolicy store.circuitBreakerPolicies source setCircuitBreaker

def applyConnection : RouteConfig → RouteConfig :=
  withPolicy store.connectionPolicies source setMaxConnections

def applyBasicAuth : RouteConfig → RouteConfig :=
  withPolicy store.basicAuthPolicies source (setBasicAuth store)

/-- A route has one authentication policy. -/
def applyApiKeyAuth (route : RouteConfig) : RouteConfig :=
  if route.auth.isSome then route
  else withPolicy store.apiKeyAuthPolicies source (setApiKeyAuth store) route

def applyJwtAuth (route : RouteConfig) : RouteConfig :=
  if route.auth.isSome then route
  else withPolicy store.jwtAuthPolicies source setJwtAuth route

def applyExtAuth : RouteConfig → RouteConfig :=
  withPolicy store.extAuthPolicies source (setExtAuth store)

/-- The rule's own `retry` wins over a policy. -/
def applyRetry (route : RouteConfig) : RouteConfig :=
  if route.maxRetries = 0 ∧ route.retryCodes.isEmpty then
    withPolicy store.retryPolicies source setRetry route
  else route

def applyIpAllowlist : RouteConfig → RouteConfig :=
  withPolicy store.ipAllowlistPolicies source setIpAllowlist

def applyBodySizeLimit : RouteConfig → RouteConfig :=
  withPolicy store.requestBodySizeLimitPolicies source setBodySizeLimit

def applyCors (route : RouteConfig) : RouteConfig :=
  if route.cors.isSome then route
  else withPolicy store.corsPolicies source setCors route

def applyTimeout : RouteConfig → RouteConfig :=
  withPolicy store.timeoutPolicies source setTimeout

def applyPolicies (route : RouteConfig) : RouteConfig :=
  (applyTimeout store source <| applyCors store source <| applyBodySizeLimit store source <|
    applyIpAllowlist store source <| applyRetry store source <| applyExtAuth store source <|
    applyJwtAuth store source <| applyApiKeyAuth store source <| applyBasicAuth store source <|
    applyConnection store source <| applyCircuitBreaker store source <|
    applyRateLimit store source route)

end Kinds

structure PolicyFields where
  rateLimit : Option RateLimitConfig
  circuitBreaker : Option CircuitBreakerConfig
  maxConnections : Option UInt32
  auth : Option AuthType
  extAuth : Option ExtAuthConfig
  maxRetries : UInt32
  retryOn : List String
  ipAllowlist : Option IpAllowlistConfig
  maxRequestBodyBytes : UInt64
  cors : Option CorsConfig
  requestTimeoutMs : UInt64
  backendRequestTimeoutMs : UInt64
  timeouts : Option TimeoutConfig

def policyFields (r : RouteConfig) : PolicyFields :=
  ⟨r.rateLimit, r.circuitBreaker, r.maxConnections, r.auth, r.extAuth, r.maxRetries, r.retryOn,
    r.ipAllowlist, r.maxRequestBodyBytes, r.cors, r.requestTimeoutMs, r.backendRequestTimeoutMs,
    r.timeouts⟩

def setPolicyFields (r : RouteConfig) (p : PolicyFields) : RouteConfig :=
  { r with rateLimit := p.rateLimit, circuitBreaker := p.circuitBreaker,
           maxConnections := p.maxConnections, auth := p.auth, extAuth := p.extAuth,
           maxRetries := p.maxRetries, retryOn := p.retryOn, ipAllowlist := p.ipAllowlist,
           maxRequestBodyBytes := p.maxRequestBodyBytes, cors := p.cors,
           requestTimeoutMs := p.requestTimeoutMs,
           backendRequestTimeoutMs := p.backendRequestTimeoutMs, timeouts := p.timeouts }

end Portus.Compiler

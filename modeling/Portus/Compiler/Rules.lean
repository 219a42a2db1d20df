import Portus.Proto

/-!
# Compiling the rules of a route

One HTTPRoute rule becomes one `RouteConfig` for each match entry
(`compile_http_rule`), and so does one GRPCRoute rule for each host. A rule with
several backends, a weight other than 1 or a filter on a backend travels as
`weighted_backends`; a rule with one plain backend names it in `service_name`; a
rule without backends has an empty `service_name`.
-/

namespace Portus.Compiler

open Portus Lib Proto

/-- What the filters of a rule leave, whichever match entry they apply to. -/
structure RuleFilters where
  requestHeaders : Option HeaderMutation := none
  responseHeaders : Option HeaderMutation := none
  redirect : Option RedirectFilter := none
  urlRewrite : Option UrlRewriteFilter := none
  mirrorBackends : List MirrorBackend := []
  cors : Option CorsConfig := none

/-- The maps keep the last value of a repeated header name. -/
def headerMutation (add set : List (String × String)) (remove : List String) : HeaderMutation :=
  ⟨Table.collect add, Table.collect set, remove⟩

/-- Take one more filter; a later filter of a kind replaces an earlier one, mirrors accumulate. -/
def RuleFilters.apply (acc : RuleFilters) : HTTPFilterState → RuleFilters
  | .requestHeaderModifier add set remove =>
    { acc with requestHeaders := some (headerMutation add set remove) }
  | .responseHeaderModifier add set remove =>
    { acc with responseHeaders := some (headerMutation add set remove) }
  | .requestRedirect scheme hostname port path pathType statusCode =>
    { acc with redirect := some ⟨scheme.getD "", hostname.getD "", (port.getD 0).toUInt32,
        path.getD "", pathType.getD "", statusCode.toUInt32⟩ }
  | .urlRewrite hostname path pathType =>
    { acc with urlRewrite := some ⟨hostname.getD "", path.getD "", pathType.getD ""⟩ }
  -- the namespace of the mirrored Service is dropped here
  | .requestMirror _ backendName backendPort percent =>
    { acc with mirrorBackends :=
        acc.mirrorBackends ++ [⟨backendName, backendPort.toUInt32, percent⟩] }
  | .cors allowOrigins allowMethods allowHeaders exposeHeaders allowCredentials maxAge =>
    { acc with cors := some ⟨allowOrigins, allowMethods, allowHeaders, exposeHeaders,
        allowCredentials, maxAge.getD 0⟩ }

def ruleFilters (filters : List HTTPFilterState) : RuleFilters :=
  filters.foldl RuleFilters.apply {}

def mirrorOf : HTTPFilterState → Option (ServiceKey × UInt32)
  | .requestMirror ns name port percent => some (⟨ns, name, port⟩, percent)
  | _ => none

def mirrorsOf (filters : List HTTPFilterState) : List (ServiceKey × UInt32) :=
  filters.filterMap mirrorOf

theorem mirrorBackends_foldl :
    (filters.foldl RuleFilters.apply acc).mirrorBackends = acc.mirrorBackends ++
        (mirrorsOf filters).map fun m => ⟨m.1.name, m.1.port.toUInt32, m.2⟩ := by
  induction filters generalizing acc with
  | nil => simp [mirrorsOf]
  | cons f fs ih =>
    rw [List.foldl_cons, ih]
    cases f <;> simp [RuleFilters.apply, mirrorsOf, List.filterMap_cons, mirrorOf]

def isRedirect : HTTPFilterState → Bool
  | .requestRedirect .. => true
  | _ => false

theorem redirect_foldl_isSome (filters : List HTTPFilterState) :
    (filters.foldl RuleFilters.apply acc).redirect.isSome =
      (acc.redirect.isSome || filters.any isRedirect) := by
  induction filters generalizing acc with
  | nil => simp
  | cons f fs ih =>
    rw [List.foldl_cons, ih]
    cases f <;> simp [RuleFilters.apply, isRedirect]

def filtersToRequestHeaderMutation : List HTTPFilterState → Option HeaderMutation
  | [] => none
  | .requestHeaderModifier add set remove :: _ => some (headerMutation add set remove)
  | _ :: rest => filtersToRequestHeaderMutation rest

def orMatchAll {α : Type} (entries : List α) : List (Option α) :=
  if entries.isEmpty then [none] else entries.map some

theorem orMatchAll_ne_nil : orMatchAll entries ≠ [] := by
  unfold orMatchAll
  split
  next => simp
  next h => simpa using h

def headerMatchesOf (headers : List (String × String × String)) : List HeaderMatch :=
  headers.map fun (name, value, matchType) => ⟨name, value, matchType⟩

/-- The backends among which the data plane splits traffic; empty for a single plain backend. -/
def weightedBackendsOf (rule : HTTPRouteRuleState) : List WeightedBackend :=
  if 1 < rule.backendRefs.length || rule.backendRefs.any (·.weight != 1) ||
      rule.backendRefs.any (!·.filters.isEmpty) then
    rule.backendRefs.map fun b =>
      ⟨b.name, b.port.toUInt32, b.weight, filtersToRequestHeaderMutation b.filters⟩
  else []

def matchConfig (rule : HTTPRouteRuleState) (defaultHost listenerName : String)
    (listenerPort : UInt16) (listenerHostname : String) (entry : Option HTTPRouteMatchState) :
    RouteConfig :=
  let filters := ruleFilters rule.filters
  { host := defaultHost
    paths := ((entry.bind (·.path)).map fun (path, matchType) => PathRule.mk path matchType).toList
    protocol := "HTTP"
    headerMatches := (entry.map fun m => headerMatchesOf m.headers).getD []
    methodMatch := (entry.bind (·.method)).getD ""
    queryParamMatches := (entry.map fun m => m.queryParams.map fun (name, value, matchType) =>
      QueryParamMatch.mk name value matchType).getD []
    requestHeaders := filters.requestHeaders
    responseHeaders := filters.responseHeaders
    redirect := filters.redirect
    urlRewrite := filters.urlRewrite
    listenerName := listenerName
    listenerPort := listenerPort.toUInt32
    listenerHostname := listenerHostname
    mirrorBackend := filters.mirrorBackends.head?
    mirrorBackends := filters.mirrorBackends
    requestTimeoutMs := rule.requestTimeoutMs.getD 0
    backendRequestTimeoutMs := rule.backendRequestTimeoutMs.getD 0
    maxRetries := (rule.retry.map (·.attempts)).getD 0
    retryCodes := (rule.retry.map fun r => r.codes.map UInt16.toUInt32).getD []
    cors := filters.cors }

/-- The configurations of one match entry: weighted, without a backend, or one for each backend. -/
def entryConfigs (rule : HTTPRouteRuleState) (base : RouteConfig) : List RouteConfig :=
  match weightedBackendsOf rule, rule.backendRefs with
  | weighted@(_ :: _), primary :: _ =>
    [{ base with serviceName := primary.name, port := primary.port.toUInt32,
                 weightedBackends := weighted }]
  | _, refs =>
    if refs.isEmpty then [{ base with serviceName := "", port := 0 }]
    else refs.map fun b => { base with serviceName := b.name, port := b.port.toUInt32 }

def compileHttpRule (rule : HTTPRouteRuleState) (defaultHost listenerName : String)
    (listenerPort : UInt16) (listenerHostname : String) : List RouteConfig :=
  (orMatchAll rule.matchEntries).flatMap fun entry =>
    entryConfigs rule
      (matchConfig rule defaultHost listenerName listenerPort listenerHostname entry)

/-- The backend fields of a configuration, as the rule it was compiled from determines them. -/
structure BackendsOfRule (rule : HTTPRouteRuleState) (rc : RouteConfig) : Prop where
  serviceName : rc.serviceName = ((rule.backendRefs.head?).map (·.name)).getD ""
  port : rc.port = ((rule.backendRefs.head?).map (·.port.toUInt32)).getD 0
  weighted : rc.weightedBackends = weightedBackendsOf rule
  mirrors : rc.mirrorBackends =
    (mirrorsOf rule.filters).map fun m => ⟨m.1.name, m.1.port.toUInt32, m.2⟩
  redirect : rc.redirect = (ruleFilters rule.filters).redirect

theorem weightedBackendsOf_eq_nil (h : weightedBackendsOf rule = []) :
    rule.backendRefs.length ≤ 1 := by
  unfold weightedBackendsOf at h
  split at h
  next => simp [List.map_eq_nil_iff.1 h]
  next hc =>
    simp only [Bool.or_eq_true, decide_eq_true_eq, not_or] at hc
    omega

theorem entryConfigs_eq (hb : base.weightedBackends = []) :
    entryConfigs rule base =
      [{ base with serviceName := ((rule.backendRefs.head?).map (·.name)).getD ""
                   port := ((rule.backendRefs.head?).map (·.port.toUInt32)).getD 0
                   weightedBackends := weightedBackendsOf rule }] := by
  unfold entryConfigs
  cases hw : weightedBackendsOf rule with
  | nil =>
    have hl := weightedBackendsOf_eq_nil hw
    cases hr : rule.backendRefs with
    | nil => simp [← hb]
    | cons b bs =>
      rw [hr, List.length_cons] at hl
      have : bs = [] := List.eq_nil_of_length_eq_zero (by omega)
      simp [this, ← hb]
  | cons w ws =>
    cases hr : rule.backendRefs with
    | nil => simp [weightedBackendsOf, hr] at hw
    | cons b bs => simp

theorem backendsOfRule_of_mem
    (h : rc ∈ compileHttpRule rule host listenerName listenerPort listenerHostname) :
    BackendsOfRule rule rc := by
  obtain ⟨entry, -, h⟩ := List.mem_flatMap.1 h
  rw [entryConfigs_eq rfl, List.mem_singleton] at h
  subst h
  exact ⟨rfl, rfl, rfl, mirrorBackends_foldl, rfl⟩

theorem compileHttpRule_ne_nil (host listenerName : String) :
    compileHttpRule rule host listenerName listenerPort listenerHostname ≠ [] := by
  obtain ⟨entry, he⟩ := List.exists_mem_of_ne_nil _ orMatchAll_ne_nil
  intro h
  have := List.flatMap_eq_nil_iff.1 h entry he
  rw [entryConfigs_eq rfl] at this
  cases this

end Portus.Compiler

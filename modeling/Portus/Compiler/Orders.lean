import Portus.Compiler.Choices
import Portus.Lib.Reorder

/-!
# What the order of the store decides

Two stores of the same content differ in the order in which their maps are walked
(`ConfigStore.Reordered`). What a route is emitted as does not depend on it
(`httpEmissions_reordered`, `grpcEmissions_reordered`). What is added to an emitted
configuration does: of the policies of a kind that reach a route, of the budgets of an
AIRoute and of the namespaces behind a Service name the first, or the last one, of the
walk is taken.
-/

namespace Portus.Compiler

open Portus Lib Proto Reconcilers  Table
open List hiding beq_eq_decide

/-- The same content, each map walked in another order. -/
structure Reordered (s s' : ConfigStore) : Prop where
  gatewayClasses : s.gatewayClasses.Reordered s'.gatewayClasses
  gateways : s.gateways.Reordered s'.gateways
  listenerSets : s.listenerSets.Reordered s'.listenerSets
  httpRoutes : s.httpRoutes.Reordered s'.httpRoutes
  grpcRoutes : s.grpcRoutes.Reordered s'.grpcRoutes
  tlsRoutes : s.tlsRoutes.Reordered s'.tlsRoutes
  tcpRoutes : s.tcpRoutes.Reordered s'.tcpRoutes
  udpRoutes : s.udpRoutes.Reordered s'.udpRoutes
  referenceGrants : s.referenceGrants.Reordered s'.referenceGrants
  endpoints : s.endpoints.Reordered s'.endpoints
  rateLimitPolicies : s.rateLimitPolicies.Reordered s'.rateLimitPolicies
  circuitBreakerPolicies : s.circuitBreakerPolicies.Reordered s'.circuitBreakerPolicies
  connectionPolicies : s.connectionPolicies.Reordered s'.connectionPolicies
  basicAuthPolicies : s.basicAuthPolicies.Reordered s'.basicAuthPolicies
  apiKeyAuthPolicies : s.apiKeyAuthPolicies.Reordered s'.apiKeyAuthPolicies
  jwtAuthPolicies : s.jwtAuthPolicies.Reordered s'.jwtAuthPolicies
  extAuthPolicies : s.extAuthPolicies.Reordered s'.extAuthPolicies
  issuerKeys : s.issuerKeys.Reordered s'.issuerKeys
  retryPolicies : s.retryPolicies.Reordered s'.retryPolicies
  ipAllowlistPolicies : s.ipAllowlistPolicies.Reordered s'.ipAllowlistPolicies
  requestBodySizeLimitPolicies : s.requestBodySizeLimitPolicies.Reordered s'.requestBodySizeLimitPolicies
  healthCheckPolicies : s.healthCheckPolicies.Reordered s'.healthCheckPolicies
  corsPolicies : s.corsPolicies.Reordered s'.corsPolicies
  timeoutPolicies : s.timeoutPolicies.Reordered s'.timeoutPolicies
  backendTlsPolicies : s.backendTlsPolicies.Reordered s'.backendTlsPolicies
  aiProviders : s.aiProviders.Reordered s'.aiProviders
  aiRoutes : s.aiRoutes.Reordered s'.aiRoutes
  aiUsagePolicies : s.aiUsagePolicies.Reordered s'.aiUsagePolicies
  secrets : s.secrets.Reordered s'.secrets
  configMaps : s.configMaps.Reordered s'.configMaps
  gatewayTls : s.gatewayTls.Reordered s'.gatewayTls
  servicePortMap : s.servicePortMap.Reordered s'.servicePortMap
  serviceAppProtocols : s.serviceAppProtocols.Reordered s'.serviceAppProtocols
  servicePortNames : s.servicePortNames.Reordered s'.servicePortNames
  namespaceLabels : s.namespaceLabels.Reordered s'.namespaceLabels

theorem Reordered.refl (s : ConfigStore) : Reordered s s := by
  constructor <;> exact Table.Reordered.refl _

section Emissions

variable {store store' : ConfigStore}

variable (h : Reordered store store')

include h

theorem ownerGateway_reordered : ownerGateway store' = ownerGateway store := by
  funext pr
  unfold ownerGateway
  rw [h.listenerSets.lookup]

theorem bindings_reordered : bindings store' = bindings store := by
  have hl : parentListeners store' = parentListeners store := by
    funext pr
    unfold parentListeners
    rw [h.gateways.lookup, h.listenerSets.lookup]
  have hn : parentNamespace store' = parentNamespace store := by
    funext pr
    unfold parentNamespace
    rw [h.listenerSets.lookup]
  have ha : attaches store' = attaches store := by
    funext ns pr l
    unfold attaches
    rw [hn, h.namespaceLabels.lookup]
  unfold bindings
  rw [hl, ha]

theorem isReferenceAllowedFrom_reordered :
    isReferenceAllowedFrom store'.referenceGrants = isReferenceAllowedFrom store.referenceGrants := by
  funext fromGroup fromNamespace fromKind toNamespace toKind toName
  unfold isReferenceAllowedFrom
  rw [h.referenceGrants.values.any_eq]

theorem grantOk_reordered : grantOk store' = grantOk store := by
  funext kind ns backendNs name
  unfold grantOk isReferenceAllowed
  rw [isReferenceAllowedFrom_reordered h]

theorem httpEmissions_reordered : httpEmissions store' = httpEmissions store := by
  funext key hr
  have hru : httpRuleEmissions store' key hr = httpRuleEmissions store key hr := by
    funext b rule
    unfold httpRuleEmissions baseConfigs revokeGrant
    rw [ownerGateway_reordered h, grantOk_reordered h]
  unfold httpEmissions httpBindings
  rw [bindings_reordered h, hru]

theorem grpcEmissions_reordered : grpcEmissions store' = grpcEmissions store := by
  funext key gr
  have hr : grpcRuleEmissions store' key gr = grpcRuleEmissions store key gr := by
    funext b rule
    unfold grpcRuleEmissions grpcPrimary
    rw [ownerGateway_reordered h, grantOk_reordered h]
  unfold grpcEmissions grpcBindings
  rw [bindings_reordered h, hr]

theorem providerRequestHeaders_reordered :
    providerRequestHeaders store' = providerRequestHeaders store := by
  funext p
  unfold providerRequestHeaders
  simp only [h.secrets.lookup]

theorem aiRuleAsHttpRule_reordered : aiRuleAsHttpRule store' = aiRuleAsHttpRule store := by
  funext rule
  unfold aiRuleAsHttpRule
  rw [h.aiProviders.lookup, providerRequestHeaders_reordered h]

end Emissions

section Taken

variable {store store' : ConfigStore}

theorem finishWith_reordered (h : Reordered store store') :
    finishWith store' = finishWith store := by
  have hb : setBasicAuth store' = setBasicAuth store := by
    funext p route
    unfold setBasicAuth
    rw [h.secrets.lookup]
  have ha : setApiKeyAuth store' = setApiKeyAuth store := by
    funext p route
    unfold setApiKeyAuth
    rw [h.secrets.lookup]
  have he : setExtAuth store' = setExtAuth store := by
    funext p route
    unfold setExtAuth referencePermitted
    rw [isReferenceAllowedFrom_reordered h]
  have hc : applyChoice store' = applyChoice store := by
    funext c route
    unfold applyChoice
    rw [hb, ha, he]
  have ho : overrideProtocolIn store' = overrideProtocolIn store := by
    funext ns route
    unfold overrideProtocolIn
    simp only [h.serviceAppProtocols.lookup]
  have hr : annotateAiRouteWith store' = annotateAiRouteWith store := by
    funext budget source route
    unfold annotateAiRouteWith
    simp only [h.aiRoutes.lookup]
  have hp : annotateAiProvider store' = annotateAiProvider store := by
    funext route
    unfold annotateAiProvider providerOfService
    simp only [h.aiProviders.lookup]
  unfold finishWith
  rw [hc, ho, hr, hp]

end Taken

/-- Two results that are the same, or `p` and `q`, of which both or neither is there. -/
def Turn {τ : Type} (p q x y : Option τ) : Prop := p.isSome = q.isSome ∧ (x = y ∨ x = p ∧ y = q)

section MayApply

variable {σ : Type}

/-- A policy that may be taken for a route: an accepted one on the route, or, where there is none, on
a Gateway the route names. None is taken where there is neither. -/
def MayApply (table : Table NamespacedName (PolicyState σ)) (source : RouteSource) :
    Option (PolicyState σ) → Prop
  | some p => p ∈ acceptedPolicies table ∧ (directMatches p.target source = true ∨
      parentMatches p.target source = true ∧
        ∀ q ∈ acceptedPolicies table, directMatches q.target source = false)
  | none => ∀ q ∈ acceptedPolicies table,
      directMatches q.target source = false ∧ parentMatches q.target source = false

variable {table table' : Table NamespacedName (PolicyState σ)} {source : RouteSource}

theorem mayApply_selectPolicy :
    MayApply table source (selectPolicy table source) := by
  rw [selectPolicy_eq]
  cases hd : (acceptedPolicies table).find? fun p => directMatches p.target source with
  | some p =>
    have hp := find?_some hd
    exact ⟨mem_of_find?_eq_some hd, .inl hp⟩
  | none =>
    have hn : ∀ q ∈ acceptedPolicies table, directMatches q.target source = false := by
      intro q hq
      simpa using find?_eq_none.1 hd q hq
    cases hpa : (acceptedPolicies table).find? fun p => parentMatches p.target source with
    | some p =>
      have hp := find?_some hpa
      exact ⟨mem_of_find?_eq_some hpa, .inr ⟨hp, hn⟩⟩
    | none =>
      intro q hq
      exact ⟨hn q hq, by simpa using find?_eq_none.1 hpa q hq⟩

theorem acceptedPolicies_perm (h : table.Reordered table') :
    (acceptedPolicies table).Perm (acceptedPolicies table') :=
  h.values.filter _

theorem mayApply_reordered (h : table.Reordered table') :
    MayApply table' source = MayApply table source := by
  funext taken
  unfold MayApply
  simp only [(acceptedPolicies_perm h).mem_iff]

def foundOn (l : List (PolicyState σ)) (source : RouteSource) : Option (PolicyState σ) :=
  (l.find? fun p => directMatches p.target source).or
    (l.find? fun p => parentMatches p.target source)

theorem turn_foundOn :
    Turn (some p) (some q) (foundOn (p :: q :: l) source) (foundOn (q :: p :: l) source) := by
  refine ⟨rfl, ?_⟩
  unfold foundOn
  rcases find?_swap p q l with hdirect | ⟨hp, hq⟩
  · rw [hdirect]
    cases (q :: p :: l).find? fun r => directMatches r.target source with
    | none =>
      rw [Option.none_or, Option.none_or]
      exact find?_swap p q l
    | some r => exact .inl rfl
  · rw [hp, hq]
    exact .inr ⟨rfl, rfl⟩

theorem foundOn_cons (h : MayApply table source (some p))
    (hl : ∀ q ∈ l, q ∈ acceptedPolicies table) :
    foundOn (p :: l) source = some p := by
  unfold foundOn
  obtain ⟨hp, hd | ⟨hpa, hn⟩⟩ := h
  · rw [find?_cons, hd]
    rfl
  · rw [find?_eq_none.2, find?_cons, hpa]
    · rfl
    · intro q hq
      rcases mem_cons.1 hq with rfl | hq
      · simp [hn q hp]
      · simp [hn q (hl q hq)]

theorem isSome_of_mayApply (hp : MayApply table source p) (hq : MayApply table source q) :
    p.isSome = q.isSome := by
  have hb {r : PolicyState σ} (hr : MayApply table source (some r))
      (hn : MayApply table source none) : False := by
    obtain ⟨hm, hd | ⟨hpa, -⟩⟩ := hr
    · rw [(hn r hm).1] at hd
      cases hd
    · rw [(hn r hm).2] at hpa
      cases hpa
  cases p <;> cases q
  · rfl
  · exact (hb hq hp).elim
  · exact (hb hp hq).elim
  · rfl

theorem exists_turn_selectPolicy {p : Bool → Option (PolicyState σ)}
    (h : ∀ i, MayApply table source (p i)) :
    ∃ t : Bool → Table NamespacedName (PolicyState σ), (∀ i, table.Reordered (t i)) ∧
      (∀ i, selectPolicy (t i) source = p i) ∧ ∀ source', Turn (p false) (p true)
        (selectPolicy (t false) source') (selectPolicy (t true) source') := by
  have hs := isSome_of_mayApply (h false) (h true)
  rw [Bool.forall_bool] at h
  simp only [Bool.forall_bool]
  generalize p false = p, p true = q at h hs ⊢
  match p, q with
  | none, none =>
    have hn : selectPolicy table source = none := by
      rw [selectPolicy_eq, find?_eq_none.2 fun r hr => by simp [(h.1 r hr).1],
        find?_eq_none.2 fun r hr => by simp [(h.1 r hr).2]]
      rfl
    exact ⟨fun _ => table, ⟨.refl _, .refl _⟩, ⟨hn, hn⟩, fun _ => ⟨rfl, .inl rfl⟩⟩
  | some p, some q =>
    have he {r : PolicyState σ} (hr : MayApply table source (some r)) :
        ∃ key, (key, r) ∈ table.pairs ∧ r.accepted = true := by
      obtain ⟨key, hke, ha⟩ := mem_acceptedPolicies.1 hr.1
      exact ⟨key, mem_pairs.2 hke, ha⟩
    obtain ⟨k, hk, hp⟩ := he h.1
    obtain ⟨k', hk', hq⟩ := he h.2
    obtain ⟨t1, t2, l1, l2, ht1, ht2, hp1, hp2, heq⟩ := exists_fronted hk hk'
    have hl1 : acceptedPolicies t1 = p :: (l1.map (·.2)).filter (·.accepted) := by
      rw [acceptedPolicies, values_eq_pairs, hp1, map_cons, filter_cons_of_pos hp]
    have hl2 : acceptedPolicies t2 = q :: (l2.map (·.2)).filter (·.accepted) := by
      rw [acceptedPolicies, values_eq_pairs, hp2, map_cons, filter_cons_of_pos hq]
    have hf {t : Table NamespacedName (PolicyState σ)} (ht : table.Reordered t)
        {x : PolicyState σ} {l : List (PolicyState σ)} (hx : MayApply table source (some x))
        (hl : acceptedPolicies t = x :: l) : selectPolicy t source = some x := by
      rw [selectPolicy_eq, hl]
      refine foundOn_cons hx fun r hr => ?_
      rw [(acceptedPolicies_perm ht).mem_iff, hl]
      exact mem_cons_of_mem _ hr
    refine ⟨fun i => cond i t2 t1, ⟨ht1, ht2⟩, ⟨hf ht1 h.1 hl1, hf ht2 h.2 hl2⟩, fun source' => ?_⟩
    rcases heq with rfl | ⟨rest, rfl, rfl⟩
    · exact ⟨rfl, .inl rfl⟩
    · dsimp only [cond]
      rw [selectPolicy_eq, selectPolicy_eq, hl1, hl2, map_cons, map_cons, filter_cons_of_pos hq,
        filter_cons_of_pos hp]
      exact turn_foundOn

end MayApply

section MayTake

def budgetOf (key : NamespacedName) (p : PolicyState AIUsagePolicy) : AiBudget :=
  ⟨key.display, p.spec.limit, p.spec.unit, p.spec.window, p.spec.per, p.spec.failOpen,
    p.spec.fallbackModel, p.spec.overflowLimit⟩

def budgets (source : RouteSource) (p : PolicyState AIUsagePolicy) : Bool :=
  (p.accepted && p.target.kind == "AIRoute") &&
    (p.target.namespaceName, p.target.name) == (source.namespaceName, source.name)

/-- A budget that may be taken for an AIRoute: that of any accepted policy on it. -/
def MayBudget (store : ConfigStore) (source : RouteSource) : Option AiBudget → Prop
  | some budget => ∃ key p, store.aiUsagePolicies.lookup key = some p ∧ budgets source p = true ∧
      budget = budgetOf key p
  | none => ∀ key p, store.aiUsagePolicies.lookup key = some p → budgets source p = false

theorem lookup_aiBudgets : (aiBudgets store).lookup (source.namespaceName, source.name) =
      ((store.aiUsagePolicies.pairs.reverse.find? fun e => budgets source e.2).map fun e =>
        budgetOf e.1 e.2) := by
  rw [aiBudgets, lookup_collect, filter_map, getLast?_map, Option.map_map,
    filter_filter, getLast?_eq_head?_reverse, ← filter_reverse, head?_filter]
  have ht : (fun e : NamespacedName × PolicyState AIUsagePolicy => budgets source e.2) =
      fun e => ((fun x : (String × String) × AiBudget =>
        decide (x.1 = (source.namespaceName, source.name))) ∘ fun x : NamespacedName ×
          PolicyState AIUsagePolicy => ((x.2.target.namespaceName, x.2.target.name),
            budgetOf x.1 x.2)) e && (e.2.accepted && e.2.target.kind == "AIRoute") := by
    funext e
    simp only [budgets, Function.comp_def, Bool.and_comm, beq_eq_decide]
  rw [ht]
  rfl

theorem mayBudget_reordered {store store' : ConfigStore} {source : RouteSource}
    (h : Reordered store store') : MayBudget store' source = MayBudget store source := by
  funext taken
  unfold MayBudget
  simp only [h.aiUsagePolicies.lookup]

theorem mayBudget_lookup :
    MayBudget store source ((aiBudgets store).lookup (source.namespaceName, source.name)) := by
  rw [lookup_aiBudgets]
  cases hl : store.aiUsagePolicies.pairs.reverse.find? fun e => budgets source e.2 with
  | some e =>
    have hb := find?_some hl
    have hm := mem_reverse.1 (mem_of_find?_eq_some hl)
    exact ⟨e.1, e.2, mem_pairs.1 hm, hb, rfl⟩
  | none =>
    intro key p hp
    have hn := find?_eq_none.1 hl (key, p) (mem_reverse.2 (mem_pairs.2 hp))
    simpa using hn

theorem isSome_of_mayBudget {store : ConfigStore} {source : RouteSource}
    (h : MayBudget store source b) (h' : MayBudget store source b') : b.isSome = b'.isSome := by
  have hbo {budget : AiBudget} (hs : MayBudget store source (some budget))
      (hn : MayBudget store source none) : False := by
    obtain ⟨key, p, hp, hbu, -⟩ := hs
    rw [hn key p hp] at hbu
    cases hbu
  cases b <;> cases b'
  · rfl
  · exact (hbo h' h).elim
  · exact (hbo h h').elim
  · rfl

def budgetOn (l : List (NamespacedName × PolicyState AIUsagePolicy)) (source : RouteSource) :
    Option AiBudget :=
  (l.find? fun e => budgets source e.2).map fun e => budgetOf e.1 e.2

theorem exists_turn_budget {store : ConfigStore} {source : RouteSource}
    {b : Bool → Option AiBudget} (h : ∀ i, MayBudget store source (b i)) :
    ∃ t : Bool → Table NamespacedName (PolicyState AIUsagePolicy),
      (∀ i, store.aiUsagePolicies.Reordered (t i)) ∧
      (∀ i, budgetOn (t i).pairs.reverse source = b i) ∧ ∀ source', Turn (b false) (b true)
        (budgetOn (t false).pairs.reverse source') (budgetOn (t true).pairs.reverse source') := by
  have hs := isSome_of_mayBudget (h false) (h true)
  rw [Bool.forall_bool] at h
  simp only [Bool.forall_bool]
  generalize b false = b, b true = b' at h hs ⊢
  match b, b' with
  | none, none =>
    have hn : budgetOn store.aiUsagePolicies.pairs.reverse source = none := by
      rw [budgetOn, find?_eq_none.2]
      · rfl
      · intro e he
        simp [h.1 e.1 e.2 (mem_pairs.1 (mem_reverse.1 he))]
    exact ⟨fun _ => store.aiUsagePolicies, ⟨.refl _, .refl _⟩, ⟨hn, hn⟩, fun _ => ⟨rfl, .inl rfl⟩⟩
  | some _, some _ =>
    obtain ⟨⟨key, p, hp, hb, rfl⟩, key', p', hp', hb', rfl⟩ := h
    obtain ⟨t1, t2, l1, l2, ht1, ht2, hp1, hp2, heq⟩ :=
      exists_fronted (mem_pairs.2 hp) (mem_pairs.2 hp')
    refine ⟨fun i => cond i t2.backwards t1.backwards, ⟨ht1.trans (reordered_backwards t1),
      ht2.trans (reordered_backwards t2)⟩, ?_, fun source' => ⟨rfl, ?_⟩⟩
    · simp [reverse_pairs_backwards, hp1, hp2, budgetOn, hb, hb']
    · simp only [cond, reverse_pairs_backwards, hp1, hp2, budgetOn]
      rcases heq with rfl | ⟨rest, rfl, rfl⟩
      · rw [hp1.symm.trans hp2]
        exact .inl rfl
      · rcases find?_swap (key, p) (key', p') rest with hsa | ⟨hf, hf'⟩
        · exact .inl (by rw [hsa])
        · rw [hf, hf']
          exact .inr ⟨rfl, rfl⟩

/-- What may be taken for a route, the namespace of its Service apart. -/
structure MayTake (store : ConfigStore) (source : RouteSource) (c : Choice) : Prop where
  rateLimit : MayApply store.rateLimitPolicies source c.rateLimit
  circuitBreaker : MayApply store.circuitBreakerPolicies source c.circuitBreaker
  connection : MayApply store.connectionPolicies source c.connection
  basicAuth : MayApply store.basicAuthPolicies source c.basicAuth
  apiKeyAuth : MayApply store.apiKeyAuthPolicies source c.apiKeyAuth
  jwtAuth : MayApply store.jwtAuthPolicies source c.jwtAuth
  extAuth : MayApply store.extAuthPolicies source c.extAuth
  retry : MayApply store.retryPolicies source c.retry
  ipAllowlist : MayApply store.ipAllowlistPolicies source c.ipAllowlist
  bodySizeLimit : MayApply store.requestBodySizeLimitPolicies source c.bodySizeLimit
  cors : MayApply store.corsPolicies source c.cors
  timeout : MayApply store.timeoutPolicies source c.timeout
  budget : MayBudget store source c.budget

theorem mayTake_takenFor {store store' : ConfigStore} (h : Reordered store store') (e : Emission) :
    MayTake store e.source (takenFor store' e) where
  rateLimit := mayApply_reordered h.rateLimitPolicies ▸ mayApply_selectPolicy
  circuitBreaker := mayApply_reordered h.circuitBreakerPolicies ▸ mayApply_selectPolicy
  connection := mayApply_reordered h.connectionPolicies ▸ mayApply_selectPolicy
  basicAuth := mayApply_reordered h.basicAuthPolicies ▸ mayApply_selectPolicy
  apiKeyAuth := mayApply_reordered h.apiKeyAuthPolicies ▸ mayApply_selectPolicy
  jwtAuth := mayApply_reordered h.jwtAuthPolicies ▸ mayApply_selectPolicy
  extAuth := mayApply_reordered h.extAuthPolicies ▸ mayApply_selectPolicy
  retry := mayApply_reordered h.retryPolicies ▸ mayApply_selectPolicy
  ipAllowlist := mayApply_reordered h.ipAllowlistPolicies ▸ mayApply_selectPolicy
  bodySizeLimit := mayApply_reordered h.requestBodySizeLimitPolicies ▸ mayApply_selectPolicy
  cors := mayApply_reordered h.corsPolicies ▸ mayApply_selectPolicy
  timeout := mayApply_reordered h.timeoutPolicies ▸ mayApply_selectPolicy
  budget := mayBudget_reordered h ▸ mayBudget_lookup

/-- Two choices that are the same, or differ where `c` and `c'` do, the namespaces apart. -/
structure Turned (c c' a b : Choice) : Prop where
  rateLimit : Turn c.rateLimit c'.rateLimit a.rateLimit b.rateLimit
  circuitBreaker : Turn c.circuitBreaker c'.circuitBreaker a.circuitBreaker b.circuitBreaker
  connection : Turn c.connection c'.connection a.connection b.connection
  basicAuth : Turn c.basicAuth c'.basicAuth a.basicAuth b.basicAuth
  apiKeyAuth : Turn c.apiKeyAuth c'.apiKeyAuth a.apiKeyAuth b.apiKeyAuth
  jwtAuth : Turn c.jwtAuth c'.jwtAuth a.jwtAuth b.jwtAuth
  extAuth : Turn c.extAuth c'.extAuth a.extAuth b.extAuth
  retry : Turn c.retry c'.retry a.retry b.retry
  ipAllowlist : Turn c.ipAllowlist c'.ipAllowlist a.ipAllowlist b.ipAllowlist
  bodySizeLimit : Turn c.bodySizeLimit c'.bodySizeLimit a.bodySizeLimit b.bodySizeLimit
  cors : Turn c.cors c'.cors a.cors b.cors
  timeout : Turn c.timeout c'.timeout a.timeout b.timeout
  budget : Turn c.budget c'.budget a.budget b.budget

end MayTake

end Portus.Compiler

import Portus.Compiler.Contents
import Portus.Compiler.Encoding
import Portus.Compiler.Ties
import Portus.StoreWalks

/-!
# Stability of the fingerprint

The fingerprint of a configuration is the sum of the hashes of its messages, so that the
order in which the maps of the store are walked should not show in it. It shows where the
order decides what a message says: in the maps that are written entry by entry, in the list
of the API keys of a Secret, and where several policies, budgets, namespaces or routes of
equal rank may be taken. `Settled` says of a store that none of these decides anything, and
`stable_iff` that this is what stability takes.
-/

namespace Portus

open Lib Proto Compiler List Option Table

variable (store : ConfigStore)

def Outcome (c : CompiledConfig) : Prop :=
  ∃ s order, SameContent store s ∧ (compileConfig order s).Walked c

/-- One content has one fingerprint, and one for the slice of each Gateway. -/
def Stable (hash : Element → UInt64) (store : ConfigStore) : Prop :=
  ∀ c1 c2, Outcome store c1 → Outcome store c2 →
    configFingerprint hash c1 = configFingerprint hash c2 ∧
      ∀ gw, (scopeConfig hash c1 gw).fingerprint = (scopeConfig hash c2 gw).fingerprint

def credentialsOf (p : PolicyState BasicAuthPolicy) : Table String String :=
  ((store.secrets.lookup ⟨p.spec.secretNamespace, p.spec.secretName⟩).map (·.data)).getD ∅

def apiKeysOf (p : PolicyState ApiKeyAuthPolicy) : List String :=
  ((store.secrets.lookup ⟨p.spec.secretNamespace, p.spec.secretName⟩).map (·.data.values)).getD []

/-- A namespace in which a Service may be looked up: that behind a route that may be the last to
name it. -/
def MayLookUp (service : String × UInt16) : Option String → Prop
  | none => ∀ x ∈ storedRoutes store, x.2.namespaceBehind store service = none
  | some ns => ∃ z, MayBeLast store (fun x => (x.2.namespaceBehind store service).isSome) z ∧
      z.2.namespaceBehind store service = some ns

def MayBeTaken (e : Emission) (c : Choice) : Prop :=
  MayTake store e.source c ∧ MayLookUp store (serviceBehind e) c.backendNs

/-- Routes that may hold one listener program the same. -/
def OneEntry (protocol : String) (routes : List (NamespacedName × L4RouteState)) : Prop :=
  ∀ listenerKey, ∀ x ∈ routes, ∀ y ∈ routes, mayHold store protocol routes listenerKey x = true →
    mayHold store protocol routes listenerKey y = true →
    (candidateOn store protocol listenerKey x).bind (·.entry) =
      (candidateOn store protocol listenerKey y).bind (·.entry)

/-- Nothing that is written depends on an order. -/
structure Settled (store : ConfigStore) : Prop where
  /-- Whatever may be taken for a configuration sets the same. -/
  choices : ∀ e ∈ emissions store, ∀ c c', MayBeTaken store e c → MayBeTaken store e c' →
    chosenBy store c e = chosenBy store c' e
  /-- A header mutation adds at most one header and sets at most one. -/
  headers : ∀ e ∈ emissions store, e.route.SingleHeaders
  /-- A BasicAuthPolicy that may be taken has at most one user. -/
  credentials : ∀ e ∈ emissions store, ∀ p, MayApply store.basicAuthPolicies e.source (some p) →
    (credentialsOf store p).pairs.length ≤ 1
  /-- An APIKeyAuthPolicy that may be taken where no BasicAuthPolicy is has one key. -/
  apiKeys : ∀ e ∈ emissions store, MayApply store.basicAuthPolicies e.source none → ∀ p,
    MayApply store.apiKeyAuthPolicies e.source (some p) →
      ∀ k ∈ apiKeysOf store p, ∀ k' ∈ apiKeysOf store p, k = k'
  /-- A member of a federation is sent at most one header. -/
  members : ∀ fed ∈ mcpFederationProviders store, ∀ m ∈ federationMembers store fed,
    (Table.collect (providerRequestHeaders store m.2)).pairs.length ≤ 1
  /-- The health checks on a referenced Service are the same. -/
  health : ∀ key, Referenced store key → ∀ p ∈ store.healthCheckPolicies.values,
    ∀ q ∈ store.healthCheckPolicies.values, checksHealthOf key p = true →
      checksHealthOf key q = true → p.spec = q.spec
  /-- The BackendTLSPolicies that may be taken for a referenced Service port are the same. -/
  tls : ∀ key, Referenced store key → ∀ p q, MayProtect store key p → MayProtect store key q →
    p.spec = q.spec
  tcp : OneEntry store "TCP" store.tcpRoutes.pairs
  udp : OneEntry store "UDP" store.udpRoutes.pairs

section Sufficient

variable {store s m : ConfigStore}

theorem mayLookUp_takenFor (h : Reordered store s) :
    MayLookUp store (serviceBehind e) (takenFor s e).backendNs := by
  rcases behind_takenFor h e with ⟨hc, hn⟩ | ⟨z, ns, hc, hl, hns⟩
  · rw [hc]
    exact hn
  · rw [hc]
    exact ⟨z, mayBeLast_of_find? h hl, hns⟩

theorem mayBeTaken_takenFor (h : Reordered store s) :
    MayBeTaken store e (takenFor s e) :=
  ⟨mayTake_takenFor h e, mayLookUp_takenFor h⟩

theorem finishRoute_settled (h : Settled store) (hm : Reordered store m)
    (he : e ∈ emissions store) : finishRoute m e = finishRoute store e := by
  rw [finishRoute_eq, finishRoute_eq, finishWith_reordered hm]
  refine finishWith_congr store ?_
  rw [chosenFields_finishWith, chosenFields_finishWith]
  exact h.choices e he _ _ (mayBeTaken_takenFor hm) (mayBeTaken_takenFor (.refl store))

theorem authOver_none : authOver store c none =
    ((c.basicAuth.map fun p => AuthType.basicAuth (credentialsOf store p) p.spec.realm).or
      (c.apiKeyAuth.map fun p => AuthType.apiKey (apiKeysOf store p) p.spec.headerName)).or
        (c.jwtAuth.bind fun p => (setJwtAuth p {}).auth) := by
  unfold authOver
  cases c.basicAuth <;> cases c.apiKeyAuth <;> rfl

theorem getD_rewalked {R : β → β → Prop} {f : SecretState → β} (h : Rewalked m s) (hd : R d d)
    (hf : ∀ a b, a.data.Reordered b.data → R (f a) (f b)) :
    R (((m.secrets.lookup key).map f).getD d) (((s.secrets.lookup key).map f).getD d) := by
  have hr := h.secrets.lookup key
  generalize m.secrets.lookup key = x at hr ⊢
  generalize s.secrets.lookup key = y at hr ⊢
  cases hr with
  | none => exact hd
  | some hda => exact hf _ _ hda

theorem credentialsOf_rewalked (h : Rewalked m s) :
    (credentialsOf m p).Reordered (credentialsOf s p) :=
  getD_rewalked h (.refl _) (fun _ _ hd => hd)

theorem apiKeysOf_rewalked (h : Rewalked m s) : (apiKeysOf m p).Perm (apiKeysOf s p) :=
  getD_rewalked h (.refl _) (fun _ _ hd => hd.values)

theorem credentialsOf_reordered (h : Reordered store m) : credentialsOf m = credentialsOf store := by
  funext p
  unfold credentialsOf
  rw [h.secrets.lookup]

theorem apiKeysOf_reordered (h : Reordered store m) : apiKeysOf m = apiKeysOf store := by
  funext p
  unfold apiKeysOf
  rw [h.secrets.lookup]

section

variable (h : Settled store) (hm : Reordered store m) (hs : Rewalked m s) (he : e ∈ emissions store)

include h hm hs he

theorem authOver_settled : authOver s (takenFor m e) none = authOver m (takenFor m e) none := by
  have ht := mayTake_takenFor hm e
  rw [authOver_none, authOver_none]
  cases hb : (takenFor m e).basicAuth with
  | some p =>
    have hsi := h.credentials e he p (hb ▸ ht.basicAuth)
    rw [← credentialsOf_reordered hm] at hsi
    have hsa := rigid_reordered.2 hsi _ (credentialsOf_rewalked hs)
    simp [hsa]
  | none =>
    cases ha : (takenFor m e).apiKeyAuth with
    | none => rfl
    | some p =>
      have ho := h.apiKeys e he (hb ▸ ht.basicAuth) p (ha ▸ ht.apiKeyAuth)
      rw [← apiKeysOf_reordered hm] at ho
      have hsa := rigid_perm.2 ho _ (apiKeysOf_rewalked hs)
      simp [hsa]

theorem finishRoute_outcome : finishRoute s e = finishRoute store e := by
  have ho : e.route.auth = none := (unannotated_of_mem_emissions he).auth
  have ha : authOver s (takenFor m e) e.route.auth = (finishRoute m e).auth := by
    rw [auth_finishRoute, ho]
    exact authOver_settled h hm hs he
  rw [finishRoute_rewalked hs, ha]
  exact finishRoute_settled h hm he

end

theorem headers_finishRoute : (finishRoute store e).requestHeaders = e.route.requestHeaders ∧
      (finishRoute store e).responseHeaders = e.route.responseHeaders ∧
      (finishRoute store e).weightedBackends = e.route.weightedBackends := by
  let headers (r : RouteConfig) := (r.requestHeaders, r.responseHeaders, r.weightedBackends)
  have hf : headers (finishRoute store e) = headers e.route := by
    rw [finishRoute_eq, passes_frame (f := headers) (by intros; rfl) (by intros; rfl)
      (by intros; rfl), applyChoice_frame (f := headers) (by intros; rfl)]
  exact ⟨congrArg (·.1) hf, congrArg (·.2.1) hf, congrArg (·.2.2) hf⟩

theorem singleHeaders_finishRoute :
    (finishRoute store e).SingleHeaders ↔ e.route.SingleHeaders := by
  obtain ⟨hreq, hres, hw⟩ := headers_finishRoute
  constructor
  all_goals
    rintro ⟨h1, h2, h3⟩
    exact ⟨hreq ▸ h1, hres ▸ h2, hw ▸ h3⟩

theorem auth_finishRoute_basicAuth (he : e ∈ emissions store) :
    (finishRoute store e).auth = some (.basicAuth credentials realm) ↔
      ∃ p, selectPolicy store.basicAuthPolicies e.source = some p ∧
        credentialsOf store p = credentials ∧ p.spec.realm = realm := by
  rw [auth_finishRoute, (unannotated_of_mem_emissions he).auth, authOver_none]
  show ((Option.map _ (selectPolicy store.basicAuthPolicies e.source)).or _).or _ = _ ↔ _
  cases selectPolicy store.basicAuthPolicies e.source with
  | some p => simp
  | none =>
    cases (takenFor store e).apiKeyAuth with
    | some p => simp
    | none => cases (takenFor store e).jwtAuth <;> simp [setJwtAuth]

variable (h : Settled store)

include h

theorem rigid_finishRoute (he : e ∈ emissions store) :
    Rigid RouteConfig.Walked (finishRoute store e) := by
  refine rigid_route.2 ⟨singleHeaders_finishRoute.2 (h.headers e he), fun credentials realm ha => ?_⟩
  obtain ⟨p, hp, rfl, -⟩ := (auth_finishRoute_basicAuth he).1 ha
  exact h.credentials e he p (hp ▸ mayApply_selectPolicy)

theorem compileRoutes_settled (hm : Reordered store m) (hs : Rewalked m s) :
    (compileRoutes store).Perm (compileRoutes s) := by
  unfold compileRoutes
  rw [emissions_rewalked hs, ← map_congr_left fun e he => finishRoute_outcome h hm hs he]
  exact (emissions_perm hm).map _

theorem backendGroup_settled (hm : Reordered store m)
    (hk : Referenced store key) : backendGroup m key = backendGroup store key := by
  have he : endpointsOf m key = endpointsOf store key := by
    unfold endpointsOf
    dsimp only
    rw [hm.servicePortMap.lookup, hm.endpoints.lookup]
  have ht := backendTlsPolicyOf_reordered hm (h.tls key hk)
  have hc (s : ConfigStore) : ((backendTlsPolicyOf s key).map fun p => BackendTlsConfig.mk
      p.spec.caCertPem p.spec.hostname p.spec.subjectAltNames) =
      ((backendTlsPolicyOf s key).map (·.spec)).map fun spec => BackendTlsConfig.mk
        spec.caCertPem spec.hostname spec.subjectAltNames := by
    rw [Option.map_map]
    rfl
  unfold backendGroup
  rw [he, healthCheckOf_reordered hm (h.health key hk), hc, hc, ht]

omit h in
theorem l4_settled {table : Table NamespacedName L4RouteState}
    (h : OneEntry store protocol table.pairs) (hm : Reordered store m)
    (ht : table.Reordered table') :
    (compileL4Routes store protocol table.pairs).Perm (compileL4Routes m protocol table'.pairs) := by
  rw [compileL4Routes_perm, entryOn_reordered hm]
  exact (entryOn_perm ht.pairs h).symm

theorem sameMessages_settled (hm : Reordered store m) (hs : Rewalked m s)
    (order : IterOrder ServiceKey) :
    SameMessages (compileConfig .insertion store) (compileConfig order s) := by
  have hr := compileRoutes_settled h hm hs
  have hroute := compileRoutes_settled h hm (.refl m)
  have hkeys : (backendKeys store).Perm (backendKeys m) :=
    backendKeys_reordered hm (emissions_perm hm) fun e he =>
      congrArg RouteConfig.extAuth (finishRoute_settled h hm he)
  rw [compileConfig_rewalked hs]
  exact
    { routes := hr
      backends := by
        have hg : (backendKeys store).map (backendGroup store) =
            (backendKeys store).map (backendGroup m) :=
          map_congr_left fun key hkey => (backendGroup_settled h hm (mem_backendKeys.1 hkey)).symm
        show ((backendKeys store).map (backendGroup store)).Perm
          ((order.order (backendKeys m)).map (backendGroup m))
        rw [hg]
        exact (hkeys.trans (order.perm _).symm).map _
      listeners := compileListeners_reordered hm
      tlsPassthroughRoutes := by
        show (store.tlsRoutes.values.filterMap (compileTlsRoute store)).Perm
          (m.tlsRoutes.values.filterMap (compileTlsRoute m))
        rw [compileTlsRoute_reordered hm]
        exact hm.tlsRoutes.values.filterMap _
      tcpProxyRoutes := l4_settled h.tcp hm hm.tcpRoutes
      udpProxyRoutes := l4_settled h.udp hm hm.udpRoutes
      tlsPassthroughListenerHostnames := hm.gateways.values.flatMap_right _
      gatewayBackendTls := compileGatewayBackendTls_reordered hm
      mcpFederations := compileMcpFederations_reordered hm
      issuerKeys := compileIssuerKeys_perm hm hroute }

omit h in
theorem rigid_compileL4Routes (ht : t ∈ compileL4Routes store protocol routes) :
    Rigid L4ProxyRoute.Walked t := by
  obtain ⟨c, -, hc⟩ := mem_filterMap.1 ht
  obtain ⟨first, -, rfl⟩ := map_eq_some_iff.1 hc
  refine rigid_l4ProxyRoute fun w hw => ?_
  obtain ⟨b, -, rfl⟩ := List.mem_map.1 hw
  rfl

omit h in
theorem mem_compileMcpFederations : f ∈ compileMcpFederations store ↔
    ∃ fed ∈ mcpFederationProviders store, f =
      { name := fed.namespaceName ++ "/" ++ fed.name
        members := (federationMembers store fed).map fun m =>
          { name := m.1.name, serviceName := m.2.serviceName, port := m.2.port.toUInt32
            tls := m.2.tls, sni := m.2.host, host := m.2.host
            headers := collect (providerRequestHeaders store m.2), path := m.1.path } } := by
  rw [compileMcpFederations, mem_insertionSort, List.mem_map]
  simp only [eq_comm]

theorem rigid_compileMcpFederations (hf : f ∈ compileMcpFederations store) :
    Rigid McpFederation.Walked f := by
  obtain ⟨fed, hfe, rfl⟩ := mem_compileMcpFederations.1 hf
  refine rigid_federation.2 fun member hm => ?_
  obtain ⟨x, hx, rfl⟩ := List.mem_map.1 hm
  exact h.members fed hfe x hx

theorem walked_settled (hm : Reordered store m) (hs : Rewalked m s)
    (hc : (compileConfig order s).Walked c) : c = compileConfig order s := by
  have hsa := sameMessages_settled h hm hs order
  have hro : c.routes = (compileConfig order s).routes := by
    refine (rigid_forall₂ RouteConfig.Walked.refl).2 (fun r hr => ?_) _ hc.routes
    obtain ⟨e, he, rfl⟩ := List.mem_map.1 (hsa.routes.mem_iff.2 hr)
    exact rigid_finishRoute h he
  have htc : c.tcpProxyRoutes = (compileConfig order s).tcpProxyRoutes :=
    (rigid_forall₂ L4ProxyRoute.Walked.refl).2 (fun _ ht => rigid_compileL4Routes ht) _
      hc.tcpProxyRoutes
  have hu : c.udpProxyRoutes = (compileConfig order s).udpProxyRoutes :=
    (rigid_forall₂ L4ProxyRoute.Walked.refl).2 (fun _ ht => rigid_compileL4Routes ht) _
      hc.udpProxyRoutes
  have hfe : c.mcpFederations = (compileConfig order s).mcpFederations :=
    (rigid_forall₂ McpFederation.Walked.refl).2 (fun f hf =>
      rigid_compileMcpFederations h (hsa.mcpFederations.mem_iff.2 hf)) _ hc.mcpFederations
  have ho := hc.others
  rwa [← hro, ← htc, ← hu, ← hfe] at ho

theorem sameMessages_outcome (hc : Outcome store c) :
    SameMessages (compileConfig .insertion store) c := by
  obtain ⟨s, order, ⟨m, hm, hs⟩, hw⟩ := hc
  rw [walked_settled h hm hs hw]
  exact sameMessages_settled h hm hs order

end Sufficient

/-- All that may be encoded for a store has the same elements. -/
def OneMultiset : Prop :=
  ∀ c1 c2, Outcome store c1 → Outcome store c2 → (elements c1).Perm (elements c2)

theorem outcome_reordered {store s : ConfigStore} (h : Reordered store s) :
    Outcome store (compileConfig .insertion s) :=
  ⟨s, .insertion, .of_reordered h, .refl _⟩

section Necessary

variable {store s : ConfigStore} (h : OneMultiset store)

include h

theorem OneMultiset.rigid_route (hs : Reordered store s)
    (he : e ∈ emissions store) : Rigid RouteConfig.Walked (finishRoute s e) := by
  have hm : finishRoute s e ∈ (compileConfig .insertion s).routes :=
    List.mem_map.2 ⟨e, (emissions_perm hs).mem_iff.1 he, rfl⟩
  refine rigid_of_perm RouteConfig.Walked.refl (fun l hl => ?_) hm
  exact routes_perm (h _ { compileConfig .insertion s with routes := l } (outcome_reordered hs)
    ⟨s, .insertion, .of_reordered hs, { CompiledConfig.Walked.refl _ with routes := hl, others := rfl }⟩)

theorem OneMultiset.headers (he : e ∈ emissions store) :
    e.route.SingleHeaders :=
  singleHeaders_finishRoute.1 (Proto.rigid_route.1 (h.rigid_route (.refl store) he)).1

theorem OneMultiset.credentials (he : e ∈ emissions store)
    (hp : MayApply store.basicAuthPolicies e.source (some p)) :
    (credentialsOf store p).pairs.length ≤ 1 := by
  obtain ⟨t, ht, hse, -⟩ := exists_turn_selectPolicy fun _ => hp
  have hs : Reordered store { store with basicAuthPolicies := t true } :=
    { Reordered.refl store with basicAuthPolicies := ht true }
  have he' := (emissions_perm hs).mem_iff.1 he
  have ha := (auth_finishRoute_basicAuth he').2 ⟨p, hse true, rfl, rfl⟩
  exact (Proto.rigid_route.1 (h.rigid_route hs he)).2 _ _ ha

theorem OneMultiset.rigid_federation (hf : f ∈ compileMcpFederations store) : Rigid McpFederation.Walked f := by
  refine rigid_of_perm McpFederation.Walked.refl (fun l hl => ?_) hf
  exact mcpFederations_perm (h _ { compileConfig .insertion store with mcpFederations := l }
    (outcome_reordered (.refl store)) ⟨store, .insertion, .of_reordered (.refl store),
      { CompiledConfig.Walked.refl _ with mcpFederations := hl, others := rfl }⟩)

theorem OneMultiset.members (hf : fed ∈ mcpFederationProviders store)
    {m : AIFederationMember × AIProviderState} (hm : m ∈ federationMembers store fed) :
    (collect (providerRequestHeaders store m.2)).pairs.length ≤ 1 := by
  have hr := h.rigid_federation (mem_compileMcpFederations.2 ⟨fed, hf, rfl⟩)
  exact Proto.rigid_federation.1 hr _ (List.mem_map.2 ⟨m, hm, rfl⟩)

def keysPart : Option AuthType → Option (List String)
  | some (.apiKey validKeys _) => some validKeys
  | _ => none

omit h in
theorem keysPart_authOver : keysPart (authOver store c none) =
    if c.basicAuth.isSome then none else c.apiKeyAuth.map (apiKeysOf store) := by
  rw [authOver_none]
  cases c.basicAuth <;> cases c.apiKeyAuth <;> cases c.jwtAuth <;> rfl

def withData (store : ConfigStore) (key : NamespacedName) (data : Table String String) :
    ConfigStore :=
  { store with secrets := store.secrets.mapEntries fun k v => if k = key then ⟨data⟩ else v }

omit h in
theorem rewalked_withData (hs : store.secrets.lookup key = some secret)
    (hd : secret.data.Reordered data) : Rewalked store (withData store key data) := by
  refine { Rewalked.refl store with secrets := ?_, others := rfl }
  refine entrywise_mapEntries fun k v hv => ?_
  by_cases hk : k = key
  · subst hk
    rw [mem_pairs, hs] at hv
    cases hv
    rwa [if_pos rfl]
  · rw [if_neg hk]
    exact .refl _

omit h in
theorem apiKeysOf_withData (hs : store.secrets.lookup key = some secret) :
    apiKeysOf (withData store key data) p =
      if ⟨p.spec.secretNamespace, p.spec.secretName⟩ = key then data.values
      else apiKeysOf store p := by
  rw [apiKeysOf, withData, lookup_mapEntries]
  split
  next hk => rw [hk, hs]; rfl
  next => rw [Option.map_id_fun']; rfl

theorem OneMultiset.apiKeys (he : e ∈ emissions store)
    (hb : MayApply store.basicAuthPolicies e.source none)
    (hp : MayApply store.apiKeyAuthPolicies e.source (some p)) :
    ∀ k ∈ apiKeysOf store p, ∀ k' ∈ apiKeysOf store p, k = k' := by
  intro k hk k' hk'
  by_contra hne
  obtain ⟨basic, hbasic, hs, -⟩ := exists_turn_selectPolicy fun _ => hb
  obtain ⟨api, hapi, hs', -⟩ := exists_turn_selectPolicy fun _ => hp
  obtain ⟨secret, hsec, hv⟩ : ∃ secret, store.secrets.lookup
      ⟨p.spec.secretNamespace, p.spec.secretName⟩ = some secret ∧
        apiKeysOf store p = secret.data.values := by
    unfold apiKeysOf at hk ⊢
    cases hl : store.secrets.lookup ⟨p.spec.secretNamespace, p.spec.secretName⟩ with
    | none => rw [hl] at hk; cases hk
    | some secret => exact ⟨secret, rfl, rfl⟩
  rw [hv] at hk hk'
  obtain ⟨d1, d2, rest, hd1, hd2, hvalue, hvalues2⟩ := exists_swapped hk hk' hne
  let s1 : ConfigStore :=
    { store with basicAuthPolicies := basic true, apiKeyAuthPolicies := api true }
  have hs1 : Reordered store s1 :=
    { Reordered.refl store with basicAuthPolicies := hbasic true, apiKeyAuthPolicies := hapi true }
  let key : NamespacedName := ⟨p.spec.secretNamespace, p.spec.secretName⟩
  have hou {data : Table String String} (hd : secret.data.Reordered data) :
      Outcome store (compileConfig .insertion (withData s1 key data)) :=
    ⟨_, .insertion, ⟨s1, hs1, rewalked_withData hsec hd⟩, .refl _⟩
  let keysOf (data : Table String String) (e : Emission) : Option (List String) :=
    if (takenFor s1 e).basicAuth.isSome then none else
      (takenFor s1 e).apiKeyAuth.map (apiKeysOf (withData s1 key data))
  have hke {data : Table String String} (hd : secret.data.Reordered data) :
      (compileConfig .insertion (withData s1 key data)).routes.map (keysPart ·.auth) =
        (emissions s1).map (keysOf data) := by
    have hw : Rewalked s1 (withData s1 key data) := rewalked_withData hsec hd
    show ((emissions (withData s1 key data)).map _).map _ = _
    rw [emissions_rewalked hw, List.map_map]
    refine map_congr_left fun e he => ?_
    show keysPart (finishRoute (withData s1 key data) e).auth = _
    rw [auth_finishRoute, (unannotated_of_mem_emissions he).auth, keysPart_authOver,
      takenFor_rewalked hw]
  have hpe := (routes_perm (h _ _ (hou hd1) (hou hd2))).map (keysPart ·.auth)
  rw [hke hd1, hke hd2] at hpe
  have hd (data : Table String String) (q : PolicyState ApiKeyAuthPolicy) :
      apiKeysOf (withData s1 key data) q =
        if ⟨q.spec.secretNamespace, q.spec.secretName⟩ = key then data.values
        else apiKeysOf s1 q := apiKeysOf_withData hsec
  have hsa := eq_of_map_perm hpe (v := some (k :: k' :: rest)) (fun e' _ => ?_) e
    ((emissions_perm hs1).mem_iff.1 he)
  · have how (data : Table String String) : keysOf data e = some data.values := by
      show (if (selectPolicy (basic true) e.source).isSome then none else
        (selectPolicy (api true) e.source).map (apiKeysOf (withData s1 key data))) = _
      rw [hs, hs']
      exact congrArg some ((hd data p).trans (if_pos rfl))
    rw [how, how, hvalue, hvalues2] at hsa
    exact hne (head_eq_of_cons_eq (Option.some.inj hsa))
  · show (if _ then _ else _) = (if _ then _ else _) ∨ (if _ then _ else _) = _
    split
    · exact .inl rfl
    · cases (takenFor s1 e').apiKeyAuth with
      | none => exact .inl rfl
      | some q =>
        simp only [map_some, hd]
        split
        · exact .inr (congrArg some hvalue)
        · exact .inl rfl

/-- What one policy table puts into the groups does not depend on the order of the table. -/
theorem OneMultiset.group {β σ : Type} {p q : σ} {table : Table NamespacedName σ}
    {chosen : Table NamespacedName σ → ServiceKey → Option σ}
    (reorder : Table NamespacedName σ → ConfigStore) (field : BackendGroup → Option β) (config : σ → β)
    (hs : ∀ t, table.Reordered t → Reordered store (reorder t))
    (hb : ∀ t, backendKeys (reorder t) = backendKeys store)
    (hg : ∀ t key, field (backendGroup (reorder t) key) = (chosen t key).map config)
    (hk : Referenced store key)
    (ht : ∃ t1 t2, table.Reordered t1 ∧ table.Reordered t2 ∧ chosen t1 key = some p ∧
      chosen t2 key = some q ∧ ∀ key, Turn (some p) (some q) (chosen t1 key) (chosen t2 key)) :
    config p = config q := by
  obtain ⟨t1, t2, ht1, ht2, hp, hq, ht⟩ := ht
  have hm (t) : (compileConfig .insertion (reorder t)).backends.map field =
      (backendKeys store).map fun key => (chosen t key).map config := by
    show ((backendKeys (reorder t)).map _).map field = _
    rw [hb, List.map_map]
    exact map_congr_left fun key _ => hg t key
  have hpe := (backends_perm
    (h _ _ (outcome_reordered (hs t1 ht1)) (outcome_reordered (hs t2 ht2)))).map field
  rw [hm, hm] at hpe
  have hsa := eq_of_turn (p := some p) (q := some q) (fun key _ => ht key)
    (F := fun o (_ : ServiceKey) => o.map config) (sets_const (fun _ => none) fun _ _ => rfl) hpe
    key (mem_backendKeys.2 hk)
  rw [hp, hq] at hsa
  exact Option.some.inj hsa

theorem OneMultiset.health (hk : Referenced store key)
    (hp : p ∈ store.healthCheckPolicies.values) (hq : q ∈ store.healthCheckPolicies.values)
    (hpc : checksHealthOf key p = true) (hqc : checksHealthOf key q = true) : p.spec = q.spec := by
  by_contra hspec
  have hne : p ≠ q := fun heq => hspec (congrArg _ heq)
  refine hspec (healthCheckConfig_injective (h.group
    (fun t => { store with healthCheckPolicies := t }) (·.healthCheck)
    (fun p => healthCheckConfig p.spec)
    (fun t ht => { Reordered.refl store with healthCheckPolicies := ht }) (fun _ => rfl)
    (fun _ _ => rfl) hk (exists_turn_health hp hq hne hpc hqc)))

theorem OneMultiset.tls (hk : Referenced store key)
    (hp : MayProtect store key p) (hq : MayProtect store key q) : p.spec = q.spec := by
  by_contra hspec
  have hne : p ≠ q := fun heq => hspec (congrArg _ heq)
  let config (p : PolicyState BackendTLSPolicy) : BackendTlsConfig :=
    ⟨p.spec.caCertPem, p.spec.hostname, p.spec.subjectAltNames⟩
  have hc : config p = config q := h.group
    (fun t => { store with backendTlsPolicies := t }) (·.backendTls) config
    (fun t ht => { Reordered.refl store with backendTlsPolicies := ht }) (fun _ => rfl)
    (fun _ _ => rfl) hk (exists_turn_tls hp hq hne)
  have hpa (p : PolicyState BackendTLSPolicy) :
      p.spec = ⟨(config p).caCertPem, (config p).hostname, (config p).subjectAltNames⟩ := rfl
  exact hspec (by rw [hpa p, hc])

omit h in
theorem oneEntry_of_perm {table : Table NamespacedName L4RouteState}
    (h : ∀ t1 t2, table.Reordered t1 → table.Reordered t2 →
      (compileL4Routes store protocol t1.pairs).Perm (compileL4Routes store protocol t2.pairs)) :
    OneEntry store protocol table.pairs := by
  intro listenerKey x hx y hy hhold hholdy
  obtain ⟨t1, ht1, he⟩ := exists_entryOn hx hhold
  obtain ⟨t2, ht2, hentry⟩ := exists_entryOn hy hholdy
  rw [← he, ← hentry, compileL4Routes_perm.1 (h t1 t2 ht1 ht2)]

theorem OneMultiset.tcp : OneEntry store "TCP" store.tcpRoutes.pairs := by
  have hs (t) (ht : store.tcpRoutes.Reordered t) : Reordered store { store with tcpRoutes := t } :=
    { Reordered.refl store with tcpRoutes := ht }
  exact oneEntry_of_perm fun t1 t2 ht1 ht2 => (perm_append_right_iff _).1 (l4ProxyRoutes_perm
    (h _ _ (outcome_reordered (hs t1 ht1)) (outcome_reordered (hs t2 ht2))))

theorem OneMultiset.udp : OneEntry store "UDP" store.udpRoutes.pairs := by
  have hs (t) (ht : store.udpRoutes.Reordered t) : Reordered store { store with udpRoutes := t } :=
    { Reordered.refl store with udpRoutes := ht }
  exact oneEntry_of_perm fun t1 t2 ht1 ht2 => (perm_append_left_iff _).1 (l4ProxyRoutes_perm
    (h _ _ (outcome_reordered (hs t1 ht1)) (outcome_reordered (hs t2 ht2))))

omit h in
theorem exists_walk_lookUp (h : MayLookUp store service ns) : ∃ s, Reordered store s ∧
    ((storedRoutes s).reverse.find? fun x => (x.2.namespaceBehind store service).isSome).bind
      (·.2.namespaceBehind store service) = ns := by
  obtain ⟨s, hs, -, hl⟩ := exists_order_behind (A := none) (T := fun _ => false) ns (by simp)
    (fun hn => by rwa [hn] at h) fun n hn => by
      rw [mem_def.1 hn] at h
      obtain ⟨z, hz, hzn⟩ := h
      exact ⟨z, hz, hzn, by simp⟩
  exact ⟨s, hs, hl⟩

theorem OneMultiset.choices (he : e ∈ emissions store)
    (hc : MayBeTaken store e c) (hc' : MayBeTaken store e c') :
    chosenBy store c e = chosenBy store c' e := by
  obtain ⟨s, hs, hl⟩ := exists_walk_lookUp hc.2
  obtain ⟨s', hs', hl'⟩ := exists_walk_lookUp hc'.2
  obtain ⟨stores, hr, -, hn, ho, ht⟩ := exists_turned (c := (cond · c' c)) (s := (cond · s' s))
    (Bool.forall_bool.2 ⟨hc.1, hc'.1⟩) (Bool.forall_bool.2 ⟨hs, hs'⟩) (Bool.forall_bool.2 ⟨hl, hl'⟩)
  have hco (i : Bool) : ((emissions store).map fun e => finishWith store (takenFor (stores i) e) e).Perm
      (compileConfig .insertion (stores i)).routes := by
    have hf : (fun e => finishWith store (takenFor (stores i) e) e) = finishRoute (stores i) := by
      funext e
      rw [finishRoute_eq, finishWith_reordered (hr i)]
    rw [hf]
    exact (emissions_perm (hr i)).map _
  have hp := (hco false).trans ((routes_perm (h _ _ (outcome_reordered (hr false))
    (outcome_reordered (hr true)))).trans (hco true).symm)
  have hf := finishWith_eq_of_perm (fun e _ => ht e) hp
    (fun e' _ hse => ⟨hn false e' hse, hn true e' hse⟩) he rfl
  rw [ho false e rfl rfl, ho true e rfl rfl] at hf
  rw [← chosenFields_finishWith, ← chosenFields_finishWith]
  exact congrArg chosenFields hf

omit h in
theorem oneMultiset_iff : OneMultiset store ↔ Settled store := by
  refine ⟨fun h => ?_, fun h c1 c2 hc1 hc2 => ((sameMessages_outcome h hc1).symm.trans
    (sameMessages_outcome h hc2)).elements⟩
  exact {
    choices := fun e he c c' hc hc' => h.choices he hc hc'
    headers := fun e he => h.headers he
    credentials := fun e he p hp => h.credentials he hp
    apiKeys := fun e he hb p hp => h.apiKeys he hb hp
    members := fun fed hf m hm => h.members hf hm
    health := fun key hk p hp q hq hpc hqc => h.health hk hp hq hpc hqc
    tls := fun key hk p q hp hq => h.tls hk hp hq
    tcp := h.tcp
    udp := h.udp }

end Necessary

/-- One content has one fingerprint exactly when nothing that is written depends on an order, if
no two configurations that may be encoded for it collide. -/
theorem stable_iff (hash : Element → UInt64) (store : ConfigStore)
    (hfree : ∀ c1 c2, Outcome store c1 → Outcome store c2 → CollisionFree hash c1 c2) :
    Stable hash store ↔ Settled store := by
  refine ⟨fun h => oneMultiset_iff.1 fun c1 c2 hc1 hc2 => hfree c1 c2 hc1 hc2 (h c1 c2 hc1 hc2).1,
    fun h c1 c2 hc1 hc2 => ?_⟩
  have hs := (sameMessages_outcome h hc1).symm.trans (sameMessages_outcome h hc2)
  exact ⟨hs.configFingerprint hash, fun gw => (hs.slice gw).configFingerprint hash⟩

/-- Two routes, which are compiled in either order. -/
def headerStore (set : List (String × String)) : ConfigStore :=
  { gateways := Table.collect [(⟨"infra", "gw"⟩, sharedGateway)]
    httpRoutes := Table.collect [(⟨"shop", "r"⟩, { plainRoute "shop" "shop.example" [] with
        rules := [{ filters := [.requestHeaderModifier [] set []] }] }),
      (⟨"shop", "static"⟩, plainRoute "shop" "static.example" [])] }

theorem mayApply_empty (h : MayApply ∅ source p) : p = none := by
  cases p with
  | none => rfl
  | some p => cases h.1

theorem choice_headerStore {set : List (String × String)} (h : MayTake (headerStore set) source c) :
    c = { backendNs := c.backendNs } := by
  have hb : c.budget = none := by
    cases hc : c.budget with
    | none => rfl
    | some budget =>
      obtain ⟨key, p, hp, -⟩ := hc ▸ h.budget
      cases hp
  ext1
  exacts [mayApply_empty h.rateLimit, mayApply_empty h.circuitBreaker, mayApply_empty h.connection,
    mayApply_empty h.basicAuth, mayApply_empty h.apiKeyAuth, mayApply_empty h.jwtAuth,
    mayApply_empty h.extAuth, mayApply_empty h.retry, mayApply_empty h.ipAllowlist,
    mayApply_empty h.bodySizeLimit, mayApply_empty h.cors, mayApply_empty h.timeout, hb, rfl]

theorem settled_headerStore : Settled (headerStore [("x-team", "shop")]) where
  choices e _ c c' hc hc' := by
    have hpr (ns : Option String) :
        appProtocolIn (headerStore [("x-team", "shop")]) ns e.route = none := by
      cases ns <;> rfl
    rw [choice_headerStore hc.1, choice_headerStore hc'.1]
    unfold chosenBy
    simp only [hpr]
    rfl
  headers := by decide +kernel
  credentials e _ p hp := by cases mayApply_empty hp
  apiKeys e _ _ p hp := by cases mayApply_empty hp
  members fed hfed := by cases hfed
  health key _ p hp := by cases hp
  tls key _ p q hp := by cases hp.1
  tcp listenerKey x hx := by cases hx
  udp listenerKey x hx := by cases hx

def firstHeaderHash : Element → UInt64
  | .route r =>
    if ((r.requestHeaders.bind (·.set.pairs.head?)).map (·.1)) = some "x-team" then 1 else 0
  | _ => 0

theorem stable_headerStore : (∀ c1 c2, Outcome (headerStore [("x-team", "shop")]) c1 →
      Outcome (headerStore [("x-team", "shop")]) c2 → CollisionFree firstHeaderHash c1 c2) ∧
    Stable firstHeaderHash (headerStore [("x-team", "shop")]) := by
  have hf : ∀ c1 c2, Outcome (headerStore [("x-team", "shop")]) c1 →
      Outcome (headerStore [("x-team", "shop")]) c2 → CollisionFree firstHeaderHash c1 c2 :=
    fun c1 c2 hc1 hc2 _ => oneMultiset_iff.2 settled_headerStore c1 c2 hc1 hc2
  exact ⟨hf, (stable_iff firstHeaderHash _ hf).2 settled_headerStore⟩

def setBackwards (r : RouteConfig) : RouteConfig :=
  { r with requestHeaders := r.requestHeaders.map fun h => { h with set := h.set.backwards } }

theorem walked_setBackwards (r : RouteConfig) : r.Walked (setBackwards r) := by
  refine { RouteConfig.Walked.refl r with requestHeaders := ?_, others := rfl }
  unfold setBackwards
  cases r.requestHeaders with
  | none => exact .none
  | some h => exact .some ⟨.refl _, reordered_backwards h.set, rfl⟩

theorem outcome_setBackwards :
    Outcome store { compileConfig .insertion store with
      routes := (compileConfig .insertion store).routes.map setBackwards } := by
  refine ⟨store, .insertion, .of_reordered (.refl store), ?_⟩
  refine { CompiledConfig.Walked.refl _ with routes := ?_, others := rfl }
  exact forall₂_map_right_iff.2 (forall₂_same.2 fun r _ => walked_setBackwards r)

/-- Two headers are written in either order, and the fingerprint follows. -/
theorem not_stable_headerStore :
    ¬ Stable firstHeaderHash (headerStore [("x-team", "shop"), ("x-tier", "gold")]) := by
  intro h
  have hs := (h _ _ (outcome_reordered (.refl _)) (outcome_setBackwards _)).1
  revert hs
  decide +kernel

end Portus

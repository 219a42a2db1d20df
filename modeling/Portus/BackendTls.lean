import Portus.CompiledPools
import Portus.DataPlane.Upstream
import Portus.Lib.Run
import Portus.Reconcilers.Covered
import Portus.Reconcilers.PolicyKinds

/-!
# BackendTLSPolicies cover their Services

From the policy objects to the connections of the data plane. A run reconciles and
deletes BackendTLSPolicies while ConfigMaps, Services and routes change, and keeps
what the latest reconcile of each policy found (`TlsHistory`). `BackendTlsCovers`
asks that whatever the compiled configuration sends to a Service port that some
policy names goes over TLS, verified by the bundle and hostname of such a policy.
-/

namespace Portus

open Lib Proto Reconcilers Compiler DataPlane List Option

/-- The target is the Service, or the port of it by name. -/
def NamesPort (store : ConfigStore) (t : PolicyTargetKey) (k : ServiceKey) : Prop :=
  t.kind = "Service" ∧ t.namespaceName = k.namespaceName ∧ t.name = k.name ∧
    (t.sectionName = none ∨ t.sectionName = store.servicePortNames.lookup k)

/-- Something the configuration sends to a Service port, and what it dials with. -/
inductive TlsSends (libs : TlsLibs) (cert : Option (UInt64 × ClientIdentity))
    (config : CompiledConfig) (slot : Slot) : Option TlsParams → Prop where
  | forward {rc : RouteConfig} {inputs : PlanInputs} (route : rc ∈ config.routes)
      (plan : (planMatched rc inputs).forwarded = some slot)
      (direct : (federationId rc).bind
        (buildFederationsFromProto config.mcpFederations).lookup = none) :
      TlsSends libs cert config slot (forwardParams libs
        (forwardTls (buildBackendTlsMapFromProto libs config.backends) cert rc slot))
  /-- A mirrored request goes to `http://`. -/
  | mirror {rc : RouteConfig} {inputs : PlanInputs} (route : rc ∈ config.routes)
      (plan : slot ∈ (planMatched rc inputs).mirrors) : TlsSends libs cert config slot none
  /-- A question to an authorization Service goes to `http://`. -/
  | extAuth {rc : RouteConfig} {ext : ExtAuthConfig} (route : rc ∈ config.routes)
      (asks : rc.extAuth = some ext) (unanswered : rc.redirect = none)
      (named : ext.serviceName ≠ "") (here : slot = (ext.serviceName, ext.port.toUInt16)) :
      TlsSends libs cert config slot none
  | member {rc : RouteConfig} {fed : McpFederation} {m : McpMember} (route : rc ∈ config.routes)
      (fans : federationId rc = some fed.name) (federation : fed ∈ config.mcpFederations)
      (mem : m ∈ fed.members) (here : slot = (m.serviceName, portOfProto m.port)) :
      TlsSends libs cert config slot (memberParams libs m)

/-- The certificate of the backend is verified by the bundle and the hostname of a policy. -/
def VerifiedBy (libs : TlsLibs) (params : TlsParams) (policy : BackendTLSPolicy) : Prop :=
  params.verify = true ∧ params.serverName = some policy.hostname ∧
    libs.pemCerts policy.caCertPem ≠ [] ∧ params.trust = some (libs.pemCerts policy.caCertPem) ∧
    ∀ certs sans, params.requiredSans = some (certs, sans) → certs = libs.pemCerts policy.caCertPem

/-- What is looked up under the name and port of `k` are its own endpoints. -/
def Serves (store : ConfigStore) (order : IterOrder ServiceKey) (k : ServiceKey) : Prop :=
  Referenced store k ∧ ∃ (hash : LbHash) (prior : LbState) (pool : Pool),
    PriorAgrees hash prior (compileConfig order store).backends ∧
      (poolsOf hash prior order store).lookup (slotOf k) = some pool ∧
      freshPool (backendGroup store k) = some pool

structure TlsHistory where
  store : ConfigStore := {}
  latest : NamespacedName → Option (Checked BackendTLSPolicy) := fun _ => none

def TlsHistory.record (h : TlsHistory) (key : NamespacedName) (store : ConfigStore)
    (checked : Option (Checked BackendTLSPolicy)) : TlsHistory :=
  ⟨store, fun k => if k = key then checked else h.latest k⟩

def checkedTls (store : ConfigStore) (key : NamespacedName)
    (policy : PolicyObject BackendTLSPolicySpec) : Checked BackendTLSPolicy :=
  checkBackendTls store key.namespaceName policy.metadata.creationTimestamp policy.spec

def TlsHistory.step (h : TlsHistory) : PolicyAction backendTlsKind → TlsHistory
  | .reconcile order policy =>
    match policy.metadata.key, backendTlsKind.reconcileInner order h.store policy with
    | .ok key, .ok (store, _) => h.record key store (some (checkedTls h.store key policy))
    | _, _ => h
  | .delete key =>
    h.record key (backendTlsKind.setTable h.store (h.store.backendTlsPolicies.erase key)) none
  | .environment store =>
    { h with store := backendTlsKind.setTable store h.store.backendTlsPolicies }

/-- Whatever is sent to a Service port that a policy names is verified by a policy that names
it. -/
def BackendTlsCovers (libs : TlsLibs) (h : TlsHistory) : Prop :=
  ∀ (key : NamespacedName) (c : Checked BackendTLSPolicy) (st : PolicyState BackendTLSPolicy)
    (k : ServiceKey), h.latest key = some c → st ∈ c.states → NamesPort h.store st.target k →
      ∀ (order : IterOrder ServiceKey) (cert : Option (UInt64 × ClientIdentity))
        (sent : Option TlsParams), Serves h.store order k →
          TlsSends libs cert (compileConfig order h.store) (slotOf k) sent →
            ∃ params key' c' st', sent = some params ∧ h.latest key' = some c' ∧ st' ∈ c'.states ∧
              NamesPort h.store st'.target k ∧ VerifiedBy libs params st'.spec

/-- A policy has one target, leaves a target only when an accepted policy or none stays there, and
is rejected only on a target with another accepted policy. -/
def OneCoveredTarget (h : TlsHistory) : PolicyAction backendTlsKind → Prop
  | .reconcile _ policy => ∀ key, policy.metadata.key = .ok key →
    let checked := checkedTls h.store key policy
    let t := h.store.backendTlsPolicies
    ∃ p, checked.states = [p] ∧
      (∀ old, t.lookup key = some old → old.target ≠ p.target → CoveredWithout t key old.target) ∧
        (checked.rejected.isSome → AcceptedBeside t key p.target)
  | .delete key => ∀ old, h.store.backendTlsPolicies.lookup key = some old →
    CoveredWithout h.store.backendTlsPolicies key old.target
  | .environment _ => True

def tlsContent (p : PolicyState BackendTLSPolicy) : PolicyTargetKey × BackendTLSPolicy :=
  (p.target, p.spec)

/-- What carries a run: every target is covered, every policy was found with one target, and the
table holds exactly what was found. -/
structure TlsHistory.Recorded (h : TlsHistory) : Prop where
  covered : Covered h.store.backendTlsPolicies
  single : ∀ key c, h.latest key = some c → ∃ p, c.states = [p]
  stored : ∀ key, (h.store.backendTlsPolicies.lookup key).map tlsContent =
    (h.latest key).bind fun c => c.states.head?.map tlsContent

theorem recorded_reconcile {h : TlsHistory}
    (hrec : h.Recorded) (hs : (checkedTls h.store key policy).states = [p])
    (ht : store.backendTlsPolicies = storePolicy order key valid h.store.backendTlsPolicies p)
    (hl : ∀ old, h.store.backendTlsPolicies.lookup key = some old → old.target ≠ p.target →
      CoveredWithout h.store.backendTlsPolicies key old.target)
    (hr : valid = false → AcceptedBeside h.store.backendTlsPolicies key p.target) :
    (h.record key store (some (checkedTls h.store key policy))).Recorded where
  covered := by
    show Covered store.backendTlsPolicies
    rw [ht]
    exact covered_storePolicy hrec.covered hl hr
  single k c hc := by
    simp only [TlsHistory.record] at hc
    split at hc
    · cases hc
      exact ⟨p, hs⟩
    · exact hrec.single k c hc
  stored k := by
    show (store.backendTlsPolicies.lookup k).map tlsContent = _
    rw [ht, map_lookup_storePolicy fun _ _ => rfl]
    simp only [TlsHistory.record]
    split
    · rw [bind_some, hs]
      rfl
    · exact hrec.stored k

theorem recorded_step (hrec : h.Recorded) (hok : OneCoveredTarget h a) :
    (h.step a).Recorded := by
  cases a with
  | environment store => exact ⟨hrec.covered, hrec.single, hrec.stored⟩
  | delete key =>
    refine ⟨covered_erase hrec.covered hok, fun k c hc => ?_, fun k => ?_⟩
    · simp only [TlsHistory.step, TlsHistory.record] at hc
      split at hc
      · cases hc
      · exact hrec.single k c hc
    · show ((h.store.backendTlsPolicies.erase key).lookup k).map tlsContent = _
      simp only [TlsHistory.step, TlsHistory.record, Table.lookup_erase_apply]
      split
      · rfl
      · exact hrec.stored k
  | reconcile order policy =>
    cases hkey : policy.metadata.key with
    | error e =>
      simp only [TlsHistory.step, hkey]
      exact hrec
    | ok key =>
      cases hi : backendTlsKind.reconcileInner order h.store policy with
      | error e =>
        simp only [TlsHistory.step, hkey, hi]
        exact hrec
      | ok result =>
        obtain ⟨store, rejected⟩ := result
        obtain ⟨key', hkey', hr, ht⟩ := PolicyKind.table_reconcileInner hi
        cases hkey.symm.trans hkey'
        obtain ⟨p, hs, hl, hb⟩ := hok key hkey
        simp only [TlsHistory.step, hkey, hi]
        have ho : store.backendTlsPolicies =
            storePolicy order key rejected.isNone h.store.backendTlsPolicies p := by
          refine ht.trans ?_
          show storePolicies order key rejected.isNone (checkedTls h.store key policy).states
            h.store.backendTlsPolicies = _
          rw [hs]
          rfl
        refine recorded_reconcile hrec hs ho hl fun hinv => hb ?_
        show (checkedTls h.store key policy).rejected.isSome = true
        rw [show (checkedTls h.store key policy).rejected = rejected from hr.symm]
        cases rejected with
        | none => cases hinv
        | some r => rfl

theorem recorded_run (meet : StepsMeet TlsHistory.step OneCoveredTarget {} actions) :
    (run TlsHistory.step {} actions).Recorded := by
  refine run_invariant (fun _ _ => recorded_step) ⟨?_, nofun, fun _ => rfl⟩ meet
  intro k p hp
  cases hp

section Compiled

def AcceptedFor (store : ConfigStore) (k : ServiceKey) (p : PolicyState BackendTLSPolicy) : Prop :=
  (∃ key, store.backendTlsPolicies.lookup key = some p) ∧ p.accepted = true ∧
    NamesPort store p.target k

variable {store : ConfigStore} {k : ServiceKey} {p : PolicyState BackendTLSPolicy}

theorem mem_backendTlsCandidates : p ∈ backendTlsCandidates store k ↔
      (∃ key, store.backendTlsPolicies.lookup key = some p) ∧ p.accepted = true ∧
        p.target.kind = "Service" ∧ p.target.namespaceName = k.namespaceName ∧
        p.target.name = k.name := by
  simp only [backendTlsCandidates, mem_filter, Table.mem_values, Bool.and_eq_true, beq_iff_eq,
    and_assoc]

theorem backendTlsPolicyOf_isSome (h : AcceptedFor store k p) :
    (backendTlsPolicyOf store k).isSome := by
  obtain ⟨hst, ha, hk, hns, hna, hse⟩ := h
  have hm : p ∈ backendTlsCandidates store k :=
    mem_backendTlsCandidates.2 ⟨hst, ha, hk, hns, hna⟩
  rw [backendTlsPolicyOf, isSome_or, Bool.or_eq_true]
  by_cases hno : p.target.sectionName = none
  · exact .inr (oldestPolicy_isSome (mem_filter.2 ⟨hm, by simp [hno]⟩))
  · have hp := hse.resolve_left hno
    refine .inl (oldestPolicy_isSome (mem_filter.2 ⟨hm, ?_⟩))
    rw [Bool.and_eq_true, beq_iff_eq]
    exact ⟨isSome_iff_ne_none.2 hno, hp⟩

theorem acceptedFor_of_backendTlsPolicyOf (h : backendTlsPolicyOf store k = some p) :
    AcceptedFor store k p := by
  obtain ⟨hm, hse⟩ := mem_of_backendTlsPolicyOf h
  obtain ⟨hst, ha, hk, hns, hn⟩ := mem_backendTlsCandidates.1 hm
  exact ⟨hst, ha, hk, hns, hn, hse⟩

end Compiled

/-- The bundle of a policy parses, makes trust anchors, and its hostname is one. -/
def UsablePolicy (libs : TlsLibs) (policy : BackendTLSPolicy) : Prop :=
  policy.caCertPem ≠ "" ∧ libs.pemCerts policy.caCertPem ≠ [] ∧
    libs.trustAnchors (libs.pemCerts policy.caCertPem) = true ∧ policy.hostname ≠ "" ∧
    libs.isHost policy.hostname = true

/-- No mirror, authorization Service or federation member has the name and port of `k`. -/
structure OnlyForwarded (store : ConfigStore) (k : ServiceKey) : Prop where
  mirrors : ∀ key hr, (key, hr) ∈ httpRoutesOf store → ∀ rule ∈ hr.rules,
    ∀ m ∈ mirrorsOf rule.filters, slotOf m.1 ≠ slotOf k
  extAuth : ∀ key p, store.extAuthPolicies.lookup key = some p →
    (p.spec.serviceName, p.spec.port) ≠ slotOf k
  members : ∀ fed ∈ mcpFederationProviders store, ∀ m ∈ federationMembers store fed,
    slotOf m.2.serviceKey ≠ slotOf k

/-- The configuration of a store keeps every policy: it is usable, alone under its name and port,
and its Service port is only forwarded to. -/
structure TlsReady (libs : TlsLibs) (store : ConfigStore) : Prop where
  usable : ∀ k p, AcceptedFor store k p → Referenced store k → UsablePolicy libs p.spec
  alone : ∀ k k' p p', AcceptedFor store k p → AcceptedFor store k' p' → Referenced store k →
    Referenced store k' → slotOf k' = slotOf k → k' = k
  forwarded : ∀ k p, AcceptedFor store k p → Referenced store k → OnlyForwarded store k

section Dialled

variable {libs : TlsLibs} {store : ConfigStore} {k : ServiceKey} {p : PolicyState BackendTLSPolicy}

def tlsInfoOf (libs : TlsLibs) (policy : BackendTLSPolicy) : BackendTlsInfo :=
  ⟨libs.pemCerts policy.caCertPem, policy.hostname,
    policy.subjectAltNames.map fun san => (san.sanType, san.value)⟩

theorem backendTlsEntry_of_usable (hp : backendTlsPolicyOf store k = some p)
    (hu : UsablePolicy libs p.spec) :
    backendTlsEntry libs (backendGroup store k) = some (slotOf k, tlsInfoOf libs p.spec) := by
  obtain ⟨hpe, hc, -⟩ := hu
  rw [backendTlsEntry, slotOfGroup_backendGroup]
  simp only [backendGroup, hp, map_some, bind_some, String.isEmpty_iff, hpe,
    if_false, List.isEmpty_iff, hc]
  rfl

theorem exists_of_backendTlsEntry (h : backendTlsEntry libs (backendGroup store k) = some entry) :
    entry.1 = slotOf k ∧ ∃ p, AcceptedFor store k p := by
  obtain ⟨tls, ht, h⟩ := bind_eq_some_iff.1 h
  obtain ⟨p, hp, -⟩ := map_eq_some_iff.1 ht
  refine ⟨?_, p, acceptedFor_of_backendTlsPolicyOf hp⟩
  dsimp only at h
  split at h
  · cases h
  · split at h
    · cases h
    · cases h
      exact slotOfGroup_backendGroup

theorem lookup_backendTlsMap (hr : TlsReady libs store) (hk : Referenced store k)
    (hp : backendTlsPolicyOf store k = some p) (order : IterOrder ServiceKey) :
    (buildBackendTlsMapFromProto libs (compileConfig order store).backends).lookup (slotOf k) =
      some (tlsInfoOf libs p.spec) := by
  have hacc := acceptedFor_of_backendTlsPolicyOf hp
  have he := backendTlsEntry_of_usable hp (hr.usable k p hacc hk)
  have hm : (slotOf k, tlsInfoOf libs p.spec) ∈
      (compileConfig order store).backends.filterMap (backendTlsEntry libs) :=
    mem_filterMap.2 ⟨backendGroup store k,
      List.mem_map.2 ⟨k, order.mem_order.2 (mem_backendKeys.2 hk), rfl⟩, he⟩
  obtain ⟨info, hi⟩ : ∃ info, (buildBackendTlsMapFromProto libs
      (compileConfig order store).backends).lookup (slotOf k) = some info := by
    refine ne_none_iff_exists'.1 fun hn => ?_
    exact Table.lookup_collect_eq_none.1 hn _ hm
  -- the entry found is that of a Service port with a policy, and that is `k`
  obtain ⟨g, hg, hentry'⟩ := mem_filterMap.1 (Table.lookup_collect_eq_some hi)
  obtain ⟨k', hk', rfl⟩ := List.mem_map.1 hg
  obtain ⟨hs, p', hacc'⟩ := exists_of_backendTlsEntry hentry'
  have heq : k' = k := hr.alone k k' p p' hacc hacc' hk
    (mem_backendKeys.1 (order.mem_order.1 hk')) hs.symm
  subst heq
  rw [he] at hentry'
  cases hentry'
  exact hi

theorem verifiedBy_forwardParams (hu : UsablePolicy libs policy)
    (hl : tlsMap.lookup slot = some (tlsInfoOf libs policy))
    (cert : Option (UInt64 × ClientIdentity)) (rc : RouteConfig) :
    ∃ params, forwardParams libs (forwardTls tlsMap cert rc slot) = some params ∧
      VerifiedBy libs params policy := by
  obtain ⟨-, hc, ha, hn, hh⟩ := hu
  refine ⟨_, if_pos (by simp [ForwardTls.useTls, forwardTls, hl]), ?_, ?_, hc, ?_, ?_⟩
  · simp [forwardTls, hl]
  · simp [forwardTls, hl, tlsInfoOf, serverNameOf, hn, hh]
  · simp [forwardTls, hl, tlsInfoOf, buildUpstreamTls, ha]
  · intro certs sans h
    simp only [forwardTls, hl, bind_some, buildUpstreamTls, tlsInfoOf] at h
    split at h
    · cases h
    · split at h
      · cases h
        rfl
      · cases h

end Dialled

theorem forward_of_onlyForwarded (ho : OnlyForwarded store k)
    (h : TlsSends libs cert (compileConfig order store) (slotOf k) sent) :
    ∃ rc, sent = forwardParams libs (forwardTls
      (buildBackendTlsMapFromProto libs (compileConfig order store).backends) cert rc
        (slotOf k)) := by
  cases h with
  | forward route plan direct => exact ⟨_, rfl⟩
  | mirror route plan =>
    exfalso
    obtain ⟨e, he, rfl⟩ := List.mem_map.1 route
    have hme := mirror_of_mem_planMatched plan
    rcases mem_emissions.1 he with ⟨key, hr, hro, bd, -, rule, hru, he⟩ | ⟨_, _, -, _, -, _, -, he⟩
    · rw [mirrorBackends_http he] at hme
      obtain ⟨mb, hmb, hsl⟩ := hme
      obtain ⟨m, hm, rfl⟩ := List.mem_map.1 hmb
      refine ho.mirrors key hr hro rule hru m hm (Eq.trans ?_ hsl.symm)
      simp [slotOf]
    · rw [(mirrorsAndRedirect_grpc he).1] at hme
      obtain ⟨mb, hmb, -⟩ := hme
      cases hmb
  | extAuth route asks unanswered named her =>
    exfalso
    obtain ⟨e, he, rfl⟩ := List.mem_map.1 route
    rw [extAuth_finishRoute he, map_eq_some_iff] at asks
    obtain ⟨p, hp, rfl⟩ := asks
    obtain ⟨key, hst, -⟩ := mem_acceptedPolicies.1 (mem_of_selectPolicy hp)
    refine ho.extAuth key p hst (Eq.trans ?_ her.symm)
    simp only [extAuthConfigOf] at named ⊢
    split at named
    next hpe => simp [hpe]
    next => exact absurd rfl named
  | member route fans federation mem her =>
    exfalso
    obtain ⟨fed, hf, rfl⟩ := List.mem_map.1 ((mem_insertionSort _).1 federation)
    obtain ⟨m, hm, rfl⟩ := List.mem_map.1 mem
    refine ho.members fed hf m hm (Eq.trans ?_ her.symm)
    simp [slotOf, AIProviderState.serviceKey]

/-- **Backend TLS covers its Services**: after every run in which each policy has one target that
keeps an accepted policy, a store whose policies can be kept apart sends nothing to a Service port
that a policy names but over TLS verified by such a policy. -/
theorem backendTlsCovers_run (libs : TlsLibs) (actions : List (PolicyAction backendTlsKind))
    (meet : StepsMeet TlsHistory.step OneCoveredTarget {} actions)
    (ready : TlsReady libs (run TlsHistory.step {} actions).store) :
    BackendTlsCovers libs (run TlsHistory.step {} actions) := by
  have hr := recorded_run meet
  generalize run TlsHistory.step {} actions = h at hr ready
  intro key c st k hla hst hn order cert sent hs' hs
  obtain ⟨hk, -⟩ := hs'
  -- the policy is stored, and some accepted policy has its target
  obtain ⟨p, hp⟩ := hr.single key c hla
  have hs0 := hr.stored key
  rw [hla, bind_some, hp, head?_cons, map_some, map_eq_some_iff] at hs0
  rw [hp, mem_singleton] at hst
  subst hst
  obtain ⟨stored, hlo, hc⟩ := hs0
  obtain ⟨key₁, q, hq, ht, ha⟩ := hr.covered key stored hlo
  have hfor : AcceptedFor h.store k q := by
    refine ⟨⟨key₁, hq⟩, ha, ?_⟩
    rwa [ht, show stored.target = st.target from congrArg Prod.fst hc]
  -- the compiler takes one of the policies for the Service port, and the data plane finds it
  obtain ⟨w, hw⟩ := isSome_iff_exists.1 (backendTlsPolicyOf_isSome hfor)
  have hwf := acceptedFor_of_backendTlsPolicyOf hw
  obtain ⟨rc, rfl⟩ := forward_of_onlyForwarded (ready.forwarded k w hwf hk) hs
  obtain ⟨params, hpa, hv⟩ := verifiedBy_forwardParams (ready.usable k w hwf hk)
    (lookup_backendTlsMap ready hk hw order) cert rc
  -- and it is what the latest reconcile of some policy found
  obtain ⟨⟨key₂, hkey₂⟩, -, hwn⟩ := hwf
  have hf := hr.stored key₂
  rw [hkey₂, map_some, eq_comm, bind_eq_some_iff] at hf
  obtain ⟨c', hc', hh⟩ := hf
  obtain ⟨st', hst', hco⟩ := map_eq_some_iff.1 hh
  refine ⟨params, key₂, c', st', hpa, hc', mem_of_head? hst', ?_, ?_⟩
  · rwa [show st'.target = w.target from congrArg Prod.fst hco]
  · rwa [show st'.spec = w.spec from congrArg Prod.snd hco]

def caBundle : String := "-----BEGIN CERTIFICATE-----\nAQID\n-----END CERTIFICATE-----\n"

def bundleLibs : TlsLibs where
  pemCerts pem := if pem = caBundle then [[1, 2, 3]] else []
  isHost host := host = "app.team.example"
  trustAnchors certs := !certs.isEmpty
  verifierBuilds _ := false
  isPrivateKey _ := false
  policyHash _ _ := 0

def securedApp : ConfigStore :=
  { gateways := Table.collect [(⟨"infra", "gw"⟩, sharedGateway)]
    httpRoutes := Table.collect [(⟨"team", "r"⟩,
      plainRoute "team" "team.example" [{ namespaceName := "team", name := "app", port := 443 }])]
    endpoints := Table.collect [(⟨"team", "app", 443⟩, [⟨"10.0.0.1", 8443⟩])]
    configMaps := Table.collect [(⟨"team", "ca"⟩, ⟨Table.collect [("ca.crt", caBundle)]⟩)] }

def tlsPolicy (services : List String) : PolicyObject BackendTLSPolicySpec where
  metadata := { name := some "tls", namespaceName := some "team", creationTimestamp := some 1 }
  spec :=
    { targetRefs := services.map fun name => { group := "", kind := "Service", name := name }
      caCertificateRefs := [{ group := "", kind := "ConfigMap", name := "ca" }]
      hostname := "app.team.example" }

/-- The policy is reconciled when the rest is there. -/
def securedRun (services : List String) : List (PolicyAction backendTlsKind) :=
  [.environment securedApp, .reconcile .insertion (tlsPolicy services)]

/-- With one target, the Service is covered. -/
theorem backendTlsCovers_securedRun :
    BackendTlsCovers bundleLibs (run TlsHistory.step {} (securedRun ["app"])) := by
  let store := (run TlsHistory.step {} (securedRun ["app"])).store
  have hkeys : backendKeys store = [⟨"team", "app", 443⟩] := by decide
  have hpo : store.backendTlsPolicies.values =
      [⟨⟨"", "Service", "team", "app", none⟩, ⟨caBundle, "app.team.example", []⟩, some 1, true⟩] := by
    decide
  have hk (k : ServiceKey) (h : Referenced store k) : k = ⟨"team", "app", 443⟩ := by
    have hme := mem_backendKeys.2 h
    rwa [hkeys, mem_singleton] at hme
  refine backendTlsCovers_run bundleLibs _ ⟨trivial, ?_, trivial⟩ ⟨?_, ?_, ?_⟩
  · intro key hkey
    cases hkey
    refine ⟨_, rfl, fun old ho => ?_, fun hre => ?_⟩
    · cases ho
    · exact absurd hre (by decide)
  · intro k p hp _
    have hme := Table.mem_values.2 hp.1
    rw [show (run TlsHistory.step {} (securedRun ["app"])).store.backendTlsPolicies.values = _ from
      hpo, mem_singleton] at hme
    subst hme
    exact ⟨by decide, by decide, by decide, by decide, by decide⟩
  · intro k k' p p' _ _ hk₁ hk₂ _
    exact (hk k' hk₂).trans (hk k hk₁).symm
  · intro k p _ _
    refine ⟨fun key hr hro rule hru m hm => ?_, nofun, nofun⟩
    cases mem_singleton.1 hro
    cases mem_singleton.1 hru
    cases hm

/-- With two targets, only the last one is stored, and the first Service is sent plaintext. -/
theorem securedRun_two_targets_plaintext :
    ¬ ∀ libs actions, BackendTlsCovers libs (run TlsHistory.step {} actions) := by
  intro h
  let store := (run TlsHistory.step {} (securedRun ["app", "db"])).store
  let k : ServiceKey := ⟨"team", "app", 443⟩
  let inputs : PlanInputs := ⟨true, 0, fun _ => 0, true⟩
  have hk : Referenced store k := mem_backendKeys.1 (by decide)
  have hplan : (emissions store).map (fun e =>
      ((planMatched (finishRoute store e) inputs).forwarded, federationId (finishRoute store e),
        (finishRoute store e).upstreamTls)) = [(some ("app", 443), none, none)] := by
    decide
  obtain ⟨e, he, heq⟩ := List.mem_map.1 (hplan ▸ mem_singleton.2 rfl)
  simp only [Prod.mk.injEq] at heq
  obtain ⟨hfo, hfe, hr⟩ := heq
  have hn : (buildBackendTlsMapFromProto bundleLibs
      (compileConfig (.endingIn k) store).backends).lookup (slotOf k) = none := by decide
  have hsend := @TlsSends.forward bundleLibs none (compileConfig (.endingIn k) store) (slotOf k)
    (finishRoute store e) inputs (List.mem_map.2 ⟨e, he, rfl⟩) hfo (by rw [hfe]; rfl)
  have hs : Serves store (.endingIn k) k :=
    ⟨hk, fun _ _ => 0, {}, ⟨[.v4 [10, 0, 0, 1] 8443], none⟩, priorAgrees_empty _ _,
      exists_order_lookup_poolsOf hk (by decide +kernel) _, by decide +kernel⟩
  obtain ⟨params, -, -, -, hsent, -⟩ := h bundleLibs (securedRun ["app", "db"]) ⟨"team", "tls"⟩ _ _ k
    rfl mem_cons_self ⟨rfl, rfl, rfl, .inl rfl⟩ _ none _ hs hsend
  have hp : forwardParams bundleLibs (forwardTls (buildBackendTlsMapFromProto bundleLibs
      (compileConfig (.endingIn k) store).backends) none (finishRoute store e) (slotOf k)) = none := by
    refine if_neg ?_
    simp [ForwardTls.useTls, forwardTls, hn, hr]
  rw [hp] at hsent
  cases hsent

end Portus

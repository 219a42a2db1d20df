import Portus.Triggers

/-!
# What a Gateway and a ListenerSet report

A reconcile of a Gateway stores its state and its resolved `spec.tls`, and writes
conditions for the Gateway and for each of its listeners (`GatewayOutcome`). A Gateway of
a class that is not ours is left as it is.
-/

namespace Portus.Reconcilers

open Portus Lib Triggers List Option AList

structure LocalParametersReference where
  group : String
  kind : String
  name : String

structure GatewayAddress where
  addressType : Option String := none
  value : String := ""

/-- What only the `Accepted` condition of a Gateway reads of its spec:
`infrastructure.parametersRef` and `addresses`. -/
structure GatewayRequests where
  parametersRef : Option LocalParametersReference := none
  addresses : List GatewayAddress := []

/-- A specific address cannot be asked for, nor one of another type. -/
def addressProblem (address : GatewayAddress) : Option RefError :=
  let ty := address.addressType.getD "IPAddress"
  let value := address.value
  if ty ≠ "IPAddress" ∧ ty ≠ "Hostname" then
    some ("UnsupportedAddress", s!"address type '{ty}' is not supported (IPAddress, Hostname)")
  else if !value.isEmpty then
    some ("AddressNotUsable",
      s!"static address {ty} '{value}' cannot be assigned; leave the value empty to have one " ++
        "assigned")
  else none

def gatewayAcceptedCondition (gcAccepted : Bool) (gcRejectMsg : String) (requests : GatewayRequests)
    (listenerCount acceptedListeners : Nat) : Bool × RefError :=
  if !gcAccepted then (false, "InvalidGatewayClass", gcRejectMsg)
  else
    match requests.parametersRef with
    | some pr =>
      let (group, kind, name) := (pr.group, pr.kind, pr.name)
      (false, "InvalidParameters",
        s!"infrastructure.parametersRef {group}/{kind} '{name}' is not a supported parameters kind")
    | none =>
      match requests.addresses.findSome? addressProblem with
      | some problem => (false, problem)
      | none =>
        if 0 < listenerCount ∧ acceptedListeners = 0 then
          (false, "ListenersNotValid", "No listener is accepted")
        else if acceptedListeners < listenerCount then
          (true, "ListenersNotValid", s!"{acceptedListeners} of {listenerCount} listeners accepted")
        else (true, "Accepted", "Gateway accepted")

def hasInsecureFallback (t : GatewayTlsState) : Bool :=
  (t.frontendDefault.toList ++ t.frontendPerPort.values).any fun
    | .valid refs => refs.mode == "AllowInsecureFallback"
    | .invalid _ _ => false

def ListenerEvaluation.isAccepted (e : ListenerEvaluation) : Bool :=
  e.conditions.any fun c => c.conditionType == "Accepted" && c.status

/-- The conditions of the Gateway itself. `ResolvedRefs` is there only for a backend client
certificate. -/
def gatewayConditions (isProgrammed : Bool) (generation : Int) (className : String)
    (gcAccepted : Bool) (requests : GatewayRequests) (tls : GatewayTlsState)
    (backendRefs : Option (Bool × RefError)) (evaluations : List ListenerEvaluation) :
    List Condition :=
  let (accepted, reason, message) := gatewayAcceptedCondition gcAccepted
    s!"GatewayClass '{className}' is not accepted" requests evaluations.length
    (evaluations.countP (·.isAccepted))
  [⟨"Accepted", accepted, reason, message, generation⟩,
    ⟨"Programmed", isProgrammed, if isProgrammed then "Programmed" else "Pending",
      if isProgrammed then "Configuration applied by the data plane"
      else "Waiting for a data plane to apply the current configuration", generation⟩] ++
  (backendRefs.toList.map fun r => ⟨"ResolvedRefs", r.1, r.2.1, r.2.2, generation⟩) ++
  (if hasInsecureFallback tls then
    [⟨"InsecureFrontendValidationMode", true, "ConfigurationChanged",
      "Frontend client certificate validation allows insecure fallback: connections without a " ++
        "valid client certificate are accepted", generation⟩]
  else [])

/-- What a reconcile leaves of a Gateway and what it reports. -/
structure GatewayOutcome where
  state : Option GatewayState
  tls : Option GatewayTlsState
  conditions : List Condition
  listeners : List ListenerEvaluation

def gatewayOutcome (libs : PemLibs) (store : ConfigStore) (isProgrammed : Bool)
    (requests : GatewayRequests) (gw : Gateway) : Except ReconcileError GatewayOutcome :=
  gw.metadata.key.map fun key =>
    if gw.metadata.deletionTimestamp.isSome then ⟨none, none, [], []⟩
    else if (store.gatewayClasses.lookup gw.spec.gatewayClassName).isNone then
      ⟨store.gateways.lookup key, store.gatewayTls.lookup key, [], []⟩
    else
      let generation := max (gw.metadata.generation.getD 0) 1
      let resolved := resolveGatewayTls libs store gw.spec.tls key.namespaceName
      let evaluated := evaluateGateway libs store isProgrammed key generation gw.spec resolved.1
      { state := some evaluated.1
        tls := if isDefaultTls resolved.1 then none else some resolved.1
        conditions := gatewayConditions isProgrammed generation gw.spec.gatewayClassName
          evaluated.2.2 requests resolved.1 resolved.2 evaluated.2.1
        listeners := evaluated.2.1 }

variable {gw : Gateway}

theorem stored_gatewayOutcome {libs : PemLibs} (h : gw.metadata.key = .ok key) :
    (reconcileGateway libs store isProgrammed gw).map
        (fun s => (s.gateways.lookup key, s.gatewayTls.lookup key)) =
      (gatewayOutcome libs store isProgrammed requests gw).map fun o => (o.state, o.tls) := by
  rw [reconcileGateway, gatewayOutcome, h]
  cases hd : gw.metadata.deletionTimestamp with
  | some t =>
    exact congrArg Except.ok (Prod.ext (lookup_erase key _) (lookup_erase key _))
  | none =>
    cases hc : store.gatewayClasses.lookup gw.spec.gatewayClassName with
    | none =>
      simp only [bind, Except.bind, Except.map, isSome_none,
        isNone_none, Bool.false_eq_true, if_false, if_true, pure, Except.pure]
    | some c =>
      simp only [bind, Except.bind, Except.map, isSome_none,
        isNone_some, Bool.false_eq_true, if_false, pure, Except.pure, storeGateway,
        lookup_insert]
      split
      next => rw [lookup_erase]
      next => rw [lookup_insert]

section GatewayCongr

variable {s s' : ConfigStore} {libs : PemLibs}

/-- The grants say the same of the references of a Gateway's namespace into another. -/
def SameGrants (s s' : ConfigStore) (gatewayNamespace ns : String) : Prop :=
  ∀ kind name, referenceGrantAllows s' "Gateway" gatewayNamespace kind ns name =
    referenceGrantAllows s "Gateway" gatewayNamespace kind ns name

/-- Two stores have the same for everything a Gateway is derived from. -/
structure SameForGateway (s s' : ConfigStore) (gw : Gateway) : Prop where
  classes : s'.gatewayClasses = s.gatewayClasses
  secrets : s'.secrets = s.secrets
  configMaps : s'.configMaps = s.configMaps
  state : s'.gateways.lookup gw.metadata.looseKey = s.gateways.lookup gw.metadata.looseKey
  tls : s'.gatewayTls.lookup gw.metadata.looseKey = s.gatewayTls.lookup gw.metadata.looseKey
  grants : ∀ ns, gatewayReferencesNamespace gw ns = true →
    SameGrants s s' gw.metadata.looseKey.namespaceName ns

variable {gwNs : String}

theorem notGranted_congr (h : ∀ ns, explicit = some ns → SameGrants s s' gwNs ns) :
    (explicit.getD gwNs != gwNs && !referenceGrantAllows s' "Gateway" gwNs kind (explicit.getD gwNs)
          name) =
      (explicit.getD gwNs != gwNs &&
        !referenceGrantAllows s "Gateway" gwNs kind (explicit.getD gwNs) name) := by
  cases explicit with
  | none => simp
  | some ns => rw [getD_some, h ns rfl]

theorem resolveFrontendValidation_congr (hcm : s'.configMaps = s.configMaps)
    (h : ∀ caRef ∈ validation.caCertificateRefs, ∀ ns, caRef.namespaceName = some ns →
      SameGrants s s' gwNs ns) :
    resolveFrontendValidation libs s' validation gwNs =
      resolveFrontendValidation libs s validation gwNs := by
  have hr : validation.caCertificateRefs.map (resolveCaCertificateRef libs s' gwNs) =
      validation.caCertificateRefs.map (resolveCaCertificateRef libs s gwNs) :=
    map_congr_left fun caRef hm => by
      unfold resolveCaCertificateRef
      dsimp only
      rw [notGranted_congr (h caRef hm), hcm]
  unfold resolveFrontendValidation
  rw [hr]

theorem resolveBackendClientCert_congr (hs : s'.secrets = s.secrets)
    (h : ∀ ns, certRef.namespaceName = some ns → SameGrants s s' gwNs ns) :
    resolveBackendClientCert libs s' certRef gwNs =
      resolveBackendClientCert libs s certRef gwNs := by
  unfold resolveBackendClientCert
  dsimp only
  rw [notGranted_congr h, hs]

theorem resolveCertificateRefs_congr (hs : s'.secrets = s.secrets)
    (h : ∀ certRef ∈ certRefs, ∀ ns, certRef.namespaceName = some ns → SameGrants s s' gwNs ns) :
    resolveCertificateRefs libs s' gwNs certRefs = resolveCertificateRefs libs s gwNs certRefs := by
  induction certRefs with
  | nil => rfl
  | cons certRef rest ih =>
    have he : certificateRefError libs s' gwNs certRef =
        certificateRefError libs s gwNs certRef := by
      unfold certificateRefError
      dsimp only
      rw [notGranted_congr (h certRef mem_cons_self), hs]
    rw [resolveCertificateRefs, resolveCertificateRefs, he,
      ih fun certRef' hm => h certRef' (mem_cons_of_mem _ hm)]

theorem references_of_frontend (ht : gw.spec.tls = some tls)
    (hf : tls.frontend = some frontend)
    (hc : config = frontend.defaultConfig ∨ config ∈ frontend.perPort.map (·.tls))
    (hv : config.validation = some validation)
    (hr : caRef ∈ validation.caCertificateRefs) (hns : caRef.namespaceName = some ns) :
    gatewayReferencesNamespace gw ns = true := by
  refine Bool.or_eq_true_iff.2 (.inr (List.any_eq_true.2 ⟨caRef, ?_, ?_⟩))
  · refine mem_flatMap.2 ⟨validation, mem_flatMap.2 ⟨config, ?_, ?_⟩, hr⟩
    · rw [ht, bind_some, hf, toList_some, flatMap_singleton]
      exact mem_cons.2 hc
    · rw [hv]
      exact mem_singleton_self _
  · rw [hns]
    exact beq_self_eq_true _

variable (hs : s'.secrets = s.secrets)
  (hg : ∀ ns, gatewayReferencesNamespace gw ns = true → SameGrants s s' gwNs ns)

include hs hg

theorem resolveGatewayTls_congr (hm : s'.configMaps = s.configMaps) :
    resolveGatewayTls libs s' gw.spec.tls gwNs = resolveGatewayTls libs s gw.spec.tls gwNs := by
  unfold resolveGatewayTls
  cases ht : gw.spec.tls with
  | none => rfl
  | some tls =>
    have hfr (config : FrontendTLSListenerConfig)
        (hco : config = (tls.frontend.getD {}).defaultConfig ∨
          config ∈ (tls.frontend.getD {}).perPort.map (·.tls)) :
        (config.validation.map fun v => resolveFrontendValidation libs s' v gwNs) =
          config.validation.map fun v => resolveFrontendValidation libs s v
            gwNs := by
      refine Option.map_congr fun v hv => ?_
      cases hf : tls.frontend with
      | none =>
        rw [hf] at hco
        rcases hco with rfl | hco
        · cases hv
        · cases hco
      | some frontend =>
        rw [hf] at hco
        exact resolveFrontendValidation_congr hm fun caRef hr ns hns =>
          hg ns (references_of_frontend ht hf hco hv hr hns)
    have hb : ((tls.backend.bind (·.clientCertificateRef)).map fun certRef =>
          resolveBackendClientCert libs s' certRef gwNs) =
        (tls.backend.bind (·.clientCertificateRef)).map fun certRef =>
          resolveBackendClientCert libs s certRef gwNs := by
      refine Option.map_congr fun certRef hce => ?_
      refine resolveBackendClientCert_congr hs fun ns hns => hg ns ?_
      unfold gatewayReferencesNamespace
      simp [ht, hce, hns]
    have hpo : resolvePerPort libs s' (tls.frontend.getD {}).perPort gwNs =
        resolvePerPort libs s (tls.frontend.getD {}).perPort
          gwNs := by
      refine congrArg Table.collect (filterMap_congr fun pp hpp => ?_)
      have hpp' := hfr pp.tls (.inr (List.mem_map_of_mem hpp))
      cases hv : pp.tls.validation with
      | none => rfl
      | some v =>
        rw [hv, map_some, map_some, Option.some.injEq] at hpp'
        rw [map_some, map_some, hpp']
    dsimp only
    rw [hfr _ (.inl rfl), hb, hpo]

theorem listenerRefs_congr (hl : l ∈ gw.spec.listeners) :
    listenerRefs libs s' gwNs supported l = listenerRefs libs s gwNs supported l := by
  have hc (tlsConfig : GatewayTLSConfig) (ht : l.tls = some tlsConfig) :
      resolveCertificateRefs libs s' gwNs tlsConfig.certificateRefs =
        resolveCertificateRefs libs s gwNs tlsConfig.certificateRefs := by
    refine resolveCertificateRefs_congr hs fun certRef hm ns hns => hg ns ?_
    refine Bool.or_eq_true_iff.2 (.inl (Bool.or_eq_true_iff.2 (.inl ?_)))
    refine List.any_eq_true.2 ⟨certRef, ?_, by rw [hns]; exact beq_self_eq_true _⟩
    refine mem_flatMap.2 ⟨tlsConfig, mem_flatMap.2 ⟨l, hl, ?_⟩, hm⟩
    rw [ht]
    exact mem_singleton_self _
  unfold listenerRefs listenerCertificates
  cases ht : l.tls with
  | none => rfl
  | some tlsConfig => simp only [hc tlsConfig ht]

omit hs hg in
theorem gatewayOutcome_congr (h : SameForGateway s s' gw) :
    gatewayOutcome libs s' isProgrammed requests gw =
      gatewayOutcome libs s isProgrammed requests gw := by
  refine map_key_congr ?_
  have he (generation : Int) (tls : GatewayTlsState) :
      evaluateGateway libs s' isProgrammed gw.metadata.looseKey generation gw.spec tls =
        evaluateGateway libs s isProgrammed gw.metadata.looseKey generation gw.spec tls := by
    unfold evaluateGateway gatewayClassAccepted
    rw [h.classes]
    have hli (gcAccepted : Bool) (conflicts : List String) :
        gw.spec.listeners.map (evaluateListener libs s' gw.metadata.looseKey generation
            gw.spec.gatewayClassName gcAccepted isProgrammed tls conflicts) =
          gw.spec.listeners.map (evaluateListener libs s gw.metadata.looseKey generation
            gw.spec.gatewayClassName gcAccepted isProgrammed tls conflicts) :=
      map_congr_left fun l hl => by
        unfold evaluateListener
        dsimp only
        rw [listenerRefs_congr h.secrets h.grants hl]
    dsimp only
    rw [hli]
  dsimp only
  rw [h.classes, h.state, h.tls, resolveGatewayTls_congr h.secrets h.grants h.configMaps, he]

end GatewayCongr

/-- What a reconcile leaves of a ListenerSet and what it reports; nothing if it is deleted. -/
def listenerSetOutcome (store : ConfigStore) (ls : ListenerSet) :
    Except ReconcileError (Option (ListenerSetState × List Condition × List ListenerEvaluation)) :=
  ls.metadata.key.map fun key =>
    if ls.metadata.deletionTimestamp.isSome then none
    else some (evaluateListenerSet store ls.input (namespaceLabelsOf store key.namespaceName))

theorem stored_listenerSetOutcome {ls : ListenerSet} (h : ls.metadata.key = .ok key) :
    (reconcileListenerSet store ls).map (·.listenerSets.lookup key) =
      (listenerSetOutcome store ls).map fun o => o.map (·.1) := by
  rw [reconcileListenerSet, listenerSetOutcome, h]
  cases hd : ls.metadata.deletionTimestamp with
  | some t => exact congrArg Except.ok (lookup_erase key store.listenerSets)
  | none => exact congrArg Except.ok (lookup_insert store.listenerSets)

inductive Conflict where
  | hostname
  | protocol

def Claims.conflict (c : Claims) (l : ListenerSpec) : Option Conflict :=
  if c.hostnameConflicted l then some .hostname
  else if c.protocolConflicted l then some .protocol
  else none

def claimsAt (store : ConfigStore) (ls : ListenerSetInput) (before : List ListenerSpec) : Claims :=
  before.foldl Claims.afterListener (initialClaims store ls)

def permissionError : RefError :=
  ("RefNotPermitted", "Cross-namespace certificate reference not permitted by ReferenceGrant")

/-- The permission of a listener's certificates does not come to bear: its route kinds are reported
first, or it is refused anyway and its client validation already reports the same. -/
def PermissionShadowed (store : ConfigStore) (ls : ListenerSetInput) (attachAllowed : Bool)
    (claims : Claims) (l : ListenerSpec) : Prop :=
  hasInvalidKind (defaultKinds (protocolSupported l.protocol) l.protocol) l.allowedRoutes = true ∨
    ((attachAllowed = false ∨ protocolSupported l.protocol = false ∨ claims.conflicted l = true) ∧
      frontendValidationError (parentValidation store ls.parentKey l) = some permissionError)

section ListenerSetCongr

variable {s s' : ConfigStore} {ls : ListenerSetInput} {attachAllowed : Bool} {c c' : Claims}
  {l : ListenerSpec}

theorem evaluateSetListener_permission
    (hv : parentValidation s' ls.parentKey l = parentValidation s ls.parentKey l) :
    evaluateSetListener s' ls attachAllowed c l = evaluateSetListener s ls attachAllowed c l ↔
      refNotPermitted s' ls.key.namespaceName l = refNotPermitted s ls.key.namespaceName l ∨
        PermissionShadowed s ls attachAllowed c l := by
  unfold evaluateSetListener PermissionShadowed permissionError Claims.conflicted
  rw [hv]
  dsimp only
  generalize refNotPermitted s' ls.key.namespaceName l = denied'
  generalize refNotPermitted s ls.key.namespaceName l = denied
  generalize frontendValidationError (parentValidation s ls.parentKey l) = error
  generalize noValidCa (parentValidation s ls.parentKey l) = noCa
  generalize hasInvalidKind (defaultKinds (protocolSupported l.protocol) l.protocol)
    l.allowedRoutes = invalid
  generalize protocolSupported l.protocol = supported
  generalize c.hostnameConflicted l = host
  generalize c.protocolConflicted l = proto
  cases invalid with
  | true => simp
  | false =>
    cases error with
    | none => cases denied' <;> cases denied <;> simp
    | some e =>
      cases denied' <;> cases denied
      case false.false => simp
      case true.true => simp
      all_goals
        cases attachAllowed <;> cases supported <;> cases host <;> cases proto <;> cases noCa <;>
          simp [eq_comm, Prod.ext_iff]

theorem evaluateSetListener_conflict
    (hv : parentValidation s' ls.parentKey l = parentValidation s ls.parentKey l)
    (hpe : refNotPermitted s' ls.key.namespaceName l = refNotPermitted s ls.key.namespaceName l) :
    evaluateSetListener s' ls attachAllowed c' l = evaluateSetListener s ls attachAllowed c l ↔
      c'.conflict l = c.conflict l := by
  unfold evaluateSetListener Claims.conflict Claims.conflicted
  dsimp only
  rw [hv, hpe]
  generalize c'.hostnameConflicted l = host'
  generalize c'.protocolConflicted l = proto'
  generalize c.hostnameConflicted l = host
  generalize c.protocolConflicted l = proto
  constructor
  · intro h
    -- the reason of the `Conflicted` condition tells the three cases apart
    cases host' <;> cases host <;> cases proto' <;> cases proto <;> simp_all
  · intro h
    have hh : host' = host := by
      cases host' <;> cases host <;> cases proto' <;> cases proto <;> simp_all
    rw [hh] at h ⊢
    cases host with
    | true => simp
    | false =>
      have hpr : proto' = proto := by
        cases proto' <;> cases proto <;> simp_all
      rw [hpr]

theorem evaluateSetListeners_eq_iff : evaluateSetListeners s' ls attachAllowed c' listeners =
        evaluateSetListeners s ls attachAllowed c listeners ↔
      ∀ before l after, listeners = before ++ l :: after →
        evaluateSetListener s' ls attachAllowed (before.foldl Claims.afterListener c') l =
          evaluateSetListener s ls attachAllowed (before.foldl Claims.afterListener c) l := by
  induction listeners generalizing c c' with
  | nil => simp [evaluateSetListeners]
  | cons m rest ih =>
    rw [evaluateSetListeners, evaluateSetListeners, List.cons.injEq, ih]
    constructor
    · rintro ⟨hm, hr⟩ before l after hs
      cases before with
      | nil =>
        cases hs
        exact hm
      | cons x before =>
        cases hs
        exact hr before l after rfl
    · intro h
      refine ⟨h [] m rest rfl, fun before l after hs => h (m :: before) l after ?_⟩
      rw [hs]
      rfl

theorem evaluateListenerSet_eq_iff (ha : attachment s' ls labels' = attachment s ls labels) :
    evaluateListenerSet s' ls labels' = evaluateListenerSet s ls labels ↔
      ∀ before l after, ls.listeners = before ++ l :: after →
        evaluateSetListener s' ls (attachment s ls labels).1 (claimsAt s' ls before) l =
          evaluateSetListener s ls (attachment s ls labels).1 (claimsAt s ls before) l := by
  refine Iff.trans ?_ evaluateSetListeners_eq_iff
  constructor
  · intro h
    have he := congrArg (·.2.2) h
    rwa [evaluateListenerSet, ha] at he
  · intro h
    unfold evaluateListenerSet
    dsimp only
    rw [ha, h]

end ListenerSetCongr

def ListenerSet.Live (ls : ListenerSet) : Prop :=
  (∃ key, ls.metadata.key = .ok key) ∧ ls.metadata.deletionTimestamp = none

/-- Two stores have the same for what a ListenerSet is derived from, but for the grants and its
siblings. -/
structure SameParentFor (s s' : ConfigStore) (ls : ListenerSet) : Prop where
  gateway : s'.gateways.lookup ls.input.parentKey = s.gateways.lookup ls.input.parentKey
  tls : s'.gatewayTls.lookup ls.input.parentKey = s.gatewayTls.lookup ls.input.parentKey
  labels : namespaceLabelsOf s' ls.metadata.looseKey.namespaceName =
    namespaceLabelsOf s ls.metadata.looseKey.namespaceName

def attachAllowed (store : ConfigStore) (ls : ListenerSet) : Bool :=
  (attachment store ls.input (namespaceLabelsOf store ls.metadata.looseKey.namespaceName)).1

/-- Every listener of the ListenerSet meets the same conflict in both stores. -/
def SameConflicts (s s' : ConfigStore) (ls : ListenerSet) : Prop :=
  ∀ before l after, ls.spec.listeners = before ++ l :: after →
    (claimsAt s' ls.input before).conflict l = (claimsAt s ls.input before).conflict l

/-- The certificates of every listener are permitted alike, or that does not come to bear. -/
def SamePermissions (s s' : ConfigStore) (ls : ListenerSet) : Prop :=
  ∀ before l after, ls.spec.listeners = before ++ l :: after →
    refNotPermitted s' ls.input.key.namespaceName l =
        refNotPermitted s ls.input.key.namespaceName l ∨
      PermissionShadowed s ls.input (attachAllowed s ls) (claimsAt s ls.input before) l

theorem refNotPermitted_congr {s s' : ConfigStore} (h : s'.referenceGrants = s.referenceGrants) :
    refNotPermitted s' ns l = refNotPermitted s ns l := by
  unfold refNotPermitted referenceGrantAllows
  rw [h]

section ListenerSetOutcome

variable {s s' : ConfigStore} {ls : ListenerSet}

namespace SameParentFor

section

variable (h : SameParentFor s s' ls)

include h

theorem attachment_eq (labels : Table String String) :
    attachment s' ls.input labels = attachment s ls.input labels := by
  unfold attachment
  rw [h.gateway]

theorem parentValidation_eq (l : ListenerSpec) :
    parentValidation s' ls.input.parentKey l = parentValidation s ls.input.parentKey l := by
  unfold parentValidation ConfigStore.frontendValidation
  rw [h.tls]

theorem initialClaims_eq (hs : s'.listenerSets = s.listenerSets) :
    initialClaims s' ls.input = initialClaims s ls.input := by
  unfold initialClaims
  rw [h.gateway, hs]

theorem outcome_eq_iff : listenerSetOutcome s' ls = listenerSetOutcome s ls ↔
      (ls.Live → ∀ before l after, ls.spec.listeners = before ++ l :: after →
        evaluateSetListener s' ls.input (attachAllowed s ls) (claimsAt s' ls.input before) l =
          evaluateSetListener s ls.input (attachAllowed s ls) (claimsAt s ls.input before) l) := by
  unfold listenerSetOutcome ListenerSet.Live
  cases hk : ls.metadata.key with
  | error e => simp [Except.map]
  | ok key =>
    have hl := h.labels
    rw [looseKey_of_key hk] at hl
    cases hd : ls.metadata.deletionTimestamp with
    | some t => simp [Except.map]
    | none =>
      simp only [Except.map, isSome_none, Bool.false_eq_true, if_false, Except.ok.injEq,
        Option.some.injEq, exists_eq', and_true, forall_const]
      rw [hl, evaluateListenerSet_eq_iff (h.attachment_eq _), attachAllowed, looseKey_of_key hk]
      rfl

theorem outcome_eq_iff_conflicts
    (hg : s'.referenceGrants = s.referenceGrants) :
    listenerSetOutcome s' ls = listenerSetOutcome s ls ↔ (ls.Live → SameConflicts s s' ls) := by
  rw [h.outcome_eq_iff]
  refine forall_congr' fun _ => forall₄_congr fun before l after _ => ?_
  exact evaluateSetListener_conflict (h.parentValidation_eq l) (refNotPermitted_congr hg)

theorem outcome_eq_iff_permissions
    (hs : s'.listenerSets = s.listenerSets) :
    listenerSetOutcome s' ls = listenerSetOutcome s ls ↔ (ls.Live → SamePermissions s s' ls) := by
  rw [h.outcome_eq_iff]
  refine forall_congr' fun _ => forall₄_congr fun before l after _ => ?_
  rw [claimsAt, h.initialClaims_eq hs]
  exact evaluateSetListener_permission (h.parentValidation_eq l)

theorem outcome_eq (hs : s'.listenerSets = s.listenerSets)
    (hg : s'.referenceGrants = s.referenceGrants) :
    listenerSetOutcome s' ls = listenerSetOutcome s ls :=
  (h.outcome_eq_iff_permissions hs).2 fun _ _ _ _ _ => .inl (refNotPermitted_congr hg)

end

end SameParentFor

end ListenerSetOutcome

end Portus.Reconcilers

import Portus.Reconcilers.Objects
import Portus.Reconcilers.References

/-!
# Reconciling a Gateway

`reconcilers/gateway.rs`: the references of `spec.tls` are resolved first
(`resolveGatewayTls`), then every listener is evaluated in turn: its class and
protocol, the route kinds it lists, its certificates, and the client certificate
validation of its port. The first reference that fails names the reason; the checks
behind it are not made. `RefError` is that reason and the message with it, and
`resolved_refs` of the source is the absence of one.
-/

namespace Portus.Reconcilers

open Portus Lib List Option AList

abbrev RefError := String × String

/-- What the PEM parser says of a text: whether the first certificate parses, and whether there is
a private key. A text of blanks has no certificate. -/
structure PemLibs where
  firstCert : String → Bool
  privateKey : String → Bool
  trim_ne_empty : ∀ pem, firstCert pem = true → Text.trim pem ≠ ""

/-- A ReferenceGrant of `toNs` lets `fromKind` objects of `fromNs` refer to a core object. -/
def referenceGrantAllows (store : ConfigStore) (fromKind fromNs toKind toNs toName : String) :
    Bool :=
  store.referenceGrants.values.any fun rg =>
    rg.namespaceName == toNs && rg.grantFrom.any (fun f =>
        f.group == gatewayApiGroup && f.kind == fromKind && f.namespaceName == fromNs) &&
      rg.grantTo.any fun t =>
        t.group.isEmpty && t.kind == toKind && (t.name.isNone || t.name == some toName)

section

variable (libs : PemLibs) (store : ConfigStore)

def dataText (object : SecretState) (key : String) : String := (object.data.lookup key).getD ""

def resolveCaCertificateRef (gatewayNamespace : String) (caRef : ObjectReference) :
    Except RefError NamespacedName :=
  let name := caRef.name
  let group := caRef.group
  let kind := if caRef.kind.isEmpty then "ConfigMap" else caRef.kind
  let ns := caRef.namespaceName.getD gatewayNamespace
  if !group.isEmpty || kind != "ConfigMap" then
    .error ("InvalidCACertificateKind",
      s!"caCertificateRef {name} has unsupported kind {group}/{kind}; " ++
        "only core ConfigMaps are supported")
  else if ns != gatewayNamespace &&
      !referenceGrantAllows store "Gateway" gatewayNamespace "ConfigMap" ns name then
    .error ("RefNotPermitted",
      s!"caCertificateRef {ns}/{name} is in another namespace and no ReferenceGrant permits it")
  else
    match store.configMaps.lookup ⟨ns, name⟩ with
    | none => .error ("InvalidCACertificateRef", s!"ConfigMap {ns}/{name} not found")
    | some cm =>
      if libs.firstCert (dataText cm "ca.crt") then .ok ⟨ns, name⟩
      else .error ("InvalidCACertificateRef",
        s!"ConfigMap {ns}/{name} has no PEM certificate under key ca.crt")

/-- A validation block: its usable trust anchors and the first reference that failed. A block
without a usable anchor is invalid. -/
def resolveFrontendValidation (validation : FrontendTLSValidation) (gatewayNamespace : String) :
    ClientValidationOutcome :=
  let mode := validation.mode.getD "AllowValidOnly"
  if mode != "AllowValidOnly" && mode != "AllowInsecureFallback" then
    .invalid "UnsupportedValue" s!"frontend validation mode '{mode}' is not supported"
  else if validation.caCertificateRefs.isEmpty then
    .invalid "InvalidCACertificateRef" "frontend validation has no caCertificateRefs"
  else
    let outcomes :=
      validation.caCertificateRefs.map (resolveCaCertificateRef libs store gatewayNamespace)
    let caConfigMaps := outcomes.filterMap Except.toOption
    let firstError := outcomes.findSome? fun o => match o with
      | .ok _ => none
      | .error e => some e
    match caConfigMaps.isEmpty, firstError with
    | true, some (reason, message) => .invalid reason message
    | _, refError => .valid ⟨caConfigMaps, mode, refError⟩

/-- A reference to a core ConfigMap that the Gateway may read, with a certificate under
`ca.crt`. -/
def UsableAnchor (gatewayNamespace : String) (caRef : ObjectReference) : Prop :=
  let ns := caRef.namespaceName.getD gatewayNamespace
  caRef.group = "" ∧ (caRef.kind = "" ∨ caRef.kind = "ConfigMap") ∧ (ns = gatewayNamespace ∨
      referenceGrantAllows store "Gateway" gatewayNamespace "ConfigMap" ns caRef.name = true) ∧
    ∃ cm, store.configMaps.lookup ⟨ns, caRef.name⟩ = some cm ∧
      libs.firstCert (dataText cm "ca.crt") = true

/-- A validation in a known mode with a usable trust anchor. -/
def HasAnchor (gatewayNamespace : String) (validation : FrontendTLSValidation) : Prop :=
  validation.mode.getD "AllowValidOnly" ∈ ["AllowValidOnly", "AllowInsecureFallback"] ∧
    ∃ caRef ∈ validation.caCertificateRefs, UsableAnchor libs store gatewayNamespace caRef

variable {libs store}

variable {gatewayNamespace namespaceName : String}

theorem resolveCaCertificateRef_eq_ok :
    resolveCaCertificateRef libs store gatewayNamespace caRef = .ok key ↔
      key = ⟨caRef.namespaceName.getD gatewayNamespace, caRef.name⟩ ∧
        UsableAnchor libs store gatewayNamespace caRef := by
  have hk : (!caRef.group.isEmpty ||
      (if caRef.kind.isEmpty then "ConfigMap" else caRef.kind) != "ConfigMap") = false ↔
        caRef.group = "" ∧ (caRef.kind = "" ∨ caRef.kind = "ConfigMap") := by
    by_cases h : caRef.kind = "" <;> simp [h]
  unfold resolveCaCertificateRef UsableAnchor
  dsimp only
  rw [← and_assoc (a := caRef.group = ""), ← hk]
  generalize (if caRef.kind.isEmpty then "ConfigMap" else caRef.kind) = kind
  split
  next h => simp [h]
  next h =>
    simp only [h, true_and]
    split
    next hperm => grind
    next hperm =>
      have hperm' : caRef.namespaceName.getD gatewayNamespace = gatewayNamespace ∨
          referenceGrantAllows store "Gateway" gatewayNamespace "ConfigMap"
            (caRef.namespaceName.getD gatewayNamespace) caRef.name = true := by
        grind
      simp only [hperm', true_and]
      split
      next hcm => simp [hcm]
      next cm hcm =>
        split
        next hc => simp [hcm, hc, @eq_comm _ key]
        next hc => simp [hcm, hc]

theorem filterMap_resolve_eq_nil {caRefs : List ObjectReference} :
    (caRefs.map (resolveCaCertificateRef libs store gatewayNamespace)).filterMap
        Except.toOption = [] ↔
      ∀ caRef ∈ caRefs, ¬ UsableAnchor libs store gatewayNamespace caRef := by
  simp only [filterMap_eq_nil_iff, List.forall_mem_map]
  refine forall₂_congr fun caRef _ => ?_
  cases h : resolveCaCertificateRef libs store gatewayNamespace caRef with
  | ok key => simp [Except.toOption, (resolveCaCertificateRef_eq_ok.1 h).2]
  | error e =>
    refine iff_of_true rfl fun hu => ?_
    rw [resolveCaCertificateRef_eq_ok.2 ⟨rfl, hu⟩] at h
    cases h

theorem resolveFrontendValidation_cases : (HasAnchor libs store gatewayNamespace validation ∧
      ∃ mode refError, resolveFrontendValidation libs store validation gatewayNamespace =
        .valid ⟨(validation.caCertificateRefs.map
          (resolveCaCertificateRef libs store gatewayNamespace)).filterMap Except.toOption,
          mode, refError⟩) ∨
    (¬ HasAnchor libs store gatewayNamespace validation ∧
      ∃ reason message, resolveFrontendValidation libs store validation gatewayNamespace =
        .invalid reason message) := by
  have hmo : (validation.mode.getD "AllowValidOnly" != "AllowValidOnly" &&
      validation.mode.getD "AllowValidOnly" != "AllowInsecureFallback") = true ↔
        validation.mode.getD "AllowValidOnly" ∉ ["AllowValidOnly", "AllowInsecureFallback"] := by
    simp
  unfold resolveFrontendValidation
  dsimp only
  split
  next h => exact .inr ⟨fun ha => hmo.1 h ha.1, _, _, rfl⟩
  next h =>
    rw [hmo, not_not] at h
    split
    next he =>
      rw [List.isEmpty_iff] at he
      refine .inr ⟨?_, _, _, rfl⟩
      rintro ⟨-, caRef, hm, -⟩
      rw [he] at hm
      exact absurd hm not_mem_nil
    next hne =>
      by_cases hni : (validation.caCertificateRefs.map
          (resolveCaCertificateRef libs store gatewayNamespace)).filterMap Except.toOption = []
      · have hno := filterMap_resolve_eq_nil.1 hni
        refine .inr ⟨fun ⟨_, caRef, hm, hu⟩ => hno caRef hm hu, ?_⟩
        -- the first reference is one of those that failed
        obtain ⟨caRef, rest, hr⟩ := exists_cons_of_ne_nil (mt List.isEmpty_iff.2 hne)
        have hf := hno caRef (by simp [hr])
        cases h1 : resolveCaCertificateRef libs store gatewayNamespace caRef with
        | ok key => exact absurd (resolveCaCertificateRef_eq_ok.1 h1).2 hf
        | error e =>
          rw [hni, hr, map_cons, h1]
          exact ⟨_, _, rfl⟩
      · refine .inl ⟨⟨h, ?_⟩, ?_⟩
        · rw [filterMap_resolve_eq_nil] at hni
          push Not at hni
          exact hni
        · rw [isEmpty_eq_false_iff.2 hni]
          exact ⟨_, _, rfl⟩

theorem not_hasAnchor_of_invalid
    (h : resolveFrontendValidation libs store validation gatewayNamespace =
      .invalid reason message) : ¬ HasAnchor libs store gatewayNamespace validation := by
  rcases resolveFrontendValidation_cases with ⟨-, _, _, hv⟩ | ⟨hna, -⟩
  · rw [hv] at h
    cases h
  · exact hna

theorem bundle_of_valid
    (h : resolveFrontendValidation libs store validation gatewayNamespace = .valid refs) :
    ∃ key ∈ refs.caConfigMaps, ∃ cm, store.configMaps.lookup key = some cm ∧
      libs.firstCert (dataText cm "ca.crt") = true := by
  rcases resolveFrontendValidation_cases with
    ⟨⟨-, caRef, hm, hu⟩, _, _, hv⟩ | ⟨-, _, _, hi⟩
  · rw [hv] at h
    cases h
    refine ⟨_, mem_filterMap.2 ⟨_, List.mem_map_of_mem hm, ?_⟩, hu.2.2.2⟩
    rw [resolveCaCertificateRef_eq_ok.2 ⟨rfl, hu⟩]
    rfl
  · rw [hi] at h
    cases h

variable (libs store)

def resolveBackendClientCert (certRef : SecretObjectReference) (gatewayNamespace : String) :
    Except RefError NamespacedName :=
  let name := certRef.name
  let group := certRef.group.getD ""
  let kind := certRef.kind.getD "Secret"
  let ns := certRef.namespaceName.getD gatewayNamespace
  if !group.isEmpty || kind != "Secret" then
    .error ("InvalidClientCertificateRef",
      s!"clientCertificateRef {name} has unsupported kind {group}/{kind}; " ++
        "only core Secrets are supported")
  else if ns != gatewayNamespace &&
      !referenceGrantAllows store "Gateway" gatewayNamespace "Secret" ns name then
    .error ("RefNotPermitted",
      s!"clientCertificateRef {ns}/{name} is in another namespace and no ReferenceGrant permits it")
  else
    match store.secrets.lookup ⟨ns, name⟩ with
    | none => .error ("InvalidClientCertificateRef", s!"Secret {ns}/{name} not found")
    | some secret =>
      if libs.firstCert (dataText secret "tls.crt") && libs.privateKey (dataText secret "tls.key")
      then .ok ⟨ns, name⟩
      else .error ("InvalidClientCertificateRef",
        s!"Secret {ns}/{name} must contain PEM data under tls.crt and tls.key")

/-- The per-port overrides. An entry without a validation leaves the port to the default; of two
entries for a port the later one counts. -/
def resolvePerPort (perPort : List TLSPortConfig) (gatewayNamespace : String) :
    Table UInt16 ClientValidationOutcome :=
  Table.collect <| perPort.filterMap fun pp =>
    pp.tls.validation.map fun v =>
      (pp.port, resolveFrontendValidation libs store v gatewayNamespace)

/-- `spec.tls` resolved, with the Gateway's `ResolvedRefs` condition when it names a client
certificate. -/
def resolveGatewayTls (tls : Option GatewayTLS) (gatewayNamespace : String) :
    GatewayTlsState × Option (Bool × RefError) :=
  match tls with
  | none => ({}, none)
  | some tls =>
    let frontend := tls.frontend.getD {}
    let backend := (tls.backend.bind (·.clientCertificateRef)).map fun certRef =>
      resolveBackendClientCert libs store certRef gatewayNamespace
    ({ frontendDefault := frontend.defaultConfig.validation.map fun v =>
         resolveFrontendValidation libs store v gatewayNamespace
       frontendPerPort := resolvePerPort libs store frontend.perPort gatewayNamespace
       backendClientCertRef := backend.bind Except.toOption },
     backend.map fun
       | .ok _ => (true, "ResolvedRefs", "Backend client certificate resolved")
       | .error e => (false, e))

/-- The validation `spec.tls.frontend` configures for a port: the last override that has one, else
the default. -/
def FrontendTLSConfig.validationFor (frontend : FrontendTLSConfig) (port : UInt16) :
    Option FrontendTLSValidation :=
  ((frontend.perPort.filter (·.port = port)).filterMap (·.tls.validation)).getLast?.or
    frontend.defaultConfig.validation

def validationFor (tls : Option GatewayTLS) (port : UInt16) : Option FrontendTLSValidation :=
  (tls.bind (·.frontend)).bind (·.validationFor port)

theorem lookup_resolvePerPort : (resolvePerPort libs store perPort gatewayNamespace).lookup port =
      ((perPort.filter (·.port = port)).filterMap (·.tls.validation)).getLast?.map
        (resolveFrontendValidation libs store · gatewayNamespace) := by
  rw [resolvePerPort, Table.lookup_collect, ← getLast?_map, ← getLast?_map]
  congr 1
  induction perPort with
  | nil => rfl
  | cons pp rest ih =>
    cases hv : pp.tls.validation with
    | none | some v => by_cases hp : pp.port = port <;> simp_all

theorem frontendValidationForPort_resolveGatewayTls :
    (resolveGatewayTls libs store tls gatewayNamespace).1.frontendValidationForPort port =
      (validationFor tls port).map (resolveFrontendValidation libs store · gatewayNamespace) := by
  cases tls with
  | none => rfl
  | some tls =>
    cases hf : tls.frontend with
    | none => simp [resolveGatewayTls, validationFor, GatewayTlsState.frontendValidationForPort,
        lookup_resolvePerPort, hf]
    | some frontend =>
      simp only [resolveGatewayTls, validationFor, FrontendTLSConfig.validationFor,
        GatewayTlsState.frontendValidationForPort, lookup_resolvePerPort, hf, map_or,
        bind_some, getD_some]

def defaultKinds (supported : Bool) (protocol : String) : List (String × String) :=
  if !supported then []
  else
    match protocol with
    | "HTTP" => [(gatewayApiGroup, "HTTPRoute"), (gatewayApiGroup, "GRPCRoute")]
    | "HTTPS" => [(gatewayApiGroup, "HTTPRoute"), (gatewayApiGroup, "GRPCRoute")]
    | "TLS" => [(gatewayApiGroup, "TLSRoute")]
    | "TCP" => [(gatewayApiGroup, "TCPRoute")]
    | "UDP" => [(gatewayApiGroup, "UDPRoute")]
    | _ => []

def listedKinds (allowed : Option AllowedRoutes) : List (String × String) :=
  ((allowed.map (·.kinds)).getD []).map fun rgk => (rgk.group.getD gatewayApiGroup, rgk.kind)

/-- Of the listed kinds those the protocol admits, and all it admits when none is listed. -/
def supportedKinds (admitted : List (String × String)) (allowed : Option AllowedRoutes) :
    List (String × String) :=
  if (listedKinds allowed).isEmpty then admitted
  else (listedKinds allowed).filter admitted.contains

def hasInvalidKind (admitted : List (String × String)) (allowed : Option AllowedRoutes) : Bool :=
  (listedKinds allowed).any fun k => !admitted.contains k

def routeKindsError (admitted : List (String × String)) (allowed : Option AllowedRoutes) :
    Option RefError :=
  if !hasInvalidKind admitted allowed then none
  else if (supportedKinds admitted allowed).isEmpty then
    some ("InvalidRouteKinds",
      "None of the specified route kinds are supported for this listener protocol")
  else
    some ("InvalidRouteKinds",
      "Some specified route kinds are not supported for this listener protocol")

def certificateRefError (namespaceName : String) (certRef : SecretObjectReference) :
    Option RefError :=
  let certNs := certRef.namespaceName.getD namespaceName
  if !(certRef.group.getD "").isEmpty || certRef.kind.getD "Secret" != "Secret" then
    some ("InvalidCertificateRef", "CertificateRef must reference a core Secret")
  else if certNs != namespaceName &&
      !referenceGrantAllows store "Gateway" namespaceName "Secret" certNs certRef.name then
    some ("RefNotPermitted",
      "Cross-namespace certificate reference not permitted by ReferenceGrant")
  else
    match store.secrets.lookup ⟨certNs, certRef.name⟩ with
    | none => some ("InvalidCertificateRef", "Referenced Secret not found")
    | some secret =>
      if libs.firstCert (dataText secret "tls.crt") && libs.privateKey (dataText secret "tls.key")
      then none
      else some ("InvalidCertificateRef",
        "Referenced Secret contains malformed TLS certificate or key data")

/-- The certificates up to the first reference that fails; those before it are kept. -/
def resolveCertificateRefs (namespaceName : String) :
    List SecretObjectReference → List (String × String) × Option RefError
  | [] => ([], none)
  | certRef :: rest =>
    match certificateRefError libs store namespaceName certRef with
    | some e => ([], some e)
    | none =>
      let (refs, e) := resolveCertificateRefs namespaceName rest
      ((certRef.namespaceName.getD namespaceName, certRef.name) :: refs, e)

/-- A reference to a core Secret that the Gateway may read, with a certificate and a key. -/
def UsableCertificate (namespaceName : String) (certRef : SecretObjectReference) : Prop :=
  let certNs := certRef.namespaceName.getD namespaceName
  certRef.group.getD "" = "" ∧ certRef.kind.getD "Secret" = "Secret" ∧ (certNs = namespaceName ∨
      referenceGrantAllows store "Gateway" namespaceName "Secret" certNs certRef.name = true) ∧
    ∃ secret, store.secrets.lookup ⟨certNs, certRef.name⟩ = some secret ∧
      libs.firstCert (dataText secret "tls.crt") = true ∧
      libs.privateKey (dataText secret "tls.key") = true

variable {libs store} in
theorem certificateRefError_eq_none : certificateRefError libs store namespaceName certRef = none ↔
      UsableCertificate libs store namespaceName certRef := by
  unfold certificateRefError UsableCertificate
  dsimp only
  split
  next h => grind [String.isEmpty_iff]
  next h =>
    split
    next hper => grind [String.isEmpty_iff]
    next hper =>
      split
      next hs => simp [hs]
      next secret hs =>
        split
        next hpem => grind [String.isEmpty_iff]
        next hpem => grind [String.isEmpty_iff]

variable {libs store} in
theorem resolveCertificateRefs_eq_none :
    (resolveCertificateRefs libs store namespaceName certRefs).2 = none ↔
      ∀ certRef ∈ certRefs, UsableCertificate libs store namespaceName certRef := by
  induction certRefs with
  | nil => simp [resolveCertificateRefs]
  | cons certRef rest ih =>
    rw [forall_mem_cons, ← ih, ← certificateRefError_eq_none, resolveCertificateRefs]
    cases certificateRefError libs store namespaceName certRef with
    | none => simp
    | some e => simp

def listenerCertificates (namespaceName : String) (tls : Option GatewayTLSConfig) :
    List (String × String) × Option RefError :=
  match tls with
  | none => ([], some ("InvalidCertificateRef", "HTTPS/TLS listener requires TLS configuration"))
  | some tlsConfig =>
    if tlsConfig.mode.getD "Terminate" != "Terminate" then ([], none)
    else if tlsConfig.certificateRefs.isEmpty then
      ([], some ("InvalidCertificateRef",
        "No certificateRefs specified for Terminate mode listener"))
    else resolveCertificateRefs libs store namespaceName tlsConfig.certificateRefs

/-- The route kinds and the certificates of a listener: what is checked before the client
validation. -/
def listenerRefs (namespaceName : String) (supported : Bool) (l : ListenerSpec) :
    List (String × String) × Option RefError :=
  match routeKindsError (defaultKinds supported l.protocol) l.allowedRoutes with
  | some e => ([], some e)
  | none =>
    if l.protocol = "HTTPS" ∨ l.protocol = "TLS" then
      listenerCertificates libs store namespaceName l.tls
    else ([], none)

/-- The listed route kinds fit an HTTPS listener, and all its certificates are usable where it
terminates TLS. -/
def RefsResolve (namespaceName : String) (l : ListenerSpec) : Prop :=
  (∀ k ∈ listedKinds l.allowedRoutes, k ∈ defaultKinds true "HTTPS") ∧
    ∃ tlsConfig, l.tls = some tlsConfig ∧
      (tlsConfig.mode.getD "Terminate" = "Terminate" → tlsConfig.certificateRefs ≠ [] ∧
        ∀ certRef ∈ tlsConfig.certificateRefs, UsableCertificate libs store namespaceName certRef)

theorem routeKindsError_eq_none :
    routeKindsError admitted allowed = none ↔ ∀ k ∈ listedKinds allowed, k ∈ admitted := by
  unfold routeKindsError hasInvalidKind
  split
  next h => simpa using h
  next h =>
    have hb : ¬ ∀ k ∈ listedKinds allowed, k ∈ admitted := by simpa using h
    refine iff_of_false ?_ hb
    split <;> exact some_ne_none _

variable {libs store} in
theorem listenerCertificates_eq_none :
    (listenerCertificates libs store namespaceName tls).2 = none ↔
      ∃ tlsConfig, tls = some tlsConfig ∧
        (tlsConfig.mode.getD "Terminate" = "Terminate" → tlsConfig.certificateRefs ≠ [] ∧
          ∀ certRef ∈ tlsConfig.certificateRefs,
            UsableCertificate libs store namespaceName certRef) := by
  cases tls with
  | none => simp [listenerCertificates]
  | some tlsConfig =>
    simp only [listenerCertificates, Option.some.injEq, exists_eq_left', bne_iff_ne, ne_eq]
    split
    next hm => simp [hm]
    next hm =>
      rw [not_not] at hm
      simp only [hm, forall_const]
      split
      next he => simp [List.isEmpty_iff.1 he]
      next hne => simp [resolveCertificateRefs_eq_none, mt List.isEmpty_iff.2 hne]

variable {libs store} in
theorem listenerRefs_eq_none (hl : l.protocol = "HTTPS") :
    (listenerRefs libs store namespaceName true l).2 = none ↔
      RefsResolve libs store namespaceName l := by
  rw [listenerRefs, RefsResolve, hl, ← routeKindsError_eq_none, ← listenerCertificates_eq_none]
  cases routeKindsError (defaultKinds true "HTTPS") l.allowedRoutes with
  | none => simp
  | some e => simp

def allowedRoutesState (allowed : Option AllowedRoutes) : AllowedRoutesState :=
  match allowed with
  | none => ⟨"Same", none⟩
  | some ar =>
    { namespacesFrom := (ar.namespaces.bind (·.namespacesFrom)).getD "Same"
      namespaceSelector := (ar.namespaces.bind (·.selector)).map (·.matchLabels.getD []) }

/-- The TLS mode, for TLS listeners only. -/
def tlsModeOf (l : ListenerSpec) : Option String :=
  if l.protocol = "TLS" then some ((l.tls.bind (·.mode)).getD "Terminate") else none

def hostnamesOverlap (a b : Option String) : Bool :=
  match a, b with
  | some a, some b => hostnameMatches a b
  | _, _ => true

/-- The names of the listeners that share a host with another listener of their port and
protocol. -/
def detectListenerConflicts : List ListenerSpec → List String
  | [] => []
  | l :: rest =>
    ((rest.filter fun m => m.port == l.port && m.protocol == l.protocol &&
      hostnamesOverlap l.hostname m.hostname).flatMap fun m => [l.name, m.name]) ++
      detectListenerConflicts rest

structure ListenerEvaluation where
  state : ListenerState
  conditions : List Condition
  supportedKinds : List (String × String)
deriving DecidableEq

def listenerAcceptance (className : String) (gcAccepted : Bool) (protocol : String) :
    Bool × RefError :=
  if !gcAccepted then
    (false, "InvalidGatewayClass",
      s!"GatewayClass '{className}' is not accepted by this controller")
  else if ["HTTP", "HTTPS", "TLS", "TCP", "UDP"].contains protocol then
    (true, "Accepted", "Listener accepted")
  else (false, "UnsupportedProtocol", s!"Protocol '{protocol}' is not supported")

/-- The client validation of the port, looked at only when the references so far resolve. -/
def listenerValidation (gatewayTls : GatewayTlsState) (refsError : Option RefError)
    (l : ListenerSpec) : Option ClientValidationOutcome :=
  if refsError.isNone && l.protocol == "HTTPS" then gatewayTls.frontendValidationForPort l.port
  else none

def validatedRefsError (validation : Option ClientValidationOutcome)
    (refsError : Option RefError) : Option RefError :=
  -- an empty message leaves the one of a listener without errors
  let worded (e : RefError) : RefError :=
    (e.1, if e.2.isEmpty then "All references resolved" else e.2)
  match validation with
  | some (.invalid reason message) => some (worded (reason, message))
  | some (.valid refs) => (refs.refError.map worded).or refsError
  | none => refsError

/-- An invalid validation block refuses the listener. -/
def validatedAcceptance (validation : Option ClientValidationOutcome)
    (acceptance : Bool × RefError) : Bool × RefError :=
  match validation with
  | some (.invalid _ _) =>
    (false, "NoValidCACertificate",
      "No valid CA certificate for frontend client certificate validation")
  | _ => acceptance

def evaluateListener (key : NamespacedName) (generation : Int) (className : String)
    (gcAccepted isProgrammed : Bool) (gatewayTls : GatewayTlsState) (conflicts : List String)
    (l : ListenerSpec) : ListenerEvaluation :=
  let initial := listenerAcceptance className gcAccepted l.protocol
  let refs := listenerRefs libs store key.namespaceName initial.1 l
  let validation := listenerValidation gatewayTls refs.2 l
  let (accepted, acceptReason, acceptMessage) := validatedAcceptance validation initial
  let refsError := validatedRefsError validation refs.2
  let (resolvedReason, resolvedMessage) :=
    refsError.getD ("ResolvedRefs", "All references resolved")
  let conflicted := conflicts.contains l.name
  { state :=
      { name := l.name, port := l.port, protocol := l.protocol, hostname := l.hostname
        accepted, conflicted, resolvedRefs := refsError.isNone
        allowedRoutes := allowedRoutesState l.allowedRoutes, tlsCertRefs := refs.1
        tlsMode := tlsModeOf l }
    conditions :=
      [⟨"Accepted", accepted, acceptReason, acceptMessage, generation⟩,
       if isProgrammed && refsError.isNone then
         ⟨"Programmed", true, "Programmed", "Configuration compiled and available to data plane",
           generation⟩
       else
         ⟨"Programmed", false, "Pending", "Waiting for initial configuration compilation",
           generation⟩,
       if conflicted then
         ⟨"Conflicted", true, "HostnameConflict",
           "Listener hostname conflicts with another listener on the same port and protocol",
           generation⟩
       else ⟨"Conflicted", false, "NoConflicts", "No conflicts detected", generation⟩,
       ⟨"ResolvedRefs", refsError.isNone, resolvedReason, resolvedMessage, generation⟩]
    supportedKinds := supportedKinds (defaultKinds initial.1 l.protocol) l.allowedRoutes }

variable {libs store} in
theorem not_refsResolve_of_accepted
    (ha : (evaluateListener libs store key generation className gcAccepted isProgrammed gatewayTls
      conflicts l).state.accepted = true) (hl : l.protocol = "HTTPS")
    (hv : gatewayTls.frontendValidationForPort l.port = some (.invalid reason message)) :
    gcAccepted = true ∧ ¬ RefsResolve libs store key.namespaceName l := by
  have hi : ∀ {validation : Option ClientValidationOutcome} {a : Bool × RefError},
      (validatedAcceptance validation a).1 = true → a.1 = true ∧
        ∀ r m, validation ≠ some (.invalid r m) := by
    rintro (_ | _ | _) a h
    all_goals simp_all [validatedAcceptance]
  obtain ⟨hf, hlo⟩ := hi ha
  have hc : gcAccepted = true := by
    cases gcAccepted with
    | true => rfl
    | false => simp [listenerAcceptance] at hf
  refine ⟨hc, fun hr => ?_⟩
  rw [hf, listenerValidation, (listenerRefs_eq_none hl).2 hr, hl, hv] at hlo
  exact hlo reason message rfl

def gatewayClassAccepted (className : String) : Bool :=
  ((store.gatewayClasses.lookup className).map (·.accepted)).getD false

def evaluateGateway (isProgrammed : Bool) (key : NamespacedName) (generation : Int)
    (spec : GatewaySpec) (gatewayTls : GatewayTlsState) :
    GatewayState × List ListenerEvaluation × Bool :=
  let gcAccepted := gatewayClassAccepted store spec.gatewayClassName
  let conflicts := detectListenerConflicts spec.listeners
  let evaluations := spec.listeners.map
    (evaluateListener libs store key generation spec.gatewayClassName gcAccepted isProgrammed
      gatewayTls conflicts)
  let allowedListeners := spec.allowedListeners.bind (·.namespaces)
  ({ name := key.name
     namespaceName := key.namespaceName
     listeners := evaluations.map (·.state)
     allowedListenerNamespacesFrom := allowedListeners.bind (·.namespacesFrom)
     allowedListenerMatchLabels :=
       ((allowedListeners.bind (·.selector)).bind (·.matchLabels)).getD [] },
   evaluations, gcAccepted)

def isDefaultTls (t : GatewayTlsState) : Bool :=
  t.frontendDefault.isNone && t.frontendPerPort.entries.isEmpty && t.backendClientCertRef.isNone

/-- What a Gateway of one of our classes leaves in the store. The generation reported is at
least 1. -/
def storeGateway (isProgrammed : Bool) (key : NamespacedName) (gw : Gateway) : ConfigStore :=
  let generation := max (gw.metadata.generation.getD 0) 1
  let gatewayTls := (resolveGatewayTls libs store gw.spec.tls key.namespaceName).1
  let state := (evaluateGateway libs store isProgrammed key generation gw.spec gatewayTls).1
  { store with
    gatewayTls :=
      if isDefaultTls gatewayTls then store.gatewayTls.erase key
      else store.gatewayTls.insert key gatewayTls
    gateways := store.gateways.insert key state }

theorem frontendValidation_storeGateway (isProgrammed : Bool) (key : NamespacedName) (gw : Gateway)
    (k : NamespacedName) (port : UInt16) :
    (storeGateway libs store isProgrammed key gw).frontendValidation k port =
      if k = key then
        (validationFor gw.spec.tls port).map
          (resolveFrontendValidation libs store · key.namespaceName)
      else store.frontendValidation k port := by
  rw [← frontendValidationForPort_resolveGatewayTls]
  unfold storeGateway ConfigStore.frontendValidation
  dsimp only
  generalize (resolveGatewayTls libs store gw.spec.tls key.namespaceName).1 = tls
  split
  next hde =>
    rw [Table.lookup_erase_apply]
    split
    next =>
      have hn : tls.frontendValidationForPort port = none := by
        simp only [isDefaultTls, Bool.and_eq_true, isNone_iff_eq_none, List.isEmpty_iff] at hde
        obtain ⟨⟨hd, hp⟩, -⟩ := hde
        have hpo : tls.frontendPerPort = ∅ := AList.ext hp
        rw [GatewayTlsState.frontendValidationForPort, hd, hpo]
        rfl
      rw [hn]
      rfl
    next => rfl
  next =>
    rw [Table.lookup_insert_apply]
    split <;> rfl

/-- A Gateway that is deleted leaves the store; one of a class that is not ours is left alone. -/
def reconcileGateway (isProgrammed : Bool) (gw : Gateway) : Except ReconcileError ConfigStore := do
  let key ← gw.metadata.key
  if gw.metadata.deletionTimestamp.isSome then
    pure { store with
      gatewayTls := store.gatewayTls.erase key
      gateways := store.gateways.erase key }
  else if (store.gatewayClasses.lookup gw.spec.gatewayClassName).isNone then
    pure store
  else
    pure (storeGateway libs store isProgrammed key gw)

end

end Portus.Reconcilers

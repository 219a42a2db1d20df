import Portus.Lib.SocketAddr
import Portus.Reconcilers.Conflicts
import Portus.Reconcilers.Objects
import Portus.Reconcilers.References

/-!
# Reconciling the policies that are checked

The policy kinds whose reconciler can reject an object: IPAllowlistPolicy,
BasicAuthPolicy, APIKeyAuthPolicy, JWTAuthPolicy, ExtAuthPolicy and
BackendTLSPolicy. Each kind checks the object against the store (`Checked`), and
`PolicyKind.reconcileInner` stores the result the same way for all of them: resolved
against its contenders when the checks passed, not accepted otherwise.
-/

namespace Portus.Reconcilers

open Portus Lib

variable (store : ConfigStore)

structure PolicyTargetRef where
  group : String := gatewayApiGroup
  kind : String
  name : String
  sectionName : Option String := none

/-- The target a policy of a namespace names; it is always in that namespace. -/
def PolicyTargetRef.targetKey (r : PolicyTargetRef) (ns : String) : PolicyTargetKey :=
  ⟨r.group, r.kind, ns, r.name, r.sectionName⟩

structure SecretRef where
  name : String
  namespaceName : Option String := none

structure IPAllowlistPolicySpec where
  targetRef : PolicyTargetRef
  allowCidrs : List String := []
  denyCidrs : List String := []
  trustedProxyCidrs : List String := []

structure BasicAuthPolicySpec where
  targetRef : PolicyTargetRef
  secretRef : SecretRef
  realm : Option String := none

structure APIKeyAuthPolicySpec where
  targetRef : PolicyTargetRef
  secretRef : SecretRef
  headerName : Option String := none

/-- An issuer; `claimToHeaders` pairs a claim with a header. -/
structure JwtProviderSpec where
  issuer : String
  audiences : List String := []
  jwksUri : Option String := none
  claimToHeaders : List (String × String) := []

structure JWTAuthPolicySpec where
  targetRef : PolicyTargetRef
  providers : List JwtProviderSpec

structure ServiceBackendRef where
  name : String
  namespaceName : Option String := none
  port : UInt16

structure ExtAuthPolicySpec where
  targetRef : PolicyTargetRef
  backendRef : ServiceBackendRef
  path : Option String := none
  timeoutMs : Option UInt32 := none
  failOpen : Bool := false
  requestHeaders : List String := []
  responseHeaders : List String := []

structure LocalObjectReference where
  group : String := ""
  kind : String := "ConfigMap"
  name : String

structure BackendTLSPolicySubjectAltName where
  sanType : String
  hostname : Option String := none
  uri : Option String := none

structure BackendTLSPolicySpec where
  targetRefs : List PolicyTargetRef
  caCertificateRefs : List LocalObjectReference
  hostname : String
  subjectAltNames : List BackendTLSPolicySubjectAltName := []

/-- What is wrong with a JWTAuthPolicy; each case carries what the message prints. -/
inductive JwtError where
  | noProviders
  | issuerUrl (issuer : String)
  | jwksUriUrl (uri issuer : String)
  | noClaim (issuer header : String)
  | headerName (issuer header : String)
  | reservedHeader (issuer header : String)
  | headerTwice (issuer header : String)

/-- What is wrong with an ExtAuthPolicy; each case carries what the message prints. -/
inductive ExtAuthError where
  | nameRequired
  | portRange
  | path (path : String)
  | timeoutRange
  | headerName (field header : String)
  | reservedHeader (field header : String)

/-- Why a reconciler does not accept a policy, whatever else targets the same object. -/
inductive Rejection where
  | invalidCIDR (cidr : String)
  | refNotPermitted (ns name : String)
  | invalidSecret (ns name : String)
  | invalidJwt (error : JwtError)
  | invalidExtAuth (error : ExtAuthError)
  | noValidCACertificate

/-- A checked policy: the states to store, one for each target, and why it is rejected. -/
structure Checked (σ : Type) where
  states : List (PolicyState σ)
  rejected : Option Rejection

def stateOf {σ : Type} (targetRef : PolicyTargetRef) (ns : String) (created : Option Int) (spec : σ) :
    PolicyState σ :=
  ⟨targetRef.targetKey ns, spec, created, true⟩

def isIpAddr (s : String) : Bool :=
  match (SocketAddr.readIpv4Addr s.toList).or (SocketAddr.readIpv6Addr s.toList) with
  | some (_, []) => true
  | _ => false

/-- The first entry that is neither an address nor, for the `ipnet` parser, a network. -/
def checkIPAllowlist (isIpNet : String → Bool) (ns : String) (created : Option Int)
    (spec : IPAllowlistPolicySpec) : Checked IPAllowlistPolicy :=
  { states := [stateOf spec.targetRef ns created
      ⟨spec.allowCidrs, spec.denyCidrs, spec.trustedProxyCidrs⟩]
    rejected := ((spec.allowCidrs ++ spec.denyCidrs ++ spec.trustedProxyCidrs).find? fun c =>
      !isIpAddr c && !isIpNet c).map .invalidCIDR }

/-- The Secret of an authentication policy: granted when it is elsewhere, and there. -/
def secretRejection (kind ns : String) (secret : NamespacedName) : Option Rejection :=
  if secret.namespaceName ≠ ns ∧
      !isReferenceAllowedFrom store.referenceGrants "portus-gateway.dev" ns kind
        secret.namespaceName "Secret" (some secret.name) then
    some (.refNotPermitted secret.namespaceName secret.name)
  else if (store.secrets.lookup secret).isNone then
    some (.invalidSecret secret.namespaceName secret.name)
  else none

def SecretRef.key (r : SecretRef) (ns : String) : NamespacedName := ⟨r.namespaceName.getD ns, r.name⟩

def checkBasicAuth (ns : String) (created : Option Int)
    (spec : BasicAuthPolicySpec) : Checked BasicAuthPolicy :=
  let secret := spec.secretRef.key ns
  { states := [stateOf spec.targetRef ns created
      ⟨secret.namespaceName, secret.name, spec.realm.getD "Restricted"⟩]
    rejected := secretRejection store "BasicAuthPolicy" ns secret }

def checkApiKeyAuth (ns : String) (created : Option Int)
    (spec : APIKeyAuthPolicySpec) : Checked ApiKeyAuthPolicy :=
  let secret := spec.secretRef.key ns
  { states := [stateOf spec.targetRef ns created
      ⟨secret.namespaceName, secret.name, spec.headerName.getD "X-API-Key"⟩]
    rejected := secretRejection store "APIKeyAuthPolicy" ns secret }

def reservedHeaders : List String :=
  ["authorization", "host", "content-length", "transfer-encoding", "connection", "upgrade", "te",
    "trailer", "keep-alive", "proxy-connection", "proxy-authorization"]

def isHttpUrl (s : String) : Bool :=
  match (Text.stripPrefix "https://" s).or (Text.stripPrefix "http://" s) with
  | some rest => !rest.isEmpty && !Text.startsWith rest "/" && !rest.toList.any Text.isWhitespace
  | none => false

def isHeaderName (s : String) : Bool :=
  !s.isEmpty && s.toList.all fun c => c.isAlphanum || "!#$%&'*+-.^_`|~".toList.contains c

def validateClaims (issuer : String) (acc : List (String × String)) :
    List (String × String) → Except JwtError (List (String × String))
  | [] => .ok acc
  | (claim, header) :: rest =>
    let lower := Text.toAsciiLowercase header
    if claim.isEmpty then .error (.noClaim issuer header)
    else if !isHeaderName lower then .error (.headerName issuer header)
    else if reservedHeaders.contains lower then .error (.reservedHeader issuer lower)
    else if acc.any (·.2 == lower) then .error (.headerTwice issuer lower)
    else validateClaims issuer (acc ++ [(claim, lower)]) rest

def trimEndSlashes (s : String) : String :=
  String.ofList ((s.toList.reverse.dropWhile (· = '/')).reverse)

def validateProvider (p : JwtProviderSpec) : Except JwtError JwtProviderState := do
  let issuer := trimEndSlashes p.issuer
  if !isHttpUrl issuer then throw (.issuerUrl p.issuer)
  match p.jwksUri with
  | some uri => if !isHttpUrl uri then throw (.jwksUriUrl uri issuer)
  | none => pure ()
  let claims ← validateClaims issuer [] p.claimToHeaders
  pure ⟨issuer, p.audiences, p.jwksUri, claims⟩

/-- The providers as the store keeps them, or what is wrong with the first bad one. -/
def validateJwt (spec : JWTAuthPolicySpec) : Except JwtError (List JwtProviderState) :=
  if spec.providers.isEmpty then .error .noProviders else spec.providers.mapM validateProvider

/-- A rejected policy is stored without providers. -/
def checkJwtAuth (ns : String) (created : Option Int) (spec : JWTAuthPolicySpec) :
    Checked JwtAuthPolicy :=
  match validateJwt spec with
  | .ok providers => ⟨[stateOf spec.targetRef ns created ⟨providers⟩], none⟩
  | .error e => ⟨[stateOf spec.targetRef ns created ⟨[]⟩], some (.invalidJwt e)⟩

def isControl (c : Char) : Bool := c.toNat < 0x20 || (0x7F ≤ c.toNat && c.toNat ≤ 0x9F)

def lowerHeaders (field : String) (reserved : Bool) (l : List String) :
    Except ExtAuthError (List String) :=
  l.mapM fun h =>
    let lower := Text.toAsciiLowercase h
    if !isHeaderName lower then .error (.headerName field lower)
    else if reserved && reservedHeaders.contains lower then .error (.reservedHeader field lower)
    else .ok lower

def validateExtAuth (ns : String) (spec : ExtAuthPolicySpec) : Except ExtAuthError ExtAuthPolicy := do
  if spec.backendRef.name.isEmpty then throw .nameRequired
  if spec.backendRef.port = 0 then throw .portRange
  let path := spec.path.getD "/"
  if !Text.startsWith path "/" || path.toList.any (fun c => Text.isWhitespace c || isControl c) then
    throw (.path path)
  let timeoutMs := spec.timeoutMs.getD 1000
  if timeoutMs = 0 ∨ 60000 < timeoutMs then throw .timeoutRange
  let requestHeaders ← lowerHeaders "requestHeaders" false spec.requestHeaders
  let responseHeaders ← lowerHeaders "responseHeaders" true spec.responseHeaders
  pure ⟨spec.backendRef.namespaceName.getD ns, spec.backendRef.name, spec.backendRef.port, path,
    timeoutMs, spec.failOpen, requestHeaders, responseHeaders⟩

/-- A rejected policy is stored with empty fields. -/
def checkExtAuth (ns : String) (created : Option Int) (spec : ExtAuthPolicySpec) :
    Checked ExtAuthPolicy :=
  match validateExtAuth ns spec with
  | .ok state => ⟨[stateOf spec.targetRef ns created state], none⟩
  | .error e =>
    ⟨[stateOf spec.targetRef ns created ⟨"", "", 0, "", 0, false, [], []⟩], some (.invalidExtAuth e)⟩

/-- The bundle of a CA reference: a ConfigMap of the policy's namespace with a `ca.crt`. -/
def resolveCaCert (ns : String) (ref : LocalObjectReference) : Option String :=
  if !ref.group.isEmpty || (ref.kind != "ConfigMap" && !ref.kind.isEmpty) then none
  else ((store.configMaps.lookup ⟨ns, ref.name⟩).bind (·.data.lookup "ca.crt")).filter (!·.isEmpty)

/-- The bundles that resolve, one after the other; a policy needs at least one. -/
def checkBackendTls (ns : String) (created : Option Int)
    (spec : BackendTLSPolicySpec) : Checked BackendTLSPolicy :=
  let pems := spec.caCertificateRefs.filterMap (resolveCaCert store ns)
  let subjectAltNames := spec.subjectAltNames.map fun san =>
    SubjectAltNameState.mk san.sanType ((san.hostname.or san.uri).getD "")
  { states := spec.targetRefs.map fun targetRef =>
      stateOf targetRef ns created ⟨"\n".intercalate pems, spec.hostname, subjectAltNames⟩
    rejected := if pems.isEmpty then some .noValidCACertificate else none }

/-- A kind of policy: its objects, its checks and where its states are kept. -/
structure PolicyKind (σ : Type) where
  Spec : Type
  check : ConfigStore → String → Option Int → Spec → Checked σ
  table : ConfigStore → PolicyTable σ
  setTable : ConfigStore → PolicyTable σ → ConfigStore
  table_setTable : ∀ store t, table (setTable store t) = t

structure PolicyObject (α : Type) where
  metadata : ObjectMeta
  spec : α

namespace PolicyKind

variable {σ : Type} (K : PolicyKind σ)

def reconcileInner (order : IterOrder Contender) (store : ConfigStore)
    (policy : PolicyObject K.Spec) : Except ReconcileError (ConfigStore × Option Rejection) := do
  let key ← policy.metadata.key
  let checked := K.check store key.namespaceName policy.metadata.creationTimestamp policy.spec
  let policies := storePolicies order key checked.rejected.isNone checked.states (K.table store)
  pure (K.setTable store policies, checked.rejected)

theorem table_reconcileInner {K : PolicyKind σ} {store : ConfigStore} {policy : PolicyObject K.Spec}
    (h : K.reconcileInner order store policy = .ok (store', rejected)) :
    ∃ key, policy.metadata.key = .ok key ∧
      rejected = (K.check store key.namespaceName policy.metadata.creationTimestamp
        policy.spec).rejected ∧
      K.table store' = storePolicies order key rejected.isNone
        (K.check store key.namespaceName policy.metadata.creationTimestamp policy.spec).states
        (K.table store) := by
  unfold reconcileInner at h
  cases hk : policy.metadata.key with
  | error e =>
    rw [hk] at h
    cases h
  | ok key =>
    rw [hk] at h
    cases h
    exact ⟨key, rfl, rfl, K.table_setTable _ _⟩

end PolicyKind

inductive PolicyAction {σ : Type} (K : PolicyKind σ) where
  | reconcile (order : IterOrder Contender) (policy : PolicyObject K.Spec)
  | delete (key : NamespacedName)
  /-- Everything else in the store changes: Secrets, ConfigMaps, grants, routes. -/
  | environment (store : ConfigStore)

def ipAllowlistKind (isIpNet : String → Bool) : PolicyKind IPAllowlistPolicy where
  Spec := IPAllowlistPolicySpec
  check _ := checkIPAllowlist isIpNet
  table := ConfigStore.ipAllowlistPolicies
  setTable store t := { store with ipAllowlistPolicies := t }
  table_setTable _ _ := rfl

def basicAuthKind : PolicyKind BasicAuthPolicy where
  Spec := BasicAuthPolicySpec
  check := checkBasicAuth
  table := ConfigStore.basicAuthPolicies
  setTable store t := { store with basicAuthPolicies := t }
  table_setTable _ _ := rfl

def apiKeyAuthKind : PolicyKind ApiKeyAuthPolicy where
  Spec := APIKeyAuthPolicySpec
  check := checkApiKeyAuth
  table := ConfigStore.apiKeyAuthPolicies
  setTable store t := { store with apiKeyAuthPolicies := t }
  table_setTable _ _ := rfl

def jwtAuthKind : PolicyKind JwtAuthPolicy where
  Spec := JWTAuthPolicySpec
  check _ := checkJwtAuth
  table := ConfigStore.jwtAuthPolicies
  setTable store t := { store with jwtAuthPolicies := t }
  table_setTable _ _ := rfl

def extAuthKind : PolicyKind ExtAuthPolicy where
  Spec := ExtAuthPolicySpec
  check _ := checkExtAuth
  table := ConfigStore.extAuthPolicies
  setTable store t := { store with extAuthPolicies := t }
  table_setTable _ _ := rfl

def backendTlsKind : PolicyKind BackendTLSPolicy where
  Spec := BackendTLSPolicySpec
  check := checkBackendTls
  table := ConfigStore.backendTlsPolicies
  setTable store t := { store with backendTlsPolicies := t }
  table_setTable _ _ := rfl

end Portus.Reconcilers

import Portus.DataPlane.RateLimiters
import Portus.DataPlane.Upstream
import Portus.Lib.Run

/-!
# Applied configurations and their history

`apply_config` makes the routing tables, the L4 configuration, the backend TLS map and the
health check interval from the configuration alone. It keeps a pool whose signature did not
change, breakers of equal parameters, and the rate limiters that its rules find. It stores
certificates and client validation only if some listener has a certificate. The reload thread
then loads them, unless they have the fingerprint of those it loaded last, and keeps what it
serves if none loads.
-/

namespace Portus.ConfigHistory

open Lib Proto DataPlane List Option

structure TlsCertEntry where
  hostname : String
  certPem : String
  keyPem : String

inductive ClientValidationMode where
  | allowValidOnly
  | allowInsecureFallback

def ClientValidationMode.parse (mode : String) : ClientValidationMode :=
  if mode = "AllowInsecureFallback" then .allowInsecureFallback else .allowValidOnly

structure PortClientValidation where
  port : UInt16
  caCertPems : List String
  mode : ClientValidationMode

def listenerValidation (l : Listener) : Option PortClientValidation :=
  l.clientValidation.bind fun cv =>
    let pems := cv.caCertPems.filter fun p => !(Text.trim p).isEmpty
    if l.protocol = "HTTPS" ∧ l.port.toNat < 65536 ∧ pems ≠ [] then
      some ⟨l.port.toUInt16, pems, .parse cv.mode⟩
    else none

/-- The first policy of a port wins. -/
def clientValidationFromListeners (listeners : List Listener) : List PortClientValidation :=
  ((listeners.filterMap listenerValidation).foldl (fun out spec =>
    if out.any (·.port = spec.port) then out else out ++ [spec]) []).insertionSort (·.port ≤ ·.port)

structure TlsCertData where
  entries : List TlsCertEntry
  clientValidation : List PortClientValidation

def tlsCertEntry (l : Listener) : Option TlsCertEntry :=
  l.tlsCertRef.bind fun cert =>
    if cert.certPem.isEmpty || cert.keyPem.isEmpty then none
    else some ⟨l.hostname, cert.certPem, cert.keyPem⟩

def tlsCertData (c : CompiledConfig) : Option TlsCertData :=
  let entries := c.listeners.filterMap tlsCertEntry
  if entries.isEmpty then none else some ⟨entries, clientValidationFromListeners c.listeners⟩

structure CertMap (Key : Type) where
  exact : Table String Key
  wildcard : List (String × Key)
  default : Option Key

section Model

variable {Key : Type}

def swapMap (entries : List (String × Key)) : CertMap Key where
  exact := .collect (entries.filter fun e => !e.1.isEmpty && !Text.startsWith e.1 "*.")
  wildcard := (entries.filter fun e => Text.startsWith e.1 "*.").map fun e =>
    (String.ofList (e.1.toList.drop 1), e.2)
  default := ((entries.filter (·.1.isEmpty)).getLast?.or entries.head?).map (·.2)

structure TlsPassthroughListener (Key : Type) where
  routes : Table String Slot
  terminate : Bool
  cert : Option Key
  listenerPort : UInt16

structure L4Config (Key : Type) where
  tlsListeners : Table String (TlsPassthroughListener Key) := ∅
  tcpProxy : Table UInt16 L4RouteTarget := ∅
  udpProxy : Table UInt16 L4RouteTarget := ∅
  /-- The bound ports, by protocol. -/
  ports : List (String × UInt16) := []

def addTlsRoute (load : String → String → Option Key)
    (listeners : Table String (TlsPassthroughListener Key)) (r : TlsPassthroughRoute) :
    Table String (TlsPassthroughListener Key) :=
  let terminate := r.tlsMode == "Terminate"
  let cert :=
    if terminate && !r.certPem.isEmpty && !r.keyPem.isEmpty then load r.certPem r.keyPem else none
  let entry := (listeners.lookup r.listenerHostname).getD
    ⟨∅, terminate, cert, r.listenerPort.toUInt16⟩
  listeners.insert r.listenerHostname { entry with
      cert := entry.cert.or cert
      listenerPort := if entry.listenerPort = 0 then r.listenerPort.toUInt16 else entry.listenerPort
      routes := r.sniHostnames.foldl (fun t host =>
        t.insert host (r.backendService, r.backendPort.toUInt16)) entry.routes }

def l4Targets (routes : List L4ProxyRoute) : Table UInt16 L4RouteTarget :=
  .collect (routes.map fun r => (r.listenerPort.toUInt16, l4Target r))

def boundPort (l : Listener) : Option (String × UInt16) :=
  if 0 < l.port.toNat ∧ l.port.toNat < 65536 ∧ l.protocol ∈ ["HTTP", "HTTPS", "TLS", "TCP", "UDP"]
  then some (l.protocol, l.port.toUInt16) else none

def buildL4ConfigFromProto (load : String → String → Option Key) (c : CompiledConfig) :
    L4Config Key where
  tlsListeners := c.tlsPassthroughListenerHostnames.foldl (fun t host =>
      if (t.lookup host).isSome then t else t.insert host ⟨∅, false, none, 0⟩)
    (c.tlsPassthroughRoutes.foldl (addTlsRoute load) ∅)
  tcpProxy := l4Targets c.tcpProxyRoutes
  udpProxy := l4Targets c.udpProxyRoutes
  ports := (c.listeners.filterMap boundPort).dedup

structure Env (Key : Type) where
  router : RouterLibs
  orders : MapOrders
  tls : TlsLibs
  hash : LbHash
  /-- `load_certified_key_from_pem`. -/
  load : String → String → Option Key
  entryHash : TlsCertEntry → UInt64
  validationHash : List PortClientValidation → UInt64

structure ProxyState (Key : Type) where
  snapshot : ProxySnapshot := ⟨∅, []⟩
  /-- The rate limiters of the rules of the snapshot. -/
  limiters : BoundRules := fun _ => []
  /-- The number of configurations applied so far. -/
  applied : Nat := 0
  lb : LbState := {}
  l4 : L4Config Key := {}
  backendTls : Table Slot BackendTlsInfo := ∅
  healthCheckMinInterval : UInt32 := 10
  tlsCert : Option TlsCertData := none
  lastFingerprint : Option UInt64 := none
  /-- The certificates and the client validation of the resolver; none before the first ones. -/
  served : Option (CertMap Key × List PortClientValidation) := none

inductive Action where
  | apply (c : CompiledConfig)
  /-- A pass of the reload thread. -/
  | reload

def minInterval (backends : List BackendGroup) : UInt32 :=
  ((backends.filterMap (·.healthCheck)).map fun hc => max hc.intervalSecs 1).min?.getD 10

variable (env : Env Key)

def applyConfig (s : ProxyState Key) (c : CompiledConfig) : ProxyState Key :=
  { s with
    snapshot := buildListenerBucketsFromProto env.router env.orders c.routes
    limiters := bindLimiters env.router s.limiters s.applied c.routes
    applied := s.applied + 1
    lb := buildLbMapFromProto env.hash s.lb c.backends
    l4 := buildL4ConfigFromProto env.load c
    backendTls := buildBackendTlsMapFromProto env.tls c.backends
    healthCheckMinInterval := minInterval c.backends
    tlsCert := (tlsCertData c).or s.tlsCert }

def fingerprint (data : TlsCertData) : UInt64 :=
  (data.entries.map env.entryHash).sum + env.validationHash data.clientValidation

def loaded (data : TlsCertData) : List (String × Key) :=
  data.entries.filterMap fun e => (env.load e.certPem e.keyPem).map (e.hostname, ·)

def serve (data : TlsCertData) : CertMap Key × List PortClientValidation :=
  (swapMap (loaded env data), data.clientValidation)

def reload (s : ProxyState Key) : ProxyState Key :=
  match s.tlsCert with
  | none => s
  | some data =>
    if s.lastFingerprint = some (fingerprint env data) then s
    else if (loaded env data).isEmpty then s
    else { s with lastFingerprint := some (fingerprint env data), served := some (serve env data) }

def step (s : ProxyState Key) : Action → ProxyState Key
  | .apply c => applyConfig env s c
  | .reload => reload env s

/-- What decides how traffic is treated, apart from runtime state. -/
@[ext] structure Effective (Key : Type) where
  snapshot : ProxySnapshot
  sharing : GroupKey × Nat → GroupKey × Nat → Prop
  pools : Slot → Option Pool
  l4 : L4Config Key
  backendTls : Table Slot BackendTlsInfo
  served : Option (CertMap Key × List PortClientValidation)
  healthCheckMinInterval : UInt32

def effective (s : ProxyState Key) : Effective Key :=
  ⟨s.snapshot, SharesLimiter s.limiters, s.lb.lbs.lookup, s.l4, s.backendTls, s.served,
    s.healthCheckMinInterval⟩

def after (s : ProxyState Key) (c : CompiledConfig) : ProxyState Key :=
  reload env (applyConfig env s c)

def HistoryIndependent (history : List Action) (c : CompiledConfig) : Prop :=
  effective (after env (run (step env) {} history) c) = effective (after env {} c)

def Action.backends : Action → List BackendGroup
  | .apply c => c.backends
  | .reload => []

/-- Groups of one Service and port with equal signatures have the same pool. -/
def SignaturesTell (groups : List BackendGroup) : Prop :=
  ∀ g ∈ groups, ∀ g' ∈ groups, slotOfGroup g = slotOfGroup g' →
    lbSignature env.hash g = lbSignature env.hash g' → freshPool g = freshPool g'

/-- The configuration has a certificate that loads, and what is served with its fingerprint is what
it asks for; or nothing is served, and nothing that loads is stored. -/
def TakesEffect (s : ProxyState Key) (c : CompiledConfig) : Prop :=
  (∃ data, tlsCertData c = some data ∧ loaded env data ≠ [] ∧
      (s.lastFingerprint = some (fingerprint env data) → s.served = some (serve env data))) ∨
    s.served = none ∧ ∀ data, (tlsCertData c).or s.tlsCert = some data → loaded env data = []

def BuiltFrom (groups : List BackendGroup) (lb : LbState) : Prop :=
  ∀ slot signature pool, lb.lbSignatures.lookup slot = some signature →
    lb.lbs.lookup slot = some pool →
      ∃ g ∈ groups, slotOfGroup g = slot ∧ lbSignature env.hash g = signature ∧
        freshPool g = some pool

variable {env} {groups backends : List BackendGroup} {s : ProxyState Key} {c : CompiledConfig}

theorem builtFrom_add {existing acc : LbState} {g : BackendGroup}
    (h : BuiltFrom env groups existing) (ha : BuiltFrom env groups acc) (hg : g ∈ groups) :
    BuiltFrom env groups (LbState.add env.hash existing acc g) := by
  unfold LbState.add
  cases hpo : poolOfGroup env.hash existing g with
  | none => exact ha
  | some pool =>
    intro slot signature p hs hp
    by_cases hsl : slot = slotOfGroup g
    · subst hsl
      rw [AList.lookup_insert] at hs hp
      cases hs
      cases hp
      rcases or_eq_some_iff.1 hpo with hr | ⟨-, hf⟩
      · split at hr
        next hsi => exact h _ _ _ hsi hr
        next => cases hr
      · exact ⟨g, hg, rfl, rfl, hf⟩
    · rw [AList.lookup_insert_ne hsl] at hs hp
      exact ha slot signature p hs hp

theorem builtFrom_build {lb : LbState} (h : BuiltFrom env groups lb) (hsu : backends ⊆ groups) :
    BuiltFrom env groups (buildLbMapFromProto env.hash lb backends) :=
  List.foldlRecOn backends _ (fun _ _ _ hs => nomatch hs) fun _ ha _ hg =>
    builtFrom_add h ha (hsu hg)

theorem priorAgrees_of_builtFrom (h : BuiltFrom env groups s.lb)
    (ht : SignaturesTell env (groups ++ backends)) : PriorAgrees env.hash s.lb backends := by
  intro g hg pool hs hp
  obtain ⟨g', hg', hsl, hsi, hf⟩ := h _ _ _ hs hp
  rw [← hf]
  exact ht g (mem_append_right _ hg) g' (mem_append_left _ hg') hsl.symm hsi.symm

theorem effective_reload :
    effective (reload env s) = { effective s with served := (reload env s).served } := by
  unfold reload
  split
  next => rfl
  next =>
    split
    · rfl
    · split <;> rfl

theorem served_reload : (reload env s).served = s.tlsCert.elim s.served fun data =>
      if s.lastFingerprint = some (fingerprint env data) ∨ loaded env data = [] then s.served
      else some (serve env data) := by
  unfold reload
  cases s.tlsCert with
  | none => rfl
  | some data =>
    by_cases hf : s.lastFingerprint = some (fingerprint env data)
    · simp [hf]
    · by_cases hl : loaded env data = [] <;> simp [hf, hl]

theorem served_after :
    (after env s c).served = ((tlsCertData c).or s.tlsCert).elim s.served fun data =>
      if s.lastFingerprint = some (fingerprint env data) ∨ loaded env data = [] then s.served
      else some (serve env data) :=
  served_reload

theorem served_after_iff (hs : s.served = none → s.lastFingerprint = none) :
    (after env s c).served = (after env {} c).served ↔ TakesEffect env s c := by
  rw [TakesEffect, served_after, served_after]
  cases tlsCertData c with
  | none =>
    simp only [none_or, elim_none, reduceCtorEq, false_and, exists_false, false_or]
    cases s.tlsCert with
    | none => simp
    | some data =>
      constructor
      · intro h
        by_cases hsk : s.lastFingerprint = some (fingerprint env data) ∨ loaded env data = []
        · rw [elim_some, if_pos hsk] at h
          rw [hs h] at hsk
          rcases hsk with hsk | hsk
          · cases hsk
          · exact ⟨h, fun _ hd => Option.some.inj hd ▸ hsk⟩
        · rw [elim_some, if_neg hsk] at h
          cases h
      · rintro ⟨hn, hst⟩
        simp [hn, hst data rfl]
  | some data =>
    by_cases hl : loaded env data = []
    · simp [hl]
    · by_cases hf : s.lastFingerprint = some (fingerprint env data) <;> simp [hl, hf]

structure Sound (env : Env Key) (groups : List BackendGroup) (s : ProxyState Key) : Prop where
  built : BuiltFrom env groups s.lb
  recorded : Recorded s.applied s.limiters
  fingerprint : s.served = none → s.lastFingerprint = none

theorem sound_step {a : Action} (h : Sound env groups s) (ha : a.backends ⊆ groups) :
    Sound env groups (step env s a) := by
  cases a with
  | apply c =>
    exact ⟨builtFrom_build h.built ha, recorded_bindLimiters h.recorded c.routes, h.fingerprint⟩
  | reload =>
    simp only [step, reload]
    split
    next => exact h
    next =>
      split
      · exact h
      · split
        · exact h
        · exact ⟨h.built, h.recorded, nofun⟩

theorem sound_run (env : Env Key) (hi : List Action) :
    Sound env (hi.flatMap Action.backends) (run (step env) {} hi) := by
  refine run_invariant (fun s a => sound_step)
    ⟨fun _ _ _ hs => (nomatch hs), recorded_empty, fun _ => rfl⟩
    (StepsMeet.of_forall (fun a ha => ?_) _)
  exact fun g hg => mem_flatMap.2 ⟨a, ha, hg⟩

/-- After every history, however far the reload thread had come, a configuration has the effect it
has on a fresh data plane exactly if its certificates take effect and its rules find no limiter
that two of them would share. -/
theorem historyIndependent_iff {history : List Action}
    (htell : SignaturesTell env (history.flatMap Action.backends ++ c.backends)) :
    HistoryIndependent env history c ↔ TakesEffect env (run (step env) {} history) c ∧
      LimitersApart env.router (run (step env) {} history).limiters c.routes := by
  have hso := sound_run env history
  have hshares := sharesLimiter_eq_iff env.router hso.recorded c.routes
  rw [← served_after_iff hso.fingerprint, ← hshares, HistoryIndependent, after, after,
    effective_reload, effective_reload]
  constructor
  · exact fun h => ⟨congrArg Effective.served h, congrArg Effective.sharing h⟩
  · rintro ⟨hse, hsh⟩
    have hp := lookup_buildLbMapFromProto (priorAgrees_of_builtFrom hso.built htell)
    have hf := lookup_buildLbMapFromProto (priorAgrees_empty env.hash c.backends)
    exact Effective.ext rfl hsh (funext fun slot => (hp slot).trans (hf slot).symm) rfl rfl hse rfl

end Model

def noTls : TlsLibs :=
  ⟨fun _ => [], fun _ => false, fun _ => false, fun _ => false, fun _ => false, fun _ _ => 0⟩

def trusting : Env String where
  router := plainNames
  orders := ⟨.insertion, .insertion⟩
  tls := noTls
  hash := fun _ _ => 0
  load := fun cert _ => some cert
  entryHash := fun _ => 1
  validationHash := fun _ => 0

def plainConfig : CompiledConfig := ⟨"", 1, 1, [], [], [], [], [], [], [], [], [], []⟩

def shopCert : Listener := ⟨"shop", 443, "HTTPS", "", some ⟨"cert", "key"⟩, "", "", none⟩

def limitedRoute (method : String) : RouteConfig :=
  { paths := [], methodMatch := method, rateLimit := some ⟨10, false⟩ }

theorem certificate_first_independent : HistoryIndependent trusting
      [.apply { plainConfig with routes := [limitedRoute "GET"] }, .reload]
      { plainConfig with listeners := [shopCert], routes := [limitedRoute "GET"] } := by
  refine (historyIndependent_iff fun _ hg => absurd hg not_mem_nil).2
    ⟨.inl ⟨_, rfl, nofun, nofun⟩, fun key wanted _ i j hi hj => ?_⟩
  have hone : (groupRules plainNames [limitedRoute "GET"] key).length ≤ 1 := by
    rw [groupRules, filter_cons]
    split
    · exact le_rfl
    · exact Nat.zero_le 1
  have hlt {i : Nat} (hi : (groupRules plainNames [limitedRoute "GET"] key)[i]?.bind rateSetting =
      some wanted) : i < 1 := by
    obtain ⟨r, hr, -⟩ := bind_eq_some_iff.1 hi
    exact (List.getElem?_eq_some_iff.1 hr).1.trans_le hone
  exact (Nat.lt_one_iff.1 (hlt hi)).trans (Nat.lt_one_iff.1 (hlt hj)).symm

/-- A certificate that was removed is still served. -/
theorem removed_certificate_served :
    ¬ HistoryIndependent trusting [.apply { plainConfig with listeners := [shopCert] }, .reload]
      plainConfig := by
  intro h
  cases congrArg Effective.served h

/-- Two rules of one path and limit, applied again, share a bucket. -/
theorem reapplied_limiter_shared :
    ¬ HistoryIndependent trusting
      [.apply { plainConfig with routes := [limitedRoute "GET", limitedRoute "POST"] }]
      { plainConfig with routes := [limitedRoute "GET", limitedRoute "POST"] } := by
  intro h
  have hs := congrFun (congrFun (congrArg Effective.sharing h) (⟨0, "", ""⟩, 0)) (⟨0, "", ""⟩, 1)
  obtain ⟨id, hi, hj⟩ := hs.mp ⟨⟨0, ⟨0, "", ""⟩, 0⟩, rfl, rfl⟩
  cases hi
  cases hj

end Portus.ConfigHistory

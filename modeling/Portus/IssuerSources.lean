import Portus.Compiler.Backends
import Portus.DataPlane.Jwt
import Portus.Lib.Run
import Portus.Reconcilers.PolicyKinds

/-!
# Where the keys of an issuer come from

The controller fetches the keys of every issuer a JWTAuthPolicy names and keeps them
by issuer (`beginRefresh`, `finishRefresh`); a fetch is awaited, so refreshes for
different policies overlap. A run also reconciles and deletes policies and changes the
rest of the store. `fetched` remembers what was ever fetched, and from where.
-/

namespace Portus

open Lib Proto Reconcilers Compiler DataPlane List Option AList

structure KeyFetch where
  issuer : String
  jwksUri : Option String
  previous : Option IssuerKeysState

/-- An issuer fetched less than a minute ago is not fetched again from the same place. -/
def minRefetch : Nat := 60

def beginRefresh (store : ConfigStore) (provider : JwtProviderState) (now : Nat) : Option KeyFetch :=
  let previous := store.issuerKeys.lookup provider.issuer
  if previous.any fun prev => prev.jwksUri == provider.jwksUri && now - prev.fetchedAt < minRefetch
  then none
  else some ⟨provider.issuer, provider.jwksUri, previous⟩

def fetchedKeys (fetch : KeyFetch) (result : Except String String) (now : Nat) : IssuerKeysState :=
  match result with
  | .ok json => ⟨fetch.jwksUri, some json, none, now⟩
  | .error e =>
    let sameSource := fetch.previous.filter (·.jwksUri == fetch.jwksUri)
    ⟨fetch.jwksUri, sameSource.bind (·.jwksJson), some e, now⟩

def finishRefresh (store : ConfigStore) (fetch : KeyFetch) (result : Except String String)
    (now : Nat) : ConfigStore :=
  { store with
    issuerKeys := store.issuerKeys.insert fetch.issuer (fetchedKeys fetch result now) }

structure KeyHistory where
  store : ConfigStore := {}
  fetches : List KeyFetch := []
  /-- What was fetched: issuer, `jwksUri` and document. -/
  fetched : List (String × Option String × String) := []

inductive KeyAction where
  | refresh (provider : JwtProviderState) (now : Nat)
  | fetchDone (index : Nat) (result : Except String String) (now : Nat)
  | reconcile (order : IterOrder Contender) (policy : PolicyObject JWTAuthPolicySpec)
  | delete (key : NamespacedName)
  /-- Everything but JWTAuthPolicies and keys changes. -/
  | environment (store : ConfigStore)

def recordFetch (fetch : KeyFetch) (result : Except String String)
    (fetched : List (String × Option String × String)) : List (String × Option String × String) :=
  match result with
  | .ok json => (fetch.issuer, fetch.jwksUri, json) :: fetched
  | .error _ => fetched

def KeyHistory.step (h : KeyHistory) : KeyAction → KeyHistory
  | .refresh provider now =>
    { h with fetches := h.fetches ++ (beginRefresh h.store provider now).toList }
  | .fetchDone index result now =>
    match h.fetches[index]? with
    | some fetch =>
      { store := finishRefresh h.store fetch result now
        fetches := h.fetches.eraseIdx index
        fetched := recordFetch fetch result h.fetched }
    | none => h
  | .reconcile order policy =>
    match jwtAuthKind.reconcileInner order h.store policy with
    | .ok (store, _) => { h with store }
    | .error _ => h
  | .delete key =>
    { h with store := { h.store with jwtAuthPolicies := h.store.jwtAuthPolicies.erase key } }
  | .environment store =>
    { h with store :=
        { store with
          jwtAuthPolicies := h.store.jwtAuthPolicies
          issuerKeys := h.store.issuerKeys } }

section Properties

variable {Key Claims : Type} (libs : JwtLibs Key Claims)

def jwksOf (order : IterOrder ServiceKey) (store : ConfigStore) : Table String (IssuerKeySet Key) :=
  jwksFromEntries libs (compileConfig order store).issuerKeys

def AcceptedProvider (store : ConfigStore) (pr : JwtProviderState) : Prop :=
  ∃ key p, store.jwtAuthPolicies.lookup key = some p ∧ p.accepted = true ∧ pr ∈ p.spec.providers

/-- The keys of every accepted provider were fetched from its own source. -/
def KeysFromOwnSource (h : KeyHistory) : Prop :=
  ∀ pr, AcceptedProvider h.store pr → ∀ order keys,
    (jwksOf libs order h.store).lookup pr.issuer = some keys →
      ∃ json set, (pr.issuer, pr.jwksUri, json) ∈ h.fetched ∧ libs.parseJwkSet json = some set ∧
        keys = keySetOf libs set

/-- The action completes a fetch from the source of the provider. -/
def FetchesOwnSource (h : KeyHistory) (pr : JwtProviderState) : KeyAction → Prop
  | .fetchDone index _ _ => ∃ fetch, h.fetches[index]? = some fetch ∧ fetch.issuer = pr.issuer ∧
    fetch.jwksUri = pr.jwksUri
  | _ => False

/-- Nothing but a fetch from its own source changes which tokens an accepted provider of a served
route verifies. -/
def Undisturbed (h : KeyHistory) (a : KeyAction) : Prop :=
  ∀ pr, AcceptedProvider h.store pr → ¬ FetchesOwnSource h pr a → ∀ order order',
    pr.issuer ∈ (compileRoutes h.store).flatMap jwtIssuers →
      pr.issuer ∈ (compileRoutes (h.step a).store).flatMap jwtIssuers → ∀ token now,
        verifyClaims libs token pr.issuer pr.audiences (jwksOf libs order' (h.step a).store) now =
          verifyClaims libs token pr.issuer pr.audiences (jwksOf libs order h.store) now

end Properties

/-- A fetch ends while all stored policies of its issuer name its source; a policy is stored when
the keys at hand are from its sources. -/
def SourcesAgree (h : KeyHistory) : KeyAction → Prop
  | .fetchDone index _ _ => ∀ fetch, h.fetches[index]? = some fetch →
    ∀ key p, h.store.jwtAuthPolicies.lookup key = some p → ∀ pr ∈ p.spec.providers,
      pr.issuer = fetch.issuer → pr.jwksUri = fetch.jwksUri
  | .reconcile _ policy => ∀ key, policy.metadata.key = .ok key →
    ∀ p ∈ (checkJwtAuth key.namespaceName policy.metadata.creationTimestamp policy.spec).states,
      ∀ pr ∈ p.spec.providers, ∀ entry, h.store.issuerKeys.lookup pr.issuer = some entry →
        entry.jwksJson.isSome → entry.jwksUri = pr.jwksUri
  | _ => True

/-- A document was fetched for an issuer from where the entry says. -/
def EntryFetched (h : KeyHistory) (issuer : String) (entry : IssuerKeysState) : Prop :=
  ∀ json, entry.jwksJson = some json → (issuer, entry.jwksUri, json) ∈ h.fetched

/-- Entries say where their keys are from, and the stored policies agree with the entries. -/
structure KeyHistory.Sound (h : KeyHistory) : Prop where
  entries : ∀ issuer entry, h.store.issuerKeys.lookup issuer = some entry →
    EntryFetched h issuer entry
  previous : ∀ fetch ∈ h.fetches, ∀ prev, fetch.previous = some prev →
    EntryFetched h fetch.issuer prev
  agree : ∀ key p, h.store.jwtAuthPolicies.lookup key = some p → ∀ pr ∈ p.spec.providers,
    ∀ entry, h.store.issuerKeys.lookup pr.issuer = some entry → entry.jwksJson.isSome →
      entry.jwksUri = pr.jwksUri

section Steps

variable {h : KeyHistory}

theorem jwksUri_fetchedKeys : (fetchedKeys fetch result now).jwksUri = fetch.jwksUri := by
  cases result <;> rfl

theorem sound_refresh (hs : h.Sound) : (h.step (.refresh provider now)).Sound := by
  refine ⟨hs.entries, fun fetch hf prev hp => ?_, hs.agree⟩
  rcases mem_append.1 hf with hf | hf
  · exact hs.previous fetch hf prev hp
  · unfold beginRefresh at hf
    dsimp only at hf
    split at hf
    · cases hf
    · cases mem_singleton.1 hf
      exact hs.entries provider.issuer prev hp

theorem entryFetched_fetchedKeys (hf : h'.fetched = recordFetch fetch result h.fetched)
    (hp : ∀ prev, fetch.previous = some prev → EntryFetched h fetch.issuer prev) :
    EntryFetched h' fetch.issuer (fetchedKeys fetch result now) := by
  intro json hj
  rw [jwksUri_fetchedKeys, hf]
  cases result with
  | ok json' =>
    cases hj
    exact mem_cons_self
  | error e =>
    obtain ⟨prev, hprev, hj⟩ := bind_eq_some_iff.1 hj
    obtain ⟨hprev, hs⟩ := filter_eq_some_iff.1 hprev
    rw [← beq_iff_eq.1 hs]
    exact hp prev hprev json hj

theorem sound_fetchDone (hs : h.Sound) (hok : SourcesAgree h (.fetchDone index result now)) :
    (h.step (.fetchDone index result now)).Sound := by
  simp only [KeyHistory.step]
  split
  case h_2 => exact hs
  case h_1 fetch hfe =>
    have hm : fetch ∈ h.fetches := mem_of_getElem? hfe
    have hk : ∀ e ∈ h.fetched, e ∈ recordFetch fetch result h.fetched := by
      intro e he
      cases result with
      | ok json => exact mem_cons_of_mem _ he
      | error _ => exact he
    refine ⟨fun issuer entry hen => ?_, fun f hf prev hp' json hj => ?_,
      fun key p hp pr hpr entry hen hj => ?_⟩
    · by_cases hi : issuer = fetch.issuer
      · subst hi
        simp only [finishRefresh, lookup_insert, Option.some.injEq] at hen
        subst hen
        exact entryFetched_fetchedKeys rfl (hs.previous fetch hm)
      · simp only [finishRefresh, lookup_insert_ne hi] at hen
        exact fun json hj => hk _ (hs.entries issuer entry hen json hj)
    · exact hk _ (hs.previous f (mem_of_mem_eraseIdx hf) prev hp' json hj)
    · by_cases hi : pr.issuer = fetch.issuer
      · rw [hok fetch hfe key p hp pr hpr hi]
        simp only [finishRefresh] at hen
        rw [hi] at hen
        rw [lookup_insert, Option.some.injEq] at hen
        rw [← hen, jwksUri_fetchedKeys]
      · simp only [finishRefresh, lookup_insert_ne hi] at hen
        exact hs.agree key p hp pr hpr entry hen hj

theorem sound_reconcile (hs : h.Sound) (hok : SourcesAgree h (.reconcile order policy)) :
    (h.step (.reconcile order policy)).Sound := by
  simp only [KeyHistory.step]
  split
  case h_2 => exact hs
  case h_1 store rejected hi =>
    obtain ⟨key, hkey, -, ht⟩ := PolicyKind.table_reconcileInner hi
    have hkeys : store.issuerKeys = h.store.issuerKeys := by
      unfold PolicyKind.reconcileInner at hi
      rw [hkey] at hi
      cases hi
      rfl
    refine ⟨fun issuer entry he => hs.entries issuer entry (hkeys ▸ he), hs.previous,
      fun k q hq pr hpr entry he hj => ?_⟩
    rw [show store.jwtAuthPolicies = _ from ht] at hq
    rcases spec_of_lookup_storePolicies hq with ⟨p, hp, heq⟩ | ⟨q₀, hq₀, heq⟩
    · exact hok key hkey p hp pr (heq ▸ hpr) entry (hkeys ▸ he) hj
    · exact hs.agree k q₀ hq₀ pr (heq ▸ hpr) entry (hkeys ▸ he) hj

theorem sound_keyStep (hs : h.Sound) (hok : SourcesAgree h a) : (h.step a).Sound := by
  cases a with
  | refresh provider now => exact sound_refresh hs
  | fetchDone index result now => exact sound_fetchDone hs hok
  | reconcile order policy => exact sound_reconcile hs hok
  | delete key =>
    refine ⟨hs.entries, hs.previous, fun k p hp => ?_⟩
    change (h.store.jwtAuthPolicies.erase key).lookup k = some p at hp
    exact hs.agree k p (Table.lookup_erase_eq_some.1 hp).2
  | environment store => exact ⟨hs.entries, hs.previous, hs.agree⟩

end Steps

section Compiled

variable {Key Claims : Type} (libs : JwtLibs Key Claims) {store : ConfigStore} {issuer : String}

def heldJson (store : ConfigStore) (issuer : String) : Option String :=
  (store.issuerKeys.lookup issuer).bind (·.jwksJson)

theorem lookup_jwksOf : (jwksOf libs order store).lookup issuer =
      if issuer ∈ (compileRoutes store).flatMap jwtIssuers then
        (libs.parseJwkSet ((heldJson store issuer).getD "")).map (keySetOf libs)
      else none := by
  have hm (keys : IssuerKeySet Key) :
      (issuer, keys) ∈ (compileIssuerKeys store (compileRoutes store)).filterMap (fun e =>
        (libs.parseJwkSet e.jwksJson).map fun set => (e.issuer, keySetOf libs set)) ↔
        issuer ∈ (compileRoutes store).flatMap jwtIssuers ∧
          (libs.parseJwkSet ((heldJson store issuer).getD "")).map (keySetOf libs) = some keys := by
    rw [compileIssuerKeys, filterMap_map, mem_filterMap]
    constructor
    · rintro ⟨i, hi, heq⟩
      obtain ⟨set, hs, heq⟩ := map_eq_some_iff.1 heq
      cases heq
      exact ⟨mem_btreeSet.1 hi, map_eq_some_iff.2 ⟨set, hs, rfl⟩⟩
    · rintro ⟨hi, heq⟩
      obtain ⟨set, hs, rfl⟩ := map_eq_some_iff.1 heq
      exact ⟨issuer, mem_btreeSet.2 hi, map_eq_some_iff.2 ⟨set, hs, rfl⟩⟩
  cases hl : (jwksOf libs order store).lookup issuer with
  | some keys =>
    obtain ⟨hi, hk⟩ := (hm keys).1 (Table.lookup_collect_eq_some hl)
    rw [if_pos hi, hk]
  | none =>
    have hn := Table.lookup_collect_eq_none.1 hl
    split
    next hi =>
      cases hk : (libs.parseJwkSet ((heldJson store issuer).getD "")).map (keySetOf libs) with
      | none => rfl
      | some keys => exact absurd ((hm keys).2 ⟨hi, hk⟩) (hn keys)
    next => rfl

theorem keysFromOwnSource_of_sound {h : KeyHistory} (hs : h.Sound) : KeysFromOwnSource libs h := by
  rintro pr ⟨key, p, hp, -, hpr⟩ order keys hk
  rw [lookup_jwksOf] at hk
  split at hk
  case isFalse => cases hk
  case isTrue =>
    obtain ⟨set, hse, rfl⟩ := map_eq_some_iff.1 hk
    cases hj : heldJson h.store pr.issuer with
    | none =>
      rw [hj, getD_none, libs.parse_empty] at hse
      cases hse
    | some json =>
      rw [hj] at hse
      obtain ⟨entry, he, hj⟩ := bind_eq_some_iff.1 hj
      have hu := hs.agree key p hp pr hpr entry he (by rw [hj]; rfl)
      exact ⟨json, set, hu ▸ hs.entries pr.issuer entry he json hj, hse, rfl⟩

theorem issuerKeys_step {h : KeyHistory} (hok : SourcesAgree h a)
    (hpr : AcceptedProvider h.store pr) (ho : ¬ FetchesOwnSource h pr a) :
    (h.step a).store.issuerKeys.lookup pr.issuer = h.store.issuerKeys.lookup pr.issuer := by
  cases a with
  | refresh provider now | delete key | environment store => rfl
  | reconcile order policy =>
    simp only [KeyHistory.step]
    split
    case h_2 => rfl
    case h_1 store rejected hin =>
      unfold PolicyKind.reconcileInner at hin
      cases hk : policy.metadata.key with
      | error e => rw [hk] at hin; cases hin
      | ok key => rw [hk] at hin; cases hin; rfl
  | fetchDone index result now =>
    simp only [KeyHistory.step]
    split
    case h_2 => rfl
    case h_1 fetch hf =>
      obtain ⟨key, p, hp, -, hm⟩ := hpr
      have his : pr.issuer ≠ fetch.issuer := fun heq =>
        ho ⟨fetch, hf, heq.symm, (hok fetch hf key p hp pr hm heq).symm⟩
      simp only [finishRefresh, lookup_insert_ne his]

theorem undisturbed_of_sourcesAgree {h : KeyHistory} (hok : SourcesAgree h a) :
    Undisturbed libs h a := by
  intro pr hpr ho order order' hb ha token now
  unfold verifyClaims
  rw [lookup_jwksOf, lookup_jwksOf, if_pos hb, if_pos ha, heldJson, heldJson,
    issuerKeys_step hok hpr ho]

end Compiled

/-- **Keys come from the provider's own source** in every run in which sources agree, and only
fetches from there change what its tokens are verified with. -/
theorem keysFromOwnSource_run {Key Claims : Type} (libs : JwtLibs Key Claims)
    (actions : List KeyAction) (meet : StepsMeet KeyHistory.step SourcesAgree {} actions) :
    KeysFromOwnSource libs (run KeyHistory.step {} actions) ∧
      ∀ a, SourcesAgree (run KeyHistory.step {} actions) a →
        Undisturbed libs (run KeyHistory.step {} actions) a := by
  have hi : KeyHistory.Sound {} := by
    refine ⟨fun i e he => ?_, fun f hf => ?_, fun k p hp => ?_⟩
    · cases he
    · exact absurd hf not_mem_nil
    · cases hp
  have hs := run_invariant (fun _ _ => sound_keyStep) hi meet
  exact ⟨keysFromOwnSource_of_sound libs hs, fun a hok => undisturbed_of_sourcesAgree libs hok⟩

def dexIssuer : String := "https://dex.example"

def oneKey (keyId : String) : String :=
  "\x7b\"keys\":[\x7b\"kty\":\"OKP\",\"crv\":\"Ed25519\",\"x\":\"eA\",\"kid\":\"" ++ keyId ++
    "\"\x7d]\x7d"

def dexLibs : JwtLibs Unit Unit where
  parseJwkSet json :=
    if json = oneKey "own" then some [⟨some "own", none, .octetKeyPair, "eA"⟩]
    else if json = oneKey "other" then some [⟨some "other", none, .octetKeyPair, "eA"⟩]
    else none
  decodingKey _ := some ()
  decodeHeader _ := none
  decode _ _ _ _ _ := none
  exp _ := none
  parse_empty := by decide

/-- A policy of a namespace on its route `r`, with a source for the keys of the issuer. -/
def dexPolicy (ns : String) (jwksUri : Option String) : PolicyObject JWTAuthPolicySpec where
  metadata := { name := some "jwt", namespaceName := some ns, creationTimestamp := some 1 }
  spec :=
    { targetRef := { kind := "HTTPRoute", name := "r" }
      providers := [{ issuer := dexIssuer, jwksUri := jwksUri }] }

def teamRoute : ConfigStore :=
  { gateways := Table.collect [(⟨"infra", "gw"⟩, sharedGateway)]
    httpRoutes := Table.collect [(⟨"team", "r"⟩,
      plainRoute "team" "team.example" [{ namespaceName := "team", name := "app", port := 80 }])] }

def fetchFrom (jwksUri : Option String) (keyId : String) : List KeyAction :=
  [.refresh ⟨dexIssuer, [], jwksUri, []⟩ 0, .fetchDone 0 (.ok (oneKey keyId)) 0]

def ownKeys : List KeyAction :=
  .environment teamRoute :: fetchFrom none "own" ++
    [.reconcile .insertion (dexPolicy "team" none), .reconcile .insertion (dexPolicy "guest" none)]

/-- Two policies with one source share its keys. -/
theorem keysFromOwnSource_ownKeys : KeysFromOwnSource dexLibs (run KeyHistory.step {} ownKeys) ∧
      ∀ a, SourcesAgree (run KeyHistory.step {} ownKeys) a →
        Undisturbed dexLibs (run KeyHistory.step {} ownKeys) a := by
  refine keysFromOwnSource_run dexLibs ownKeys ⟨trivial, trivial, ?_, ?_, ?_, trivial⟩
  · intro fetch _ key p hp
    cases hp
  all_goals
    intro key hk p hp pr hpr entry he _
    cases hk
    cases mem_singleton.1 hp
    cases mem_singleton.1 hpr
    cases he
    rfl

/-- A policy of another namespace with another source for the issuer replaces the keys. -/
theorem other_source_replaces_keys :
    ¬ ∀ actions, KeysFromOwnSource dexLibs (run KeyHistory.step {} actions) := by
  intro h
  let actions := ownKeys ++ fetchFrom (some "https://other.example/keys") "other"
  let pr : JwtProviderState := ⟨dexIssuer, [], none, []⟩
  let store := (run KeyHistory.step {} actions).store
  have ha : AcceptedProvider store pr :=
    ⟨⟨"team", "jwt"⟩, ⟨⟨gatewayApiGroup, "HTTPRoute", "team", "r", none⟩, ⟨[pr]⟩, some 1, true⟩,
      by decide, rfl, mem_singleton.2 rfl⟩
  have hk : (jwksOf dexLibs .insertion store).lookup pr.issuer =
      some [(some "other", .edDSA, ())] := by
    decide
  obtain ⟨json, set, hf, hp, heq⟩ := h actions pr ha .insertion _ hk
  have hl : (run KeyHistory.step {} actions).fetched =
      [(dexIssuer, some "https://other.example/keys", oneKey "other"),
        (dexIssuer, none, oneKey "own")] := by decide
  rw [hl] at hf
  simp only [mem_cons, Prod.mk.injEq, not_mem_nil, or_false] at hf
  rcases hf with ⟨-, hu, -⟩ | ⟨-, -, rfl⟩
  · cases hu
  · cases hp
    exact absurd heq (by decide)

end Portus

import Portus.DataPlane.Planner
import Portus.DataPlane.Tokens
import Portus.Lib.Run
import Portus.Reconcilers.PolicyKinds
import Portus.SessionAffinity

/-!
# Headers that authentication owns

A JWTAuthPolicy owns the claim headers of its providers, and an ExtAuthPolicy the headers that the
answer of its Service may set. Whatever the request held before, the backend finds under an owned
name the last value that was verified, or none (`carriesVerified`). Mirrors get their copy of the
client's own headers before any of this.
-/

namespace Portus.OwnedHeaders

open Portus Lib Proto DataPlane List Option AList Function Text

/-- A name in the lower case that the libraries keep it in. -/
structure HeaderName where
  text : String
  lower : Text.toAsciiLowercase text = text
  valid : Reconcilers.isHeaderName text = true
deriving DecidableEq

def HeaderName.fromBytes (s : String) : Option HeaderName :=
  if h : Reconcilers.isHeaderName (Text.toAsciiLowercase s) then
    some ⟨Text.toAsciiLowercase s, Text.toAsciiLowercase_toAsciiLowercase s, h⟩
  else none

def isValueByte (b : UInt8) : Bool := 32 ≤ b && b != 127 || b == 9

structure HeaderValue where
  bytes : List UInt8
  valid : bytes.all isValueByte = true

def HeaderValue.fromBytes (bytes : List UInt8) : Option HeaderValue :=
  if h : bytes.all isValueByte = true then some ⟨bytes, h⟩ else none

def isVisible (c : Char) : Bool := ' ' ≤ c && c ≤ '~' || c == '\t'

def HeaderValue.fromStr (s : String) : Option HeaderValue :=
  if s.toList.all isVisible then fromBytes (s.toList.map Char.toUInt8) else none

def HeaderValue.toStr (v : HeaderValue) : Option String :=
  let text := v.bytes.map Char.ofUInt8
  if text.all isVisible then some (.ofList text) else none

/-- The values under each name, in the order of arrival. -/
abbrev HeaderMap := HeaderName → List HeaderValue

def HeaderMap.get (headers : HeaderMap) (n : HeaderName) : Option HeaderValue := (headers n).head?

def HeaderMap.remove (headers : HeaderMap) (n : HeaderName) : HeaderMap :=
  Function.update headers n []

/-- Replace every value of a name; both pass into the types of the stack. -/
def HeaderMap.insert (headers : HeaderMap) (n : HeaderName) (v : HeaderValue) : HeaderMap :=
  match HeaderName.fromBytes n.text, HeaderValue.fromBytes v.bytes with
  | some n, some v => Function.update headers n [v]
  | _, _ => headers

abbrev Entries := List (HeaderName × HeaderValue)

structure HeaderMutations where
  add : Entries := []
  set : Entries := []
  remove : List HeaderName := []

def appendedValue (existing value : HeaderValue) : HeaderValue :=
  (HeaderValue.fromBytes (existing.bytes ++ ','.toUInt8 :: value.bytes)).getD value

def HeaderMutations.apply (m : HeaderMutations) (headers : HeaderMap) : HeaderMap :=
  let headers := m.remove.foldl HeaderMap.remove headers
  let headers := m.set.foldl (fun h e => h.insert e.1 e.2) headers
  m.add.foldl (fun h e => h.insert e.1 ((h.get e.1).elim e.2 (appendedValue · e.2))) headers

structure Provider where
  issuer : String
  audiences : List String
  claimHeaders : List (String × HeaderName)

structure JwtAuth where
  providers : List Provider
  ownedHeaders : List HeaderName

/-- The libraries that read tokens, with SHA-256 of a token and its claims by name. -/
structure TokenLibs (Key Claims Digest : Type) extends JwtLibs Key Claims where
  sha256 : String → Digest
  claim : Claims → String → Option Json

structure Presented (Key : Type) where
  authorization : Option HeaderValue
  jwks : Table String (IssuerKeySet Key)
  now : Nat

def JwtAuth.new (providers : List Provider) : JwtAuth :=
  ⟨providers, ((providers.flatMap (·.claimHeaders)).map (·.2)).eraseDups⟩

def jwtAuthFromProto (providers : List JwtProvider) : JwtAuth :=
  .new <| providers.map fun p =>
    { p with claimHeaders := p.claimToHeaders.filterMap fun c =>
        (HeaderName.fromBytes c.header).map (c.claim, ·) }

def bearerToken (authorization : HeaderValue) : Option String := do
  let value ← String.fromUTF8? ⟨authorization.bytes.toArray⟩
  let (scheme, token) ← Text.splitOnce ' ' value
  let token := Text.trim token
  if Text.eqIgnoreAsciiCase scheme "bearer" && !token.isEmpty then some token else none

def scalar : Json → Option String
  | .string text | .number text => some text
  | .bool b => some (toString b)
  | _ => none

def claimValue : Json → Option HeaderValue
  | .array items => (items.mapM scalar).bind fun l => HeaderValue.fromStr (",".intercalate l)
  | other => (scalar other).bind HeaderValue.fromStr

variable {Key Claims Digest : Type} [DecidableEq Digest] (libs : TokenLibs Key Claims Digest)

def verifiedHeaders (providers : List Provider) (token : String)
    (jwks : Table String (IssuerKeySet Key)) (now : Nat) : Option (Entries × Nat) :=
  providers.findSome? fun p =>
    (verifyClaims libs.toJwtLibs token p.issuer p.audiences jwks now).map fun (claims, exp) =>
      (p.claimHeaders.filterMap fun (claim, header) =>
        ((libs.claim claims claim).bind claimValue).map (header, ·), exp)

/-- The headers that verified tokens set, and their expiry. -/
abbrev TokenCache (Digest : Type) := Table Digest (Entries × Nat)

/-- A token is verified once and then answered from the cache until it expires; a full cache is
cleared. -/
def JwtAuth.authenticate (jwt : JwtAuth) (cache : TokenCache Digest) (r : Presented Key) :
    TokenCache Digest × Option Entries :=
  match r.authorization.bind bearerToken with
  | none => (cache, none)
  | some token =>
    let hash := libs.sha256 token
    match (cache.lookup hash).filter (r.now < ·.2) with
    | some hit => (cache, some hit.1)
    | none =>
      let cache := cache.erase hash
      match verifiedHeaders libs jwt.providers token r.jwks r.now with
      | none => (cache, none)
      | some entry =>
        let kept := if 10000 ≤ cache.entries.length then ∅ else cache
        (kept.insert hash entry, some entry.1)

structure ExtAuth where
  serviceName : String
  failOpen : Bool
  responseHeaders : List HeaderName

def extAuthFromProto (e : ExtAuthConfig) : ExtAuth :=
  ⟨e.serviceName, e.failOpen, e.responseHeaders.filterMap HeaderName.fromBytes⟩

inductive Answer where
  | unavailable
  | response (status : UInt16) (headers : HeaderMap)

def Answer.sets (names : List HeaderName) : Answer → Entries
  | .unavailable => []
  | .response _ headers => names.flatMap fun n => (headers n).map (n, ·)

def ExtAuth.allows (ext : ExtAuth) : Answer → Bool
  | .unavailable => ext.failOpen
  | .response status _ => 200 ≤ status && status < 300

def ExtAuth.check (ext : ExtAuth) (answer : Answer) : Option Entries :=
  if !ext.serviceName.isEmpty && ext.allows answer then some (answer.sets ext.responseHeaders)
  else none

def planAuth (jwt : Option JwtAuth) (cache : TokenCache Digest) (ext : Option ExtAuth)
    (r : Presented Key) (answer : Answer) : Option HeaderMutations := do
  let own ← jwt.elim (some []) fun j => (j.authenticate libs cache r).2
  let set ← ext.elim (some []) (·.check answer)
  some { set := own ++ set
         remove := jwt.elim [] (·.ownedHeaders) ++ ext.elim [] (·.responseHeaders) }

def named (s : String) (h : (HeaderName.fromBytes s).isSome = true := by decide) : HeaderName :=
  (HeaderName.fromBytes s).get h

structure Forward where
  requestHeaders : HeaderMutations
  authHeaders : HeaderMutations
  /-- The `traceparent` of the span, and whether it continues the client's. -/
  trace : Option (HeaderValue × Bool)
  ai : Bool
  sessionAffinity : Bool

def gatewayOwn : List HeaderName :=
  [named "traceparent", named "tracestate", named "accept-encoding", named "mcp-session-id"]

def applyTrace (trace : Option (HeaderValue × Bool)) (headers : HeaderMap) : HeaderMap :=
  match trace with
  | none => headers
  | some (parent, continued) =>
    let headers := headers.insert (named "traceparent") parent
    if continued then headers else headers.remove (named "tracestate")

def withServerSession (headers : HeaderMap) : HeaderMap :=
  match ((headers.get (named "mcp-session-id")).bind HeaderValue.toStr).map
      SessionAffinity.splitSession with
  | some (some _, serverId) =>
    (HeaderValue.fromStr serverId).elim headers (headers.insert (named "mcp-session-id"))
  | _ => headers

def afterAuth (plan : Forward) (headers : HeaderMap) : HeaderMap :=
  let headers := applyTrace plan.trace headers
  let headers := if plan.ai then
      (HeaderValue.fromStr "identity").elim headers (headers.insert (named "accept-encoding"))
    else headers
  if plan.sessionAffinity then withServerSession headers else headers

def forwardedHeaders (plan : Forward) (headers : HeaderMap) : HeaderMap :=
  afterAuth plan (plan.authHeaders.apply (plan.requestHeaders.apply headers))

def Owned (rc : RouteConfig) (n : HeaderName) : Prop :=
  (∃ providers, rc.auth = some (.jwt providers) ∧
    ∃ p ∈ providers, ∃ c ∈ p.claimToHeaders, HeaderName.fromBytes c.header = some n) ∨
  ∃ e, rc.extAuth = some e ∧ ∃ h ∈ e.responseHeaders, HeaderName.fromBytes h = some n

def jwtOf (rc : RouteConfig) : Option JwtAuth :=
  match rc.auth with
  | some (.jwt providers) => some (jwtAuthFromProto providers)
  | _ => none

def cacheAfter (jwt : JwtAuth) (history : List (Presented Key)) : TokenCache Digest :=
  run (fun cache r => (jwt.authenticate libs cache r).1) ∅ history

/-- A request presented a token with this digest, which the keys it found verified at its time. -/
def Verifies (jwt : JwtAuth) (r : Presented Key) (hash : Digest) (entry : Entries × Nat) : Prop :=
  ∃ token, r.authorization.bind bearerToken = some token ∧ libs.sha256 token = hash ∧
    verifiedHeaders libs jwt.providers token r.jwks r.now = some entry

def AllVerified (jwt : JwtAuth) (history : List (Presented Key)) (cache : TokenCache Digest) : Prop :=
  ∀ hash entry, cache.lookup hash = some entry → ∃ q ∈ history, Verifies libs jwt q hash entry

/-- The token of the request was verified, for this or an earlier request, and has not expired. -/
def TokenSets (jwt : JwtAuth) (history : List (Presented Key)) (r : Presented Key) (set : Entries) :
    Prop :=
  ∃ token, r.authorization.bind bearerToken = some token ∧ ∃ q ∈ history ++ [r], ∃ exp,
    Verifies libs jwt q (libs.sha256 token) (set, exp) ∧ r.now < exp

/-- A request that is let through reaches the backend with the last verified value under each name
that the policies own, or with none. -/
def CarriesVerified (rc : RouteConfig) (history : List (Presented Key)) (r : Presented Key)
    (answer : Answer) (plan : Forward) (headers : HeaderMap) : Prop :=
  ∀ m, planAuth libs (jwtOf rc) ((jwtOf rc).elim ∅ (cacheAfter libs · history))
      (rc.extAuth.map extAuthFromProto) r answer = some m →
    ∃ set, (jwtOf rc).elim (set = []) (TokenSets libs · history r set) ∧ ∀ n, Owned rc n → n ∉ gatewayOwn →
        forwardedHeaders { plan with authHeaders := m } headers n =
          ((Table.collect (set ++ (rc.extAuth.map extAuthFromProto).elim []
            (answer.sets ·.responseHeaders))).lookup n).toList

@[simp] theorem HeaderMap.insert_eq (headers : HeaderMap) :
    headers.insert n v = update headers n [v] := by
  have hn : HeaderName.fromBytes n.text = some n := by
    simp [HeaderName.fromBytes, n.lower, n.valid]
  have hv : HeaderValue.fromBytes v.bytes = some v := dif_pos v.valid
  simp [HeaderMap.insert, hn, hv]

section Mutations

variable {headers : HeaderMap} {n : HeaderName}

theorem foldl_remove_of_mem {l : List HeaderName} (h : n ∈ l) :
    l.foldl HeaderMap.remove headers n = [] := by
  induction l using List.reverseRecOn with
  | nil => cases h
  | append_singleton l n' ih =>
    rw [foldl_append, foldl_cons, foldl_nil, HeaderMap.remove]
    by_cases hn : n = n'
    · rw [hn, update_self]
    · rw [update_of_ne hn]
      exact ih ((mem_append.1 h).resolve_right fun h => hn (mem_singleton.1 h))

theorem foldl_insert (he : headers n = []) :
    l.foldl (fun h e => h.insert e.1 e.2) headers n = ((Table.collect l).lookup n).toList := by
  induction l using List.reverseRecOn with
  | nil => exact he
  | append_singleton l e ih =>
    rw [Table.collect, foldl_append, foldl_append, foldl_cons, foldl_nil,
      foldl_cons, foldl_nil, HeaderMap.insert_eq]
    by_cases hn : n = e.1
    · rw [hn, update_self, lookup_insert]
      rfl
    · rwa [update_of_ne hn, lookup_insert_ne hn]

theorem apply_of_mem_remove {set : Entries} (h : n ∈ remove) :
    HeaderMutations.apply { set := set, remove := remove } headers n =
      ((Table.collect set).lookup n).toList :=
  foldl_insert (foldl_remove_of_mem h)

theorem afterAuth_of_not_gatewayOwn (hn : n ∉ gatewayOwn) :
    afterAuth plan headers n = headers n := by
  simp only [gatewayOwn, mem_cons, not_mem_nil, or_false, not_or] at hn
  obtain ⟨hp, hst, he, hs'⟩ := hn
  have ht (trace : Option (HeaderValue × Bool)) : applyTrace trace headers n = headers n := by
    rcases trace with _ | ⟨parent, _ | _⟩ <;>
      simp [applyTrace, HeaderMap.remove, update_of_ne hp, update_of_ne hst]
  have hi {name : HeaderName} (hna : n ≠ name) (o : Option HeaderValue) (h : HeaderMap) :
      o.elim h (h.insert name) n = h n := by
    cases o <;> simp [update_of_ne hna]
  have hs (h : HeaderMap) : withServerSession h n = h n := by
    unfold withServerSession
    rcases ((h.get _).bind HeaderValue.toStr).map SessionAffinity.splitSession with
      _ | ⟨_ | _, serverId⟩
    · rfl
    · rfl
    · exact hi hs' _ _
  unfold afterAuth
  cases plan.ai <;> cases plan.sessionAffinity <;>
    simp [hs, hi he, ht]

end Mutations

section Repeated

/-- The names that are removed, set and added to are pairwise distinct. -/
structure DistinctMutations extends HeaderMutations where
  distinct : (remove ++ set.map (·.1) ++ add.map (·.1)).Nodup

/-- The values of a name as one list of values. -/
def joined (values : List HeaderValue) : List UInt8 := [','.toUInt8].intercalate (values.map (·.bytes))

structure Mutated (m : HeaderMutations) (headers : HeaderMap) : Prop where
  removed : ∀ n ∈ m.remove, m.apply headers n = []
  set : ∀ e ∈ m.set, m.apply headers e.1 = [e.2]
  added : ∀ e ∈ m.add, joined (m.apply headers e.1) = joined (headers e.1 ++ [e.2])
  others : ∀ n, n ∉ m.remove ++ m.set.map (·.1) ++ m.add.map (·.1) → m.apply headers n = headers n

variable {headers : HeaderMap} {n : HeaderName} {l : Entries}
  {value : HeaderMap → HeaderName × HeaderValue → HeaderValue}

theorem foldl_remove_of_not_mem {l : List HeaderName} (h : n ∉ l) :
    l.foldl HeaderMap.remove headers n = headers n := by
  refine foldlRecOn (motive := fun h : HeaderMap => h n = headers n) l _ rfl fun acc ha n' hn => ?_
  rw [HeaderMap.remove, update_of_ne (ne_of_mem_of_not_mem hn h).symm, ha]

theorem foldl_insert_of_not_mem (h : n ∉ l.map (·.1)) :
    l.foldl (fun h e => h.insert e.1 (value h e)) headers n = headers n := by
  refine foldlRecOn (motive := fun h : HeaderMap => h n = headers n) l _ rfl fun acc ha e he => ?_
  rw [HeaderMap.insert_eq, update_of_ne (ne_of_mem_of_not_mem (mem_map_of_mem he) h).symm, ha]

theorem foldl_insert_of_mem (hd : (l.map (·.1)).Nodup) (he : e ∈ l)
    (hv : ∀ h : HeaderMap, h e.1 = headers e.1 → value h e = v) :
    l.foldl (fun h e => h.insert e.1 (value h e)) headers e.1 = [v] := by
  obtain ⟨front, back, rfl⟩ := append_of_mem he
  rw [map_append, map_cons, nodup_middle, nodup_cons, mem_append, not_or] at hd
  rw [foldl_append, foldl_cons, foldl_insert_of_not_mem hd.1.2, HeaderMap.insert_eq, update_self,
    hv _ (foldl_insert_of_not_mem hd.1.1)]

theorem bytes_appendedValue : (appendedValue a b).bytes = a.bytes ++ ','.toUInt8 :: b.bytes := by
  have hv : (a.bytes ++ ','.toUInt8 :: b.bytes).all isValueByte = true := by
    rw [all_append, all_cons, a.valid, b.valid]
    rfl
  rw [appendedValue, HeaderValue.fromBytes, dif_pos hv]
  rfl

theorem joined_cons_append :
    joined (x :: (values ++ [v])) = x.bytes ++ ','.toUInt8 :: joined (values ++ [v]) := by
  cases values <;> simp [joined, intercalate, intersperse]

theorem length_le_joined (values : List HeaderValue) (v : HeaderValue) :
    v.bytes.length ≤ (joined (values ++ [v])).length := by
  induction values with
  | nil => simp [joined]
  | cons x values ih =>
    rw [cons_append, joined_cons_append, length_append, length_cons]
    omega

theorem joined_append_iff :
    joined [values.head?.elim v (appendedValue · v)] = joined (values ++ [v]) ↔
      values.length ≤ 1 := by
  rcases values with _ | ⟨x, _ | ⟨y, rest⟩⟩
  · simp
  · simp [joined, bytes_appendedValue, intercalate, intersperse]
  · refine iff_of_false (fun h => ?_) (by simp)
    -- the joined text has one more comma, before what `v` alone makes up
    have hl := congrArg length h
    rw [cons_append, joined_cons_append, cons_append, joined_cons_append] at hl
    have hr := length_le_joined rest v
    simp [joined, bytes_appendedValue] at hl hr
    omega

/-- The mutations of distinct names act as the Gateway API defines them just where no added name
had a second line. -/
theorem mutated_iff (m : DistinctMutations) (headers : HeaderMap) :
    Mutated m.toHeaderMutations headers ↔ ∀ e ∈ m.add, (headers e.1).length ≤ 1 := by
  obtain ⟨hd, hda, hd'⟩ := nodup_append'.1 m.distinct
  obtain ⟨hdr, hds, hdrs⟩ := nodup_append'.1 hd
  have hadd (e) (he : e ∈ m.add) :
      m.apply headers e.1 = [(headers e.1).head?.elim e.2 (appendedValue · e.2)] := by
    have hn : e.1 ∉ m.remove ++ m.set.map (·.1) := fun h => hd' h (mem_map_of_mem he)
    rw [mem_append, not_or] at hn
    refine foldl_insert_of_mem hda he fun h hh => ?_
    rw [HeaderMap.get, hh, foldl_insert_of_not_mem hn.2, foldl_remove_of_not_mem hn.1]
  constructor
  · intro h e he
    have ha := h.added e he
    rwa [hadd e he, joined_append_iff] at ha
  · refine fun h => ⟨fun n hn => ?_, fun e he => ?_, fun e he => ?_, fun n hn => ?_⟩
    · refine (foldl_insert_of_not_mem (hd' (mem_append_left _ hn))).trans ?_
      rw [foldl_insert_of_not_mem (hdrs hn), foldl_remove_of_mem hn]
    · refine (foldl_insert_of_not_mem (hd' (mem_append_right _ (mem_map_of_mem he)))).trans ?_
      exact foldl_insert_of_mem hds he fun _ _ => rfl
    · rw [hadd e he, joined_append_iff]
      exact h e he
    · simp only [mem_append, not_or] at hn
      refine (foldl_insert_of_not_mem hn.2).trans ?_
      rw [foldl_insert_of_not_mem hn.1.2, foldl_remove_of_not_mem hn.1.1]

/-- A route that drops `x-debug`, sets `x-env` and adds to `x-tag`. -/
def tagging : DistinctMutations where
  remove := [named "x-debug"]
  set := (HeaderValue.fromStr "prod").toList.map (named "x-env", ·)
  add := (HeaderValue.fromStr "b").toList.map (named "x-tag", ·)
  distinct := by decide

theorem tagging_mutated :
    Mutated tagging.toHeaderMutations
      (update (fun _ => []) (named "x-tag") (HeaderValue.fromStr "a").toList) :=
  (mutated_iff tagging _).2 (by decide)

end Repeated

section Tokens

variable {libs} {jwt : JwtAuth}

/-- The call answers from the cache while the entry lasts, and else by verifying the token. -/
theorem authenticate_snd :
    (jwt.authenticate libs cache r).2 = (r.authorization.bind bearerToken).bind fun token =>
      (((cache.lookup (libs.sha256 token)).filter (r.now < ·.2)).or
        (verifiedHeaders libs jwt.providers token r.jwks r.now)).map (·.1) := by
  unfold JwtAuth.authenticate
  cases r.authorization.bind bearerToken with
  | none => rfl
  | some token =>
    cases hf : (cache.lookup (libs.sha256 token)).filter (r.now < ·.2) with
    | some hit => simp [hf]
    | none => cases hv : verifiedHeaders libs jwt.providers token r.jwks r.now <;> simp [hf, hv]

/-- What holds of every entry and of what was just verified holds of every entry afterwards. -/
theorem lookup_authenticate {cache : TokenCache Digest} {P : Digest → Entries × Nat → Prop}
    {r : Presented Key}
    (hc : ∀ hash entry, cache.lookup hash = some entry → P hash entry)
    (hv : ∀ hash entry, Verifies libs jwt r hash entry → P hash entry)
    (hash : Digest) (entry : Entries × Nat)
    (h : (jwt.authenticate libs cache r).1.lookup hash = some entry) : P hash entry := by
  unfold JwtAuth.authenticate at h
  split at h
  next => exact hc hash entry h
  next token ht =>
    have her (he : (cache.erase (libs.sha256 token)).lookup hash = some entry) : P hash entry :=
      hc hash entry (Table.lookup_erase_eq_some.1 he).2
    dsimp only at h
    split at h
    next => exact hc hash entry h
    next =>
      split at h
      next => exact her h
      next he =>
        by_cases hha : hash = libs.sha256 token
        · rw [hha, lookup_insert] at h
          cases h
          exact hv hash _ ⟨token, ht, hha.symm, he⟩
        · rw [lookup_insert_ne hha] at h
          split at h
          · cases h
          · exact her h

omit [DecidableEq Digest] in
theorem lt_of_verifiedHeaders {providers : List Provider} {token : String}
    {jwks : Table String (IssuerKeySet Key)} {now : Nat} {entry : Entries × Nat}
    (h : verifiedHeaders libs providers token jwks now = some entry) : now < entry.2 := by
  obtain ⟨p, -, hp⟩ := exists_of_findSome?_eq_some h
  obtain ⟨⟨claims, exp⟩, hc, rfl⟩ := map_eq_some_iff.1 hp
  simp only [verifyClaims, bind_eq_bind, bind_eq_some_iff] at hc
  obtain ⟨header, -, keys, -, claims', -, exp', -, hc⟩ := hc
  split at hc
  · cases hc
  next hlt =>
    cases hc
    exact Nat.lt_of_not_le hlt

theorem allVerified_cacheAfter (history : List (Presented Key)) :
    AllVerified libs jwt history (cacheAfter libs jwt history) := by
  refine foldlRecOn (motive := AllVerified libs jwt history) history _ (fun _ _ h => nomatch h) ?_
  intro cache hc r hr
  exact lookup_authenticate hc fun hash entry hv => ⟨r, hr, hv⟩

theorem AllVerified.tokenSets {history : List (Presented Key)} {cache : TokenCache Digest}
    (h : AllVerified libs jwt history cache) {r : Presented Key} {set : Entries}
    (hs : (jwt.authenticate libs cache r).2 = some set) : TokenSets libs jwt history r set := by
  rw [authenticate_snd] at hs
  obtain ⟨token, ht, hs⟩ := bind_eq_some_iff.1 hs
  obtain ⟨entry, he, rfl⟩ := map_eq_some_iff.1 hs
  refine ⟨token, ht, ?_⟩
  rcases or_eq_some_iff.1 he with hc | ⟨-, he⟩
  · obtain ⟨hl, hlt⟩ := filter_eq_some_iff.1 hc
    obtain ⟨q, hq, hv⟩ := h _ entry hl
    exact ⟨q, mem_append_left _ hq, entry.2, hv, of_decide_eq_true hlt⟩
  · exact ⟨r, mem_append_right _ (mem_singleton_self r), entry.2, ⟨token, ht, rfl, he⟩,
      lt_of_verifiedHeaders he⟩

end Tokens

section Clock

/-- The libraries with a fixed key set over time: only whether a token may be used yet (`nbf`)
depends on it. -/
structure TimedLibs (Key Claims Digest : Type) extends TokenLibs Key Claims Digest where
  usable : String → Nat → Bool
  stays : t ≤ t' → usable token t = true → usable token t' = true
  injective : Injective sha256

structure Call where
  authorization : Option HeaderValue
  elapsed : Nat

variable (libs : TimedLibs Key Claims Digest) (jwt : JwtAuth)
  (jwks : Table String (IssuerKeySet Key))

def TimedLibs.at (now : Nat) : TokenLibs Key Claims Digest :=
  { libs.toTokenLibs with
    decode token key alg issuer audiences :=
      if libs.usable token now then libs.decode token key alg issuer audiences else none }

/-- A call on a cache at a time. -/
def TimedLibs.call (s : TokenCache Digest × Nat) (c : Call) : TokenCache Digest × Option Entries :=
  jwt.authenticate (libs.at (s.2 + c.elapsed)) s.1 ⟨c.authorization, jwks, s.2 + c.elapsed⟩

def TimedLibs.step (s : TokenCache Digest × Nat) (c : Call) : TokenCache Digest × Nat :=
  ((libs.call jwt jwks s c).1, s.2 + c.elapsed)

variable {libs jwt jwks}

omit [DecidableEq Digest] in
theorem verifyClaims_at :
    verifyClaims (libs.at now).toJwtLibs token issuer audiences jwks now =
      (verifyClaims libs.toJwtLibs token issuer audiences jwks 0).filter
        fun c => libs.usable token now && now < c.2 := by
  have hb {α β : Type} (o : Option α) (f : α → Option β) (p : β → Bool) :
      (o.bind f).filter p = o.bind fun a => (f a).filter p := by
    cases o <;> rfl
  simp only [verifyClaims, TimedLibs.at, bind_eq_bind, hb]
  refine Option.bind_congr fun header _ => Option.bind_congr fun keys _ => ?_
  cases libs.usable token now with
  | false => simp [findSome?_eq_none_iff.2]
  | true =>
    refine Option.bind_congr fun claims _ => Option.bind_congr fun exp _ => ?_
    by_cases h : exp ≤ now
    · cases exp with
      | zero => simp
      | succ exp => simpa [filter_some, h] using Nat.lt_of_succ_le h
    · have hp : ¬ exp ≤ 0 := fun h0 => h (h0.trans (Nat.zero_le now))
      simp [filter_some, h, hp, Nat.not_le.1 h]

omit [DecidableEq Digest] in
theorem verifiedHeaders_later (h : verifiedHeaders (libs.at t) providers token jwks t = some entry)
    (ht : t ≤ t') (he : t' < entry.2) :
    verifiedHeaders (libs.at t') providers token jwks t' = some entry := by
  simp only [verifiedHeaders, verifyClaims_at] at h ⊢
  obtain ⟨front, p, back, hl, hp, hf⟩ := findSome?_eq_some_iff.1 h
  obtain ⟨c, hc, rfl⟩ := map_eq_some_iff.1 hp
  obtain ⟨hc, hu⟩ := filter_eq_some_iff.1 hc
  rw [Bool.and_eq_true] at hu
  refine findSome?_eq_some_iff.2 ⟨front, p, back, hl, ?_, fun q hq => ?_⟩
  · rw [hc, filter_some, if_pos (by simp [libs.stays ht hu.1, show t' < c.2 from he])]
    rfl
  · have hn := hf q hq
    simp only [map_eq_none_iff, filter_eq_none_iff, Bool.and_eq_true, decide_eq_true_eq] at hn ⊢
    exact fun c hc hlt => hn c hc ⟨hu.1, ht.trans_lt hlt.2⟩

variable (libs jwt jwks) in
/-- Every entry was verified at some time that has passed. -/
def Remembers (s : TokenCache Digest × Nat) : Prop :=
  ∀ hash entry, s.1.lookup hash = some entry → ∃ token, ∃ t ≤ s.2, libs.sha256 token = hash ∧
    verifiedHeaders (libs.at t) jwt.providers token jwks t = some entry

theorem remembers_step (s : TokenCache Digest × Nat) (c : Call) (h : Remembers libs jwt jwks s) :
    Remembers libs jwt jwks (libs.step jwt jwks s c) := by
  refine lookup_authenticate ?_ fun hash entry ⟨token, _, hs, hv⟩ => ⟨token, _, le_rfl, hs, hv⟩
  intro hash entry he
  obtain ⟨token, t, ht, hv⟩ := h hash entry he
  exact ⟨token, t, Nat.le_add_right_of_le ht, hv⟩

/-- Whatever the cache has seen, a call answers as it would with an empty cache. -/
theorem cache_transparent (libs : TimedLibs Key Claims Digest) (jwt : JwtAuth)
    (jwks : Table String (IssuerKeySet Key)) (clock : Nat) (calls : List Call) (c : Call) :
    (libs.call jwt jwks (run (libs.step jwt jwks) (∅, clock) calls) c).2 =
      (libs.call jwt jwks (∅, (run (libs.step jwt jwks) (∅, clock) calls).2) c).2 := by
  have hi : Remembers libs jwt jwks (run (libs.step jwt jwks) (∅, clock) calls) :=
    run_keeps remembers_step nofun calls
  generalize run (libs.step jwt jwks) (∅, clock) calls = s at hi ⊢
  rw [TimedLibs.call, TimedLibs.call, authenticate_snd, authenticate_snd]
  refine Option.bind_congr fun token _ => congrArg (Option.map _) ?_
  change Option.or (Option.filter _ (s.1.lookup (libs.sha256 token))) _ = _
  cases hc : (s.1.lookup (libs.sha256 token)).filter (s.2 + c.elapsed < ·.2) with
  | none => rfl
  | some entry =>
    obtain ⟨hl, he⟩ := filter_eq_some_iff.1 hc
    obtain ⟨token', t, ht, hs, hv⟩ := hi _ entry hl
    cases libs.injective hs
    rw [verifiedHeaders_later hv (Nat.le_add_right_of_le ht) (of_decide_eq_true he)]
    rfl

/-- Every token of the issuer names Ada and may be used from the time 10 on. -/
def adaTokens : TimedLibs Unit Ai.Claims String :=
  { Ai.oneToken "https://dex.example.com" "portus" ∅ 600 with
    sha256 := id
    claim := fun _ _ => some (.string "ada")
    usable := fun _ t => 10 ≤ t
    stays := fun ht hu => by simpa using (of_decide_eq_true hu).trans ht
    injective := injective_id }

def adaAuth : JwtAuth := .new [⟨"https://dex.example.com", ["portus"], [("name", named "x-user")]⟩]

def adaCall (elapsed : Nat) : Call := ⟨HeaderValue.fromStr "Bearer t", elapsed⟩

/-- Refused at 5, verified at 15, answered from the cache at 35. -/
theorem ada_answered_from_cache :
    (adaTokens.call adaAuth (Ai.oneKey "https://dex.example.com")
        (run (adaTokens.step adaAuth (Ai.oneKey "https://dex.example.com")) (∅, 0)
          [adaCall 5, adaCall 10]) (adaCall 20)).2 =
      (adaTokens.call adaAuth (Ai.oneKey "https://dex.example.com") (∅, 15) (adaCall 20)).2 :=
  cache_transparent adaTokens adaAuth _ 0 [adaCall 5, adaCall 10] (adaCall 20)

example : (run (adaTokens.step adaAuth (Ai.oneKey "https://dex.example.com")) (∅, 0)
    [adaCall 5, adaCall 10]).1.entries.length = 1 := by decide +kernel

end Clock

theorem mem_remove_of_owned {n : HeaderName} (h : Owned rc n) :
    n ∈ (jwtOf rc).elim [] (·.ownedHeaders) ++
      (rc.extAuth.map extAuthFromProto).elim [] (·.responseHeaders) := by
  rcases h with ⟨providers, ha, p, hp, c, hc, hn⟩ | ⟨e, he, h, hh, hn⟩
  · refine mem_append_left _ ?_
    rw [jwtOf, ha]
    refine mem_eraseDups.2 (List.mem_map.2 ⟨(c.claim, n), mem_flatMap.2 ?_, rfl⟩)
    refine ⟨_, List.mem_map.2 ⟨p, hp, rfl⟩, mem_filterMap.2 ⟨c, hc, ?_⟩⟩
    rw [hn, map_some]
  · refine mem_append_right _ ?_
    rw [he]
    exact mem_filterMap.2 ⟨h, hh, hn⟩

/-- Under the names that a route's policies own, the backend sees only what was verified. -/
theorem carriesVerified (rc : RouteConfig) (history : List (Presented Key)) (r : Presented Key)
    (answer : Answer) (plan : Forward) (headers : HeaderMap) :
    CarriesVerified libs rc history r answer plan headers := by
  intro m hm
  obtain ⟨own, ho, hm⟩ := bind_eq_some_iff.1 hm
  obtain ⟨set, hs, hm⟩ := bind_eq_some_iff.1 hm
  cases hm
  refine ⟨own, ?_, fun n hn hg => ?_⟩
  · cases hj : jwtOf rc with
    | none =>
      rw [hj] at ho
      exact (Option.some.inj ho).symm
    | some jwt =>
      rw [hj] at ho
      exact (allVerified_cacheAfter history).tokenSets ho
  · have ha : (rc.extAuth.map extAuthFromProto).elim [] (answer.sets ·.responseHeaders) = set := by
      cases he : rc.extAuth.map extAuthFromProto with
      | none =>
        rw [he] at hs
        exact Option.some.inj hs
      | some ext =>
        rw [he, elim_some, ExtAuth.check] at hs
        split at hs
        · exact Option.some.inj hs
        · cases hs
    rw [forwardedHeaders, afterAuth_of_not_gatewayOwn hg, ha]
    exact apply_of_mem_remove (mem_remove_of_owned hn)

/-- `spawn_mirror_request` takes line ends out of what it writes. -/
def withoutLineEnds (s : String) : String := .ofList (s.toList.filter fun c => c != '\r' && c != '\n')

def mirrorText (v : HeaderValue) : String :=
  withoutLineEnds ((String.fromUTF8? ⟨v.bytes.toArray⟩).getD "")

def isMirrored (n : HeaderName) : Bool :=
  Text.startsWith n.text "content-" || Text.startsWith n.text "x-" || n.text = "accept" ||
    n.text = "user-agent"

def mirrored (host : String) (client : HeaderMap) (n : HeaderName) : List String :=
  if n = named "host" then [withoutLineEnds host]
  else if n = named "connection" then ["close"]
  else if isMirrored n then (client n).map mirrorText
  else []

structure MirrorRequest where
  slot : Slot
  addr : SocketAddr
  headers : HeaderName → List String

/-- The mirror requests that are sent when a request is planned. -/
def mirrorsSent (w : World) (rc : RouteConfig) (facts : RequestFacts) (env : PlanEnv)
    (client : HeaderMap) : List MirrorRequest :=
  (planRule { w with effects := [] } rc facts env).1.effects.filterMap fun
    | .mirrored slot addr => some ⟨slot, addr, mirrored facts.host client⟩
    | _ => none

/-- Under an owned name every mirror request carries nothing, or what the backend finds. -/
def MirrorsVerified (rc : RouteConfig) (history : List (Presented Key)) (r : Presented Key)
    (answer : Answer) (plan : Forward) (headers : HeaderMap) (w : World) (facts : RequestFacts)
    (env : PlanEnv) (client : HeaderMap) : Prop :=
  ∀ m, planAuth libs (jwtOf rc) ((jwtOf rc).elim ∅ (cacheAfter libs · history))
      (rc.extAuth.map extAuthFromProto) r answer = some m →
    ∀ sent ∈ mirrorsSent w rc facts env client, ∀ n, Owned rc n → sent.headers n = [] ∨
      sent.headers n = (forwardedHeaders { plan with authHeaders := m } headers n).map mirrorText

def HeaderMutations.sets (m : HeaderMutations) (n : HeaderName) : List String :=
  ((Table.collect m.set).lookup n).toList.map mirrorText

/-- If the header is copied, the client does not send it, or sends it as authentication sets it. -/
def SendsVerified (m : HeaderMutations) (host : String) (client : HeaderMap) (n : HeaderName) :
    Prop :=
  (isMirrored n = true → client n = [] ∨ (client n).map mirrorText = m.sets n) ∧
    (n = named "host" → [withoutLineEnds host] = m.sets n) ∧
    (n = named "connection" → ["close"] = m.sets n)

theorem forwardedHeaders_of_owned (hi : List (Presented Key))
    (hm : planAuth libs (jwtOf rc) ((jwtOf rc).elim ∅ (cacheAfter libs · hi))
      (rc.extAuth.map extAuthFromProto) r answer = some m) (hn : Owned rc n)
    (hg : n ∉ gatewayOwn) (plan : Forward) (headers : HeaderMap) :
    (forwardedHeaders { plan with authHeaders := m } headers n).map mirrorText = m.sets n := by
  obtain ⟨own, -, hm⟩ := bind_eq_some_iff.1 hm
  obtain ⟨set, -, hm⟩ := bind_eq_some_iff.1 hm
  cases hm
  rw [forwardedHeaders, afterAuth_of_not_gatewayOwn hg]
  exact congrArg (List.map mirrorText) (apply_of_mem_remove (mem_remove_of_owned hn))

theorem headers_of_mem_mirrorsSent {w : World} {rc : RouteConfig} {facts : RequestFacts}
    {env : PlanEnv} {client : HeaderMap} {sent : MirrorRequest}
    (h : sent ∈ mirrorsSent w rc facts env client) :
    sent.headers = mirrored facts.host client := by
  obtain ⟨effect, -, he⟩ := mem_filterMap.1 h
  split at he <;> cases he
  rfl

/-- What a mirror finds under an owned name is verified exactly if the client sent nothing else. -/
theorem mirrored_iff {rc : RouteConfig} {history : List (Presented Key)} {r : Presented Key}
    {answer : Answer} {m : HeaderMutations} {n : HeaderName}
    (hm : planAuth libs (jwtOf rc) ((jwtOf rc).elim ∅ (cacheAfter libs · history))
      (rc.extAuth.map extAuthFromProto) r answer = some m) (hn : Owned rc n) (plan : Forward)
    (headers : HeaderMap) (host : String) (client : HeaderMap) :
    (mirrored host client n = [] ∨ mirrored host client n =
        (forwardedHeaders { plan with authHeaders := m } headers n).map mirrorText) ↔
      SendsVerified m host client n := by
  have hs := fun hg => forwardedHeaders_of_owned libs history hm hn hg plan headers
  have hho : named "host" ≠ named "connection" := by decide
  unfold mirrored SendsVerified
  by_cases hg : n ∈ gatewayOwn
  · have hf : ∀ n ∈ gatewayOwn,
        n ≠ named "host" ∧ n ≠ named "connection" ∧ isMirrored n = false := by decide
    obtain ⟨hh, hc, hco⟩ := hf n hg
    simp [hh, hc, hco]
  · rw [hs hg]
    split_ifs with hh hc hco
    · subst hh
      simp [hho, show isMirrored (named "host") = false from by decide]
    · subst hc
      simp [hho.symm, show isMirrored (named "connection") = false from by decide]
    · simp [hh, hc, hco]
    · simp [hh, hc, hco]

/-- Mirrors see only what was verified exactly when no mirror request is sent or the client sends
nothing else. -/
theorem mirrorsVerified_iff (rc : RouteConfig) (history : List (Presented Key)) (r : Presented Key)
    (answer : Answer) (plan : Forward) (headers : HeaderMap) (w : World) (facts : RequestFacts)
    (env : PlanEnv) (client : HeaderMap) :
    MirrorsVerified libs rc history r answer plan headers w facts env client ↔
      ∀ m, planAuth libs (jwtOf rc) ((jwtOf rc).elim ∅ (cacheAfter libs · history))
          (rc.extAuth.map extAuthFromProto) r answer = some m →
        mirrorsSent w rc facts env client ≠ [] →
          ∀ n, Owned rc n → SendsVerified m facts.host client n := by
  refine forall₂_congr fun m hm => ?_
  constructor
  · intro h hne n hn
    obtain ⟨sent, hsent⟩ := exists_mem_of_ne_nil _ hne
    have hv := h sent hsent n hn
    rwa [headers_of_mem_mirrorsSent hsent, mirrored_iff libs hm hn] at hv
  · intro h sent hsent n hn
    rw [headers_of_mem_mirrorsSent hsent, mirrored_iff libs hm hn]
    exact h (ne_nil_of_mem hsent) n hn

def noClaims : TokenLibs Unit Ai.Claims Unit :=
  { Ai.oneToken "https://dex.example.com" "portus" ∅ 600 with
    sha256 := fun _ => (), claim := fun _ _ => none }

/-- The authorization Service may name the user. -/
def userRoute : RouteConfig :=
  { serviceName := "app"
    port := 80
    extAuth := some ⟨"authz", "infra", 80, "/", 0, false, [], ["x-user"]⟩
    mirrorBackends := [⟨"shadow", 80, 0⟩] }

/-- Every Service has one endpoint, which is ready. -/
def livePools : World where
  pools _ := some ⟨[(.v4 [10, 0, 0, 9] 80, true)], 0⟩

def userRequest : RequestFacts := { host := "shop.example", path := "/", localPort := 80 }

def claimsAdmin : HeaderMap := fun n =>
  if n = named "x-user" then (HeaderValue.fromStr "admin").toList else []

/-- The Service lets the request through and names no user; the mirror gets the name that the client
has sent. -/
theorem userRoute_mirrors_claimed_user :
    ¬ MirrorsVerified noClaims userRoute [] ⟨none, ∅, 0⟩ (.response 200 fun _ => [])
      ⟨{}, {}, none, false, false⟩ claimsAdmin livePools userRequest { ipNet := fun _ => none }
      claimsAdmin := by
  intro h
  have ho : Owned userRoute (named "x-user") :=
    .inr ⟨_, rfl, "x-user", mem_singleton_self _, by decide⟩
  have hs : (⟨("shadow", 80), .v4 [10, 0, 0, 9] 80, mirrored "shop.example" claimsAdmin⟩ :
      MirrorRequest) ∈ mirrorsSent livePools userRoute userRequest { ipNet := fun _ => none }
        claimsAdmin := mem_singleton_self _
  obtain hn | hs := h _ rfl _ hs _ ho
  · exact absurd hn (by decide)
  · exact absurd hs (by decide)

end Portus.OwnedHeaders

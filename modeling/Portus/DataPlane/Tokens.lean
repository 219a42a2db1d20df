import Portus.DataPlane.Keys
import Portus.Lib.Json

/-!
# OAuth tokens on the request path

`portus-dataplane-core/src/ai/jwt.rs`: on a route with `auth.jwt` a caller may present a token of
the issuer in place of a key. `verify` makes of its claims what a key would have been (`KeyInfo`),
and `TokenCache.getOrVerify` remembers the answer under the hash of the token until it expires.
The token library reads the clock of the host, so what it answers is a family over the time.
-/

namespace Portus.DataPlane.Ai

open Lib Option

abbrev Claims := Table String Json

structure JwtPolicy where
  issuer : String
  audience : Option String := none
  tenantClaim : String
  toolsClaim : String
  groupsClaim : String
  toolsByGroup : List (String × List String) := []

def noTools : String := "(none)"

def looksLikeJwt (token : String) : Bool :=
  decide (20 < token.utf8ByteSize) && token.toList.count '.' == 2 && !token.toList.contains ' '

/-- A stable id of issuer and subject that fits a signed 64-bit column. -/
def subjectId (sha : Sha256) (issuer sub : String) : UInt64 :=
  let d := sha.digest (issuer ++ "\u0000" ++ sub)
  let word : UInt64 := (d.take 8).foldl (fun acc b => (acc <<< 8) ||| b.toUInt64) 0
  word >>> 1

section Claims

variable (claims : Claims)

def tenantOf (policy : JwtPolicy) : String :=
  match claims.lookup policy.tenantClaim with
  | some (.string s) => s
  | some (.array a) => (a.head?.bind Json.asStr).getD ""
  | _ => ""

def claimedTools (policy : JwtPolicy) : List String :=
  match claims.lookup policy.toolsClaim with
  | some (.array a) => Json.texts a
  | some (.string s) => Text.splitWhitespace s
  | _ => []

def groupsOf (policy : JwtPolicy) : List String :=
  match claims.lookup policy.groupsClaim with
  | some (.array a) => Json.texts a
  | some (.string s) => [s]
  | _ => []

/-- The tools the groups add to a list, none twice. -/
def grant (policy : JwtPolicy) (tools : List String) : List String :=
  policy.toolsByGroup.foldl (fun tools entry =>
    if (groupsOf claims policy).contains entry.1 then
      entry.2.foldl (fun tools t => if tools.contains t then tools else tools ++ [t]) tools
    else tools) tools

/-- The tools of the subject. With a group map, a subject that ends up with none may call none. -/
def toolsOf (policy : JwtPolicy) : List String :=
  let tools := claimedTools claims policy
  if policy.toolsByGroup.isEmpty then tools
  else
    let tools := grant claims policy tools
    if tools.isEmpty then [noTools] else tools

/-- The name people read: an address or a user name where the token has one, else the subject. -/
def nameOf (sub : String) : String :=
  (["email", "preferred_username", "name"].findSome? fun c =>
    ((claims.lookup c).bind Json.asStr).filter (!·.isEmpty)).getD sub

end Claims

section Verify

variable {Key : Type} (sha : Sha256) (libs : Nat → JwtLibs Key Claims)

/-- The caller a valid token of the policy's issuer stands for, and when the token expires. -/
def verify (token : String) (policy : JwtPolicy) (jwks : Table String (IssuerKeySet Key))
    (now : Nat) : Option (KeyInfo × Nat) := do
  let (claims, exp) ← verifyClaims (libs now) token policy.issuer policy.audience.toList jwks now
  let sub ← (claims.lookup "sub").bind Json.asStr
  let info : KeyInfo :=
    { id := subjectId sha policy.issuer sub
      tenant := tenantOf claims policy
      name := nameOf claims sub
      allowedTools := toolsOf claims policy
      expiresUnixSecs := UInt64.ofNat exp }
  return (info, exp)

structure TokenCache where
  entries : Table (List UInt8) (KeyInfo × Nat) := ∅
  cap : Nat

namespace TokenCache

def remember (cache : TokenCache) (token : String) (policy : JwtPolicy)
    (jwks : Table String (IssuerKeySet Key)) (now : Nat) : TokenCache × Option KeyInfo :=
  match verify sha libs token policy jwks now with
  | none => (cache, none)
  | some (info, exp) =>
    let kept := if cache.cap ≤ cache.entries.pairs.length then ∅ else cache.entries
    ({ cache with entries := kept.insert (sha.digest token) (info, exp) }, some info)

def getOrVerify (cache : TokenCache) (token : String) (policy : JwtPolicy)
    (jwks : Table String (IssuerKeySet Key)) (now : Nat) : TokenCache × Option KeyInfo :=
  match cache.entries.lookup (sha.digest token) with
  | none => remember sha libs cache token policy jwks now
  | some (info, exp) =>
    if now < exp then (cache, some info)
    else
      let cache := { cache with entries := cache.entries.erase (sha.digest token) }
      remember sha libs cache token policy jwks now

def liveEntry (cache : TokenCache) (token : String) (now : Nat) : Option (KeyInfo × Nat) :=
  (cache.entries.lookup (sha.digest token)).filter fun e => decide (now < e.2)

end TokenCache

def caller (token : String) (policy : JwtPolicy) (jwks : Table String (IssuerKeySet Key))
    (now : Nat) : Option KeyInfo :=
  (verify sha libs token policy jwks now).map (·.1)

end Verify

section

variable {Key : Type} {sha : Sha256} {libs : Nat → JwtLibs Key Claims}
  {jwks : Table String (IssuerKeySet Key)} {cache : TokenCache} {token : String}
  {policy : JwtPolicy} {now : Nat}

theorem getOrVerify_of_live (h : cache.liveEntry sha token now = some entry) :
    cache.getOrVerify sha libs token policy jwks now = (cache, some entry.1) := by
  obtain ⟨hlo, hli⟩ := filter_eq_some_iff.1 h
  rw [TokenCache.getOrVerify, hlo]
  exact if_pos (of_decide_eq_true hli)

variable (libs jwks policy) in
theorem getOrVerify_of_not_live (h : cache.liveEntry sha token now = none) :
    ∃ rest : TokenCache, rest.entries.lookup (sha.digest token) = none ∧
      (∀ hash, hash ≠ sha.digest token → rest.entries.lookup hash = cache.entries.lookup hash) ∧
      cache.getOrVerify sha libs token policy jwks now =
        rest.remember sha libs token policy jwks now := by
  unfold TokenCache.getOrVerify
  cases hlo : cache.entries.lookup (sha.digest token) with
  | none => exact ⟨cache, hlo, fun _ _ => rfl, rfl⟩
  | some entry =>
    have hd : ¬ now < entry.2 := by
      intro hli
      rw [TokenCache.liveEntry, hlo, filter_some, if_pos (decide_eq_true hli)] at h
      cases h
    exact ⟨{ cache with entries := cache.entries.erase (sha.digest token) },
      AList.lookup_erase _ _, fun _ hne => AList.lookup_erase_ne hne, if_neg hd⟩

theorem remember_snd :
    (cache.remember sha libs token policy jwks now).2 = caller sha libs token policy jwks now := by
  unfold TokenCache.remember caller
  cases verify sha libs token policy jwks now <;> rfl

theorem getOrVerify_snd : (cache.getOrVerify sha libs token policy jwks now).2 =
      ((cache.liveEntry sha token now).map (·.1)).or (caller sha libs token policy jwks now) := by
  cases hl : cache.liveEntry sha token now with
  | some entry => rw [getOrVerify_of_live hl]; rfl
  | none =>
    obtain ⟨rest, -, -, heq⟩ := getOrVerify_of_not_live libs jwks policy hl
    rw [heq, remember_snd]
    rfl

end

/-- How the library's answers depend on the time. Reading a token does not, and a token that one
key verified keeps its time limits until it expires: until then every key says of it what it said
before. -/
structure KeepsTime {Key : Type} (libs : Nat → JwtLibs Key Claims) : Prop where
  decodeHeader : ∀ t t', (libs t).decodeHeader = (libs t').decodeHeader
  exp : ∀ t t', (libs t).exp = (libs t').exp
  decode : ∀ {t t' : Nat}, t ≤ t' → ∀ {token alg issuer audiences key claims},
    (libs t).decode token key alg issuer audiences = some claims →
    (∀ e, (libs t).exp claims = some e → t' < e) →
    ∀ key', (libs t').decode token key' alg issuer audiences =
      (libs t).decode token key' alg issuer audiences

variable {Key : Type} {sha : Sha256} {libs : Nat → JwtLibs Key Claims}
  {jwks : Table String (IssuerKeySet Key)} {token : String} {t t' : Nat}

theorem KeepsTime.verifyClaims_later (h : KeepsTime libs) {claims : Claims} {exp : Nat}
    (hv : verifyClaims (libs t) token issuer audiences jwks t = some (claims, exp)) (ht : t ≤ t')
    (hex : t' < exp) :
    verifyClaims (libs t') token issuer audiences jwks t' = some (claims, exp) := by
  simp only [verifyClaims, bind_eq_bind, bind_eq_some_iff] at hv
  obtain ⟨header, hhead, keys, hke, found, hf, e, he, hin⟩ := hv
  split at hin
  next => cases hin
  next =>
    obtain ⟨rfl, rfl⟩ : found = claims ∧ e = exp := by simpa using hin
    obtain ⟨k, -, hk⟩ := List.exists_of_findSome?_eq_some hf
    have hs := h.decode ht hk fun e' he' => by
      obtain rfl : e = e' := Option.some.inj (he.symm.trans he')
      exact hex
    have hh := hhead
    rw [h.decodeHeader t t'] at hh
    have he' := he
    rw [h.exp t t'] at he'
    simp [verifyClaims, hh, hke, hs, hf, he', if_neg (Nat.not_le.2 hex)]

theorem KeepsTime.verify_later (h : KeepsTime libs) {policy : JwtPolicy} {exp : Nat}
    (hv : verify sha libs token policy jwks t = some (info, exp)) (ht : t ≤ t') (he : t' < exp) :
    verify sha libs token policy jwks t' = some (info, exp) := by
  simp only [verify, bind_eq_bind, bind_eq_some_iff] at hv
  obtain ⟨⟨claims, e⟩, hc, sub, ⟨json, hj, hs⟩, hin⟩ := hv
  obtain ⟨hi, rfl⟩ : _ ∧ e = exp := by simpa using hin
  have hl := h.verifyClaims_later hc ht he
  simp only [verify, bind_eq_bind, hl, bind_some, hj, hs]
  simpa using hi

/-- A stand-in for examples: an issuer all of whose tokens carry these claims, for one audience and
until one time. -/
def oneToken (issuer audience : String) (claims : Claims) (exp : Nat) : JwtLibs Unit Claims where
  parseJwkSet _ := none
  decodingKey _ := none
  decodeHeader _ := some (.rs256, none)
  decode _ _ _ iss audiences :=
    if iss = issuer ∧ (audiences = [] ∨ audience ∈ audiences) then some claims else none
  exp _ := some exp
  parse_empty := rfl

theorem keepsTime_oneToken :
    KeepsTime fun _ => oneToken issuer audience claims exp where
  decodeHeader _ _ := rfl
  exp _ _ := rfl
  decode _ _ _ _ _ _ _ _ _ _ := rfl

def oneKey (issuer : String) : Table String (IssuerKeySet Unit) :=
  Table.collect [(issuer, [(none, .rs256, ())])]

end Portus.DataPlane.Ai

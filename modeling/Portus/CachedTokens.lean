import Portus.DataPlane.Tokens
import Portus.Lib.Run

/-!
# Cached tokens and the policies of the routes

One `TokenCache` serves every AI route, and what a token is worth depends on the route: its
policy names the issuer and the audience, where the tenant stands and which tools the groups
grant. An entry remembers the answer under the hash of the token only. So a live entry answers
for whatever policy asks next, and the answer is the one `verify` would give exactly when the
token under that policy is worth what the entry was filled with.
-/

namespace Portus.CachedTokens

open Lib DataPlane DataPlane.Ai AList

structure Calls where
  cache : TokenCache
  clock : Nat
  /-- Token and policy of the last call that did not find a live entry under a hash. -/
  filledBy : List UInt8 → Option (String × JwtPolicy)

structure Call where
  token : String
  policy : JwtPolicy
  elapsed : Nat

section

variable {Key : Type} (sha : Sha256) (libs : Nat → JwtLibs Key Claims)
  (jwks : Table String (IssuerKeySet Key))

def answer (s : Calls) (c : Call) : TokenCache × Option KeyInfo :=
  s.cache.getOrVerify sha libs c.token c.policy jwks (s.clock + c.elapsed)

def step (s : Calls) (c : Call) : Calls where
  cache := (answer sha libs jwks s c).1
  clock := s.clock + c.elapsed
  filledBy :=
    if (s.cache.liveEntry sha c.token (s.clock + c.elapsed)).isSome then s.filledBy
    else Function.update s.filledBy (sha.digest c.token) (some (c.token, c.policy))

def start (cap clock : Nat) : Calls := ⟨{ cap }, clock, fun _ => none⟩

def Sound (s : Calls) (c : Call) : Prop :=
  ∀ info, (answer sha libs jwks s c).2 = some info →
    caller sha libs c.token c.policy jwks (s.clock + c.elapsed) = some info

/-- Where a live entry answers, the token is worth the same under the call's policy as under the
one the entry was filled for. -/
def JudgedAlike (s : Calls) (c : Call) : Prop :=
  (s.cache.liveEntry sha c.token (s.clock + c.elapsed)).isSome →
    ∀ first ∈ s.filledBy (sha.digest c.token),
      caller sha libs c.token c.policy jwks (s.clock + c.elapsed) =
        caller sha libs first.1 first.2 jwks (s.clock + c.elapsed)

/-- Every entry is what its token was worth when it was filled. -/
def Filled (s : Calls) : Prop :=
  ∀ hash entry, s.cache.entries.lookup hash = some entry →
    ∃ first t, s.filledBy hash = some first ∧ t ≤ s.clock ∧
      verify sha libs first.1 first.2 jwks t = some entry

end

variable {Key : Type} {sha : Sha256} {libs : Nat → JwtLibs Key Claims}
  {jwks : Table String (IssuerKeySet Key)} {cache : TokenCache} {token : String}
  {policy : JwtPolicy} {now : Nat}

theorem lookup_remember {hash : List UInt8}
    (h : (cache.remember sha libs token policy jwks now).1.entries.lookup hash = some entry) :
    (hash = sha.digest token ∧ verify sha libs token policy jwks now = some entry) ∨
      cache.entries.lookup hash = some entry := by
  unfold TokenCache.remember at h
  cases hv : verify sha libs token policy jwks now with
  | none =>
    rw [hv] at h
    exact .inr h
  | some verified =>
    rw [hv] at h
    by_cases hh : hash = sha.digest token
    · rw [hh, lookup_insert] at h
      exact .inl ⟨hh, h⟩
    · rw [lookup_insert_ne hh] at h
      split at h
      next =>
        cases h
      next => exact .inr h

theorem filled_step (hs : Filled sha libs jwks s) :
    Filled sha libs jwks (step sha libs jwks s c) := by
  intro hash entry he
  dsimp only [step, answer] at he ⊢
  cases hl : s.cache.liveEntry sha c.token (s.clock + c.elapsed) with
  | some hit =>
    rw [getOrVerify_of_live hl] at he
    obtain ⟨first, t, hf, ht, hv⟩ := hs hash entry he
    exact ⟨first, t, hf, Nat.le_add_right_of_le ht, hv⟩
  | none =>
    obtain ⟨rest, hg, hr, heq⟩ := getOrVerify_of_not_live libs jwks c.policy hl
    rw [heq] at he
    rcases lookup_remember he with ⟨rfl, hv⟩ | ho
    · exact ⟨(c.token, c.policy), _, Function.update_self .., le_rfl, hv⟩
    · have hne : hash ≠ sha.digest c.token := by
        rintro rfl
        rw [hg] at ho
        cases ho
      obtain ⟨first, t, hf, ht, hv⟩ := hs hash entry ((hr hash hne).symm.trans ho)
      exact ⟨first, t, (Function.update_of_ne hne _ _).trans hf, Nat.le_add_right_of_le ht, hv⟩

theorem sound_iff_judgedAlike (h : KeepsTime libs) (hs : Filled sha libs jwks s) :
    Sound sha libs jwks s c ↔ JudgedAlike sha libs jwks s c := by
  rw [Sound, JudgedAlike, answer, getOrVerify_snd]
  cases hli : s.cache.liveEntry sha c.token (s.clock + c.elapsed) with
  | none =>
    -- a verified token is sound whatever the cache holds
    exact iff_of_true (fun _ hi => hi) (fun hs' => by cases hs')
  | some entry =>
    obtain ⟨hlo, he⟩ := Option.filter_eq_some_iff.1 hli
    obtain ⟨first, t, hf, ht, hv⟩ := hs _ entry hlo
    -- the token that filled the entry is still worth what it was
    have hn : caller sha libs first.1 first.2 jwks (s.clock + c.elapsed) = some entry.1 := by
      rw [caller, h.verify_later hv (Nat.le_add_right_of_le ht) (of_decide_eq_true he)]
      rfl
    constructor
    · intro hso _ first' hfirst'
      obtain rfl : first = first' := Option.some.inj (hf.symm.trans hfirst')
      rw [hn]
      exact hso entry.1 rfl
    · intro ha info hi
      rwa [ha rfl first hf, hn]

/-- The calls of a run are all sound exactly when each live entry was filled for a policy that
judges the token like the call's. -/
theorem sound_run_iff (h : KeepsTime libs) (cap clock : Nat) (calls : List Call) :
    StepsMeet (step sha libs jwks) (Sound sha libs jwks) (start cap clock) calls ↔
      StepsMeet (step sha libs jwks) (JudgedAlike sha libs jwks) (start cap clock) calls := by
  have hst : Filled sha libs jwks (start cap clock) := by
    intro hash entry he
    cases (lookup_empty hash).symm.trans he
  constructor
  · exact StepsMeet.imp (fun s c hs _ => filled_step hs)
      (fun s c hs => (sound_iff_judgedAlike h hs).1) hst
  · exact StepsMeet.imp (fun s c hs _ => filled_step hs)
      (fun s c hs => (sound_iff_judgedAlike h hs).2) hst

/-- What the cache answers, `verify` once gave to the call that filled the entry. -/
theorem filled_run (sha : Sha256) (libs : Nat → JwtLibs Key Claims)
    (jwks : Table String (IssuerKeySet Key)) (cap clock : Nat) (calls : List Call) :
    Filled sha libs jwks (run (step sha libs jwks) (start cap clock) calls) :=
  run_keeps (fun _ _ => filled_step)
    (fun hash _ he => nomatch (lookup_empty hash).symm.trans he) calls

def dex : JwtLibs Unit Claims :=
  oneToken "https://dex.example.com" "chat"
    (Table.collect [("sub", .string "alice"), ("groups", .string "eng")]) 600

def dexKeys : Table String (IssuerKeySet Unit) := oneKey "https://dex.example.com"

def chatPolicy : JwtPolicy where
  issuer := "https://dex.example.com"
  audience := some "chat"
  tenantClaim := "groups"
  toolsClaim := "scope"
  groupsClaim := "groups"

def toolsPolicy : JwtPolicy := { chatPolicy with audience := some "tools" }

def chatCall : Call := ⟨"header.payload.signature", chatPolicy, 1⟩

/-- A second call on the same route is answered by the entry the first one left. -/
theorem sound_sameRoute : StepsMeet (step .firstBytes (fun _ => dex) dexKeys)
    (Sound .firstBytes (fun _ => dex) dexKeys) (start 2 0) [chatCall, chatCall] := by
  refine (sound_run_iff keepsTime_oneToken 2 0 [chatCall, chatCall]).2 ⟨?_, ?_, trivial⟩
  · intro hl
    cases hl
  · intro _ first hf
    obtain rfl : (chatCall.token, chatPolicy) = first := Option.some.inj hf
    rfl

/-- A token for the audience `chat` is let in on the route for `tools` once `chat` has seen it. -/
theorem otherAudience_letIn : ¬ StepsMeet (step .firstBytes (fun _ => dex) dexKeys)
    (Sound .firstBytes (fun _ => dex) dexKeys) (start 2 0)
    [chatCall, { chatCall with policy := toolsPolicy }] := by
  rintro ⟨-, hs, -⟩
  have ha := hs _ rfl
  revert ha
  decide

end Portus.CachedTokens

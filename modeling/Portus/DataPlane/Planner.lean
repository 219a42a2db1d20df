import Portus.DataPlane.IpFilter
import Portus.DataPlane.Limits

/-!
# Planning a request

`plan_request` from end to end, with what it does on the way. It answers a request itself, asks for
the body, or lets it through to a backend. On the way it moves the round-robin counters of the
thread and of pools and sends mirror requests; each of these is noted in `World.effects`.
-/

namespace Portus.DataPlane

open Portus Lib Proto List Option

/-- Tokens and the second of the last refill (`AtomicTokenBucket`). -/
structure TokenBucket where
  secs : UInt32 := 0
  tokens : UInt32
  rps : UInt32

def TokenBucket.new (rps : UInt32) : TokenBucket := { tokens := rps, rps }

def TokenBucket.available (b : TokenBucket) (now : UInt32) : Nat :=
  let refill := if now - b.secs ≥ 1 then min ((now - b.secs).toNat * b.rps.toNat) b.rps.toNat else 0
  min (b.tokens.toNat + refill) b.rps.toNat

inductive RateLimiter where
  | shared (bucket : TokenBucket)
  | perIp (rps : UInt32) (buckets : Table IpAddr TokenBucket)

/-- A limiter per client lets no request through that has no address. -/
def RateLimiter.allows (limiter : RateLimiter) (client : Option IpAddr) (now : UInt32) : Bool :=
  match limiter with
  | .shared bucket => 0 < bucket.available now
  | .perIp rps buckets =>
    client.any fun ip => 0 < ((buckets.lookup ip).getD (.new rps)).available now

/-- The endpoints of a pool, each with whether it is ready, and the round-robin counter. -/
structure LivePool where
  endpoints : List (SocketAddr × Bool)
  next : UInt64 := 0

def LivePool.selected (p : LivePool) : Option SocketAddr :=
  (List.range p.endpoints.length).findSome? fun i =>
    (p.endpoints[(p.next.toNat + i) % p.endpoints.length]?).bind fun ep =>
      if ep.2 then some ep.1 else none

inductive Effect where
  /-- The thread's counter for weighted backends is moved on. -/
  | weightedTurn
  /-- The counter of a pool is moved on. -/
  | poolTurn (slot : Slot)
  | mirrored (slot : Slot) (addr : SocketAddr)
deriving DecidableEq

structure World where
  weightCounter : UInt64 := 0
  pools : Slot → Option LivePool
  effects : List Effect := []

def World.live (w : World) (slot : Slot) : Bool := (w.pools slot).any (!·.endpoints.isEmpty)

def World.select (w : World) (slot : Slot) : World × Option SocketAddr :=
  match w.pools slot with
  | none => (w, none)
  | some p =>
    if p.endpoints.isEmpty then (w, none)
    else
      ({ w with
          pools := Function.update w.pools slot (some { p with next := p.next + 1 })
          effects := w.effects ++ [.poolTurn slot] }, p.selected)

structure PlanEnv where
  /-- The parser of the `ipnet` crate. -/
  ipNet : String → Option IpNet
  peerIp : Option IpAddr := none
  /-- The status with which the credentials of the request are refused. -/
  authRefusal : Option UInt16 := none
  /-- The status with which the authorization Service denies, or a way it cannot be heard. -/
  verdict : Option UInt16 := none
  unavailable : Bool := false
  roll : Nat → Nat := fun _ => 0
  permit : Nat → Bool := fun _ => true
  now : UInt32 := 0
  rateLimiter : Option RateLimiter := none
  limits : RouteLimits := {}

/-- An allowed origin is `*`, the origin, or one with a `*` for at least one character. -/
def corsOriginMatches (allowOrigins : List String) (origin : String) : Bool :=
  allowOrigins.any fun allowed => allowed == "*" || allowed == origin ||
    ((Text.splitOnce '*' allowed).bind fun (front, back) =>
      (Text.stripPrefix front origin).map fun rest =>
        Text.endsWith rest back && back.utf8ByteSize < rest.utf8ByteSize).getD false

def preflight (rc : RouteConfig) (facts : RequestFacts) : Option UInt16 :=
  rc.cors.bind fun cors => (facts.headerStr "origin").bind fun origin =>
    if facts.method == "OPTIONS" && (facts.header "access-control-request-method").isSome then
      some (if corsOriginMatches cors.allowOrigins origin then 200 else 403)
    else none

def parseU64 (s : String) : Option Nat :=
  let digits := match s.toList with
    | '+' :: c :: cs => c :: cs
    | cs => cs
  if digits.isEmpty || !digits.all Char.isDigit then none
  else
    let n := digits.foldl (fun n c => n * 10 + (c.toNat - '0'.toNat)) 0
    if n < 18446744073709551616 then some n else none

/-- The global bound applies where no policy sets one. -/
def maxRequestBodyBytes (rc : RouteConfig) : Nat :=
  if 0 < rc.maxRequestBodyBytes then rc.maxRequestBodyBytes.toNat else 10 * 1024 * 1024

def bodyTooLarge (rc : RouteConfig) (facts : RequestFacts) : Bool :=
  ((facts.headerStr "content-length").bind parseU64).any (maxRequestBodyBytes rc < ·)

/-- The status with which a redirect, a preflight, the client address, the length of the body or
the credentials answer the request. None of these changes anything. -/
def earlyReply (rc : RouteConfig) (facts : RequestFacts) (env : PlanEnv) : Option UInt16 :=
  let redirect := rc.redirect.map fun r => if r.statusCode = 0 then 302 else r.statusCode.toUInt16
  let rules := ipRules env.ipNet rc
  let denied := if ipDenied rules (clientIp rules env.peerIp facts) then some 403 else none
  let tooLarge := if bodyTooLarge rc facts then some 413 else none
  redirect.or <| (preflight rc facts).or <| denied.or <| tooLarge.or <|
    if rc.auth.isSome then env.authRefusal else none

def slotOfExtAuth (ext : ExtAuthConfig) : Slot := (ext.serviceName, ext.port.toUInt16)

/-- Ask the authorization Service of the rule: the status with which it refuses, if it does. -/
def World.authorize (w : World) (rc : RouteConfig) (env : PlanEnv) : World × Option UInt16 :=
  match rc.extAuth with
  | none => (w, none)
  | some ext =>
    if ext.serviceName.isEmpty then (w, some 500)
    else
      let unavailable := if ext.failOpen then none else some 503
      match w.select (slotOfExtAuth ext) with
      | (w, none) => (w, unavailable)
      | (w, some _) => (w, if env.unavailable then unavailable else env.verdict)

def weighs (rc : RouteConfig) : Bool := (rc.weightedBackends.map (·.weight)).sum != 0

def World.choose (w : World) (rc : RouteConfig) : World × Slot :=
  let target := backendOf rc w.weightCounter
  if weighs rc then
    ({ w with weightCounter := w.weightCounter + 1, effects := w.effects ++ [.weightedTurn] }, target)
  else (w, target)

def mirrorsOf (rc : RouteConfig) : List MirrorBackend :=
  if rc.mirrorBackends.isEmpty then rc.mirrorBackend.toList else rc.mirrorBackends

def slotOfMirror (m : MirrorBackend) : Slot := (m.serviceName, m.port.toUInt16)

def World.spawnMirrorRequest (w : World) (slot : Slot) (permit : Bool) : World :=
  if permit then
    match w.select slot with
    | (w, some addr) => { w with effects := w.effects ++ [.mirrored slot addr] }
    | (w, none) => w
  else w

def World.sendMirrors (w : World) (rc : RouteConfig) (env : PlanEnv) : World :=
  (mirrorsOf rc).zipIdx.foldl (fun w mi =>
    if mirrorFires mi.1 (env.roll mi.2) then w.spawnMirrorRequest (slotOfMirror mi.1) (env.permit mi.2)
    else w) w

def limitReply (rc : RouteConfig) (facts : RequestFacts) (env : PlanEnv) : Option UInt16 :=
  if env.rateLimiter.all (·.allows (clientIp (ipRules env.ipNet rc) env.peerIp facts) env.now) then
    (env.limits.check env.now).2.map fun _ => 503
  else some 429

inductive PlanResult where
  | respond (status : UInt16)
  | needsBody
  | forward (target : Slot)
deriving DecidableEq

def planRule (w : World) (rc : RouteConfig) (facts : RequestFacts) (env : PlanEnv) :
    World × PlanResult :=
  match earlyReply rc facts env with
  | some status => (w, .respond status)
  | none =>
    match w.authorize rc env with
    | (w, some status) => (w, .respond status)
    | (w, none) =>
      let (w, target) := w.choose rc
      if target.1.isEmpty then (w, .respond 500)
      else
        let w := w.sendMirrors rc env
        match limitReply rc facts env with
        | some status => (w, .respond status)
        | none => (w, .forward target)

def planRequest (libs : RouterLibs) (snap : ProxySnapshot) (w : World) (facts : RequestFacts)
    (env : PlanEnv) : World × PlanResult :=
  match routeRequest libs snap facts with
  | .acmeChallenge | .oauthMetadata => (w, .respond 200)
  | .misdirected => (w, .respond 421)
  | .needsBody => (w, .needsBody)
  | .noRoute => (w, .respond 404)
  | .matched rule => planRule w rule.spec facts env

section Effects

variable (w : World) (rc : RouteConfig) (env : PlanEnv)

theorem World.live_select (slot slot' : Slot) : (w.select slot).1.live slot' = w.live slot' := by
  unfold World.select World.live
  cases hp : w.pools slot with
  | none => rfl
  | some p =>
    dsimp only
    split
    · rfl
    · by_cases hs : slot' = slot
      · subst hs
        simp [hp]
      · simp [Function.update_of_ne hs]

theorem World.effects_select (slot : Slot) : (w.select slot).1.effects =
    w.effects ++ if w.live slot then [.poolTurn slot] else [] := by
  unfold World.select World.live
  cases hp : w.pools slot with
  | none => simp
  | some p =>
    cases he : p.endpoints.isEmpty <;> simp [he]

variable {w} in
theorem World.live_of_select (h : w.select slot = (w', some addr)) : w.live slot = true := by
  unfold World.select at h
  unfold World.live
  split at h
  · cases h
  next p hp =>
    split at h
    · cases h
    next he => simpa [hp] using he

theorem World.live_spawnMirrorRequest :
    (w.spawnMirrorRequest slot permit).live slot' = w.live slot' := by
  have hs := w.live_select slot slot'
  unfold World.spawnMirrorRequest
  split
  · split
    next w' addr hw =>
      rwa [hw] at hs
    next w' hw =>
      rwa [hw] at hs
  · rfl

theorem World.effects_spawnMirrorRequest (slot : Slot) (permit : Bool) :
    ∃ more, (w.spawnMirrorRequest slot permit).effects = w.effects ++ more ∧
      (more = [] ↔ ¬ (permit = true ∧ w.live slot = true)) := by
  have hs := w.effects_select slot
  unfold World.spawnMirrorRequest
  cases permit with
  | false => exact ⟨[], (append_nil _).symm, by simp⟩
  | true =>
    rw [if_pos rfl]
    split
    next w' addr hw =>
      rw [hw] at hs
      refine ⟨_, by rw [hs, append_assoc], ?_⟩
      simp [w.live_of_select hw]
    next w' hw =>
      rw [hw] at hs
      exact ⟨_, hs, by cases w.live slot <;> simp⟩

def World.mirrorsReach (w : World) (rc : RouteConfig) (env : PlanEnv) : Prop :=
  ∃ mi ∈ (mirrorsOf rc).zipIdx, mirrorFires mi.1 (env.roll mi.2) = true ∧
    env.permit mi.2 = true ∧ w.live (slotOfMirror mi.1) = true

theorem World.effects_sendMirrors : ∃ more, (w.sendMirrors rc env).effects = w.effects ++ more ∧
      (more = [] ↔ ¬ w.mirrorsReach rc env) := by
  unfold World.sendMirrors World.mirrorsReach
  generalize (mirrorsOf rc).zipIdx = l
  induction l generalizing w with
  | nil => exact ⟨[], (append_nil _).symm, by simp⟩
  | cons mi l ih =>
    rw [foldl_cons]
    split
    next hfire =>
      obtain ⟨first, hf, hfirstN⟩ :=
        w.effects_spawnMirrorRequest (slotOfMirror mi.1) (env.permit mi.2)
      obtain ⟨rest, hrest, hrestN⟩ :=
        ih (w.spawnMirrorRequest (slotOfMirror mi.1) (env.permit mi.2))
      refine ⟨first ++ rest, by rw [hrest, hf, append_assoc], ?_⟩
      simp only [World.live_spawnMirrorRequest] at hrestN
      rw [append_eq_nil_iff, hfirstN, hrestN]
      simp [hfire]
    next hfire =>
      obtain ⟨rest, hrest, hrestN⟩ := ih w
      refine ⟨rest, hrest, hrestN.trans ?_⟩
      simp [hfire]

def World.asks (w : World) (rc : RouteConfig) : Bool :=
  rc.extAuth.any fun ext => !ext.serviceName.isEmpty && w.live (slotOfExtAuth ext)

theorem World.weightCounter_select (slot : Slot) :
    (w.select slot).1.weightCounter = w.weightCounter := by
  unfold World.select
  split
  · rfl
  · split <;> rfl

theorem World.authorize_cases : (w.authorize rc env).1 = w ∧ w.asks rc = false ∨
      ∃ slot, (w.authorize rc env).1 = (w.select slot).1 ∧ w.asks rc = w.live slot := by
  unfold World.authorize World.asks
  cases he : rc.extAuth with
  | none => exact .inl ⟨rfl, rfl⟩
  | some ext =>
    dsimp
    split
    next hn => exact .inl ⟨rfl, by rw [hn]; rfl⟩
    next hn =>
      refine .inr ⟨slotOfExtAuth ext, ?_, by simp [hn]⟩
      split <;> rename_i hw <;> rw [hw]

theorem World.authorize_spec : (w.authorize rc env).1.weightCounter = w.weightCounter ∧
      (w.authorize rc env).1.live = w.live ∧
      ∃ more, (w.authorize rc env).1.effects = w.effects ++ more ∧
        (more = [] ↔ w.asks rc = false) := by
  rcases w.authorize_cases rc env with ⟨hw, ha⟩ | ⟨slot, hw, ha⟩
  · rw [hw]
    exact ⟨rfl, rfl, [], (append_nil _).symm, by simp [ha]⟩
  · rw [hw, ha]
    refine ⟨w.weightCounter_select slot, funext (w.live_select slot), _, w.effects_select slot, ?_⟩
    cases w.live slot <;> simp

theorem World.choose_spec :
    (w.choose rc).2 = backendOf rc w.weightCounter ∧ (w.choose rc).1.live = w.live ∧
      (w.choose rc).1.effects = w.effects ++ if weighs rc then [.weightedTurn] else [] := by
  unfold World.choose
  cases weighs rc with
  | true => exact ⟨rfl, rfl, rfl⟩
  | false => exact ⟨rfl, rfl, (append_nil _).symm⟩

end Effects

section Ends

variable {w : World} {rc : RouteConfig} {facts : RequestFacts} {env : PlanEnv}

theorem planRule_unauthorized (he : earlyReply rc facts env = none)
    (ha : (w.authorize rc env).2 = some status) :
    planRule w rc facts env = ((w.authorize rc env).1, .respond status) := by
  cases hw : w.authorize rc env with
  | mk w₁ verdict =>
    rw [hw] at ha
    obtain rfl : verdict = some status := ha
    rw [planRule, he, hw]

theorem planRule_authorized (he : earlyReply rc facts env = none)
    (ha : (w.authorize rc env).2 = none) :
    planRule w rc facts env =
      if ((w.authorize rc env).1.choose rc).2.1.isEmpty then
        (((w.authorize rc env).1.choose rc).1, .respond 500)
      else
        (((w.authorize rc env).1.choose rc).1.sendMirrors rc env,
          ((limitReply rc facts env).map .respond).getD
            (.forward ((w.authorize rc env).1.choose rc).2)) := by
  cases hw : w.authorize rc env with
  | mk w₁ verdict =>
    rw [hw] at ha
    obtain rfl : verdict = none := ha
    rw [planRule, he, hw]
    dsimp only
    split
    · rfl
    · cases limitReply rc facts env <;> rfl

end Ends

end Portus.DataPlane

import Portus.DataPlane.Planner

/-!
# What a refused request leaves behind

A request that the planner answers itself should leave no trace at the backends: no mirror request
is sent, and no turn is taken from the weighted backends or from a pool. The planner chooses the
backend and sends the mirrors before it asks the rate limiter, the circuit breaker and the
connection limiter, so what these refuse has been mirrored and has moved the counters.
-/

namespace Portus.RefusalEffects

open Lib Proto DataPlane List

def NoEffect (libs : RouterLibs) (snap : ProxySnapshot) (w : World) (facts : RequestFacts)
    (env : PlanEnv) : Prop :=
  ∀ status, (planRequest libs snap w facts env).2 = .respond status →
    (planRequest libs snap w facts env).1.effects = w.effects

/-- What a request of a rule must not find, by the check that refuses it. -/
structure Untouched (w : World) (rc : RouteConfig) (facts : RequestFacts) (env : PlanEnv) : Prop where
  /-- The authorization Service refuses: none of its endpoints was asked. -/
  unauthorized : (w.authorize rc env).2 ≠ none → w.asks rc = false
  /-- The rule has no backend: no endpoint was asked, and there are no weights. -/
  unnamed : (w.authorize rc env).2 = none → (backendOf rc w.weightCounter).1 = "" →
    w.asks rc = false ∧ weighs rc = false
  /-- A limiter refuses: also no mirror was sent, or none had endpoints. -/
  limited : (w.authorize rc env).2 = none → (backendOf rc w.weightCounter).1 ≠ "" →
    limitReply rc facts env ≠ none → w.asks rc = false ∧ weighs rc = false ∧ ¬ w.mirrorsReach rc env

/-- Where a rule is matched, and none of the checks that change nothing answers the request, the
later ones find nothing to take a turn from. -/
def RefusedInTime (libs : RouterLibs) (snap : ProxySnapshot) (w : World) (facts : RequestFacts)
    (env : PlanEnv) : Prop :=
  ∀ rule, routeRequest libs snap facts = .matched rule → earlyReply rule.spec facts env = none →
    Untouched w rule.spec facts env

section Rule

variable {w : World} {rc : RouteConfig} {facts : RequestFacts} {env : PlanEnv}

theorem mirrorsReach_congr {w' : World} (h : w'.live = w.live) :
    w'.mirrorsReach rc env ↔ w.mirrorsReach rc env := by
  unfold World.mirrorsReach
  rw [h]

theorem effects_choose_authorize :
    ∃ more, ((w.authorize rc env).1.choose rc).1.effects = w.effects ++ more ∧
      (more = [] ↔ w.asks rc = false ∧ weighs rc = false) := by
  obtain ⟨-, -, asked, ha, haskedN⟩ := w.authorize_spec rc env
  obtain ⟨-, -, ht⟩ := (w.authorize rc env).1.choose_spec rc
  refine ⟨_, by rw [ht, ha, append_assoc], ?_⟩
  rw [append_eq_nil_iff, haskedN]
  cases weighs rc <;> simp

theorem effects_sendMirrors_choose :
    ∃ more, (((w.authorize rc env).1.choose rc).1.sendMirrors rc env).effects = w.effects ++ more ∧
      (more = [] ↔ w.asks rc = false ∧ weighs rc = false ∧ ¬ w.mirrorsReach rc env) := by
  obtain ⟨-, hlive, -⟩ := w.authorize_spec rc env
  obtain ⟨-, hlive', -⟩ := (w.authorize rc env).1.choose_spec rc
  obtain ⟨chosen, hc, hc'⟩ := effects_choose_authorize
  obtain ⟨sent, hsent, hsentN⟩ := ((w.authorize rc env).1.choose rc).1.effects_sendMirrors rc env
  refine ⟨chosen ++ sent, by rw [hsent, hc, append_assoc], ?_⟩
  rw [append_eq_nil_iff, hc', hsentN, mirrorsReach_congr (hlive'.trans hlive), and_assoc]

theorem planRule_iff (he : earlyReply rc facts env = none) :
    (∀ status, (planRule w rc facts env).2 = .respond status →
      (planRule w rc facts env).1.effects = w.effects) ↔ Untouched w rc facts env := by
  obtain ⟨hc, -, asked, ha, haskedN⟩ := w.authorize_spec rc env
  obtain ⟨ht, -, -⟩ := (w.authorize rc env).1.choose_spec rc
  rw [hc] at ht
  cases hau : (w.authorize rc env).2 with
  | some status =>
    rw [planRule_unauthorized he hau]
    rw [ha]
    constructor
    · intro h
      have hni := haskedN.1 (append_right_eq_self.1 (h status rfl))
      exact ⟨fun _ => hni, (fun hno => nomatch hau.symm.trans hno),
        (fun hno => nomatch hau.symm.trans hno)⟩
    · intro h _ _
      rw [append_right_eq_self, haskedN]
      exact h.unauthorized fun hno => nomatch hau.symm.trans hno
  | none =>
    rw [planRule_authorized he hau, ht]
    by_cases hname : (backendOf rc w.weightCounter).1 = ""
    · obtain ⟨more, hm, hni⟩ := effects_choose_authorize
      rw [if_pos (by simpa using hname)]
      rw [hm]
      constructor
      · intro h
        exact ⟨fun hs => absurd hau hs,
          fun _ _ => hni.1 (append_right_eq_self.1 (h 500 rfl)),
          fun _ hnamed => absurd hname hnamed⟩
      · intro h _ _
        rw [append_right_eq_self, hni]
        exact h.unnamed hau hname
    · obtain ⟨more, hm, hni⟩ := effects_sendMirrors_choose
      rw [if_neg (by simpa using hname)]
      rw [hm]
      cases hl : limitReply rc facts env with
      | none =>
        refine iff_of_true (fun _ hr => nomatch hr) ⟨fun hs => absurd hau hs,
          fun _ hu => absurd hu hname, fun _ _ hs => absurd hl hs⟩
      | some status =>
        constructor
        · intro h
          exact ⟨fun hs => absurd hau hs, fun _ hu => absurd hu hname,
            fun _ _ _ => hni.1 (append_right_eq_self.1 (h status rfl))⟩
        · intro h _ _
          rw [append_right_eq_self, hni]
          exact h.limited hau hname fun hno => nomatch hl.symm.trans hno

end Rule

/-- A request that is answered has no effect exactly when it is refused in time. -/
theorem noEffect_iff_refusedInTime (libs : RouterLibs) (snap : ProxySnapshot) (w : World)
    (facts : RequestFacts) (env : PlanEnv) :
    NoEffect libs snap w facts env ↔ RefusedInTime libs snap w facts env := by
  unfold NoEffect RefusedInTime planRequest
  cases hro : routeRequest libs snap facts with
  | matched rule =>
    dsimp only
    cases he : earlyReply rule.spec facts env with
    | some status =>
      have hp : planRule w rule.spec facts env = (w, .respond status) := by
        unfold planRule
        rw [he]
      rw [hp]
      refine iff_of_true (fun _ _ => rfl) fun rule' hru hn => ?_
      cases hru
      exact nomatch he.symm.trans hn
    | none =>
      rw [planRule_iff he]
      constructor
      · rintro h rule' ⟨⟩ -
        exact h
      · exact fun h => h rule rfl he
  | acmeChallenge | misdirected | oauthMetadata | needsBody | noRoute =>
    exact iff_of_true (fun _ _ => rfl) fun _ hru => nomatch hru

def mirroredRoute : RouteConfig where
  host := "*"
  serviceName := "shop"
  port := 80
  mirrorBackends := [⟨"shadow", 80, 100⟩]
  rateLimit := some ⟨1, false⟩

def mirroredRule : PathRoute := makeRoute plainNames mirroredRoute "/" .pathPrefix

def mirroredSnapshot : ProxySnapshot where
  listenersByPort := ∅
  anyPortListeners :=
    [{ listenerHostname := "", catchAll := some ⟨∅, [mirroredRule], false, false⟩ }]

def shadowWorld : World where
  pools slot := if slot = ("shadow", 80) then some ⟨[(.v4 [10, 0, 0, 9] 80, true)], 0⟩ else none

def spentEnv : PlanEnv where
  ipNet _ := none
  rateLimiter := some (.shared { tokens := 0, rps := 1 })

def shopRequest : RequestFacts := { host := "shop.example.com", path := "/", localPort := 80 }

/-- The request is answered 429 and has been sent to the mirror. -/
theorem limited_is_mirrored :
    ¬ NoEffect plainNames mirroredSnapshot shadowWorld shopRequest spentEnv := by
  intro h
  have hp : planRequest plainNames mirroredSnapshot shadowWorld shopRequest spentEnv =
      planRule shadowWorld mirroredRoute shopRequest spentEnv := rfl
  have hn := h 429 (by rw [hp]; decide +kernel)
  revert hn
  decide +kernel

end Portus.RefusalEffects

import Portus.DataPlane.Limits
import Portus.DataPlane.RouteSlice

/-!
# Whose policy a rule is limited by

A route carries its own circuit breaker settings and connection limit, inlined from the policies
that target it. The data plane keeps breakers and limiters by Service port and takes the settings
of the first route that has any, so a rule gets what the first such route to its Service port asked
for: a breaker that its own route has no policy for, or one with other thresholds.
-/

namespace Portus.LimitScope

open Lib Proto DataPlane DataPlane.Handling Option

section Policy

variable (libs : RouterLibs) (routes : List RouteConfig)

/-- The limits of a rule are those its route asks for; what its route does not ask for never
refuses a request. -/
structure Follows (route : RouteConfig) (limits : RouteLimits) : Prop where
  breaker : limits.circuitBreaker.map (·.config) = route.circuitBreaker.map breakerConfigOf
  limiter : limits.connectionLimiter.map (·.max) = route.maxConnections.filter (0 < ·)
  notBroken : route.circuitBreaker = none → ∀ now, (limits.check now).2 ≠ some .circuitOpen
  notLimited : route.maxConnections.filter (0 < ·) = none → ∀ now,
    (limits.check now).2 ≠ some .connectionLimit

def FollowsOwnPolicy (cbs : CircuitBreakerMap) (cls : ConnectionLimiterMap) : Prop :=
  ∀ route ∈ routes, ∀ rule ∈ pathRoutes libs route,
    Follows route (rule.limits (buildCbClMapsFromProto routes cbs cls))

/-- The first route to the Service port of a route that has a policy has the same as the route. -/
def OwnFirst {γ : Type} (policy : RouteConfig → Option γ) (route : RouteConfig) : Prop :=
  ∀ before first after, routes = before ++ first :: after →
    slotOfRoute first = slotOfRoute route → policy first ≠ none →
      (∀ r ∈ before, slotOfRoute r = slotOfRoute route → policy r = none) →
        policy first = policy route

/-- No route to the same Service port comes first with another policy. -/
def Undisputed : Prop :=
  ∀ route ∈ routes, pathRoutes libs route ≠ [] →
    OwnFirst routes breakerPolicy route ∧ OwnFirst routes connectionPolicy route

end Policy

theorem ownFirst_iff {routes : List RouteConfig} (hr : route ∈ routes) :
    OwnFirst routes policy route ↔ firstPolicy policy routes (slotOfRoute route) = policy route := by
  constructor
  · intro h
    cases hf : firstPolicy policy routes (slotOfRoute route) with
    | some wanted =>
      obtain ⟨before, first, after, hroutes, hs, hp, hb⟩ :=
        firstPolicy_eq_some_iff.1 hf
      rw [← h before first after hroutes hs (by simp [hp]) hb, hp]
    | none =>
      have hn := List.findSome?_eq_none_iff.1 hf route hr
      simpa using hn.symm
  · intro h before first after hroutes hs hp hb
    obtain ⟨wanted, hw⟩ := ne_none_iff_exists'.1 hp
    rw [← h, hw]
    exact (firstPolicy_eq_some_iff.2 ⟨before, first, after, hroutes, hs, hw, hb⟩).symm

theorem follows_iff :
    Follows route limits ↔ limits.circuitBreaker.map (·.config) = breakerPolicy route ∧
      limits.connectionLimiter.map (·.max) = connectionPolicy route := by
  constructor
  · exact fun h => ⟨h.breaker, h.limiter⟩
  · rintro ⟨hb, hl⟩
    refine ⟨hb, hl, fun hn now => ?_, fun hn now => ?_⟩
    · have hcb : limits.circuitBreaker = none := by
        rw [breakerPolicy, hn] at hb
        exact map_eq_none_iff.1 hb
      rw [RouteLimits.check, hcb, map_none]
      dsimp only
      split <;> simp
    · have hcl : limits.connectionLimiter = none := by
        rw [connectionPolicy, hn] at hl
        exact map_eq_none_iff.1 hl
      rw [RouteLimits.check, hcl]
      split <;> simp

theorem settings_limits {libs : RouterLibs} (hr : rule ∈ pathRoutes libs route) :
    ((rule.limits (buildCbClMapsFromProto routes cbs cls)).circuitBreaker.map (·.config) =
        firstPolicy breakerPolicy routes (slotOfRoute route)) ∧
      (rule.limits (buildCbClMapsFromProto routes cbs cls)).connectionLimiter.map (·.max) =
        firstPolicy connectionPolicy routes (slotOfRoute route) := by
  rw [PathRoute.limits, buildCbClMapsFromProto, spec_of_mem_pathRoutes hr]
  exact ⟨settings_firstPolicies (fun _ => rfl) breakerPolicy,
    settings_firstPolicies (fun _ => rfl) connectionPolicy⟩

/-- Rules follow the policies of their own routes exactly when no route to the same Service port
comes first with another policy. -/
theorem followsOwnPolicy_iff (libs : RouterLibs) (routes : List RouteConfig)
    (cbs : CircuitBreakerMap) (cls : ConnectionLimiterMap) :
    FollowsOwnPolicy libs routes cbs cls ↔ Undisputed libs routes := by
  constructor
  · intro h route hro hc
    obtain ⟨rule, hru⟩ := List.exists_mem_of_ne_nil _ hc
    obtain ⟨hb, hl⟩ := follows_iff.1 (h route hro rule hru)
    obtain ⟨hcb, hcl⟩ := settings_limits hru
    exact ⟨(ownFirst_iff hro).2 (hcb.symm.trans hb), (ownFirst_iff hro).2 (hcl.symm.trans hl)⟩
  · intro h route hro rule hru
    obtain ⟨hb, hl⟩ := h route hro (List.ne_nil_of_mem hru)
    obtain ⟨hcb, hcl⟩ := settings_limits hru
    exact follows_iff.2 ⟨hcb.trans ((ownFirst_iff hro).1 hb),
      hcl.trans ((ownFirst_iff hro).1 hl)⟩

def guarded : RouteConfig where
  host := "a.example.com"
  serviceName := "payments"
  port := 8080
  circuitBreaker := some ⟨1, 1, 30⟩

def unguarded : RouteConfig where
  host := "b.example.com"
  serviceName := "payments"
  port := 8080

/-- The second route has no policy, and its rule has the breaker of the first. -/
theorem unguarded_shares_breaker : ¬ FollowsOwnPolicy plainNames [guarded, unguarded] ∅ ∅ := by
  intro h
  have hf := h unguarded (by simp) (makeRoute plainNames unguarded "/" .pathPrefix)
    (List.mem_singleton.2 rfl)
  have hb := hf.breaker
  revert hb
  decide

end Portus.LimitScope

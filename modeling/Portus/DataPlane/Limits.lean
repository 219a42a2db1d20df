import Portus.DataPlane.Breaker
import Portus.DataPlane.Handling
import Portus.Lib.FirstCome

/-!
# Circuit breakers and connection limiters of rules

`build_cb_cl_maps_from_proto` makes one breaker and one limiter for each Service port that some
route has a policy for; `build_listener_buckets_from_proto` gives every rule those of the Service
port of its route. Both are kept over a new configuration that does not change their settings.
-/

namespace Portus.DataPlane

open Portus Lib Proto Handling Option

abbrev CircuitBreakerMap := Table Slot CircuitBreaker

abbrev ConnectionLimiterMap := Table Slot ConnectionLimiter

def saturateU16 (n : UInt32) : UInt16 := if n.toNat < 65536 then n.toUInt16 else 0xFFFF

def breakerConfigOf (cb : CircuitBreakerConfig) : BreakerConfig where
  failureThreshold := saturateU16 cb.failureThreshold
  successThreshold := saturateU16 cb.successThreshold
  timeoutSecs := cb.timeoutSecs

def slotOfRoute (route : RouteConfig) : Slot := (route.serviceName, route.port.toUInt16)

def breakerPolicy (route : RouteConfig) : Option BreakerConfig :=
  route.circuitBreaker.map breakerConfigOf

def connectionPolicy (route : RouteConfig) : Option UInt32 := route.maxConnections.filter (0 < ·)

def reuseOr {β γ : Type} [DecidableEq γ] (settings : β → γ) (make : γ → β) (existing : Option β)
    (wanted : γ) : β :=
  (existing.filter fun b => settings b = wanted).getD (make wanted)

/-- One instance for each Service port that a route has a policy for, by the first such route. -/
def firstPolicies {β γ : Type} [DecidableEq γ] (settings : β → γ) (make : γ → β)
    (policy : RouteConfig → Option γ) (existing : Table Slot β) (routes : List RouteConfig) :
    Table Slot β :=
  Table.collectFirst <| routes.filterMap fun route => (policy route).map fun wanted =>
    (slotOfRoute route, reuseOr settings make (existing.lookup (slotOfRoute route)) wanted)

def buildCbClMapsFromProto (routes : List RouteConfig) (existingCbs : CircuitBreakerMap)
    (existingCls : ConnectionLimiterMap) : CircuitBreakerMap × ConnectionLimiterMap :=
  (firstPolicies CircuitBreaker.config (fun config => { config }) breakerPolicy existingCbs routes,
    firstPolicies ConnectionLimiter.max (fun max => { max }) connectionPolicy existingCls routes)

structure RouteLimits where
  circuitBreaker : Option CircuitBreaker := none
  connectionLimiter : Option ConnectionLimiter := none

def PathRoute.limits (rule : PathRoute) (maps : CircuitBreakerMap × ConnectionLimiterMap) :
    RouteLimits where
  circuitBreaker := maps.1.lookup (slotOfRoute rule.spec)
  connectionLimiter := maps.2.lookup (slotOfRoute rule.spec)

theorem settings_reuseOr [DecidableEq γ] {settings : β → γ}
    (hm : ∀ wanted, settings (make wanted) = wanted) :
    settings (reuseOr settings make existing wanted) = wanted := by
  unfold reuseOr
  cases hf : existing.filter fun b => settings b = wanted with
  | none => exact hm wanted
  | some b => exact of_decide_eq_true (filter_eq_some_iff.1 hf).2

def firstPolicy {γ : Type} (policy : RouteConfig → Option γ) (routes : List RouteConfig)
    (slot : Slot) : Option γ :=
  routes.findSome? fun route => if slotOfRoute route = slot then policy route else none

theorem settings_firstPolicies [DecidableEq γ] {settings : β → γ}
    (hm : ∀ wanted, settings (make wanted) = wanted) (policy : RouteConfig → Option γ) :
    ((firstPolicies settings make policy existing routes).lookup slot).map settings =
      firstPolicy policy routes slot := by
  rw [firstPolicies, firstPolicy, Table.lookup_collectFirst]
  induction routes with
  | nil => rfl
  | cons route routes ih =>
    cases hp : policy route with
    | none => simpa [hp] using ih
    | some wanted =>
      by_cases hs : slotOfRoute route = slot
      · simp [hp, hs, settings_reuseOr hm]
      · simpa [hp, hs] using ih

theorem firstPolicy_eq_some_iff : firstPolicy policy routes slot = some wanted ↔
      ∃ before route after, routes = before ++ route :: after ∧ slotOfRoute route = slot ∧
        policy route = some wanted ∧ ∀ r ∈ before, slotOfRoute r = slot → policy r = none := by
  rw [firstPolicy, List.findSome?_eq_some_iff]
  constructor
  · rintro ⟨before, route, after, hro, hf, hb⟩
    split at hf
    next hs =>
      refine ⟨before, route, after, hro, hs, hf, fun r hr hrs => ?_⟩
      simpa [hrs] using hb r hr
    next => cases hf
  · rintro ⟨before, route, after, hro, hs, hp, hb⟩
    refine ⟨before, route, after, hro, by rw [if_pos hs, hp], fun r hr => ?_⟩
    by_cases hrs : slotOfRoute r = slot
    · rw [if_pos hrs, hb r hr hrs]
    · rw [if_neg hrs]

inductive LimitRefusal where
  | circuitOpen
  | connectionLimit

def RouteLimits.check (limits : RouteLimits) (now : UInt32) : RouteLimits × Option LimitRefusal :=
  match limits.circuitBreaker.map (·.allowRequest now) with
  | some (cb, false) => ({ limits with circuitBreaker := some cb }, some .circuitOpen)
  | allowed =>
    let circuitBreaker := allowed.map (·.1)
    match limits.connectionLimiter.map (·.tryAcquire) with
    | some (cl, false) => (⟨circuitBreaker, some cl⟩, some .connectionLimit)
    | acquired => (⟨circuitBreaker, acquired.map (·.1)⟩, none)

theorem RouteLimits.circuitBreaker_check (limits : RouteLimits) (now : UInt32) :
    (limits.check now).1.circuitBreaker =
      limits.circuitBreaker.map fun cb => (cb.allowRequest now).1 := by
  unfold check
  split
  next cb hcb =>
    obtain ⟨cb', hc, ha⟩ := map_eq_some_iff.1 hcb
    simp [hc, ha]
  next =>
    split <;> simp [Function.comp_def]

theorem RouteLimits.check_eq_none_iff (limits : RouteLimits) (now : UInt32) :
    (limits.check now).2 = none ↔
      limits.circuitBreaker.all (fun cb => (cb.allowRequest now).2) = true ∧
        limits.connectionLimiter.all (·.tryAcquire.2) = true := by
  unfold check
  split
  next cb hcb =>
    obtain ⟨cb', hcb', ha⟩ := map_eq_some_iff.1 hcb
    simp [hcb', ha]
  next hp =>
    have ha : limits.circuitBreaker.all (fun cb => (cb.allowRequest now).2) = true := by
      cases hcb : limits.circuitBreaker with
      | none => rfl
      | some cb =>
        by_contra hrefused
        refine hp (cb.allowRequest now).1 ?_
        rw [hcb, ← Bool.eq_false_iff.2 hrefused]
        rfl
    split
    next cl hcl =>
      obtain ⟨cl', hcl', hf⟩ := map_eq_some_iff.1 hcl
      simp [hcl', hf]
    next hs =>
      refine iff_of_true rfl ⟨ha, ?_⟩
      cases hcl : limits.connectionLimiter with
      | none => rfl
      | some cl =>
        by_contra hf
        refine hs cl.tryAcquire.1 ?_
        rw [hcl, ← Bool.eq_false_iff.2 hf]
        rfl

end Portus.DataPlane

import Portus.DataPlane.Pools
import Portus.Lib.Choice

/-!
# Where a matched request goes

`plan_request` from the matched rule on, as far as it decides which pools receive
the request. A redirect is answered. Then come the checks that may refuse the
request (CORS preflight, client address, body size, authentication and the
authorization Service); `PlanInputs.admitted` is their outcome. A backend is chosen
by weight, or is the rule's own; an empty name is answered with 500.
-/

namespace Portus.DataPlane

open Portus Lib Proto List

structure PlanInputs where
  /-- The checks before the choice of a backend let the request pass. -/
  admitted : Bool
  /-- The thread's round-robin counter. -/
  counter : UInt64
  /-- The whole part of the percentage rolled for the mirror at an index. -/
  roll : Nat → Nat
  /-- Rate limiter, circuit breaker, connection limiter and budget let the request pass. -/
  withinLimits : Bool

structure Sent where
  mirrors : List Slot := []
  forwarded : Option Slot := none

def selectWeightedBackend (backends : List WeightedBackend) (counter : UInt64) :
    Option WeightedBackend :=
  weightedChoice (·.weight) backends counter

/-- The backend of a request: a weighted one, or the rule's own when it has none. -/
def backendOf (rc : RouteConfig) (counter : UInt64) : Slot :=
  match selectWeightedBackend rc.weightedBackends counter with
  | some selected => (selected.serviceName, selected.port.toUInt16)
  | none => (rc.serviceName, rc.port.toUInt16)

/-- A mirror takes its share of the requests; 0 and 100 or more mean all of them. -/
def mirrorFires (m : MirrorBackend) (roll : Nat) : Bool :=
  !(0 < m.percent && m.percent < 100) || roll < m.percent.toNat

def mirrorSlots (mirrors : List MirrorBackend) (roll : Nat → Nat) : List Slot :=
  (mirrors.zipIdx.filter fun mi => mirrorFires mi.1 (roll mi.2)).map fun mi =>
    (mi.1.serviceName, mi.1.port.toUInt16)

def planMatched (rc : RouteConfig) (inputs : PlanInputs) : Sent :=
  if rc.redirect.isSome || !inputs.admitted then {}
  else
    let target := backendOf rc inputs.counter
    if target.1.isEmpty then {}
    else
      { mirrors := mirrorSlots rc.mirrorBackends inputs.roll
        forwarded := if inputs.withinLimits then some target else none }

def knownDialect (dialect : String) : Bool :=
  ["anthropic", "openai", "openai-compatible", "mcp"].contains dialect

def federationId (rc : RouteConfig) : Option String :=
  if knownDialect rc.aiDialect && !rc.aiFederation.isEmpty then some rc.aiFederation else none

def buildFederationsFromProto (federations : List McpFederation) : Table String (List Slot) :=
  Table.collect <| federations.map fun f =>
    (f.name, f.members.map fun m => (m.serviceName, portOfProto m.port))

/-- The pools a planned request reaches: its mirrors, and its backend or the members of its
federation. -/
def receivers (federations : Table String (List Slot)) (rc : RouteConfig) (sent : Sent) :
    List Slot :=
  sent.mirrors ++
    match sent.forwarded with
    | none => []
    | some target => ((federationId rc).bind federations.lookup).getD [target]

theorem mem_mirrorSlots (h : slot ∈ mirrorSlots mirrors roll) :
    ∃ m ∈ mirrors, slot = (m.serviceName, m.port.toUInt16) := by
  obtain ⟨⟨m, i⟩, hm, rfl⟩ := mem_map.1 h
  exact ⟨m, fst_mem_of_mem_zipIdx (mem_filter.1 hm).1, rfl⟩

theorem mirror_of_mem_planMatched (h : slot ∈ (planMatched rc inputs).mirrors) :
    ∃ m ∈ rc.mirrorBackends, slot = (m.serviceName, m.port.toUInt16) := by
  unfold planMatched at h
  dsimp only at h
  split at h
  · cases h
  · split at h
    · cases h
    · exact mem_mirrorSlots h

theorem mirrorSlots_zero :
    mirrorSlots mirrors (fun _ => 0) = mirrors.map fun m => (m.serviceName, m.port.toUInt16) := by
  have hf (m : MirrorBackend) : mirrorFires m 0 = true := by
    simp only [mirrorFires, Bool.or_eq_true, Bool.not_eq_true', decide_eq_true_eq,
      Bool.and_eq_false_imp]
    by_cases h : 0 < m.percent
    · exact .inr (UInt32.lt_iff_toNat_lt.1 h)
    · exact .inl fun h' => absurd h' h
  rw [mirrorSlots, filter_eq_self.2 fun mi _ => hf mi.1]
  conv_rhs => rw [← zipIdx_map_fst 0 mirrors, map_map]
  rfl

theorem exists_receivers_iff : (∃ inputs, slot ∈ receivers federations rc (planMatched rc inputs)) ↔
      rc.redirect = none ∧ ∃ counter, (backendOf rc counter).1 ≠ "" ∧
        ((∃ m ∈ rc.mirrorBackends, slot = (m.serviceName, m.port.toUInt16)) ∨
          slot ∈ ((federationId rc).bind federations.lookup).getD [backendOf rc counter]) := by
  constructor
  · rintro ⟨inputs, h⟩
    unfold planMatched at h
    dsimp only at h
    split at h
    next => simp [receivers] at h
    next hg =>
      simp only [Bool.or_eq_true, not_or, Option.not_isSome_iff_eq_none] at hg
      split at h
      next => simp [receivers] at h
      next hn =>
        refine ⟨hg.1, inputs.counter, by simpa using hn, ?_⟩
        rcases mem_append.1 h with h | h
        · exact .inl (mem_mirrorSlots h)
        · split at h
          next => cases h
          next target ht =>
            split at ht
            · cases ht
              exact .inr h
            · cases ht
  · rintro ⟨hr, counter, hn, h⟩
    refine ⟨⟨true, counter, fun _ => 0, true⟩, ?_⟩
    have hp : planMatched rc ⟨true, counter, fun _ => 0, true⟩ =
        ⟨rc.mirrorBackends.map fun m => (m.serviceName, m.port.toUInt16),
          some (backendOf rc counter)⟩ := by
      simp [planMatched, hr, hn, mirrorSlots_zero]
    rw [hp, receivers, mem_append, mem_map]
    rcases h with ⟨m, hm, rfl⟩ | h
    · exact .inl ⟨m, hm, rfl⟩
    · exact .inr h

structure L4Backend where
  service : String
  port : UInt16
  weight : UInt32

structure L4RouteTarget where
  backends : List L4Backend

def l4Target (route : L4ProxyRoute) : L4RouteTarget :=
  ⟨route.backends.map fun b => ⟨b.serviceName, b.port.toUInt16, b.weight⟩⟩

/-- The backend of a connection; none when the weights sum to zero. The total is a 64-bit sum. -/
def L4RouteTarget.select (target : L4RouteTarget) (counter : UInt64) : Option L4Backend :=
  let total := (target.backends.map fun b => b.weight.toNat).sum % 2 ^ 64
  if total = 0 then none
  else pickFrom (fun b => b.weight.toNat) (counter.toNat % total) 0 target.backends

theorem L4RouteTarget.exists_select_iff {target : L4RouteTarget} :
    (∃ counter, target.select counter = some b) ↔
      ∃ before after, target.backends = before ++ b :: after ∧ 0 < b.weight.toNat ∧
        (before.map fun b => b.weight.toNat).sum <
          (target.backends.map fun b => b.weight.toNat).sum % 2 ^ 64 := by
  rw [← exists_pickFrom_iff fun b : L4Backend => b.weight.toNat]
  unfold select
  dsimp only
  constructor
  · rintro ⟨counter, h⟩
    split at h
    next => cases h
    next hz => exact ⟨_, Nat.mod_lt _ (Nat.pos_of_ne_zero hz), h⟩
  · rintro ⟨idx, hi, h⟩
    have h64 : idx < UInt64.size := Nat.lt_trans hi (Nat.mod_lt _ (by decide))
    refine ⟨UInt64.ofNat idx, ?_⟩
    rwa [if_neg (by omega), UInt64.toNat_ofNat_of_lt' h64, Nat.mod_eq_of_lt hi]

end Portus.DataPlane

import Portus.Lib.Run
import Portus.Reconcilers.EndpointSlices

/-!
# Endpoints of a Service over its EndpointSlices

A Service may have many EndpointSlices; the controller reconciles them one by one, in any
order. `Aggregated` says that what is stored for a port of a Service are the ready
addresses of all its slices that list the port, each in the version reconciled last.
-/

namespace Portus.EndpointAggregation

open Portus Lib Reconcilers

def sliceKey (eps : EndpointSlice) : Option String × Option String :=
  (eps.metadata.namespaceName, eps.metadata.name)

structure State where
  /-- The version of each slice that was reconciled last. -/
  slices : Table (Option String × Option String) EndpointSlice
  store : ConfigStore

def start (store : ConfigStore) : State := ⟨∅, { store with endpoints := ∅ }⟩

def step (s : State) (eps : EndpointSlice) : State :=
  match reconcileEndpointslice eps s.store with
  | .error _ => s
  | .ok store => ⟨s.slices.insert (sliceKey eps) eps, store⟩

def Lists (eps : EndpointSlice) (port : UInt16) : Prop :=
  ∃ q ∈ eps.ports.getD [], ∃ n, q.port = some n ∧ n.toInt = port.toNat

structure Contributes (eps : EndpointSlice) (key : ServiceKey) (address : String) : Prop where
  inNamespace : eps.metadata.namespaceName = some key.namespaceName
  ofService : eps.serviceName = some key.name
  listed : Lists eps key.port
  ready : address ∈ eps.readyAddresses

def Current (s : State) (key : ServiceKey) (address : String) : Prop :=
  ∃ k eps, s.slices.lookup k = some eps ∧ Contributes eps key address

/-- For every port of every Service the ready addresses of all its slices are stored. -/
def Aggregated (s : State) : Prop :=
  ∀ key, isServiceName key.name → ∀ e,
    e ∈ storedEndpoints s.store key ↔ Current s key e.address ∧ e.port = key.port.toUInt32

/-- A slice other than the one under `k` has the address ready. -/
def Others (s : State) (k : Option String × Option String) (key : ServiceKey) (address : String) :
    Prop :=
  ∃ k' eps, k' ≠ k ∧ s.slices.lookup k' = some eps ∧ Contributes eps key address

structure Writes (eps : EndpointSlice) (key : ServiceKey) : Prop where
  inNamespace : eps.metadata.namespaceName = some key.namespaceName
  ofService : eps.serviceName = some key.name
  port : key.port ∈ eps.portNumbers

/-- The slice can be written over what is stored without loss or left-over. -/
structure Additive (s : State) (eps : EndpointSlice) : Prop where
  /-- On a port it lists, it has every address another slice of the Service has. -/
  covers : ∀ key, isServiceName key.name → Writes eps key →
    ∀ a, Others s (sliceKey eps) key a → a ∈ eps.readyAddresses
  /-- A port number that is none, cut to 16 bits, adds nothing. -/
  inRange : ∀ key, isServiceName key.name → Writes eps key → ¬ Lists eps key.port →
    ∀ a ∈ eps.readyAddresses, Others s (sliceKey eps) key a
  /-- What its last version had on a port it no longer lists, another slice has. -/
  drops : eps.metadata.namespaceName ≠ none → ∀ key, isServiceName key.name → ¬ Writes eps key →
    ∀ old, s.slices.lookup (sliceKey eps) = some old →
      ∀ a, Contributes old key a → Others s (sliceKey eps) key a

theorem mem_portNumbers_of_lists {eps : EndpointSlice} (h : Lists eps port) :
    port ∈ eps.portNumbers := by
  obtain ⟨q, hq, n, hn, hv⟩ := h
  refine List.mem_filterMap.2 ⟨q, hq, ?_⟩
  rw [hn, Option.map_some, Option.some.injEq]
  have hc : n.toInt = if 2 * n.toBitVec.toNat < 2 ^ 32 then (n.toBitVec.toNat : Int)
      else n.toBitVec.toNat - (2 ^ 32 : Nat) := BitVec.toInt_eq_toNat_cond n.toBitVec
  have hna : n.toBitVec.toNat = port.toNat := by
    split at hc <;> omega
  apply UInt16.toNat.inj
  show n.toBitVec.toNat % 2 ^ 16 = port.toNat
  rw [hna]
  exact Nat.mod_eq_of_lt port.toNat_lt

theorem Contributes.writes {eps : EndpointSlice} (h : Contributes eps key a) : Writes eps key :=
  ⟨h.inNamespace, h.ofService, mem_portNumbers_of_lists h.listed⟩

theorem current_iff (s : State) (k : Option String × Option String) :
    Current s key a ↔
      (∃ eps, s.slices.lookup k = some eps ∧ Contributes eps key a) ∨ Others s k key a := by
  constructor
  · rintro ⟨k', eps, hk', hc⟩
    by_cases h : k' = k
    · subst h
      exact .inl ⟨eps, hk', hc⟩
    · exact .inr ⟨k', eps, h, hk', hc⟩
  · rintro (⟨eps, hk, hc⟩ | ⟨k', eps, -, hk', hc⟩)
    · exact ⟨k, eps, hk, hc⟩
    · exact ⟨k', eps, hk', hc⟩

theorem current_insert :
    Current ⟨s.slices.insert (sliceKey eps) eps, store⟩ key a ↔
      Contributes eps key a ∨ Others s (sliceKey eps) key a := by
  rw [current_iff _ (sliceKey eps)]
  refine or_congr ?_ ?_
  · rw [AList.lookup_insert]
    constructor
    · rintro ⟨eps', h, hc⟩
      cases h
      exact hc
    · intro hc
      exact ⟨eps, rfl, hc⟩
  · refine exists_congr fun k' => exists_congr fun eps' => and_congr_right fun hne => ?_
    rw [AList.lookup_insert_ne hne]

theorem Additive.of_none {s : State} {eps : EndpointSlice}
    (h : eps.metadata.namespaceName = none) : Additive s eps where
  covers := by
    intro key _ hw
    cases h.symm.trans hw.inNamespace
  inRange := by
    intro key _ hw
    cases h.symm.trans hw.inNamespace
  drops := fun hns => absurd h hns

section Reconciled

variable {s : State} {eps : EndpointSlice} {store : ConfigStore}

theorem written_iff (h : reconcileEndpointslice eps s.store = .ok store)
    (hk : isServiceName key.name) (hw : Writes eps key) :
    (∀ e, e ∈ storedEndpoints store key ↔
        Current ⟨s.slices.insert (sliceKey eps) eps, store⟩ key e.address ∧
          e.port = key.port.toUInt32) ↔
      (∀ a, Others s (sliceKey eps) key a → a ∈ eps.readyAddresses) ∧
        (¬ Lists eps key.port → ∀ a ∈ eps.readyAddresses, Others s (sliceKey eps) key a) := by
  have hs : storedEndpoints store key = readyEndpoints eps key.port := by
    rw [storedEndpoints_reconcile h hk, if_pos ⟨hw.inNamespace, hw.ofService, hw.port⟩]
  simp only [hs, mem_readyEndpoints, current_insert]
  constructor
  · intro hal
    constructor
    · intro a ha
      exact ((hal ⟨a, key.port.toUInt32⟩).2 ⟨.inr ha, rfl⟩).1
    · intro hl a ha
      rcases ((hal ⟨a, key.port.toUInt32⟩).1 ⟨ha, rfl⟩).1 with hc | ho
      · exact absurd hc.listed hl
      · exact ho
  · rintro ⟨hco, hr⟩ e
    refine and_congr_left fun _ => ⟨fun ha => ?_, ?_⟩
    · by_cases hl : Lists eps key.port
      · exact .inl ⟨hw.inNamespace, hw.ofService, hl, ha⟩
      · exact .inr (hr hl _ ha)
    · rintro (hc | ho)
      · exact hc.ready
      · exact hco _ ho

theorem unwritten_iff (hag : Aggregated s) (h : reconcileEndpointslice eps s.store = .ok store)
    (hk : isServiceName key.name) (hw : ¬ Writes eps key) :
    (∀ e, e ∈ storedEndpoints store key ↔
        Current ⟨s.slices.insert (sliceKey eps) eps, store⟩ key e.address ∧
          e.port = key.port.toUInt32) ↔
      ∀ old, s.slices.lookup (sliceKey eps) = some old →
        ∀ a, Contributes old key a → Others s (sliceKey eps) key a := by
  have hs : storedEndpoints store key = storedEndpoints s.store key := by
    rw [storedEndpoints_reconcile h hk, if_neg fun hal => hw ⟨hal.1, hal.2.1, hal.2.2⟩]
  have hn (a : String) : ¬ Contributes eps key a := fun hc => hw hc.writes
  simp only [hs, current_insert, hn, false_or, hag key hk, current_iff s (sliceKey eps)]
  constructor
  · intro hal old hol a hc
    exact ((hal ⟨a, key.port.toUInt32⟩).1 ⟨.inl ⟨old, hol, hc⟩, rfl⟩).1
  · intro hd e
    refine and_congr_left fun _ => ⟨?_, .inr⟩
    rintro (⟨old, hol, hc⟩ | ho)
    · exact hd old hol _ hc
    · exact ho

end Reconciled

theorem aggregated_step_iff {s : State} (hag : Aggregated s) :
    Aggregated (step s eps) ↔ Additive s eps := by
  cases hns : eps.metadata.namespaceName with
  | none =>
    have hst : step s eps = s := by simp [step, reconcileEndpointslice, hns]
    rw [hst]
    exact ⟨fun _ => .of_none hns, fun _ => hag⟩
  | some ns =>
    obtain ⟨store, h⟩ : ∃ store, reconcileEndpointslice eps s.store = .ok store := by
      cases hse : eps.serviceName <;> simp [reconcileEndpointslice, hns, hse]
    have hst : step s eps = ⟨s.slices.insert (sliceKey eps) eps, store⟩ := by
      simp only [step, h]
    rw [hst]
    constructor
    · intro hal
      exact
        { covers := fun key hk hw => ((written_iff h hk hw).1 (hal key hk)).1
          inRange := fun key hk hw => ((written_iff h hk hw).1 (hal key hk)).2
          drops := fun _ key hk hw => (unwritten_iff hag h hk hw).1 (hal key hk) }
    · intro had key hk
      by_cases hw : Writes eps key
      · exact (written_iff h hk hw).2 ⟨had.covers key hk hw, had.inRange key hk hw⟩
      · exact (unwritten_iff hag h hk hw).2
          (had.drops (by rw [hns]; exact Option.some_ne_none ns) key hk hw)

theorem aggregated_start : Aggregated (start store) := by
  intro key _ e
  constructor
  · intro he
    exact absurd he List.not_mem_nil
  · rintro ⟨⟨k, eps, hk, -⟩, -⟩
    cases hk

/-- Through a run of reconciles, the endpoints of all slices of every Service are stored after each
of them exactly when each of them is additive. -/
theorem aggregated_run_iff (store : ConfigStore) (actions : List EndpointSlice) :
    StepsMeet step (fun s eps => Aggregated (step s eps)) (start store) actions ↔
      StepsMeet step Additive (start store) actions := by
  refine stepsMeet_iff (J := fun _ => True) (fun _ _ _ => trivial) ?_ trivial
    aggregated_start actions
  intro s eps _ ha
  exact aggregated_step_iff ha

/-- A slice of the Service `web` with one ready pod on port 8080. -/
def webSlice (name address : String) : EndpointSlice where
  metadata := ⟨some name, some "shop", none, none, none⟩
  labels := Table.collect [(serviceNameLabel, "web")]
  ports := some [⟨some 8080⟩]
  endpoints := some [⟨[address], none⟩]

/-- The second slice of a Service replaces what the first one had. -/
theorem secondSlice_replaces : ¬ StepsMeet step (fun s eps => Aggregated (step s eps)) (start {})
      [webSlice "web-a" "10.0.0.1", webSlice "web-b" "10.0.0.2"] := by
  rintro ⟨-, hse, -⟩
  let key : ServiceKey := ⟨"shop", "web", 8080⟩
  have hf : Contributes (webSlice "web-a" "10.0.0.1") key "10.0.0.1" :=
    { inNamespace := rfl
      ofService := by decide +kernel
      listed := ⟨⟨some 8080⟩, List.mem_cons_self, 8080, rfl, by decide +kernel⟩
      ready := List.mem_cons_self }
  have hst := (hse key (by decide) ⟨"10.0.0.1", 8080⟩).2
    ⟨⟨(some "shop", some "web-a"), _, by rfl, hf⟩, by decide⟩
  have hg : (⟨"10.0.0.1", 8080⟩ : BackendEndpoint) ∉ storedEndpoints
      (run step (start {}) [webSlice "web-a" "10.0.0.1", webSlice "web-b" "10.0.0.2"]).store key := by
    decide +kernel
  exact hg hst

end Portus.EndpointAggregation

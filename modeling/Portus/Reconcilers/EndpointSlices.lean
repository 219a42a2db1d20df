import Mathlib.Data.List.Sort
import Portus.Lib.Text
import Portus.Reconcilers.Objects

/-!
# EndpointSlices

`reconcilers/endpointslice.rs`: the ready addresses of a slice are stored under the Service
its label names, once for each of its ports. `reconcilers/ai_provider.rs`: an AIProvider
whose host is a Service of the cluster copies the Service's endpoints to a Service name of
its own (`refresh_for_service`).
-/

namespace Portus.Reconcilers

open Portus Lib AList List

variable (store : ConfigStore)

structure EndpointPort where
  port : Option Int32

structure Endpoint where
  addresses : List String
  /-- `conditions.ready`; absent when there are no conditions. -/
  ready : Option Bool := none

structure EndpointSlice where
  metadata : ObjectMeta
  labels : Table String String := ∅
  ports : Option (List EndpointPort) := none
  endpoints : Option (List Endpoint) := none

def serviceNameLabel : String := "kubernetes.io/service-name"

def trimEndDots (host : String) : String :=
  String.ofList (host.toList.reverse.dropWhile (· = '.')).reverse

def clusterLocalService (host ownNamespace : String) : Option (String × String) :=
  match Text.split '.' (trimEndDots host) with
  | [name] => if name.isEmpty then none else some (ownNamespace, name)
  | [name, ns, "svc"] => some (ns, name)
  | [name, ns, "svc", "cluster", "local"] => some (ns, name)
  | _ => none

/-- The provider's endpoints follow its Service; with no ready endpoint it keeps the last ones. The
flag says whether the provider is cluster-local. -/
def syncClusterLocal (provider : AIProviderState) : ConfigStore × Bool :=
  match clusterLocalService provider.host provider.namespaceName with
  | none => (store, false)
  | some (ns, name) =>
    let targetPort := (store.servicePortMap.lookup ⟨ns, name, provider.port⟩).getD provider.port
    let endpoints := (store.endpoints.lookup ⟨ns, name, targetPort⟩).getD []
    if endpoints.isEmpty then (store, true)
    else ({ store with endpoints := store.endpoints.insert provider.serviceKey endpoints }, true)

def refreshForService (ns service : String) : ConfigStore :=
  let providers := store.aiProviders.values.filter fun p =>
    clusterLocalService p.host p.namespaceName == some (ns, service)
  providers.foldl (fun s p => (syncClusterLocal s p).1) store

namespace EndpointSlice

def serviceName (eps : EndpointSlice) : Option String := eps.labels.lookup serviceNameLabel

def portNumbers (eps : EndpointSlice) : List UInt16 :=
  (eps.ports.getD []).filterMap fun p => p.port.map fun n => n.toUInt32.toUInt16

/-- The addresses of the ready endpoints; an endpoint with no conditions is ready. -/
def readyAddresses (eps : EndpointSlice) : List String :=
  ((eps.endpoints.getD []).filter (·.ready.getD true)).flatMap (·.addresses)

end EndpointSlice

def endpointOrder (a b : BackendEndpoint) : Prop :=
  a.address < b.address ∨ a.address = b.address ∧ a.port ≤ b.port

instance : DecidableRel endpointOrder := fun _ _ => inferInstanceAs (Decidable (_ ∨ _ ∧ _))

def readyEndpoints (eps : EndpointSlice) (port : UInt16) : List BackendEndpoint :=
  (eps.readyAddresses.map fun a => ⟨a, port.toUInt32⟩).insertionSort endpointOrder

def writeEndpoints (key : ServiceKey) (endpoints : List BackendEndpoint) : ConfigStore :=
  if endpoints.isEmpty then { store with endpoints := store.endpoints.erase key }
  else if store.endpoints.lookup key = some endpoints then store
  else { store with endpoints := store.endpoints.insert key endpoints }

def reconcileEndpointslice (eps : EndpointSlice) (store : ConfigStore) :
    Except ReconcileError ConfigStore :=
  match eps.metadata.namespaceName, eps.serviceName with
  | none, _ => .error (.missingField "metadata.namespace")
  | some _, none => .ok store
  | some ns, some service =>
    let written := eps.portNumbers.foldl
      (fun s port => writeEndpoints s ⟨ns, service, port⟩ (readyEndpoints eps port)) store
    .ok (refreshForService written ns service)

/-- A name a Service can have; those of AI providers are written with slashes. -/
def isServiceName (name : String) : Prop := '/' ∉ name.toList

instance (name : String) : Decidable (isServiceName name) := inferInstanceAs (Decidable (_ ∉ _))

theorem not_isServiceName_serviceName (p : AIProviderState) : ¬ isServiceName p.serviceName := by
  intro h
  refine h ?_
  simp [AIProviderState.serviceName, aiProviderServiceName, String.toList_append]

def storedEndpoints (key : ServiceKey) : List BackendEndpoint :=
  (store.endpoints.lookup key).getD []

theorem lookup_syncClusterLocal (hk : isServiceName key.name) :
    (syncClusterLocal store p).1.endpoints.lookup key = store.endpoints.lookup key := by
  have hne : key ≠ p.serviceKey := by
    rintro rfl
    exact not_isServiceName_serviceName p hk
  unfold syncClusterLocal
  split
  next => rfl
  next =>
    dsimp only
    split
    next => rfl
    next => exact lookup_insert_ne hne

theorem lookup_refreshForService (hk : isServiceName key.name) :
    (refreshForService store ns service).endpoints.lookup key = store.endpoints.lookup key := by
  unfold refreshForService
  generalize store.aiProviders.values.filter _ = providers
  induction providers generalizing store with
  | nil => rfl
  | cons p providers ih =>
    rw [foldl_cons, ih, lookup_syncClusterLocal store hk]

theorem mem_readyEndpoints :
    e ∈ readyEndpoints eps port ↔ e.address ∈ eps.readyAddresses ∧ e.port = port.toUInt32 := by
  rw [readyEndpoints, mem_insertionSort, mem_map]
  constructor
  · rintro ⟨a, ha, rfl⟩
    exact ⟨ha, rfl⟩
  · rintro ⟨ha, hp⟩
    exact ⟨e.address, ha, by rw [← hp]⟩

theorem storedEndpoints_writeEndpoints :
    storedEndpoints (writeEndpoints store key endpoints) k =
      if k = key then endpoints else storedEndpoints store k := by
  unfold writeEndpoints storedEndpoints
  split
  next h =>
    rw [Table.lookup_erase_apply, isEmpty_iff.1 h]
    split <;> rfl
  next =>
    split
    next h =>
      split
      next hk => rw [hk, h]; rfl
      next => rfl
    next =>
      rw [Table.lookup_insert_apply]
      split <;> rfl

theorem storedEndpoints_foldl (ports : List UInt16) :
    storedEndpoints (ports.foldl (fun s port =>
        writeEndpoints s ⟨ns, service, port⟩ (readyEndpoints eps port)) store) key =
      if key.namespaceName = ns ∧ key.name = service ∧ key.port ∈ ports then
        readyEndpoints eps key.port
      else storedEndpoints store key := by
  induction ports generalizing store with
  | nil => simp
  | cons port ports ih =>
    obtain ⟨kns, kname, kport⟩ := key
    rw [foldl_cons, ih, storedEndpoints_writeEndpoints]
    by_cases hns : kns = ns
    · by_cases hn : kname = service
      · by_cases hp : kport = port
        · subst hp
          simp [hns, hn]
        · simp [hns, hn, hp]
      · simp [hn]
    · simp [hns]

theorem storedEndpoints_reconcile {store : ConfigStore}
    (h : reconcileEndpointslice eps store = .ok store') (hk : isServiceName key.name) :
    storedEndpoints store' key =
      if eps.metadata.namespaceName = some key.namespaceName ∧ eps.serviceName = some key.name ∧
          key.port ∈ eps.portNumbers then
        readyEndpoints eps key.port
      else storedEndpoints store key := by
  unfold reconcileEndpointslice at h
  split at h
  next => cases h
  next ns hns hs =>
    cases h
    simp [hs]
  next ns service hns hs =>
    cases h
    rw [storedEndpoints, lookup_refreshForService _ hk, ← storedEndpoints,
      storedEndpoints_foldl]
    simp only [hns, hs, Option.some.injEq, eq_comm]

end Portus.Reconcilers

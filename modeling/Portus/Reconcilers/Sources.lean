import Portus.Reconcilers.Objects

/-!
# Services, ReferenceGrants and Namespaces

The reconcilers of the objects that others refer to: `reconcilers/service.rs` keeps the
ports of a Service, `reconcilers/reference_grant.rs` the grants of a namespace and
`reconcilers/namespace.rs` the labels of one. Each writes under the key of its own object
and nowhere else.
-/

namespace Portus.Reconcilers

open Portus Lib

/-- A port of a Service. The target is a number or the name of a container port. -/
structure ServicePort where
  port : Int32
  targetPort : Option (Int32 ⊕ String) := none
  appProtocol : Option String := none
  name : Option String := none

structure Service where
  metadata : ObjectMeta
  /-- The ports of the spec, if there is one. -/
  spec : Option (List ServicePort)

def ofService (key : NamespacedName) (k : ServiceKey) : Bool :=
  k.namespaceName == key.namespaceName && k.name == key.name

def forgetService (store : ConfigStore) (key : NamespacedName) : ConfigStore :=
  { store with
    servicePortMap := store.servicePortMap.retain (!ofService key ·)
    serviceAppProtocols := store.serviceAppProtocols.retain (!ofService key ·)
    servicePortNames := store.servicePortNames.retain (!ofService key ·) }

/-- The number a Service port is kept under, as `p as u16`; a port below 1 is skipped. -/
def ServicePort.number (p : ServicePort) : Option UInt16 :=
  if 0 < p.port.toInt then some p.port.toUInt32.toUInt16 else none

/-- A named target port is taken to be the Service's own. -/
def ServicePort.target (p : ServicePort) (servicePort : UInt16) : UInt16 :=
  match p.targetPort with
  | some (.inl n) => n.toUInt32.toUInt16
  | _ => servicePort

def storeServicePort (key : NamespacedName) (store : ConfigStore) (p : ServicePort) : ConfigStore :=
  match p.number with
  | none => store
  | some number =>
    let k : ServiceKey := ⟨key.namespaceName, key.name, number⟩
    { store with
      servicePortMap := store.servicePortMap.insert k (p.target number)
      serviceAppProtocols := match p.appProtocol with
        | some protocol => store.serviceAppProtocols.insert k protocol
        | none => store.serviceAppProtocols.erase k
      servicePortNames := match p.name with
        | some name =>
          if name.isEmpty then store.servicePortNames else store.servicePortNames.insert k name
        | none => store.servicePortNames }

def storeService (store : ConfigStore) (key : NamespacedName) (ports : List ServicePort) :
    ConfigStore :=
  let current := ports.filterMap (·.number)
  let keep (k : ServiceKey) : Bool := !ofService key k || current.contains k.port
  let written := ports.foldl (storeServicePort key) store
  { written with
    servicePortMap := written.servicePortMap.retain keep
    serviceAppProtocols := written.serviceAppProtocols.retain keep
    servicePortNames := written.servicePortNames.retain keep }

/-- The namespace is asked for before the name. -/
def Service.key (svc : Service) : Except ReconcileError NamespacedName :=
  match svc.metadata.namespaceName, svc.metadata.name with
  | none, _ => .error (.missingField "metadata.namespace")
  | some _, none => .error (.missingField "metadata.name")
  | some ns, some name => .ok ⟨ns, name⟩

def reconcileService (svc : Service) (store : ConfigStore) : Except ReconcileError ConfigStore := do
  let key ← svc.key
  if svc.metadata.deletionTimestamp.isSome then pure (forgetService store key)
  else
    match svc.spec with
    | none => pure store
    | some ports => pure (storeService store key ports)

structure ReferenceGrant where
  metadata : ObjectMeta
  grantFrom : List ReferenceGrantFrom
  grantTo : List ReferenceGrantTo

def reconcileReferenceGrant (grant : ReferenceGrant) (store : ConfigStore) :
    Except ReconcileError ConfigStore := do
  let key ← grant.metadata.key
  if grant.metadata.deletionTimestamp.isSome then
    pure { store with referenceGrants := store.referenceGrants.erase key }
  else
    pure { store with referenceGrants :=
      store.referenceGrants.insert key ⟨key.namespaceName, grant.grantFrom, grant.grantTo⟩ }

structure Namespace where
  name : Option String
  deletionTimestamp : Option Int := none
  labels : Option (Table String String) := none

def reconcileNamespace (ns : Namespace) (store : ConfigStore) :
    Except ReconcileError ConfigStore :=
  match ns.name with
  | none => .error (.missingField "metadata.name")
  | some name =>
    if ns.deletionTimestamp.isSome then
      .ok { store with namespaceLabels := store.namespaceLabels.erase name }
    else .ok { store with namespaceLabels := store.namespaceLabels.insert name (ns.labels.getD ∅) }

/-- `s'` is `s` but for the ports kept for the Service. -/
def ChangesService (key : NamespacedName) (s s' : ConfigStore) : Prop :=
  ∃ ports protocols names,
    s' = { s with servicePortMap := ports, serviceAppProtocols := protocols,
                  servicePortNames := names } ∧
    ∀ k, ofService key k = false → (k ∈ ports.keys ↔ k ∈ s.servicePortMap.keys)

namespace ChangesService

variable {key : NamespacedName} {s s' s'' : ConfigStore}

theorem refl (key : NamespacedName) (s : ConfigStore) : ChangesService key s s :=
  ⟨_, _, _, rfl, fun _ _ => Iff.rfl⟩

theorem trans (h : ChangesService key s s') (h' : ChangesService key s' s'') :
    ChangesService key s s'' := by
  obtain ⟨ports, protocols, names, rfl, hport⟩ := h
  obtain ⟨ports', protocols', names', rfl, hports'⟩ := h'
  exact ⟨ports', protocols', names', rfl, fun k hk => (hports' k hk).trans (hport k hk)⟩

theorem retain (hke : ∀ k, ofService key k = false → keep k = true) : ChangesService key s
      { s with
        servicePortMap := s.servicePortMap.retain keep
        serviceAppProtocols := s.serviceAppProtocols.retain keep
        servicePortNames := s.servicePortNames.retain keep } := by
  refine ⟨_, _, _, rfl, fun k hk => ?_⟩
  rw [Table.mem_keys_retain]
  exact and_iff_left (hke k hk)

end ChangesService

section

variable (key : NamespacedName) (store : ConfigStore)

theorem changesService_storeServicePort : ChangesService key store (storeServicePort key store p) := by
  unfold storeServicePort
  split
  next => exact .refl key store
  next number _ =>
    refine ⟨_, _, _, rfl, fun k hk => ?_⟩
    have hne : k ≠ ⟨key.namespaceName, key.name, number⟩ := by
      rintro rfl
      simp [ofService] at hk
    simp [hne]

theorem changesService_storeService : ChangesService key store (storeService store key ports) := by
  have hw (s : ConfigStore) : ChangesService key s (ports.foldl (storeServicePort key) s) := by
    induction ports generalizing s with
    | nil => exact .refl key s
    | cons p ports ih =>
      exact (changesService_storeServicePort key s).trans (ih (storeServicePort key s p))
  refine (hw store).trans (.retain fun k hk => ?_)
  simp [hk]

theorem changesService_forgetService : ChangesService key store (forgetService store key) := by
  refine .retain fun k hk => ?_
  simp [hk]

end

end Portus.Reconcilers

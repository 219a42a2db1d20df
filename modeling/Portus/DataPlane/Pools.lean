import Mathlib.Data.List.Dedup
import Mathlib.Data.List.Sort
import Portus.Lib.SocketAddr
import Portus.Proto

/-!
# Endpoint pools of the data plane

`build_lb_map_from_proto`: every endpoint group of a received configuration
becomes a pool under its Service name and port. A group whose signature did not
change keeps the pool of the previous snapshot; a group none of whose endpoints is
an address is skipped, and a later group of the same name and port replaces an
earlier one.
-/

namespace Portus.DataPlane

open Portus Lib Proto

abbrev Slot := String × UInt16

/-- The hash behind pool signatures, over the sorted endpoints and the health check. -/
abbrev LbHash := List (String × UInt32) → Option HealthCheckConfig → UInt64

structure HealthCheck where
  host : String
  path : String
  timeoutSecs : UInt32
  consecutiveSuccess : UInt32
  consecutiveFailure : UInt32
deriving DecidableEq

structure Pool where
  addrs : List SocketAddr
  healthCheck : Option HealthCheck
deriving DecidableEq

/-- Sorted by address, duplicates removed. -/
def Pool.new (addrs : List SocketAddr) (healthCheck : Option HealthCheck) : Pool :=
  ⟨addrs.dedup.insertionSort fun a b => ¬ b.sortKey < a.sortKey, healthCheck⟩

def endpointAddr (ep : BackendEndpoint) : Option SocketAddr :=
  SocketAddr.parse (ep.address ++ ":" ++ toString ep.port.toNat)

def addrsOf (endpoints : List BackendEndpoint) : List SocketAddr := endpoints.filterMap endpointAddr

/-- The pools of a snapshot with the signatures they were built from. -/
structure LbState where
  lbs : Table Slot Pool := ∅
  lbSignatures : Table Slot UInt64 := ∅

def slotOfGroup (group : BackendGroup) : Slot := (group.serviceName, group.port.toUInt16)

/-- The signature of a group: its endpoints as a sorted set, and its health check. -/
def lbSignature (hash : LbHash) (group : BackendGroup) : UInt64 :=
  hash (((group.endpoints.map fun ep => (ep.address, ep.port)).dedup).insertionSort fun a b =>
    a.1 < b.1 ∨ (a.1 = b.1 ∧ a.2 ≤ b.2)) group.healthCheck

def freshPool (group : BackendGroup) : Option Pool :=
  if (addrsOf group.endpoints).isEmpty then none
  else some <| Pool.new (addrsOf group.endpoints) <| group.healthCheck.map fun hc =>
    { host := group.serviceName
      path := if hc.path.isEmpty then "/" else hc.path
      timeoutSecs := max hc.timeoutSecs 1
      consecutiveSuccess := max hc.healthyThreshold 1
      consecutiveFailure := max hc.unhealthyThreshold 1 }

/-- The pool a group gets: the previous one under an unchanged signature, else a new one. -/
def poolOfGroup (hash : LbHash) (existing : LbState) (group : BackendGroup) : Option Pool :=
  let reused :=
    if existing.lbSignatures.lookup (slotOfGroup group) = some (lbSignature hash group) then
      existing.lbs.lookup (slotOfGroup group)
    else none
  reused.or (freshPool group)

def LbState.add (hash : LbHash) (existing acc : LbState) (group : BackendGroup) : LbState :=
  match poolOfGroup hash existing group with
  | some pool =>
    { lbs := acc.lbs.insert (slotOfGroup group) pool
      lbSignatures := acc.lbSignatures.insert (slotOfGroup group) (lbSignature hash group) }
  | none => acc

def buildLbMapFromProto (hash : LbHash) (existing : LbState) (backends : List BackendGroup) :
    LbState :=
  backends.foldl (LbState.add hash existing) {}

theorem lbs_foldl_add (hash : LbHash) (backends : List BackendGroup) :
    (backends.foldl (LbState.add hash existing) acc).lbs =
      (backends.filterMap fun g => (poolOfGroup hash existing g).map (slotOfGroup g, ·)).foldl
        (fun t e => t.insert e.1 e.2) acc.lbs := by
  induction backends generalizing acc with
  | nil => rfl
  | cons g gs ih =>
    rw [List.foldl_cons, ih, LbState.add]
    cases h : poolOfGroup hash existing g with
    | none | some pool => simp [h]

/-- A previous pool under an equal signature is the pool the group would build: signatures tell
the endpoint sets of the two snapshots apart. -/
def PriorAgrees (hash : LbHash) (existing : LbState) (backends : List BackendGroup) : Prop :=
  ∀ g ∈ backends, ∀ pool, existing.lbSignatures.lookup (slotOfGroup g) = some (lbSignature hash g) →
      existing.lbs.lookup (slotOfGroup g) = some pool → freshPool g = some pool

theorem priorAgrees_empty (hash : LbHash) (backends : List BackendGroup) :
    PriorAgrees hash {} backends := by
  intro g _ pool h
  cases h

theorem poolOfGroup_eq_freshPool {hash : LbHash} (h : PriorAgrees hash existing backends)
    (hg : g ∈ backends) : poolOfGroup hash existing g = freshPool g := by
  unfold poolOfGroup
  split
  next hs =>
    cases hp : existing.lbs.lookup (slotOfGroup g) with
    | none => rfl
    | some pool => exact (h g hg pool hs hp).symm
  next => rfl

def freshEntries (backends : List BackendGroup) : List (Slot × Pool) :=
  backends.filterMap fun g => (freshPool g).map (slotOfGroup g, ·)

theorem lookup_buildLbMapFromProto {hash : LbHash} (h : PriorAgrees hash existing backends)
    (slot : Slot) :
    (buildLbMapFromProto hash existing backends).lbs.lookup slot =
      (Table.collect (freshEntries backends)).lookup slot := by
  rw [buildLbMapFromProto, lbs_foldl_add]
  congr 2
  exact List.filterMap_congr fun g hg => by rw [poolOfGroup_eq_freshPool h hg]

theorem freshPool_eq_some (h : freshPool g = some pool) :
    addrsOf g.endpoints ≠ [] ∧ ∀ a, a ∈ pool.addrs ↔ a ∈ addrsOf g.endpoints := by
  unfold freshPool at h
  split at h
  next => cases h
  next hne =>
    cases h
    refine ⟨?_, fun a => by rw [Pool.new, List.mem_insertionSort, List.mem_dedup]⟩
    intro he
    rw [he] at hne
    exact hne rfl

theorem freshPool_isSome (h : addrsOf g.endpoints ≠ []) : ∃ pool, freshPool g = some pool := by
  rw [freshPool, if_neg (by simpa using h)]
  exact ⟨_, rfl⟩

end Portus.DataPlane

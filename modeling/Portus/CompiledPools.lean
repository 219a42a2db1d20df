import Portus.Compiler.Backends
import Portus.DataPlane.Pools

/-!
# The pools of a compiled store

The controller's endpoint groups put through the data plane's pool map. A pool that
is found under a name and port was built from some referenced Service port of that
name and port (`exists_of_lookup_poolsOf`), and every such Service port with an
address is the one found for some order of the groups (`exists_order_lookup_poolsOf`).
-/

namespace Portus

open Lib Proto Compiler DataPlane

def slotOf (k : ServiceKey) : Slot := (k.name, k.port)

def poolsOf (hash : LbHash) (prior : LbState) (order : IterOrder ServiceKey) (store : ConfigStore) :
    Table Slot Pool :=
  (buildLbMapFromProto hash prior (compileConfig order store).backends).lbs

variable {store : ConfigStore} {order : IterOrder ServiceKey} {prior : LbState} {k : ServiceKey}
  {slot : Slot} {pool : Pool}

theorem slotOfGroup_backendGroup :
    slotOfGroup (backendGroup store k) = slotOf k := by
  simp [slotOfGroup, backendGroup, slotOf]

theorem exists_of_lookup_poolsOf {hash : LbHash}
    (h : PriorAgrees hash prior (compileConfig order store).backends)
    (hp : (poolsOf hash prior order store).lookup slot = some pool) :
    ∃ k, Referenced store k ∧ slotOf k = slot ∧ freshPool (backendGroup store k) = some pool := by
  rw [poolsOf, lookup_buildLbMapFromProto h] at hp
  obtain ⟨g, hg, hgp⟩ := List.mem_filterMap.1 (Table.lookup_collect_eq_some hp)
  obtain ⟨k, hk, rfl⟩ := List.mem_map.1 hg
  obtain ⟨pool', hf, heq⟩ := Option.map_eq_some_iff.1 hgp
  cases heq
  exact ⟨k, mem_backendKeys.1 (order.mem_order.1 hk), slotOfGroup_backendGroup.symm, hf⟩

theorem lookup_poolsOf_eq_none {hash : LbHash}
    (h : PriorAgrees hash prior (compileConfig order store).backends) :
    (poolsOf hash prior order store).lookup slot = none ↔
      ∀ k, Referenced store k → slotOf k = slot → addrsOf (endpointsOf store k) = [] := by
  constructor
  · intro hn k hk hs
    by_contra hne
    obtain ⟨pool, hpool⟩ := freshPool_isSome (g := backendGroup store k) hne
    rw [poolsOf, lookup_buildLbMapFromProto h, Table.lookup_collect_eq_none] at hn
    refine hn pool (List.mem_filterMap.2 ⟨backendGroup store k, ?_, ?_⟩)
    · exact List.mem_map_of_mem (order.mem_order.2 (mem_backendKeys.2 hk))
    · rw [hpool, slotOfGroup_backendGroup, hs]
      rfl
  · intro hall
    by_contra hne
    obtain ⟨pool, hp⟩ := Option.ne_none_iff_exists'.1 hne
    obtain ⟨k, hk, hs, hf⟩ := exists_of_lookup_poolsOf h hp
    exact (freshPool_eq_some hf).1 (hall k hk hs)

theorem exists_order_lookup_poolsOf (hk : Referenced store k)
    (hp : freshPool (backendGroup store k) = some pool) (hash : LbHash) :
    (poolsOf hash {} (.endingIn k) store).lookup (slotOf k) = some pool := by
  rw [poolsOf, lookup_buildLbMapFromProto (priorAgrees_empty _ _)]
  have hb : (compileConfig (.endingIn k) store).backends =
      ((backendKeys store).erase k).map (backendGroup store) ++ [backendGroup store k] := by
    rw [compileConfig, IterOrder.order_endingIn (mem_backendKeys.2 hk), List.map_append]
    rfl
  have hl : freshEntries [backendGroup store k] = [(slotOf k, pool)] := by
    simp [freshEntries, hp, slotOfGroup_backendGroup]
  rw [hb, freshEntries, List.filterMap_append, ← freshEntries, ← freshEntries, hl]
  exact Table.lookup_collect_append (by simp)

theorem forall_addrs_poolsOf_iff {Q : SocketAddr → Prop} :
    (∀ (hash : LbHash) (prior : LbState) (order : IterOrder ServiceKey) (pool : Pool),
      PriorAgrees hash prior (compileConfig order store).backends →
        (poolsOf hash prior order store).lookup slot = some pool → ∀ a ∈ pool.addrs, Q a) ↔
      ∀ k, Referenced store k → slotOf k = slot → ∀ a ∈ addrsOf (endpointsOf store k), Q a := by
  constructor
  · rintro h k hk rfl a ha
    obtain ⟨pool, hpo⟩ := freshPool_isSome (g := backendGroup store k) (List.ne_nil_of_mem ha)
    exact h (fun _ _ => 0) {} _ pool (priorAgrees_empty _ _) (exists_order_lookup_poolsOf hk hpo _)
      a (((freshPool_eq_some hpo).2 a).2 ha)
  · intro h hash prior order pool hpr hp a ha
    obtain ⟨k, hk, hs, hf⟩ := exists_of_lookup_poolsOf hpr hp
    exact h k hk hs a (((freshPool_eq_some hf).2 a).1 ha)

end Portus

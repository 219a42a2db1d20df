import Portus.Compiler.Ties
import Portus.Lib.Choice

/-!
# The winner of a TCP or UDP listener

Of the routes on one listener the oldest is to be programmed, and of equally old ones the first by
namespace and name. `compile_l4_routes` compares the name alone; routes of one name keep the order
of the map they come from.
-/

namespace Portus.StreamWinners

open Lib Proto Compiler List Option

abbrev Route := NamespacedName × L4RouteState

/-- By age, routes without a timestamp last, then by namespace and name. -/
abbrev precedence : Route → Route → Ordering :=
  compareLex (compareOn fun x => x.2.creationTimestamp.isNone) <|
    compareLex (compareOn fun x => x.2.creationTimestamp) <|
      compareLex (compareOn fun x => x.1.namespaceName) (compareOn fun x => x.1.name)

section Winner

variable (store : ConfigStore) (protocol : String) (table : Table NamespacedName L4RouteState)
  (listenerKey : String × String × String)

def FirstOn (x : Route) : Prop :=
  x ∈ table.pairs ∧ (candidateOn store protocol listenerKey x).isSome ∧
    ∀ y ∈ table.pairs, (candidateOn store protocol listenerKey y).isSome → (precedence x y).isLE

def entryOf (x : Route) : Option L4ProxyRoute :=
  (candidateOn store protocol listenerKey x).bind (·.entry)

/-- In every order of the routes. -/
structure OneWinner : Prop where
  single : ∀ t, table.Reordered t → (compileL4Routes store protocol t.pairs).Pairwise fun e e' =>
    (e.gatewayNamespace, e.gatewayName, e.listenerName) ≠
      (e'.gatewayNamespace, e'.gatewayName, e'.listenerName)
  first : ∀ t, table.Reordered t → ∀ lk x, FirstOn store protocol table lk x → ∀ e,
    (e ∈ compileL4Routes store protocol t.pairs ∧
      (e.gatewayNamespace, e.gatewayName, e.listenerName) = lk) ↔
        entryOf store protocol lk x = some e
  stable : ∀ t, table.Reordered t →
    (compileL4Routes store protocol table.pairs).Perm (compileL4Routes store protocol t.pairs)

/-- What no route on the listener precedes by age and name has the entry of the first route. -/
def NamesDecide : Prop :=
  ∀ lk x y, FirstOn store protocol table lk x → y ∈ table.pairs →
    mayHold store protocol table.pairs lk y = true →
    entryOf store protocol lk y = entryOf store protocol lk x

variable {store protocol table listenerKey}

theorem exists_firstOn (hx : x ∈ table.pairs)
    (hc : (candidateOn store protocol listenerKey x).isSome) :
    ∃ w, FirstOn store protocol table listenerKey w := by
  have hm : x ∈ table.pairs.filter fun x => (candidateOn store protocol listenerKey x).isSome :=
    mem_filter.2 ⟨hx, hc⟩
  obtain ⟨a, l, hl⟩ := exists_cons_of_ne_nil (ne_nil_of_mem hm)
  let wins (a b : Route) : Bool := (precedence a b).isLE
  have ht (a b : Route) : wins a b = true ∨ wins b a = true := by
    have hs : precedence b a = (precedence a b).swap := Std.OrientedCmp.eq_swap
    dsimp only [wins]
    rw [hs]
    cases precedence a b <;> decide
  have hm := keepBest_mem wins a l
  rw [← hl] at hm
  refine ⟨_, (mem_filter.1 hm).1, (mem_filter.1 hm).2, fun y hy hs => ?_⟩
  refine keepBest_wins ht (fun _ _ _ => Std.TransCmp.isLE_trans) a l y ?_
  rw [← hl]
  exact mem_filter.2 ⟨hy, hs⟩

theorem candidateOn_of_mayHold (h : mayHold store protocol routes listenerKey x = true) :
    (candidateOn store protocol listenerKey x).isSome := by
  cases hc : candidateOn store protocol listenerKey x with
  | none => simp [mayHold, hc] at h
  | some c => rfl

theorem entryOn_of_first (h : NamesDecide store protocol table) (ht : table.Reordered t)
    (hx : FirstOn store protocol table listenerKey x) :
    entryOn store protocol t.pairs listenerKey = entryOf store protocol listenerKey x := by
  rw [entryOn, oldestOn_eq_find?, mayHold_perm ht.pairs]
  cases hf : t.pairs.find? (mayHold store protocol table.pairs listenerKey) with
  | some y => exact h _ x y hx (ht.pairs.mem_iff.2 (mem_of_find?_eq_some hf)) (find?_some hf)
  | none =>
    have ho : oldestOn store protocol t.pairs listenerKey = none := by
      rw [oldestOn_eq_find?, mayHold_perm ht.pairs, hf]
      rfl
    obtain ⟨c, hc⟩ := isSome_iff_exists.1 hx.2.1
    refine absurd (by simpa using find?_some hc) (oldestOn_eq_none.1 ho c ?_)
    rw [l4Candidates_eq_flatMap]
    exact mem_flatMap.2 ⟨x, ht.pairs.mem_iff.1 hx.1, mem_of_find?_eq_some hc⟩

end Winner

theorem oneWinner_iff (store : ConfigStore) (protocol : String)
    (table : Table NamespacedName L4RouteState) :
    OneWinner store protocol table ↔ NamesDecide store protocol table := by
  have hem (t : Table NamespacedName L4RouteState) (lk : String × String × String)
      (e : L4ProxyRoute) : (e ∈ compileL4Routes store protocol t.pairs ∧
        (e.gatewayNamespace, e.gatewayName, e.listenerName) = lk) ↔
        entryOn store protocol t.pairs lk = some e := by
    rw [mem_compileL4Routes]
    exact ⟨fun h => h.2 ▸ h.1, fun h =>
      have hk := listenerKey_of_entryOn h
      ⟨hk ▸ h, hk⟩⟩
  constructor
  · intro h lk x y hx hy hh
    obtain ⟨t, ht, he⟩ := exists_entryOn hy hh
    refine Option.ext fun e => ?_
    rw [← h.first t ht lk x hx e, hem, he]
    rfl
  · intro h
    refine ⟨fun t _ => ?_, fun t ht lk x hx e => ?_, fun t ht => ?_⟩
    · exact pairwise_filterMap.2 ((pairwise_dedupByListener (pairwise_sorted _ _ _)).imp
        fun hne e he e' he' heq => hne (by
          rw [← listenerKey_of_entry he, ← listenerKey_of_entry he', heq]))
    · rw [hem, entryOn_of_first h ht hx]
    · refine compileL4Routes_perm.2 (entryOn_perm ht.pairs fun lk x hx y hy hhx hhy => ?_).symm
      obtain ⟨w, hw⟩ := exists_firstOn hx (candidateOn_of_mayHold hhx)
      exact (h lk w x hw hx hhx).trans (h lk w y hw hy hhy).symm

def dbRoute (ns : String) : L4RouteState where
  namespaceName := ns
  parentRefs := [{ gatewayNamespace := "infra", gatewayName := "gw", accepted := true }]
  backendRefs := [{ namespaceName := ns, name := ns, port := 5432 }]

def dbStore : ConfigStore :=
  { gateways := (∅ : Table _ _).insert ⟨"infra", "gw"⟩
      { name := "gw", namespaceName := "infra"
        listeners := [{ name := "db", port := 5432, protocol := "TCP" }] } }

/-- Two routes of one name and no timestamp, that of the second namespace walked first. -/
def dbRoutes : Table NamespacedName L4RouteState :=
  .collect [(⟨"a", "db"⟩, dbRoute "a"), (⟨"b", "db"⟩, dbRoute "b")]

theorem second_namespace_wins : ¬ OneWinner dbStore "TCP" dbRoutes := by
  intro h
  have hf : FirstOn dbStore "TCP" dbRoutes ("infra", "gw", "db") (⟨"a", "db"⟩, dbRoute "a") := by
    refine ⟨?_, rfl, by decide⟩
    exact mem_cons_of_mem _ mem_cons_self
  have he := (h.first dbRoutes (.refl _) _ _ hf _).2 rfl
  have hm : "a" ∈ (compileL4Routes dbStore "TCP" dbRoutes.pairs).map (·.backendService) :=
    mem_map_of_mem he.1
  revert hm
  decide +kernel

end Portus.StreamWinners

import Mathlib.Data.List.AList
import Mathlib.Data.List.Induction
import Mathlib.Data.List.Perm.Basic

/-!
# Keyed tables and their iteration order

A hash map as a program sees it: unique keys, a value under each, and some
order in which an iterator visits the entries. `Table κ β` is Mathlib's `AList`
at a constant value type; the order of its entries is the order the iterator
uses, so a statement about every table is a statement about every order.
-/

namespace Portus.Lib

open List AList

/-- A map with unique keys whose entries stand in iteration order. -/
abbrev Table (κ β : Type) := AList fun _ : κ => β

namespace Table

variable {κ β γ : Type}

def pairs (t : Table κ β) : List (κ × β) := t.entries.map fun e => (e.1, e.2)

def values (t : Table κ β) : List β := t.entries.map fun e => e.2

theorem values_eq_pairs (t : Table κ β) : t.values = t.pairs.map (·.2) := by
  simp [values, pairs, map_map, Function.comp_def]

section Lookup

variable [DecidableEq κ]

theorem mem_pairs {t : Table κ β} : (k, v) ∈ t.pairs ↔ t.lookup k = some v := by
  rw [← Option.mem_def, mem_lookup_iff]
  constructor
  · intro h
    obtain ⟨⟨k', v'⟩, he, heq⟩ := mem_map.1 h
    cases heq
    exact he
  · intro h
    exact mem_map.2 ⟨⟨k, v⟩, h, rfl⟩

theorem mem_values {t : Table κ β} : v ∈ t.values ↔ ∃ k, t.lookup k = some v := by
  rw [values_eq_pairs, mem_map]
  constructor
  · rintro ⟨⟨k, v⟩, h, rfl⟩
    exact ⟨k, mem_pairs.1 h⟩
  · rintro ⟨k, h⟩
    exact ⟨(k, v), mem_pairs.2 h, rfl⟩

theorem lookup_insert_apply (t : Table κ β) (key k : κ) (v : β) :
    (t.insert key v).lookup k = if k = key then some v else t.lookup k := by
  split
  next h => rw [h, lookup_insert]
  next h => rw [lookup_insert_ne h]

theorem lookup_erase_apply (t : Table κ β) (key k : κ) :
    (t.erase key).lookup k = if k = key then none else t.lookup k := by
  split
  next h => rw [h, lookup_erase]
  next h => rw [lookup_erase_ne h]

theorem lookup_erase_eq_some {t : Table κ β} :
    (t.erase key).lookup k = some v ↔ k ≠ key ∧ t.lookup k = some v := by
  rw [lookup_erase_apply]
  by_cases h : k = key <;> simp [h]

def collect (l : List (κ × β)) : Table κ β := l.foldl (fun t e => t.insert e.1 e.2) ∅

theorem lookup_collect (l : List (κ × β)) (k : κ) :
    (collect l).lookup k = ((l.filter (·.1 = k)).getLast?).map (·.2) := by
  unfold collect
  induction l using List.reverseRecOn with
  | nil => rfl
  | append_singleton l e ih =>
    rw [foldl_append, foldl_cons, foldl_nil]
    by_cases h : e.1 = k
    · subst h
      simp [lookup_insert]
    · rw [lookup_insert_ne (Ne.symm h), ih]
      simp [h]

theorem lookup_collect_eq_some {k : κ} (h : (collect l).lookup k = some v) : (k, v) ∈ l := by
  rw [lookup_collect, Option.map_eq_some_iff] at h
  obtain ⟨⟨k', v'⟩, hl, rfl⟩ := h
  have hm := mem_of_getLast? hl
  rw [mem_filter] at hm
  obtain ⟨hm, hk⟩ := hm
  simp only [decide_eq_true_eq] at hk
  exact hk ▸ hm

theorem lookup_collect_eq_none {k : κ} : (collect l).lookup k = none ↔ ∀ v, (k, v) ∉ l := by
  rw [lookup_collect, Option.map_eq_none_iff, getLast?_eq_none_iff, filter_eq_nil_iff]
  constructor
  · intro h v hm
    simpa using h _ hm
  · rintro h ⟨k', v⟩ hm heq
    simp only [decide_eq_true_eq] at heq
    exact h v (heq ▸ hm)

theorem lookup_collect_append {k : κ} (h : ∀ v', (k, v') ∉ r) :
    (collect (l ++ (k, v) :: r)).lookup k = some v := by
  have hr : r.filter (·.1 = k) = [] := by
    rw [filter_eq_nil_iff]
    rintro ⟨k', v'⟩ hm heq
    simp only [decide_eq_true_eq] at heq
    exact h v' (heq ▸ hm)
  rw [lookup_collect, filter_append, filter_cons, hr]
  simp

theorem lookup_collect_map {α : Type} {f : α → κ} {g : α → β} {l : List α}
    (h : (l.map f).Nodup) (k : κ) :
    (collect (l.map fun a => (f a, g a))).lookup k = (l.find? (f · = k)).map g := by
  cases hf : l.find? (f · = k) with
  | none =>
    refine lookup_collect_eq_none.2 fun v hv => ?_
    obtain ⟨a, ha, heq⟩ := mem_map.1 hv
    exact find?_eq_none.1 hf a ha (decide_eq_true (Prod.mk.inj heq).1)
  | some a =>
    obtain ⟨l₁, l₂, rfl⟩ := append_of_mem (mem_of_find?_eq_some hf)
    have hk := find?_some hf
    obtain rfl : f a = k := of_decide_eq_true hk
    rw [map_append]
    refine lookup_collect_append fun v hv => ?_
    obtain ⟨b, hb, heq⟩ := mem_map.1 hv
    rw [map_append] at h
    have hn := (nodup_cons.1 (nodup_append.1 h).2.1).1
    exact hn (mem_map.2 ⟨b, hb, (Prod.mk.inj heq).1⟩)

theorem lookup_collect_filter {α : Type} {f : α → Option (κ × β)} {keep : α → Bool} {l : List α}
    (h : ∀ a ∈ l, ∀ v, f a = some (k, v) → keep a = true) :
    (collect ((l.filter keep).filterMap f)).lookup k = (collect (l.filterMap f)).lookup k := by
  have hke : ((l.filter keep).filterMap f).filter (·.1 = k) = (l.filterMap f).filter (·.1 = k) := by
    induction l with
    | nil => rfl
    | cons a l ih =>
      have ih := ih fun a' ha' => h a' (mem_cons_of_mem _ ha')
      rw [filter_cons, filterMap_cons]
      cases hf : f a with
      | none =>
        split
        next => simpa [hf] using ih
        next => simpa using ih
      | some e =>
        obtain ⟨k', v⟩ := e
        by_cases hk : k' = k
        · subst hk
          simpa [h a mem_cons_self v hf, hf] using ih
        · split
          next => simpa [hf, hk] using ih
          next => simpa [hk] using ih
  rw [lookup_collect, lookup_collect, hke]

def group {α : Type} (f : α → κ) (l : List α) : Table κ (List α) :=
  l.foldl (fun t a => t.insert (f a) ((t.lookup (f a)).getD [] ++ [a])) ∅

theorem lookup_foldl_insert {α : Type} (key : α → κ) (init : κ → β) (step : β → α → β) (l : List α)
    (k : κ) :
    (l.foldl (fun t a => t.insert (key a) (step ((t.lookup (key a)).getD (init (key a))) a))
      (∅ : Table κ β)).lookup k =
      if l.filter (key · = k) = [] then none
      else some ((l.filter (key · = k)).foldl step (init k)) := by
  induction l using List.reverseRecOn with
  | nil => rfl
  | append_singleton l a ih =>
    rw [foldl_append, foldl_cons, foldl_nil]
    by_cases h : key a = k
    · subst h
      rw [lookup_insert, ih]
      by_cases hn : l.filter (key · = key a) = [] <;> simp [hn]
    · rw [lookup_insert_ne (Ne.symm h), ih]
      simp [h]

theorem lookup_group {α : Type} (f : α → κ) (l : List α) (k : κ) : (group f l).lookup k =
      if l.filter (f · = k) = [] then none else some (l.filter (f · = k)) := by
  refine (lookup_foldl_insert f (fun _ => []) (fun l a => l ++ [a]) l k).trans ?_
  simp [← flatMap_def]

theorem getD_lookup_group {α : Type} (f : α → κ) (l : List α) (k : κ) :
    ((group f l).lookup k).getD [] = l.filter (f · = k) := by
  rw [lookup_group]
  split
  next h => exact h.symm
  next => rfl

theorem mem_flatten_values_group {α : Type} {f : α → κ} {l : List α} {a : α} :
    a ∈ (group f l).values.flatten ↔ a ∈ l := by
  simp only [mem_flatten, mem_values, lookup_group]
  constructor
  · rintro ⟨as, ⟨k, hk⟩, ha⟩
    split at hk
    next => cases hk
    next =>
      cases hk
      exact mem_of_mem_filter ha
  · intro ha
    have hm : a ∈ l.filter (f · = f a) := mem_filter.2 ⟨ha, by simp⟩
    exact ⟨_, ⟨f a, if_neg (ne_nil_of_mem hm)⟩, hm⟩

theorem mem_keys_group {α : Type} {f : α → κ} {l : List α} :
    k ∈ (group f l).keys ↔ ∃ a ∈ l, f a = k := by
  rw [← AList.mem_keys, ← lookup_isSome, lookup_group]
  simp

def mapValues (f : β → γ) (t : Table κ β) : Table κ γ :=
  ⟨t.entries.map fun e => ⟨e.1, f e.2⟩, List.NodupKeys.map₂ (fun _ => f) t.entries t.nodupKeys⟩

theorem lookup_mapValues (f : β → γ) (t : Table κ β) (k : κ) :
    (mapValues f t).lookup k = (t.lookup k).map f :=
  dlookup_map₂ (f := fun _ => f) k

end Lookup

def retain (keep : κ → Bool) (t : Table κ β) : Table κ β :=
  ⟨t.entries.filter fun e => keep e.1, t.nodupKeys.sublist filter_sublist⟩

theorem mem_keys_retain : k ∈ (retain keep t).keys ↔ k ∈ t.keys ∧ keep k = true := by
  simp only [AList.keys, retain, List.keys, mem_map, mem_filter]
  constructor
  · rintro ⟨e, ⟨he, hk⟩, rfl⟩
    exact ⟨⟨e, he, rfl⟩, hk⟩
  · rintro ⟨⟨e, he, rfl⟩, hk⟩
    exact ⟨e, ⟨he, hk⟩, rfl⟩

end Table

/-- How a hash set given by its insertions is walked: some permutation of it. -/
structure IterOrder (α : Type) where
  order : List α → List α
  perm : ∀ l, (order l).Perm l

namespace IterOrder

variable {α : Type}

theorem mem_order (o : IterOrder α) : a ∈ o.order l ↔ a ∈ l :=
  (o.perm l).mem_iff

def insertion : IterOrder α := ⟨id, fun _ => .refl _⟩

/-- The insertion order with `a`, where it occurs, moved to the end. -/
def endingIn [DecidableEq α] (a : α) : IterOrder α where
  order l := if a ∈ l then l.erase a ++ [a] else l
  perm l := by
    split
    next h => exact (perm_append_singleton _ _).trans (perm_cons_erase h).symm
    next => exact .refl _

theorem order_endingIn [DecidableEq α] {l : List α} (h : a ∈ l) :
    (endingIn a).order l = l.erase a ++ [a] := by
  simp [endingIn, h]

/-- The insertion order with `a`, where it occurs, moved to the front. -/
def startingWith [DecidableEq α] (a : α) : IterOrder α where
  order l := if a ∈ l then a :: l.erase a else l
  perm l := by
    split
    next h => exact (perm_cons_erase h).symm
    next => exact .refl _

theorem order_startingWith [DecidableEq α] {l : List α} (h : a ∈ l) :
    (startingWith a).order l = a :: l.erase a := by
  simp [startingWith, h]

end IterOrder

end Portus.Lib

import Mathlib.Data.Nat.Periodic
import Mathlib.Data.List.Basic
import Mathlib.Data.UInt

/-!
# Choosing from a list

`keepBest` walks a list and replaces the element it holds when that one does not win
against the next; for a total and transitive order the result wins against all.

`pickFrom` walks a list and stops at the element whose cumulative weight passes an
index; an element owns as many indices as its weight.

`weightedChoice` is the selection with a 32-bit total: the counter is reduced modulo
the wrapped sum of the weights, so when the sum wraps the elements behind the
wrapped total are never chosen (`exists_weightedChoice_iff`).
-/

namespace Portus.Lib

open List Nat

variable {α β : Type}

/-- Hold `w`, and take the next element whenever the one held does not win against it. -/
def keepBest (wins : α → α → Bool) (w : α) (l : List α) : α :=
  l.foldl (fun w a => if wins w a then w else a) w

theorem keepBest_mem (wins : α → α → Bool) (w : α) (l : List α) : keepBest wins w l ∈ w :: l := by
  induction l generalizing w with
  | nil => exact mem_singleton.2 rfl
  | cons a l ih =>
    rw [keepBest, foldl_cons, ← keepBest]
    split
    · rcases mem_cons.1 (ih w) with h | h
      · rw [h]
        exact mem_cons_self
      · exact mem_cons_of_mem _ (mem_cons_of_mem _ h)
    · exact mem_cons_of_mem _ (ih a)

theorem keepBest_wins {wins : α → α → Bool} (total : ∀ a b, wins a b = true ∨ wins b a = true)
    (trans : ∀ a b c, wins a b = true → wins b c = true → wins a c = true) (w : α) (l : List α) :
    ∀ a ∈ w :: l, wins (keepBest wins w l) a = true := by
  have refl (a : α) : wins a a = true := (total a a).elim id id
  induction l generalizing w with
  | nil =>
    intro a ha
    rw [mem_singleton.1 ha]
    exact refl w
  | cons b l ih =>
    rw [keepBest, foldl_cons]
    intro a ha
    split
    next hw =>
      rcases mem_cons.1 ha with rfl | ha
      · exact ih a a mem_cons_self
      · rcases mem_cons.1 ha with rfl | ha
        · exact trans _ _ _ (ih w w mem_cons_self) hw
        · exact ih w a (mem_cons_of_mem _ ha)
    next hw =>
      rcases mem_cons.1 ha with rfl | ha
      · exact trans _ _ _ (ih b b mem_cons_self) ((total a b).resolve_left hw)
      · exact ih b a ha

/-- The element whose cumulative weight, counted from `acc`, passes `idx`. -/
def pickFrom (weight : α → Nat) (idx : Nat) : Nat → List α → Option α
  | _, [] => none
  | acc, a :: l =>
    if idx < acc + weight a then some a else pickFrom weight idx (acc + weight a) l

theorem pickFrom_map (weight : β → Nat) (f : α → β) (idx acc : Nat) (l : List α) :
    pickFrom weight idx acc (l.map f) = (pickFrom (fun a => weight (f a)) idx acc l).map f := by
  induction l generalizing acc with
  | nil => rfl
  | cons a l ih =>
    simp only [map_cons, pickFrom]
    split
    · rfl
    · exact ih _

theorem pickFrom_eq_some_iff (h : acc ≤ idx) : pickFrom weight idx acc l = some a ↔
      ∃ before after, l = before ++ a :: after ∧ acc + (before.map weight).sum ≤ idx ∧
        idx < acc + (before.map weight).sum + weight a := by
  induction l generalizing acc with
  | nil => simp [pickFrom]
  | cons b l ih =>
    rw [pickFrom]
    split
    next hlt =>
      constructor
      · intro hb
        cases hb
        exact ⟨[], l, rfl, h, hlt⟩
      · rintro ⟨before, after, heq, hle, -⟩
        cases before with
        | nil =>
          cases heq
          rfl
        | cons c before =>
          cases heq
          simp only [map_cons, sum_cons] at hle
          omega
    next hge =>
      rw [ih (by omega)]
      constructor
      · rintro ⟨before, after, rfl, hle, hlt⟩
        refine ⟨b :: before, after, rfl, ?_, ?_⟩ <;>
          simp only [map_cons, sum_cons] <;> omega
      · rintro ⟨before, after, heq, hle, hlt⟩
        cases before with
        | nil =>
          cases heq
          simp at hlt
          omega
        | cons c before =>
          cases heq
          simp only [map_cons, sum_cons] at hle hlt
          exact ⟨before, after, rfl, by omega, by omega⟩

theorem pickFrom_isSome (h : acc ≤ idx) (hlt : idx < acc + (l.map weight).sum) :
    (pickFrom weight idx acc l).isSome := by
  induction l generalizing acc with
  | nil =>
    simp only [map_nil, sum_nil] at hlt
    omega
  | cons a l ih =>
    simp only [map_cons, sum_cons] at hlt
    rw [pickFrom]
    split
    · rfl
    · exact ih (by omega) (by omega)

theorem exists_pickFrom_iff (weight : α → Nat) : (∃ idx < n, pickFrom weight idx 0 l = some a) ↔
      ∃ before after, l = before ++ a :: after ∧ 0 < weight a ∧ (before.map weight).sum < n := by
  constructor
  · rintro ⟨idx, hn, h⟩
    obtain ⟨before, after, hl, hle, hlt⟩ := (pickFrom_eq_some_iff (zero_le _)).1 h
    exact ⟨before, after, hl, by omega, by omega⟩
  · rintro ⟨before, after, hl, hp, hn⟩
    exact ⟨_, hn, (pickFrom_eq_some_iff (zero_le _)).2 ⟨before, after, hl, by omega, by omega⟩⟩

/-- Any run of indices as long as the total weight gives an element as many as it weighs. -/
theorem count_cycle [DecidableEq α] {w : α → Nat} {l : List α} (hl : l.Nodup) (ha : a ∈ l)
    (n : Nat) :
    ((range' n (l.map w).sum).map fun j =>
      pickFrom w (j % (l.map w).sum) 0 l).count (some a) = w a := by
  obtain ⟨total, ht⟩ : ∃ total, (l.map w).sum = total := ⟨_, rfl⟩
  have hp : Function.Periodic (fun j => pickFrom w (j % total) 0 l = some a) total := by
    intro j
    simp
  have hc := filter_Ico_card_eq_of_periodic n total _ hp
  rw [Nat.Ico_eq_range', count_eq_card_filter_range] at hc
  rw [ht, count_eq_countP, countP_map, countP_eq_length_filter]
  refine Eq.trans ?_ (hc.trans ?_)
  · rw [Nat.add_sub_cancel_left]
    exact congrArg length (filter_congr fun j _ => by rw [Bool.eq_iff_iff]; simp)
  obtain ⟨before, after, rfl⟩ := append_of_mem ha
  have hn := nodup_append.1 hl
  have hpi : ∀ idx < total, (pickFrom w (idx % total) 0 (before ++ a :: after) = some a ↔
      idx ∈ Finset.Ico (before.map w).sum ((before.map w).sum + w a)) := by
    intro idx hi
    rw [mod_eq_of_lt hi, pickFrom_eq_some_iff (zero_le _), Finset.mem_Ico]
    simp only [zero_add]
    constructor
    · rintro ⟨before', after', heq, h⟩
      obtain ⟨rfl, -⟩ := (append_cons_inj_of_notMem (fun h => hn.2.2 a h a mem_cons_self rfl)
        (nodup_cons.1 hn.2.1).1).1 heq
      exact h
    · exact fun h => ⟨before, after, rfl, h⟩
  rw [Finset.filter_congr fun idx h => hpi idx (Finset.mem_range.1 h),
    Finset.filter_mem_eq_inter, Finset.inter_eq_right.2, Nat.card_Ico, Nat.add_sub_cancel_left]
  intro idx h
  rw [Finset.mem_Ico] at h
  simp only [map_append, map_cons, List.sum_append, sum_cons] at ht
  exact Finset.mem_range.2 (by omega)

theorem sum_places (w : α → Nat) (l : List α) :
    ((finRange l.length).map fun i => w (l.get i)).sum = (l.map w).sum := by
  conv_rhs => rw [← map_get_finRange l, map_map]
  rfl

/-- `count_cycle` for a list that may hold an element twice, by place. -/
theorem count_places (w : α → Nat) (l : List α) (n : Nat) (i : Fin l.length) :
    ((range' n (l.map w).sum).map fun j => pickFrom (fun i => w (l.get i)) (j % (l.map w).sum) 0
      (finRange l.length)).count (some i) = w (l.get i) := by
  have hc := count_cycle (w := fun i => w (l.get i)) (nodup_finRange _) (mem_finRange i) n
  rwa [sum_places] at hc

theorem toNat_sum_uint32 (l : List UInt32) : l.sum.toNat = (l.map UInt32.toNat).sum % 2 ^ 32 := by
  induction l with
  | nil => rfl
  | cons a l ih =>
    rw [sum_cons, UInt32.toNat_add, ih, map_cons, sum_cons, add_mod_mod]

/-- Round robin over weighted elements, with the counter of the caller: the first element when
the weights sum to zero, and the last one when the walk falls off the end. -/
def weightedChoice (weight : α → UInt32) (l : List α) (counter : UInt64) : Option α :=
  let total := (l.map weight).sum
  if l.isEmpty then none
  else if total = 0 then l.head?
  else (pickFrom (fun a => (weight a).toNat) (counter.toNat % total.toNat) 0 l).or l.getLast?

theorem weightedChoice_map (weight : β → UInt32) (f : α → β) (l : List α) (counter : UInt64) :
    weightedChoice weight (l.map f) counter =
      (weightedChoice (fun a => weight (f a)) l counter).map f := by
  unfold weightedChoice
  simp only [isEmpty_map, map_map, Function.comp_def, head?_map, getLast?_map, pickFrom_map]
  split
  · rfl
  · split
    · rfl
    · rw [Option.map_or]

theorem weightedChoice_eq_none (h : weightedChoice weight l counter = none) : l = [] := by
  unfold weightedChoice at h
  dsimp only at h
  split at h
  next hn => simpa using hn
  next =>
    split at h
    · exact head?_eq_none_iff.1 h
    · exact getLast?_eq_none_iff.1 (Option.or_eq_none_iff.1 h).2

/-- An element gets a share of the requests: the total is not zero modulo 2^32, the element has a
weight and its interval starts below the total; with a zero total the first element gets all. -/
def HasShare (weight : α → UInt32) (l : List α) (a : α) : Prop :=
  let total := (l.map fun a => (weight a).toNat).sum % 2 ^ 32
  (total = 0 ∧ l.head? = some a) ∨ ∃ before after, l = before ++ a :: after ∧ 0 < (weight a).toNat ∧
      (before.map fun a => (weight a).toNat).sum < total

theorem exists_weightedChoice_iff :
    (∃ counter, weightedChoice weight l counter = some a) ↔ HasShare weight l a := by
  have ht' : (l.map weight).sum.toNat = (l.map fun a => (weight a).toNat).sum % 2 ^ 32 := by
    rw [toNat_sum_uint32, map_map]
    rfl
  have hze : (l.map weight).sum = 0 ↔ (l.map fun a => (weight a).toNat).sum % 2 ^ 32 = 0 := by
    rw [← ht', ← UInt32.toNat_inj]
    rfl
  unfold weightedChoice HasShare
  simp only [List.isEmpty_iff, hze, ht']
  set total := (l.map fun a => (weight a).toNat).sum % 2 ^ 32 with ht
  by_cases hn : l = []
  · simp [hn]
  by_cases hz : total = 0
  · simp [hn, hz]
  have hp (counter : UInt64) :
      (pickFrom (fun a => (weight a).toNat) (counter.toNat % total) 0 l).or l.getLast? =
        pickFrom (fun a => (weight a).toNat) (counter.toNat % total) 0 l := by
    have hlt := mod_lt counter.toNat (pos_of_ne_zero hz)
    exact Option.or_of_isSome (pickFrom_isSome (zero_le _) (by omega))
  simp only [hn, hz, ↓reduceIte, hp, false_and, false_or]
  refine Iff.trans ?_ (exists_pickFrom_iff fun a => (weight a).toNat)
  constructor
  · rintro ⟨counter, h⟩
    exact ⟨_, mod_lt _ (pos_of_ne_zero hz), h⟩
  · rintro ⟨idx, hi, h⟩
    have h32 : total < 2 ^ 32 := mod_lt _ (by decide)
    have h64 : idx < UInt64.size := lt_trans (lt_trans hi h32) (by decide)
    refine ⟨UInt64.ofNat idx, ?_⟩
    rwa [UInt64.toNat_ofNat_of_lt' h64, mod_eq_of_lt hi]

end Portus.Lib

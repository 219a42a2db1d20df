import Mathlib.Algebra.Order.Ring.Nat

/-!
# Things and their places

A list holds every thing there has been with the place it is at now. Nothing leaves the
list: what is passed on changes its place (`moveAll`), so a thing is at one place only, and
what lies at the places (`weightAt`) makes up all there has been.
-/

namespace Portus.Lib

variable {π α : Type} [DecidableEq π]

def moveAll (a b : π) (l : List (π × α)) : List (π × α) :=
  l.map fun x => if x.1 = a then (b, x.2) else x

def weightAt (weight : α → Nat) (a : π) (l : List (π × α)) : Nat :=
  ((l.filter fun x => x.1 = a).map fun x => weight x.2).sum

variable {a b c : π} {l : List (π × α)}

@[simp] theorem map_snd_moveAll (a b : π) (l : List (π × α)) :
    (moveAll a b l).map (·.2) = l.map (·.2) := by
  rw [moveAll, List.map_map]
  refine List.map_congr_left fun x _ => ?_
  show (if x.1 = a then (b, x.2) else x).2 = x.2
  split <;> rfl

theorem map_moveAll (f : α → β) (a b : π) (l : List (π × α)) :
    ((moveAll a b l).map fun x => f x.2) = l.map fun x => f x.2 := by
  have hm := congrArg (List.map f) (map_snd_moveAll a b l)
  rwa [List.map_map, List.map_map] at hm

theorem mem_moveAll : x ∈ moveAll a b l ↔ (x.1 = b ∧ (a, x.2) ∈ l) ∨ (x ∈ l ∧ x.1 ≠ a) := by
  rw [moveAll, List.mem_map]
  constructor
  · rintro ⟨y, hy, rfl⟩
    by_cases hp : y.1 = a
    · rw [if_pos hp]
      exact .inl ⟨rfl, hp ▸ hy⟩
    · rw [if_neg hp]
      exact .inr ⟨hy, hp⟩
  · rintro (⟨hp, hx⟩ | ⟨hx, hp⟩)
    · exact ⟨(a, x.2), hx, by rw [if_pos rfl, ← hp]⟩
    · exact ⟨x, hx, if_neg hp⟩

section

variable (weight : α → Nat)

theorem weightAt_cons (x : π × α) (l : List (π × α)) :
    weightAt weight a (x :: l) = (if x.1 = a then weight x.2 else 0) + weightAt weight a l := by
  unfold weightAt
  by_cases hp : x.1 = a
  · simp [hp]
  · simp [hp]

theorem weightAt_append (l l' : List (π × α)) :
    weightAt weight a (l ++ l') = weightAt weight a l + weightAt weight a l' := by
  simp [weightAt]

theorem weightAt_moveAll : weightAt weight c (moveAll a b l) =
    (if c = a then 0 else weightAt weight c l) + if c = b then weightAt weight a l else 0 := by
  induction l with
  | nil => simp [moveAll, weightAt]
  | cons x l ih =>
    show weightAt weight c ((if x.1 = a then (b, x.2) else x) :: moveAll a b l) = _
    rw [weightAt_cons, weightAt_cons, weightAt_cons, ih]
    by_cases hp : x.1 = a
    · rw [if_pos hp, if_pos hp]
      grind
    · rw [if_neg hp, if_neg hp]
      grind

variable {weight}

theorem weight_le_weightAt (hx : x ∈ l) : weight x.2 ≤ weightAt weight x.1 l := by
  induction l with
  | nil => cases hx
  | cons y l ih =>
    rw [weightAt_cons]
    rcases List.mem_cons.1 hx with rfl | hx
    · rw [if_pos rfl]
      exact Nat.le_add_right _ _
    · exact Nat.le_trans (ih hx) (Nat.le_add_left _ _)

theorem not_mem_of_weightAt_eq_zero (h : weightAt weight a l = 0) (hx : x ∈ l)
    (hw : weight x.2 ≠ 0) : x.1 ≠ a := by
  rintro rfl
  exact hw (Nat.le_zero.1 (h ▸ weight_le_weightAt hx))

end

theorem weightAt_le_sum (weight : α → Nat) (a : π) (l : List (π × α)) :
    weightAt weight a l ≤ (l.map fun x => weight x.2).sum := by
  induction l with
  | nil => exact Nat.le_refl 0
  | cons x l ih =>
    rw [weightAt_cons]
    split
    · exact Nat.add_le_add_left ih _
    · rw [Nat.zero_add]
      exact Nat.le_trans ih (Nat.le_add_left _ _)

theorem weightAt_add_le_sum (weight : α → Nat) (hne : a ≠ b) (l : List (π × α)) :
    weightAt weight a l + weightAt weight b l ≤ (l.map fun x => weight x.2).sum := by
  have h := weightAt_le_sum weight b (moveAll a b l)
  rw [weightAt_moveAll, if_neg hne.symm, if_pos rfl, map_moveAll] at h
  omega

end Portus.Lib

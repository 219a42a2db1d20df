import Mathlib.Data.List.MinMax
import Mathlib.Data.List.Sort
import Mathlib.Order.Basic

/-!
# Choosing by rank

A scan over a list that was sorted by rank, the greatest first and with equal ranks
in their old order, finds the earliest of the greatest elements that satisfy the
condition: Mathlib's `List.argmax` over the elements that do. `find?_byRank` says so,
and the other lemmas compute with `argmax` when the elements come from two lists, or
the rank is replaced by one that orders the elements the same way. `find?_insertionSort`
is the same fact for an order that no rank gives.
-/

namespace Portus.Lib

open List

variable {α ι κ : Type} [LinearOrder ι] [LinearOrder κ]

/-- The greatest ranks first; elements of equal rank keep their order. -/
def byRank (rank : α → ι) (l : List α) : List α := l.insertionSort fun a b => rank b ≤ rank a

theorem perm_byRank (rank : α → ι) (l : List α) : (byRank rank l).Perm l :=
  perm_insertionSort _ l

theorem pairwise_byRank (rank : α → ι) (l : List α) :
    (byRank rank l).Pairwise fun a b => rank b ≤ rank a := by
  exact pairwise_insertionSort _ l

theorem find?_orderedInsert [DecidableRel r] [IsTrans α r] {s : List α} (hs : s.Pairwise r)
    (a : α) :
    (s.orderedInsert r a).find? p =
      if p a then some (((s.find? p).filter fun c => !decide (r a c)).getD a) else s.find? p := by
  induction s with
  | nil => by_cases ha : p a <;> simp [ha]
  | cons b s ih =>
    obtain ⟨hb, hs⟩ := pairwise_cons.1 hs
    rw [orderedInsert_cons]
    split
    next hle =>
      -- `a` may precede every hit in the rest
      have hr : ((b :: s).find? p).filter (fun c => !decide (r a c)) = none := by
        rw [Option.filter_eq_none_iff]
        intro c hc
        have hac : r a c := by
          rcases mem_cons.1 (mem_of_find?_eq_some hc) with rfl | hc
          · exact hle
          · exact IsTrans.trans a b c hle (hb c hc)
        simpa using hac
      rw [find?_cons, hr]
      cases p a <;> rfl
    next hlt =>
      rw [find?_cons, find?_cons]
      cases p b with
      | true => cases p a <;> simp [Option.filter, hlt]
      | false => simpa using ih hs

theorem find?_byRank (rank : α → ι) (p : α → Bool) (l : List α) :
    (byRank rank l).find? p = (l.filter p).argmax rank := by
  induction l with
  | nil => rfl
  | cons a l ih =>
    have hi : byRank rank (a :: l) =
        (byRank rank l).orderedInsert (fun a b => rank b ≤ rank a) a := rfl
    rw [hi, find?_orderedInsert (pairwise_byRank rank l), ih, filter_cons]
    split
    next =>
      rw [argmax_cons]
      cases (l.filter p).argmax rank with
      | none => rfl
      | some c =>
        by_cases h : rank a < rank c <;> simp [Option.filter, h]
    next => rfl

theorem find?_insertionSort [DecidableRel r] [Std.Total r] [IsTrans α r] (p : α → Bool)
    (l : List α) : (l.insertionSort r).find? p =
      l.find? fun a => p a && l.all fun b => !p b || decide (r a b) := by
  let least (x : α) : Bool := p x && l.all fun b => !p b || decide (r x b)
  have hl {x : α} : least x = true ↔ p x = true ∧ ∀ b ∈ l, p b = true → r x b := by
    simp [least, imp_iff_not_or]
  have hs := pairwise_insertionSort r l
  -- the first hit of the sorted list is one that no other comes before
  have hf : (l.insertionSort r).find? p = (l.insertionSort r).find? least := by
    cases h : (l.insertionSort r).find? p with
    | none =>
      exact (find?_eq_none.2 fun x hx hle => find?_eq_none.1 h x hx (hl.1 hle).1).symm
    | some a =>
      obtain ⟨ha, front, back, hab, hfr⟩ := find?_eq_some_iff_append.1 h
      refine (find?_eq_some_iff_append.2 ⟨hl.2 ⟨ha, fun b hb hpb => ?_⟩, front, back, hab,
        fun x hx => by simp [least, hfr x hx]⟩).symm
      rw [← mem_insertionSort r, hab, mem_append, mem_cons] at hb
      rw [hab] at hs
      rcases hb with hb | rfl | hb
      · exact absurd hpb (by simpa using hfr b hb)
      · exact (Std.Total.total b b).elim id id
      · exact (pairwise_cons.1 (pairwise_append.1 hs).2.1).1 b hb
  -- and the sort keeps the order of those
  have hfi : l.filter least = (l.insertionSort r).filter least := by
    have hp : (l.filter least).Pairwise r := pairwise_of_forall_mem_list fun a ha b hb => by
      rw [mem_filter, hl] at ha hb
      exact ha.2.2 b hb.1 hb.2.1
    have hsu := (sublist_insertionSort hp filter_sublist).filter least
    simp only [filter_filter, Bool.and_self] at hsu
    exact hsu.eq_of_length ((perm_insertionSort r l).filter least).length_eq.symm
  rw [hf, ← head?_filter, ← hfi, head?_filter]

theorem argmax_congr {f : α → ι} {g : α → κ} {l : List α}
    (h : ∀ a ∈ l, ∀ b ∈ l, f a < f b ↔ g a < g b) : l.argmax f = l.argmax g := by
  induction l with
  | nil => rfl
  | cons a l ih =>
    have hl : l.argmax f = l.argmax g :=
      ih fun a ha b hb => h a (mem_cons_of_mem _ ha) b (mem_cons_of_mem _ hb)
    rw [argmax_cons, argmax_cons, hl]
    cases hc : l.argmax g with
    | none => rfl
    | some c =>
      have hm : c ∈ l := argmax_mem hc
      have := h a mem_cons_self c (mem_cons_of_mem _ hm)
      simp only [this]

theorem argmax_split {f : α → ι} {l : List α}
    (h : ∀ a ∈ l, ∀ b ∈ l, q a = true → q b = false → f b < f a) :
    l.argmax f = ((l.filter q).argmax f).or ((l.filter (!q ·)).argmax f) := by
  induction l with
  | nil => rfl
  | cons a l ih =>
    have ih' := ih fun a ha b hb => h a (mem_cons_of_mem _ ha) b (mem_cons_of_mem _ hb)
    have hm {r : α → Bool} {c : α} (hc : (l.filter r).argmax f = some c) : c ∈ l ∧ r c = true :=
      mem_filter.1 (argmax_mem hc)
    rw [argmax_cons, ih']
    cases hq : q a with
    | true =>
      rw [filter_cons_of_pos hq, argmax_cons]
      cases hA : (l.filter q).argmax f with
      | some c => by_cases hlt : f a < f c <;> simp [hlt]
      | none =>
        cases hB : (l.filter (!q ·)).argmax f with
        | none => rfl
        | some c =>
          obtain ⟨hc, hqc⟩ := hm hB
          have hca := h a mem_cons_self c (mem_cons_of_mem _ hc) hq (by simpa using hqc)
          simp [hca.le]
    | false =>
      rw [filter_cons_of_neg (by simp [hq]), filter_cons_of_pos (by simp [hq]), argmax_cons]
      cases hA : (l.filter q).argmax f with
      | none => rfl
      | some c =>
        obtain ⟨hc, hqc⟩ := hm hA
        have hac := h c (mem_cons_of_mem _ hc) a mem_cons_self hqc hq
        simp [hac]

theorem argmax_filter_eq_find? {l : List α} {top : ι} (hle : ∀ a ∈ l, p a = true → f a ≤ top)
    (htop : ∃ a ∈ l, p a = true ∧ f a = top) :
    (l.filter p).argmax f = l.find? fun a => p a && decide (f a = top) := by
  obtain ⟨b, hb, hpb, rfl⟩ := htop
  rw [← find?_byRank, byRank, find?_insertionSort, ← head?_filter, ← head?_filter]
  refine congrArg List.head? (filter_congr fun a ha => ?_)
  rw [Bool.eq_iff_iff, Bool.and_eq_true, Bool.and_eq_true, decide_eq_true_eq, all_eq_true]
  refine and_congr_right fun hpa => ⟨fun h => ?_, fun h c hc => ?_⟩
  · have hba : f b ≤ f a := by simpa [hpb] using h b hb
    exact (hle a ha hpa).antisymm hba
  · cases hpc : p c with
    | false => rfl
    | true => simpa [h] using hle c hc hpc

end Portus.Lib

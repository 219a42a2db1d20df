import Portus.DataPlane.Router

/-!
# Paths under a prefix

What it means for a prefix rule to accept a path, on the characters of the two
(`Under`), and which paths of two segments, `/s/m`, are under a prefix.
-/

namespace Portus.DataPlane

open Portus Lib Proto List Text

/-- `q` continues `p` where a segment ends: at its end, before a slash or after one. -/
def Under (p q : List Char) : Prop :=
  ∃ rest, q = p ++ rest ∧ (rest = [] ∨ rest.head? = some '/' ∨ p.getLast? = some '/')

theorem isPrefixOf_slash {l : List Char} : ['/'].isPrefixOf l = true ↔ l.head? = some '/' := by
  cases l with
  | nil => simp
  | cons c l =>
    rw [List.isPrefixOf, List.isPrefixOf_nil_left, Bool.and_true, beq_iff_eq, head?_cons,
      Option.some.injEq, eq_comm]

theorem isSuffixOf_slash {l : List Char} : ['/'].isSuffixOf l = true ↔ l.getLast? = some '/' := by
  rw [List.isSuffixOf, reverse_singleton, isPrefixOf_slash, head?_reverse]

theorem pathMatches_pathPrefix (hr : r.matchType = .pathPrefix) :
    pathMatches libs r path = true ↔ Under r.path.toList path.toList := by
  have hsl : "/".toList = ['/'] := rfl
  rw [pathMatches, hr]
  cases hre : stripPrefix r.path path with
  | none =>
    refine iff_of_false Bool.false_ne_true ?_
    rintro ⟨rest, hp, -⟩
    have hso : stripPrefix r.path path = some (String.ofList rest) := by
      refine stripPrefix_eq_some.2 (String.toList_inj.1 ?_)
      rw [String.toList_append, String.toList_ofList, hp]
    rw [hre] at hso
    cases hso
  | some rest =>
    have hp := stripPrefix_eq_some.1 hre
    simp only [Bool.or_eq_true, String.isEmpty_iff, startsWith, endsWith, hsl,
      isPrefixOf_slash, isSuffixOf_slash, or_assoc]
    rw [hp, String.toList_append]
    constructor
    · rintro (rfl | h)
      · exact ⟨[], by simp, .inl rfl⟩
      · exact ⟨_, rfl, .inr h⟩
    · rintro ⟨rest', heq, h⟩
      obtain rfl := append_cancel_left heq
      exact h.imp (fun hn => String.toList_eq_nil_iff.1 hn) id

section Segments

variable {s m a b : List Char}

theorem under_root : Under ['/'] ('/' :: q) := ⟨q, rfl, .inr (.inr rfl)⟩

section

variable (ha : '/' ∉ a) (hs : '/' ∉ s)

include ha hs

theorem append_slash_inj : a ++ '/' :: x = s ++ '/' :: y ↔ a = s ∧ x = y := by
  induction a generalizing s with
  | nil =>
    cases s with
    | nil => simp
    | cons d s => simp [ne_of_not_mem_cons hs]
  | cons c a ih =>
    cases s with
    | nil => simp [(ne_of_not_mem_cons ha).symm]
    | cons d s =>
      rw [cons_append, cons_append, List.cons.injEq,
        ih (not_mem_of_not_mem_cons ha) (not_mem_of_not_mem_cons hs), List.cons.injEq,
        and_assoc]

theorem under_segment (hne : a ≠ []) : Under ('/' :: a) ('/' :: (s ++ '/' :: m)) ↔ a = s := by
  constructor
  · rintro ⟨rest, heq, hr⟩
    rw [cons_append, List.cons.injEq] at heq
    obtain ⟨-, heq⟩ := heq
    rcases hr with rfl | hr | hl
    · rw [append_nil] at heq
      exact absurd (heq ▸ mem_append_right _ mem_cons_self) ha
    · obtain ⟨rest, rfl⟩ := head?_eq_some_iff.1 hr
      exact ((append_slash_inj ha hs).1 heq.symm).1
    · rw [getLast?_cons_of_ne_nil hne] at hl
      exact absurd (mem_of_getLast? hl) ha
  · rintro rfl
    exact ⟨'/' :: m, by simp, .inr (.inl rfl)⟩

theorem under_segment_slash : Under ('/' :: (a ++ ['/'])) ('/' :: (s ++ '/' :: m)) ↔ a = s := by
  constructor
  · rintro ⟨rest, heq, -⟩
    simp only [cons_append, append_assoc, nil_append, List.cons.injEq, true_and] at heq
    exact ((append_slash_inj hs ha).1 heq).1.symm
  · rintro rfl
    refine ⟨m, by simp, .inr (.inr ?_)⟩
    rw [← cons_append, getLast?_append]
    rfl

theorem under_two_segments (hb : '/' ∉ b) (hne : b ≠ [])
    (hm : '/' ∉ m) :
    Under ('/' :: (a ++ '/' :: b)) ('/' :: (s ++ '/' :: m)) ↔ a = s ∧ b = m := by
  constructor
  · rintro ⟨rest, heq, hr⟩
    simp only [cons_append, append_assoc, List.cons.injEq, true_and] at heq
    obtain ⟨rfl, rfl⟩ := (append_slash_inj hs ha).1 heq
    refine ⟨rfl, ?_⟩
    rcases hr with rfl | hr | hl
    · exact (append_nil b).symm
    · obtain ⟨rest, rfl⟩ := head?_eq_some_iff.1 hr
      exact absurd (mem_append_right b mem_cons_self) hm
    · rw [← cons_append, getLast?_append, getLast?_cons_of_ne_nil hne] at hl
      cases hbl : b.getLast? with
      | none => exact absurd (getLast?_eq_none_iff.1 hbl) hne
      | some c =>
        rw [hbl, Option.some_or, Option.some.injEq] at hl
        exact absurd (hl ▸ mem_of_getLast? hbl) hb
  · rintro ⟨rfl, rfl⟩
    exact ⟨[], by simp, .inl rfl⟩

end

theorem not_under_of_count (hs : '/' ∉ s) (hm : '/' ∉ m) (hp : 3 ≤ p.count '/') :
    ¬ Under p ('/' :: (s ++ '/' :: m)) := by
  rintro ⟨rest, heq, -⟩
  have hc := congrArg (List.count '/') heq
  simp only [count_cons_self, count_append, count_eq_zero.2 hs, count_eq_zero.2 hm] at hc
  omega

end Segments

end Portus.DataPlane

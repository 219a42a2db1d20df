import Mathlib.Data.List.Perm.Basic
import Mathlib.Data.Multiset.Basic

/-!
# Equal multisets and relations without freedom

Two functions that give a list of inputs the same multiset of values need not agree. They
do if all the values that one of them gives up are one value (`eq_of_map_perm`): it would
be missing in the other multiset.
-/

namespace Portus.Lib

open List

section Tally

variable {α β : Type} {l : List α} {f g : α → β}

theorem imp_of_countP_eq (hqp : ∀ a ∈ l, q a = true → p a = true) (h : l.countP p = l.countP q) :
    ∀ a ∈ l, p a = true → q a = true := by
  induction l with
  | nil => simp
  | cons b l ih =>
    have hle : l.countP q ≤ l.countP p :=
      countP_mono_left fun a ha => hqp a (mem_cons_of_mem _ ha)
    rw [countP_cons, countP_cons] at h
    -- the head counts on both sides or on none
    have hs : p b = q b := by
      cases hp : p b <;> cases hq : q b <;> simp_all
      omega
    rw [hs] at h
    intro a ha hpa
    rcases mem_cons.1 ha with rfl | ha
    · rw [← hs, hpa]
    · exact ih (fun a ha => hqp a (mem_cons_of_mem _ ha)) (by omega) a ha hpa

theorem eq_of_map_perm (h : (l.map f).Perm (l.map g)) (hv : ∀ a ∈ l, f a = g a ∨ f a = v) :
    ∀ a ∈ l, f a = g a := by
  classical
  have hc : l.countP (fun a => decide (f a = v)) = l.countP fun a => decide (g a = v) := by
    have hf := h.countP_eq fun b => decide (b = v)
    rwa [countP_map, countP_map] at hf
  have hi := imp_of_countP_eq (fun a ha hg => ?_) hc
  · intro a ha
    rcases hv a ha with heq | heq
    · exact heq
    · have hg := hi a ha (decide_eq_true heq)
      exact heq.trans (of_decide_eq_true hg).symm
  · rcases hv a ha with heq | heq
    · exact decide_eq_true (heq.trans (of_decide_eq_true hg))
    · exact decide_eq_true heq

theorem eq_of_map_perm_right (h : (l.map f).Perm (l.map g)) (hv : ∀ a ∈ l, f a = g a ∨ g a = v) :
    ∀ a ∈ l, f a = g a := fun a ha =>
  (eq_of_map_perm h.symm (fun a ha => (hv a ha).imp_left Eq.symm) a ha).symm

theorem eq_of_perm_middle {b : α} (h : (l1 ++ a :: l2).Perm (l1 ++ b :: l2)) : a = b := by
  have hc : (a :: l2).Perm (b :: l2) := (perm_append_left_iff l1).1 h
  exact (Multiset.cons_inj_left (l2 : Multiset α)).1 (Multiset.coe_eq_coe.2 hc)

/-- A setting gives each input one value, except where it makes no difference, or leaves it what it
has of its own. -/
def Sets {τ : Type} (F : τ → α → β) (own : α → β) : Prop :=
  ∀ s, (∃ v, ∀ a, F s a = v ∨ ∀ t, F t a = F s a) ∨ ∀ a, F s a = own a

theorem eq_of_sets (hF : Sets F own) (h : (l.map f).Perm (l.map g))
    (hfg : ∀ a ∈ l, f a = g a ∨ f a = F s a ∧ g a = F t a) : ∀ a ∈ l, f a = g a := by
  rcases hF s with ⟨v, hv⟩ | hs
  · refine eq_of_map_perm h (v := v) fun a ha => ?_
    rcases hfg a ha with heq | ⟨hf, hg⟩
    · exact .inl heq
    · rcases hv a with hv | hsa
      · exact .inr (hf.trans hv)
      · exact .inl (hf.trans ((hsa t).symm.trans hg.symm))
  rcases hF t with ⟨v, hv⟩ | ht
  · refine eq_of_map_perm_right h (v := v) fun a ha => ?_
    rcases hfg a ha with heq | ⟨hf, hg⟩
    · exact .inl heq
    · rcases hv a with hv | hsa
      · exact .inr (hg.trans hv)
      · exact .inl (hf.trans ((hsa s).trans hg.symm))
  · intro a ha
    rcases hfg a ha with heq | ⟨hf, hg⟩
    · exact heq
    · rw [hf, hg, hs, ht]

theorem sets_const {val : τ → β} (own : α → β) (h : ∀ s a, F s a = val s) :
    Sets F own := fun s => .inl ⟨val s, fun a => .inl (h s a)⟩

theorem sets_own_or {val : τ → Option β} {own : α → Option β} :
    Sets (fun s a => (own a).or (val s)) own := by
  refine fun s => .inl ⟨val s, fun a => ?_⟩
  cases h : own a with
  | none => exact .inl (by simp [h])
  | some b => exact .inr fun _ => by simp [h]

theorem sets_unless {val : τ → β} {gate : α → Bool} :
    Sets (fun s a => if gate a then own a else val s) own := by
  refine fun s => .inl ⟨val s, fun a => ?_⟩
  cases h : gate a with
  | true => exact .inr fun _ => by simp [h]
  | false => exact .inl (by simp [h])

theorem Sets.restrict (hF : Sets F own) (p : α → Prop) [DecidablePred p] :
    Sets (fun s a => if p a then some (F s a) else none) fun a => if p a then some (own a) else none := by
  intro s
  rcases hF s with ⟨v, hv⟩ | ho
  · refine .inl ⟨some v, fun a => ?_⟩
    by_cases ha : p a
    · rcases hv a with hv | hs
      · exact .inl (by simp [ha, hv])
      · exact .inr fun t => by simp [ha, hs t]
    · exact .inr fun _ => by simp [ha]
  · exact .inr fun a => by simp [ho a]

end Tally

section Rigid

variable {α : Type} {R : α → α → Prop}

def Rigid (R : α → α → Prop) (a : α) : Prop := ∀ b, R a b → b = a

theorem rigid_option : Rigid (Option.Rel R) o ↔ ∀ a ∈ o, Rigid R a := by
  cases o with
  | none =>
    refine iff_of_true ?_ (by simp)
    rintro _ ⟨⟩
    rfl
  | some a =>
    simp only [Option.mem_def, Option.some.injEq, forall_eq']
    constructor
    · intro h b hb
      exact Option.some.inj (h (some b) (.some hb))
    · rintro h _ ⟨hb⟩
      rw [h _ hb]

theorem rigid_forall₂ (hr : ∀ a, R a a) {l : List α} :
    Rigid (List.Forall₂ R) l ↔ ∀ a ∈ l, Rigid R a := by
  induction l with
  | nil =>
    refine iff_of_true ?_ (by simp)
    rintro _ ⟨⟩
    rfl
  | cons a l ih =>
    rw [forall_mem_cons, ← ih]
    constructor
    · intro h
      refine ⟨fun b hb => ?_, fun l' hl' => ?_⟩
      · exact (List.cons.inj (h (b :: l) (.cons hb (forall₂_same.2 fun a _ => hr a)))).1
      · exact (List.cons.inj (h (a :: l') (.cons (hr a) hl'))).2
    · rintro ⟨ha, hl⟩ _ (_ | ⟨hb, hl'⟩)
      rw [ha _ hb, hl _ hl']

theorem rigid_of_perm (hr : ∀ a, R a a) {l : List α} (h : ∀ l', List.Forall₂ R l l' → l.Perm l')
    (ha : a ∈ l) : Rigid R a := by
  intro b hb
  obtain ⟨l1, l2, rfl⟩ := append_of_mem ha
  have hs (l : List α) : List.Forall₂ R l l := forall₂_same.2 fun a _ => hr a
  exact (eq_of_perm_middle (h _ (rel_append (hs l1) (.cons hb (hs l2))))).symm

theorem rigid_perm {l : List α} : Rigid List.Perm l ↔ ∀ a ∈ l, ∀ b ∈ l, a = b := by
  classical
  constructor
  · intro h a ha b hb
    have hf (c : α) (hc : c ∈ l) : c :: l.erase c = l := h _ (perm_cons_erase hc)
    exact (List.cons.inj ((hf a ha).trans (hf b hb).symm)).1
  · intro h l' hp
    cases l with
    | nil => exact hp.nil_eq.symm
    | cons a l =>
      have hal : ∀ b ∈ a :: l, b = a := fun b hb => h b hb a mem_cons_self
      rw [eq_replicate_of_mem hal] at hp ⊢
      exact perm_replicate.1 hp.symm

end Rigid

end Portus.Lib

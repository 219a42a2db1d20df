import Portus.Lib.Table
import Portus.Lib.Tally

/-!
# Tables in another order

Two tables that hold the same values under the same keys differ in the order in which an
iterator walks them (`Table.Reordered`). What is looked up does not depend on it; what a
search over the entries finds does, and may then be any entry that passes
(`Table.exists_fronted`). `exists_perm_first_last` says what two searches of one walk may
find, the first one from the front and the other one from the back.
-/

namespace Portus.Lib

open List Function

theorem findSome?_eq_find? {α β : Type} (f : α → Option β) (l : List α) :
    l.findSome? f = (l.find? fun a => (f a).isSome).bind f := by
  induction l with
  | nil => rfl
  | cons a l ih =>
    rw [findSome?_cons, find?_cons, ih]
    cases h : f a with
    | some b => exact h.symm
    | none => rfl

theorem bind_eq_of_rel {α β γ : Type} {R : α → β → Prop} {o : Option α} {o' : Option β}
    {f : α → Option γ} {g : β → Option γ} (h : Option.Rel R o o') (hfg : ∀ a b, R a b → f a = g b) :
    o.bind f = o'.bind g := by
  cases h with
  | none => rfl
  | some hR => exact hfg _ _ hR

section Lists

variable {α : Type} {T W : α → Bool} {l : List α} {a z : α}

theorem exists_perm_first_last (ha : a ∈ l) (hz : z ∈ l) (hT : T a = true) (hW : W z = true)
    (h : a = z → ∀ x ∈ l, x ≠ a → T x = true → W x = false) :
    ∃ l', l.Perm l' ∧ l'.find? T = some a ∧ l'.reverse.find? W = some z := by
  classical
  by_cases heq : a = z
  · subst heq
    -- what passes `W` goes before `a`, the rest after it
    have hp : l.Perm (a :: ((l.erase a).filter W ++ (l.erase a).filter (!W ·))) :=
      (perm_cons_erase ha).trans ((filter_append_perm W (l.erase a)).symm.cons a)
    refine ⟨(l.erase a).filter W ++ a :: (l.erase a).filter (!W ·),
      hp.trans perm_middle.symm, ?_, ?_⟩
    · rw [find?_append]
      cases hf : ((l.erase a).filter W).find? T with
      | none => simp [hT]
      | some x =>
        obtain ⟨hx, hWx⟩ := mem_filter.1 (mem_of_find?_eq_some hf)
        by_cases hxa : x = a
        · rw [hxa]
          rfl
        · rw [h rfl x (mem_of_mem_erase hx) hxa (find?_some hf)] at hWx
          cases hWx
    · have hr : ((l.erase a).filter (!W ·)).reverse.find? W = none := by
        rw [find?_eq_none]
        intro x hx
        simpa using (mem_filter.1 (mem_reverse.1 hx)).2
      simp [find?_append, hr, hW]
  · have hz' : z ∈ l.erase a := (mem_erase_of_ne (Ne.symm heq)).2 hz
    refine ⟨a :: ((l.erase a).erase z ++ [z]), ?_, by simp [hT], ?_⟩
    · refine (perm_cons_erase ha).trans (List.Perm.cons a ?_)
      exact (perm_cons_erase hz').trans (perm_append_singleton _ _).symm
    · simp [hW]

theorem exists_perm_search {A Z : Option α} (hf : ∀ a ∈ A, a ∈ l ∧ T a = true)
    (hl : ∀ z ∈ Z, z ∈ l ∧ W z = true)
    (h : ∀ a ∈ A, a ∈ Z → ∀ x ∈ l, x ≠ a → T x = true → W x = false) :
    ∃ l', l.Perm l' ∧ (∀ a ∈ A, l'.find? T = some a) ∧ ∀ z ∈ Z, l'.reverse.find? W = some z := by
  classical
  match A, Z with
  | none, none => exact ⟨l, .refl l, by simp, by simp⟩
  | some a, none =>
    obtain ⟨ha, hT⟩ := hf a rfl
    refine ⟨a :: l.erase a, perm_cons_erase ha, ?_, by simp⟩
    rintro _ ⟨⟩
    simp [hT]
  | none, some z =>
    obtain ⟨hz, hW⟩ := hl z rfl
    refine ⟨l.erase z ++ [z], (perm_cons_erase hz).trans
      (perm_append_singleton _ _).symm, by simp, ?_⟩
    rintro _ ⟨⟩
    simp [hW]
  | some a, some z =>
    obtain ⟨ha, hT⟩ := hf a rfl
    obtain ⟨hz, hW⟩ := hl z rfl
    obtain ⟨l', hl', hfind, hfind'⟩ := exists_perm_first_last ha hz hT hW fun heq =>
      h a rfl (heq ▸ rfl)
    refine ⟨l', hl', ?_, ?_⟩
    · rintro _ ⟨⟩
      exact hfind
    · rintro _ ⟨⟩
      exact hfind'

/-- On a walk without repetitions, what is both the first to pass `T` and the last to pass `W` is
the only one to pass both. -/
theorem eq_of_first_last {x : α} (hn : l.Nodup) (hfi : l.find? T = some a)
    (hl : l.reverse.find? W = some a) (hx : x ∈ l) (hT : T x = true) (hW : W x = true) :
    x = a := by
  obtain ⟨-, front, back, rfl, hfr⟩ := find?_eq_some_iff_append.1 hfi
  obtain ⟨-, back', front', hs, hb⟩ := find?_eq_some_iff_append.1 hl
  rcases mem_append.1 hx with hx | hx
  · have hnot := hfr x hx
    rw [hT] at hnot
    cases hnot
  · rcases mem_cons.1 hx with rfl | hx
    · rfl
    · -- `a` occurs once, so what stands behind it is the same in both splits
      rw [reverse_append, reverse_cons, append_assoc, singleton_append] at hs
      have hna := (nodup_cons.1 (nodup_middle.1 hn)).1
      rw [mem_append, not_or] at hna
      obtain ⟨rfl, -⟩ := (append_cons_inj_of_notMem (mt mem_reverse.1 hna.2)
        (mt mem_reverse.1 hna.1)).1 hs
      have hnot := hb x (mem_reverse.2 hx)
      rw [hW] at hnot
      cases hnot

theorem eq_or_rel_of_find? {R : α → α → Prop} (hs : l.Pairwise R) (h : l.find? T = some a)
    (hz : z ∈ l) (hT : T z = true) : z = a ∨ R a z := by
  obtain ⟨-, front, back, rfl, hf⟩ := find?_eq_some_iff_append.1 h
  rcases mem_append.1 hz with hz | hz
  · simpa [hT] using hf z hz
  · rcases mem_cons.1 hz with rfl | hz
    · exact .inl rfl
    · exact .inr ((pairwise_cons.1 (pairwise_append.1 hs).2.1).1 z hz)

theorem exists_of_forall₂_left {β : Type} {R : α → β → Prop} {l' : List β}
    (h : List.Forall₂ R l l') (ha : a ∈ l) : ∃ b ∈ l', R a b := by
  induction h with
  | nil => cases ha
  | cons hR _ ih =>
    rcases mem_cons.1 ha with rfl | ha
    · exact ⟨_, mem_cons_self, hR⟩
    · obtain ⟨b, hb, hRb⟩ := ih ha
      exact ⟨b, mem_cons_of_mem _ hb, hRb⟩

theorem exists_of_forall₂_right {β : Type} {R : β → α → Prop} {l' : List β}
    (h : List.Forall₂ R l' l) (ha : a ∈ l) : ∃ b ∈ l', R b a :=
  exists_of_forall₂_left h.flip ha

theorem filterMap_eq_of_forall₂ {β γ : Type} {R : α → β → Prop} {f : α → Option γ}
    {g : β → Option γ} {l' : List β} (h : List.Forall₂ R l l') (hfg : ∀ a b, R a b → f a = g b) :
    l.filterMap f = l'.filterMap g := by
  induction h with
  | nil => rfl
  | cons hR _ ih => rw [filterMap_cons, filterMap_cons, hfg _ _ hR, ih]

theorem find?_swap (a z : α) (l : List α) : (a :: z :: l).find? T = (z :: a :: l).find? T ∨
    (a :: z :: l).find? T = some a ∧ (z :: a :: l).find? T = some z := by
  cases ha : T a <;> cases hz : T z <;> simp [ha, hz]

/-- Sorted by kind, the first to pass stays the first, if none of an earlier kind passes. -/
theorem find?_flatMap_filter {κ : Type} [DecidableEq κ] (kind : α → κ) {before after : List κ}
    (hf : l.find? T = some a) (hn : ∀ x ∈ l, kind x ∈ before → T x = false) :
    ((before ++ kind a :: after).flatMap fun k => l.filter (kind · = k)).find? T = some a := by
  have hb : (before.flatMap fun k => l.filter (kind · = k)).find? T = none := by
    refine find?_eq_none.2 fun x hx => ?_
    obtain ⟨k, hk, hx⟩ := mem_flatMap.1 hx
    obtain ⟨hx, hkind⟩ := mem_filter.1 hx
    simp [hn x hx (of_decide_eq_true hkind ▸ hk)]
  have ha : (l.filter (kind · = kind a)).find? T = some a := by
    obtain ⟨hT, front, back, rfl, hfr⟩ := find?_eq_some_iff_append.1 hf
    have hnone : (front.filter (kind · = kind a)).find? T = none :=
      find?_eq_none.2 fun x hx => by simpa using hfr x (mem_filter.1 hx).1
    simp [find?_append, hnone, hT]
  rw [flatMap_append, flatMap_cons, find?_append, find?_append, hb, ha]
  rfl

theorem find?_map_eq_of_perm {β : Type} {f : α → β} {l' : List α} (h : l.Perm l')
    (hs : ∀ a ∈ l, ∀ z ∈ l, T a = true → T z = true → f a = f z) :
    (l'.find? T).map f = (l.find? T).map f := by
  cases hf : l.find? T with
  | none =>
    rw [find?_eq_none.2 fun a ha => find?_eq_none.1 hf a (h.mem_iff.2 ha)]
  | some a =>
    have ha := find?_some hf
    obtain ⟨z, hz⟩ : ∃ z, l'.find? T = some z := by
      rw [← Option.isSome_iff_exists, find?_isSome]
      exact ⟨a, h.mem_iff.1 (mem_of_find?_eq_some hf), ha⟩
    rw [hz]
    exact congrArg some (hs z (h.mem_iff.2 (mem_of_find?_eq_some hz)) a
      (mem_of_find?_eq_some hf) (find?_some hz) ha)

end Lists

namespace Table

variable {κ β : Type}

def Reordered (t t' : Table κ β) : Prop := t.entries.Perm t'.entries

theorem Reordered.refl (t : Table κ β) : t.Reordered t := List.Perm.refl _

variable {t : Table κ β}

theorem Reordered.pairs {t' : Table κ β} (h : t.Reordered t') : t.pairs.Perm t'.pairs := h.map _

theorem Reordered.values {t' : Table κ β} (h : t.Reordered t') : t.values.Perm t'.values :=
  h.map _

theorem nodup_pairs (t : Table κ β) : t.pairs.Nodup := by
  have hk : (t.pairs.map (·.1)).Nodup := by
    have hm : t.pairs.map (·.1) = t.keys := by
      simp [Table.pairs, AList.keys, List.keys, comp_def]
    rw [hm]
    exact t.keys_nodup
  exact List.Nodup.of_map _ hk

theorem exists_reordered {l : List (κ × β)} (h : t.pairs.Perm l) :
    ∃ t' : Table κ β, t.Reordered t' ∧ t'.pairs = l := by
  let entry (e : κ × β) : Sigma fun _ : κ => β := ⟨e.1, e.2⟩
  have he : t.entries.Perm (l.map entry) := by
    have hm := h.map entry
    rwa [Table.pairs, map_map, comp_def, map_id'] at hm
  refine ⟨⟨l.map entry, (perm_nodupKeys he).1 t.nodupKeys⟩, he, ?_⟩
  simp [Table.pairs, entry, comp_def]

theorem exists_reordered_map {γ : Type} {f : κ × β → γ} {l : List γ} (h : (t.pairs.map f).Perm l) :
    ∃ t' : Table κ β, t.Reordered t' ∧ t'.pairs.map f = l := by
  obtain ⟨m, rfl, hm⟩ := (congrFun (congrFun (eq_map_comp_perm f) l) t.pairs).mpr h.symm
  obtain ⟨t', ht', rfl⟩ := exists_reordered hm.symm
  exact ⟨t', ht', rfl⟩

/-- Either of two entries comes first in some order, and nothing else differs between the two. -/
theorem exists_fronted {x y : κ × β} (hx : x ∈ t.pairs) (hy : y ∈ t.pairs) :
    ∃ (t1 t2 : Table κ β) (l1 l2 : List (κ × β)), t.Reordered t1 ∧ t.Reordered t2 ∧
      t1.pairs = x :: l1 ∧ t2.pairs = y :: l2 ∧
      (t1 = t2 ∨ ∃ rest, l1 = y :: rest ∧ l2 = x :: rest) := by
  classical
  by_cases heq : x = y
  · subst heq
    obtain ⟨t', ht, hp⟩ := exists_reordered (perm_cons_erase hx)
    exact ⟨t', t', _, _, ht, ht, hp, hp, .inl rfl⟩
  · have hy' : y ∈ t.pairs.erase x := (mem_erase_of_ne (Ne.symm heq)).2 hy
    have hp := (perm_cons_erase hx).trans ((perm_cons_erase hy').cons x)
    obtain ⟨t1, ht1, hp1⟩ := exists_reordered hp
    obtain ⟨t2, ht2, hp2⟩ := exists_reordered (hp.trans (.swap y x _))
    exact ⟨t1, t2, _, _, ht1, ht2, hp1, hp2, .inr ⟨_, rfl, rfl⟩⟩

theorem exists_swapped {v w : β} (hv : v ∈ t.values) (hw : w ∈ t.values) (hne : v ≠ w) :
    ∃ (t1 t2 : Table κ β) (rest : List β), t.Reordered t1 ∧ t.Reordered t2 ∧
      t1.values = v :: w :: rest ∧ t2.values = w :: v :: rest := by
  rw [values_eq_pairs, mem_map] at hv hw
  obtain ⟨⟨k, v⟩, hv, rfl⟩ := hv
  obtain ⟨⟨k', w⟩, hw, rfl⟩ := hw
  obtain ⟨t1, t2, l1, l2, ht1, ht2, hp1, hp2, rfl | ⟨rest, rfl, rfl⟩⟩ := exists_fronted hv hw
  · cases hp1.symm.trans hp2
    exact absurd rfl hne
  · refine ⟨t1, t2, rest.map (·.2), ht1, ht2, ?_, ?_⟩
    · rw [values_eq_pairs, hp1, map_cons, map_cons]
    · rw [values_eq_pairs, hp2, map_cons, map_cons]

def backwards (t : Table κ β) : Table κ β :=
  ⟨t.entries.reverse, (perm_nodupKeys (reverse_perm t.entries)).2 t.nodupKeys⟩

theorem reordered_backwards (t : Table κ β) : t.Reordered t.backwards :=
  (reverse_perm t.entries).symm

theorem reverse_pairs_backwards (t : Table κ β) : t.backwards.pairs.reverse = t.pairs := by
  rw [pairs, backwards, map_reverse, reverse_reverse, pairs]

theorem pairs_injective : Function.Injective (pairs : Table κ β → List (κ × β)) := by
  intro t t' h
  refine AList.ext (map_injective_iff.2 ?_ h)
  rintro ⟨k, v⟩ ⟨k', v'⟩ heq
  cases heq
  rfl

theorem rigid_reordered : Rigid Reordered t ↔ t.pairs.length ≤ 1 := by
  constructor
  · intro h
    by_contra hl
    obtain ⟨a, z, rest, hpair⟩ : ∃ a z rest, t.pairs = a :: z :: rest := by
      match hpair : t.pairs with
      | [] | [a] => simp [hpair] at hl
      | a :: z :: rest => exact ⟨a, z, rest, rfl⟩
    have hne : a ≠ z := by
      have hn := nodup_pairs t
      rw [hpair] at hn
      rintro rfl
      simp at hn
    obtain ⟨t', ht', hpairs'⟩ := exists_reordered (hpair ▸ List.Perm.swap z a rest)
    rw [h t' ht', hpair] at hpairs'
    exact hne (List.cons.inj hpairs').1
  · intro h t' ht'
    refine pairs_injective ?_
    have hpe := ht'.pairs
    match hpair : t.pairs with
    | [] => rw [hpair] at hpe; exact hpe.nil_eq.symm
    | [a] => rw [hpair] at hpe; exact perm_singleton.1 hpe.symm
    | a :: z :: rest => simp [hpair] at h

/-- The same keys in the same order, over values that are related. -/
def Entrywise (R : β → β → Prop) (t t' : Table κ β) : Prop :=
  List.Forall₂ (fun e e' => e.1 = e'.1 ∧ R e.2 e'.2) t.pairs t'.pairs

theorem Entrywise.refl {R : β → β → Prop} (hR : ∀ v, R v v) (t : Table κ β) : t.Entrywise R t :=
  forall₂_same.2 fun e _ => ⟨rfl, hR e.2⟩

/-- Every value through `f`, which sees the key. -/
def mapEntries {γ : Type} (f : κ → β → γ) (t : Table κ β) : Table κ γ :=
  ⟨t.entries.map fun e => ⟨e.1, f e.1 e.2⟩, List.NodupKeys.map₂ f t.entries t.nodupKeys⟩

theorem entrywise_mapEntries {R : β → β → Prop} {f : κ → β → β}
    (h : ∀ k v, (k, v) ∈ t.pairs → R v (f k v)) : t.Entrywise R (t.mapEntries f) := by
  have hp : (t.mapEntries f).pairs = t.pairs.map fun e => (e.1, f e.1 e.2) := by
    simp [pairs, mapEntries, comp_def]
  rw [Entrywise, hp, forall₂_map_right_iff, forall₂_same]
  exact fun e he => ⟨rfl, h e.1 e.2 he⟩

variable [DecidableEq κ]

theorem lookup_mapEntries {γ : Type} (f : κ → β → γ) (t : Table κ β) (k : κ) :
    (t.mapEntries f).lookup k = (t.lookup k).map (f k) :=
  dlookup_map₂ k

theorem Entrywise.lookup {R : β → β → Prop} {t' : Table κ β} (h : t.Entrywise R t') (k : κ) :
    Option.Rel R (t.lookup k) (t'.lookup k) := by
  cases hk : t.lookup k with
  | some v =>
    obtain ⟨⟨k', v'⟩, hm, rfl, hR⟩ := exists_of_forall₂_left h (mem_pairs.2 hk)
    rw [mem_pairs.1 hm]
    exact .some hR
  | none =>
    cases hk' : t'.lookup k with
    | none => exact .none
    | some v' =>
      obtain ⟨⟨k', v⟩, hm, rfl, -⟩ := exists_of_forall₂_right h (mem_pairs.2 hk')
      rw [mem_pairs.1 hm] at hk
      cases hk

theorem Reordered.lookup {t' : Table κ β} (h : t.Reordered t') (k : κ) : t'.lookup k = t.lookup k :=
  (AList.perm_lookup h).symm

theorem lookup_collect_flatMap {α : Type} (l : List α) (g : α → List (κ × β)) (k : κ) :
    (collect (l.flatMap g)).lookup k = l.reverse.findSome? fun a => (collect (g a)).lookup k := by
  induction l using List.reverseRecOn with
  | nil => rfl
  | append_singleton l a ih =>
    rw [flatMap_append, flatMap_singleton, reverse_append, reverse_singleton,
      singleton_append, findSome?_cons, ← ih, lookup_collect, lookup_collect,
      lookup_collect, filter_append, getLast?_append]
    cases ((g a).filter (·.1 = k)).getLast? <;> rfl

end Table

end Portus.Lib

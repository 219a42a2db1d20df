import Portus.Lib.Run
import Portus.Lib.Table

/-!
# The spec-change filter

`registry.rs` `spec_changes`: the watch's stream drops an `Apply` or `InitApply` whose
`spec_change_key` is the last one seen for the object's name. The key hashes the
generation, whether the object is being deleted, and the label and annotation pairs.

Two things make it miss a change. A name seen again after a re-list may be another
object at the same generation: objects deleted while the watch was down give no `Delete`,
and the key has no uid. And nothing separates the labels from the annotations, so a pair
that moves from the one to the other can leave the key as it was.
-/

namespace Portus.SpecChanges

open Portus Lib List Option AList

/-- A label or annotation map as a `BTreeMap` iterates: keys ascending, each once. -/
structure SortedMap where
  pairs : List (String × String)
  sorted : (pairs.map (·.1)).Pairwise (· < ·)

/-- What the filter and the controllers see of an object; `Spec` is its kind's spec. -/
structure Object (Spec : Type) where
  namespaceName : Option String
  name : String
  uid : Nat
  generation : Option Int
  deletionTimestamp : Option Int
  labels : Option SortedMap
  annotations : Option SortedMap
  spec : Spec

inductive Event (Spec : Type) where
  | apply (obj : Object Spec)
  | delete (obj : Object Spec)
  | init
  | initApply (obj : Object Spec)
  | initDone

abbrev Item (Spec : Type) := Except String (Event Spec)

variable {Spec : Type}

/-- `ObjectRef` compares namespace and name. -/
abbrev ObjectRef := Option String × String

def Object.ref (obj : Object Spec) : ObjectRef := (obj.namespaceName, obj.name)

/-- One write to a hasher. A text is written with an end mark that no text contains, so the writes
can be told apart in what is hashed. -/
inductive HashWrite where
  | isize (n : Int)
  | i64 (n : Int)
  | u8 (n : Nat)
  | str (s : String)
deriving DecidableEq

def pairsOf (m : Option SortedMap) : List (String × String) := (m.map (·.pairs)).getD []

def writePairs (pairs : List (String × String)) : List HashWrite :=
  pairs.flatMap fun (k, v) => [.str k, .str v]

def writeGeneration : Option Int → List HashWrite
  | none => [.isize 0]
  | some generation => [.isize 1, .i64 generation]

def keyWrites (obj : Object Spec) : List HashWrite :=
  writeGeneration obj.generation ++ .u8 (if obj.deletionTimestamp.isSome then 1 else 0) ::
      (writePairs (pairsOf obj.labels) ++ writePairs (pairsOf obj.annotations))

section Filter

variable (hash : List HashWrite → UInt64)

def specChangeKey (obj : Object Spec) : UInt64 := hash (keyWrites obj)

/-- The filter's memory, and, beside it, the event it last passed on for each name. -/
structure State (Spec : Type) where
  seen : Table ObjectRef UInt64
  lastPassed : ObjectRef → Option (Event Spec)

def initial : State Spec := ⟨∅, fun _ => none⟩

def Event.object? : Event Spec → Option (Object Spec)
  | .apply obj | .delete obj | .initApply obj => some obj
  | .init | .initDone => none

def Event.applied? : Event Spec → Option (Object Spec)
  | .apply obj | .initApply obj => some obj
  | .delete _ | .init | .initDone => none

def filterItem (seen : Table ObjectRef UInt64) (item : Item Spec) : Bool × Table ObjectRef UInt64 :=
  match item with
  | .ok (.apply obj) | .ok (.initApply obj) =>
    let key := specChangeKey hash obj
    (seen.lookup obj.ref != some key, seen.insert obj.ref key)
  | .ok (.delete obj) => (true, seen.erase obj.ref)
  | _ => (true, seen)

def step (s : State Spec) (item : Item Spec) : State Spec where
  seen := (filterItem hash s.seen item).2
  lastPassed ref :=
    match item with
    | .ok e =>
      if (filterItem hash s.seen item).1 ∧ e.object?.map Object.ref = some ref then some e
      else s.lastPassed ref
    | .error _ => s.lastPassed ref

end Filter

def Differs (a b : Object Spec) : Prop :=
  a.spec ≠ b.spec ∨ pairsOf a.labels ≠ pairsOf b.labels ∨
    pairsOf a.annotations ≠ pairsOf b.annotations ∨
    a.deletionTimestamp.isSome ≠ b.deletionTimestamp.isSome

/-- An object that differs from the one last passed on for its name is passed on. -/
def NotHidden (hash : List HashWrite → UInt64) (s : State Spec) (item : Item Spec) : Prop :=
  ∀ e obj last before, item = .ok e → e.applied? = some obj → s.lastPassed obj.ref = some last →
    last.object? = some before → Differs before obj → (filterItem hash s.seen item).1 = true

def objects (items : List (Item Spec)) : List (Object Spec) :=
  items.filterMap fun item => item.toOption.bind Event.object?

def CollisionFree (hash : List HashWrite → UInt64) (items : List (Item Spec)) : Prop :=
  ∀ a ∈ objects items, ∀ b ∈ objects items,
    specChangeKey hash a = specChangeKey hash b → keyWrites a = keyWrites b

/-- The API server bumps the generation with every spec change of one object. -/
def BumpsGeneration (items : List (Item Spec)) : Prop :=
  ∀ a ∈ objects items, ∀ b ∈ objects items,
    a.uid = b.uid → a.generation = b.generation → a.spec = b.spec

instance (hash : List HashWrite → UInt64) (items : List (Item Spec)) :
    Decidable (CollisionFree hash items) :=
  inferInstanceAs (Decidable (∀ a ∈ objects items, ∀ b ∈ objects items, _ → _))

instance [DecidableEq Spec] (items : List (Item Spec)) : Decidable (BumpsGeneration items) :=
  inferInstanceAs (Decidable (∀ a ∈ objects items, ∀ b ∈ objects items, _ → _ → _))

/-- An object is seen again as the same object or at another generation (unless a `Delete` came
first), and its metadata does not just move pairs across the end of the labels. -/
def Traceable (s : State Spec) (item : Item Spec) : Prop :=
  ∀ e obj last before, item = .ok e → e.applied? = some obj → s.lastPassed obj.ref = some last →
    last.applied? = some before → (before.uid = obj.uid ∨ before.generation ≠ obj.generation) ∧
        (pairsOf before.labels ++ pairsOf before.annotations =
            pairsOf obj.labels ++ pairsOf obj.annotations →
          pairsOf before.labels = pairsOf obj.labels)

theorem writePairs_append :
    writePairs (l ++ r) = writePairs l ++ writePairs r :=
  flatMap_append

theorem writePairs_injective : Function.Injective writePairs := by
  intro l r h
  induction l generalizing r with
  | nil =>
    cases r with
    | nil => rfl
    | cons p r => simp [writePairs] at h
  | cons p l ih =>
    cases r with
    | nil => simp [writePairs] at h
    | cons q r =>
      simp only [writePairs, flatMap_cons, cons_append, nil_append, List.cons.injEq,
        HashWrite.str.injEq] at h
      obtain ⟨hk, hv, hr⟩ := h
      rw [ih hr, Prod.ext hk hv]

theorem writeGeneration_inj
    (h : writeGeneration g ++ .u8 x :: l = writeGeneration g' ++ .u8 y :: r) :
    g = g' ∧ x = y ∧ l = r := by
  cases g <;> cases g' <;> simp_all [writeGeneration]

theorem eq_of_keyWrites_eq (h : keyWrites a = keyWrites b) : a.generation = b.generation ∧
      a.deletionTimestamp.isSome = b.deletionTimestamp.isSome ∧
      pairsOf a.labels ++ pairsOf a.annotations = pairsOf b.labels ++ pairsOf b.annotations := by
  obtain ⟨hg, hd, hp⟩ := writeGeneration_inj h
  rw [← writePairs_append, ← writePairs_append] at hp
  refine ⟨hg, ?_, writePairs_injective hp⟩
  cases ha : a.deletionTimestamp.isSome <;> cases hb : b.deletionTimestamp.isSome <;> simp_all

section Filter

variable {hash : List HashWrite → UInt64} {s : State Spec}

/-- The memory holds, for each name, the key of the object last passed on. -/
def Remembers (hash : List HashWrite → UInt64) (s : State Spec) : Prop :=
  ∀ ref, s.seen.lookup ref = ((s.lastPassed ref).bind Event.applied?).map (specChangeKey hash)

variable {e : Event Spec} {obj : Object Spec}

theorem remembers_applied (h : Remembers hash s) (he : e = .apply obj ∨ e = .initApply obj) :
    Remembers hash (step hash s (.ok e)) := by
  have hf : filterItem hash s.seen (.ok e) =
      (s.seen.lookup obj.ref != some (specChangeKey hash obj),
        s.seen.insert obj.ref (specChangeKey hash obj)) := by
    rcases he with rfl | rfl <;> rfl
  have ha : e.applied? = some obj ∧ e.object? = some obj := by
    rcases he with rfl | rfl <;> exact ⟨rfl, rfl⟩
  intro ref
  simp only [step, hf, ha.2, map_some, Option.some.injEq, bne_iff_ne]
  by_cases hr : obj.ref = ref
  · subst hr
    split
    · simp [ha.1]
    · rename_i hk
      rw [← h obj.ref]
      simpa [eq_comm] using hk
  · rw [lookup_insert_ne (Ne.symm hr), if_neg (fun hc => hr hc.2)]
    exact h ref

theorem remembers_step (h : Remembers hash s) (item : Item Spec) :
    Remembers hash (step hash s item) := by
  rcases item with error | e
  · exact h
  · cases e with
    | apply obj => exact remembers_applied h (.inl rfl)
    | initApply obj => exact remembers_applied h (.inr rfl)
    | delete obj =>
      intro ref
      simp only [step, filterItem, Event.object?, map_some, Option.some.injEq, true_and]
      by_cases hr : obj.ref = ref
      · subst hr
        simp [lookup_erase, Event.applied?]
      · rw [lookup_erase_ne (Ne.symm hr), if_neg hr]
        exact h ref
    | init | initDone =>
      intro ref
      exact h ref

def FromStream (items : List (Item Spec)) (s : State Spec) : Prop :=
  ∀ ref last obj, s.lastPassed ref = some last → last.object? = some obj → obj ∈ objects items

theorem mem_objects (hm : .ok e ∈ items) (ho : e.object? = some obj) : obj ∈ objects items :=
  mem_filterMap.2 ⟨.ok e, hm, ho⟩

theorem fromStream_step (h : FromStream items s) (hi : item ∈ items) :
    FromStream items (step hash s item) := by
  intro ref last obj hl ho
  rcases item with error | e
  · exact h ref last obj hl ho
  · simp only [step] at hl
    split at hl
    · cases hl
      exact mem_objects hi ho
    · exact h ref last obj hl ho

theorem object?_of_applied? (h : e.applied? = some obj) : e.object? = some obj := by
  cases e <;> simp_all [Event.applied?, Event.object?]

theorem passes_of_key_ne (h : e.applied? = some obj)
    (hne : s.seen.lookup obj.ref ≠ some (specChangeKey hash obj)) :
    (filterItem hash s.seen (.ok e)).1 = true := by
  cases e with
  | apply o | initApply o =>
    cases h
    exact bne_iff_ne.2 hne
  | delete | init | initDone => rfl

theorem not_differs_of_keyWrites_eq (hk : keyWrites before = keyWrites obj)
    (hs : before.uid = obj.uid → before.generation = obj.generation → before.spec = obj.spec)
    (hu : before.uid = obj.uid ∨ before.generation ≠ obj.generation)
    (hp : pairsOf before.labels ++ pairsOf before.annotations =
        pairsOf obj.labels ++ pairsOf obj.annotations →
      pairsOf before.labels = pairsOf obj.labels) : ¬ Differs before obj := by
  obtain ⟨hg, hd, hal⟩ := eq_of_keyWrites_eq hk
  have hl := hp hal
  have han : pairsOf before.annotations = pairsOf obj.annotations := by
    rw [hl] at hal
    exact append_cancel_left hal
  rintro (h | h | h | h)
  · exact h (hs (hu.resolve_right (not_not_intro hg)) hg)
  · exact h hl
  · exact h han
  · exact h hd

theorem notHidden_of_traceable (hf : CollisionFree hash items) (hbu : BumpsGeneration items)
    (hr : Remembers hash s) (hf' : FromStream items s) (hi : item ∈ items)
    (ht : Traceable s item) : NotHidden hash s item := by
  rintro e obj last before rfl ha hl hbe hd
  refine passes_of_key_ne ha fun hse => ?_
  rw [hr obj.ref, hl, map_eq_some_iff] at hse
  obtain ⟨o, ho, hk⟩ := hse
  have hsa : o = before := Option.some.inj ((object?_of_applied? ho).symm.trans hbe)
  subst hsa
  have hol := hf' obj.ref last o hl hbe
  have hn := mem_objects hi (object?_of_applied? ha)
  obtain ⟨hu, hp⟩ := ht e obj last o rfl ha hl ho
  exact not_differs_of_keyWrites_eq (hf o hol obj hn hk) (hbu o hol obj hn) hu hp
    hd

end Filter

/-- In every stream whose changes are traceable no change is hidden. -/
theorem notHidden_run {hash : List HashWrite → UInt64} {items : List (Item Spec)}
    (hfree : CollisionFree hash items) (hbumps : BumpsGeneration items)
    (hmeet : StepsMeet (step hash) Traceable initial items) :
    StepsMeet (step hash) (NotHidden hash) initial items := by
  have hm : StepsMeet (step hash) (fun _ item => item ∈ items) initial items :=
    .of_forall (fun _ h => h) initial
  refine StepsMeet.imp (I := fun s => Remembers hash s ∧ FromStream items s) ?_ ?_ ?_ (hmeet.and hm)
  · exact fun s item h hok => ⟨remembers_step h.1 item, fromStream_step h.2 hok.2⟩
  · exact fun s item h hok => notHidden_of_traceable hfree hbumps h.1 h.2 hok.2 hok.1
  · exact ⟨fun _ => rfl, fun _ _ _ h => by simp [initial] at h⟩

def oneLabel : SortedMap := ⟨[("tier", "gold")], .cons (by simp) .nil⟩

def route (uid : Nat) (generation : Int) (spec : String) : Object String where
  namespaceName := some "shop"
  name := "checkout"
  uid
  generation := some generation
  deletionTimestamp := none
  labels := none
  annotations := none
  spec

def updated : List (Item String) :=
  [.ok (.apply (route 1 1 "old")), .ok (.apply (route 1 2 "new")), .ok (.apply (route 1 2 "new"))]

/-- The route is deleted and created again while the watch is down. -/
def recreated : List (Item String) :=
  [.ok (.apply (route 1 1 "old")), .ok .init, .ok (.initApply (route 2 1 "new")), .ok .initDone]

def relabelled : List (Item String) :=
  [.ok (.apply { route 1 1 "old" with labels := some oneLabel }),
    .ok (.apply { route 1 1 "old" with annotations := some oneLabel })]

def generationHash (writes : List HashWrite) : UInt64 := if .i64 1 ∈ writes then 1 else 2

theorem updated_passes : CollisionFree generationHash updated ∧ BumpsGeneration updated ∧
      StepsMeet (step generationHash) Traceable initial updated ∧
      StepsMeet (step generationHash) (NotHidden generationHash) initial updated := by
  have hf : CollisionFree generationHash updated := by decide
  have hbu : BumpsGeneration updated := by decide
  have hm : StepsMeet (step generationHash) Traceable initial updated := by
    refine ⟨?_, ?_, ?_, trivial⟩
    · rintro e obj last before he hob hl hbe
      cases he
      cases hob
      cases hl
    · rintro e obj last before he hob hl hbe
      cases he
      cases hob
      have hol : last = .apply (route 1 1 "old") := Option.some.inj hl.symm
      subst hol
      cases hbe
      exact ⟨.inl rfl, fun _ => rfl⟩
    · rintro e obj last before he hob hl hbe
      cases he
      cases hob
      have hol : last = .apply (route 1 2 "new") := Option.some.inj hl.symm
      subst hol
      cases hbe
      exact ⟨.inl rfl, fun _ => rfl⟩
  exact ⟨hf, hbu, hm, notHidden_run hf hbu hm⟩

theorem not_notHidden {hash : List HashWrite → UInt64} {s : State Spec} {e : Event Spec}
    {obj : Object Spec} (ha : e.applied? = some obj)
    (hl : s.lastPassed obj.ref = some last) (hb : last.object? = some before)
    (hdi : Differs before obj) (hdr : (filterItem hash s.seen (.ok e)).1 = false) :
    ¬ NotHidden hash s (.ok e) := by
  intro h
  have := h e obj last before rfl ha hl hb hdi
  rw [hdr] at this
  exact absurd this (by decide)

theorem collisionFree_of_forall (writes : List HashWrite)
    (h : ∀ a ∈ objects items, keyWrites a = writes) (hash : List HashWrite → UInt64) :
    CollisionFree hash items :=
  fun a ha b hb _ => (h a ha).trans (h b hb).symm

/-- Whatever the hash, the filter drops the recreated route's spec, and the annotation that was a
label. -/
theorem recreated_hidden : BumpsGeneration recreated ∧ BumpsGeneration relabelled ∧
    ∀ hash : List HashWrite → UInt64,
      CollisionFree hash recreated ∧ ¬ StepsMeet (step hash) (NotHidden hash) initial recreated ∧
      CollisionFree hash relabelled ∧
        ¬ StepsMeet (step hash) (NotHidden hash) initial relabelled := by
  refine ⟨by decide, by decide, fun hash => ⟨?_, fun h => ?_, ?_, fun h => ?_⟩⟩
  · exact collisionFree_of_forall [.isize 1, .i64 1, .u8 0] (by decide) hash
  · refine not_notHidden rfl rfl rfl (.inl (by decide)) ?_ h.2.2.1
    exact bne_eq_false_iff_eq.2 (lookup_insert _)
  · exact collisionFree_of_forall
      [.isize 1, .i64 1, .u8 0, .str "tier", .str "gold"] (by decide) hash
  · refine not_notHidden rfl rfl
      rfl (.inr (.inl (by decide))) ?_ h.2.1
    exact bne_eq_false_iff_eq.2 (lookup_insert _)

end Portus.SpecChanges

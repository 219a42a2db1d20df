import Mathlib.Data.List.ReduceOption

/-!
# Machines that are fed in chunks

A reader takes its input element by element and is told where a chunk begins, so what it does may
depend on how the input was cut. `Reads P l Q` is a rule that does not: from a state of `P` the
input `l` leads to a state of `Q` in whatever chunks it comes. `Settles` is for a reader that can
be done before the input ends, and says with which element it is.
-/

namespace Portus.Lib

open List

structure Reader (σ α : Type) where
  step : σ → α → σ
  /-- A chunk begins. -/
  mark : σ → σ

namespace Reader

variable {σ α : Type} (r : Reader σ α)

def feed (s : σ) (chunk : List α) : σ := chunk.foldl r.step (r.mark s)

/-- Over an input in which `none` stands where a chunk begins. -/
def advance (s : σ) : Option α → σ
  | none => r.mark s
  | some a => r.step s a

def Reads (P : σ → Prop) (l : List α) (Q : σ → Prop) : Prop :=
  ∀ ⦃s⦄, P s → ∀ input : List (Option α), input.reduceOption = l → Q (input.foldl r.advance s)

/-- `P` does not depend on where chunks begin. -/
def Unmarked (P : σ → Prop) : Prop := ∀ ⦃s⦄, P s → P (r.mark s)

variable {r} {P P' Q Q' M : σ → Prop} {l l' : List α} {a : α}

theorem Unmarked.of_eq (h : r.mark s = s) : r.Unmarked (· = s) := by
  rintro _ rfl
  exact h

namespace Reads

theorem mono (h : r.Reads P l Q) (hP : ∀ ⦃s⦄, P' s → P s) (hQ : ∀ ⦃s⦄, Q s → Q' s) :
    r.Reads P' l Q' :=
  fun _ hs input hi => hQ (h (hP hs) input hi)

theorem nil (hP : r.Unmarked P) : r.Reads P [] P := by
  intro s hs input
  induction input generalizing s with
  | nil => exact fun _ => hs
  | cons o input ih =>
    intro hi
    cases o with
    | none => exact ih (hP hs) (by simpa using hi)
    | some a => simp at hi

theorem cons (hP : r.Unmarked P) (hst : ∀ ⦃s⦄, P s → M (r.step s a)) (hl : r.Reads M l Q) :
    r.Reads P (a :: l) Q := by
  intro s hs input
  induction input generalizing s with
  | nil => exact fun hi => absurd hi (by simp)
  | cons o input ih =>
    intro hi
    cases o with
    | none => exact ih (hP hs) (by simpa using hi)
    | some a' =>
      obtain ⟨rfl, hr⟩ : a' = a ∧ input.reduceOption = l := by simpa using hi
      exact hl (hst hs) input hr

theorem single (hP : r.Unmarked P) (hs : ∀ ⦃s⦄, P s → Q (r.step s a)) (hQ : r.Unmarked Q) :
    r.Reads P [a] Q :=
  cons hP hs (nil hQ)

theorem append (h : r.Reads P l M) (h' : r.Reads M l' Q) : r.Reads P (l ++ l') Q := by
  intro s hs input hi
  obtain ⟨before, after, rfl, hb, ha⟩ := filterMap_eq_append_iff.1 hi
  rw [foldl_append]
  exact h' (h hs before hb) after ha

theorem tail (h : r.Reads P (a :: l) Q) : r.Reads (fun s => ∃ s', P s' ∧ s = r.step s' a) l Q := by
  rintro _ ⟨s', hs', rfl⟩ input hi
  exact h hs' (some a :: input) (by simpa using hi)

theorem loop (hP : r.Unmarked P) (hs : ∀ a ∈ l, ∀ ⦃s⦄, P s → P (r.step s a)) : r.Reads P l P := by
  induction l with
  | nil => exact nil hP
  | cons a l ih =>
    exact cons hP (hs a (mem_cons_self ..)) (ih fun b hb => hs b (mem_cons_of_mem a hb))

theorem embed {f : List α → τ → σ} (hm : ∀ t q, r.mark (f t q) = f t q)
    (hs : ∀ t q a q', δ q a = some q' → r.step (f t q) a = f (t ++ [a]) q')
    (h : l.foldlM δ q = some q') (t : List α) : r.Reads (· = f t q) l (· = f (t ++ l) q') := by
  induction l generalizing q t with
  | nil =>
    obtain rfl : q = q' := by simpa using h
    rw [append_nil]
    exact nil (.of_eq (hm t q))
  | cons a l ih =>
    obtain ⟨q₁, hq₁, h⟩ : ∃ q₁, δ q a = some q₁ ∧ l.foldlM δ q₁ = some q' := by
      simpa [foldlM_cons, Option.bind_eq_some_iff] using h
    have hr := ih h (t ++ [a])
    rw [append_assoc] at hr
    refine cons (.of_eq (hm t q)) ?_ hr
    rintro _ rfl
    exact hs t q a q₁ hq₁

theorem feed_foldl (h : r.Reads P l Q) (hs : P s) {chunks : List (List α)}
    (hl : chunks.flatten = l) : Q (chunks.foldl r.feed s) := by
  have hm : ∀ (chunks : List (List α)) (s : σ), chunks.foldl r.feed s =
      (chunks.flatMap fun c => none :: c.map some).foldl r.advance s := by
    intro chunks
    induction chunks with
    | nil => exact fun _ => rfl
    | cons c chunks ih =>
      intro s
      rw [flatMap_cons, foldl_append, foldl_cons, foldl_cons, foldl_map, ih]
      rfl
  rw [hm]
  refine h hs _ ?_
  rw [← hl]
  clear hl hm
  induction chunks with
  | nil => rfl
  | cons c chunks ih =>
    rw [flatMap_cons, reduceOption_append, ih]
    simp [List.reduceOption]

end Reads

/-- From `P` the reader is done with the element `a` after `l`, in a state of `Q`, and not before. -/
structure Settles (r : Reader σ α) (done P : σ → Prop) (l : List α) (a : α) (Q : σ → Prop) : Prop
    where
  before : r.Reads P l fun s => ¬ done s
  after : r.Reads P (l ++ [a]) Q

variable {done : σ → Prop}

theorem Settles.of_step (h : r.Reads P l M) (hM : ∀ ⦃s⦄, M s → ¬ done s) (hu : r.Unmarked M)
    (hst : ∀ ⦃s⦄, M s → Q (r.step s a)) (hQ : r.Unmarked Q) : r.Settles done P l a Q where
  before := h.mono (fun _ hs => hs) hM
  after := h.append (.single hu hst hQ)

theorem Settles.prepend (h : r.Reads P l M) (hr : r.Settles done M l' a Q) :
    r.Settles done P (l ++ l') a Q where
  before := h.append hr.before
  after := by
    rw [append_assoc]
    exact h.append hr.after

theorem Settles.mono (h : r.Settles done P l a Q) (hP : ∀ ⦃s⦄, P' s → P s)
    (hQ : ∀ ⦃s⦄, Q s → Q' s) : r.Settles done P' l a Q' where
  before := h.before.mono hP fun _ hs => hs
  after := h.after.mono hP hQ

end Reader

def lengthUpTo {α : Type} : Nat → List (List α) → Nat
  | _, [] => 0
  | n, chunk :: rest =>
    if n ≤ chunk.length then chunk.length else chunk.length + lengthUpTo (n - chunk.length) rest

end Portus.Lib

import Mathlib.Data.List.Basic

/-!
# Watching a value

A publisher replaces one value again and again, and watchers follow it over streams. A stream first
yields the value that stands, and after that one that has replaced what it yielded last; values in
between are skipped. What was yielded travels to the watcher in order (`inflight`). The watcher
takes the first value of a stream as it comes and later ones only if they are accepted.
-/

namespace Portus.Lib

open List

structure Stream (V : Type) where
  /-- Nothing was received yet. -/
  first : Bool := true
  /-- The published value was not yielded yet. -/
  behind : Bool := true
  inflight : List V := []

/-- A watcher: what it holds, and its stream while it is connected. -/
structure Watcher (V R : Type) where
  held : R
  stream : Option (Stream V) := none

namespace Watcher

variable {V R : Type}

def connect (w : Watcher V R) : Watcher V R :=
  match w.stream with
  | none => { w with stream := some {} }
  | some _ => w

def disconnect (w : Watcher V R) : Watcher V R := { w with stream := none }

def notify (w : Watcher V R) : Watcher V R :=
  { w with stream := w.stream.map fun st => { st with behind := true } }

def poll (w : Watcher V R) (published : V) : Watcher V R :=
  { w with stream := w.stream.map fun st =>
      if st.behind then { st with behind := false, inflight := st.inflight ++ [published] } else st }

def receive (accepts : R → V → Bool) (take : V → R) (w : Watcher V R) : Watcher V R :=
  match w.stream with
  | none => w
  | some st =>
    match st.inflight with
    | [] => w
    | v :: rest =>
      if st.first || accepts w.held v then
        { held := take v, stream := some { st with first := false, inflight := rest } }
      else { w with stream := some { st with inflight := rest } }

def Drained (w : Watcher V R) : Prop := ∀ st ∈ w.stream, st.behind = false ∧ st.inflight = []

section InStep

variable (version : V → Nat) (heldVersion : R → Nat) (take : V → R)

def versions (held : R) (st : Stream V) : List Nat :=
  (if st.first then [] else [heldVersion held]) ++ st.inflight.map version

/-- A stream whose versions ascend to that of the published value. -/
structure StreamInStep (published : V) (held : R) (st : Stream V) : Prop where
  ascending : (versions version heldVersion held st).Pairwise (· < ·)
  bounded : ∀ v ∈ versions version heldVersion held st, v ≤ version published
  ahead : st.behind = true → ∀ v ∈ versions version heldVersion held st, v < version published
  current : st.behind = false →
    st.inflight.getLast? = some published ∨ st.inflight = [] ∧ held = take published

def InStep (published : V) (w : Watcher V R) : Prop :=
  ∀ st ∈ w.stream, StreamInStep version heldVersion take published w.held st

variable {version heldVersion take} {published : V} {w : Watcher V R}

theorem InStep.connect (h : InStep version heldVersion take published w) :
    InStep version heldVersion take published w.connect := by
  unfold Watcher.connect
  split
  next =>
    rintro _ ⟨⟩
    exact ⟨.nil, (fun _ hv => nomatch hv), (fun _ _ hv => nomatch hv), (fun hb => nomatch hb)⟩
  next => exact h

theorem inStep_disconnect : InStep version heldVersion take published w.disconnect :=
  fun _ hst => nomatch hst

section

variable (h : InStep version heldVersion take published w)

include h

theorem InStep.notify {next : V}
    (hn : version published < version next) : InStep version heldVersion take next w.notify := by
  intro st' hs
  obtain ⟨st, hst, rfl⟩ := Option.map_eq_some_iff.1 hs
  have hin := h st hst
  exact ⟨hin.ascending, fun v hv => Nat.le_trans (hin.bounded v hv) (Nat.le_of_lt hn),
    fun _ v hv => Nat.lt_of_le_of_lt (hin.bounded v hv) hn, (fun hb => nomatch hb)⟩

theorem InStep.poll : InStep version heldVersion take published (w.poll published) := by
  intro st' hs
  obtain ⟨st, hst, rfl⟩ := Option.map_eq_some_iff.1 hs
  have hin := h st hst
  split
  next hbe =>
    have hve : versions version heldVersion w.held
        { st with behind := false, inflight := st.inflight ++ [published] } =
          versions version heldVersion w.held st ++ [version published] := by
      simp [versions]
    refine ⟨?_, ?_, (fun hb => nomatch hb), fun _ => .inl getLast?_concat⟩
    · show (versions version heldVersion w.held _).Pairwise (· < ·)
      rw [hve]
      refine pairwise_append.2 ⟨hin.ascending, pairwise_singleton _ _, fun v hv u hu => ?_⟩
      rw [mem_singleton.1 hu]
      exact hin.ahead hbe v hv
    · show ∀ v ∈ versions version heldVersion w.held _, _
      rw [hve]
      intro v hv
      rcases mem_append.1 hv with hv | hv
      · exact hin.bounded v hv
      · exact Nat.le_of_eq (mem_singleton.1 hv)
  next => exact hin

theorem InStep.receive (hv : ∀ v, heldVersion (take v) = version v)
    (hac : ∀ r v, heldVersion r < version v → accepts r v = true) :
    InStep version heldVersion take published (w.receive accepts take) := by
  unfold Watcher.receive
  split
  next => exact h
  next st hst =>
    have hin := h st hst
    split
    next => exact h
    next v rest hi =>
      have ht : (st.first || accepts w.held v) = true := by
        cases hf : st.first with
        | true => rfl
        | false =>
          have has := hin.ascending
          rw [versions, hf, hi] at has
          exact hac w.held v ((pairwise_cons.1 has).1 _ mem_cons_self)
      rw [if_pos ht]
      rintro _ ⟨⟩
      -- the version that was next is now the one that is held
      have hs : (versions version heldVersion (take v)
          { st with first := false, inflight := rest }).Sublist
          (versions version heldVersion w.held st) := by
        simp only [versions, hi, Bool.false_eq_true, if_false, hv, map_cons]
        exact sublist_append_right _ _
      refine ⟨hin.ascending.sublist hs, fun u hu => hin.bounded u (hs.subset hu),
        fun hb u hu => hin.ahead hb u (hs.subset hu), fun hb => ?_⟩
      rcases hin.current hb with hl | ⟨hn, -⟩
      · rw [hi] at hl
        cases rest with
        | nil =>
          rw [getLast?_singleton, Option.some.injEq] at hl
          exact .inr ⟨rfl, by rw [hl]⟩
        | cons u rest => exact .inl ((getLast?_cons_cons).symm.trans hl)
      · rw [hn] at hi
        cases hi

theorem InStep.held_of_drained
    (hd : w.Drained) (hst : w.stream = some st) : w.held = take published := by
  obtain ⟨hb, hi⟩ := hd st hst
  rcases (h st hst).current hb with hl | ⟨-, hh⟩
  · rw [hi] at hl
    cases hl
  · exact hh

end

end InStep

end Watcher

end Portus.Lib

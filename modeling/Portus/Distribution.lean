import Mathlib.Data.List.Chain
import Portus.DataPlaneSessions
import Portus.Lib.Watch

/-!
# Distributing configurations

A data plane follows the slice of its Gateway over a stream of one controller at a time, and carries
what it has applied across reconnects. A fingerprint names the content of a slice. Only the empty
slice has the fingerprint 0, which `applyDecision` takes for that of a controller without
fingerprints: it compares generations instead, which every controller counts for itself.
-/

namespace Portus.Distribution

open Lib
open DataPlaneSessions (majorVersion ourMajor)

structure Fingerprints (C : Type) where
  of : C → UInt64
  injective : Function.Injective of
  empty : C
  of_empty : of empty = 0

structure AppliedConfig where
  fingerprint : UInt64 := 0
  version : UInt64 := 0

inductive ApplyDecision where
  | apply | heartbeat | stale
deriving DecidableEq

def applyDecision (fingerprint version : UInt64) (applied : AppliedConfig) : ApplyDecision :=
  if fingerprint ≠ 0 then
    if fingerprint = applied.fingerprint then .heartbeat else .apply
  else if version = applied.version ∧ 0 < applied.version then .heartbeat
  else if version < applied.version then .stale
  else .apply

def schemaVersion : String := "1.0.0"

def isSchemaCompatible (schema : String) : Bool := majorVersion schema == ourMajor

/-- The slice a controller streams; generation 0 says that nothing was compiled yet. -/
structure Slice (C : Type) where
  version : UInt64
  content : C

/-- What a data plane remembers, and the contents it has applied, the running one first. -/
structure DataPlane (C : Type) where
  applied : AppliedConfig := {}
  contents : List C := []

variable {C : Type} (F : Fingerprints C)

/-- One message of `connect_and_stream`. -/
def DataPlane.receive (d : DataPlane C) (slice : Slice C) : DataPlane C :=
  if slice.version = 0 ∨ isSchemaCompatible schemaVersion = false then d
  else if applyDecision (F.of slice.content) slice.version d.applied = .apply then
    ⟨⟨F.of slice.content, slice.version⟩, slice.content :: d.contents⟩
  else d

/-- What the controllers publish, the one the data plane streams from, and the data plane. -/
structure System (C : Type) where
  published : Nat → Slice C
  controller : Nat := 0
  dataPlane : Watcher (Slice C) (DataPlane C) := ⟨{}, none⟩

inductive Action (C : Type) where
  | publish (controller : Nat) (slice : Slice C)
  | connect (controller : Nat)
  | disconnect
  /-- The stream yields what is published. -/
  | poll
  | receive

def receiveNext (w : Watcher (Slice C) (DataPlane C)) : Watcher (Slice C) (DataPlane C) :=
  match w.stream with
  | some ⟨_, behind, slice :: rest⟩ => ⟨w.held.receive F slice, some ⟨false, behind, rest⟩⟩
  | _ => w

def step (s : System C) : Action C → System C
  | .publish c slice =>
    { s with
      published := Function.update s.published c slice
      dataPlane := if c = s.controller then s.dataPlane.notify else s.dataPlane }
  | .connect c =>
    if s.dataPlane.stream.isSome then s
    else { s with controller := c, dataPlane := s.dataPlane.connect }
  | .disconnect => { s with dataPlane := s.dataPlane.disconnect }
  | .poll => { s with dataPlane := s.dataPlane.poll (s.published s.controller) }
  | .receive => { s with dataPlane := receiveNext F s.dataPlane }

def start : System C := { published := fun _ => ⟨0, F.empty⟩ }

/-- A stream that has delivered what is published leaves the data plane running it, and no content
was applied over itself. -/
structure Converged (s : System C) : Prop where
  latest : ∀ st ∈ s.dataPlane.stream, st.behind = false → st.inflight = [] →
    (s.published s.controller).version ≠ 0 →
      s.dataPlane.held.contents.head? = some (s.published s.controller).content
  changes : s.dataPlane.held.contents.IsChain (· ≠ ·)

/-- An empty slice arrives with a generation above the applied one, unless it is running, and else
with one that is not above it. -/
def EmptyInOrder (d : DataPlane C) (slice : Slice C) : Prop :=
  slice.content = F.empty → slice.version ≠ 0 →
    (d.contents.head? = some F.empty ↔ slice.version ≤ d.applied.version)

def Orderly (s : System C) : Action C → Prop
  | .receive => ∀ st ∈ s.dataPlane.stream, ∀ slice ∈ st.inflight.head?,
      EmptyInOrder F s.dataPlane.held slice
  | _ => True

/-- The remembered fingerprint is that of the running content. -/
def DataPlane.Remembers (d : DataPlane C) : Prop :=
  d.applied.fingerprint = (d.contents.head?.map F.of).getD 0

variable {F} {d : DataPlane C} {slice : Slice C}

theorem applyDecision_eq_apply_iff (hd : d.Remembers F) (hv : slice.version ≠ 0)
    (ho : EmptyInOrder F d slice) :
    applyDecision (F.of slice.content) slice.version d.applied = .apply ↔
      d.contents.head? ≠ some slice.content := by
  unfold applyDecision
  by_cases he : F.of slice.content = 0
  · have hc : slice.content = F.empty := F.injective (he.trans F.of_empty.symm)
    have hp : slice.version = d.applied.version → 0 < d.applied.version := by
      intro h
      rw [← h]
      exact UInt64.pos_iff_ne_zero.2 hv
    rw [if_neg (not_not.2 he), ne_eq, hc, ho hc hv]
    split
    next h => simp [h.1]
    next h =>
      split
      next hlt => simp [UInt64.lt_asymm hlt]
      next hlt =>
        have hne : slice.version ≠ d.applied.version := fun heq => h ⟨heq, hp heq⟩
        simpa using UInt64.lt_of_le_of_ne (UInt64.not_lt.1 hlt) hne.symm
  · rw [if_pos he, hd]
    cases d.contents.head? with
    | none => simp [he]
    | some running => simp [F.injective.eq_iff, eq_comm]

theorem receive_eq (hd : d.Remembers F) (hv : slice.version ≠ 0)
    (ho : EmptyInOrder F d slice) :
    (d.contents.head? = some slice.content ∧ d.receive F slice = d) ∨
      (d.contents.head? ≠ some slice.content ∧ d.receive F slice =
        ⟨⟨F.of slice.content, slice.version⟩, slice.content :: d.contents⟩) := by
  have hs : isSchemaCompatible schemaVersion = true := by decide
  have ha := applyDecision_eq_apply_iff hd hv ho
  rw [DataPlane.receive, if_neg (by simp [hv, hs])]
  by_cases h : d.contents.head? = some slice.content
  · exact .inl ⟨h, if_neg fun hde => ha.1 hde h⟩
  · exact .inr ⟨h, if_pos (ha.2 h)⟩

variable (F) in
structure Inv (s : System C) : Prop where
  remembers : s.dataPlane.held.Remembers F
  changes : s.dataPlane.held.contents.IsChain (· ≠ ·)
  current : ∀ st ∈ s.dataPlane.stream, st.behind = false →
    st.inflight.getLast? = some (s.published s.controller) ∨ st.inflight = [] ∧
      ((s.published s.controller).version ≠ 0 →
        s.dataPlane.held.contents.head? = some (s.published s.controller).content)

theorem receive_spec (hd : d.Remembers F) (hc : d.contents.IsChain (· ≠ ·))
    (hor : EmptyInOrder F d slice) :
    (d.receive F slice).Remembers F ∧ (d.receive F slice).contents.IsChain (· ≠ ·) ∧
      (slice.version ≠ 0 → (d.receive F slice).contents.head? = some slice.content) := by
  by_cases hv : slice.version = 0
  · rw [DataPlane.receive, if_pos (.inl hv)]
    exact ⟨hd, hc, fun h => absurd hv h⟩
  · rcases receive_eq hd hv hor with ⟨hr, heq⟩ | ⟨hot, heq⟩
    · rw [heq]
      exact ⟨hd, hc, fun _ => hr⟩
    · rw [heq]
      refine ⟨rfl, List.isChain_cons.2 ⟨fun running hr hs => ?_, hc⟩, fun _ => rfl⟩
      exact hot (hs ▸ hr)

theorem inv_receive (h : Inv F s) (ho : Orderly F s .receive) : Inv F (step F s .receive) := by
  unfold step receiveNext
  dsimp only
  split
  next first behind slice rest hs =>
    obtain ⟨hd, hc, hr⟩ :=
      receive_spec h.remembers h.changes (ho _ hs slice rfl)
    refine ⟨hd, hc, ?_⟩
    rintro _ ⟨⟩ hb
    rcases h.current _ hs hb with hl | ⟨hn, -⟩
    · cases rest with
      | nil =>
        cases Option.some.inj hl
        exact .inr ⟨rfl, hr⟩
      | cons next rest => exact .inl hl
    · cases hn
  next => exact h

theorem inv_step (s : System C) (a : Action C) (h : Inv F s) (ho : Orderly F s a) :
    Inv F (step F s a) := by
  cases a with
  | publish c slice =>
    by_cases hc : c = s.controller
    · refine ⟨?_, ?_, fun st hst hbe => ?_⟩ <;> simp only [step, if_pos hc] at *
      · exact h.remembers
      · exact h.changes
      · obtain ⟨_, -, rfl⟩ := Option.map_eq_some_iff.1 hst
        cases hbe
    · refine ⟨?_, ?_, fun st hst hbe => ?_⟩ <;>
        simp only [step, if_neg hc, Function.update_of_ne (Ne.symm hc)] at *
      · exact h.remembers
      · exact h.changes
      · exact h.current st hst hbe
  | connect c =>
    by_cases hso : s.dataPlane.stream.isSome = true
    · rwa [step, if_pos hso]
    · have hn : s.dataPlane.stream = none := Option.not_isSome_iff_eq_none.1 hso
      rw [step, Watcher.connect, hn]
      refine ⟨h.remembers, h.changes, ?_⟩
      rintro _ ⟨⟩ hbe
      cases hbe
  | disconnect => exact ⟨h.remembers, h.changes, fun _ hst => nomatch hst⟩
  | poll =>
    refine ⟨h.remembers, h.changes, fun st' hst' hbe => ?_⟩
    obtain ⟨st, hst, rfl⟩ := Option.map_eq_some_iff.1 hst'
    split
    next => exact .inl List.getLast?_concat
    next hb => exact h.current st hst (Bool.eq_false_iff.2 hb)
  | receive => exact inv_receive h ho

/-- In every run whose empty slices arrive in order of their generations the data plane
converges. -/
theorem delivered_run {actions : List (Action C)}
    (h : StepsMeet (step F) (Orderly F) (start F) actions) :
    Converged (run (step F) (start F) actions) := by
  have hs : Inv F (start F) := ⟨rfl, .nil, fun _ hst => nomatch hst⟩
  have hinv := run_invariant inv_step hs h
  refine ⟨fun st hst hb hinf hv => ?_, hinv.changes⟩
  rcases hinv.current st hst hb with hl | ⟨-, hr⟩
  · rw [hinf] at hl
    cases hl
  · exact hr hv

/-- A slice with routes, or the empty one. -/
def routesOrNone : Fingerprints Bool where
  of routes := if routes then 7 else 0
  injective := by unfold Function.Injective; decide
  empty := false
  of_empty := rfl

def routesApplied : List (Action Bool) := [.publish 0 ⟨1, true⟩, .connect 0, .poll, .receive]

/-- The routes of the Gateway go, and the next generation is empty. -/
theorem converged_next_generation : Converged (run (step routesOrNone) (start routesOrNone)
    (routesApplied ++ [.publish 0 ⟨2, false⟩, .poll, .receive])) := by
  refine delivered_run ⟨trivial, trivial, trivial, ?_, trivial, trivial, ?_, trivial⟩
  · rintro _ ⟨⟩ _ ⟨⟩ he
    cases he
  · rintro _ ⟨⟩ _ ⟨⟩ - -
    decide

/-- The controller restarts after the routes are gone, and counts from 1 again: its empty slice is
taken for a heartbeat. -/
theorem restarted_empty_is_ignored : ¬ Converged (run (step routesOrNone) (start routesOrNone)
    (routesApplied ++ [.disconnect, .publish 1 ⟨1, false⟩, .connect 1, .poll, .receive])) :=
  fun h => absurd (h.latest _ rfl rfl rfl (by decide)) (by decide)

end Portus.Distribution

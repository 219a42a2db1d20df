/-!
# Runs

A system takes actions one after the other: `run step s actions`. Whatever is left
open about a step (an order of iteration, a result from outside) is part of the
action, so a statement about every list of actions is one about every execution, and,
since every beginning of a list is a list, about every state on the way.
-/

namespace Portus.Lib

variable {S A : Type}

def run (step : S → A → S) (s : S) (actions : List A) : S := actions.foldl step s

/-- Every action of the run is taken in a state that `ok` admits for it. -/
def StepsMeet (step : S → A → S) (ok : S → A → Prop) : S → List A → Prop
  | _, [] => True
  | s, a :: actions => ok s a ∧ StepsMeet step ok (step s a) actions

instance StepsMeet.decidable {step : S → A → S} {ok : S → A → Prop} [∀ s a, Decidable (ok s a)] :
    ∀ s actions, Decidable (StepsMeet step ok s actions)
  | _, [] => isTrue trivial
  | s, a :: actions =>
    @instDecidableAnd _ _ (inferInstance : Decidable (ok s a))
      (StepsMeet.decidable (step s a) actions)

variable {step : S → A → S} {ok : S → A → Prop} {s : S} {actions : List A}

theorem run_invariant {Inv : S → Prop} (keep : ∀ s a, Inv s → ok s a → Inv (step s a))
    (init : Inv s) (meet : StepsMeet step ok s actions) : Inv (run step s actions) := by
  induction actions generalizing s with
  | nil => exact init
  | cons a actions ih => exact ih (keep s a init meet.1) meet.2

theorem run_keeps {Inv : S → Prop} (keep : ∀ s a, Inv s → Inv (step s a)) (init : Inv s)
    (actions : List A) : Inv (run step s actions) := by
  induction actions generalizing s with
  | nil => exact init
  | cons a actions ih => exact ih (keep s a init)

theorem StepsMeet.of_forall {P : A → Prop} (h : ∀ a ∈ actions, P a) (s : S) :
    StepsMeet step (fun _ a => P a) s actions := by
  induction actions generalizing s with
  | nil => trivial
  | cons a actions ih =>
    exact ⟨h a List.mem_cons_self, ih (fun b hb => h b (List.mem_cons_of_mem a hb)) _⟩

theorem StepsMeet.of_prefix (h : StepsMeet step ok s actions) (hp : p <+: actions) :
    StepsMeet step ok s p := by
  induction p generalizing s actions with
  | nil => trivial
  | cons a p ih =>
    obtain ⟨rest, rfl⟩ := hp
    exact ⟨h.1, ih h.2 (List.prefix_append p rest)⟩

theorem StepsMeet.and (h : StepsMeet step ok s actions) (h' : StepsMeet step ok' s actions) :
    StepsMeet step (fun s a => ok s a ∧ ok' s a) s actions := by
  induction actions generalizing s with
  | nil => trivial
  | cons a actions ih => exact ⟨⟨h.1, h'.1⟩, ih h.2 h'.2⟩

theorem StepsMeet.imp {I : S → Prop} (keep : ∀ s a, I s → ok s a → I (step s a))
    (hi : ∀ s a, I s → ok s a → ok' s a) (init : I s) (meet : StepsMeet step ok s actions) :
    StepsMeet step ok' s actions := by
  induction actions generalizing s with
  | nil => trivial
  | cons a actions ih => exact ⟨hi s a init meet.1, ih (keep s a init meet.1) meet.2⟩

/-- If a step keeps `I` exactly when it is admitted, a run keeps `I` all along exactly when all its
steps are admitted. `J` is what every step keeps. -/
theorem stepsMeet_iff {I J : S → Prop} (hJ : ∀ s a, J s → J (step s a))
    (hi : ∀ s a, J s → I s → (I (step s a) ↔ ok s a)) (initJ : J s) (initI : I s)
    (actions : List A) :
    StepsMeet step (fun s a => I (step s a)) s actions ↔ StepsMeet step ok s actions := by
  induction actions generalizing s with
  | nil => exact Iff.rfl
  | cons a actions ih =>
    have ha := hi s a initJ initI
    constructor
    · intro h
      exact ⟨ha.1 h.1, (ih (hJ s a initJ) h.1).1 h.2⟩
    · intro h
      have hI := ha.2 h.1
      exact ⟨hI, (ih (hJ s a initJ) hI).2 h.2⟩

end Portus.Lib

import Mathlib.Algebra.Order.Ring.Nat
import Portus.BudgetChecks

/-!
# Requests admitted at the same time

`Budgets::check` reads what is left of a budget and, if the estimate fits, adds it to the
reservations. A run here is a list of such reads and writes in any order; no sync or settlement
comes between, but the window may end. What the pod has let in should not be more than it had left.

Each write is one atomic addition, but nothing ties it to its read: requests that read the
same figure are all let in. They stay within the budget where each finds the reservations as it
has read them, as it would with a compare-and-swap.
-/

namespace Portus.ConcurrentAdmission

open Lib DataPlane.Budget BudgetChecks

/-- A request that has read enough and is about to reserve; `seen` are the reservations it read. -/
structure Decided where
  estimate : UInt64
  seen : UInt64

/-- The pod, the requests that have read and not yet written, and the estimates of those that were
let in. -/
structure Admissions where
  pod : Pod
  decided : List Decided
  allowed : List UInt64

inductive Action where
  /-- A request calls `check` and reads the counter. -/
  | read (estimate now : UInt64) (accepted : Bool)
  /-- One of the requests that read enough reserves its estimate. -/
  | reserve (i : Nat) (accepted : Bool)

section

variable (policy : BudgetPolicy)

def step (s : Admissions) : Action → Admissions
  | .read estimate now accepted =>
    let pod := s.pod.atWindow policy now
    if !pod.counter.synced then { s with pod := pod.ask accepted }
    else if pod.admits estimate then
      { s with pod, decided := s.decided ++ [⟨estimate, pod.counter.reserved⟩] }
    else { s with pod }
  | .reserve i accepted =>
    match s.decided[i]? with
    | some d =>
      { pod := s.pod.reserve policy d.estimate accepted
        decided := s.decided.eraseIdx i
        allowed := s.allowed ++ [d.estimate] }
    | none => s

def start (pod : Pod) : Admissions :=
  ⟨{ pod with counter := pod.counter.underPolicy policy }, [], []⟩

/-- A read and a write with nothing between them are `check`. -/
theorem run_read_reserve {s : Admissions} {estimate now : UInt64} (accepted : Bool)
    (ha : (s.pod.atWindow policy now).admits estimate = true) (hd : s.decided = []) :
    (run (step policy) s [.read estimate now accepted, .reserve 0 accepted]).pod =
      (s.pod.check policy estimate now accepted).1 := by
  have hs : (s.pod.atWindow policy now).counter.synced = true := (Bool.and_eq_true_iff.1 ha).1
  rw [Pod.check_eq_reserve _ accepted ha]
  simp [run, step, hs, ha, hd]

end

def allowedSum (s : Admissions) : Nat := (s.allowed.map UInt64.toNat).sum

/-- The requests that were let in fit into what was left before them. -/
def WithinBudget (policy : BudgetPolicy) (pod : Pod) (s : Admissions) : Prop :=
  s.allowed = [] ∨ allowedSum s ≤ left (pod.counter.underPolicy policy)

/-- The signed figures of a read do not wrap around, and a write finds the reservations as its
request has read them. -/
def Undisturbed (policy : BudgetPolicy) (s : Admissions) : Action → Prop
  | .read estimate now _ =>
    estimate.toNat < 2 ^ 63 ∧ -2 ^ 63 ≤ left (s.pod.atWindow policy now).counter
  | .reserve i _ => ∀ d ∈ s.decided[i]?, s.pod.counter.reserved = d.seen

/-- The counter's figures are those before the requests, with what they have reserved. Once the
window has ended nothing is spent, and the counter has to be synced again. -/
structure Figures (policy : BudgetPolicy) (pod : Pod) (s : Admissions) : Prop where
  budget : s.pod.counter.budget = policy.limit
  spent : (s.pod.counter.globalSpent = pod.counter.globalSpent ∧
      s.pod.counter.unsyncedSpent = pod.counter.unsyncedSpent) ∨
    s.pod.counter.globalSpent = 0 ∧ s.pod.counter.unsyncedSpent = 0 ∧ s.pod.counter.synced = false
  reserved : s.pod.counter.reserved = pod.counter.reserved + UInt64.ofNat (allowedSum s)

variable {policy : BudgetPolicy} {pod : Pod} {s : Admissions}

theorem ask_counter {accepted : Bool} : (pod.ask accepted).counter =
    { pod.counter with syncing := (pod.ask accepted).counter.syncing } := by
  unfold Pod.ask
  split
  · rfl
  · split <;> rfl

theorem reserve_counter (policy : BudgetPolicy) (pod : Pod) (estimate : UInt64) (accepted : Bool) :
    (pod.reserve policy estimate accepted).counter = { pod.counter with
      reserved := pod.counter.reserved + estimate
      syncing := (pod.reserve policy estimate accepted).counter.syncing } := by
  unfold Pod.reserve
  dsimp only
  split
  · exact ask_counter
  · rfl

theorem figures_start : Figures policy pod (start policy pod) :=
  ⟨rfl, .inl ⟨rfl, rfl⟩, (UInt64.add_zero _).symm⟩

theorem Figures.atWindow (h : Figures policy pod s) (now : UInt64) (decided : List Decided) :
    Figures policy pod ⟨s.pod.atWindow policy now, decided, s.allowed⟩ := by
  unfold Pod.atWindow
  dsimp only
  split
  · exact ⟨rfl, .inr ⟨rfl, rfl, rfl⟩, h.reserved⟩
  · exact ⟨rfl, h.spent, h.reserved⟩

theorem Figures.ask (h : Figures policy pod s) (accepted : Bool) :
    Figures policy pod { s with pod := s.pod.ask accepted } := by
  constructor <;> rw [ask_counter]
  · exact h.budget
  · exact h.spent
  · exact h.reserved

theorem Figures.reserve (h : Figures policy pod s) (estimate : UInt64) (accepted : Bool)
    (decided : List Decided) :
    Figures policy pod
      ⟨s.pod.reserve policy estimate accepted, decided, s.allowed ++ [estimate]⟩ := by
  constructor <;> rw [reserve_counter]
  · exact h.budget
  · exact h.spent
  · simp [allowedSum, h.reserved, UInt64.ofNat_add, UInt64.add_assoc]

theorem figures_step (s : Admissions) (a : Action) (h : Figures policy pod s) :
    Figures policy pod (step policy s a) := by
  cases a with
  | read estimate now accepted =>
    unfold step
    dsimp only
    split
    · exact (h.atWindow now s.decided).ask accepted
    · split <;> exact h.atWindow now _
  | reserve i accepted =>
    unfold step
    dsimp only
    split
    · exact h.reserve _ accepted _
    · exact h

/-- No reservation is lost or made twice, however the requests interleave. -/
theorem figures_run (policy : BudgetPolicy) (pod : Pod) (actions : List Action) :
    Figures policy pod (run (step policy) (start policy pod) actions) :=
  run_keeps figures_step figures_start actions

/-- Each of the requests about to write has read that its estimate fits. -/
structure Admitted (policy : BudgetPolicy) (pod : Pod) (s : Admissions) : Prop where
  figures : Figures policy pod s
  fits : ∀ d ∈ s.decided, (d.estimate.toNat : Int) ≤
    left { pod.counter.underPolicy policy with reserved := d.seen }
  within : WithinBudget policy pod s

theorem le_left_of_admits {estimate : UInt64} (h : pod.admits estimate = true)
    (he : estimate.toNat < 2 ^ 63) (hl : -2 ^ 63 ≤ left pod.counter) :
    (estimate.toNat : Int) ≤ left pod.counter := by
  rw [Pod.admits, Bool.and_eq_true, Bool.not_eq_true', decide_eq_false_iff_not, not_or,
    Int64.not_le, Int64.not_lt, Int64.lt_iff_toInt_lt, Int64.le_iff_toInt_le, toInt_toInt64,
    toInt_remaining] at h
  have hb := pod.counter.budget.toNat_lt
  obtain ⟨-, hpos, hle⟩ := h
  have hz : (0 : Int64).toInt = 0 := rfl
  simp only [left, Int.bmod_def, hz] at hpos hle hl ⊢
  split_ifs at hpos hle <;> omega

theorem admitted_read {estimate now : UInt64} {accepted : Bool} (h : Admitted policy pod s)
    (hok : Undisturbed policy s (.read estimate now accepted)) :
    Admitted policy pod (step policy s (.read estimate now accepted)) := by
  refine ⟨figures_step s _ h.figures, fun d hd => ?_, ?_⟩
  · unfold step at hd
    dsimp only at hd
    split at hd
    · exact h.fits d hd
    next hs =>
      split at hd
      next ha =>
        rcases List.mem_append.1 hd with hd | hd
        · exact h.fits d hd
        · cases List.mem_singleton.1 hd
          -- a counter that is synced is still in the window it started in
          have hle := le_left_of_admits ha hok.1 hok.2
          obtain ⟨hb, hspent, -⟩ := h.figures.atWindow now s.decided
          obtain ⟨hg, hu⟩ := hspent.resolve_right fun hr => hs (by simpa using hr.2.2)
          rw [left, hb, hg, hu] at hle
          exact hle
      · exact h.fits d hd
  · have ha : (step policy s (.read estimate now accepted)).allowed = s.allowed := by
      unfold step
      dsimp only
      split
      · rfl
      · split <;> rfl
    unfold WithinBudget allowedSum
    rw [ha]
    exact h.within

theorem admitted_reserve {i : Nat} {accepted : Bool} (h : Admitted policy pod s)
    (hok : Undisturbed policy s (.reserve i accepted)) :
    Admitted policy pod (step policy s (.reserve i accepted)) := by
  have hf' := figures_step s (.reserve i accepted) h.figures
  unfold step at hf' ⊢
  dsimp only at hf' ⊢
  split at hf'
  next d hd =>
    refine ⟨hf', fun d' hd' => h.fits d' (List.mem_of_mem_eraseIdx hd'), .inr ?_⟩
    have hs := hok d hd
    have hf := h.fits d (List.mem_of_getElem? hd)
    have hsum : allowedSum s ≤ left (pod.counter.underPolicy policy) ∨ allowedSum s = 0 :=
      h.within.symm.imp id fun hn => by simp [allowedSum, hn]
    have hr := h.figures.reserved
    rw [hs] at hr
    have hseen : d.seen.toNat = pod.counter.reserved.toNat + allowedSum s := by
      have hl := policy.limit.toNat_lt
      have hp := pod.counter.reserved.toNat_lt
      rw [hr, UInt64.toNat_add, UInt64.toNat_ofNat']
      simp only [left, Counter.underPolicy] at hsum
      omega
    simp only [left, Counter.underPolicy, hseen, allowedSum, List.map_append, List.sum_append,
      List.map_cons, List.map_nil, List.sum_cons, List.sum_nil] at hf ⊢
    omega
  next => exact h

/-- **Concurrent admissions**: the requests stay within the budget in every run in which each write
finds the reservations as its request has read them. -/
theorem withinBudget_run (policy : BudgetPolicy) (pod : Pod) (actions : List Action)
    (meet : StepsMeet (step policy) (Undisturbed policy) (start policy pod) actions) :
    WithinBudget policy pod (run (step policy) (start policy pod) actions) := by
  have hs : Admitted policy pod (start policy pod) := ⟨figures_start, by simp [start], .inl rfl⟩
  refine (run_invariant (fun s a h hok => ?_) hs meet).within
  cases a with
  | read estimate now accepted => exact admitted_read h hok
  | reserve i accepted => exact admitted_reserve h hok

/-- Two requests one after the other use the budget up, and a third is refused. -/
theorem withinBudget_inTurn :
    WithinBudget ⟨10, 10, .tokens⟩ tenLeft (run (step ⟨10, 10, .tokens⟩)
      (start ⟨10, 10, .tokens⟩ tenLeft) [.read 4 5 true, .read 7 5 true, .reserve 0 true,
        .read 6 5 true, .reserve 1 true, .read 1 5 true]) := by
  refine withinBudget_run _ _ _ ⟨⟨?_, ?_⟩, ⟨?_, ?_⟩, fun d hd => ?_, ⟨?_, ?_⟩, fun d hd => ?_,
    ⟨?_, ?_⟩, trivial⟩
  case refine_5 | refine_8 =>
    cases hd
    rfl
  all_goals decide +kernel

/-- Both read ten and reserve ten. -/
theorem twoReads_overReserve :
    ¬ ∀ policy pod actions, WithinBudget policy pod (run (step policy) (start policy pod) actions) := by
  intro h
  have hw := h ⟨10, 10, .tokens⟩ tenLeft
    [.read 10 5 true, .read 10 5 true, .reserve 0 true, .reserve 0 true]
  revert hw
  unfold WithinBudget
  decide

end Portus.ConcurrentAdmission

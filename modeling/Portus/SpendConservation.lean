import Mathlib.Algebra.BigOperators.Group.Finset.Basic
import Mathlib.Algebra.Order.BigOperators.Group.Finset
import Mathlib.Data.Fintype.BigOperators
import Mathlib.Tactic.Abel
import Portus.DataPlane.Budget
import Portus.Lib.Run

/-!
# Conservation of budget spend

Pods and the ledger (`portus-ledger/src/budget.rs` `sync_alerting`) over one window of one
counter. The ledger's total and the pods' unsynced spend should make up all that was settled
whenever no sync is in flight.

`swap` takes the delta out of `unsynced_spent`, and `apply_sync` then subtracts it again
(or, on a pod's first answer in a window, clears the counter): what is settled on the pod
between the two is dropped. Nothing is lost in a run in which every answer finds the
counter as the swap left it.
-/

namespace Portus.SpendConservation

open Portus Lib DataPlane.Budget Function

def asI64 (delta : UInt64) : Int := delta.toInt64.toInt

abbrev Row := Option Int

def total (row : Row) : Int := row.getD 0

/-- `INSERT … ON CONFLICT DO UPDATE SET spent = spend.spent + delta`. -/
def addDelta (row : Row) (delta : UInt64) : Row := some (total row + asI64 delta)

def answeredTotal (row : Row) : UInt64 := UInt64.ofNat (max (total row) 0).toNat

inductive PodAction where
  | check (policy : BudgetPolicy) (estimate now : UInt64) (accepted : Bool)
  | refresh (policy : BudgetPolicy) (now : UInt64) (accepted : Bool)
  | tick (now : UInt64) (accepted : Bool)
  | settle (i : Nat) (tokens : Option Tokens)
  | drop (i : Nat)
  | noClient
  | swap
  | store
  | fail
  | answer (now : UInt64)

section

-- the end of the window
variable (window : UInt64)

/-- One step of a pod with the ledger's row, and what it settles. Steps that look at the clock are
those of the window: `now < window`. -/
def act (pod : Pod) (row : Row) : PodAction → Pod × Row × Nat
  | .check policy estimate now accepted =>
    (if now < window then (pod.check policy estimate now accepted).1 else pod, row, 0)
  | .refresh policy now accepted =>
    (if now < window then pod.refreshIfStale policy now accepted else pod, row, 0)
  | .tick now accepted => (if now < window then pod.tick now accepted else pod, row, 0)
  | .settle i tokens => (pod.settle i tokens, row, (pod.settledBy i tokens).toNat)
  | .drop i => (pod.drop i, row, (pod.settledBy i none).toNat)
  | .noClient => (pod.noClient, row, 0)
  | .swap => (pod.swap, row, 0)
  | .store =>
    match pod.sync with
    | .shipped delta =>
      let row := addDelta row delta
      ({ pod with sync := .stored delta (answeredTotal row) window }, row, 0)
    | _ => (pod, row, 0)
  | .fail => (pod.fail, row, 0)
  | .answer now => (pod.answer now, row, 0)

structure System (n : Nat) where
  pods : Fin n → Pod
  row : Row
  settled : Nat

variable {n : Nat}

def step (s : System n) (pa : Fin n × PodAction) : System n :=
  let r := act window (s.pods pa.1) s.row pa.2
  { pods := Function.update s.pods pa.1 r.1
    row := r.2.1
    settled := s.settled + r.2.2 }

end

def inFlight (pod : Pod) : Bool :=
  match pod.sync with
  | .shipped _ | .stored _ _ _ => true
  | .idle | .queued => false

variable {n : Nat}

/-- With no sync in flight, the ledger's total and the pods' unsynced spend are what was settled. -/
def Conserved (s : System n) : Prop :=
  (∀ p, inFlight (s.pods p) = false) →
    total s.row + ∑ p, ((s.pods p).counter.unsyncedSpent.toNat : Int) = s.settled

structure Fresh (pod : Pod) : Prop where
  windowEnd : pod.counter.windowEnd = 0
  unsyncedSpent : pod.counter.unsyncedSpent = 0
  sync : pod.sync = .idle

def start (pods : Fin n → Pod) : System n := ⟨pods, none, 0⟩

/-- The answer finds the counter as the swap left it: nothing was settled since, or nothing was
shipped and the counter is in the window already. -/
def AnswerLossless (pod : Pod) : Prop :=
  ∀ delta spentTotal windowEnd, pod.sync = .stored delta spentTotal windowEnd →
    pod.counter.unsyncedSpent = 0 ∨ (delta = 0 ∧ pod.counter.windowEnd = windowEnd)

instance (pod : Pod) : Decidable (AnswerLossless pod) :=
  inferInstanceAs (Decidable (∀ delta spentTotal windowEnd,
    pod.sync = .stored delta spentTotal windowEnd →
      pod.counter.unsyncedSpent = 0 ∨ (delta = 0 ∧ pod.counter.windowEnd = windowEnd)))

/-- Steps that lose nothing: answers are lossless, and the sum stays within a signed 64-bit total. -/
def Lossless (s : System n) (pa : Fin n × PodAction) : Prop :=
  match pa.2 with
  | .answer _ => AnswerLossless (s.pods pa.1)
  | .settle i tokens => s.settled + ((s.pods pa.1).settledBy i tokens).toNat < 2 ^ 63
  | .drop i => s.settled + ((s.pods pa.1).settledBy i none).toNat < 2 ^ 63
  | _ => True

/-- Spend a pod answers for: unsynced, or in a request the ledger has not stored. -/
def held (pod : Pod) : Nat :=
  pod.counter.unsyncedSpent.toNat +
    match pod.sync with
    | .shipped delta => delta.toNat
    | _ => 0

structure PodInv (window : UInt64) (pod : Pod) : Prop where
  inWindow : pod.counter.windowEnd = 0 ∨ pod.counter.windowEnd = window
  asked : pod.counter.syncing = false → pod.sync = .idle
  answered : ∀ delta spentTotal windowEnd,
    pod.sync = .stored delta spentTotal windowEnd → windowEnd = window

/-- A step that at most queues a sync. -/
structure Unmoved (pod pod' : Pod) : Prop where
  unsyncedSpent : pod'.counter.unsyncedSpent = pod.counter.unsyncedSpent
  windowEnd : pod'.counter.windowEnd = pod.counter.windowEnd
  sync : (pod'.sync = pod.sync ∧ pod'.counter.syncing = pod.counter.syncing) ∨
    (pod.sync = .idle ∧ pod'.sync = .queued ∧ pod'.counter.syncing = true)

variable {window : UInt64} {pod pod' : Pod}

theorem Unmoved.held_eq (h : Unmoved pod pod') : held pod' = held pod := by
  rcases h.sync with ⟨hs, -⟩ | ⟨hi, hq, -⟩
  · simp [held, h.unsyncedSpent, hs]
  · simp [held, h.unsyncedSpent, hi, hq]

theorem Unmoved.podInv (h : Unmoved pod pod') (inv : PodInv window pod) : PodInv window pod' := by
  refine ⟨h.windowEnd ▸ inv.inWindow, fun hs => ?_, fun delta spentTotal windowEnd hs => ?_⟩
  · rcases h.sync with ⟨hsync, hs'⟩ | ⟨-, -, hs'⟩
    · exact hsync ▸ inv.asked (hs' ▸ hs)
    · exact absurd (hs'.symm.trans hs) (by decide)
  · rcases h.sync with ⟨hsync, -⟩ | ⟨-, hq, -⟩
    · exact inv.answered delta spentTotal windowEnd (hsync ▸ hs)
    · exact absurd (hq.symm.trans hs) (by simp)

theorem Unmoved.refl (pod : Pod) : Unmoved pod pod := ⟨rfl, rfl, .inl ⟨rfl, rfl⟩⟩

theorem Unmoved.trans {pod'' : Pod} (h : Unmoved pod pod') (h' : Unmoved pod' pod'') :
    Unmoved pod pod'' := by
  refine ⟨h'.unsyncedSpent.trans h.unsyncedSpent, h'.windowEnd.trans h.windowEnd, ?_⟩
  rcases h.sync with ⟨hsync, hs⟩ | ⟨hidle, hq, hs⟩
  · rw [← hsync, ← hs]
    exact h'.sync
  · rcases h'.sync with ⟨hsync', hs'⟩ | ⟨hidle', -⟩
    · exact .inr ⟨hidle, hsync'.trans hq, hs'.trans hs⟩
    · exact absurd (hq.symm.trans hidle') (by simp)

theorem Unmoved.of_counter (hsp : pod'.counter.unsyncedSpent = pod.counter.unsyncedSpent)
    (he : pod'.counter.windowEnd = pod.counter.windowEnd) (hsync : pod'.sync = pod.sync)
    (hs : pod'.counter.syncing = pod.counter.syncing) : Unmoved pod pod' :=
  ⟨hsp, he, .inl ⟨hsync, hs⟩⟩

theorem ask_unmoved (ha : pod.counter.syncing = false → pod.sync = .idle) (accepted : Bool) :
    Unmoved pod (pod.ask accepted) := by
  unfold Pod.ask
  split
  · exact .refl pod
  · rename_i hs
    split
    · exact ⟨rfl, rfl, .inr ⟨ha (by simpa using hs), rfl, rfl⟩⟩
    · exact .refl pod

theorem windowOver_eq_false (inv : PodInv window pod) {now : UInt64} (hn : now < window) :
    pod.windowOver now = false := by
  unfold Pod.windowOver
  rcases inv.inWindow with he | he
  · simp [he]
  · simp [he, UInt64.not_le.2 hn]

theorem atWindow_eq (inv : PodInv window pod) {now : UInt64}
    (hn : now < window) :
    pod.atWindow policy now = { pod with counter := pod.counter.underPolicy policy } := by
  have ho : ({ pod with counter := pod.counter.underPolicy policy } : Pod).windowOver now
      = false := windowOver_eq_false inv hn
  simp [Pod.atWindow, ho]

theorem check_unmoved_atWindow (ha : pod.counter.syncing = false → pod.sync = .idle) :
    Unmoved (pod.atWindow policy now) (pod.check policy estimate now accepted).1 := by
  have hasked' : (pod.atWindow policy now).counter.syncing = false →
      (pod.atWindow policy now).sync = .idle := by
    unfold Pod.atWindow
    dsimp only
    split <;> exact ha
  unfold Pod.check
  generalize pod.atWindow policy now = pod at hasked'
  dsimp only
  split
  · exact ask_unmoved hasked' accepted
  · split
    · exact .refl pod
    · have hr : Unmoved pod { pod with
            counter := { pod.counter with reserved := pod.counter.reserved + estimate }
            reservations := pod.reservations ++ [⟨estimate, false⟩] } :=
        .of_counter rfl rfl rfl rfl
      split
      · refine hr.trans (ask_unmoved ?_ accepted)
        exact hasked'
      · exact hr

theorem check_unmoved (inv : PodInv window pod)
    {now : UInt64} (hn : now < window) :
    Unmoved pod (pod.check policy estimate now accepted).1 := by
  have hp : Unmoved pod (pod.atWindow policy now) := by
    rw [atWindow_eq inv hn]
    exact .of_counter rfl rfl rfl rfl
  exact hp.trans (check_unmoved_atWindow inv.asked)

theorem refreshIfStale_unmoved (ha : pod.counter.syncing = false → pod.sync = .idle) :
    Unmoved pod (pod.refreshIfStale policy now accepted) := by
  unfold Pod.refreshIfStale
  have hp : Unmoved pod { pod with counter := pod.counter.underPolicy policy } :=
    .of_counter rfl rfl rfl rfl
  dsimp only
  split
  · exact hp
  · split
    · exact hp
    · refine hp.trans (ask_unmoved ?_ accepted)
      exact ha

theorem tick_unmoved (ha : pod.counter.syncing = false → pod.sync = .idle) :
    Unmoved pod (pod.tick now accepted) := by
  unfold Pod.tick
  split
  · exact ask_unmoved ha accepted
  · exact .refl pod

theorem toNat_add_of_lt {a : UInt64} (h : a.toNat + b.toNat < 2 ^ 63) :
    (a + b).toNat = a.toNat + b.toNat := by
  rw [UInt64.toNat_add]
  omega

theorem asI64_of_lt {delta : UInt64} (h : delta.toNat < 2 ^ 63) : asI64 delta = delta.toNat :=
  BitVec.toInt_eq_toNat_of_lt (x := delta.toBitVec) (by
    have : delta.toBitVec.toNat = delta.toNat := rfl
    omega)

theorem settle_cases : (pod.settle i tokens = pod ∧ pod.settledBy i tokens = 0) ∨
      ((pod.settle i tokens).sync = pod.sync ∧
        (pod.settle i tokens).counter.windowEnd = pod.counter.windowEnd ∧
        (pod.settle i tokens).counter.syncing = pod.counter.syncing ∧
        (pod.settle i tokens).counter.unsyncedSpent =
          pod.counter.unsyncedSpent + pod.settledBy i tokens) := by
  unfold Pod.settle Pod.settledBy
  rcases pod.reservations[i]? with - | ⟨estimate, _ | _⟩
  · exact .inl ⟨rfl, rfl⟩
  · exact .inr ⟨rfl, rfl, rfl, rfl⟩
  · exact .inl ⟨rfl, rfl⟩

theorem settle_held (h : held pod + (pod.settledBy i tokens).toNat < 2 ^ 63) :
    held (pod.settle i tokens) = held pod + (pod.settledBy i tokens).toNat := by
  rcases settle_cases with ⟨hp, hz⟩ | ⟨hsy, -, -, hsp⟩
  · rw [hp, hz]
    rfl
  · have ha : (pod.counter.unsyncedSpent + pod.settledBy i tokens).toNat =
        pod.counter.unsyncedSpent.toNat + (pod.settledBy i tokens).toNat :=
      toNat_add_of_lt (by unfold held at h; omega)
    simp only [held, hsy, hsp, ha]
    omega

theorem settle_podInv (inv : PodInv window pod) :
    PodInv window (pod.settle i tokens) := by
  rcases settle_cases with ⟨hp, -⟩ | ⟨hsync, he, hs', -⟩
  · rwa [hp]
  · exact ⟨he ▸ inv.inWindow, fun hs => hsync ▸ inv.asked (hs' ▸ hs),
      fun delta spentTotal windowEnd hs => inv.answered delta spentTotal windowEnd (hsync ▸ hs)⟩

/-- What a step keeps and moves: the pod's invariant, and the balance of pod, row and settled. -/
structure Balanced (window : UInt64) (pod : Pod) (row : Row) (r : Pod × Row × Nat) : Prop where
  podInv : PodInv window r.1
  nonneg : 0 ≤ total r.2.1
  moved : total r.2.1 + held r.1 = total row + held pod + r.2.2

variable {row : Row}

section

variable (inv : PodInv window pod) (hr : 0 ≤ total row)

include inv hr

theorem Unmoved.balanced (h : Unmoved pod pod') : Balanced window pod row (pod', row, 0) :=
  ⟨h.podInv inv, hr, by simp [h.held_eq]⟩

theorem noClient_balanced : Balanced window pod row (pod.noClient, row, 0) := by
  unfold Pod.noClient
  split
  · rename_i hq
    refine ⟨⟨inv.inWindow, fun _ => rfl, fun _ _ _ hs => by simp at hs⟩, hr, ?_⟩
    simp [held, Counter.syncFailed, hq]
  · exact (Unmoved.refl pod).balanced inv hr

theorem swap_balanced : Balanced window pod row (pod.swap, row, 0) := by
  unfold Pod.swap
  split
  · rename_i hq
    refine ⟨⟨inv.inWindow, fun hs => ?_, fun _ _ _ hs => by simp at hs⟩, hr, ?_⟩
    · exact absurd (hq.symm.trans (inv.asked hs)) (by simp)
    · simp [held, hq]
  · exact (Unmoved.refl pod).balanced inv hr

theorem fail_balanced (h : held pod < 2 ^ 63) : Balanced window pod row (pod.fail, row, 0) := by
  unfold Pod.fail
  split
  · rename_i delta hs
    have ha : (pod.counter.unsyncedSpent + delta).toNat =
        pod.counter.unsyncedSpent.toNat + delta.toNat :=
      toNat_add_of_lt (by simpa [held, hs] using h)
    refine ⟨⟨inv.inWindow, fun _ => rfl, fun _ _ _ hs => by simp at hs⟩, hr, ?_⟩
    simp [held, Counter.syncFailed, hs, ha]
  · exact (Unmoved.refl pod).balanced inv hr

theorem store_balanced (h : held pod < 2 ^ 63) :
    Balanced window pod row (act window pod row .store) := by
  unfold act
  dsimp only
  split
  · rename_i delta hs
    have hd : asI64 delta = delta.toNat :=
      asI64_of_lt (by simp only [held, hs] at h; omega)
    refine ⟨⟨inv.inWindow, fun hq => ?_, fun _ _ _ he => ?_⟩, ?_, ?_⟩
    · exact absurd (hs.symm.trans (inv.asked hq)) (by simp)
    · simp only [SyncPhase.stored.injEq] at he
      exact he.2.2.symm
    · simp only [addDelta, total, Option.getD_some, hd]
      exact Int.add_nonneg hr (Int.natCast_nonneg _)
    · simp [held, hs, addDelta, total, hd]
      omega
  · exact (Unmoved.refl pod).balanced inv hr

end

theorem answer_held_iff :
    held (pod.answer now) = held pod ↔ AnswerLossless pod := by
  unfold Pod.answer
  split
  · rename_i delta spentTotal windowEnd hs
    have ho : held pod = pod.counter.unsyncedSpent.toNat := by simp [held, hs]
    have hc : AnswerLossless pod ↔
        pod.counter.unsyncedSpent = 0 ∨ (delta = 0 ∧ pod.counter.windowEnd = windowEnd) := by
      refine ⟨fun h => h delta spentTotal windowEnd hs, fun h delta' spentTotal' windowEnd' hs' => ?_⟩
      obtain ⟨rfl, -, rfl⟩ := SyncPhase.stored.inj (hs.symm.trans hs')
      exact h
    have hz (x : UInt64) : x = 0 ↔ x.toNat = 0 := UInt64.toNat_inj.symm
    rw [hc, ho, hz, hz]
    by_cases hsa : pod.counter.windowEnd = windowEnd
    · simp only [held, Counter.applySync, hsa, if_true, saturatingSub_toNat, and_true]
      omega
    · simp only [held, Counter.applySync, hsa, if_false, and_false, or_false]
      exact eq_comm
  · rename_i hs
    exact iff_of_true rfl fun delta spentTotal windowEnd h => absurd h (hs delta spentTotal windowEnd)

theorem answer_balanced (inv : PodInv window pod) (hr : 0 ≤ total row)
    (hl : AnswerLossless pod) :
    Balanced window pod row (pod.answer now, row, 0) := by
  refine ⟨?_, hr, by simp [(answer_held_iff).2 hl]⟩
  unfold Pod.answer
  split
  · rename_i delta spentTotal windowEnd hs
    exact ⟨.inr (inv.answered delta spentTotal windowEnd hs), fun _ => rfl,
      fun _ _ _ hs => by simp at hs⟩
  · exact inv

theorem act_balanced {s : System n} (inv : PodInv window (s.pods p)) (hr : 0 ≤ total s.row)
    (hh : total s.row + held (s.pods p) ≤ s.settled) (hs : s.settled < 2 ^ 63)
    (hok : Lossless s (p, a)) :
    Balanced window (s.pods p) s.row (act window (s.pods p) s.row a) := by
  have hb : held (s.pods p) < 2 ^ 63 := by omega
  have hk : Balanced window (s.pods p) s.row (s.pods p, s.row, 0) :=
    (Unmoved.refl _).balanced inv hr
  have hs' (i : Nat) (tokens : Option Tokens)
      (h : s.settled + ((s.pods p).settledBy i tokens).toNat < 2 ^ 63) :
      Balanced window (s.pods p) s.row
        ((s.pods p).settle i tokens, s.row, ((s.pods p).settledBy i tokens).toNat) := by
    refine ⟨settle_podInv inv, hr, ?_⟩
    rw [settle_held (by omega)]
    push_cast
    omega
  cases a with
  | check policy estimate now accepted =>
    unfold act
    dsimp only
    split
    · rename_i hn
      exact (check_unmoved inv hn).balanced inv hr
    · exact hk
  | refresh policy now accepted =>
    unfold act
    dsimp only
    split
    · exact (refreshIfStale_unmoved inv.asked).balanced inv hr
    · exact hk
  | tick now accepted =>
    unfold act
    dsimp only
    split
    · exact (tick_unmoved inv.asked).balanced inv hr
    · exact hk
  | settle i tokens => exact hs' i tokens hok
  | drop i => exact hs' i none hok
  | noClient => exact noClient_balanced inv hr
  | swap => exact swap_balanced inv hr
  | store => exact store_balanced inv hr hb
  | fail => exact fail_balanced inv hr hb
  | answer now => exact answer_balanced inv hr hok

structure Inv (window : UInt64) (s : System n) : Prop where
  pods : ∀ p, PodInv window (s.pods p)
  nonneg : 0 ≤ total s.row
  balance : total s.row + ∑ p, (held (s.pods p) : Int) = s.settled
  bounded : s.settled < 2 ^ 63

theorem sum_held_update (pods : Fin n → Pod) :
    ∑ q, (held (update pods p pod q) : Int) =
      ∑ q, (held (pods q) : Int) - held (pods p) + held pod := by
  have ho := Finset.add_sum_erase Finset.univ (fun q => (held (pods q) : Int)) (Finset.mem_univ p)
  have hn := Finset.add_sum_erase Finset.univ
    (fun q => (held (update pods p pod q) : Int)) (Finset.mem_univ p)
  have hr : ∑ q ∈ Finset.univ.erase p, (held (update pods p pod q) : Int) =
      ∑ q ∈ Finset.univ.erase p, (held (pods q) : Int) :=
    Finset.sum_congr rfl fun q hq => by
      rw [update_of_ne (Finset.ne_of_mem_erase hq)]
  rw [update_self, hr] at hn
  rw [← hn, ← ho]
  abel

theorem held_le_sum (pods : Fin n → Pod) : (held (pods p) : Int) ≤ ∑ q, (held (pods q) : Int) :=
  Finset.single_le_sum (fun q _ => Int.natCast_nonneg (held (pods q))) (Finset.mem_univ p)

theorem settled_step_lt {s : System n} (h : s.settled < 2 ^ 63) (hok : Lossless s pa) :
    (step window s pa).settled < 2 ^ 63 := by
  obtain ⟨p, a⟩ := pa
  cases a with
  | settle i tokens | drop i => exact hok
  | store =>
    unfold step act
    dsimp only
    split <;> exact h
  | check | refresh | tick | noClient | swap | fail | answer => exact h

theorem inv_step (s : System n) (pa : Fin n × PodAction) (h : Inv window s)
    (hok : Lossless s pa) : Inv window (step window s pa) := by
  obtain ⟨p, a⟩ := pa
  have hh : total s.row + held (s.pods p) ≤ s.settled := by
    rw [← h.balance]
    exact Int.add_le_add_left (held_le_sum s.pods) _
  have hb := act_balanced (h.pods p) h.nonneg hh h.bounded hok
  refine ⟨fun q => ?_, hb.nonneg, ?_, settled_step_lt h.bounded hok⟩
  · change PodInv window (update s.pods p (act window (s.pods p) s.row a).1 q)
    rw [update_apply]
    split
    · exact hb.podInv
    · exact h.pods q
  · have hm := hb.moved
    have hba := h.balance
    rw [step, sum_held_update]
    push_cast
    omega

theorem inv_start {pods : Fin n → Pod} (h : ∀ p, Fresh (pods p)) : Inv window (start pods) := by
  refine ⟨fun p => ⟨.inl (h p).windowEnd, fun _ => (h p).sync, fun _ _ _ hs => ?_⟩, le_rfl, ?_,
    Nat.two_pow_pos 63⟩
  · exact absurd ((h p).sync.symm.trans hs) (by simp)
  · have hz : ∀ p, held (pods p) = 0 := fun p => by
      simp [held, (h p).unsyncedSpent, (h p).sync]
    simp [start, total, hz]

theorem held_of_not_inFlight (h : inFlight pod = false) :
    held pod = pod.counter.unsyncedSpent.toNat := by
  unfold inFlight at h
  unfold held
  split at h <;> simp_all

/-- In every run of lossless steps from the window's start, spend is conserved. -/
theorem conserved_run {pods : Fin n → Pod} (hfresh : ∀ p, Fresh (pods p))
    {actions : List (Fin n × PodAction)}
    (hmeet : StepsMeet (step window) Lossless (start pods) actions) :
    Conserved (run (step window) (start pods) actions) := by
  intro hq
  have hi : Inv window (run (step window) (start pods) actions) :=
    run_invariant inv_step (inv_start hfresh) hmeet
  rw [← hi.balance]
  exact congrArg _ (Finset.sum_congr rfl fun p _ => by rw [held_of_not_inFlight (hq p)])

def thousandTokens : BudgetPolicy := ⟨1000, 1000, .tokens⟩

def newPod : Fin 1 → Pod := fun _ => ⟨.new thousandTokens, [], .idle⟩

def onePod (actions : List PodAction) : List (Fin 1 × PodAction) := actions.map ((0 : Fin 1), ·)

def shipFirst : List PodAction :=
  [.check thousandTokens 20 5 true, .swap, .store, .answer 6,
    .check thousandTokens 20 7 true, .check thousandTokens 20 8 true,
    .settle 0 (some ⟨6, 4, 0, 0⟩), .tick 9 true, .swap, .store]

/-- The second request settles after the answer. -/
theorem conserved_onePod : StepsMeet (step 3600) Lossless (start newPod)
        (onePod (shipFirst ++ [.answer 10, .settle 1 (some ⟨3, 4, 0, 0⟩)])) ∧
      Conserved (run (step 3600) (start newPod)
        (onePod (shipFirst ++ [.answer 10, .settle 1 (some ⟨3, 4, 0, 0⟩)]))) := by
  have hm : StepsMeet (step 3600) Lossless (start newPod)
      (onePod (shipFirst ++ [.answer 10, .settle 1 (some ⟨3, 4, 0, 0⟩)])) :=
    ⟨trivial, trivial, trivial, fun _ _ _ _ => .inl (by decide), trivial, trivial,
      Nat.le_of_ble_eq_true rfl, trivial, trivial, trivial, fun _ _ _ _ => .inl (by decide),
      Nat.le_of_ble_eq_true rfl, trivial⟩
  exact ⟨hm, conserved_run (fun _ => ⟨rfl, rfl, rfl⟩) hm⟩

/-- The second request settles between the swap and the answer: its seven tokens are gone. -/
theorem lateSettlement_dropped : ¬ Conserved (run (step 3600) (start newPod)
      (onePod (shipFirst ++ [.settle 1 (some ⟨3, 4, 0, 0⟩), .answer 10]))) := by
  intro h
  have hq := h (by decide)
  revert hq
  decide

end Portus.SpendConservation

/-!
# Budget counters of a pod

`portus-dataplane-core/src/ai/budget.rs`: a pod keeps, for a policy and a subject, the
window's global spend as of its last sync and what it has spent and reserved since
(`Counter`). Spend not yet shipped goes to the ledger with the next sync: the sync task swaps
it out, and hears the new total (`applySync`) or puts it back (`syncFailed`).

Counters are 64-bit atomics: additions wrap, and signed views are two's complement.
-/

namespace Portus.DataPlane.Budget

inductive BudgetUnit where
  | tokens
  | calls

structure Tokens where
  input : UInt32
  output : UInt32
  cacheRead : UInt32
  cacheCreation : UInt32

def Tokens.total (t : Tokens) : UInt64 :=
  t.input.toUInt64 + t.output.toUInt64 + t.cacheRead.toUInt64 + t.cacheCreation.toUInt64

structure BudgetPolicy where
  limit : UInt64
  routeLimit : UInt64
  unit : BudgetUnit

def saturatingSub (a b : UInt64) : UInt64 := if b ≤ a then a - b else 0

theorem saturatingSub_toNat : (saturatingSub a b).toNat = a.toNat - b.toNat := by
  unfold saturatingSub
  split
  · rename_i h
    exact UInt64.toNat_sub_of_le a b h
  · rename_i h
    have : a.toNat < b.toNat := by simpa [UInt64.le_iff_toNat_le] using h
    simp
    omega

structure Counter where
  /-- 0 before the first sync. -/
  windowEnd : UInt64
  globalSpent : UInt64
  unsyncedSpent : UInt64
  reserved : UInt64
  synced : Bool
  syncing : Bool
  budget : UInt64
  routeLimit : UInt64
  syncedAt : UInt64
  unit : BudgetUnit

namespace Counter

def new (policy : BudgetPolicy) : Counter where
  windowEnd := 0
  globalSpent := 0
  unsyncedSpent := 0
  reserved := 0
  synced := false
  syncing := false
  budget := policy.limit
  routeLimit := policy.routeLimit
  syncedAt := 0
  unit := policy.unit

variable (c : Counter)

def remaining : Int64 :=
  c.budget.toInt64 - c.globalSpent.toInt64 - c.unsyncedSpent.toInt64 - c.reserved.toInt64

/-- The ledger's answer to a sync that shipped `reported`, heard at `now`. -/
def applySync (spentTotal windowEnd reported now : UInt64) : Counter :=
  { c with
    syncedAt := now
    windowEnd
    unsyncedSpent :=
      if c.windowEnd = windowEnd then saturatingSub c.unsyncedSpent reported else 0
    globalSpent := spentTotal
    synced := true
    syncing := false }

/-- A sync that did not reach the ledger: what it shipped goes with the next one. -/
def syncFailed (reported : UInt64) : Counter :=
  { c with unsyncedSpent := c.unsyncedSpent + reported, syncing := false }

def rollOver : Counter :=
  { c with windowEnd := 0, globalSpent := 0, unsyncedSpent := 0, synced := false }

/-- `Budgets::counter`: the limits are those of the policy at hand. -/
def underPolicy (policy : BudgetPolicy) : Counter :=
  { c with budget := policy.limit, routeLimit := policy.routeLimit }

end Counter

structure Reservation where
  estimate : UInt64
  settled : Bool

def actual (unit : BudgetUnit) (tokens : Option Tokens) : UInt64 :=
  match unit with
  | .tokens => (tokens.map Tokens.total).getD 0
  | .calls => 1

inductive Verdict where
  | allow (reservation : Reservation)
  | exhausted (retryAfterSecs : UInt64) (remaining : Int64) (needed : UInt64)
  | unknown

/-- Where the counter's sync stands; `stored` has the ledger's answer. -/
inductive SyncPhase where
  | idle
  | queued
  | shipped (delta : UInt64)
  | stored (delta spentTotal windowEnd : UInt64)
deriving DecidableEq

instance (sync : SyncPhase) (P : UInt64 → UInt64 → UInt64 → Prop) [∀ d t w, Decidable (P d t w)] :
    Decidable (∀ d t w, sync = .stored d t w → P d t w) :=
  match sync with
  | .stored d t w => decidable_of_iff (P d t w)
      ⟨fun h _ _ _ heq => by cases heq; exact h, fun h => h d t w rfl⟩
  | .idle | .queued | .shipped _ => isTrue fun _ _ _ heq => by cases heq

/-- A pod: the counter, the reservations it has handed out and its sync. -/
structure Pod where
  counter : Counter
  reservations : List Reservation
  sync : SyncPhase

def urgentSyncShare : UInt64 := 100

def syncInterval : UInt64 := 1000000

namespace Pod

variable (pod : Pod)

/-- Queue a sync unless one is in flight; `accepted`: the channel had room. -/
def ask (accepted : Bool) : Pod :=
  if pod.counter.syncing then pod
  else if accepted then
    { pod with counter := { pod.counter with syncing := true }, sync := .queued }
  else pod

def windowOver (now : UInt64) : Bool :=
  pod.counter.windowEnd != 0 && decide (pod.counter.windowEnd ≤ now)

def atWindow (policy : BudgetPolicy) (now : UInt64) : Pod :=
  let pod := { pod with counter := pod.counter.underPolicy policy }
  if pod.windowOver now then { pod with counter := pod.counter.rollOver } else pod

def retryAfterSecs (now : UInt64) : UInt64 :=
  let left := saturatingSub pod.counter.windowEnd now
  max ((left / 1000000) + (if left % 1000000 = 0 then 0 else 1)) 1

def check (policy : BudgetPolicy) (estimate now : UInt64) (accepted : Bool) : Pod × Verdict :=
  let pod := pod.atWindow policy now
  if !pod.counter.synced then (pod.ask accepted, .unknown)
  else
    let remaining := pod.counter.remaining
    if remaining ≤ 0 ∨ remaining < estimate.toInt64 then
      (pod, .exhausted (pod.retryAfterSecs now) remaining estimate)
    else
      let reservation : Reservation := ⟨estimate, false⟩
      let pod :=
        { pod with
          counter := { pod.counter with reserved := pod.counter.reserved + estimate }
          reservations := pod.reservations ++ [reservation] }
      -- sync at once when a lot has piled up since the last one
      (if pod.counter.unsyncedSpent * urgentSyncShare > policy.limit then pod.ask accepted else pod,
        .allow reservation)

/-- What a decision reads: the counter is synced and has room for the estimate. -/
def admits (estimate : UInt64) : Bool :=
  pod.counter.synced &&
    !decide (pod.counter.remaining ≤ 0 ∨ pod.counter.remaining < estimate.toInt64)

def reserve (policy : BudgetPolicy) (estimate : UInt64) (accepted : Bool) : Pod :=
  let pod :=
    { pod with
      counter := { pod.counter with reserved := pod.counter.reserved + estimate }
      reservations := pod.reservations ++ [⟨estimate, false⟩] }
  if pod.counter.unsyncedSpent * urgentSyncShare > policy.limit then pod.ask accepted else pod

theorem check_eq_reserve (accepted : Bool) (h : (pod.atWindow policy now).admits estimate = true) :
    pod.check policy estimate now accepted =
      ((pod.atWindow policy now).reserve policy estimate accepted, .allow ⟨estimate, false⟩) := by
  rw [admits, Bool.and_eq_true, Bool.not_eq_true', decide_eq_false_iff_not] at h
  have hs : ¬ (!(pod.atWindow policy now).counter.synced) = true := by
    rw [h.1]
    decide
  exact (if_neg hs).trans (if_neg h.2)

/-- A counter not heard from for a sync interval asks before the next decision. -/
def refreshIfStale (policy : BudgetPolicy) (now : UInt64) (accepted : Bool) : Pod :=
  let pod := { pod with counter := pod.counter.underPolicy policy }
  if !pod.counter.synced then pod
  else if saturatingSub now pod.counter.syncedAt < syncInterval then pod
  else pod.ask accepted

def tick (now : UInt64) (accepted : Bool) : Pod :=
  if pod.windowOver now ∨ pod.counter.unsyncedSpent > 0 ∨ pod.counter.reserved > 0 then
    pod.ask accepted
  else pod

def settledBy (i : Nat) (tokens : Option Tokens) : UInt64 :=
  match pod.reservations[i]? with
  | some ⟨_, false⟩ => actual pod.counter.unit tokens
  | _ => 0

def settle (i : Nat) (tokens : Option Tokens) : Pod :=
  match pod.reservations[i]? with
  | some ⟨estimate, false⟩ =>
    { pod with
      counter :=
        { pod.counter with
          reserved := saturatingSub pod.counter.reserved estimate
          unsyncedSpent := pod.counter.unsyncedSpent + actual pod.counter.unit tokens }
      reservations := pod.reservations.set i ⟨estimate, true⟩ }
  | _ => pod

def drop (i : Nat) : Pod := pod.settle i none

def noClient : Pod :=
  match pod.sync with
  | .queued => { pod with counter := pod.counter.syncFailed 0, sync := .idle }
  | _ => pod

def swap : Pod :=
  match pod.sync with
  | .queued =>
    { pod with
      counter := { pod.counter with unsyncedSpent := 0 }
      sync := .shipped pod.counter.unsyncedSpent }
  | _ => pod

def fail : Pod :=
  match pod.sync with
  | .shipped delta => { pod with counter := pod.counter.syncFailed delta, sync := .idle }
  | _ => pod

/-- The ledger stored the request, but its answer is lost on the way. -/
def loseAnswer : Pod :=
  match pod.sync with
  | .stored delta _ _ => { pod with counter := pod.counter.syncFailed delta, sync := .idle }
  | _ => pod

def answer (now : UInt64) : Pod :=
  match pod.sync with
  | .stored delta spentTotal windowEnd =>
    { pod with counter := pod.counter.applySync spentTotal windowEnd delta now, sync := .idle }
  | _ => pod

end Pod

end Portus.DataPlane.Budget

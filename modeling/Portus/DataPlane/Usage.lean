import Mathlib.Algebra.Order.Ring.Nat
import Mathlib.Data.List.Basic

/-!
# Usage records on their way to the ledger

`UsageRing` (`portus-dataplane-core/src/ai/usage.rs`) is a bounded queue between the requests and
`drain_loop` (`portus-dataplane-core/src/ai/ledger.rs`), the one task of a pod that takes records
out of it in batches and reports them. A batch that was not acknowledged stays and is reported
again; of more than eight the oldest are discarded and counted.
-/

namespace Portus.DataPlane.Usage

def batchSize : Nat := 512

def retainedBatches : Nat := 8

structure UsageRing (R : Type) where
  queue : List R := []
  capacity : Nat
  dropped : Nat := 0
  /-- Pushes that found the ring full and have not counted it yet. -/
  refused : Nat := 0

structure LedgerStats where
  batchesSent : Nat := 0
  recordsSent : Nat := 0
  sendFailures : Nat := 0
  recordsDiscarded : Nat := 0

inductive Phase where
  | head
  | draining
  | connecting
  | reporting
deriving DecidableEq

structure Drain (R : Type) where
  ring : UsageRing R
  scratch : List R := []
  pending : List (List R) := []
  connected : Bool := false
  phase : Phase := .head
  stats : LedgerStats := {}

inductive Connection where
  | invalidEndpoint
  | unreachable
  | established

inductive Event (R : Type) where
  | push (r : R)
  | countDrop
  /-- The ring is full enough or the interval is over. -/
  | wake
  /-- The drain takes the next record, or has all it takes. -/
  | pop
  | connect (outcome : Connection)
  | report (acknowledged : Bool)

def trim {R : Type} (discarded : Nat) : List (List R) → List (List R) × Nat
  | [] => ([], discarded)
  | b :: rest =>
    if retainedBatches < (b :: rest).length then trim (discarded + b.length) rest
    else (b :: rest, discarded)

namespace Drain

variable {R : Type}

def gathered (d : Drain R) : List (List R) :=
  if d.scratch.isEmpty then d.pending else d.pending ++ [d.scratch]

/-- The drain has its records: they become a batch, and if one is pending it is sent. -/
def batch (d : Drain R) : Drain R :=
  let (pending, discarded) := trim d.stats.recordsDiscarded d.gathered
  { d with
    pending
    stats := { d.stats with recordsDiscarded := discarded }
    phase := if pending.isEmpty then .head else .connecting }

def fail (d : Drain R) : Drain R :=
  { d with stats := { d.stats with sendFailures := d.stats.sendFailures + 1 }, phase := .head }

def sending (d : Drain R) : Option (List R) :=
  match d.phase with
  | .reporting => d.pending.head?
  | _ => none

def acknowledge (d : Drain R) (b : List R) : Drain R :=
  { d with
    pending := d.pending.tail
    stats :=
      { d.stats with
        batchesSent := d.stats.batchesSent + 1
        recordsSent := d.stats.recordsSent + b.length }
    phase := .head }

def step (d : Drain R) : Event R → Drain R
  | .push r =>
    if d.ring.queue.length < d.ring.capacity then
      { d with ring := { d.ring with queue := d.ring.queue ++ [r] } }
    else { d with ring := { d.ring with refused := d.ring.refused + 1 } }
  | .countDrop =>
    if 0 < d.ring.refused then
      { d with ring :=
          { d.ring with refused := d.ring.refused - 1, dropped := d.ring.dropped + 1 } }
    else d
  | .wake =>
    match d.phase with
    | .head => { d with scratch := [], phase := .draining }
    | _ => d
  | .pop =>
    match d.phase with
    | .draining =>
      if d.scratch.length < batchSize then
        match d.ring.queue with
        | r :: rest => { d with ring := { d.ring with queue := rest }, scratch := d.scratch ++ [r] }
        | [] => d.batch
      else d.batch
    | _ => d
  | .connect outcome =>
    match d.phase with
    | .connecting =>
      if d.connected then { d with phase := .reporting }
      else
        match outcome with
        | .invalidEndpoint => { d with phase := .head }
        | .unreachable => d.fail
        | .established => { d with connected := true, phase := .reporting }
    | _ => d
  | .report acknowledged =>
    match d.sending with
    | some b => if acknowledged then d.acknowledge b else { d.fail with connected := false }
    | none => d

end Drain

variable {R : Type}

def records (batches : List (List R)) : Nat := (batches.map List.length).sum

@[simp] theorem records_nil : records ([] : List (List R)) = 0 := rfl

@[simp] theorem records_cons :
    records (b :: l) = b.length + records l := rfl

@[simp] theorem records_append (l m : List (List R)) :
    records (l ++ m) = records l + records m := by
  simp [records]

theorem records_trim (discarded : Nat) (l : List (List R)) :
    records (trim discarded l).1 + (trim discarded l).2 = records l + discarded := by
  induction l generalizing discarded with
  | nil => rfl
  | cons b l ih =>
    unfold trim
    split
    next =>
      rw [ih, records_cons]
      omega
    next => rfl

theorem trim_suffix (discarded : Nat) : (trim discarded l).1 <:+ l := by
  induction l generalizing discarded with
  | nil => exact List.suffix_rfl
  | cons b l ih =>
    unfold trim
    split
    next => exact (ih _).trans (List.suffix_cons b l)
    next => exact List.suffix_rfl

namespace Drain

theorem phase_batch (d : Drain R) : d.batch.phase ≠ .draining := by
  unfold batch
  dsimp only
  split <;> exact Phase.noConfusion

theorem sending_eq_some {d : Drain R} (h : d.sending = some b) :
    d.phase = .reporting ∧ ∃ rest, d.pending = b :: rest := by
  unfold sending at h
  split at h
  next hp => exact ⟨hp, List.head?_eq_some_iff.1 h⟩
  next => cases h

end Drain

end Portus.DataPlane.Usage

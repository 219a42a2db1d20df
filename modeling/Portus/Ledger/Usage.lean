import Mathlib.Data.List.Basic
import Mathlib.Data.UInt

/-!
# The ledger's usage table

`insert_batch` (`portus-ledger/src/store.rs`): a reported batch is appended to the table in one
transaction, and the refusals among its records that are configured for events go into the outbox
with it. The other columns of a record are copied and never read here.
-/

namespace Portus.Ledger

structure UsageRecord where
  tsUnixMicros : UInt64
  requestId : UInt64
  /-- Why the request was refused; empty where it was forwarded. -/
  refusal : String := ""

/-- A row of the table: a record and the pod that reported it. -/
structure UsageRow (Node R : Type) where
  node : Node
  record : R

/-- An event for the webhook. -/
structure OutboxRow (Node R : Type) where
  createdUnixMicros : UInt64
  node : Node
  record : R

structure UsageStore (Node R : Type) where
  usage : List (UsageRow Node R) := []
  outbox : List (OutboxRow Node R) := []
  /-- The kinds of refusal that become events, where a webhook is configured. -/
  refusals : Option (List String) := none

namespace UsageStore

variable {Node R : Type} (wire : R → UsageRecord)

def refused (store : UsageStore Node R) (records : List R) : List R :=
  match store.refusals with
  | some kinds => records.filter fun r =>
      !(wire r).refusal.isEmpty && kinds.contains (wire r).refusal
  | none => []

def insertBatch (store : UsageStore Node R) (node : Node) (records : List R) : UsageStore Node R :=
  let refused := store.refused wire records
  let now := ((refused.map fun r => (wire r).tsUnixMicros).max?).getD 0
  { store with
    usage := store.usage ++ records.map fun r => ⟨node, r⟩
    outbox := store.outbox ++ refused.map fun r => ⟨now, node, r⟩ }

theorem refused_sublist (store : UsageStore Node R) (records : List R) :
    (store.refused wire records).Sublist records := by
  unfold refused
  split
  next => exact List.filter_sublist
  next => exact List.nil_sublist _

end UsageStore

end Portus.Ledger

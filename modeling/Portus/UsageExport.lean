import Mathlib.Data.List.Sort

/-!
# Paging through the usage table

`portus-ledger` `export`: the first page has the oldest rows at or after a time, each further page
the rows with larger ids than the last one of the page before. The two orders are one only where
rows were stored in the order of their times.
-/

namespace Portus.UsageExport

open List

/-- Of a row the paging reads its id and its time, which SQLite holds as a signed integer. -/
structure Row where
  id : Nat
  tsUnixMicros : UInt64
deriving DecidableEq

/-- Rows in the order in which they were stored. -/
structure UsageTable where
  rows : List Row
  ids : rows.Pairwise (·.id < ·.id)

def atOrAfter (since : UInt64) (r : Row) : Bool := since.toInt64 ≤ r.tsUnixMicros.toInt64

def byTime (a b : Row) : Prop :=
  a.tsUnixMicros.toInt64 < b.tsUnixMicros.toInt64 ∨ a.tsUnixMicros = b.tsUnixMicros ∧ a.id ≤ b.id

instance : DecidableRel byTime := fun _ _ => inferInstanceAs (Decidable (_ ∨ _))

variable (t : UsageTable)

def exportRows (since : UInt64) (afterId : Option Nat) (limit : Nat) : List Row :=
  match afterId with
  | some id => (t.rows.filter (id < ·.id)).take limit
  | none => ((t.rows.filter (atOrAfter since)).insertionSort byTime).take limit

def pageSize (limit : Option Nat) : Nat := min (max (limit.getD 10000) 1) 100000

def nextAfterId (page : List Row) (afterId : Option Nat) : Nat :=
  ((page.getLast?.map (·.id)).or afterId).getD 0

/-- The pages from a cursor on until an empty one; `fuel` bounds their number. -/
def followed (size : Nat) : (fuel cursor : Nat) → List Row
  | 0, _ => []
  | fuel + 1, cursor =>
    let page := exportRows t 0 (some cursor) size
    if page.isEmpty then [] else page ++ followed size fuel (nextAfterId page (some cursor))

def paged (since : UInt64) (limit : Option Nat) : List Row :=
  let first := exportRows t since none (pageSize limit)
  if first.isEmpty then []
  else first ++ followed t (pageSize limit) t.rows.length (nextAfterId first none)

def Complete (since : UInt64) (limit : Option Nat) : Prop :=
  ∀ r ∈ t.rows, since ≤ r.tsUnixMicros → (paged t since limit).count r = 1

/-- The first rows of the table by time, of those at or after `since`. -/
def earliest (since : UInt64) (n : Nat) : List Row :=
  ((t.rows.filter (atOrAfter since)).insertionSort byTime).take n

/-- The earliest rows, a page of them, are the rows with ids up to that of the last of them. -/
def InStep (since : UInt64) (limit : Option Nat) : Prop :=
  ∀ r ∈ t.rows, since ≤ r.tsUnixMicros → ∃ last ∈ (earliest t since (pageSize limit)).getLast?,
    r ∈ earliest t since (pageSize limit) ↔ r.id ≤ last.id

theorem filter_last {p q : List Row} (h : (p ++ q).Pairwise (·.id < ·.id))
    (hp : p.getLast? = some r) :
    (p ++ q).filter (r.id < ·.id) = q := by
  obtain ⟨p, rfl⟩ := getLast?_eq_some_iff.1 hp
  simp only [append_assoc, singleton_append, pairwise_append, pairwise_cons, mem_cons,
    forall_eq_or_imp]
    at h
  rw [append_assoc, singleton_append, filter_append, filter_cons_of_neg (by simp),
    filter_eq_nil_iff.2, filter_eq_self.2, nil_append]
  · exact fun a ha => decide_eq_true (h.2.1.1 a ha)
  · exact fun a ha => by simpa using Nat.le_of_lt (h.2.2 a ha).1

theorem followed_eq {size : Nat} (hs : 0 < size) (fuel cursor : Nat)
    (h : (t.rows.filter (cursor < ·.id)).length ≤ fuel) :
    followed t size fuel cursor = t.rows.filter (cursor < ·.id) := by
  induction fuel generalizing cursor with
  | zero => exact (length_eq_zero_iff.1 (Nat.le_zero.1 h)).symm
  | succ fuel ih =>
    obtain ⟨l, hl⟩ : ∃ l, t.rows.filter (cursor < ·.id) = l := ⟨_, rfl⟩
    have hi : l.Pairwise (·.id < ·.id) := hl ▸ t.ids.filter _
    have hp : exportRows t 0 (some cursor) size = l.take size := congrArg (take size) hl
    rw [hl] at h ⊢
    simp only [followed, hp]
    cases hla : (l.take size).getLast? with
    | none =>
      have hn := getLast?_eq_none_iff.1 hla
      rw [if_pos (List.isEmpty_iff.2 hn)]
      exact ((take_eq_nil_iff.1 hn).resolve_left hs.ne').symm
    | some r =>
      have hne : l.take size ≠ [] := fun hn => by simp [hn] at hla
      have hre : t.rows.filter (r.id < ·.id) = l.drop size := by
        rw [← take_append_drop size l] at hi
        rw [← filter_last hi hla, take_append_drop, ← hl, filter_filter]
        refine filter_congr fun a _ => ?_
        grind
      have hlt : (l.drop size).length ≤ fuel := by
        rw [length_drop]
        omega
      rw [if_neg (mt List.isEmpty_iff.1 hne), nextAfterId, hla, Option.map_some, Option.some_or,
        Option.getD_some, ih _ (hre ▸ hlt), hre,
        take_append_drop]

/-- Paging is complete exactly when the rows were stored in step with their times, as far as the
first page goes. -/
theorem paging_complete_iff (since : UInt64) (limit : Option Nat) :
    Complete t since limit ↔ InStep t since limit := by
  refine forall₃_congr fun r hr hs => ?_
  have hro : t.rows.Nodup := t.ids.imp fun h heq => by simp [heq] at h
  have hf : (earliest t since (pageSize limit)).Nodup :=
    ((perm_insertionSort byTime _).nodup_iff.2 (hro.filter _)).sublist (take_sublist _ _)
  have hs' : 0 < pageSize limit := by simp only [pageSize]; omega
  have hp : exportRows t since none (pageSize limit) = earliest t since (pageSize limit) := rfl
  simp only [paged, hp]
  cases hl : (earliest t since (pageSize limit)).getLast? with
  | none => simp [getLast?_eq_none_iff.1 hl]
  | some last =>
    have hne : earliest t since (pageSize limit) ≠ [] := fun hn => by simp [hn] at hl
    rw [if_neg (mt List.isEmpty_iff.1 hne), nextAfterId, followed_eq t hs' _ _ (length_filter_le
      _ _), count_append, (hro.filter _).count]
    split_ifs <;> grind

/-- Three rows, the first stored late: pages of one skip it. -/
def lateRow : UsageTable := ⟨[⟨1, 30⟩, ⟨2, 10⟩, ⟨3, 20⟩], by decide⟩

theorem lateRow_not_complete : ¬ Complete lateRow 0 (some 1) := by
  intro h
  exact absurd (h ⟨1, 30⟩ (by decide) (by decide)) (by decide +kernel)

end Portus.UsageExport

import Portus.DataPlane.Usage
import Portus.Lib.Run

/-!
# Every usage record is accounted for

At the top of the drain loop each record that was pushed is in the ring or in a pending batch, or
it was acknowledged, discarded or dropped and counted as such, or it was refused by a full ring and
its push is about to count it; and batches are reported in the order in which they were drained.
This is so whatever requests push in between and however often connecting and reporting fail.
-/

namespace Portus.UsageAccounting

open Lib DataPlane.Usage List

section

variable {R : Type}

def pushes : Event R → Nat
  | .push _ => 1
  | _ => 0

def made (d : Drain R) : Event R → List (List R)
  | .pop =>
    if d.phase = .draining ∧ (batchSize ≤ d.scratch.length ∨ d.ring.queue = []) ∧ d.scratch ≠ [] then
      [d.scratch]
    else []
  | _ => []

def reportedBy (d : Drain R) : Event R → List (List R)
  | .report _ => d.sending.toList
  | _ => []

def acknowledgedBy (d : Drain R) : Event R → List (List R)
  | .report true => d.sending.toList
  | _ => []

/-- The task, and what was seen of it: the pushes, the batches it drained, those it reported, each
time it did, and those that the ledger acknowledged. -/
structure Observed (R : Type) where
  drain : Drain R
  pushed : Nat := 0
  drained : List (List R) := []
  reported : List (List R) := []
  acknowledged : List (List R) := []

def step (s : Observed R) (e : Event R) : Observed R where
  drain := s.drain.step e
  pushed := s.pushed + pushes e
  drained := s.drained ++ made s.drain e
  reported := s.reported ++ reportedBy s.drain e
  acknowledged := s.acknowledged ++ acknowledgedBy s.drain e

def start (capacity : Nat) : Observed R := { drain := { ring := { capacity } } }

/-- The reports go through the batches in the order drained, repeating some and leaving some out. -/
def InOrder (drained reported : List (List R)) : Prop :=
  ∃ idx : List Nat, idx.Pairwise (· ≤ ·) ∧ reported.map some = idx.map (drained[·]?)

/-- At the top of the loop all records are accounted for, and reports are in order. -/
def Accounted (s : Observed R) : Prop :=
  s.drain.phase = .head →
    s.pushed = s.drain.ring.queue.length + records s.drain.pending + s.drain.stats.recordsSent +
      s.drain.stats.recordsDiscarded + s.drain.ring.dropped + s.drain.ring.refused ∧
    s.drain.stats.recordsSent = records s.acknowledged ∧
    InOrder s.drained s.reported

def balance (d : Drain R) : Nat :=
  d.ring.queue.length + (if d.phase = .draining then d.scratch.length else 0) + records d.pending +
    d.stats.recordsSent + d.stats.recordsDiscarded + d.ring.dropped + d.ring.refused

end

variable {R : Type}

theorem records_gathered (d : Drain R) :
    records d.gathered = records d.pending + d.scratch.length := by
  unfold Drain.gathered
  cases d.scratch <;> simp

theorem balance_batch (h : d.phase = .draining) : balance d.batch = balance d := by
  have ht := records_trim d.stats.recordsDiscarded d.gathered
  rw [records_gathered] at ht
  unfold balance
  rw [if_pos h, if_neg d.phase_batch]
  dsimp only [Drain.batch]
  omega

theorem balance_step :
    balance (d.step e) = balance d + pushes e := by
  cases e with
  | push r =>
    dsimp only [Drain.step, pushes]
    split
    next =>
      simp only [balance, length_append, length_singleton]
      omega
    next => rfl
  | countDrop =>
    dsimp only [Drain.step, pushes]
    split
    next =>
      simp only [balance]
      omega
    next => rfl
  | wake =>
    dsimp only [Drain.step, pushes]
    split
    next hph => simp [balance, hph]
    next => rfl
  | pop =>
    dsimp only [Drain.step, pushes]
    split
    next hph =>
      split
      next =>
        split
        next r rest hq =>
          simp only [balance, hph, hq, length_append, length_cons, length_nil, if_true]
          omega
        next => exact balance_batch hph
      next => exact balance_batch hph
    next => rfl
  | connect outcome =>
    dsimp only [Drain.step, pushes]
    split
    next hph =>
      split
      next => simp [balance, hph]
      next => cases outcome <;> simp [balance, hph, Drain.fail]
    next => rfl
  | report acknowledged =>
    dsimp only [Drain.step, pushes]
    cases hs : d.sending with
    | none => rfl
    | some b =>
      obtain ⟨hph, rest, hpe⟩ := Drain.sending_eq_some hs
      cases acknowledged with
      | false => simp [balance, hph, Drain.fail]
      | true =>
        simp only [balance, Drain.acknowledge, hph, hpe, records_cons, tail_cons, if_true]
        simp only [reduceCtorEq, if_false]
        omega

def Balanced (s : Observed R) : Prop := s.pushed = balance s.drain

theorem balanced_step (s : Observed R) (e : Event R) (h : Balanced s) : Balanced (step s e) := by
  show s.pushed + pushes e = balance (s.drain.step e)
  rw [balance_step, h]

def SentAcknowledged (s : Observed R) : Prop :=
  s.drain.stats.recordsSent = records s.acknowledged

theorem recordsSent_step (d : Drain R) (e : Event R) :
    (d.step e).stats.recordsSent = d.stats.recordsSent + records (acknowledgedBy d e) := by
  cases e with
  | push r | countDrop | wake =>
    dsimp only [Drain.step, acknowledgedBy]
    split <;> rfl
  | pop =>
    dsimp only [Drain.step, acknowledgedBy]
    split
    · split
      · split <;> rfl
      · rfl
    · rfl
  | connect outcome =>
    dsimp only [Drain.step, acknowledgedBy]
    split
    · split
      · rfl
      · cases outcome <;> rfl
    · rfl
  | report acknowledged =>
    dsimp only [Drain.step]
    cases hs : d.sending with
    | none => cases acknowledged <;> simp [acknowledgedBy, hs]
    | some b => cases acknowledged <;> simp [acknowledgedBy, hs, Drain.fail, Drain.acknowledge]

theorem sentAcknowledged_step (s : Observed R) (e : Event R) (h : SentAcknowledged s) :
    SentAcknowledged (step s e) := by
  show (s.drain.step e).stats.recordsSent = records (s.acknowledged ++ acknowledgedBy s.drain e)
  rw [recordsSent_step, h, records_append]

theorem pending_step (d : Drain R) (e : Event R) :
    (d.step e).pending <:+ d.pending ++ made d e := by
  -- only a drain that is done and an acknowledgement change the batches
  have hsa {d' : Drain R} (h : d'.pending = d.pending) : d'.pending <:+ d.pending ++ [] := by
    have heq : d'.pending = d.pending ++ [] := h.trans (append_nil d.pending).symm
    exact heq ▸ List.suffix_rfl
  cases e with
  | push r | countDrop | wake =>
    dsimp only [Drain.step, made]
    split <;> exact hsa rfl
  | pop =>
    have hb (hp : d.phase = .draining)
        (hd : batchSize ≤ d.scratch.length ∨ d.ring.queue = []) :
        d.batch.pending <:+ d.pending ++ made d .pop := by
      have hg : d.gathered = d.pending ++ made d .pop := by
        unfold Drain.gathered made
        cases hsc : d.scratch with
        | nil => simp
        | cons r rest =>
          rw [hsc] at hd
          rw [if_neg (by simp), if_pos ⟨hp, hd, cons_ne_nil r rest⟩]
      rw [← hg]
      exact trim_suffix d.stats.recordsDiscarded
    dsimp only [Drain.step]
    split
    next hp =>
      split
      next hlt =>
        split
        next r rest hq =>
          have hn : made d .pop = [] := by
            rw [made, if_neg]
            rintro ⟨-, hf | he, -⟩
            · omega
            · rw [hq] at he
              cases he
          rw [hn]
          exact hsa rfl
        next hq => exact hb hp (.inr hq)
      next hlt => exact hb hp (.inl (Nat.not_lt.1 hlt))
    next hp =>
      have hn : made d .pop = [] := by
        rw [made, if_neg]
        exact fun h => hp h.1
      rw [hn]
      exact hsa rfl
  | connect outcome =>
    dsimp only [Drain.step, made]
    split
    next =>
      split
      next => exact hsa rfl
      next => cases outcome <;> exact hsa rfl
    next => exact hsa rfl
  | report acknowledged =>
    dsimp only [Drain.step, made]
    split
    next b hse =>
      split
      next =>
        rw [append_nil]
        exact List.tail_suffix d.pending
      next => exact hsa rfl
    next => exact hsa rfl

/-- The pending batches are the last that were drained, and the reports are in order up to the
first of them. -/
structure Ordered (s : Observed R) : Prop where
  suffix : s.drain.pending <:+ s.drained
  reports : ∃ idx : List Nat, idx.Pairwise (· ≤ ·) ∧
    s.reported.map some = idx.map (s.drained[·]?) ∧
    ∀ i ∈ idx, i ≤ s.drained.length - s.drain.pending.length

theorem getElem?_of_sending (h : Ordered s) (hs : s.drain.sending = some b) :
    s.drained[s.drained.length - s.drain.pending.length]? = some b := by
  obtain ⟨-, rest, hp⟩ := Drain.sending_eq_some hs
  obtain ⟨earlier, heq⟩ := h.suffix
  have hl : s.drained.length - s.drain.pending.length = earlier.length := by
    rw [← heq, length_append]
    omega
  rw [hl, ← heq, getElem?_append_right (Nat.le_refl _), Nat.sub_self, hp]
  rfl

theorem reportedBy_eq_cons (h : reportedBy d e = b :: rest) : d.sending = some b ∧ rest = [] := by
  unfold reportedBy at h
  split at h
  next =>
    cases hs : d.sending with
    | none =>
      rw [hs] at h
      cases h
    | some b' =>
      rw [hs] at h
      cases h
      exact ⟨rfl, rfl⟩
  next => cases h

theorem ordered_step (s : Observed R) (e : Event R) (h : Ordered s) : Ordered (step s e) := by
  have hp := pending_step s.drain e
  refine ⟨hp.trans ?_, ?_⟩
  · obtain ⟨earlier, heq⟩ := h.suffix
    exact ⟨earlier, by rw [← append_assoc, heq]; rfl⟩
  · obtain ⟨idx, hso, hr, hbo⟩ := h.reports
    -- the front batch does not move back
    have hf : s.drained.length - s.drain.pending.length ≤
        (step s e).drained.length - (step s e).drain.pending.length := by
      have hle := hp.length_le
      have hl : (step s e).drained.length = s.drained.length + (made s.drain e).length :=
        length_append
      rw [length_append] at hle
      show _ ≤ _ - (s.drain.step e).pending.length
      omega
    have hk : idx.map ((step s e).drained[·]?) = idx.map (s.drained[·]?) := by
      refine map_congr_left fun i hi => ?_
      have hi' : s.drained[i]? ∈ s.reported.map some := hr ▸ mem_map.2 ⟨i, hi, rfl⟩
      obtain ⟨b, -, hb⟩ := mem_map.1 hi'
      obtain ⟨hlt, -⟩ := List.getElem?_eq_some_iff.1 hb.symm
      exact getElem?_append_left hlt
    cases hby : reportedBy s.drain e with
    | nil =>
      refine ⟨idx, hso, ?_, fun i hi => Nat.le_trans (hbo i hi) hf⟩
      rw [hk, ← hr]
      show (s.reported ++ reportedBy s.drain e).map some = _
      rw [hby, append_nil]
    | cons b rest =>
      -- a report is of the front batch
      obtain ⟨hse, rfl⟩ := reportedBy_eq_cons hby
      have hb : (step s e).drained[s.drained.length - s.drain.pending.length]? = some b := by
        have ho := getElem?_of_sending h hse
        obtain ⟨hlt, -⟩ := List.getElem?_eq_some_iff.1 ho
        exact (getElem?_append_left hlt).trans ho
      refine ⟨idx ++ [s.drained.length - s.drain.pending.length], ?_, ?_, ?_⟩
      · refine pairwise_append.2 ⟨hso, pairwise_singleton _ _, fun i hi j hj => ?_⟩
        rw [mem_singleton.1 hj]
        exact hbo i hi
      · show (s.reported ++ reportedBy s.drain e).map some = _
        rw [hby, map_append, map_append, hk, hr, map_singleton, map_singleton, hb]
      · intro i hi
        rcases mem_append.1 hi with hi | hi
        · exact Nat.le_trans (hbo i hi) hf
        · rwa [mem_singleton.1 hi]

/-- Every record is accounted for in every run, and batches are reported in the order drained. -/
theorem accounted_run (capacity : Nat) (events : List (Event R)) :
    Accounted (run step (start capacity) events) := by
  have hb : Balanced (run step (start capacity) events) :=
    run_keeps balanced_step (show Balanced (start capacity) from rfl) events
  have ho : Ordered (run step (start capacity) events) :=
    run_keeps ordered_step ⟨List.suffix_rfl, [], .nil, rfl, (fun _ hi => nomatch hi)⟩ events
  have hs : SentAcknowledged (run step (start capacity) events) :=
    run_keeps sentAcknowledged_step (show SentAcknowledged (start capacity) from rfl) events
  intro hh
  refine ⟨?_, hs, ?_⟩
  · rw [hb, balance, hh]
    rfl
  · obtain ⟨idx, hs, hr, -⟩ := ho.reports
    exact ⟨idx, hs, hr⟩

end Portus.UsageAccounting

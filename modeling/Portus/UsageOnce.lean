import Portus.DataPlane.Usage
import Portus.Ledger.Usage
import Portus.Lib.Run

/-!
# Is a usage record stored once?

A pod reports a batch until it is acknowledged, and the ledger appends what it is sent. A report
can fail after the ledger has stored it: the answer gets lost, the pod connects again and reports
the same batch, and it is stored a second time, with a second event for each refusal in it. Nothing
on either side tells the two apart.
-/

namespace Portus.UsageOnce

open Lib DataPlane.Usage Ledger List Function

structure Produced where
  serial : Nat
  record : UsageRecord

structure System (Node : Type) where
  pods : Node → Drain Produced
  produced : Node → Nat
  store : UsageStore Node Produced

inductive Delivery where
  /-- It is not stored. -/
  | failed
  /-- It is stored, and the answer gets lost. -/
  | unanswered
  | acknowledged
deriving DecidableEq

inductive Action (Node : Type) where
  | push (n : Node) (r : UsageRecord)
  | countDrop (n : Node)
  | wake (n : Node)
  | pop (n : Node)
  | connect (n : Node) (outcome : Connection)
  | report (n : Node) (delivery : Delivery)

section

variable {Node : Type} [DecidableEq Node]

def System.atPod (s : System Node) (n : Node) (e : Event Produced) : System Node :=
  { s with pods := Function.update s.pods n ((s.pods n).step e) }

def step (s : System Node) : Action Node → System Node
  | .push n r =>
    { s.atPod n (.push ⟨s.produced n, r⟩) with
      produced := Function.update s.produced n (s.produced n + 1) }
  | .countDrop n => s.atPod n .countDrop
  | .wake n => s.atPod n .wake
  | .pop n => s.atPod n .pop
  | .connect n outcome => s.atPod n (.connect outcome)
  | .report n delivery =>
    match (s.pods n).sending, delivery with
    | none, _ => s
    | some _, .failed => s.atPod n (.report false)
    | some b, .unanswered =>
      { s.atPod n (.report false) with store := s.store.insertBatch (·.record) n b }
    | some b, .acknowledged =>
      { s.atPod n (.report true) with store := s.store.insertBatch (·.record) n b }

def start (capacity : Nat) (refusals : Option (List String)) : System Node where
  pods _ := { ring := { capacity } }
  produced _ := 0
  store := { refusals }

/-- Each record a pod produced has at most one row and at most one event. -/
def AtMostOnce (s : System Node) : Prop :=
  ∀ n serial,
    s.store.usage.countP (fun row => row.node = n ∧ row.record.serial = serial) ≤ 1 ∧
    s.store.outbox.countP (fun row => row.node = n ∧ row.record.serial = serial) ≤ 1

def Answered (_ : System Node) : Action Node → Prop
  | .report _ delivery => delivery ≠ .unanswered
  | _ => True

instance (s : System Node) : ∀ a, Decidable (Answered s a)
  | .report _ delivery => inferInstanceAs (Decidable (delivery ≠ .unanswered))
  | .push _ _ | .countDrop _ | .wake _ | .pop _ | .connect _ _ => isTrue trivial

def stored (s : System Node) (n : Node) : List Nat :=
  (s.store.usage.filter (·.node = n)).map (·.record.serial)

def announced (s : System Node) (n : Node) : List Nat :=
  (s.store.outbox.filter (·.node = n)).map (·.record.serial)

def contents (d : Drain Produced) : List Produced :=
  d.pending.flatten ++ (if d.phase = .draining then d.scratch else []) ++ d.ring.queue

def line (s : System Node) (n : Node) : List Nat :=
  stored s n ++ (contents (s.pods n)).map (·.serial)

structure Inv (s : System Node) : Prop where
  ascending : ∀ n, (line s n).Pairwise (· < ·)
  bounded : ∀ n, ∀ k ∈ line s n, k < s.produced n
  events : ∀ n, (announced s n).Sublist (stored s n)

end

theorem flatten_suffix (h : l <:+ m) : l.flatten.Sublist m.flatten := by
  obtain ⟨t, rfl⟩ := h
  rw [flatten_append]
  exact sublist_append_right _ _

theorem contents_batch (h : d.phase = .draining) : (contents d.batch).Sublist (contents d) := by
  have hg : d.gathered.flatten = d.pending.flatten ++ d.scratch := by
    unfold Drain.gathered
    cases d.scratch <;> simp
  unfold contents
  rw [if_pos h, if_neg d.phase_batch, append_nil, ← hg]
  exact (flatten_suffix (trim_suffix _)).append_right _

def pushedBy : Event Produced → List Produced
  | .push r => [r]
  | _ => []

theorem contents_step (d : Drain Produced) (e : Event Produced) :
    (contents (d.step e)).Sublist (contents d ++ pushedBy e) := by
  have hsa {d' : Drain Produced} (h : contents d' = contents d) (l : List Produced) :
      (contents d').Sublist (contents d ++ l) := by
    rw [h]
    exact sublist_append_left _ _
  cases e with
  | push r =>
    dsimp only [Drain.step, pushedBy]
    split
    next => simp [contents]
    next => exact hsa rfl [r]
  | countDrop =>
    dsimp only [Drain.step]
    split <;> exact hsa rfl []
  | wake =>
    dsimp only [Drain.step]
    split
    next hph => exact hsa (by simp [contents, hph]) []
    next => exact hsa rfl []
  | pop =>
    dsimp only [Drain.step]
    split
    next hph =>
      split
      next =>
        split
        next r rest hq => exact hsa (by simp [contents, hph, hq]) []
        next => exact (contents_batch hph).trans (sublist_append_left _ _)
      next => exact (contents_batch hph).trans (sublist_append_left _ _)
    next => exact hsa rfl []
  | connect outcome =>
    dsimp only [Drain.step]
    split
    next hph =>
      split
      next => exact hsa (by simp [contents, hph]) []
      next => cases outcome <;> exact hsa (by simp [contents, hph, Drain.fail]) []
    next => exact hsa rfl []
  | report acknowledged =>
    dsimp only [Drain.step]
    split
    next b hse =>
      obtain ⟨hph, rest, hpe⟩ := Drain.sending_eq_some hse
      split
      next =>
        refine List.Sublist.trans ?_ (sublist_append_left _ _)
        simp [contents, Drain.acknowledge, hph, hpe]
      next => exact hsa (by simp [contents, Drain.fail, hph]) []
    next => exact hsa rfl []

theorem contents_report (h : d.sending = some b) :
    b ++ contents (d.step (.report true)) = contents d := by
  obtain ⟨hph, rest, hpe⟩ := Drain.sending_eq_some h
  have hs : d.step (.report true) = d.acknowledge b := by
    rw [Drain.step, h]
    rfl
  rw [hs]
  simp [contents, Drain.acknowledge, hph, hpe]

variable {Node : Type} [DecidableEq Node] {s : System Node}

theorem inv_atPod (h : Inv s) (he : pushedBy e = []) : Inv (s.atPod n e) := by
  have hl (m : Node) : (line (s.atPod n e) m).Sublist (line s m) := by
    refine List.Sublist.append_left (List.Sublist.map _ ?_) _
    by_cases hm : m = n
    · subst hm
      have hs := contents_step (s.pods m) e
      rw [he] at hs
      simpa [System.atPod] using hs
    · simp [System.atPod, update_of_ne hm]
  exact ⟨fun m => (h.ascending m).sublist (hl m),
    fun m k hk => h.bounded m k ((hl m).subset hk), h.events⟩

theorem inv_push (h : Inv s) : Inv (step s (.push n r)) := by
  have ho {m : Node} (hm : m ≠ n) : line (step s (.push n r)) m = line s m := by
    show stored s m ++ (contents (update s.pods n _ m)).map _ = _
    rw [update_of_ne hm]
    rfl
  have hp : (line (step s (.push n r)) n).Sublist (line s n ++ [s.produced n]) := by
    have hs := (contents_step (s.pods n) (.push ⟨s.produced n, r⟩)).map Produced.serial
    rw [map_append] at hs
    show (stored s n ++ (contents (update s.pods n _ n)).map _).Sublist _
    rw [update_self, line, append_assoc]
    exact hs.append_left _
  constructor
  case ascending =>
    intro m
    by_cases hm : m = n
    · subst hm
      refine List.Pairwise.sublist hp (pairwise_append.2
        ⟨h.ascending m, pairwise_singleton _ _, fun k hk j hj => ?_⟩)
      rw [mem_singleton.1 hj]
      exact h.bounded m k hk
    · rw [ho hm]
      exact h.ascending m
  case bounded =>
    intro m k hk
    by_cases hm : m = n
    · subst hm
      show k < update s.produced m _ m
      rw [update_self]
      rcases mem_append.1 (hp.subset hk) with hk | hk
      · exact Nat.lt_succ_of_lt (h.bounded m k hk)
      · rw [mem_singleton.1 hk]
        exact Nat.lt_succ_self _
    · rw [ho hm] at hk
      show k < update s.produced n _ m
      rw [update_of_ne hm]
      exact h.bounded m k hk
  case events => exact h.events

theorem serials_rows (f : Produced → Row) (node : Row → Node) (record : Row → Produced)
    (hn : ∀ r, node (f r) = n) (hre : ∀ r, record (f r) = r) (b : List Produced) :
    ((b.map f).filter (node · = m)).map (fun row => (record row).serial) =
      if n = m then b.map (·.serial) else [] := by
  have hrow : (fun row => (record row).serial) ∘ f = (·.serial) :=
    funext fun r => congrArg Produced.serial (hre r)
  split
  next hnm =>
    rw [filter_eq_self.2, map_map, hrow]
    intro row hrow'
    obtain ⟨r, -, rfl⟩ := mem_map.1 hrow'
    exact decide_eq_true ((hn r).trans hnm)
  next hnm =>
    rw [filter_eq_nil_iff.2, map_nil]
    intro row hrow'
    obtain ⟨r, -, rfl⟩ := mem_map.1 hrow'
    simpa [hn r] using hnm

theorem inv_acknowledged (h : Inv s) (hb : (s.pods n).sending = some b) :
    Inv { s.atPod n (.report true) with store := s.store.insertBatch (·.record) n b } := by
  have hs (m : Node) :
      stored { s.atPod n (.report true) with store := s.store.insertBatch (·.record) n b } m =
        stored s m ++ if n = m then b.map (·.serial) else [] := by
    show ((s.store.usage ++ b.map (UsageRow.mk n)).filter _).map _ = _
    rw [filter_append, map_append,
      serials_rows (UsageRow.mk n) UsageRow.node UsageRow.record (fun _ => rfl) (fun _ => rfl)]
    rfl
  have ha (m : Node) :
      announced { s.atPod n (.report true) with store := s.store.insertBatch (·.record) n b } m =
        announced s m ++
          if n = m then (s.store.refused (·.record) b).map (·.serial) else [] := by
    show ((s.store.outbox ++ (s.store.refused _ b).map (OutboxRow.mk _ n)).filter _).map _ = _
    rw [filter_append, map_append,
      serials_rows (OutboxRow.mk _ n) OutboxRow.node OutboxRow.record (fun _ => rfl) (fun _ => rfl)]
    rfl
  have hl (m : Node) :
      line { s.atPod n (.report true) with store := s.store.insertBatch (·.record) n b } m =
        line s m := by
    unfold line
    rw [hs]
    by_cases hm : n = m
    · subst hm
      rw [if_pos rfl, append_assoc, ← map_append]
      congr 2
      show b ++ contents (update s.pods n _ n) = _
      rw [update_self, contents_report hb]
    · rw [if_neg hm, append_nil]
      show _ ++ (contents (update s.pods n _ m)).map _ = _
      rw [update_of_ne (Ne.symm hm)]
  constructor
  case ascending =>
    intro m
    rw [hl]
    exact h.ascending m
  case bounded =>
    intro m k hk
    rw [hl] at hk
    exact h.bounded m k hk
  case events =>
    intro m
    rw [hs, ha]
    refine (h.events m).append ?_
    split
    next => exact (s.store.refused_sublist _ b).map _
    next => exact List.Sublist.refl _

theorem inv_step (s : System Node) (a : Action Node) (h : Inv s) (hok : Answered s a) :
    Inv (step s a) := by
  cases a with
  | push n r => exact inv_push h
  | countDrop n | wake n | pop n | connect n outcome => exact inv_atPod h rfl
  | report n delivery =>
    unfold step
    dsimp only
    split
    next => exact h
    next => exact inv_atPod h rfl
    next => exact absurd rfl hok
    next b hb => exact inv_acknowledged h hb

theorem countP_eq_count (node : Row → Node) (record : Row → Produced) (l : List Row) :
    l.countP (fun row => node row = n ∧ (record row).serial = serial) =
      ((l.filter (node · = n)).map fun row => (record row).serial).count serial := by
  rw [count_eq_countP, countP_map, countP_filter]
  refine countP_congr fun row _ => ?_
  simp [and_comm]

theorem Inv.atMostOnce (h : Inv s) : AtMostOnce s := by
  intro n serial
  have hs : (stored s n).Nodup :=
    ((h.ascending n).sublist (sublist_append_left _ _)).imp Nat.ne_of_lt
  rw [countP_eq_count UsageRow.node UsageRow.record,
    countP_eq_count OutboxRow.node OutboxRow.record]
  exact ⟨nodup_iff_count_le_one.1 hs serial,
    nodup_iff_count_le_one.1 (hs.sublist (h.events n)) serial⟩

/-- While no answer to a stored report gets lost, each record is stored at most once. -/
theorem atMostOnce_run (capacity : Nat) (refusals : Option (List String))
    (actions : List (Action Node)) (h : StepsMeet step Answered (start capacity refusals) actions) :
    AtMostOnce (run step (start capacity refusals) actions) := by
  have hs : Inv (start capacity refusals : System Node) :=
    ⟨fun _ => .nil, (fun _ _ hk => nomatch hk), fun _ => List.Sublist.refl _⟩
  exact (run_invariant inv_step hs h).atMostOnce

def refusedRequest : UsageRecord := { tsUnixMicros := 5, requestId := 7, refusal := "budget_exhausted" }

/-- A pod drains the record of the request and reports it, and then once more. -/
def twoReports (first : Delivery) : List (Action Unit) :=
  [.push () refusedRequest, .wake (), .pop (), .pop (), .connect () .established, .report () first,
    .wake (), .pop (), .connect () .established, .report () .acknowledged]

def budgetEvents : Option (List String) := some ["budget_exhausted"]

/-- The first report does not arrive. -/
theorem atMostOnce_failedReport :
    AtMostOnce (run step (start 4 budgetEvents) (twoReports .failed)) :=
  atMostOnce_run 4 budgetEvents (twoReports .failed) (by decide)

/-- The first report is stored and its answer gets lost: the request has two rows and two events. -/
theorem unansweredReport_storedTwice :
    ¬ AtMostOnce (run step (start 4 budgetEvents) (twoReports .unanswered)) := by
  intro h
  have hr := (h () 0).1
  revert hr
  decide

end Portus.UsageOnce

import Mathlib.Tactic.SplitIfs
import Portus.DataPlane.Planner
import Portus.Lib.Run

/-!
# Events of the ledger

`portus-ledger/src/events.rs` keeps the events for the webhook in an outbox, and `deliver_events`
in `main.rs` sends what is due, once a second and in the order of the ids. A failed delivery ends
the round, and the event waits for its own time; so the next round may begin behind it.

A sync of spend queues the thresholds it crosses (`sync_alerting`). Of these the row keeps the
highest, and since they are sorted that says which have been queued.
-/

namespace Portus.LedgerEvents

open Lib List

def maxAttempts : Nat := 20

/-- A row of the outbox. -/
structure Event where
  id : Nat
  attempts : Nat
  nextAttemptUnixMicros : Nat

def backoffSecs (attempts : Nat) : Nat := min (1 <<< min attempts 9) 300

structure Outbox where
  events : List Event := []
  /-- The id of the next event. -/
  nextId : Nat := 1
  /-- What is left of the events that were due when the round began. -/
  round : List Event := []
  delivered : List Nat := []
  dropped : List Nat := []
  /-- How often the delivery of an event has failed. -/
  failures : Nat → Nat := fun _ => 0

/-- `cleared`, `recorded`: the database took the outcome. -/
inductive Action where
  | enqueue (now : Nat)
  | due (now : Nat)
  | success (cleared : Bool)
  | failure (recorded : Bool) (now : Nat)
  | restart

def failed (events : List Event) (e : Event) (now : Nat) : List Event :=
  if maxAttempts ≤ e.attempts + 1 then events.filter (·.id ≠ e.id)
  else events.map fun x =>
    if x.id = e.id then
      { x with
        attempts := e.attempts + 1
        nextAttemptUnixMicros := now + backoffSecs (e.attempts + 1) * 1000000 }
    else x

def step (s : Outbox) : Action → Outbox
  | .enqueue now => { s with events := s.events ++ [⟨s.nextId, 0, now⟩], nextId := s.nextId + 1 }
  | .due now =>
    if s.round = [] then
      { s with round := (s.events.filter (·.nextAttemptUnixMicros ≤ now)).take 100 }
    else s
  | .success cleared =>
    match s.round with
    | [] => s
    | e :: rest =>
      { s with
        round := rest
        delivered := s.delivered ++ [e.id]
        events := if cleared then s.events.filter (·.id ≠ e.id) else s.events }
  | .failure recorded now =>
    match s.round with
    | [] => s
    | e :: _ =>
      -- the receiver is down: the round is over
      { s with
        round := []
        failures := Function.update s.failures e.id (s.failures e.id + 1)
        events := if recorded then failed s.events e now else s.events
        dropped :=
          if recorded && maxAttempts ≤ e.attempts + 1 then s.dropped ++ [e.id] else s.dropped }
  | .restart => { s with round := [] }

/-- An event is delivered only after those with smaller ids were delivered or dropped. -/
def InOrder (s : Outbox) : Action → Prop
  | .success _ => ∀ e ∈ s.round.head?, ∀ j, 1 ≤ j → j < e.id → j ∈ s.delivered ∨ j ∈ s.dropped
  | _ => True

/-- An event leaves the outbox only delivered or with as many failures as there may be. -/
def LeavesDone (s : Outbox) (a : Action) : Prop :=
  ∀ e ∈ s.events, e.id ∉ (step s a).events.map (·.id) →
    e.id ∈ (step s a).delivered ∨ maxAttempts ≤ (step s a).failures e.id

/-- No event comes due before one with a smaller id. -/
def DueInOrder (s : Outbox) : Action → Prop
  | .due now => ∀ e ∈ s.events, e.nextAttemptUnixMicros ≤ now →
    ∀ x ∈ s.events, x.id < e.id → x.nextAttemptUnixMicros ≤ now
  | _ => True

/-- Where the events with an id are: still in the list, or done with. -/
def Placed (s : Outbox) (events : List Event) (j : Nat) : Prop :=
  (∃ e ∈ events, e.id = j) ∨ j ∈ s.delivered ∨ j ∈ s.dropped

structure Inv (s : Outbox) : Prop where
  sorted : s.events.Pairwise (·.id < ·.id)
  bound : ∀ e ∈ s.events, e.id < s.nextId
  placed : ∀ j, 1 ≤ j → j < s.nextId → Placed s s.events j
  roundSorted : s.round.Pairwise (·.id < ·.id)
  before : ∀ e ∈ s.round, ∀ j, 1 ≤ j → j < e.id → Placed s s.round j
  attempts : ∀ e, e ∈ s.events ∨ e ∈ s.round → e.attempts ≤ s.failures e.id

theorem Inv.enqueue (h : Inv s) (now : Nat) : Inv (step s (.enqueue now)) := by
  obtain ⟨hs, hb, hp, hrs, hbe, ha⟩ := h
  refine ⟨?_, by grind [step], ?_, hrs, hbe, by grind [step]⟩
  · simpa [step, pairwise_append, hs] using hb
  · intro j h1 hj
    rcases Nat.lt_succ_iff_lt_or_eq.1 hj with hj | rfl
    · exact (hp j h1 hj).imp_left fun ⟨e, he, hid⟩ => ⟨e, mem_append_left _ he, hid⟩
    · exact .inl ⟨_, mem_append_right _ mem_cons_self, rfl⟩

theorem Inv.due (h : Inv s) (hd : DueInOrder s (.due now)) : Inv (step s (.due now)) := by
  rw [step]
  split_ifs with hr
  · obtain ⟨l, hl⟩ : ∃ l, s.events.filter (·.nextAttemptUnixMicros ≤ now) = l := ⟨_, rfl⟩
    have hm : ∀ e, e ∈ l ↔ e ∈ s.events ∧ e.nextAttemptUnixMicros ≤ now := by simp [← hl]
    have hsl : l.Pairwise (·.id < ·.id) := hl ▸ h.sorted.sublist filter_sublist
    rw [hl]
    refine { h with roundSorted := hsl.sublist (take_sublist ..), before := ?_, attempts := ?_ }
    · intro e he j h1 hj
      obtain ⟨hin, hn⟩ := (hm e).1 (mem_of_mem_take he)
      refine (h.placed j h1 (hj.trans (h.bound e hin))).imp_left fun ⟨x, hx, hid⟩ => ⟨x, ?_, hid⟩
      have hxl := (hm x).2 ⟨hx, hd e hin hn x hx (hid ▸ hj)⟩
      -- the round is cut off behind `e`, and `x` comes before it
      rw [← take_append_drop 100 l] at hxl hsl
      refine (mem_append.1 hxl).resolve_right fun hx' => ?_
      exact absurd ((pairwise_append.1 hsl).2.2 e he x hx') (by omega)
    · intro e he
      exact h.attempts e (.inl (he.elim id fun he => ((hm e).1 (mem_of_mem_take he)).1))
  · exact h

theorem Inv.success (h : Inv s) (cleared : Bool) : Inv (step s (.success cleared)) := by
  rw [step]
  split
  · exact h
  · rename_i e rest hr
    obtain ⟨hs, hb, hp, hrs, hbe, ha⟩ := h
    rw [hr] at hrs hbe ha
    rw [pairwise_cons] at hrs
    unfold Placed at hp hbe
    refine ⟨?_, ?_, ?_, hrs.2, ?_, ?_⟩
    · cases cleared <;> simp [hs, hs.filter]
    · cases cleared <;> grind
    · unfold Placed; cases cleared <;> grind
    · unfold Placed; grind
    · cases cleared <;> grind

theorem pairwise_failed (h : events.Pairwise (·.id < ·.id)) :
    (failed events e now).Pairwise (·.id < ·.id) := by
  unfold failed
  split_ifs
  · exact h.filter _
  · refine pairwise_map.2 (h.imp ?_)
    grind

theorem exists_mem_failed : (∃ x ∈ failed events e now, x.id = j) ↔
    (∃ x ∈ events, x.id = j) ∧ (maxAttempts ≤ e.attempts + 1 → j ≠ e.id) := by
  unfold failed
  split_ifs with hm
  · simp only [mem_filter, decide_eq_true_eq, hm, true_imp_iff]
    grind
  · simp only [mem_map, hm, false_imp_iff, and_true]
    constructor
    · rintro ⟨_, ⟨x, hx, rfl⟩, rfl⟩
      exact ⟨x, hx, by split_ifs <;> rfl⟩
    · rintro ⟨x, hx, rfl⟩
      exact ⟨_, ⟨x, hx, rfl⟩, by split_ifs <;> rfl⟩

theorem Inv.failure (h : Inv s) (recorded : Bool) (now : Nat) :
    Inv (step s (.failure recorded now)) := by
  rw [step]
  split
  · exact h
  · rename_i e rest hr
    obtain ⟨hs, hb, hp, hrs, hbe, ha⟩ := h
    cases recorded
    · exact ⟨hs, hb, hp, .nil, by simp, by grind [Function.update]⟩
    · refine ⟨pairwise_failed hs, by grind [failed], ?_, .nil, by simp, ?_⟩
      · intro j h1 hj
        simp only [Placed, if_true, exists_mem_failed]
        rcases hp j h1 hj with hx | hd <;> grind
      · grind [failed, Function.update]

theorem Inv.step (h : Inv s) : ∀ a, DueInOrder s a → Inv (step s a)
  | .enqueue now, _ => h.enqueue now
  | .due _, hdue => h.due hdue
  | .success cleared, _ => h.success cleared
  | .failure recorded now, _ => h.failure recorded now
  | .restart, _ => { h with
      roundSorted := .nil
      before := nofun
      attempts := fun e he => h.attempts e (.inl (he.resolve_right not_mem_nil)) }

theorem Inv.inOrder (h : Inv s) : ∀ a, InOrder s a
  | .success _ => by
    intro e he j h1 hj
    obtain ⟨rest, hr⟩ := head?_eq_some_iff.1 he
    have hrs := h.roundSorted
    rw [hr, pairwise_cons] at hrs
    refine (h.before e (hr ▸ mem_cons_self) j h1 hj).resolve_left fun ⟨x, hx, hid⟩ => ?_
    -- nothing in the round is before its head
    rcases mem_cons.1 (hr ▸ hx) with rfl | hx
    · omega
    · exact absurd (hrs.1 x hx) (by omega)
  | .enqueue _ | .due _ | .failure .. | .restart => trivial

theorem Inv.leavesDone (h : Inv s) (a : Action) : LeavesDone s a := by
  intro x hx hg
  rw [mem_map] at hg
  cases a with
  | enqueue => exact absurd ⟨x, mem_append_left _ hx, rfl⟩ hg
  | due => grind [Portus.LedgerEvents.step]
  | restart => exact absurd ⟨x, hx, rfl⟩ hg
  | success cleared =>
    rw [Portus.LedgerEvents.step] at hg ⊢
    cases hr : s.round <;> cases cleared <;> grind
  | failure recorded now =>
    rw [Portus.LedgerEvents.step] at hg ⊢
    split at hg
    · exact absurd ⟨x, hx, rfl⟩ hg
    · rename_i e rest hr
      have hae := h.attempts e (.inr (hr ▸ mem_cons_self))
      cases recorded
      · exact absurd ⟨x, hx, rfl⟩ hg
      · simp only [if_true, exists_mem_failed, not_and, not_forall] at hg
        obtain ⟨hm, hid⟩ := hg ⟨x, hx, rfl⟩
        right
        simp only [not_not.1 hid, Function.update_self]
        omega

theorem events_delivered_in_order (actions : List Action)
    (h : StepsMeet step DueInOrder {} actions) :
    StepsMeet step (fun s a => InOrder s a ∧ LeavesDone s a) {} actions :=
  StepsMeet.imp (I := Inv) (fun _ a hs => hs.step a)
    (fun _ a hs _ => ⟨hs.inOrder a, hs.leavesDone a⟩)
    { sorted := .nil, bound := nofun, placed := fun _ h1 hj => absurd hj h1.not_gt
      roundSorted := .nil, before := nofun, attempts := by simp } h

/-- The first event fails and waits; the second comes meanwhile and is delivered. -/
def overtaken : List Action :=
  [.enqueue 0, .due 0, .failure true 0, .enqueue 1, .due 1, .success true]

theorem overtaken_not_in_order :
    ¬StepsMeet step (fun s a => InOrder s a ∧ LeavesDone s a) {} overtaken := by
  intro h
  have := h.2.2.2.2.2.1.1 ⟨2, 0, 1⟩ rfl 1 (by decide) (by decide)
  revert this
  decide

/-- Both events wait until the first, which failed, is due again. -/
theorem retried_delivered_in_order : StepsMeet step (fun s a => InOrder s a ∧ LeavesDone s a) {}
    [.enqueue 0, .enqueue 0, .due 0, .failure true 0, .due 2000000, .success true, .success true] :=
  events_delivered_in_order _ <| by
    simp [StepsMeet, DueInOrder, step, failed, maxAttempts, backoffSecs]

structure EventConfig where
  thresholds : List Nat
  refusals : List String

inductive ConfigError where
  | notWholePercent (part : String)
  | outOfRange (n : Nat)
  | unknownRefusal (part : String)

def parts (s : String) : List String := ((Text.split ',' s).map Text.trim).filter (!·.isEmpty)

def parseThreshold (part : String) : Except ConfigError Nat :=
  match (DataPlane.parseU64 part).filter (· < 4294967296) with
  | none => throw (.notWholePercent part)
  | some n => if n = 0 ∨ 1000 < n then throw (.outOfRange n) else pure n

def parseRefusal (part : String) : Except ConfigError String :=
  if part ∈ ["unauthenticated", "model_not_allowed", "tool_not_allowed", "budget_exhausted"] then
    pure part
  else throw (.unknownRefusal part)

def EventConfig.parse (thresholds refusals : String) : Except ConfigError EventConfig := do
  let t ← (parts thresholds).mapM parseThreshold
  let r ← ((parts refusals).filter (· ≠ "none")).mapM parseRefusal
  return ⟨t.dedup.insertionSort (· ≤ ·), r⟩

structure SpendRow where
  spent : Int := 0
  subjectLimit : Int := 0
  alerted : Nat := 0

structure Crossing where
  thresholdPct : Nat
  spent : Nat
  limit : Nat

/-- What of the shape of a policy counts for the spend of a subject. -/
structure Shape where
  limit : UInt64
  subjectLimit : UInt64

/-- `as i64`. -/
def asI64 (n : UInt64) : Int := n.toInt64.toInt

def subjectLimitOf (shape : Option Shape) : UInt64 :=
  shape.elim 0 fun s => if 0 < s.subjectLimit then s.subjectLimit else s.limit

/-- The row that the `INSERT … ON CONFLICT DO UPDATE` leaves. -/
def SpendRow.upsert (row : Option SpendRow) (delta limit : Int) : SpendRow :=
  match row with
  | none => { spent := delta, subjectLimit := limit }
  | some r =>
    { r with
      spent := r.spent + delta
      subjectLimit := if 0 < limit then limit else r.subjectLimit }

def SpendRow.crossed (r : SpendRow) (thresholds : List Nat) : List Crossing :=
  let total := r.spent.toNat
  let limit := r.subjectLimit.toNat
  if 0 < limit then
    let pct := min (total * 100) 18446744073709551615 / limit
    (thresholds.filter fun t => r.alerted < t ∧ t ≤ pct).map (⟨·, total, limit⟩)
  else []

def syncAlerting (row : Option SpendRow) (delta : UInt64) (shape : Option Shape)
    (thresholds : List Nat) : SpendRow × List Crossing :=
  let r := SpendRow.upsert row (asI64 delta) (asI64 (subjectLimitOf shape))
  let crossed := r.crossed thresholds
  ({ r with alerted := crossed.getLast?.elim r.alerted (·.thresholdPct) }, crossed)

/-- A call of `sync_spend`; a transaction that is not committed leaves nothing. -/
structure SpendSync where
  delta : UInt64
  shape : Option Shape
  commits : Bool := true

/-- The row of the policy and subject in the window, and the events queued for it. -/
structure Ledger where
  row : Option SpendRow := none
  queued : List Crossing := []

def syncSpend (config : EventConfig) (s : Ledger) (c : SpendSync) : Ledger :=
  if c.commits then
    let (row, crossed) := syncAlerting s.row c.delta c.shape config.thresholds
    ⟨some row, s.queued ++ crossed⟩
  else s

def totalOf (calls : List SpendSync) : Nat :=
  ((calls.filter (·.commits)).map (·.delta.toNat)).sum

/-- The last positive limit that was sent. -/
def limitOf (calls : List SpendSync) : Int :=
  (((calls.filter (·.commits)).map fun c => asI64 (subjectLimitOf c.shape)).filter (0 < ·)).getLast?.getD
    0

/-- The limit is positive, and that much of it is spent. -/
def Reaches (calls : List SpendSync) (t : Nat) : Prop :=
  0 < limitOf calls ∧ (t : Int) ≤ 100 * totalOf calls / limitOf calls

/-- At this call or an earlier one the threshold was reached. -/
def Reached (calls : List SpendSync) (t : Nat) : Prop := ∃ p, p <+: calls ∧ Reaches p t

theorem pos_mapM_parseThreshold (h : List.mapM parseThreshold l = .ok ts) : ∀ t ∈ ts, 0 < t := by
  induction l generalizing ts with
  | nil =>
    cases h
    simp
  | cons part l ih =>
    rw [mapM_cons] at h
    cases hp : parseThreshold part <;> cases hl : l.mapM parseThreshold <;>
      simp only [hp, hl, bind, Except.bind] at h <;> cases h
    refine forall_mem_cons.2 ⟨?_, ih hl⟩
    rw [parseThreshold] at hp
    split at hp
    · cases hp
    · split at hp <;> cases hp
      omega

theorem sorted_parse (h : EventConfig.parse a b = .ok config) :
    config.thresholds.Pairwise (· < ·) ∧ ∀ t ∈ config.thresholds, 0 < t := by
  simp only [EventConfig.parse, bind, Except.bind] at h
  split at h
  · cases h
  · rename_i ts hts
    split at h <;> cases h
    refine ⟨?_, fun t ht => pos_mapM_parseThreshold hts t ?_⟩
    · exact ((pairwise_insertionSort _ _).and ((perm_insertionSort _ _).nodup_iff.2
        (nodup_dedup ts))).imp fun h => lt_of_le_of_ne h.1 h.2
    · rwa [mem_insertionSort, mem_dedup] at ht

variable {l : List Nat}

theorem le_getLast_filter (hs : l.Pairwise (· < ·)) (ht : t ∈ l) :
    t ≤ (l.filter fun x => a < x ∧ x ≤ b).getLast?.elim a id ↔ t ≤ a ∨ t ≤ b := by
  have hm : ∀ x, x ∈ l.filter (fun x => a < x ∧ x ≤ b) ↔ x ∈ l ∧ a < x ∧ x ≤ b := by simp
  have hsf := hs.filter fun x => a < x ∧ x ≤ b
  generalize l.filter (fun x => a < x ∧ x ≤ b) = k at hm hsf
  have htk := hm t
  rcases k.eq_nil_or_concat' with rfl | ⟨init, x, rfl⟩
  · simp only [not_mem_nil, ht, true_and, false_iff] at htk
    simp
    omega
  · have hx := (hm x).1 (by simp)
    have hle : t ∈ init ++ [x] → t ≤ x := by
      intro h
      rcases mem_append.1 h with h | h
      · exact Nat.le_of_lt ((pairwise_append.1 hsf).2.2 t h x mem_cons_self)
      · exact (mem_singleton.1 h).le
    simp only [htk, ht, true_and] at hle
    simp
    omega

theorem count_filter_of_mem (hs : l.Pairwise (· < ·)) (ht : t ∈ l) :
    (l.filter p).count t = if p t then 1 else 0 := by
  split
  · rw [count_filter ‹_›, count_eq_one_of_mem hs.nodup ht]
  · exact count_eq_zero.2 fun h => ‹¬_› (mem_filter.1 h).2

theorem alerted_syncAlerting (hs : l.Pairwise (· < ·)) (ht : t ∈ l)
    (hr : SpendRow.upsert row (asI64 delta) (asI64 (subjectLimitOf shape)) = r)
    (h0 : 0 ≤ r.spent) (h : 100 * r.spent < 2 ^ 63) :
    (t ≤ (syncAlerting row delta shape l).1.alerted ↔
      t ≤ r.alerted ∨ 0 < r.subjectLimit ∧ (t : Int) ≤ 100 * r.spent / r.subjectLimit) ∧
    (syncAlerting row delta shape l).2.countP (·.thresholdPct = t) =
      if r.alerted < t ∧ t ≤ (syncAlerting row delta shape l).1.alerted then 1 else 0 := by
  rw [syncAlerting, hr]
  dsimp only [SpendRow.crossed]
  by_cases hli : 0 < r.subjectLimit.toNat
  · obtain ⟨pct, hpc⟩ : ∃ pct,
      min (r.spent.toNat * 100) 18446744073709551615 / r.subjectLimit.toNat = pct := ⟨_, rfl⟩
    have hpo : 0 < r.subjectLimit := by omega
    have hca : (pct : Int) = 100 * r.spent / r.subjectLimit := by
      rw [← hpc, Int.natCast_ediv]
      congr 1 <;> omega
    have hla := le_getLast_filter (a := r.alerted) (b := pct) hs ht
    have hco := count_filter_of_mem (p := fun t => r.alerted < t ∧ t ≤ pct) hs ht
    simp only [hli, if_true, hpc, getLast?_map, countP_map, Option.elim_map]
    rw [← hca]
    refine ⟨hla.trans (by simp [hpo]), hco.trans (if_congr ?_ rfl rfl)⟩
    rw [decide_eq_true_iff]
    exact and_congr_right fun ha => ((or_iff_right ha.not_ge).symm.trans hla.symm)
  · simp only [hli, if_false]
    refine ⟨⟨.inl, fun h => h.resolve_right fun h => hli (by omega)⟩, ?_⟩
    exact (if_neg fun hp => absurd hp.2 (not_le.2 hp.1)).symm

/-- The row holds what the calls have sent, and the highest threshold that they reached. -/
structure Alerts (config : EventConfig) (calls : List SpendSync) (s : Ledger) : Prop where
  spent : s.row.elim 0 (·.spent) = totalOf calls
  limit : max 0 (s.row.elim 0 (·.subjectLimit)) = limitOf calls
  queued : ∀ t ∈ config.thresholds, s.queued.countP (·.thresholdPct = t) =
    if t ≤ s.row.elim 0 (·.alerted) then 1 else 0
  reached : ∀ t ∈ config.thresholds, t ≤ s.row.elim 0 (·.alerted) ↔ Reached calls t

section Calls

variable {calls : List SpendSync} {c : SpendSync}

theorem reached_append (t : Nat) :
    Reached (calls ++ [c]) t ↔ Reaches (calls ++ [c]) t ∨ Reached calls t := by
  simp only [Reached, prefix_concat_iff, or_and_right, exists_or, exists_eq_left]

theorem sums_of_not_commits (hc : c.commits = false) :
    totalOf (calls ++ [c]) = totalOf calls ∧ limitOf (calls ++ [c]) = limitOf calls := by
  simp [totalOf, limitOf, hc]

theorem limitOf_of_commits (hc : c.commits = true) : limitOf (calls ++ [c]) =
    if 0 < asI64 (subjectLimitOf c.shape) then asI64 (subjectLimitOf c.shape) else limitOf calls := by
  by_cases hl : 0 < asI64 (subjectLimitOf c.shape) <;> simp [limitOf, hc, hl]

end Calls

theorem Alerts.upsert {config : EventConfig} {calls : List SpendSync} {s : Ledger} {c : SpendSync}
    (h : Alerts config calls s) (hc : c.commits = true)
    (htotal : 100 * totalOf (calls ++ [c]) < 2 ^ 63) :
    let r := SpendRow.upsert s.row (asI64 c.delta) (asI64 (subjectLimitOf c.shape))
    r.spent = totalOf (calls ++ [c]) ∧ max 0 r.subjectLimit = limitOf (calls ++ [c]) ∧
      r.alerted = s.row.elim 0 (·.alerted) := by
  have ht : totalOf (calls ++ [c]) = totalOf calls + c.delta.toNat := by simp [totalOf, hc]
  have hd : asI64 c.delta = c.delta.toNat := by
    have := BitVec.toInt_eq_toNat_bmod c.delta.toBitVec
    rw [Int.bmod_def] at this
    exact this.trans (by simp; omega)
  have hs := h.spent
  have hl := h.limit
  rw [limitOf_of_commits hc, ht, Nat.cast_add, ← hd]
  cases hr : s.row with
  | none =>
    rw [hr] at hs hl
    simp only [SpendRow.upsert, Option.elim_none] at hs hl ⊢
    exact ⟨by omega, by split_ifs <;> omega, trivial⟩
  | some r =>
    rw [hr] at hs hl
    simp only [SpendRow.upsert, Option.elim_some] at hs hl ⊢
    exact ⟨by omega, by split_ifs <;> omega, trivial⟩

theorem alerts_run {thresholds refusals : String} {config : EventConfig} {calls : List SpendSync}
    (h : EventConfig.parse thresholds refusals = .ok config)
    (htotal : 100 * totalOf calls < 2 ^ 63) :
    Alerts config calls (run (syncSpend config) {} calls) := by
  obtain ⟨hs, hp⟩ := sorted_parse h
  induction calls using reverseRecOn with
  | nil =>
    refine ⟨rfl, rfl, fun t ht => ?_, fun t ht => ?_⟩
    · simp [run, (hp t ht).ne']
    · simp [Reached, Reaches, limitOf, run, (hp t ht).ne']
  | append_singleton calls c ih =>
    have hru : run (syncSpend config) {} (calls ++ [c]) =
        syncSpend config (run (syncSpend config) {} calls) c := by simp [run]
    rw [hru]
    generalize run (syncSpend config) {} calls = s at ih
    rw [syncSpend]
    cases hc : c.commits with
    | false =>
      obtain ⟨ht, hl⟩ := @sums_of_not_commits calls c hc
      have hi := ih (ht ▸ htotal)
      refine ⟨ht ▸ hi.spent, hl ▸ hi.limit, hi.queued, fun t hm => (hi.reached t hm).trans ?_⟩
      rw [reached_append, Reaches, ht, hl, or_iff_right_of_imp fun hr => ⟨calls, prefix_rfl, hr⟩]
    | true =>
      have hle : totalOf calls ≤ totalOf (calls ++ [c]) := by simp [totalOf]
      have hi := ih (by omega)
      obtain ⟨r, hr⟩ : ∃ r,
        SpendRow.upsert s.row (asI64 c.delta) (asI64 (subjectLimitOf c.shape)) = r := ⟨_, rfl⟩
      obtain ⟨hsp, hl, ha⟩ := hr ▸ hi.upsert hc htotal
      have hst := fun t ht => alerted_syncAlerting hs ht hr (by omega) (by omega) (t := t)
      have hf : (syncAlerting s.row c.delta c.shape config.thresholds).1.spent = r.spent ∧
          (syncAlerting s.row c.delta c.shape config.thresholds).1.subjectLimit = r.subjectLimit := by
        rw [syncAlerting, hr]
        exact ⟨rfl, rfl⟩
      refine ⟨hf.1.trans hsp, (congrArg (max 0) hf.2).trans hl, fun t ht => ?_, fun t ht => ?_⟩
      · obtain ⟨hmo, hco⟩ := hst t ht
        simp only [if_true, countP_append, hi.queued t ht, hco, ← ha, Option.elim_some]
        by_cases hal : t ≤ r.alerted
        · rw [if_pos hal, if_pos (hmo.2 (.inl hal)), if_neg (by omega)]
        · simp [hal, not_le.1 hal]
      · -- the limit of the row is the last one sent, as far as it is positive
        have hpos : 0 < r.subjectLimit ↔ 0 < limitOf (calls ++ [c]) := by omega
        simp only [if_true, Option.elim_some]
        rw [(hst t ht).1, reached_append, ← hi.reached t ht, ← ha, or_comm, Reaches, ← hsp, ← hpos]
        refine or_congr_left (and_congr_right fun hlt => ?_)
        rw [← hl, max_eq_right hlt.le]

theorem thresholds_fire_once (thresholds refusals : String) (config : EventConfig)
    (hconfig : EventConfig.parse thresholds refusals = .ok config) (calls : List SpendSync)
    (htotal : 100 * totalOf calls < 2 ^ 63) (t : Nat) (ht : t ∈ config.thresholds) :
    (Reached calls t →
      (run (syncSpend config) {} calls).queued.countP (·.thresholdPct = t) = 1) ∧
    (¬Reached calls t →
      (run (syncSpend config) {} calls).queued.countP (·.thresholdPct = t) = 0) := by
  obtain ⟨-, -, hq, hr⟩ := alerts_run hconfig htotal
  rw [hq t ht, ← hr t ht]
  exact ⟨fun h => if_pos h, fun h => if_neg h⟩

/-- Half of the limit is spent, then a third of a larger one; the fourth call reaches the threshold
under the old limit, and the fifth is beyond it. -/
theorem eighty_fires_once : (run (syncSpend ⟨[80], []⟩) {}
    [⟨50, some ⟨100, 0⟩, true⟩, ⟨30, some ⟨100, 0⟩, false⟩, ⟨20, some ⟨200, 0⟩, true⟩,
      ⟨10, some ⟨100, 0⟩, true⟩, ⟨5, none, true⟩]).queued.countP (·.thresholdPct = 80) = 1 :=
  (thresholds_fire_once "80" "none" ⟨[80], []⟩ (by rfl) _ (by decide) 80 (by decide)).1
    ⟨_, take_prefix 4 _, by decide, by decide⟩

end Portus.LedgerEvents

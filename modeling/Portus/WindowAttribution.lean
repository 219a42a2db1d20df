import Portus.DataPlane.Windows
import Portus.Lib.Placement
import Portus.SpendConservation

/-!
# The window spend is charged to

Pods and the ledger over as many windows as the clocks pass. What was settled in a window should
have reached that window's row once every sync has finished. It has not where the pod drops what
it had not shipped (`roll_over`, an answer that finds new spend), where a delta is shipped late
and the ledger is in the next window, and where the ledger stored a delta and the answer was
lost, since the pod then ships it once more.
-/

namespace Portus.WindowAttribution

open Lib DataPlane.Budget List Function UInt64
open SpendConservation (Row total addDelta answeredTotal asI64_of_lt toNat_add_of_lt Unmoved
  AnswerLossless Fresh)

/-- What a response settled to, and the end of the window its counter belonged to; 0 for none. -/
structure Settlement where
  window : UInt64
  amount : UInt64
deriving DecidableEq

inductive Place (n : Nat) where
  | unsynced (p : Fin n)
  | shipped (p : Fin n)
  | row (window : UInt64)
  | dropped
deriving DecidableEq

inductive Action where
  | check (policy : BudgetPolicy) (estimate now : UInt64) (accepted : Bool)
  | refresh (policy : BudgetPolicy) (now : UInt64) (accepted : Bool)
  | tick (now : UInt64) (accepted : Bool)
  | settle (i : Nat) (tokens : Option Tokens)
  | drop (i : Nat)
  | noClient
  | swap
  | store (now : UInt64)
  | fail
  | loseAnswer
  | answer (now : UInt64)

/-- The pods, the ledger's rows by the end of their window, and all that was settled with the place
it is at. The places are not part of the program: they record where its steps put the spend. -/
structure System (n : Nat) where
  pods : Fin n → Pod
  rows : UInt64 → Row
  spend : List (Place n × Settlement)

section

-- the window of the counter's policy
variable (window : Window)

def act (pod : Pod) (rows : UInt64 → Row) : Action → Pod × (UInt64 → Row)
  | .check policy estimate now accepted => ((pod.check policy estimate now accepted).1, rows)
  | .refresh policy now accepted => (pod.refreshIfStale policy now accepted, rows)
  | .tick now accepted => (pod.tick now accepted, rows)
  | .settle i tokens => (pod.settle i tokens, rows)
  | .drop i => (pod.drop i, rows)
  | .noClient => (pod.noClient, rows)
  | .swap => (pod.swap, rows)
  | .store now =>
    match pod.sync, windowEnd window.asStr now with
    | .shipped delta, some w =>
      let row := addDelta (rows w) delta
      ({ pod with sync := .stored delta (answeredTotal row) w }, Function.update rows w row)
    | _, _ => (pod, rows)
  | .fail => (pod.fail, rows)
  | .loseAnswer => (pod.loseAnswer, rows)
  | .answer now => (pod.answer now, rows)

def settlements (pod : Pod) (i : Nat) (tokens : Option Tokens) : List Settlement :=
  if pod.settledBy i tokens = 0 then [] else [⟨pod.counter.windowEnd, pod.settledBy i tokens⟩]

variable {n : Nat}

/-- Where a step of pod `p` leaves the spend: a counter that was overwritten has dropped it. -/
def follow (p : Fin n) (pod pod' : Pod) (spend : List (Place n × Settlement)) :
    Action → List (Place n × Settlement)
  | .settle i tokens => spend ++ (settlements pod i tokens).map (.unsynced p, ·)
  | .drop i => spend ++ (settlements pod i none).map (.unsynced p, ·)
  | .swap =>
    match pod.sync with
    | .queued => moveAll (.unsynced p) (.shipped p) spend
    | _ => spend
  | .store now =>
    match pod.sync, windowEnd window.asStr now with
    | .shipped _, some w => moveAll (.shipped p) (.row w) spend
    | _, _ => spend
  | .fail =>
    match pod.sync with
    | .shipped _ => moveAll (.shipped p) (.unsynced p) spend
    | _ => spend
  | .check _ _ _ _ | .answer _ =>
    if pod'.counter.unsyncedSpent = pod.counter.unsyncedSpent then spend
    else moveAll (.unsynced p) .dropped spend
  | .refresh _ _ _ | .tick _ _ | .noClient | .loseAnswer => spend

def step (s : System n) (pa : Fin n × Action) : System n :=
  let r := act window (s.pods pa.1) s.rows pa.2
  { pods := Function.update s.pods pa.1 r.1
    rows := r.2
    spend := follow window pa.1 (s.pods pa.1) r.1 s.spend pa.2 }

end

variable {n : Nat}

def Quiet (s : System n) : Prop :=
  ∀ p, (s.pods p).sync = .idle ∧ (s.pods p).counter.unsyncedSpent = 0

instance (s : System n) : Decidable (Quiet s) :=
  inferInstanceAs (Decidable (∀ p, (s.pods p).sync = .idle ∧ _))

/-- Once every sync has finished, the rows hold every amount that was settled once, and those of a
counter that belonged to a window in that window's row. -/
def Attributed (s : System n) : Prop :=
  Quiet s → ∃ credited : List (UInt64 × Settlement), credited.map (·.2) = s.spend.map (·.2) ∧
      (∀ x ∈ credited, x.2.window ≠ 0 → x.1 = x.2.window) ∧
      ∀ w, total (s.rows w) = weightAt (·.amount.toNat) w credited

def settledSum (s : System n) : Nat := (s.spend.map (·.2.amount.toNat)).sum

/-- Steps that charge right. A decision rolls over a counter with nothing to ship; the ledger stores
what was settled in the window it is in; answers are lossless, and only those to an empty delta get
lost; the sum stays within a signed 64-bit total. -/
def ChargesRight (window : Window) (s : System n) (pa : Fin n × Action) : Prop :=
  match pa.2 with
  | .check _ _ now _ =>
    (s.pods pa.1).windowOver now = true → (s.pods pa.1).counter.unsyncedSpent = 0
  | .settle i tokens => settledSum s + ((s.pods pa.1).settledBy i tokens).toNat < 2 ^ 63
  | .drop i => settledSum s + ((s.pods pa.1).settledBy i none).toNat < 2 ^ 63
  | .store now => ∀ x ∈ s.spend, x.1 = .shipped pa.1 →
      x.2.window = 0 ∨ x.2.window = window.endOf now
  | .loseAnswer => ∀ delta spentTotal windowEnd,
      (s.pods pa.1).sync = .stored delta spentTotal windowEnd → delta = 0
  | .answer _ => AnswerLossless (s.pods pa.1)
  | .refresh _ _ _ | .tick _ _ | .noClient | .swap | .fail => True

instance (window : Window) (s : System n) (pa : Fin n × Action) :
    Decidable (ChargesRight window s pa) :=
  match pa with
  | (p, .check _ _ now _) => inferInstanceAs (Decidable ((s.pods p).windowOver now = true → _))
  | (_, .settle _ _) | (_, .drop _) => inferInstanceAs (Decidable (_ < 2 ^ 63))
  | (p, .store now) => inferInstanceAs (Decidable (∀ x ∈ s.spend, x.1 = .shipped p →
      x.2.window = 0 ∨ x.2.window = window.endOf now))
  | (p, .loseAnswer) => inferInstanceAs (Decidable (∀ delta spentTotal windowEnd,
      (s.pods p).sync = .stored delta spentTotal windowEnd → delta = 0))
  | (p, .answer _) => inferInstanceAs (Decidable (AnswerLossless (s.pods p)))
  | (_, .refresh _ _ _) | (_, .tick _ _) | (_, .noClient) | (_, .swap) | (_, .fail) =>
    inferInstanceAs (Decidable True)

def start (pods : Fin n → Pod) : System n := ⟨pods, fun _ => none, []⟩

def shippedDelta (pod : Pod) : Nat :=
  match pod.sync with
  | .shipped delta => delta.toNat
  | _ => 0

/-- The pod's figures are those of the spend it holds. -/
structure PodInv (p : Fin n) (pod : Pod) (spend : List (Place n × Settlement)) : Prop where
  asked : pod.counter.syncing = false → pod.sync = .idle
  unsynced : weightAt (·.amount.toNat) (.unsynced p) spend = pod.counter.unsyncedSpent.toNat
  shipped : weightAt (·.amount.toNat) (.shipped p) spend = shippedDelta pod

structure Inv (s : System n) : Prop where
  pods : ∀ p, PodInv p (s.pods p) s.spend
  rows : ∀ w, total (s.rows w) = weightAt (·.amount.toNat) (.row w) s.spend
  charged : ∀ x ∈ s.spend, ∀ w, x.1 = .row w → x.2.window = 0 ∨ x.2.window = w
  kept : ∀ x ∈ s.spend, x.1 ≠ .dropped
  positive : ∀ x ∈ s.spend, x.2.amount.toNat ≠ 0
  bounded : settledSum s < 2 ^ 63

variable {window : Window} {s : System n} {p : Fin n} {pod pod' : Pod}

theorem Inv.held_lt (h : Inv s) (p : Fin n) :
    (s.pods p).counter.unsyncedSpent.toNat + shippedDelta (s.pods p) < 2 ^ 63 := by
  rw [← (h.pods p).unsynced, ← (h.pods p).shipped]
  exact Nat.lt_of_le_of_lt (weightAt_add_le_sum _ (by simp) s.spend) h.bounded

/-- A step that leaves the pod's spend alone. -/
structure Kept (pod pod' : Pod) : Prop where
  asked : (pod.counter.syncing = false → pod.sync = .idle) →
    pod'.counter.syncing = false → pod'.sync = .idle
  unsynced : pod'.counter.unsyncedSpent = pod.counter.unsyncedSpent
  shipped : shippedDelta pod' = shippedDelta pod

theorem Kept.of_unmoved (h : Unmoved pod pod') : Kept pod pod' := by
  refine ⟨fun ha hs => ?_, h.unsyncedSpent, ?_⟩
  · rcases h.sync with ⟨hsync, hsa⟩ | ⟨-, -, hasks⟩
    · exact hsync ▸ ha (hsa ▸ hs)
    · exact absurd (hasks.symm.trans hs) (by decide)
  · rcases h.sync with ⟨hsync, -⟩ | ⟨hi, hq, -⟩
    · rw [shippedDelta, shippedDelta, hsync]
    · rw [shippedDelta, shippedDelta, hi, hq]

theorem Kept.trans (h : Kept pod pod') (h' : Kept pod' pod'') : Kept pod pod'' :=
  ⟨fun ha => h'.asked (h.asked ha), h'.unsynced.trans h.unsynced, h'.shipped.trans h.shipped⟩

theorem Inv.keep (h : Inv s) (hp : Kept (s.pods p) pod') :
    Inv { s with pods := update s.pods p pod' } := by
  have ho : PodInv p pod' s.spend := by
    refine ⟨hp.asked (h.pods p).asked, ?_, ?_⟩
    · rw [hp.unsynced]
      exact (h.pods p).unsynced
    · rw [hp.shipped]
      exact (h.pods p).shipped
  exact { h with
    pods := (forall_update_iff s.pods fun q pod => PodInv q pod s.spend).2
      ⟨ho, fun q _ => h.pods q⟩ }

def Place.Of (p : Fin n) : Place n → Prop
  | .unsynced q | .shipped q => q = p
  | .row _ => True
  | .dropped => False

theorem Inv.move (h : Inv s) {rows : UInt64 → Row} (ha : a.Of p) (hb : b.Of p)
    (hpo : PodInv p pod' (moveAll a b s.spend))
    (hr : ∀ w, total (rows w) = weightAt (·.amount.toNat) (.row w) (moveAll a b s.spend))
    (hch : ∀ x ∈ s.spend, x.1 = a → ∀ w, b = .row w → x.2.window = 0 ∨ x.2.window = w) :
    Inv ⟨update s.pods p pod', rows, moveAll a b s.spend⟩ := by
  refine ⟨(forall_update_iff s.pods fun q pod => PodInv q pod (moveAll a b s.spend)).2
    ⟨hpo, fun q hq => ?_⟩, hr, fun x hx w hw => ?_, fun x hx => ?_, fun x hx => ?_, ?_⟩
  · have hne {c d : Place n} (hc : c = .unsynced q ∨ c = .shipped q) (hd : d.Of p) : c ≠ d := by
      rintro rfl
      rcases hc with rfl | rfl <;> exact hq hd
    refine ⟨(h.pods q).asked, ?_, ?_⟩
    · rw [weightAt_moveAll, if_neg (hne (.inl rfl) ha), if_neg (hne (.inl rfl) hb)]
      exact (h.pods q).unsynced
    · rw [weightAt_moveAll, if_neg (hne (.inr rfl) ha), if_neg (hne (.inr rfl) hb)]
      exact (h.pods q).shipped
  · rcases mem_moveAll.1 hx with ⟨hpl, hx⟩ | ⟨hx, -⟩
    · exact hch _ hx rfl w (hpl ▸ hw)
    · exact h.charged x hx w hw
  · rcases mem_moveAll.1 hx with ⟨hpl, -⟩ | ⟨hx, -⟩
    · rw [hpl]
      rintro rfl
      exact hb
    · exact h.kept x hx
  · rcases mem_moveAll.1 hx with ⟨-, hm⟩ | ⟨hm, -⟩
    · exact h.positive (a, x.2) hm
    · exact h.positive x hm
  · show ((moveAll a b s.spend).map fun x => x.2.amount.toNat).sum < 2 ^ 63
    rw [map_moveAll fun e : Settlement => e.amount.toNat]
    exact h.bounded

theorem settle_asked (ha : pod.counter.syncing = false → pod.sync = .idle) :
    (pod.settle i tokens).counter.syncing = false →
      (pod.settle i tokens).sync = .idle := by
  rcases SpendConservation.settle_cases with ⟨hp, -⟩ | ⟨hsync, -, hs, -⟩
  · rwa [hp]
  · rwa [hsync, hs]

theorem settle_unsyncedSpent (pod : Pod) (i : Nat) (tokens : Option Tokens) :
    (pod.settle i tokens).counter.unsyncedSpent =
      pod.counter.unsyncedSpent + pod.settledBy i tokens := by
  rcases SpendConservation.settle_cases with ⟨hp, hz⟩ | ⟨-, -, -, hs⟩
  · rw [hp, hz, add_zero]
  · exact hs

theorem settle_shippedDelta :
    shippedDelta (pod.settle i tokens) = shippedDelta pod := by
  rcases SpendConservation.settle_cases with ⟨hp, -⟩ | ⟨hs, -⟩
  · rw [hp]
  · rw [shippedDelta, shippedDelta, hs]

theorem inv_settle (h : Inv s)
    (hsu : settledSum s + ((s.pods p).settledBy i tokens).toNat < 2 ^ 63) :
    Inv ⟨update s.pods p ((s.pods p).settle i tokens), s.rows,
      s.spend ++ (settlements (s.pods p) i tokens).map (.unsynced p, ·)⟩ := by
  have hsp := settle_unsyncedSpent (s.pods p) i tokens
  unfold settlements
  split
  · rename_i hz
    rw [map_nil, append_nil]
    rw [hz, add_zero] at hsp
    exact h.keep ⟨fun has => settle_asked has, hsp, settle_shippedDelta⟩
  · rename_i hne
    refine ⟨(forall_update_iff s.pods fun q pod => PodInv q pod _).2
      ⟨⟨settle_asked (h.pods p).asked, ?_, ?_⟩, fun q hq => ⟨(h.pods q).asked, ?_, ?_⟩⟩,
      fun w => ?_, forall_mem_append.2 ⟨h.charged, by simp⟩, forall_mem_append.2 ⟨h.kept, by simp⟩,
      forall_mem_append.2 ⟨h.positive, ?_⟩, ?_⟩
    · rw [map_singleton, weightAt_append, weightAt_cons, if_pos rfl, (h.pods p).unsynced, hsp,
        toNat_add_of_lt]
      · rfl
      · have hle := weightAt_le_sum (fun e : Settlement => e.amount.toNat) (.unsynced p) s.spend
        rw [(h.pods p).unsynced] at hle
        exact Nat.lt_of_le_of_lt (Nat.add_le_add_right hle _) hsu
    · simp [weightAt, settle_shippedDelta, ← (h.pods p).shipped]
    · simp [weightAt, Ne.symm hq, ← (h.pods q).unsynced]
    · simp [weightAt, ← (h.pods q).shipped]
    · simp [weightAt, h.rows w]
    · simpa using fun hz => hne (UInt64.toNat_inj.1 hz)
    · show ((s.spend ++ _).map _).sum < _
      rwa [map_append, sum_append]

theorem inv_swap (h : Inv s) (hq : (s.pods p).sync = .queued) : Inv ⟨update s.pods p { s.pods p with
        counter := { (s.pods p).counter with unsyncedSpent := 0 }
        sync := .shipped (s.pods p).counter.unsyncedSpent },
      s.rows, moveAll (.unsynced p) (.shipped p) s.spend⟩ := by
  refine h.move rfl rfl ⟨fun hs => ?_, ?_, ?_⟩ (fun w => ?_) fun x _ _ w hw => by cases hw
  · exact absurd (hq.symm.trans ((h.pods p).asked hs)) (by simp)
  · simp [weightAt_moveAll]
  · simp [weightAt_moveAll, (h.pods p).shipped, (h.pods p).unsynced, shippedDelta, hq]
  · simp [weightAt_moveAll, h.rows w]

theorem inv_fail (h : Inv s) (hs : (s.pods p).sync = .shipped delta) :
    Inv ⟨update s.pods p { s.pods p with
        counter := (s.pods p).counter.syncFailed delta, sync := .idle },
      s.rows, moveAll (.shipped p) (.unsynced p) s.spend⟩ := by
  have hsh : shippedDelta (s.pods p) = delta.toNat := by rw [shippedDelta, hs]
  refine h.move rfl rfl ⟨fun _ => rfl, ?_, ?_⟩ (fun w => ?_) fun x _ _ w hw => by cases hw
  · rw [weightAt_moveAll, if_neg (by simp), if_pos rfl, (h.pods p).unsynced, (h.pods p).shipped, hsh]
    exact (toNat_add_of_lt (hsh ▸ h.held_lt p)).symm
  · simp [weightAt_moveAll, shippedDelta]
  · simp [weightAt_moveAll, h.rows w]

theorem inv_store (h : Inv s) {answered : UInt64} (hs : (s.pods p).sync = .shipped delta)
    (hw : ∀ x ∈ s.spend, x.1 = .shipped p → x.2.window = 0 ∨ x.2.window = w) :
    Inv ⟨update s.pods p { s.pods p with sync := .stored delta answered w },
      update s.rows w (addDelta (s.rows w) delta),
      moveAll (.shipped p) (.row w) s.spend⟩ := by
  have hsh : shippedDelta (s.pods p) = delta.toNat := by rw [shippedDelta, hs]
  refine h.move rfl trivial ⟨fun hq => ?_, ?_, ?_⟩ (fun v => ?_) fun x hx hp v hv => ?_
  · exact absurd (hs.symm.trans ((h.pods p).asked hq)) (by simp)
  · simp [weightAt_moveAll, (h.pods p).unsynced]
  · simp [weightAt_moveAll, shippedDelta]
  · by_cases hv : v = w
    · subst hv
      have hd : SpendConservation.asI64 delta = delta.toNat :=
        asI64_of_lt (hsh ▸ Nat.lt_of_le_of_lt (Nat.le_add_left _ _) (h.held_lt p))
      rw [update_self, weightAt_moveAll, if_neg (by simp), if_pos rfl, (h.pods p).shipped, hsh]
      show total (s.rows v) + SpendConservation.asI64 delta = _
      rw [h.rows v, hd]
      rfl
    · simp [hv, weightAt_moveAll, h.rows v]
  · cases hv
    exact hw x hx hp

theorem atWindow_kept (ho : pod.windowOver now = true → pod.counter.unsyncedSpent = 0) :
    Kept pod (pod.atWindow policy now) := by
  unfold Pod.atWindow
  dsimp only
  split
  · rename_i h
    exact ⟨fun ha => ha, (ho h).symm, rfl⟩
  · exact ⟨fun ha => ha, rfl, rfl⟩

theorem check_kept (ha : pod.counter.syncing = false → pod.sync = .idle)
    (ho : pod.windowOver now = true → pod.counter.unsyncedSpent = 0) :
    Kept pod (pod.check policy estimate now accepted).1 :=
  (atWindow_kept ho).trans (.of_unmoved
    (SpendConservation.check_unmoved_atWindow ha))

theorem noClient_kept : Kept pod pod.noClient := by
  unfold Pod.noClient
  split
  · rename_i hq
    exact ⟨fun _ _ => rfl, add_zero _, by rw [shippedDelta, shippedDelta, hq]⟩
  · exact .of_unmoved (.refl pod)

theorem loseAnswer_kept (hd : ∀ delta spentTotal windowEnd,
    pod.sync = .stored delta spentTotal windowEnd → delta = 0) : Kept pod pod.loseAnswer := by
  unfold Pod.loseAnswer
  split
  · rename_i delta spentTotal windowEnd hs
    refine ⟨fun _ _ => rfl, ?_, by rw [shippedDelta, shippedDelta, hs]⟩
    rw [hd delta spentTotal windowEnd hs]
    exact add_zero _
  · exact .of_unmoved (.refl pod)

theorem answer_kept (hl : AnswerLossless pod) : Kept pod (pod.answer now) := by
  unfold Pod.answer
  split
  · rename_i delta spentTotal windowEnd hs
    refine ⟨fun _ _ => rfl, ?_, by rw [shippedDelta, shippedDelta, hs]⟩
    show (if pod.counter.windowEnd = windowEnd then saturatingSub pod.counter.unsyncedSpent delta
      else 0) = pod.counter.unsyncedSpent
    rcases hl delta spentTotal windowEnd hs with hz | ⟨hd, hsa⟩
    · rw [hz]
      split
      · exact UInt64.toNat_inj.1 (saturatingSub_toNat.trans (Nat.zero_sub _))
      · rfl
    · rw [if_pos hsa, hd]
      exact UInt64.toNat_inj.1 (saturatingSub_toNat.trans (Nat.sub_zero _))
  · exact .of_unmoved (.refl pod)

theorem inv_step (s : System n) (pa : Fin n × Action) (h : Inv s)
    (hok : ChargesRight window s pa) : Inv (step window s pa) := by
  obtain ⟨p, a⟩ := pa
  have ha := (h.pods p).asked
  have hk {pod' : Pod} (hp : Kept (s.pods p) pod') : Inv { s with
        pods := update s.pods p pod'
        spend := if pod'.counter.unsyncedSpent = (s.pods p).counter.unsyncedSpent then s.spend
          else moveAll (.unsynced p) .dropped s.spend } := by
    rw [if_pos hp.unsynced]
    exact h.keep hp
  have hse : Inv { s with pods := update s.pods p (s.pods p) } :=
    h.keep (.of_unmoved (.refl _))
  cases a with
  | check policy estimate now accepted =>
    exact hk (check_kept ha hok)
  | refresh policy now accepted =>
    exact h.keep (.of_unmoved (SpendConservation.refreshIfStale_unmoved ha))
  | tick now accepted =>
    exact h.keep (.of_unmoved (SpendConservation.tick_unmoved ha))
  | settle i tokens | drop i => exact inv_settle h hok
  | noClient => exact h.keep noClient_kept
  | swap =>
    unfold step act follow Pod.swap
    cases hs : (s.pods p).sync with
    | queued => exact inv_swap h hs
    | idle | shipped _ | stored _ _ _ => exact hse
  | store now =>
    unfold step act follow
    dsimp only
    rw [windowEnd_asStr]
    cases hs : (s.pods p).sync with
    | shipped delta => exact inv_store h hs hok
    | idle | queued | stored _ _ _ => exact hse
  | fail =>
    unfold step act follow Pod.fail
    cases hs : (s.pods p).sync with
    | shipped delta => exact inv_fail h hs
    | idle | queued | stored _ _ _ => exact hse
  | loseAnswer => exact h.keep (loseAnswer_kept hok)
  | answer now => exact hk (answer_kept hok)

theorem inv_start (hf : ∀ p, Fresh (pods p)) : Inv (start pods) where
  pods p := by
    refine ⟨fun _ => (hf p).sync, ?_, ?_⟩
    · show 0 = (pods p).counter.unsyncedSpent.toNat
      rw [(hf p).unsyncedSpent]
      rfl
    · show 0 = shippedDelta (pods p)
      rw [shippedDelta, (hf p).sync]
  rows _ := rfl
  charged _ hx := by cases hx
  kept _ hx := by cases hx
  positive _ hx := by cases hx
  bounded := Nat.two_pow_pos 63

def Place.rowOf : Place n → UInt64
  | .row w => w
  | _ => 0

theorem Inv.attributed (h : Inv s) : Attributed s := by
  intro hq
  have hr : ∀ x ∈ s.spend, x.1 = .row x.1.rowOf := by
    intro x hx
    obtain ⟨place, e⟩ := x
    cases place with
    | unsynced p =>
      have hz : weightAt (·.amount.toNat) (.unsynced p) s.spend = 0 := by
        rw [(h.pods p).unsynced, (hq p).2]
        rfl
      exact absurd rfl (not_mem_of_weightAt_eq_zero hz hx (h.positive _ hx))
    | shipped p =>
      have hz : weightAt (·.amount.toNat) (.shipped p) s.spend = 0 := by
        rw [(h.pods p).shipped, shippedDelta, (hq p).1]
      exact absurd rfl (not_mem_of_weightAt_eq_zero hz hx (h.positive _ hx))
    | row w => rfl
    | dropped => exact absurd rfl (h.kept _ hx)
  refine ⟨s.spend.map fun x => (x.1.rowOf, x.2), ?_, fun y hy hw => ?_, fun w => ?_⟩
  · rw [map_map]
    rfl
  · obtain ⟨x, hx, rfl⟩ := mem_map.1 hy
    exact ((h.charged x hx _ (hr x hx)).resolve_left hw).symm
  · rw [h.rows w]
    unfold weightAt
    rw [filter_map, map_map]
    have hf : s.spend.filter (fun x => decide (x.1 = .row w)) =
        s.spend.filter ((fun x => decide (x.1 = w)) ∘ fun x => (x.1.rowOf, x.2)) := by
      refine filter_congr fun x hx => decide_eq_decide.2 ?_
      rw [hr x hx]
      simp [Place.rowOf]
    rw [hf]
    rfl

/-- In every run of steps that charge right, from counters as they are created, spend is charged to
the window it was made in. -/
theorem attributed_run {pods : Fin n → Pod} (hfresh : ∀ p, Fresh (pods p))
    {actions : List (Fin n × Action)}
    (hmeet : StepsMeet (step window) (ChargesRight window) (start pods) actions) :
    Attributed (run (step window) (start pods) actions) :=
  (run_invariant inv_step (inv_start hfresh) hmeet).attributed

open SpendConservation (thousandTokens newPod)

def onePod (actions : List Action) : List (Fin 1 × Action) := actions.map (Fin.mk 0 Nat.one_pos, ·)

def spendInFirstHour : List Action :=
  [.check thousandTokens 20 5 true, .swap, .store 5, .answer 6,
    .check thousandTokens 20 7 true, .settle 0 (some ⟨6, 4, 0, 0⟩)]

def checkInSecondHour : List Action :=
  [.check thousandTokens 20 3600000001 true, .swap, .store 3600000002, .answer 3600000003]

/-- The spend is shipped within its hour. -/
theorem attributed_onePod : StepsMeet (step .hourly) (ChargesRight .hourly) (start newPod)
        (onePod (spendInFirstHour ++ [.tick 8 true, .swap, .store 9, .answer 10] ++
          checkInSecondHour)) ∧
      Attributed (run (step .hourly) (start newPod)
        (onePod (spendInFirstHour ++ [.tick 8 true, .swap, .store 9, .answer 10] ++
          checkInSecondHour))) := by
  have hm : StepsMeet (step .hourly) (ChargesRight .hourly) (start newPod)
      (onePod (spendInFirstHour ++ [.tick 8 true, .swap, .store 9, .answer 10] ++
        checkInSecondHour)) := by decide
  exact ⟨hm, attributed_run (fun _ => ⟨rfl, rfl, rfl⟩) hm⟩

theorem not_attributed (hq : Quiet s) (hs : s.spend.map (·.2) = [e])
    (hwi : e.window ≠ 0) (hrow : total (s.rows e.window) ≠ e.amount.toNat) :
    ¬ Attributed s := by
  intro h
  obtain ⟨credited, hm, hc, hrows⟩ := h hq
  obtain ⟨⟨w, e'⟩, rfl, rfl⟩ := map_eq_singleton_iff.1 (hm.trans hs)
  have hw : w = e'.window := hc _ (mem_singleton_self _) hwi
  refine hrow ((hrows e'.window).trans ?_)
  rw [weightAt_cons, if_pos hw]
  rfl

/-- Spend that was not shipped when the hour ended is dropped by the next decision; spend that
reaches the ledger in the next hour is charged to that hour. -/
theorem passingHour_mischarged : ¬ Attributed (run (step .hourly) (start newPod)
        (onePod (spendInFirstHour ++ checkInSecondHour))) ∧
      ¬ Attributed (run (step .hourly) (start newPod) (onePod (spendInFirstHour ++
          [.tick 3599999998 true, .swap, .store 3600000001, .answer 3600000002]))) := by
  constructor
  · exact not_attributed (e := ⟨3600000000, 10⟩) (by decide) (by decide) (by decide) (by decide)
  · exact not_attributed (e := ⟨3600000000, 10⟩) (by decide) (by decide) (by decide) (by decide)

end Portus.WindowAttribution

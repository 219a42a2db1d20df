import Mathlib.Algebra.Order.BigOperators.Group.List
import Mathlib.Algebra.Order.Ring.Nat
import Portus.DataPlane.Handling
import Portus.Lib.Run

/-!
# Slots of the connection limiter

A request that was let through holds a slot until it gives it back, which `handle` does at its end
and nowhere else. A request that is refused after it was let through, whose body cannot be
rewritten, or whose client goes away while it waits, is over without that: its slot stays taken,
and with as many of them as the limiter has slots the route refuses every request.
-/

namespace Portus.ConnectionSlots

open Lib DataPlane.Handling List Nat

structure System where
  limiter : ConnectionLimiter
  requests : List Request

inductive Action where
  | arrive
  | event (i : Nat) (e : Event)

def step (s : System) : Action → System
  | .arrive => { s with requests := s.requests ++ [{}] }
  | .event i e =>
    match s.requests[i]? with
    | some r =>
      let (limiter, r) := r.next s.limiter e
      { limiter, requests := s.requests.set i r }
    | none => s

def start (max : UInt32) : System := ⟨{ max }, []⟩

/-- Each slot that was taken is given back once, by the end of its request; with no request in
flight none is taken, and the next request gets one. -/
structure Conserved (s : System) : Prop where
  once : ∀ r ∈ s.requests, r.acquired ≤ 1 ∧ r.released ≤ r.acquired ∧
    (r.stage = .closed → r.released = r.acquired)
  idle : (∀ r ∈ s.requests, r.stage = .closed) →
    s.limiter.active = 0 ∧ (0 < s.limiter.max → s.limiter.tryAcquire.2 = true)

/-- The ways a request that holds a slot ends without giving it back. -/
def abandons : Stage → Event → Bool
  | .admitted, .authorize (some _) => true
  | .budgeting, .budget .refused => true
  | .rewriting, .rewrite false => true
  | .budgeting, .drop | .rewriting, .drop | .forwarding, .drop => true
  | _, _ => false

/-- The request the action is about does not end that way. -/
def Completes (s : System) : Action → Prop
  | .arrive => True
  | .event i e => ∀ r ∈ s.requests[i]?, abandons r.stage e = false

def Request.Holds (r : Request) : Prop :=
  match r.stage with
  | .planning => r.acquired = 0 ∧ r.released = 0
  | .closed => r.acquired ≤ 1 ∧ r.released ≤ r.acquired
  | _ => r.acquired = 1 ∧ r.released = 0

structure Inv (s : System) : Prop where
  holds : ∀ r ∈ s.requests, Request.Holds r
  counted : s.limiter.active.toNat = (s.requests.map fun r => r.acquired - r.released).sum

def outstanding (r : Request) : Nat := r.acquired - r.released

def Settled (r : Request) : Prop := r.stage = .closed → r.released = r.acquired

variable {cl : ConnectionLimiter} {r : Request}

theorem toNat_tryAcquire (h : cl.active < cl.max) :
    (cl.active + 1).toNat = cl.active.toNat + 1 := by
  have hlt : cl.active.toNat < cl.max.toNat := h
  have hm := cl.max.toNat_lt
  exact mod_eq_of_lt (by simp; omega)

theorem toNat_release (h : 0 < cl.active.toNat) :
    cl.release.active.toNat + 1 = cl.active.toNat := by
  have hne : cl.active ≠ 0 := by
    intro h0
    rw [h0] at h
    cases h
  rw [ConnectionLimiter.release, if_neg hne]
  show (cl.active - 1).toNat + 1 = _
  have hle : (1 : UInt32) ≤ cl.active := UInt32.le_iff_toNat_le.2 h
  rw [UInt32.toNat_sub_of_le _ _ hle]
  exact Nat.sub_add_cancel h

theorem tryAcquire_cases (cl : ConnectionLimiter) : cl.tryAcquire = (cl, false) ∨
      ∃ cl', cl.tryAcquire = (cl', true) ∧ cl'.active.toNat = cl.active.toNat + 1 := by
  unfold ConnectionLimiter.tryAcquire
  split
  next => exact .inl rfl
  next h => exact .inr ⟨_, rfl, toNat_tryAcquire (UInt32.not_le.1 h)⟩

/-- What a step does to the slots of its request and to the count. -/
structure Moves (cl cl' : ConnectionLimiter) (r r' : Request) (abandoned : Bool) : Prop where
  holds : Request.Holds r'
  counted : cl'.active.toNat + outstanding r = cl.active.toNat + outstanding r'
  settled : Settled r → (Settled r' ↔ abandoned = false)

theorem moves_on (hr' : Request.Holds r') (heq : outstanding r = outstanding r')
    (hs : Settled r') : Moves cl cl r r' false :=
  ⟨hr', by rw [heq], fun _ => iff_of_true hs rfl⟩

theorem moves_abandon :
    Moves cl cl ⟨stage, 1, 0⟩ ⟨.closed, 1, 0⟩ true :=
  ⟨⟨le_refl 1, zero_le 1⟩, rfl, fun _ => iff_of_false (fun h => nomatch h rfl) (nomatch ·)⟩

theorem next_spec (hr : Request.Holds r) (e : Event) (hcl : outstanding r ≤ cl.active.toNat) :
    Moves cl (r.next cl e).1 r (r.next cl e).2 (abandons r.stage e) := by
  obtain ⟨stage, acquired, released⟩ := r
  -- a stage that still has its slot, and one that goes on with it
  have hk (stage' : Stage) (h : stage' ≠ .closed) (hr' : Request.Holds ⟨stage', 1, 0⟩) :
      Moves cl cl ⟨stage, 1, 0⟩ ⟨stage', 1, 0⟩ false :=
    moves_on hr' rfl fun hc => absurd hc h
  cases stage with
  | planning =>
    obtain ⟨rfl, rfl⟩ : acquired = 0 ∧ released = 0 := hr
    cases e with
    | plan =>
      rcases tryAcquire_cases cl with hf | ⟨cl', hsl, ha⟩
      · simp only [Request.next, hf]
        exact moves_on ⟨zero_le 1, le_refl 0⟩ rfl fun _ => rfl
      · simp only [Request.next, hsl]
        exact ⟨⟨rfl, rfl⟩, ha, fun _ => iff_of_true (fun h => nomatch h) rfl⟩
    | respond | drop => exact moves_on ⟨zero_le 1, le_refl 0⟩ rfl fun _ => rfl
    | authorize _ | budget _ | rewrite _ | answer => exact moves_on ⟨rfl, rfl⟩ rfl fun h => nomatch h
  | admitted =>
    obtain ⟨rfl, rfl⟩ : acquired = 1 ∧ released = 0 := hr
    cases e with
    | authorize refusal =>
      cases refusal with
      | none => exact hk .budgeting Stage.noConfusion ⟨rfl, rfl⟩
      | some _ => exact moves_abandon
    | respond | plan | budget _ | rewrite _ | answer | drop =>
      exact hk .admitted Stage.noConfusion ⟨rfl, rfl⟩
  | budgeting =>
    obtain ⟨rfl, rfl⟩ : acquired = 1 ∧ released = 0 := hr
    cases e with
    | budget outcome =>
      cases outcome with
      | allowed => exact hk .forwarding Stage.noConfusion ⟨rfl, rfl⟩
      | refused => exact moves_abandon
      | fallback => exact hk .rewriting Stage.noConfusion ⟨rfl, rfl⟩
    | drop => exact moves_abandon
    | respond | plan | authorize _ | rewrite _ | answer =>
      exact hk .budgeting Stage.noConfusion ⟨rfl, rfl⟩
  | rewriting =>
    obtain ⟨rfl, rfl⟩ : acquired = 1 ∧ released = 0 := hr
    cases e with
    | rewrite done =>
      cases done with
      | true => exact hk .forwarding Stage.noConfusion ⟨rfl, rfl⟩
      | false => exact moves_abandon
    | drop => exact moves_abandon
    | respond | plan | authorize _ | budget _ | answer =>
      exact hk .rewriting Stage.noConfusion ⟨rfl, rfl⟩
  | forwarding =>
    obtain ⟨rfl, rfl⟩ : acquired = 1 ∧ released = 0 := hr
    cases e with
    | answer =>
      exact ⟨⟨le_refl 1, le_refl 1⟩, toNat_release hcl, fun _ => iff_of_true (fun _ => rfl) rfl⟩
    | drop => exact moves_abandon
    | respond | plan | authorize _ | budget _ | rewrite _ =>
      exact hk .forwarding Stage.noConfusion ⟨rfl, rfl⟩
  | closed =>
    have hst : Moves cl cl ⟨.closed, acquired, released⟩ ⟨.closed, acquired, released⟩ false :=
      ⟨hr, rfl, fun hs => iff_of_true hs rfl⟩
    cases e <;> exact hst

theorem sum_map_set {l : List Request} (h : l[i]? = some r) (f : Request → Nat) (r' : Request) :
    ((l.set i r').map f).sum + f r = (l.map f).sum + f r' := by
  induction l generalizing i with
  | nil => cases h
  | cons x l ih =>
    cases i with
    | zero =>
      obtain rfl : x = r := Option.some.inj h
      simp only [set_cons_zero, map_cons, sum_cons]
      omega
    | succ i =>
      have ht := ih h
      simp only [set_cons_succ, map_cons, sum_cons]
      omega

theorem outstanding_le (h : Inv s) (hr : r ∈ s.requests) :
    outstanding r ≤ s.limiter.active.toNat := by
  rw [h.counted]
  exact single_le_sum (fun _ _ => zero_le _) _ (mem_map.2 ⟨r, hr, rfl⟩)

theorem inv_step (s : System) (a : Action) (h : Inv s) : Inv (step s a) := by
  cases a with
  | arrive =>
    constructor
    case holds =>
      intro r hr
      rcases mem_append.1 hr with hr | hr
      · exact h.holds r hr
      · rw [mem_singleton.1 hr]
        exact ⟨rfl, rfl⟩
    case counted =>
      show s.limiter.active.toNat = _
      rw [h.counted]
      simp [step]
  | event i e =>
    unfold step
    dsimp only
    cases hi : s.requests[i]? with
    | none => exact h
    | some r =>
      have hr := mem_of_getElem? hi
      have hm := next_spec (h.holds r hr) e (outstanding_le h hr)
      constructor
      case holds =>
        intro r' hr'
        rcases mem_or_eq_of_mem_set hr' with ho | rfl
        · exact h.holds r' ho
        · exact hm.holds
      case counted =>
        have hs := sum_map_set hi outstanding (r.next s.limiter e).2
        have hc := hm.counted
        have ho : s.limiter.active.toNat = (s.requests.map outstanding).sum := h.counted
        show (r.next s.limiter e).1.active.toNat = ((s.requests.set i _).map outstanding).sum
        omega

theorem conserved_iff (h : Inv s) : Conserved s ↔ ∀ r ∈ s.requests, Settled r := by
  constructor
  · exact fun hc r hr => (hc.once r hr).2.2
  · intro hs
    have ho (r : Request) (hr : r ∈ s.requests) : r.acquired ≤ 1 ∧ r.released ≤ r.acquired := by
      have hh := h.holds r hr
      unfold Request.Holds at hh
      split at hh <;> omega
    refine ⟨fun r hr => ⟨(ho r hr).1, (ho r hr).2, hs r hr⟩, fun hcl => ?_⟩
    have hz : s.limiter.active.toNat = 0 := by
      rw [h.counted]
      refine sum_eq_zero fun k hk => ?_
      obtain ⟨r, hr, rfl⟩ := mem_map.1 hk
      have := hs r hr (hcl r hr)
      omega
    have ha : s.limiter.active = 0 := UInt32.toNat_inj.1 hz
    refine ⟨ha, fun hm => ?_⟩
    rw [ConnectionLimiter.tryAcquire, ha, if_neg (UInt32.not_le.2 hm)]

theorem conserved_step_iff (s : System) (a : Action) (h : Inv s) (hc : Conserved s) :
    Conserved (step s a) ↔ Completes s a := by
  rw [conserved_iff (inv_step s a h)]
  have hs := (conserved_iff h).1 hc
  cases a with
  | arrive =>
    refine iff_of_true (fun r hr => ?_) trivial
    rcases mem_append.1 hr with hr | hr
    · exact hs r hr
    · rw [mem_singleton.1 hr]
      exact fun hcl => nomatch hcl
  | event i e =>
    unfold step Completes
    dsimp only
    cases hi : s.requests[i]? with
    | none => exact iff_of_true hs fun _ hr => nomatch hr
    | some r =>
      have hr := mem_of_getElem? hi
      have hif := (next_spec (h.holds r hr) e (outstanding_le h hr)).settled (hs r hr)
      obtain ⟨hlt, -⟩ := List.getElem?_eq_some_iff.1 hi
      constructor
      · rintro ha r' ⟨⟩
        exact hif.1 (ha _ (mem_set hlt _))
      · intro hok r' hr'
        rcases mem_or_eq_of_mem_set hr' with ho | rfl
        · exact hs r' ho
        · exact hif.2 (hok r rfl)

/-- The slots of a route are conserved all along a run exactly when no request that holds one is
refused, fails to be rewritten or is dropped. -/
theorem conserved_run_iff (max : UInt32) (actions : List Action) :
    StepsMeet step (fun s a => Conserved (step s a)) (start max) actions ↔
      StepsMeet step Completes (start max) actions := by
  have hi : Inv (start max) := ⟨(fun _ hr => nomatch hr), rfl⟩
  exact stepsMeet_iff inv_step conserved_step_iff hi
    ((conserved_iff hi).2 fun _ hr => nomatch hr) actions

/-- A route with one slot; its first request is refused for its key. -/
def refusedRequest : List Action :=
  [.arrive, .event 0 .plan, .event 0 (.authorize (some .unauthenticated))]

/-- After one refusal no request is in flight, and every request is answered 503. -/
theorem refused_keepsSlot :
    ¬ StepsMeet step (fun s a => Conserved (step s a)) (start 1) refusedRequest := by
  rintro ⟨-, -, hl, -⟩
  have hi := (hl.idle (by decide)).1
  revert hi
  decide

def Within (m : UInt32) (cl : ConnectionLimiter) : Prop := cl.max = m ∧ cl.active.toNat ≤ m.toNat

theorem within_next (h : Within m cl) (r : Request) (e : Event) : Within m (r.next cl e).1 := by
  have ht : Within m cl.tryAcquire.1 := by
    unfold ConnectionLimiter.tryAcquire
    split
    next => exact h
    next hlt =>
      rw [ge_iff_le, UInt32.not_le] at hlt
      refine ⟨h.1, (toNat_tryAcquire hlt).trans_le ?_⟩
      rw [← h.1]
      exact UInt32.lt_iff_toNat_lt.1 hlt
  have hl : Within m cl.release := by
    by_cases h0 : cl.active = 0
    · rwa [ConnectionLimiter.release, if_pos h0]
    · have hd := toNat_release (Nat.pos_of_ne_zero fun hz => h0 (UInt32.toNat_inj.1 hz))
      refine ⟨?_, (Nat.le_succ _).trans (hd.trans_le h.2)⟩
      rw [ConnectionLimiter.release, if_neg h0]
      exact h.1
  unfold Request.next
  split <;> try exact h
  · split
    all_goals
      next he => exact congrArg Prod.fst he ▸ ht
  · exact hl

theorem within_step (s : System) (a : Action) (h : Within m s.limiter) :
    Within m (step s a).limiter := by
  cases a with
  | arrive => exact h
  | event i e =>
    unfold step
    dsimp only
    split
    next => exact within_next h _ e
    next => exact h

/-- **The limit is kept**: whatever becomes of the requests, there are never more slots taken and
not given back than the limiter has. -/
theorem holders_le (max : UInt32) (actions : List Action) :
    ((run step (start max) actions).requests.map outstanding).sum ≤ max.toNat := by
  have hw : Within max (run step (start max) actions).limiter :=
    run_keeps within_step ⟨rfl, zero_le _⟩ actions
  have hi : Inv (start max) := ⟨(fun _ hr => nomatch hr), rfl⟩
  exact (run_keeps inv_step hi actions).counted ▸ hw.2

end Portus.ConnectionSlots

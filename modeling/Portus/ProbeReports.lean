import Portus.ConnectionSlots
import Portus.DataPlane.Limits

/-!
# Probes of a circuit breaker

The first request after the timeout of an open breaker makes it half-open, and nothing but a
recorded response takes it out of that. A probe that finds no connection slot, that is refused for
its key or its budget, whose body cannot be rewritten, or whose client goes away leaves the breaker
half-open. So does a probe that succeeds when the policy asks for more than one success in a row.
-/

namespace Portus.ProbeReports

open Lib DataPlane DataPlane.Handling ConnectionSlots List

/-- A request with what it has to do with the breaker. -/
structure Call where
  stage : Stage := .planning
  /-- It made the open breaker half-open. -/
  probe : Bool := false
  /-- A success or a failure was recorded for it. -/
  reported : Bool := false
deriving DecidableEq

/-- What a step finds: the clock of the breaker, the limiter of the rule, the response. -/
structure Surroundings where
  now : UInt32 := 0
  limiter : Option ConnectionLimiter := none
  status : UInt16 := 200

def Call.next (cb : CircuitBreaker) (c : Call) (e : Event) (env : Surroundings) :
    CircuitBreaker × Call :=
  match c.stage, e with
  | .planning, .plan =>
    let (limits, refusal) := RouteLimits.check ⟨some cb, env.limiter⟩ env.now
    let after := limits.circuitBreaker.getD cb
    (after, { c with
      stage := Stage.next refusal.isNone .planning .plan
      probe := cb.currentState = .opened && after.currentState = .halfOpen })
  | .forwarding, .answer =>
    (cb.record env.status env.now, { c with stage := .closed, reported := true })
  | stage, e => (cb, { c with stage := stage.next true e })

structure System where
  breaker : CircuitBreaker
  calls : List Call

inductive Action where
  | arrive
  | event (i : Nat) (e : Event) (env : Surroundings)

def step (s : System) : Action → System
  | .arrive => { s with calls := s.calls ++ [{}] }
  | .event i e env =>
    match s.calls[i]? with
    | some c =>
      let (breaker, c) := c.next s.breaker e env
      { breaker, calls := s.calls.set i c }
    | none => s

def start (config : BreakerConfig) : System := ⟨{ config }, []⟩

def InFlight (c : Call) : Prop := c.stage ≠ .planning ∧ c.stage ≠ .closed

def Settled (c : Call) : Prop := c.probe = true → c.stage = .closed → c.reported = true

/-- Every probe reports; and once no request is under way, there comes a time when the breaker
lets one through. -/
structure Reports (s : System) : Prop where
  probes : ∀ c ∈ s.calls, Settled c
  recovers : (∀ c ∈ s.calls, ¬ InFlight c) → ∃ now, (s.breaker.allowRequest now).2 = true

/-- What a step of a request has to meet. `others` says that other requests are under way. -/
structure Call.Concludes (cb : CircuitBreaker) (c : Call) (e : Event) (env : Surroundings)
    (others : Prop) : Prop where
  /-- A request that makes the breaker half-open gets its connection slot. -/
  admitted : c.stage = .planning → e = .plan → cb.currentState = .opened →
    cb.timedOut env.now = true → env.limiter.all (·.tryAcquire.2) = true
  /-- A probe does not end without a response. -/
  kept : c.probe = true → abandons c.stage e = false
  /-- The last request under way ends with a response that opens or closes a half-open breaker. -/
  last : cb.currentState = .halfOpen → ¬ others → InFlight c → c.stage.next true e = .closed →
    e = .answer ∧ (env.status ≥ 500 ∨ cb.lastSuccess = true)

def Concludes (s : System) : Action → Prop
  | .arrive => True
  | .event i e env => ∀ c ∈ s.calls[i]?,
    c.Concludes s.breaker e env (∃ j c', j ≠ i ∧ s.calls[j]? = some c' ∧ InFlight c')

/-- Only a request that was let through is a probe, and only one that is over has reported. -/
structure Call.Inv (c : Call) : Prop where
  fresh : c.stage = .planning → c.probe = false
  finished : c.reported = true → c.stage = .closed

/-- After the step a probe that is over has reported, and a half-open breaker has a request under
way. -/
structure Call.Leaves (cb : CircuitBreaker) (c : Call) (others : Prop) : Prop where
  settled : Settled c
  half : cb.currentState = .halfOpen → InFlight c ∨ others

theorem next_plan :
    Call.next cb ⟨.planning, probe, reported⟩ .plan env = ((cb.allowRequest env.now).1,
        { stage := Stage.next ((cb.allowRequest env.now).2 &&
            env.limiter.all (·.tryAcquire.2)) .planning .plan
          probe := cb.currentState = .opened && (cb.allowRequest env.now).1.currentState = .halfOpen
          reported }) := by
  have hb := RouteLimits.circuitBreaker_check ⟨some cb, env.limiter⟩ env.now
  have hn := RouteLimits.check_eq_none_iff ⟨some cb, env.limiter⟩ env.now
  rw [Option.map_some] at hb
  have ha : (RouteLimits.check ⟨some cb, env.limiter⟩ env.now).2.isNone =
      ((cb.allowRequest env.now).2 && env.limiter.all (·.tryAcquire.2)) := by
    rw [Bool.eq_iff_iff, Option.isNone_iff_eq_none, hn, Bool.and_eq_true]
    rfl
  unfold Call.next
  simp [hb, ha]

variable {cb : CircuitBreaker} {c : Call} {env : Surroundings} {others : Prop} {e : Event}

theorem leaves_plan (hc : c.Inv) (hst : c.stage = .planning) (h : c.Leaves cb others) :
    (c.next cb .plan env).2.Leaves (c.next cb .plan env).1 others ↔
      c.Concludes cb .plan env others := by
  obtain ⟨stage, probe, reported⟩ := c
  obtain rfl : stage = .planning := hst
  obtain rfl : probe = false := hc.fresh rfl
  have hr : reported = false := by
    cases reported with
    | false => rfl
    | true => cases hc.finished rfl
  subst hr
  rw [next_plan]
  rcases cb.allowRequest_cases env.now with ⟨ho, ht, ha, hh⟩ | ⟨hno, hsa⟩
  · -- the request makes the breaker half-open
    simp only [ha, hh, ho, decide_true, Bool.and_self, Bool.true_and]
    cases hsl : env.limiter.all (·.tryAcquire.2) with
    | true =>
      refine iff_of_true ⟨fun _ => (nomatch ·), fun _ => ?_⟩ ?_
      · exact .inl ⟨Stage.noConfusion, Stage.noConfusion⟩
      · exact ⟨fun _ _ _ _ => hsl, (nomatch ·), fun hh => nomatch ho.symm.trans hh⟩
    | false =>
      refine iff_of_false (fun hl => ?_) fun hco => ?_
      · exact nomatch hl.settled rfl rfl
      · exact nomatch hsl.symm.trans (hco.admitted rfl rfl ho ht)
  · have hp : (decide (cb.currentState = .opened) && decide (cb.currentState = .halfOpen)) =
        false := by
      cases cb.currentState <;> rfl
    simp only [hsa, hp]
    refine iff_of_true ⟨(nomatch ·), fun hh => ?_⟩ ?_
    · exact .inr ((h.half hh).resolve_left fun hf => hf.1 rfl)
    · exact ⟨fun _ _ ho ht => absurd ⟨ho, ht⟩ hno, (nomatch ·), fun _ _ hf => absurd rfl hf.1⟩

theorem leaves_answer (hs : c.stage = .forwarding) :
    (c.next cb .answer env).2.Leaves (c.next cb .answer env).1 others ↔
      c.Concludes cb .answer env others := by
  obtain ⟨stage, probe, reported⟩ := c
  obtain rfl : stage = .forwarding := hs
  have hov : ¬ InFlight ⟨.closed, probe, true⟩ := fun hf => hf.2 rfl
  constructor
  · rintro ⟨-, hh⟩
    refine ⟨(nomatch ·), fun _ => rfl, fun hw hot _ _ => ⟨rfl, ?_⟩⟩
    by_contra hn
    rw [not_or, Bool.not_eq_true] at hn
    exact (hh ((cb.record_halfOpen_iff env.status env.now).2 ⟨hw, hn⟩)).elim hov hot
  · rintro ⟨-, -, hlast⟩
    refine ⟨fun _ _ => rfl, fun hh => .inr ?_⟩
    obtain ⟨hw, hok, hm⟩ := (cb.record_halfOpen_iff env.status env.now).1 hh
    by_contra hot
    obtain ⟨-, he⟩ := hlast hw hot ⟨Stage.noConfusion, Stage.noConfusion⟩ rfl
    exact he.elim hok fun hlastO => nomatch hm.symm.trans hlastO

theorem abandons_iff (hp : ¬ (stage = .planning ∧ e = .plan))
    (ha : ¬ (stage = .forwarding ∧ e = .answer)) :
    abandons stage e = true ↔
      (stage ≠ .planning ∧ stage ≠ .closed) ∧ stage.next true e = .closed := by
  rcases stage <;> rcases e with _ | _ | (_ | _) | (_ | _ | _) | (_ | _) | _ | _ <;>
    simp_all [abandons, Stage.next]

theorem planning_of_next {stage : Stage} (h : stage.next true e = .planning) :
    stage = .planning := by
  rcases stage <;> rcases e with _ | _ | (_ | _) | (_ | _ | _) | (_ | _) | _ | _ <;>
    simp_all [Stage.next]

theorem next_other (hp : ¬ (c.stage = .planning ∧ e = .plan))
    (ha : ¬ (c.stage = .forwarding ∧ e = .answer)) :
    c.next cb e env = (cb, { c with stage := c.stage.next true e }) := by
  unfold Call.next
  split
  next hs => exact absurd ⟨hs, rfl⟩ hp
  next hs => exact absurd ⟨hs, rfl⟩ ha
  next => rfl

theorem leaves_other (hc : c.Inv) (hpl : ¬ (c.stage = .planning ∧ e = .plan))
    (han : ¬ (c.stage = .forwarding ∧ e = .answer)) (h : c.Leaves cb others) :
    (c.next cb e env).2.Leaves (c.next cb e env).1 others ↔ c.Concludes cb e env others := by
  have hab := abandons_iff hpl han
  rw [next_other hpl han]
  constructor
  · rintro ⟨hse, hh⟩
    refine ⟨fun hs he => absurd ⟨hs, he⟩ hpl, fun hpr => ?_, fun hw hot hfl hen => ?_⟩
    · by_contra habandoned
      obtain ⟨⟨-, hop⟩, hen⟩ := hab.1 (Bool.not_eq_false _ ▸ habandoned)
      exact hop (hc.finished (hse hpr hen))
    · exact absurd hen ((hh hw).resolve_right hot).2
  · rintro ⟨-, hk, hl⟩
    refine ⟨fun hpr hen => ?_, fun hw => ?_⟩
    · by_cases hcl : c.stage = .closed
      · exact h.settled hpr hcl
      · have hfl : c.stage ≠ .planning := fun hs => nomatch (hc.fresh hs).symm.trans hpr
        exact nomatch (hk hpr).symm.trans (hab.2 ⟨⟨hfl, hcl⟩, hen⟩)
    · by_cases hot : others
      · exact .inr hot
      · -- the breaker was half-open for this request, which then does not end
        have hfl := (h.half hw).resolve_right hot
        refine .inl ⟨fun hfr => hfl.1 (planning_of_next hfr), fun hen => ?_⟩
        obtain ⟨rfl, -⟩ := hl hw hot hfl hen
        obtain ⟨stage, probe, reported⟩ := c
        cases stage with
        | forwarding => exact han ⟨rfl, rfl⟩
        | closed => exact hfl.2 rfl
        | _ => cases hen

theorem leaves_next_iff (hc : c.Inv) (h : c.Leaves cb others) :
    (c.next cb e env).2.Leaves (c.next cb e env).1 others ↔ c.Concludes cb e env others := by
  by_cases hp : c.stage = .planning ∧ e = .plan
  · obtain ⟨hs, rfl⟩ := hp
    exact leaves_plan hc hs h
  · by_cases ha : c.stage = .forwarding ∧ e = .answer
    · obtain ⟨hs, rfl⟩ := ha
      exact leaves_answer hs
    · exact leaves_other hc hp ha h

theorem inv_next (hc : c.Inv) : (c.next cb e env).2.Inv := by
  by_cases hp : c.stage = .planning ∧ e = .plan
  · obtain ⟨hs, rfl⟩ := hp
    obtain ⟨stage, probe, reported⟩ := c
    obtain rfl : stage = .planning := hs
    rw [next_plan]
    refine ⟨fun hf => ?_, fun hr => nomatch hc.finished hr⟩
    dsimp only [Stage.next] at hf
    split at hf <;> cases hf
  · by_cases ha : c.stage = .forwarding ∧ e = .answer
    · obtain ⟨hs, rfl⟩ := ha
      obtain ⟨stage, probe, reported⟩ := c
      obtain rfl : stage = .forwarding := hs
      exact ⟨(nomatch ·), fun _ => rfl⟩
    · rw [next_other hp ha]
      refine ⟨fun hf => hc.fresh (planning_of_next hf), fun hr => ?_⟩
      rw [hc.finished hr]
      cases e <;> rfl

theorem exists_inFlight_iff {calls : List Call} {i : Nat} (hi : calls[i]? = some c) :
    (∃ c ∈ calls, InFlight c) ↔ InFlight c ∨ ∃ j c', j ≠ i ∧ calls[j]? = some c' ∧ InFlight c' := by
  constructor
  · rintro ⟨c', hc', hf⟩
    obtain ⟨j, hj⟩ := mem_iff_getElem?.1 hc'
    by_cases hji : j = i
    · subst hji
      obtain rfl := Option.some.inj (hi.symm.trans hj)
      exact .inl hf
    · exact .inr ⟨j, c', hji, hj, hf⟩
  · rintro (hf | ⟨j, c', -, hj, hf⟩)
    · exact ⟨c, mem_of_getElem? hi, hf⟩
    · exact ⟨c', mem_of_getElem? hj, hf⟩

theorem reports_iff : Reports s ↔ (∀ c ∈ s.calls, Settled c) ∧
    (s.breaker.currentState = .halfOpen → ∃ c ∈ s.calls, InFlight c) := by
  have hr : ((∀ c ∈ s.calls, ¬ InFlight c) → ∃ now, (s.breaker.allowRequest now).2 = true) ↔
      (s.breaker.currentState = .halfOpen → ∃ c ∈ s.calls, InFlight c) := by
    rw [s.breaker.exists_allowRequest_iff]
    constructor
    · intro h hh
      by_contra hn
      exact h (fun c hc hf => hn ⟨c, hc, hf⟩) hh
    · rintro h hn hh
      obtain ⟨c, hc, hf⟩ := h hh
      exact hn c hc hf
  exact ⟨fun h => ⟨h.probes, hr.1 h.recovers⟩, fun h => ⟨h.1, hr.2 h.2⟩⟩

def Inv (s : System) : Prop := ∀ c ∈ s.calls, c.Inv

theorem reports_set_iff {s : System} {i : Nat} (hi : s.calls[i]? = some c)
    (hs : ∀ c ∈ s.calls, Settled c) :
    Reports ⟨breaker, s.calls.set i c'⟩ ↔
      c'.Leaves breaker (∃ j c', j ≠ i ∧ s.calls[j]? = some c' ∧ InFlight c') := by
  obtain ⟨hlt, -⟩ := List.getElem?_eq_some_iff.1 hi
  have hset : (s.calls.set i c')[i]? = some c' := by
    rw [getElem?_set_self hlt]
  have hot : (∃ j d, j ≠ i ∧ (s.calls.set i c')[j]? = some d ∧ InFlight d) ↔
      ∃ j d, j ≠ i ∧ s.calls[j]? = some d ∧ InFlight d := by
    constructor
    · rintro ⟨j, d, hji, hj, hf⟩
      exact ⟨j, d, hji, getElem?_set_ne (Ne.symm hji) ▸ hj, hf⟩
    · rintro ⟨j, d, hji, hj, hf⟩
      exact ⟨j, d, hji, (getElem?_set_ne (Ne.symm hji)).trans hj, hf⟩
  rw [reports_iff]
  rw [exists_inFlight_iff hset, hot]
  constructor
  · rintro ⟨ha, hh⟩
    exact ⟨ha c' (mem_of_getElem? hset), hh⟩
  · rintro ⟨hc', hh⟩
    refine ⟨fun d hd => ?_, hh⟩
    rcases mem_or_eq_of_mem_set hd with hol | rfl
    · exact hs d hol
    · exact hc'

theorem leaves_of_reports {s : System} (h : Reports s) {i : Nat} (hi : s.calls[i]? = some c) :
    c.Leaves s.breaker (∃ j c', j ≠ i ∧ s.calls[j]? = some c' ∧ InFlight c') := by
  obtain ⟨hs, hh⟩ := reports_iff.1 h
  exact ⟨hs c (mem_of_getElem? hi), fun hw => (exists_inFlight_iff hi).1 (hh hw)⟩

theorem inv_step (s : System) (a : Action) (h : Inv s) : Inv (step s a) := by
  cases a with
  | arrive =>
    intro c hc
    rcases mem_append.1 hc with hc | hc
    · exact h c hc
    · rw [mem_singleton.1 hc]
      exact ⟨fun _ => rfl, (nomatch ·)⟩
  | event i e env =>
    unfold step
    dsimp only
    cases hi : s.calls[i]? with
    | none => exact h
    | some c =>
      intro d hd
      rcases mem_or_eq_of_mem_set hd with ho | rfl
      · exact h d ho
      · exact inv_next (h c (mem_of_getElem? hi))

theorem reports_step_iff (s : System) (a : Action) (h : Inv s) (hr : Reports s) :
    Reports (step s a) ↔ Concludes s a := by
  cases a with
  | arrive =>
    refine iff_of_true (reports_iff.2 ?_) trivial
    obtain ⟨hs, hh⟩ := reports_iff.1 hr
    constructor
    · intro c hc
      rcases mem_append.1 hc with hc | hc
      · exact hs c hc
      · rw [mem_singleton.1 hc]
        exact fun hp => nomatch hp
    · intro hw
      obtain ⟨c, hc, hf⟩ := hh hw
      exact ⟨c, mem_append_left _ hc, hf⟩
  | event i e env =>
    unfold step Concludes
    dsimp only
    cases hi : s.calls[i]? with
    | none => exact iff_of_true hr fun _ hc => nomatch hc
    | some c =>
      have hl := leaves_of_reports hr hi
      have hif := @leaves_next_iff s.breaker c env _ e (h c (mem_of_getElem? hi)) hl
      refine (reports_set_iff hi hr.probes).trans (hif.trans ?_)
      constructor
      · rintro hco c' ⟨⟩
        exact hco
      · exact fun ha => ha c rfl

/-- Probes report all along a run, and the breaker recovers, exactly when every step concludes. -/
theorem reports_run_iff (config : BreakerConfig) (actions : List Action) :
    StepsMeet step (fun s a => Reports (step s a)) (start config) actions ↔
      StepsMeet step Concludes (start config) actions := by
  have hcl : (start config).breaker.currentState ≠ .halfOpen := by
    simp [start]
  have hr : Reports (start config) :=
    reports_iff.2 ⟨(fun _ hc => nomatch hc), fun hw => absurd hw hcl⟩
  have hi : Inv (start config) := fun _ hc => nomatch hc
  exact stepsMeet_iff inv_step reports_step_iff hi hr actions

def answered (i : Nat) (now : UInt32) (status : UInt16) : List Action :=
  [.arrive, .event i .plan { now }, .event i (.authorize none) { now },
    .event i (.budget .allowed) { now }, .event i .answer { now, status }]

/-- The breaker opens at the first failure; half a minute later the probe is refused for its
key. -/
def refusedProbe : List Action :=
  answered 0 0 500 ++ [.arrive, .event 1 .plan { now := 30 },
      .event 1 (.authorize (some .unauthenticated)) { now := 30 }]

/-- The breaker stays half-open: nothing is under way, and it lets no request through. -/
theorem refusedProbe_leaves_halfOpen :
    ¬ StepsMeet step (fun s a => Reports (step s a)) (start { failureThreshold := 1 })
      refusedProbe := by
  rintro ⟨-, -, -, -, -, -, -, hl, -⟩
  have hs := hl.probes ⟨.closed, true, false⟩ (by decide +kernel)
  exact nomatch hs rfl rfl

end Portus.ProbeReports

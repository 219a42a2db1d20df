import Portus.DataPlane.Keys

/-!
# The path of a request through the proxy

The planner takes a slot of the route's `ConnectionLimiter`
(`portus-dataplane-core/src/circuit_breaker.rs`) as the last thing before it lets a request
through, and `handle` (`portus-dataplane/src/rama/proxy.rs`) gives it back after the response. In
between stand the check of the caller, the budget, the rewriting of the body for a fallback model
and the backend; each can end the request, and while `handle` waits, the client can go away and the
request with it.
-/

namespace Portus.DataPlane.Handling

open Ai (Refusal)

structure ConnectionLimiter where
  active : UInt32 := 0
  max : UInt32

namespace ConnectionLimiter

def tryAcquire (cl : ConnectionLimiter) : ConnectionLimiter × Bool :=
  if cl.active ≥ cl.max then (cl, false) else ({ cl with active := cl.active + 1 }, true)

/-- Stays at 0. -/
def release (cl : ConnectionLimiter) : ConnectionLimiter :=
  if cl.active = 0 then cl else { cl with active := cl.active - 1 }

end ConnectionLimiter

/-- Where a request is. In all but `admitted` and `closed` the handler can be waiting. -/
inductive Stage where
  | planning
  /-- It is let through; the caller is checked next. -/
  | admitted
  | budgeting
  /-- The body is read for a fallback model. -/
  | rewriting
  | forwarding
  | closed
deriving DecidableEq

inductive BudgetOutcome where
  | allowed
  | refused
  | fallback
deriving DecidableEq

inductive Event where
  /-- The planner answers itself, or the body cannot be scanned. -/
  | respond
  /-- The planner comes to the limiter. -/
  | plan
  | authorize (refusal : Option Refusal)
  | budget (outcome : BudgetOutcome)
  /-- The body is rewritten, or too large or no request. -/
  | rewrite (done : Bool)
  /-- The backend has answered, at the first attempt or after retries, or with an upgrade. -/
  | answer
  /-- The client goes away. -/
  | drop
deriving DecidableEq

structure Request where
  stage : Stage := .planning
  acquired : Nat := 0
  released : Nat := 0

/-- One step of the handler of a request. Events that do not belong to its stage do not happen. -/
def Request.next (cl : ConnectionLimiter) (r : Request) (e : Event) : ConnectionLimiter × Request :=
  match r.stage, e with
  | .planning, .respond => (cl, { r with stage := .closed })
  | .planning, .plan =>
    match cl.tryAcquire with
    | (cl, true) => (cl, { r with stage := .admitted, acquired := r.acquired + 1 })
    | (cl, false) => (cl, { r with stage := .closed })
  | .admitted, .authorize none => (cl, { r with stage := .budgeting })
  | .admitted, .authorize (some _) => (cl, { r with stage := .closed })
  | .budgeting, .budget .allowed => (cl, { r with stage := .forwarding })
  | .budgeting, .budget .refused => (cl, { r with stage := .closed })
  | .budgeting, .budget .fallback => (cl, { r with stage := .rewriting })
  | .rewriting, .rewrite true => (cl, { r with stage := .forwarding })
  | .rewriting, .rewrite false => (cl, { r with stage := .closed })
  | .forwarding, .answer => (cl.release, { r with stage := .closed, released := r.released + 1 })
  | .planning, .drop | .budgeting, .drop | .rewriting, .drop | .forwarding, .drop =>
    (cl, { r with stage := .closed })
  | _, _ => (cl, r)

def Stage.next (admits : Bool) : Stage → Event → Stage
  | .planning, .respond => .closed
  | .planning, .plan => if admits then .admitted else .closed
  | .admitted, .authorize none => .budgeting
  | .admitted, .authorize (some _) => .closed
  | .budgeting, .budget .allowed => .forwarding
  | .budgeting, .budget .refused => .closed
  | .budgeting, .budget .fallback => .rewriting
  | .rewriting, .rewrite true => .forwarding
  | .rewriting, .rewrite false => .closed
  | .forwarding, .answer => .closed
  | .planning, .drop | .budgeting, .drop | .rewriting, .drop | .forwarding, .drop => .closed
  | stage, _ => stage

end Portus.DataPlane.Handling

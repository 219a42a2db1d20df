import Mathlib.Algebra.Order.Ring.Nat
import Portus.DataPlane.Plan

/-!
# Deadlines of the attempts of a request

`plan_request` folds the timeouts of a rule into a read timeout, and `forward` (`proxy.rs`) picks
the deadline of an attempt from what is left. An attempt that is retried is followed by one with
the same deadline, so the request timeout bounds each attempt and not the request. `federate`
(`federation.rs`) calls the members of a federation one after the other, each with that deadline.
-/

namespace Portus.Attempts

open Lib Proto DataPlane

/-- A timeout of the configuration in milliseconds; 0 is none. -/
def timeoutOf (ms : UInt64) : Option Nat := if 0 < ms then some ms.toNat else none

section Route

variable (rc : RouteConfig)

def requestTimeout : Option Nat := timeoutOf rc.requestTimeoutMs

def backendRequestTimeout : Option Nat := timeoutOf rc.backendRequestTimeoutMs

def readTimeout : Option Nat :=
  let read := (backendRequestTimeout rc).or (rc.timeouts.bind fun t => timeoutOf t.readTimeoutMs)
  match requestTimeout rc with
  | none => read
  | some t => if read.any (· ≤ t) then read else some t

def deadline : Option Nat :=
  ((requestTimeout rc).or (readTimeout rc)).or
    (rc.timeouts.bind fun t => timeoutOf t.connectTimeoutMs)

/-- How an attempt ends. -/
inductive Outcome where
  | answered (status : UInt16)
  | connect
  | timeout
  | exchange
  | bodyTooLarge

def shouldRetryStatus (status : UInt16) (retryCodes : List UInt16) (retriesLeft : Nat) : Bool :=
  0 < retriesLeft && retryCodes.contains status

def shouldRetryConnect (retryOn : List String) (retriesLeft : Nat) : Bool :=
  0 < retriesLeft &&
    (retryOn.isEmpty || retryOn.any fun c => c == "connect-failure" || c == "gateway-error")

def retries (left : Nat) : Outcome → Bool
  | .answered status => shouldRetryStatus status
    ((rc.retryCodes.filter (·.toNat < 65536)).map (·.toUInt16)) left
  | .connect => shouldRetryConnect rc.retryOn left
  | _ => false

/-- The deadlines of the attempts, which end one after the other as listed; the list ends where no
endpoint is ready. -/
def attempts : Nat → List Outcome → List (Option Nat)
  | _, [] => []
  | left, o :: os => deadline rc :: if retries rc left o then attempts (left - 1) os else []

variable (small : Bool)

/-- Only a small body is kept to be sent again. -/
def retriesLeft : Nat := if small then rc.maxRetries.toNat else 0

/-- A request to a federated route. -/
structure McpRequest where
  method : String
  /-- The members that the client has a session with. -/
  sessions : List String
  /-- The body is read within its limit. -/
  collected : Bool
  rpc : String
  tool : Option String
  /-- The parameters of the tool call can be read. -/
  rewrites : Bool

def splitTool (name : String) : Option (String × String) :=
  (Text.splitOnce '.' name).filter fun (server, tool) => !server.isEmpty && !tool.isEmpty

/-- The members that the request is for, in the order in which they are called. -/
def called (members : List McpMember) (q : McpRequest) : List McpMember :=
  if q.method = "DELETE" then members.filter fun m => q.sessions.contains m.name
  else if q.method = "POST" && q.collected then
    if Text.startsWith q.rpc "notifications/" || q.rpc = "initialize" || q.rpc = "tools/list" then
      members
    else if q.rpc = "tools/call" && q.rewrites then
      ((q.tool.bind splitTool).bind fun t => members.find? (·.name = t.1)).toList
    else []
  else []

/-- How the call of a member ends; `unreached` is before the attempt, for want of a pool, of an
endpoint or of a URI. -/
inductive Reply where
  | unreached
  | noResult
  | result
deriving DecidableEq

/-- The deadlines of the calls of so many members; `initialize` stops at a member that gives no
result. -/
def memberCalls (stops : Bool) : Nat → List Reply → List (Option Nat)
  | 0, _ => []
  | _ + 1, [] => []
  | n + 1, reply :: replies =>
    (if reply = .unreached then [] else [deadline rc]) ++
      if stops && reply ≠ .result then [] else memberCalls stops n replies

def federate (members : List McpMember) (q : McpRequest) (replies : List Reply) :
    List (Option Nat) :=
  memberCalls rc (q.method = "POST" && q.rpc = "initialize") (called members q).length replies

/-- The members of the route's federation, if it names one that the snapshot has. -/
def membersOf (federations : List McpFederation) : Option (List McpMember) :=
  (federationId rc).bind (Table.collect (federations.map fun f => (f.name, f.members))).lookup

/-- The deadlines of all attempts of a request; how they end are `outcomes` where it is forwarded
and `replies` where it is federated. -/
def deadlines (federations : List McpFederation) (q : McpRequest) (outcomes : List Outcome)
    (replies : List Reply) : List (Option Nat) :=
  match membersOf rc federations with
  | none => attempts rc (retriesLeft rc small) outcomes
  | some members => federate rc members q replies

structure Bounded (attempts : List (Option Nat)) : Prop where
  each : ∀ t ∈ backendRequestTimeout rc, ∀ d ∈ attempts, ∃ n ∈ d, n ≤ t
  total : ∀ t ∈ requestTimeout rc, (attempts.map fun d => d.getD (t + 1)).sum ≤ t

/-- The request timeout is the tighter one, and no attempt is followed by another: none is retried,
and a federation has one member. -/
structure SingleAttempt (federations : List McpFederation) (t : Nat) : Prop where
  tighter : membersOf rc federations ≠ some [] → ∀ b ∈ backendRequestTimeout rc, t ≤ b
  retried : membersOf rc federations = none → ∀ o, retries rc (retriesLeft rc small) o = false
  member : ∀ members ∈ membersOf rc federations, members.length ≤ 1

variable {rc}

theorem pos_of_timeoutOf {ms : UInt64} {t : Nat} (h : timeoutOf ms = some t) : 0 < t := by
  unfold timeoutOf at h
  split at h
  next hp => exact Option.some.inj h ▸ UInt64.lt_iff_toNat_lt.1 hp
  next => cases h

theorem deadline_of_request {t : Nat} (h : requestTimeout rc = some t) : deadline rc = some t := by
  rw [deadline, h, Option.some_or, Option.some_or]

theorem deadline_of_backend {b : Nat} (h : requestTimeout rc = none)
    (hb : backendRequestTimeout rc = some b) : deadline rc = some b := by
  rw [deadline, readTimeout, h, hb]
  rfl

/-- Any number of attempts with the one deadline. -/
theorem bounded_replicate_iff (n : Nat) : Bounded rc (List.replicate n (deadline rc)) ↔
    ∀ t ∈ requestTimeout rc, n ≤ 1 ∧ (n ≠ 0 → ∀ b ∈ backendRequestTimeout rc, t ≤ b) := by
  constructor
  · intro h t ht
    have hdl := deadline_of_request ht
    constructor
    · have hs := h.total t ht
      rw [hdl, List.map_replicate, List.sum_replicate, smul_eq_mul] at hs
      exact Nat.le_of_mul_le_mul_right (by simpa using hs) (pos_of_timeoutOf ht)
    · intro hn b hb
      obtain ⟨m, hm, hle⟩ := h.each b hb _ (List.mem_replicate.2 ⟨hn, rfl⟩)
      cases hdl.symm.trans hm
      exact hle
  · intro h
    cases hr : requestTimeout rc with
    | none =>
      refine ⟨fun b hb d hd => ⟨b, ?_, le_rfl⟩, fun t ht => ?_⟩
      · exact (List.eq_of_mem_replicate hd).trans (deadline_of_backend hr hb)
      · cases hr.symm.trans ht
    | some t =>
      have hdl := deadline_of_request hr
      obtain ⟨hn, hb⟩ := h t hr
      refine ⟨fun b hb' d hd => ?_, fun t' ht' => ?_⟩
      · obtain ⟨hn0, rfl⟩ := List.mem_replicate.1 hd
        exact ⟨t, hdl, hb hn0 b hb'⟩
      · cases hr.symm.trans ht'
        rw [hdl, List.map_replicate, List.sum_replicate, smul_eq_mul]
        exact (Nat.mul_le_mul_right t hn).trans_eq (Nat.one_mul t)

theorem attempts_eq_replicate (rc : RouteConfig) (left : Nat) (outcomes : List Outcome) :
    ∃ n, attempts rc left outcomes = List.replicate n (deadline rc) := by
  induction outcomes generalizing left with
  | nil => exact ⟨0, rfl⟩
  | cons o os ih =>
    unfold attempts
    split
    · obtain ⟨n, hn⟩ := ih (left - 1)
      exact ⟨n + 1, hn ▸ rfl⟩
    · exact ⟨1, rfl⟩

theorem memberCalls_eq_replicate (rc : RouteConfig) (stops : Bool) (n : Nat)
    (replies : List Reply) :
    ∃ k ≤ n, memberCalls rc stops n replies = List.replicate k (deadline rc) := by
  induction n generalizing replies with
  | zero => exact ⟨0, le_rfl, rfl⟩
  | succ n ih =>
    cases replies with
    | nil => exact ⟨0, Nat.zero_le _, rfl⟩
    | cons reply replies =>
      obtain ⟨k, hk, he⟩ := ih replies
      unfold memberCalls
      split <;> split
      · exact ⟨0, Nat.zero_le _, rfl⟩
      · exact ⟨k, Nat.le_succ_of_le hk, he⟩
      · exact ⟨1, Nat.succ_pos n, rfl⟩
      · exact ⟨k + 1, Nat.succ_le_succ hk, he ▸ rfl⟩

theorem length_called_le (members : List McpMember) (q : McpRequest) :
    (called members q).length ≤ members.length := by
  unfold called
  split
  · exact List.length_filter_le ..
  · split
    · split
      · exact le_rfl
      · split
        · cases members with
          | nil => cases q.tool.bind splitTool <;> exact le_rfl
          | cons m ms => exact Option.length_toList_le.trans (Nat.succ_pos _)
        · exact Nat.zero_le _
    · exact Nat.zero_le _

/-- Every member gives its tools. -/
def listTools : McpRequest := ⟨"POST", [], true, "tools/list", none, false⟩

theorem federate_listTools (members : List McpMember) :
    federate rc members listTools (List.replicate members.length .result) =
      List.replicate members.length (deadline rc) := by
  change memberCalls rc false members.length _ = _
  induction members.length with
  | zero => rfl
  | succ n ih => exact congrArg (deadline rc :: ·) ih

end Route

def retriedRoute : RouteConfig := { paths := [], requestTimeoutMs := 1000, maxRetries := 1 }

end Portus.Attempts

import Portus.Controller.Programmed
import Portus.Lib.Run

/-!
# Data planes and their config streams

`grpc_server.rs`: a data plane opens a config stream (`stream_config`), which records what
it runs, reports what it applies (`report_applied`), and is forgotten when the stream is
dropped (`DataPlaneSession`). A session knows its node only by id, so the drop of an old
stream also forgets a node that has opened a new one meanwhile.
-/

namespace Portus.DataPlaneSessions

open Portus Lib Controller AList Function

structure ConfigRequest where
  nodeId : String
  gatewayNamespace : String
  gatewayName : String
  schemaVersion : String
  lastAppliedFingerprint : UInt64

structure AppliedReport where
  nodeId : String
  gatewayNamespace : String
  gatewayName : String
  fingerprint : UInt64

def gatewayRef (namespaceName name : String) : Option NamespacedName :=
  if namespaceName.isEmpty || name.isEmpty then none else some ⟨namespaceName, name⟩

inductive Status where
  | invalidArgument (message : String)
  | failedPrecondition (message : String)
  | resourceExhausted (message : String)

def majorVersion (schemaVersion : String) : String :=
  String.ofList (schemaVersion.toList.takeWhile (· ≠ '.'))

def ourMajor : String := "1"

def gatewayMissing (message : String) : String :=
  message ++ " must name the Gateway this data plane serves (gateway_namespace/gateway_name)"

def ConfigRequest.validate (req : ConfigRequest) : Except Status NamespacedName :=
  match gatewayRef req.gatewayNamespace req.gatewayName with
  | none => .error (.invalidArgument (gatewayMissing "ConfigRequest"))
  | some gateway =>
    if majorVersion req.schemaVersion ≠ ourMajor ∧ !req.schemaVersion.isEmpty then
      .error (.failedPrecondition
        s!"incompatible schema version: {req.schemaVersion} (expected major version {ourMajor})")
    else .ok gateway

def AppliedReport.validate (report : AppliedReport) : Except Status NamespacedName :=
  if report.fingerprint = 0 then .error (.invalidArgument "fingerprint must be non-zero")
  else
    match gatewayRef report.gatewayNamespace report.gatewayName with
    | none => .error (.invalidArgument (gatewayMissing "AppliedReport"))
    | some gateway => .ok gateway

section Server

variable (store : Programming) (now : Nat)

def streamConfig (req : ConfigRequest) : Except Status Programming := do
  let gateway ← req.validate
  if store.acceptsDataPlane req.nodeId then
    pure (store.recordApplied now req.nodeId gateway req.lastAppliedFingerprint).1
  else pure store

def reportApplied (report : AppliedReport) : Except Status Programming := do
  let gateway ← report.validate
  let r := store.recordApplied now report.nodeId gateway report.fingerprint
  if !r.2.1 then
    .error (.resourceExhausted s!"max {maxDataPlaneNodes} data plane nodes reached")
  else pure r.1

end Server

/-- The controller, the node ids of the streams that are alive, and what each node last said it
runs. -/
structure System where
  store : Programming
  streams : List String
  lastSaid : String → Option AppliedState

def initial : System := ⟨.new, [], fun _ => none⟩

inductive Action where
  | stream (req : ConfigRequest)
  | report (report : AppliedReport)
  /-- The stream at the position is dropped. -/
  | drop (i : Nat)

def stepAt (now : Nat) (s : System) : Action → System
  | .stream req =>
    match req.validate, streamConfig s.store now req with
    | .ok gateway, .ok store =>
      { store
        streams := s.streams ++ [req.nodeId]
        lastSaid :=
          Function.update s.lastSaid req.nodeId (some ⟨gateway, req.lastAppliedFingerprint⟩) }
    | _, _ => s
  | .report report =>
    match report.validate, reportApplied s.store now report with
    | .ok gateway, .ok store =>
      { s with
        store
        lastSaid :=
          Function.update s.lastSaid report.nodeId (some ⟨gateway, report.fingerprint⟩) }
    | _, _ => s
  | .drop i =>
    match s.streams[i]? with
    | some nodeId =>
      { s with
        store := (s.store.forgetDataPlane now nodeId).1
        streams := s.streams.eraseIdx i }
    | none => s

def step (s : System) (a : Nat × Action) : System := stepAt a.1 s a.2

/-- A node is tracked, with the Gateway and the fingerprint it last named, exactly while one of its
streams is alive. -/
def Tracks (s : System) : Prop :=
  ∀ nodeId, s.store.dataPlaneApplied.lookup nodeId =
    if nodeId ∈ s.streams then s.lastSaid nodeId else none

/-- Streams are opened by nodes that have applied something and fit under the cap, reports come from
nodes with a stream (or are rejected by the cap), and a stream that is dropped is its node's
last. -/
def Orderly (s : System) (a : Nat × Action) : Prop :=
  match a.2 with
  | .stream req =>
    req.validate.isOk → req.lastAppliedFingerprint ≠ 0 ∧ s.store.acceptsDataPlane req.nodeId = true
  | .report report =>
    report.validate.isOk →
      report.nodeId ∈ s.streams ∨ s.store.acceptsDataPlane report.nodeId = false
  | .drop i => ∀ nodeId, s.streams[i]? = some nodeId → nodeId ∉ s.streams.eraseIdx i

variable {store : Programming} {now : Nat}

variable {gateway : NamespacedName} {report : AppliedReport}

theorem streamConfig_eq (hr : req.validate = .ok gateway) : streamConfig store now req = .ok
      (if store.acceptsDataPlane req.nodeId then
        (store.recordApplied now req.nodeId gateway req.lastAppliedFingerprint).1
      else store) := by
  rw [streamConfig, hr]
  split <;> rfl

theorem streamConfig_cases (hr : req.validate = .ok gateway) :
    (req.lastAppliedFingerprint ≠ 0 ∧ store.acceptsDataPlane req.nodeId = true) ∧
        streamConfig store now req = .ok { store with
          dataPlaneApplied :=
            store.dataPlaneApplied.insert req.nodeId ⟨gateway, req.lastAppliedFingerprint⟩ } ∨
      (req.lastAppliedFingerprint = 0 ∨ store.acceptsDataPlane req.nodeId = false) ∧
        streamConfig store now req = .ok store := by
  rw [streamConfig_eq hr]
  by_cases hu : req.lastAppliedFingerprint = 0 ∨ store.acceptsDataPlane req.nodeId = false
  · rw [Programming.recordApplied_rejected hu, ite_self]
    exact .inr ⟨hu, rfl⟩
  · rw [not_or, Bool.not_eq_false] at hu
    rw [if_pos hu.2, (Programming.recordApplied_accepted hu.1 hu.2).1]
    exact .inl ⟨hu, rfl⟩

section

variable (hr : report.validate = .ok gateway)

include hr

theorem fingerprint_ne_zero_of_validate : report.fingerprint ≠ 0 := by
  intro hz
  simp [AppliedReport.validate, hz] at hr

theorem reportApplied_eq : reportApplied store now report =
      if !(store.recordApplied now report.nodeId gateway report.fingerprint).2.1 then
        .error (.resourceExhausted s!"max {maxDataPlaneNodes} data plane nodes reached")
      else .ok (store.recordApplied now report.nodeId gateway report.fingerprint).1 := by
  rw [reportApplied, hr]
  rfl

theorem reportApplied_recorded (ha : store.acceptsDataPlane report.nodeId = true) :
    reportApplied store now report = .ok { store with
        dataPlaneApplied :=
          store.dataPlaneApplied.insert report.nodeId ⟨gateway, report.fingerprint⟩ } := by
  obtain ⟨hs, hf⟩ := Programming.recordApplied_accepted
    (fingerprint_ne_zero_of_validate hr) ha
  rw [reportApplied_eq hr, hf, hs]
  rfl

theorem reportApplied_rejected (ha : store.acceptsDataPlane report.nodeId = false) :
    reportApplied store now report =
      .error (.resourceExhausted s!"max {maxDataPlaneNodes} data plane nodes reached") := by
  rw [reportApplied_eq hr, Programming.recordApplied_rejected (.inr ha)]
  rfl

end

theorem lookup_forgetDataPlane :
    (store.forgetDataPlane now nodeId).1.dataPlaneApplied.lookup other =
      if other = nodeId then none else store.dataPlaneApplied.lookup other := by
  unfold Programming.forgetDataPlane
  split
  · rename_i hn
    split
    · rename_i h
      rw [h, hn]
    · rfl
  · exact Table.lookup_erase_apply ..

/-- What holds of every run: tracked fingerprints are not 0, and a node with a stream has said what
it runs. -/
structure Basic (s : System) : Prop where
  nonzero : ∀ nodeId applied, s.store.dataPlaneApplied.lookup nodeId = some applied →
    applied.fingerprint ≠ 0
  said : ∀ nodeId ∈ s.streams, (s.lastSaid nodeId).isSome

variable {s : System}

theorem tracks_recorded (h : Tracks s)
    (hstr : ∀ other ≠ nodeId, other ∈ streams ↔ other ∈ s.streams)
    (hs : store.dataPlaneApplied = s.store.dataPlaneApplied.insert nodeId applied) :
    Tracks ⟨store, streams, update s.lastSaid nodeId (some applied)⟩ ↔ nodeId ∈ streams := by
  constructor
  · intro h'
    by_contra hnot
    have := h' nodeId
    simp [hs, hnot] at this
  · intro hm other
    by_cases ho : other = nodeId
    · subst ho
      simp [hs, hm]
    · simp [hs, lookup_insert_ne ho, update_of_ne ho, hstr other ho, h other]

theorem tracks_stream_iff (hb : Basic s) (h : Tracks s) :
    Tracks (step s (now, .stream req)) ↔ Orderly s (now, .stream req) := by
  unfold step stepAt Orderly
  dsimp only
  cases hreq : req.validate with
  | error status => exact iff_of_true h (by simp [Except.isOk, Except.toBool])
  | ok gateway =>
    have hop : req.nodeId ∈ s.streams ++ [req.nodeId] := by simp
    have hothers : ∀ other ≠ req.nodeId, other ∈ s.streams ++ [req.nodeId] ↔ other ∈ s.streams := by
      intro other ho
      simp [ho]
    rcases streamConfig_cases hreq with ⟨hrec, heq⟩ | ⟨hu, heq⟩ <;> rw [heq]
    · exact iff_of_true ((tracks_recorded h hothers rfl).2 hop) fun _ => hrec
    · refine iff_of_false (fun h' => ?_) fun hok => hu.elim (hok rfl).1 (by simp [hok rfl])
      -- the table holds neither 0 nor a node that the cap keeps out
      have hn : s.store.dataPlaneApplied.lookup req.nodeId =
          some ⟨gateway, req.lastAppliedFingerprint⟩ := by
        simpa [hop] using h' req.nodeId
      rcases hu with hz | hf
      · exact hb.nonzero req.nodeId _ hn hz
      · simp [Programming.acceptsDataPlane, hn] at hf

theorem tracks_report_iff (h : Tracks s) :
    Tracks (step s (now, .report report)) ↔ Orderly s (now, .report report) := by
  unfold step stepAt Orderly
  dsimp only
  cases hr : report.validate with
  | error status => exact iff_of_true h (by simp [Except.isOk, Except.toBool])
  | ok gateway =>
    cases ha : s.store.acceptsDataPlane report.nodeId with
    | true =>
      rw [reportApplied_recorded hr ha]
      refine (tracks_recorded h (fun _ _ => Iff.rfl) rfl).trans ?_
      simp [Except.isOk, Except.toBool]
    | false =>
      rw [reportApplied_rejected hr ha]
      exact iff_of_true h fun _ => .inr rfl

theorem tracks_drop_iff (hb : Basic s) (h : Tracks s) :
    Tracks (step s (now, .drop i)) ↔ Orderly s (now, .drop i) := by
  unfold step stepAt Orderly
  dsimp only
  cases hi : s.streams[i]? with
  | none => exact iff_of_true h (by simp)
  | some nodeId =>
    have hst : nodeId ∈ s.streams := List.mem_of_getElem? hi
    have hothers : ∀ other ≠ nodeId, other ∈ s.streams.eraseIdx i ↔ other ∈ s.streams := by
      intro other ho
      rw [List.mem_eraseIdx_iff_getElem?, List.mem_iff_getElem?]
      constructor
      · rintro ⟨j, -, hj⟩
        exact ⟨j, hj⟩
      · rintro ⟨j, hj⟩
        refine ⟨j, fun hij => ho ?_, hj⟩
        subst hij
        exact Option.some.inj (hj.symm.trans hi)
    constructor
    · rintro h' other hso hm
      obtain rfl : nodeId = other := Option.some.inj hso
      have hn := h' nodeId
      simp only [lookup_forgetDataPlane, if_true, hm] at hn
      have := hb.said nodeId hst
      rw [← hn] at this
      exact absurd this (by decide)
    · intro hl other
      have hg := hl nodeId rfl
      simp only [lookup_forgetDataPlane]
      by_cases ho : other = nodeId
      · subst ho
        simp [hg]
      · simp [ho, hothers other ho, h other]

theorem said_update {streams : List String} (h : Basic s)
    (hs : ∀ other ∈ streams, other = nodeId ∨ other ∈ s.streams) :
    ∀ other ∈ streams, (update s.lastSaid nodeId (some applied) other).isSome := by
  intro other hm
  rw [update_apply]
  split
  · rfl
  · rename_i hne
    exact h.said other ((hs other hm).resolve_left hne)

theorem nonzero_insert (h : Basic s) (hfp : applied.fingerprint ≠ 0) (other : String)
    (a : AppliedState)
    (ha : (s.store.dataPlaneApplied.insert nodeId applied).lookup other = some a) :
    a.fingerprint ≠ 0 := by
  rw [Table.lookup_insert_apply] at ha
  split at ha
  · exact Option.some.inj ha ▸ hfp
  · exact h.nonzero other a ha

theorem basic_stream (h : Basic s) :
    Basic (step s (now, .stream req)) := by
  unfold step stepAt
  dsimp only
  cases hreq : req.validate with
  | error status => exact h
  | ok gateway =>
    have hs : ∀ other ∈ s.streams ++ [req.nodeId], (update s.lastSaid req.nodeId
          (some ⟨gateway, req.lastAppliedFingerprint⟩) other).isSome :=
      said_update h (by simp [or_comm])
    rcases streamConfig_cases hreq with ⟨hrec, heq⟩ | ⟨-, heq⟩ <;> rw [heq]
    · exact ⟨nonzero_insert h hrec.1, hs⟩
    · exact ⟨h.nonzero, hs⟩

theorem basic_step (s : System) (a : Nat × Action) (h : Basic s) : Basic (step s a) := by
  obtain ⟨now, a⟩ := a
  cases a with
  | stream req => exact basic_stream h
  | report report =>
    unfold step stepAt
    dsimp only
    cases hr : report.validate with
    | error status => exact h
    | ok gateway =>
      cases hac : s.store.acceptsDataPlane report.nodeId with
      | true =>
        rw [reportApplied_recorded hr hac]
        exact ⟨nonzero_insert h (fingerprint_ne_zero_of_validate hr),
          said_update h fun _ hm => .inr hm⟩
      | false =>
        rwa [reportApplied_rejected hr hac]
  | drop i =>
    unfold step stepAt
    dsimp only
    split
    · rename_i nodeId hi
      refine ⟨fun other applied ha => ?_, fun other hm => ?_⟩
      · rw [lookup_forgetDataPlane] at ha
        split at ha
        · cases ha
        · exact h.nonzero other applied ha
      · exact h.said other (List.mem_of_mem_eraseIdx hm)
    · exact h

theorem tracks_step_iff (s : System) (a : Nat × Action) (hb : Basic s) (h : Tracks s) :
    Tracks (step s a) ↔ Orderly s a := by
  obtain ⟨now, a⟩ := a
  cases a with
  | stream req => exact tracks_stream_iff hb h
  | report report => exact tracks_report_iff h
  | drop i => exact tracks_drop_iff hb h

/-- Nodes are tracked after every step exactly in the runs whose steps are orderly. -/
theorem tracks_run_iff (actions : List (Nat × Action)) :
    StepsMeet step (fun s a => Tracks (step s a)) initial actions ↔
      StepsMeet step Orderly initial actions :=
  stepsMeet_iff basic_step tracks_step_iff
    ⟨fun _ _ h => by simp [initial, Programming.new] at h, fun _ h => by simp [initial] at h⟩
    (fun _ => by simp [initial, Programming.new]) actions

def connect : ConfigRequest := ⟨"node-1", "infra", "shop", "1.0", 7⟩

/-- The node opens a second stream, and its first one is dropped afterwards. -/
def reconnects : List (Nat × Action) := [(0, .stream connect), (1, .stream connect), (2, .drop 0)]

theorem reconnects_forgotten :
    ¬ StepsMeet step (fun s a => Tracks (step s a)) initial reconnects := by
  intro h
  have := h.2.2.1 "node-1"
  revert this
  decide

-- The same node with its first stream dropped before it reconnects.
example : StepsMeet step Orderly initial
    [(0, .stream connect), (1, .drop 0), (2, .stream connect)] :=
  ⟨fun _ => by decide, fun _ h => by cases h; decide, fun _ => by decide, trivial⟩

end Portus.DataPlaneSessions

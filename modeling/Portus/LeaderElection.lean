import Mathlib.Logic.Function.Basic
import Portus.Lib.Run

/-!
# Leader election

`leader_election.rs`: replicas compete for one Lease. One that has acquired it leads until
`MAX_RENEWAL_FAILURES` attempts to renew have failed in a row, or until it is asked to shut down
and has released the lease.

Writes other than the create are forced server-side applies under one field manager: a
field the manager owns and omits is removed. Reads and writes are separate calls, so the
lease may be another one when the write arrives. Every call may fail, and one that fails
for the client may have reached the server.
-/

namespace Portus.LeaderElection

open Portus Lib Option

structure Field (α : Type) where
  value : Option α
  applied : Bool
  created : Bool

namespace Field

variable {α : Type} [DecidableEq α]

/-- A forced apply. A value given is taken over (another owner stays only if it has the same value);
an omitted field loses this owner, and is removed when it was the only one. -/
def apply (f : Field α) : Option α → Field α
  | some v => ⟨some v, true, f.created && f.value == some v⟩
  | none => if f.applied then ⟨if f.created then f.value else none, false, f.created⟩ else f

def create (v : α) : Field α := ⟨some v, false, true⟩

theorem apply_none_of_not_applied {f : Field α} (h : f.applied = false) : f.apply none = f := by
  simp [apply, h]

end Field

structure Lease where
  holderIdentity : Field String
  acquireTime : Field Nat
  renewTime : Field Nat
  leaseDurationSeconds : Field Int
  leaseTransitions : Field Int

structure LeasePatch where
  holderIdentity : Option String := none
  acquireTime : Option Nat := none
  renewTime : Option Nat
  leaseDurationSeconds : Option Int
  leaseTransitions : Option Int := none

def releasePatch (l : Lease) (now : Nat) : LeasePatch where
  holderIdentity := some ""
  acquireTime := l.acquireTime.value
  renewTime := some now
  leaseDurationSeconds := some 1
  leaseTransitions := some (l.leaseTransitions.value.getD 0)

def leaseDurationSecs : Int := 15

def renewalInterval : Nat := 5000

def maxRenewalFailures : Nat := 3

def Lease.apply (l : Lease) (patch : LeasePatch) : Lease where
  holderIdentity := l.holderIdentity.apply patch.holderIdentity
  acquireTime := l.acquireTime.apply patch.acquireTime
  renewTime := l.renewTime.apply patch.renewTime
  leaseDurationSeconds := l.leaseDurationSeconds.apply patch.leaseDurationSeconds
  leaseTransitions := l.leaseTransitions.apply patch.leaseTransitions

def newLease (identity : String) (now : Nat) : Lease where
  holderIdentity := .create identity
  acquireTime := .create now
  renewTime := .create now
  leaseDurationSeconds := .create leaseDurationSecs
  leaseTransitions := .create 0

def renewPatch (now : Nat) : LeasePatch where
  renewTime := some now
  leaseDurationSeconds := some leaseDurationSecs

def takeoverPatch (identity : String) (now : Nat) (transitions : Int) : LeasePatch where
  holderIdentity := some identity
  acquireTime := some now
  renewTime := some now
  leaseDurationSeconds := some leaseDurationSecs
  leaseTransitions := some (transitions + 1)

/-- A lease held by someone else can be taken over: released, never renewed, or renewed longer ago
than its duration. -/
def leaseIsFree (holder : String) (renewTime : Option Nat) (durationSecs : Int) (now : Nat) : Bool :=
  if holder.isEmpty then true
  else
    match renewTime with
    | none => true
    | some renewedAt => decide (renewedAt + (max durationSecs 0).toNat * 1000 ≤ now)

def Lease.holder (l : Lease) : String := l.holderIdentity.value.getD ""

def Lease.isFree (l : Lease) (now : Nat) : Bool :=
  leaseIsFree l.holder l.renewTime.value (l.leaseDurationSeconds.value.getD leaseDurationSecs) now

/-- The replicas' identities: host names, each its own. -/
structure Identities where
  name : Nat → String
  injective : Function.Injective name
  nonempty : ∀ i, name i ≠ ""

/-- What a replica is about to do; `built` is when it read the lease and made its write. -/
inductive Phase where
  | sleeping (wakesAt : Nat)
  | creating (built : Nat)
  | renewing (built : Nat)
  | takingOver (built : Nat) (transitions : Int)
  /-- Leadership was lost and the process shuts down. -/
  | stopped

/-- When the write that a replica is about to make was built. -/
def Phase.built : Phase → Option Nat
  | .creating built | .renewing built | .takingOver built _ => some built
  | .sleeping _ | .stopped => none

structure Replica where
  phase : Phase
  leader : Bool
  consecutiveFailures : Nat
  /-- The write that releases the lease; the renewals go on beside it. -/
  release : Option LeasePatch

structure State where
  now : Nat
  lease : Option Lease
  replicas : Nat → Replica

def start (lease : Option Lease) : State := ⟨0, lease, fun _ => ⟨.sleeping 0, false, 0, none⟩⟩

inductive Outcome where
  | ok
  /-- The server did not do it. -/
  | failed
  /-- The server did it, but the client gave up waiting. -/
  | timedOut
deriving DecidableEq

inductive Action where
  | get (i : Nat) (fails : Bool)
  | write (i : Nat) (outcome : Outcome)
  /-- A leader is asked to shut down and reads the lease it is to release. -/
  | release (i : Nat) (fails : Bool)
  | finishRelease (i : Nat) (outcome : Outcome)
  | advance (millis : Nat)

namespace Replica

variable (r : Replica) (now : Nat)

def succeeded : Replica :=
  { r with phase := .sleeping (now + renewalInterval), leader := true, consecutiveFailures := 0 }

/-- An attempt that did not get the lease. A waiting replica sleeps and tries again; a leader counts
it, and gives up after too many. `pause` is the extra sleep of a leader before its next one. -/
def unsuccessful (pause : Nat) : Replica :=
  if r.leader then
    let failures := r.consecutiveFailures + 1
    if maxRenewalFailures ≤ failures then
      { r with phase := .stopped, leader := false, consecutiveFailures := failures }
    else { r with phase := .sleeping (now + pause + renewalInterval), consecutiveFailures := failures }
  else { r with phase := .sleeping (now + renewalInterval) }

def errored : Replica := r.unsuccessful now 0

/-- `Ok(false)`: another replica holds the lease; a leader waits for it to expire. -/
def refused : Replica := r.unsuccessful now (leaseDurationSecs.toNat * 1000)

def exited : Replica := { r with phase := .stopped, leader := false, release := none }

end Replica

variable (ids : Identities)

def afterGet (i : Nat) (lease : Option Lease) (now : Nat) (r : Replica) : Replica :=
  match lease with
  | none => { r with phase := .creating now }
  | some l =>
    if l.holder = ids.name i then { r with phase := .renewing now }
    else if !l.isFree now then r.refused now
    else { r with phase := .takingOver now (l.leaseTransitions.value.getD 0) }

/-- A lease that another holds by now is not released. -/
def afterReleaseGet (i : Nat) (lease : Option Lease) (now : Nat) (r : Replica) : Replica :=
  match lease with
  | some l => if l.holder = ids.name i then { r with release := some (releasePatch l now) } else r.exited
  | none => r.exited

def serverWrite (i : Nat) (lease : Option Lease) : Phase → Option Lease
  | .creating built =>
    match lease with
    | none => some (newLease (ids.name i) built)
    | some _ => none
  | .renewing built => lease.map (·.apply (renewPatch built))
  | .takingOver built transitions =>
    lease.map (·.apply (takeoverPatch (ids.name i) built transitions))
  | .sleeping _ | .stopped => none

namespace State

variable (s : State)

def setReplica (i : Nat) (r : Replica) : State :=
  { s with replicas := Function.update s.replicas i r }

def finishWrite (i : Nat) (written : Option Lease) : Outcome → State
  | .ok =>
    match written with
    | some lease => { s.setReplica i ((s.replicas i).succeeded s.now) with lease := some lease }
    | none => s.setReplica i ((s.replicas i).errored s.now)
  | .timedOut =>
    { s.setReplica i ((s.replicas i).errored s.now) with lease := written.or s.lease }
  | .failed => s.setReplica i ((s.replicas i).errored s.now)

def step : Action → State
  | .get i fails =>
    match (s.replicas i).phase with
    | .sleeping wakesAt =>
      if wakesAt ≤ s.now then
        s.setReplica i <|
          if fails then (s.replicas i).errored s.now
          else afterGet ids i s.lease s.now (s.replicas i)
      else s
    | _ => s
  | .write i outcome =>
    match (s.replicas i).phase with
    | .sleeping _ | .stopped => s
    | phase => s.finishWrite i (serverWrite ids i s.lease phase) outcome
  | .release i fails =>
    if (s.replicas i).leader && (s.replicas i).release.isNone then
      s.setReplica i <|
        if fails then (s.replicas i).exited else afterReleaseGet ids i s.lease s.now (s.replicas i)
    else s
  | .finishRelease i outcome =>
    match (s.replicas i).release with
    | none => s
    | some patch =>
      { s.setReplica i (s.replicas i).exited with
        lease := if outcome = .failed then s.lease else s.lease.map (·.apply patch) }
  | .advance millis => { s with now := s.now + millis }

def Backed (i : Nat) : Prop :=
  ∃ l, s.lease = some l ∧ l.holder = ids.name i ∧ l.isFree s.now = false

def Exclusive : Prop :=
  (∀ i j, (s.replicas i).leader = true → (s.replicas j).leader = true → i = j) ∧
    ∀ i, (s.replicas i).leader = true → s.Backed ids i

end State

/-- How late, in milliseconds, a replica takes a step that is due. -/
def maxDelay : Nat := 999

/-- When a replica that leads, or has read the lease and not yet written, takes its next step. -/
def Replica.due (r : Replica) : Option Nat :=
  match r.phase with
  | .sleeping wakesAt => if r.leader then some wakesAt else none
  | phase => phase.built

/-- A leader's attempt may fail where the one before it did not. -/
def Replica.MayFail (r : Replica) : Prop := r.leader = true → r.consecutiveFailures = 0

/-- A write that takes effect finds the lease it needs: a renewal one that names the replica through
the create's field, a takeover one that is still free. -/
def Finds (s : State) (i : Nat) : Phase → Prop
  | .renewing _ =>
    ∀ l, s.lease = some l → l.holder = ids.name i ∧ l.holderIdentity.applied = false
  | .takingOver _ _ => ∀ l, s.lease = some l → l.isFree s.now = true
  | .creating _ | .sleeping _ | .stopped => True

/-- Replicas take the steps that are due without much delay, the attempts of a leader do not fail
twice in a row, and writes find the lease they need. -/
def Steady (s : State) : Action → Prop
  | .get i fails => fails = true → (s.replicas i).MayFail
  | .write i outcome =>
    (outcome ≠ .ok → (s.replicas i).MayFail) ∧
      (outcome ≠ .failed → Finds ids s i (s.replicas i).phase)
  | .advance millis => ∀ i due, (s.replicas i).due = some due → s.now + millis ≤ due + maxDelay
  | .release _ _ | .finishRelease _ _ => True

/-- The lease names the replica and was renewed at a time for the whole duration. -/
structure Lease.HeldBy (ids : Identities) (l : Lease) (i renewedAt : Nat) : Prop where
  holder : l.holder = ids.name i
  renewed : l.renewTime.value = some renewedAt
  duration : l.leaseDurationSeconds.value = some leaseDurationSecs

/-- The next step of a leader is due soon enough after its lease was renewed: a failed attempt
costs one more interval and two more delays. -/
def Replica.Fresh (r : Replica) (renewedAt : Nat) : Prop :=
  r.consecutiveFailures ≤ 1 ∧
    match r.phase with
    | .sleeping wakesAt => wakesAt ≤ renewedAt + maxDelay + renewalInterval +
        r.consecutiveFailures * (2 * maxDelay + renewalInterval)
    | .renewing built => built ≤ renewedAt + 2 * maxDelay + renewalInterval +
        r.consecutiveFailures * (2 * maxDelay + renewalInterval)
    | .creating _ | .takingOver _ _ | .stopped => False

structure State.OnSchedule (ids : Identities) (s : State) : Prop where
  due : ∀ i due, (s.replicas i).due = some due → s.now ≤ due + maxDelay
  leader : ∀ i, (s.replicas i).leader = true → ∃ l renewedAt, s.lease = some l ∧
    l.HeldBy ids i renewedAt ∧ (s.replicas i).Fresh renewedAt
  release : ∀ i, (s.replicas i).release.isSome = true → (s.replicas i).leader = true

variable {ids} {s : State}

theorem isFree_eq_false_iff {l : Lease} {now : Nat} : l.isFree now = false ↔
      l.holder ≠ "" ∧ ∃ renewedAt, l.renewTime.value = some renewedAt ∧ now < renewedAt +
          (max (l.leaseDurationSeconds.value.getD leaseDurationSecs) 0).toNat * 1000 := by
  unfold Lease.isFree leaseIsFree
  by_cases hh : l.holder = ""
  · simp [hh]
  · cases l.renewTime.value with
    | none => simp
    | some renewedAt => simp

theorem Lease.HeldBy.isFree_eq_false {l : Lease} {i renewedAt now : Nat}
    (h : l.HeldBy ids i renewedAt) (hn : now < renewedAt + leaseDurationSecs.toNat * 1000) :
    l.isFree now = false := by
  refine isFree_eq_false_iff.2 ⟨h.holder ▸ ids.nonempty i, renewedAt, h.renewed, ?_⟩
  rwa [h.duration]

theorem Replica.due_errored {r : Replica} {now due : Nat} (h : (r.errored now).due = some due) :
    now ≤ due := by
  unfold Replica.errored Replica.unsuccessful at h
  cases hr : r.leader with
  | false => simp [hr, Replica.due] at h
  | true =>
    simp only [hr, if_true] at h
    split at h
    · cases h
    · simp only [Replica.due, if_true, some.injEq] at h
      omega

theorem afterGet_of_waiting {i : Nat} {lease : Option Lease} {now : Nat} {r : Replica}
    (h : r.leader = false) :
    (afterGet ids i lease now r).leader = false ∧
      (afterGet ids i lease now r).release = r.release ∧
        ∀ due, (afterGet ids i lease now r).due = some due → now ≤ due := by
  unfold afterGet Replica.refused Replica.unsuccessful
  simp only [h]
  split
  · simp [Replica.due, Phase.built]
  · split
    · simp [Replica.due, Phase.built]
    · split <;> simp [Replica.due, Phase.built]

namespace State.OnSchedule

variable (h : s.OnSchedule ids) {i : Nat}

include h

/-- A leader is not later than two intervals and five delays after its lease was renewed. -/
theorem now_le (hi : (s.replicas i).leader = true) : ∃ l renewedAt, s.lease = some l ∧
    l.HeldBy ids i renewedAt ∧ (s.replicas i).Fresh renewedAt ∧
      s.now ≤ renewedAt + 3 * maxDelay + renewalInterval +
        (s.replicas i).consecutiveFailures * (2 * maxDelay + renewalInterval) := by
  obtain ⟨l, renewedAt, hl, hheld, hf⟩ := h.leader i hi
  refine ⟨l, renewedAt, hl, hheld, hf, ?_⟩
  have hdue := h.due i
  obtain ⟨-, hp⟩ := hf
  split at hp
  next wakesAt hph =>
    have := hdue wakesAt (by simp [Replica.due, hph, hi])
    omega
  next built hph =>
    have := hdue built (by simp [Replica.due, hph, Phase.built])
    omega
  all_goals exact hp.elim

theorem backed (hi : (s.replicas i).leader = true) : s.Backed ids i := by
  obtain ⟨l, renewedAt, hl, hheld, hf, hn⟩ := h.now_le hi
  refine ⟨l, hl, hheld.holder, hheld.isFree_eq_false (Nat.lt_of_le_of_lt hn ?_)⟩
  have hb := Nat.mul_le_mul_right (2 * maxDelay + renewalInterval) hf.1
  have hd : 2 * renewalInterval + 5 * maxDelay < leaseDurationSecs.toNat * 1000 := by decide
  omega

theorem eq_of_leaders {j : Nat} (hi : (s.replicas i).leader = true)
    (hj : (s.replicas j).leader = true) : i = j := by
  obtain ⟨l, hl, hholder, -⟩ := h.backed hi
  obtain ⟨l', hl', hholder', -⟩ := h.backed hj
  obtain rfl : l = l' := some.inj (hl.symm.trans hl')
  exact ids.injective (hholder.symm.trans hholder')

theorem exclusive : s.Exclusive ids := ⟨fun _ _ => h.eq_of_leaders, fun _ => h.backed⟩

/-- One replica changes, and the lease only if no other leads. -/
theorem update {r : Replica} {lease : Option Lease}
    (ho : ∀ j, (s.replicas j).leader = true → j ≠ i → lease = s.lease)
    (hd : ∀ due, r.due = some due → s.now ≤ due + maxDelay)
    (hl : r.leader = true → ∃ l renewedAt, lease = some l ∧ l.HeldBy ids i renewedAt ∧
      r.Fresh renewedAt)
    (hr : r.release.isSome = true → r.leader = true) :
    State.OnSchedule ids { s.setReplica i r with lease } := by
  refine ⟨fun j => ?_, fun j => ?_, fun j => ?_⟩ <;> by_cases hij : j = i <;>
    simp only [State.setReplica, hij, Function.update_self, ne_eq, not_false_eq_true,
      Function.update_of_ne]
  · exact hd
  · exact h.due j
  · exact hl
  · intro hj
    rw [ho j hj hij]
    exact h.leader j hj
  · exact hr
  · exact h.release j

theorem errored {lease : Option Lease}
    (ho : ∀ j, (s.replicas j).leader = true → j ≠ i → lease = s.lease)
    (hm : (s.replicas i).MayFail)
    (hl : (s.replicas i).leader = true → ∃ l renewedAt, lease = some l ∧ l.HeldBy ids i renewedAt ∧
      s.now ≤ renewedAt + 3 * maxDelay + renewalInterval) :
    State.OnSchedule ids { s.setReplica i ((s.replicas i).errored s.now) with lease } := by
  have hd (due : Nat) (hdue : ((s.replicas i).errored s.now).due = some due) :
      s.now ≤ due + maxDelay := Nat.le_add_right_of_le (Replica.due_errored hdue)
  cases hi : (s.replicas i).leader with
  | false =>
    have hr := h.release i
    refine h.update ho hd ?_ ?_ <;> simp_all [Replica.errored, Replica.unsuccessful]
  | true =>
    obtain ⟨l, renewedAt, hle, hheld, hn⟩ := hl hi
    have he : (s.replicas i).errored s.now =
        { s.replicas i with phase := .sleeping (s.now + 0 + renewalInterval), consecutiveFailures := 1 } := by
      simp [Replica.errored, Replica.unsuccessful, hi, hm hi, maxRenewalFailures]
    rw [he] at hd ⊢
    refine h.update ho hd (fun _ => ⟨l, renewedAt, hle, hheld, Nat.le_refl 1, ?_⟩) fun _ => hi
    dsimp only
    omega

theorem errored_same (hm : (s.replicas i).MayFail) :
    (s.setReplica i ((s.replicas i).errored s.now)).OnSchedule ids := by
  refine h.errored (fun _ _ _ => rfl) hm fun hi => ?_
  obtain ⟨l, renewedAt, hl, hheld, -, hn⟩ := h.now_le hi
  rw [hm hi] at hn
  exact ⟨l, renewedAt, hl, hheld, by omega⟩

theorem afterGet {wakesAt : Nat} (hp : (s.replicas i).phase = .sleeping wakesAt) :
    (s.setReplica i (afterGet ids i s.lease s.now (s.replicas i))).OnSchedule ids := by
  cases hi : (s.replicas i).leader with
  | true =>
    -- the lease of a leader names it, so it goes on to renew
    obtain ⟨l, renewedAt, hl, hheld, hf⟩ := h.leader i hi
    have hn := h.due i wakesAt (by simp [Replica.due, hp, hi])
    simp only [LeaderElection.afterGet, hl, if_pos hheld.holder]
    refine h.update (fun _ _ _ => rfl) (fun due hdue => ?_) (fun _ => ?_) (fun _ => hi)
    · cases hdue
      exact Nat.le_add_right _ _
    · refine ⟨l, renewedAt, hl, hheld, hf.1, ?_⟩
      have hw := hf.2
      rw [hp] at hw
      dsimp only at hw ⊢
      omega
  | false =>
    obtain ⟨hl, hr, hd⟩ := @afterGet_of_waiting ids i s.lease s.now _ hi
    refine h.update (fun _ _ _ => rfl) (fun due hdue => Nat.le_add_right_of_le (hd due hdue)) ?_ ?_
    · rw [hl]
      exact nofun
    · rw [hl, hr, ← hi]
      exact h.release i

/-- A write that takes effect renews the lease for its replica, and no other one leads. -/
theorem heldBy_serverWrite {l : Lease} (hw : serverWrite ids i s.lease (s.replicas i).phase = some l)
    (hf : Finds ids s i (s.replicas i).phase) :
    ∃ built, (s.replicas i).due = some built ∧ l.HeldBy ids i built ∧
      ∀ j, (s.replicas j).leader = true → j = i := by
  unfold Replica.due
  cases hp : (s.replicas i).phase with
  | creating built =>
    rw [hp] at hw
    cases hl : s.lease with
    | some old => simp [serverWrite, hl] at hw
    | none =>
      simp only [serverWrite, hl, some.injEq] at hw
      subst hw
      refine ⟨built, rfl, ⟨rfl, rfl, rfl⟩, fun j hj => ?_⟩
      obtain ⟨old, -, ho, -⟩ := h.leader j hj
      cases hl.symm.trans ho
  | renewing built =>
    rw [hp] at hw hf
    obtain ⟨old, ho, rfl⟩ := map_eq_some_iff.1 hw
    obtain ⟨hh, ha⟩ := hf old ho
    refine ⟨built, rfl, ⟨?_, rfl, rfl⟩, fun j hj => ?_⟩
    · rw [← hh]
      unfold Lease.holder Lease.apply renewPatch
      rw [Field.apply_none_of_not_applied ha]
    · obtain ⟨l, _, hl, hheld, -⟩ := h.leader j hj
      obtain rfl : old = l := some.inj (ho.symm.trans hl)
      exact ids.injective (hheld.holder.symm.trans hh)
  | takingOver built transitions =>
    rw [hp] at hw hf
    obtain ⟨old, ho, rfl⟩ := map_eq_some_iff.1 hw
    refine ⟨built, rfl, ⟨rfl, rfl, rfl⟩, fun j hj => ?_⟩
    obtain ⟨l, hl, -, hv⟩ := h.backed hj
    rw [hf l hl] at hv
    cases hv
  | sleeping | stopped =>
    rw [hp] at hw
    cases hw

/-- A leader renews, and finds its lease. -/
theorem serverWrite_ne_none {built : Nat} (hi : (s.replicas i).leader = true)
    (hd : (s.replicas i).phase.built = some built) :
    serverWrite ids i s.lease (s.replicas i).phase ≠ none := by
  obtain ⟨l, renewedAt, hl, -, -, hp⟩ := h.leader i hi
  split at hp
  next hph => simp [hph, Phase.built] at hd
  next hph => simp [hph, serverWrite, hl]
  all_goals exact hp.elim

theorem finishWrite {outcome : Outcome} {built : Nat}
    (hb : (s.replicas i).phase.built = some built) (hok : Steady ids s (.write i outcome)) :
    (s.finishWrite i (serverWrite ids i s.lease (s.replicas i).phase) outcome).OnSchedule ids := by
  cases hw : serverWrite ids i s.lease (s.replicas i).phase with
  | none =>
    have hm : (s.replicas i).MayFail := fun hi => absurd hw (h.serverWrite_ne_none hi hb)
    cases outcome <;> exact h.errored_same hm
  | some l =>
    cases outcome with
    | failed => exact h.errored_same (hok.1 (by decide))
    | ok =>
      obtain ⟨built, hd, hheld, ho⟩ := h.heldBy_serverWrite hw (hok.2 (by decide))
      have hn := h.due i built hd
      refine h.update (fun j hj hij => (hij (ho j hj)).elim) (fun due hdue => ?_)
        (fun _ => ⟨l, built, rfl, hheld, Nat.zero_le 1, ?_⟩) fun _ => rfl
      · cases hdue
        omega
      · dsimp only [Replica.succeeded]
        omega
    | timedOut =>
      obtain ⟨built, hd, hheld, ho⟩ := h.heldBy_serverWrite hw (hok.2 (by decide))
      have hn := h.due i built hd
      exact h.errored (fun j hj hij => (hij (ho j hj)).elim) (hok.1 (by decide))
        fun _ => ⟨l, built, rfl, hheld, by omega⟩

theorem exited {lease : Option Lease} (hi : (s.replicas i).leader = true) :
    State.OnSchedule ids { s.setReplica i (s.replicas i).exited with lease } :=
  h.update (fun _ hj hij => (hij (h.eq_of_leaders hj hi)).elim) (fun _ hd => nomatch hd)
    (fun hl => nomatch hl) fun hr => nomatch hr

theorem step (a : Action) (hok : Steady ids s a) : (s.step ids a).OnSchedule ids := by
  cases a with
  | get i fails =>
    unfold State.step
    dsimp only
    split
    next wakesAt hp =>
      split
      · cases fails with
        | true => exact h.errored_same (hok rfl)
        | false => exact h.afterGet hp
      · exact h
    next => exact h
  | write i outcome =>
    unfold State.step
    dsimp only
    split
    · exact h
    · exact h
    next hs hst =>
      obtain ⟨built, hb⟩ : ∃ built, (s.replicas i).phase.built = some built := by
        cases hp : (s.replicas i).phase with
        | sleeping wakesAt => exact absurd hp (hs wakesAt)
        | stopped => exact absurd hp hst
        | creating built | renewing built | takingOver built => exact ⟨built, rfl⟩
      exact h.finishWrite hb hok
  | advance millis => exact ⟨hok, h.leader, h.release⟩
  | release i fails =>
    unfold State.step
    dsimp only
    split
    next hc =>
      have hi : (s.replicas i).leader = true := (Bool.and_eq_true_iff.1 hc).1
      cases fails with
      | true => exact h.exited hi
      | false =>
        obtain ⟨l, renewedAt, hl, hheld, hf⟩ := h.leader i hi
        simp only [afterReleaseGet, hl, if_pos hheld.holder, Bool.false_eq_true, if_false]
        exact h.update (fun _ _ _ => rfl) (h.due i) (fun _ => ⟨l, renewedAt, hl, hheld, hf⟩)
          fun _ => hi
    next => exact h
  | finishRelease i outcome =>
    unfold State.step
    dsimp only
    split
    next => exact h
    next patch hp => exact h.exited (h.release i (by rw [hp]; rfl))

end State.OnSchedule

def pods : Identities where
  name i := String.ofList (List.replicate (i + 1) 'p')
  injective i j h := by
    have := congrArg String.length h
    simpa using this
  nonempty i h := by
    have := congrArg String.length h
    simp at this

def releasedLease : Lease where
  holderIdentity := ⟨some "", true, false⟩
  acquireTime := ⟨some 0, true, false⟩
  renewTime := ⟨some 0, true, false⟩
  leaseDurationSeconds := ⟨some 1, true, false⟩
  leaseTransitions := ⟨some 0, true, false⟩

/-- The first replica creates the lease, renews it at the second attempt and releases it; the second
replica finds it taken, and takes it over once it is released. -/
def createAndRelease : List Action :=
  [.get 0 false, .write 0 .ok, .advance 5000, .get 0 true, .get 1 false, .advance 5000,
    .get 0 false, .write 0 .ok, .release 0 false, .finishRelease 0 .ok, .get 1 false, .write 1 .ok]

/-- The first replica takes the lease over and renews it, which drops the holder; the second takes it
over as well. -/
def renewDropsHolder : List Action :=
  [.get 0 false, .write 0 .ok, .advance 5000, .get 0 false, .write 0 .ok,
    .get 1 false, .write 1 .ok]

/-- Two replicas read a free lease before either takes it over. -/
def raceToTakeOver : List Action := [.get 0 false, .get 1 false, .write 0 .ok, .write 1 .ok]

example : ((run (State.step pods) (start none) createAndRelease).replicas 1).leader = true := by
  decide

end Portus.LeaderElection

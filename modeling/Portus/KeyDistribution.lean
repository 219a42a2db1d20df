import Portus.DataPlane.Tokens
import Portus.Ledger.Keys
import Portus.Lib.Run
import Portus.Lib.Watch

/-!
# Keys on their way to the data planes

An operation on the keys commits in the storage thread, takes the next snapshot there and then
publishes it (`publish_keys`); the data planes follow the published snapshot over streams
(`watch_keys_loop`). When every operation has finished and the streams have drained, a connected
data plane should have exactly the live keys.

Taking and publishing are two steps and nothing orders the second, so an older snapshot can replace
a newer one. While no snapshot is published over a newer one, the keys arrive: the newest snapshot
shows the database, it is published last, and each data plane ends up with it (`Lib.Watch`).
-/

namespace Portus.KeyDistribution

open Lib Ledger DataPlane DataPlane.Ai List

inductive Handler where
  | committed
  | taken (snapshot : KeySnapshot)

inductive KeyOp where
  | issue (new : NewKey) (drawn : UInt64 × String)
  | update (id : UInt64) (patch : KeyPatch)
  | revoke (id : UInt64)
  | expire

structure System (Node Key : Type) where
  db : Db
  clockMicros : Nat
  jwks : List Proto.IssuerKeys
  handlers : List Handler
  published : KeySnapshot
  dataPlanes : Node → Watcher KeySnapshot (KeySet Key)

inductive Action (Node : Type) where
  | commit (op : KeyOp)
  /-- The keys of an issuer have changed. -/
  | refresh (jwks : List Proto.IssuerKeys)
  | take (i : Nat)
  | publish (i : Nat)
  | connect (n : Node)
  | disconnect (n : Node)
  | poll (n : Node)
  | receive (n : Node)
  | wait (micros : Nat)

namespace System

variable {Node Key : Type}

def nowSecs (s : System Node Key) : Nat := s.clockMicros / microsPerSec

def atNode [DecidableEq Node] (s : System Node Key) (n : Node)
    (f : Watcher KeySnapshot (KeySet Key) → Watcher KeySnapshot (KeySet Key)) : System Node Key :=
  { s with dataPlanes := Function.update s.dataPlanes n (f (s.dataPlanes n)) }

end System

section

variable {Node Key Claims : Type} [DecidableEq Node] (sha : Sha256) (libs : JwtLibs Key Claims)

def commit (db : Db) (clockMicros : Nat) : KeyOp → Option Db
  | .issue new drawn => (db.issue sha new drawn clockMicros).map (·.1)
  | .update id patch => db.update id patch clockMicros
  | .revoke id =>
    let (db, found) := db.revoke id clockMicros
    if found then some db else none
  | .expire =>
    let (db, n) := db.expire (clockMicros / microsPerSec)
    if 0 < n then some db else none

def accepts (keys : KeySet Key) (snapshot : KeySnapshot) : Bool :=
  decide (keys.version < snapshot.version) || keys.isEmpty

def step (s : System Node Key) : Action Node → System Node Key
  | .commit op =>
    match commit sha s.db s.clockMicros op with
    | some db => { s with db, handlers := s.handlers ++ [.committed] }
    | none => s
  | .refresh jwks => { s with jwks, handlers := s.handlers ++ [.committed] }
  | .take i =>
    match s.handlers[i]? with
    | some .committed =>
      let (db, snapshot) := s.db.nextKeySnapshot s.nowSecs
      { s with db, handlers := s.handlers.set i (.taken snapshot) }
    | _ => s
  | .publish i =>
    match s.handlers[i]? with
    | some (.taken snapshot) =>
      { s with
        published := { snapshot with issuers := s.jwks }
        handlers := s.handlers.eraseIdx i
        dataPlanes := fun n => (s.dataPlanes n).notify }
    | _ => s
  | .connect n => s.atNode n Watcher.connect
  | .disconnect n => s.atNode n Watcher.disconnect
  | .poll n => s.atNode n fun w => w.poll s.published
  | .receive n => s.atNode n (Watcher.receive accepts (KeySet.fromSnapshot libs))
  | .wait micros => { s with clockMicros := s.clockMicros + micros }

def start (db : Db) (clockMicros : Nat) (keys : Node → KeySet Key) : System Node Key where
  db
  clockMicros
  jwks := []
  handlers := []
  published := db.snapshot db.keyVersion (clockMicros / microsPerSec)
  dataPlanes n := { held := keys n }

/-- All operations have finished, the sweep of keys past their expiry among them, and the streams
have drained. -/
structure Settled (s : System Node Key) : Prop where
  finished : s.handlers = []
  swept : ∀ r ∈ s.db.rows, r.due s.nowSecs = false
  drained : ∀ n, (s.dataPlanes n).Drained

/-- A connected data plane of a settled system has exactly the live keys. -/
def Distributed (s : System Node Key) : Prop :=
  Settled s → ∀ n, (s.dataPlanes n).stream.isSome → ∀ hash, (s.dataPlanes n).held.keys.lookup hash =
      ((s.db.rows.filter (·.live s.nowSecs)).find? (·.hash = hash)).map (·.entry.info)

def InOrder (s : System Node Key) : Action Node → Prop
  | .publish i => ∀ snapshot, s.handlers[i]? = some (.taken snapshot) →
      s.published.version < snapshot.version
  | _ => True

/-- The snapshot shows the database, but for keys that have expired since. -/
def Shows (s : System Node Key) (snapshot : KeySnapshot) : Prop :=
  ∃ t ≤ s.nowSecs, snapshot.keys = (s.db.snapshot snapshot.version t).keys

def Stands (s : System Node Key) (snapshot : KeySnapshot) : Prop :=
  snapshot = s.published ∨ .taken snapshot ∈ s.handlers

structure Inv (s : System Node Key) : Prop where
  bounded : ∀ snapshot, Stands s snapshot → snapshot.version ≤ s.db.keyVersion
  newest : ∃ snapshot, Stands s snapshot ∧ snapshot.version = s.db.keyVersion
  shows : .committed ∉ s.handlers → ∀ snapshot, Stands s snapshot →
    snapshot.version = s.db.keyVersion → Shows s snapshot
  inStep : ∀ n, (s.dataPlanes n).InStep KeySnapshot.version KeySet.version
    (KeySet.fromSnapshot libs) s.published

end

variable {Node Key Claims : Type} {sha : Sha256} {libs : JwtLibs Key Claims} {s : System Node Key}

theorem keyVersion_commit (h : commit sha db clockMicros op = some db') :
    db'.keyVersion = db.keyVersion := by
  cases op with
  | issue new drawn =>
    obtain ⟨⟨db₁, row, key⟩, his, rfl⟩ := Option.map_eq_some_iff.1 h
    obtain ⟨db₂, hin, hr⟩ := Option.map_eq_some_iff.1 his
    obtain ⟨rfl, -⟩ := Prod.mk.inj hr
    unfold Db.insert at hin
    split at hin
    next => rw [← Option.some.inj hin]
    next => cases hin
  | update id patch =>
    change db.update id patch clockMicros = some db' at h
    unfold Db.update at h
    split at h
    next =>
      rw [← Option.some.inj h]
      rfl
    next => cases h
  | revoke id =>
    change (if (db.revoke id clockMicros).2 then some (db.revoke id clockMicros).1 else none) = _ at h
    split at h
    next =>
      rw [← Option.some.inj h]
      rfl
    next => cases h
  | expire =>
    change (if 0 < (db.expire (clockMicros / microsPerSec)).2 then
      some (db.expire (clockMicros / microsPerSec)).1 else none) = _ at h
    split at h
    next =>
      rw [← Option.some.inj h]
      rfl
    next => cases h

theorem inv_committed (h : Inv libs s) (hdb : db.keyVersion = s.db.keyVersion)
    (jwks : List Proto.IssuerKeys) :
    Inv libs { s with db, jwks, handlers := s.handlers ++ [.committed] } := by
  have hst (snapshot : KeySnapshot) :
      Stands { s with db, jwks, handlers := s.handlers ++ [.committed] } snapshot ↔
        Stands s snapshot := by
    simp [Stands]
  constructor
  case bounded =>
    intro snapshot hsn
    exact (h.bounded snapshot ((hst snapshot).1 hsn)).trans hdb.ge
  case newest =>
    obtain ⟨snapshot, hsn, hv⟩ := h.newest
    exact ⟨snapshot, (hst snapshot).2 hsn, hv.trans hdb.symm⟩
  case shows => exact fun hn => absurd (mem_append_right _ (mem_singleton.2 rfl)) hn
  case inStep => exact h.inStep

theorem inv_take (h : Inv libs s) (hi : s.handlers[i]? = some .committed) : Inv libs { s with
      db := (s.db.nextKeySnapshot s.nowSecs).1
      handlers := s.handlers.set i (.taken (s.db.nextKeySnapshot s.nowSecs).2) } := by
  have hst {snapshot : KeySnapshot} (hsn : Stands { s with
      db := (s.db.nextKeySnapshot s.nowSecs).1
      handlers := s.handlers.set i (.taken (s.db.nextKeySnapshot s.nowSecs).2) } snapshot) :
      Stands s snapshot ∨ snapshot = (s.db.nextKeySnapshot s.nowSecs).2 := by
    rcases hsn with hp | ht
    · exact .inl (.inl hp)
    · rcases mem_or_eq_of_mem_set ht with ho | hn
      · exact .inl (.inr ho)
      · exact .inr (Handler.taken.inj hn)
  constructor
  case bounded =>
    intro snapshot hsn
    rcases hst hsn with ho | rfl
    · exact (h.bounded snapshot ho).trans (Nat.le_succ _)
    · exact le_rfl
  case newest =>
    obtain ⟨hlt, -⟩ := List.getElem?_eq_some_iff.1 hi
    exact ⟨_, .inr (mem_set hlt _), rfl⟩
  case shows =>
    intro _ snapshot hsn hv
    rcases hst hsn with ho | rfl
    · exact absurd (hv ▸ h.bounded snapshot ho) (Nat.not_succ_le_self _)
    · exact ⟨s.nowSecs, le_rfl, rfl⟩
  case inStep => exact h.inStep

theorem mem_eraseIdx_of_ne {l : List Handler} (hi : l[i]? = some b) (ha : a ∈ l) (hne : a ≠ b) :
    a ∈ l.eraseIdx i := by
  obtain ⟨j, hj⟩ := mem_iff_getElem?.1 ha
  refine mem_eraseIdx_iff_getElem?.2 ⟨j, ?_, hj⟩
  rintro rfl
  exact hne (Option.some.inj (hj.symm.trans hi))

theorem inv_publish (h : Inv libs s) {i : Nat} (hi : s.handlers[i]? = some (.taken snapshot))
    (hn : s.published.version < snapshot.version) :
    Inv libs { s with
      published := { snapshot with issuers := s.jwks }
      handlers := s.handlers.eraseIdx i
      dataPlanes := fun n => (s.dataPlanes n).notify } := by
  have ht : Stands s snapshot := .inr (mem_of_getElem? hi)
  constructor
  case bounded =>
    rintro snap (rfl | hs)
    · exact h.bounded snapshot ht
    · exact h.bounded snap (.inr (mem_of_mem_eraseIdx hs))
  case newest =>
    by_cases hv : snapshot.version = s.db.keyVersion
    · exact ⟨_, .inl rfl, hv⟩
    · -- the newest is another one: what was published is older than this one
      obtain ⟨snap, hs, hn'⟩ := h.newest
      rcases hs with rfl | hs
      · have := h.bounded snapshot ht
        omega
      · refine ⟨snap, .inr (mem_eraseIdx_of_ne hi hs fun heq => hv ?_), hn'⟩
        rwa [← Handler.taken.inj heq]
  case shows =>
    intro hnone snap hs hv
    have hnone' : .committed ∉ s.handlers := fun hc =>
      hnone (mem_eraseIdx_of_ne hi hc Handler.noConfusion)
    rcases hs with rfl | hs
    · exact h.shows hnone' snapshot ht hv
    · exact h.shows hnone' snap (.inr (mem_of_mem_eraseIdx hs)) hv
  case inStep => exact fun n => (h.inStep n).notify hn

theorem inv_atNode [DecidableEq Node] (h : Inv libs s)
    (hf : (f (s.dataPlanes n)).InStep KeySnapshot.version KeySet.version
      (KeySet.fromSnapshot libs) s.published) : Inv libs (s.atNode n f) where
  bounded := h.bounded
  newest := h.newest
  shows := h.shows
  inStep := by
    rw [System.atNode, Function.forall_update_iff s.dataPlanes fun _ w => w.InStep _ _ _ _]
    exact ⟨hf, fun m _ => h.inStep m⟩

theorem inv_step [DecidableEq Node] (s : System Node Key) (a : Action Node) (h : Inv libs s) (hok : InOrder s a) :
    Inv libs (step sha libs s a) := by
  cases a with
  | commit op =>
    unfold step
    dsimp only
    cases hc : commit sha s.db s.clockMicros op with
    | none => exact h
    | some db => exact inv_committed h (keyVersion_commit hc) s.jwks
  | refresh jwks => exact inv_committed h rfl jwks
  | take i =>
    unfold step
    dsimp only
    split
    next hi => exact inv_take h hi
    next => exact h
  | publish i =>
    unfold step
    dsimp only
    split
    next snapshot hi => exact inv_publish h hi (hok snapshot hi)
    next => exact h
  | connect n => exact inv_atNode h (h.inStep n).connect
  | disconnect n => exact inv_atNode h Watcher.inStep_disconnect
  | poll n => exact inv_atNode (f := fun w => w.poll s.published) h (h.inStep n).poll
  | receive n =>
    refine inv_atNode h ((h.inStep n).receive (fun _ => rfl) fun keys snapshot hlt => ?_)
    exact Bool.or_eq_true_iff.2 (.inl (decide_eq_true hlt))
  | wait micros =>
    refine ⟨h.bounded, h.newest, fun hn snapshot hs hv => ?_, h.inStep⟩
    obtain ⟨t, ht, hk⟩ := h.shows hn snapshot hs hv
    exact ⟨t, ht.trans (Nat.div_le_div_right (Nat.le_add_right _ _)), hk⟩

theorem live_of_swept {r : StoredKey} (ht : t ≤ now) (h : r.due now = false) :
    r.live t = r.live now := by
  unfold StoredKey.due at h
  unfold StoredKey.live
  cases hr : r.revokedUnixMicros.isNone with
  | false => rfl
  | true =>
    rw [hr, Bool.true_and, Bool.not_eq_false'] at h
    rw [h]
    unfold StoredKey.unexpired at h ⊢
    cases he : r.expiresUnixSecs with
    | none => rfl
    | some e =>
      rw [he] at h
      have hn : (now : Int) < e.toInt := of_decide_eq_true h
      exact decide_eq_true (by omega)

theorem lookup_fromSnapshot (db : Db)
    (h : snapshot.keys = (db.snapshot snapshot.version t).keys) (hash : List UInt8) :
    (KeySet.fromSnapshot libs snapshot).keys.lookup hash =
      ((db.rows.filter (·.live t)).find? (·.hash = hash)).map (·.entry.info) := by
  have hke : snapshot.keys.filter (·.hashSha256.length == 32) = snapshot.keys := by
    refine filter_eq_self.2 fun k hk => ?_
    rw [h] at hk
    obtain ⟨r, hr, rfl⟩ := mem_map.1 hk
    exact beq_iff_eq.2 (db.length_hash r (mem_of_mem_filter hr))
  rw [KeySet.fromSnapshot, hke, h, Db.snapshot, map_map]
  exact Table.lookup_collect_map (db.nodup_hash.sublist (filter_sublist.map _)) hash

theorem Inv.distributed (h : Inv libs s) : Distributed s := by
  intro hse n hc hash
  obtain ⟨st, hst⟩ := Option.isSome_iff_exists.1 hc
  rw [(h.inStep n).held_of_drained (hse.drained n) hst]
  -- with no operation under way the published snapshot is the newest
  have hn : .committed ∉ s.handlers := by
    rw [hse.finished]
    exact not_mem_nil
  obtain ⟨snapshot, hsn, hv⟩ := h.newest
  obtain rfl : snapshot = s.published := by
    rcases hsn with hp | hta
    · exact hp
    · rw [hse.finished] at hta
      cases hta
  obtain ⟨t, ht, hk⟩ := h.shows hn _ (.inl rfl) hv
  rw [lookup_fromSnapshot s.db hk]
  congr 2
  exact filter_congr fun r hr => live_of_swept ht (hse.swept r hr)

theorem inv_start (libs : JwtLibs Key Claims) (db : Db) (clockMicros : Nat)
    (keys : Node → KeySet Key) : Inv libs (start db clockMicros keys) := by
  have hs {snapshot : KeySnapshot} (h : Stands (start db clockMicros keys) snapshot) :
      snapshot = db.snapshot db.keyVersion (clockMicros / microsPerSec) := by
    rcases h with hp | ht
    · exact hp
    · cases ht
  constructor
  case bounded =>
    intro snapshot hsn
    rw [hs hsn]
    exact le_rfl
  case newest => exact ⟨_, .inl rfl, rfl⟩
  case shows =>
    intro _ snapshot hsn _
    rw [hs hsn]
    exact ⟨_, le_rfl, rfl⟩
  case inStep =>
    intro n st hst
    cases hst

/-- While no snapshot is published over a newer one, the data planes end up with the live keys. -/
theorem distributed_run [DecidableEq Node] (sha : Sha256) (libs : JwtLibs Key Claims) (db : Db)
    (clockMicros : Nat) (keys : Node → KeySet Key) (actions : List (Action Node))
    (h : StepsMeet (step sha libs) InOrder (start db clockMicros keys) actions) :
    Distributed (run (step sha libs) (start db clockMicros keys) actions) :=
  (run_invariant inv_step (inv_start libs db clockMicros keys) h).distributed

def dexTokens : JwtLibs Unit Ai.Claims := oneToken "https://dex.example.com" "chat" ∅ 600

def key (id : UInt64) (byte : UInt8) : StoredKey where
  id
  hash := List.replicate 32 byte
  tenant := ""
  name := "ci"
  allowedModels := ""
  external := false
  createdUnixMicros := 0
  expiresUnixSecs := none
  tokenLimit := none
  callLimit := none
  labels := ∅

def twoKeys : Db where
  rows := [key 1 1, key 2 2]
  nodup_id := by decide
  nodup_hash := by decide
  length_hash := by decide

def connected : List (Action Unit) := [.connect (), .poll (), .receive ()]

def oneByOne : List (Action Unit) :=
  connected ++ [.commit (.revoke 1), .take 0, .publish 0, .commit (.revoke 2), .take 0, .publish 0,
    .poll (), .receive ()]

/-- The second revocation publishes before the first. -/
def overtaking : List (Action Unit) :=
  connected ++ [.commit (.revoke 1), .take 0, .commit (.revoke 2), .take 1, .publish 1, .publish 0,
    .poll (), .receive ()]

def after (actions : List (Action Unit)) : System Unit Unit :=
  run (step .firstBytes dexTokens) (start twoKeys 0 fun _ => {}) actions

theorem settled_oneByOne : Settled (after oneByOne) where
  finished := rfl
  swept := by decide
  drained := by
    rintro - st ⟨⟩
    exact ⟨rfl, rfl⟩

theorem distributed_oneByOne : Settled (after oneByOne) ∧
    ∀ hash, ((after oneByOne).dataPlanes ()).held.keys.lookup hash =
      (((after oneByOne).db.rows.filter (·.live (after oneByOne).nowSecs)).find?
        (·.hash = hash)).map (·.entry.info) := by
  refine ⟨settled_oneByOne, distributed_run .firstBytes dexTokens twoKeys 0 (fun _ => {}) oneByOne
    ?_ settled_oneByOne () rfl⟩
  refine ⟨trivial, trivial, trivial, trivial, trivial, ?_, trivial, trivial, ?_, trivial, trivial,
    trivial⟩
  all_goals
    rintro snapshot ⟨⟩
    decide

/-- The data plane keeps a key that is revoked. -/
theorem overtaken_keepsKey : ¬ Distributed (after overtaking) := by
  intro h
  have hs : Settled (after overtaking) :=
    { finished := rfl
      swept := by decide
      drained := by
        rintro - st ⟨⟩
        exact ⟨rfl, rfl⟩ }
  have hk := h hs () rfl (List.replicate 32 2)
  have hh : (((after overtaking).dataPlanes ()).held.keys.lookup (List.replicate 32 2)).isSome =
      true := rfl
  rw [hk] at hh
  revert hh
  decide

end Portus.KeyDistribution

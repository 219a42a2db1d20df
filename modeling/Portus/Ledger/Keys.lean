import Portus.DataPlane.Keys

/-!
# The ledger's keys

`portus-ledger/src/keys.rs`: the table `api_keys` and what the operations do to it. A key keeps its
hash; its allow lists are stored as one text each, the names joined by commas, and read back with
`splitModels`. `snapshot` is what the data planes receive. Ids and generated keys are drawn at
random and the time is read from the clock, so they are arguments here. The order in which the
statements list rows is left out: nothing depends on it.
-/

namespace Portus.Ledger

open Lib List
open DataPlane.Ai (Sha256 KeyEntry KeySnapshot)

abbrev Labels := Table String String

/-- A row of the table. Times and limits are the casts of unsigned numbers. -/
structure StoredKey where
  id : UInt64
  hash : List UInt8
  tenant : String
  name : String
  allowedModels : String
  allowedTools : String := ""
  external : Bool
  createdUnixMicros : UInt64
  revokedUnixMicros : Option UInt64 := none
  expiresUnixSecs : Option Int64
  tokenLimit : Option UInt64
  callLimit : Option UInt64
  labels : Labels

structure KeyRow where
  id : UInt64
  tenant : String
  name : String
  allowedModels : List String
  allowedTools : List String
  external : Bool
  createdUnixMicros : UInt64
  revokedUnixMicros : Option UInt64
  expiresUnixSecs : Option UInt64
  tokenLimit : Option UInt64
  callLimit : Option UInt64
  labels : Labels

structure NewKey where
  tenant : String := ""
  name : String
  allowedModels : List String := []
  allowedTools : List String := []
  plaintext : Option String := none
  expiresInSecs : Option UInt64 := none
  tokenLimit : Option UInt64 := none
  callLimit : Option UInt64 := none
  labels : Labels := ∅

/-- What an update changes; what is absent stays. -/
structure KeyPatch where
  tenant : Option String := none
  name : Option String := none
  allowedModels : Option (List String) := none
  allowedTools : Option (List String) := none
  expiresInSecs : Option UInt64 := none
  tokenLimit : Option UInt64 := none
  callLimit : Option UInt64 := none
  labels : Option Labels := none

def microsPerSec : Nat := 1000000

/-- 0 means never. -/
def expiry (nowMicros : Nat) (expiresInSecs : Option UInt64) : Option UInt64 :=
  (expiresInSecs.filter fun s => decide (0 < s)).map fun s =>
    UInt64.ofNat (nowMicros / microsPerSec) + s

/-- 0 means none. -/
def limit (v : Option UInt64) : Option UInt64 := v.filter fun b => decide (0 < b)

def joinModels (names : List String) : String := (String.singleton ',').intercalate names

def splitModels (s : String) : List String := Text.pieces ',' s

theorem splitModels_joinModels :
    splitModels (joinModels names) = names.flatMap splitModels :=
  Text.pieces_intercalate ',' names

namespace StoredKey

def listed (r : StoredKey) : KeyRow where
  id := r.id
  tenant := r.tenant
  name := r.name
  allowedModels := splitModels r.allowedModels
  allowedTools := splitModels r.allowedTools
  external := r.external
  createdUnixMicros := r.createdUnixMicros
  revokedUnixMicros := r.revokedUnixMicros
  expiresUnixSecs := r.expiresUnixSecs.map (·.toUInt64)
  tokenLimit := r.tokenLimit
  callLimit := r.callLimit
  labels := r.labels

/-- The expiry has not passed; the column is signed. -/
def unexpired (r : StoredKey) (nowSecs : Nat) : Bool :=
  r.expiresUnixSecs.all fun e => decide ((nowSecs : Int) < e.toInt)

def live (r : StoredKey) (nowSecs : Nat) : Bool := r.revokedUnixMicros.isNone && r.unexpired nowSecs

def entry (r : StoredKey) : KeyEntry where
  id := r.id
  hashSha256 := r.hash
  tenant := r.tenant
  name := r.name
  allowedModels := splitModels r.allowedModels
  allowedTools := splitModels r.allowedTools
  expiresUnixSecs := (r.expiresUnixSecs.map (·.toUInt64)).getD 0
  tokenLimit := r.tokenLimit.getD 0
  callLimit := r.callLimit.getD 0
  labels := r.labels

def patched (r : StoredKey) (patch : KeyPatch) (nowMicros : Nat) : StoredKey :=
  let current := r.listed
  { r with
    tenant := (patch.tenant.map Text.trim).getD current.tenant
    name := (patch.name.map Text.trim).getD current.name
    allowedModels := joinModels (patch.allowedModels.getD current.allowedModels)
    allowedTools := joinModels (patch.allowedTools.getD current.allowedTools)
    expiresUnixSecs :=
      (match patch.expiresInSecs with
        | some secs => expiry nowMicros (some secs)
        | none => current.expiresUnixSecs).map UInt64.toInt64
    tokenLimit :=
      match patch.tokenLimit with
      | some b => limit (some b)
      | none => current.tokenLimit
    callLimit :=
      match patch.callLimit with
      | some b => limit (some b)
      | none => current.callLimit
    labels := patch.labels.getD current.labels }

def isLive (r : StoredKey) (id : UInt64) : Bool := r.id == id && r.revokedUnixMicros.isNone

theorem id_of_isLive {r : StoredKey} {id : UInt64} (h : r.isLive id = true) : r.id = id :=
  beq_iff_eq.1 (Bool.and_eq_true_iff.1 h).1

def due (r : StoredKey) (nowSecs : Nat) : Bool :=
  r.revokedUnixMicros.isNone && !r.unexpired nowSecs

end StoredKey

/-- The part of the database that concerns keys: the table with its constraints, and the version of
the last snapshot. -/
structure Db where
  rows : List StoredKey := []
  keyVersion : Nat := 1
  nodup_id : (rows.map (·.id)).Nodup := by exact nodup_nil
  nodup_hash : (rows.map (·.hash)).Nodup := by exact nodup_nil
  length_hash : ∀ r ∈ rows, r.hash.length = 32 := by exact fun _ h => nomatch h

namespace Db

def insert (db : Db) (row : StoredKey) (hrow : row.hash.length = 32) : Option Db :=
  if h : row.id ∉ db.rows.map (·.id) ∧ row.hash ∉ db.rows.map (·.hash) then
    some { db with
        rows := row :: db.rows
        nodup_id := nodup_cons.2 ⟨h.1, db.nodup_id⟩
        nodup_hash := nodup_cons.2 ⟨h.2, db.nodup_hash⟩
        length_hash := forall_mem_cons.2 ⟨hrow, db.length_hash⟩ }
  else none

/-- `UPDATE`, which leaves ids and hashes alone. -/
def amend (db : Db) (f : StoredKey → StoredKey) (hid : ∀ r, (f r).id = r.id)
    (hhash : ∀ r, (f r).hash = r.hash) : Db where
  rows := db.rows.map f
  keyVersion := db.keyVersion
  nodup_id := by
    rw [map_map, show (StoredKey.id ∘ f) = StoredKey.id from funext hid]
    exact db.nodup_id
  nodup_hash := by
    rw [map_map, show (StoredKey.hash ∘ f) = StoredKey.hash from funext hhash]
    exact db.nodup_hash
  length_hash := by
    intro r' hr'
    obtain ⟨r, hr, rfl⟩ := mem_map.1 hr'
    rw [hhash]
    exact db.length_hash r hr

/-- Store a key; `drawn` are the random id and the key that is used unless one was given. -/
def issue (sha : Sha256) (db : Db) (new : NewKey) (drawn : UInt64 × String) (nowMicros : Nat) :
    Option (Db × KeyRow × String) :=
  let key := new.plaintext.getD drawn.2
  let expires := expiry nowMicros new.expiresInSecs
  let row : StoredKey :=
    { id := drawn.1
      hash := sha.digest key
      tenant := new.tenant
      name := new.name
      allowedModels := joinModels new.allowedModels
      allowedTools := joinModels new.allowedTools
      external := new.plaintext.isSome
      createdUnixMicros := UInt64.ofNat nowMicros
      expiresUnixSecs := expires.map (·.toInt64)
      tokenLimit := limit new.tokenLimit
      callLimit := limit new.callLimit
      labels := new.labels }
  (db.insert row (sha.length_digest key)).map fun db =>
    (db, { row.listed with
      allowedModels := new.allowedModels
      allowedTools := new.allowedTools
      expiresUnixSecs := expires }, key)

def amendWhere (db : Db) (hit : StoredKey → Bool) (f : StoredKey → StoredKey)
    (hid : ∀ r, (f r).id = r.id) (hhash : ∀ r, (f r).hash = r.hash) : Db :=
  db.amend (fun r => if hit r then f r else r)
    (fun r => by split; exacts [hid r, rfl]) (fun r => by split; exacts [hhash r, rfl])

def update (db : Db) (id : UInt64) (patch : KeyPatch) (nowMicros : Nat) : Option Db :=
  if db.rows.any (·.isLive id) then
    some (db.amendWhere (·.isLive id) (·.patched patch nowMicros) (fun _ => rfl) (fun _ => rfl))
  else none

def expire (db : Db) (nowSecs : Nat) : Db × Nat :=
  let revoked := some (UInt64.ofNat (nowSecs * microsPerSec))
  (db.amendWhere (·.due nowSecs) (fun r => { r with revokedUnixMicros := revoked })
    (fun _ => rfl) (fun _ => rfl), db.rows.countP (·.due nowSecs))

def revoke (db : Db) (id : UInt64) (nowMicros : Nat) : Db × Bool :=
  let revoked := some (UInt64.ofNat nowMicros)
  (db.amendWhere (·.isLive id) (fun r => { r with revokedUnixMicros := revoked })
    (fun _ => rfl) (fun _ => rfl), db.rows.any (·.isLive id))

def snapshot (db : Db) (version nowSecs : Nat) : KeySnapshot where
  version
  keys := (db.rows.filter (·.live nowSecs)).map (·.entry)

def nextKeySnapshot (db : Db) (nowSecs : Nat) : Db × KeySnapshot :=
  ({ db with keyVersion := db.keyVersion + 1 }, db.snapshot (db.keyVersion + 1) nowSecs)

theorem find_isLive (db : Db) (hr : r ∈ db.rows) {id : UInt64} (h : r.isLive id = true) :
    db.rows.find? (·.isLive id) = some r := by
  have hs : (db.rows.find? (·.isLive id)).isSome = true := find?_isSome.2 ⟨r, hr, h⟩
  obtain ⟨r', hf⟩ := Option.isSome_iff_exists.1 hs
  have hl := find?_some hf
  have hid : r'.id = r.id :=
    (StoredKey.id_of_isLive hl).trans (StoredKey.id_of_isLive h).symm
  rw [hf, inj_on_of_nodup_map db.nodup_id (mem_of_find?_eq_some hf) hr hid]

end Db

end Portus.Ledger

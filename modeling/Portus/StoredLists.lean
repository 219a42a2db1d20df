import Portus.Ledger.Keys

/-!
# Allow lists through the store

An allow list is submitted as a list of names and stored as one text, joined by commas. The text is
split again at every comma, and empty pieces are dropped. So a name with a comma in it comes back
as its pieces, and names of nothing but commas do not come back at all; a list that has lost all
its names allows anything. Nothing wider is stored exactly when the list holds the pieces of each
of its names and, unless it is empty, one of them is left.
-/

namespace Portus.StoredLists

open Lib Ledger DataPlane.Ai List

inductive Write where
  | issue (new : NewKey) (drawn : UInt64 × String)
  | update (id : UInt64) (patch : KeyPatch)

namespace Write

def id : Write → UInt64
  | .issue _ drawn => drawn.1
  | .update id _ => id

def apply (sha : Sha256) (db : Db) (nowMicros : Nat) : Write → Option Db
  | .issue new drawn => (db.issue sha new drawn nowMicros).map (·.1)
  | .update id patch => db.update id patch nowMicros

def models (db : Db) : Write → List String
  | .issue new _ => new.allowedModels
  | .update id patch =>
    patch.allowedModels.getD <| ((db.rows.find? (·.isLive id)).map (·.listed.allowedModels)).getD []

def tools (db : Db) : Write → List String
  | .issue new _ => new.allowedTools
  | .update id patch =>
    patch.allowedTools.getD <| ((db.rows.find? (·.isLive id)).map (·.listed.allowedTools)).getD []

end Write

/-- No name is there that was not submitted, and a list with names keeps one. -/
def Faithful (names stored : List String) : Prop :=
  (names ≠ [] → stored ≠ []) ∧ ∀ n ∈ stored, n ∈ names

/-- The key as sent allows what the submitted lists allow, and holds none but their names. -/
def NeverWidens (models tools : List String) (e : KeyEntry) : Prop :=
  (∀ access, checkAccess e.info access = .ok () →
    checkAccess { e.info with allowedModels := models, allowedTools := tools } access = .ok ()) ∧
  Faithful models e.allowedModels ∧ Faithful tools e.allowedTools

/-- The pieces of the names are among the names, and a list with names has a piece. -/
def HoldsPieces (names : List String) : Prop :=
  (names ≠ [] → ∃ n ∈ names, splitModels n ≠ []) ∧
    ∀ n ∈ names, ∀ piece ∈ splitModels n, piece ∈ names

instance (names : List String) : Decidable (HoldsPieces names) := inferInstanceAs (Decidable (_ ∧ _))

theorem faithful_iff :
    Faithful names (splitModels (joinModels names)) ↔ HoldsPieces names := by
  rw [splitModels_joinModels]
  refine and_congr (imp_congr_right fun _ => ?_) ?_
  · rw [Ne, flatMap_eq_nil_iff]
    push Not
    rfl
  · constructor
    · intro h n hn piece hp
      exact h piece (mem_flatMap.2 ⟨n, hn, hp⟩)
    · intro h piece hp
      obtain ⟨n, hn, hp⟩ := mem_flatMap.1 hp
      exact h n hn piece hp

theorem Faithful.isEmpty (h : Faithful names stored) : names.isEmpty = stored.isEmpty := by
  rw [Bool.eq_iff_iff, List.isEmpty_iff, List.isEmpty_iff]
  constructor
  · rintro rfl
    exact eq_nil_iff_forall_not_mem.2 fun n hn => not_mem_nil (h.2 n hn)
  · intro hs
    by_contra hne
    exact h.1 hne hs

theorem toolAllowed_mono (h : ∀ n ∈ stored, n ∈ names) (ht : toolAllowed stored t = true) :
    toolAllowed names t = true := by
  obtain ⟨a, ha, hm⟩ := any_eq_true.1 ht
  exact any_eq_true.2 ⟨a, h a ha, hm⟩

theorem checkAccess_mono (hm : Faithful models info.allowedModels)
    (ht : Faithful tools info.allowedTools) (h : checkAccess info access = .ok ()) :
    checkAccess { info with allowedModels := models, allowedTools := tools } access = .ok () := by
  cases access with
  | other => rfl
  | model m =>
    unfold checkAccess at h ⊢
    dsimp only at h ⊢
    rw [hm.isEmpty]
    split at h
    next he => rw [if_pos he]
    next he =>
      rw [if_neg he]
      cases m with
      | none => cases h
      | some m =>
        dsimp only at h ⊢
        split at h
        next hin => exact if_pos (contains_iff_mem.2 (hm.2 m (contains_iff_mem.1 hin)))
        next => cases h
  | toolCall t =>
    unfold checkAccess at h ⊢
    dsimp only at h ⊢
    rw [ht.isEmpty]
    split at h
    next he => rw [if_pos he]
    next he =>
      rw [if_neg he]
      cases t with
      | none => cases h
      | some t =>
        dsimp only at h ⊢
        split at h
        next hin => exact if_pos (toolAllowed_mono ht.2 hin)
        next => cases h

theorem lists_of_apply {w : Write} (h : w.apply sha db nowMicros = some db')
    (he : e ∈ (db'.snapshot version nowSecs).keys) (hid : e.id = w.id) :
    e.allowedModels = splitModels (joinModels (w.models db)) ∧
      e.allowedTools = splitModels (joinModels (w.tools db)) := by
  obtain ⟨r, hr, rfl⟩ := mem_map.1 he
  obtain ⟨hr, hl⟩ := mem_filter.1 hr
  cases w with
  | issue new drawn =>
    obtain ⟨⟨db₁, row, key⟩, his, rfl⟩ := Option.map_eq_some_iff.1 h
    obtain ⟨db₂, hin, hres⟩ := Option.map_eq_some_iff.1 his
    obtain ⟨rfl, -⟩ := Prod.mk.inj hres
    unfold Db.insert at hin
    split at hin
    next hf =>
      obtain rfl := Option.some.inj hin
      rcases mem_cons.1 hr with rfl | ho
      · exact ⟨rfl, rfl⟩
      · -- the id is new, so no other row has it
        exact absurd (mem_map.2 ⟨r, ho, hid⟩) hf.1
    next => cases hin
  | update id patch =>
    change db.update id patch nowMicros = some db' at h
    unfold Db.update at h
    split at h
    next =>
      obtain rfl := Option.some.inj h
      obtain ⟨r₀, hr₀, rfl⟩ := mem_map.1 hr
      by_cases hh : r₀.isLive id = true
      · rw [if_pos hh]
        unfold Write.models Write.tools
        dsimp only
        rw [db.find_isLive hr₀ hh]
        exact ⟨rfl, rfl⟩
      · -- a row that was left alone is live and does not have the id
        rw [if_neg hh] at hl hid
        have hrev := (Bool.and_eq_true_iff.1 hl).1
        exact absurd (Bool.and_eq_true_iff.2 ⟨beq_iff_eq.2 hid, hrev⟩) hh
    next => cases h

/-- The key as sent is no wider than the submitted lists exactly when these hold their pieces. -/
theorem neverWidens_iff_holdsPieces {sha : Sha256} {db db' : Db} {nowMicros : Nat} {w : Write}
    (h : w.apply sha db nowMicros = some db') {version nowSecs : Nat} {e : KeyEntry}
    (he : e ∈ (db'.snapshot version nowSecs).keys) (hid : e.id = w.id) :
    NeverWidens (w.models db) (w.tools db) e ↔
      HoldsPieces (w.models db) ∧ HoldsPieces (w.tools db) := by
  obtain ⟨hmo, hto⟩ := lists_of_apply h he hid
  rw [← faithful_iff, ← faithful_iff, ← hmo, ← hto]
  constructor
  · exact And.right
  · rintro ⟨hm, ht⟩
    exact ⟨fun _ => checkAccess_mono hm ht, hm, ht⟩

def firstKey (models : List String) : Write :=
  .issue { name := "ci", allowedModels := models } (7, "portus_sk_0123456789")

def firstRow (models : List String) : StoredKey where
  id := 7
  hash := Sha256.firstBytes.digest "portus_sk_0123456789"
  tenant := ""
  name := "ci"
  allowedModels := joinModels models
  external := false
  createdUnixMicros := 0
  expiresUnixSecs := none
  tokenLimit := none
  callLimit := none
  labels := ∅

def firstDb (models : List String) : Db where
  rows := [firstRow models]
  nodup_id := nodup_singleton _
  nodup_hash := nodup_singleton _
  length_hash := forall_mem_singleton.2 (Sha256.firstBytes.length_digest _)

theorem apply_firstKey (models : List String) :
    (firstKey models).apply .firstBytes {} 0 = some (firstDb models) := rfl

theorem mem_firstDb :
    (firstRow models).entry ∈ ((firstDb models).snapshot 2 0).keys := mem_singleton.2 rfl

theorem neverWidens_firstKey : NeverWidens ["gpt-4o", "o3"] [] (firstRow ["gpt-4o", "o3"]).entry :=
  (neverWidens_iff_holdsPieces (apply_firstKey ["gpt-4o", "o3"]) mem_firstDb rfl).2 (by decide)

/-- A key for the models `[""]` is sent with no list, so that it may use any model. -/
theorem emptyName_unrestricted : (firstKey [""]).apply .firstBytes {} 0 = some (firstDb [""]) ∧
      (firstRow [""]).entry ∈ ((firstDb [""]).snapshot 2 0).keys ∧
      ¬ NeverWidens [""] [] (firstRow [""]).entry := by
  refine ⟨rfl, mem_firstDb, fun h => ?_⟩
  have hl : (firstRow [""]).entry.allowedModels ≠ [] := h.2.1.1 (cons_ne_nil _ _)
  exact hl (by decide)

end Portus.StoredLists

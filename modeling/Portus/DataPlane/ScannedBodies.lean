import Portus.DataPlane.Bodies
import Portus.DataPlane.ScannedDocuments

/-!
# The body of a request that is a document

What `scan_body` makes of a body that is a JSON document: it refuses it when more than the limit
has come with the byte that settles the scan (`scanBody_eq`), and otherwise sends the frames on as
they came. What the allow lists then judge is the plain reading of the document (`plainAccess`):
members by the first of their name that is written without escapes.
-/

namespace Portus.DataPlane.Ai

open Lib Lib.JsonText Scan FieldScanner List Option

section

variable {s₀ : FieldScanner} {values : List (String × Scalar)} {p : Progress} {l : List UInt8}
  {b : UInt8}

section

variable (h : reader.Settles Done (· = s₀) l b (· = finished s₀ values p))

include h

theorem progress_before
    {frames : List (List UInt8)} (hf : frames.flatten <+: l) :
    (frames.foldl feed s₀).progress = .needMore := by
  obtain ⟨rest, hr⟩ := hf
  have hb := h.before
  rw [← hr] at hb
  exact not_not.1 ((not_done_of_append hb).feed_foldl rfl rfl)

theorem foldl_of_settled
    {frames : List (List UInt8)} (hf : l ++ [b] <+: frames.flatten) :
    frames.foldl feed s₀ = finished s₀ values p := by
  obtain ⟨rest, hr⟩ := hf
  exact (h.after.append reads_finished).feed_foldl rfl hr.symm

theorem readFrames_from
    (hp : p ≠ .needMore) (maxBytes : Nat) (before after : List (List UInt8))
    (hbyte : before.flatten ++ after.flatten = l ++ b :: r)
    (hless : before.flatten.length ≤ l.length) :
    readFrames maxBytes (before.foldl feed s₀) before before.flatten.length after =
      if before.flatten.length + lengthUpTo (l.length + 1 - before.flatten.length) after ≤ maxBytes
      then .ok (finished s₀ values p, before ++ after) else .error 413 := by
  induction after generalizing before with
  | nil =>
    have hlen := congrArg List.length hbyte
    simp only [flatten_nil, append_nil, length_append, length_cons] at hlen
    omega
  | cons frame after ih =>
    have hfe : (before.foldl feed s₀).feed frame = (before ++ [frame]).foldl feed s₀ := by
      rw [foldl_append]
      rfl
    have hfl : (before ++ [frame]).flatten = before.flatten ++ frame := by simp
    have hlen : (before ++ [frame]).flatten.length = before.flatten.length + frame.length := by
      rw [hfl, length_append]
    have hbytes' : (before ++ [frame]).flatten ++ after.flatten = l ++ b :: r := by
      rwa [hfl, append_assoc]
    rw [readFrames, hfe]
    by_cases hla : l.length + 1 - before.flatten.length ≤ frame.length
    · -- this frame brings the byte that settles the scan
      have hs : l ++ [b] <+: (before ++ [frame]).flatten := by
        refine List.prefix_of_prefix_length_le ⟨r, by simp⟩ ⟨after.flatten, hbytes'⟩ ?_
        rw [length_append, length_singleton]
        omega
      have hd : ¬ (finished s₀ values p).progress = .needMore := hp
      rw [foldl_of_settled h hs, lengthUpTo, if_pos hla]
      by_cases hm : before.flatten.length + frame.length ≤ maxBytes
      · rw [if_neg (Nat.not_lt.2 hm), if_pos hm, if_neg hd, append_assoc]
        rfl
      · rw [if_pos (Nat.lt_of_not_le hm), if_neg hm]
    · have hw : (before ++ [frame]).flatten <+: l := by
        refine List.prefix_of_prefix_length_le ⟨after.flatten, hbytes'⟩ ⟨b :: r, rfl⟩ ?_
        omega
      have hless' : (before ++ [frame]).flatten.length ≤ l.length := hw.length_le
      have hih := ih (before ++ [frame]) hbytes' hless'
      rw [hlen, append_assoc] at hih
      rw [progress_before h hw, lengthUpTo, if_neg hla, hih]
      by_cases hm : before.flatten.length + frame.length ≤ maxBytes
      · rw [if_neg (Nat.not_lt.2 hm), ← Nat.sub_sub, ← Nat.add_assoc]
        rfl
      · rw [if_pos (Nat.lt_of_not_le hm), if_neg (by omega)]

end

end

theorem readFrames_document (hkeys : need.keys ≠ [])
    (hd : d.bytes = frames.flatten) :
    readFrames need.maxBytes (bodyScanner need) [] 0 frames =
      if lengthUpTo (settledAt need.keys d) frames ≤ need.maxBytes
      then .ok (scanned (bodyScanner need) d.tree, frames) else .error 413 := by
  have hkeys' : (bodyScanner need).keys ≠ [] := hkeys
  obtain ⟨l, b, r, hsp, hl, hse⟩ := settles_document hkeys'
  have hst : ∀ ⦃s⦄, s = bodyScanner need → At (bodyScanner need) [] none .start s := by
    rintro _ rfl
    exact ⟨[], rfl⟩
  obtain ⟨values, p, hsc, hp⟩ : ∃ values p,
      scanned (bodyScanner need) d.tree = finished (bodyScanner need) values p ∧ p ≠ .needMore := by
    cases d.tree <;> exact ⟨_, _, rfl, by decide⟩
  have hf := hse.mono hst fun _ hs => hs
  rw [hsc] at hf
  have hr := readFrames_from hf hp need.maxBytes [] frames (hd ▸ hsp) (Nat.zero_le _)
  rw [show settledAt need.keys d = l.length + 1 from hl.symm, hsc]
  simpa using hr

def treeText : Tree → Option String
  | .null => some "null"
  | .bool b => some (if b then "true" else "false")
  | .number n => some n.text
  | .string s => some (Str.text s)
  | _ => none

def treeString : Tree → Option String
  | .string s => some (Str.text s)
  | _ => none

def plainTool (t : Tree) : Option String :=
  (firstPlain "params" t).bind fun params =>
    if params.bytes.length ≤ paramsCaptureLimit then (firstPlain "name" params).bind treeString
    else none

def plainAccess (dialect : Dialect) (t : Tree) : Access :=
  match dialect with
  | .mcp =>
    if (firstPlain "method" t).bind treeText = some "tools/call" then .toolCall (plainTool t)
    else .other
  | _ => .model ((firstPlain "model" t).bind treeText)

theorem scalarText_scalar : scalarText (scalar cfg t) = treeText t := by
  have hc (c : Bool) (bytes : List UInt8) :
      scalarText (if c then .raw bytes else .compound) = none := by cases c <;> rfl
  cases t with
  | null | bool _ | number _ | string _ => rfl
  | emptyArray _ | array _ | emptyObject _ | object _ => exact hc _ _

theorem asStr_scalar : (scalar cfg t).asStr = treeString t := by
  have hc (c : Bool) (bytes : List UInt8) :
      (if c then Scalar.raw bytes else .compound).asStr = none := by cases c <;> rfl
  cases t with
  | null | bool _ | number _ | string _ => rfl
  | emptyArray _ | array _ | emptyObject _ | object _ => exact hc _ _

theorem toolName_bytes : toolName t.bytes = (firstPlain "name" t).bind treeString := by
  have hr : reader.Reads (At nameScanner [] none .start) (Document.bytes { tree := t })
      (· = scanned nameScanner t) :=
    reads_document (cons_ne_nil _ _) { tree := t }
  have hfe : nameScanner.feed t.bytes = scanned nameScanner t := by
    have hc : [t.bytes].flatten = Document.bytes { tree := t } := by simp [Document.bytes]
    exact hr.feed_foldl ⟨[], rfl⟩ hc
  have hg : (scanned nameScanner t).get "name" = (firstPlain "name" t).map (scalar nameScanner) :=
    get_scanned (mem_singleton_self _)
  have hfi : ((scanned nameScanner t).get "name").bind Scalar.asStr =
      (firstPlain "name" t).bind treeString := by
    rw [hg, bind_map]
    simp [asStr_scalar]
  rw [toolName, hfe, hfi]
  cases t with
  | object _ | emptyObject _ => rfl
  | null | bool _ | number _ | string _ | emptyArray _ | array _ => rfl

theorem find_filterMap {p : β → Bool} {l : List α} (ha : a ∈ l)
    (ho : ∀ x ∈ l, (f x).any p = true → x = a) : (l.filterMap f).find? p = (f a).filter p := by
  rw [find?_filterMap]
  cases hf : l.find? fun x => (f x).any p with
  | none =>
    have hn := find?_eq_none.1 hf a ha
    cases hfa : f a with
    | none => rfl
    | some b =>
      have hb : ¬ p b = true := by simpa [hfa] using hn
      exact (if_neg hb).symm
  | some x =>
    have hx := find?_some hf
    obtain rfl := ho x (mem_of_find?_eq_some hf) hx
    cases hfa : f x with
    | none => simp [hfa] at hx
    | some b =>
      have hb : p b = true := by simpa [hfa] using hx
      exact hfa.trans (if_pos hb).symm

section

variable {toJson : String → String} {s : FieldScanner}

theorem scannedField_name (h : scannedField toJson s key = some entry) :
    entry.1 = key ∨ (key = "params" ∧ entry.1 = "tool") := by
  unfold scannedField at h
  split at h
  · cases h
  · cases h
    exact .inl rfl
  · split at h
    · next hp =>
      obtain ⟨tool, -, rfl⟩ := map_eq_some_iff.1 h
      exact .inr ⟨hp, rfl⟩
    · cases h
  · obtain ⟨text, -, rfl⟩ := map_eq_some_iff.1 h
    exact .inl rfl

theorem field_eq (hk : key ∈ aiBodyKeys)
    (ho : ∀ x ∈ aiBodyKeys, x = name ∨ x = "params" ∧ name = "tool" → x = key) :
    field (some (bodyFieldsFrom toJson s aiBodyNeed)) name =
      ((scannedField toJson s key).filter (·.1 == name)).map (·.2) := by
  have hf : (bodyFieldsFrom toJson s aiBodyNeed).find? (·.1 == name) =
      (scannedField toJson s key).filter (·.1 == name) := by
    refine find_filterMap hk fun x hm hx => ho x hm ?_
    obtain ⟨entry, he, hn⟩ := (Option.any_eq_true _ _).1 hx
    rw [← eq_of_beq hn]
    exact (scannedField_name he).imp_left Eq.symm
  exact congrArg (Option.map (·.2)) hf

theorem field_text (hk : key ∈ aiBodyKeys) (hid : key ≠ "id") (hp : key ≠ "params")
    (ht : key ≠ "tool") :
    field (some (bodyFieldsFrom toJson s aiBodyNeed)) key = (s.get key).bind scalarText := by
  rw [field_eq hk fun x _ hx => hx.resolve_right fun h => ht h.2]
  unfold scannedField
  cases s.get key with
  | none => rfl
  | some value => cases value <;> simp [hid, hp, scalarText, Option.filter]

def capturedTool : Scalar → Option String
  | .raw raw => toolName raw
  | _ => none

theorem field_tool : field (some (bodyFieldsFrom toJson s aiBodyNeed)) "tool" =
      (s.get "params").bind capturedTool := by
  have hno : "tool" ∉ aiBodyKeys := by decide
  rw [field_eq (by decide : "params" ∈ aiBodyKeys) fun x hm hx =>
    (hx.resolve_left fun h : x = "tool" => hno (h ▸ hm)).1]
  unfold scannedField
  cases s.get "params" with
  | none => rfl
  | some value =>
    cases value with
    | raw raw => cases ht : toolName raw <;> simp [ht, capturedTool, Option.filter]
    | str _ | bool _ | null | num _ | compound => simp [capturedTool, scalarText, Option.filter]

end

theorem capturedTool_scalar :
    capturedTool (scalar (bodyScanner need) params) =
      if params.bytes.length ≤ paramsCaptureLimit then (firstPlain "name" params).bind treeString
      else none := by
  have hc : capturedTool (if (bodyScanner need).captureCompound &&
          decide (params.bytes.length ≤ (bodyScanner need).captureLimit)
        then .raw params.bytes else .compound) =
      if params.bytes.length ≤ paramsCaptureLimit then (firstPlain "name" params).bind treeString
      else none := by
    have hl : ((bodyScanner need).captureCompound &&
        decide (params.bytes.length ≤ (bodyScanner need).captureLimit)) =
        decide (params.bytes.length ≤ paramsCaptureLimit) := Bool.true_and _
    rw [hl]
    by_cases hf : params.bytes.length ≤ paramsCaptureLimit
    · rw [if_pos hf, if_pos (decide_eq_true hf)]
      exact toolName_bytes
    · rw [if_neg hf, if_neg (by simpa using hf)]
      rfl
  cases params with
  | null | bool _ | number _ | string _ => exact (ite_self none).symm
  | emptyArray _ | array _ | emptyObject _ | object _ => exact hc

theorem accessOf_scanned (toJson : String → String) :
    accessOf dialect (some (bodyFieldsFrom toJson (scanned (bodyScanner aiBodyNeed) t)
      aiBodyNeed)) = plainAccess dialect t := by
  have hg {key : String} (hk : key ∈ aiBodyKeys) : (scanned (bodyScanner aiBodyNeed) t).get key =
        (firstPlain key t).map (scalar (bodyScanner aiBodyNeed)) := get_scanned hk
  have hte {key : String} (hk : key ∈ aiBodyKeys) (hid : key ≠ "id") (hp : key ≠ "params")
      (hto : key ≠ "tool") :
      field (some (bodyFieldsFrom toJson (scanned (bodyScanner aiBodyNeed) t) aiBodyNeed)) key =
        (firstPlain key t).bind treeText := by
    rw [field_text hk hid hp hto, hg hk, bind_map]
    simp [scalarText_scalar]
  have hmo := hte (by decide : "model" ∈ aiBodyKeys) (by decide) (by decide) (by decide)
  have hme := hte (by decide : "method" ∈ aiBodyKeys) (by decide) (by decide) (by decide)
  have hto : field (some (bodyFieldsFrom toJson (scanned (bodyScanner aiBodyNeed) t)
      aiBodyNeed)) "tool" = plainTool t := by
    rw [field_tool, hg (by decide), bind_map]
    simp only [Function.comp_def, capturedTool_scalar]
    rfl
  cases dialect with
  | mcp => simp only [accessOf, plainAccess, hme, hto]
  | anthropic | openAi => simp only [accessOf, plainAccess, hmo]

end Portus.DataPlane.Ai

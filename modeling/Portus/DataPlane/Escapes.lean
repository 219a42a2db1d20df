import Portus.DataPlane.Scan
import Portus.Lib.JsonText

/-!
# Strings of a document

What the scanner makes of a string that a document holds: `unescape` decodes it as any parser does
(`unescape_bytes`), and a key is recognised when it is written without escapes (`wantedKey_bytes`).
-/

namespace Portus.DataPlane.Scan

open Lib.JsonText List Option String

theorem fromUtf8_encode :
    fromUtf8 (cs.flatMap utf8EncodeChar) = some (ofList cs) := by
  have hv : (cs.flatMap utf8EncodeChar).toByteArray.IsValidUTF8 := .intro cs rfl
  rw [fromUtf8, fromUTF8?, dif_pos hv]
  exact congrArg some (toByteArray_inj.1 toByteArray_ofList.symm)

theorem utf8_ofList : (ofList cs).toUTF8.data.toList = cs.flatMap utf8EncodeChar := by
  show (ofList cs).toByteArray.data.toList = _
  rw [toByteArray_ofList]
  simp [List.utf8Encode]

theorem hexDigit_byte (d : HexDigit) : hexDigit d.byte = some d.value.val := by
  obtain ⟨value, upper⟩ := d
  revert value upper
  decide

theorem byte_ne_plus (d : HexDigit) : d.byte ≠ '+'.toUInt8 := by
  obtain ⟨value, upper⟩ := d
  revert value upper
  decide

theorem fromHex_bytes (h : Hex4) : fromHex h.a.byte h.b.byte h.c.byte h.d.byte = some h.code := by
  simp [fromHex, byte_ne_plus, hexDigit_byte, Hex4.code]

theorem charFromU32_pair (hh : 0xD800 ≤ high ∧ high < 0xDC00)
    (hl : 0xDC00 ≤ low ∧ low < 0xE000) :
    charFromU32 (0x10000 + (high - 0xD800) * 0x400 + (low - 0xDC00)) =
      some (Char.ofNat (0x10000 + (high - 0xD800) * 0x400 + (low - 0xDC00))) := by
  have hv : (0x10000 + (high - 0xD800) * 0x400 + (low - 0xDC00)).isValidChar := by
    right
    omega
  exact if_pos hv

theorem unescapeBytes_append (hl : '\\'.toUInt8 ∉ l) (rest : List UInt8) :
    unescapeBytes (l ++ rest) = (unescapeBytes rest).map (l ++ ·) := by
  induction l with
  | nil => simp
  | cons b l ih =>
    obtain ⟨hb, hl⟩ : b ≠ '\\'.toUInt8 ∧ '\\'.toUInt8 ∉ l := by
      simpa [eq_comm] using hl
    rw [cons_append, unescapeBytes.eq_def]
    simp only [if_neg hb, ih hl]
    cases unescapeBytes rest <;> rfl

theorem backslash_not_mem_plain (hc : c ≠ '\\') : '\\'.toUInt8 ∉ utf8EncodeChar c :=
  fun h => hc (eq_of_toUInt8_mem (by decide) h)

theorem unescapeBytes_item (i : Item) : unescapeBytes (i.bytes ++ rest) =
      (unescapeBytes rest).map (utf8EncodeChar i.char ++ ·) := by
  cases i with
  | plain c _ _ hc => exact unescapeBytes_append (backslash_not_mem_plain hc) rest
  | escape e =>
    simp only [Item.bytes, Item.char, cons_append, nil_append]
    rw [unescapeBytes.eq_def]
    have hne : e.byte ≠ 'u'.toUInt8 := by cases e <;> decide
    have hes : escaped e.byte = some e.char.toUInt8 := by cases e <;> decide
    have hen : utf8EncodeChar e.char = [e.char.toUInt8] := by cases e <;> decide
    simp only [if_true, if_neg hne, hes, hen]
    cases unescapeBytes rest <;> rfl
  | unicode h hv =>
    have hs : ¬ (0xD800 ≤ h.code ∧ h.code < 0xDC00) := by
      rcases hv with h | h <;> omega
    simp only [Item.bytes, Item.char, Hex4.bytes, cons_append, nil_append]
    rw [unescapeBytes]
    simp only [if_true, fromHex_bytes, bind_eq_bind, bind_some, if_neg hs, charFromU32, if_pos hv]
    cases unescapeBytes rest <;> rfl
  | pair hi low hh hl =>
    simp only [Item.bytes, Item.char, Hex4.bytes, cons_append, nil_append]
    rw [unescapeBytes]
    simp only [if_true, fromHex_bytes, bind_eq_bind, bind_some, if_pos hh,
      and_self, if_pos hl, charFromU32_pair hh hl]
    cases unescapeBytes rest <;> rfl

theorem unescapeBytes_bytes :
    unescapeBytes (Str.bytes s) = some ((s.map Item.char).flatMap utf8EncodeChar) := by
  induction s with
  | nil => rfl
  | cons i s ih =>
    show unescapeBytes (i.bytes ++ Str.bytes s) = _
    rw [unescapeBytes_item, ih]
    rfl

theorem unescape_bytes : unescape (Str.bytes s) = some (Str.text s) := by
  unfold unescape
  split
  · rw [unescapeBytes_bytes]
    exact fromUtf8_encode
  · next hp =>
    -- without a backslash the bytes are the text already
    have hs := unescapeBytes_append hp []
    rw [append_nil, unescapeBytes_bytes] at hs
    obtain hb : (s.map Item.char).flatMap utf8EncodeChar = Str.bytes s := by
      simpa [unescapeBytes] using hs
    rw [← hb]
    exact fromUtf8_encode

theorem backslash_mem_bytes : '\\'.toUInt8 ∈ Str.bytes s ↔ s.all Item.isPlain = false := by
  rw [List.all_eq_false, Str.bytes, mem_flatMap]
  refine exists_congr fun i => and_congr_right fun _ => ?_
  cases i with
  | plain c _ _ hc => exact iff_of_false (backslash_not_mem_plain hc) (by simp [Item.isPlain])
  | escape e | unicode h _ | pair hi low _ _ =>
    exact iff_of_true (mem_cons_self ..) Bool.false_ne_true

theorem bytes_of_plain (h : s.all Item.isPlain = true) :
    Str.bytes s = (Str.text s).toUTF8.data.toList := by
  rw [Str.text, utf8_ofList, flatMap_map]
  refine flatMap_congr fun i hi => ?_
  cases i with
  | plain c _ _ _ => rfl
  | escape e | unicode h' _ | pair hig low _ _ =>
    exact absurd (List.all_eq_true.1 h _ hi) Bool.false_ne_true

theorem utf8_inj {t : String} : s.toUTF8.data.toList = t.toUTF8.data.toList ↔ s = t := by
  refine ⟨fun h => ?_, fun h => h ▸ rfl⟩
  exact toByteArray_inj.1 (ByteArray.ext (Array.toList_inj.1 h))

def wanted (keys seen : List String) (name : Str) : Option String :=
  (Str.plainText name).filter fun k => decide (k ∈ keys) && decide (k ∉ seen)

theorem wantedKey_bytes {s : FieldScanner} (h : s.token = Str.bytes name) :
    s.wantedKey = wanted s.keys (s.values.map (·.1)) name := by
  rw [FieldScanner.wantedKey, wanted, Str.plainText, h]
  by_cases hp : name.all Item.isPlain = true
  · rw [if_neg (by simp [backslash_mem_bytes, hp]), if_pos hp, bytes_of_plain hp]
    simp only [utf8_inj]
    -- the only key that can be found is the text itself
    cases hf : s.keys.find? (fun k => decide (k = Str.text name)) with
    | none =>
      have hm : Str.text name ∉ s.keys := by
        intro hm
        simpa using find?_eq_none.1 hf _ hm
      simp [Option.filter, hm]
    | some k =>
      obtain rfl : k = Str.text name := by simpa using find?_some hf
      have hm : Str.text name ∈ s.keys := mem_of_find?_eq_some hf
      simp only [Option.filter, hm, decide_true, Bool.true_and]
  · rw [if_pos (by simpa [backslash_mem_bytes] using hp), if_neg hp]
    rfl

end Portus.DataPlane.Scan

import Mathlib.Data.List.Nodup
import Mathlib.Data.List.Perm.Subperm
import Portus.DataPlane.ScannedValues

/-!
# The scanner on a document

On an object the scanner records the first member of each wanted key that is written without
escapes (`get_scanned`), and nothing on any other document. It is done with the byte `settledAt`
counts (`settles_document`): the one that ends the value of the last key it misses, else the one
that closes the object.
-/

namespace Portus.DataPlane.Scan

open Lib Lib.JsonText FieldScanner List Option

variable {cfg : FieldScanner} {values : List (String × Scalar)}

def skipsWs : State → Bool
  | .start | .expectKey | .expectColon | .expectValue | .afterValue => true
  | _ => false

theorem isWs_of_isWhitespace (h : IsWhitespace b) : isWs b = true := by
  rcases h with rfl | rfl | rfl | rfl <;> decide

theorem reads_whitespace {current : Option String} {state : State} (hs : skipsWs state = true)
    (w : Whitespace) :
    reader.Reads (At cfg values current state) w.bytes (At cfg values current state) := by
  have hba : ∀ w k, state ≠ .inBare w k := by
    rintro w k rfl
    cases hs
  refine .loop (unmarked_at hba) fun b hb => ?_
  rintro _ ⟨token, rfl⟩
  have hws := isWs_of_isWhitespace (w.white b hb)
  refine ⟨token, ?_⟩
  show FieldScanner.step _ b = _
  cases state with
  | start | expectKey | expectColon | expectValue | afterValue =>
    simp [step, afterValue, hws]
  | inKey _ | inString _ _ | inBare _ _ | inNested _ _ _ | done _ => cases hs

theorem reads_byte {current : Option String} {state : State} (hs : skipsWs state = true)
    (hs' : ∀ ⦃s⦄, At cfg values current state s → Q (s.step b)) (hQ : reader.Unmarked Q) :
    reader.Reads (At cfg values current state) [b] Q := by
  refine .single (unmarked_at ?_) hs' hQ
  rintro w k rfl
  cases hs

def inKeyAt (cfg : FieldScanner) (values : List (String × Scalar)) (token : List UInt8)
    (escaped : Bool) : FieldScanner :=
  { cfg with values, current := none, state := .inKey escaped, token, capturing := none }

theorem step_inKeyAt (token : List UInt8) (e : Bool) (b : UInt8) (e' : Bool)
    (h : stringStep e b = some e') :
    (inKeyAt cfg values token e).step b = inKeyAt cfg values (token ++ [b]) e' := by
  simp only [step, inKeyAt, stringPart_of_stringStep h]

theorem reads_name : reader.Reads (At cfg values none .expectKey) (Str.quoted name)
      (At cfg values (wanted cfg.keys (values.map (·.1)) name) .expectColon) := by
  have hb : ∀ ⦃s⦄, At cfg values none .expectKey s →
      s.step '"'.toUInt8 = inKeyAt cfg values [] false := by
    rintro _ ⟨token, rfl⟩
    rfl
  have hclose : ∀ ⦃s⦄, s = inKeyAt cfg values (Str.bytes name) false →
      At cfg values (wanted cfg.keys (values.map (·.1)) name) .expectColon
        (s.step '"'.toUInt8) := by
    rintro _ rfl
    have hkey : (inKeyAt cfg values (Str.bytes name) false).wantedKey =
        wanted cfg.keys (values.map (·.1)) name := wantedKey_bytes rfl
    exact ⟨Str.bytes name, by rw [← hkey]; rfl⟩
  exact .cons (unmarked_at (by simp)) hb <|
    .append (.embed (fun _ _ => rfl) step_inKeyAt (foldlM_str name) [])
      (.single (.of_eq rfl) hclose (unmarked_at (by simp)))

theorem reads_label (l : Label) : reader.Reads (At cfg values none .expectKey) l.bytes
      (At cfg values (wanted cfg.keys (values.map (·.1)) l.name) .expectValue) := by
  have hco : ∀ {key : Option String} ⦃s⦄, At cfg values key .expectColon s →
      At cfg values key .expectValue (s.step ':'.toUInt8) := by
    rintro key _ ⟨token, rfl⟩
    exact ⟨token, rfl⟩
  refine .append (reads_whitespace rfl l.before) (.append reads_name ?_)
  refine .append (reads_whitespace rfl l.after) ?_
  exact .cons (unmarked_at (by simp)) (fun _ hs => hco hs) (reads_whitespace rfl l.gap)

section

variable {key : Option String} (hopen : values.length < cfg.keys.length)
  (hkey : ∀ k, key = some k → k ∉ values.map (·.1))
  (t : Tree) {c : UInt8}
  (hc : isBareEnd c = true)

theorem exists_split (t : Tree) :
    ∃ r, t.bytes ++ c :: rest = lead t ++ (closer t).getD c :: r := by
  rw [bytes_eq_lead]
  cases closer t with
  | none => exact ⟨rest, by simp⟩
  | some b => exact ⟨c :: rest, by simp⟩

include hopen hkey hc

theorem settles_value (hal : (recorded cfg values key t).length = cfg.keys.length) :
    reader.Settles Done (At cfg values key .expectValue) (lead t) ((closer t).getD c)
      (· = finished cfg (recorded cfg values key t) .complete) := by
  obtain ⟨M, h⟩ := exists_readsValue hopen hkey
  have haf : ∀ ⦃s⦄, After cfg (recorded cfg values key t) s →
      s = finished cfg (recorded cfg values key t) .complete := by
    intro s hs
    unfold After at hs
    rwa [if_pos hal] at hs
  refine .of_step h.reads h.not_done h.unmarked ?_ (.of_eq rfl)
  intro s hs
  cases hcl : closer t with
  | some b => exact haf (h.closes b hcl hs)
  | none =>
    obtain ⟨s', hs', hst⟩ := h.ends hcl c hc hs
    show s.step c = _
    rw [hst, haf hs']
    rfl

theorem reads_value_append
    (hr : reader.Reads (After cfg (recorded cfg values key t)) (c :: rest) Q) :
    reader.Reads (At cfg values key .expectValue) (t.bytes ++ c :: rest) Q := by
  obtain ⟨M, h⟩ := exists_readsValue hopen hkey
  have hu : reader.Unmarked (After cfg (recorded cfg values key t)) := by
    unfold After
    split
    · exact .of_eq rfl
    · exact unmarked_at (by simp)
  rw [bytes_eq_lead]
  cases hcl : closer t with
  | some b =>
    exact .append (.append h.reads (.single h.unmarked (h.closes b hcl) hu)) hr
  | none =>
    rw [toList_none, append_nil]
    refine .append h.reads (.cons h.unmarked ?_ hr.tail)
    intro s hs
    exact h.ends hcl c hc hs

end

theorem wanted_eq_some {keys : List String} :
    wanted keys seen name = some k ↔ Str.plainText name = some k ∧ k ∈ keys ∧ k ∉ seen := by
  simp [wanted, filter_eq_some_iff]

theorem not_mem_of_wanted {names : List String} (k : String) (h : wanted names seen name = some k) :
    k ∉ seen :=
  (wanted_eq_some.1 h).2.2

/-- What is recorded with one more member. -/
abbrev added (cfg : FieldScanner) (values : List (String × Scalar)) (name : Str) (t : Tree) :
    List (String × Scalar) :=
  recorded cfg values (wanted cfg.keys (values.map (·.1)) name) t

/-- What has been found: values of wanted keys, one for each. -/
structure Found (keys : List String) (values : List (String × Scalar)) : Prop where
  nodup : (values.map (·.1)).Nodup
  subset : values.map (·.1) ⊆ keys

theorem map_fst_recorded (cfg : FieldScanner) (t : Tree) :
    (recorded cfg values key t).map (·.1) = values.map (·.1) ++ key.toList := by
  cases key <;> simp [recorded]

namespace Found

variable {keys : List String}

theorem length_le (h : Found keys values) : values.length ≤ keys.length := by
  have hs := (subperm_of_subset h.nodup h.subset).length_le
  rwa [length_map] at hs

theorem recorded (h : Found cfg.keys values) (name : Str) (t : Tree) :
    Found cfg.keys (recorded cfg values (wanted cfg.keys (values.map (·.1)) name) t) := by
  cases hkey : wanted cfg.keys (values.map (·.1)) name with
  | none => exact h
  | some k =>
    obtain ⟨-, hm, hn⟩ := wanted_eq_some.1 hkey
    constructor
    · rw [map_fst_recorded, toList_some]
      exact h.nodup.append (nodup_singleton k) (by simpa using hn)
    · rw [map_fst_recorded, toList_some]
      exact append_subset.2 ⟨h.subset, by simpa using hm⟩

theorem wanted_eq_none (h : Found keys values) (ha : values.length = keys.length) :
    wanted keys (values.map (·.1)) name = none := by
  rw [eq_none_iff_forall_ne_some]
  intro k hk
  obtain ⟨-, hm, hn⟩ := wanted_eq_some.1 hk
  have hp := (subperm_of_subset h.nodup h.subset).perm_of_length_le (by simp [ha])
  exact hn (hp.mem_iff.2 hm)

end Found

def readMembers (cfg : FieldScanner) (values : List (String × Scalar))
    (members : List (Str × Tree)) : List (String × Scalar) :=
  members.foldl (fun values m =>
    recorded cfg values (wanted cfg.keys (values.map (·.1)) m.1) m.2) values

theorem readMembers_of_all (h : Found cfg.keys values) (ha : values.length = cfg.keys.length) :
    readMembers cfg values members = values := by
  induction members with
  | nil => rfl
  | cons m members ih =>
    show readMembers cfg (recorded cfg values (wanted cfg.keys (values.map (·.1)) m.1) m.2) members =
      _
    rwa [h.wanted_eq_none ha]

/-- How many bytes of the members are read, with the brace that closes them. -/
def settledIn (keys seen : List String) : Members → Nat
  | .last label t after =>
    if (seen ++ (wanted keys seen label.name).toList).length = keys.length then
      label.bytes.length + (lead t).length + 1
    else label.bytes.length + (t.bytes.length + after.bytes.length) + 1
  | .cons label t after rest =>
    if (seen ++ (wanted keys seen label.name).toList).length = keys.length then
      label.bytes.length + (lead t).length + 1
    else
      label.bytes.length + (t.bytes.length + after.bytes.length) + 1 +
        settledIn keys (seen ++ (wanted keys seen label.name).toList) rest

theorem not_done_of_append (h : reader.Reads P (l ++ l') fun s => ¬ Done s) :
    reader.Reads P l fun s => ¬ Done s := by
  intro s hs input hi hd
  have hm : (input ++ l'.map some).reduceOption = l ++ l' := by
    rw [reduceOption_append, hi]
    simp [List.reduceOption]
  refine h hs (input ++ l'.map some) hm ?_
  rw [foldl_append]
  generalize input.foldl reader.advance s = s₁ at hd
  clear h hi hm
  induction l' generalizing s₁ with
  | nil => exact hd
  | cons b l' ih =>
    refine ih _ ?_
    show Done (s₁.step b)
    unfold Done progress at hd ⊢
    cases hst : s₁.state with
    | done p =>
      have hsa : s₁.step b = s₁ := by simp only [step, hst]
      rwa [hsa]
    | _ => simp [hst] at hd

section

variable (hopen : values.length < cfg.keys.length)
  (label : Label) (t : Tree)
  (after : Whitespace)

theorem exists_bareEnd (hs : sep = ','.toUInt8 ∨ sep = '}'.toUInt8) (rest : List UInt8) :
    ∃ c r, after.bytes ++ sep :: rest = c :: r ∧ isBareEnd c = true := by
  cases ha : after.bytes with
  | nil =>
    refine ⟨sep, rest, rfl, ?_⟩
    rcases hs with rfl | rfl <;> decide
  | cons c r =>
    refine ⟨c, r ++ sep :: rest, rfl, ?_⟩
    have hws := isWs_of_isWhitespace (after.white c (ha ▸ mem_cons_self ..))
    simp [isBareEnd, hws]

include hopen

theorem settles_member
    (ha : (added cfg values label.name t).length =
      cfg.keys.length) (hse : sep = ','.toUInt8 ∨ sep = '}'.toUInt8) (rest : List UInt8) :
    ∃ l b r, label.bytes ++ (t.bytes ++ (after.bytes ++ sep :: rest)) = l ++ b :: r ∧
      l.length = label.bytes.length + (lead t).length ∧
      reader.Settles Done (At cfg values none .expectKey) l b (· = finished cfg
        (added cfg values label.name t) .complete) := by
  obtain ⟨c, r, ht, hc⟩ := exists_bareEnd after hse rest
  obtain ⟨r', hsp⟩ := exists_split t
  refine ⟨label.bytes ++ lead t, (closer t).getD c, r', ?_, length_append, ?_⟩
  · rw [ht, hsp, append_assoc]
  · exact .prepend (reads_label label) (settles_value hopen not_mem_of_wanted t hc ha)

section

variable (hl : (added cfg values label.name t).length <
  cfg.keys.length)

include hl

theorem reads_member (hse : sep = ','.toUInt8 ∨ sep = '}'.toUInt8) (hQ : reader.Unmarked Q)
    (hst : ∀ ⦃s⦄, At cfg
      (added cfg values label.name t) none .afterValue s →
      Q (s.step sep)) :
    reader.Reads (At cfg values none .expectKey)
      (label.bytes ++ (t.bytes ++ (after.bytes ++ [sep]))) Q := by
  obtain ⟨c, r, ht, hc⟩ := exists_bareEnd after hse []
  have hr : reader.Reads (After cfg
      (added cfg values label.name t)) (c :: r) Q := by
    rw [← ht]
    refine (Reader.Reads.append (reads_whitespace rfl after) (reads_byte rfl hst hQ)).mono ?_
      fun _ hs => hs
    intro s hs
    unfold After at hs
    rwa [if_neg (Nat.ne_of_lt hl)] at hs
  rw [ht]
  exact .append (reads_label label) (reads_value_append hopen not_mem_of_wanted t hc hr)

theorem reads_member_comma : reader.Reads (At cfg values none .expectKey)
      (label.bytes ++ (t.bytes ++ (after.bytes ++ [','.toUInt8])))
      (At cfg (added cfg values label.name t) none
        .expectKey) := by
  refine reads_member hopen label t after hl (.inl rfl) (unmarked_at (by simp)) ?_
  rintro _ ⟨token, rfl⟩
  exact ⟨token, rfl⟩

theorem settles_member_brace : reader.Settles Done (At cfg values none .expectKey)
      (label.bytes ++ (t.bytes ++ after.bytes)) '}'.toUInt8
      (· = finished cfg (added cfg values label.name t)
        .complete) where
  before := by
    -- a comma would still be read
    have hco : reader.Reads (At cfg values none .expectKey)
        (label.bytes ++ (t.bytes ++ after.bytes) ++ [','.toUInt8]) fun s => ¬ Done s := by
      rw [append_assoc, append_assoc]
      refine (reads_member_comma hopen label t after hl).mono (fun _ hs => hs) ?_
      rintro _ ⟨token, rfl⟩ hd
      exact hd rfl
    exact not_done_of_append hco
  after := by
    rw [append_assoc, append_assoc]
    refine reads_member hopen label t after hl (.inr rfl) (.of_eq rfl) ?_
    rintro _ ⟨token, rfl⟩
    rfl

end

end

theorem length_seen :
    (values.map (·.1) ++ key.toList).length = (recorded cfg values key t).length := by
  rw [← map_fst_recorded cfg t, length_map]

theorem settles_members :
    ∀ (ms : Members) (values : List (String × Scalar)), Found cfg.keys values →
      values.length < cfg.keys.length →
      ∃ l b r, ms.bytes ++ ['}'.toUInt8] = l ++ b :: r ∧
        l.length + 1 = settledIn cfg.keys (values.map (·.1)) ms ∧
        reader.Settles Done (At cfg values none .expectKey) l b
          (· = finished cfg (readMembers cfg values ms.toList) .complete)
  | .last label t after, values, hfound, hopen => by
    have hb : (Members.last label t after).bytes ++ ['}'.toUInt8] =
        label.bytes ++ (t.bytes ++ (after.bytes ++ ['}'.toUInt8])) := by
      rw [Members.bytes, append_assoc, append_assoc]
    rw [hb, settledIn, length_seen]
    by_cases ha : (added cfg values label.name t).length =
        cfg.keys.length
    · obtain ⟨l, b, r, hsp, hlen, hse⟩ :=
        settles_member hopen label t after ha (.inr rfl) []
      refine ⟨l, b, r, hsp, ?_, hse⟩
      rw [if_pos ha, hlen]
    · have hl := Nat.lt_of_le_of_ne (hfound.recorded label.name t).length_le ha
      refine ⟨_, _, [], ?_, ?_, settles_member_brace hopen label t after hl⟩
      · rw [append_assoc, append_assoc]
      · rw [if_neg ha, length_append, length_append]
  | .cons label t after rest, values, hfound, hopen => by
    have hb : (Members.cons label t after rest).bytes ++ ['}'.toUInt8] = label.bytes ++
        (t.bytes ++ (after.bytes ++ ','.toUInt8 :: (rest.bytes ++ ['}'.toUInt8]))) := by
      simp [Members.bytes]
    have hf := hfound.recorded label.name t
    rw [hb, settledIn, length_seen]
    by_cases ha : (added cfg values label.name t).length =
        cfg.keys.length
    · obtain ⟨l, b, r, hsp, hlen, hse⟩ :=
        settles_member hopen label t after ha (.inl rfl) (rest.bytes ++ ['}'.toUInt8])
      refine ⟨l, b, r, hsp, ?_, ?_⟩
      · rw [if_pos ha, hlen]
      · show reader.Settles _ _ _ _ (· = finished cfg (readMembers cfg _ rest.toList) _)
        rwa [readMembers_of_all hf ha]
    · have hl := Nat.lt_of_le_of_ne hf.length_le ha
      obtain ⟨l, b, r, hsp, hlen, hse⟩ := settles_members rest _ hf hl
      refine ⟨_, b, r, ?_, ?_, .prepend (reads_member_comma hopen label t after hl) hse⟩
      · rw [hsp]
        simp
      · rw [if_neg ha, ← map_fst_recorded cfg t]
        simp only [length_append, length_singleton]
        omega

def settledAt (keys : List String) (d : Document) : Nat :=
  d.before.bytes.length +
    match d.tree with
    | .object members => settledIn keys [] members + 1
    | .emptyObject inner => inner.bytes.length + 2
    | _ => 1

def scanned (cfg : FieldScanner) : Tree → FieldScanner
  | .object members => finished cfg (readMembers cfg [] members.toList) .complete
  | .emptyObject _ => finished cfg [] .complete
  | _ => finished cfg [] .invalid

theorem step_brace (hs : At cfg values none .start s) :
    At cfg values none .expectKey (s.step '{'.toUInt8) := by
  obtain ⟨token, rfl⟩ := hs
  exact ⟨token, rfl⟩

theorem settles_emptyObject (inner : Whitespace) :
    reader.Settles Done (At cfg values none .start) ('{'.toUInt8 :: inner.bytes) '}'.toUInt8
      (· = finished cfg values .complete) := by
  refine .of_step (.cons (unmarked_at (by simp)) (fun _ hs => step_brace hs)
    (reads_whitespace rfl inner)) ?_ (unmarked_at (by simp)) ?_ (.of_eq rfl)
  · rintro _ ⟨token, rfl⟩ hd
    exact hd rfl
  · rintro _ ⟨token, rfl⟩
    rfl

theorem settles_invalid (hws : isWs b = false) (hb : b ≠ '{'.toUInt8) :
    reader.Settles Done (At cfg values none .start) [] b (· = finished cfg values .invalid) := by
  refine .of_step (.nil (unmarked_at (by simp))) ?_ (unmarked_at (by simp)) ?_ (.of_eq rfl)
  · rintro _ ⟨token, rfl⟩ hd
    exact hd rfl
  · rintro _ ⟨token, rfl⟩
    simp only [reader, step, hws, hb, if_false, Bool.false_eq_true]
    rfl

theorem exists_first {t : Tree} (ho : ∀ ms, t ≠ .object ms)
    (hem : ∀ w, t ≠ .emptyObject w) :
    ∃ b rest, t.bytes = b :: rest ∧ isWs b = false ∧ b ≠ '{'.toUInt8 := by
  have hba {b : UInt8} (h : IsBareByte b) : isWs b = false ∧ b ≠ '{'.toUInt8 := by
    obtain ⟨⟨-, hl, -⟩, hen, -⟩ := h
    simp only [isBareEnd, Bool.or_eq_false_iff] at hen
    exact ⟨hen.2, hl⟩
  cases t with
  | null | string str | emptyArray inner | array elements => exact ⟨_, _, rfl, by decide, by decide⟩
  | bool v => cases v <;> exact ⟨_, _, rfl, by decide, by decide⟩
  | number n =>
    obtain ⟨first, rest, hby, -, ha⟩ := numberLike_bytes n
    have hf := ha first (hby ▸ mem_cons_self ..)
    exact ⟨first, rest, hby, hba (isBareByte_of_isNumberByte hf)⟩
  | emptyObject inner => exact absurd rfl (hem inner)
  | object members => exact absurd rfl (ho members)

theorem settles_tree (hk : cfg.keys ≠ []) :
    ∃ l b r, t.bytes ++ rest = l ++ b :: r ∧
      l.length + 1 = settledAt cfg.keys { tree := t } ∧
      reader.Settles Done (At cfg [] none .start) l b (· = scanned cfg t) := by
  have hot {t : Tree} (hob : ∀ ms, t ≠ .object ms) (he : ∀ w, t ≠ .emptyObject w)
      (hs' : settledAt cfg.keys { tree := t } = 1)
      (hsc : scanned cfg t = finished cfg [] .invalid) :
      ∃ l b r, t.bytes ++ rest = l ++ b :: r ∧ l.length + 1 = settledAt cfg.keys { tree := t } ∧
        reader.Settles Done (At cfg [] none .start) l b (· = scanned cfg t) := by
    obtain ⟨b, r, hby, hws, hbr⟩ := exists_first hob he
    rw [hs', hsc, hby]
    exact ⟨[], b, r ++ rest, rfl, rfl, settles_invalid hws hbr⟩
  cases t with
  | object members =>
    obtain ⟨l, b, r, hsp, hl, hse⟩ := settles_members members []
      ⟨nodup_nil, nil_subset cfg.keys⟩ (length_pos_iff.2 hk)
    refine ⟨'{'.toUInt8 :: l, b, r ++ rest, ?_, ?_, ?_⟩
    · rw [Tree.bytes, hsp]
      simp
    · simp [settledAt, hl, Whitespace.bytes_none]
    · exact .prepend (reads_byte rfl (fun _ hs => step_brace hs)
        (unmarked_at (by simp))) hse
  | emptyObject inner =>
    refine ⟨'{'.toUInt8 :: inner.bytes, '}'.toUInt8, rest, ?_, ?_, settles_emptyObject inner⟩
    · simp [Tree.bytes]
    · simp [settledAt, Whitespace.bytes_none]
  | null | bool _ | number _ | string _ | emptyArray _ | array _ =>
    exact hot (by simp) (by simp) rfl rfl

theorem settles_document (hk : cfg.keys ≠ []) :
    ∃ l b r, d.bytes = l ++ b :: r ∧ l.length + 1 = settledAt cfg.keys d ∧
      reader.Settles Done (At cfg [] none .start) l b (· = scanned cfg d.tree) := by
  obtain ⟨l, b, r, hsp, hl, hse⟩ := settles_tree hk
  refine ⟨d.before.bytes ++ l, b, r, ?_, ?_, .prepend (reads_whitespace rfl d.before) hse⟩
  · rw [Document.bytes, hsp, append_assoc]
  · simp only [settledAt, Whitespace.bytes_none, length_nil, Nat.zero_add] at hl ⊢
    rw [length_append, Nat.add_assoc, hl]

theorem reads_finished :
    reader.Reads (· = finished cfg values p) l (· = finished cfg values p) := by
  refine .loop (.of_eq rfl) fun b _ => ?_
  rintro _ rfl
  rfl

theorem reads_document (hk : cfg.keys ≠ []) (d : Document) :
    reader.Reads (At cfg [] none .start) d.bytes (· = scanned cfg d.tree) := by
  obtain ⟨l, b, r, hsp, -, hse⟩ := settles_document hk
  obtain ⟨values, p, hsc⟩ : ∃ values p, scanned cfg d.tree = finished cfg values p := by
    cases d.tree <;> exact ⟨_, _, rfl⟩
  have ha := hse.after
  rw [hsc] at ha ⊢
  rw [hsp, append_cons]
  exact ha.append reads_finished

/-- The value of the first member with a name that is written without escapes. -/
def firstPlain (name : String) (t : Tree) : Option Tree :=
  (t.members.find? fun m => Str.plainText m.1 = some name).map (·.2)

theorem find_recorded {key : String} (hkey : key ∈ cfg.keys) :
    (recorded cfg values (wanted cfg.keys (values.map (·.1)) name) t).find? (·.1 = key) =
      (values.find? (·.1 = key)).or
        (if Str.plainText name = some key then some (key, scalar cfg t) else none) := by
  cases hf : values.find? (·.1 = key) with
  | some v =>
    cases hw : wanted cfg.keys (values.map (·.1)) name with
    | none => exact hf
    | some k =>
      show (values ++ [_]).find? _ = _
      rw [find?_append, hf]
      rfl
  | none =>
    have hnew : key ∉ values.map (·.1) := by
      intro hm
      obtain ⟨v, hv, hv'⟩ := List.mem_map.1 hm
      simpa [hv'] using find?_eq_none.1 hf v hv
    split
    · next hna =>
      rw [wanted_eq_some.2 ⟨hna, hkey, hnew⟩]
      show (values ++ [_]).find? _ = _
      rw [find?_append, hf]
      simp
    · next hna =>
      cases hw : wanted cfg.keys (values.map (·.1)) name with
      | none => exact hf
      | some k =>
        have hne : k ≠ key := by
          rintro rfl
          exact hna (wanted_eq_some.1 hw).1
        show (values ++ [_]).find? _ = _
        rw [find?_append, hf]
        simp [hne]

theorem find_readMembers {key : String} (hkey : key ∈ cfg.keys) :
    (readMembers cfg values members).find? (·.1 = key) =
      (values.find? (·.1 = key)).or ((members.find? fun m => Str.plainText m.1 = some key).map
        fun m => (key, scalar cfg m.2)) := by
  induction members generalizing values with
  | nil => simp [readMembers]
  | cons m members ih =>
    show (readMembers cfg (added cfg values m.1 m.2)
      members).find? _ = _
    rw [ih, find_recorded hkey]
    by_cases hn : Str.plainText m.1 = some key
    · simp [hn]
    · simp [hn]

theorem get_finished {key : String}
    (hkey : key ∈ cfg.keys) :
    (finished cfg values p).get key = (values.find? (·.1 = key)).map (·.2) :=
  if_pos hkey

theorem get_scanned {key : String} (hkey : key ∈ cfg.keys) :
    (scanned cfg t).get key = (firstPlain key t).map (scalar cfg) := by
  cases t with
  | object members =>
    show (finished cfg _ _).get key = _
    rw [get_finished hkey, find_readMembers hkey]
    simp [firstPlain, Tree.members, Function.comp_def]
  | emptyObject _ | null | bool _ | number _ | string _ | emptyArray _ | array _ =>
    exact get_finished hkey

end Portus.DataPlane.Scan

import Portus.DataPlane.Escapes

/-!
# The scanner on one value

From the colon on, `FieldScanner` reads a value of a document to its end in whatever chunks it
comes (`reads_lead`, `step_closer`, `step_bareEnd`): a wanted one is recorded as `scalar` says, any
other leaves no trace. A string and a nested value end with a byte of their own; a bare value ends
where the byte after it stands, so it takes that byte to be done with it.
-/

namespace Portus.DataPlane.Scan

open Lib Lib.JsonText FieldScanner List

def stringStep (escaped : Bool) (b : UInt8) : Option Bool :=
  match stringPart escaped b with
  | .closed => none
  | .pending escaped => some escaped

variable {b : UInt8} {l : List UInt8} {t : Tree} {s : FieldScanner}

theorem stringPart_of_stringStep (h : stringStep e b = some e') : stringPart e b = .pending e' := by
  unfold stringStep at h
  cases hp : stringPart e b with
  | closed => simp [hp] at h
  | pending e₁ =>
    obtain rfl : e₁ = e' := by simpa [hp] using h
    rfl

theorem stringStep_plain (hq : b ≠ '"'.toUInt8) (hs : b ≠ '\\'.toUInt8) :
    stringStep false b = some false := by
  simp [stringStep, stringPart, hq, hs]

theorem foldlM_plain (h : ∀ b ∈ l, b ≠ '"'.toUInt8 ∧ b ≠ '\\'.toUInt8) :
    l.foldlM stringStep false = some false := by
  induction l with
  | nil => rfl
  | cons b l ih =>
    obtain ⟨hq, hs⟩ := h b (mem_cons_self ..)
    rw [foldlM_cons, stringStep_plain hq hs]
    exact ih fun x hx => h x (mem_cons_of_mem b hx)

theorem plain_hexDigit (d : HexDigit) : d.byte ≠ '"'.toUInt8 ∧ d.byte ≠ '\\'.toUInt8 := by
  obtain ⟨value, upper⟩ := d
  revert value upper
  decide

theorem foldlM_hex4 (h : Hex4) : h.bytes.foldlM stringStep false = some false := by
  have hd : ([h.a.byte, h.b.byte, h.c.byte, h.d.byte] : List UInt8).foldlM stringStep false =
      some false := by
    refine foldlM_plain fun b hb => ?_
    simp only [mem_cons, not_mem_nil, or_false] at hb
    rcases hb with rfl | rfl | rfl | rfl <;> exact plain_hexDigit _
  exact hd

theorem foldlM_item (i : Item) : i.bytes.foldlM stringStep false = some false := by
  cases i with
  | plain c _ hq hs =>
    refine foldlM_plain fun b hb => ⟨?_, ?_⟩
    · rintro rfl
      exact hq (eq_of_toUInt8_mem (by decide) hb)
    · rintro rfl
      exact hs (eq_of_toUInt8_mem (by decide) hb)
  | escape e =>
    rfl
  | unicode h _ => exact foldlM_hex4 h
  | pair hi low _ _ =>
    rw [Item.bytes, foldlM_append, foldlM_hex4]
    exact foldlM_hex4 low

theorem foldlM_str (s : Str) : (Str.bytes s).foldlM stringStep false = some false := by
  induction s with
  | nil => rfl
  | cons i s ih =>
    show (i.bytes ++ Str.bytes s).foldlM stringStep false = _
    rwa [foldlM_append, foldlM_item]

def nestedStep (n : Nat × Bool × Bool) (b : UInt8) : Option (Nat × Bool × Bool) :=
  skipNestedPart n.1 n.2.1 n.2.2 b

theorem nestedStep_string (h : stringStep e b = some e') :
    nestedStep (d, true, e) b = some (d, true, e') := by
  simp [nestedStep, skipNestedPart, stringPart_of_stringStep h]

theorem foldlM_nested_string (h : l.foldlM stringStep e = some e') :
    l.foldlM nestedStep (d, true, e) = some (d, true, e') := by
  induction l generalizing e with
  | nil =>
    obtain rfl : e = e' := by simpa using h
    rfl
  | cons b l ih =>
    obtain ⟨e₁, hs, hr⟩ : ∃ e₁, stringStep e b = some e₁ ∧ l.foldlM stringStep e₁ = some e' := by
      simpa [foldlM_cons, Option.bind_eq_some_iff] using h
    rw [foldlM_cons, nestedStep_string hs]
    exact ih hr

/-- Bytes that bring a nested value back to where it was. -/
def Neutral (d : Nat) (l : List UInt8) : Prop :=
  l.foldlM nestedStep (d, false, false) = some (d, false, false)

theorem Neutral.append (h : Neutral d l) (h' : Neutral d l') : Neutral d (l ++ l') := by
  rwa [Neutral, foldlM_append, h]

theorem foldlM_quoted (s : Str) : Neutral d (Str.quoted s) := by
  show (Str.bytes s ++ ['"'.toUInt8]).foldlM nestedStep (d, true, false) = _
  rw [foldlM_append, foldlM_nested_string (foldlM_str s)]
  rfl

/-- Bytes that neither open nor close anything. -/
def IsNoise (b : UInt8) : Prop :=
  b ≠ '"'.toUInt8 ∧ b ≠ '{'.toUInt8 ∧ b ≠ '}'.toUInt8 ∧ b ≠ '['.toUInt8 ∧ b ≠ ']'.toUInt8

instance : DecidablePred IsNoise := fun _ => inferInstanceAs (Decidable (_ ∧ _))

theorem nestedStep_noise (h : IsNoise b) :
    nestedStep (d, false, false) b = some (d, false, false) := by
  obtain ⟨hq, hl, hr, hl', hr'⟩ := h
  simp [nestedStep, skipNestedPart, hq, hl, hr, hl', hr']

theorem foldlM_noise (h : ∀ b ∈ l, IsNoise b) : Neutral d l := by
  induction l with
  | nil => rfl
  | cons b l ih =>
    rw [Neutral, foldlM_cons, nestedStep_noise (h b (mem_cons_self ..))]
    exact ih fun x hx => h x (mem_cons_of_mem b hx)

theorem foldlM_whitespace (w : Whitespace) : Neutral d w.bytes :=
  foldlM_noise fun b hb => by rcases w.white b hb with rfl | rfl | rfl | rfl <;> decide

theorem isAsciiDigit_digitByte : isAsciiDigit (digitByte d) = true := by
  revert d
  decide

theorem isNumberByte_of_mem_digits {ds : Digits} (hb : b ∈ ds.bytes) : isNumberByte b = true := by
  obtain ⟨d, -, rfl⟩ := mem_map.1 hb
  simp [isNumberByte, isAsciiDigit_digitByte]

theorem isNumberByte_of_mem_exponent {e : Exponent} (hb : b ∈ e.bytes) : isNumberByte b = true := by
  obtain ⟨upper, sign, digits⟩ := e
  simp only [Exponent.bytes, mem_cons, mem_append] at hb
  rcases hb with rfl | hs | hd
  · cases upper <;> rfl
  · match sign with
    | none => simp at hs
    | some negative =>
      obtain rfl : b = signByte negative := by simpa using hs
      cases negative <;> decide
  · exact isNumberByte_of_mem_digits hd

theorem isNumberByte_of_mem {n : Number} (hb : b ∈ n.bytes) : isNumberByte b = true := by
  obtain ⟨negative, int, _, frac, exp⟩ := n
  simp only [Number.bytes, mem_append] at hb
  rcases hb with ((hs | hi) | hf) | he
  · cases negative with
    | false => simp at hs
    | true =>
      obtain rfl : b = '-'.toUInt8 := by simpa using hs
      decide
  · exact isNumberByte_of_mem_digits hi
  · match frac with
    | none => simp at hf
    | some ds =>
      obtain rfl | hb : b = '.'.toUInt8 ∨ b ∈ ds.bytes := by simpa using hf
      · decide
      · exact isNumberByte_of_mem_digits hb
  · match exp with
    | none => simp at he
    | some e => exact isNumberByte_of_mem_exponent (by simpa using he)

/-- What `bareValue` takes for a number. -/
def NumberLike (token : List UInt8) : Prop :=
  ∃ first rest, token = first :: rest ∧ (first = '-'.toUInt8 ∨ isAsciiDigit first = true) ∧
    ∀ b ∈ token, isNumberByte b = true

theorem numberLike_bytes (n : Number) : NumberLike n.bytes := by
  have ha : ∀ b ∈ n.bytes, isNumberByte b = true := fun _ hb => isNumberByte_of_mem hb
  obtain ⟨negative, int, hz, frac, exp⟩ := n
  cases negative with
  | true => exact ⟨_, _, rfl, .inl rfl, ha⟩
  | false => exact ⟨_, _, rfl, .inr isAsciiDigit_digitByte, ha⟩

theorem bareValue_of_numberLike {token : List UInt8} (h : NumberLike token) :
    bareValue token = some (.num (.ofList (token.map Char.ofUInt8))) := by
  obtain ⟨first, rest, rfl, hfi, ha⟩ := h
  have hl (c : Char) (cs : List Char) (hc : c.toUInt8 ≠ '-'.toUInt8)
      (hc' : isAsciiDigit c.toUInt8 = false) : first :: rest ≠ (c :: cs).map Char.toUInt8 := by
    intro heq
    obtain rfl : first = c.toUInt8 := (List.cons.inj heq).1
    rcases hfi with h | h
    · exact hc h
    · exact absurd h (by simp [hc'])
  have ht : first :: rest ≠ ascii "true" := hl 't' ['r', 'u', 'e'] (by decide) (by decide)
  have hfa : first :: rest ≠ ascii "false" :=
    hl 'f' ['a', 'l', 's', 'e'] (by decide) (by decide)
  have hn : first :: rest ≠ ascii "null" := hl 'n' ['u', 'l', 'l'] (by decide) (by decide)
  have hnum : ((first = '-'.toUInt8 || isAsciiDigit first) && (first :: rest).all isNumberByte) =
      true := by
    rw [Bool.and_eq_true]
    exact ⟨by simpa using hfi, all_eq_true.2 ha⟩
  rw [bareValue, if_neg ht, if_neg hfa, if_neg hn]
  exact if_pos hnum

def IsBareByte (b : UInt8) : Prop := IsNoise b ∧ isBareEnd b = false ∧ b ≠ ':'.toUInt8

instance : DecidablePred IsBareByte := fun _ => inferInstanceAs (Decidable (_ ∧ _))

theorem isBareByte_of_isNumberByte (h : isNumberByte b = true) : IsBareByte b := by
  have hne (c : UInt8) (hc : isNumberByte c = false) : b ≠ c := by
    rintro rfl
    exact absurd h (by simp [hc])
  have he : isBareEnd b = false := by
    simp only [isBareEnd, isWs, Bool.or_eq_false_iff, decide_eq_false_iff_not]
    exact ⟨⟨⟨hne _ (by decide), hne _ (by decide)⟩, hne _ (by decide)⟩,
      ⟨⟨hne _ (by decide), hne _ (by decide)⟩, hne _ (by decide)⟩, hne _ (by decide)⟩
  exact ⟨⟨hne _ (by decide), hne _ (by decide), hne _ (by decide), hne _ (by decide),
    hne _ (by decide)⟩, he, hne _ (by decide)⟩

/-- A value that has no end of its own. -/
def isBare : Tree → Bool
  | .null | .bool _ | .number _ => true
  | _ => false

theorem isBareByte_of_mem (ht : isBare t = true) (hb : b ∈ t.bytes) : IsBareByte b := by
  cases t with
  | null =>
    have ha : nullBytes.all (decide <| IsBareByte ·) = true := by decide
    exact of_decide_eq_true (all_eq_true.1 ha b (by simpa [Tree.bytes] using hb))
  | bool v =>
    have ha : (boolBytes v).all (decide <| IsBareByte ·) = true := by cases v <;> decide
    exact of_decide_eq_true (all_eq_true.1 ha b (by simpa [Tree.bytes] using hb))
  | number n =>
    exact isBareByte_of_isNumberByte (isNumberByte_of_mem (by simpa [Tree.bytes] using hb))
  | string _ | emptyArray _ | array _ | emptyObject _ | object _ => cases ht

theorem foldlM_brackets {l : UInt8} {inner : List UInt8}
    (hl : l = '{'.toUInt8 ∨ l = '['.toUInt8) (hr : r = '}'.toUInt8 ∨ r = ']'.toUInt8) (hd : d ≠ 0)
    (hi : Neutral (d + 1) inner) : Neutral d (l :: (inner ++ [r])) := by
  have hopen : nestedStep (d, false, false) l = some (d + 1, false, false) := by
    rcases hl with rfl | rfl <;> rfl
  have hc : nestedStep (d + 1, false, false) r = some (d, false, false) := by
    rcases hr with rfl | rfl <;> exact if_neg hd
  rw [Neutral, foldlM_cons, hopen]
  show (inner ++ [r]).foldlM nestedStep (d + 1, false, false) = _
  rw [foldlM_append, hi]
  show [r].foldlM nestedStep (d + 1, false, false) = _
  rw [foldlM_cons, hc]
  rfl

theorem foldlM_label (l : Label) : Neutral d l.bytes := by
  have hg : Neutral d (':'.toUInt8 :: l.gap.bytes) := foldlM_whitespace l.gap
  exact (foldlM_whitespace l.before).append <|
    (foldlM_quoted l.name).append <| (foldlM_whitespace l.after).append hg

mutual

theorem foldlM_tree (hd : d ≠ 0) : ∀ t : Tree, Neutral d t.bytes
  | .null => foldlM_noise fun _ hb => (isBareByte_of_mem (t := .null) rfl hb).1
  | .bool v => foldlM_noise fun _ hb => (isBareByte_of_mem (t := .bool v) rfl hb).1
  | .number n => foldlM_noise fun _ hb => (isBareByte_of_mem (t := .number n) rfl hb).1
  | .string s => foldlM_quoted s
  | .emptyArray inner =>
    foldlM_brackets (.inr rfl) (.inr rfl) hd (foldlM_whitespace inner)
  | .array elements =>
    foldlM_brackets (.inr rfl) (.inr rfl) hd (foldlM_elements d.succ_ne_zero elements)
  | .emptyObject inner =>
    foldlM_brackets (.inl rfl) (.inl rfl) hd (foldlM_whitespace inner)
  | .object members =>
    foldlM_brackets (.inl rfl) (.inl rfl) hd (foldlM_members d.succ_ne_zero members)

theorem foldlM_elements (hd : d ≠ 0) : ∀ elements : Elements, Neutral d elements.bytes
  | .last before value after =>
    (foldlM_whitespace before).append <|
      (foldlM_tree hd value).append (foldlM_whitespace after)
  | .cons before value after rest =>
    have hr : Neutral d (','.toUInt8 :: rest.bytes) := foldlM_elements hd rest
    (foldlM_whitespace before).append <|
      (foldlM_tree hd value).append <| (foldlM_whitespace after).append hr

theorem foldlM_members (hd : d ≠ 0) : ∀ members : Members, Neutral d members.bytes
  | .last label value after =>
    (foldlM_label label).append <|
      (foldlM_tree hd value).append (foldlM_whitespace after)
  | .cons label value after rest =>
    have hr : Neutral d (','.toUInt8 :: rest.bytes) := foldlM_members hd rest
    (foldlM_label label).append <|
      (foldlM_tree hd value).append <| (foldlM_whitespace after).append hr

end

def scalar (cfg : FieldScanner) (t : Tree) : Scalar :=
  match t with
  | .null => .null
  | .bool b => .bool b
  | .number n => .num n.text
  | .string s => .str (Str.text s)
  | .emptyArray _ | .array _ | .emptyObject _ | .object _ =>
    if cfg.captureCompound && decide (t.bytes.length ≤ cfg.captureLimit) then .raw t.bytes
    else .compound

def recorded (cfg : FieldScanner) (values : List (String × Scalar)) (key : Option String)
    (t : Tree) : List (String × Scalar) :=
  match key with
  | none => values
  | some k => values ++ [(k, scalar cfg t)]

/-- All of a value but the byte that ends it, where it has one (`closer`). -/
def lead (t : Tree) : List UInt8 :=
  match t with
  | .null | .bool _ | .number _ => t.bytes
  | .string s => '"'.toUInt8 :: Str.bytes s
  | .emptyArray inner => '['.toUInt8 :: inner.bytes
  | .array elements => '['.toUInt8 :: elements.bytes
  | .emptyObject inner => '{'.toUInt8 :: inner.bytes
  | .object members => '{'.toUInt8 :: members.bytes

def closer : Tree → Option UInt8
  | .null | .bool _ | .number _ => none
  | .string _ => some '"'.toUInt8
  | .emptyArray _ | .array _ => some ']'.toUInt8
  | .emptyObject _ | .object _ => some '}'.toUInt8

theorem bytes_eq_lead : t.bytes = lead t ++ (closer t).toList := by
  cases t <;> simp [lead, closer, Tree.bytes, Str.quoted]

/-- The scanner where it is between two parts of the document. A token may be left over. -/
def At (cfg : FieldScanner) (values : List (String × Scalar)) (current : Option String)
    (state : State) (s : FieldScanner) : Prop :=
  ∃ token, s = { cfg with values, current, state, token, capturing := none }

def finished (cfg : FieldScanner) (values : List (String × Scalar)) (p : Progress) : FieldScanner :=
  { cfg with values, current := none, state := .done p, token := [], capturing := none }

def After (cfg : FieldScanner) (values : List (String × Scalar)) (s : FieldScanner) : Prop :=
  if values.length = cfg.keys.length then s = finished cfg values .complete
  else At cfg values none .afterValue s

def Done (s : FieldScanner) : Prop := s.progress ≠ .needMore

variable {cfg : FieldScanner} {values : List (String × Scalar)} {key : Option String}

theorem unmarked_at {current : Option String} {state : State} (h : ∀ w k, state ≠ .inBare w k) :
    reader.Unmarked (At cfg values current state) := by
  rintro _ ⟨token, rfl⟩
  refine ⟨token, ?_⟩
  cases state with
  | inBare w k => exact absurd rfl (h w k)
  | _ => rfl

theorem after_settle (h : s = { cfg with
    values, current := none, state := s.state, token := s.token, capturing := none }) :
    After cfg values s.settle := by
  rw [After, settle, h]
  split
  · rfl
  · exact ⟨s.token, rfl⟩

theorem record_of_not_mem (h : k ∉ s.values.map (·.1)) :
    s.record k value = { s with values := s.values ++ [(k, value)] } :=
  if_neg h

/-- How a value is read: with its `lead` to states of `M`, from where one byte ends it. -/
structure ReadsValue (cfg : FieldScanner) (values : List (String × Scalar)) (key : Option String)
    (t : Tree) (M : FieldScanner → Prop) : Prop where
  unmarked : reader.Unmarked M
  not_done : ∀ ⦃s⦄, M s → ¬ Done s
  reads : reader.Reads (At cfg values key .expectValue) (lead t) M
  closes : ∀ b, closer t = some b → ∀ ⦃s⦄, M s → After cfg (recorded cfg values key t) (s.step b)
  ends : closer t = none → ∀ c, isBareEnd c = true → ∀ ⦃s⦄, M s →
    ∃ s', After cfg (recorded cfg values key t) s' ∧ s.step c = s'.step c

section

variable (hopen : values.length < cfg.keys.length) (hkey : ∀ k, key = some k → k ∉ values.map (·.1))

include hopen

theorem after_of_at (h : At cfg values none .afterValue s) : After cfg values s := by
  unfold After
  rwa [if_neg (Nat.ne_of_lt hopen)]

def inStringAt (cfg : FieldScanner) (values : List (String × Scalar)) (key : Option String)
    (token : List UInt8) (escaped : Bool) : FieldScanner :=
  { cfg with
    values
    current := none
    state := .inString escaped key
    token := if key.isSome then token else []
    capturing := none }

omit hopen in
theorem step_inStringAt (token : List UInt8) (e : Bool) (b : UInt8) (e' : Bool)
    (h : stringStep e b = some e') :
    (inStringAt cfg values key token e).step b = inStringAt cfg values key (token ++ [b]) e' := by
  cases key <;> simp [step, inStringAt, stringPart_of_stringStep h]

include hkey

theorem readsValue_string : ReadsValue cfg values key (.string str)
      (· = inStringAt cfg values key (Str.bytes str) false) where
  unmarked := .of_eq rfl
  not_done := by
    rintro _ rfl
    exact fun h => h rfl
  reads := by
    have hbe : ∀ ⦃s⦄, At cfg values key .expectValue s →
        s.step '"'.toUInt8 = inStringAt cfg values key [] false := by
      rintro _ ⟨token, rfl⟩
      cases key <;> rfl
    exact .cons (unmarked_at (by simp)) hbe
      (.embed (fun _ _ => rfl) step_inStringAt (foldlM_str str) [])
  closes := by
    rintro b hb _ rfl
    obtain rfl : '"'.toUInt8 = b := by simpa [closer] using hb
    cases key with
    | none => exact after_of_at hopen ⟨[], rfl⟩
    | some k =>
      have hs : (inStringAt cfg values (some k) (Str.bytes str) false).step '"'.toUInt8 =
          ((inStringAt cfg values (some k) (Str.bytes str) false).record k
            (.str (Str.text str))).settle := by
        have hclosed : stringPart false '"'.toUInt8 = .closed := rfl
        simp [step, inStringAt, hclosed, unescape_bytes]
      rw [hs, record_of_not_mem (hkey k rfl)]
      exact after_settle rfl
  ends := by simp [closer]

def nestedAt (cfg : FieldScanner) (values : List (String × Scalar)) (key : Option String)
    (l : UInt8) (rest : List UInt8) (n : Nat × Bool × Bool) : FieldScanner :=
  let s : FieldScanner := { cfg with
    values
    current := none
    state := .inNested n.1 n.2.1 n.2.2
    token := []
    capturing := none }
  match key with
  | none => s
  | some k =>
    if cfg.captureCompound && decide (rest.length < max cfg.captureLimit 1) then
      { s with token := l :: rest, capturing := some k }
    else { s with values := values ++ [(k, .compound)] }

omit hopen hkey in
theorem state_nestedAt (l : UInt8) :
    (nestedAt cfg values key l rest n).state = .inNested n.1 n.2.1 n.2.2 := by
  unfold nestedAt
  cases key with
  | none => rfl
  | some k => dsimp only; split <;> rfl

omit hopen hkey in
theorem newChunk_nestedAt (l : UInt8) (rest : List UInt8) (n : Nat × Bool × Bool) :
    (nestedAt cfg values key l rest n).newChunk = nestedAt cfg values key l rest n := by
  simp only [newChunk, state_nestedAt]

omit hopen in
theorem capture_nestedAt (l : UInt8) :
    (nestedAt cfg values key l rest n).capture b = nestedAt cfg values key l (rest ++ [b]) n := by
  cases key with
  | none => rfl
  | some k =>
    have hl : (rest ++ [b]).length = rest.length + 1 := length_append
    simp only [nestedAt, hl]
    by_cases hh : (cfg.captureCompound && decide (rest.length < max cfg.captureLimit 1)) = true
    · rw [if_pos hh]
      obtain ⟨hc, -⟩ := Bool.and_eq_true_iff.1 hh
      by_cases hm : rest.length + 1 < max cfg.captureLimit 1
      · rw [if_pos (by simp [hc, hm])]
        have hf : (l :: rest).length + 1 ≤ cfg.captureLimit := by
          rw [length_cons]
          omega
        exact if_neg (Nat.not_lt.2 hf)
      · rw [if_neg (by simp [hm])]
        have ho : (l :: rest).length + 1 > cfg.captureLimit := by
          rw [length_cons]
          omega
        refine (if_pos ho).trans ?_
        exact record_of_not_mem (hkey k rfl)
    · have hm :
          ¬ (cfg.captureCompound && decide (rest.length + 1 < max cfg.captureLimit 1)) = true := by
        intro h
        refine hh ?_
        simp only [Bool.and_eq_true, decide_eq_true_eq] at h ⊢
        exact ⟨h.1, by omega⟩
      rw [if_neg hh, if_neg hm]
      rfl

omit hopen in
theorem step_nestedAt (l : UInt8) (rest : List UInt8) (n : Nat × Bool × Bool) (b : UInt8)
    (n' : Nat × Bool × Bool) (h : nestedStep n b = some n') :
    (nestedAt cfg values key l rest n).step b = nestedAt cfg values key l (rest ++ [b]) n' := by
  have hs : skipNestedPart n.1 n.2.1 n.2.2 b = some n' := h
  simp only [step, state_nestedAt, capture_nestedAt hkey, hs]
  unfold nestedAt
  cases key with
  | none => rfl
  | some k => dsimp only; split <;> rfl

omit hopen in
theorem after_closeNested {l : UInt8} (hb : t.bytes = l :: rest) (hr : rest ≠ [])
    (hs : scalar cfg t =
      if cfg.captureCompound && decide (t.bytes.length ≤ cfg.captureLimit) then .raw t.bytes
      else .compound) :
    After cfg (recorded cfg values key t) (nestedAt cfg values key l rest n).closeNested := by
  cases key with
  | none => exact after_settle rfl
  | some k =>
    have hl : decide (rest.length < max cfg.captureLimit 1) =
        decide (t.bytes.length ≤ cfg.captureLimit) := by
      have hp := length_pos_iff.2 hr
      rw [hb, length_cons, decide_eq_decide]
      omega
    rw [recorded, nestedAt, hs, hl, hb]
    dsimp only
    split
    · show After cfg _ (FieldScanner.settle (FieldScanner.record _ k _))
      rw [record_of_not_mem (hkey k rfl)]
      exact after_settle rfl
    · exact after_settle rfl

structure IsCompound (cfg : FieldScanner) (t : Tree) (l : UInt8) (inner : List UInt8) (r : UInt8) :
    Prop where
  bytes : t.bytes = l :: inner ++ [r]
  lead : lead t = l :: inner
  closer : closer t = some r
  opening : l = '{'.toUInt8 ∨ l = '['.toUInt8
  closing : r = '}'.toUInt8 ∨ r = ']'.toUInt8
  nested : inner.foldlM nestedStep (1, false, false) = some (1, false, false)
  scalar : scalar cfg t =
    if cfg.captureCompound && decide (t.bytes.length ≤ cfg.captureLimit) then .raw t.bytes
    else .compound

omit hopen hkey in
theorem exists_isCompound (hb : isBare t = false) (hs : ∀ s, t ≠ .string s) :
    ∃ l inner r, IsCompound cfg t l inner r := by
  cases t with
  | null | bool _ | number _ => cases hb
  | string s => exact absurd rfl (hs s)
  | emptyArray inner =>
    exact ⟨_, _, _, rfl, rfl, rfl, .inr rfl, .inr rfl, foldlM_whitespace inner, rfl⟩
  | array elements =>
    exact ⟨_, _, _, rfl, rfl, rfl, .inr rfl, .inr rfl, foldlM_elements Nat.one_ne_zero elements,
      rfl⟩
  | emptyObject inner =>
    exact ⟨_, _, _, rfl, rfl, rfl, .inl rfl, .inl rfl, foldlM_whitespace inner, rfl⟩
  | object members =>
    exact ⟨_, _, _, rfl, rfl, rfl, .inl rfl, .inl rfl, foldlM_members Nat.one_ne_zero members,
      rfl⟩

omit hopen in
theorem step_opening {l : UInt8} (hl : l = '{'.toUInt8 ∨ l = '['.toUInt8) {s : FieldScanner}
    (hs : At cfg values key .expectValue s) :
    s.step l = nestedAt cfg values key l [] (1, false, false) := by
  obtain ⟨token, rfl⟩ := hs
  have hws : isWs l = false := by rcases hl with rfl | rfl <;> decide
  have hq : l ≠ '"'.toUInt8 := by rcases hl with rfl | rfl <;> decide
  have hb : (decide (l = '{'.toUInt8) || decide (l = '['.toUInt8)) = true := by
    rcases hl with rfl | rfl <;> decide
  simp only [step, hws, Bool.false_eq_true, if_false, beginValue, hq, hb, if_true, nestedAt]
  cases key with
  | none => rfl
  | some k =>
    cases hc : cfg.captureCompound with
    | false => exact record_of_not_mem (hkey k rfl)
    | true =>
      have hf : 0 < max cfg.captureLimit 1 := by omega
      simp

omit hopen in
theorem readsValue_nested {l : UInt8} {inner : List UInt8} (h : IsCompound cfg t l inner r) :
    ReadsValue cfg values key t (· = nestedAt cfg values key l inner (1, false, false)) where
  unmarked := .of_eq (newChunk_nestedAt _ _ _)
  not_done := by
    rintro _ rfl hd
    exact hd (by simp only [progress, state_nestedAt])
  reads := by
    rw [h.lead]
    exact .cons (unmarked_at (by simp)) (fun _ hs => step_opening hkey h.opening hs)
      (.embed (newChunk_nestedAt l) (step_nestedAt hkey l) h.nested [])
  closes := by
    rintro b hb _ rfl
    obtain rfl : r = b := by simpa [h.closer] using hb
    have hc : skipNestedPart 1 false false r = none := by
      rcases h.closing with rfl | rfl <;> rfl
    have hst : (nestedAt cfg values key l inner (1, false, false)).step r =
        (nestedAt cfg values key l (inner ++ [r]) (1, false, false)).closeNested := by
      simp only [step, state_nestedAt, capture_nestedAt hkey, hc]
    rw [hst]
    exact after_closeNested hkey h.bytes (by simp) h.scalar
  ends := by
    rw [h.closer]
    simp

def bareAt (cfg : FieldScanner) (values : List (String × Scalar)) (key : Option String)
    (token : List UInt8) (kept : Bool) : FieldScanner :=
  { cfg with values, current := none, state := .inBare key kept, token, capturing := none }

omit hopen hkey in
theorem bareValue_bytes (ht : isBare t = true) : bareValue t.bytes = some (scalar cfg t) := by
  cases t with
  | null => rfl
  | bool v => cases v <;> rfl
  | number n => exact bareValue_of_numberLike (numberLike_bytes n)
  | string _ | emptyArray _ | array _ | emptyObject _ | object _ => cases ht

omit hopen hkey in
theorem step_bareByte (hb : IsBareByte b) (hs : At cfg values key .expectValue s) :
    s.step b = bareAt cfg values key [b] true := by
  obtain ⟨token, rfl⟩ := hs
  obtain ⟨⟨hq, hl, hr, hl', hr'⟩, he, hc⟩ := hb
  simp only [isBareEnd, Bool.or_eq_false_iff, decide_eq_false_iff_not] at he
  simp [step, beginValue, bareAt, he, hq, hl, hl', hc]

omit hopen hkey in
theorem reads_kept {token : List UInt8} (hsh : key.isSome = true ∨ (token ++ l).length < 8)
    (hl : ∀ b ∈ l, isBareEnd b = false) :
    reader.Reads (· = bareAt cfg values key token true) l
      (· = bareAt cfg values key (token ++ l) true) := by
  have hm (token : List UInt8) (h : key.isSome = true ∨ token.length < 8) :
      (bareAt cfg values key token true).newChunk = bareAt cfg values key token true := by
    have hk : (key.isSome || decide (token.length < 8)) = true := by simpa using h
    show bareAt cfg values key token (key.isSome || decide (token.length < 8)) = _
    rw [hk]
  induction l generalizing token with
  | nil =>
    rw [append_nil] at hsh ⊢
    exact .nil (.of_eq (hm token hsh))
  | cons b l ih =>
    have hb : key.isSome = true ∨ token.length < 8 := by
      refine hsh.imp_right fun h => ?_
      rw [length_append] at h
      omega
    have hst : (bareAt cfg values key token true).step b =
        bareAt cfg values key (token ++ [b]) true := by
      simp [step, bareAt, hl b (mem_cons_self ..)]
    rw [append_cons] at hsh ⊢
    refine .cons (.of_eq (hm token hb)) ?_ (ih hsh fun x hx => hl x (mem_cons_of_mem b hx))
    rintro _ rfl
    exact hst

omit hopen hkey in
theorem reads_number (hl : ∀ b ∈ l, isNumberByte b = true) :
    reader.Reads (fun s => ∃ token kept, s = bareAt cfg values key token kept ∧ NumberLike token) l
      (fun s => ∃ token kept, s = bareAt cfg values key token kept ∧ NumberLike token) := by
  refine .loop ?_ fun b hb => ?_
  · rintro _ ⟨token, kept, rfl, hn⟩
    exact ⟨token, _, rfl, hn⟩
  · rintro _ ⟨token, kept, rfl, hn⟩
    have he := (isBareByte_of_isNumberByte (hl b hb)).2.1
    cases kept with
    | false => exact ⟨token, false, by simp [reader, step, bareAt, he], hn⟩
    | true =>
      refine ⟨token ++ [b], true, by simp [reader, step, bareAt, he], ?_⟩
      obtain ⟨first, rest, rfl, hf, ha⟩ := hn
      refine ⟨first, rest ++ [b], rfl, hf, fun x hx => ?_⟩
      rcases mem_append.1 hx with hx | hx
      · exact ha x hx
      · rw [mem_singleton.1 hx]
        exact hl b hb

omit hopen hkey in
theorem reads_bare (ht : isBare t = true) :
    reader.Reads (At cfg values key .expectValue) t.bytes fun s => ∃ token kept value,
      s = bareAt cfg values key token kept ∧ bareValue token = some value ∧
        (key.isSome = true → value = scalar cfg t) := by
  have hba : ∀ b ∈ t.bytes, IsBareByte b := fun b hb => isBareByte_of_mem ht hb
  have hv : bareValue t.bytes = some (scalar cfg t) := bareValue_bytes ht
  have hn : NumberLike t.bytes ∨ t.bytes.length < 8 := by
    cases t with
    | null => exact .inr (by decide)
    | bool v => exact .inr (by cases v <;> decide)
    | number n => exact .inl (numberLike_bytes n)
    | string _ | emptyArray _ | array _ | emptyObject _ | object _ => cases ht
  cases hby : t.bytes with
  | nil =>
    rw [hby] at hv
    cases hv
  | cons first rest =>
    rw [hby] at hba hv hn
    refine .cons (M := (· = bareAt cfg values key [first] true)) (unmarked_at (by simp))
      (fun _ hs => step_bareByte (hba first (mem_cons_self ..)) hs) ?_
    by_cases hk : key.isSome = true ∨ (first :: rest).length < 8
    · have hr : reader.Reads (· = bareAt cfg values key [first] true) rest
          (· = bareAt cfg values key (first :: rest) true) :=
        reads_kept hk fun b hb => (hba b (mem_cons_of_mem first hb)).2.1
      exact hr.mono (fun _ hs => hs) fun _ hs => ⟨_, _, _, hs, hv, fun _ => rfl⟩
    · obtain ⟨hu, hl⟩ := not_or.1 hk
      obtain ⟨_, _, ⟨rfl, rfl⟩, hf, ha⟩ := hn.resolve_right hl
      have ho : NumberLike [first] :=
        ⟨first, [], rfl, hf, fun b hb => ha b (mem_singleton.1 hb ▸ mem_cons_self ..)⟩
      refine (reads_number fun b hb => ha b (mem_cons_of_mem first hb)).mono
        (fun _ hs => ⟨_, _, hs, ho⟩) ?_
      rintro _ ⟨token, kept, hs, hto⟩
      exact ⟨token, kept, _, hs, bareValue_of_numberLike hto, fun h => absurd h hu⟩

theorem readsValue_bare (ht : isBare t = true) :
    ReadsValue cfg values key t fun s => ∃ token kept value,
      s = bareAt cfg values key token kept ∧ bareValue token = some value ∧
        (key.isSome = true → value = scalar cfg t) where
  unmarked := by
    rintro _ ⟨token, kept, value, rfl, hv⟩
    exact ⟨token, _, value, rfl, hv⟩
  not_done := by
    rintro _ ⟨token, kept, value, rfl, hv⟩ hd
    exact hd rfl
  reads := by
    have hl : lead t = t.bytes := by
      cases t with
      | null | bool _ | number _ => rfl
      | string _ | emptyArray _ | array _ | emptyObject _ | object _ => cases ht
    rw [hl]
    exact reads_bare ht
  closes := by
    intro b hb
    cases t with
    | null | bool _ | number _ => cases hb
    | string _ | emptyArray _ | array _ | emptyObject _ | object _ => cases ht
  ends := by
    rintro - c hc _ ⟨token, kept, value, rfl, hv, hsc⟩
    have hst : (bareAt cfg values key token kept).step c =
        (bareAt cfg values key token kept).endBare key c := by
      simp [step, bareAt, hc]
    rw [hst]
    have hto : bareValue (bareAt cfg values key token kept).token = some value := hv
    cases key with
    | none =>
      refine ⟨{ bareAt cfg values none token kept with state := .afterValue },
        after_of_at hopen ⟨token, rfl⟩, ?_⟩
      simp only [endBare, hto, step]
    | some k =>
      obtain rfl : value = scalar cfg t := hsc rfl
      have hr : (bareAt cfg values (some k) token kept).record k (scalar cfg t) =
          bareAt cfg (values ++ [(k, scalar cfg t)]) (some k) token kept :=
        record_of_not_mem (hkey k rfl)
      refine ⟨(bareAt cfg (values ++ [(k, scalar cfg t)]) (some k) token kept).settle,
        after_settle rfl, ?_⟩
      simp only [endBare, hto, hr]
      unfold settle
      split
      · rfl
      · rfl

theorem exists_readsValue : ∃ M, ReadsValue cfg values key t M := by
  cases hb : isBare t with
  | true => exact ⟨_, readsValue_bare hopen hkey hb⟩
  | false =>
    by_cases hst : ∃ str, t = .string str
    · obtain ⟨str, rfl⟩ := hst
      exact ⟨_, readsValue_string hopen hkey⟩
    · obtain ⟨l, inner, r, h⟩ : ∃ l inner r, IsCompound cfg t l inner r :=
        exists_isCompound hb fun s hs => hst ⟨s, hs⟩
      exact ⟨_, readsValue_nested hkey h⟩

end

end Portus.DataPlane.Scan

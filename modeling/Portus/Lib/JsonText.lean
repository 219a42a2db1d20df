import Portus.Lib.Json

/-!
# JSON documents

The grammar of JSON as trees: a tree keeps all that a writer of the document may choose (white
space, how a character is escaped, the order and the repetition of members), so `bytes` is the
document itself and `value` is what a parser makes of it. A document is read as `v` when it is the
bytes of a tree with the value `v`. An escaped half of a surrogate pair is no character, so no tree
has one.
-/

namespace Portus.Lib.JsonText

open List

def IsWhitespace (b : UInt8) : Prop :=
  b = ' '.toUInt8 ∨ b = '\t'.toUInt8 ∨ b = '\n'.toUInt8 ∨ b = '\r'.toUInt8

instance : DecidablePred IsWhitespace := fun _ => inferInstanceAs (Decidable (_ ∨ _))

structure Whitespace where
  bytes : List UInt8
  white : ∀ b ∈ bytes, IsWhitespace b

def Whitespace.none : Whitespace := ⟨[], fun _ h => absurd h not_mem_nil⟩

@[simp] theorem Whitespace.bytes_none : Whitespace.none.bytes = [] := rfl

structure Digits where
  first : Fin 10
  rest : List (Fin 10) := []

def digitByte (d : Fin 10) : UInt8 := '0'.toUInt8 + d.val.toUInt8

def Digits.bytes (ds : Digits) : List UInt8 := (ds.first :: ds.rest).map digitByte

structure Exponent where
  upper : Bool := false
  /-- A sign, `true` for a minus. -/
  sign : Option Bool := none
  digits : Digits

def signByte (negative : Bool) : UInt8 := if negative then '-'.toUInt8 else '+'.toUInt8

def Exponent.bytes (e : Exponent) : List UInt8 :=
  (if e.upper then 'E' else 'e').toUInt8 :: ((e.sign.map signByte).toList ++ e.digits.bytes)

structure Number where
  negative : Bool := false
  int : Digits
  no_leading_zero : int.first = 0 → int.rest = []
  frac : Option Digits := none
  exp : Option Exponent := none

namespace Number

def bytes (n : Number) : List UInt8 :=
  (if n.negative then ['-'.toUInt8] else []) ++ n.int.bytes ++
    (n.frac.map fun ds => '.'.toUInt8 :: ds.bytes).getD [] ++ (n.exp.map Exponent.bytes).getD []

def text (n : Number) : String := .ofList (n.bytes.map Char.ofUInt8)

end Number

structure HexDigit where
  value : Fin 16
  upper : Bool := false

def HexDigit.byte (d : HexDigit) : UInt8 :=
  if d.value < 10 then '0'.toUInt8 + d.value.val.toUInt8
  else (if d.upper then 'A' else 'a').toUInt8 + (d.value.val - 10).toUInt8

structure Hex4 where
  a : HexDigit
  b : HexDigit
  c : HexDigit
  d : HexDigit

namespace Hex4

def code (h : Hex4) : Nat := ((h.a.value * 16 + h.b.value) * 16 + h.c.value) * 16 + h.d.value

def bytes (h : Hex4) : List UInt8 :=
  ['\\'.toUInt8, 'u'.toUInt8, h.a.byte, h.b.byte, h.c.byte, h.d.byte]

end Hex4

inductive Escape where
  | quote
  | backslash
  | slash
  | backspace
  | formFeed
  | newline
  | carriageReturn
  | tab

namespace Escape

def byte : Escape → UInt8
  | .quote => '"'.toUInt8
  | .backslash => '\\'.toUInt8
  | .slash => '/'.toUInt8
  | .backspace => 'b'.toUInt8
  | .formFeed => 'f'.toUInt8
  | .newline => 'n'.toUInt8
  | .carriageReturn => 'r'.toUInt8
  | .tab => 't'.toUInt8

def char : Escape → Char
  | .quote => '"'
  | .backslash => '\\'
  | .slash => '/'
  | .backspace => Char.ofNat 8
  | .formFeed => Char.ofNat 12
  | .newline => '\n'
  | .carriageReturn => '\r'
  | .tab => '\t'

end Escape

inductive Item where
  | plain (c : Char) (printable : 0x20 ≤ c.toNat) (ne_quote : c ≠ '"') (ne_backslash : c ≠ '\\')
  | escape (e : Escape)
  | unicode (h : Hex4) (valid : h.code.isValidChar)
  | pair (high low : Hex4) (is_high : 0xD800 ≤ high.code ∧ high.code < 0xDC00)
      (is_low : 0xDC00 ≤ low.code ∧ low.code < 0xE000)

namespace Item

def bytes : Item → List UInt8
  | .plain c _ _ _ => String.utf8EncodeChar c
  | .escape e => ['\\'.toUInt8, e.byte]
  | .unicode h _ => h.bytes
  | .pair high low _ _ => high.bytes ++ low.bytes

def char : Item → Char
  | .plain c _ _ _ => c
  | .escape e => e.char
  | .unicode h _ => Char.ofNat h.code
  | .pair high low _ _ => Char.ofNat (0x10000 + (high.code - 0xD800) * 0x400 + (low.code - 0xDC00))

def isPlain : Item → Bool
  | .plain .. => true
  | _ => false

end Item

abbrev Str := List Item

namespace Str

def bytes (s : Str) : List UInt8 := s.flatMap Item.bytes

def text (s : Str) : String := .ofList (s.map Item.char)

def plainText (s : Str) : Option String := if s.all Item.isPlain then some (text s) else none

def quoted (s : Str) : List UInt8 := '"'.toUInt8 :: (bytes s ++ ['"'.toUInt8])

end Str

theorem toNat_of_mem_utf8EncodeChar (h : b ∈ String.utf8EncodeChar c) :
    b.toNat = c.toNat ∨ 128 ≤ b.toNat := by
  unfold String.utf8EncodeChar at h
  dsimp only at h
  have hv : c.toNat = c.val.toNat := rfl
  generalize c.val.toNat = v at h hv
  split at h
  · obtain rfl : b = UInt8.ofNat v := by simpa using h
    left
    rw [UInt8.toNat_ofNat']
    omega
  · right
    have hl (n : Nat) (h₁ : 128 ≤ n) (h₂ : n < 256) : 128 ≤ (UInt8.ofNat n).toNat := by
      rw [UInt8.toNat_ofNat']
      omega
    split at h
    · simp only [mem_cons, not_mem_nil, or_false] at h
      rcases h with rfl | rfl <;> exact hl _ (by omega) (by omega)
    · split at h
      · simp only [mem_cons, not_mem_nil, or_false] at h
        rcases h with rfl | rfl | rfl <;> exact hl _ (by omega) (by omega)
      · simp only [mem_cons, not_mem_nil, or_false] at h
        rcases h with rfl | rfl | rfl | rfl <;> exact hl _ (by omega) (by omega)

theorem eq_of_toUInt8_mem (hd : d.toNat < 128) (h : d.toUInt8 ∈ String.utf8EncodeChar c) :
    c = d := by
  have hn : d.toUInt8.toNat = d.toNat := by
    show d.toNat % 256 = d.toNat
    omega
  rcases toNat_of_mem_utf8EncodeChar h with heq | hl
  · exact Char.toNat_inj.1 (by omega)
  · omega

structure Label where
  before : Whitespace := .none
  name : Str
  after : Whitespace := .none
  gap : Whitespace := .none

def Label.bytes (l : Label) : List UInt8 :=
  l.before.bytes ++ (Str.quoted l.name ++ (l.after.bytes ++ ':'.toUInt8 :: l.gap.bytes))

mutual

inductive Tree where
  | null
  | bool (b : Bool)
  | number (n : Number)
  | string (s : Str)
  | emptyArray (inner : Whitespace)
  | array (elements : Elements)
  | emptyObject (inner : Whitespace)
  | object (members : Members)

inductive Elements where
  | last (before : Whitespace) (value : Tree) (after : Whitespace)
  | cons (before : Whitespace) (value : Tree) (after : Whitespace) (rest : Elements)

inductive Members where
  | last (label : Label) (value : Tree) (after : Whitespace)
  | cons (label : Label) (value : Tree) (after : Whitespace) (rest : Members)

end

def boolBytes (b : Bool) : List UInt8 := (if b then "true" else "false").toList.map Char.toUInt8

def nullBytes : List UInt8 := "null".toList.map Char.toUInt8

mutual

def Tree.bytes : Tree → List UInt8
  | .null => nullBytes
  | .bool b => boolBytes b
  | .number n => n.bytes
  | .string s => Str.quoted s
  | .emptyArray inner => '['.toUInt8 :: (inner.bytes ++ [']'.toUInt8])
  | .array elements => '['.toUInt8 :: (elements.bytes ++ [']'.toUInt8])
  | .emptyObject inner => '{'.toUInt8 :: (inner.bytes ++ ['}'.toUInt8])
  | .object members => '{'.toUInt8 :: (members.bytes ++ ['}'.toUInt8])

def Elements.bytes : Elements → List UInt8
  | .last before value after => before.bytes ++ (value.bytes ++ after.bytes)
  | .cons before value after rest =>
    before.bytes ++ (value.bytes ++ (after.bytes ++ ','.toUInt8 :: rest.bytes))

def Members.bytes : Members → List UInt8
  | .last label value after => label.bytes ++ (value.bytes ++ after.bytes)
  | .cons label value after rest =>
    label.bytes ++ (value.bytes ++ (after.bytes ++ ','.toUInt8 :: rest.bytes))

end

mutual

def Tree.value : Tree → Json
  | .null => .null
  | .bool b => .bool b
  | .number n => .number n.text
  | .string s => .string (Str.text s)
  | .emptyArray _ => .array []
  | .array elements => .array elements.values
  | .emptyObject _ => .object []
  | .object members => .object members.values

def Elements.values : Elements → List Json
  | .last _ value _ => [value.value]
  | .cons _ value _ rest => value.value :: rest.values

def Members.values : Members → List (String × Json)
  | .last label value _ => [(Str.text label.name, value.value)]
  | .cons label value _ rest => (Str.text label.name, value.value) :: rest.values

end

def Members.toList : Members → List (Str × Tree)
  | .last label value _ => [(label.name, value)]
  | .cons label value _ rest => (label.name, value) :: rest.toList

def Tree.members : Tree → List (Str × Tree)
  | .object members => members.toList
  | _ => []

structure Document where
  before : Whitespace := .none
  tree : Tree
  after : Whitespace := .none

def Document.bytes (d : Document) : List UInt8 :=
  d.before.bytes ++ (d.tree.bytes ++ d.after.bytes)

def Document.value (d : Document) : Json := d.tree.value

end Portus.Lib.JsonText

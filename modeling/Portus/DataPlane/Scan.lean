import Portus.Lib.Chunks

/-!
# Fields of a JSON body

`FieldScanner` (`portus-dataplane-core/src/ai/scan.rs`) looks for a few keys of a JSON object while
the body arrives, and is done when each has a value or the object ends. The first occurrence of a
key counts, and a key must be written without escapes.

The code goes through a chunk in runs, the scanner here byte by byte. Two decisions are made once
for a run: whether the bytes of a bare value are kept (`State.inBare`, decided anew by `newChunk`),
and whether a captured value has become too long, which is the same when decided at every byte.
-/

namespace Portus.DataPlane.Scan

open Lib

inductive Scalar where
  | str (text : String)
  | bool (b : Bool)
  | null
  | num (text : String)
  /-- An object or an array that was skipped. -/
  | compound
  /-- The bytes of an object or an array. -/
  | raw (bytes : List UInt8)
deriving DecidableEq

def Scalar.asStr : Scalar → Option String
  | .str text => some text
  | _ => none

inductive Progress where
  | needMore
  | complete
  | invalid
deriving DecidableEq

/-- A wanted key stands for its index. -/
inductive State where
  | start
  | expectKey
  | inKey (escaped : Bool)
  | expectColon
  | expectValue
  | inString (escaped : Bool) (wanted : Option String)
  /-- `kept`: the bytes of this run are appended to the token. -/
  | inBare (wanted : Option String) (kept : Bool)
  /-- A `u32` in the source; the 8 MiB that are scanned at most open fewer than 2^24 brackets. -/
  | inNested (depth : Nat) (inString escaped : Bool)
  | afterValue
  | done (progress : Progress)
deriving DecidableEq

structure FieldScanner where
  keys : List String
  /-- The values found, in the order of the body. -/
  values : List (String × Scalar) := []
  state : State := .start
  token : List UInt8 := []
  current : Option String := none
  captureCompound : Bool := false
  captureLimit : Nat := 0xFFFFFFFFFFFFFFFF
  capturing : Option String := none

def isWs (b : UInt8) : Bool :=
  b = ' '.toUInt8 || b = '\t'.toUInt8 || b = '\n'.toUInt8 || b = '\r'.toUInt8

def isBareEnd (b : UInt8) : Bool :=
  b = ','.toUInt8 || b = '}'.toUInt8 || b = ']'.toUInt8 || isWs b

def isAsciiDigit (b : UInt8) : Bool := '0'.toUInt8 ≤ b && b ≤ '9'.toUInt8

def isNumberByte (b : UInt8) : Bool :=
  isAsciiDigit b || b = '-'.toUInt8 || b = '+'.toUInt8 || b = '.'.toUInt8 || b = 'e'.toUInt8 ||
    b = 'E'.toUInt8

def ascii (s : String) : List UInt8 := s.toList.map Char.toUInt8

def bareValue (token : List UInt8) : Option Scalar :=
  if token = ascii "true" then some (.bool true)
  else if token = ascii "false" then some (.bool false)
  else if token = ascii "null" then some .null
  else
    match token with
    | [] => none
    | first :: _ =>
      if (first = '-'.toUInt8 || isAsciiDigit first) && token.all isNumberByte then
        some (.num (.ofList (token.map Char.ofUInt8)))
      else none

inductive StringEnd where
  | closed
  | pending (escaped : Bool)

def stringPart (escaped : Bool) (b : UInt8) : StringEnd :=
  if escaped then .pending false
  else if b = '"'.toUInt8 then .closed
  else .pending (b = '\\'.toUInt8)

/-- One byte of `skip_nested_part`: the nesting after it, `none` when the value is closed. -/
def skipNestedPart (depth : Nat) (inString escaped : Bool) (b : UInt8) :
    Option (Nat × Bool × Bool) :=
  if inString then
    match stringPart escaped b with
    | .closed => some (depth, false, false)
    | .pending escaped => some (depth, true, escaped)
  else if b = '"'.toUInt8 then some (depth, true, false)
  else if b = '{'.toUInt8 || b = '['.toUInt8 then some (depth + 1, false, false)
  else if b = '}'.toUInt8 || b = ']'.toUInt8 then
    if depth - 1 = 0 then none else some (depth - 1, false, false)
  else some (depth, false, false)

def fromUtf8 (bytes : List UInt8) : Option String := String.fromUTF8? bytes.toByteArray

def hexDigit (b : UInt8) : Option Nat :=
  if isAsciiDigit b then some (b.toNat - '0'.toNat)
  else if 'a'.toUInt8 ≤ b && b ≤ 'f'.toUInt8 then some (b.toNat - 'a'.toNat + 10)
  else if 'A'.toUInt8 ≤ b && b ≤ 'F'.toUInt8 then some (b.toNat - 'A'.toNat + 10)
  else none

/-- `u32::from_str_radix(_, 16)` of four bytes, which may begin with a plus. -/
def fromHex (a b c d : UInt8) : Option Nat :=
  let digits := if a = '+'.toUInt8 then [b, c, d] else [a, b, c, d]
  digits.foldlM (fun n x => (hexDigit x).map (n * 16 + ·)) 0

def charFromU32 (code : Nat) : Option Char :=
  if code.isValidChar then some (Char.ofNat code) else none

def escaped (letter : UInt8) : Option UInt8 :=
  if letter = '"'.toUInt8 then some '"'.toUInt8
  else if letter = '\\'.toUInt8 then some '\\'.toUInt8
  else if letter = '/'.toUInt8 then some '/'.toUInt8
  else if letter = 'b'.toUInt8 then some 8
  else if letter = 'f'.toUInt8 then some 12
  else if letter = 'n'.toUInt8 then some '\n'.toUInt8
  else if letter = 'r'.toUInt8 then some '\r'.toUInt8
  else if letter = 't'.toUInt8 then some '\t'.toUInt8
  else none

def unescapeBytes : List UInt8 → Option (List UInt8)
  | [] => some []
  | b :: rest =>
    if b = '\\'.toUInt8 then
      match rest with
      | [] => none
      | letter :: rest =>
        if letter = 'u'.toUInt8 then
          match rest with
          | h₁ :: h₂ :: h₃ :: h₄ :: rest => do
            let code ← fromHex h₁ h₂ h₃ h₄
            if 0xD800 ≤ code ∧ code < 0xDC00 then
              match rest with
              | s :: u :: l₁ :: l₂ :: l₃ :: l₄ :: rest =>
                if s = '\\'.toUInt8 ∧ u = 'u'.toUInt8 then do
                  let low ← fromHex l₁ l₂ l₃ l₄
                  if 0xDC00 ≤ low ∧ low < 0xE000 then do
                    let ch ← charFromU32 (0x10000 + (code - 0xD800) * 0x400 + (low - 0xDC00))
                    let out ← unescapeBytes rest
                    return String.utf8EncodeChar ch ++ out
                  else none
                else none
              | _ => none
            else do
              let ch ← charFromU32 code
              let out ← unescapeBytes rest
              return String.utf8EncodeChar ch ++ out
          | _ => none
        else do
          let c ← escaped letter
          let out ← unescapeBytes rest
          return c :: out
    else do
      let out ← unescapeBytes rest
      return b :: out

/-- `none` for an escape that is not JSON. -/
def unescape (raw : List UInt8) : Option String :=
  if '\\'.toUInt8 ∈ raw then (unescapeBytes raw).bind fromUtf8 else fromUtf8 raw

namespace FieldScanner

def get (s : FieldScanner) (key : String) : Option Scalar :=
  if key ∈ s.keys then (s.values.find? (·.1 = key)).map (·.2) else none

def finish (s : FieldScanner) (p : Progress) : FieldScanner :=
  { s with state := .done p, token := [] }

def wantedKey (s : FieldScanner) : Option String :=
  if '\\'.toUInt8 ∈ s.token then none
  else (s.keys.find? (·.toUTF8.data.toList = s.token)).filter (· ∉ s.values.map (·.1))

def record (s : FieldScanner) (key : String) (value : Scalar) : FieldScanner :=
  if key ∈ s.values.map (·.1) then s else { s with values := s.values ++ [(key, value)] }

def settle (s : FieldScanner) : FieldScanner :=
  if s.values.length = s.keys.length then s.finish .complete else { s with state := .afterValue }

/-- A byte of a value that is captured. Beyond the limit the copy is dropped. -/
def capture (s : FieldScanner) (b : UInt8) : FieldScanner :=
  match s.capturing with
  | none => s
  | some w =>
    if s.token.length + 1 > s.captureLimit then
      { s with capturing := none, token := [] }.record w .compound
    else { s with token := s.token ++ [b] }

def closeNested (s : FieldScanner) : FieldScanner :=
  match s.capturing with
  | none => s.settle
  | some w => ({ s with capturing := none, token := [] }.record w (.raw s.token)).settle

def beginValue (s : FieldScanner) (wanted : Option String) (b : UInt8) : FieldScanner :=
  if b = '"'.toUInt8 then { s with state := .inString false wanted }
  else if b = '{'.toUInt8 || b = '['.toUInt8 then
    let s := { s with state := .inNested 1 false false }
    match wanted with
    | none => s
    | some w =>
      if s.captureCompound then { s with token := [b], capturing := some w }
      else s.record w .compound
  else if b = ','.toUInt8 || b = '}'.toUInt8 || b = ']'.toUInt8 || b = ':'.toUInt8 then
    s.finish .invalid
  else { s with state := .inBare wanted true, token := [b] }

def afterValue (s : FieldScanner) (b : UInt8) : FieldScanner :=
  if isWs b then s
  else if b = ','.toUInt8 then { s with state := .expectKey }
  else if b = '}'.toUInt8 then s.finish .complete
  else s.finish .invalid

/-- A bare value ends where another byte stands, which is read after it. -/
def endBare (s : FieldScanner) (wanted : Option String) (b : UInt8) : FieldScanner :=
  match bareValue s.token with
  | none => s.finish .invalid
  | some value =>
    match wanted with
    | none => { s with state := .afterValue }.afterValue b
    | some w =>
      let s := (s.record w value).settle
      if s.state = .afterValue then s.afterValue b else s

def step (s : FieldScanner) (b : UInt8) : FieldScanner :=
  match s.state with
  | .start =>
    if isWs b then s
    else if b = '{'.toUInt8 then { s with state := .expectKey }
    else s.finish .invalid
  | .expectKey =>
    if isWs b then s
    else if b = '"'.toUInt8 then { s with token := [], state := .inKey false }
    else if b = '}'.toUInt8 then s.finish .complete
    else s.finish .invalid
  | .inKey esc =>
    match stringPart esc b with
    | .closed => { s with current := s.wantedKey, state := .expectColon }
    | .pending esc => { s with token := s.token ++ [b], state := .inKey esc }
  | .expectColon =>
    if isWs b then s
    else if b = ':'.toUInt8 then { s with state := .expectValue }
    else s.finish .invalid
  | .expectValue =>
    if isWs b then s else { s with current := none, token := [] }.beginValue s.current b
  | .inString esc wanted =>
    match stringPart esc b, wanted with
    | .closed, none => { s with state := .afterValue }
    | .closed, some w =>
      match unescape s.token with
      | none => s.finish .invalid
      | some text => (s.record w (.str text)).settle
    | .pending esc, none => { s with state := .inString esc none }
    | .pending esc, some w => { s with token := s.token ++ [b], state := .inString esc (some w) }
  | .inBare wanted kept =>
    if isBareEnd b then s.endBare wanted b
    else if kept then { s with token := s.token ++ [b] }
    else s
  | .inNested depth inString esc =>
    let s := s.capture b
    match skipNestedPart depth inString esc b with
    | some (depth, inString, esc) => { s with state := .inNested depth inString esc }
    | none => s.closeNested
  | .afterValue => s.afterValue b
  | .done _ => s

/-- Literals are short; of a number that is not wanted, later runs are left out. -/
def newChunk (s : FieldScanner) : FieldScanner :=
  match s.state with
  | .inBare wanted _ =>
    { s with state := .inBare wanted (wanted.isSome || decide (s.token.length < 8)) }
  | _ => s

def reader : Reader FieldScanner UInt8 where
  step := step
  mark := newChunk

def feed (s : FieldScanner) (chunk : List UInt8) : FieldScanner := reader.feed s chunk

def progress (s : FieldScanner) : Progress :=
  match s.state with
  | .done p => p
  | _ => .needMore

end FieldScanner

end Portus.DataPlane.Scan

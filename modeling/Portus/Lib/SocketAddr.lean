import Portus.Lib.Text

/-!
# Socket addresses and their text form

`std::net::SocketAddr` and the parser behind its `FromStr`: a dotted IPv4 address
or a bracketed IPv6 address, a colon and a port. A bare IPv6 address followed by
a colon and a port is not in the language, so it does not parse.
-/

namespace Portus.Lib

/-- An IPv4 or IPv6 address with a port. The flow label of a parsed IPv6 address is 0. -/
inductive SocketAddr where
  | v4 (octets : List Nat) (port : Nat)
  | v6 (segments : List Nat) (port : Nat) (scopeId : Nat)
deriving DecidableEq

namespace SocketAddr

abbrev Reader (α : Type) := List Char → Option (α × List Char)

def toDigit (radix : Nat) (c : Char) : Option Nat :=
  let v := c.toNat
  let d :=
    if 48 ≤ v ∧ v ≤ 57 then v - 48
    else if 97 ≤ v ∧ v ≤ 122 then v - 97 + 10
    else if 65 ≤ v ∧ v ≤ 90 then v - 65 + 10
    else 36
  if d < radix then some d else none

def takeDigits (radix : Nat) : List Char → List Nat × List Char
  | [] => ([], [])
  | c :: cs =>
    match toDigit radix c with
    | none => ([], c :: cs)
    | some d => let (ds, rest) := takeDigits radix cs; (d :: ds, rest)

def readNumber (radix : Nat) (maxDigits : Option Nat) (allowZeroPrefix : Bool) (bound : Nat) :
    Reader Nat := fun cs =>
  let (ds, rest) := takeDigits radix cs
  let value := ds.foldl (fun n d => n * radix + d) 0
  if ds.isEmpty then none
  else if maxDigits.any (· < ds.length) then none
  else if !allowZeroPrefix && ds.head? == some 0 && 1 < ds.length then none
  else if value < bound then some (value, rest)
  else none

def readGivenChar (c : Char) : Reader Unit
  | [] => none
  | x :: rest => if x = c then some ((), rest) else none

def readSeparator {α : Type} (sep : Char) (index : Nat) (inner : Reader α) : Reader α := fun cs =>
  if 0 < index then
    match readGivenChar sep cs with
    | none => none
    | some (_, rest) => inner rest
  else inner cs

def readOctets : Nat → Nat → Reader (List Nat)
  | 0, _ => fun cs => some ([], cs)
  | n + 1, i => fun cs =>
    match readSeparator '.' i (readNumber 10 (some 3) false 256) cs with
    | none => none
    | some (o, rest) =>
      match readOctets n (i + 1) rest with
      | none => none
      | some (os, rest) => some (o :: os, rest)

def readIpv4Addr : Reader (List Nat) := readOctets 4 0

/-- Up to `n` groups of an IPv6 address starting at group `i`, the last two of which may be
written as an IPv4 address; the flag says whether they were. -/
def readGroups : Nat → Nat → List Char → List Nat × Bool × List Char
  | 0, _, cs => ([], false, cs)
  | n + 1, i, cs =>
    let ipv4 := if 0 < n then readSeparator ':' i readIpv4Addr cs else none
    match ipv4 with
    | some ([a, b, c, d], rest) => ([a * 256 + b, c * 256 + d], true, rest)
    | _ =>
      match readSeparator ':' i (readNumber 16 (some 4) true 65536) cs with
      | none => ([], false, cs)
      | some (g, rest) => let (gs, inV4, rest) := readGroups n (i + 1) rest; (g :: gs, inV4, rest)

def readIpv6Addr : Reader (List Nat) := fun cs =>
  match readGroups 8 0 cs with
  | (head, inV4, rest) =>
    if head.length = 8 then some (head, rest)
    else if inV4 then none
    else
      match rest with
      | ':' :: ':' :: rest =>
        match readGroups (8 - (head.length + 1)) 0 rest with
        | (tail, _, rest) =>
          some (head ++ List.replicate (8 - head.length - tail.length) 0 ++ tail, rest)
      | _ => none

def readPort : Reader Nat := fun cs =>
  match readGivenChar ':' cs with
  | none => none
  | some (_, rest) => readNumber 10 none true 65536 rest

def readScopeId (cs : List Char) : Nat × List Char :=
  match readGivenChar '%' cs with
  | none => (0, cs)
  | some (_, rest) =>
    match readNumber 10 none true (2 ^ 32) rest with
    | none => (0, cs)
    | some (id, rest) => (id, rest)

def readSocketAddrV4 : Reader SocketAddr := fun cs =>
  match readIpv4Addr cs with
  | none => none
  | some (ip, rest) =>
    match readPort rest with
    | none => none
    | some (port, rest) => some (.v4 ip port, rest)

def readSocketAddrV6 : Reader SocketAddr := fun cs =>
  match readGivenChar '[' cs with
  | none => none
  | some (_, rest) =>
    match readIpv6Addr rest with
    | none => none
    | some (ip, rest) =>
      match readScopeId rest with
      | (scope, rest) =>
        match readGivenChar ']' rest with
        | none => none
        | some (_, rest) =>
          match readPort rest with
          | none => none
          | some (port, rest) => some (.v6 ip port scope, rest)

def parse (s : String) : Option SocketAddr :=
  let found :=
    match readSocketAddrV4 s.toList with
    | some r => some r
    | none => readSocketAddrV6 s.toList
  match found with
  | some (addr, []) => some addr
  | _ => none

example : parse "10.0.0.1:8080" = some (.v4 [10, 0, 0, 1] 8080) := by decide +kernel

example : parse "[fd00::1]:8080" = some (.v6 [0xfd00, 0, 0, 0, 0, 0, 0, 1] 8080 0) := by decide +kernel

example : parse "fd00::1:8080" = none := by decide +kernel

/-- The order of addresses: IPv4 before IPv6, then the address, then the port, then the scope. -/
def sortKey : SocketAddr → List Nat
  | .v4 octets port => 0 :: octets ++ [port]
  | .v6 segments port scope => 1 :: segments ++ [port, scope]

end SocketAddr

end Portus.Lib

import Portus.Proto

/-!
# Verifying tokens

The data plane keeps the keys of each issuer as the configuration carried them
(`jwksFromEntries`) and verifies a token with the keys of the provider's issuer
(`verifyClaims`). Parsing JSON and tokens and checking signatures belong to libraries
(`JwtLibs`).
-/

namespace Portus.DataPlane

open Portus Lib Proto

inductive JwtAlgorithm where
  | hs256 | hs384 | hs512 | rs256 | rs384 | rs512 | ps256 | ps384 | ps512 | es256 | es384 | edDSA
deriving DecidableEq

inductive KeyAlgorithm where
  | rs256 | rs384 | rs512 | ps256 | ps384 | ps512 | es256 | es384 | edDSA
  /-- Symmetric and encryption algorithms. -/
  | other

inductive EllipticCurve where
  | p256 | p384 | p521 | ed25519

inductive AlgorithmParameters where
  | rsa
  | ellipticCurve (curve : EllipticCurve)
  | octetKeyPair
  | octetKey

/-- A published key; `material` is what the library makes a decoding key of. -/
structure Jwk where
  keyId : Option String
  keyAlgorithm : Option KeyAlgorithm
  algorithm : AlgorithmParameters
  material : String

structure JwtLibs (Key Claims : Type) where
  /-- The keys of a JWKS document. -/
  parseJwkSet : String → Option (List Jwk)
  decodingKey : Jwk → Option Key
  /-- Algorithm and key id of a token. -/
  decodeHeader : String → Option (JwtAlgorithm × Option String)
  /-- The claims of a token that has this signature, issuer and audience and is in time. -/
  decode : String → Key → JwtAlgorithm → String → List String → Option Claims
  exp : Claims → Option Nat
  /-- The empty text is no JSON document. -/
  parse_empty : parseJwkSet "" = none

variable {Key Claims : Type} (libs : JwtLibs Key Claims)

def algorithmOf : KeyAlgorithm → Option JwtAlgorithm
  | .rs256 => some .rs256
  | .rs384 => some .rs384
  | .rs512 => some .rs512
  | .ps256 => some .ps256
  | .ps384 => some .ps384
  | .ps512 => some .ps512
  | .es256 => some .es256
  | .es384 => some .es384
  | .edDSA => some .edDSA
  | .other => none

def algorithmOfJwk (jwk : Jwk) : Option JwtAlgorithm :=
  match jwk.keyAlgorithm, jwk.algorithm with
  | some a, _ => algorithmOf a
  | none, .rsa => some .rs256
  | none, .ellipticCurve .p256 => some .es256
  | none, .ellipticCurve .p384 => some .es384
  | none, .ellipticCurve _ => none
  | none, .octetKeyPair => some .edDSA
  | none, .octetKey => none

abbrev IssuerKeySet (Key : Type) := List (Option String × JwtAlgorithm × Key)

def keySetOf (jwks : List Jwk) : IssuerKeySet Key :=
  jwks.filterMap fun jwk => do
    let alg ← algorithmOfJwk jwk
    let key ← libs.decodingKey jwk
    pure (jwk.keyId, alg, key)

/-- The key sets of the issuers; a document that does not parse leaves its issuer without. -/
def jwksFromEntries (entries : List IssuerKeys) : Table String (IssuerKeySet Key) :=
  Table.collect <| entries.filterMap fun e =>
    (libs.parseJwkSet e.jwksJson).map fun set => (e.issuer, keySetOf libs set)

/-- A key fits the header of a token: same algorithm, and same id where both have one. -/
def keyFits (header : JwtAlgorithm × Option String) (k : Option String × JwtAlgorithm × Key) :
    Bool :=
  k.2.1 == header.1 &&
    match header.2, k.1 with
    | some h, some id => h == id
    | _, _ => true

def verifyClaims (token issuer : String) (audiences : List String)
    (jwks : Table String (IssuerKeySet Key)) (now : Nat) : Option (Claims × Nat) := do
  let header ← libs.decodeHeader token
  let keys ← jwks.lookup issuer
  let claims ← (keys.filter (keyFits header)).findSome? fun k =>
    libs.decode token k.2.2 header.1 issuer audiences
  let exp ← libs.exp claims
  if exp ≤ now then none else some (claims, exp)

end Portus.DataPlane

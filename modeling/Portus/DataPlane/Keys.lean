import Portus.DataPlane.Jwt
import Portus.DataPlane.Router

/-!
# API keys on the request path

`portus-dataplane-core/src/ai/keys.rs`: a caller presents a key, which is looked up by its hash
in the snapshot the ledger pushed (`authorize`), and the allow lists of what was found decide
about the model or the tool the request names (`checkAccess`). On a route with `auth.onBehalfOf`
a trusted caller may name the user it acts for (`OnBehalfOf.user`).
-/

namespace Portus.DataPlane.Ai

open Portus Lib

structure Sha256 where
  digest : String → List UInt8
  length_digest : ∀ s, (digest s).length = 32

/-- A stand-in for examples: the first bytes of the text. -/
def Sha256.firstBytes : Sha256 where
  digest s := (s.toUTF8.data.toList ++ List.replicate 32 0).take 32
  length_digest s := by simp

structure KeyInfo where
  id : UInt64
  tenant : String
  name : String
  /-- Empty: any model. -/
  allowedModels : List String := []
  /-- Empty: any tool. -/
  allowedTools : List String := []
  /-- 0: never. -/
  expiresUnixSecs : UInt64 := 0
  tokenLimit : UInt64 := 0
  callLimit : UInt64 := 0
  labels : List (String × String) := []
deriving DecidableEq

def KeyInfo.liveAt (info : KeyInfo) (now : UInt64) : Bool :=
  info.expiresUnixSecs == 0 || decide (now < info.expiresUnixSecs)

structure OnBehalfOf where
  header : String
  trustedKeys : List String

/-- One entry of `trustedKeys`: a label, a tenant and name, all of a tenant, or a name. -/
def trustedBy (entry : String) (info : KeyInfo) : Bool :=
  match Text.stripPrefix "label:" entry with
  | some label =>
    match Text.splitOnce '=' label with
    | some (key, value) => info.labels.any fun l => l.1 == key && l.2 == value
    | none => false
  | none =>
    match Text.splitOnce '/' entry with
    | some (tenant, "*") => !tenant.isEmpty && tenant == info.tenant
    | some (tenant, name) => tenant == info.tenant && name == info.name
    | none => entry == info.name

namespace OnBehalfOf

def trusts (policy : OnBehalfOf) (info : KeyInfo) : Bool :=
  policy.trustedKeys.any fun entry => trustedBy entry info

def isControl (c : Char) : Bool := c.toNat < 0x20 || (0x7F ≤ c.toNat && c.toNat < 0xA0)

def named (policy : OnBehalfOf) (facts : RequestFacts) : Option String :=
  ((facts.headerStr policy.header).map Text.trim).filter fun v =>
    !v.isEmpty && decide (v.utf8ByteSize ≤ 64) && v.toList.all fun c => !isControl c

def user (policy : OnBehalfOf) (facts : RequestFacts) (info : KeyInfo) : Option String :=
  if policy.trusts info then policy.named facts else none

end OnBehalfOf

structure KeyEntry where
  id : UInt64
  hashSha256 : List UInt8
  tenant : String
  name : String
  allowedModels : List String
  allowedTools : List String
  expiresUnixSecs : UInt64
  tokenLimit : UInt64
  callLimit : UInt64
  labels : Table String String

structure KeySnapshot where
  version : Nat
  keys : List KeyEntry
  issuers : List Proto.IssuerKeys := []

def KeyEntry.info (k : KeyEntry) : KeyInfo where
  id := k.id
  tenant := k.tenant
  name := k.name
  allowedModels := k.allowedModels
  allowedTools := k.allowedTools
  expiresUnixSecs := k.expiresUnixSecs
  tokenLimit := k.tokenLimit
  callLimit := k.callLimit
  labels := k.labels.pairs.mergeSort fun a b => decide (a.1 ≤ b.1)

structure KeySet (Key : Type) where
  version : Nat := 0
  keys : Table (List UInt8) KeyInfo := ∅
  jwks : Table String (IssuerKeySet Key) := ∅

namespace KeySet

variable {Key : Type}

/-- Entries whose hash is no SHA-256 are left out. -/
def fromSnapshot {Claims : Type} (libs : JwtLibs Key Claims) (snapshot : KeySnapshot) :
    KeySet Key where
  version := snapshot.version
  keys := Table.collect <| (snapshot.keys.filter (·.hashSha256.length == 32)).map fun k =>
    (k.hashSha256, k.info)
  jwks := jwksFromEntries libs snapshot.issuers

def isEmpty (set : KeySet Key) : Bool := set.keys.pairs.isEmpty

def find (sha : Sha256) (set : KeySet Key) (key : String) : Option KeyInfo :=
  set.keys.lookup (sha.digest key)

end KeySet

def presentedKey (facts : RequestFacts) : Option String :=
  match facts.header "x-api-key" with
  | some v => ((String.fromUTF8? v).map Text.trim).filter (!·.isEmpty)
  | none => do
    let auth ← facts.headerStr "authorization"
    let (scheme, token) ← Text.splitOnce ' ' (Text.trim auth)
    if Text.eqIgnoreAsciiCase scheme "bearer" then
      (some (Text.trim token)).filter (!·.isEmpty)
    else none

inductive Refusal where
  | unauthenticated
  | modelNotAllowed
  | toolNotAllowed
deriving DecidableEq

inductive Access where
  | model (model : Option String)
  | toolCall (tool : Option String)
  | other

def toolAllowed (allowed : List String) (tool : String) : Bool :=
  allowed.any fun a => a == tool ||
    match Text.stripSuffix "*" a with
    | some p => decide (p.utf8ByteSize < tool.utf8ByteSize) && Text.startsWith tool p
    | none => false

def checkAccess (info : KeyInfo) : Access → Except Refusal Unit
  | .model model =>
    if info.allowedModels.isEmpty then .ok ()
    else
      match model with
      | some m => if info.allowedModels.contains m then .ok () else .error .modelNotAllowed
      | none => .error .modelNotAllowed
  | .toolCall tool =>
    if info.allowedTools.isEmpty then .ok ()
    else
      match tool with
      | some t => if toolAllowed info.allowedTools t then .ok () else .error .toolNotAllowed
      | none => .error .toolNotAllowed
  | .other => .ok ()

def authorize {Key : Type} (sha : Sha256) (keys : KeySet Key) (facts : RequestFacts)
    (access : Access) (now : UInt64) : Except Refusal KeyInfo := do
  match presentedKey facts with
  | none => .error .unauthenticated
  | some presented =>
    match (keys.find sha presented).filter (·.liveAt now) with
    | none => .error .unauthenticated
    | some info =>
      checkAccess info access
      return info

end Portus.DataPlane.Ai

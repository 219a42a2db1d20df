import Portus.DataPlane.Tokens

/-!
# The caller of an AI request

The part of `handle` (`portus-dataplane/src/rama/proxy.rs`) between the plan and the budgets: what
the request wants from the caller's allow lists (`accessOf`), who the caller is (`identify`: a
token on a route with `auth.jwt`, else a key), and what the row of the request says about them
(`admitCaller`), whether the lists let the request pass or not.
-/

namespace Portus.DataPlane.Ai

open Lib

inductive Dialect where
  | anthropic
  | openAi
  | mcp

structure AiRoute where
  dialect : Dialect
  keyRequired : Bool
  jwt : Option JwtPolicy := none
  onBehalfOf : Option OnBehalfOf := none

abbrev BodyFields := List (String × String)

def field (fields : Option BodyFields) (key : String) : Option String :=
  (fields.bind fun f => f.find? (·.1 == key)).map (·.2)

def accessOf (dialect : Dialect) (fields : Option BodyFields) : Access :=
  match dialect with
  | .mcp =>
    if field fields "method" = some "tools/call" then .toolCall (field fields "tool") else .other
  | _ => .model (field fields "model")

structure Ledger (Key : Type) where
  keys : KeySet Key
  tokens : TokenCache

structure Caller where
  info : KeyInfo
  /-- The caller proved itself with a token. -/
  viaJwt : Bool
  /-- The user the request is charged to in place of the caller. -/
  onBehalfOf : Option String
deriving DecidableEq

structure Admission (Key : Type) where
  ledger : Option (Ledger Key)
  refusal : Option Refusal := none
  caller : Option Caller := none

section

variable {Key : Type} (sha : Sha256) (libs : Nat → JwtLibs Key Claims) (ai : AiRoute)

/-- The ledger after the request, whether a token was presented, and who it identifies. -/
def identify (ledger : Option (Ledger Key)) (facts : RequestFacts) (now : UInt64) :
    Option (Ledger Key) × Bool × Except Refusal KeyInfo :=
  match ledger with
  | none => (none, false, .error .unauthenticated)
  | some l =>
    let byKey := (some l, false, authorize sha l.keys facts .other now)
    match ai.jwt, presentedKey facts with
    | some policy, some token =>
      if looksLikeJwt token then
        let (tokens, info) := l.tokens.getOrVerify sha libs token policy l.keys.jwks now.toNat
        (some { l with tokens }, true,
          match info with
          | some info => .ok info
          | none => .error .unauthenticated)
      else byKey
    | _, _ => byKey

def admitCaller (ledger : Option (Ledger Key)) (facts : RequestFacts) (access : Access)
    (now : UInt64) : Admission Key :=
  if ai.keyRequired then
    match identify sha libs ai ledger facts now with
    | (ledger, _, .error refusal) => { ledger, refusal := some refusal }
    | (ledger, viaJwt, .ok info) =>
      let caller : Caller :=
        { info, viaJwt, onBehalfOf := ai.onBehalfOf.bind fun policy => policy.user facts info }
      { ledger
        refusal :=
          match checkAccess info access with
          | .ok () => none
          | .error refusal => some refusal
        caller := some caller }
  else { ledger }

end

end Portus.DataPlane.Ai

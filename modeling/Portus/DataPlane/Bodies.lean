import Portus.DataPlane.Callers
import Portus.DataPlane.Handling
import Portus.DataPlane.Scan

/-!
# Bodies of AI requests

A request to a host with AI routes is planned again once its body has been looked into
(`scan_body`, `portus-dataplane/src/rama/body.rs`): the scanner of `body_scanner` is fed the frames
of the body until it is done, at most `AI_BODY_SCAN_LIMIT` bytes are held for it, and what it found
becomes the fields of the request (`body_fields_from`, `portus-dataplane-core/src/plan.rs`; the tool
of an MCP call by `tool_name`, `ai/mcp.rs`). A request that is let in goes on with the frames that
were held and the rest of its body (`handle`, `portus-dataplane/src/rama/proxy.rs`).
-/

namespace Portus.DataPlane.Ai

open Lib Scan Handling

def paramsCaptureLimit : Nat := 64 * 1024

def nameScanner : FieldScanner where
  keys := ["name"]

def toolName (params : List UInt8) : Option String :=
  if (nameScanner.feed params).progress = .invalid then none
  else ((nameScanner.feed params).get "name").bind Scalar.asStr

structure BodyNeed where
  keys : List String
  maxBytes : Nat

def aiBodyKeys : List String := ["model", "stream", "max_tokens", "method", "id", "params"]

def aiBodyScanLimit : Nat := 8 * 1024 * 1024

def aiBodyNeed : BodyNeed := ⟨aiBodyKeys, aiBodyScanLimit⟩

def bodyScanner (need : BodyNeed) : FieldScanner where
  keys := need.keys
  captureCompound := true
  captureLimit := paramsCaptureLimit

def scalarText : Scalar → Option String
  | .str text => some text
  | .bool b => some (if b then "true" else "false")
  | .num text => some text
  | .null => some "null"
  | .compound | .raw _ => none

/-- The field a key gives. A text under `id` is written as JSON again. -/
def scannedField (toJson : String → String) (s : FieldScanner) (key : String) :
    Option (String × String) :=
  match s.get key with
  | none => none
  | some (.str text) => some (key, if key = "id" then toJson text else text)
  | some (.raw raw) => if key = "params" then (toolName raw).map ("tool", ·) else none
  | some value => (scalarText value).map (key, ·)

def bodyFieldsFrom (toJson : String → String) (s : FieldScanner) (need : BodyNeed) : BodyFields :=
  need.keys.filterMap (scannedField toJson s)

/-- The loop of `scan_body` over the frames: the scanner, and the frames that go on. -/
def readFrames (maxBytes : Nat) (s : FieldScanner) (held : List (List UInt8)) (heldLen : Nat) :
    List (List UInt8) → Except Nat (FieldScanner × List (List UInt8))
  | [] => .ok (s, held)
  | frame :: rest =>
    if heldLen + frame.length > maxBytes then .error 413
    else if (s.feed frame).progress = .needMore then
      readFrames maxBytes (s.feed frame) (held ++ [frame]) (heldLen + frame.length) rest
    else .ok (s.feed frame, held ++ [frame] ++ rest)

def scanBody (toJson : String → String) (need : BodyNeed) (frames : List (List UInt8)) :
    Except Nat (BodyFields × List (List UInt8)) :=
  (readFrames need.maxBytes (bodyScanner need) [] 0 frames).map fun (s, replay) =>
    (bodyFieldsFrom toJson s need, replay)

def requestFields (toJson : String → String) (facts : RequestFacts) (frames : List (List UInt8)) :
    Except Nat (Option BodyFields × List (List UInt8)) :=
  if facts.hasRequestBody then
    (scanBody toJson aiBodyNeed frames).map fun (fields, replay) => (some fields, replay)
  else .ok (none, frames)

/-- Who called and the body that is sent to the backend, when the body is not written anew for a
fallback model. Federated routes, whose members are called instead, are not modelled. -/
def handle {Key : Type} (sha : Sha256) (libs : Nat → JwtLibs Key Claims)
    (toJson : String → String) (ai : AiRoute) (ledger : Option (Ledger Key)) (facts : RequestFacts)
    (frames : List (List UInt8)) (now : UInt64) (budget : BudgetOutcome) :
    Option (Caller × List (List UInt8)) :=
  match requestFields toJson facts frames with
  | .error _ => none
  | .ok (fields, body) =>
    let admission := admitCaller sha libs ai ledger facts (accessOf ai.dialect fields) now
    if admission.refusal = none ∧ budget = .allowed then admission.caller.map (·, body) else none

end Portus.DataPlane.Ai

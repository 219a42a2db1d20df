import Portus.Lib.Text
import Portus.Store

/-!
# The matches of route rules

What the rules of an HTTPRoute, a GRPCRoute and an AIRoute match on, as their specs write
it (`gateway_types.rs`, `ai_types.rs`), and how the reconcilers turn it into the state
the compiler reads. A regular expression is tried with the size limit the data plane uses
(`regexBuilds`), except in the body matches of an AIRoute, which are tried without one
(`regexNew`).
-/

namespace Portus.Reconcilers

open Portus Lib

structure HTTPPathMatch where
  matchType : Option String := none
  value : Option String := none

structure NamedMatch where
  matchType : Option String := none
  name : String
  value : String

structure HTTPRouteMatch where
  path : Option HTTPPathMatch := none
  headers : List NamedMatch := []
  method : Option String := none
  queryParams : List NamedMatch := []

/-- An entry with its type spelled out. -/
def NamedMatch.state (m : NamedMatch) : String × String × String :=
  (m.name, m.value, m.matchType.getD "Exact")

def HTTPPathMatch.state (p : HTTPPathMatch) : String × String :=
  (p.value.getD "/",
    match p.matchType.getD "PathPrefix" with
    | "PathPrefix" => "Prefix"
    | other => other)

section Regex

variable (regexBuilds : String → Bool)

def invalidRegex (matchType value : String) : Bool :=
  matchType == "RegularExpression" && !regexBuilds value

/-- A query parameter of an unsupported type is skipped, and so is a regular expression that does
not build. -/
def convertQueryParam (q : NamedMatch) : Option (String × String × String) :=
  match q.matchType.getD "Exact" with
  | "Exact" => some (q.name, q.value, "Exact")
  | "RegularExpression" =>
    if regexBuilds q.value then some (q.name, q.value, "RegularExpression") else none
  | _ => none

def convertMatch (m : HTTPRouteMatch) : HTTPRouteMatchState where
  path := m.path.map HTTPPathMatch.state
  headers := m.headers.map NamedMatch.state
  method := m.method
  queryParams := m.queryParams.filterMap (convertQueryParam regexBuilds)

/-- A path, a header or a query parameter has a regular expression that does not build. -/
def hasInvalidRegex (m : HTTPRouteMatch) : Bool :=
  (m.path.any fun p => invalidRegex regexBuilds p.state.2 p.state.1) ||
    (m.headers ++ m.queryParams).any fun h =>
      invalidRegex regexBuilds (h.matchType.getD "Exact") h.value

/-- The matches of a rule, one for every path when there are none, and whether some regular
expression of them is invalid. -/
def convertMatches (specMatches : List HTTPRouteMatch) : List HTTPRouteMatchState × Bool :=
  let results := specMatches.map (convertMatch regexBuilds)
  (if results.isEmpty then [{ path := some ("/", "Prefix") }] else results,
    specMatches.any (hasInvalidRegex regexBuilds))

end Regex

structure GRPCMethodMatch where
  matchType : Option String := none
  service : Option String := none
  method : Option String := none

structure GRPCRouteMatch where
  method : Option GRPCMethodMatch := none
  headers : List NamedMatch := []

def given (field : Option String) : Option String := field.filter (!·.isEmpty)

namespace GRPCRouteMatch

def givenService (m : GRPCRouteMatch) : Option String := m.method.bind (given ·.service)

def givenMethod (m : GRPCRouteMatch) : Option String := m.method.bind (given ·.method)

def methodMatchType (m : GRPCRouteMatch) : String :=
  (m.method.bind (given ·.matchType)).getD "Exact"

end GRPCRouteMatch

def convertGrpcMatch (m : GRPCRouteMatch) : GRPCRouteMatchState where
  service := m.givenService
  method := m.givenMethod
  matchType := m.methodMatchType
  headers := m.headers.map NamedMatch.state

def convertGrpcMatches (specMatches : List GRPCRouteMatch) : List GRPCRouteMatchState :=
  specMatches.map convertGrpcMatch

theorem given_ne_empty (h : given field = some s) : s ≠ "" := by
  have := (Option.filter_eq_some_iff.1 h).2
  simpa using this

theorem GRPCRouteMatch.givenService_ne_empty {m : GRPCRouteMatch} (h : m.givenService = some s) :
    s ≠ "" := by
  obtain ⟨mm, -, h⟩ := Option.bind_eq_some_iff.1 h
  exact given_ne_empty h

theorem GRPCRouteMatch.givenMethod_ne_empty {m : GRPCRouteMatch} (h : m.givenMethod = some s) :
    s ≠ "" := by
  obtain ⟨mm, -, h⟩ := Option.bind_eq_some_iff.1 h
  exact given_ne_empty h

structure AIStringMatch where
  matchType : Option String := none
  value : String

structure AIRouteMatch where
  path : Option HTTPPathMatch := none
  model : Option AIStringMatch := none
  stream : Option Bool := none
  method : Option AIStringMatch := none
  tool : Option AIStringMatch := none
  headers : List NamedMatch := []

inductive AIMatchError where
  | mixedDialects
  | regex (field value : String)
  | matchType (field other : String)

def modelHeader : String := "portus-body-model"
def streamHeader : String := "portus-body-stream"
def methodHeader : String := "portus-body-method"
def toolHeader : String := "portus-body-tool"

section BodyMatches

variable (regexNew : String → Bool) (escape : String → String)

/-- `Prefix` becomes a regular expression that starts with the escaped value. -/
def stringMatch (field : String) (m : AIStringMatch) : Except AIMatchError (String × String) :=
  match m.matchType.getD "Exact" with
  | "Exact" => .ok (m.value, "Exact")
  | "RegularExpression" =>
    if regexNew m.value then .ok (m.value, "RegularExpression") else .error (.regex field m.value)
  | "Prefix" => .ok ("^" ++ escape m.value, "RegularExpression")
  | other => .error (.matchType field other)

def bodyHeader (field header : String) (m : Option AIStringMatch) :
    Except AIMatchError (List (String × String × String)) :=
  match m with
  | none => .ok []
  | some m => do
    let (value, matchType) ← stringMatch regexNew escape field m
    pure [(header, value, matchType)]

def convertAiMatch (m : AIRouteMatch) : Except AIMatchError HTTPRouteMatchState := do
  if (m.model.isSome || m.stream.isSome) && (m.method.isSome || m.tool.isSome) then
    throw .mixedDialects
  let model ← bodyHeader regexNew escape "model" modelHeader m.model
  let stream := (m.stream.map fun b => (streamHeader, toString b, "Exact")).toList
  let method ← bodyHeader regexNew escape "method" methodHeader m.method
  let tool ← bodyHeader regexNew escape "tool" toolHeader m.tool
  pure
    { path := m.path.map fun p => (p.value.getD "/", p.matchType.getD "PathPrefix")
      headers := m.headers.map NamedMatch.state ++ model ++ stream ++ method ++ tool }

def convertAiMatches (specMatches : List AIRouteMatch) :
    List HTTPRouteMatchState × List AIMatchError :=
  let results := specMatches.map (convertAiMatch regexNew escape)
  (results.filterMap (·.toOption), results.filterMap fun
    | .error e => some e
    | .ok _ => none)

end BodyMatches

end Portus.Reconcilers

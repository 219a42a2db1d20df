import Portus.Lib.Text
import Portus.Store

/-!
# References across namespaces and hostname intersection

What the reconcilers and the compiler share (`reconcilers/mod.rs`): the check of a
cross-namespace reference against the ReferenceGrants of the namespace it points
into, the `allowedRoutes` check of a listener, and the intersection of a listener
hostname with a route hostname.
-/

namespace Portus.Reconcilers

open Portus Lib

def gatewayApiGroup : String := "gateway.networking.k8s.io"

/-- A same-namespace reference, or one that a grant in the target namespace lists. Only entries
for the core API group are looked at. -/
def isReferenceAllowedFrom (grants : Table NamespacedName ReferenceGrantState) (fromGroup
    fromNamespace fromKind toNamespace toKind : String) (toName : Option String) : Bool :=
  if fromNamespace = toNamespace then true
  else
    grants.values.any fun grant =>
      grant.namespaceName == toNamespace && grant.grantFrom.any fun gf =>
          gf.group == fromGroup && (gf.namespaceName == fromNamespace && gf.kind == fromKind) &&
            grant.grantTo.any fun gt =>
              gt.group.isEmpty && (gt.kind == toKind && (gt.name.isNone || gt.name == toName))

def isReferenceAllowed (grants : Table NamespacedName ReferenceGrantState)
    (fromNamespace fromKind toNamespace toKind : String) (toName : Option String) : Bool :=
  isReferenceAllowedFrom grants gatewayApiGroup fromNamespace fromKind toNamespace toKind toName

/-- A ReferenceGrant in `toNamespace` lets `fromKind` objects of `fromNamespace` refer to
`toName`. -/
def Permits (grants : Table NamespacedName ReferenceGrantState)
    (fromGroup fromNamespace fromKind toNamespace toKind : String) (toName : Option String) : Prop :=
  ∃ k grant, grants.lookup k = some grant ∧ grant.namespaceName = toNamespace ∧
    ⟨fromGroup, fromKind, fromNamespace⟩ ∈ grant.grantFrom ∧
    ∃ gt ∈ grant.grantTo, gt.group = "" ∧ gt.kind = toKind ∧ (gt.name = none ∨ gt.name = toName)

/-- Whether a listener's `allowedRoutes` admits routes of a namespace with these labels. -/
def namespaceAllowed (allowed : AllowedRoutesState) (routeNamespace gatewayNamespace : String)
    (routeNsLabels : Table String String) : Bool :=
  match allowed.namespacesFrom with
  | "Same" => routeNamespace == gatewayNamespace
  | "All" => true
  | "Selector" =>
    match allowed.namespaceSelector with
    | none => false
    | some labels => labels.all fun (k, v) => routeNsLabels.lookup k == some v
  | _ => false

def hostnameMatches (listener route : String) : Bool :=
  let l := Text.toAsciiLowercase listener
  let r := Text.toAsciiLowercase route
  let under (suffix host : String) : Option Bool :=
    ((Text.stripSuffix suffix host).bind (Text.stripSuffix ".")).map fun p => !p.isEmpty
  let routeWildcard : Bool :=
    match Text.stripPrefix "*." r with
    | some rSuffix => (under rSuffix l).getD false
    | none => false
  if l = r then true
  else
    match Text.stripPrefix "*." l with
    | some lSuffix =>
      match Text.stripPrefix "*." r with
      | some rSuffix =>
        lSuffix == rSuffix || Text.endsWith rSuffix ("." ++ lSuffix) ||
          Text.endsWith lSuffix ("." ++ rSuffix)
      | none => (under lSuffix r).getD routeWildcard
    | none => routeWildcard

def intersectHostnames (listener route : String) : Option String :=
  let lLower := Text.toAsciiLowercase listener
  let rLower := Text.toAsciiLowercase route
  let tail (s : String) : String := String.ofList (s.toList.drop 1)
  let longer (host suffix : String) : Bool :=
    Text.endsWith host suffix && suffix.utf8ByteSize < host.utf8ByteSize
  match Text.startsWith listener "*.", Text.startsWith route "*." with
  | false, false => if lLower = rLower then some lLower else none
  | true, false => if longer rLower (tail lLower) then some rLower else none
  | false, true => if longer lLower (tail rLower) then some lLower else none
  | true, true =>
    if tail lLower = tail rLower then some lLower
    else if Text.endsWith (tail rLower) (tail lLower) then some rLower
    else if Text.endsWith (tail lLower) (tail rLower) then some lLower
    else none

end Portus.Reconcilers

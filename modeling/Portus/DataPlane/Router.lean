import Mathlib.Data.Prod.Lex
import Portus.Lib.Precedence
import Portus.DataPlane.Plan

/-!
# Matching a request to a rule

The routing tables of a data plane (`build_listener_buckets_from_proto`) and the part of
`plan_request` that looks a request up in them: in the first bucket of its port that claims its
host, there in the most specific group, and there in the first rule that matches. Groups and
buckets are kept in hash maps, so the order in which they are walked is open (`MapOrders`).
-/

namespace Portus.DataPlane

open Portus Lib Proto

/-- Header names in canonical form, method names, and regular expressions. -/
structure RouterLibs where
  headerName : String → Option String
  method : String → Option String
  regexBuilds : String → Bool
  regexMatches : String → String → Bool

/-- Names and methods as they are, and no regular expressions. -/
def plainNames : RouterLibs := ⟨some, some, fun _ => false, fun _ _ => false⟩

inductive PathMatchType where
  | exact
  | pathPrefix
  | regularExpression
deriving DecidableEq

/-- How the value of a header or a query parameter is compared. -/
inductive ValueMatchType where
  | exact
  | regularExpression

structure ValueMatch where
  name : String
  value : String
  matchType : ValueMatchType

structure PathRoute where
  path : String
  matchType : PathMatchType
  headerMatches : List ValueMatch
  methodMatch : Option String
  queryParamMatches : List ValueMatch
  spec : RouteConfig

section Build

variable (libs : RouterLibs)

def parseMatchType (matchType path : String) : Option PathMatchType :=
  match matchType with
  | "Exact" => some .exact
  | "RegularExpression" => if libs.regexBuilds path then some .regularExpression else none
  | _ => some .pathPrefix

/-- A header match whose name is invalid is dropped; a regular expression that does not build is
compared as a text. -/
def headerMatchEntry (hm : HeaderMatch) : Option ValueMatch :=
  (libs.headerName hm.name).map fun name =>
    ⟨name, hm.value,
      if hm.matchType = "RegularExpression" ∧ libs.regexBuilds hm.value then .regularExpression
      else .exact⟩

/-- A query parameter match whose regular expression does not build is dropped. -/
def queryParamMatchEntry (qm : QueryParamMatch) : Option ValueMatch :=
  if qm.matchType = "RegularExpression" then
    if libs.regexBuilds qm.value then some ⟨qm.name, qm.value, .regularExpression⟩ else none
  else some ⟨qm.name, qm.value, .exact⟩

def makeRoute (spec : RouteConfig) (path : String) (matchType : PathMatchType) : PathRoute where
  path
  matchType
  headerMatches := spec.headerMatches.filterMap (headerMatchEntry libs)
  methodMatch := if spec.methodMatch.isEmpty then none else libs.method spec.methodMatch
  queryParamMatches := spec.queryParamMatches.filterMap (queryParamMatchEntry libs)
  spec

/-- The rules of a route: one for each path that can be matched, or one for every path. -/
def pathRoutes (spec : RouteConfig) : List PathRoute :=
  if spec.paths.isEmpty then [makeRoute libs spec "/" .pathPrefix]
  else spec.paths.filterMap fun pr =>
    (parseMatchType libs pr.matchType pr.path).map (makeRoute libs spec pr.path)

end Build

/-- Method first, then the number of headers, then the number of query parameters. -/
def specificity (r : PathRoute) : ℕ ×ₗ ℕ ×ₗ ℕ :=
  toLex (r.methodMatch.toList.length, toLex (r.headerMatches.length, r.queryParamMatches.length))

def prefixRank (r : PathRoute) : ℕ ×ₗ ℕ ×ₗ ℕ ×ₗ ℕ := toLex (r.path.utf8ByteSize, specificity r)

/-- The rules of a host: the exact ones by path, the others in order. There is no catch-all beside
them. Of the OAuth policy of the host only the presence is kept. -/
structure HostRoutes where
  exactMap : Table String (List PathRoute)
  rules : List PathRoute
  needsBody : Bool
  oauth : Bool

def bodyFieldHeaderPrefix : String := "portus-body-"

def routeNeedsBody (r : PathRoute) : Bool :=
  knownDialect r.spec.aiDialect ||
    r.headerMatches.any fun hm => Text.startsWith hm.name bodyFieldHeaderPrefix

def routeHasOauth (r : PathRoute) : Bool := knownDialect r.spec.aiDialect && r.spec.aiJwt.isSome

def hostRoutes (libs : RouterLibs) (specs : List RouteConfig) : HostRoutes :=
  let rules := specs.flatMap (pathRoutes libs)
  let exactRules := byRank specificity (rules.filter (·.matchType == .exact))
  let prefixRules := byRank prefixRank (rules.filter (·.matchType != .exact))
  let exactMap := Table.group (·.path) exactRules
  { exactMap
    rules := prefixRules
    needsBody := (exactMap.values.flatten ++ prefixRules).any routeNeedsBody
    oauth := (exactMap.values.flatten ++ prefixRules).any routeHasOauth }

/-- What is known of a request before routing. Headers are in the order received, with the bytes of
their values; `acmeChallenge` says that the path names a token an ACME client waits on. -/
structure RequestFacts where
  host : String
  path : String
  query : Option String := none
  method : String := "GET"
  headers : List (String × ByteArray) := []
  localPort : UInt16
  socketIsTls : Bool := false
  sni : Option String := none
  bodyFields : Option (List (String × String)) := none
  acmeChallenge : Bool := false

namespace RequestFacts

def header (facts : RequestFacts) (name : String) : Option ByteArray :=
  (facts.headers.find? fun h => Text.eqIgnoreAsciiCase h.1 name).map (·.2)

def headerStr (facts : RequestFacts) (name : String) : Option String :=
  (facts.header name).bind String.fromUTF8?

def hasRequestBody (facts : RequestFacts) : Bool :=
  (facts.header "transfer-encoding").isSome ||
    ((facts.headerStr "content-length").map fun cl => Text.trim cl != "0").getD false

/-- What a header match is compared with: a field of the body for a name with the prefix, else the
header. A value that is not a text counts as empty. -/
def matchedText (facts : RequestFacts) (name : String) : Option String :=
  match Text.stripPrefix bodyFieldHeaderPrefix name with
  | some key => (facts.bodyFields.bind fun fields => fields.find? (·.1 = key)).map (·.2)
  | none => (facts.header name).map fun v => (String.fromUTF8? v).getD ""

def queryPairs (facts : RequestFacts) : List (String × String) :=
  (Text.split '&' (facts.query.getD "")).map fun pair =>
    (Text.splitOnce '=' pair).getD (pair, "")

end RequestFacts

section Match

variable (libs : RouterLibs)

def ValueMatch.holds (m : ValueMatch) (text : String) : Bool :=
  match m.matchType with
  | .exact => text == m.value
  | .regularExpression => libs.regexMatches m.value text

def pathMatches (r : PathRoute) (path : String) : Bool :=
  match r.matchType with
  | .exact => path == r.path
  | .pathPrefix =>
    match Text.stripPrefix r.path path with
    | some rest => rest.isEmpty || Text.startsWith rest "/" || Text.endsWith r.path "/"
    | none => false
  | .regularExpression => libs.regexMatches r.path path

def extraDimensionsMatch (r : PathRoute) (facts : RequestFacts) : Bool :=
  (r.methodMatch.all (facts.method == ·)) &&
    (r.headerMatches.all fun hm => ((facts.matchedText hm.name).map (hm.holds libs)).getD false) &&
    r.queryParamMatches.all fun qm =>
      facts.queryPairs.any fun pair => pair.1 == qm.name && qm.holds libs pair.2

/-- The first exact rule of the path that matches, else the first of the other rules. -/
def HostRoutes.matchRequestWithBody (hr : HostRoutes) (facts : RequestFacts) : Option PathRoute :=
  (((hr.exactMap.lookup facts.path).getD []).find? (extraDimensionsMatch libs · facts)).or
    (hr.rules.find? fun r => pathMatches libs r facts.path && extraDimensionsMatch libs r facts)

end Match

structure ListenerBucket where
  listenerHostname : String
  exact : Table String HostRoutes := ∅
  domainWildcards : Table String HostRoutes := ∅
  catchAll : Option HostRoutes := none

inductive HostSlot where
  | exact (host : String)
  | wildcard (suffix : String)
  | catchAll
deriving DecidableEq

def hostSlot (host : String) : HostSlot :=
  if host = "*" then .catchAll
  else
    match Text.stripPrefix "*." host with
    | some suffix => .wildcard ("." ++ suffix)
    | none => .exact host

def ListenerBucket.place (b : ListenerBucket) (host : String) (hr : HostRoutes) : ListenerBucket :=
  match hostSlot host with
  | .catchAll => { b with catchAll := some hr }
  | .wildcard suffix => { b with domainWildcards := b.domainWildcards.insert suffix hr }
  | .exact host => { b with exact := b.exact.insert host hr }

structure GroupKey where
  port : UInt16
  listenerHostname : String
  host : String
deriving DecidableEq

def groupKey (route : RouteConfig) : GroupKey :=
  ⟨route.listenerPort.toUInt16, route.listenerHostname, route.host⟩

/-- How the hash maps of groups and of buckets are walked. -/
structure MapOrders where
  groups : IterOrder GroupKey
  buckets : IterOrder (UInt16 × String)

def listenerHostnameClaims (listenerHostname host : String) : Bool :=
  if listenerHostname.isEmpty then true
  else
    match Text.stripPrefix "*." listenerHostname with
    | some suffix =>
      let hostLc := Text.toAsciiLowercase host
      let dotSuffix := "." ++ Text.toAsciiLowercase suffix
      Text.endsWith hostLc dotSuffix && dotSuffix.utf8ByteSize < hostLc.utf8ByteSize
    | none => Text.eqIgnoreAsciiCase host listenerHostname

/-- Exact hostnames before wildcards before none; longer ones first. -/
def listenerSpecificity (listenerHostname : String) : ℕ :=
  if listenerHostname.isEmpty then 1
  else
    match Text.stripPrefix "*." listenerHostname with
    | some suffix => 1000 + suffix.utf8ByteSize
    | none => 10000 + listenerHostname.utf8ByteSize

structure ProxySnapshot where
  listenersByPort : Table UInt16 (List ListenerBucket)
  anyPortListeners : List ListenerBucket

section Snapshot

variable (libs : RouterLibs)

def placeGroup (byGroup : Table GroupKey (List RouteConfig))
    (buckets : Table (UInt16 × String) ListenerBucket) (key : GroupKey) :
    Table (UInt16 × String) ListenerBucket :=
  let bucketKey := (key.port, key.listenerHostname)
  let bucket := (buckets.lookup bucketKey).getD ⟨key.listenerHostname, ∅, ∅, none⟩
  let specs := (byGroup.lookup key).getD []
  buckets.insert bucketKey (bucket.place key.host (hostRoutes libs specs))

def bucketsByKey (orders : MapOrders) (routes : List RouteConfig) :
    Table (UInt16 × String) ListenerBucket :=
  let byGroup := Table.group groupKey routes
  (orders.groups.order byGroup.keys).foldl (placeGroup libs byGroup) ∅

def buildListenerBucketsFromProto (orders : MapOrders) (routes : List RouteConfig) :
    ProxySnapshot :=
  let byKey := bucketsByKey libs orders routes
  let buckets := (orders.buckets.order byKey.keys).filterMap fun key =>
    (byKey.lookup key).map fun bucket => (key.1, bucket)
  let sortBySpecificity (bs : List (UInt16 × ListenerBucket)) : List ListenerBucket :=
    byRank (listenerSpecificity ·.listenerHostname) (bs.map (·.2))
  { listenersByPort :=
      (Table.group (·.1) (buckets.filter (·.1 ≠ 0))).mapValues sortBySpecificity
    anyPortListeners := sortBySpecificity (buckets.filter (·.1 = 0)) }

end Snapshot

def selectListenerBucket (host : String) (buckets : List ListenerBucket) : Option ListenerBucket :=
  buckets.find? fun b => listenerHostnameClaims b.listenerHostname host

def dotSuffixes : List Char → List String
  | [] => []
  | c :: cs => if c = '.' then String.ofList (c :: cs) :: dotSuffixes cs else dotSuffixes cs

def lookupDomainWildcardBucket (host : String) (map : Table String HostRoutes) :
    Option HostRoutes :=
  (dotSuffixes host.toList).findSome? map.lookup

def detectMisdirectedRequest (sni : Option String) (host : String)
    (buckets : List ListenerBucket) : Bool :=
  match sni with
  | none => false
  | some sni =>
    match selectListenerBucket sni buckets, selectListenerBucket host buckets with
    | some s, some h => s.listenerHostname != h.listenerHostname
    | some _, none => true
    | none, _ => false

def trimEndDots (s : String) : String :=
  String.ofList (s.toList.reverse.dropWhile (· = '.')).reverse

def isOauthMetadataPath (path : String) : Bool :=
  match Text.stripPrefix "/.well-known/oauth-protected-resource" path with
  | some suffix => suffix.isEmpty || Text.startsWith suffix "/"
  | none => false

/-- What becomes of a request before the matched rule is applied: it is answered, its body has to
be scanned first, or a rule was matched. -/
inductive Decision where
  | acmeChallenge
  | misdirected
  | oauthMetadata
  | needsBody
  | noRoute
  | matched (rule : PathRoute)

def decideHost (libs : RouterLibs) (hr : Option HostRoutes) (facts : RequestFacts) : Decision :=
  if isOauthMetadataPath facts.path && hr.any (·.oauth) then .oauthMetadata
  else if facts.bodyFields.isNone && hr.any (·.needsBody) && facts.hasRequestBody then .needsBody
  else
    match hr.bind (·.matchRequestWithBody libs facts) with
    | none => .noRoute
    | some rule => .matched rule

/-- The routes of a bucket for a host: its own, those of a wildcard, the catch-all. -/
def ListenerBucket.hostRoutesFor (b : ListenerBucket) (host : String) : Option HostRoutes :=
  ((b.exact.lookup host).or (lookupDomainWildcardBucket host b.domainWildcards)).or b.catchAll

def routeRequest (libs : RouterLibs) (snap : ProxySnapshot) (facts : RequestFacts) : Decision :=
  let portBuckets := (snap.listenersByPort.lookup facts.localPort).getD []
  if !facts.socketIsTls && facts.acmeChallenge then .acmeChallenge
  else if facts.socketIsTls &&
      detectMisdirectedRequest (facts.sni.map trimEndDots) facts.host portBuckets then
    .misdirected
  else
    let bucket := (selectListenerBucket facts.host portBuckets).or
      (selectListenerBucket facts.host snap.anyPortListeners)
    decideHost libs (bucket.bind (·.hostRoutesFor facts.host)) facts

end Portus.DataPlane

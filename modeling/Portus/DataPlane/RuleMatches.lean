import Portus.DataPlane.Paths
import Portus.DataPlane.RouteChoice

/-!
# What a configuration matches

The requests that the rules of a configuration match, in terms of its fields
(`exists_ruleMatches_iff`). A field that cannot be read is left out of the rule: a header
whose name is invalid, a method that is none, a query parameter whose regular expression
does not build. A header whose regular expression does not build is compared as a text,
and a path of an unknown type is a prefix.
-/

namespace Portus.DataPlane

open Portus Lib Proto List

section

variable (libs : RouterLibs)

def PathRead (matchType value path : String) : Prop :=
  if matchType = "Exact" then path = value
  else if matchType = "RegularExpression" then
    libs.regexBuilds value = true ∧ libs.regexMatches value path = true
  else Under value.toList path.toList

/-- How the value of a header is read: an expression that builds, or else the text itself. -/
def HeaderValueRead (matchType value text : String) : Prop :=
  if matchType = "RegularExpression" ∧ libs.regexBuilds value = true then
    libs.regexMatches value text = true
  else text = value

/-- A header with a valid name is there with a value that is read so. -/
def HeaderRead (name value matchType : String) (facts : RequestFacts) : Prop :=
  ∀ n, libs.headerName name = some n →
    ∃ text, facts.matchedText n = some text ∧ HeaderValueRead libs matchType value text

def QueryValueRead (matchType value text : String) : Prop :=
  if matchType = "RegularExpression" then libs.regexMatches value text = true else text = value

def QueryRead (name value matchType : String) (facts : RequestFacts) : Prop :=
  (matchType = "RegularExpression" → libs.regexBuilds value = true) →
    ∃ pair ∈ facts.queryPairs, pair.1 = name ∧ QueryValueRead libs matchType value pair.2

def MethodRead (method : String) (facts : RequestFacts) : Prop :=
  method ≠ "" → ∀ t, libs.method method = some t → facts.method = t

variable {libs} {spec : RouteConfig} {facts : RequestFacts}

theorem parseMatchType_eq : parseMatchType libs matchType path =
      if matchType = "Exact" then some .exact
      else if matchType = "RegularExpression" then
        if libs.regexBuilds path then some .regularExpression else none
      else some .pathPrefix := by
  unfold parseMatchType
  split
  next => rfl
  next => rfl
  next he hr => rw [if_neg he, if_neg hr]

variable {path : String} {t : PathMatchType}

theorem any_pathMatches_iff : ((parseMatchType libs matchType path).any fun t =>
        pathMatches libs (makeRoute libs spec path t) facts.path) = true ↔
      PathRead libs matchType path facts.path := by
  rw [parseMatchType_eq]
  unfold PathRead
  split_ifs with he hr hb
  · simp [pathMatches, makeRoute]
  · simp [pathMatches, makeRoute, hb]
  · simp [hb]
  · exact @pathMatches_pathPrefix libs (makeRoute libs spec path .pathPrefix) facts.path rfl

theorem headers_makeRoute_iff : ((makeRoute libs spec path t).headerMatches.all fun hm =>
        ((facts.matchedText hm.name).map (hm.holds libs)).getD false) = true ↔
      ∀ hm ∈ spec.headerMatches, HeaderRead libs hm.name hm.value hm.matchType facts := by
  have he (hm : HeaderMatch) : HeaderRead libs hm.name hm.value hm.matchType facts ↔
      ∀ v, headerMatchEntry libs hm = some v →
        ((facts.matchedText v.name).map (v.holds libs)).getD false = true := by
    unfold HeaderRead headerMatchEntry HeaderValueRead
    cases libs.headerName hm.name with
    | none => simp
    | some n =>
      simp only [Option.map_some, Option.some.injEq, forall_eq']
      cases facts.matchedText n with
      | none => simp
      | some text =>
        by_cases hr : hm.matchType = "RegularExpression" ∧ libs.regexBuilds hm.value = true
        all_goals simp [hr, ValueMatch.holds]
  simp only [makeRoute, all_eq_true, mem_filterMap, forall_exists_index, and_imp, he]
  exact ⟨fun h hm hme v hv => h v hm hme hv, fun h v hm hme hv => h hm hme v hv⟩

theorem queryParams_makeRoute_iff : ((makeRoute libs spec path t).queryParamMatches.all fun qm =>
        facts.queryPairs.any fun pair => pair.1 == qm.name && qm.holds libs pair.2) = true ↔
      ∀ qm ∈ spec.queryParamMatches, QueryRead libs qm.name qm.value qm.matchType facts := by
  have he (qm : QueryParamMatch) : QueryRead libs qm.name qm.value qm.matchType facts ↔
      ∀ v, queryParamMatchEntry libs qm = some v →
        (facts.queryPairs.any fun pair => pair.1 == v.name && v.holds libs pair.2) = true := by
    unfold QueryRead queryParamMatchEntry QueryValueRead
    by_cases hr : qm.matchType = "RegularExpression"
    · cases libs.regexBuilds qm.value with
      | true => simp [hr, ValueMatch.holds]
      | false => simp [hr]
    · simp [hr, ValueMatch.holds]
  simp only [makeRoute, all_eq_true, mem_filterMap, forall_exists_index, and_imp, he]
  exact ⟨fun h hm hme v hv => h v hm hme hv, fun h v hm hme hv => h hm hme v hv⟩

theorem method_makeRoute_iff :
    ((makeRoute libs spec path t).methodMatch.all (facts.method == ·)) = true ↔
      MethodRead libs spec.methodMatch facts := by
  unfold MethodRead makeRoute
  by_cases he : spec.methodMatch = ""
  · simp [he]
  · simp [he, Option.all_eq_true]

theorem extraDimensionsMatch_makeRoute_iff :
    extraDimensionsMatch libs (makeRoute libs spec path t) facts = true ↔
      MethodRead libs spec.methodMatch facts ∧
        (∀ hm ∈ spec.headerMatches, HeaderRead libs hm.name hm.value hm.matchType facts) ∧
        ∀ qm ∈ spec.queryParamMatches, QueryRead libs qm.name qm.value qm.matchType facts := by
  rw [extraDimensionsMatch, Bool.and_eq_true, Bool.and_eq_true, method_makeRoute_iff,
    headers_makeRoute_iff, queryParams_makeRoute_iff, and_assoc]

/-- A configuration without paths takes every path. -/
def PathsRead (libs : RouterLibs) (paths : List PathRule) (path : String) : Prop :=
  if paths = [] then Under "/".toList path.toList
  else ∃ pr ∈ paths, PathRead libs pr.matchType pr.path path

theorem exists_ruleMatches_iff : (∃ r ∈ pathRoutes libs spec, ruleMatches libs facts r = true) ↔
      PathsRead libs spec.paths facts.path ∧ MethodRead libs spec.methodMatch facts ∧
        (∀ hm ∈ spec.headerMatches, HeaderRead libs hm.name hm.value hm.matchType facts) ∧
        ∀ qm ∈ spec.queryParamMatches, QueryRead libs qm.name qm.value qm.matchType facts := by
  unfold pathRoutes PathsRead
  by_cases hn : spec.paths = []
  · have hr : pathMatches libs (makeRoute libs spec "/" .pathPrefix) facts.path = true ↔
        Under "/".toList facts.path.toList :=
      @pathMatches_pathPrefix libs (makeRoute libs spec "/" .pathPrefix) facts.path rfl
    simp [hn, ruleMatches, hr, extraDimensionsMatch_makeRoute_iff]
  · rw [if_neg (by simpa using hn), if_neg hn]
    simp only [mem_filterMap, Option.map_eq_some_iff, ruleMatches, Bool.and_eq_true,
      ← @any_pathMatches_iff libs spec facts, Option.any_eq_true]
    constructor
    · rintro ⟨_, ⟨pr, hpr, t, ht, rfl⟩, hp, he⟩
      exact ⟨⟨pr, hpr, t, ht, hp⟩, extraDimensionsMatch_makeRoute_iff.1 he⟩
    · rintro ⟨⟨pr, hpr, t, ht, hp⟩, he⟩
      exact ⟨_, ⟨pr, hpr, t, ht, rfl⟩, hp, extraDimensionsMatch_makeRoute_iff.2 he⟩

end

end Portus.DataPlane

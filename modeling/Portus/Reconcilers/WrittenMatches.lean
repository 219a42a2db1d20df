import Portus.DataPlane.RuleMatches
import Portus.Reconcilers.RouteMatches

/-!
# Matches as they are written

What a match of an HTTPRoute or an AIRoute asks of a request, as its spec writes it
(`Written`), and what is left of it after the reconcilers and the data plane have read it
(`AsRead`). The two kinds of match are brought to one form (`SpecMatch`). A piece that is
supported is read as it is written, so a match whose pieces all are (`Supported`) is
(`Supported.written`).
-/

namespace Portus.Reconcilers

open Portus Lib Proto DataPlane List Option Text

/-- A match: a path, a method, headers, query parameters and fields of the body. -/
structure SpecMatch where
  path : Option HTTPPathMatch := none
  method : Option String := none
  headers : List NamedMatch := []
  queryParams : List NamedMatch := []
  body : List (String × AIStringMatch) := []

def HTTPRouteMatch.spec (m : HTTPRouteMatch) : SpecMatch :=
  { path := m.path, method := m.method, headers := m.headers, queryParams := m.queryParams }

def AIRouteMatch.body (m : AIRouteMatch) : List (String × AIStringMatch) :=
  (m.model.map ("model", ·)).toList ++
    (m.stream.map fun b => ("stream", ({ value := toString b } : AIStringMatch))).toList ++
    (m.method.map ("method", ·)).toList ++ (m.tool.map ("tool", ·)).toList

def AIRouteMatch.spec (m : AIRouteMatch) : SpecMatch :=
  { path := m.path, headers := m.headers, body := m.body }

def HTTPPathMatch.type (p : HTTPPathMatch) : String := p.matchType.getD "PathPrefix"

def NamedMatch.type (m : NamedMatch) : String := m.matchType.getD "Exact"

def AIStringMatch.type (m : AIStringMatch) : String := m.matchType.getD "Exact"

def headerText (facts : RequestFacts) (name : String) : Option String :=
  (facts.header name).map fun v => (String.fromUTF8? v).getD ""

def bodyField (facts : RequestFacts) (key : String) : Option String :=
  (facts.bodyFields.bind fun fields => fields.find? (·.1 = key)).map (·.2)

section

variable (libs : RouterLibs) (regexNew : String → Bool) (escape : String → String)

/-- A prefix is taken by segments, and a slash at its end does not count. A type that is not
supported matches nothing. -/
def WrittenPath (p : HTTPPathMatch) (path : String) : Prop :=
  let value := p.value.getD "/"
  if p.type = "PathPrefix" then Under value.toList path.toList ∨ value = path ++ "/"
  else if p.type = "Exact" then path = value
  else p.type = "RegularExpression" ∧ libs.regexBuilds value = true ∧
    libs.regexMatches value path = true

def WrittenValue (m : NamedMatch) (text : String) : Prop :=
  if m.type = "Exact" then text = m.value
  else m.type = "RegularExpression" ∧ libs.regexBuilds m.value = true ∧
    libs.regexMatches m.value text = true

def WrittenHeader (m : NamedMatch) (facts : RequestFacts) : Prop :=
  ∃ text, headerText facts m.name = some text ∧ WrittenValue libs m text

def WrittenQuery (m : NamedMatch) (facts : RequestFacts) : Prop :=
  ∃ pair ∈ facts.queryPairs, pair.1 = m.name ∧ WrittenValue libs m pair.2

def WrittenBody (m : AIStringMatch) (text : String) : Prop :=
  if m.type = "Exact" then text = m.value
  else if m.type = "Prefix" then Text.startsWith text m.value = true
  else m.type = "RegularExpression" ∧ regexNew m.value = true ∧
    libs.regexMatches m.value text = true

structure Written (m : SpecMatch) (facts : RequestFacts) : Prop where
  path : ∀ p, m.path = some p → WrittenPath libs p facts.path
  method : ∀ s, m.method = some s → facts.method = s
  headers : ∀ h ∈ m.headers, WrittenHeader libs h facts
  queryParams : ∀ q ∈ m.queryParams, WrittenQuery libs q facts
  body : ∀ f ∈ m.body, ∃ text, bodyField facts f.1 = some text ∧ WrittenBody libs regexNew f.2 text

/-- A query parameter that is not skipped. -/
def QuerySupported (q : NamedMatch) : Prop :=
  q.type = "Exact" ∨ q.type = "RegularExpression" ∧ libs.regexBuilds q.value = true

def bodyExpression (m : AIStringMatch) : Option String :=
  if m.type = "Prefix" then some ("^" ++ escape m.value)
  else if m.type = "RegularExpression" then some m.value
  else none

/-- An expression that does not build is compared as a text. -/
def BodyRead (m : AIStringMatch) (text : String) : Prop :=
  match bodyExpression escape m with
  | none => text = m.value
  | some r => HeaderValueRead libs "RegularExpression" r text

/-- What is left of a match: a path of an unknown type is a prefix, and none stands for all; a
method that is none, a header with an invalid name and a query parameter that is not supported
are gone; a header of an unknown type, or whose expression does not build, is a text; a header
with the name of a field of the body is that field. -/
structure AsRead (m : SpecMatch) (facts : RequestFacts) : Prop where
  path : ∀ p, m.path = some p → PathRead libs p.type (p.value.getD "/") facts.path
  anyPath : m.path = none → Under "/".toList facts.path.toList
  method : ∀ s, m.method = some s → s ≠ "" → (libs.method s).isSome → facts.method = s
  headers : ∀ h ∈ m.headers, (libs.headerName h.name).isSome →
    ∃ text, facts.matchedText (Text.toAsciiLowercase h.name) = some text ∧
      HeaderValueRead libs h.type h.value text
  queryParams : ∀ q ∈ m.queryParams, QuerySupported libs q → WrittenQuery libs q facts
  body : ∀ f ∈ m.body, ∃ text, bodyField facts f.1 = some text ∧ BodyRead libs escape f.2 text

/-- All the pieces of a match are read as they are written. -/
structure Supported (m : SpecMatch) : Prop where
  path : ∀ p, m.path = some p → p.type ∈ ["PathPrefix", "Exact", "RegularExpression"]
  method : ∀ s, m.method = some s → s ≠ "" ∧ (libs.method s).isSome
  headers : ∀ h ∈ m.headers, (libs.headerName h.name).isSome ∧
    (h.type = "Exact" ∨ h.type = "RegularExpression" ∧ libs.regexBuilds h.value = true) ∧
    Text.startsWith (Text.toAsciiLowercase h.name) bodyFieldHeaderPrefix = false
  queryParams : ∀ q ∈ m.queryParams, QuerySupported libs q
  body : ∀ f ∈ m.body, f.2.type = "Exact" ∨
    (∃ r, bodyExpression escape f.2 = some r ∧ libs.regexBuilds r = true) ∧
      (f.2.type = "RegularExpression" → regexNew f.2.value = true)

/-- What the libraries make of names, methods and escaped texts. -/
structure LawfulLibs : Prop where
  method : ∀ s t, libs.method s = some t → t = s
  headerName : ∀ s t, libs.headerName s = some t → t = Text.toAsciiLowercase s
  bodyHeaders : ∀ header ∈ [modelHeader, streamHeader, methodHeader, toolHeader],
    (libs.headerName header).isSome
  escaped : ∀ value text, libs.regexBuilds ("^" ++ escape value) = true →
    (libs.regexMatches ("^" ++ escape value) text = true ↔ Text.startsWith text value = true)

end

section

variable {libs : RouterLibs} {regexNew : String → Bool} {escape : String → String}
  {facts : RequestFacts}

theorem WrittenPath.of_read (hp : p.type ∈ ["PathPrefix", "Exact", "RegularExpression"])
    (h : PathRead libs p.type (p.value.getD "/") path) : WrittenPath libs p path := by
  unfold PathRead at h
  unfold WrittenPath
  simp only [mem_cons, not_mem_nil, or_false] at hp
  rcases hp with hp | hp | hp
  · rw [hp] at h
    rw [hp]
    exact .inl h
  · rw [hp, if_pos rfl] at h
    rwa [hp, if_neg (by decide), if_pos rfl]
  · rw [hp, if_pos rfl] at h
    rw [hp]
    exact ⟨rfl, h⟩

theorem matchedText_of_not_body
    (h : startsWith (toAsciiLowercase name) bodyFieldHeaderPrefix = false) :
    facts.matchedText (toAsciiLowercase name) = headerText facts name := by
  have hn : stripPrefix bodyFieldHeaderPrefix (toAsciiLowercase name) = none := by
    rw [eq_none_iff_forall_ne_some]
    intro rest hr
    rw [startsWith_iff.2 ⟨rest, stripPrefix_eq_some.1 hr⟩] at h
    cases h
  -- names are compared without case
  have hh : facts.header (toAsciiLowercase name) = facts.header name := by
    unfold RequestFacts.header eqIgnoreAsciiCase
    rw [toAsciiLowercase_toAsciiLowercase]
  rw [RequestFacts.matchedText, headerText, hn, hh]

theorem WrittenValue.of_read
    (hm : m.type = "Exact" ∨ m.type = "RegularExpression" ∧ libs.regexBuilds m.value = true)
    (h : HeaderValueRead libs m.type m.value text) : WrittenValue libs m text := by
  unfold HeaderValueRead at h
  unfold WrittenValue
  rcases hm with hm | ⟨hm, hb⟩
  · rw [hm] at h
    rwa [hm]
  · rw [if_pos ⟨hm, hb⟩] at h
    rw [hm]
    exact ⟨rfl, hb, h⟩

variable (hl : LawfulLibs libs escape)

include hl

theorem WrittenBody.of_read (hm : m.type = "Exact" ∨
      (∃ r, bodyExpression escape m = some r ∧ libs.regexBuilds r = true) ∧
        (m.type = "RegularExpression" → regexNew m.value = true))
    (h : BodyRead libs escape m text) : WrittenBody libs regexNew m text := by
  unfold WrittenBody
  rcases hm with hm | ⟨⟨r, hr, hb⟩, hne⟩
  · have hno : bodyExpression escape m = none := by
      rw [bodyExpression, hm, if_neg (by decide), if_neg (by decide)]
    rw [BodyRead, hno] at h
    rwa [hm]
  · have hma : libs.regexMatches r text = true := by
      rw [BodyRead, hr] at h
      dsimp only at h
      rwa [HeaderValueRead, if_pos ⟨rfl, hb⟩] at h
    unfold bodyExpression at hr
    split_ifs at hr with hs hre
    · cases hr
      rw [hs]
      exact (hl.escaped _ _ hb).1 hma
    · cases hr
      rw [hre]
      exact ⟨rfl, hne hre, hma⟩

theorem Supported.written (hm : Supported libs regexNew escape m)
    (h : AsRead libs escape m facts) :
    Written libs regexNew m facts where
  path p hp := WrittenPath.of_read (hm.path p hp) (h.path p hp)
  method s hs := h.method s hs (hm.method s hs).1 (hm.method s hs).2
  headers hd hmem := by
    obtain ⟨hn, hty, hb⟩ := hm.headers hd hmem
    obtain ⟨text, hte, hr⟩ := h.headers hd hmem hn
    rw [matchedText_of_not_body hb] at hte
    exact ⟨text, hte, WrittenValue.of_read hty hr⟩
  queryParams q hq := h.queryParams q hq (hm.queryParams q hq)
  body f hf := by
    obtain ⟨text, hte, hr⟩ := h.body f hf
    exact ⟨text, hte, WrittenBody.of_read hl (hm.body f hf) hr⟩

/-- How the data plane reads a match as the store keeps it. -/
structure EntryRead (libs : RouterLibs) (entry : HTTPRouteMatchState) (facts : RequestFacts) :
    Prop where
  path : PathsRead libs (entry.path.map fun p => PathRule.mk p.1 p.2).toList facts.path
  method : MethodRead libs (entry.method.getD "") facts
  headers : ∀ h ∈ entry.headers, HeaderRead libs h.1 h.2.1 h.2.2 facts
  queryParams : ∀ q ∈ entry.queryParams, QueryRead libs q.1 q.2.1 q.2.2 facts

omit hl in
theorem pathRead_state {p : HTTPPathMatch} :
    PathRead libs p.state.2 value path ↔ PathRead libs p.type value path := by
  have hs : p.state.2 = if p.type = "PathPrefix" then "Prefix" else p.type := by
    unfold HTTPPathMatch.state HTTPPathMatch.type
    split
    next h => rw [h, if_pos rfl]
    next h => rw [if_neg h]
  rw [hs]
  split_ifs with hstar
  · rw [hstar]
    simp [PathRead]
  · rfl

theorem methodRead_iff : MethodRead libs (method.getD "") facts ↔
      ∀ s, method = some s → s ≠ "" → (libs.method s).isSome → facts.method = s := by
  unfold MethodRead
  cases method with
  | none => simp
  | some s =>
    simp only [getD_some, Option.some.injEq, forall_eq']
    refine imp_congr_right fun _ => ⟨fun h hs => ?_, fun h t ht => ?_⟩
    · obtain ⟨t, ht⟩ := isSome_iff_exists.1 hs
      rw [h t ht, hl.method s t ht]
    · rw [h (by rw [ht]; rfl), hl.method s t ht]

theorem headerRead_iff : HeaderRead libs name value type facts ↔ ((libs.headerName name).isSome →
      ∃ text, facts.matchedText (toAsciiLowercase name) = some text ∧
        HeaderValueRead libs type value text) := by
  constructor
  · intro h hs
    obtain ⟨n, hn⟩ := isSome_iff_exists.1 hs
    rw [← hl.headerName name n hn]
    exact h n hn
  · intro h n hn
    rw [hl.headerName name n hn]
    exact h (by rw [hn]; rfl)

theorem headersRead_iff {headers : List NamedMatch} :
    (∀ h ∈ headers.map NamedMatch.state, HeaderRead libs h.1 h.2.1 h.2.2 facts) ↔
      ∀ h ∈ headers, (libs.headerName h.name).isSome →
        ∃ text, facts.matchedText (toAsciiLowercase h.name) = some text ∧
          HeaderValueRead libs h.type h.value text := by
  simp only [List.forall_mem_map, NamedMatch.state, headerRead_iff hl]
  rfl

omit hl in
theorem convertQueryParam_eq :
    convertQueryParam libs.regexBuilds q =
      if q.type = "Exact" then some (q.name, q.value, "Exact")
      else if q.type = "RegularExpression" then
        if libs.regexBuilds q.value then some (q.name, q.value, "RegularExpression") else none
      else none := by
  unfold convertQueryParam NamedMatch.type
  split
  next h => rw [h, if_pos rfl]
  next h => simp [h]
  next he hr => rw [if_neg he, if_neg hr]

omit hl in
theorem queryRead_iff : (∀ entry, convertQueryParam libs.regexBuilds q = some entry →
      QueryRead libs entry.1 entry.2.1 entry.2.2 facts) ↔
      (QuerySupported libs q → WrittenQuery libs q facts) := by
  rw [convertQueryParam_eq]
  unfold QuerySupported WrittenQuery WrittenValue QueryRead QueryValueRead
  by_cases he : q.type = "Exact"
  · simp [he]
  · by_cases hr : q.type = "RegularExpression"
    · by_cases hb : libs.regexBuilds q.value = true
      · simp [hr, hb]
      · simp [hr, hb]
    · simp [he, hr]

omit hl in
theorem path_iff {path : Option HTTPPathMatch} {state : HTTPPathMatch → String × String}
    (hs : ∀ p, (state p).1 = p.value.getD "/" ∧ (PathRead libs (state p).2 (p.value.getD "/")
      facts.path ↔ PathRead libs p.type (p.value.getD "/") facts.path)) :
    PathsRead libs ((path.map state).map fun p => PathRule.mk p.1 p.2).toList facts.path ↔
      (∀ p, path = some p → PathRead libs p.type (p.value.getD "/") facts.path) ∧
        (path = none → Under "/".toList facts.path.toList) := by
  unfold PathsRead
  cases path with
  | none => simp
  | some p =>
    simp [(hs p).1, (hs p).2]

theorem entryRead_convertMatch :
    EntryRead libs (convertMatch libs.regexBuilds m) facts ↔ AsRead libs escape m.spec facts := by
  have hp := @path_iff libs facts m.path HTTPPathMatch.state fun p => ⟨rfl, pathRead_state⟩
  have hqu : (∀ q ∈ (convertMatch libs.regexBuilds m).queryParams,
      QueryRead libs q.1 q.2.1 q.2.2 facts) ↔
        ∀ q ∈ m.queryParams, QuerySupported libs q → WrittenQuery libs q facts := by
    simp only [convertMatch, mem_filterMap, forall_exists_index, and_imp, ← queryRead_iff]
    exact ⟨fun h q hq entry he => h entry q hq he, fun h entry q hq he => h q hq entry he⟩
  constructor
  · intro h
    exact ⟨(hp.1 h.path).1, (hp.1 h.path).2, (methodRead_iff hl).1 h.method,
      (headersRead_iff hl).1 h.headers, hqu.1 h.queryParams, fun f hf => absurd hf not_mem_nil⟩
  · intro h
    exact ⟨hp.2 ⟨h.path, h.anyPath⟩, (methodRead_iff hl).2 h.method,
      (headersRead_iff hl).2 h.headers, hqu.2 h.queryParams⟩

/-- A field of the body of a known type, whose expression builds. -/
def AIStringMatch.Valid (regexNew : String → Bool) (m : AIStringMatch) : Prop :=
  m.type = "Exact" ∨ m.type = "Prefix" ∨ m.type = "RegularExpression" ∧ regexNew m.value = true

instance (m : AIStringMatch) : Decidable (m.Valid regexNew) :=
  inferInstanceAs (Decidable (_ ∨ _))

/-- The matches of an AIRoute that are converted: they are for one dialect, and the fields of the
body they name are valid. -/
def AIRouteMatch.Convertible (regexNew : String → Bool) (m : AIRouteMatch) : Prop :=
  ¬ ((m.model.isSome ∨ m.stream.isSome) ∧ (m.method.isSome ∨ m.tool.isSome)) ∧
    ∀ f ∈ m.body, f.2.Valid regexNew

instance (m : AIRouteMatch) : Decidable (m.Convertible regexNew) :=
  inferInstanceAs (Decidable (_ ∧ _))

omit hl in
theorem stringMatch_eq : stringMatch regexNew escape field m =
      if m.type = "Exact" then .ok (m.value, "Exact")
      else if m.type = "RegularExpression" then
        if regexNew m.value then .ok (m.value, "RegularExpression")
        else .error (.regex field m.value)
      else if m.type = "Prefix" then .ok ("^" ++ escape m.value, "RegularExpression")
      else .error (.matchType field m.type) := by
  unfold stringMatch AIStringMatch.type
  split
  next h => simp [h]
  next h => simp [h]
  next h => simp [h]
  next he hr hs => rw [if_neg he, if_neg hr, if_neg hs]

omit hl in
theorem stringMatch_cases (libs : RouterLibs) (field : String) (m : AIStringMatch) :
    (∃ e, stringMatch regexNew escape field m = .error e ∧ ¬ m.Valid regexNew) ∨
    ∃ value type, stringMatch regexNew escape field m = .ok (value, type) ∧ m.Valid regexNew ∧
      ∀ text, HeaderValueRead libs type value text ↔ BodyRead libs escape m text := by
  rw [stringMatch_eq]
  unfold AIStringMatch.Valid BodyRead bodyExpression
  by_cases he : m.type = "Exact"
  · exact .inr ⟨_, _, if_pos he, .inl he, by simp [he, HeaderValueRead]⟩
  · by_cases hr : m.type = "RegularExpression"
    · by_cases hn : regexNew m.value = true
      · exact .inr ⟨m.value, "RegularExpression", by simp [hr, hn],
          .inr (.inr ⟨hr, hn⟩), by simp [hr]⟩
      · exact .inl ⟨.regex field m.value, by simp [hr, hn], by simp [hr, hn]⟩
    · by_cases hs : m.type = "Prefix"
      · exact .inr ⟨"^" ++ escape m.value, "RegularExpression", by simp [hs],
          .inr (.inl hs), by simp [hs]⟩
      · exact .inl ⟨.matchType field m.type, by simp [he, hr, hs], by simp [he, hr, hs]⟩

theorem headerRead_body
    (hk : key ∈ ["model", "stream", "method", "tool"]) :
    HeaderRead libs (bodyFieldHeaderPrefix ++ key) value type facts ↔
      ∃ text, bodyField facts key = some text ∧ HeaderValueRead libs type value text := by
  have hlo : toAsciiLowercase (bodyFieldHeaderPrefix ++ key) = bodyFieldHeaderPrefix ++ key := by
    simp only [mem_cons, not_mem_nil, or_false] at hk
    rcases hk with rfl | rfl | rfl | rfl <;> decide
  have hv : (libs.headerName (bodyFieldHeaderPrefix ++ key)).isSome := by
    apply hl.bodyHeaders
    simp only [mem_cons, not_mem_nil, or_false] at hk ⊢
    rcases hk with rfl | rfl | rfl | rfl <;> decide
  have ht : facts.matchedText (bodyFieldHeaderPrefix ++ key) = bodyField facts key := by
    rw [RequestFacts.matchedText, bodyField, stripPrefix_eq_some.2 rfl]
  rw [headerRead_iff hl, hlo, ht]
  exact ⟨fun h => h hv, fun h _ => h⟩

theorem bodyHeader_cases {key : String} (facts : RequestFacts)
    (hk : key ∈ ["model", "stream", "method", "tool"]) (m : Option AIStringMatch) :
    (∃ e, bodyHeader regexNew escape key (bodyFieldHeaderPrefix ++ key) m = .error e ∧
      ∃ s, m = some s ∧ ¬ s.Valid regexNew) ∨
    ∃ l, bodyHeader regexNew escape key (bodyFieldHeaderPrefix ++ key) m = .ok l ∧
      (∀ s, m = some s → s.Valid regexNew) ∧
      ((∀ h ∈ l, HeaderRead libs h.1 h.2.1 h.2.2 facts) ↔
        ∀ s, m = some s → ∃ text, bodyField facts key = some text ∧
          BodyRead libs escape s text) := by
  cases m with
  | none => exact .inr ⟨[], rfl, by simp, by simp⟩
  | some s =>
    rcases @stringMatch_cases regexNew escape libs key s with ⟨e, he, hs⟩ | ⟨v, t, hok, hs, hr⟩
    · exact .inl ⟨e, by rw [bodyHeader, he]; rfl, s, rfl, hs⟩
    · refine .inr ⟨[(bodyFieldHeaderPrefix ++ key, v, t)], by rw [bodyHeader, hok]; rfl, ?_, ?_⟩
      · simpa using hs
      · simp [headerRead_body hl hk, hr]

omit hl in
theorem forall_mem_body {m : AIRouteMatch} {P : String × AIStringMatch → Prop} :
    (∀ f ∈ m.body, P f) ↔ (∀ s, m.model = some s → P ("model", s)) ∧
      (∀ b, m.stream = some b → P ("stream", { value := toString b })) ∧
      (∀ s, m.method = some s → P ("method", s)) ∧ ∀ s, m.tool = some s → P ("tool", s) := by
  simp only [AIRouteMatch.body, forall_mem_append, mem_toList, map_eq_some_iff,
    forall_exists_index, and_imp, and_assoc]
  refine and_congr ?_ (and_congr ?_ (and_congr ?_ ?_)) <;>
    exact ⟨fun h s hs => h _ s hs rfl, fun h f s hs hf => hf ▸ h s hs⟩

/-- What is stored of a match of an AIRoute, given the headers of its body fields. -/
def storedAiMatch (m : AIRouteMatch) (model method tool : List (String × String × String)) :
    HTTPRouteMatchState where
  path := m.path.map fun p => (p.value.getD "/", p.type)
  headers := m.headers.map NamedMatch.state ++ model ++
    (m.stream.map fun b => (streamHeader, toString b, "Exact")).toList ++ method ++ tool

omit hl in
theorem convertAiMatch_eq
    (h : ¬ ((m.model.isSome ∨ m.stream.isSome) ∧ (m.method.isSome ∨ m.tool.isSome))) :
    convertAiMatch regexNew escape m = (do
      let model ← bodyHeader regexNew escape "model" (bodyFieldHeaderPrefix ++ "model") m.model
      let method ← bodyHeader regexNew escape "method" (bodyFieldHeaderPrefix ++ "method") m.method
      let tool ← bodyHeader regexNew escape "tool" (bodyFieldHeaderPrefix ++ "tool") m.tool
      pure (storedAiMatch m model method tool)) := by
  rw [convertAiMatch, if_neg (by simpa using h)]
  rfl

theorem streamRead_iff {stream : Option Bool} :
    (∀ h ∈ (stream.map fun b => (streamHeader, toString b, "Exact")).toList,
      HeaderRead libs h.1 h.2.1 h.2.2 facts) ↔ ∀ b, stream = some b →
        ∃ text, bodyField facts "stream" = some text ∧
          BodyRead libs escape { value := toString b } text := by
  have hh : streamHeader = bodyFieldHeaderPrefix ++ "stream" := by decide
  have hr (b : Bool) (text : String) : HeaderValueRead libs "Exact" (toString b) text ↔
      BodyRead libs escape { value := toString b } text := by
    simp [HeaderValueRead, BodyRead, bodyExpression, AIStringMatch.type]
  cases stream with
  | none => simp
  | some b =>
    simp [hh, headerRead_body hl (by decide : "stream" ∈ _), hr]

theorem convertAiMatch_cases (facts : RequestFacts)
    (m : AIRouteMatch) :
    (∃ e, convertAiMatch regexNew escape m = .error e ∧ ¬ m.Convertible regexNew) ∨
    ∃ entry, convertAiMatch regexNew escape m = .ok entry ∧ m.Convertible regexNew ∧
      (EntryRead libs entry facts ↔ AsRead libs escape m.spec facts) := by
  rw [AIRouteMatch.Convertible, forall_mem_body]
  by_cases hmi : (m.model.isSome ∨ m.stream.isSome) ∧ (m.method.isSome ∨ m.tool.isSome)
  · refine .inl ⟨.mixedDialects, ?_, fun h => h.1 hmi⟩
    rw [convertAiMatch, if_pos (by simpa using hmi)]
    rfl
  rw [convertAiMatch_eq hmi]
  -- the fields are tried in the order of the code, and the first that is not valid ends it
  rcases @bodyHeader_cases libs regexNew escape hl "model" facts (by decide) m.model with
    ⟨e, he, s, hs, hi⟩ | ⟨model, hmo, hv, hread⟩
  · rw [he]
    exact .inl ⟨e, rfl, fun h => hi (h.2.1 s hs)⟩
  rcases @bodyHeader_cases libs regexNew escape hl "method" facts (by decide) m.method with
    ⟨e, he, s, hs, hi⟩ | ⟨method, hme, hvalid, hreadM⟩
  · rw [hmo, he]
    exact .inl ⟨e, rfl, fun h => hi (h.2.2.2.1 s hs)⟩
  rcases @bodyHeader_cases libs regexNew escape hl "tool" facts (by decide) m.tool with
    ⟨e, he, s, hs, hi⟩ | ⟨tool, ht, hvalidT, hreadT⟩
  · rw [hmo, hme, he]
    exact .inl ⟨e, rfl, fun h => hi (h.2.2.2.2 s hs)⟩
  rw [hmo, hme, ht]
  refine .inr ⟨_, rfl, ⟨hmi, hv, fun b _ => .inl rfl, hvalid, hvalidT⟩, ?_⟩
  have hb := @forall_mem_body m fun f => ∃ text, bodyField facts f.1 = some text ∧
    BodyRead libs escape f.2 text
  rw [← hread, ← streamRead_iff hl, ← hreadM, ← hreadT] at hb
  have hp := @path_iff libs facts m.path (fun p => (p.value.getD "/", p.type))
    fun p => ⟨rfl, Iff.rfl⟩
  have hh : (∀ h ∈ (storedAiMatch m model method tool).headers,
      HeaderRead libs h.1 h.2.1 h.2.2 facts) ↔ (∀ h ∈ m.headers, (libs.headerName h.name).isSome →
          ∃ text, facts.matchedText (toAsciiLowercase h.name) = some text ∧
            HeaderValueRead libs h.type h.value text) ∧
        ∀ f ∈ m.body, ∃ text, bodyField facts f.1 = some text ∧ BodyRead libs escape f.2 text := by
    rw [hb, ← headersRead_iff hl]
    simp only [storedAiMatch, forall_mem_append, and_assoc]
  constructor
  · intro h
    exact ⟨(hp.1 h.path).1, (hp.1 h.path).2, by simp [AIRouteMatch.spec],
      (hh.1 h.headers).1, by simp [AIRouteMatch.spec], (hh.1 h.headers).2⟩
  · intro h
    exact ⟨hp.2 ⟨h.path, h.anyPath⟩, by simp [MethodRead, storedAiMatch],
      hh.2 ⟨h.headers, h.body⟩, by simp [storedAiMatch]⟩

end

end Portus.Reconcilers

import Portus.Reconcilers.WrittenMatches
import Portus.RouteAttachment

/-!
# Matches are never widened

A request that is served by a rule should be one that a match of the rule asks for. The
reconcilers, the compiler and the data plane each leave out what they cannot read: a
query parameter of an unknown type, a header with an invalid name, a method that is none,
a whole match of an AIRoute. What is left of a match asks for less, and a rule without
matches asks for nothing. `neverWidens_iff` says for which rules nothing is widened.
-/

namespace Portus

open Lib Proto Compiler Reconcilers DataPlane List Option

inductive SpecRule where
  | http (specMatches : List HTTPRouteMatch)
  | ai (specMatches : List AIRouteMatch)

namespace SpecRule

def specs : SpecRule → List SpecMatch
  | http ms => ms.map HTTPRouteMatch.spec
  | ai ms => ms.map AIRouteMatch.spec

def kept (regexNew : String → Bool) : SpecRule → List SpecMatch
  | http ms => ms.map HTTPRouteMatch.spec
  | ai ms => (ms.filter (·.Convertible regexNew)).map AIRouteMatch.spec

def entries (libs : RouterLibs) (regexNew : String → Bool) (escape : String → String) :
    SpecRule → List HTTPRouteMatchState
  | http ms => (convertMatches libs.regexBuilds ms).1
  | ai ms => (convertAiMatches regexNew escape ms).1

end SpecRule

def CompiledFromRule (libs : RouterLibs) (regexNew : String → Bool) (escape : String → String)
    (store : ConfigStore) (rule : SpecRule) (rc : RouteConfig) : Prop :=
  match rule with
  | .http _ => ∃ key hr b r e, store.httpRoutes.lookup key = some hr ∧ r ∈ hr.rules ∧
    r.matchEntries = rule.entries libs regexNew escape ∧
    e ∈ httpRuleEmissions store key hr b r ∧ b ∈ httpBindings store hr ∧ rc = finishRoute store e
  | .ai _ => ∃ key ar b r e, store.aiRoutes.lookup key = some ar ∧ r ∈ ar.rules ∧
    r.matchEntries = rule.entries libs regexNew escape ∧
    e ∈ httpRuleEmissions store ⟨key.namespaceName, aiRouteKeyPrefix ++ key.name⟩
      (aiRouteAsHttpRoute store ar) b (aiRuleAsHttpRule store r) ∧
    b ∈ httpBindings store (aiRouteAsHttpRoute store ar) ∧ rc = finishRoute store e

/-- The configuration of a store, or the slice of it that a Gateway gets. -/
def ConfigOf (store : ConfigStore) (config : CompiledConfig) : Prop :=
  ∃ order, config = compileConfig order store ∨
    ∃ hash gw, config = scopeConfig hash (compileConfig order store) gw

section

variable (libs : RouterLibs) (regexNew : String → Bool) (escape : String → String)

/-- A request that is given to a rule is one that a match of it asks for. -/
def NeverWidens (rule : SpecRule) : Prop :=
  ∀ store config orders facts selected, ConfigOf store config →
    Selects libs orders config facts selected →
    CompiledFromRule libs regexNew escape store rule selected.spec →
      ∃ m ∈ rule.specs, Written libs regexNew m facts

/-- Some match is stored, and what is read of each stored match asks for no less than it, or than
another match of the rule. -/
def ReadAsWritten (rule : SpecRule) : Prop :=
  rule.kept regexNew ≠ [] ∧ ∀ m ∈ rule.kept regexNew, Supported libs regexNew escape m ∨
    ∀ facts, AsRead libs escape m facts → ∃ m' ∈ rule.specs, Written libs regexNew m' facts

variable {libs regexNew escape} {rule : SpecRule} {facts : RequestFacts}

theorem mem_specs_of_kept (h : m ∈ rule.kept regexNew) : m ∈ rule.specs := by
  cases rule with
  | http ms => exact h
  | ai ms =>
    obtain ⟨am, ham, rfl⟩ := List.mem_map.1 h
    exact List.mem_map.2 ⟨am, mem_of_mem_filter ham, rfl⟩

theorem entries_http (h : ms ≠ []) :
    (SpecRule.http ms).entries libs regexNew escape = ms.map (convertMatch libs.regexBuilds) := by
  exact if_neg (by simpa using h)

theorem entryRead_iff (hl : LawfulLibs libs escape) (hne : rule.specs ≠ []) :
    (∃ entry ∈ rule.entries libs regexNew escape, EntryRead libs entry facts) ↔
      ∃ m ∈ rule.kept regexNew, AsRead libs escape m facts := by
  cases rule with
  | http ms =>
    rw [entries_http (fun h => hne (by rw [h]; rfl))]
    simp [SpecRule.kept, entryRead_convertMatch hl]
  | ai ms =>
    simp only [SpecRule.entries, convertAiMatches, SpecRule.kept, mem_filterMap, List.mem_map,
      mem_filter, decide_eq_true_eq]
    constructor
    · rintro ⟨entry, ⟨_, ⟨m, hm, rfl⟩, hen⟩, hr⟩
      rcases @convertAiMatch_cases libs regexNew escape hl facts m with
        ⟨e, he, -⟩ | ⟨entry', hok, hc, hi⟩
      · rw [he] at hen
        cases hen
      · rw [hok] at hen
        cases hen
        exact ⟨m.spec, ⟨m, ⟨hm, hc⟩, rfl⟩, hi.1 hr⟩
    · rintro ⟨_, ⟨m, ⟨hm, hc⟩, rfl⟩, hr⟩
      rcases @convertAiMatch_cases libs regexNew escape hl facts m with
        ⟨e, -, hn⟩ | ⟨entry, hok, -, hi⟩
      · exact absurd hc hn
      · exact ⟨entry, ⟨_, ⟨m, hm, rfl⟩, by rw [hok]; rfl⟩, hi.2 hr⟩

theorem entries_eq_nil_iff (hl : LawfulLibs libs escape) (hne : rule.specs ≠ []) :
    rule.entries libs regexNew escape = [] ↔ rule.kept regexNew = [] := by
  cases rule with
  | http ms =>
    rw [entries_http (fun h => hne (by rw [h]; rfl))]
    simp [SpecRule.kept]
  | ai ms =>
    simp only [SpecRule.entries, convertAiMatches, SpecRule.kept, map_eq_nil_iff,
      filter_eq_nil_iff, filterMap_eq_nil_iff, List.forall_mem_map, decide_eq_true_eq]
    refine forall₂_congr fun m _ => ?_
    rcases @convertAiMatch_cases libs regexNew escape hl
        { host := "", path := "", localPort := 0 } m with
      ⟨e, he, hn⟩ | ⟨entry, hok, hc, -⟩
    · rw [he]
      exact iff_of_true rfl hn
    · rw [hok]
      exact iff_of_false (fun h => by cases h) (not_not.2 hc)

variable {rc : RouteConfig}

theorem ruleMatches_httpRouting (h : routingFields rc = httpRouting place entry) :
    (∃ r ∈ pathRoutes libs rc, ruleMatches libs facts r = true) ↔
      EntryRead libs (entry.getD {}) facts := by
  have hp : rc.paths = ((entry.getD {}).path.map fun p => PathRule.mk p.1 p.2).toList := by
    have hf := congrArg RoutingFields.paths h
    cases entry <;> exact hf
  have hm : rc.methodMatch = (entry.getD {}).method.getD "" := by
    have hf := congrArg RoutingFields.methodMatch h
    cases entry <;> exact hf
  have hh : rc.headerMatches = headerMatchesOf (entry.getD {}).headers := by
    have hf := congrArg RoutingFields.headerMatches h
    cases entry <;> exact hf
  have hq : rc.queryParamMatches = (entry.getD {}).queryParams.map
      fun q => QueryParamMatch.mk q.1 q.2.1 q.2.2 := by
    have hf := congrArg RoutingFields.queryParamMatches h
    cases entry <;> exact hf
  rw [exists_ruleMatches_iff, hp, hm, hh, hq]
  simp only [headerMatchesOf, List.forall_mem_map]
  exact ⟨fun h => ⟨h.1, h.2.1, h.2.2.1, h.2.2.2⟩,
    fun h => ⟨h.path, h.method, h.headers, h.queryParams⟩⟩

theorem CompiledFromRule.exists_routing (h : CompiledFromRule libs regexNew escape store rule rc) :
    ∃ place, ∃ entry ∈ orMatchAll (rule.entries libs regexNew escape),
      routingFields rc = httpRouting place entry := by
  cases rule with
  | http ms =>
    obtain ⟨key, hr, b, r, e, -, -, he', he, -, rfl⟩ := h
    obtain ⟨host, -, entry, hentry, hro⟩ := exists_httpRouting he
    exact ⟨_, entry, he' ▸ hentry, hro⟩
  | ai ms =>
    obtain ⟨key, ar, b, r, e, -, -, he', he, -, rfl⟩ := h
    obtain ⟨host, -, entry, hentry, hro⟩ := exists_httpRouting he
    exact ⟨_, entry, he' ▸ hentry, hro⟩

theorem ruleMatches_of_selects (h : Selects libs orders config facts r) :
    r ∈ pathRoutes libs r.spec ∧ ruleMatches libs facts r = true := by
  obtain ⟨-, port, lh, -, hd⟩ := exists_servedBy_of_matched h
  have hb := (decideRules_eq_matched.1 hd).2.2
  obtain ⟨spec, -, hr⟩ := mem_flatMap.1 (mem_of_bestRule hb)
  refine ⟨?_, (mem_filter.1 (argmax_mem hb)).2⟩
  rwa [spec_of_mem_pathRoutes hr]

theorem neverWidens_of_readAsWritten (hl : LawfulLibs libs escape) (hne : rule.specs ≠ [])
    (h : ReadAsWritten libs regexNew escape rule) : NeverWidens libs regexNew escape rule := by
  intro store config orders facts r _ hse hcom
  obtain ⟨place, entry, he, hro⟩ := hcom.exists_routing
  have hre := (ruleMatches_httpRouting hro).1 ⟨r, ruleMatches_of_selects hse⟩
  have he' : rule.entries libs regexNew escape ≠ [] := mt (entries_eq_nil_iff hl hne).1 h.1
  rw [orMatchAll, if_neg (by simpa using he')] at he
  obtain ⟨stored, hst, rfl⟩ := List.mem_map.1 he
  obtain ⟨m, hm, ha⟩ := (entryRead_iff hl hne).1 ⟨stored, hst, hre⟩
  rcases h.2 m hm with hsu | hc
  · exact ⟨m, mem_specs_of_kept hm, hsu.written hl ha⟩
  · exact hc facts ha

theorem exists_matched_of_catchAll
    (hal : ∀ c ∈ routes, c.host = "*" ∧ c.listenerPort.toUInt16 = facts.localPort ∧
      c.listenerHostname = "" ∧ c.aiDialect = "") (hac : facts.acmeChallenge = false)
    (ht : facts.socketIsTls = false) (hbo : facts.bodyFields.isSome) (hrc : rc ∈ routes)
    (hm' : ∃ r ∈ pathRoutes libs rc, ruleMatches libs facts r = true) :
    ∃ orders r, routeRequest libs (buildListenerBucketsFromProto libs orders routes) facts =
      .matched r := by
  have hre : ReachesHost routes facts := ⟨by simp [hac], by simp [MeantForAnother, ht]⟩
  have hse : ServedBy routes facts facts.localPort "" := by
    refine ⟨⟨⟨rc, hrc, (hal rc hrc).2.1, (hal rc hrc).2.2.1⟩, rfl, ?_⟩, .inl rfl⟩
    rintro _ ⟨c, hc, -, rfl⟩ -
    rw [(hal c hc).2.2.1]
  -- every route is in the place of the requests for any host
  have hslot (s : HostSlot) : slotRoutes routes facts.localPort "" s =
      if s = .catchAll then routes else [] := by
    have hst : hostSlot "*" = .catchAll := rfl
    split
    next hs =>
      refine filter_eq_self.2 fun c hc => ?_
      simp [hal c hc, hs, hst]
    next hs =>
      refine filter_eq_nil_iff.2 fun c hc => ?_
      simp [hal c hc, hst, Ne.symm hs]
  have hru : rulesFor libs routes facts.localPort "" facts.host =
      routes.flatMap (pathRoutes libs) := by
    have hslots (slots : List HostSlot) (hme : .catchAll ∈ slots) :
        (slots.map (slotRoutes routes facts.localPort "")).find? (· ≠ []) = some routes := by
      induction slots with
      | nil => cases hme
      | cons s slots ih =>
        rw [map_cons, hslot s]
        by_cases hs : s = .catchAll
        · simp [hs, ne_nil_of_mem hrc]
        · simpa [hs] using ih ((mem_cons.1 hme).resolve_left (Ne.symm hs))
    rw [rulesFor, routesFor, hslots _ (by simp [requestSlots])]
    rfl
  obtain ⟨orders, hor⟩ := @exists_orders libs routes facts _ _ hre hse
  obtain ⟨r, hr, hm⟩ := hm'
  have hbe : bestRule libs (routes.flatMap (pathRoutes libs)) facts ≠ none := by
    rw [bestRule, ne_eq, argmax_eq_none]
    exact ne_nil_of_mem (mem_filter.2 ⟨mem_flatMap.2 ⟨rc, hrc, hr⟩, hm⟩)
  obtain ⟨best, hbe⟩ := ne_none_iff_exists'.1 hbe
  have hoa : (routes.flatMap (pathRoutes libs)).any routeHasOauth = false := by
    refine List.any_eq_false.2 fun r hr => ?_
    obtain ⟨c, hc, hr⟩ := mem_flatMap.1 hr
    simp [routeHasOauth, spec_of_mem_pathRoutes hr, (hal c hc).2.2.2, knownDialect]
  refine ⟨orders, best, ?_⟩
  rw [hor, hru]
  refine decideRules_eq_matched.2 ⟨by rw [hoa, Bool.and_false], ?_, hbe⟩
  rw [isNone_eq_false_iff.2 hbo]
  rfl

theorem aiDialect_of_noProviders (hn : ∀ key, store.aiProviders.lookup key = none)
    (h : rc ∈ compileRoutes store) : rc.aiDialect = "" := by
  obtain ⟨e, he, rfl⟩ := List.mem_map.1 h
  have hp (r : RouteConfig) : annotateAiProvider store r = r := by
    have hs : providerOfService store r.serviceName = none := by
      simp [providerOfService, hn]
    rw [annotateAiProvider, hs]
  rw [finishRoute_eq, finishWith, hp,
    annotateAiRouteWith_frame (f := RouteConfig.aiDialect) (by intros; rfl),
    overrideProtocolIn_frame (f := RouteConfig.aiDialect) (by intros; rfl),
    applyChoice_frame (f := RouteConfig.aiDialect) (by intros; rfl)]
  exact (unannotated_of_mem_emissions he).aiDialect

def sharedBinding : Binding :=
  ⟨{ gatewayNamespace := "infra", gatewayName := "gw" },
    { name := "http", port := 80, protocol := "HTTP" }, ["*"]⟩

def soleRoute (stored : List HTTPRouteMatchState) : HTTPRouteState :=
  { namespaceName := "shop"
    parentRefs := [sharedBinding.parentRef]
    rules := [{ matchEntries := stored }] }

def soleAiRoute (stored : List HTTPRouteMatchState) : AIRouteState :=
  { namespaceName := "shop"
    parentRefs := [sharedBinding.parentRef]
    rules := [{ matchEntries := stored, provider := ⟨"shop", "none"⟩ }] }

def soleStore (stored : List HTTPRouteMatchState) : SpecRule → ConfigStore
  | .http _ =>
    { gateways := (∅ : Table _ _).insert ⟨"infra", "gw"⟩ sharedGateway
      httpRoutes := (∅ : Table _ _).insert ⟨"shop", "front"⟩ (soleRoute stored) }
  | .ai _ =>
    { gateways := (∅ : Table _ _).insert ⟨"infra", "gw"⟩ sharedGateway
      aiRoutes := (∅ : Table _ _).insert ⟨"shop", "front"⟩ (soleAiRoute stored) }

def soleKey : SpecRule → NamespacedName
  | .http _ => ⟨"shop", "front"⟩
  | .ai _ => ⟨"shop", aiRouteKeyPrefix ++ "front"⟩

theorem emissions_soleStore :
    emissions (soleStore stored rule) = httpRuleEmissions (soleStore stored rule) (soleKey rule)
      (soleRoute stored) sharedBinding { matchEntries := stored } := by
  have he : emissions (soleStore stored rule) =
      httpEmissions (soleStore stored rule) (soleKey rule) (soleRoute stored) := by
    cases rule <;> exact (append_nil _).trans (append_nil _)
  have hb : httpBindings (soleStore stored rule) (soleRoute stored) = [sharedBinding] := by
    cases rule <;> rfl
  rw [he, httpEmissions, hb, flatMap_singleton]
  exact flatMap_singleton _ _

theorem compiledFromRule_soleStore
    (h : rc ∈ compileRoutes (soleStore (rule.entries libs regexNew escape) rule)) :
    CompiledFromRule libs regexNew escape (soleStore (rule.entries libs regexNew escape) rule) rule
      rc := by
  obtain ⟨e, he, rfl⟩ := List.mem_map.1 h
  rw [emissions_soleStore] at he
  cases rule with
  | http ms | ai ms =>
    exact ⟨⟨"shop", "front"⟩, _, sharedBinding, _, e, rfl, mem_singleton_self _, rfl, he,
      mem_singleton_self _, rfl⟩

theorem place_soleStore (h : rc ∈ compileRoutes (soleStore stored rule)) :
    rc.host = "*" ∧ rc.listenerPort.toUInt16 = 80 ∧ rc.listenerHostname = "" ∧
      rc.aiDialect = "" := by
  have hd := aiDialect_of_noProviders (fun key => by cases rule <;> rfl) h
  obtain ⟨e, he, rfl⟩ := List.mem_map.1 h
  rw [emissions_soleStore] at he
  obtain ⟨host, hh, entry, -, hr⟩ := exists_httpRouting he
  have hs : (finishRoute (soleStore stored rule) e).host = host :=
    congrArg RoutingFields.host hr
  have hp : (finishRoute (soleStore stored rule) e).listenerPort = 80 :=
    congrArg RoutingFields.listenerPort hr
  refine ⟨hs.trans (mem_singleton.1 hh), ?_,
    congrArg RoutingFields.listenerHostname hr, hd⟩
  rw [hp]
  rfl

def onShared (facts : RequestFacts) : RequestFacts :=
  { facts with
    host := "shop.example.com"
    localPort := 80
    socketIsTls := false
    acmeChallenge := false
    bodyFields := some (facts.bodyFields.getD []) }

theorem bodyField_onShared (facts : RequestFacts) (key : String) :
    bodyField (onShared facts) key = bodyField facts key := by
  unfold bodyField onShared
  cases facts.bodyFields <;> rfl

theorem matchedText_onShared : (onShared facts).matchedText name = facts.matchedText name := by
  unfold RequestFacts.matchedText
  cases Text.stripPrefix bodyFieldHeaderPrefix name with
  | none => rfl
  | some key => exact bodyField_onShared facts key

theorem written_onShared :
    Written libs regexNew m (onShared facts) ↔ Written libs regexNew m facts := by
  have hb := bodyField_onShared facts
  constructor
  · intro h
    exact ⟨h.path, h.method, h.headers, h.queryParams, fun f hf => hb f.1 ▸ h.body f hf⟩
  · intro h
    exact ⟨h.path, h.method, h.headers, h.queryParams, fun f hf => (hb f.1).symm ▸ h.body f hf⟩

theorem asRead_onShared (h : AsRead libs escape m facts) :
    AsRead libs escape m (onShared facts) := by
  refine ⟨h.path, h.anyPath, h.method, fun hd hm hn => ?_, h.queryParams, fun f hf => ?_⟩
  · rw [matchedText_onShared]
    exact h.headers hd hm hn
  · rw [bodyField_onShared]
    exact h.body f hf

theorem exists_selects_soleStore (hen : entry ∈ orMatchAll (rule.entries libs regexNew escape))
    (hre : EntryRead libs (entry.getD {}) (onShared facts)) :
    ∃ orders r, Selects libs orders
      (compileConfig .insertion (soleStore (rule.entries libs regexNew escape) rule))
      (onShared facts) r := by
  obtain ⟨e, he, hro⟩ := @exists_mem_of_httpRouting
    (soleStore (rule.entries libs regexNew escape) rule) (soleKey rule) sharedBinding
    (soleRoute (rule.entries libs regexNew escape))
    { matchEntries := rule.entries libs regexNew escape } "*" entry (mem_singleton_self _)
    hen
  rw [← emissions_soleStore] at he
  exact exists_matched_of_catchAll (fun c hc => place_soleStore hc) rfl rfl rfl
    (List.mem_map.2 ⟨e, he, rfl⟩) ((ruleMatches_httpRouting hro).2 hre)

theorem NeverWidens.exists_written (h : NeverWidens libs regexNew escape rule)
    {entry : Option HTTPRouteMatchState}
    (he : entry ∈ orMatchAll (rule.entries libs regexNew escape))
    (hr : EntryRead libs (entry.getD {}) (onShared facts)) :
    ∃ m ∈ rule.specs, Written libs regexNew m facts := by
  obtain ⟨orders, r, hs⟩ := exists_selects_soleStore he hr
  obtain ⟨-, port, lh, -, hd⟩ := exists_servedBy_of_matched hs
  have hme := (mem_routesFor (exists_of_mem_rulesFor
    (mem_of_bestRule (decideRules_eq_matched.1 hd).2.2))).1
  obtain ⟨m, hm, hw⟩ := h _ _ orders (onShared facts) r ⟨.insertion, .inl rfl⟩ hs
    (compiledFromRule_soleStore hme)
  exact ⟨m, hm, written_onShared.1 hw⟩

theorem body_ne_nil {m : AIRouteMatch} (h : ¬ m.Convertible regexNew) : m.body ≠ [] := by
  intro hn
  refine h ⟨?_, by simp [hn]⟩
  simp only [AIRouteMatch.body, append_eq_nil_iff, toList_eq_nil_iff, map_eq_none_iff] at hn
  simp [hn]

theorem kept_ne_nil (hl : LawfulLibs libs escape) (hne : rule.specs ≠ [])
    (h : NeverWidens libs regexNew escape rule) : rule.kept regexNew ≠ [] := by
  intro hni
  have he := (entries_eq_nil_iff hl hne).2 hni
  have hentry : none ∈ orMatchAll (rule.entries libs regexNew escape) := by
    rw [he]
    exact mem_singleton_self _
  obtain ⟨m, hm, hw⟩ := @NeverWidens.exists_written libs regexNew escape rule
    { host := "", path := "/", localPort := 80 } h none hentry
    ⟨⟨[], rfl, .inl rfl⟩, by simp [MethodRead], by simp, by simp⟩
  cases rule with
  | http ms => exact hne hni
  | ai ms =>
    obtain ⟨am, ham, rfl⟩ := List.mem_map.1 hm
    have hno : ¬ am.Convertible regexNew := fun hc =>
      ne_nil_of_mem (List.mem_map.2 ⟨am, mem_filter.2 ⟨ham, decide_eq_true hc⟩,
        rfl⟩) hni
    obtain ⟨f, hf⟩ := exists_mem_of_ne_nil _ (body_ne_nil hno)
    obtain ⟨text, ht, -⟩ := hw.body f hf
    cases ht

/-- **Match fidelity**: the requests that a rule is given are ones its matches ask for exactly where
the rule is read as it is written. -/
theorem neverWidens_iff (hlibs : LawfulLibs libs escape) (hne : rule.specs ≠ []) :
    NeverWidens libs regexNew escape rule ↔ ReadAsWritten libs regexNew escape rule := by
  refine ⟨fun h => ⟨kept_ne_nil hlibs hne h, fun m hm => .inr fun facts hr => ?_⟩,
    neverWidens_of_readAsWritten hlibs hne⟩
  obtain ⟨stored, hs, he⟩ := (entryRead_iff hlibs hne).2 ⟨m, hm, asRead_onShared hr⟩
  have hme : some stored ∈ orMatchAll (rule.entries libs regexNew escape) := by
    rw [orMatchAll, if_neg (by simpa using ne_nil_of_mem hs)]
    exact List.mem_map.2 ⟨stored, hs, rfl⟩
  exact h.exists_written hme he

end

def lowerNames : RouterLibs :=
  ⟨fun s => some (Text.toAsciiLowercase s), some, fun _ => false, fun _ _ => false⟩

theorem lawful_lowerNames : LawfulLibs lowerNames id where
  method s t h := by cases h; rfl
  headerName s t h := by cases h; rfl
  bodyHeaders _ _ := rfl
  escaped _ _ h := by cases h

def cartRule : SpecRule :=
  .http [{ path := some { matchType := some "PathPrefix", value := some "/cart" } }]

theorem neverWidens_cartRule : NeverWidens lowerNames (fun _ => true) id cartRule := by
  have hne : cartRule.specs ≠ [] := cons_ne_nil _ _
  refine (neverWidens_iff lawful_lowerNames hne).2 ⟨cons_ne_nil _ _, fun m hm => .inl ?_⟩
  cases mem_singleton.1 hm
  refine ⟨?_, fun s hs => (by cases hs), fun h hme => (by cases hme), fun q hq => (by cases hq),
    fun f hf => (by cases hf)⟩
  intro p hp
  cases hp
  exact mem_cons_self

/-- A rule for a model, by a type of match that does not exist. -/
def globRule : SpecRule :=
  .ai [{ model := some { matchType := some "Glob", value := "gpt-*" } }]

/-- The match for the model cannot be converted, and the rule takes every request. -/
theorem globRule_takes_all :
    ¬ ∀ (libs : RouterLibs) (regexNew : String → Bool) (escape : String → String)
      (rule : SpecRule), LawfulLibs libs escape → rule.specs ≠ [] →
        NeverWidens libs regexNew escape rule := by
  intro h
  have hne : globRule.specs ≠ [] := cons_ne_nil _ _
  have hn := h lowerNames (fun _ => true) id globRule lawful_lowerNames hne
  exact kept_ne_nil lawful_lowerNames hne hn (by decide)

end Portus

import Portus.Compiler.Matching
import Portus.DataPlane.Paths
import Portus.DataPlane.RouteSlice
import Portus.Reconcilers.RouteMatches

/-!
# Matching gRPC methods

A gRPC call is a request for `/service/method`. A GRPCRoute entry that names a service or
a method is compiled to a path that the data plane takes as a prefix, whatever the type
of the entry and whether the service is there or not. The configuration accepts the
calls the entry asks for (`MatchesCalls`) exactly where `ExactlyLowered` holds: an entry
for a method alone is compiled to `/` and accepts every call, and a regular expression is
compared as a text.
-/

namespace Portus

open Lib Proto Compiler DataPlane Reconcilers List

def AcceptsPath (libs : RouterLibs) (rc : RouteConfig) (path : String) : Prop :=
  ∃ r ∈ pathRoutes libs rc, pathMatches libs r path = true

def NoSlash (s : String) : Prop := '/' ∉ s.toList

instance : DecidablePred NoSlash := fun s => inferInstanceAs (Decidable ('/' ∉ s.toList))

def callPath (service method : String) : String := "/" ++ service ++ "/" ++ method

/-- A field of an entry matches a text: it is the text, or an expression for it. -/
def FieldMatches (libs : RouterLibs) (matchType field text : String) : Prop :=
  if matchType = "RegularExpression" then
    libs.regexBuilds field = true ∧ libs.regexMatches field text = true
  else text = field

/-- What an entry asks of a call: each field that is given matches. -/
def EntryMatches (libs : RouterLibs) (m : GRPCRouteMatch) (service method : String) : Prop :=
  (∀ field, m.givenService = some field → FieldMatches libs m.methodMatchType field service) ∧
    ∀ field, m.givenMethod = some field → FieldMatches libs m.methodMatchType field method

/-- A configuration accepts the calls an entry of one of the two types asks for. -/
def MatchesCalls (libs : RouterLibs) (m : GRPCRouteMatch) (rc : RouteConfig) : Prop :=
  m.methodMatchType = "Exact" ∨ m.methodMatchType = "RegularExpression" →
    ∀ service method, NoSlash service → NoSlash method →
      (AcceptsPath libs rc (callPath service method) ↔ EntryMatches libs m service method)

def CompiledFromEntry (store : ConfigStore) (m : GRPCRouteMatch) (rc : RouteConfig) : Prop :=
  ∃ key gr b rule specMatches e, (key, gr) ∈ store.grpcRoutes.pairs ∧ b ∈ grpcBindings store gr ∧
    rule ∈ gr.rules ∧ rule.matchEntries = convertGrpcMatches specMatches ∧ m ∈ specMatches ∧
    e ∈ grpcEntryEmissions store key gr b rule (some (convertGrpcMatch m)) ∧
    rc = finishRoute store e

def entryPath (m : GRPCRouteMatch) : String :=
  match m.givenService, m.givenMethod with
  | some service, some method => "/" ++ service ++ "/" ++ method
  | some service, none => "/" ++ service
  | none, _ => "/"

theorem grpcPaths_convertGrpcMatch :
    grpcPaths ⟨(convertGrpcMatch m).service.getD "", (convertGrpcMatch m).method.getD "",
      (convertGrpcMatch m).matchType⟩ = [⟨entryPath m, "Prefix"⟩] := by
  unfold grpcPaths entryPath convertGrpcMatch
  cases hs : m.givenService with
  | none => simp
  | some service =>
    have hse := GRPCRouteMatch.givenService_ne_empty hs
    cases hm : m.givenMethod with
    | none => simp [hse]
    | some method =>
      have hme := GRPCRouteMatch.givenMethod_ne_empty hm
      simp [hse, hme]

theorem CompiledFromEntry.acceptsPath_iff {libs : RouterLibs} (h : CompiledFromEntry store m rc)
    (path : String) : AcceptsPath libs rc path ↔ Under (entryPath m).toList path.toList := by
  obtain ⟨key, gr, b, rule, specMatches, e, -, -, -, -, -, he, rfl⟩ := h
  obtain ⟨host, -, hr⟩ := exists_grpcRouting he
  have hp : (finishRoute store e).paths = [⟨entryPath m, "Prefix"⟩] :=
    (congrArg RoutingFields.paths hr).trans grpcPaths_convertGrpcMatch
  have hroute : pathRoutes libs (finishRoute store e) =
      [makeRoute libs (finishRoute store e) (entryPath m) .pathPrefix] := by
    rw [pathRoutes, hp]
    rfl
  rw [AcceptsPath, hroute]
  simp only [mem_singleton, exists_eq_left]
  exact pathMatches_pathPrefix rfl

section Fields

variable (libs : RouterLibs) (matchType : String)

/-- Among the names without a slash a field matches one. -/
def OnlyMatches (field name : String) : Prop :=
  ∀ s, NoSlash s → (FieldMatches libs matchType field s ↔ s = name)

def MatchesNothing (field : String) : Prop :=
  ∀ s, NoSlash s → ¬ FieldMatches libs matchType field s

/-- When a configuration accepts the calls its entry asks for: the fields, taken as texts, have to
mean what they mean as fields. A service may end with a slash, since its prefix is compared up to
the next slash anyway; with more slashes the prefix has more segments than a call. -/
def ExactlyLowered : Option String → Option String → Prop
  | none, none => True
  | none, some method => ∀ s, NoSlash s → FieldMatches libs matchType method s
  | some service, none =>
    (∃ name, NoSlash name ∧ (service = name ∨ service = name ++ "/") ∧
      OnlyMatches libs matchType service name) ∨
    (2 ≤ service.toList.count '/' ∧ MatchesNothing libs matchType service)
  | some service, some method =>
    if NoSlash service ∧ NoSlash method then
      OnlyMatches libs matchType service service ∧ OnlyMatches libs matchType method method
    else MatchesNothing libs matchType service ∨ MatchesNothing libs matchType method

variable {libs matchType}

theorem toList_callPath (service method : String) :
    (callPath service method).toList = '/' :: (service.toList ++ '/' :: method.toList) := by
  simp [callPath]

theorem noSlash_empty : NoSlash "" := by
  decide

theorem under_service {service : String} (hne : service ≠ "") (hse : NoSlash service)
    (hs : NoSlash s) : Under ('/' :: service.toList) (callPath s m).toList ↔ s = service := by
  rw [toList_callPath, under_segment hse hs (mt String.toList_eq_nil_iff.1 hne),
    String.toList_inj, eq_comm]

theorem under_service_slash {service name : String} (hse : service = name ++ "/")
    (hn : NoSlash name) (hs : NoSlash s) :
    Under ('/' :: service.toList) (callPath s m).toList ↔ s = name := by
  have hl : service.toList = name.toList ++ ['/'] := by
    rw [hse, String.toList_append]
    rfl
  rw [toList_callPath, hl, under_segment_slash hn hs, String.toList_inj, eq_comm]

theorem service_cases :
    NoSlash service ∨ (∃ name, NoSlash name ∧ service = name ++ "/") ∨
      (∃ name rest, NoSlash name ∧ NoSlash rest ∧ rest ≠ "" ∧ service = name ++ "/" ++ rest) ∨
      2 ≤ service.toList.count '/' := by
  by_cases hsl : '/' ∈ service.toList
  · obtain ⟨x, y, hxy, hx⟩ := eq_append_cons_of_mem hsl
    have hse : service = String.ofList x ++ "/" ++ String.ofList y := by
      apply String.toList_inj.1
      simp [hxy]
    have hna : NoSlash (String.ofList x) := by
      rwa [NoSlash, String.toList_ofList]
    by_cases hy : '/' ∈ y
    · refine .inr (.inr (.inr ?_))
      have hc := one_le_count_iff.2 hy
      rw [hxy, count_append, count_cons_self]
      omega
    · by_cases hni : y = []
      · refine .inr (.inl ⟨_, hna, ?_⟩)
        rw [hse, hni]
        simp
      · refine .inr (.inr (.inl ⟨_, _, hna, ?_, ?_, hse⟩))
        · rwa [NoSlash, String.toList_ofList]
        · simpa using hni
  · exact .inl hsl

theorem count_noSlash {name : String} (hn : NoSlash name) : name.toList.count '/' = 0 :=
  count_eq_zero.2 hn

theorem eq_of_service {service name : String} (hn : NoSlash name)
    (h : service = name ∨ service = name ++ "/") :
    (NoSlash service ∧ service = name) ∨ (¬ NoSlash service ∧ service = name ++ "/") := by
  rcases h with rfl | rfl
  · exact .inl ⟨hn, rfl⟩
  · refine .inr ⟨?_, rfl⟩
    simp [NoSlash]

theorem name_unique {service name : String} (hname : NoSlash name) (hname' : NoSlash name')
    (hs : service = name ++ "/") (hor : service = name' ∨ service = name' ++ "/") :
    name = name' := by
  obtain ⟨hno, -⟩ | ⟨-, heq⟩ := eq_of_service hname' hor
  · rw [hs] at hno
    simp [NoSlash] at hno
  · have hl := congrArg String.toList (hs.symm.trans heq)
    rw [String.toList_append, String.toList_append] at hl
    exact String.toList_inj.1 ((append_slash_inj hname hname').1 hl).1

section Service

variable {service name rest : String}

abbrev ServiceMatched (libs : RouterLibs) (matchType service : String) : Prop :=
  ∀ s m, NoSlash s → NoSlash m → (Under ('/' :: service.toList) (callPath s m).toList ↔
    FieldMatches libs matchType service s)

theorem serviceMatched_iff_of_noSlash (hne : service ≠ "") (hse : NoSlash service) :
    ServiceMatched libs matchType service ↔ ExactlyLowered libs matchType (some service) none := by
  constructor
  · intro h
    refine .inl ⟨service, hse, .inl rfl, fun s hs => ?_⟩
    rw [← h s "" hs noSlash_empty, under_service hne hse hs]
  · rintro (⟨name, hna, hor, ho⟩ | ⟨hc, -⟩) s m hs -
    · obtain ⟨-, rfl⟩ | ⟨hno, -⟩ := eq_of_service hna hor
      · rw [under_service hne hse hs, ho s hs]
      · exact absurd hse hno
    · rw [count_noSlash hse] at hc
      omega

theorem serviceMatched_iff_of_trailing (hname : NoSlash name) (hse : service = name ++ "/") :
    ServiceMatched libs matchType service ↔ ExactlyLowered libs matchType (some service) none := by
  constructor
  · intro h
    refine .inl ⟨name, hname, .inr hse, fun s hs => ?_⟩
    rw [← h s "" hs noSlash_empty, under_service_slash hse hname hs]
  · rintro (⟨name', hname', hor, ho⟩ | ⟨hc, -⟩) s m hs -
    · obtain rfl : name = name' := name_unique hname hname' hse hor
      rw [under_service_slash hse hname hs, ho s hs]
    · rw [hse, String.toList_append, count_append, count_noSlash hname] at hc
      exact absurd hc (by decide)

theorem serviceMatched_iff_of_call (hname : NoSlash name) (hr : NoSlash rest)
    (hne : rest ≠ "") (hs : service = name ++ "/" ++ rest) :
    ServiceMatched libs matchType service ↔ ExactlyLowered libs matchType (some service) none := by
  have hca (m : String) (hm : NoSlash m) :
      Under ('/' :: service.toList) (callPath name m).toList ↔ rest = m := by
    have hl : service.toList = name.toList ++ '/' :: rest.toList := by
      simp [hs]
    rw [toList_callPath, hl, under_two_segments hname hname hr
      (mt String.toList_eq_nil_iff.1 hne) hm, String.toList_inj, String.toList_inj]
    exact and_iff_right rfl
  refine iff_of_false (fun h => ?_) ?_
  · have hma := (h name rest hname hr).1 ((hca rest hr).2 rfl)
    exact hne ((hca "" noSlash_empty).1 ((h name "" hname noSlash_empty).2 hma))
  · rintro (⟨name', hname', hor, -⟩ | ⟨hco, -⟩)
    · obtain ⟨hno, -⟩ | ⟨-, heq⟩ := eq_of_service hname' hor
      · rw [hs] at hno
        simp [NoSlash] at hno
      · have hseg := congrArg String.toList (hs.symm.trans heq)
        rw [String.toList_append, String.toList_append, String.toList_append, append_assoc] at hseg
        exact hne (String.toList_eq_nil_iff.1 ((append_slash_inj hname hname').1 hseg).2)
    · rw [hs, String.toList_append, String.toList_append, count_append,
        count_append, count_noSlash hname, count_noSlash hr] at hco
      exact absurd hco (by decide)

theorem serviceMatched_iff_of_count (hc : 2 ≤ service.toList.count '/') :
    ServiceMatched libs matchType service ↔ ExactlyLowered libs matchType (some service) none := by
  have hnot {s m : String} (hs : NoSlash s) (hm : NoSlash m) :
      ¬ Under ('/' :: service.toList) (callPath s m).toList := by
    rw [toList_callPath]
    refine not_under_of_count hs hm ?_
    rw [count_cons_self]
    omega
  constructor
  · intro h
    refine .inr ⟨hc, fun s hs hma => ?_⟩
    exact hnot hs noSlash_empty ((h s "" hs noSlash_empty).2 hma)
  · rintro (⟨name, hna, rfl | rfl, -⟩ | ⟨-, hn⟩) s m hs hm
    · rw [count_noSlash hna] at hc
      omega
    · rw [String.toList_append, count_append, count_noSlash hna] at hc
      exact absurd hc (by decide)
    · exact iff_of_false (hnot hs hm) (hn s hs)

theorem serviceMatched_iff (hne : service ≠ "") :
    ServiceMatched libs matchType service ↔ ExactlyLowered libs matchType (some service) none := by
  rcases service_cases with hs | ⟨name, hn, hs⟩ |
    ⟨name, rest, hn, hrest, hrestn, hs⟩ | hcount
  · exact serviceMatched_iff_of_noSlash hne hs
  · exact serviceMatched_iff_of_trailing hn hs
  · exact serviceMatched_iff_of_call hn hrest hrestn hs
  · exact serviceMatched_iff_of_count hcount

end Service

theorem callMatched_iff {service : String} (hne : method ≠ "") : (∀ s m, NoSlash s → NoSlash m →
      (Under (callPath service method).toList (callPath s m).toList ↔
        FieldMatches libs matchType service s ∧ FieldMatches libs matchType method m)) ↔
      ExactlyLowered libs matchType (some service) (some method) := by
  by_cases hno : NoSlash service ∧ NoSlash method
  · simp only [ExactlyLowered, if_pos hno]
    obtain ⟨hse, hme⟩ := hno
    have hu {s m : String} (hs : NoSlash s) (hm : NoSlash m) :
        Under (callPath service method).toList (callPath s m).toList ↔ s = service ∧ m = method := by
      rw [toList_callPath, toList_callPath, under_two_segments hse hs hme
        (mt String.toList_eq_nil_iff.1 hne) hm, String.toList_inj, String.toList_inj,
        eq_comm, @eq_comm _ method]
    constructor
    · intro h
      obtain ⟨hfs, hfm⟩ := (h service method hse hme).1 ((hu hse hme).2 ⟨rfl, rfl⟩)
      constructor
      · intro s hs
        refine ⟨fun hma => ?_, fun heq => heq ▸ hfs⟩
        exact ((hu hs hme).1 ((h s method hs hme).2 ⟨hma, hfm⟩)).1
      · intro m hm
        refine ⟨fun hma => ?_, fun heq => heq ▸ hfm⟩
        exact ((hu hse hm).1 ((h service m hse hm).2 ⟨hfs, hma⟩)).2
    · rintro ⟨hs', hm'⟩ s m hs hm
      rw [hu hs hm, hs' s hs, hm' m hm]
  · simp only [ExactlyLowered, if_neg hno]
    -- the path has more segments than a call
    have hnot {s m : String} (hs : NoSlash s) (hm : NoSlash m) :
        ¬ Under (callPath service method).toList (callPath s m).toList := by
      rw [toList_callPath s m]
      refine not_under_of_count hs hm ?_
      have hsl : 1 ≤ service.toList.count '/' + method.toList.count '/' := by
        by_contra hzero
        refine hno ⟨count_eq_zero.1 ?_, count_eq_zero.1 ?_⟩ <;> omega
      rw [toList_callPath, count_cons_self, count_append, count_cons_self]
      omega
    constructor
    · intro h
      by_contra hb
      simp only [MatchesNothing, not_or, not_forall, not_not] at hb
      obtain ⟨⟨s, hs, hfs⟩, m, hm, hfm⟩ := hb
      exact hnot hs hm ((h s m hs hm).2 ⟨hfs, hfm⟩)
    · rintro (hn | hn) s m hs hm
      · exact iff_of_false (hnot hs hm) fun h => hn s hs h.1
      · exact iff_of_false (hnot hs hm) fun h => hn m hm h.2

end Fields

/-- **gRPC matching**: a configuration compiled from an entry accepts the calls the entry asks for
exactly where the fields mean as texts what they mean as fields. -/
theorem matchesCalls_iff (libs : RouterLibs) {store : ConfigStore} {m : GRPCRouteMatch}
    {rc : RouteConfig} (h : CompiledFromEntry store m rc) :
    MatchesCalls libs m rc ↔
      (m.methodMatchType = "Exact" ∨ m.methodMatchType = "RegularExpression" →
        ExactlyLowered libs m.methodMatchType m.givenService m.givenMethod) := by
  refine imp_congr_right fun _ => ?_
  simp only [h.acceptsPath_iff, EntryMatches, entryPath]
  cases hs : m.givenService with
  | none =>
    have hr (service method : String) : Under "/".toList (callPath service method).toList := by
      rw [toList_callPath]
      exact under_root
    cases hm : m.givenMethod with
    | none =>
      simp only [reduceCtorEq, false_implies, implies_true, and_self, hr, ExactlyLowered]
    | some method =>
      simp only [reduceCtorEq, false_implies, implies_true, Option.some.injEq, true_and, hr,
        true_iff, forall_eq', ExactlyLowered]
      exact ⟨fun h s hs => h "" s noSlash_empty hs, fun h s m _ hm => h m hm⟩
  | some service =>
    have hse := GRPCRouteMatch.givenService_ne_empty hs
    cases hm : m.givenMethod with
    | none =>
      rw [← serviceMatched_iff hse]
      simp
    | some method =>
      rw [← callMatched_iff (GRPCRouteMatch.givenMethod_ne_empty hm)]
      simp [callPath]

theorem exactlyLowered_exact {service : Option String} :
    ExactlyLowered libs "Exact" service method ↔ ¬ (service = none ∧ method ≠ none) ∧
        (method = none → ∀ name, service = some name → name.toList.count '/' ≠ 1) := by
  have hf (field text : String) : FieldMatches libs "Exact" field text ↔ text = field := by
    rw [FieldMatches, if_neg (by decide)]
  cases service with
  | none =>
    cases method with
    | none => simp [ExactlyLowered]
    | some method =>
      simp only [ExactlyLowered, hf, reduceCtorEq, ne_eq, not_false_eq_true, and_self,
        not_true_eq_false, false_and, iff_false]
      intro h
      exact absurd ((h "a" (by decide)).trans (h "b" (by decide)).symm) (by decide)
  | some service =>
    cases method with
    | none =>
      simp only [ExactlyLowered, OnlyMatches, MatchesNothing, hf, reduceCtorEq, false_and,
        not_false_eq_true, Option.some.injEq, forall_const, forall_eq', true_and]
      constructor
      · rintro (⟨name, hn, rfl | rfl, ho⟩ | ⟨hc, -⟩) hone
        · rw [count_noSlash hn] at hone
          omega
        · have hs' := congrArg (·.toList.length) ((ho name hn).2 rfl)
          simp at hs'
        · omega
      · intro hone
        by_cases hse : NoSlash service
        · exact .inl ⟨service, hse, .inl rfl, fun s _ => Iff.rfl⟩
        · have hp := one_le_count_iff.2 (not_not.1 hse)
          refine .inr ⟨by omega, ?_⟩
          rintro s hs rfl
          exact hse hs
    | some method =>
      simp only [ExactlyLowered, OnlyMatches, MatchesNothing, hf, reduceCtorEq, ne_eq,
        not_false_eq_true, and_true, false_implies]
      split
      next => simp
      next hno =>
        refine iff_of_true ?_ trivial
        by_cases hse : NoSlash service
        · refine .inr ?_
          rintro m hm rfl
          exact hno ⟨hse, hm⟩
        · refine .inl ?_
          rintro s hs rfl
          exact hse hs

def grpcEntry (service method : Option String) : GRPCRouteMatch :=
  { method := some { service := service, method := method } }

def grpcShopState (m : GRPCRouteMatch) : GRPCRouteState :=
  { namespaceName := "shop"
    parentRefs := [{ gatewayNamespace := "infra", gatewayName := "gw" }]
    rules := [{ matchEntries := convertGrpcMatches [m] }] }

def grpcShop (m : GRPCRouteMatch) : ConfigStore :=
  { gateways := Table.collect [(⟨"infra", "gw"⟩, sharedGateway)]
    grpcRoutes := Table.collect [(⟨"shop", "calls"⟩, grpcShopState m)] }

theorem exists_compiledFromEntry (m : GRPCRouteMatch) :
    ∃ rc, CompiledFromEntry (grpcShop m) m rc := by
  have hb : ⟨{ gatewayNamespace := "infra", gatewayName := "gw" },
      { name := "http", port := 80, protocol := "HTTP" }, ["*"]⟩ ∈
        bindings (grpcShop m) "shop" [] [{ gatewayNamespace := "infra", gatewayName := "gw" }] := by
    refine mem_bindings.2 ⟨mem_singleton_self _, rfl, mem_singleton_self _, ?_, rfl, ?_⟩
    · rfl
    · simp
  obtain ⟨e, he⟩ : ∃ e, e ∈ grpcEntryEmissions (grpcShop m) ⟨"shop", "calls"⟩ (grpcShopState m) _
      { matchEntries := convertGrpcMatches [m] } (some (convertGrpcMatch m)) :=
    exists_mem_grpcRuleEmissions hb _
  exact ⟨_, ⟨"shop", "calls"⟩, grpcShopState m, _, _, [m], e, mem_singleton_self _, hb,
    mem_singleton_self _, rfl, mem_singleton_self _, he, rfl⟩

/-- An entry for a service and a method accepts that call only. -/
theorem matchesCalls_service_and_method :
    ∃ rc, CompiledFromEntry (grpcShop (grpcEntry (some "shop.Cart") (some "Add")))
        (grpcEntry (some "shop.Cart") (some "Add")) rc ∧
      MatchesCalls plainNames (grpcEntry (some "shop.Cart") (some "Add")) rc := by
  obtain ⟨rc, hrc⟩ := exists_compiledFromEntry (grpcEntry (some "shop.Cart") (some "Add"))
  refine ⟨rc, hrc, (matchesCalls_iff plainNames hrc).2 fun _ => ?_⟩
  exact exactlyLowered_exact.2 ⟨by decide, by decide⟩

/-- An entry for a method alone accepts every other method. -/
theorem method_only_accepts_all :
    ¬ ∀ libs store m rc, CompiledFromEntry store m rc → MatchesCalls libs m rc := by
  intro h
  obtain ⟨rc, hrc⟩ := exists_compiledFromEntry (grpcEntry none (some "Add"))
  have hm := (h plainNames _ _ rc hrc (.inl rfl) "shop.Cart" "Remove" (by decide)
    (by decide)).1 ((hrc.acceptsPath_iff _).2 under_root)
  have hf : "Remove" = "Add" := hm.2 "Add" rfl
  exact absurd hf (by decide)

end Portus

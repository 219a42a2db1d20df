import Portus.Publication
import Portus.StoreWalks

/-!
# Decisions and the order of the store

The order in which the maps of a store are walked is not part of its content. It shows
where two rules are tied for a request, since the one that is compiled first serves it, and
where several policies, budgets or namespaces may be taken for a configuration.
`MayDecide` lists the decisions that the content leaves open, and `mayDecide_iff` says that
these are the ones some order takes; so the decisions are a function of the content exactly
where it leaves one open (`orderIndependent_iff`).
-/

namespace Portus

open Lib Proto Compiler DataPlane List Option Function

section Rules

variable (libs : RouterLibs) (store : ConfigStore) (port : UInt16) (lh host : String)

def atSlot (s : HostSlot) (e : Emission) : Bool :=
  decide (e.route.listenerPort.toUInt16 = port ∧ e.route.listenerHostname = lh ∧
    hostSlot e.route.host = s)

def servingSlot : Option HostSlot :=
  (requestSlots host).find? fun s => (emissions store).any (atSlot port lh s)

def lookedAt (e : Emission) : Bool :=
  (servingSlot store port lh host).any fun s => atSlot port lh s e

def emittedRules (es : List Emission) : List (Emission × PathRoute) :=
  (es.filter (lookedAt store port lh host)).flatMap fun e =>
    (pathRoutes libs e.route).map (e, ·)

def carrying (f : Emission → RouteConfig) (x : Emission × PathRoute) : PathRoute :=
  { x.2 with spec := f x.1 }

variable {libs store port lh host}

theorem pathRoutes_congr (h : routingFields rc = routingFields rc') :
    pathRoutes libs rc = (pathRoutes libs rc').map fun r => { r with spec := rc } := by
  have hp : rc.paths = rc'.paths := congrArg RoutingFields.paths h
  have hh : rc.headerMatches = rc'.headerMatches := congrArg RoutingFields.headerMatches h
  have hme : rc.methodMatch = rc'.methodMatch := congrArg RoutingFields.methodMatch h
  have hq : rc.queryParamMatches = rc'.queryParamMatches :=
    congrArg RoutingFields.queryParamMatches h
  have hma (path : String) : makeRoute libs rc path =
      fun t => { makeRoute libs rc' path t with spec := rc } := by
    funext t
    unfold makeRoute
    rw [hh, hme, hq]
  unfold pathRoutes
  rw [hp]
  split
  · simp [hma]
  · rw [map_filterMap]
    simp only [Option.map_map, comp_def, hma]

theorem slotRoutes_map (hf : ∀ e, routingFields (f e) = routingFields e.route) (es : List Emission) :
    slotRoutes (es.map f) port lh s = (es.filter (atSlot port lh s)).map f := by
  have ht (e : Emission) : decide ((f e).listenerPort.toUInt16 = port ∧
      (f e).listenerHostname = lh ∧ hostSlot (f e).host = s) = atSlot port lh s e := by
    have hp : (f e).listenerPort = e.route.listenerPort :=
      congrArg RoutingFields.listenerPort (hf e)
    have hlh : (f e).listenerHostname = e.route.listenerHostname :=
      congrArg RoutingFields.listenerHostname (hf e)
    have hh : (f e).host = e.route.host := congrArg RoutingFields.host (hf e)
    rw [atSlot, hp, hlh, hh]
  rw [slotRoutes, List.filter_map]
  exact congrArg (List.map f) (filter_congr fun e _ => ht e)

theorem rulesFor_map (hf : ∀ e, routingFields (f e) = routingFields e.route) :
    rulesFor libs ((emissions store).map f) port lh host =
      (emittedRules libs store port lh host (emissions store)).map (carrying f) := by
  have hr : routesFor ((emissions store).map f) port lh host =
      ((emissions store).filter (lookedAt store port lh host)).map f := by
    have hfi : ((requestSlots host).map (slotRoutes ((emissions store).map f) port lh)).find?
        (· ≠ []) = (servingSlot store port lh host).map
          (slotRoutes ((emissions store).map f) port lh) := by
      rw [find?_map]
      refine congrArg (Option.map _) (congrArg (List.find? · (requestSlots host)) (funext fun s => ?_))
      rw [Bool.eq_iff_iff, comp_apply, slotRoutes_map hf]
      simp
    rw [routesFor, hfi]
    unfold lookedAt
    cases servingSlot store port lh host with
    | none => simp
    | some s => simp [slotRoutes_map hf]
  rw [rulesFor, emittedRules, hr, flatMap_map, map_flatMap]
  refine congrArg (List.flatMap · _) (funext fun e => ?_)
  rw [pathRoutes_congr (hf e), List.map_map]
  rfl

end Rules

section Finish

variable {store : ConfigStore}

theorem aiJwt_finishWith : (finishWith store c e).aiJwt = (finishWith store {} e).aiJwt := by
  have hb (c : Choice) :
      (overrideProtocolIn store c.backendNs (applyChoice store c e.route)).aiJwt = e.route.aiJwt := by
    rw [overrideProtocolIn_frame (f := RouteConfig.aiJwt) (by intros; rfl),
      applyChoice_frame (f := RouteConfig.aiJwt) (by intros; rfl)]
  have hj (budget budget' : Option AiBudget) (r r' : RouteConfig) (h : r.aiJwt = r'.aiJwt) :
      (annotateAiRouteWith store budget e.source r).aiJwt =
        (annotateAiRouteWith store budget' e.source r').aiJwt := by
    unfold annotateAiRouteWith
    split
    · exact h
    · rw [h]
  rw [finishWith, finishWith, annotateAiProvider_frame (f := RouteConfig.aiJwt) (by intros; rfl),
    annotateAiProvider_frame (f := RouteConfig.aiJwt) (by intros; rfl)]
  exact hj _ _ _ _ ((hb c).trans (hb {}).symm)

theorem aiDialect_finishWith :
    (finishWith store c e).aiDialect = (finishWith store {} e).aiDialect := by
  have hb (c : Choice) : (annotateAiRouteWith store c.budget e.source
      (overrideProtocolIn store c.backendNs (applyChoice store c e.route))).serviceName =
        e.route.serviceName ∧ (annotateAiRouteWith store c.budget e.source
      (overrideProtocolIn store c.backendNs (applyChoice store c e.route))).aiDialect =
        e.route.aiDialect := by
    let f (r : RouteConfig) := (r.serviceName, r.aiDialect)
    have hf : f (annotateAiRouteWith store c.budget e.source
        (overrideProtocolIn store c.backendNs (applyChoice store c e.route))) = f e.route := by
      rw [annotateAiRouteWith_frame (f := f) (by intros; rfl),
        overrideProtocolIn_frame (f := f) (by intros; rfl),
        applyChoice_frame (f := f) (by intros; rfl)]
    exact ⟨congrArg Prod.fst hf, congrArg Prod.snd hf⟩
  have hd (r r' : RouteConfig)
      (h : r.serviceName = r'.serviceName ∧ r.aiDialect = r'.aiDialect) :
      (annotateAiProvider store r).aiDialect = (annotateAiProvider store r').aiDialect := by
    unfold annotateAiProvider
    rw [h.1]
    split
    · exact h.2
    · rfl
  exact hd _ _ ⟨(hb c).1.trans (hb {}).1.symm, (hb c).2.trans (hb {}).2.symm⟩

theorem asked_finishWith :
    routeHasOauth { x.2 with spec := finishWith store c x.1 } =
        routeHasOauth (carrying (finishWith store {}) x) ∧
      routeNeedsBody { x.2 with spec := finishWith store c x.1 } =
        routeNeedsBody (carrying (finishWith store {}) x) := by
  rw [routeHasOauth, routeNeedsBody, carrying, aiDialect_finishWith, aiJwt_finishWith]
  exact ⟨rfl, rfl⟩

end Finish

section Listener

variable (libs : RouterLibs) (store : ConfigStore) (facts : RequestFacts) (port : UInt16)
  (lh : String)

/-- A rule tied for a request: it matches, and none that matches outranks it. -/
def tied (x : Emission × PathRoute) : Bool :=
  ruleMatches libs facts x.2 &&
    (emittedRules libs store port lh facts.host (emissions store)).all fun y =>
      !ruleMatches libs facts y.2 || decide (ruleRank y.2 ≤ ruleRank x.2)

def firstTied (x : NamespacedName × ListenedRoute) : Option (Emission × PathRoute) :=
  (emittedRules libs store port lh facts.host (x.2.emissions store x.1)).find?
    (tied libs store facts port lh)

def anyRule (test : PathRoute → Bool) : Bool :=
  (emittedRules libs store port lh facts.host (emissions store)).any fun x =>
    test (carrying (finishWith store {}) x)

def offersMetadata : Bool :=
  isOauthMetadataPath facts.path && anyRule libs store facts port lh routeHasOauth

def wantsBody : Bool :=
  facts.bodyFields.isNone && anyRule libs store facts port lh routeNeedsBody && facts.hasRequestBody

variable {libs store facts port lh} {store' : ConfigStore} (h : Reordered store store')

include h

theorem lookedAt_reordered (host : String) :
    lookedAt store' port lh host = lookedAt store port lh host := by
  unfold lookedAt servingSlot
  simp only [(emissions_perm h).any_eq]

theorem emittedRules_reordered (host : String) :
    emittedRules libs store' port lh host = emittedRules libs store port lh host := by
  unfold emittedRules
  rw [lookedAt_reordered h]

theorem emittedRules_perm (host : String) :
    (emittedRules libs store port lh host (emissions store)).Perm
      (emittedRules libs store port lh host (emissions store')) :=
  ((emissions_perm h).filter _).flatMap_right _

theorem tied_reordered : tied libs store' facts port lh = tied libs store facts port lh := by
  unfold tied
  rw [emittedRules_reordered h]
  simp only [(emittedRules_perm h facts.host).all_eq]

theorem find?_tied_reordered :
    (emittedRules libs store' port lh facts.host (emissions store')).find?
        (tied libs store' facts port lh) =
      (storedRoutes store').findSome? (firstTied libs store facts port lh) := by
  rw [tied_reordered h, emittedRules_reordered h, emissions_eq_flatMap, emittedRules,
    filter_flatMap, flatMap_assoc, find?_flatMap]
  refine congrArg (List.findSome? · _) (funext fun x => ?_)
  rw [emissions_route_reordered h]
  rfl

omit h in
theorem bestRule_map :
    bestRule libs ((emittedRules libs store port lh facts.host (emissions store)).map (carrying f))
        facts =
      ((emittedRules libs store port lh facts.host (emissions store)).find?
        (tied libs store facts port lh)).map (carrying f) := by
  rw [bestRule_eq_head?, tiedRules, List.filter_map, head?_map, head?_filter]
  refine congrArg (Option.map _) (congrArg (List.find? · _) (funext fun x => ?_))
  rw [comp_apply, List.all_map]
  rfl

theorem rulesFor_reordered (host : String) : rulesFor libs (compileRoutes store') port lh host =
      (emittedRules libs store port lh host (emissions store')).map
        (carrying (finishRoute store')) := by
  rw [compileRoutes, rulesFor_map routingFields_finishRoute, emittedRules_reordered h]

theorem any_rulesFor_reordered (ht : ∀ c x, test { x.2 with spec := finishWith store c x.1 } =
      test (carrying (finishWith store {}) x)) :
    (rulesFor libs (compileRoutes store') port lh facts.host).any test =
      anyRule libs store facts port lh test := by
  rw [rulesFor_reordered h, List.any_map, anyRule, (emittedRules_perm h facts.host).any_eq]
  refine congrArg (List.any _) (funext fun x => ?_)
  rw [comp_apply, carrying, finishRoute_eq, finishWith_reordered h]
  exact ht _ x

theorem publishesMetadata_reordered :
    publishesMetadata (rulesFor libs (compileRoutes store') port lh facts.host) facts =
      offersMetadata libs store facts port lh := by
  rw [publishesMetadata, any_rulesFor_reordered h fun c x => asked_finishWith.1]
  rfl

theorem asksForBody_reordered :
    asksForBody (rulesFor libs (compileRoutes store') port lh facts.host) facts =
      wantsBody libs store facts port lh := by
  rw [asksForBody, any_rulesFor_reordered h fun c x => asked_finishWith.2]
  rfl

theorem bestRule_reordered :
    bestRule libs (rulesFor libs (compileRoutes store') port lh facts.host) facts =
      ((storedRoutes store').findSome? (firstTied libs store facts port lh)).map
        (carrying (finishRoute store')) := by
  rw [compileRoutes, rulesFor_map routingFields_finishRoute, bestRule_map,
    find?_tied_reordered h]

end Listener

def emittedRoutes (store : ConfigStore) : List RouteConfig := (emissions store).map (·.route)

/-- A namespace in which a Service may be looked up while `b` comes first among the routes that pass
`T`: that behind a route that may be the last to name the Service. -/
def MayLookIn (store : ConfigStore) (T : NamespacedName × ListenedRoute → Bool)
    (b : NamespacedName × ListenedRoute) (service : String × UInt16) : Option String → Prop
  | none => ∀ x ∈ storedRoutes store, x.2.namespaceBehind store service = none
  | some ns => ∃ z, MayBeLast store (fun x => (x.2.namespaceBehind store service).isSome) z ∧
      z.2.namespaceBehind store service = some ns ∧
      (z = b → ∀ x ∈ storedRoutes store, x ≠ b → T x = true →
        x.2.namespaceBehind store service = none)

section Decide

variable (libs : RouterLibs) (store : ConfigStore) (facts : RequestFacts)

def hasTied (port : UInt16) (lh : String) (x : NamespacedName × ListenedRoute) : Bool :=
  (firstTied libs store facts port lh x).isSome

/-- The rules that a listener may choose for a request: the first tied rule of a route that may come
first among those with one, finished with whatever may be taken. -/
def MayChoose (port : UInt16) (lh : String) : Option PathRoute → Prop
  | none => ∀ x ∈ storedRoutes store, hasTied libs store facts port lh x = false
  | some rule => ∃ b e r c, MayBeFirst store (hasTied libs store facts port lh) b ∧
      firstTied libs store facts port lh b = some (e, r) ∧ MayTake store e.source c ∧
      MayLookIn store (hasTied libs store facts port lh) b (serviceBehind e) c.backendNs ∧
      rule = { r with spec := finishWith store c e }

def decisionOf : Option PathRoute → Decision
  | none => .noRoute
  | some rule => .matched rule

/-- The decisions that the content of a store leaves open for a request. -/
inductive MayDecide : Decision → Prop
  | acmeChallenge (h : facts.socketIsTls = false ∧ facts.acmeChallenge = true) :
    MayDecide .acmeChallenge
  | misdirected (hacme : ¬ (facts.socketIsTls = false ∧ facts.acmeChallenge = true))
    (h : MeantForAnother (emittedRoutes store) facts) : MayDecide .misdirected
  | unserved (hreach : ReachesHost (emittedRoutes store) facts)
    (hnone : ∀ port lh, ¬ ServedBy (emittedRoutes store) facts port lh) : MayDecide .noRoute
  | oauthMetadata {port : UInt16} {lh : String} (hreach : ReachesHost (emittedRoutes store) facts)
    (hserved : ServedBy (emittedRoutes store) facts port lh)
    (h : offersMetadata libs store facts port lh = true) : MayDecide .oauthMetadata
  | needsBody {port : UInt16} {lh : String} (hreach : ReachesHost (emittedRoutes store) facts)
    (hserved : ServedBy (emittedRoutes store) facts port lh)
    (hmeta : offersMetadata libs store facts port lh = false)
    (h : wantsBody libs store facts port lh = true) : MayDecide .needsBody
  | chosen {port : UInt16} {lh : String} {rule : Option PathRoute}
    (hreach : ReachesHost (emittedRoutes store) facts)
    (hserved : ServedBy (emittedRoutes store) facts port lh)
    (hmeta : offersMetadata libs store facts port lh = false)
    (hbody : wantsBody libs store facts port lh = false)
    (h : MayChoose libs store facts port lh rule) : MayDecide (decisionOf rule)

variable {libs store facts} {store' : ConfigStore} (h : Reordered store store')

include h

theorem hasListener_reordered :
    HasListener (compileRoutes store') = HasListener (emittedRoutes store) := by
  funext port lh
  have hp (e : Emission) : (finishRoute store' e).listenerPort = e.route.listenerPort :=
    congrArg RoutingFields.listenerPort (routingFields_finishRoute e)
  have hlh (e : Emission) : (finishRoute store' e).listenerHostname = e.route.listenerHostname :=
    congrArg RoutingFields.listenerHostname (routingFields_finishRoute e)
  unfold HasListener compileRoutes emittedRoutes
  simp [hp, hlh, (emissions_perm h).mem_iff]

theorem topListener_reordered :
    TopListener (compileRoutes store') = TopListener (emittedRoutes store) := by
  unfold TopListener
  rw [hasListener_reordered h]

theorem servedBy_reordered : ServedBy (compileRoutes store') = ServedBy (emittedRoutes store) := by
  unfold ServedBy
  rw [topListener_reordered h]

theorem meantForAnother_reordered :
    MeantForAnother (compileRoutes store') = MeantForAnother (emittedRoutes store) := by
  unfold MeantForAnother Misdirected
  rw [topListener_reordered h]

theorem reachesHost_reordered :
    ReachesHost (compileRoutes store') = ReachesHost (emittedRoutes store) := by
  unfold ReachesHost
  rw [meantForAnother_reordered h]

theorem mayLookIn_takenFor (hf : (storedRoutes store').find? T = some b) :
    MayLookIn store T b (serviceBehind e) (takenFor store' e).backendNs := by
  rcases behind_takenFor h e with ⟨hc, hn⟩ | ⟨z, ns, hc, hl, hns⟩
  · rw [hc]
    exact hn
  · rw [hc]
    refine ⟨z, mayBeLast_of_find? h hl, hns, ?_⟩
    rintro rfl x hx hne hT
    by_contra hsome
    refine hne (eq_of_first_last nodup_storedRoutes hf hl
      ((storedRoutes_perm h).mem_iff.1 hx) hT ?_)
    exact isSome_iff_ne_none.2 hsome

theorem decideRules_reordered {port : UInt16} {lh : String} :
    decideRules libs (rulesFor libs (compileRoutes store') port lh facts.host) facts =
      if offersMetadata libs store facts port lh then .oauthMetadata
      else if wantsBody libs store facts port lh then .needsBody
      else decisionOf ((((storedRoutes store').find? (hasTied libs store facts port lh)).bind
        (firstTied libs store facts port lh)).map (carrying (finishRoute store'))) := by
  have hp := @publishesMetadata_reordered libs store facts port lh store' h
  have ha := @asksForBody_reordered libs store facts port lh store' h
  unfold publishesMetadata at hp
  unfold asksForBody at ha
  rw [decideRules, hp, ha, bestRule_reordered h, findSome?_eq_find?]
  rfl

theorem mayChoose_served {port : UInt16} {lh : String} :
    MayChoose libs store facts port lh ((((storedRoutes store').find?
      (hasTied libs store facts port lh)).bind (firstTied libs store facts port lh)).map
        (carrying (finishRoute store'))) := by
  cases hfin : (storedRoutes store').find? (hasTied libs store facts port lh) with
  | none =>
    intro x hx
    simpa using find?_eq_none.1 hfin x ((storedRoutes_perm h).mem_iff.1 hx)
  | some b =>
    have hf := mayBeFirst_of_find? h hfin
    obtain ⟨⟨e, r⟩, hfo⟩ := isSome_iff_exists.1 hf.2.1
    rw [bind_some, hfo, map_some, carrying, finishRoute_eq, finishWith_reordered h]
    exact ⟨b, e, r, _, hf, hfo, mayTake_takenFor h e, mayLookIn_takenFor h hfin, rfl⟩

theorem mayDecide_served {port : UInt16} {lh : String}
    (hr : ReachesHost (emittedRoutes store) facts)
    (hs : ServedBy (emittedRoutes store) facts port lh) :
    MayDecide libs store facts
      (decideRules libs (rulesFor libs (compileRoutes store') port lh facts.host) facts) := by
  rw [decideRules_reordered h]
  cases hm : offersMetadata libs store facts port lh with
  | true => exact .oauthMetadata hr hs hm
  | false =>
    cases hb : wantsBody libs store facts port lh with
    | true => exact .needsBody hr hs hm hb
    | false =>
      exact .chosen hr hs hm hb (mayChoose_served h)

theorem mayDecide_of_reordered : MayDecide libs store facts (routeRequest libs
      (buildListenerBucketsFromProto libs orders (compileRoutes store')) facts) := by
  by_cases ha : facts.socketIsTls = false ∧ facts.acmeChallenge = true
  · rw [routeRequest_acme ha]
    exact .acmeChallenge ha
  by_cases ho : MeantForAnother (compileRoutes store') facts
  · rw [routeRequest_misdirected ha ho]
    rw [meantForAnother_reordered h] at ho
    exact .misdirected ha ho
  have hr : ReachesHost (compileRoutes store') facts := ⟨ha, ho⟩
  have hd := @routeRequest_of_servedBy libs _ _ orders hr
  rw [reachesHost_reordered h] at hr
  rw [servedBy_reordered h] at hd
  rcases hd with ⟨port, lh, hs, hd⟩ | ⟨hn, hd⟩
  · rw [hd]
    exact mayDecide_served h hr hs
  · rw [hd]
    simpa [decideRules, bestRule] using MayDecide.unserved hr hn

omit h

theorem exists_order_matched (hf : MayBeFirst store T b) (htake : MayTake store e.source c)
    (hns : MayLookIn store T b (serviceBehind e) c.backendNs) :
    ∃ store', Reordered store store' ∧ (storedRoutes store').find? T = some b ∧
      finishRoute store' e = finishWith store c e := by
  obtain ⟨s, hs, hfind, hl⟩ := exists_order_behind (A := some b) c.backendNs
    (fun _ hb => mem_some.1 hb ▸ hf) (fun hc => by rwa [hc] at hns) fun ns hc => by
      rw [mem_def.1 hc] at hns
      obtain ⟨z, hz, hzn, hsa⟩ := hns
      exact ⟨z, hz, hzn, fun _ hb => mem_some.1 hb ▸ hsa⟩
  obtain ⟨stores, hr, hw, -, htaken, -⟩ :=
    exists_turned (fun _ => htake) (fun _ => hs) fun _ => hl
  refine ⟨stores true, hr true, (hw true).symm ▸ hfind b rfl, ?_⟩
  rw [finishRoute_eq, finishWith_reordered (hr true), htaken true e rfl rfl]

theorem exists_order_of_mayDecide (h : MayDecide libs store facts d) :
    ∃ store' orders, Reordered store store' ∧ routeRequest libs
      (buildListenerBucketsFromProto libs orders (compileRoutes store')) facts = d := by
  have hs := Reordered.refl store
  -- a listener that may serve the request decides it
  have hde (store' : ConfigStore) (hr' : Reordered store store') {port : UInt16}
      {lh : String} (hr : ReachesHost (emittedRoutes store) facts)
      (hs' : ServedBy (emittedRoutes store) facts port lh) :
      ∃ orders, routeRequest libs (buildListenerBucketsFromProto libs orders (compileRoutes store'))
        facts = decideRules libs (rulesFor libs (compileRoutes store') port lh facts.host) facts := by
    rw [← reachesHost_reordered hr'] at hr
    rw [← servedBy_reordered hr'] at hs'
    exact exists_orders hr hs'
  cases h with
  | acmeChallenge ha => exact ⟨store, ⟨.insertion, .insertion⟩, hs, routeRequest_acme ha⟩
  | misdirected ha ho =>
    rw [← meantForAnother_reordered hs] at ho
    exact ⟨store, ⟨.insertion, .insertion⟩, hs, routeRequest_misdirected ha ho⟩
  | unserved hr hn =>
    rw [← reachesHost_reordered hs] at hr
    rw [← servedBy_reordered hs] at hn
    rcases @routeRequest_of_servedBy libs _ _ ⟨.insertion, .insertion⟩ hr with
      ⟨port, lh, hs', -⟩ | ⟨-, hd⟩
    · exact absurd hs' (hn port lh)
    · exact ⟨store, ⟨.insertion, .insertion⟩, hs, hd.trans (by simp [decideRules, bestRule])⟩
  | oauthMetadata hr hs' hm =>
    obtain ⟨orders, hd⟩ := hde store hs hr hs'
    exact ⟨store, orders, hs, hd.trans (by rw [decideRules_reordered hs, if_pos hm])⟩
  | needsBody hr hs' hm hb =>
    obtain ⟨orders, hd⟩ := hde store hs hr hs'
    refine ⟨store, orders, hs, hd.trans ?_⟩
    rw [decideRules_reordered hs, hm, if_neg Bool.false_ne_true, if_pos hb]
  | chosen hr hs' hm hb hc =>
    rename_i port lh rule
    have hru : ∃ store', Reordered store store' ∧ (((storedRoutes store').find?
        (hasTied libs store facts port lh)).bind (firstTied libs store facts port lh)).map
          (carrying (finishRoute store')) = rule := by
      cases rule with
      | none =>
        refine ⟨store, hs, ?_⟩
        rw [find?_eq_none.2 fun x hx => by simp [hc x hx]]
        rfl
      | some rule =>
        obtain ⟨b, e, r, c, hf', hfo, ht, hns, rfl⟩ := hc
        obtain ⟨store', hr', hfind, hf⟩ := exists_order_matched hf' ht hns
        refine ⟨store', hr', ?_⟩
        rw [hfind, bind_some, hfo, map_some, carrying, hf]
    obtain ⟨store', hr', hru⟩ := hru
    obtain ⟨orders, hd⟩ := hde store' hr' hr hs'
    refine ⟨store', orders, hr', hd.trans ?_⟩
    rw [decideRules_reordered hr', hm, hb, if_neg Bool.false_ne_true,
      if_neg Bool.false_ne_true, hru]

theorem mayDecide_iff :
    MayDecide libs store facts d ↔ ∃ store' orders, Reordered store store' ∧ routeRequest libs
      (buildListenerBucketsFromProto libs orders (compileRoutes store')) facts = d :=
  ⟨exists_order_of_mayDecide, fun ⟨_, _, h, hd⟩ => hd ▸ mayDecide_of_reordered h⟩

end Decide

/-- Data planes decide every request alike, in whatever orders the maps of the store were walked
when their configurations were compiled. -/
def OrderIndependent (libs : RouterLibs) (store : ConfigStore) : Prop :=
  ∀ store1 store2 order1 order2, Reordered store store1 → Reordered store store2 →
    SameDecisions libs (compileConfig order1 store1) (compileConfig order2 store2)

/-- Listeners that may both serve a request treat it alike, and leave one rule to choose for it:
whichever of the routes with a tied rule comes first, whichever of the policies of a kind and of the
budgets that reach it is taken, and in whichever namespace its Service is looked up. -/
def Unambiguous (libs : RouterLibs) (store : ConfigStore) : Prop :=
  ∀ facts port lh port' lh', ReachesHost (emittedRoutes store) facts →
    ServedBy (emittedRoutes store) facts port lh → ServedBy (emittedRoutes store) facts port' lh' →
    offersMetadata libs store facts port lh = offersMetadata libs store facts port' lh' ∧
    (offersMetadata libs store facts port lh = false →
      wantsBody libs store facts port lh = wantsBody libs store facts port' lh' ∧
      (wantsBody libs store facts port lh = false → ∀ rule rule',
        MayChoose libs store facts port lh rule → MayChoose libs store facts port' lh' rule' →
          rule = rule'))

theorem decisionOf_injective : Function.Injective decisionOf := by
  rintro (_ | rule) (_ | rule') h <;> simp_all [decisionOf]

theorem decisionOf_ne (rule : Option PathRoute) :
    decisionOf rule ≠ .oauthMetadata ∧ decisionOf rule ≠ .needsBody := by
  cases rule <;> simp [decisionOf]

theorem tests_of_answer_eq {wants' : Bool}
    (h : (if offers then Decision.oauthMetadata else if wants then .needsBody else decisionOf rule) =
      if offers' then .oauthMetadata else if wants' then .needsBody else decisionOf rule') :
    offers = offers' ∧ (offers = false → wants = wants') := by
  have hrule := decisionOf_ne rule
  have hrule' := decisionOf_ne rule'
  cases offers <;> cases offers' <;> cases wants <;> cases wants' <;> simp_all [eq_comm]

theorem unambiguous_iff {libs : RouterLibs} {store : ConfigStore} : Unambiguous libs store ↔
    ∀ facts d d', MayDecide libs store facts d → MayDecide libs store facts d' → d = d' := by
  constructor
  · intro h facts d d' hd hd'
    cases hd <;> cases hd' <;> grind [ReachesHost, Unambiguous]
  · intro h facts port lh port' lh' hre hs' hserve
    have hs := Reordered.refl store
    have ha := h facts _ _ (mayDecide_served hs hre hs') (mayDecide_served hs hre hserve)
    rw [decideRules_reordered hs, decideRules_reordered hs] at ha
    obtain ⟨ho, hw⟩ := tests_of_answer_eq ha
    refine ⟨ho, fun hm => ⟨hw hm, fun hb rule rule' hrule hrule' => ?_⟩⟩
    exact decisionOf_injective (h facts _ _ (.chosen hre hs' hm hb hrule)
      (.chosen hre hserve (ho ▸ hm) (hw hm ▸ hb) hrule'))

/-- **Content decides**: the decisions are a function of the content exactly where it leaves one
open for each request. -/
theorem orderIndependent_iff (libs : RouterLibs) (store : ConfigStore) :
    OrderIndependent libs store ↔ Unambiguous libs store := by
  rw [unambiguous_iff]
  constructor
  · intro h facts d d' hd hd'
    obtain ⟨store1, orders1, hs, rfl⟩ := mayDecide_iff.1 hd
    obtain ⟨store2, orders2, hstore, rfl⟩ := mayDecide_iff.1 hd'
    exact h store1 store2 .insertion .insertion hs hstore orders1 orders2 facts
  · intro h store1 store2 order1 order2 hs hstore orders1 orders2 facts
    exact h facts _ _ (mayDecide_iff.2 ⟨store1, orders1, hs, rfl⟩)
      (mayDecide_iff.2 ⟨store2, orders2, hstore, rfl⟩)

def pageRoute (service : String) : HTTPRouteState :=
  { plainRoute "shop" "shop.example" [] with rules := [pathRule "/" service] }

/-- A store with two routes for the pages, walked in the order given. -/
def rivalRoutes (routes : List (NamespacedName × HTTPRouteState)) : ConfigStore :=
  { gateways := Table.collect [(⟨"infra", "gw"⟩, sharedGateway)]
    httpRoutes := Table.collect routes }

/-- The backend of a page depends on which of two routes is walked first. -/
theorem rivalRoutes_order : ¬ ∀ libs store, OrderIndependent libs store := by
  intro h
  let r1 : NamespacedName × HTTPRouteState := (⟨"shop", "old"⟩, pageRoute "a")
  let r2 : NamespacedName × HTTPRouteState := (⟨"shop", "new"⟩, pageRoute "b")
  have hs := Reordered.refl (rivalRoutes [r1, r2])
  have hsw : Reordered (rivalRoutes [r1, r2]) (rivalRoutes [r2, r1]) :=
    { hs with httpRoutes := List.Perm.swap _ _ _ }
  have hsa := h plainNames (rivalRoutes [r1, r2]) _ _ .insertion .insertion hs hsw
    ⟨.insertion, .insertion⟩ ⟨.insertion, .insertion⟩ pageRequest
  have hs' := congrArg serviceOf hsa
  revert hs'
  decide +kernel

end Portus

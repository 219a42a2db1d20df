import Portus.Compiler.Backends
import Portus.Compiler.Fingerprint
import Portus.DataPlane.RouteOrder

/-!
# What may go unpublished

A configuration with the fingerprint of the last one published is not published. That is
safe if a data plane built from either takes the same decision for every request
(`SameDecisions`). The fingerprint does not see the order of the rules, and a data plane
gives a request for which several rules are tied to the one that comes first; so it is safe
exactly where the ties agree (`TiesAgree`).
-/

namespace Portus

open Lib Proto Compiler DataPlane

/-- Data planes built from the two configurations decide every request alike, whatever the order of
their hash maps. -/
def SameDecisions (libs : RouterLibs) (c1 c2 : CompiledConfig) : Prop :=
  ∀ orders1 orders2 facts,
    routeRequest libs (buildListenerBucketsFromProto libs orders1 c1.routes) facts =
      routeRequest libs (buildListenerBucketsFromProto libs orders2 c2.routes) facts

structure TiesAgree (libs : RouterLibs) (routes1 routes2 : List RouteConfig) : Prop where
  /-- At a listener that may serve a request, the rules tied for it start with the same one. -/
  first : ∀ facts port lh, ReachesHost routes1 facts → ServedBy routes1 facts port lh →
    ReachesRules (rulesFor libs routes1 port lh facts.host) facts →
      (tiedRules libs (rulesFor libs routes1 port lh facts.host) facts).head? =
        (tiedRules libs (rulesFor libs routes2 port lh facts.host) facts).head?
  /-- Listeners that may both serve a request, their hostnames equal but for case, are not told
  apart by it. -/
  variants : ∀ facts port lh port' lh', ReachesHost routes1 facts →
    ServedBy routes1 facts port lh → ServedBy routes1 facts port' lh' →
      TiedAlike libs (rulesFor libs routes1 port lh facts.host)
        (rulesFor libs routes1 port' lh' facts.host) facts

section Permuted

variable {libs : RouterLibs} {c1 c2 : CompiledConfig}

theorem tiesAgree_of_sameDecisions (hp : c1.routes.Perm c2.routes)
    (h : SameDecisions libs c1 c2) : TiesAgree libs c1.routes c2.routes := by
  constructor
  case first =>
    intro facts port lh hr hs
    obtain ⟨orders1, hd⟩ := @exists_orders libs _ _ _ _ hr hs
    rw [reachesHost_perm hp] at hr
    rw [servedBy_perm hp] at hs
    obtain ⟨orders2, hdecide2⟩ := @exists_orders libs _ _ _ _ hr hs
    rw [← tiedAlike_iff_of_perm (rulesFor_perm hp lh facts.host), ← decideRules_eq_iff,
      ← hd, ← hdecide2]
    exact h orders1 orders2 facts
  case variants =>
    -- both listeners are compared with one data plane of the other configuration
    intro facts port lh port' lh' hr hs hserve
    obtain ⟨orders, hd'⟩ := @exists_orders libs _ _ _ _ hr hs
    obtain ⟨orders', hdecide'⟩ := @exists_orders libs _ _ _ _ hr hserve
    rw [← decideRules_eq_iff, ← hd', ← hdecide', h orders orders facts, h orders' orders facts]

theorem TiesAgree.decideRules_eq (h : TiesAgree libs c1.routes c2.routes)
    (hp : c1.routes.Perm c2.routes) (hr : ReachesHost c1.routes facts)
    (hs : ServedBy c1.routes facts port lh) (hserve : ServedBy c2.routes facts port' lh') :
    decideRules libs (rulesFor libs c1.routes port lh facts.host) facts =
      decideRules libs (rulesFor libs c2.routes port' lh' facts.host) facts := by
  rw [← servedBy_perm hp] at hserve
  calc decideRules libs (rulesFor libs c1.routes port lh facts.host) facts
      = decideRules libs (rulesFor libs c1.routes port' lh' facts.host) facts :=
        decideRules_eq_iff.2 (h.variants facts port lh port' lh' hr hs hserve)
    _ = decideRules libs (rulesFor libs c2.routes port' lh' facts.host) facts :=
        decideRules_eq_iff.2 ((tiedAlike_iff_of_perm (rulesFor_perm hp lh' facts.host)).2
          (h.first facts port' lh' hr hserve))

theorem sameDecisions_of_tiesAgree (hp : c1.routes.Perm c2.routes)
    (h : TiesAgree libs c1.routes c2.routes) : SameDecisions libs c1 c2 := by
  intro orders1 orders2 facts
  by_cases ha : facts.socketIsTls = false ∧ facts.acmeChallenge = true
  · rw [routeRequest_acme ha, routeRequest_acme ha]
  by_cases ho : MeantForAnother c1.routes facts
  · rw [routeRequest_misdirected ha ho, routeRequest_misdirected ha (meantForAnother_perm hp ▸ ho)]
  have hr : ReachesHost c1.routes facts := ⟨ha, ho⟩
  have hreach : ReachesHost c2.routes facts := reachesHost_perm hp ▸ hr
  have hi := servedBy_perm hp
  obtain ⟨port1, lh1, hs, hd⟩ | ⟨hnone, hd⟩ :=
    @routeRequest_of_servedBy libs _ _ orders1 hr
  · obtain ⟨port2, lh2, hserve, hd'⟩ | ⟨hnone2, -⟩ :=
      @routeRequest_of_servedBy libs _ _ orders2 hreach
    · rw [hd, hd', h.decideRules_eq hp hr hs hserve]
    · exact absurd (hi ▸ hs) (hnone2 port1 lh1)
  · obtain ⟨port2, lh2, hserve, -⟩ | ⟨-, hd'⟩ :=
      @routeRequest_of_servedBy libs _ _ orders2 hreach
    · exact absurd (hi ▸ hserve) (hnone port2 lh2)
    · rw [hd, hd']

end Permuted

/-- **What may go unpublished**: with the fingerprint of the last configuration a store need not be
published exactly if the ties of the two agree. -/
theorem sameDecisions_iff (libs : RouterLibs) (hash : Element → UInt64)
    (order1 order2 : IterOrder ServiceKey) (store1 store2 : ConfigStore)
    (hfree : CollisionFree hash (compileConfig order1 store1) (compileConfig order2 store2))
    (hsame : configFingerprint hash (compileConfig order1 store1) =
      configFingerprint hash (compileConfig order2 store2)) :
    SameDecisions libs (compileConfig order1 store1) (compileConfig order2 store2) ↔
      TiesAgree libs (compileRoutes store1) (compileRoutes store2) := by
  have hp := routes_perm (hfree hsame)
  exact ⟨tiesAgree_of_sameDecisions hp, sameDecisions_of_tiesAgree hp⟩

/-- In every run of the compilation loop the watchers see a configuration that decides as the last
one compiled, exactly if the ties of the two agree. -/
theorem sent_sameDecisions (libs : RouterLibs) (hash : Element → UInt64)
    (configs : List CompiledConfig) (config : CompiledConfig) :
    ∃ c, (publish hash (run (publish hash) {} configs) config).sent = some c ∧
      (CollisionFree hash c config →
        (SameDecisions libs c config ↔ TiesAgree libs c.routes config.routes)) := by
  obtain ⟨c, hc, hs⟩ := exists_sent_publish (coherent_run hash)
  refine ⟨c, hc, fun hf => ?_⟩
  have hp := routes_perm (hf hs)
  exact ⟨tiesAgree_of_sameDecisions hp, sameDecisions_of_tiesAgree hp⟩

def pathRule (path service : String) : HTTPRouteRuleState :=
  { matchEntries := [{ path := some (path, "PathPrefix") }]
    backendRefs := [{ namespaceName := "shop", name := service, port := 80 }] }

def shop (rules : List HTTPRouteRuleState) : ConfigStore :=
  { gateways := Table.collect [(⟨"infra", "gw"⟩, sharedGateway)]
    httpRoutes := Table.collect
      [(⟨"shop", "r"⟩, { plainRoute "shop" "shop.example" [] with rules := rules })] }

def shopConfig (rule1 rule2 : HTTPRouteRuleState) : CompiledConfig :=
  compileConfig .insertion (shop [rule1, rule2])

theorem elements_shopConfig (hp : path = "/" ∨ path = "/cart") :
    (elements (shopConfig (pathRule "/" "a") (pathRule path "b"))).Perm
      (elements (shopConfig (pathRule path "b") (pathRule "/" "a"))) := by
  have hr : (shopConfig (pathRule "/" "a") (pathRule path "b")).routes =
      (shopConfig (pathRule path "b") (pathRule "/" "a")).routes.reverse := by
    obtain rfl | rfl := hp <;> rfl
  have hb : (shopConfig (pathRule "/" "a") (pathRule path "b")).backends =
      (shopConfig (pathRule path "b") (pathRule "/" "a")).backends.reverse := by
    obtain rfl | rfl := hp <;> rfl
  have hk : (shopConfig (pathRule "/" "a") (pathRule path "b")).issuerKeys =
      (shopConfig (pathRule path "b") (pathRule "/" "a")).issuerKeys := by
    obtain rfl | rfl := hp <;> decide +kernel
  refine elements_perm ((List.Perm.of_eq hr).trans (List.reverse_perm _))
    ((List.Perm.of_eq hb).trans (List.reverse_perm _)) ?_
  rw [hk]
  rfl

theorem tiesAgree_cart :
    TiesAgree plainNames (compileRoutes (shop [pathRule "/" "a", pathRule "/cart" "b"]))
      (compileRoutes (shop [pathRule "/cart" "b", pathRule "/" "a"])) := by
  have hp := routes_perm (elements_shopConfig (.inr rfl))
  constructor
  case first =>
    intro facts port lh _ _ _
    refine head?_tiedRules_of_nodup (rulesFor_perm hp lh facts.host) ?_
    refine List.Nodup.sublist ((rulesFor_sublist lh facts.host).map ruleRank) ?_
    decide +kernel
  case variants =>
    intro facts port lh port' lh' _ hs hserve
    have hl : ∀ r ∈ compileRoutes (shop [pathRule "/" "a", pathRule "/cart" "b"]),
        r.listenerPort.toUInt16 = 80 ∧ r.listenerHostname = "" := by
      have ha : (compileRoutes (shop [pathRule "/" "a", pathRule "/cart" "b"])).all
          (fun r => r.listenerPort.toUInt16 = 80 ∧ r.listenerHostname = "") = true := by
        decide +kernel
      simpa using ha
    obtain ⟨r, hr, rfl, rfl⟩ := hs.1.1
    obtain ⟨r', hr', rfl, rfl⟩ := hserve.1.1
    rw [(hl r hr).1, (hl r hr).2, (hl r' hr').1, (hl r' hr').2]
    exact decideRules_eq_iff.1 rfl

def serviceHash : Element → UInt64
  | .route r => (r.serviceName.toList.map (·.val.toUInt64)).sum
  | .backend b => 1000 * (b.serviceName.toList.map (·.val.toUInt64)).sum
  | _ => 0

/-- Rules that are never tied may be swapped without publishing it. -/
theorem sameDecisions_cart :
    configFingerprint serviceHash (shopConfig (pathRule "/" "a") (pathRule "/cart" "b")) =
        configFingerprint serviceHash (shopConfig (pathRule "/cart" "b") (pathRule "/" "a")) ∧
      SameDecisions plainNames (shopConfig (pathRule "/" "a") (pathRule "/cart" "b"))
        (shopConfig (pathRule "/cart" "b") (pathRule "/" "a")) := by
  have hp := elements_shopConfig (.inr rfl)
  have hs := @configFingerprint_perm serviceHash _ _ hp
  exact ⟨hs, (sameDecisions_iff plainNames serviceHash .insertion .insertion _ _
    (fun _ => hp) hs).2 tiesAgree_cart⟩

def pageRequest : RequestFacts := { host := "shop.example", path := "/", localPort := 80 }

def serviceOf : Decision → Option String
  | .matched rule => some rule.spec.serviceName
  | _ => none

/-- Swapping two tied rules changes the backend of a page, and is not published. -/
theorem swapped_rules_unpublished : ¬ ∀ libs hash order1 order2 store1 store2,
      CollisionFree hash (compileConfig order1 store1) (compileConfig order2 store2) →
      configFingerprint hash (compileConfig order1 store1) =
        configFingerprint hash (compileConfig order2 store2) →
      SameDecisions libs (compileConfig order1 store1) (compileConfig order2 store2) := by
  intro h
  have hp := elements_shopConfig (.inl rfl)
  have hsa := h plainNames serviceHash .insertion .insertion
    (shop [pathRule "/" "a", pathRule "/" "b"]) (shop [pathRule "/" "b", pathRule "/" "a"])
    (fun _ => hp) (configFingerprint_perm hp) ⟨.insertion, .insertion⟩
    ⟨.insertion, .insertion⟩ pageRequest
  have hse := congrArg serviceOf hsa
  revert hse
  decide +kernel

end Portus

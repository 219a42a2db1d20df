import Portus.DataPlane.RouteOrder

/-!
# Routing on a part of the routes

A data plane that is sent only some of the routes. What becomes of a request depends on the routes
of its port and of port 0 alone (`routeRequest_congr`), so with those it is routed the same.
-/

namespace Portus.DataPlane

open Portus Lib Proto List

section Listeners

variable {routes : List RouteConfig} {port : UInt16} {host lh : String}

theorem exists_topListener (hlh : HasListener routes port lh)
    (hcl : listenerHostnameClaims lh host = true) : ∃ lh', TopListener routes port host lh' := by
  by_contra hn
  push Not at hn
  let libs : RouterLibs := ⟨some, some, fun _ => false, fun _ _ => false⟩
  let orders : MapOrders := ⟨.insertion, .insertion⟩
  have hch := (@chosen_eq_none libs orders routes port host).2 hn
  rw [chosenHostname, argmax_eq_none, filter_eq_nil_iff] at hch
  exact hch lh (mem_walkedHostnames.2 hlh) hcl

end Listeners

section Requests

variable {libs : RouterLibs} {orders : MapOrders} {routes : List RouteConfig} {facts : RequestFacts}
  {port : UInt16} {lh : String} {rule : PathRoute} {rules : List PathRoute}

theorem spec_of_mem_pathRoutes (h : rule ∈ pathRoutes libs spec) : rule.spec = spec := by
  unfold pathRoutes at h
  split at h
  next =>
    cases mem_singleton.1 h
    rfl
  next =>
    obtain ⟨pr, -, hr⟩ := mem_filterMap.1 h
    obtain ⟨matchType, -, rfl⟩ := Option.map_eq_some_iff.1 hr
    rfl

theorem decideRules_eq_matched : decideRules libs rules facts = .matched rule ↔
      (isOauthMetadataPath facts.path && rules.any routeHasOauth) = false ∧
        (facts.bodyFields.isNone && rules.any routeNeedsBody && facts.hasRequestBody) = false ∧
        bestRule libs rules facts = some rule := by
  unfold decideRules
  split
  next hm => simp [hm]
  next hm =>
    split
    next hb => simp [hb]
    next hb =>
      cases bestRule libs rules facts <;> simp [hm, hb]

theorem exists_of_mem_rulesFor {host : String} (h : rule ∈ rulesFor libs routes port lh host) :
    rule.spec ∈ routesFor routes port lh host := by
  obtain ⟨spec, hs, hr⟩ := mem_flatMap.1 h
  rwa [spec_of_mem_pathRoutes hr]

theorem mem_of_bestRule (h : bestRule libs rules facts = some rule) : rule ∈ rules :=
  mem_of_mem_filter (argmax_mem h)

theorem mem_routesFor {host : String} (h : r ∈ routesFor routes port lh host) :
    r ∈ routes ∧ r.listenerPort.toUInt16 = port ∧ r.listenerHostname = lh ∧
      hostSlot r.host ∈ requestSlots host := by
  unfold routesFor at h
  cases hf : ((requestSlots host).map (slotRoutes routes port lh)).find? (· ≠ []) with
  | none =>
    rw [hf] at h
    cases h
  | some specs =>
    rw [hf] at h
    obtain ⟨s, hs, rfl⟩ := mem_map.1 (mem_of_find?_eq_some hf)
    obtain ⟨hr, hsl⟩ := mem_filter.1 h
    simp only [decide_eq_true_eq] at hsl
    exact ⟨hr, hsl.1, hsl.2.1, hsl.2.2 ▸ hs⟩

section

variable (h : routeRequest libs (buildListenerBucketsFromProto libs orders routes) facts = .matched
  rule)

include h

theorem exists_servedBy_of_matched :
    ReachesHost routes facts ∧ ∃ port lh, ServedBy routes facts port lh ∧
      decideRules libs (rulesFor libs routes port lh facts.host) facts = .matched rule := by
  have hr : ReachesHost routes facts := by
    by_contra hnot
    by_cases ha : facts.socketIsTls = false ∧ facts.acmeChallenge = true
    · rw [routeRequest_acme ha] at h
      cases h
    · have hm : MeantForAnother routes facts := by
        by_contra hm
        exact hnot ⟨ha, hm⟩
      rw [routeRequest_misdirected ha hm] at h
      cases h
  refine ⟨hr, ?_⟩
  obtain ⟨port, lh, hs, hd⟩ | ⟨-, hd⟩ := @routeRequest_of_servedBy libs _ _ orders hr
  · exact ⟨port, lh, hs, hd.symm.trans h⟩
  · rw [hd] at h
    cases mem_of_bestRule (decideRules_eq_matched.1 h).2.2

end

end Requests

section Ports

variable {libs : RouterLibs} {orders orders' : MapOrders} {routes routes' : List RouteConfig}
  {facts : RequestFacts} {port : UInt16}

/-- The routes of a port. -/
def onPort (routes : List RouteConfig) (port : UInt16) : List RouteConfig :=
  routes.filter fun r => r.listenerPort.toUInt16 = port

/-- No two listeners of a port have hostnames that differ only in case. -/
def CaseDistinct (routes : List RouteConfig) : Prop :=
  ∀ port lh lh', HasListener routes port lh → HasListener routes port lh' →
    Text.toAsciiLowercase lh = Text.toAsciiLowercase lh' → lh = lh'

theorem topListener_congr_onPort (h : onPort routes port = onPort routes' port) :
    TopListener routes port = TopListener routes' port := by
  have hm (routes : List RouteConfig) (lh : String) :
      HasListener routes port lh ↔ ∃ r ∈ onPort routes port, r.listenerHostname = lh := by
    simp [HasListener, onPort, and_assoc]
  funext host lh
  simp only [TopListener, hm, h]

theorem rulesFor_congr_onPort (h : onPort routes port = onPort routes' port) (lh host : String) :
    rulesFor libs routes port lh host = rulesFor libs routes' port lh host := by
  have hs (routes : List RouteConfig) (s : HostSlot) : slotRoutes routes port lh s =
      (onPort routes port).filter fun r => r.listenerHostname = lh ∧ hostSlot r.host = s := by
    rw [onPort, filter_filter, slotRoutes]
    exact filter_congr fun r _ => by simp [Bool.and_comm]
  have hf : slotRoutes routes port lh = slotRoutes routes' port lh := by
    funext s
    rw [hs, hs, h]
  rw [rulesFor, rulesFor, routesFor, routesFor, hf]

theorem chosenHostname_congr (h : onPort routes port = onPort routes' port)
    (hd : CaseDistinct routes') (host : String) :
    chosenHostname (walkedHostnames libs orders routes port) host =
      chosenHostname (walkedHostnames libs orders' routes' port) host := by
  have ht := topListener_congr_onPort h
  cases hc : chosenHostname (walkedHostnames libs orders routes port) host with
  | none =>
    rw [chosen_eq_none, ht] at hc
    exact (chosen_eq_none.2 hc).symm
  | some lh =>
    have hlh := topListener_of_chosen hc
    rw [ht] at hlh
    cases hc' : chosenHostname (walkedHostnames libs orders' routes' port) host with
    | none => exact absurd hlh (chosen_eq_none.1 hc' lh)
    | some lh' =>
      have hlh' := topListener_of_chosen hc'
      rw [hd port lh lh' hlh.1 hlh'.1 (lower_eq_of_topListener hlh hlh')]

theorem routeRequest_congr (hl : onPort routes facts.localPort = onPort routes' facts.localPort)
    (hz : onPort routes 0 = onPort routes' 0) (hd : CaseDistinct routes') :
    routeRequest libs (buildListenerBucketsFromProto libs orders routes) facts =
      routeRequest libs (buildListenerBucketsFromProto libs orders' routes') facts := by
  have hm : MeantForAnother routes facts ↔ MeantForAnother routes' facts := by
    rw [MeantForAnother, MeantForAnother]
    simp only [Misdirected, topListener_congr_onPort hl]
  by_cases ha : facts.socketIsTls = false ∧ facts.acmeChallenge = true
  · rw [routeRequest_acme ha, routeRequest_acme ha]
  · by_cases hmi : MeantForAnother routes facts
    · rw [routeRequest_misdirected ha hmi, routeRequest_misdirected ha (hm.1 hmi)]
    · rw [routeRequest_of_reachesHost ⟨ha, hmi⟩, routeRequest_of_reachesHost ⟨ha, mt hm.2 hmi⟩,
        @chosenHostname_congr libs orders orders' _ _ _ hl hd,
        @chosenHostname_congr libs orders orders' _ _ _ hz hd]
      simp only [rulesFor_congr_onPort hl, rulesFor_congr_onPort hz]

end Ports

end Portus.DataPlane

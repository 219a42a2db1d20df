import Portus.DataPlane.RouteSlice

/-!
# Isolation of listeners

A request belongs to the most specific of the listeners of its port that claim its host, and only
the routes attached to that listener serve it; on a TLS connection it is misdirected when the
listener of the handshake is another one. The data plane knows a listener only by the routes
attached to it, and passes over one that has none.
-/

namespace Portus.ListenerIsolation

open Lib Proto DataPlane List

/-- Exact hostnames over longer wildcards over none. -/
def rank (hostname : String) : ℕ ×ₗ ℕ :=
  if hostname.isEmpty then toLex (0, 0)
  else
    match Text.stripPrefix "*." hostname with
    | some suffix => toLex (1, suffix.utf8ByteSize)
    | none => toLex (2, 0)

/-- A listener of the port for HTTP requests claims the host. -/
structure Claims (l : Listener) (port : UInt16) (host : String) : Prop where
  protocol : l.protocol = "HTTP" ∨ l.protocol = "HTTPS"
  port : l.port.toUInt16 = port
  hostname : listenerHostnameClaims l.hostname host = true

structure MostSpecific (config : CompiledConfig) (port : UInt16) (host : String) (l : Listener) :
    Prop where
  configured : l ∈ config.listeners
  claims : Claims l port host
  top : ∀ l' ∈ config.listeners, Claims l' port host → rank l'.hostname ≤ rank l.hostname

def AttachedTo (r : RouteConfig) (l : Listener) : Prop :=
  r.listenerPort.toUInt16 = l.port.toUInt16 ∧ r.listenerHostname = l.hostname

/-- No route is attached to the listener of the request. -/
def Unattached (config : CompiledConfig) (facts : RequestFacts) : Prop :=
  ∀ l, MostSpecific config facts.localPort facts.host l → ∀ r ∈ config.routes, ¬ AttachedTo r l

/-- The handshake chooses another listener than the host. -/
def Differ (config : CompiledConfig) (facts : RequestFacts) : Prop :=
  ∃ sni, facts.sni = some sni ∧ ∃ l, MostSpecific config facts.localPort (trimEndDots sni) l ∧
    ¬ MostSpecific config facts.localPort facts.host l

/-- A route answers: its rule is matched, or its OAuth metadata are published. -/
def AnsweredByRoute (d : Decision) : Prop := d = .oauthMetadata ∨ ∃ rule, d = .matched rule

section Requests

variable (libs : RouterLibs) (config : CompiledConfig) (facts : RequestFacts)

/-- The decision on a request keeps to its listener. A request that no route answers is answered
404, if it is not an ACME challenge, misdirected or still to be scanned. -/
structure KeepsTo (d : Decision) : Prop where
  served : ∀ rule, d = .matched rule →
    ∃ l, MostSpecific config facts.localPort facts.host l ∧ AttachedTo rule.spec l
  unattached : Unattached config facts → ¬ AnsweredByRoute d
  misdirected : facts.socketIsTls = true → (d = .misdirected ↔ Differ config facts)

def Isolated : Prop :=
  ∀ orders, KeepsTo config facts
    (routeRequest libs (buildListenerBucketsFromProto libs orders config.routes) facts)

def OwnListener (port : UInt16) (lh : String) : Prop :=
  port = facts.localPort ∧ ∃ l, MostSpecific config facts.localPort facts.host l ∧ l.hostname = lh

/-- Among the rules one matches the request, and nothing is answered or asked for before. -/
def HasRule (rules : List PathRoute) : Prop :=
  ReachesRules rules facts ∧ ∃ rule ∈ rules, ruleMatches libs facts rule = true

/-- The listeners with routes choose as the configured ones do. -/
structure Covered : Prop where
  handshake : facts.socketIsTls = true → (MeantForAnother config.routes facts ↔ Differ config facts)
  lookup : ReachesHost config.routes facts → ∀ port lh, ServedBy config.routes facts port lh →
    ¬ OwnListener config facts port lh →
      ¬ HasRule libs facts (rulesFor libs config.routes port lh facts.host) ∧
        (Unattached config facts →
          publishesMetadata (rulesFor libs config.routes port lh facts.host) facts = false)

end Requests

section Decisions

variable {libs : RouterLibs} {facts : RequestFacts} {rules : List PathRoute}

theorem exists_matched_iff :
    (∃ rule, decideRules libs rules facts = .matched rule) ↔ HasRule libs facts rules := by
  constructor
  · rintro ⟨rule, hr⟩
    obtain ⟨hm, hbo, hbe⟩ := decideRules_eq_matched.1 hr
    obtain ⟨hmem, hma⟩ := mem_filter.1 (argmax_mem hbe)
    exact ⟨⟨hm, hbo⟩, rule, hmem, hma⟩
  · rintro ⟨⟨hm, hbo⟩, rule, hmem, hma⟩
    cases hbe : bestRule libs rules facts with
    | some best => exact ⟨best, decideRules_eq_matched.2 ⟨hm, hbo, hbe⟩⟩
    | none =>
      rw [bestRule, argmax_eq_none, filter_eq_nil_iff] at hbe
      exact absurd hma (hbe rule hmem)

theorem decideRules_eq_oauthMetadata :
    decideRules libs rules facts = .oauthMetadata ↔ publishesMetadata rules facts = true := by
  unfold decideRules
  split
  next hm => exact iff_of_true rfl hm
  next hm =>
    refine iff_of_false ?_ hm
    split
    · exact Decision.noConfusion
    · cases bestRule libs rules facts <;> exact Decision.noConfusion

theorem decideRules_ne_misdirected : decideRules libs rules facts ≠ .misdirected := by
  unfold decideRules
  split
  · exact Decision.noConfusion
  · split
    · exact Decision.noConfusion
    · cases bestRule libs rules facts <;> exact Decision.noConfusion

theorem not_answered_noRules : ¬ AnsweredByRoute (decideRules libs [] facts) := by
  rintro (hme | hma)
  · have := decideRules_eq_oauthMetadata.1 hme
    simp [publishesMetadata] at this
  · obtain ⟨-, rule, hr, -⟩ := exists_matched_iff.1 hma
    cases hr

end Decisions

section Isolation

variable {libs : RouterLibs} {orders : MapOrders} {config : CompiledConfig} {facts : RequestFacts}
  {port : UInt16} {lh : String} {rule : PathRoute}

theorem routeRequest_misdirected_iff (ht : facts.socketIsTls = true) :
    routeRequest libs (buildListenerBucketsFromProto libs orders config.routes) facts =
      .misdirected ↔ MeantForAnother config.routes facts := by
  have ha : ¬ (facts.socketIsTls = false ∧ facts.acmeChallenge = true) := by simp [ht]
  constructor
  · intro hmi
    by_contra hme
    rcases @routeRequest_of_servedBy libs _ facts orders ⟨ha, hme⟩ with
      ⟨port, lh, -, hd⟩ | ⟨-, hd⟩
    all_goals exact decideRules_ne_misdirected (hd.symm.trans hmi)
  · exact routeRequest_misdirected ha

theorem attachedTo_iff (hr : rule ∈ rulesFor libs config.routes port lh facts.host) :
    AttachedTo rule.spec l ↔ l.port.toUInt16 = port ∧ l.hostname = lh := by
  obtain ⟨-, hp, hlh, -⟩ := mem_routesFor (exists_of_mem_rulesFor hr)
  rw [AttachedTo, hp, hlh]
  exact and_congr eq_comm eq_comm

theorem ownListener_iff (hr : rule ∈ rulesFor libs config.routes port lh facts.host) :
    (∃ l, MostSpecific config facts.localPort facts.host l ∧ AttachedTo rule.spec l) ↔
      OwnListener config facts port lh := by
  constructor
  · rintro ⟨l, hl, ha⟩
    obtain ⟨hp, hlh⟩ := (attachedTo_iff hr).1 ha
    exact ⟨hp.symm.trans hl.claims.port, l, hl, hlh⟩
  · rintro ⟨rfl, l, hl, hlh⟩
    exact ⟨l, hl, (attachedTo_iff hr).2 ⟨hl.claims.port, hlh⟩⟩

theorem not_unattached (hs : ServedBy config.routes facts port lh)
    (ho : OwnListener config facts port lh) : ¬ Unattached config facts := by
  intro hn
  obtain ⟨rfl, l, hl, rfl⟩ := ho
  obtain ⟨r, hr, hp, hlh⟩ := hs.1.1
  exact hn l hl r hr ⟨hp.trans hl.claims.port.symm, hlh⟩

theorem keepsTo_decideRules_iff (hs : ServedBy config.routes facts port lh) :
    ((∀ rule, decideRules libs (rulesFor libs config.routes port lh facts.host) facts =
          .matched rule →
        ∃ l, MostSpecific config facts.localPort facts.host l ∧ AttachedTo rule.spec l) ∧
      (Unattached config facts → ¬ AnsweredByRoute
        (decideRules libs (rulesFor libs config.routes port lh facts.host) facts))) ↔
    (¬ OwnListener config facts port lh →
      ¬ HasRule libs facts (rulesFor libs config.routes port lh facts.host) ∧
        (Unattached config facts →
          publishesMetadata (rulesFor libs config.routes port lh facts.host) facts = false)) := by
  constructor
  · rintro ⟨hma, hu⟩ hf
    constructor
    · intro hh
      obtain ⟨rule, hr⟩ := exists_matched_iff.2 hh
      have hmem := mem_of_bestRule (decideRules_eq_matched.1 hr).2.2
      exact hf ((ownListener_iff hmem).1 (hma rule hr))
    · intro hn
      by_contra hm
      rw [Bool.not_eq_false] at hm
      exact hu hn (.inl (decideRules_eq_oauthMetadata.2 hm))
  · intro h
    by_cases ho : OwnListener config facts port lh
    · refine ⟨fun rule hr => ?_, fun hn => absurd hn (not_unattached hs ho)⟩
      have hmem := mem_of_bestRule (decideRules_eq_matched.1 hr).2.2
      exact (ownListener_iff hmem).2 ho
    · obtain ⟨hno, hm⟩ := h ho
      refine ⟨fun rule hr => absurd (exists_matched_iff.1 ⟨rule, hr⟩) hno, ?_⟩
      rintro hn (hp | hma)
      · exact nomatch (hm hn).symm.trans (decideRules_eq_oauthMetadata.1 hp)
      · exact hno (exists_matched_iff.1 hma)

theorem keepsTo_of_not_answered (hn : ¬ AnsweredByRoute d)
    (hm : facts.socketIsTls = true → (d = .misdirected ↔ Differ config facts)) :
    KeepsTo config facts d :=
  ⟨fun rule hr => absurd (.inr ⟨rule, hr⟩) hn, fun _ => hn, hm⟩

/-- A request is kept to its listener exactly when the listeners with routes choose as all the
configured ones do. -/
theorem isolated_iff_covered (libs : RouterLibs) (config : CompiledConfig) (facts : RequestFacts) :
    Isolated libs config facts ↔ Covered libs config facts := by
  constructor
  · intro h
    refine ⟨fun ht => ?_, fun hr port lh hs => ?_⟩
    · have hmi := (h ⟨.insertion, .insertion⟩).misdirected ht
      rwa [routeRequest_misdirected_iff ht] at hmi
    · obtain ⟨orders, hd⟩ := @exists_orders libs _ _ _ _ hr hs
      have hk := h orders
      rw [hd] at hk
      exact (keepsTo_decideRules_iff hs).1 ⟨hk.served, hk.unattached⟩
  · intro h orders
    have hmi (ht : facts.socketIsTls = true) :=
      (@routeRequest_misdirected_iff libs orders config facts ht).trans (h.handshake ht)
    by_cases ha : facts.socketIsTls = false ∧ facts.acmeChallenge = true
    · rw [routeRequest_acme ha] at hmi ⊢
      exact keepsTo_of_not_answered (by simp [AnsweredByRoute]) hmi
    · by_cases hme : MeantForAnother config.routes facts
      · rw [routeRequest_misdirected ha hme] at hmi ⊢
        exact keepsTo_of_not_answered (by simp [AnsweredByRoute]) hmi
      · rcases @routeRequest_of_servedBy libs _ facts orders ⟨ha, hme⟩ with
          ⟨port, lh, hs, hd⟩ | ⟨-, hd⟩
        · have hb := (keepsTo_decideRules_iff hs).2 (h.lookup ⟨ha, hme⟩ port lh hs)
          rw [hd] at hmi ⊢
          exact ⟨hb.1, hb.2, hmi⟩
        · rw [hd] at hmi ⊢
          exact keepsTo_of_not_answered not_answered_noRules hmi

end Isolation

/-- Any host on port 80, and one host whose listener has no routes. -/
def twoListeners : CompiledConfig where
  schemaVersion := ""
  routes := [{ host := "*", serviceName := "public", port := 8080, listenerPort := 80 }]
  backends := []
  listeners :=
    [⟨"any", 80, "HTTP", "", none, "", "", none⟩,
      ⟨"internal", 80, "HTTP", "internal.example.com", none, "", "", none⟩]
  tlsPassthroughRoutes := []
  tcpProxyRoutes := []
  udpProxyRoutes := []
  tlsPassthroughListenerHostnames := []
  gatewayBackendTls := []
  mcpFederations := []
  issuerKeys := []

def internalRequest : RequestFacts := { host := "internal.example.com", path := "/", localPort := 80 }

theorem internal_unattached : Unattached twoListeners internalRequest := by
  intro l hl r hr ha
  obtain rfl := mem_singleton.1 hr
  have hn : l.hostname = "" := ha.2.symm
  have hra := hl.top ⟨"internal", 80, "HTTP", "internal.example.com", none, "", "", none⟩
    (by simp [twoListeners]) ⟨.inl rfl, rfl, by decide⟩
  rw [hn] at hra
  revert hra
  decide

/-- The request of the listener without routes is served by a route of the other listener. -/
theorem internal_served_elsewhere : ¬ Isolated plainNames twoListeners internalRequest := by
  intro h
  have hs : ServedBy twoListeners.routes internalRequest 80 "" := by
    refine ⟨⟨⟨_, mem_singleton.2 rfl, rfl, rfl⟩, rfl, ?_⟩, .inl rfl⟩
    rintro lh ⟨r, hr, -, rfl⟩ -
    obtain rfl := mem_singleton.1 hr
    exact le_rfl
  have hre : ReachesHost twoListeners.routes internalRequest :=
    ⟨(fun ha => nomatch ha.2), (fun hm => nomatch hm.1)⟩
  obtain ⟨orders, hd⟩ := @exists_orders plainNames _ _ _ _ hre hs
  refine (h orders).unattached internal_unattached (.inr ?_)
  rw [hd]
  exact exists_matched_iff.2 ⟨⟨by decide, by decide⟩, _, mem_cons_self, by decide⟩

end Portus.ListenerIsolation

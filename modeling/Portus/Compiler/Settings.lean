import Portus.Compiler.Backends
import Portus.Compiler.Orders

/-!
# The settings a choice makes

What is taken for a configuration shows in the fields that policies set, in the budget and
in the protocol to the Service (`ChosenFields`); the other fields do not depend on it
(`finishWith_congr`).
-/

namespace Portus.Compiler

open Portus Lib Proto

section Protocol

variable (appProtocol : Option String) (service protocol : String)

def protocolOver : String :=
  if service.isEmpty || protocol == "GRPC" then protocol
  else if appProtocol = some "kubernetes.io/h2c" then "H2C"
  else if appProtocol = some "kubernetes.io/ws" then "WS"
  else protocol

def tlsOver (own : Option UpstreamTlsConfig) : Option UpstreamTlsConfig :=
  if service.isEmpty || protocol == "GRPC" then own
  else if appProtocol = some "HTTPS" then some ⟨true, true, service⟩
  else own

def providerTlsOver (provider : Option AIProviderState) (own : Option UpstreamTlsConfig) :
    Option UpstreamTlsConfig :=
  match provider with
  | some p => if p.tls then some ⟨true, true, p.host⟩ else own
  | none => own

end Protocol

section Finish

variable (store : ConfigStore) (c : Choice)

def appProtocolIn (ns : Option String) (r : RouteConfig) : Option String :=
  ns.bind fun ns => store.serviceAppProtocols.lookup ⟨ns, r.serviceName, portOfProto r.port⟩

theorem overrideProtocolIn_eq :
    overrideProtocolIn store ns r = { r with
        protocol := protocolOver (appProtocolIn store ns r) r.serviceName r.protocol
        upstreamTls := tlsOver (appProtocolIn store ns r) r.serviceName r.protocol r.upstreamTls } := by
  unfold overrideProtocolIn protocolOver tlsOver appProtocolIn
  split
  next => rfl
  next =>
    cases ns with
    | none => rfl
    | some ns =>
      dsimp
      split
      next h => simp [h]
      next h => simp [h]
      next h => simp [h]
      next h1 h2 h3 =>
        rw [if_neg h1, if_neg h2, if_neg h3]

attribute [ext] PolicyFields

@[ext] structure ChosenFields where
  policies : PolicyFields
  aiBudget : Option AiBudget
  protocol : String
  upstreamTls : Option UpstreamTlsConfig

def chosenFields (r : RouteConfig) : ChosenFields :=
  ⟨policyFields r, r.aiBudget, r.protocol, r.upstreamTls⟩

def setChosenFields (r : RouteConfig) (f : ChosenFields) : RouteConfig :=
  { setPolicyFields r f.policies with
    aiBudget := f.aiBudget, protocol := f.protocol, upstreamTls := f.upstreamTls }

theorem setChosenFields_chosenFields : setChosenFields r (chosenFields r) = r := rfl

theorem chosenFields_annotateAiProvider :
    chosenFields (annotateAiProvider store r) = { chosenFields r with
      upstreamTls := providerTlsOver (providerOfService store r.serviceName) r.upstreamTls } := by
  unfold annotateAiProvider
  cases providerOfService store r.serviceName <;> rfl

theorem chosenFields_annotateAiRouteWith :
    chosenFields (annotateAiRouteWith store budget source r) =
      { chosenFields r with
        aiBudget := if source.kind = "AIRoute" then budget.or r.aiBudget else r.aiBudget } := by
  unfold annotateAiRouteWith
  by_cases hk : source.kind = "AIRoute"
  · rw [if_neg (not_not.2 hk), if_pos hk]
    rfl
  · rw [if_pos hk, if_neg hk]
    rfl

def chosenBy (e : Emission) : ChosenFields where
  policies := settings store c e.route
  aiBudget := if e.source.kind = "AIRoute" then c.budget.or e.route.aiBudget else e.route.aiBudget
  protocol := protocolOver (appProtocolIn store c.backendNs e.route) e.route.serviceName
    e.route.protocol
  upstreamTls := providerTlsOver (providerOfService store e.route.serviceName)
    (tlsOver (appProtocolIn store c.backendNs e.route) e.route.serviceName e.route.protocol
      e.route.upstreamTls)

theorem chosenFields_finishWith :
    chosenFields (finishWith store c e) = chosenBy store c e := by
  rw [finishWith, chosenFields_annotateAiProvider, chosenFields_annotateAiRouteWith,
    annotateAiRouteWith_frame (f := RouteConfig.serviceName) (by intros; rfl),
    annotateAiRouteWith_frame (f := RouteConfig.upstreamTls) (by intros; rfl),
    overrideProtocolIn_eq, applyChoice_eq]
  rfl

theorem setChosenFields_finishWith :
    setChosenFields (finishWith store c e) f = setChosenFields (annotateAiProvider store
      (setChosenFields (annotateAiRouteWith store none e.source (setChosenFields e.route f)) f)) f := by
  have hp (r : RouteConfig) : setChosenFields (annotateAiProvider store r) f =
      setChosenFields (annotateAiProvider store (setChosenFields r f)) f := by
    have hn : (setChosenFields r f).serviceName = r.serviceName := rfl
    unfold annotateAiProvider
    rw [hn]
    cases providerOfService store r.serviceName <;> rfl
  have hr (r : RouteConfig) : setChosenFields (annotateAiRouteWith store c.budget e.source r) f =
      setChosenFields (annotateAiRouteWith store none e.source (setChosenFields r f)) f := by
    unfold annotateAiRouteWith
    split <;> rfl
  rw [finishWith, hp, hr, overrideProtocolIn_frame (f := (setChosenFields · f)) (by intros; rfl),
    applyChoice_eq]
  rfl

theorem finishWith_congr {c c' : Choice}
    (h : chosenFields (finishWith store c e) = chosenFields (finishWith store c' e)) :
    finishWith store c e = finishWith store c' e := by
  have ho (f : ChosenFields) :
      setChosenFields (finishWith store c e) f = setChosenFields (finishWith store c' e) f :=
    (setChosenFields_finishWith store c).trans (setChosenFields_finishWith store c').symm
  calc finishWith store c e
      = setChosenFields (finishWith store c e) (chosenFields (finishWith store c e)) :=
        setChosenFields_chosenFields.symm
    _ = setChosenFields (finishWith store c' e) (chosenFields (finishWith store c e)) := ho _
    _ = setChosenFields (finishWith store c' e) (chosenFields (finishWith store c' e)) := by rw [h]
    _ = finishWith store c' e := setChosenFields_chosenFields

theorem serviceBehind_finishWith :
    ((finishWith store c e).serviceName, portOfProto (finishWith store c e).port) =
      serviceBehind e := by
  let service (r : RouteConfig) := (r.serviceName, portOfProto r.port)
  show service (finishWith store c e) = service e.route
  rw [passes_frame (f := service) (by intros; rfl) (by intros; rfl) (by intros; rfl),
    applyChoice_frame (f := service) (by intros; rfl)]

end Finish

section Sets

variable {τ ε : Type}

theorem sets_timeoutOver {val : τ → UInt64} {own : ε → UInt64} :
    Sets (fun p e => timeoutOver (own e) (val p)) own := by
  intro p
  by_cases h : 0 < val p
  · exact .inl ⟨val p, fun e => .inl (if_pos h)⟩
  · exact .inr fun e => if_neg h

theorem sets_connectOver {val : τ → UInt64} {own : ε → Option TimeoutConfig} :
    Sets (fun p e => (connectOver (own e) (val p)).map (·.connectTimeoutMs))
      fun e => (own e).map (·.connectTimeoutMs) := by
  intro p
  by_cases h : 0 < val p
  · exact .inl ⟨some (val p), fun e => .inl (by simp [connectOver, h])⟩
  · exact .inr fun e => by simp [connectOver, h]

theorem sets_protocolOver (service : String) (protocol : ε → String) :
    Sets (fun appProtocol e => protocolOver appProtocol service (protocol e)) protocol := by
  intro appProtocol
  have hg (v : String) (hv : ∀ p, (service.isEmpty || p == "GRPC") = false →
      protocolOver appProtocol service p = v) :
      ∃ v, ∀ e, protocolOver appProtocol service (protocol e) = v ∨
        ∀ t, protocolOver t service (protocol e) = protocolOver appProtocol service (protocol e) := by
    refine ⟨v, fun e => ?_⟩
    cases h : service.isEmpty || protocol e == "GRPC" with
    | true => exact .inr fun _ => by simp [protocolOver, h]
    | false => exact .inl (hv _ h)
  by_cases h2c : appProtocol = some "kubernetes.io/h2c"
  · exact .inl (hg "H2C" fun p hp => by simp [protocolOver, hp, h2c])
  by_cases hws : appProtocol = some "kubernetes.io/ws"
  · exact .inl (hg "WS" fun p hp => by simp [protocolOver, hp, hws])
  · exact .inr fun e => by simp [protocolOver, h2c, hws]

theorem sets_tlsOver (service : String) (provider : Option AIProviderState)
    (protocol : ε → String) (own : ε → Option UpstreamTlsConfig) :
    Sets (fun appProtocol e =>
        providerTlsOver provider (tlsOver appProtocol service (protocol e) (own e)))
      fun e => providerTlsOver provider (own e) := by
  intro appProtocol
  by_cases hh : appProtocol = some "HTTPS"
  · refine .inl ⟨providerTlsOver provider (some ⟨true, true, service⟩), fun e => ?_⟩
    cases h : service.isEmpty || protocol e == "GRPC" with
    | true => exact .inr fun _ => by simp [tlsOver, h]
    | false => exact .inl (by simp [tlsOver, h, hh])
  · exact .inr fun e => by simp [tlsOver, hh]

theorem eq_of_turn {l : List ε} {a b : ε → Option τ} (ht : ∀ e ∈ l, Turn p q (a e) (b e))
    {F : Option τ → ε → β} {own : ε → β} (hF : Sets (fun s e => F (some s) e) own)
    (h : (l.map fun e => F (a e) e).Perm (l.map fun e => F (b e) e)) :
    ∀ e ∈ l, F (a e) e = F (b e) e := by
  intro e he
  have hs := (ht e he).1
  match p, q with
  | none, none =>
    rcases (ht e he).2 with heq | ⟨ha, hb⟩
    · rw [heq]
    · rw [ha, hb]
  | some s, some t =>
    refine eq_of_sets hF (s := s) (t := t) h (fun e he => ?_) e he
    rcases (ht e he).2 with heq | ⟨ha, hb⟩
    · exact .inl (by rw [heq])
    · exact .inr ⟨by rw [ha], by rw [hb]⟩

theorem Turn.isSome (h : Turn p q x y) : x.isSome = y.isSome := by
  obtain ⟨hs, rfl | ⟨rfl, rfl⟩⟩ := h
  · rfl
  · exact hs

end Sets

section Auth

def basicPart : Option AuthType → Option AuthType
  | some (.basicAuth credentials realm) => some (.basicAuth credentials realm)
  | _ => none

def apiKeyPart : Option AuthType → Option AuthType
  | some (.apiKey validKeys headerName) => some (.apiKey validKeys headerName)
  | _ => none

def jwtPart : Option AuthType → Option AuthType
  | some (.jwt providers) => some (.jwt providers)
  | _ => none

theorem auth_eq_of_parts (hb : basicPart x = basicPart y)
    (ha : apiKeyPart x = apiKeyPart y) (hj : jwtPart x = jwtPart y) : x = y := by
  rcases x with _ | (_ | _ | _) <;> rcases y with _ | (_ | _ | _) <;>
    simp_all [basicPart, apiKeyPart, jwtPart]

variable (store : ConfigStore) (c : Choice) (own : Option AuthType)

theorem parts_authOver :
    basicPart (authOver store c own) =
        basicPart ((c.basicAuth.bind fun p => (setBasicAuth store p {}).auth).or own) ∧
      apiKeyPart (authOver store c own) =
        (if c.basicAuth.isSome then none
        else apiKeyPart (own.or (c.apiKeyAuth.bind fun p => (setApiKeyAuth store p {}).auth))) ∧
      jwtPart (authOver store c own) =
        if c.basicAuth.isSome || c.apiKeyAuth.isSome && own.isNone then none
        else jwtPart (own.or (c.jwtAuth.bind fun p => (setJwtAuth p {}).auth)) := by
  unfold authOver
  cases c.basicAuth with
  | some p => exact ⟨rfl, rfl, rfl⟩
  | none => cases own <;> cases c.apiKeyAuth <;> cases c.jwtAuth <;> exact ⟨rfl, rfl, rfl⟩

end Auth

section Together

variable {store : ConfigStore} {l : List Emission} {a b : Emission → Choice}
  {c c' : Choice} {service : String × UInt16}

theorem perm_chosenBy (f : ChosenFields → β)
    (h : (l.map fun e => finishWith store (a e) e).Perm (l.map fun e => finishWith store (b e) e)) :
    (l.map fun e => f (chosenBy store (a e) e)).Perm (l.map fun e => f (chosenBy store (b e) e)) := by
  have hm := h.map fun r => f (chosenFields r)
  simpa only [List.map_map, Function.comp_def, chosenFields_finishWith] using hm

theorem part_eq_of_perm {x y : Emission → Option (PolicyState σ)}
    (ht : ∀ e ∈ l, Turn p q (x e) (y e)) {gate gate' : Emission → Bool}
    (hga : ∀ e ∈ l, gate e = gate' e) {part : Option AuthType → Option AuthType}
    (h : (l.map fun e => if gate e then none else part (e.route.auth.or ((x e).bind val))).Perm
      (l.map fun e => if gate' e then none else part (e.route.auth.or ((y e).bind val)))) :
    ∀ e ∈ l, (if gate e then none else part (e.route.auth.or ((x e).bind val))) =
      if gate' e then none else part (e.route.auth.or ((y e).bind val)) := by
  let F (o : Option (PolicyState σ)) (e : Emission) : Option AuthType :=
    if gate e then none else part (e.route.auth.or (o.bind val))
  have hy : ∀ e ∈ l, (if gate' e then none else part (e.route.auth.or ((y e).bind val))) =
      F (y e) e := by
    intro e he
    rw [← hga e he]
  have hse : Sets (fun s e => F (some s) e) fun _ => none := by
    refine fun s => .inl ⟨part (val s), fun e => ?_⟩
    cases hg : gate e <;> cases ho : e.route.auth <;> simp [F, hg, ho]
  rw [List.map_congr_left hy] at h
  intro e he
  rw [hy e he]
  exact eq_of_turn ht hse h e he

theorem auth_eq_of_perm (ht : ∀ e ∈ l, Turned c c' (a e) (b e))
    (hpe : (l.map fun e => finishWith store (a e) e).Perm
      (l.map fun e => finishWith store (b e) e)) :
    ∀ e ∈ l, authOver store (a e) e.route.auth = authOver store (b e) e.route.auth := by
  have hau {β : Type} (f : Option AuthType → β) :
      (l.map fun e => f (authOver store (a e) e.route.auth)).Perm
        (l.map fun e => f (authOver store (b e) e.route.auth)) :=
    perm_chosenBy (fun x => f x.policies.auth) hpe
  have hbasic : ∀ e ∈ l, basicPart (authOver store (a e) e.route.auth) =
      basicPart (authOver store (b e) e.route.auth) := by
    have hpa := hau basicPart
    simp only [(parts_authOver ..).1] at hpa ⊢
    exact eq_of_turn (fun e he => (ht e he).basicAuth) (F := fun o e =>
      basicPart ((o.bind fun p => (setBasicAuth store p {}).auth).or e.route.auth))
      (sets_const (fun _ => none) fun _ _ => rfl) hpa
  have hbasicG : ∀ e ∈ l, (a e).basicAuth.isSome = (b e).basicAuth.isSome := fun e he =>
    (ht e he).basicAuth.isSome
  have hapiKeyG : ∀ e ∈ l, (a e).apiKeyAuth.isSome = (b e).apiKeyAuth.isSome := fun e he =>
    (ht e he).apiKeyAuth.isSome
  have hapiK := hau apiKeyPart
  simp only [(parts_authOver ..).2.1] at hapiK
  have hapiK := part_eq_of_perm (fun e he => (ht e he).apiKeyAuth) hbasicG hapiK
  have hj := hau jwtPart
  simp only [(parts_authOver ..).2.2] at hj
  have hj := part_eq_of_perm (fun e he => (ht e he).jwtAuth)
    (fun e he => by rw [hbasicG e he, hapiKeyG e he]) hj
  intro e he
  refine auth_eq_of_parts (hbasic e he) ?_ ?_
  · rw [(parts_authOver ..).2.1, (parts_authOver ..).2.1]
    exact hapiK e he
  · rw [(parts_authOver ..).2.2, (parts_authOver ..).2.2]
    exact hj e he

theorem connectOver_eq {own : Option TimeoutConfig}
    (h : (connectOver own x).map (·.connectTimeoutMs) =
      (connectOver own y).map (·.connectTimeoutMs)) :
    connectOver own x = connectOver own y := by
  unfold connectOver at *
  by_cases hx : 0 < x <;> by_cases hy : 0 < y
  · simp_all
  · rw [if_pos hx, if_neg hy] at *
    obtain ⟨t, rfl, ht⟩ := Option.map_eq_some_iff.1 h.symm
    have ht : t.connectTimeoutMs = x := ht
    rw [← ht]
    rfl
  · rw [if_neg hx, if_pos hy] at *
    obtain ⟨t, rfl, ht⟩ := Option.map_eq_some_iff.1 h
    have ht : t.connectTimeoutMs = y := ht
    rw [← ht]
    rfl
  · rw [if_neg hx, if_neg hy]

section

variable (htu : ∀ e ∈ l, Turned c c' (a e) (b e))
  (hp : (l.map fun e => finishWith store (a e) e).Perm (l.map fun e => finishWith store (b e) e))

include htu hp

theorem settings_eq_of_perm :
    ∀ e ∈ l, settings store (a e) e.route = settings store (b e) e.route := by
  have hf {β : Type} (f : PolicyFields → β) : (l.map fun e => f (settings store (a e) e.route)).Perm
        (l.map fun e => f (settings store (b e) e.route)) :=
    perm_chosenBy (fun x => f x.policies) hp
  have hra := eq_of_turn (fun e he => (htu e he).rateLimit)
    (F := fun o e => (settings store { c with rateLimit := o } e.route).rateLimit)
    (sets_const (fun _ => none) fun _ _ => rfl) (hf (·.rateLimit))
  have hci := eq_of_turn (fun e he => (htu e he).circuitBreaker)
    (F := fun o e => (settings store { c with circuitBreaker := o } e.route).circuitBreaker)
    (sets_const (fun _ => none) fun _ _ => rfl) (hf (·.circuitBreaker))
  have hconn := eq_of_turn (fun e he => (htu e he).connection)
    (F := fun o e => (settings store { c with connection := o } e.route).maxConnections)
    (sets_const (fun _ => none) fun _ _ => rfl) (hf (·.maxConnections))
  have hex := eq_of_turn (fun e he => (htu e he).extAuth)
    (F := fun o e => (settings store { c with extAuth := o } e.route).extAuth)
    (sets_const (fun _ => none) fun _ _ => rfl) (hf (·.extAuth))
  have hi := eq_of_turn (fun e he => (htu e he).ipAllowlist)
    (F := fun o e => (settings store { c with ipAllowlist := o } e.route).ipAllowlist)
    (sets_const (fun _ => none) fun _ _ => rfl) (hf (·.ipAllowlist))
  have hc' := eq_of_turn (fun e he => (htu e he).cors)
    (F := fun o e => (settings store { c with cors := o } e.route).cors)
    sets_own_or (hf (·.cors))
  have hbodyS := eq_of_turn (fun e he => (htu e he).bodySizeLimit)
    (F := fun o e => (settings store { c with bodySizeLimit := o } e.route).maxRequestBodyBytes)
    (sets_const (fun _ => 0) fun _ _ => rfl) (hf (·.maxRequestBodyBytes))
  have hm := eq_of_turn (fun e he => (htu e he).retry)
    (F := fun o e => (settings store { c with retry := o } e.route).maxRetries)
    sets_unless (hf (·.maxRetries))
  have hretry := eq_of_turn (fun e he => (htu e he).retry)
    (F := fun o e => (settings store { c with retry := o } e.route).retryOn)
    sets_unless (hf (·.retryOn))
  have hreq := eq_of_turn (fun e he => (htu e he).timeout)
    (F := fun o e => (settings store { c with timeout := o } e.route).requestTimeoutMs)
    sets_timeoutOver (hf (·.requestTimeoutMs))
  have hba := eq_of_turn (fun e he => (htu e he).timeout)
    (F := fun o e => (settings store { c with timeout := o } e.route).backendRequestTimeoutMs)
    sets_timeoutOver (hf (·.backendRequestTimeoutMs))
  have hc := eq_of_turn (fun e he => (htu e he).timeout)
    (F := fun o e => (settings store { c with timeout := o } e.route).timeouts.map (·.connectTimeoutMs))
    sets_connectOver (hf (·.timeouts.map (·.connectTimeoutMs)))
  intro e he
  exact PolicyFields.ext (hra e he) (hci e he) (hconn e he)
    (auth_eq_of_perm htu hp e he) (hex e he) (hm e he) (hretry e he)
    (hi e he) (hbodyS e he) (hc' e he) (hreq e he) (hba e he)
    (connectOver_eq (hc e he))

theorem finishWith_eq_of_perm (hns : ∀ e ∈ l, serviceBehind e = service →
      (a e).backendNs = c.backendNs ∧ (b e).backendNs = c'.backendNs) (he : e ∈ l)
    (hs : serviceBehind e = service) :
    finishWith store (a e) e = finishWith store (b e) e := by
  let budget (o : Option AiBudget) (e : Emission) : Option AiBudget :=
    if e.source.kind = "AIRoute" then o.or e.route.aiBudget else e.route.aiBudget
  have hb' : Sets (fun o e => budget (some o) e) (budget none) := by
    refine fun o => .inl ⟨some o, fun e => ?_⟩
    by_cases hk : e.source.kind = "AIRoute"
    · exact .inl (by simp [budget, hk])
    · exact .inr fun _ => by simp [budget, hk]
  have hbu := eq_of_turn (fun e he => (htu e he).budget) hb' (perm_chosenBy (·.aiBudget) hp)
  -- what the namespace decides shows in the configurations to the Service
  let appProtocol (ns : Option String) : Option String :=
    ns.bind fun ns => store.serviceAppProtocols.lookup ⟨ns, service.1, service.2⟩
  have hap (ns : Option String) {e : Emission} (hs : serviceBehind e = service) :
      appProtocolIn store ns e.route = appProtocol ns := by
    subst hs
    rfl
  have hn {e : Emission} (hs : serviceBehind e = service) :
      e.route.serviceName = service.1 := congrArg Prod.fst hs
  have hto {β : Type} (f : ChosenFields → β) :
      (l.map fun e => if serviceBehind e = service then some (f (chosenBy store (a e) e)) else none).Perm
        (l.map fun e =>
          if serviceBehind e = service then some (f (chosenBy store (b e) e)) else none) := by
    have hm := hp.map fun r =>
      if (r.serviceName, portOfProto r.port) = service then some (f (chosenFields r)) else none
    simpa only [List.map_map, Function.comp_def, chosenFields_finishWith,
      serviceBehind_finishWith] using hm
  have hag {β : Type} (f : ChosenFields → β) {F : Option String → Emission → β}
      {own : Emission → β} (hF : Sets F own)
      (hf : ∀ c e, serviceBehind e = service →
        f (chosenBy store c e) = F (appProtocol c.backendNs) e) :
      f (chosenBy store (a e) e) = f (chosenBy store (b e) e) := by
    have heq := eq_of_sets (hF.restrict fun e => serviceBehind e = service)
      (s := appProtocol c.backendNs) (t := appProtocol c'.backendNs) (hto f) (fun e he => ?_) e he
    · simpa only [if_pos hs, Option.some.injEq] using heq
    · by_cases hs : serviceBehind e = service
      · obtain ⟨ha, hb⟩ := hns e he hs
        simp only [if_pos hs, hf _ _ hs, ha, hb]
        exact .inr ⟨trivial, trivial⟩
      · exact .inl (by simp only [if_neg hs])
  refine finishWith_congr store ?_
  rw [chosenFields_finishWith, chosenFields_finishWith]
  refine ChosenFields.ext (settings_eq_of_perm htu hp e he) (hbu e he) ?_ ?_
  · refine hag (·.protocol) (sets_protocolOver service.1 fun e => e.route.protocol) fun c e hs => ?_
    show protocolOver (appProtocolIn store c.backendNs e.route) _ _ = _
    rw [hap _ hs, hn hs]
  · refine hag (·.upstreamTls) (sets_tlsOver service.1 (providerOfService store service.1)
      (fun e => e.route.protocol) fun e => e.route.upstreamTls) fun c e hs => ?_
    show providerTlsOver (providerOfService store e.route.serviceName) (tlsOver (appProtocolIn store
      c.backendNs e.route) _ _ _) = _
    rw [hap _ hs, hn hs]

end

end Together

end Portus.Compiler

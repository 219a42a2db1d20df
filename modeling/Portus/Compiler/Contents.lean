import Portus.Compiler.Settings
import Portus.Compiler.Scope

/-!
# Stores of the same content

Some values of the store hold maps of their own: the data of a Secret or a ConfigMap, and the
client validations of a Gateway by port. Two stores have the same content if they differ in
the order in which their tables are walked and in that of these maps (`SameContent`).
-/

namespace Portus.Compiler

open Portus Lib Proto Reconcilers List

def SecretRewalked (a b : SecretState) : Prop := a.data.Reordered b.data

def TlsRewalked (a b : GatewayTlsState) : Prop :=
  a.frontendPerPort.Reordered b.frontendPerPort ∧ { b with frontendPerPort := a.frontendPerPort } = a

/-- The same tables, with the maps of their values walked in another order. -/
structure Rewalked (s s' : ConfigStore) : Prop where
  secrets : s.secrets.Entrywise SecretRewalked s'.secrets
  configMaps : s.configMaps.Entrywise SecretRewalked s'.configMaps
  gatewayTls : s.gatewayTls.Entrywise TlsRewalked s'.gatewayTls
  others : { s' with
    secrets := s.secrets, configMaps := s.configMaps, gatewayTls := s.gatewayTls } = s

/-- The same content, every map walked in another order. -/
def SameContent (s s' : ConfigStore) : Prop := ∃ m, Reordered s m ∧ Rewalked m s'

theorem Rewalked.refl (s : ConfigStore) : Rewalked s s where
  secrets := .refl (fun _ => .refl _) _
  configMaps := .refl (fun _ => .refl _) _
  gatewayTls := .refl (fun _ => ⟨.refl _, rfl⟩) _
  others := rfl

theorem SameContent.of_reordered {s s' : ConfigStore} (h : Reordered s s') : SameContent s s' :=
  ⟨s', h, .refl s'⟩

section Rewalked

variable {s s' : ConfigStore}

variable (h : Rewalked s s')

include h

theorem Rewalked.eq : s' = { s with
    secrets := s'.secrets, configMaps := s'.configMaps, gatewayTls := s'.gatewayTls } := by
  conv_rhs => rw [← h.others]

theorem certOf_rewalked : certOf s' = certOf s := by
  funext secretRef
  refine (bind_eq_of_rel (h.secrets.lookup ⟨secretRef.1, secretRef.2⟩) fun a b hd => ?_).symm
  have hl := Table.Reordered.lookup hd
  rw [hl, hl]

theorem configMapBundle_rewalked : configMapBundle s' = configMapBundle s := by
  funext key
  refine congrArg _ (bind_eq_of_rel (h.configMaps.lookup key) fun a b hd => ?_).symm
  exact (Table.Reordered.lookup hd _).symm

theorem frontendValidation_rewalked : s'.frontendValidation = s.frontendValidation := by
  funext gw port
  refine (bind_eq_of_rel (h.gatewayTls.lookup gw) fun a b ht => ?_).symm
  obtain ⟨hp, ho⟩ := ht
  unfold GatewayTlsState.frontendValidationForPort
  rw [hp.lookup, ← ho]

theorem providerRequestHeaders_rewalked : providerRequestHeaders s' = providerRequestHeaders s := by
  funext p
  have hc (cred : AICredentialState) :
      ((s'.secrets.lookup ⟨p.namespaceName, cred.secretName⟩).bind fun secret =>
        (secret.data.lookup cred.secretKey).bind fun value =>
          some (cred.header, cred.valuePrefix ++ Text.trim value)) =
      (s.secrets.lookup ⟨p.namespaceName, cred.secretName⟩).bind fun secret =>
        (secret.data.lookup cred.secretKey).bind fun value =>
          some (cred.header, cred.valuePrefix ++ Text.trim value) := by
    refine (bind_eq_of_rel (h.secrets.lookup _) fun a b hd => ?_).symm
    rw [Table.Reordered.lookup hd]
  exact congrArg (fun c : Option (String × String) => ("host", p.host) :: c.toList)
    (congrArg p.credential.bind (funext hc))

theorem aiRoutesAsHttpRoutes_rewalked : aiRoutesAsHttpRoutes s' = aiRoutesAsHttpRoutes s := by
  have hr : aiRuleAsHttpRule s' = aiRuleAsHttpRule s := by
    funext rule
    unfold aiRuleAsHttpRule
    rw [providerRequestHeaders_rewalked h, h.eq]
  unfold aiRoutesAsHttpRoutes
  rw [hr, h.eq]

theorem httpRoutesOf_rewalked : httpRoutesOf s' = httpRoutesOf s := by
  unfold httpRoutesOf
  rw [aiRoutesAsHttpRoutes_rewalked h, h.eq]

theorem emissions_rewalked : emissions s' = emissions s := by
  have hh : httpEmissions s' = httpEmissions s := by
    rw [h.eq]
    rfl
  have hg : grpcEmissions s' = grpcEmissions s := by
    rw [h.eq]
    rfl
  unfold emissions
  rw [httpRoutesOf_rewalked h, hh, hg, h.eq]

theorem takenFor_rewalked : takenFor s' e = takenFor s e := by
  have hns : backendNsIndex s' = backendNsIndex s := by
    unfold backendNsIndex
    rw [httpRoutesOf_rewalked h]
  rw [takenFor, hns, h.eq]
  rfl

theorem finishRoute_rewalked : finishRoute s' e =
      { finishRoute s e with auth := authOver s' (takenFor s e) e.route.auth } := by
  let c := takenFor s e
  let withAuth (r : RouteConfig) : RouteConfig := { r with auth := authOver s' c e.route.auth }
  have hc : applyChoice s' c e.route = withAuth (applyChoice s c e.route) := by
    have hs : setExtAuth s' = setExtAuth s := by
      rw [h.eq]
      rfl
    rw [applyChoice_eq, applyChoice_eq, settings, hs]
    rfl
  have ho (r : RouteConfig) : overrideProtocolIn s' c.backendNs (withAuth r) =
      withAuth (overrideProtocolIn s c.backendNs r) := by
    have ha : appProtocolIn s' = appProtocolIn s := by
      rw [h.eq]
      rfl
    rw [overrideProtocolIn_eq, overrideProtocolIn_eq, ha]
    rfl
  have hr (r : RouteConfig) : annotateAiRouteWith s' c.budget e.source (withAuth r) =
      withAuth (annotateAiRouteWith s c.budget e.source r) := by
    unfold annotateAiRouteWith
    rw [h.eq]
    split <;> rfl
  have hp (r : RouteConfig) : annotateAiProvider s' (withAuth r) =
      withAuth (annotateAiProvider s r) := by
    have hof : providerOfService s' = providerOfService s := by
      rw [h.eq]
      rfl
    unfold annotateAiProvider
    rw [hof]
    cases providerOfService s r.serviceName <;> rfl
  rw [finishRoute_eq, finishRoute_eq, takenFor_rewalked h]
  show annotateAiProvider s' (annotateAiRouteWith s' c.budget e.source (overrideProtocolIn s'
    c.backendNs (applyChoice s' c e.route))) = withAuth (finishWith s c e)
  rw [hc, ho, hr, hp]
  rfl

omit h in
theorem auth_finishRoute : (finishRoute s e).auth = authOver s (takenFor s e) e.route.auth := by
  rw [finishRoute_eq]
  exact congrArg (fun f => f.policies.auth) (chosenFields_finishWith s (takenFor s e))

omit h in
theorem jwtIssuers_congr (h : jwtPart r.auth = jwtPart r'.auth) : jwtIssuers r = jwtIssuers r' := by
  unfold jwtIssuers
  rcases hr : r.auth with _ | (_ | _ | _) <;> rcases hr' : r'.auth with _ | (_ | _ | _) <;>
    simp_all [jwtPart]

theorem compileIssuerKeys_rewalked :
    compileIssuerKeys s' (compileRoutes s') = compileIssuerKeys s (compileRoutes s) := by
  have hr : (compileRoutes s').flatMap jwtIssuers = (compileRoutes s).flatMap jwtIssuers := by
    unfold compileRoutes
    rw [emissions_rewalked h, flatMap_map, flatMap_map]
    refine congrArg (List.flatMap · _) (funext fun e => jwtIssuers_congr ?_)
    rw [auth_finishRoute, auth_finishRoute, takenFor_rewalked h,
      (parts_authOver ..).2.2, (parts_authOver ..).2.2]
  unfold compileIssuerKeys
  rw [hr, h.eq]

theorem compileTlsRoute_rewalked : compileTlsRoute s' = compileTlsRoute s := by
  have hc := certOf_rewalked h
  funext tr
  rw [compileTlsRoute, hc, h.eq]
  rfl

theorem backendKeys_rewalked : backendKeys s' = backendKeys s := by
  have he : (fun e : Emission => (applyPolicies s' e.source e.route).extAuth) =
      fun e => (applyPolicies s e.source e.route).extAuth := by
    funext e
    have hs : setExtAuth s' = setExtAuth s := by
      rw [h.eq]
      rfl
    rw [applyPolicies_eq, applyPolicies_eq, applyChoice_eq, applyChoice_eq, takenFor_rewalked h]
    rw [settings, hs]
    rfl
  have hk : extAuthKeys ((emissions s').map fun e => applyPolicies s' e.source e.route) =
      extAuthKeys ((emissions s).map fun e => applyPolicies s e.source e.route) := by
    unfold extAuthKeys
    rw [emissions_rewalked h, filterMap_map, filterMap_map, Function.comp_def,
      Function.comp_def, he]
  have ht : tlsBackendKey s' = tlsBackendKey s := by
    funext tr
    unfold tlsBackendKey
    rw [compileTlsRoute_rewalked h]
  rw [backendKeys, insertedKeys, httpRoutesOf_rewalked h, hk, ht, h.eq]
  rfl

theorem compileConfig_rewalked :
    compileConfig order s' = { compileConfig order s with routes := compileRoutes s' } := by
  have hgr : backendGroup s' = backendGroup s := by
    rw [h.eq]
    rfl
  have hl : compileListeners s' = compileListeners s := by
    have hlist : compileListener s' = compileListener s := by
      funext gw l
      unfold compileListener clientValidationForListener
      rw [certOf_rewalked h, frontendValidation_rewalked h, configMapBundle_rewalked h]
    rw [compileListeners, hlist, h.eq]
    rfl
  have ht : s'.tlsRoutes.values.filterMap (compileTlsRoute s') =
      s.tlsRoutes.values.filterMap (compileTlsRoute s) := by
    rw [compileTlsRoute_rewalked h, h.eq]
  have hga : compileGatewayBackendTls s' = compileGatewayBackendTls s := by
    rw [compileGatewayBackendTls, certOf_rewalked h]
    refine congrArg _ (filterMap_eq_of_forall₂ h.gatewayTls fun a b hab => ?_).symm
    obtain ⟨key, tls⟩ := a
    obtain ⟨key', tls'⟩ := b
    obtain ⟨rfl, -, ho⟩ := hab
    have hr := congrArg GatewayTlsState.backendClientCertRef ho
    dsimp only at hr ⊢
    rw [hr]
  have hf : compileMcpFederations s' = compileMcpFederations s := by
    rw [compileMcpFederations, providerRequestHeaders_rewalked h, h.eq]
    rfl
  unfold compileConfig
  rw [backendKeys_rewalked h, hl, ht, hga, hf, compileIssuerKeys_rewalked h, h.eq]
  rfl

end Rewalked

/-! ## Reordered tables

What is compiled from each entry of a table is looked up, so another order of the tables gives
the same messages in another order. This holds of the routes and of the endpoint groups only
where the order decides nothing. -/

section Reordered

variable {s s' : ConfigStore}

section

variable (h : Reordered s s')

include h

theorem certOf_reordered : certOf s' = certOf s := by
  funext secretRef
  unfold certOf
  rw [h.secrets.lookup]

theorem compileListeners_reordered : (compileListeners s).Perm (compileListeners s') := by
  have hl : compileListener s' = compileListener s := by
    have hv : s'.frontendValidation = s.frontendValidation := by
      funext gw port
      unfold ConfigStore.frontendValidation
      rw [h.gatewayTls.lookup]
    have hb : configMapBundle s' = configMapBundle s := by
      funext key
      unfold configMapBundle
      rw [h.configMaps.lookup]
    funext gw l
    unfold compileListener clientValidationForListener
    rw [certOf_reordered h, hv, hb]
  have ho : (ownedListeners s).Perm (ownedListeners s') :=
    (h.gateways.pairs.flatMap_right _).append ((h.listenerSets.values.filter _).flatMap_right _)
  unfold compileListeners
  rw [hl]
  exact (ho.filter _).map _

theorem compileTlsRoute_reordered : compileTlsRoute s' = compileTlsRoute s := by
  have hl : tlsListenerFor s' = tlsListenerFor s := by
    funext tr pr
    unfold tlsListenerFor
    rw [h.gateways.lookup]
  have hh : collectListenerHostnames s' = collectListenerHostnames s := by
    funext parentRefs protocols
    unfold collectListenerHostnames
    simp only [h.gateways.lookup]
  funext tr
  unfold compileTlsRoute
  rw [hl, hh, certOf_reordered h]

theorem compileGatewayBackendTls_reordered :
    (compileGatewayBackendTls s).Perm (compileGatewayBackendTls s') := by
  unfold compileGatewayBackendTls
  rw [certOf_reordered h]
  exact ((perm_insertionSort _ _).trans (h.gatewayTls.pairs.filterMap _)).trans
    (perm_insertionSort _ _).symm

theorem federationMembers_reordered : federationMembers s' = federationMembers s := by
  funext fed
  unfold federationMembers
  simp only [h.aiProviders.lookup]

theorem compileMcpFederations_reordered :
    (compileMcpFederations s).Perm (compileMcpFederations s') := by
  unfold compileMcpFederations mcpFederationProviders
  rw [federationMembers_reordered h, providerRequestHeaders_reordered h]
  exact ((perm_insertionSort _ _).trans ((h.aiProviders.values.filter _).map _)).trans
    (perm_insertionSort _ _).symm

theorem compileIssuerKeys_perm (hr : routes.Perm routes') :
    (compileIssuerKeys s routes).Perm (compileIssuerKeys s' routes') := by
  have hi : (btreeSet (routes.flatMap jwtIssuers)).Perm
      (btreeSet (routes'.flatMap jwtIssuers)) := by
    have hd : (routes.flatMap jwtIssuers).dedup.Perm (routes'.flatMap jwtIssuers).dedup :=
      (hr.flatMap_right jwtIssuers).dedup
    exact ((perm_insertionSort _ _).trans hd).trans (perm_insertionSort _ _).symm
  unfold compileIssuerKeys
  simp only [h.issuerKeys.lookup]
  exact hi.map _

theorem backendKeys_reordered (hem : (emissions s).Perm (emissions s'))
    (hex : ∀ e ∈ emissions s, (finishRoute s' e).extAuth = (finishRoute s e).extAuth) :
    (backendKeys s).Perm (backendKeys s') := by
  have hr : (httpRoutesOf s).Perm (httpRoutesOf s') := by
    unfold httpRoutesOf aiRoutesAsHttpRoutes
    rw [aiRuleAsHttpRule_reordered h]
    exact h.httpRoutes.pairs.append (h.aiRoutes.pairs.map _)
  have hb : httpBackendKeys s' = httpBackendKeys s := by
    unfold httpBackendKeys
    rw [grantOk_reordered h]
  have hmi : httpMirrorKeys s' = httpMirrorKeys s := by
    unfold httpMirrorKeys httpBindings baseConfigs
    rw [bindings_reordered h, ownerGateway_reordered h]
  have hg : grpcBackendKeys s' = grpcBackendKeys s := by
    unfold grpcBackendKeys
    rw [grantOk_reordered h]
  have ht : tlsBackendKey s' = tlsBackendKey s := by
    unfold tlsBackendKey
    rw [compileTlsRoute_reordered h]
  have hk : (extAuthKeys ((emissions s).map fun e => applyPolicies s e.source e.route)).Perm
      (extAuthKeys ((emissions s').map fun e => applyPolicies s' e.source e.route)) := by
    have hma : ((emissions s).map fun e => (finishRoute s e).extAuth).Perm
        ((emissions s').map fun e => (finishRoute s' e).extAuth) := by
      rw [← map_congr_left hex]
      exact hem.map _
    have hs (s : ConfigStore) :
        ((emissions s).map fun e => applyPolicies s e.source e.route).filterMap (·.extAuth) =
          ((emissions s).map fun e => (finishRoute s e).extAuth).filterMap id := by
      rw [filterMap_map, filterMap_map]
      exact congrArg (List.filterMap · _)
        (funext fun e => (congrArg Prod.snd (authFields_finishRoute s)).symm)
    unfold extAuthKeys
    rw [hs, hs]
    exact ((hma.filterMap _).filter _).map _
  unfold backendKeys insertedKeys l4BackendKeys mcpFederationProviders
  rw [hb, hmi, hg, ht, federationMembers_reordered h]
  exact List.Perm.dedup <| (((((hr.flatMap_right _).append
    (h.grpcRoutes.pairs.flatMap_right _)).append hk).append
    (h.tlsRoutes.values.filterMap _)).append (h.tcpRoutes.pairs.flatMap_right _)).append
    (h.udpRoutes.pairs.flatMap_right _) |>.append
    ((h.aiProviders.values.filter _).flatMap_right _)

end

end Reordered

end Portus.Compiler

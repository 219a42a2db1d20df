import Portus.Compiler.Backends
import Portus.Reconcilers.Hostnames

/-!
# Accepted parents and programmed parents

A route reconciler tells its users which `parentRefs` are accepted; the compiler decides
again, from the stored listeners, through which of them the route is emitted. Only
accepted references are compiled, so the two disagree where a reference is accepted and
nothing is emitted through it: where a listener meets what the reconciler of the kind
asks for (`Acceptable`) and none meets what the compiler asks for (`Servable`).
-/

namespace Portus

open Lib Proto Compiler Reconcilers List Option

inductive RouteObject where
  | http (route : HTTPRoute)
  | grpc (route : GRPCRoute)

namespace RouteObject

def metadata : RouteObject → ObjectMeta
  | http route => route.metadata
  | grpc route => route.metadata

def hostnames : RouteObject → List String
  | http route => route.hostnames
  | grpc route => route.hostnames

def HasRules : RouteObject → Prop
  | http route => route.rules ≠ []
  | grpc route => route.rules ≠ []

def parents (store : ConfigStore) (namespaceName : String) : RouteObject → List BoundParent
  | http route => httpParents store namespaceName route
  | grpc route => grpcParents store namespaceName route

def reconcile (regexBuilds : String → Bool) (store : ConfigStore) :
    RouteObject → Except ReconcileError ConfigStore
  | http route => reconcileHttpRoute regexBuilds store route
  | grpc route => reconcileGrpcRoute store route

/-- A configuration is compiled for the route with a key through a parent. -/
def EmitsThrough (store : ConfigStore) (key : NamespacedName) (pr : ParentRefState) :
    RouteObject → Prop
  | http _ => ∃ hr, store.httpRoutes.lookup key = some hr ∧ ∃ b ∈ httpBindings store hr,
    b.parentRef = pr ∧ ∃ rule ∈ hr.rules, ∃ e ∈ httpRuleEmissions store key hr b rule,
      finishRoute store e ∈ compileRoutes store
  | grpc _ => ∃ gr, store.grpcRoutes.lookup key = some gr ∧ ∃ b ∈ grpcBindings store gr,
    b.parentRef = pr ∧ ∃ rule ∈ gr.rules, ∃ e ∈ grpcRuleEmissions store key gr b rule,
      finishRoute store e ∈ compileRoutes store

end RouteObject

/-- What a reconciler asks of a listener of the Gateway before it accepts a reference. The one of
HTTPRoutes looks at the first listener of a name, and does not ask whether it is accepted; the one
of GRPCRoutes looks at neither port, hostname nor namespace. -/
def Acceptable (store : ConfigStore) (namespaceName : String) (pr : ParentRefState) :
    RouteObject → Prop
  | .http route => ∃ gw, store.gateways.lookup pr.parentKey = some gw ∧ ∃ l ∈ gw.listeners,
    (∀ s, pr.sectionName = some s → gw.listeners.find? (·.name == s) = some l) ∧
    (pr.port = none ∨ pr.port = some l.port) ∧ speaksHttp l = true ∧
    hostnamesCompatible l.hostname route.hostnames = true ∧
    namespaceAllowed l.allowedRoutes namespaceName gw.namespaceName
      (namespaceLabelsOf store namespaceName) = true
  | .grpc _ => ∃ gw, store.gateways.lookup pr.parentKey = some gw ∧ ∃ l ∈ gw.listeners,
    (pr.sectionName = none ∨ pr.sectionName = some l.name) ∧ speaksHttp l = true ∧
    l.accepted = true

/-- What the compiler asks of a listener of the Gateway: accepted, of the reference's section and
port, for HTTP, sharing a hostname and open to the namespace. -/
def Servable (store : ConfigStore) (namespaceName : String) (hostnames : List String)
    (pr : ParentRefState) : Prop :=
  ∃ gw, store.gateways.lookup pr.parentKey = some gw ∧ ∃ l ∈ gw.listeners,
    l.accepted = true ∧ Names pr l ∧ speaksHttp l = true ∧
    hostnamesCompatible l.hostname hostnames = true ∧
    namespaceAllowed l.allowedRoutes namespaceName pr.gatewayNamespace
      (namespaceLabelsOf store namespaceName) = true

theorem computeEffectiveHostnamesInner_ne_nil :
    computeEffectiveHostnamesInner [lh] hostnames ≠ [] ↔ hostnamesCompatible lh hostnames = true := by
  have hs (l : List String) : btreeSet l ≠ [] ↔ l ≠ [] := by
    simp only [ne_eq, eq_nil_iff_forall_not_mem, mem_btreeSet]
  unfold computeEffectiveHostnamesInner hostnamesCompatible
  rw [hs]
  cases lh with
  | none =>
    by_cases hn : hostnames = []
    · simp [hn]
    · simp [hn]
  | some lh =>
    by_cases hn : hostnames = []
    · simp [hn]
    · simp only [flatMap_singleton, List.isEmpty_iff, hn, if_false, ne_eq,
        filterMap_eq_nil_iff, not_forall, Bool.or_eq_true, List.any_eq_true, exists_prop,
        false_or, ← isSome_intersectHostnames, isSome_iff_ne_none]

theorem attaches_iff (hk : pr.parentKind = .gateway) :
    attaches store ns pr l = true ↔ l.accepted = true ∧ speaksHttp l = true ∧ Names pr l ∧
      namespaceAllowed l.allowedRoutes ns pr.gatewayNamespace (namespaceLabelsOf store ns) = true := by
  simp only [attaches, speaksHttp, Names, parentNamespace, hk, namespaceLabelsOf,
    Bool.and_eq_true, Bool.or_eq_true, beq_iff_eq, isNone_iff_eq_none]
  tauto

theorem exists_binding_iff (hpr : pr ∈ parentRefs) (hk : pr.parentKind = .gateway) :
    (∃ b ∈ bindings store ns hostnames parentRefs, b.parentRef = pr) ↔
      pr.accepted = true ∧ Servable store ns hostnames pr := by
  have hli {l : ListenerState} : l ∈ parentListeners store pr ↔
      ∃ gw, store.gateways.lookup pr.parentKey = some gw ∧ l ∈ gw.listeners := by
    rw [parentListeners, hk]
    cases store.gateways.lookup pr.parentKey <;> simp
  constructor
  · rintro ⟨b, hb, rfl⟩
    obtain ⟨-, hac, hl, hat, hhosts, hne⟩ := mem_bindings.1 hb
    obtain ⟨gw, hgw, hl⟩ := hli.1 hl
    obtain ⟨hla, hs, hn, hns⟩ := (attaches_iff hk).1 hat
    rw [hhosts, computeEffectiveHostnamesInner_ne_nil] at hne
    exact ⟨hac, gw, hgw, b.listener, hl, hla, hn, hs, hne, hns⟩
  · rintro ⟨hac, gw, hgw, l, hl, hla, hn, hs, hhost, hns⟩
    refine ⟨⟨pr, l, computeEffectiveHostnamesInner [l.hostname] hostnames⟩, ?_, rfl⟩
    refine mem_bindings.2 ⟨hpr, hac, hli.2 ⟨gw, hgw, hl⟩, ?_, rfl, ?_⟩
    · exact (attaches_iff hk).2 ⟨hla, hs, hn, hns⟩
    · exact computeEffectiveHostnamesInner_ne_nil.2 hhost

section Reconciled

variable {store : ConfigStore} {ns : String}

theorem accepted_bindToChecked :
    (bindToChecked ns labels hostnames kind parentNs pref toCheck).ref.accepted = true ↔
      ∃ l ∈ toCheck, httpListenerFits ns labels hostnames parentNs pref l = true := by
  rw [← List.any_eq_true]
  unfold bindToChecked
  split
  next hp =>
    -- a listener of another port does not fit either
    have hno : ¬ toCheck.any (httpListenerFits ns labels hostnames parentNs pref) = true := by
      intro ha
      obtain ⟨l, hl, hf⟩ := List.any_eq_true.1 ha
      simp only [httpListenerFits, Bool.and_eq_true] at hf
      simp only [Bool.and_eq_true, Bool.not_eq_true', List.any_eq_false] at hp
      exact hp.2 l hl hf.1.1.1
    simp [ParentReference.state, hno]
  next =>
    split
    next ha => simp [ParentReference.state, ha]
    next ha =>
      dsimp only
      split <;> simp [ParentReference.state, ha]

theorem accepted_bindToListeners :
    (bindToListeners ns labels hostnames kind parentNs listeners pref).ref.accepted = true ↔
      ∃ l ∈ listeners, (∀ s, pref.sectionName = some s → listeners.find? (·.name == s) = some l) ∧
        httpListenerFits ns labels hostnames parentNs pref l = true := by
  unfold bindToListeners
  cases hs : pref.sectionName with
  | none => simp [accepted_bindToChecked]
  | some section_ =>
    cases hfin : listeners.find? (·.name == section_) with
    | none => simp [ParentReference.state, hfin]
    | some l =>
      have hl := mem_of_find?_eq_some hfin
      simp only [hfin, accepted_bindToChecked, mem_singleton, exists_eq_left,
        Option.some.injEq, forall_eq']
      constructor
      · intro hfit
        exact ⟨l, hl, rfl, hfit⟩
      · rintro ⟨_, -, rfl, hfit⟩
        exact hfit

theorem exists_of_mem_httpParents
    (hp : p ∈ httpParents store ns route) (hk : p.ref.parentKind = .gateway) :
    ∃ pref : ParentReference, p.ref = pref.state .gateway ns p.ref.accepted ∧
      (p.ref.accepted = true ↔ ∃ gw, store.gateways.lookup (pref.key ns) = some gw ∧
        (bindToListeners ns (namespaceLabelsOf store ns) route.hostnames .gateway gw.namespaceName
          gw.listeners pref).ref.accepted = true) := by
  obtain ⟨pref, -, h⟩ := mem_filterMap.1 hp
  obtain ⟨kind, -, rfl⟩ := map_eq_some_iff.1 h
  cases kind with
  | gateway =>
    refine ⟨pref, ?_⟩
    cases hgw : store.gateways.lookup (pref.key ns) with
    | none => exact ⟨rfl, by simp [ParentReference.state]⟩
    | some gw =>
      obtain ⟨accepted, hr⟩ := exists_ref_bindToListeners
      refine ⟨by rw [hr]; rfl, ?_⟩
      simp
  | listenerSet =>
    exfalso
    dsimp only at hk
    split at hk
    next => cases hk
    next ls _ =>
      split at hk
      next => cases hk
      next =>
        obtain ⟨accepted, hr⟩ := exists_ref_bindToListeners
        rw [hr] at hk
        cases hk

theorem accepted_iff_acceptable
    (hp : p ∈ route.parents store ns) (hk : p.ref.parentKind = .gateway) :
    p.ref.accepted = true ↔ Acceptable store ns p.ref route := by
  cases route with
  | http route =>
    obtain ⟨pref, hr, ha⟩ := exists_of_mem_httpParents hp hk
    rw [ha, hr]
    simp only [accepted_bindToListeners, httpListenerFits, portMatches, Bool.and_eq_true,
      Bool.or_eq_true, beq_iff_eq, isNone_iff_eq_none, and_assoc]
    rfl
  | grpc route =>
    obtain ⟨pref, -, h⟩ := mem_filterMap.1 hp
    unfold bindGrpcToParent at h
    dsimp only at h
    split_ifs at h
    cases h
    show _ ↔ ∃ gw, store.gateways.lookup (pref.key ns) = some gw ∧ ∃ l ∈ gw.listeners,
      (pref.sectionName = none ∨ pref.sectionName = some l.name) ∧ speaksHttp l = true ∧
      l.accepted = true
    dsimp only [ParentReference.state]
    cases store.gateways.lookup (pref.key ns) with
    | none => simp
    | some gw =>
      simp only [List.any_eq_true, Bool.and_eq_true, Bool.or_eq_true, beq_iff_eq,
        isNone_iff_eq_none, Option.some.injEq, exists_eq_left']
      exact exists_congr fun l => by tauto

theorem anyParentKnown_of_accepted {route : RouteObject}
    (hp : p ∈ route.parents store ns) (hk : p.ref.parentKind = .gateway)
    (ha : p.ref.accepted = true) : anyParentKnown store (route.parents store ns) = true := by
  refine List.any_eq_true.2 ⟨p, hp, ?_⟩
  rw [parentKnown, hk]
  have ha' := (accepted_iff_acceptable hp hk).1 ha
  cases route <;> obtain ⟨gw, hgw, -⟩ := ha' <;> simp [hgw]

end Reconciled

section

variable {store : ConfigStore} {key : NamespacedName} {pr : ParentRefState} {known : Bool}

theorem exists_compiled_http (hl : store.httpRoutes.lookup key = some hr)
    (hrules : hr.rules ≠ []) (hb : b ∈ httpBindings store hr) :
    ∃ rule ∈ hr.rules, ∃ e ∈ httpRuleEmissions store key hr b rule,
      finishRoute store e ∈ compileRoutes store := by
  obtain ⟨rule, hrule⟩ := exists_mem_of_ne_nil _ hrules
  obtain ⟨e, he⟩ := exists_mem_httpRuleEmissions hb rule
  have hm : (key, hr) ∈ httpRoutesOf store := mem_append_left _ (Table.mem_pairs.2 hl)
  exact ⟨rule, hrule, e, he, List.mem_map_of_mem (mem_emissions.2 (.inl ⟨_, _, hm, _, hb, _, hrule, he⟩))⟩

theorem exists_compiled_grpc (hl : store.grpcRoutes.lookup key = some gr)
    (hrules : gr.rules ≠ []) (hb : b ∈ grpcBindings store gr) :
    ∃ rule ∈ gr.rules, ∃ e ∈ grpcRuleEmissions store key gr b rule,
      finishRoute store e ∈ compileRoutes store := by
  obtain ⟨rule, hrule⟩ := exists_mem_of_ne_nil _ hrules
  obtain ⟨e, he⟩ := exists_mem_grpcRuleEmissions hb rule
  exact ⟨rule, hrule, e, he,
    List.mem_map_of_mem (mem_emissions.2 (.inr ⟨_, _, Table.mem_pairs.2 hl, _, hb, _, hrule, he⟩))⟩

theorem emitsThrough_iff {bindings : ρ → List β} {Emits : ρ → β → Prop} {P : β → Prop}
    (hs : stored = if known then some r else none)
    (he : stored = some r → ∀ b ∈ bindings r, Emits r b) :
    (∃ r', stored = some r' ∧ ∃ b ∈ bindings r', P b ∧ Emits r' b) ↔
      known = true ∧ ∃ b ∈ bindings r, P b := by
  constructor
  · rintro ⟨r', hstore, b, hb, hpr, -⟩
    obtain ⟨hk, heq⟩ := ite_none_right_eq_some.1 (hs.symm.trans hstore)
    cases heq
    exact ⟨hk, b, hb, hpr⟩
  · rintro ⟨rfl, b, hb, hpr⟩
    exact ⟨r, hs, b, hb, hpr, he hs b hb⟩

end

section

variable (regexBuilds : String → Bool) {store store' : ConfigStore} {route : RouteObject}
  {key : NamespacedName} {p : BoundParent}

theorem emitsThrough_reconciled (hke : route.metadata.key = .ok key)
    (hl : route.metadata.deletionTimestamp = none) (hr : route.HasRules)
    (hs : route.reconcile regexBuilds store = .ok store')
    (hp : p ∈ route.parents store key.namespaceName) (hki : p.ref.parentKind = .gateway) :
    route.EmitsThrough store' key p.ref ↔
      p.ref.accepted = true ∧ Servable store key.namespaceName route.hostnames p.ref := by
  -- an accepted parent is a known one, so the route is stored, not removed
  have hkn := anyParentKnown_of_accepted hp hki
  cases route with
  | http route =>
    simp only [RouteObject.metadata] at hke hl
    simp only [RouteObject.reconcile, reconcileHttpRoute, hke, hl] at hs
    cases hs
    refine (emitsThrough_iff (lookup_storeRoute store _ key _ store.httpRoutes) fun h b hb =>
      exists_compiled_http h (fun h => hr (map_eq_nil_iff.1 h)) hb).trans ?_
    exact (and_congr_right fun _ => exists_binding_iff (List.mem_map_of_mem hp) hki).trans
      (and_iff_right_of_imp fun h => hkn h.1)
  | grpc route =>
    simp only [RouteObject.metadata] at hke hl
    simp only [RouteObject.reconcile, reconcileGrpcRoute, hke, hl] at hs
    cases hs
    refine (emitsThrough_iff (lookup_storeRoute store _ key _ store.grpcRoutes) fun h b hb =>
      exists_compiled_grpc h (fun h => hr (map_eq_nil_iff.1 h)) hb).trans ?_
    exact (and_congr_right fun _ => exists_binding_iff (List.mem_map_of_mem hp) hki).trans
      (and_iff_right_of_imp fun h => hkn h.1)

/-- What users are told of a reference is what the data plane serves, exactly if a listener that
satisfies the reconciler comes with one that satisfies the compiler. -/
theorem accepted_iff_programmed (hkey : route.metadata.key = .ok key)
    (hlive : route.metadata.deletionTimestamp = none) (hrules : route.HasRules)
    (hstore : route.reconcile regexBuilds store = .ok store')
    (hp : p ∈ route.parents store key.namespaceName) (hkind : p.ref.parentKind = .gateway) :
    (p.ref.accepted = true ↔ route.EmitsThrough store' key p.ref) ↔
      (Acceptable store key.namespaceName p.ref route →
        Servable store key.namespaceName route.hostnames p.ref) := by
  rw [emitsThrough_reconciled regexBuilds hkey hlive hrules hstore hp hkind,
    accepted_iff_acceptable hp hkind]
  tauto

end

def sameNamespaceStore : ConfigStore :=
  { gateways := (∅ : Table _ _).insert ⟨"infra", "gw"⟩
      { sharedGateway with
        listeners := [{ name := "http", port := 80, protocol := "HTTP",
                        allowedRoutes := ⟨"Same", none⟩ }] } }

def infraParent : BoundParent :=
  ⟨{ gatewayNamespace := "infra", gatewayName := "gw" }, true, none⟩

def consoleRoute : HTTPRoute :=
  { metadata := { name := some "console", namespaceName := some "infra" }
    parentRefs := [{ name := "gw" }]
    rules := [{}] }

def infraRoute : RouteObject := .http consoleRoute

def visitorRoute : RouteObject :=
  .grpc
    { metadata := { name := some "visits", namespaceName := some "shop" }
      parentRefs := [{ namespaceName := some "infra", name := "gw" }]
      rules := [{}] }

theorem accepted_iff_programmed_infraRoute :
    ∃ store', infraRoute.reconcile (fun _ => true) sameNamespaceStore = .ok store' ∧
      (infraParent.ref.accepted = true ↔
        infraRoute.EmitsThrough store' ⟨"infra", "console"⟩ infraParent.ref) := by
  have hr : infraRoute.HasRules := cons_ne_nil _ _
  refine ⟨_, rfl, (accepted_iff_programmed _ rfl rfl hr rfl (by decide) rfl).2 fun _ => ?_⟩
  exact ⟨_, rfl, _, mem_singleton_self _, rfl, ⟨.inl rfl, .inl rfl⟩, rfl, rfl, rfl⟩

/-- The route of another namespace is marked accepted and not compiled. -/
theorem visitorRoute_accepted_not_programmed :
    ¬ ∀ (regexBuilds : String → Bool) (store store' : ConfigStore) (route : RouteObject)
      (key : NamespacedName) (p : BoundParent), route.metadata.key = .ok key →
      route.metadata.deletionTimestamp = none → route.HasRules →
      route.reconcile regexBuilds store = .ok store' →
      p ∈ route.parents store key.namespaceName → p.ref.parentKind = .gateway →
      (p.ref.accepted = true ↔ route.EmitsThrough store' key p.ref) := by
  intro h
  have hr : visitorRoute.HasRules := cons_ne_nil _ _
  have he := (h (fun _ => true) sameNamespaceStore _ visitorRoute _ infraParent rfl rfl hr
    rfl (by decide) rfl).1 rfl
  have hs := ((emitsThrough_reconciled (fun _ => true) rfl rfl hr rfl (by decide) rfl).1 he).2
  obtain ⟨gw, hgw, l, hl, -, -, -, -, hns⟩ := hs
  cases hgw
  cases mem_singleton.1 hl
  revert hns
  decide

end Portus

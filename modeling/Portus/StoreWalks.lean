import Portus.Compiler.Orders
import Portus.RouteAttachment

/-!
# Walks over the stored routes

The compiler walks the HTTPRoutes, then the AIRoutes, then the GRPCRoutes, each kind in the
order of its map (`storedRoutes`). From the front it matters which route comes first among
those with a rule tied for a request, from the back which route is the last to name a
Service. `exists_walk` says which pairs of routes can be these two, and `exists_turned` that any
two choices for a route are taken in two walks that agree on the other routes.
-/

namespace Portus

open Lib Proto Compiler DataPlane List Option Table Nat

variable (store : ConfigStore)

namespace ListenedRoute

def kind : ListenedRoute → ℕ
  | http _ => 0
  | ai _ => 1
  | grpc _ => 2

def backendRefs : ListenedRoute → List BackendRefState
  | http hr => hr.rules.flatMap (·.backendRefs)
  | ai ar => (aiRouteAsHttpRoute store ar).rules.flatMap (·.backendRefs)
  | grpc _ => []

def namespaceBehind (service : String × UInt16) (route : ListenedRoute) : Option String :=
  ((route.backendRefs store).reverse.find? fun b => (b.name, b.port) = service).map
    (·.namespaceName)

end ListenedRoute

def storedRoutes : List (NamespacedName × ListenedRoute) :=
  store.httpRoutes.pairs.map (fun x => (x.1, .http x.2)) ++
    (store.aiRoutes.pairs.map (fun x => (x.1, .ai x.2)) ++
      store.grpcRoutes.pairs.map (fun x => (x.1, .grpc x.2)))

section

variable {store store' : ConfigStore}

variable {x : NamespacedName × ListenedRoute}

theorem nodup_storedRoutes : (storedRoutes store).Nodup := by
  refine nodup_append.2 ⟨?_, nodup_append.2 ⟨?_, ?_, ?_⟩, ?_⟩
  · exact (nodup_pairs _).map (Function.injective_id.prodMap fun _ _ => ListenedRoute.http.inj)
  · exact (nodup_pairs _).map (Function.injective_id.prodMap fun _ _ => ListenedRoute.ai.inj)
  · exact (nodup_pairs _).map (Function.injective_id.prodMap fun _ _ => ListenedRoute.grpc.inj)
  all_goals
    rintro _ hx _ hy rfl
    obtain ⟨x, -, rfl⟩ := List.mem_map.1 hx
    simp at hy

theorem emissions_eq_flatMap :
    emissions store = (storedRoutes store).flatMap fun x => x.2.emissions store x.1 := by
  simp only [emissions, httpRoutesOf, aiRoutesAsHttpRoutes, storedRoutes,
    flatMap_append, flatMap_map, append_assoc]
  rfl

section

variable (h : Reordered store store')

include h

theorem storedRoutes_perm : (storedRoutes store).Perm (storedRoutes store') :=
  (h.httpRoutes.pairs.map _).append ((h.aiRoutes.pairs.map _).append (h.grpcRoutes.pairs.map _))

theorem emissions_route_reordered
    (route : ListenedRoute) : route.emissions store' key = route.emissions store key := by
  cases route with
  | http hr => exact congrFun (congrFun (httpEmissions_reordered h) key) hr
  | ai ar =>
    unfold ListenedRoute.emissions aiRouteAsHttpRoute
    rw [httpEmissions_reordered h, aiRuleAsHttpRule_reordered h]
  | grpc gr => exact congrFun (congrFun (grpcEmissions_reordered h) key) gr

theorem emissions_perm : (emissions store).Perm (emissions store') := by
  rw [emissions_eq_flatMap, emissions_eq_flatMap]
  simp only [emissions_route_reordered h]
  exact (storedRoutes_perm h).flatMap_right _

theorem namespaceBehind_reordered (route : ListenedRoute) :
    route.namespaceBehind store' service = route.namespaceBehind store service := by
  cases route with
  | http hr => rfl
  | ai ar =>
    unfold ListenedRoute.namespaceBehind ListenedRoute.backendRefs aiRouteAsHttpRoute
    rw [aiRuleAsHttpRule_reordered h]
  | grpc gr => rfl

end

theorem lookup_backendNsIndex (service : String × UInt16) :
    (backendNsIndex store).lookup service =
      (storedRoutes store).reverse.findSome? (·.2.namespaceBehind store service) := by
  let entry (b : BackendRefState) : (String × UInt16) × String := ((b.name, b.port), b.namespaceName)
  have hl : backendNsIndex store = collect ((storedRoutes store).flatMap fun x =>
      (x.2.backendRefs store).map entry) := by
    have hg : (store.grpcRoutes.pairs.flatMap fun _ =>
        ([] : List ((String × UInt16) × String))) = [] := by simp
    simp only [backendNsIndex, httpRoutesOf, aiRoutesAsHttpRoutes, storedRoutes,
      flatMap_append, flatMap_map, ListenedRoute.backendRefs, aiRouteAsHttpRoute,
      map_flatMap, map_nil, hg, append_nil, entry]
  have hr (route : ListenedRoute) : (collect ((route.backendRefs store).map entry)).lookup service =
        route.namespaceBehind store service := by
    rw [lookup_collect, List.filter_map, getLast?_map, Option.map_map,
      getLast?_eq_head?_reverse, ← filter_reverse, head?_filter]
    rfl
  rw [hl, lookup_collect_flatMap]
  simp only [hr]

theorem backendNs_takenFor (h : Reordered store store') (e : Emission) :
    (takenFor store' e).backendNs = ((storedRoutes store').reverse.find? fun x =>
      (x.2.namespaceBehind store (serviceBehind e)).isSome).bind
        (·.2.namespaceBehind store (serviceBehind e)) := by
  rw [← findSome?_eq_find?]
  refine (lookup_backendNsIndex (serviceBehind e)).trans ?_
  simp only [namespaceBehind_reordered h]

section Search

variable {T W : NamespacedName × ListenedRoute → Bool} {b : NamespacedName × ListenedRoute}
  {A Z : Option (NamespacedName × ListenedRoute)}

/-- A route that may come first among those that pass `T`: no route of an earlier kind passes. -/
def MayBeFirst (store : ConfigStore) (T : NamespacedName × ListenedRoute → Bool)
    (b : NamespacedName × ListenedRoute) : Prop :=
  b ∈ storedRoutes store ∧ T b = true ∧ ∀ x ∈ storedRoutes store, x.2.kind < b.2.kind → T x = false

/-- A route that may come last among those that pass `W`: no route of a later kind passes. -/
def MayBeLast (store : ConfigStore) (W : NamespacedName × ListenedRoute → Bool)
    (z : NamespacedName × ListenedRoute) : Prop :=
  z ∈ storedRoutes store ∧ W z = true ∧ ∀ x ∈ storedRoutes store, z.2.kind < x.2.kind → W x = false

theorem pairwise_storedRoutes (store : ConfigStore) :
    (storedRoutes store).Pairwise fun x y => x.2.kind ≤ y.2.kind := by
  have hk {σ : Type} (l : List (NamespacedName × σ)) (inj : σ → ListenedRoute) (n : ℕ)
      (h : ∀ s, (inj s).kind = n) :
      (l.map fun y => (y.1, inj y.2)).Pairwise fun x y => x.2.kind ≤ y.2.kind := by
    refine pairwise_map.2 (pairwise_of_forall fun x y => ?_)
    rw [h, h]
  refine pairwise_append.2 ⟨hk _ .http 0 fun _ => rfl,
    pairwise_append.2 ⟨hk _ .ai 1 fun _ => rfl, hk _ .grpc 2 fun _ => rfl, ?_⟩, ?_⟩
  · refine List.forall_mem_map.2 fun x _ => List.forall_mem_map.2 fun y _ => ?_
    exact le_succ 1
  · refine List.forall_mem_map.2 fun x _ y _ => ?_
    exact zero_le _

theorem mayBeFirst_of_find? (hr : Reordered store store')
    (h : (storedRoutes store').find? T = some b) : MayBeFirst store T b := by
  have hm := (storedRoutes_perm hr).mem_iff (a := b)
  refine ⟨hm.2 (mem_of_find?_eq_some h), find?_some h, fun x hx hlt => ?_⟩
  have hx' := (storedRoutes_perm hr).mem_iff.1 hx
  by_contra hT
  rcases eq_or_rel_of_find? (pairwise_storedRoutes store') h hx' (by simpa using hT) with rfl | hle
  · omega
  · omega

theorem mayBeLast_of_find? (hr : Reordered store store')
    (h : (storedRoutes store').reverse.find? W = some z) : MayBeLast store W z := by
  have hm := (storedRoutes_perm hr).mem_iff (a := z)
  refine ⟨hm.2 (mem_reverse.1 (mem_of_find?_eq_some h)), find?_some h, fun x hx hlt => ?_⟩
  have hx' := mem_reverse.2 ((storedRoutes_perm hr).mem_iff.1 hx)
  have hs := pairwise_reverse.2 (pairwise_storedRoutes store')
  by_contra hW
  rcases eq_or_rel_of_find? hs h hx' (by simpa using hW) with rfl | hle
  · omega
  · omega

/-- The stored routes in any order are those of a reordered store, sorted by kind. -/
theorem exists_storedRoutes {l : List (NamespacedName × ListenedRoute)}
    (h : (storedRoutes store).Perm l) : ∃ s, Reordered store s ∧
      storedRoutes s = [0, 1, 2].flatMap fun k => l.filter (·.2.kind = k) := by
  have hk {σ : Type} (table : Table NamespacedName σ) (inj : σ → ListenedRoute) {k : ℕ}
      (hs : (storedRoutes store).filter (·.2.kind = k) = table.pairs.map fun x => (x.1, inj x.2)) :
      ∃ t : Table NamespacedName σ, table.Reordered t ∧
        t.pairs.map (fun x => (x.1, inj x.2)) = l.filter (·.2.kind = k) :=
    exists_reordered_map (hs ▸ h.filter _)
  obtain ⟨H, hH, hhttp⟩ := @hk _ store.httpRoutes .http 0 (by
    simp [storedRoutes, List.filter_map, Function.comp_def, ListenedRoute.kind])
  obtain ⟨A, hA, hai⟩ := @hk _ store.aiRoutes .ai 1 (by
    simp [storedRoutes, List.filter_map, Function.comp_def, ListenedRoute.kind])
  obtain ⟨G, hG, hgrpc⟩ := @hk _ store.grpcRoutes .grpc 2 (by
    simp [storedRoutes, List.filter_map, Function.comp_def, ListenedRoute.kind])
  refine ⟨{ store with httpRoutes := H, aiRoutes := A, grpcRoutes := G },
    { Reordered.refl store with httpRoutes := hH, aiRoutes := hA, grpcRoutes := hG }, ?_⟩
  simp [storedRoutes, hhttp, hai, hgrpc]

theorem exists_kinds (route : ListenedRoute) : ∃ before after,
    [0, 1, 2] = before ++ route.kind :: after ∧ (∀ k ∈ before, k < route.kind) ∧
      ∀ k ∈ after, route.kind < k := by
  cases route with
  | http hr => exact ⟨[], [1, 2], by simp [ListenedRoute.kind]⟩
  | ai ar => exact ⟨[0], [2], by simp [ListenedRoute.kind]⟩
  | grpc gr => exact ⟨[0, 1], [], by simp [ListenedRoute.kind]⟩

/-- A route that may come first and one that may come last are so in one walk, unless they are the
same and another route passes both tests. -/
theorem exists_walk (hfirst : ∀ a ∈ A, MayBeFirst store T a) (hlast : ∀ z ∈ Z, MayBeLast store W z)
    (h : ∀ a ∈ A, a ∈ Z → ∀ x ∈ storedRoutes store, x ≠ a → T x = true → W x = false) :
    ∃ s, Reordered store s ∧ (∀ a ∈ A, (storedRoutes s).find? T = some a) ∧
      ∀ z ∈ Z, (storedRoutes s).reverse.find? W = some z := by
  obtain ⟨l, hl, hfind, hfind'⟩ := exists_perm_search
    (fun a ha => ⟨(hfirst a ha).1, (hfirst a ha).2.1⟩)
    (fun z hz => ⟨(hlast z hz).1, (hlast z hz).2.1⟩) h
  obtain ⟨s, hs, hw⟩ := exists_storedRoutes hl
  refine ⟨s, hs, fun a ha => ?_, fun z hz => ?_⟩
  · obtain ⟨before, after, hk, hlt, -⟩ := exists_kinds a.2
    rw [hw, hk]
    exact find?_flatMap_filter (·.2.kind) (hfind a ha) fun x hx hb =>
      (hfirst a ha).2.2 x (hl.mem_iff.2 hx) (hlt _ hb)
  · obtain ⟨before, after, hk, -, hlt⟩ := exists_kinds z.2
    rw [hw, hk, reverse_flatMap, reverse_append, reverse_cons, append_assoc, singleton_append]
    simp only [Function.comp_def, ← filter_reverse]
    exact find?_flatMap_filter (·.2.kind) (hfind' z hz) fun x hx hb =>
      (hlast z hz).2.2 x (hl.mem_iff.2 (mem_reverse.1 hx)) (hlt _ (mem_reverse.1 hb))

/-- While the route of `A` comes first, a Service is looked up behind a route that may be the last
to name it. -/
theorem exists_order_behind {service : String × UInt16} (ns : Option String)
    (hfirst : ∀ a ∈ A, MayBeFirst store T a)
    (hnone : ns = none → ∀ x ∈ storedRoutes store, x.2.namespaceBehind store service = none)
    (hsome : ∀ n ∈ ns, ∃ z, MayBeLast store (fun x => (x.2.namespaceBehind store service).isSome) z ∧
      z.2.namespaceBehind store service = some n ∧ ∀ a ∈ A, z = a → ∀ x ∈ storedRoutes store,
        x ≠ a → T x = true → x.2.namespaceBehind store service = none) :
    ∃ s, Reordered store s ∧ (∀ a ∈ A, (storedRoutes s).find? T = some a) ∧
      ((storedRoutes s).reverse.find? fun x => (x.2.namespaceBehind store service).isSome).bind
        (·.2.namespaceBehind store service) = ns := by
  cases ns with
  | none =>
    obtain ⟨s, hs, hf, -⟩ := exists_walk (Z := none) (W := fun _ => false) hfirst (by simp) (by simp)
    refine ⟨s, hs, hf, ?_⟩
    rw [find?_eq_none.2 fun x hx => ?_]
    · rfl
    · simp [hnone rfl x ((storedRoutes_perm hs).mem_iff.2 (mem_reverse.1 hx))]
  | some n =>
    obtain ⟨z, hz, hzn, hza⟩ := hsome n rfl
    obtain ⟨s, hs, hf, hl⟩ := exists_walk (Z := some z) hfirst (fun _ hm => mem_some.1 hm ▸ hz) (by
      rintro a ha ⟨⟩ x hx hne hT
      rw [hza z ha rfl x hx hne hT]
      rfl)
    exact ⟨s, hs, hf, by rw [hl z rfl, bind_some, hzn]⟩

end Search

/-- Two choices that may be taken for a route are taken in two orders that differ in nothing else,
the routes walked as one likes. -/
theorem exists_turned {c : Bool → Choice} {s : Bool → ConfigStore} {source : RouteSource}
    {service : String × UInt16} (h : ∀ i, MayTake store source (c i))
    (hs : ∀ i, Reordered store (s i)) (hl : ∀ i, ((storedRoutes (s i)).reverse.find? fun x =>
      (x.2.namespaceBehind store service).isSome).bind (·.2.namespaceBehind store service) =
        (c i).backendNs) :
    ∃ stores : Bool → ConfigStore, (∀ i, Reordered store (stores i)) ∧
      (∀ i, storedRoutes (stores i) = storedRoutes (s i)) ∧
      (∀ i e, serviceBehind e = service → (takenFor (stores i) e).backendNs = (c i).backendNs) ∧
      (∀ i e, e.source = source → serviceBehind e = service → takenFor (stores i) e = c i) ∧
      ∀ e, Turned (c false) (c true) (takenFor (stores false) e) (takenFor (stores true) e) := by
  obtain ⟨t1, h1, e1, turn1⟩ := exists_turn_selectPolicy fun i => (h i).rateLimit
  obtain ⟨t2, h2, e2, turn2⟩ := exists_turn_selectPolicy fun i => (h i).circuitBreaker
  obtain ⟨t3, h3, e3, turn3⟩ := exists_turn_selectPolicy fun i => (h i).connection
  obtain ⟨t4, h4, e4, turn4⟩ := exists_turn_selectPolicy fun i => (h i).basicAuth
  obtain ⟨t5, h5, e5, turn5⟩ := exists_turn_selectPolicy fun i => (h i).apiKeyAuth
  obtain ⟨t6, h6, e6, turn6⟩ := exists_turn_selectPolicy fun i => (h i).jwtAuth
  obtain ⟨t7, h7, e7, turn7⟩ := exists_turn_selectPolicy fun i => (h i).extAuth
  obtain ⟨t8, h8, e8, turn8⟩ := exists_turn_selectPolicy fun i => (h i).retry
  obtain ⟨t9, h9, e9, turn9⟩ := exists_turn_selectPolicy fun i => (h i).ipAllowlist
  obtain ⟨t10, h10, e10, turn10⟩ := exists_turn_selectPolicy fun i => (h i).bodySizeLimit
  obtain ⟨t11, h11, e11, turn11⟩ := exists_turn_selectPolicy fun i => (h i).cors
  obtain ⟨t12, h12, e12, turn12⟩ := exists_turn_selectPolicy fun i => (h i).timeout
  obtain ⟨t13, h13, e13, turn13⟩ := exists_turn_budget fun i => (h i).budget
  let stores (i : Bool) : ConfigStore :=
    { s i with
      rateLimitPolicies := t1 i, circuitBreakerPolicies := t2 i, connectionPolicies := t3 i
      basicAuthPolicies := t4 i, apiKeyAuthPolicies := t5 i, jwtAuthPolicies := t6 i
      extAuthPolicies := t7 i, retryPolicies := t8 i, ipAllowlistPolicies := t9 i
      requestBodySizeLimitPolicies := t10 i, corsPolicies := t11 i, timeoutPolicies := t12 i
      aiUsagePolicies := t13 i }
  have hr (i : Bool) : Reordered store (stores i) :=
    { hs i with
      rateLimitPolicies := h1 i, circuitBreakerPolicies := h2 i, connectionPolicies := h3 i
      basicAuthPolicies := h4 i, apiKeyAuthPolicies := h5 i, jwtAuthPolicies := h6 i
      extAuthPolicies := h7 i, retryPolicies := h8 i, ipAllowlistPolicies := h9 i
      requestBodySizeLimitPolicies := h10 i, corsPolicies := h11 i, timeoutPolicies := h12 i
      aiUsagePolicies := h13 i }
  have hb (i : Bool) (source' : RouteSource) : (aiBudgets (stores i)).lookup
      (source'.namespaceName, source'.name) = budgetOn (t13 i).pairs.reverse source' :=
    lookup_aiBudgets
  have hn (i : Bool) (e : Emission) (he : serviceBehind e = service) :
      (takenFor (stores i) e).backendNs = (c i).backendNs := by
    rw [backendNs_takenFor (hr i), he]
    exact hl i
  refine ⟨stores, hr, fun _ => rfl, hn, ?_, fun e => ?_⟩
  · rintro i e rfl he
    exact Choice.ext (e1 i) (e2 i) (e3 i) (e4 i) (e5 i) (e6 i) (e7 i) (e8 i) (e9 i) (e10 i)
      (e11 i) (e12 i) ((hb i e.source).trans (e13 i)) (hn i e he)
  · refine ⟨turn1 _, turn2 _, turn3 _, turn4 _, turn5 _, turn6 _, turn7 _, turn8 _, turn9 _,
      turn10 _, turn11 _, turn12 _, ?_⟩
    unfold takenFor
    rw [hb, hb]
    exact turn13 _

/-- What a compile looks up of a Service, seen from the content of the store. -/
theorem behind_takenFor (h : Reordered store store') (e : Emission) :
    (takenFor store' e).backendNs = none ∧ (∀ x ∈ storedRoutes store,
        x.2.namespaceBehind store (serviceBehind e) = none) ∨
      ∃ z ns, (takenFor store' e).backendNs = some ns ∧
        ((storedRoutes store').reverse.find? fun x =>
          (x.2.namespaceBehind store (serviceBehind e)).isSome) = some z ∧
        z.2.namespaceBehind store (serviceBehind e) = some ns := by
  rw [backendNs_takenFor h]
  cases hl : (storedRoutes store').reverse.find? fun x =>
      (x.2.namespaceBehind store (serviceBehind e)).isSome with
  | none =>
    refine .inl ⟨rfl, fun x hx => ?_⟩
    have hx' := mem_reverse.2 ((storedRoutes_perm h).mem_iff.1 hx)
    simpa using find?_eq_none.1 hl x hx'
  | some z =>
    have hz := find?_some hl
    obtain ⟨ns, hns⟩ := isSome_iff_exists.1 hz
    exact .inr ⟨z, ns, hns, rfl, hns⟩

end

end Portus

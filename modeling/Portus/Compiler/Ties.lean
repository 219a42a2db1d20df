import Portus.Compiler.Orders
import Portus.Compiler.Streams
import Portus.Lib.Precedence

/-!
# Policies and routes of equal rank

Where the order of the store decides what is compiled for a Service port or a listener. The
first health check on a Service is taken. Of the BackendTLSPolicies on a Service port the
oldest is taken, and the first one where creation times do not tell (`MayProtect`). Of the
TCP or UDP routes on a listener the oldest is taken, then the first by name; routes of two
namespaces can agree in both (`MayHold`).
-/

namespace Portus.Compiler

open Portus Lib Proto List Option

variable (store : ConfigStore)

def checksHealthOf (key : ServiceKey) (p : PolicyState HealthCheckPolicy) : Bool :=
  p.accepted && p.target.kind == "Service" && p.target.namespaceName == key.namespaceName &&
    p.target.name == key.name

def healthCheckConfig (spec : HealthCheckPolicy) : HealthCheckConfig :=
  ⟨spec.path, spec.intervalSecs, spec.timeoutSecs, spec.healthyThreshold, spec.unhealthyThreshold⟩

theorem healthCheckConfig_injective : Function.Injective healthCheckConfig := by
  rintro ⟨⟩ ⟨⟩ h
  cases h
  rfl

theorem healthCheckOf_reordered {s s' : ConfigStore} {key : ServiceKey} (h : Reordered s s')
    (hs : ∀ p ∈ s.healthCheckPolicies.values, ∀ q ∈ s.healthCheckPolicies.values,
      checksHealthOf key p = true → checksHealthOf key q = true → p.spec = q.spec) :
    healthCheckOf s' key = healthCheckOf s key := by
  refine find?_map_eq_of_perm h.healthCheckPolicies.values fun p hp q hq hpc hqc => ?_
  rw [hs p hp q hq hpc hqc]

theorem exists_turn_health {table : Table NamespacedName (PolicyState HealthCheckPolicy)}
    {key : ServiceKey} {p : PolicyState HealthCheckPolicy} (hp : p ∈ table.values)
    (hq : q ∈ table.values) (hne : p ≠ q) (hpc : checksHealthOf key p = true)
    (hqc : checksHealthOf key q = true) :
    ∃ t1 t2 : Table NamespacedName (PolicyState HealthCheckPolicy), table.Reordered t1 ∧
      table.Reordered t2 ∧ t1.values.find? (checksHealthOf key) = some p ∧
      t2.values.find? (checksHealthOf key) = some q ∧
      ∀ key', Turn (some p) (some q) (t1.values.find? (checksHealthOf key'))
        (t2.values.find? (checksHealthOf key')) := by
  obtain ⟨t1, t2, rest, ht1, ht2, hv, hvalue⟩ := Table.exists_swapped hp hq hne
  refine ⟨t1, t2, ht1, ht2, ?_, ?_, fun key' => ?_⟩
  · rw [hv, find?_cons, hpc]
  · rw [hvalue, find?_cons, hqc]
  · rw [hv, hvalue]
    exact ⟨rfl, find?_swap p q rest⟩

section Oldest

variable {l : List (PolicyState BackendTLSPolicy)} {p : PolicyState BackendTLSPolicy}

def NoneOlder (l : List (PolicyState BackendTLSPolicy)) (p : PolicyState BackendTLSPolicy) : Prop :=
  ∀ t ∈ p.creationTimestamp, ∀ q ∈ l, ∀ u ∈ q.creationTimestamp, t ≤ u

theorem pickOldest_of_le (h : ∀ t ∈ c.creationTimestamp, ∀ u ∈ p.creationTimestamp, t ≤ u) :
    pickOldest (some c) p = c := by
  unfold pickOldest
  dsimp only
  split
  next t u ht hu => exact if_neg (not_lt.2 (h t ht u hu))
  next => rfl

theorem le_of_le_pickOldest (hc : c.creationTimestamp = some time)
    (h : ∀ u ∈ (pickOldest (some c) p).creationTimestamp, t ≤ u) :
    t ≤ time ∧ ∀ u ∈ p.creationTimestamp, t ≤ u := by
  unfold pickOldest at h
  dsimp only at h
  rw [hc] at h
  cases hp : p.creationTimestamp with
  | none =>
    rw [hp] at h
    exact ⟨h time hc, by simp⟩
  | some u =>
    simp only [hp, mem_def, Option.some.injEq, forall_eq'] at h ⊢
    split at h
    next hlt =>
      have hu := h u hp
      omega
    next hle =>
      have ht := h time hc
      omega

theorem oldestPolicy_cons (h : NoneOlder l p) : oldestPolicy (p :: l) = some p := by
  have hk : l.foldl (fun current q => some (pickOldest current q)) (some p) = some p := by
    induction l with
    | nil => rfl
    | cons q l ih =>
      have hq : pickOldest (some p) q = p := pickOldest_of_le fun t ht u hu =>
        h t ht q mem_cons_self u hu
      rw [foldl_cons, hq]
      exact ih fun t ht q hq => h t ht q (mem_cons_of_mem _ hq)
  exact hk

theorem noneOlder_foldl
    (h : l.foldl (fun current q => some (pickOldest current q)) (some c) = some p) :
    (c.creationTimestamp = none → p = c) ∧ NoneOlder (c :: l) p := by
  induction l generalizing c with
  | nil =>
    cases h
    refine ⟨fun _ => rfl, fun t ht q hq u hu => ?_⟩
    cases mem_singleton.1 hq
    cases ht.symm.trans hu
    exact le_rfl
  | cons q l ih =>
    obtain ⟨hn, holder⟩ := ih h
    cases hc : c.creationTimestamp with
    | none =>
      have hpi : pickOldest (some c) q = c := pickOldest_of_le (by simp [hc])
      rw [hpi] at hn
      have hp : p = c := hn hc
      refine ⟨fun _ => hp, fun t ht => ?_⟩
      rw [hp, hc] at ht
      cases ht
    | some time =>
      refine ⟨by simp, fun t ht => ?_⟩
      have hb := le_of_le_pickOldest hc (holder t ht _ mem_cons_self)
      have hre : ∀ r ∈ l, ∀ u ∈ r.creationTimestamp, t ≤ u := fun r hr =>
        holder t ht r (mem_cons_of_mem _ hr)
      simpa [hc, hb.1] using ⟨hb.2, hre⟩

theorem noneOlder_oldestPolicy (h : oldestPolicy l = some p) : NoneOlder l p := by
  cases l with
  | nil => cases h
  | cons c l => exact (noneOlder_foldl h).2

end Oldest

section Protect

def protects (key : ServiceKey) (portName : Option String) (p : PolicyState BackendTLSPolicy) :
    Bool :=
  p.accepted && p.target.kind == "Service" && p.target.namespaceName == key.namespaceName &&
    p.target.name == key.name && p.target.sectionName == portName

def tlsGroup (key : ServiceKey) (portName : Option String) : List (PolicyState BackendTLSPolicy) :=
  store.backendTlsPolicies.values.filter (protects key portName)

/-- The section whose policies count for a Service port: that of its name, if it has some. -/
def tlsSection (key : ServiceKey) : Option String :=
  (store.servicePortNames.lookup key).filter fun name => !(tlsGroup store key (some name)).isEmpty

/-- A policy that may be taken for a Service port: one of those that count, and none of them is
known to be older. -/
def MayProtect (key : ServiceKey) (p : PolicyState BackendTLSPolicy) : Prop :=
  p ∈ tlsGroup store key (tlsSection store key) ∧
    NoneOlder (tlsGroup store key (tlsSection store key)) p

theorem backendTlsPolicyOf_eq :
    backendTlsPolicyOf store key = oldestPolicy (tlsGroup store key (tlsSection store key)) := by
  have hg (portName : Option String) : (backendTlsCandidates store key).filter
      (fun p => p.target.sectionName == portName) = tlsGroup store key portName := by
    unfold backendTlsCandidates tlsGroup protects
    rw [List.filter_filter]
    exact filter_congr fun p _ => Bool.and_comm _ _
  have hw : (backendTlsCandidates store key).filter (fun p => p.target.sectionName.isNone) =
      tlsGroup store key none := by
    rw [← hg none]
    refine filter_congr fun p _ => ?_
    cases p.target.sectionName <;> rfl
  unfold backendTlsPolicyOf tlsSection
  dsimp only
  rw [hw]
  cases store.servicePortNames.lookup key with
  | none =>
    have hno : (backendTlsCandidates store key).filter (fun p =>
        p.target.sectionName.isSome && p.target.sectionName == none) = [] := by
      refine filter_eq_nil_iff.2 fun p _ => ?_
      cases p.target.sectionName <;> simp
    rw [hno]
    rfl
  | some name =>
    have hna : (backendTlsCandidates store key).filter (fun p =>
        p.target.sectionName.isSome && p.target.sectionName == some name) =
          tlsGroup store key (some name) := by
      rw [← hg (some name)]
      refine filter_congr fun p _ => ?_
      cases p.target.sectionName <;> simp
    rw [hna]
    cases he : tlsGroup store key (some name) with
    | nil => simp [Option.filter, he, oldestPolicy]
    | cons p l =>
      have hs : (oldestPolicy (p :: l)).isSome = true :=
        oldestPolicy_isSome mem_cons_self
      rw [or_of_isSome hs]
      simp [Option.filter, he]

variable {s s' : ConfigStore} {key : ServiceKey}

section

variable (h : Reordered s s')

include h

theorem tlsGroup_reordered (key : ServiceKey) (portName : Option String) :
    (tlsGroup s key portName).Perm (tlsGroup s' key portName) :=
  h.backendTlsPolicies.values.filter _

theorem tlsSection_reordered : tlsSection s' key = tlsSection s key := by
  unfold tlsSection
  simp only [h.servicePortNames.lookup, (tlsGroup_reordered h key _).isEmpty_eq]

theorem mayProtect_backendTlsPolicyOf {p : PolicyState BackendTLSPolicy}
    (hp : backendTlsPolicyOf s' key = some p) : MayProtect s key p := by
  rw [backendTlsPolicyOf_eq, tlsSection_reordered h] at hp
  have hpe := tlsGroup_reordered h key (tlsSection s key)
  refine ⟨hpe.mem_iff.2 (mem_of_oldestPolicy hp), fun t ht q hq => ?_⟩
  exact noneOlder_oldestPolicy hp t ht q (hpe.mem_iff.1 hq)

theorem isSome_backendTlsPolicyOf (key : ServiceKey) :
    (backendTlsPolicyOf s' key).isSome = (backendTlsPolicyOf s key).isSome := by
  have hs (s : ConfigStore) : (backendTlsPolicyOf s key).isSome = true ↔
      ∃ p, p ∈ tlsGroup s key (tlsSection s key) := by
    rw [backendTlsPolicyOf_eq]
    constructor
    · intro hs
      obtain ⟨p, hp⟩ := isSome_iff_exists.1 hs
      exact ⟨p, mem_of_oldestPolicy hp⟩
    · rintro ⟨p, hp⟩
      exact oldestPolicy_isSome hp
  rw [Bool.eq_iff_iff, hs, hs, tlsSection_reordered h]
  simp only [(tlsGroup_reordered h key _).mem_iff]

theorem backendTlsPolicyOf_reordered
    (hsa : ∀ p q, MayProtect s key p → MayProtect s key q → p.spec = q.spec) :
    (backendTlsPolicyOf s' key).map (·.spec) = (backendTlsPolicyOf s key).map (·.spec) := by
  have hso := isSome_backendTlsPolicyOf h key
  cases hp : backendTlsPolicyOf s key with
  | none =>
    rw [hp] at hso
    have hn : backendTlsPolicyOf s' key = none := by simpa using hso
    rw [hn]
  | some p =>
    rw [hp] at hso
    obtain ⟨q, hq⟩ := isSome_iff_exists.1 (hso.trans rfl)
    rw [hq]
    exact congrArg some (hsa q p (mayProtect_backendTlsPolicyOf h hq)
      (mayProtect_backendTlsPolicyOf (.refl s) hp))

end

theorem protects_congr {key : ServiceKey} {p : PolicyState BackendTLSPolicy}
    (h : protects key portName p = true) (h' : protects key' portName' p = true) :
    protects key' portName' = protects key portName := by
  simp only [protects, Bool.and_eq_true, beq_iff_eq] at h h'
  funext q
  unfold protects
  rw [← h.2, ← h'.2, ← h.1.2, ← h'.1.2, ← h.1.1.2, ← h'.1.1.2]

theorem exists_turn_tls {p : PolicyState BackendTLSPolicy} (hp : MayProtect s key p)
    (hq : MayProtect s key q) (hne : p ≠ q) :
    ∃ t1 t2 : Table NamespacedName (PolicyState BackendTLSPolicy),
      s.backendTlsPolicies.Reordered t1 ∧ s.backendTlsPolicies.Reordered t2 ∧
      backendTlsPolicyOf { s with backendTlsPolicies := t1 } key = some p ∧
      backendTlsPolicyOf { s with backendTlsPolicies := t2 } key = some q ∧
      ∀ key', Turn (some p) (some q)
        (backendTlsPolicyOf { s with backendTlsPolicies := t1 } key')
        (backendTlsPolicyOf { s with backendTlsPolicies := t2 } key') := by
  obtain ⟨hpm, hpc⟩ := mem_filter.1 hp.1
  obtain ⟨hqm, hqc⟩ := mem_filter.1 hq.1
  obtain ⟨t1, t2, rest, ht1, ht2, hv, hvalue⟩ := Table.exists_swapped hpm hqm hne
  have h1 : Reordered s { s with backendTlsPolicies := t1 } :=
    { Reordered.refl s with backendTlsPolicies := ht1 }
  have h2 : Reordered s { s with backendTlsPolicies := t2 } :=
    { Reordered.refl s with backendTlsPolicies := ht2 }
  have hof {t : Table NamespacedName (PolicyState BackendTLSPolicy)}
      {l : List (PolicyState BackendTLSPolicy)}
      (h : Reordered s { s with backendTlsPolicies := t }) (hl : t.values = l) (key' : ServiceKey) :
      backendTlsPolicyOf { s with backendTlsPolicies := t } key' =
        oldestPolicy (l.filter (protects key' (tlsSection s key'))) := by
    rw [backendTlsPolicyOf_eq, tlsSection_reordered h, tlsGroup, hl]
  have hf {t : Table NamespacedName (PolicyState BackendTLSPolicy)}
      {x : PolicyState BackendTLSPolicy} {l : List (PolicyState BackendTLSPolicy)}
      (h : Reordered s { s with backendTlsPolicies := t }) (hl : t.values = x :: l)
      (hx : MayProtect s key x) :
      oldestPolicy ((x :: l).filter (protects key (tlsSection s key))) = some x := by
    have hxc := (mem_filter.1 hx.1).2
    rw [filter_cons_of_pos hxc]
    refine oldestPolicy_cons fun t ht y hy => hx.2 t ht y ?_
    rw [(tlsGroup_reordered h key _).mem_iff, tlsGroup, hl, filter_cons_of_pos hxc]
    exact mem_cons_of_mem _ hy
  refine ⟨t1, t2, ht1, ht2, (hof h1 hv key).trans (hf h1 hv hp),
    (hof h2 hvalue key).trans (hf h2 hvalue hq), fun key' => ?_⟩
  rw [hof h1 hv, hof h2 hvalue]
  refine ⟨rfl, ?_⟩
  -- both count for the other Service port, or none does
  by_cases hp' : protects key' (tlsSection s key') p = true
  · rw [protects_congr hpc hp']
    exact .inr ⟨hf h1 hv hp, hf h2 hvalue hq⟩
  · have hq' : ¬ protects key' (tlsSection s key') q = true := fun hq' =>
      hp' (protects_congr hqc hq' ▸ hpc)
    left
    rw [filter_cons_of_neg hp', filter_cons_of_neg hq', filter_cons_of_neg hq',
      filter_cons_of_neg hp']

end Protect

section Hold

variable (store : ConfigStore) (protocol : String) (routes : List (NamespacedName × L4RouteState))
  (listenerKey : String × String × String)

def candidateOn (x : NamespacedName × L4RouteState) : Option L4Candidate :=
  (l4Candidates store protocol [x]).find? (·.listenerKey == listenerKey)

/-- A route that may hold a listener: no route on it comes before it by age and name. -/
def mayHold (x : NamespacedName × L4RouteState) : Bool :=
  (candidateOn store protocol listenerKey x).any fun c =>
    (l4Candidates store protocol routes).all fun d =>
      !(d.listenerKey == listenerKey) || decide (c.byAge d ≠ .gt)

variable {store protocol routes listenerKey}

theorem l4Candidates_eq_flatMap : l4Candidates store protocol routes =
    routes.flatMap fun x => l4Candidates store protocol [x] := by
  unfold l4Candidates
  simp

theorem byAge_congr (ha : a ∈ l4Candidates store protocol [x])
    (hc : c ∈ l4Candidates store protocol [x]) : a.byAge d = c.byAge d := by
  have hag {b : L4Candidate} (hb : b ∈ l4Candidates store protocol [x]) :
      b.created = x.2.creationTimestamp ∧ b.routeName = x.1.name := by
    obtain ⟨key, tr, pr, gw, l, hx, -, -, -, -, -, -, -, rfl⟩ := mem_l4Candidates.1 hb
    cases mem_singleton.1 hx
    exact ⟨rfl, rfl⟩
  unfold L4Candidate.byAge
  rw [(hag ha).1, (hag ha).2, (hag hc).1, (hag hc).2]

theorem notAfter_iff_byAge (h : a.listenerKey = b.listenerKey) :
    L4Candidate.NotAfter a b ↔ a.byAge b ≠ .gt := by
  rw [L4Candidate.NotAfter, L4Candidate.compare_eq, L4Candidate.byListener_eq_eq.2 h]
  rfl

theorem oldestOn_eq_find? : oldestOn store protocol routes listenerKey =
    (routes.find? (mayHold store protocol routes listenerKey)).bind
      (candidateOn store protocol listenerKey) := by
  let leads (a : L4Candidate) : Bool := (a.listenerKey == listenerKey) &&
    (l4Candidates store protocol routes).all fun b =>
      !(b.listenerKey == listenerKey) || decide (L4Candidate.NotAfter a b)
  have hs' : oldestOn store protocol routes listenerKey =
      (l4Candidates store protocol routes).find? leads :=
    find?_insertionSort (r := L4Candidate.NotAfter) _ _
  -- the candidates of a route lead together or not at all
  have hr (x : NamespacedName × L4RouteState) : (l4Candidates store protocol [x]).find? leads =
      if mayHold store protocol routes listenerKey x then candidateOn store protocol listenerKey x
      else none := by
    have hl : ∀ a ∈ l4Candidates store protocol [x], leads a =
        (a.listenerKey == listenerKey && mayHold store protocol routes listenerKey x) := by
      intro a ha
      by_cases hk : a.listenerKey = listenerKey
      · obtain ⟨c, hc⟩ : ∃ c, candidateOn store protocol listenerKey x = some c := by
          rw [← isSome_iff_exists, candidateOn, find?_isSome]
          exact ⟨a, ha, by simpa using hk⟩
        have hsa (b : L4Candidate) : (!(b.listenerKey == listenerKey) ||
            decide (L4Candidate.NotAfter a b)) =
              (!(b.listenerKey == listenerKey) || decide (c.byAge b ≠ .gt)) := by
          by_cases hb : b.listenerKey = listenerKey
          · have hi : L4Candidate.NotAfter a b ↔ c.byAge b ≠ .gt := by
              rw [notAfter_iff_byAge (hk.trans hb.symm), byAge_congr ha (mem_of_find?_eq_some hc)]
            rw [decide_eq_decide.2 hi]
          · rw [beq_false_of_ne hb]
            rfl
        simp only [leads, mayHold, hc, any_some, hsa]
      · simp only [leads, beq_false_of_ne hk, Bool.false_and]
    rw [← head?_filter, filter_congr hl, head?_filter]
    cases mayHold store protocol routes listenerKey x with
    | false => simp
    | true =>
      simp only [Bool.and_true, if_true]
      rfl
  have hs : (fun x => (if mayHold store protocol routes listenerKey x then
      candidateOn store protocol listenerKey x else none).isSome) =
        mayHold store protocol routes listenerKey := by
    funext x
    cases hx : mayHold store protocol routes listenerKey x with
    | false => rfl
    | true =>
      unfold mayHold at hx
      cases hc : candidateOn store protocol listenerKey x with
      | none => simp [hc] at hx
      | some c => rfl
  rw [hs', l4Candidates_eq_flatMap, find?_flatMap]
  simp only [hr]
  rw [findSome?_eq_find?, hs]
  cases hf : routes.find? (mayHold store protocol routes listenerKey) with
  | none => rfl
  | some x => rw [bind_some, bind_some, if_pos (find?_some hf)]

def entryOn (store : ConfigStore) (protocol : String)
    (routes : List (NamespacedName × L4RouteState)) (listenerKey : String × String × String) :
    Option L4ProxyRoute :=
  (oldestOn store protocol routes listenerKey).bind (·.entry)

theorem listenerKey_of_entry {c : L4Candidate} (h : c.entry = some t) :
    (t.gatewayNamespace, t.gatewayName, t.listenerName) = c.listenerKey := by
  obtain ⟨first, -, rfl⟩ := map_eq_some_iff.1 h
  rfl

theorem listenerKey_of_entryOn (h : entryOn store protocol routes listenerKey = some t) :
    (t.gatewayNamespace, t.gatewayName, t.listenerName) = listenerKey := by
  obtain ⟨c, hc, ht⟩ := bind_eq_some_iff.1 h
  rw [listenerKey_of_entry ht, (oldestOn_eq_some hc).2.1]

theorem mem_compileL4Routes : t ∈ compileL4Routes store protocol routes ↔
    entryOn store protocol routes (t.gatewayNamespace, t.gatewayName, t.listenerName) = some t := by
  unfold compileL4Routes entryOn
  simp only [mem_filterMap, mem_l4Programmed, bind_eq_some_iff]
  constructor
  · rintro ⟨c, hc, ht⟩
    rw [listenerKey_of_entry ht]
    exact ⟨c, hc, ht⟩
  · rintro ⟨c, hc, ht⟩
    rw [listenerKey_of_entry ht] at hc
    exact ⟨c, hc, ht⟩

theorem nodup_compileL4Routes : (compileL4Routes store protocol routes).Nodup := by
  refine pairwise_filterMap.2 ((pairwise_dedupByListener
    (pairwise_sorted store protocol routes)).imp fun hne t ht t' ht' => ?_)
  rintro rfl
  exact hne ((listenerKey_of_entry ht).symm.trans (listenerKey_of_entry ht'))

theorem compileL4Routes_perm :
    (compileL4Routes store protocol routes).Perm (compileL4Routes store' protocol routes') ↔
      entryOn store protocol routes = entryOn store' protocol routes' := by
  rw [perm_ext_iff_of_nodup nodup_compileL4Routes nodup_compileL4Routes]
  simp only [mem_compileL4Routes]
  constructor
  · intro h
    funext lk
    refine Option.ext fun t => ⟨fun ht => ?_, fun ht => ?_⟩
    · have hk := listenerKey_of_entryOn ht
      rw [← hk]
      exact (h t).1 (hk ▸ ht)
    · have hk := listenerKey_of_entryOn ht
      rw [← hk]
      exact (h t).2 (hk ▸ ht)
  · intro h t
    rw [h]

theorem entryOn_reordered {s s' : ConfigStore} (h : Reordered s s') : entryOn s' = entryOn s := by
  unfold entryOn oldestOn l4Candidates
  simp only [h.gateways.lookup]

theorem mayHold_perm (h : routes.Perm routes') :
    mayHold store protocol routes' = mayHold store protocol routes := by
  have hc : (l4Candidates store protocol routes).Perm (l4Candidates store protocol routes') := by
    exact h.flatMap_right _
  unfold mayHold
  simp only [hc.all_eq]

theorem entryOn_perm (h : routes.Perm routes')
    (hs : ∀ lk, ∀ x ∈ routes, ∀ y ∈ routes, mayHold store protocol routes lk x = true →
      mayHold store protocol routes lk y = true →
      (candidateOn store protocol lk x).bind (·.entry) =
        (candidateOn store protocol lk y).bind (·.entry)) :
    entryOn store protocol routes' = entryOn store protocol routes := by
  have he (rs : List (NamespacedName × L4RouteState)) (lk : String × String × String) :
      entryOn store protocol rs lk = ((rs.find? (mayHold store protocol rs lk)).map fun x =>
        (candidateOn store protocol lk x).bind (·.entry)).join := by
    rw [entryOn, oldestOn_eq_find?]
    cases rs.find? (mayHold store protocol rs lk) <;> rfl
  funext lk
  rw [he, he, mayHold_perm h, find?_map_eq_of_perm h (hs lk)]

theorem exists_entryOn {table : Table NamespacedName L4RouteState} (hx : x ∈ table.pairs)
    (hh : mayHold store protocol table.pairs listenerKey x = true) :
    ∃ t : Table NamespacedName L4RouteState, table.Reordered t ∧
      entryOn store protocol t.pairs listenerKey =
        (candidateOn store protocol listenerKey x).bind (·.entry) := by
  obtain ⟨t, -, rest, -, ht, -, hp, -⟩ := Table.exists_fronted hx hx
  refine ⟨t, ht, ?_⟩
  have hf : t.pairs.find? (mayHold store protocol t.pairs listenerKey) = some x := by
    rw [mayHold_perm ht.pairs, hp, find?_cons, hh]
  rw [entryOn, oldestOn_eq_find?, hf, bind_some]

end Hold

end Portus.Compiler

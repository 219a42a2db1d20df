import Portus.Compiler.Config
import Portus.Lib.Run
import Portus.Reconcilers.PolicyKinds

/-!
# Policies that their own reconciler rejected

A run reconciles and deletes policies of one kind while the rest of the store
changes. `History.latest` remembers how the latest reconcile of each policy ended.
`StaysRejected` asks that a stored policy whose latest reconcile rejected it is not
accepted, and not applied by the compiler.
-/

namespace Portus

open Lib Reconcilers Compiler List

section Runs

variable {σ : Type} (K : PolicyKind σ)

structure History where
  store : ConfigStore := {}
  latest : NamespacedName → Option Rejection := fun _ => none

def History.record (h : History) (key : NamespacedName) (store : ConfigStore)
    (rejected : Option Rejection) : History :=
  ⟨store, fun k => if k = key then rejected else h.latest k⟩

def History.step (h : History) : PolicyAction K → History
  | .reconcile order policy =>
    match policy.metadata.key, K.reconcileInner order h.store policy with
    | .ok key, .ok (store, rejected) => h.record key store rejected
    | _, _ => h
  | .delete key => h.record key (K.setTable h.store ((K.table h.store).erase key)) none
  | .environment store => { h with store := K.setTable store (K.table h.store) }

/-- No stored policy that its latest reconcile rejected is accepted or applied. -/
def StaysRejected (Applies : ConfigStore → PolicyState σ → Prop) (h : History) : Prop :=
  ∀ key p, (K.table h.store).lookup key = some p → (h.latest key).isSome →
    p.accepted = false ∧ ¬ Applies h.store p

/-- Every rejected policy on the targets of a valid one has someone to lose to, and a rejected
policy is stored. -/
def RejectedLose (h : History) : PolicyAction K → Prop
  | .reconcile _ policy => ∀ key, policy.metadata.key = .ok key →
    let checked := K.check h.store key.namespaceName policy.metadata.creationTimestamp policy.spec
    if checked.rejected.isNone then
      ∀ p ∈ checked.states, ∀ k q, k ≠ key → (K.table h.store).lookup k = some q →
        (h.latest k).isSome → q.target = p.target → ∃ c, ContendsWith (K.table h.store) key p c ∧
            isPolicyWinner (k, q.creationTimestamp) c = false
    else checked.states ≠ []
  | _ => True

variable {K}

theorem not_accepted_storePolicies {Rej : NamespacedName → Prop} {policies : PolicyTable σ}
    (hi : ∀ k q, k ≠ key → policies.lookup k = some q → Rej k → q.accepted = false)
    (hlose : ∀ p ∈ states, ∀ k q, k ≠ key → policies.lookup k = some q → Rej k →
      q.target = p.target →
        ∃ c, ContendsWith policies key p c ∧ isPolicyWinner (k, q.creationTimestamp) c = false) :
    ∀ k q, k ≠ key → (storePolicies order key true states policies).lookup k = some q → Rej k →
      q.accepted = false := by
  induction states generalizing policies with
  | nil => exact hi
  | cons p states ih =>
    -- targets and timestamps of the other policies are those before the step
    have hs (k : NamespacedName) (hk : k ≠ key) :
        shapeAt (storePolicy order key true policies p) k = shapeAt policies k :=
      shapeAt_storePolicy hk
    have hco (p' : PolicyState σ) (c : Contender)
        (hc : ContendsWith policies key p' c) :
        ContendsWith (storePolicy order key true policies p) key p' c := by
      rcases hc with rfl | ⟨hne, hc⟩
      · exact .inl rfl
      · exact .inr ⟨hne, (hs _ hne).trans hc⟩
    refine ih ?_ ?_
    · intro k q hk hq hr
      by_contra ha
      obtain ⟨q₀, hq₀, ht, hts⟩ := exists_of_lookup_storePolicy hk hq
      rcases accepted_storePolicy hk hq (by simpa using ha) with ⟨-, hq'⟩ | ⟨hta, hw⟩
      · exact ha (hi k q hk hq' hr)
      · obtain ⟨c, hc, hlost⟩ := hlose p mem_cons_self k q₀ hk hq₀ hr (ht.trans hta)
        rw [hts, hw c hc] at hlost
        cases hlost
    · intro p' hp' k q hk hq hr hta
      obtain ⟨q₀, hq₀, ht, hts⟩ := exists_of_lookup_storePolicy hk hq
      obtain ⟨c, hc, hlost⟩ :=
        hlose p' (mem_cons_of_mem _ hp') k q₀ hk hq₀ hr (ht.trans hta)
      exact ⟨c, hco p' c hc, hts ▸ hlost⟩

theorem lookup_storePolicies_rejected (hk : k ≠ key) :
    (storePolicies order key false states policies).lookup k = policies.lookup k := by
  induction states generalizing policies with
  | nil => rfl
  | cons p states ih =>
    rw [storePolicies, foldl_cons, ← storePolicies, ih, lookup_storePolicy_rejected hk]

theorem not_accepted_storePolicies_rejected (hne : states ≠ []) :
    ∀ q, (storePolicies order key false states policies).lookup key = some q →
      q.accepted = false := by
  intro q hq
  obtain ⟨init, last, rfl⟩ := (eq_nil_or_concat' states).resolve_left hne
  rw [storePolicies, foldl_append, foldl_cons, foldl_nil, storePolicy,
    if_neg Bool.false_ne_true, AList.lookup_insert] at hq
  cases hq
  rfl

/-- The part of `StaysRejected` that a run carries. -/
def NotAccepted (h : History) : Prop :=
  ∀ key p, (K.table h.store).lookup key = some p → (h.latest key).isSome → p.accepted = false

theorem notAccepted_step (hi : NotAccepted (K := K) h) (hok : RejectedLose K h a) :
    NotAccepted (K := K) (h.step K a) := by
  cases a with
  | environment store =>
    intro k q hq hr
    rw [History.step, K.table_setTable] at hq
    exact hi k q hq hr
  | delete key =>
    intro k q hq hr
    simp only [History.step, History.record, K.table_setTable] at hq hr
    by_cases hk : k = key
    · simp [hk] at hr
    · rw [AList.lookup_erase_ne hk] at hq
      rw [if_neg hk] at hr
      exact hi k q hq hr
  | reconcile order policy =>
    simp only [History.step]
    split
    next key store rejected hkey hrec =>
      obtain ⟨key', hkey', hr', ht⟩ := PolicyKind.table_reconcileInner hrec
      rw [hkey] at hkey'
      cases hkey'
      have hok := hok key hkey
      dsimp only at hok
      rw [← hr'] at hok
      intro k q hq hr
      simp only [History.record] at hq hr
      rw [ht] at hq
      cases hv : rejected with
      | none =>
        rw [hv] at hq hr hok
        have hk : k ≠ key := by
          rintro rfl
          simp at hr
        rw [if_neg hk] at hr
        exact not_accepted_storePolicies (fun k q _ => hi k q) hok k q hk hq hr
      | some r =>
        rw [hv] at hq hr hok
        by_cases hk : k = key
        · subst hk
          exact not_accepted_storePolicies_rejected hok q hq
        · rw [Option.isNone_some, lookup_storePolicies_rejected hk] at hq
          rw [if_neg hk] at hr
          exact hi k q hq hr
    next => exact hi

end Runs

/-- The policy kinds whose reconciler can reject an object. -/
inductive CheckedKind where
  | ipAllowlist | basicAuth | apiKeyAuth | jwtAuth | extAuth | backendTls

namespace CheckedKind

def State : CheckedKind → Type
  | ipAllowlist => IPAllowlistPolicy
  | basicAuth => BasicAuthPolicy
  | apiKeyAuth => ApiKeyAuthPolicy
  | jwtAuth => JwtAuthPolicy
  | extAuth => ExtAuthPolicy
  | backendTls => BackendTLSPolicy

def policyKind (isIpNet : String → Bool) : (kind : CheckedKind) → PolicyKind kind.State
  | ipAllowlist => ipAllowlistKind isIpNet
  | basicAuth => basicAuthKind
  | apiKeyAuth => apiKeyAuthKind
  | jwtAuth => jwtAuthKind
  | extAuth => extAuthKind
  | backendTls => backendTlsKind

def Applies : (kind : CheckedKind) → ConfigStore → PolicyState kind.State → Prop
  | ipAllowlist, store, p => ∃ source, selectPolicy store.ipAllowlistPolicies source = some p
  | basicAuth, store, p => ∃ source, selectPolicy store.basicAuthPolicies source = some p
  | apiKeyAuth, store, p => ∃ source, selectPolicy store.apiKeyAuthPolicies source = some p
  | jwtAuth, store, p => ∃ source, selectPolicy store.jwtAuthPolicies source = some p
  | extAuth, store, p => ∃ source, selectPolicy store.extAuthPolicies source = some p
  | backendTls, store, p => ∃ key, backendTlsPolicyOf store key = some p

theorem accepted_of_applies {kind : CheckedKind} {p : PolicyState kind.State}
    (h : kind.Applies store p) : p.accepted = true := by
  have hs {σ : Type} {table : PolicyTable σ} {p : PolicyState σ}
      (h : ∃ source, selectPolicy table source = some p) : p.accepted = true := by
    obtain ⟨source, h⟩ := h
    obtain ⟨-, -, ha⟩ := mem_acceptedPolicies.1 (mem_of_selectPolicy h)
    exact ha
  cases kind with
  | backendTls =>
    obtain ⟨key, h⟩ := h
    have hm := (mem_filter.1 (mem_of_backendTlsPolicyOf h).1).2
    simp only [Bool.and_eq_true] at hm
    exact hm.1.1.1
  | ipAllowlist | basicAuth | apiKeyAuth | jwtAuth | extAuth => exact hs h

end CheckedKind

/-- **Rejected policies stay rejected** in every run in which a rejected policy has someone to
lose to whenever a valid policy is stored on its target. -/
theorem staysRejected_run (isIpNet : String → Bool) (kind : CheckedKind)
    (actions : List (PolicyAction (kind.policyKind isIpNet)))
    (meet : StepsMeet (History.step (kind.policyKind isIpNet))
      (RejectedLose (kind.policyKind isIpNet)) {} actions) :
    StaysRejected (kind.policyKind isIpNet) kind.Applies
      (run (History.step (kind.policyKind isIpNet)) {} actions) := by
  have hi : NotAccepted _ :=
    run_invariant (fun _ _ => notAccepted_step) (fun _ _ _ h => by simp at h) meet
  intro key p hp hr
  refine ⟨hi key p hp hr, fun hap => ?_⟩
  have hac := CheckedKind.accepted_of_applies hap
  rw [hi key p hp hr] at hac
  cases hac

def teamPolicy (name : String) (created : Int) (secretNamespace : Option String) :
    PolicyObject BasicAuthPolicySpec where
  metadata := { name := some name, namespaceName := some "team", creationTimestamp := some created }
  spec :=
    { targetRef := { kind := "HTTPRoute", name := "r" }
      secretRef := { name := "users", namespaceName := secretNamespace } }

def teamSecrets : ConfigStore :=
  { secrets := Table.collect [(⟨"team", "users"⟩, ⟨∅⟩)] }

/-- A policy that refers to a Secret of another namespace without a grant, and one that refers to
its own. -/
def borrowedThenOwn (borrowedCreated ownCreated : Int) : List (PolicyAction basicAuthKind) :=
  [.environment teamSecrets,
    .reconcile .insertion (teamPolicy "borrowed" borrowedCreated (some "vault")),
    .reconcile .insertion (teamPolicy "own" ownCreated none)]

/-- When the rejected policy is the younger one, it stays rejected. -/
theorem staysRejected_borrowedThenOwn :
    StaysRejected (CheckedKind.basicAuth.policyKind fun _ => false) CheckedKind.basicAuth.Applies
      (run (History.step (CheckedKind.basicAuth.policyKind fun _ => false)) {}
        (borrowedThenOwn 2 1)) := by
  refine staysRejected_run (fun _ => false) .basicAuth (borrowedThenOwn 2 1)
    ⟨trivial, ?_, ?_, trivial⟩
  · intro key hke
    cases hke
    exact cons_ne_nil _ _
  · intro key hke
    cases hke
    refine Eq.mpr (if_pos rfl) fun p hp k q hk hq hr ht => ?_
    have hm : (k, q) ∈ [((⟨"team", "borrowed"⟩ : NamespacedName),
        (⟨⟨gatewayApiGroup, "HTTPRoute", "team", "r", none⟩, ⟨"vault", "users", "Restricted"⟩,
          some 2, false⟩ : PolicyState BasicAuthPolicy))] := Table.mem_pairs.2 hq
    cases mem_singleton.1 hm
    cases mem_singleton.1 hp
    exact ⟨(⟨"team", "own"⟩, some 1), .inl rfl, by decide⟩

/-- When it is the older one, the reconcile of the other accepts it. -/
theorem borrowedThenOwn_accepts_rejected : ¬ ∀ actions : List (PolicyAction basicAuthKind),
      StaysRejected basicAuthKind CheckedKind.basicAuth.Applies
        (run (History.step basicAuthKind) {} actions) := by
  intro h
  have hs : (basicAuthKind.table (run (History.step basicAuthKind) {}
      (borrowedThenOwn 1 2)).store).lookup ⟨"team", "borrowed"⟩ =
        some ⟨⟨gatewayApiGroup, "HTTPRoute", "team", "r", none⟩, ⟨"vault", "users", "Restricted"⟩,
          some 1, true⟩ := by
    decide
  have hr : ((run (History.step basicAuthKind) {} (borrowedThenOwn 1 2)).latest
      ⟨"team", "borrowed"⟩).isSome := by
    decide
  have hh := h (borrowedThenOwn 1 2) _ _ hs hr
  cases hh.1

end Portus

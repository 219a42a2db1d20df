import Portus.Compiler.Backends
import Portus.Lib.Run
import Portus.Reconcilers.Covered
import Portus.Reconcilers.PolicyKinds

/-!
# Authentication policies fail closed

Runs over the whole store: reconciles and deletions of the four kinds of
authentication policy, and any change of Secrets, Services, grants, routes and
Gateways in between. `FailsClosed` asks that a configuration emitted for a route
with an authentication policy on it carries an authentication or an authorization
block, be it one that lets nobody in.
-/

namespace Portus

open Lib Proto Reconcilers Compiler

inductive AuthKind where
  | basicAuth | apiKeyAuth | jwtAuth | extAuth
deriving DecidableEq

namespace AuthKind

def State : AuthKind → Type
  | basicAuth => BasicAuthPolicy
  | apiKeyAuth => ApiKeyAuthPolicy
  | jwtAuth => JwtAuthPolicy
  | extAuth => ExtAuthPolicy

def policyKind : (kind : AuthKind) → PolicyKind kind.State
  | basicAuth => basicAuthKind
  | apiKeyAuth => apiKeyAuthKind
  | jwtAuth => jwtAuthKind
  | extAuth => extAuthKind

theorem exists_states_check (kind : AuthKind) (store : ConfigStore) (ns : String)
    (created : Option Int) (spec : kind.policyKind.Spec) :
    ∃ p, (kind.policyKind.check store ns created spec).states = [p] := by
  cases kind with
  | basicAuth | apiKeyAuth => exact ⟨_, rfl⟩
  | jwtAuth =>
    show ∃ p, (checkJwtAuth ns created spec).states = [p]
    unfold checkJwtAuth
    split <;> exact ⟨_, rfl⟩
  | extAuth =>
    show ∃ p, (checkExtAuth ns created spec).states = [p]
    unfold checkExtAuth
    split <;> exact ⟨_, rfl⟩

end AuthKind

inductive AuthAction where
  | reconcile (kind : AuthKind) (order : IterOrder Contender)
      (policy : PolicyObject kind.policyKind.Spec)
  | delete (kind : AuthKind) (key : NamespacedName)
  /-- Secrets, Services, grants, routes and Gateways come and go. -/
  | environment (store : ConfigStore)

def authStep (store : ConfigStore) : AuthAction → ConfigStore
  | .reconcile kind order policy =>
    match kind.policyKind.reconcileInner order store policy with
    | .ok (store', _) => store'
    | .error _ => store
  | .delete kind key =>
    kind.policyKind.setTable store ((kind.policyKind.table store).erase key)
  | .environment store' =>
    { store' with
      basicAuthPolicies := store.basicAuthPolicies
      apiKeyAuthPolicies := store.apiKeyAuthPolicies
      jwtAuthPolicies := store.jwtAuthPolicies
      extAuthPolicies := store.extAuthPolicies }

/-- A policy leaves a target, by moving or by being deleted, only when an accepted policy or none
stays there, and is rejected only on a target with another accepted policy. -/
def StaysCovered (store : ConfigStore) : AuthAction → Prop
  | .reconcile kind _ policy => ∀ key, policy.metadata.key = .ok key →
    let checked := kind.policyKind.check store key.namespaceName policy.metadata.creationTimestamp
      policy.spec
    let t := kind.policyKind.table store
    ∀ p ∈ checked.states,
      (∀ old, t.lookup key = some old → old.target ≠ p.target → CoveredWithout t key old.target) ∧
        (checked.rejected.isSome → AcceptedBeside t key p.target)
  | .delete kind key => ∀ old, (kind.policyKind.table store).lookup key = some old →
    CoveredWithout (kind.policyKind.table store) key old.target
  | .environment _ => True

def AllCovered (store : ConfigStore) : Prop :=
  ∀ kind : AuthKind, Covered (kind.policyKind.table store)

theorem allCovered_setTable {kind : AuthKind} {t : PolicyTable kind.State} (ha : AllCovered store)
    (ht : Covered t) : AllCovered (kind.policyKind.setTable store t) := by
  intro kind'
  by_cases h : kind' = kind
  · subst h
    rwa [kind'.policyKind.table_setTable]
  · cases kind <;> cases kind' <;> first | exact absurd rfl h | exact ha _

theorem allCovered_authStep (ha : AllCovered store) (hok : StaysCovered store a) :
    AllCovered (authStep store a) := by
  cases a with
  | environment store' =>
    intro kind
    cases kind with
    | basicAuth => exact ha .basicAuth
    | apiKeyAuth => exact ha .apiKeyAuth
    | jwtAuth => exact ha .jwtAuth
    | extAuth => exact ha .extAuth
  | delete kind key => exact allCovered_setTable ha (covered_erase (ha kind) hok)
  | reconcile kind order policy =>
    cases hk : policy.metadata.key with
    | error e =>
      have hs : authStep store (.reconcile kind order policy) = store := by
        simp only [authStep, PolicyKind.reconcileInner, hk]
        rfl
      rwa [hs]
    | ok key =>
      obtain ⟨p, hp⟩ := kind.exists_states_check store key.namespaceName
        policy.metadata.creationTimestamp policy.spec
      obtain ⟨hl, hr⟩ := hok key hk p (by rw [hp]; exact List.mem_singleton.2 rfl)
      set checked := kind.policyKind.check store key.namespaceName
        policy.metadata.creationTimestamp policy.spec with hc
      have hs : authStep store (.reconcile kind order policy) = kind.policyKind.setTable store
            (storePolicy order key checked.rejected.isNone (kind.policyKind.table store) p) := by
        simp only [authStep, PolicyKind.reconcileInner, hk]
        show kind.policyKind.setTable store (storePolicies order key checked.rejected.isNone
          checked.states (kind.policyKind.table store)) = _
        rw [hp]
        rfl
      rw [hs]
      refine allCovered_setTable ha (covered_storePolicy (ha kind) hl fun h => ?_)
      exact hr (by simpa using h)

theorem selectPolicy_isSome_of_direct (hq : table.lookup k = some q) (ha : q.accepted = true)
    (hd : directMatches q.target source = true) : (selectPolicy table source).isSome := by
  have hf : ((acceptedPolicies table).find? fun p => directMatches p.target source).isSome :=
    List.find?_isSome.2 ⟨q, mem_acceptedPolicies.2 ⟨k, hq, ha⟩, hd⟩
  rw [selectPolicy_eq, Option.isSome_or, hf, Bool.true_or]

/-- A configuration carries an authentication or an authorization block. -/
def Authenticates (rc : RouteConfig) : Prop := rc.auth.isSome ∨ rc.extAuth.isSome

/-- Every configuration emitted for a route with an authentication policy on it authenticates. -/
def FailsClosed (store : ConfigStore) : Prop :=
  ∀ e ∈ emissions store, ∀ (kind : AuthKind) (k : NamespacedName) (p : PolicyState kind.State),
    (kind.policyKind.table store).lookup k = some p → directMatches p.target e.source = true →
      Authenticates (finishRoute store e)

theorem failsClosed_of_allCovered (hal : AllCovered store) : FailsClosed store := by
  intro e he kind k p hp hd
  obtain ⟨k', q, hq, ht, hac⟩ := hal kind k p hp
  rw [← ht] at hd
  have hs := selectPolicy_isSome_of_direct hq hac hd
  have hau : (finishRoute store e).auth = (applyPolicies store e.source e.route).auth :=
    congrArg Prod.fst (authFields_finishRoute store)
  have hex : (finishRoute store e).extAuth = (applyPolicies store e.source e.route).extAuth :=
    congrArg Prod.snd (authFields_finishRoute store)
  rw [Authenticates, hau, hex]
  cases kind with
  | basicAuth =>
    left
    rw [auth_isSome_applyPolicies, show (selectPolicy store.basicAuthPolicies e.source).isSome from hs]
    simp
  | apiKeyAuth =>
    left
    rw [auth_isSome_applyPolicies, show (selectPolicy store.apiKeyAuthPolicies e.source).isSome from hs]
    simp
  | jwtAuth =>
    left
    rw [auth_isSome_applyPolicies, show (selectPolicy store.jwtAuthPolicies e.source).isSome from hs]
    simp
  | extAuth =>
    right
    obtain ⟨x, hx⟩ := Option.isSome_iff_exists.1 hs
    rw [extAuth_applyPolicies]
    show (((selectPolicy store.extAuthPolicies e.source).map (extAuthConfigOf store)).or _).isSome
    rw [show selectPolicy store.extAuthPolicies e.source = some x from hx]
    rfl

/-- **Authentication fails closed** in every run in which no policy is rejected on, or leaves, a
target without an accepted policy staying there. -/
theorem failsClosed_run (actions : List AuthAction)
    (meet : StepsMeet authStep StaysCovered {} actions) : FailsClosed (run authStep {} actions) := by
  refine failsClosed_of_allCovered (run_invariant (fun _ _ => allCovered_authStep) ?_ meet)
  intro kind k p hp
  cases kind <;> cases hp

def protectedRoute (secrets : List (NamespacedName × SecretState)) : ConfigStore :=
  { gateways := Table.collect [(⟨"infra", "gw"⟩, sharedGateway)]
    httpRoutes := Table.collect [(⟨"team", "r"⟩,
      plainRoute "team" "team.example" [{ namespaceName := "team", name := "app", port := 80 }])]
    secrets := Table.collect secrets }

def passwordPolicy : PolicyObject BasicAuthPolicySpec where
  metadata := { name := some "password", namespaceName := some "team", creationTimestamp := some 1 }
  spec :=
    { targetRef := { kind := "HTTPRoute", name := "r" }
      secretRef := { name := "users" } }

/-- A route whose Secret is deleted after the policy was accepted stays protected. -/
theorem failsClosed_passwordPolicy :
    FailsClosed (run authStep {} [.environment (protectedRoute [(⟨"team", "users"⟩, ⟨∅⟩)]),
      .reconcile .basicAuth .insertion passwordPolicy, .environment (protectedRoute [])]) := by
  refine failsClosed_run _ ⟨trivial, ?_, trivial, trivial⟩
  intro key hk
  cases hk
  intro checked t p hp
  refine ⟨fun old ho => ?_, fun hr => ?_⟩
  · cases ho
  · exact absurd hr (by decide)

/-- Without the Secret, it is served to everybody. -/
theorem missing_secret_opens_route : ¬ ∀ actions, FailsClosed (run authStep {} actions) := by
  intro h
  let store := run authStep {} [.environment (protectedRoute []),
    .reconcile .basicAuth .insertion passwordPolicy]
  let stored : PolicyState BasicAuthPolicy :=
    ⟨⟨gatewayApiGroup, "HTTPRoute", "team", "r", none⟩, ⟨"team", "users", "Restricted"⟩, some 1, false⟩
  have hs : store.basicAuthPolicies.lookup ⟨"team", "password"⟩ = some stored := by decide
  have ho : (emissions store).map (fun e => (directMatches stored.target e.source,
      (finishRoute store e).auth.isSome, (finishRoute store e).extAuth.isSome)) =
        [(true, false, false)] := by
    decide
  obtain ⟨e, he, heq⟩ := List.mem_map.1 (ho ▸ List.mem_singleton.2 rfl)
  simp only [Prod.mk.injEq] at heq
  obtain ⟨hd, ha, hex⟩ := heq
  rcases h _ e he .basicAuth _ stored hs hd with h' | h'
  · rw [ha] at h'
    cases h'
  · rw [hex] at h'
    cases h'

end Portus

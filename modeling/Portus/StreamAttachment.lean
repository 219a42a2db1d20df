import Portus.Compiler.Streams
import Portus.Reconcilers.Routes

/-!
# Attachment of TLS, TCP and UDP routes

A route is to be programmed on the listeners that an accepted reference names and whose
namespaces admit it (`Eligible`). The compiler searches on its own: for a TLSRoute it
takes the first listener that any reference means, with the server names of all the
listeners the accepted references select; for a TCPRoute or a UDPRoute it takes the oldest
that selects a listener. Neither search looks at the namespaces again.
-/

namespace Portus

open Lib Proto Compiler Reconcilers Option

variable (store : ConfigStore)

/-- An accepted reference names the Gateway and the listener, which is accepted, speaks the
protocol and takes routes of the namespace. -/
structure Eligible (store : ConfigStore) (protocol ns : String) (parentRefs : List ParentRefState)
    (gwKey : NamespacedName) (l : ListenerState) : Prop where
  accepted : l.accepted = true
  speaks : l.protocol = protocol
  admits : namespaceAllowed l.allowedRoutes ns gwKey.namespaceName
    (namespaceLabelsOf store ns) = true
  named : ∃ pr ∈ parentRefs, pr.accepted = true ∧ pr.parentKind = .gateway ∧
    pr.parentKey = gwKey ∧ Names pr l

def sharedNames (tr : TLSRouteState) (l : ListenerState) : List String :=
  computeEffectiveHostnamesInner [l.hostname] tr.hostnames

/-- The route has an entry for the Gateway and the port and hostname of the listener, with the
names it shares with the listener. -/
def TlsProgrammedOn (tr : TLSRouteState) (gwKey : NamespacedName) (l : ListenerState) : Prop :=
  ∃ entry, compileTlsRoute store tr = some entry ∧
    tlsPlace entry = ⟨gwKey, l.port.toUInt32, l.hostname.getD "", sharedNames tr l⟩

def TlsExact : Prop :=
  ∀ key tr, store.tlsRoutes.lookup key = some tr →
    ∀ gwKey gw, store.gateways.lookup gwKey = some gw → ∀ l ∈ gw.listeners,
      (TlsProgrammedOn store tr gwKey l ↔
        Eligible store "TLS" tr.namespaceName tr.parentRefs gwKey l)

section Streams

variable (store : ConfigStore) (protocol : String) (table : Table NamespacedName L4RouteState)

/-- The route has the entry of a listener of the Gateway. -/
def L4ProgrammedOn (key : NamespacedName) (tr : L4RouteState) (gw : GatewayState)
    (l : ListenerState) : Prop :=
  ∃ c ∈ l4Programmed store protocol table.pairs, c.routeName = key.name ∧ c.route = tr ∧
    ∃ entry, c.entry = some entry ∧ entry.gatewayNamespace = gw.namespaceName ∧
      entry.gatewayName = gw.name ∧ entry.listenerName = l.name ∧
      entry.listenerPort = l.port.toUInt32

def EligibleRoute (gwKey : NamespacedName) (l : ListenerState) (key : NamespacedName)
    (tr : L4RouteState) : Prop :=
  table.lookup key = some tr ∧ Eligible store protocol tr.namespaceName tr.parentRefs gwKey l

def compareAge (key : NamespacedName) (tr : L4RouteState) (key' : NamespacedName)
    (tr' : L4RouteState) : Ordering :=
  L4Candidate.byAge ⟨("", "", ""), 0, tr.creationTimestamp, key.name, tr⟩
    ⟨("", "", ""), 0, tr'.creationTimestamp, key'.name, tr'⟩

/-- On every listener, a route that is programmed is eligible and none that is eligible is older;
and where a route is eligible one is programmed. -/
def L4Exact : Prop :=
  ∀ gwKey gw, store.gateways.lookup gwKey = some gw → ∀ l ∈ gw.listeners,
    (∀ key tr, table.lookup key = some tr → L4ProgrammedOn store protocol table key tr gw l →
      EligibleRoute store protocol table gwKey l key tr ∧
      ∀ key' tr', EligibleRoute store protocol table gwKey l key' tr' →
        compareAge key tr key' tr' ≠ .gt) ∧
    ((∃ key tr, EligibleRoute store protocol table gwKey l key tr) →
      ∃ key tr, table.lookup key = some tr ∧ L4ProgrammedOn store protocol table key tr gw l)

end Streams

/-- TLS, TCP and UDP routes are programmed where they are asked for. -/
def AttachmentExact : Prop :=
  TlsExact store ∧ L4Exact store "TCP" store.tcpRoutes ∧ L4Exact store "UDP" store.udpRoutes

/-- A listener has the place of the one the route means: the Gateway, the port and the
hostname. -/
def AtMeant (tr : TLSRouteState) (gwKey : NamespacedName) (l : ListenerState) : Prop :=
  ∃ pr m, tlsMeant store tr = some (pr, m) ∧ pr.parentKey = gwKey ∧ m.port = l.port ∧
    m.hostname.getD "" = l.hostname.getD ""

/-- The listeners a TLSRoute is eligible on are those at the place of the one it means, where it
also has a backend or a server name and the listeners it selects add no other names. -/
def TlsFindsEligible : Prop :=
  ∀ key tr, store.tlsRoutes.lookup key = some tr →
    ∀ gwKey gw, store.gateways.lookup gwKey = some gw → ∀ l ∈ gw.listeners,
      (Eligible store "TLS" tr.namespaceName tr.parentRefs gwKey l ↔
        AtMeant store tr gwKey l ∧ (tr.backendRefs ≠ [] ∨ tlsServerNames store tr ≠ []) ∧
          tlsServerNames store tr = sharedNames tr l)

theorem toUInt32_inj {b : UInt16} : a.toUInt32 = b.toUInt32 ↔ a = b := by
  refine ⟨fun h => ?_, congrArg _⟩
  have h := congrArg UInt32.toNat h
  exact UInt16.toNat_inj.1 h

theorem tlsProgrammedOn_iff {store : ConfigStore} {gwKey : NamespacedName} {l : ListenerState} :
    TlsProgrammedOn store tr gwKey l ↔
      AtMeant store tr gwKey l ∧ (tr.backendRefs ≠ [] ∨ tlsServerNames store tr ≠ []) ∧
        tlsServerNames store tr = sharedNames tr l := by
  have hpl : TlsProgrammedOn store tr gwKey l ↔ (compileTlsRoute store tr).map tlsPlace =
      some ⟨gwKey, l.port.toUInt32, l.hostname.getD "", sharedNames tr l⟩ :=
    map_eq_some_iff.symm
  rw [hpl, map_tlsPlace_compileTlsRoute]
  by_cases hno : tr.backendRefs = [] ∧ tlsServerNames store tr = []
  · simp [hno]
  · rw [if_neg hno, not_and_or] at *
    simp only [map_eq_some_iff, Prod.exists, TlsPlace.mk.injEq, toUInt32_inj, AtMeant]
    constructor
    · rintro ⟨pr, m, hm, hk, hpo, hh, hna⟩
      exact ⟨⟨pr, m, hm, hk, hpo, hh⟩, hno, hna⟩
    · rintro ⟨⟨pr, m, hm, hk, hpo, hh⟩, -, hna⟩
      exact ⟨pr, m, hm, hk, hpo, hh, hna⟩

theorem tlsExact_iff : TlsExact store ↔ TlsFindsEligible store := by
  simp only [TlsExact, TlsFindsEligible, tlsProgrammedOn_iff, iff_comm]

/-- A candidate has a backend, without which there is no entry, and the port of a listener. -/
def EntryOn (c : L4Candidate) (l : ListenerState) : Prop :=
  c.route.backendRefs ≠ [] ∧ c.listenerPort = l.port.toUInt32

section Streams

variable (store : ConfigStore) (protocol : String) (table : Table NamespacedName L4RouteState)

/-- The oldest route that selects a listener is eligible on it if it has a backend, and has one if
any route is eligible on it. -/
def OldestIsEligible : Prop :=
  ∀ gwKey gw, store.gateways.lookup gwKey = some gw → ∀ l ∈ gw.listeners,
    ∀ c, oldestOn store protocol table.pairs (gw.namespaceName, gw.name, l.name) = some c →
      (EntryOn c l → Eligible store protocol c.route.namespaceName c.route.parentRefs gwKey l) ∧
      ((∃ key tr, EligibleRoute store protocol table gwKey l key tr) → EntryOn c l)

variable {store protocol table} {gwKey : NamespacedName} {gw : GatewayState} {l : ListenerState}

theorem l4ProgrammedOn_iff : L4ProgrammedOn store protocol table key tr gw l ↔
      ∃ c, oldestOn store protocol table.pairs (gw.namespaceName, gw.name, l.name) = some c ∧
        EntryOn c l ∧ c.routeName = key.name ∧ c.route = tr := by
  constructor
  · rintro ⟨c, hc, hn, hr, entry, he, hns, hg, hl, hp⟩
    obtain ⟨first, hf, rfl⟩ := map_eq_some_iff.1 he
    have hk : c.listenerKey = (gw.namespaceName, gw.name, l.name) :=
      Prod.ext hns (Prod.ext hg hl)
    rw [mem_l4Programmed, hk] at hc
    exact ⟨c, hc, ⟨List.ne_nil_of_mem (List.mem_of_head? hf), hp⟩, hn, hr⟩
  · rintro ⟨c, hc, ⟨hb, hp⟩, hn, hr⟩
    obtain ⟨-, hk, -⟩ := oldestOn_eq_some hc
    obtain ⟨first, hf⟩ := isSome_iff_exists.1 (List.isSome_head?.2 hb)
    rw [← hk] at hc
    refine ⟨c, mem_l4Programmed.2 hc, hn, hr, _, by rw [L4Candidate.entry, hf]; rfl, ?_, ?_, ?_, hp⟩
    all_goals rw [hk]

theorem EligibleRoute.mem_l4Candidates (h : EligibleRoute store protocol table gwKey l key tr)
    (hgw : store.gateways.lookup gwKey = some gw) (hl : l ∈ gw.listeners) :
    (⟨(gw.namespaceName, gw.name, l.name), l.port.toUInt32, tr.creationTimestamp, key.name, tr⟩ :
      L4Candidate) ∈ l4Candidates store protocol table.pairs := by
  obtain ⟨pr, hpr, ha, -, rfl, hn⟩ := h.2.named
  exact Compiler.mem_l4Candidates.2 ⟨key, tr, pr, gw, l, Table.mem_pairs.2 h.1, hpr, ha, hgw,
    hl, h.2.speaks, h.2.accepted, hn, rfl⟩

theorem exists_lookup_of_oldestOn (h : oldestOn store protocol table.pairs listenerKey = some c) :
    ∃ key, table.lookup key = some c.route ∧ c.routeName = key.name ∧
      c.created = c.route.creationTimestamp := by
  obtain ⟨key, tr, pr, gw, l, hr, -, -, -, -, -, -, -, rfl⟩ :=
    mem_l4Candidates.1 (oldestOn_eq_some h).1
  exact ⟨key, Table.mem_pairs.1 hr, rfl, rfl⟩

theorem l4Exact_iff : L4Exact store protocol table ↔ OldestIsEligible store protocol table := by
  unfold L4Exact OldestIsEligible
  simp only [l4ProgrammedOn_iff]
  constructor
  · intro h gwKey gw hgw l hl c hc
    obtain ⟨hs, hco⟩ := h gwKey gw hgw l hl
    obtain ⟨key, hlo, hn, -⟩ := exists_lookup_of_oldestOn hc
    refine ⟨fun hen => (hs key c.route hlo ⟨c, hc, hen, hn, rfl⟩).1.2, ?_⟩
    intro hel
    obtain ⟨_, _, -, c', hc', hen, -⟩ := hco hel
    cases hc.symm.trans hc'
    exact hen
  · intro h gwKey gw hgw l hl
    refine ⟨?_, ?_⟩
    · rintro key tr hlo ⟨c, hc, hen, hn, rfl⟩
      refine ⟨⟨hlo, (h gwKey gw hgw l hl c hc).1 hen⟩, ?_⟩
      intro key' tr' hel
      obtain ⟨_, -, -, hcr⟩ := exists_lookup_of_oldestOn hc
      have ha := (oldestOn_eq_some hc).2.2 _ (hel.mem_l4Candidates hgw hl) rfl
      simpa only [compareAge, L4Candidate.byAge, hcr, hn] using ha
    · rintro ⟨key, tr, hel⟩
      cases hc : oldestOn store protocol table.pairs (gw.namespaceName, gw.name, l.name) with
      | none => exact absurd rfl (oldestOn_eq_none.1 hc _ (hel.mem_l4Candidates hgw hl))
      | some c =>
        obtain ⟨key', hlo, hn, -⟩ := exists_lookup_of_oldestOn hc
        have hen := (h gwKey gw hgw l hl c hc).2 ⟨key, tr, hel⟩
        exact ⟨key', c.route, hlo, c, rfl, hen, hn, rfl⟩

end Streams

/-- The routes are programmed where they are asked for exactly in the stores whose searches find
the eligible listeners. -/
theorem attachmentExact_iff : AttachmentExact store ↔ TlsFindsEligible store ∧
      OldestIsEligible store "TCP" store.tcpRoutes ∧
      OldestIsEligible store "UDP" store.udpRoutes := by
  rw [AttachmentExact, tlsExact_iff, l4Exact_iff, l4Exact_iff]

def ownListener : ListenerState :=
  { name := "own", port := 443, protocol := "TLS", allowedRoutes := ⟨"Same", none⟩ }

def tlsGateway : GatewayState :=
  { name := "gw", namespaceName := "infra"
    listeners := [ownListener, { name := "open", port := 8443, protocol := "TLS" }] }

def tlsGatewayStore : ConfigStore :=
  { gateways := (∅ : Table _ _).insert ⟨"infra", "gw"⟩ tlsGateway }

def dbRoute : StreamRoute :=
  { metadata := { name := some "db", namespaceName := some "shop" }
    hostnames := ["db.example.com"]
    parentRefs := [{ namespaceName := some "infra", name := "gw" }]
    rules := [[{ name := "postgres", port := some 5432 }]] }

def dbStore : ConfigStore :=
  { tlsGatewayStore with
    tlsRoutes := (∅ : Table _ _).insert ⟨"shop", "db"⟩
      (tlsRouteState tlsGatewayStore "shop" dbRoute) }

example : reconcileTlsRoute tlsGatewayStore dbRoute = .ok dbStore := rfl

/-- The route is accepted for the open listener and programmed on the other. -/
theorem db_programmed_on_own_listener : ¬ ∀ store, AttachmentExact store := by
  intro h
  have he := (h dbStore).1 ⟨"shop", "db"⟩ _ rfl ⟨"infra", "gw"⟩ tlsGateway rfl ownListener
    (List.mem_cons_self ..)
  have hp : TlsProgrammedOn dbStore (tlsRouteState tlsGatewayStore "shop" dbRoute)
      ⟨"infra", "gw"⟩ ownListener := by
    refine map_eq_some_iff.1 ?_
    decide +kernel
  have ha := (he.1 hp).admits
  revert ha
  decide

end Portus

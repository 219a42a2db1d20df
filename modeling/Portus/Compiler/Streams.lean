import Portus.Compiler.Config

/-!
# TLS, TCP and UDP routes on their listeners

What the compiler programs for the routes below HTTP. A TLSRoute has one entry, for the
listener that the first of its references to mean one means (`tlsMeant`). Of the TCPRoutes
or UDPRoutes that select a listener, the first in the order of age has it (`oldestOn`): the
compiler sorts the candidates by listener and age and keeps the first of each run of
neighbours on one listener, which is the first of all on it.
-/

namespace Portus.Compiler

open Portus Lib Proto Reconcilers List

def tlsMeant (store : ConfigStore) (tr : TLSRouteState) : Option (ParentRefState × ListenerState) :=
  tr.parentRefs.findSome? fun pr => (tlsListenerFor store tr pr).map (pr, ·)

/-- The server names of a TLSRoute: those it shares with any listener its accepted references
select. -/
def tlsServerNames (store : ConfigStore) (tr : TLSRouteState) : List String :=
  computeEffectiveHostnamesInner (collectListenerHostnames store tr.parentRefs ["TLS"]) tr.hostnames

structure TlsPlace where
  gateway : NamespacedName
  port : UInt32
  hostname : String
  serverNames : List String
deriving DecidableEq

def tlsPlace (entry : TlsPassthroughRoute) : TlsPlace :=
  ⟨⟨entry.gatewayNamespace, entry.gatewayName⟩, entry.listenerPort, entry.listenerHostname,
    entry.sniHostnames⟩

theorem map_tlsPlace_compileTlsRoute (store : ConfigStore) (tr : TLSRouteState) :
    (compileTlsRoute store tr).map tlsPlace =
      if tr.backendRefs = [] ∧ tlsServerNames store tr = [] then none
      else (tlsMeant store tr).map fun (pr, l) =>
        ⟨pr.parentKey, l.port.toUInt32, l.hostname.getD "", tlsServerNames store tr⟩ := by
  show ((tlsMeant store tr).bind _).map tlsPlace = _
  cases tlsMeant store tr with
  | none => simp
  | some meant =>
    have he : (tr.backendRefs.head?.isNone && (tlsServerNames store tr).isEmpty) = true ↔
        tr.backendRefs = [] ∧ tlsServerNames store tr = [] := by
      simp
    show (if (tr.backendRefs.head?.isNone && (tlsServerNames store tr).isEmpty) = true then none
      else some _).map tlsPlace = _
    by_cases h : tr.backendRefs = [] ∧ tlsServerNames store tr = []
    · rw [if_pos (he.2 h), if_pos h]
      rfl
    · rw [if_neg (mt he.1 h), if_neg h]
      rfl

namespace L4Candidate

def byListener (a b : L4Candidate) : Ordering :=
  (Ord.compare a.listenerKey.1 b.listenerKey.1).then <|
    (Ord.compare a.listenerKey.2.1 b.listenerKey.2.1).then <|
      Ord.compare a.listenerKey.2.2 b.listenerKey.2.2

/-- Then its age: oldest first, missing timestamps last, then by name. -/
def byAge (a b : L4Candidate) : Ordering :=
  (match a.created, b.created with
    | some x, some y => Ord.compare x y
    | some _, none => .lt
    | none, some _ => .gt
    | none, none => .eq).then <|
    Ord.compare a.routeName b.routeName

theorem compare_eq (a b : L4Candidate) : a.compare b = (a.byListener b).then (a.byAge b) := by
  simp only [byListener, Ordering.then_assoc]
  rfl

instance : Std.TransCmp byListener :=
  inferInstanceAs (Std.TransCmp (compareLex (compareOn fun c : L4Candidate => c.listenerKey.1)
    (compareLex (compareOn fun c : L4Candidate => c.listenerKey.2.1)
      (compareOn fun c : L4Candidate => c.listenerKey.2.2))))

theorem byAge_eq : byAge = compareLex (compareOn fun c : L4Candidate => c.created.isNone)
    (compareLex (compareOn fun c : L4Candidate => c.created)
      (compareOn fun c : L4Candidate => c.routeName)) := by
  funext a b
  simp only [byAge, compareLex, compareOn]
  cases a.created <;> cases b.created <;> rfl

instance : Std.TransCmp byAge := by
  rw [byAge_eq]
  infer_instance

instance : Std.TransCmp L4Candidate.compare := by
  have h : L4Candidate.compare = compareLex byListener byAge := by
    funext a b
    exact compare_eq a b
  rw [h]
  infer_instance

theorem byListener_eq_eq {a : L4Candidate} :
    a.byListener b = .eq ↔ a.listenerKey = b.listenerKey := by
  simp [byListener, Prod.ext_iff]

def NotAfter (a b : L4Candidate) : Prop := a.compare b ≠ .gt

instance (a b : L4Candidate) : Decidable (NotAfter a b) :=
  inferInstanceAs (Decidable (a.compare b ≠ .gt))

theorem notAfter_iff : NotAfter a b ↔ (a.compare b).isLE = true := by
  unfold NotAfter
  cases a.compare b <;> decide

instance : IsTrans L4Candidate NotAfter where
  trans a b c hab hbc := by
    rw [notAfter_iff] at *
    exact Std.TransCmp.isLE_trans hab hbc

instance : Std.Total NotAfter where
  total a b := by
    have hswap : b.compare a = (a.compare b).swap := Std.OrientedCmp.eq_swap
    rw [notAfter_iff, notAfter_iff, hswap]
    cases a.compare b <;> decide

theorem NotAfter.listenerKey_eq {a : L4Candidate} (hab : NotAfter a b) (hbc : NotAfter b c)
    (hac : a.listenerKey = c.listenerKey) : b.listenerKey = c.listenerKey := by
  have hle {x y : L4Candidate} (h : NotAfter x y) : (x.byListener y).isLE = true := by
    rw [notAfter_iff, compare_eq] at h
    cases hxy : x.byListener y with
    | gt => rw [hxy] at h; cases h
    | lt => rfl
    | eq => rfl
  have hca : (c.byListener a).isLE = true := by
    rw [byListener_eq_eq.2 hac.symm]
    rfl
  have hcb : (c.byListener b).isLE = true := Std.TransCmp.isLE_trans hca (hle hab)
  refine byListener_eq_eq.1 ?_
  exact Std.OrientedCmp.isLE_antisymm (hle hbc) hcb

end L4Candidate

theorem dedupByListener_sublist : (dedupByListener l).Sublist l := by
  induction l with
  | nil => exact List.Sublist.slnil
  | cons c cs ih => exact ((dropWhile_sublist _).trans ih).cons_cons c

theorem dropWhile_eq_filter {l : List α} (h : l.Pairwise fun a b => p b = true → p a = true) :
    l.dropWhile p = l.filter (!p ·) := by
  induction l with
  | nil => rfl
  | cons a l ih =>
    obtain ⟨hf, hr⟩ := pairwise_cons.1 h
    cases hp : p a with
    | true => simp [hp, ih hr]
    | false =>
      have ha : ∀ b ∈ a :: l, (!p b) = true := by
        intro b hb
        rcases mem_cons.1 hb with rfl | hb
        · simp [hp]
        · cases hpb : p b with
          | false => rfl
          | true => rw [hf b hb hpb] at hp; cases hp
      rw [dropWhile_cons_of_neg (by simp [hp]), filter_eq_self.2 ha]

theorem dedupByListener_cons (h : (a :: l).Pairwise L4Candidate.NotAfter) :
    dedupByListener (a :: l) =
      a :: (dedupByListener l).filter fun b => !(b.listenerKey == a.listenerKey) := by
  obtain ⟨hf, hr⟩ := pairwise_cons.1 h
  have ht : (dedupByListener l).Pairwise fun x y =>
      (y.listenerKey == a.listenerKey) = true → (x.listenerKey == a.listenerKey) = true := by
    refine (hr.sublist dedupByListener_sublist).imp_of_mem ?_
    intro x y hx hy hxy hy'
    have hax := hf x (dedupByListener_sublist.subset hx)
    simp only [beq_iff_eq] at hy' ⊢
    rw [hax.listenerKey_eq hxy hy'.symm, hy']
  rw [dedupByListener, dropWhile_eq_filter ht]

theorem mem_dedupByListener (h : l.Pairwise L4Candidate.NotAfter) :
    c ∈ dedupByListener l ↔ l.find? (·.listenerKey == c.listenerKey) = some c := by
  induction l with
  | nil => simp [dedupByListener]
  | cons a l ih =>
    rw [dedupByListener_cons h, mem_cons, mem_filter, ih (pairwise_cons.1 h).2]
    by_cases hk : a.listenerKey = c.listenerKey
    · simp [hk, eq_comm]
    · have hca : c ≠ a := fun e => hk (congrArg _ e.symm)
      have hb : (a.listenerKey == c.listenerKey) = false := by simpa using hk
      simp [hb, hca, Ne.symm hk]

theorem pairwise_dedupByListener (h : l.Pairwise L4Candidate.NotAfter) :
    (dedupByListener l).Pairwise fun a b => a.listenerKey ≠ b.listenerKey := by
  induction l with
  | nil => exact .nil
  | cons a l ih =>
    rw [dedupByListener_cons h, pairwise_cons]
    refine ⟨fun b hb heq => ?_, (ih (pairwise_cons.1 h).2).filter _⟩
    simp [heq] at hb

theorem mem_l4Candidates {store : ConfigStore} {protocol : String}
    {routes : List (NamespacedName × L4RouteState)} :
    c ∈ l4Candidates store protocol routes ↔ ∃ key tr pr gw l, (key, tr) ∈ routes ∧
      pr ∈ tr.parentRefs ∧ pr.accepted = true ∧ store.gateways.lookup pr.parentKey = some gw ∧
      l ∈ gw.listeners ∧ l.protocol = protocol ∧ l.accepted = true ∧ Names pr l ∧
      c = ⟨(gw.namespaceName, gw.name, l.name), l.port.toUInt32, tr.creationTimestamp, key.name,
        tr⟩ := by
  unfold l4Candidates
  simp only [mem_flatMap, mem_filter, Prod.exists]
  constructor
  · rintro ⟨key, tr, hr, pr, ⟨hpr, ha⟩, hc⟩
    split at hc
    next => cases hc
    next gw hgw =>
      obtain ⟨l, hl, rfl⟩ := mem_map.1 hc
      simp only [mem_filter, Bool.and_eq_true, Bool.or_eq_true, beq_iff_eq,
        Option.isNone_iff_eq_none] at hl
      obtain ⟨hl, ⟨⟨hp, hla⟩, hs⟩, hpo⟩ := hl
      exact ⟨key, tr, pr, gw, l, hr, hpr, ha, hgw, hl, hp, hla, ⟨hs, hpo⟩, rfl⟩
  · rintro ⟨key, tr, pr, gw, l, hr, hpr, ha, hgw, hl, hp, hla, ⟨hs, hpo⟩, rfl⟩
    refine ⟨key, tr, hr, pr, ⟨hpr, ha⟩, ?_⟩
    simp only [hgw]
    refine mem_map.2 ⟨l, mem_filter.2 ⟨hl, ?_⟩, rfl⟩
    simp only [Bool.and_eq_true, Bool.or_eq_true, beq_iff_eq, Option.isNone_iff_eq_none]
    exact ⟨⟨⟨hp, hla⟩, hs⟩, hpo⟩

section Oldest

variable (store : ConfigStore) (protocol : String) (routes : List (NamespacedName × L4RouteState))

def oldestOn (listenerKey : String × String × String) : Option L4Candidate :=
  ((l4Candidates store protocol routes).insertionSort fun a b => a.compare b ≠ .gt).find?
    (·.listenerKey == listenerKey)

theorem pairwise_sorted : ((l4Candidates store protocol routes).insertionSort
    fun a b => a.compare b ≠ .gt).Pairwise L4Candidate.NotAfter :=
  pairwise_insertionSort L4Candidate.NotAfter _

variable {store protocol routes}

theorem mem_l4Programmed : c ∈ l4Programmed store protocol routes ↔
      oldestOn store protocol routes c.listenerKey = some c :=
  mem_dedupByListener (pairwise_sorted store protocol routes)

theorem oldestOn_eq_none : oldestOn store protocol routes listenerKey = none ↔
      ∀ c ∈ l4Candidates store protocol routes, c.listenerKey ≠ listenerKey := by
  simp [oldestOn, mem_insertionSort]

theorem oldestOn_eq_some {listenerKey : String × String × String}
    (h : oldestOn store protocol routes listenerKey = some c) :
    c ∈ l4Candidates store protocol routes ∧ c.listenerKey = listenerKey ∧
      ∀ d ∈ l4Candidates store protocol routes, d.listenerKey = listenerKey → c.byAge d ≠ .gt := by
  have hm := mem_of_find?_eq_some h
  have hk : c.listenerKey = listenerKey := by simpa using find?_some h
  refine ⟨(mem_insertionSort _).1 hm, hk, ?_⟩
  intro d hd hdk
  have hd := (mem_insertionSort fun a b : L4Candidate => a.compare b ≠ .gt).2 hd
  obtain ⟨before, after, hsp, hb⟩ := (find?_eq_some_iff_append.1 h).2
  have hso := pairwise_sorted store protocol routes
  rw [hsp] at hd hso
  have hcd : c.compare d ≠ .gt := by
    rcases mem_append.1 hd with hd | hd
    · have := hb d hd
      simp [hdk] at this
    · rcases mem_cons.1 hd with rfl | hd
      · have hse : d.compare d = .eq := Std.ReflCmp.compare_self
        rw [hse]
        decide
      · exact (pairwise_cons.1 (pairwise_append.1 hso).2.1).1 d hd
  rwa [L4Candidate.compare_eq, L4Candidate.byListener_eq_eq.2 (hk.trans hdk.symm)] at hcd

end Oldest

end Portus.Compiler

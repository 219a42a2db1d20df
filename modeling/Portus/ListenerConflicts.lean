import Portus.Reconcilers.ListenerSets

/-!
# Conflicts of ListenerSet listeners

A listener of a ListenerSet should be in conflict exactly when a listener that counts
claims its port and hostname, or its port with another protocol (`CountedClash`).

`evaluate_listener_set` collects claims from more than that: from conflicted listeners of
the Gateway, from ListenerSets the Gateway does not accept, and from the earlier listeners
of the set itself. And it keeps one protocol for a port, the last the Gateway has on it,
so that another protocol of the Gateway on the port is forgotten (`recordedProtocol`).
-/

namespace Portus.ListenerConflicts

open Portus Lib Reconcilers Option AList
open List hiding after

/-- What a listener claims. No hostname is the empty one. -/
structure Claim where
  port : UInt16
  hostname : String
  protocol : String

/-- The same port, with the same hostname or another protocol. -/
def Claim.Clash (c d : Claim) : Prop :=
  c.port = d.port ∧ (c.hostname = d.hostname ∨ c.protocol ≠ d.protocol)

instance (c d : Claim) : Decidable (c.Clash d) := inferInstanceAs (Decidable (_ ∧ _))

def claimOf (l : ListenerState) : Claim := ⟨l.port, l.hostname.getD "", l.protocol⟩

def specClaim (l : ListenerSpec) : Claim := ⟨l.port, l.hostname.getD "", l.protocol⟩

section

variable (store : ConfigStore) (ls : ListenerSetInput)

def gatewayListeners : List ListenerState :=
  ((store.gateways.lookup ls.parentKey).map (·.listeners)).getD []

def earlierSiblings : List ListenerSetState :=
  store.listenerSets.values.filter (isEarlierSibling ls)

def siblingListeners : List ListenerState :=
  (earlierSiblings store ls).flatMap fun s => s.listeners.filter (!·.conflicted)

def CountedClash (l : ListenerSpec) : Prop :=
  (∃ g ∈ gatewayListeners store ls, g.conflicted = false ∧ (claimOf g).Clash (specClaim l)) ∨
    ∃ s ∈ earlierSiblings store ls, s.accepted = true ∧
      ∃ c ∈ s.listeners, c.conflicted = false ∧ (claimOf c).Clash (specClaim l)

instance (l : ListenerSpec) : Decidable (CountedClash store ls l) :=
  inferInstanceAs (Decidable (_ ∨ _))

/-- Some listener of the Gateway or of an earlier sibling has the port and hostname. -/
def HostTaken (l : ListenerSpec) : Prop :=
  ∃ c ∈ gatewayListeners store ls ++ siblingListeners store ls,
    c.port = l.port ∧ c.hostname.getD "" = l.hostname.getD ""

/-- The protocol kept for a port: that of the Gateway's last listener on it, or else of the first
listener of an earlier sibling. -/
def recordedProtocol (port : UInt16) : Option String :=
  (((gatewayListeners store ls).filter (·.port = port)).getLast?.map (·.protocol)).or
    (((siblingListeners store ls).filter (·.port = port)).head?.map (·.protocol))

def ProtocolTaken (l : ListenerSpec) : Prop :=
  ∃ p, recordedProtocol store ls l.port = some p ∧ p ≠ l.protocol

/-- An earlier listener of the set that nothing that counts is in the way of. -/
def OwnClash (before : List ListenerSpec) (l : ListenerSpec) : Prop :=
  ∃ m ∈ before, ¬ CountedClash store ls m ∧ (specClaim m).Clash (specClaim l)

/-- The listener's port and host, or its port's protocol, are taken by anyone. -/
def Taken (before : List ListenerSpec) (l : ListenerSpec) : Prop :=
  HostTaken store ls l ∨ ProtocolTaken store ls l ∨ OwnClash store ls before l

/-- What is taken by anyone is taken by a listener that counts, and none of those is forgotten. -/
structure CountedOnly : Prop where
  sound : ∀ before l after, ls.listeners = before ++ l :: after →
    Taken store ls before l → CountedClash store ls l
  unmasked : ∀ before l after, ls.listeners = before ++ l :: after →
    CountedClash store ls l → Taken store ls before l

end

variable {l : ListenerSpec}

theorem conflicted_iff {c : Claims} : c.conflicted l = true ↔
      (l.port, l.hostname.getD "") ∈ c.hostnames ∨
        ∃ p, c.protocols.lookup l.port = some p ∧ p ≠ l.protocol := by
  unfold Claims.conflicted Claims.hostnameConflicted Claims.protocolConflicted
  rw [Bool.or_eq_true, contains_iff_mem]
  refine or_congr Iff.rfl ?_
  cases c.protocols.lookup l.port with
  | none => simp
  | some p => simp

theorem conflicted_afterListener {c : Claims} : (c.afterListener m).conflicted l = true ↔
      c.conflicted l = true ∨ (c.conflicted m = false ∧ (specClaim m).Clash (specClaim l)) := by
  unfold Claims.afterListener
  cases hm : c.conflicted m with
  | true => simp
  | false =>
    have hn : ¬ c.conflicted m = true := by simp [hm]
    rw [conflicted_iff, not_or] at hn
    obtain ⟨-, hpr⟩ := hn
    rw [conflicted_iff, conflicted_iff]
    simp only [Claims.orInsert, Claim.Clash, specClaim]
    by_cases hpo : m.port = l.port
    · -- the port has the protocol of `m` from now on
      have hl : (if (c.protocols.lookup m.port).isSome then c.protocols
          else c.protocols.insert m.port m.protocol).lookup l.port = some m.protocol := by
        rw [← hpo]
        cases ho : c.protocols.lookup m.port with
        | none => simp [lookup_insert]
        | some p =>
          have hp : p = m.protocol := by
            by_contra hne
            exact hpr ⟨p, ho, hne⟩
          simp [ho, hp]
      grind
    · have hl : (if (c.protocols.lookup m.port).isSome then c.protocols
          else c.protocols.insert m.port m.protocol).lookup l.port =
          c.protocols.lookup l.port := by
        split
        · rfl
        · exact lookup_insert_ne (Ne.symm hpo)
      grind

section Fold

variable {listeners : List ListenerState} {c : Claims}

theorem mem_hostnames_foldl
    (ha : ∀ c l, (add c l).hostnames = (l.port, l.hostname.getD "") :: c.hostnames) :
    x ∈ (listeners.foldl add c).hostnames ↔
      x ∈ c.hostnames ∨ ∃ l ∈ listeners, (l.port, l.hostname.getD "") = x := by
  induction listeners generalizing c with
  | nil => simp
  | cons l rest ih =>
    grind

theorem lookup_foldl_insert :
    (listeners.foldl (fun (c : Claims) l => c.insert l.port l.hostname l.protocol)
        c).protocols.lookup port =
      ((listeners.filter (·.port = port)).getLast?.map (·.protocol)).or
        (c.protocols.lookup port) := by
  induction listeners generalizing c with
  | nil => simp
  | cons l rest ih =>
    rw [foldl_cons, ih]
    by_cases hp : l.port = port
    · subst hp
      simp only [Claims.insert, lookup_insert, decide_true, filter_cons_of_pos, getLast?_cons]
      cases (rest.filter (·.port = l.port)).getLast? <;> simp
    · simp [Claims.insert, lookup_insert_ne (Ne.symm hp), hp]

theorem lookup_foldl_orInsert :
    (listeners.foldl (fun (c : Claims) l => c.orInsert l.port l.hostname l.protocol)
        c).protocols.lookup port =
      (c.protocols.lookup port).or ((listeners.filter (·.port = port)).head?.map (·.protocol)) := by
  induction listeners generalizing c with
  | nil => simp
  | cons l rest ih =>
    rw [foldl_cons, ih]
    by_cases hp : l.port = port
    · subst hp
      cases ho : c.protocols.lookup l.port with
      | none => simp [Claims.orInsert, ho, lookup_insert]
      | some p => simp [Claims.orInsert, ho]
    · have hs : (c.orInsert l.port l.hostname l.protocol).protocols.lookup port =
          c.protocols.lookup port := by
        unfold Claims.orInsert
        split
        · rfl
        · exact lookup_insert_ne (Ne.symm hp)
      rw [hs]
      simp [hp]

end Fold

variable {store : ConfigStore} {ls : ListenerSetInput}

theorem conflicted_initialClaims : (initialClaims store ls).conflicted l = true ↔
      HostTaken store ls l ∨ ProtocolTaken store ls l := by
  have hc : initialClaims store ls =
      (siblingListeners store ls).foldl (fun c l => c.orInsert l.port l.hostname l.protocol)
        ((gatewayListeners store ls).foldl
          (fun (c : Claims) l => c.insert l.port l.hostname l.protocol) {}) := rfl
  have hp : (initialClaims store ls).protocols.lookup l.port =
      recordedProtocol store ls l.port := by
    rw [hc, lookup_foldl_orInsert, lookup_foldl_insert, recordedProtocol]
    simp
  have hh : (l.port, l.hostname.getD "") ∈ (initialClaims store ls).hostnames ↔
      HostTaken store ls l := by
    rw [hc, mem_hostnames_foldl fun _ _ => rfl, mem_hostnames_foldl fun _ _ => rfl]
    simp only [HostTaken, not_mem_nil, false_or, mem_append, Prod.mk.injEq, or_and_right, exists_or]
  rw [conflicted_iff, hh, hp]
  rfl

def conflictedAt (store : ConfigStore) (ls : ListenerSetInput) (before : List ListenerSpec)
    (l : ListenerSpec) : Bool :=
  (before.foldl Claims.afterListener (initialClaims store ls)).conflicted l

theorem getElem?_evaluateSetListeners (before : List ListenerSpec) (l : ListenerSpec)
    (after : List ListenerSpec) :
    (evaluateSetListeners store ls attachAllowed claims (before ++ l :: after))[before.length]? =
      some (evaluateSetListener store ls attachAllowed
        (before.foldl Claims.afterListener claims) l) := by
  induction before generalizing claims with
  | nil => rfl
  | cons m before ih =>
    exact ih

theorem conflictedAt_iff_taken (hb : ∀ x m y, before = x ++ m :: y →
      (conflictedAt store ls x m = true ↔ CountedClash store ls m)) :
    conflictedAt store ls before l = true ↔ Taken store ls before l := by
  induction before using reverseRecOn with
  | nil =>
    rw [conflictedAt, foldl_nil, conflicted_initialClaims]
    simp [Taken, OwnClash]
  | append_singleton before m ih =>
    have hm := hb before m [] rfl
    have hr : ∀ x m' y, before = x ++ m' :: y →
        (conflictedAt store ls x m' = true ↔ CountedClash store ls m') := by
      rintro x m' y rfl
      exact hb x m' (y ++ [m]) (by simp)
    have hs : conflictedAt store ls (before ++ [m]) l = true ↔
        conflictedAt store ls before l = true ∨
          (conflictedAt store ls before m = false ∧ (specClaim m).Clash (specClaim l)) := by
      unfold conflictedAt
      rw [foldl_append, foldl_cons, foldl_nil]
      exact conflicted_afterListener
    rw [hs, ih hr, ← Bool.not_eq_true, hm]
    simp only [Taken, OwnClash, mem_append, mem_singleton]
    grind

/-- Every listener of the set is in conflict exactly when one that counts is in its way. -/
def Decided (store : ConfigStore) (ls : ListenerSetInput) : Prop :=
  ∀ before l after, ls.listeners = before ++ l :: after →
    (conflictedAt store ls before l = true ↔ CountedClash store ls l)

theorem decided_iff :
    Decided store ls ↔ CountedOnly store ls := by
  -- a part of a beginning of the listeners is a beginning
  have hp {before after : List ListenerSpec} {l : ListenerSpec}
      (hs : ls.listeners = before ++ l :: after) {x y : List ListenerSpec} {m : ListenerSpec}
      (hx : before = x ++ m :: y) : ls.listeners = x ++ m :: (y ++ l :: after) := by
    rw [hs, hx, append_assoc, cons_append]
  constructor
  · intro h
    have ht {before l after} (hs : ls.listeners = before ++ l :: after) :
        Taken store ls before l ↔ CountedClash store ls l :=
      (conflictedAt_iff_taken (fun x m y hx => h x m _ (hp hs hx))).symm.trans
        (h before l after hs)
    exact ⟨fun _ _ _ hs => (ht hs).1, fun _ _ _ hs => (ht hs).2⟩
  · intro h before l after hs
    -- the earlier ones are decided first
    induction hl : before.length using Nat.strong_induction_on generalizing before l after with
    | _ n ih =>
      have hb : ∀ x m y, before = x ++ m :: y →
          (conflictedAt store ls x m = true ↔ CountedClash store ls m) := by
        intro x m y hx
        refine ih x.length ?_ x m (y ++ l :: after) (hp hs hx) rfl
        rw [← hl, hx]
        simp
      rw [conflictedAt_iff_taken hb]
      exact ⟨h.sound before l after hs, h.unmasked before l after hs⟩

def evaluated (store : ConfigStore) (ls : ListenerSetInput) : ListenerSetState :=
  (evaluateListenerSet store ls ((store.namespaceLabels.lookup ls.key.namespaceName).getD ∅)).1

/-- The store holds the ListenerSets, each as it would be evaluated again. -/
structure AtFixpoint (store : ConfigStore) (sets : List ListenerSetInput) : Prop where
  stored : ∀ ls ∈ sets, store.listenerSets.lookup ls.key = some (evaluated store ls)
  only : ∀ key state, store.listenerSets.lookup key = some state → ∃ ls ∈ sets, ls.key = key

/-- Every stored listener is in conflict exactly when one that counts is in its way. -/
def EffectivePrecedence (store : ConfigStore) (sets : List ListenerSetInput) : Prop :=
  ∀ ls ∈ sets, ∀ state, store.listenerSets.lookup ls.key = some state →
    ∀ before l after c, ls.listeners = before ++ l :: after →
      state.listeners[before.length]? = some c → (c.conflicted = true ↔ CountedClash store ls l)

theorem conflicted_evaluated {c : ListenerState} (hs : ls.listeners = before ++ l :: after)
    (hc : (evaluated store ls).listeners[before.length]? = some c) :
    c.conflicted = conflictedAt store ls before l := by
  unfold evaluated evaluateListenerSet at hc
  rw [getElem?_map, hs, getElem?_evaluateSetListeners, map_some, Option.some.injEq] at hc
  rw [← hc]
  rfl

theorem exists_evaluated (hs : ls.listeners = before ++ l :: after) :
    ∃ c, (evaluated store ls).listeners[before.length]? = some c := by
  unfold evaluated evaluateListenerSet
  rw [getElem?_map, hs, getElem?_evaluateSetListeners]
  exact ⟨_, rfl⟩

/-- At a fixpoint, conflicts are decided by effective precedence exactly when only listeners that
count take anything. -/
theorem effectivePrecedence_iff {store : ConfigStore} {sets : List ListenerSetInput}
    (hfix : AtFixpoint store sets) :
    EffectivePrecedence store sets ↔ ∀ ls ∈ sets, CountedOnly store ls := by
  constructor
  · intro h ls hls
    refine decided_iff.1 fun before l after hsp => ?_
    obtain ⟨c, hc⟩ := exists_evaluated hsp
    rw [← conflicted_evaluated hsp hc]
    exact h ls hls _ (hfix.stored ls hls) before l after c hsp hc
  · intro h ls hls state hst before l after c hsp hc
    obtain rfl : evaluated store ls = state :=
      Option.some.inj ((hfix.stored ls hls).symm.trans hst)
    rw [conflicted_evaluated hsp hc]
    exact decided_iff.2 (h ls hls) before l after hsp

def onPort8080 (namespaceName : String) (created : Int) : ListenerSetInput where
  key := ⟨namespaceName, "extra"⟩
  generation := 1
  created
  parentKey := ⟨"infra", "edge"⟩
  listeners := [{ name := "web", port := 8080, protocol := "HTTP" }]

def older : ListenerSetInput := onPort8080 "tenant" 1

def newer : ListenerSetInput := onPort8080 "infra" 2

/-- The Gateway admits ListenerSets from where `admitsFrom` says. -/
def gatewayOnly (admitsFrom : String) : ConfigStore :=
  { gateways := Table.collect [(⟨"infra", "edge"⟩,
      { name := "edge", namespaceName := "infra", listeners := []
        allowedListenerNamespacesFrom := some admitsFrom })] }

def settled (admitsFrom : String) : ConfigStore :=
  let store := gatewayOnly admitsFrom
  let store := { store with listenerSets := store.listenerSets.insert older.key (evaluated store older) }
  { store with listenerSets := store.listenerSets.insert newer.key (evaluated store newer) }

theorem atFixpoint_settled
    (holder : evaluated (settled admitsFrom) older = evaluated (gatewayOnly admitsFrom) older)
    (hnew : (settled admitsFrom).listenerSets.lookup newer.key =
      some (evaluated (settled admitsFrom) newer)) :
    AtFixpoint (settled admitsFrom) [older, newer] := by
  have hne : older.key ≠ newer.key := by decide
  refine ⟨fun ls hls => ?_, fun key state hs => ?_⟩
  · rcases mem_pair.1 hls with rfl | rfl
    · rw [holder]
      unfold settled
      rw [lookup_insert_ne hne, lookup_insert]
    · exact hnew
  · by_cases hn : key = newer.key
    · exact ⟨newer, by simp, hn.symm⟩
    · by_cases ho : key = older.key
      · exact ⟨older, by simp, ho.symm⟩
      · unfold settled at hs
        rw [lookup_insert_ne hn, lookup_insert_ne ho] at hs
        simp [gatewayOnly] at hs

theorem decided_of_singleton {store : ConfigStore} {ls : ListenerSetInput}
    (hls : ls.listeners = [l]) (h : conflictedAt store ls [] l = true ↔ CountedClash store ls l) :
    Decided store ls := by
  intro before m after hs
  rw [hls] at hs
  cases before with
  | nil =>
    obtain ⟨rfl, -⟩ := cons.inj hs
    exact h
  | cons x before =>
    have := congrArg length hs
    simp at this

/-- A Gateway that admits both: the newer listener gives way to one that counts. -/
theorem bothAdmitted_effective : AtFixpoint (settled "All") [older, newer] ∧
      EffectivePrecedence (settled "All") [older, newer] := by
  have hf : AtFixpoint (settled "All") [older, newer] :=
    atFixpoint_settled (by decide +kernel) (by decide +kernel)
  refine ⟨hf, (effectivePrecedence_iff hf).2 fun ls hls => ?_⟩
  rcases mem_pair.1 hls with rfl | rfl
  all_goals exact decided_iff.1 (decided_of_singleton rfl (by decide +kernel))

/-- The Gateway admits its own namespace only, and still the listener there gives way to the
ListenerSet it does not admit. -/
theorem notAdmitted_conflicts : AtFixpoint (settled "Same") [older, newer] ∧
      ¬ EffectivePrecedence (settled "Same") [older, newer] := by
  have hf : AtFixpoint (settled "Same") [older, newer] :=
    atFixpoint_settled (by decide +kernel) (by decide +kernel)
  refine ⟨hf, fun h => ?_⟩
  have hs : newer.listeners = [] ++ (⟨"web", 8080, "HTTP", none, none, none⟩ :: []) := rfl
  obtain ⟨c, hc⟩ := exists_evaluated hs
  have hi := h newer (by simp) _ (hf.stored newer (by simp)) _ _ _ c hs hc
  rw [conflicted_evaluated hs hc] at hi
  exact absurd (hi.1 (by decide +kernel)) (by decide +kernel)

end Portus.ListenerConflicts

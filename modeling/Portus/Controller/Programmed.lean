import Portus.Store

/-!
# Which Gateways are programmed

`store.rs`: the compile loop records the fingerprint of each Gateway's slice of the
configuration, and data planes report the fingerprint they have applied. A Gateway is
programmed while one of its data planes runs its current slice, or one that was
superseded less than `PROGRAMMED_GRACE` ago. The operations publish an
`Event::Programmed` for each Gateway whose answer they move: they return its key.
-/

namespace Portus.Controller

open Portus Lib Option AList

structure AppliedState where
  gateway : NamespacedName
  fingerprint : UInt64
deriving DecidableEq

structure Programming where
  compiledFingerprint : UInt64
  compiledGatewayFingerprints : Table NamespacedName UInt64
  /-- Earlier fingerprints of a Gateway's slice, with the moment each was superseded. -/
  supersededSlices : Table NamespacedName (List (UInt64 × Nat))
  dataPlaneApplied : Table String AppliedState

def programmedGrace : Nat := 10000

def maxDataPlaneNodes : Nat := 1000

def inGrace (now moment : Nat) : Bool := decide (now - moment < programmedGrace)

namespace Programming

def new : Programming := ⟨0, ∅, ∅, ∅⟩

variable (p : Programming) (now : Nat)

def superseded (gateway : NamespacedName) : List (UInt64 × Nat) :=
  (p.supersededSlices.lookup gateway).getD []

def sliceIsCurrentOrInGrace (gateway : NamespacedName) (fingerprint : UInt64) : Bool :=
  p.compiledGatewayFingerprints.lookup gateway == some fingerprint ||
    (p.superseded gateway).any fun e => e.1 == fingerprint && inGrace now e.2

def isProgrammedFor (gateway : NamespacedName) : Bool :=
  if p.compiledFingerprint = 0 ∨ (p.compiledGatewayFingerprints.lookup gateway).isNone then false
  else
    p.dataPlaneApplied.values.any fun applied =>
      applied.gateway == gateway && p.sliceIsCurrentOrInGrace now gateway applied.fingerprint

def programmedChange (after : Programming) (gateway : NamespacedName) : List NamespacedName :=
  if after.isProgrammedFor now gateway != p.isProgrammedFor now gateway then [gateway] else []

/-- What `set_compiled_slice` leaves, and whether the slice changed. -/
def insertSlice (gateway : NamespacedName) (fingerprint : UInt64) : Programming × Bool :=
  let inserted :=
    { p with
      compiledGatewayFingerprints := p.compiledGatewayFingerprints.insert gateway fingerprint }
  match p.compiledGatewayFingerprints.lookup gateway with
  | none => (inserted, true)
  | some prev =>
    if prev = fingerprint then (inserted, false)
    else
      let kept := (p.superseded gateway).filter fun e => inGrace now e.2
      ({ inserted with
          supersededSlices := p.supersededSlices.insert gateway (kept ++ [(prev, now)]) }, true)

def setCompiledSlice (gateway : NamespacedName) (fingerprint : UInt64) :
    Programming × Bool × List NamespacedName :=
  let (after, changed) := p.insertSlice now gateway fingerprint
  (after, changed, p.programmedChange now after gateway)

def removeCompiledSlice (gateway : NamespacedName) : Programming × List NamespacedName :=
  let after :=
    { p with
      compiledGatewayFingerprints := p.compiledGatewayFingerprints.erase gateway
      supersededSlices := p.supersededSlices.erase gateway }
  (after, p.programmedChange now after gateway)

/-- The grace of a superseded slice ran out: prune it and, if the Gateway is no longer programmed,
say so. -/
def expireProgrammedGrace (gateway : NamespacedName) : Programming × List NamespacedName :=
  match p.supersededSlices.lookup gateway with
  | none => (p, [])
  | some old =>
    let kept := old.filter fun e => inGrace now e.2
    let after := { p with supersededSlices := p.supersededSlices.insert gateway kept }
    (after,
      if kept.length < old.length ∧ !after.isProgrammedFor now gateway then [gateway] else [])

def forgetDataPlane (nodeId : String) : Programming × List NamespacedName :=
  match p.dataPlaneApplied.lookup nodeId with
  | none => (p, [])
  | some applied =>
    let after := { p with dataPlaneApplied := p.dataPlaneApplied.erase nodeId }
    (after, p.programmedChange now after applied.gateway)

def acceptsDataPlane (nodeId : String) : Bool :=
  decide (p.dataPlaneApplied.keys.length < maxDataPlaneNodes) ||
    (p.dataPlaneApplied.lookup nodeId).isSome

def recordApplied (nodeId : String) (gateway : NamespacedName) (fingerprint : UInt64) :
    Programming × Bool × List NamespacedName :=
  if fingerprint = 0 ∨ !p.acceptsDataPlane nodeId then (p, false, [])
  else
    let left := ((p.dataPlaneApplied.lookup nodeId).map (·.gateway)).filter (· != gateway)
    let after :=
      { p with dataPlaneApplied := p.dataPlaneApplied.insert nodeId ⟨gateway, fingerprint⟩ }
    (after, true,
      (left.map (p.programmedChange now after)).getD [] ++ p.programmedChange now after gateway)

variable {p now}

variable {gateway : NamespacedName} {nodeId : String} {fingerprint : UInt64}

theorem isProgrammedFor_iff : p.isProgrammedFor now gateway = true ↔
      p.compiledFingerprint ≠ 0 ∧ (p.compiledGatewayFingerprints.lookup gateway).isSome ∧
        ∃ node fingerprint, p.dataPlaneApplied.lookup node = some ⟨gateway, fingerprint⟩ ∧
          p.sliceIsCurrentOrInGrace now gateway fingerprint = true := by
  unfold isProgrammedFor
  split
  · rename_i h
    simp only [Bool.false_eq_true, false_iff]
    rintro ⟨hfp, hs, -⟩
    rcases h with h | h
    · exact hfp h
    · rw [isNone_iff_eq_none.1 h] at hs
      exact absurd hs (by decide)
  · rename_i h
    rw [not_or] at h
    simp only [List.any_eq_true, Table.mem_values, Bool.and_eq_true, beq_iff_eq]
    constructor
    · rintro ⟨⟨gw, fp⟩, ⟨node, hn⟩, rfl, hs⟩
      exact ⟨h.1, by simpa [isSome_iff_ne_none] using h.2, node, fp, hn, hs⟩
    · rintro ⟨-, -, node, fp, hn, hs⟩
      exact ⟨⟨gateway, fp⟩, ⟨node, hn⟩, rfl, hs⟩

/-- Every Gateway whose answer differs is among the events. -/
def Announces (now : Nat) (p after : Programming) (events : List NamespacedName) : Prop :=
  ∀ gateway, after.isProgrammedFor now gateway ≠ p.isProgrammedFor now gateway → gateway ∈ events

theorem mem_programmedChange
    (h : after.isProgrammedFor now gateway ≠ p.isProgrammedFor now gateway) :
    gateway ∈ p.programmedChange now after gateway := by
  simp [programmedChange, h]

theorem isProgrammedFor_congr {p' : Programming}
    (hfp : p'.compiledFingerprint = p.compiledFingerprint)
    (hs : p'.compiledGatewayFingerprints.lookup gateway =
      p.compiledGatewayFingerprints.lookup gateway)
    (ho : p'.superseded gateway = p.superseded gateway)
    (hn : ∀ node fingerprint, p'.dataPlaneApplied.lookup node = some ⟨gateway, fingerprint⟩ ↔
      p.dataPlaneApplied.lookup node = some ⟨gateway, fingerprint⟩) :
    p'.isProgrammedFor now gateway = p.isProgrammedFor now gateway := by
  rw [Bool.eq_iff_iff, isProgrammedFor_iff, isProgrammedFor_iff]
  simp only [sliceIsCurrentOrInGrace, hfp, hs, ho, hn]

section

variable (p now)

theorem insertSlice_eq : (p.insertSlice now gateway fingerprint).1 = { p with
      compiledGatewayFingerprints := p.compiledGatewayFingerprints.insert gateway fingerprint
      supersededSlices := (p.insertSlice now gateway fingerprint).1.supersededSlices } := by
  unfold insertSlice
  split
  · rfl
  · split <;> rfl

theorem insertSlice_superseded (gateway : NamespacedName) (fingerprint : UInt64) :
    (p.insertSlice now gateway fingerprint).1.supersededSlices = p.supersededSlices ∨
      ∃ prev, (p.insertSlice now gateway fingerprint).2 = true ∧
        (p.insertSlice now gateway fingerprint).1.supersededSlices =
          p.supersededSlices.insert gateway
            (((p.superseded gateway).filter fun e => inGrace now e.2) ++ [(prev, now)]) := by
  unfold insertSlice
  split
  · exact .inl rfl
  · rename_i prev _
    split
    · exact .inl rfl
    · exact .inr ⟨prev, rfl, rfl⟩

end

theorem insertSlice_superseded_ne (h : other ≠ gateway) (fingerprint : UInt64) :
    (p.insertSlice now gateway fingerprint).1.superseded other = p.superseded other := by
  unfold superseded
  rcases insertSlice_superseded p now gateway fingerprint with hs | ⟨prev, -, hs⟩
  · rw [hs]
  · rw [hs, lookup_insert_ne h]

theorem setCompiledSlice_announces (fingerprint : UInt64) :
    Announces now p (p.setCompiledSlice now gateway fingerprint).1
      (p.setCompiledSlice now gateway fingerprint).2.2 := by
  intro other hm
  by_cases h : other = gateway
  · subst h
    exact mem_programmedChange hm
  · refine (hm (isProgrammedFor_congr ?_ ?_ ?_ ?_)).elim
    · rw [setCompiledSlice, insertSlice_eq]
    · rw [setCompiledSlice, insertSlice_eq, lookup_insert_ne h]
    · exact insertSlice_superseded_ne h fingerprint
    · intro node fp
      rw [setCompiledSlice, insertSlice_eq]

theorem removeCompiledSlice_announces :
    Announces now p (p.removeCompiledSlice now gateway).1
      (p.removeCompiledSlice now gateway).2 := by
  intro other hm
  by_cases h : other = gateway
  · subst h
    exact mem_programmedChange hm
  · refine (hm (isProgrammedFor_congr rfl ?_ ?_ fun _ _ => Iff.rfl)).elim
    · exact lookup_erase_ne h
    · simp only [superseded, removeCompiledSlice, lookup_erase_ne h]

theorem isProgrammedFor_of_node {p' : Programming}
    (hfp : p'.compiledFingerprint = p.compiledFingerprint)
    (hs : p'.compiledGatewayFingerprints = p.compiledGatewayFingerprints)
    (hol : p'.supersededSlices = p.supersededSlices)
    (hot : ∀ node ≠ nodeId, p'.dataPlaneApplied.lookup node = p.dataPlaneApplied.lookup node)
    (hb : ∀ applied, p.dataPlaneApplied.lookup nodeId = some applied → applied.gateway ≠ gateway)
    (ha : ∀ applied, p'.dataPlaneApplied.lookup nodeId = some applied → applied.gateway ≠ gateway) :
    p'.isProgrammedFor now gateway = p.isProgrammedFor now gateway := by
  refine isProgrammedFor_congr hfp (by rw [hs]) (by simp only [superseded, hol]) ?_
  intro node fingerprint
  by_cases hn : node = nodeId
  · subst hn
    exact iff_of_false (fun h => ha _ h rfl) (fun h => hb _ h rfl)
  · rw [hot node hn]

theorem forgetDataPlane_announces :
    Announces now p (p.forgetDataPlane now nodeId).1 (p.forgetDataPlane now nodeId).2 := by
  intro gateway hm
  unfold forgetDataPlane at hm ⊢
  cases hn : p.dataPlaneApplied.lookup nodeId with
  | none => simp [hn] at hm
  | some applied =>
    simp only [hn] at hm ⊢
    by_cases h : applied.gateway = gateway
    · subst h
      exact mem_programmedChange hm
    · refine (hm (isProgrammedFor_of_node rfl rfl rfl
        (fun node hne => lookup_erase_ne hne) ?_ ?_)).elim
      · rintro _ ha rfl
        exact h (congrArg AppliedState.gateway (Option.some.inj (hn.symm.trans ha)))
      · intro _ ha
        simp at ha

theorem recordApplied_rejected (h : fingerprint = 0 ∨ p.acceptsDataPlane nodeId = false) :
    p.recordApplied now nodeId gateway fingerprint = (p, false, []) :=
  if_pos (by simpa using h)

theorem recordApplied_accepted (hfp : fingerprint ≠ 0) (ha : p.acceptsDataPlane nodeId = true) :
    (p.recordApplied now nodeId gateway fingerprint).1 =
        { p with dataPlaneApplied := p.dataPlaneApplied.insert nodeId ⟨gateway, fingerprint⟩ } ∧
      (p.recordApplied now nodeId gateway fingerprint).2.1 = true := by
  rw [recordApplied, if_neg (by simp [hfp, ha])]
  exact ⟨rfl, rfl⟩

theorem recordApplied_announces :
    Announces now p (p.recordApplied now nodeId gateway fingerprint).1
      (p.recordApplied now nodeId gateway fingerprint).2.2 := by
  intro other hm
  by_cases h : fingerprint = 0 ∨ p.acceptsDataPlane nodeId = false
  · rw [recordApplied_rejected h] at hm
    exact (hm rfl).elim
  · have hd : ¬ (fingerprint = 0 ∨ (!p.acceptsDataPlane nodeId) = true) := by simpa using h
    unfold recordApplied at hm ⊢
    rw [if_neg hd] at hm ⊢
    rw [List.mem_append]
    by_cases hj : gateway = other
    · subst hj
      exact .inr (mem_programmedChange hm)
    · cases hn : p.dataPlaneApplied.lookup nodeId with
      | none =>
        refine (hm (isProgrammedFor_of_node rfl rfl rfl
          (fun node hne => lookup_insert_ne hne) ?_ ?_)).elim
        · simp [hn]
        · simp [hj]
      | some applied =>
        by_cases hl : applied.gateway = other
        · -- the Gateway the node leaves
          subst hl
          have hne : (applied.gateway != gateway) = true := by simpa using Ne.symm hj
          left
          simpa [Option.filter, hne] using mem_programmedChange hm
        · refine (hm (isProgrammedFor_of_node rfl rfl rfl
            (fun node hne => lookup_insert_ne hne) ?_ ?_)).elim
          · simp [hn, hl]
          · simp [hj]

theorem any_filter_inGrace (old : List (UInt64 × Nat)) :
    ((old.filter fun e => inGrace now e.2).any fun e =>
        e.1 == fingerprint && inGrace now e.2) =
      old.any fun e => e.1 == fingerprint && inGrace now e.2 := by
  rw [List.any_filter]
  congr 1
  funext e
  cases inGrace now e.2 <;> simp

theorem isProgrammedFor_prune (ho : p.supersededSlices.lookup gateway = some old) :
    { p with
      supersededSlices := p.supersededSlices.insert gateway
        (old.filter fun e => inGrace now e.2) }.isProgrammedFor now other =
      p.isProgrammedFor now other := by
  rw [Bool.eq_iff_iff, isProgrammedFor_iff, isProgrammedFor_iff]
  by_cases h : other = gateway
  · subst h
    simp only [sliceIsCurrentOrInGrace, superseded, lookup_insert, ho, getD_some,
      any_filter_inGrace]
  · simp only [sliceIsCurrentOrInGrace, superseded, lookup_insert_ne h]

theorem isProgrammedFor_expire : (p.expireProgrammedGrace now gateway).1.isProgrammedFor now other =
      p.isProgrammedFor now other := by
  unfold expireProgrammedGrace
  split
  · rfl
  · rename_i old ho
    exact isProgrammedFor_prune ho

theorem superseded_expire : (p.expireProgrammedGrace now gateway).1.superseded gateway =
      (p.superseded gateway).filter fun e => inGrace now e.2 := by
  unfold expireProgrammedGrace superseded
  cases ho : p.supersededSlices.lookup gateway with
  | none => simp [ho]
  | some old => simp [lookup_insert]

theorem superseded_expire_ne (h : other ≠ gateway) :
    (p.expireProgrammedGrace now gateway).1.superseded other = p.superseded other := by
  unfold expireProgrammedGrace superseded
  cases ho : p.supersededSlices.lookup gateway with
  | none => rfl
  | some old => simp [lookup_insert_ne h]

theorem mem_expire (hn : p.isProgrammedFor now gateway = false)
    (hp : ∃ e ∈ p.superseded gateway, inGrace now e.2 = false) :
    gateway ∈ (p.expireProgrammedGrace now gateway).2 := by
  unfold superseded at hp
  unfold expireProgrammedGrace
  cases ho : p.supersededSlices.lookup gateway with
  | none => simp [ho] at hp
  | some old =>
    simp only [ho, getD_some] at hp
    obtain ⟨e, he, hg⟩ := hp
    have hs : (old.filter fun e => inGrace now e.2).length < old.length :=
      List.length_filter_lt_length_iff_exists.2 ⟨e, he, by simp [hg]⟩
    dsimp only
    rw [isProgrammedFor_prune ho, if_pos ⟨hs, by simp [hn]⟩]
    exact List.mem_singleton_self gateway

theorem isProgrammedFor_recordApplied (hco : p.compiledFingerprint ≠ 0)
    (hfp : fingerprint ≠ 0) (ha : p.acceptsDataPlane nodeId = true)
    (hcu : p.compiledGatewayFingerprints.lookup gateway = some fingerprint) :
    (p.recordApplied now nodeId gateway fingerprint).1.isProgrammedFor now gateway = true := by
  rw [(recordApplied_accepted hfp ha).1, isProgrammedFor_iff]
  refine ⟨hco, by simp [hcu], nodeId, fingerprint, lookup_insert _, ?_⟩
  simp [sliceIsCurrentOrInGrace, hcu]

theorem sliceIsCurrentOrInGrace_of_later (hle : now ≤ later)
    (h : p.sliceIsCurrentOrInGrace later gateway fingerprint = true) :
    p.sliceIsCurrentOrInGrace now gateway fingerprint = true := by
  simp only [sliceIsCurrentOrInGrace, Bool.or_eq_true, List.any_eq_true, Bool.and_eq_true,
    inGrace, decide_eq_true_eq] at h ⊢
  refine h.imp_right fun ⟨e, he, hfp, hg⟩ => ⟨e, he, hfp, ?_⟩
  omega

theorem isProgrammedFor_later (hle : now ≤ later)
    (hm : p.isProgrammedFor later gateway ≠ p.isProgrammedFor now gateway) :
    p.isProgrammedFor later gateway = false ∧ p.superseded gateway ≠ [] := by
  have hb (h : p.isProgrammedFor later gateway = true) : p.isProgrammedFor now gateway = true := by
    rw [isProgrammedFor_iff] at h ⊢
    obtain ⟨hfp, hs, node, fingerprint, hn, hc⟩ := h
    exact ⟨hfp, hs, node, fingerprint, hn, sliceIsCurrentOrInGrace_of_later hle hc⟩
  cases hl : p.isProgrammedFor later gateway with
  | true => exact (hm (hl.trans (hb hl).symm)).elim
  | false =>
    refine ⟨rfl, fun hn' => hm ?_⟩
    -- without a superseded slice the clock does not enter
    rw [Bool.eq_iff_iff, isProgrammedFor_iff, isProgrammedFor_iff]
    simp only [sliceIsCurrentOrInGrace, hn', List.any_nil]

end Programming

end Portus.Controller

import Portus.Compiler.Scope
import Portus.Controller.Programmed

/-!
# Programmed status: exact and announced

A Gateway's `Programmed` condition is written by its reconciler, which an
`Event::Programmed` wakes. So the condition is up to date when every move of
`is_programmed_for` is followed by an event, and the answer itself is right when a report
of the current slice makes it true.
-/

namespace Portus.ProgrammedStatus

open Portus Lib Controller List

structure System where
  store : Programming
  now : Nat
  /-- The checks the compile loop has scheduled, with the moment from which each may run. -/
  pending : List (NamespacedName × Nat)
  /-- The Gateway's answer has moved since the last event for it. -/
  unannounced : NamespacedName → Bool

def initial : System := ⟨.new, 0, [], fun _ => false⟩

inductive Action where
  | setCompiledSlice (gateway : NamespacedName) (fingerprint : UInt64)
  | removeCompiledSlice (gateway : NamespacedName)
  | storeCompiledFingerprint (fingerprint : UInt64)
  | recordApplied (nodeId : String) (gateway : NamespacedName) (fingerprint : UInt64)
  | forgetDataPlane (nodeId : String)
  | expire (i : Nat)
  | wait (millis : Nat)

def System.become (s : System) (store : Programming) (now : Nat)
    (pending : List (NamespacedName × Nat)) (events : List NamespacedName) : System where
  store
  now
  pending
  unannounced gateway :=
    !decide (gateway ∈ events) && (s.unannounced gateway ||
        store.isProgrammedFor now gateway != s.store.isProgrammedFor s.now gateway)

def step (s : System) : Action → System
  | .setCompiledSlice gateway fingerprint =>
    let r := s.store.setCompiledSlice s.now gateway fingerprint
    s.become r.1 s.now
      (if r.2.1 then s.pending ++ [(gateway, s.now + programmedGrace)] else s.pending) r.2.2
  | .removeCompiledSlice gateway =>
    let r := s.store.removeCompiledSlice s.now gateway
    s.become r.1 s.now s.pending r.2
  | .storeCompiledFingerprint fingerprint =>
    s.become { s.store with compiledFingerprint := fingerprint } s.now s.pending []
  | .recordApplied nodeId gateway fingerprint =>
    let r := s.store.recordApplied s.now nodeId gateway fingerprint
    s.become r.1 s.now s.pending r.2.2
  | .forgetDataPlane nodeId =>
    let r := s.store.forgetDataPlane s.now nodeId
    s.become r.1 s.now s.pending r.2
  | .expire i =>
    match s.pending[i]? with
    | some (gateway, due) =>
      if due ≤ s.now then
        let r := s.store.expireProgrammedGrace s.now gateway
        s.become r.1 s.now (s.pending.eraseIdx i) r.2
      else s
    | none => s
  | .wait millis => s.become s.store (s.now + millis) s.pending []

/-- A report of the Gateway's current slice makes it programmed. -/
def Exact (s : System) (a : Action) : Prop :=
  ∀ nodeId gateway fingerprint, a = .recordApplied nodeId gateway fingerprint →
    s.store.compiledGatewayFingerprints.lookup gateway = some fingerprint →
      (step s a).store.isProgrammedFor (step s a).now gateway = true

/-- Once no check is pending for a Gateway, every move of its answer has been announced. -/
def Announced (s : System) : Prop :=
  ∀ gateway, (∀ check ∈ s.pending, check.1 ≠ gateway) → s.unannounced gateway = false

def NoneCurrent (s : System) : Prop :=
  ∀ node applied, s.store.dataPlaneApplied.lookup node = some applied →
    (s.store.compiledGatewayFingerprints.lookup applied.gateway).isSome →
      s.store.sliceIsCurrentOrInGrace s.now applied.gateway applied.fingerprint = false

def Orderly (s : System) : Action → Prop
  | .removeCompiledSlice gateway =>
    s.store.isProgrammedFor s.now gateway = true ∨ s.store.superseded gateway = []
  | .storeCompiledFingerprint fingerprint =>
    (s.store.compiledFingerprint = 0 ↔ fingerprint = 0) ∨ NoneCurrent s
  | .recordApplied nodeId gateway fingerprint =>
    s.store.compiledGatewayFingerprints.lookup gateway = some fingerprint →
      fingerprint ≠ 0 ∧ s.store.compiledFingerprint ≠ 0 ∧ s.store.acceptsDataPlane nodeId = true
  | _ => True

/-- Every superseded slice has its check, and an unannounced move is one to "not programmed" of a
Gateway that still has a superseded slice. -/
structure Inv (s : System) : Prop where
  checked : ∀ gateway e, e ∈ s.store.superseded gateway →
    (gateway, e.2 + programmedGrace) ∈ s.pending
  moved : ∀ gateway, s.unannounced gateway = true →
    s.store.isProgrammedFor s.now gateway = false ∧ s.store.superseded gateway ≠ []

variable {s : System}

variable {gateway : NamespacedName}

theorem unannounced_become (h : (s.become store now pending events).unannounced gateway = true) :
    gateway ∉ events ∧ (s.unannounced gateway = true ∨
        store.isProgrammedFor now gateway ≠ s.store.isProgrammedFor s.now gateway) := by
  simpa [System.become] using h

theorem inv_become (h : Inv s) (ha : Programming.Announces s.now s.store store events)
    (hc : ∀ gateway e, e ∈ store.superseded gateway → (gateway, e.2 + programmedGrace) ∈ pending)
    (hk : ∀ gateway, s.unannounced gateway = true → gateway ∉ events →
      s.store.superseded gateway ≠ [] → store.superseded gateway ≠ []) :
    Inv (s.become store s.now pending events) := by
  refine ⟨hc, fun gateway hun => ?_⟩
  obtain ⟨hn, hun | hm⟩ := unannounced_become hun
  · obtain ⟨hf, hne⟩ := h.moved gateway hun
    have hs : store.isProgrammedFor s.now gateway = s.store.isProgrammedFor s.now gateway := by
      by_contra hm
      exact hn (ha gateway hm)
    exact ⟨hs.trans hf, hk gateway hun hn hne⟩
  · exact (hn (ha gateway hm)).elim

theorem inv_setCompiledSlice (h : Inv s) :
    Inv (step s (.setCompiledSlice gateway fingerprint)) := by
  have hp : s.pending ⊆
      if (s.store.setCompiledSlice s.now gateway fingerprint).2.1 then
        s.pending ++ [(gateway, s.now + programmedGrace)] else s.pending := by
    split
    · exact subset_append_left _ _
    · exact List.Subset.refl _
  have ho {other : NamespacedName} (hne : other ≠ gateway) :
      (s.store.setCompiledSlice s.now gateway fingerprint).1.superseded other =
        s.store.superseded other :=
    Programming.insertSlice_superseded_ne hne fingerprint
  refine inv_become h (Programming.setCompiledSlice_announces fingerprint) ?_ ?_
  · intro other e he
    by_cases hgw : other = gateway
    · subst hgw
      rcases Programming.insertSlice_superseded s.store s.now other fingerprint with
        hs | ⟨prev, hc, hs⟩
      · refine hp (h.checked other e ?_)
        simpa only [Programming.superseded, Programming.setCompiledSlice, hs] using he
      · have he' : e ∈ ((s.store.superseded other).filter fun e =>
            inGrace s.now e.2) ++ [(prev, s.now)] := by
          simpa [Programming.superseded, Programming.setCompiledSlice, hs] using he
        rcases mem_append.1 he' with hk | hn
        · exact hp (h.checked other e (mem_of_mem_filter hk))
        · -- the replaced slice comes with its own check
          rw [mem_singleton.1 hn]
          simp [Programming.setCompiledSlice, hc]
    · rw [ho hgw] at he
      exact hp (h.checked other e he)
  · intro other _ _ hne
    by_cases hgw : other = gateway
    · subst hgw
      rcases Programming.insertSlice_superseded s.store s.now other fingerprint with
        hs | ⟨prev, -, hs⟩
      · simpa only [Programming.superseded, Programming.setCompiledSlice, hs] using hne
      · simp [Programming.superseded, Programming.setCompiledSlice, hs]
    · rwa [ho hgw]

theorem inv_removeCompiledSlice (h : Inv s) (hok : Orderly s (.removeCompiledSlice gateway)) :
    Inv (step s (.removeCompiledSlice gateway)) := by
  have ho {other : NamespacedName} (hne : other ≠ gateway) :
      (s.store.removeCompiledSlice s.now gateway).1.superseded other =
        s.store.superseded other := by
    simp only [Programming.superseded, Programming.removeCompiledSlice, AList.lookup_erase_ne hne]
  refine inv_become h (Programming.removeCompiledSlice_announces) ?_ ?_
  · intro other e he
    by_cases hgw : other = gateway
    · subst hgw
      simp [Programming.superseded, Programming.removeCompiledSlice] at he
    · rw [ho hgw] at he
      exact h.checked other e he
  · intro other hun _ hne
    by_cases hgw : other = gateway
    · subst hgw
      rcases hok with hp | hn
      · exact absurd (hp.symm.trans (h.moved other hun).1) (by decide)
      · exact (hne hn).elim
    · rwa [ho hgw]

theorem announces_storeCompiledFingerprint
    (hok : Orderly s (.storeCompiledFingerprint fingerprint)) :
    Programming.Announces s.now s.store { s.store with compiledFingerprint := fingerprint } [] := by
  intro gateway hm
  refine (hm ?_).elim
  rw [Bool.eq_iff_iff, Programming.isProgrammedFor_iff, Programming.isProgrammedFor_iff]
  rcases hok with hz | hn'
  · simp only [ne_eq, hz]
    rfl
  · have hnot {fp : UInt64} : ¬ (fp ≠ 0 ∧
        (s.store.compiledGatewayFingerprints.lookup gateway).isSome ∧
        ∃ node fp', s.store.dataPlaneApplied.lookup node = some ⟨gateway, fp'⟩ ∧
          s.store.sliceIsCurrentOrInGrace s.now gateway fp' = true) := by
      rintro ⟨-, hs, node, fp', hn, hc⟩
      exact absurd (hc.symm.trans (hn' node _ hn hs)) (by decide)
    exact iff_of_false hnot hnot

theorem inv_storeCompiledFingerprint (h : Inv s)
    (hok : Orderly s (.storeCompiledFingerprint fingerprint)) :
    Inv (step s (.storeCompiledFingerprint fingerprint)) :=
  inv_become h (announces_storeCompiledFingerprint hok) h.checked fun _ _ _ hne => hne

theorem inv_recordApplied (h : Inv s) :
    Inv (step s (.recordApplied nodeId gateway fingerprint)) := by
  have ho (other : NamespacedName) :
      (s.store.recordApplied s.now nodeId gateway fingerprint).1.superseded other =
        s.store.superseded other := by
    unfold Programming.recordApplied
    split <;> rfl
  refine inv_become h (Programming.recordApplied_announces) ?_ ?_
  · intro other e he
    exact h.checked other e (ho other ▸ he)
  · intro other _ _ hne
    rwa [ho other]

theorem inv_forgetDataPlane (h : Inv s) :
    Inv (step s (.forgetDataPlane nodeId)) := by
  have ho (other : NamespacedName) :
      (s.store.forgetDataPlane s.now nodeId).1.superseded other = s.store.superseded other := by
    unfold Programming.forgetDataPlane
    split <;> rfl
  refine inv_become h (Programming.forgetDataPlane_announces) ?_ ?_
  · intro other e he
    exact h.checked other e (ho other ▸ he)
  · intro other _ _ hne
    rwa [ho other]

theorem inv_wait (h : Inv s) : Inv (step s (.wait millis)) := by
  refine ⟨h.checked, fun gateway hun => ?_⟩
  have hle : s.now ≤ s.now + millis := Nat.le_add_right _ _
  by_cases hmove : s.store.isProgrammedFor (s.now + millis) gateway =
      s.store.isProgrammedFor s.now gateway
  · obtain ⟨-, hun | hmoved'⟩ := unannounced_become hun
    · obtain ⟨hf, hne⟩ := h.moved gateway hun
      exact ⟨hmove.trans hf, hne⟩
    · exact (hmoved' hmove).elim
  · exact Programming.isProgrammedFor_later hle hmove

theorem mem_pending_eraseIdx {e : UInt64 × Nat} (hi : s.pending[i]? = some (gateway, due))
    (hd : due ≤ s.now) (hm : (other, e.2 + programmedGrace) ∈ s.pending)
    (hg : other = gateway → inGrace s.now e.2 = true) :
    (other, e.2 + programmedGrace) ∈ s.pending.eraseIdx i := by
  rw [mem_iff_getElem?] at hm
  obtain ⟨j, hj⟩ := hm
  refine mem_eraseIdx_iff_getElem?.2 ⟨j, fun hij => ?_, hj⟩
  subst hij
  obtain ⟨hgw, hl⟩ := Prod.mk.inj (Option.some.inj (hj.symm.trans hi))
  have := hg hgw
  simp only [inGrace, decide_eq_true_eq] at this
  omega

theorem inv_expire (h : Inv s) : Inv (step s (.expire i)) := by
  unfold step
  dsimp only
  split
  · rename_i gateway due hi
    split
    · rename_i hd
      refine inv_become h (fun other hm => ?_) ?_ ?_
      · exact (hm (Programming.isProgrammedFor_expire)).elim
      · intro other e he
        by_cases hgw : other = gateway
        · subst hgw
          rw [Programming.superseded_expire, mem_filter] at he
          exact mem_pending_eraseIdx hi hd (h.checked other e he.1) fun _ => he.2
        · rw [Programming.superseded_expire_ne hgw] at he
          exact mem_pending_eraseIdx hi hd (h.checked other e he) fun heq => (hgw heq).elim
      · intro other hun hn hne
        by_cases hgw : other = gateway
        · subst hgw
          -- nothing was pruned, or it would have been announced
          have ha : ∀ e ∈ s.store.superseded other, inGrace s.now e.2 = true := by
            intro e he
            by_contra hg
            exact hn (Programming.mem_expire (h.moved other hun).1 ⟨e, he, Bool.eq_false_iff.2 hg⟩)
          rwa [Programming.superseded_expire, filter_eq_self.2 ha]
        · rwa [Programming.superseded_expire_ne hgw]
    · exact h
  · exact h

theorem inv_step (s : System) (a : Action) (h : Inv s) (hok : Orderly s a) : Inv (step s a) := by
  cases a with
  | setCompiledSlice gateway fingerprint => exact inv_setCompiledSlice h
  | removeCompiledSlice gateway => exact inv_removeCompiledSlice h hok
  | storeCompiledFingerprint fingerprint => exact inv_storeCompiledFingerprint h hok
  | recordApplied nodeId gateway fingerprint => exact inv_recordApplied h
  | forgetDataPlane nodeId => exact inv_forgetDataPlane h
  | expire i => exact inv_expire h
  | wait millis => exact inv_wait h

theorem inv_initial : Inv initial :=
  ⟨fun _ _ he => by simp [initial, Programming.superseded, Programming.new] at he,
    fun _ hun => by simp [initial] at hun⟩

theorem announced_of_inv (h : Inv s) : Announced s := by
  intro gateway hn
  by_contra hun
  obtain ⟨-, hne⟩ := h.moved gateway (by simpa using hun)
  obtain ⟨e, he⟩ := exists_mem_of_ne_nil _ hne
  exact hn _ (h.checked gateway e he) rfl

theorem exact_of_orderly (hok : Orderly s a) : Exact s a := by
  rintro nodeId gateway fingerprint rfl hcu
  obtain ⟨hfp, hco, ha⟩ := hok hcu
  exact Programming.isProgrammedFor_recordApplied hco hfp ha hcu

/-- In every run of orderly steps, reports of current slices count at once, and whatever moves is
announced. -/
theorem programmed_run {actions : List Action} (hmeet : StepsMeet step Orderly initial actions) :
    StepsMeet step Exact initial actions ∧ Announced (run step initial actions) :=
  ⟨hmeet.imp (I := fun _ => True) (fun _ _ _ _ => trivial) (fun _ _ _ hok => exact_of_orderly hok)
      trivial,
    announced_of_inv (run_invariant inv_step inv_initial hmeet)⟩

def shop : NamespacedName := ⟨"infra", "shop"⟩

/-- The first compile, a report, a new slice that the data plane never applies, and its check. -/
def slowDataPlane : List Action :=
  [.setCompiledSlice shop 7, .storeCompiledFingerprint 9, .recordApplied "node-1" shop 7,
    .setCompiledSlice shop 8, .wait 10000, .expire 0, .expire 0]

theorem slowDataPlane_announced : StepsMeet step Orderly initial slowDataPlane ∧
      StepsMeet step Exact initial slowDataPlane ∧
      Announced (run step initial slowDataPlane) := by
  have hm : StepsMeet step Orderly initial slowDataPlane := by
    refine ⟨trivial, .inr fun _ _ h => ?_, fun _ => by decide, trivial, trivial, trivial, trivial,
      trivial⟩
    simp [step, System.become, initial, Programming.setCompiledSlice, Programming.insertSlice,
      Programming.new] at h
  exact ⟨hm, programmed_run hm⟩

/-- The Gateway's slice is empty, so its fingerprint is 0; the data plane has applied it. -/
def emptySlice : List Action :=
  [.setCompiledSlice shop 0, .storeCompiledFingerprint 9, .recordApplied "node-1" shop 0]

/-- A data plane reconnects to a controller that has not compiled yet. -/
def firstCompile : List Action :=
  [.recordApplied "node-1" shop 7, .setCompiledSlice shop 7, .storeCompiledFingerprint 9,
    .wait 10000, .expire 0]

/-- The Gateway leaves after the grace of its last slice, before the check. -/
def removedAfterGrace : List Action :=
  [.setCompiledSlice shop 7, .storeCompiledFingerprint 9, .recordApplied "node-1" shop 7,
    .setCompiledSlice shop 8, .wait 10000, .removeCompiledSlice shop, .expire 0, .expire 0]

theorem fingerprint_emptySlice (hash : Compiler.Element → UInt64)
    (h : Compiler.elements (Compiler.slice gateway config) = []) :
    (Compiler.scopeConfig hash config gateway).fingerprint = 0 := by
  simp [Compiler.scopeConfig, Compiler.configFingerprint, h]

theorem not_announced (gateway : NamespacedName) (hn : s.pending = [])
    (hun : s.unannounced gateway = true) : ¬ Announced s := by
  intro h
  have := h gateway (by simp [hn])
  rw [hun] at this
  exact absurd this (by decide)

theorem programmed_stale : (∀ hash config, Compiler.elements (Compiler.slice shop config) = [] →
        (Compiler.scopeConfig hash config shop).fingerprint = 0) ∧
      ¬ StepsMeet step Exact initial emptySlice ∧
      ¬ Announced (run step initial firstCompile) ∧
      ¬ Announced (run step initial removedAfterGrace) := by
  refine ⟨fun hash config => fingerprint_emptySlice hash, fun h => ?_, ?_, ?_⟩
  · exact absurd (h.2.2.1 "node-1" shop 0 rfl (by decide)) (by decide)
  all_goals exact not_announced shop (by decide) (by decide)

end Portus.ProgrammedStatus

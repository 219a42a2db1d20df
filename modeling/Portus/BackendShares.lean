import Portus.Compiler.Backends
import Portus.DataPlane.Plan
import Portus.Lib.Run
import Portus.Reconcilers.Routes

/-!
# Shares of weighted backends

`select_weighted_backend` walks the backends of a rule by a counter of the worker thread, which all
weighted rules share. Over as many consecutive indices as the weights add up to, a backend is chosen
as often as it weighs (`count_cycle`); requests of other rules in between take indices away.

References that are not valid are dropped before the weights are compiled, so their share goes to
the others.

A mirror's share is one whole percentage, in which 0 stands for all requests, so a share of 0 and a
fraction that rounds to 0 mirror everything (`mirrorsAsAsked_iff`).
-/

namespace Portus.BackendShares

open Lib Proto DataPlane List

def totalOf (backends : List WeightedBackend) : Nat := (backends.map (·.weight.toNat)).sum

/-- The place in the list of the backend that is chosen. -/
def choose (backends : List WeightedBackend) (counter : UInt64) : Option (Fin backends.length) :=
  weightedChoice (fun i => (backends.get i).weight) (finRange backends.length) counter

theorem selectWeightedBackend_eq :
    selectWeightedBackend backends counter = (choose backends counter).map backends.get := by
  rw [choose, ← weightedChoice_map (·.weight) backends.get, map_get_finRange]
  rfl

/-- The counter after a request of a rule: without weights it is not asked. -/
def advance (backends : List WeightedBackend) (counter : UInt64) : UInt64 :=
  if backends.isEmpty ∨ (backends.map (·.weight)).sum = 0 then counter else counter + 1

section Rule

variable (backends : List WeightedBackend)

/-- A worker with its counter, what the last request of the rule found there, and what the
requests of the rule were given. -/
structure Worker where
  counter : UInt64 := 0
  last : Option UInt64 := none
  chosen : List (Option (Fin backends.length)) := []

/-- A request of the rule, or one of another rule. -/
inductive Request where
  | own
  | other (backends : List WeightedBackend)

def step (s : Worker backends) : Request → Worker backends
  | .own => ⟨advance backends s.counter, some s.counter, s.chosen ++ [choose backends s.counter]⟩
  | .other others => { s with counter := advance others s.counter }

structure Shared (s : Worker backends) : Prop where
  proportional : ∀ before window after, s.chosen = before ++ window ++ after →
    window.length = totalOf backends →
    ∀ i, window.count (some i) = (backends.get i).weight.toNat
  weighted : ∀ i, (backends.get i).weight = 0 → some i ∉ s.chosen

/-- The weights add up in 32 bits to something, and a request of the rule finds the counter one
further than the last, as far as the total weight tells. -/
def InTurn (s : Worker backends) : Request → Prop
  | .own => 0 < totalOf backends ∧ totalOf backends < 2 ^ 32 ∧
    ∀ c ∈ s.last, s.counter.toNat % totalOf backends = (c.toNat + 1) % totalOf backends
  | .other _ => True

variable {backends}

def placeAt (backends : List WeightedBackend) (j : Nat) : Option (Fin backends.length) :=
  pickFrom (fun i => (backends.get i).weight.toNat) (j % totalOf backends) 0
    (finRange backends.length)

theorem sum_finRange : ((finRange backends.length).map fun i => (backends.get i).weight.toNat).sum =
    totalOf backends := sum_places (fun b : WeightedBackend => b.weight.toNat) backends

theorem choose_eq (h0 : 0 < totalOf backends) (h : totalOf backends < 2 ^ 32) :
    choose backends counter = placeAt backends counter.toNat := by
  have hsu : ((finRange backends.length).map fun i => (backends.get i).weight).sum.toNat =
      totalOf backends := by
    rw [toNat_sum_uint32, map_map, ← sum_finRange, Nat.mod_eq_of_lt]
    · rfl
    · exact sum_finRange.trans_lt h
  have hso : (placeAt backends counter.toNat).isSome := by
    refine pickFrom_isSome (Nat.zero_le _) ?_
    rw [sum_finRange, Nat.zero_add]
    exact Nat.mod_lt _ h0
  rw [placeAt] at hso
  unfold choose weightedChoice
  dsimp only
  rw [hsu, if_neg, if_neg, Option.or_of_isSome hso]
  · rfl
  · intro hz
    rw [hz] at hsu
    exact h0.ne hsu
  · intro hn
    rw [← sum_finRange, List.isEmpty_iff.1 hn] at h0
    exact h0.ne rfl

theorem count_placeAt : ((range' n (totalOf backends)).map (placeAt backends)).count (some i) =
      (backends.get i).weight.toNat := count_places (fun b : WeightedBackend => b.weight.toNat) backends n i

/-- The requests of the rule were given the places one after the other, from some place on. -/
def Paced (s : Worker backends) : Prop :=
  ∃ n, s.chosen = (range' n s.chosen.length).map (placeAt backends) ∧
    (s.chosen = [] ∨ 0 < totalOf backends) ∧
    match s.last with
    | none => s.chosen = []
    | some c => (c.toNat + 1) % totalOf backends = (n + s.chosen.length) % totalOf backends

theorem paced_step (h : Paced s) : ∀ r, InTurn backends s r → Paced (step backends s r)
  | .other _, _ => h
  | .own, ⟨h0, hlt, ht⟩ => by
    obtain ⟨n, hc, -, hla⟩ := h
    have hp : ∀ m, s.counter.toNat % totalOf backends = m % totalOf backends →
        choose backends s.counter = placeAt backends m := by
      intro m hm
      rw [choose_eq h0 hlt, placeAt, hm, placeAt]
    simp only [step, Paced, length_append, length_singleton]
    cases hl : s.last with
    | none =>
      rw [hl] at hla
      refine ⟨s.counter.toNat, ?_, .inr h0, ?_⟩
      · simp [hla, hp _ rfl]
      · simp [hla]
    | some c =>
      rw [hl] at hla
      have heq := (ht c hl).trans hla
      refine ⟨n, ?_, .inr h0, ?_⟩
      · rw [range'_concat, map_append, ← hc, hp _ heq, Nat.one_mul]
        rfl
      · rw [← Nat.add_assoc, Nat.add_mod, heq, ← Nat.add_mod]

theorem shared_of_paced (h : Paced s) : Shared backends s := by
  obtain ⟨n, hc, h0, -⟩ := h
  constructor
  · intro before window after hs hl i
    rw [hs, eq_comm, append_assoc, map_eq_append_iff] at hc
    obtain ⟨_, rest, hra, rfl, hre⟩ := hc
    obtain ⟨_, _, rfl, hw, -⟩ := map_eq_append_iff.1 hre
    obtain ⟨k, -, -, hre⟩ := range'_eq_append_iff.1 hra
    obtain ⟨m, -, rfl, -⟩ := range'_eq_append_iff.1 hre.symm
    rw [← hw, length_map, length_range'] at hl
    rw [← hw, hl, count_placeAt]
  · intro i hi hm
    rw [hc] at hm
    obtain ⟨j, -, hj⟩ := mem_map.1 hm
    obtain ⟨_, _, -, hle, hlt⟩ := (pickFrom_eq_some_iff (Nat.zero_le _)).1 hj
    rw [hi] at hlt
    exact absurd hlt (Nat.not_lt.2 hle)

theorem shares_of_inTurn (backends : List WeightedBackend) (requests : List Request)
    (h : StepsMeet (step backends) (InTurn backends) {} requests) :
    Shared backends (run (step backends) {} requests) :=
  shared_of_paced (run_invariant (fun _ r hs => paced_step hs r) ⟨0, rfl, .inl rfl, rfl⟩ h)

/-- Two backends of one weight, and another rule between any two requests. -/
def halves : List WeightedBackend := [⟨"a", 80, 1, none⟩, ⟨"b", 80, 1, none⟩]

theorem halves_not_shared : ¬ Shared halves
    (run (step halves) {} [.own, .other halves, .own, .other halves]) := by
  intro h
  exact absurd (h.proportional [] _ [] (append_nil _).symm rfl ⟨1, by decide⟩) (by decide)

theorem halves_shared : Shared halves (run (step halves) {}
    [.own, .own, .other halves, .other halves, .own]) :=
  shares_of_inTurn halves _ (by simp [StepsMeet, InTurn, step, totalOf, halves, advance])

end Rule

section Invalid

open Reconcilers Compiler

/-- A rule that is reconciled against a store. The API server admits few references, and none that
is too heavy. -/
structure Reconciled where
  regexBuilds : String → Bool := fun _ => true
  store : ConfigStore
  ns : String
  rule : HTTPRouteRule
  few : rule.backendRefs.length ≤ 16
  bounded : ∀ r ∈ rule.backendRefs, (r.weight.getD 1).toNat ≤ 1000000

def weightSum (refs : List RouteBackendRef) : Nat := (refs.map fun r => (r.weight.getD 1).toNat).sum

/-- What `compile_http_rule` makes of a reference of a rule that is split. -/
def entries (rule : HTTPRouteRuleState) : List WeightedBackend :=
  rule.backendRefs.map fun b =>
    ⟨b.name, b.port.toUInt32, b.weight, filtersToRequestHeaderMutation b.filters⟩

/-- The reference that a request is sent to; without one it is answered with 500. -/
def answers (rule : HTTPRouteRuleState) (counter : UInt64) : Option (Fin (entries rule).length) :=
  if (weightedBackendsOf rule).isEmpty then (finRange _).head? else choose (entries rule) counter

theorem backendOf_eq (h : BackendsOfRule rule rc)
    (counter : UInt64) : backendOf rc counter = ((answers rule counter).map fun i =>
      (((entries rule).get i).serviceName, ((entries rule).get i).port.toUInt16)).getD ("", 0) := by
  rw [backendOf, h.weighted, answers, h.serviceName, h.port]
  by_cases hw : weightedBackendsOf rule = []
  · rw [hw]
    have hl := weightedBackendsOf_eq_nil hw
    rcases rule with ⟨_, _, _ | ⟨b, _ | _⟩⟩
    · rfl
    · rfl
    · simp at hl
  · rw [if_neg (mt List.isEmpty_iff.1 hw), weightedBackendsOf_ne_nil hw, ← entries,
      selectWeightedBackend_eq]
    cases hc : choose (entries rule) counter with
    | none =>
      have hn : (entries rule).length = 0 := by
        rw [← length_finRange (n := (entries rule).length), weightedChoice_eq_none hc, length_nil]
      exact absurd (length_eq_zero_iff.1 hn) fun h => hw ((weightedBackendsOf_ne_nil hw).trans h)
    | some i => rfl

theorem answers_eq (h0 : 0 < totalOf (entries rule))
    (h : totalOf (entries rule) < 2 ^ 32) :
    answers rule counter = placeAt (entries rule) counter.toNat := by
  rw [answers]
  split_ifs with hw
  · have hl := weightedBackendsOf_eq_nil (List.isEmpty_iff.1 hw)
    rcases rule with ⟨_, _, _ | ⟨b, _ | _⟩⟩
    · exact absurd h0 (lt_irrefl 0)
    · have hm := Nat.mod_lt counter.toNat h0
      simp only [placeAt, entries, totalOf, map_cons, map_nil, sum_cons, sum_nil] at hm ⊢
      exact (if_pos (by simpa using hm)).symm
    · simp at hl
  · exact choose_eq h0 h

theorem answers_ne_none (h : rule.backendRefs ≠ []) :
    answers rule counter ≠ none := by
  have hne : finRange (entries rule).length ≠ [] := by simpa [entries] using h
  rw [answers]
  split_ifs
  · simpa using hne
  · exact mt weightedChoice_eq_none hne

variable (c : Reconciled)

/-- Of a supported kind, and permitted by a grant where it needs one. -/
def isValid (r : RouteBackendRef) : Bool :=
  match refProblem c.store httpChecks c.ns r with
  | some .invalidKind | some .refNotPermitted => false
  | _ => true

def compiled : HTTPRouteRuleState := httpRuleState c.regexBuilds c.store c.ns c.rule

/-- What becomes of the requests of one cycle of all the weights. -/
def cycle (start : Nat) : List (Option (Fin (entries (compiled c)).length)) :=
  (range' start (weightSum c.rule.backendRefs)).map fun j =>
    answers (compiled c) (UInt64.ofNat j)

/-- Over a cycle a valid reference gets its weight, and the weight of the others is answered 500. -/
def KeepsShares : Prop :=
  ∀ start, start + weightSum c.rule.backendRefs ≤ 2 ^ 64 → (∀ i, (cycle c start).count (some i) =
      ((entries (compiled c)).get i).weight.toNat) ∧
    (cycle c start).count none = weightSum (c.rule.backendRefs.filter fun r => !isValid c r)

/-- No reference is valid, or the others have no weight. -/
def InvalidWeightless : Prop :=
  c.rule.backendRefs.filter (isValid c) = [] ∨
    ∀ r ∈ c.rule.backendRefs, isValid c r = false → r.weight = some 0

theorem backendRefs_compiled : (compiled c).backendRefs =
    (c.rule.backendRefs.filter (isValid c)).map (RouteBackendRef.state c.ns) := by
  refine congrArg (map _) (filter_congr fun r _ => ?_)
  unfold isValid
  rcases refProblem c.store httpChecks c.ns r with _ | _ | _ | _ <;> rfl

theorem totalOf_entries : totalOf (entries (compiled c)) =
    weightSum (c.rule.backendRefs.filter (isValid c)) := by
  simp only [totalOf, entries, backendRefs_compiled, weightSum, map_map]
  rfl

theorem weightSum_split (refs : List RouteBackendRef) : weightSum refs =
    weightSum (refs.filter (isValid c)) + weightSum (refs.filter fun r => !isValid c r) := by
  rw [weightSum, weightSum, weightSum, ← sum_append, ← map_append]
  exact (((filter_append_perm _ _).map _).sum_eq).symm

theorem weightSum_le : weightSum c.rule.backendRefs ≤ 16000000 := by
  have := sum_le_card_nsmul (c.rule.backendRefs.map fun r => (r.weight.getD 1).toNat) 1000000
    (by simpa using c.bounded)
  rw [length_map, smul_eq_mul] at this
  have := c.few
  unfold weightSum
  omega

theorem keepsShares_iff : KeepsShares c ↔ InvalidWeightless c := by
  have ht := totalOf_entries c
  have hsp := weightSum_split c c.rule.backendRefs
  have hle := weightSum_le c
  have href := backendRefs_compiled c
  have hn : c.rule.backendRefs.filter (isValid c) ≠ [] → ∀ start,
      (cycle c start).count none = 0 := by
    intro hne start
    refine count_eq_zero.2 fun hm => ?_
    obtain ⟨j, -, hj⟩ := mem_map.1 hm
    exact answers_ne_none (by simpa [href] using hne) hj
  have hze : weightSum (c.rule.backendRefs.filter fun r => !isValid c r) = 0 ↔
      ∀ r ∈ c.rule.backendRefs, isValid c r = false → r.weight = some 0 := by
    simp only [weightSum, sum_eq_zero_iff, mem_map, mem_filter, Bool.not_eq_true']
    refine ⟨fun h r hr hv => ?_, ?_⟩
    · have hw := h _ ⟨r, ⟨hr, hv⟩, rfl⟩
      cases hwe : r.weight <;> simp_all [← UInt32.toNat_inj]
    · rintro h _ ⟨r, ⟨hr, hv⟩, rfl⟩
      rw [h r hr hv]
      rfl
  constructor
  · intro h
    by_cases hne : c.rule.backendRefs.filter (isValid c) = []
    · exact .inl hne
    · have hres := (h 0 (by omega)).2
      rw [hn hne 0] at hres
      exact .inr (hze.1 hres.symm)
  · intro h start hst
    by_cases hne : c.rule.backendRefs.filter (isValid c) = []
    · have hl : (entries (compiled c)).length = 0 := by
        simp [entries, href, hne]
      refine ⟨fun i => absurd i.2 (by omega), ?_⟩
      -- nothing is there to choose
      have ha : ∀ b ∈ cycle c start, none = b := by
        intro b _
        cases b with
        | none => rfl
        | some i => exact absurd i.2 (by omega)
      rw [count_eq_length.2 ha, cycle, length_map, length_range', hsp, hne]
      exact Nat.zero_add _
    · have hz := hze.2 (h.resolve_left hne)
      refine ⟨fun i => ?_, (hn hne start).trans hz.symm⟩
      have heq : weightSum c.rule.backendRefs = totalOf (entries (compiled c)) := by
        omega
      rw [cycle, heq]
      rcases Nat.eq_zero_or_pos (totalOf (entries (compiled c))) with h0 | h0
      · rw [h0]
        have hi := sum_eq_zero_iff.1 h0 _ (mem_map.2 ⟨_, get_mem _ i, rfl⟩)
        exact hi.symm
      · rw [← count_placeAt]
        congr 1
        refine map_congr_left fun j hj => ?_
        rw [answers_eq h0 (by omega), UInt64.toNat_ofNat_of_lt']
        have := mem_range'_1.1 hj
        show j < 2 ^ 64
        omega

/-- One of two references of one weight is to a kind that is not supported. -/
def halfInvalid : Reconciled where
  store := {}
  ns := "default"
  rule := { backendRefs := [{ name := "a" }, { name := "b", kind := some "Bucket" }] }
  few := by decide
  bounded := by decide

theorem halfInvalid_not_keepsShares : ¬ KeepsShares halfInvalid := by
  intro h
  exact absurd (h 0 (by decide)).2 (by decide +kernel)

end Invalid

section Mirrors

/-- `((n as f64 / d as f64) * 100.0).round() as u32`. Up to a tenfold fraction the errors of the
operations are too small to cross a tie, and at half a percent they land on it. -/
structure Rounding where
  percentOf : UInt32 → UInt32 → UInt32
  near : ∀ n d, n.toNat ≤ 10 * d.toNat →
    2 * (d.toNat * (percentOf n d).toNat) ≤ 200 * n.toNat + d.toNat ∧
      200 * n.toNat ≤ 2 * (d.toNat * (percentOf n d).toNat) + d.toNat
  half : ∀ n d, 0 < d → 200 * n.toNat = d.toNat → percentOf n d = 1

/-- The filter with its percentage and its fraction, whose denominator may be left out. -/
structure HTTPRequestMirrorFilter where
  percent : Option UInt32 := none
  fraction : Option (UInt32 × Option UInt32) := none

def mirrorPercent (r : Rounding) (f : HTTPRequestMirrorFilter) : UInt32 :=
  match f.fraction with
  | some (n, d) => if 0 < d.getD 100 then r.percentOf n (d.getD 100) else 0
  | none => f.percent.getD 0

/-- How many of the 100 slots a roll may fall into let the request be mirrored. -/
def mirrorShare (percent : UInt32) : Nat :=
  ((Finset.range 100).filter fun roll => mirrorFires ⟨"", 80, percent⟩ roll).card

/-- The share of the requests that was asked for is mirrored, of a fraction to one percent. -/
def MirrorsAsAsked (r : Rounding) (f : HTTPRequestMirrorFilter) : Prop :=
  let share := mirrorShare (mirrorPercent r f)
  match f.fraction, f.percent with
  | some (n, d), _ => 0 < d.getD 100 →
    (d.getD 100).toNat * share ≤ 100 * n.toNat + (d.getD 100).toNat ∧
      100 * n.toNat ≤ (d.getD 100).toNat * share + (d.getD 100).toNat
  | none, some p => p ≤ 100 → share = p.toNat
  | none, none => True

/-- A percentage other than 0, or a fraction from half a percent to 101 percent. -/
def Samples (f : HTTPRequestMirrorFilter) : Prop :=
  match f.fraction, f.percent with
  | some (n, d), _ => 0 < d.getD 100 →
    (d.getD 100).toNat ≤ 200 * n.toNat ∧ 100 * n.toNat ≤ 101 * (d.getD 100).toNat
  | none, some p => p ≤ 100 → p ≠ 0
  | none, none => True

theorem mirrorShare_eq (p : UInt32) :
    mirrorShare p = if p.toNat = 0 then 100 else min p.toNat 100 := by
  have hs : (Finset.range 100).filter (fun roll => mirrorFires ⟨"", 80, p⟩ roll) =
      Finset.range (if p.toNat = 0 then 100 else min p.toNat 100) := by
    ext roll
    simp only [Finset.mem_filter, Finset.mem_range, mirrorFires, UInt32.lt_iff_toNat_lt,
      Bool.or_eq_true, Bool.not_eq_true', Bool.and_eq_false_iff, decide_eq_false_iff_not,
      decide_eq_true_eq, UInt32.toNat_zero, UInt32.reduceToNat]
    split <;> omega
  rw [mirrorShare, hs, Finset.card_range]

/-- Mirroring the nearest whole percentage `r`, where 0 means all, keeps within one percent of the
fraction exactly from half a percent to 101 percent. -/
theorem within_iff (hd : 0 < d) (near : n ≤ 10 * d → 2 * (d * r) ≤ 200 * n + d ∧
    200 * n ≤ 2 * (d * r) + d) (half : 200 * n = d → r = 1) :
    (d * (if r = 0 then 100 else min r 100) ≤ 100 * n + d ∧
      100 * n ≤ d * (if r = 0 then 100 else min r 100) + d) ↔
      d ≤ 200 * n ∧ 100 * n ≤ 101 * d := by
  rcases Nat.eq_zero_or_pos r with rfl | hr
  · rw [if_pos rfl]
    omega
  · rw [if_neg hr.ne']
    rcases Nat.le_total r 100 with h | h
    · rw [min_eq_left h]
      have h1 : d * 1 ≤ d * r := Nat.mul_le_mul_left d hr
      have h2 : d * r ≤ d * 100 := Nat.mul_le_mul_left d h
      omega
    · rw [min_eq_right h]
      have h1 : d * 100 ≤ d * r := Nat.mul_le_mul_left d h
      omega

/-- What was asked for is mirrored just where the share is not taken for all requests, and can be
reached. -/
theorem mirrorsAsAsked_iff (r : Rounding) (f : HTTPRequestMirrorFilter) :
    MirrorsAsAsked r f ↔ Samples f := by
  obtain ⟨p, fr⟩ := f
  match fr, p with
  | none, none => exact Iff.rfl
  | none, some p =>
    refine imp_congr_right fun hp => ?_
    show mirrorShare p = p.toNat ↔ ¬ p = 0
    have hp : p.toNat ≤ 100 := UInt32.le_iff_toNat_le.1 hp
    rw [mirrorShare_eq, ← UInt32.toNat_inj, UInt32.toNat_zero]
    split <;> omega
  | some (n, d), p =>
    refine imp_congr_right fun hd => ?_
    have hr : mirrorPercent r ⟨p, some (n, d)⟩ = r.percentOf n (d.getD 100) := if_pos hd
    rw [hr, mirrorShare_eq]
    refine within_iff (UInt32.lt_iff_toNat_lt.1 hd) (r.near n _) fun h => ?_
    rw [r.half n _ hd h]
    rfl

/-- Rounding without errors, a tie upwards. -/
def Rounding.exact : Rounding where
  percentOf n d := .ofNat ((200 * n.toNat + d.toNat) / (2 * d.toNat))
  near n d h := by
    rcases Nat.eq_zero_or_pos d.toNat with hd | hd
    · simp_all
    · have hq := Nat.div_add_mod (200 * n.toNat + d.toNat) (2 * d.toNat)
      have hm := Nat.mod_lt (200 * n.toNat + d.toNat) (by omega : 0 < 2 * d.toNat)
      have hb : (200 * n.toNat + d.toNat) / (2 * d.toNat) ≤ 1001 :=
        Nat.div_le_of_le_mul (by omega)
      rw [Nat.mul_assoc] at hq
      rw [UInt32.toNat_ofNat_of_lt' (hb.trans_lt (by decide))]
      omega
  half n d hd h := by
    rw [h, ← Nat.two_mul, Nat.div_self (by have := UInt32.lt_iff_toNat_lt.1 hd; omega)]
    rfl

-- every request is mirrored with a percentage of 0
example : ¬ MirrorsAsAsked .exact ⟨some 0, none⟩ := fun h => absurd (h (by decide)) (by decide)

end Mirrors

end Portus.BackendShares

import Mathlib.Data.Int.CardIntervalMod
import Portus.BackendShares
import Portus.DataPlane.Planner

/-!
# Choosing in turn

`L4RouteTarget::select` takes a number from a shared counter and then looks for the backend whose
share of the total holds it. The two steps of a call may be any time apart, with other calls in
between; what a call chooses depends on its number only.

`Pool::select` takes a number too, and walks on from there to the first ready endpoint: the turns of
an endpoint that is not ready all go to the next ready one.
-/

namespace Portus.Turns

open Lib DataPlane List Nat UInt64

section Streams

variable (target : L4RouteTarget)

def totalWeight : Nat := (target.backends.map fun b => b.weight.toNat).sum

/-- The place in the list of the backend that is chosen. -/
def placeAt (number : UInt64) : Option (Fin target.backends.length) :=
  pickFrom (fun i => (target.backends.get i).weight.toNat)
    (number.toNat % (totalWeight target % 2 ^ 64)) 0 (finRange target.backends.length)

/-- The counter, the numbers of the calls on their way, and what the other calls returned. -/
structure Calls where
  counter : UInt64 := 0
  taken : List UInt64 := []
  returned : List (UInt64 × Option (Fin target.backends.length)) := []

/-- A call takes a number, or the call with a number returns. -/
inductive Move where
  | enter
  | leave (number : UInt64)
deriving DecidableEq

def step (s : Calls target) : Move → Calls target
  | .enter =>
    -- Without weights a call returns nothing, and takes no number.
    if totalWeight target % 2 ^ 64 = 0 then s
    else { s with counter := s.counter + 1, taken := s.taken ++ [s.counter] }
  | .leave number =>
    if number ∈ s.taken then
      { s with
        taken := s.taken.erase number
        returned := s.returned ++ [(number, placeAt target number)] }
    else s

theorem select_eq : target.select number =
    if totalWeight target % 2 ^ 64 = 0 then none
    else (placeAt target number).map target.backends.get := by
  rw [placeAt, ← pickFrom_map (fun b : L4Backend => b.weight.toNat), map_get_finRange]
  rfl

/-- What the calls with the `count` numbers from `first` on returned. -/
def windowOf (s : Calls target) (first count : Nat) : List (Option (Fin target.backends.length)) :=
  (s.returned.filter fun r => decide (first ≤ r.1.toNat ∧ r.1.toNat < first + count)).map (·.2)

structure Proportional (s : Calls target) : Prop where
  selected : ∀ r ∈ s.returned, r.2.map target.backends.get = target.select r.1
  exactly : ∀ first,
    (∀ j ∈ range' first (totalWeight target), ∃ r ∈ s.returned, r.1.toNat = j) →
    ∀ i, (windowOf target s first (totalWeight target)).count (some i) =
      (target.backends.get i).weight.toNat
  weighted : ∀ number, ∀ b ∈ target.select number, b.weight ≠ 0
  /-- More than 2^32 backends, which take 128 GiB, may wrap the total. -/
  refused : target.backends.length ≤ 2 ^ 32 →
    ∀ number, target.select number = none ↔ ∀ b ∈ target.backends, b.weight = 0

variable {target}

def numbers (s : Calls target) : List UInt64 := s.taken ++ s.returned.map (·.1)

structure Inv (s : Calls target) : Prop where
  nodup : (numbers s).Nodup
  below : ∀ v ∈ numbers s, v < s.counter
  placed : ∀ r ∈ s.returned, r.2 = placeAt target r.1
  weights : ∀ v ∈ numbers s, totalWeight target % 2 ^ 64 ≠ 0

theorem inv_enter {s : Calls target} (h : Inv s) (hc : s.counter.toNat + 1 < 2 ^ 64) :
    Inv (step target s .enter) := by
  rw [step]
  split
  · exact h
  next h0 =>
    have hp : numbers { s with counter := s.counter + 1, taken := s.taken ++ [s.counter] } ~
        s.counter :: numbers s := by
      simp only [numbers, append_assoc, singleton_append]
      exact perm_middle
    refine ⟨hp.nodup_iff.2 (nodup_cons.2 ⟨fun hm => ?_, h.nodup⟩), fun v hv => ?_, h.placed,
      fun _ _ => h0⟩
    · exact absurd (h.below _ hm) (UInt64.lt_irrefl _)
    · have hle : v.toNat ≤ s.counter.toNat := by
        rcases mem_cons.1 (hp.mem_iff.1 hv) with rfl | hv
        · exact le_rfl
        · exact (lt_iff_toNat_lt.1 (h.below v hv)).le
      rw [UInt64.lt_iff_toNat_lt, UInt64.toNat_add, UInt64.toNat_one, mod_eq_of_lt hc]
      exact lt_succ_of_le hle

theorem inv_leave {s : Calls target} (h : Inv s) :
    Inv (step target s (.leave number)) := by
  rw [step]
  split
  next hm =>
    have hp : s.taken.erase number ++ (s.returned ++ [(number, placeAt target number)]).map (·.1) ~
        numbers s := by
      rw [map_append, ← append_assoc]
      exact perm_append_comm.trans ((perm_cons_erase hm).symm.append_right _)
    refine ⟨hp.nodup_iff.2 h.nodup, fun v hv => h.below v (hp.mem_iff.1 hv), fun r hr => ?_,
      fun v hv => h.weights v (hp.mem_iff.1 hv)⟩
    rcases mem_append.1 hr with hr | hr
    · exact h.placed r hr
    · rw [mem_singleton.1 hr]
  next => exact h

theorem counter_enter (s : Calls target) (hc : s.counter.toNat + 1 < 2 ^ 64) :
    (step target s .enter).counter.toNat ≤ s.counter.toNat + 1 := by
  rw [step]
  split
  · exact le_succ _
  · exact (mod_eq_of_lt hc).le

/-- The numbers of fewer than 2^64 calls are distinct, whatever the order of the steps. -/
theorem inv_run {s : Calls target} {moves : List Move} (h : Inv s)
    (hc : s.counter.toNat + moves.count .enter < 2 ^ 64) : Inv (run (step target) s moves) := by
  induction moves generalizing s with
  | nil => exact h
  | cons m moves ih =>
    cases m with
    | enter =>
      rw [count_cons_self] at hc
      have hs := counter_enter s (by omega)
      exact ih (inv_enter h (by omega)) (by omega)
    | leave number =>
      refine ih (inv_leave h) (lt_of_le_of_lt ?_ hc)
      rw [step]
      split <;> exact le_rfl

theorem perm_range' {l : List (UInt64 × α)} (hl : (l.map (·.1)).Nodup)
    (h : ∀ j ∈ range' n k, ∃ r ∈ l, r.1.toNat = j) :
    (l.filter fun r => decide (n ≤ r.1.toNat ∧ r.1.toNat < n + k)).map (fun r => r.1.toNat) ~
      range' n k := by
  have hn : (l.map fun r => r.1.toNat).Nodup := by
    simpa [Function.comp_def] using hl.map fun _ _ => UInt64.toNat_inj.1
  refine (perm_ext_iff_of_nodup (hn.sublist (filter_sublist.map _)) nodup_range').2 fun j =>
    ⟨fun hj => ?_, fun hj => ?_⟩
  · obtain ⟨r, hr, rfl⟩ := mem_map.1 hj
    exact mem_range'_1.2 (of_decide_eq_true (mem_filter.1 hr).2)
  · obtain ⟨r, hr, rfl⟩ := h j hj
    exact mem_map_of_mem (mem_filter.2 ⟨hr, decide_eq_true (mem_range'_1.1 hj)⟩)

theorem count_windowOf {s : Calls target} (h : Inv s)
    (hall : ∀ j ∈ range' first (totalWeight target), ∃ r ∈ s.returned, r.1.toNat = j)
    (i : Fin target.backends.length) :
    (windowOf target s first (totalWeight target)).count (some i) =
      (target.backends.get i).weight.toNat := by
  have hlt : totalWeight target < 2 ^ 64 := by
    by_contra hge
    obtain ⟨r, hr, hj⟩ := hall (first + (2 ^ 64 - 1)) (mem_range'_1.2 ⟨le_add_right _ _, by omega⟩)
    have hv := h.below r.1 (mem_append_right _ (mem_map_of_mem hr))
    have hc := s.counter.toNat_lt
    rw [lt_iff_toNat_lt] at hv
    omega
  have hr := perm_range' (nodup_append.1 h.nodup).2.1 hall
  have hc := (hr.map fun j => pickFrom (fun i => (target.backends.get i).weight.toNat)
    (j % totalWeight target) 0 (finRange target.backends.length)).count_eq (some i)
  rw [map_map] at hc
  rw [← count_places (fun b : L4Backend => b.weight.toNat) target.backends first i]
  refine Eq.trans (congrArg (count (some i)) (map_congr_left fun r hr => ?_)) hc
  rw [h.placed r (mem_filter.1 hr).1, placeAt, mod_eq_of_lt hlt]
  rfl

theorem weight_of_select (h : target.select number = some b) : b.weight ≠ 0 := by
  obtain ⟨_, _, -, hw, -⟩ := L4RouteTarget.exists_select_iff.1 ⟨number, h⟩
  intro hz
  rw [hz] at hw
  exact absurd hw (lt_irrefl 0)

theorem select_eq_none_iff (h : target.backends.length ≤ 2 ^ 32) (number : UInt64) :
    target.select number = none ↔ ∀ b ∈ target.backends, b.weight = 0 := by
  have hle : totalWeight target ≤ target.backends.length * (2 ^ 32 - 1) := by
    refine (sum_le_card_nsmul _ (2 ^ 32 - 1) ?_).trans_eq (by rw [length_map, smul_eq_mul])
    intro w hw
    obtain ⟨b, -, rfl⟩ := mem_map.1 hw
    exact le_sub_one_of_lt b.weight.toNat_lt
  have hlt : totalWeight target < 2 ^ 64 :=
    (hle.trans (mul_le_mul_right _ h)).trans_lt (by decide)
  have hz : totalWeight target = 0 ↔ ∀ b ∈ target.backends, b.weight = 0 := by
    rw [totalWeight, sum_eq_zero_iff, forall_mem_map]
    simp only [← UInt32.toNat_inj, UInt32.toNat_zero]
  rw [← hz, select_eq, mod_eq_of_lt hlt]
  split
  next h0 => exact iff_of_true rfl h0
  next h0 =>
    have hp : (placeAt target number).isSome := by
      refine pickFrom_isSome (zero_le _) ?_
      rw [sum_places (fun b : L4Backend => b.weight.toNat), zero_add, mod_eq_of_lt hlt]
      exact mod_lt _ (pos_of_ne_zero h0)
    exact iff_of_false (by simpa using Option.isSome_iff_ne_none.1 hp) h0

theorem proportional_run (target : L4RouteTarget) (moves : List Move)
    (h : moves.count .enter < 2 ^ 64) : Proportional target (run (step target) {} moves) := by
  have hs : Inv ({} : Calls target) := by
    constructor <;> simp [numbers]
  have hi := inv_run hs (by simpa using h)
  refine ⟨fun r hr => ?_, fun _ hall => count_windowOf hi hall, fun _ _ hb => weight_of_select hb,
    select_eq_none_iff⟩
  have hw := hi.weights r.1 (mem_append_right _ (mem_map_of_mem hr))
  rw [select_eq, if_neg hw, hi.placed r hr]

/-- Two calls cross: the first to take a number is the last to return. -/
theorem proportional_crossing : Proportional ⟨[⟨"a", 80, 1⟩, ⟨"b", 80, 1⟩]⟩
    (run (step _) {} [.enter, .enter, .leave 1, .leave 0]) :=
  proportional_run _ _ (by decide)

end Streams

section Pools

/-- `Pool::new` leaves no address twice; a vector has fewer than 2^63 elements. -/
structure Built extends LivePool where
  distinct : (endpoints.map (·.1)).Nodup
  fits : endpoints.length < 2 ^ 63

def ready (endpoints : List (SocketAddr × Bool)) : List SocketAddr :=
  (endpoints.filter (·.2)).map (·.1)

/-- What consecutive calls choose while no endpoint changes. -/
def picks (p : LivePool) : Nat → List (Option SocketAddr)
  | 0 => []
  | k + 1 => p.selected :: picks { p with next := p.next + 1 } k

/-- From whatever position, as long as the counter does not wrap. -/
def Fair (p : LivePool) : Prop :=
  ∀ start k, start + k + p.endpoints.length ≤ 2 ^ 64 → ∀ a ∈ ready p.endpoints,
    let times := (picks { p with next := UInt64.ofNat start } k).count (some a)
    let shares := (ready p.endpoints).length
    times = k / shares ∨ times = (k + shares - 1) / shares

/-- What a call chooses from a position: the first ready endpoint of the list turned there. -/
def turnAt (endpoints : List (SocketAddr × Bool)) (start : Nat) : Option SocketAddr :=
  (ready (endpoints.rotate start)).head?

theorem selected_eq (p : LivePool) : p.selected = turnAt p.endpoints p.next.toNat := by
  let read (ep : SocketAddr × Bool) : Option SocketAddr := if ep.2 then some ep.1 else none
  have hl : (range p.endpoints.length).map
      (fun i => p.endpoints[(p.next.toNat + i) % p.endpoints.length]?) =
        (p.endpoints.rotate p.next.toNat).map some := by
    refine ext_getElem (by simp) fun i hi _ => ?_
    rw [getElem_map, getElem_map, getElem_range, getElem_rotate, add_comm, getElem?_eq_getElem]
  calc p.selected
      = ((range p.endpoints.length).map fun i =>
          p.endpoints[(p.next.toNat + i) % p.endpoints.length]?).findSome? (·.bind read) := by
        rw [findSome?_map]
        rfl
    _ = (p.endpoints.rotate p.next.toNat).findSome? read := by
        rw [hl, findSome?_map]
        rfl
    _ = turnAt p.endpoints p.next.toNat := by
        rw [turnAt, ready, ← filterMap_eq_map, filterMap_filter, head?_filterMap]
        rfl

theorem picks_eq {p : LivePool} (h : start + k < 2 ^ 64 + 1) :
    picks { p with next := ofNat start } k =
      (range k).map fun j => turnAt p.endpoints (start + j) := by
  induction k generalizing start with
  | zero => rfl
  | succ k ih =>
    have hs : (UInt64.ofNat start).toNat = start := UInt64.toNat_ofNat_of_lt' (by
      rw [UInt64.size]; omega)
    have hn : UInt64.ofNat start + 1 = UInt64.ofNat (start + 1) := by
      rw [ofNat_add]
      rfl
    rw [picks, range_succ_eq_map, map_cons, map_map]
    rw [hn, ih (by omega), selected_eq, hs]
    refine congrArg₂ cons rfl (map_congr_left fun j _ => ?_)
    rw [Function.comp_apply, add_assoc, add_comm 1]

/-- Among consecutive numbers, those of one remainder are as many as the quotient, or one more. -/
theorem count_turns (hi : i < n) :
    (range k).countP (fun j => decide ((start + j) % n = i)) = k / n ∨
      (range k).countP (fun j => decide ((start + j) % n = i)) = (k + n - 1) / n := by
  have hn : 0 < n := zero_lt_of_lt hi
  -- How far the remainder is from the first number, around the end.
  obtain ⟨v, hv⟩ : ∃ v, (start + v) % n = i := by
    refine ⟨i + n * start - start, ?_⟩
    rw [Nat.add_sub_cancel' (le_add_left_of_le (Nat.le_mul_of_pos_left start hn)),
      add_mul_mod_self_left, mod_eq_of_lt hi]
  have hc : (range k).countP (fun j => decide ((start + j) % n = i)) =
      k / n + if v % n < k % n then 1 else 0 := by
    rw [← Nat.count_modEq_card k hn]
    refine countP_congr fun j _ => ?_
    rw [decide_eq_true_iff, decide_eq_true_iff, ← hv]
    exact ⟨Nat.ModEq.add_left_cancel' start, Nat.ModEq.add_left start⟩
  rw [hc]
  split
  next hlt =>
    right
    have hd := div_add_mod k n
    have hm := mod_lt k hn
    refine (Nat.div_eq_of_lt_le ?_ ?_).symm <;> rw [Nat.mul_comm] <;>
      simp only [Nat.mul_add, Nat.mul_one] <;> omega
  next => exact .inl rfl

theorem fair_of_all {p : Built} (h : ∀ ep ∈ p.endpoints, ep.2 = true) : Fair p.toLivePool := by
  intro start k hk a ha
  have hr : ready p.endpoints = p.endpoints.map (·.1) := by
    rw [ready, filter_eq_self.2 h]
  obtain ⟨i, hi, rfl⟩ := mem_iff_getElem.1 (hr ▸ ha)
  have hl : 0 < p.endpoints.length := by simpa using zero_lt_of_lt hi
  have ht (start : Nat) : turnAt p.endpoints start =
      (p.endpoints.map (·.1))[start % p.endpoints.length]? := by
    rw [turnAt, ready, filter_eq_self.2 fun ep he => h ep (mem_rotate.1 he), head?_map, ← rotate_mod,
      head?_rotate (mod_lt _ hl), getElem?_map]
  rw [picks_eq (by omega), hr, length_map, count_eq_countP, countP_map]
  rw [length_map] at hi
  convert count_turns hi using 3 <;>
  · funext j
    rw [Function.comp_apply, ht, Bool.eq_iff_iff, beq_iff_eq, decide_eq_true_iff,
      ← getElem?_eq_getElem]
    exact getElem?_inj (by simpa using mod_lt (start + j) hl) p.distinct

theorem fair_of_one {p : LivePool} (h : (ready p.endpoints).length ≤ 1) : Fair p := by
  intro start k hk a ha
  have ho : ready p.endpoints = [a] := by
    obtain ⟨b, hb⟩ := length_eq_one_iff.1 (le_antisymm h (length_pos_of_mem ha))
    rw [hb] at ha
    rw [hb, mem_singleton.1 ha]
  have ht (j : Nat) : turnAt p.endpoints (start + j) = some a := by
    have hp : ready (p.endpoints.rotate (start + j)) ~ [a] :=
      ho ▸ ((rotate_perm _ _).filter _).map _
    rw [turnAt, perm_singleton.1 hp]
    rfl
  rw [picks_eq (by omega), ho, map_congr_left fun j _ => ht j, map_const', length_range,
    count_replicate_self]
  exact .inl (Nat.div_one k).symm

/-- Behind an endpoint that is not ready, the first ready one follows one that is not. -/
theorem exists_follows {l : List (SocketAddr × Bool)} (h : ∃ ep ∈ l, ep.2 = true)
    (b : SocketAddr) (m : List (SocketAddr × Bool)) : ∃ k c d rest,
      ((b, false) :: (l ++ m)).rotate k = (c, false) :: (d, true) :: rest := by
  induction l generalizing b m with
  | nil => simp at h
  | cons ep l ih =>
    obtain ⟨c, up⟩ := ep
    cases up with
    | true => exact ⟨0, b, c, l ++ m, rotate_zero _⟩
    | false =>
      obtain ⟨k, hk⟩ := ih (by simpa using h) c (m ++ [(b, false)])
      refine ⟨k + 1, ?_⟩
      simpa using hk

theorem fair_iff (p : Built) : Fair p.toLivePool ↔
    (ready p.endpoints).length ≤ 1 ∨ ∀ ep ∈ p.endpoints, ep.2 = true := by
  refine ⟨fun h => ?_, fun h => h.elim fair_of_one fair_of_all⟩
  by_contra hno
  simp only [not_or, not_forall] at hno
  obtain ⟨h1, ⟨b, r⟩, hb, hr⟩ := hno
  have hr : r = false := Bool.eq_false_iff.2 hr
  rw [hr] at hb
  obtain ⟨u, hu, c, d, rest, hd⟩ : ∃ u < p.endpoints.length, ∃ c d rest,
      p.endpoints.rotate u = (c, false) :: (d, true) :: rest := by
    obtain ⟨l, m, hl⟩ := append_of_mem hb
    have hex : ∃ ep ∈ m ++ l, ep.2 = true := by
      obtain ⟨a, ha⟩ := exists_mem_of_length_pos (by omega : 0 < (ready p.endpoints).length)
      obtain ⟨ep, he, -⟩ := mem_map.1 ha
      exact ⟨ep, by grind, (mem_filter.1 he).2⟩
    obtain ⟨k, c, d, rest, hk⟩ := exists_follows hex b []
    refine ⟨(l.length + k) % p.endpoints.length, mod_lt _ (length_pos_of_mem hb), c, d, rest, ?_⟩
    rw [rotate_mod, ← rotate_rotate, hl, ← hk]
    simp
  have hf := p.fits
  -- The unready endpoint's turn and its own both go to the next one.
  have hp : (picks { p.toLivePool with next := ofNat u } 2).count (some d) = 2 := by
    rw [picks_eq (by omega)]
    simp [range_succ, turnAt, ready, ← rotate_rotate, hd]
  have hm : d ∈ ready p.endpoints := by
    refine mem_map.2 ⟨(d, true), mem_filter.2 ⟨?_, rfl⟩, rfl⟩
    rw [← mem_rotate, hd]
    exact mem_cons_of_mem _ mem_cons_self
  have ht := h u 2 (by omega) d hm
  rw [hp] at ht
  have h2 : 2 / (ready p.endpoints).length ≤ 1 := Nat.div_le_of_le_mul (by omega)
  have h3 : (2 + (ready p.endpoints).length - 1) / (ready p.endpoints).length ≤ 1 :=
    Nat.lt_succ_iff.1 (Nat.div_lt_of_lt_mul (by omega))
  omega

/-- Of three endpoints the middle one is out. -/
def middleOut : Built where
  endpoints := [(.v4 [10, 0, 0, 1] 80, true), (.v4 [10, 0, 0, 2] 80, false), (.v4 [10, 0, 0, 3] 80, true)]
  distinct := by decide
  fits := by decide

theorem middleOut_not_fair : ¬ Fair middleOut.toLivePool := by
  intro h
  exact absurd (h 1 2 (by decide) (.v4 [10, 0, 0, 3] 80) (by decide)) (by decide)

end Pools

end Portus.Turns

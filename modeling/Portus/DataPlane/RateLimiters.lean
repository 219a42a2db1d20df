import Portus.DataPlane.Router

/-!
# Rate limiters of rules

`build_listener_buckets_from_proto` gives a rule with a rate limit the limiter that the tables in
force hold for its group, path, kind of match and limit (`find_rate_limiter`), and a new one if
there is none. Rules that find the same one share it from then on.
-/

namespace Portus.DataPlane

open Portus Lib Proto List Option

/-- What a limiter is found by. -/
structure RateSetting where
  path : String
  matchType : PathMatchType
  rps : UInt32
  perClient : Bool
deriving DecidableEq

def rateSetting (r : PathRoute) : Option RateSetting :=
  r.spec.rateLimit.map fun rl => ⟨r.path, r.matchType, rl.requestsPerSecond, rl.perClient⟩

/-- A limiter by where it was made: by which of the applied configurations, and for which rule. -/
structure LimiterId where
  applied : Nat
  key : GroupKey
  index : Nat
deriving DecidableEq

structure BoundRule where
  rule : PathRoute
  limiter : Option LimiterId

/-- The rules of each group as they were made. -/
abbrev BoundRules := GroupKey → List BoundRule

/-- The exact rules by path, of which those of one path are in this order, and then the others. -/
def walked (old : List BoundRule) : List BoundRule :=
  byRank (specificity ·.rule) (old.filter (·.rule.matchType == .exact)) ++
    byRank (prefixRank ·.rule) (old.filter (·.rule.matchType != .exact))

def findRateLimiter (old : List BoundRule) (wanted : RateSetting) : Option LimiterId :=
  (walked old).findSome? fun b => if rateSetting b.rule = some wanted then b.limiter else none

def groupRules (libs : RouterLibs) (routes : List RouteConfig) (key : GroupKey) : List PathRoute :=
  (routes.filter (groupKey · = key)).flatMap (pathRoutes libs)

def bindLimiters (libs : RouterLibs) (old : BoundRules) (applied : Nat)
    (routes : List RouteConfig) : BoundRules := fun key =>
  (groupRules libs routes key).zipIdx.map fun (r, i) => ⟨r, (rateSetting r).map fun wanted =>
    (findRateLimiter (old key) wanted).getD ⟨applied, key, i⟩⟩

def limiterAt (bound : BoundRules) (p : GroupKey × Nat) : Option LimiterId :=
  (bound p.1)[p.2]?.bind (·.limiter)

/-- The rules at two places take their tokens from one limiter. -/
def SharesLimiter (bound : BoundRules) (p q : GroupKey × Nat) : Prop :=
  ∃ id, limiterAt bound p = some id ∧ limiterAt bound q = some id

/-- Every limiter was made for a rule of its group by an earlier configuration, and is that of
rules with one setting. -/
structure Recorded (applied : Nat) (bound : BoundRules) : Prop where
  limited : ∀ key, ∀ b ∈ bound key, b.limiter.isSome = (rateSetting b.rule).isSome
  made : ∀ key, ∀ b ∈ bound key, ∀ id ∈ b.limiter, id.key = key ∧ id.applied < applied
  setting : ∀ key, ∀ b ∈ bound key, ∀ b' ∈ bound key, ∀ id ∈ b.limiter, id ∈ b'.limiter →
    rateSetting b.rule = rateSetting b'.rule

/-- No two rules of a group find the limiter of one setting. -/
def LimitersApart (libs : RouterLibs) (old : BoundRules) (routes : List RouteConfig) : Prop :=
  ∀ key wanted, (∃ b ∈ old key, rateSetting b.rule = some wanted) →
    ∀ i j : Nat, (groupRules libs routes key)[i]?.bind rateSetting = some wanted →
      (groupRules libs routes key)[j]?.bind rateSetting = some wanted → i = j

variable {libs : RouterLibs} {applied : Nat} {old : BoundRules}

theorem mem_walked {rules : List BoundRule} {b : BoundRule} : b ∈ walked rules ↔ b ∈ rules := by
  simp only [walked, mem_append, (perm_byRank _ _).mem_iff, mem_filter, bne, Bool.not_eq_true',
    ← and_or_left, Bool.eq_true_or_eq_false_self, and_true]

theorem exists_of_findRateLimiter {rules : List BoundRule} {wanted : RateSetting} {id : LimiterId}
    (h : findRateLimiter rules wanted = some id) :
    ∃ b ∈ rules, rateSetting b.rule = some wanted ∧ b.limiter = some id := by
  obtain ⟨b, hb, hf⟩ := exists_of_findSome?_eq_some h
  split at hf
  next hs => exact ⟨b, mem_walked.1 hb, hs, hf⟩
  next => cases hf

theorem findRateLimiter_isSome {rules : List BoundRule} {wanted : RateSetting} {b : BoundRule}
    (hb : b ∈ rules) (hs : rateSetting b.rule = some wanted) (hl : b.limiter.isSome = true) :
    (findRateLimiter rules wanted).isSome = true :=
  findSome?_isSome_iff.2 ⟨b, mem_walked.2 hb, by rwa [if_pos hs]⟩

theorem limiterAt_bindLimiters (routes : List RouteConfig) (p : GroupKey × Nat) :
    limiterAt (bindLimiters libs old applied routes) p =
      ((groupRules libs routes p.1)[p.2]?.bind rateSetting).map fun wanted =>
        (findRateLimiter (old p.1) wanted).getD ⟨applied, p.1, p.2⟩ := by
  simp only [limiterAt, bindLimiters, getElem?_map, getElem?_zipIdx, Nat.zero_add]
  cases (groupRules libs routes p.1)[p.2]? <;> rfl

/-- Two rules share a limiter exactly if they are one rule, or both found the one that a rule of
their setting had. -/
theorem sharesLimiter_bindLimiters_iff (h : Recorded applied old) (routes : List RouteConfig)
    (key key' : GroupKey) (i j : Nat) :
    SharesLimiter (bindLimiters libs old applied routes) (key, i) (key', j) ↔
      key = key' ∧ ∃ wanted, (groupRules libs routes key)[i]?.bind rateSetting = some wanted ∧
        (groupRules libs routes key')[j]?.bind rateSetting = some wanted ∧
          (i = j ∨ ∃ b ∈ old key, rateSetting b.rule = some wanted) := by
  simp only [SharesLimiter, limiterAt_bindLimiters, map_eq_some_iff]
  constructor
  · rintro ⟨id, ⟨wanted, hw, hid⟩, wanted', hw', hid'⟩
    cases hf : findRateLimiter (old key) wanted with
    | some a =>
      obtain ⟨b, hb, hs, hl⟩ := exists_of_findRateLimiter hf
      obtain rfl : a = id := by rwa [hf] at hid
      cases hf' : findRateLimiter (old key') wanted' with
      | some a' =>
        obtain ⟨b', hb', hs', hl'⟩ := exists_of_findRateLimiter hf'
        obtain rfl : a' = a := by rwa [hf'] at hid'
        obtain rfl : key = key' :=
          (h.made key b hb a' hl).1.symm.trans (h.made key' b' hb' a' hl').1
        have heq := (h.setting key b hb b' hb' a' hl hl').symm.trans hs
        exact ⟨rfl, wanted, hw, by rw [hw', ← hs', heq], .inr ⟨b, hb, hs⟩⟩
      | none =>
        rw [hf', getD_none] at hid'
        exact absurd (congrArg LimiterId.applied hid') (h.made key b hb a hl).2.ne'
    | none =>
      rw [hf, getD_none] at hid
      cases hf' : findRateLimiter (old key') wanted' with
      | some a' =>
        obtain ⟨b', hb', -, hl'⟩ := exists_of_findRateLimiter hf'
        rw [hf', getD_some] at hid'
        exact absurd (congrArg LimiterId.applied (hid.trans hid'.symm))
          (h.made key' b' hb' a' hl').2.ne'
      | none =>
        rw [hf', getD_none] at hid'
        cases hid.trans hid'.symm
        exact ⟨rfl, wanted, hw, hw, .inl rfl⟩
  · rintro ⟨rfl, wanted, hw, hw', heq⟩
    refine ⟨_, ⟨wanted, hw, rfl⟩, wanted, hw', ?_⟩
    rcases heq with rfl | ⟨b, hb, hs⟩
    · rfl
    · have hl : b.limiter.isSome = true := by rw [h.limited key b hb, hs, isSome_some]
      obtain ⟨id, hid⟩ := isSome_iff_exists.1 (findRateLimiter_isSome hb hs hl)
      rw [hid, getD_some, getD_some]

theorem exists_index_of_mem_bindLimiters {routes : List RouteConfig} {key : GroupKey}
    {b : BoundRule} (hb : b ∈ bindLimiters libs old applied routes key) :
    ∃ i, (groupRules libs routes key)[i]? = some b.rule ∧
      limiterAt (bindLimiters libs old applied routes) (key, i) = b.limiter := by
  obtain ⟨i, hi⟩ := mem_iff_getElem?.1 hb
  refine ⟨i, ?_, by rw [limiterAt, hi, bind_some]⟩
  simp only [bindLimiters, getElem?_map, getElem?_zipIdx, Nat.zero_add] at hi
  cases hg : (groupRules libs routes key)[i]? with
  | none => rw [hg] at hi; cases hi
  | some r =>
    rw [hg] at hi
    cases hi
    rfl

theorem recorded_bindLimiters (h : Recorded applied old) (routes : List RouteConfig) :
    Recorded (applied + 1) (bindLimiters libs old applied routes) := by
  refine ⟨fun key b hb => ?_, fun key b hb id hid => ?_, fun key b hb b' hb' id hid hid' => ?_⟩
  · obtain ⟨⟨r, i⟩, -, rfl⟩ := mem_map.1 hb
    exact isSome_map
  · obtain ⟨⟨r, i⟩, -, rfl⟩ := mem_map.1 hb
    obtain ⟨wanted, -, rfl⟩ := map_eq_some_iff.1 hid
    cases hf : findRateLimiter (old key) wanted with
    | none => exact ⟨rfl, Nat.lt_succ_self applied⟩
    | some a =>
      obtain ⟨b, hb, -, hl⟩ := exists_of_findRateLimiter hf
      exact ⟨(h.made key b hb a hl).1, (h.made key b hb a hl).2.trans (Nat.lt_succ_self applied)⟩
  · obtain ⟨i, hi, hli⟩ := exists_index_of_mem_bindLimiters hb
    obtain ⟨j, hj, hlj⟩ := exists_index_of_mem_bindLimiters hb'
    obtain ⟨-, wanted, hw, hw', -⟩ := (sharesLimiter_bindLimiters_iff h routes key key i j).1
      ⟨id, hli.trans hid, hlj.trans hid'⟩
    rw [hi, bind_some] at hw
    rw [hj, bind_some] at hw'
    exact hw.trans hw'.symm

theorem recorded_empty : Recorded 0 fun _ => [] :=
  ⟨fun _ _ hb => (nomatch hb), fun _ _ hb => (nomatch hb), fun _ _ hb => (nomatch hb)⟩

/-- The tables in force leave the limiters as a first configuration makes them. -/
theorem sharesLimiter_eq_iff (libs : RouterLibs) (h : Recorded applied old)
    (routes : List RouteConfig) :
    SharesLimiter (bindLimiters libs old applied routes) =
        SharesLimiter (bindLimiters libs (fun _ => []) 0 routes) ↔
      LimitersApart libs old routes := by
  constructor
  · intro he key wanted hb i j hi hj
    have hs := (sharesLimiter_bindLimiters_iff h routes key key i j).2
      ⟨rfl, wanted, hi, hj, .inr hb⟩
    rw [he] at hs
    obtain ⟨-, _, -, -, heq | ⟨b, hb, -⟩⟩ :=
      (sharesLimiter_bindLimiters_iff recorded_empty routes key key i j).1 hs
    · exact heq
    · cases hb
  · intro ha
    funext ⟨key, i⟩ ⟨key', j⟩
    refine propext (((sharesLimiter_bindLimiters_iff h routes key key' i j).trans ?_).trans
      (sharesLimiter_bindLimiters_iff recorded_empty routes key key' i j).symm)
    refine and_congr_right fun hk => exists_congr fun wanted => and_congr_right fun hi =>
      and_congr_right fun hj => ⟨?_, ?_⟩
    · subst hk
      rintro (heq | hb)
      · exact .inl heq
      · exact .inl (ha key wanted hb i j hi hj)
    · rintro (heq | ⟨b, hb, -⟩)
      · exact .inl heq
      · cases hb

end Portus.DataPlane

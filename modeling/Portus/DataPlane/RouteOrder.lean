import Mathlib.Data.List.Flatten
import Portus.DataPlane.RouteChoice

/-!
# What the order of the routes decides

The routes of a configuration in another order are the same listeners with the same rules,
and so the same requests reach the same hosts. What the order decides is which of the rules
tied for a request comes first (`decideRules_eq_iff`, `tiedAlike_iff_of_perm`).
-/

namespace Portus.DataPlane

open Portus Lib Proto List

section Ties

variable (libs : RouterLibs)

/-- The rules tied for a request: they match it, and no rule that matches it outranks them. -/
def tiedRules (rules : List PathRoute) (facts : RequestFacts) : List PathRoute :=
  rules.filter fun r => ruleMatches libs facts r &&
    rules.all fun r' => !ruleMatches libs facts r' || decide (ruleRank r' ≤ ruleRank r)

/-- The rule that the Gateway API gives a request: it matches, what matches before it ranks below
it, and what matches after it does not rank above it. -/
def TakesPrecedence (rules : List PathRoute) (facts : RequestFacts) (r : PathRoute) : Prop :=
  ruleMatches libs facts r = true ∧ ∃ before after, rules = before ++ r :: after ∧
    (∀ x ∈ before, ruleMatches libs facts x = true → ruleRank x < ruleRank r) ∧
    ∀ x ∈ after, ruleMatches libs facts x = true → ruleRank x ≤ ruleRank r

def publishesMetadata (rules : List PathRoute) (facts : RequestFacts) : Bool :=
  isOauthMetadataPath facts.path && rules.any routeHasOauth

def asksForBody (rules : List PathRoute) (facts : RequestFacts) : Bool :=
  facts.bodyFields.isNone && rules.any routeNeedsBody && facts.hasRequestBody

def ReachesRules (rules : List PathRoute) (facts : RequestFacts) : Prop :=
  publishesMetadata rules facts = false ∧ asksForBody rules facts = false

/-- Lists of rules that a request does not tell apart: both, or neither, answer it before a rule is
chosen, and the rules tied for it start with the same one. -/
structure TiedAlike (rules rules' : List PathRoute) (facts : RequestFacts) : Prop where
  metadata : publishesMetadata rules facts = publishesMetadata rules' facts
  body : publishesMetadata rules facts = false → asksForBody rules facts = asksForBody rules' facts
  first : ReachesRules rules facts →
    (tiedRules libs rules facts).head? = (tiedRules libs rules' facts).head?

variable {libs} {rules rules' : List PathRoute} {facts : RequestFacts}

theorem bestRule_eq_head? : bestRule libs rules facts = (tiedRules libs rules facts).head? := by
  rw [tiedRules, bestRule]
  cases hb : (rules.filter (ruleMatches libs facts)).argmax ruleRank with
  | none =>
    rw [argmax_eq_none, filter_eq_nil_iff] at hb
    rw [filter_eq_nil_iff.2 fun r hr => by simp [hb r hr]]
    rfl
  | some top =>
    have hle (r : PathRoute) (hr : r ∈ rules) (hm : ruleMatches libs facts r = true) :
        ruleRank r ≤ ruleRank top :=
      le_of_mem_argmax (mem_filter.2 ⟨hr, hm⟩) hb
    have hme := mem_filter.1 (argmax_mem hb)
    rw [← hb, argmax_filter_eq_find? hle ⟨top, hme.1, hme.2, rfl⟩, ← head?_filter]
    refine congrArg List.head? (filter_congr fun r hr => ?_)
    rw [Bool.eq_iff_iff, Bool.and_eq_true, Bool.and_eq_true, decide_eq_true_eq, all_eq_true]
    refine and_congr_right fun hm => ⟨fun hra r' hr' => ?_, fun ha => ?_⟩
    · cases hmatch' : ruleMatches libs facts r' with
      | false => rfl
      | true => simp [hra, hle r' hr' hmatch']
    · have ht := ha top hme.1
      rw [hme.2] at ht
      exact le_antisymm (hle r hr hm) (by simpa using ht)

theorem bestRule_eq_some_iff :
    bestRule libs rules facts = some r ↔ TakesPrecedence libs rules facts r := by
  rw [bestRule_eq_head?, tiedRules, head?_filter, find?_eq_some_iff_append,
    Bool.and_eq_true, and_assoc]
  refine and_congr_right fun hm => ?_
  simp only [all_eq_true, Bool.or_eq_true, Bool.not_eq_true', decide_eq_true_eq]
  constructor
  · rintro ⟨ht, before, after, rfl, hb⟩
    refine ⟨before, after, rfl, fun x hx hm' => ?_, fun x hx hm' => ?_⟩
    · -- a rule that outranks `x` does not outrank `r`
      have hn := hb x hx
      simp only [hm', Bool.true_and, all_eq_false] at hn
      obtain ⟨y, hy, ho⟩ := hn
      grind
    · exact (ht x (by simp [hx])).resolve_left (by simp [hm'])
  · rintro ⟨before, after, rfl, hb, ha⟩
    refine ⟨fun x hx => ?_, before, after, rfl, fun x hx => ?_⟩
    · rcases hm' : ruleMatches libs facts x with _ | _
      · exact .inl rfl
      · right
        rcases mem_append.1 hx with hx | hx
        · exact (hb x hx hm').le
        · rcases mem_cons.1 hx with rfl | hx
          · exact le_rfl
          · exact ha x hx hm'
    · rcases hm' : ruleMatches libs facts x with _ | _
      · rfl
      · simp only [Bool.true_and, all_eq_false]
        exact ⟨r, by simp, by simp [hm, hb x hx hm']⟩

/-- The route that a request is given takes precedence, and there is none exactly when none
matches. -/
theorem matchRequestWithBody_precedence (libs : RouterLibs) (specs : List RouteConfig)
    (facts : RequestFacts) :
    (∀ r, (hostRoutes libs specs).matchRequestWithBody libs facts = some r ↔
        TakesPrecedence libs (specs.flatMap (pathRoutes libs)) facts r) ∧
      ((hostRoutes libs specs).matchRequestWithBody libs facts = none ↔
        ∀ r ∈ specs.flatMap (pathRoutes libs), ruleMatches libs facts r = false) := by
  rw [matchRequestWithBody_hostRoutes]
  refine ⟨fun _ => bestRule_eq_some_iff, ?_⟩
  rw [bestRule]
  simp

theorem decideRules_eq_iff : decideRules libs rules facts = decideRules libs rules' facts ↔
      TiedAlike libs rules rules' facts := by
  have hd (rules : List PathRoute) : decideRules libs rules facts =
      if publishesMetadata rules facts then .oauthMetadata
      else if asksForBody rules facts then .needsBody
      else ((tiedRules libs rules facts).head?.map .matched).getD .noRoute := by
    rw [decideRules, bestRule_eq_head?]
    cases (tiedRules libs rules facts).head? <;> rfl
  have hc : ((tiedRules libs rules facts).head?.map .matched).getD .noRoute =
      ((tiedRules libs rules' facts).head?.map .matched).getD Decision.noRoute ↔
        (tiedRules libs rules facts).head? = (tiedRules libs rules' facts).head? := by
    cases (tiedRules libs rules facts).head? <;> cases (tiedRules libs rules' facts).head? <;> simp
  have hk (o : Option PathRoute) : (o.map .matched).getD .noRoute ≠ Decision.oauthMetadata ∧
      (o.map .matched).getD .noRoute ≠ Decision.needsBody := by
    cases o <;> simp
  rw [hd, hd]
  constructor
  · intro h
    constructor
    case metadata => grind
    case body => grind
    case first =>
      rintro ⟨hme, hbo⟩
      grind
  · rintro ⟨hme, hbo, hf⟩
    rw [← hme]
    cases hm : publishesMetadata rules facts with
    | true => rfl
    | false =>
      rw [← hbo hm]
      cases hb : asksForBody rules facts with
      | true => rfl
      | false => rw [hf ⟨hm, hb⟩]

theorem tiedAlike_iff_of_perm (h : rules.Perm rules') :
    TiedAlike libs rules rules' facts ↔ (ReachesRules rules facts →
      (tiedRules libs rules facts).head? = (tiedRules libs rules' facts).head?) :=
  ⟨fun alike => alike.first, fun first =>
    ⟨by simp only [publishesMetadata, h.any_eq], fun _ => by simp only [asksForBody, h.any_eq],
      first⟩⟩

theorem head?_tiedRules_of_nodup (h : rules.Perm rules') (hranks : (rules.map ruleRank).Nodup) :
    (tiedRules libs rules facts).head? = (tiedRules libs rules' facts).head? := by
  have hp := h.filter (ruleMatches libs facts)
  rw [← bestRule_eq_head?, ← bestRule_eq_head?]
  unfold bestRule
  cases hbest : (rules.filter (ruleMatches libs facts)).argmax ruleRank with
  | none =>
    rw [argmax_eq_none] at hbest
    rw [hbest, nil_perm] at hp
    rw [hp]
    rfl
  | some r =>
    cases hbest' : (rules'.filter (ruleMatches libs facts)).argmax ruleRank with
    | none =>
      rw [argmax_eq_none] at hbest'
      rw [hbest', perm_nil] at hp
      rw [hp] at hbest
      cases hbest
    | some r' =>
      have hr := argmax_mem hbest
      have hr' := hp.mem_iff.2 (argmax_mem hbest')
      have hrank : ruleRank r = ruleRank r' := le_antisymm
        (le_of_mem_argmax (hp.mem_iff.1 hr) hbest') (le_of_mem_argmax hr' hbest)
      rw [inj_on_of_nodup_map hranks (mem_of_mem_filter hr) (mem_of_mem_filter hr') hrank]

end Ties

section Permuted

variable {libs : RouterLibs} {routes routes' : List RouteConfig}

theorem rulesFor_perm (h : routes.Perm routes') (lh host : String) :
    (rulesFor libs routes port lh host).Perm (rulesFor libs routes' port lh host) := by
  refine List.Perm.flatMap_right _ ?_
  unfold routesFor
  induction requestSlots host with
  | nil => exact .refl _
  | cons s slots ih =>
    have hs : (slotRoutes routes port lh s).Perm (slotRoutes routes' port lh s) := h.filter _
    by_cases hnil : slotRoutes routes port lh s = []
    · rw [hnil, nil_perm] at hs
      simpa [hnil, hs] using ih
    · have hnil' : slotRoutes routes' port lh s ≠ [] := by
        intro hnil'
        rw [hnil', perm_nil] at hs
        exact hnil hs
      simpa [hnil, hnil'] using hs

theorem rulesFor_sublist (lh host : String) :
    (rulesFor libs routes port lh host).Sublist (routes.flatMap (pathRoutes libs)) := by
  have hr : (routesFor routes port lh host).Sublist routes := by
    unfold routesFor
    cases hf : ((requestSlots host).map (slotRoutes routes port lh)).find? (· ≠ []) with
    | none => exact nil_sublist _
    | some specs =>
      obtain ⟨s, -, rfl⟩ := mem_map.1 (mem_of_find?_eq_some hf)
      exact filter_sublist
  exact hr.flatMap _

section

variable (h : routes.Perm routes')

include h

theorem topListener_perm : TopListener routes = TopListener routes' := by
  have hl : HasListener routes = HasListener routes' := by
    funext port lh
    simp only [HasListener, h.mem_iff]
  unfold TopListener
  rw [hl]

theorem servedBy_perm : ServedBy routes = ServedBy routes' := by
  unfold ServedBy
  rw [topListener_perm h]

theorem meantForAnother_perm : MeantForAnother routes = MeantForAnother routes' := by
  unfold MeantForAnother Misdirected
  rw [topListener_perm h]

theorem reachesHost_perm : ReachesHost routes = ReachesHost routes' := by
  unfold ReachesHost
  rw [meantForAnother_perm h]

end

end Permuted

end Portus.DataPlane

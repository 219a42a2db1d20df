import Portus.DataPlane.Router

/-!
# What the router chooses

The routing tables answer a request from hash maps and sorted lists. Here is what they
choose, said on the list of routes itself: of the listeners of the port that claim the
host the most specific one, of its hosts the closest one, and of the rules there that
match the request the earliest of the most specific ones (`bestRule`).
-/

namespace Portus.DataPlane

open Portus Lib Proto Option AList Text Table
open List hiding beq_eq_decide mem_keys

section Rules

variable (libs : RouterLibs)

def ruleMatches (facts : RequestFacts) (r : PathRoute) : Bool :=
  pathMatches libs r facts.path && extraDimensionsMatch libs r facts

/-- Exact paths before the others, longer paths before shorter ones, then by specificity. -/
def ruleRank (r : PathRoute) : ℕ ×ₗ ℕ ×ₗ ℕ ×ₗ ℕ ×ₗ ℕ :=
  toLex (if r.matchType = .exact then 1 else 0, prefixRank r)

def bestRule (rules : List PathRoute) (facts : RequestFacts) : Option PathRoute :=
  (rules.filter (ruleMatches libs facts)).argmax ruleRank

variable {libs}

theorem ruleRank_lt_of_exact {a b : PathRoute} (ha : (a.matchType == .exact) = true)
    (hb : (b.matchType == .exact) = false) : ruleRank b < ruleRank a := by
  simp only [beq_iff_eq] at ha
  rw [beq_eq_false_iff_ne] at hb
  refine Prod.Lex.toLex_lt_toLex.2 (.inl ?_)
  simp [ha, hb]

theorem ruleRank_lt_iff {a b : PathRoute} (h : a.matchType = .exact ↔ b.matchType = .exact) :
    ruleRank a < ruleRank b ↔ prefixRank a < prefixRank b := by
  have hf : (if a.matchType = .exact then 1 else 0) =
      if b.matchType = .exact then 1 else 0 := by
    simp only [h]
  simp only [ruleRank, Prod.Lex.toLex_lt_toLex, hf, lt_self_iff_false, false_or, true_and]

theorem prefixRank_lt_iff {a b : PathRoute} (h : a.path = b.path) :
    prefixRank a < prefixRank b ↔ specificity a < specificity b := by
  simp only [prefixRank, Prod.Lex.toLex_lt_toLex, h, lt_self_iff_false, false_or, true_and]

theorem lookup_exactMap : ((hostRoutes libs specs).exactMap.lookup path).getD [] =
      (byRank specificity ((specs.flatMap (pathRoutes libs)).filter
        (·.matchType == .exact))).filter (·.path = path) := by
  rw [hostRoutes, getD_lookup_group]

theorem filter_exact (rules : List PathRoute) :
    (rules.filter (ruleMatches libs facts)).filter (·.matchType == .exact) =
      (rules.filter (·.matchType == .exact)).filter
        fun r => decide (r.path = facts.path) && extraDimensionsMatch libs r facts := by
  rw [List.filter_filter, List.filter_filter]
  refine List.filter_congr fun r _ => ?_
  by_cases hr : r.matchType = .exact
  · simp only [ruleMatches, pathMatches, hr, beq_self_eq_true, Bool.true_and, Bool.and_true,
      beq_eq_decide, @eq_comm _ facts.path]
  · simp [beq_eq_false_iff_ne.2 hr]

theorem matchRequestWithBody_hostRoutes : (hostRoutes libs specs).matchRequestWithBody libs facts =
      bestRule libs (specs.flatMap (pathRoutes libs)) facts := by
  have he : (((hostRoutes libs specs).exactMap.lookup facts.path).getD []).find?
      (extraDimensionsMatch libs · facts) =
        (((specs.flatMap (pathRoutes libs)).filter (ruleMatches libs facts)).filter
          (·.matchType == .exact)).argmax ruleRank := by
    rw [lookup_exactMap, find?_filter, find?_byRank, filter_exact]
    simp only [Bool.decide_and, Bool.decide_eq_true]
    refine argmax_congr fun a ha b hb => ?_
    simp only [mem_filter, beq_iff_eq, Bool.and_eq_true, decide_eq_true_eq] at ha hb
    rw [ruleRank_lt_iff (iff_of_true ha.1.2 hb.1.2), prefixRank_lt_iff (ha.2.1.trans hb.2.1.symm)]
  have hr : (hostRoutes libs specs).rules.find?
      (fun r => pathMatches libs r facts.path && extraDimensionsMatch libs r facts) =
        (((specs.flatMap (pathRoutes libs)).filter (ruleMatches libs facts)).filter
          (!·.matchType == .exact)).argmax ruleRank := by
    have hc := filter_comm (ruleMatches libs facts)
      (fun r : PathRoute => !r.matchType == .exact) (specs.flatMap (pathRoutes libs))
    refine (find?_byRank _ _ _).trans ?_
    refine (congrArg (argmax prefixRank) hc).trans ?_
    refine argmax_congr fun a ha b hb => ?_
    simp only [mem_filter, Bool.not_eq_true', beq_eq_false_iff_ne] at ha hb
    exact (ruleRank_lt_iff (iff_of_false ha.2 hb.2)).symm
  rw [HostRoutes.matchRequestWithBody, he, hr]
  exact (argmax_split fun a _ b _ => ruleRank_lt_of_exact).symm

theorem any_hostRoutes (p : PathRoute → Bool) :
    ((hostRoutes libs specs).exactMap.values.flatten ++ (hostRoutes libs specs).rules).any p =
      (specs.flatMap (pathRoutes libs)).any p := by
  have hm (r : PathRoute) : r ∈ (hostRoutes libs specs).exactMap.values.flatten ++
      (hostRoutes libs specs).rules ↔ r ∈ specs.flatMap (pathRoutes libs) := by
    simp only [hostRoutes, mem_append, mem_flatten_values_group,
      (perm_byRank _ _).mem_iff, mem_filter, ← and_or_left]
    exact and_iff_left (by cases r.matchType <;> simp)
  rw [Bool.eq_iff_iff, List.any_eq_true, List.any_eq_true]
  simp only [hm]

def decideRules (libs : RouterLibs) (rules : List PathRoute) (facts : RequestFacts) : Decision :=
  if isOauthMetadataPath facts.path && rules.any routeHasOauth then .oauthMetadata
  else if facts.bodyFields.isNone && rules.any routeNeedsBody && facts.hasRequestBody then
    .needsBody
  else
    match bestRule libs rules facts with
    | none => .noRoute
    | some rule => .matched rule

theorem decideHost_hostRoutes :
    decideHost libs (some (hostRoutes libs specs)) facts =
      decideRules libs (specs.flatMap (pathRoutes libs)) facts := by
  unfold decideHost decideRules
  rw [← any_hostRoutes, ← any_hostRoutes, ← matchRequestWithBody_hostRoutes]
  rfl

theorem decideHost_none :
    decideHost libs none facts = decideRules libs [] facts := by
  simp [decideHost, decideRules, bestRule]

end Rules

/-- The host that a slot is kept for. -/
def HostSlot.host : HostSlot → String
  | .exact host => host
  | .wildcard suffix => "*" ++ suffix
  | .catchAll => "*"

theorem host_hostSlot (host : String) : (hostSlot host).host = host := by
  unfold hostSlot
  split
  next h => exact h.symm
  next =>
    split
    next s hs =>
      rw [stripPrefix_eq_some.1 hs]
      exact (String.append_assoc ..).symm
    next => rfl

theorem hostSlot_injective : Function.Injective hostSlot :=
  Function.LeftInverse.injective host_hostSlot

namespace ListenerBucket

def slot (b : ListenerBucket) : HostSlot → Option HostRoutes
  | .exact host => b.exact.lookup host
  | .wildcard suffix => b.domainWildcards.lookup suffix
  | .catchAll => b.catchAll

theorem listenerHostname_place (b : ListenerBucket) (host : String) (hr : HostRoutes) :
    (b.place host hr).listenerHostname = b.listenerHostname := by
  unfold place
  split <;> rfl

theorem slot_place (b : ListenerBucket) (host : String) (hr : HostRoutes) :
    (b.place host hr).slot s = if s = hostSlot host then some hr else b.slot s := by
  unfold place
  cases hostSlot host <;> cases s <;> simp [slot, Table.lookup_insert_apply]

end ListenerBucket

def requestSlots (host : String) : List HostSlot :=
  .exact host :: (dotSuffixes host.toList).map .wildcard ++ [.catchAll]

theorem hostRoutesFor_eq (b : ListenerBucket) (host : String) :
    b.hostRoutesFor host = (requestSlots host).findSome? b.slot := by
  simp only [ListenerBucket.hostRoutesFor, lookupDomainWildcardBucket, requestSlots,
    cons_append, findSome?_cons, findSome?_append, findSome?_map,
    findSome?_nil, ListenerBucket.slot, Option.or_assoc]
  cases b.exact.lookup host with
  | some hr => rfl
  | none => cases b.catchAll <;> rfl

def slotRoutes (routes : List RouteConfig) (port : UInt16) (listenerHostname : String)
    (s : HostSlot) : List RouteConfig :=
  routes.filter fun r => r.listenerPort.toUInt16 = port ∧ r.listenerHostname = listenerHostname ∧
    hostSlot r.host = s

def routesFor (routes : List RouteConfig) (port : UInt16) (listenerHostname host : String) :
    List RouteConfig :=
  (((requestSlots host).map (slotRoutes routes port listenerHostname)).find? (· ≠ [])).getD []

section Buckets

variable {libs : RouterLibs} {orders : MapOrders} {routes : List RouteConfig}

section

variable (libs orders routes)

/-- The groups of a listener in the order in which they are placed. -/
def groupsAt (k : UInt16 × String) : List GroupKey :=
  (orders.groups.order (group groupKey routes).keys).filter fun key =>
    (key.port, key.listenerHostname) = k

def placeIn (b : ListenerBucket) (key : GroupKey) : ListenerBucket :=
  b.place key.host (hostRoutes libs (((group groupKey routes).lookup key).getD []))

end

theorem mem_groupsAt {port : UInt16} {lh : String} : key ∈ groupsAt orders routes (port, lh) ↔
      ∃ r ∈ routes, (r.listenerPort.toUInt16 = port ∧ r.listenerHostname = lh) ∧
        key = ⟨port, lh, r.host⟩ := by
  simp only [groupsAt, mem_filter, IterOrder.mem_order, mem_keys_group, decide_eq_true_eq]
  constructor
  · rintro ⟨⟨r, hr, rfl⟩, hk⟩
    cases hk
    exact ⟨r, hr, ⟨rfl, rfl⟩, rfl⟩
  · rintro ⟨r, hr, ⟨rfl, rfl⟩, rfl⟩
    exact ⟨⟨r, hr, rfl⟩, rfl⟩

theorem lookup_bucketsByKey : (bucketsByKey libs orders routes).lookup k =
      if groupsAt orders routes k = [] then none
      else some ((groupsAt orders routes k).foldl (placeIn libs routes) ⟨k.2, ∅, ∅, none⟩) :=
  lookup_foldl_insert (fun key : GroupKey => (key.port, key.listenerHostname))
    (fun k => (⟨k.2, ∅, ∅, none⟩ : ListenerBucket)) (placeIn libs routes) _ k

theorem filter_groupKey (lh host : String) :
    routes.filter (groupKey · = ⟨port, lh, host⟩) = slotRoutes routes port lh (hostSlot host) := by
  refine filter_congr fun r _ => ?_
  simp [groupKey, hostSlot_injective.eq_iff]

variable (libs routes) in
theorem slot_foldl_placeIn {port : UInt16} {lh : String} (s : HostSlot) {keys : List GroupKey}
    (h : ∀ key ∈ keys, key.port = port ∧ key.listenerHostname = lh) :
    (keys.foldl (placeIn libs routes) ⟨lh, ∅, ∅, none⟩).slot s =
      if keys.any (hostSlot ·.host = s) then some (hostRoutes libs (slotRoutes routes port lh s))
      else none := by
  induction keys using reverseRecOn with
  | nil => cases s <;> rfl
  | append_singleton keys key ih =>
    obtain ⟨rfl, rfl⟩ := h key (mem_append_right _ (mem_singleton_self _))
    rw [foldl_append, foldl_cons, foldl_nil, placeIn, ListenerBucket.slot_place,
      ih fun key hk => h key (mem_append_left _ hk), getD_lookup_group, filter_groupKey]
    by_cases hs : s = hostSlot key.host
    · simp [hs]
    · simp [hs, Ne.symm hs]

theorem slot_bucketsByKey : ((bucketsByKey libs orders routes).lookup (port, lh)).bind (·.slot s) =
      if slotRoutes routes port lh s = [] then none
      else some (hostRoutes libs (slotRoutes routes port lh s)) := by
  have ha : (groupsAt orders routes (port, lh)).any (hostSlot ·.host = s) =
      decide (slotRoutes routes port lh s ≠ []) := by
    rw [Bool.eq_iff_iff, List.any_eq_true, decide_eq_true_eq, slotRoutes, ne_eq, filter_eq_nil_iff]
    simp [mem_groupsAt, and_assoc]
  have hk (key) (hk : key ∈ groupsAt orders routes (port, lh)) :
      key.port = port ∧ key.listenerHostname = lh := by
    obtain ⟨r, -, -, rfl⟩ := mem_groupsAt.1 hk
    exact ⟨rfl, rfl⟩
  have hs := slot_foldl_placeIn libs routes s hk
  rw [ha] at hs
  rw [lookup_bucketsByKey]
  split
  next hn =>
    rw [hn] at hs
    simp only [decide_not, Bool.not_eq_true', decide_eq_false_iff_not, ite_not] at hs
    exact .trans (by cases s <;> rfl) hs
  next =>
    rw [bind_some, hs]
    simp

theorem mem_bucketsByKey {port : UInt16} {lh : String} :
    (port, lh) ∈ bucketsByKey libs orders routes ↔
      ∃ r ∈ routes, r.listenerPort.toUInt16 = port ∧ r.listenerHostname = lh := by
  rw [← lookup_isSome, lookup_bucketsByKey]
  constructor
  · intro h
    cases hg : groupsAt orders routes (port, lh) with
    | nil => simp [hg] at h
    | cons key keys =>
      obtain ⟨r, hr, hk, -⟩ := mem_groupsAt.1 (hg ▸ mem_cons_self)
      exact ⟨r, hr, hk⟩
  · rintro ⟨r, hr, hk⟩
    rw [if_neg (ne_nil_of_mem (mem_groupsAt.2 ⟨r, hr, hk, rfl⟩))]
    rfl

theorem listenerHostname_of_lookup {port : UInt16} {b : ListenerBucket}
    (h : (bucketsByKey libs orders routes).lookup (port, lh) = some b) : b.listenerHostname = lh := by
  rw [lookup_bucketsByKey] at h
  split at h
  next => cases h
  next =>
    cases h
    refine foldlRecOn (motive := fun b : ListenerBucket => b.listenerHostname = lh) _ _ rfl fun b hb key _ => ?_
    rw [placeIn, ListenerBucket.listenerHostname_place, hb]

def rulesFor (libs : RouterLibs) (routes : List RouteConfig) (port : UInt16)
    (listenerHostname host : String) : List PathRoute :=
  (routesFor routes port listenerHostname host).flatMap (pathRoutes libs)

theorem decideHost_bucket {orders : MapOrders} {routes : List RouteConfig} {port : UInt16}
    {b : ListenerBucket} (hb : (bucketsByKey libs orders routes).lookup (port, lh) = some b) :
    decideHost libs (b.hostRoutesFor facts.host) facts =
      decideRules libs (rulesFor libs routes port lh facts.host) facts := by
  have hsl (s : HostSlot) : b.slot s =
      if slotRoutes routes port lh s = [] then none
      else some (hostRoutes libs (slotRoutes routes port lh s)) := by
    rw [← slot_bucketsByKey, hb, bind_some]
  have hf : b.hostRoutesFor facts.host =
      (((requestSlots facts.host).map (slotRoutes routes port lh)).find? (· ≠ [])).map
        (hostRoutes libs) := by
    rw [hostRoutesFor_eq]
    induction requestSlots facts.host with
    | nil => rfl
    | cons s slots ih =>
      rw [findSome?_cons, hsl, ih]
      by_cases hs : slotRoutes routes port lh s = [] <;> simp [hs]
  rw [hf, rulesFor, routesFor]
  cases ((requestSlots facts.host).map (slotRoutes routes port lh)).find? (· ≠ []) with
  | none => exact decideHost_none
  | some specs => exact decideHost_hostRoutes

end Buckets

section Claims

variable {a b host : String}

theorem claims_toAsciiLowercase (lh host : String) :
    listenerHostnameClaims (toAsciiLowercase lh) host = listenerHostnameClaims lh host := by
  unfold listenerHostnameClaims
  simp only [String.isEmpty_iff, toAsciiLowercase_eq_empty, stripStar_toAsciiLowercase]
  cases stripPrefix "*." lh with
  | none => simp [eqIgnoreAsciiCase, toAsciiLowercase_toAsciiLowercase]
  | some suffix => simp [toAsciiLowercase_toAsciiLowercase]

theorem specificity_toAsciiLowercase :
    listenerSpecificity (toAsciiLowercase lh) = listenerSpecificity lh := by
  unfold listenerSpecificity
  simp only [String.isEmpty_iff, toAsciiLowercase_eq_empty, stripStar_toAsciiLowercase]
  cases stripPrefix "*." lh with
  | none | some suffix => simp [utf8ByteSize_toAsciiLowercase]

theorem claims_cases (h : listenerHostnameClaims a host = true) :
    (a = "" ∧ listenerSpecificity a = 1) ∨
    (∃ suffix, a = "*." ++ suffix ∧
      endsWith (toAsciiLowercase host) ("." ++ toAsciiLowercase suffix) = true ∧
      1 + suffix.utf8ByteSize < host.utf8ByteSize ∧
      listenerSpecificity a = 1000 + suffix.utf8ByteSize) ∨
    (toAsciiLowercase host = toAsciiLowercase a ∧
      listenerSpecificity a = 10000 + a.utf8ByteSize) := by
  unfold listenerHostnameClaims at h
  unfold listenerSpecificity
  split at h
  next he => exact .inl ⟨String.isEmpty_iff.1 he, if_pos he⟩
  next he =>
    rw [if_neg he]
    split at h
    next suffix hs =>
      simp only [Bool.and_eq_true, decide_eq_true_eq, String.utf8ByteSize_append,
        utf8ByteSize_toAsciiLowercase] at h
      exact .inr (.inl ⟨suffix, stripPrefix_eq_some.1 hs, h.1, h.2, rfl⟩)
    next hn => exact .inr (.inr ⟨by simpa [eqIgnoreAsciiCase] using h, rfl⟩)

theorem lower_eq_of_claims (ha : listenerHostnameClaims a host = true)
    (hb : listenerHostnameClaims b host = true)
    (hab : listenerSpecificity a = listenerSpecificity b) :
    toAsciiLowercase a = toAsciiLowercase b := by
  have hsi {c : String} (hc : toAsciiLowercase host = toAsciiLowercase c) :
      host.utf8ByteSize = c.utf8ByteSize := by
    rw [← utf8ByteSize_toAsciiLowercase host, hc, utf8ByteSize_toAsciiLowercase]
  rcases claims_cases ha with ⟨rfl, hsa⟩ | ⟨s, rfl, hend, hl, hsa⟩ | ⟨hla, hsa⟩
  · rcases claims_cases hb with ⟨rfl, -⟩ | ⟨t, -, -, -, hsb⟩ | ⟨-, hsb⟩
    · rfl
    · omega
    · omega
  · rcases claims_cases hb with ⟨-, hsb⟩ | ⟨t, rfl, hend', -, hsb⟩ | ⟨hlb, hsb⟩
    · omega
    · have hsu : "." ++ toAsciiLowercase s = "." ++ toAsciiLowercase t := by
        refine eq_of_endsWith hend hend' ?_
        simp only [String.utf8ByteSize_append, utf8ByteSize_toAsciiLowercase]
        omega
      rw [toAsciiLowercase_append, toAsciiLowercase_append, (String.append_right_inj _).1 hsu]
    · -- a wildcard of that specificity is longer than the host
      have := hsi hlb
      omega
  · rcases claims_cases hb with ⟨-, hsb⟩ | ⟨t, -, -, hl, hsb⟩ | ⟨hlb, -⟩
    · omega
    · have := hsi hla
      omega
    · exact hla.symm.trans hlb

end Claims

def HasListener (routes : List RouteConfig) (port : UInt16) (lh : String) : Prop :=
  ∃ r ∈ routes, r.listenerPort.toUInt16 = port ∧ r.listenerHostname = lh

/-- A most specific one of the listeners of a port that claim a host. -/
def TopListener (routes : List RouteConfig) (port : UInt16) (host lh : String) : Prop :=
  HasListener routes port lh ∧ listenerHostnameClaims lh host = true ∧
    ∀ lh', HasListener routes port lh' → listenerHostnameClaims lh' host = true →
      listenerSpecificity lh' ≤ listenerSpecificity lh

def walkedHostnames (libs : RouterLibs) (orders : MapOrders) (routes : List RouteConfig)
    (port : UInt16) : List String :=
  ((orders.buckets.order (bucketsByKey libs orders routes).keys).filter (·.1 = port)).map (·.2)

def chosenHostname (hostnames : List String) (host : String) : Option String :=
  (hostnames.filter (listenerHostnameClaims · host)).argmax listenerSpecificity

def portBuckets (libs : RouterLibs) (orders : MapOrders) (routes : List RouteConfig)
    (port : UInt16) : List ListenerBucket :=
  byRank (listenerSpecificity ·.listenerHostname)
    ((walkedHostnames libs orders routes port).filterMap fun lh =>
      (bucketsByKey libs orders routes).lookup (port, lh))

section Listeners

variable {libs : RouterLibs} {orders : MapOrders} {routes : List RouteConfig} {port : UInt16}

theorem mem_walkedHostnames {lh : String} :
    lh ∈ walkedHostnames libs orders routes port ↔ HasListener routes port lh := by
  rw [HasListener, ← @mem_bucketsByKey libs orders]
  simp only [walkedHostnames, List.mem_map, List.mem_filter, IterOrder.mem_order, Prod.exists,
    decide_eq_true_eq, ← mem_keys]
  constructor
  · rintro ⟨p, l, ⟨hm, rfl⟩, rfl⟩
    exact hm
  · intro hm
    exact ⟨port, lh, ⟨hm, rfl⟩, rfl⟩

theorem filter_port_buckets (byKey : Table (UInt16 × String) ListenerBucket)
    (keys : List (UInt16 × String)) :
    ((keys.filterMap fun key => (byKey.lookup key).map fun b => (key.1, b)).filter
        (·.1 = port)).map (·.2) =
      ((keys.filter (·.1 = port)).map (·.2)).filterMap fun lh => byKey.lookup (port, lh) := by
  induction keys with
  | nil => rfl
  | cons key keys ih =>
    rw [filterMap_cons]
    by_cases hp : key.1 = port
    · subst hp
      cases hb : byKey.lookup key with
      | none | some b => simp [hb, ih]
    · cases hb : byKey.lookup key with
      | none | some b => simp [hp, ih]

theorem anyPortListeners_eq : (buildListenerBucketsFromProto libs orders routes).anyPortListeners =
      portBuckets libs orders routes 0 := by
  simp only [buildListenerBucketsFromProto, portBuckets, walkedHostnames, filter_port_buckets]

theorem listenersByPort_lookup :
    ((buildListenerBucketsFromProto libs orders routes).listenersByPort.lookup port).getD [] =
      if port = 0 then [] else portBuckets libs orders routes port := by
  have hg (f : List (UInt16 × ListenerBucket) → List ListenerBucket) (hf : f [] = []) (o) :
      (Option.map f o).getD [] = f (o.getD []) := by cases o <;> simp [hf]
  simp only [buildListenerBucketsFromProto, lookup_mapValues, portBuckets, walkedHostnames,
    ← filter_port_buckets]
  rw [hg _ rfl, getD_lookup_group, List.filter_filter]
  split
  next hp => simp [hp, byRank]
  next hp =>
    congr 2
    refine filter_congr fun b _ => ?_
    by_cases hb : b.1 = port <;> simp [hb, hp]

theorem exists_bucket (h : HasListener routes port lh) :
    ∃ b, (bucketsByKey libs orders routes).lookup (port, lh) = some b ∧
      b.listenerHostname = lh := by
  obtain ⟨b, hb⟩ := isSome_iff_exists.1 (lookup_isSome.2 (mem_bucketsByKey.2 h))
  exact ⟨b, hb, listenerHostname_of_lookup hb⟩

theorem argmax_filterMap_buckets {f : String → Option ListenerBucket}
    (h : ∀ lh ∈ hostnames, ∃ b, f lh = some b ∧ b.listenerHostname = lh) (host : String) :
    ((hostnames.filterMap f).filter (listenerHostnameClaims ·.listenerHostname host)).argmax
        (listenerSpecificity ·.listenerHostname) =
      (chosenHostname hostnames host).bind f := by
  induction hostnames with
  | nil => rfl
  | cons lh hostnames ih =>
    obtain ⟨b, hb, hname⟩ := h lh mem_cons_self
    have ih' := ih fun l hl => h l (mem_cons_of_mem _ hl)
    unfold chosenHostname at ih' ⊢
    rw [filterMap_cons_some hb, filter_cons, filter_cons, hname]
    split
    next hcl =>
      rw [argmax_cons, argmax_cons, ih']
      cases hc : (hostnames.filter (listenerHostnameClaims · host)).argmax listenerSpecificity with
      | none => exact hb.symm
      | some c =>
        obtain ⟨b', hb', hname'⟩ := h c (mem_cons_of_mem _ (mem_of_mem_filter (argmax_mem hc)))
        simp only [bind_some, hb', hname, hname']
        split
        next => exact hb'.symm
        next => exact hb.symm
    next => exact ih'

theorem selectListenerBucket_portBuckets (host : String) :
    selectListenerBucket host (portBuckets libs orders routes port) =
      (chosenHostname (walkedHostnames libs orders routes port) host).bind fun lh =>
        (bucketsByKey libs orders routes).lookup (port, lh) := by
  rw [selectListenerBucket, portBuckets, find?_byRank]
  exact argmax_filterMap_buckets (fun lh hlh => exists_bucket (mem_walkedHostnames.1 hlh)) host

theorem topListener_of_chosen {host : String}
    (h : chosenHostname (walkedHostnames libs orders routes port) host = some lh) :
    TopListener routes port host lh := by
  obtain ⟨hm, hc⟩ := mem_filter.1 (argmax_mem h)
  refine ⟨mem_walkedHostnames.1 hm, hc, fun lh' hl hclaim => ?_⟩
  exact le_of_mem_argmax (mem_filter.2 ⟨mem_walkedHostnames.2 hl, hclaim⟩) h

theorem chosen_eq_none {host : String} :
    chosenHostname (walkedHostnames libs orders routes port) host = none ↔
      ∀ lh, ¬ TopListener routes port host lh := by
  constructor
  · intro h lh ⟨hlh, hcl, _⟩
    rw [chosenHostname, argmax_eq_none] at h
    have hm : lh ∈ (walkedHostnames libs orders routes port).filter
        (listenerHostnameClaims · host) :=
      mem_filter.2 ⟨mem_walkedHostnames.2 hlh, hcl⟩
    rw [h] at hm
    exact absurd hm not_mem_nil
  · intro h
    cases hc : chosenHostname (walkedHostnames libs orders routes port) host with
    | none => rfl
    | some lh => exact absurd (topListener_of_chosen hc) (h lh)

def listenerFirst (port : UInt16) (lh : String) : MapOrders := ⟨.insertion, .startingWith (port, lh)⟩

theorem chosen_listenerFirst {host : String} (h : TopListener routes port host lh) :
    chosenHostname (walkedHostnames libs (listenerFirst port lh) routes port) host = some lh := by
  obtain ⟨hlh, hc', ht⟩ := h
  have hk : (port, lh) ∈ (bucketsByKey libs (listenerFirst port lh) routes).keys :=
    mem_keys.1 (mem_bucketsByKey.2 hlh)
  have hw : ∃ rest, walkedHostnames libs (listenerFirst port lh) routes port = lh :: rest := by
    have ho := IterOrder.order_startingWith hk
    unfold walkedHostnames
    rw [show (listenerFirst port lh).buckets = .startingWith (port, lh) from rfl, ho,
      filter_cons_of_pos (by simp)]
    exact ⟨_, rfl⟩
  obtain ⟨rest, hr⟩ := hw
  rw [chosenHostname, hr, filter_cons_of_pos (p := (listenerHostnameClaims · host)) hc',
    argmax_cons]
  cases hc : (rest.filter (listenerHostnameClaims · host)).argmax listenerSpecificity with
  | none => rfl
  | some c =>
    obtain ⟨hm, hcc⟩ := mem_filter.1 (argmax_mem hc)
    have hcl : HasListener routes port c := by
      rw [← @mem_walkedHostnames libs (listenerFirst port lh), hr]
      exact mem_cons_of_mem _ hm
    exact if_neg (not_lt.2 (ht c hcl hcc))

/-- The handshake means a listener that the host does not mean. -/
def Misdirected (routes : List RouteConfig) (port : UInt16) (sni host : String) : Prop :=
  ∃ lh, TopListener routes port sni lh ∧ ¬ TopListener routes port host lh

theorem chosen_eq_find {host : String} (h : TopListener routes port host lh) :
    chosenHostname (walkedHostnames libs orders routes port) host =
      (walkedHostnames libs orders routes port).find? fun lh' =>
        toAsciiLowercase lh' == toAsciiLowercase lh := by
  have hsa (lh' : String) : (listenerHostnameClaims lh' host &&
      decide (listenerSpecificity lh' = listenerSpecificity lh)) =
        (toAsciiLowercase lh' == toAsciiLowercase lh) := by
    rw [Bool.eq_iff_iff, Bool.and_eq_true, decide_eq_true_eq, beq_iff_eq]
    constructor
    · rintro ⟨hc, hsp⟩
      exact lower_eq_of_claims hc h.2.1 hsp
    · intro hl
      rw [← claims_toAsciiLowercase, ← specificity_toAsciiLowercase, hl,
        claims_toAsciiLowercase, specificity_toAsciiLowercase]
      exact ⟨h.2.1, rfl⟩
  refine (argmax_filter_eq_find? (fun lh' hm hc =>
    h.2.2 lh' (mem_walkedHostnames.1 hm) hc)
    ⟨lh, mem_walkedHostnames.2 h.1, h.2.1, rfl⟩).trans ?_
  simp only [hsa]

theorem topListener_congr {host : String}
    (hlo : toAsciiLowercase lh' = toAsciiLowercase lh)
    (hlh : HasListener routes port lh') (h : TopListener routes port host lh) :
    TopListener routes port host lh' := by
  refine ⟨hlh, ?_, ?_⟩
  · rw [← claims_toAsciiLowercase, hlo, claims_toAsciiLowercase]
    exact h.2.1
  · rw [← specificity_toAsciiLowercase, hlo, specificity_toAsciiLowercase]
    exact h.2.2

theorem lower_eq_of_topListener {host : String} (h : TopListener routes port host lh)
    (h' : TopListener routes port host lh') :
    toAsciiLowercase lh = toAsciiLowercase lh' :=
  lower_eq_of_claims h.2.1 h'.2.1 (le_antisymm (h'.2.2 lh h.1 h.2.1) (h.2.2 lh' h'.1 h'.2.1))

theorem exists_bucket_of_chosen {host lh : String}
    (h : chosenHostname (walkedHostnames libs orders routes port) host = some lh) :
    ∃ b, (bucketsByKey libs orders routes).lookup (port, lh) = some b ∧ b.listenerHostname = lh :=
  exists_bucket (topListener_of_chosen h).1

theorem detectMisdirectedRequest_iff {host : String} :
    detectMisdirectedRequest (some sni) host (portBuckets libs orders routes port) = true ↔
      Misdirected routes port sni host := by
  unfold detectMisdirectedRequest
  simp only [selectListenerBucket_portBuckets]
  cases hs : chosenHostname (walkedHostnames libs orders routes port) sni with
  | none =>
    refine iff_of_false Bool.false_ne_true ?_
    rintro ⟨lh, ht, -⟩
    exact chosen_eq_none.1 hs lh ht
  | some s =>
    have hst := topListener_of_chosen hs
    obtain ⟨b, hb, hbn⟩ := exists_bucket_of_chosen hs
    rw [bind_some, hb]
    cases hh : chosenHostname (walkedHostnames libs orders routes port) host with
    | none => exact iff_of_true rfl ⟨s, hst, chosen_eq_none.1 hh s⟩
    | some h =>
      obtain ⟨b', hb', hbn'⟩ := exists_bucket_of_chosen hh
      rw [bind_some, hb']
      show (b.listenerHostname != b'.listenerHostname) = true ↔ _
      rw [bne_iff_ne, hbn, hbn']
      constructor
      · refine fun hne => ⟨s, hst, fun ht => hne ?_⟩
        have hsa := (chosen_eq_find hst).symm.trans hs
        rw [← chosen_eq_find ht, hh] at hsa
        exact (Option.some.inj hsa).symm
      · rintro ⟨lh, hlh, hn⟩ rfl
        exact hn (topListener_congr (lower_eq_of_topListener hlh hst) hlh.1
          (topListener_of_chosen hh))

end Listeners

/-- A listener that may serve a request: one of its own port, or one of port 0 where none of its
own port claims the host. -/
def ServedBy (routes : List RouteConfig) (facts : RequestFacts) (port : UInt16) (lh : String) :
    Prop :=
  TopListener routes port facts.host lh ∧ (port = facts.localPort ∨
      port = 0 ∧ ∀ lh', ¬ TopListener routes facts.localPort facts.host lh')

/-- The handshake of the connection means another listener than the request. -/
def MeantForAnother (routes : List RouteConfig) (facts : RequestFacts) : Prop :=
  facts.socketIsTls = true ∧ facts.localPort ≠ 0 ∧ ∃ sni, facts.sni = some sni ∧
      Misdirected routes facts.localPort (trimEndDots sni) facts.host

/-- A request that is neither an ACME challenge nor misdirected. -/
def ReachesHost (routes : List RouteConfig) (facts : RequestFacts) : Prop :=
  ¬ (facts.socketIsTls = false ∧ facts.acmeChallenge = true) ∧ ¬ MeantForAnother routes facts

section Requests

variable {libs : RouterLibs} {orders : MapOrders} {routes : List RouteConfig} {facts : RequestFacts}

theorem detectMisdirectedRequest_snapshot :
    (facts.socketIsTls && detectMisdirectedRequest (facts.sni.map trimEndDots) facts.host
      (((buildListenerBucketsFromProto libs orders routes).listenersByPort.lookup
        facts.localPort).getD [])) = true ↔ MeantForAnother routes facts := by
  rw [listenersByPort_lookup, Bool.and_eq_true]
  refine and_congr_right fun _ => ?_
  cases hs : facts.sni with
  | none => simp [detectMisdirectedRequest]
  | some sni =>
    by_cases hp : facts.localPort = 0
    · simp [hp, detectMisdirectedRequest, selectListenerBucket]
    · rw [if_neg hp, map_some, detectMisdirectedRequest_iff]
      simp [hp]

theorem selectListenerBucket_snapshot : (selectListenerBucket facts.host
        (((buildListenerBucketsFromProto libs orders routes).listenersByPort.lookup
          facts.localPort).getD [])).or
      (selectListenerBucket facts.host
        (buildListenerBucketsFromProto libs orders routes).anyPortListeners) =
    (selectListenerBucket facts.host (portBuckets libs orders routes facts.localPort)).or
      (selectListenerBucket facts.host (portBuckets libs orders routes 0)) := by
  rw [listenersByPort_lookup, anyPortListeners_eq]
  split
  next hp =>
    rw [hp]
    exact Option.or_self.symm
  next => rfl

theorem routeRequest_acme (h : facts.socketIsTls = false ∧ facts.acmeChallenge = true) :
    routeRequest libs (buildListenerBucketsFromProto libs orders routes) facts =
      .acmeChallenge := by
  simp [routeRequest, h.1, h.2]

theorem routeRequest_misdirected
    (hacme : ¬ (facts.socketIsTls = false ∧ facts.acmeChallenge = true))
    (h : MeantForAnother routes facts) :
    routeRequest libs (buildListenerBucketsFromProto libs orders routes) facts = .misdirected := by
  have hacme' : ¬ (!facts.socketIsTls && facts.acmeChallenge) = true := by simpa using hacme
  rw [routeRequest, if_neg hacme', if_pos (detectMisdirectedRequest_snapshot.2 h)]

theorem routeRequest_of_reachesHost (h : ReachesHost routes facts) :
    routeRequest libs (buildListenerBucketsFromProto libs orders routes) facts =
      match chosenHostname (walkedHostnames libs orders routes facts.localPort) facts.host,
        chosenHostname (walkedHostnames libs orders routes 0) facts.host with
      | some lh, _ => decideRules libs (rulesFor libs routes facts.localPort lh facts.host) facts
      | none, some lh => decideRules libs (rulesFor libs routes 0 lh facts.host) facts
      | none, none => decideRules libs [] facts := by
  have ha : ¬ (!facts.socketIsTls && facts.acmeChallenge) = true := by simpa using h.1
  rw [routeRequest, if_neg ha, if_neg (mt detectMisdirectedRequest_snapshot.1 h.2)]
  simp only [selectListenerBucket_snapshot, selectListenerBucket_portBuckets]
  cases hl : chosenHostname (walkedHostnames libs orders routes facts.localPort) facts.host with
  | some lh =>
    obtain ⟨b, hb, -⟩ := exists_bucket_of_chosen hl
    rw [bind_some, hb]
    exact decideHost_bucket hb
  | none =>
    cases hz : chosenHostname (walkedHostnames libs orders routes 0) facts.host with
    | some lh =>
      obtain ⟨b, hb, -⟩ := exists_bucket_of_chosen hz
      rw [bind_some, hb]
      exact decideHost_bucket hb
    | none => exact decideHost_none

theorem routeRequest_of_servedBy (orders : MapOrders) (h : ReachesHost routes facts) :
    (∃ port lh, ServedBy routes facts port lh ∧
      routeRequest libs (buildListenerBucketsFromProto libs orders routes) facts =
        decideRules libs (rulesFor libs routes port lh facts.host) facts) ∨
    ((∀ port lh, ¬ ServedBy routes facts port lh) ∧
      routeRequest libs (buildListenerBucketsFromProto libs orders routes) facts =
        decideRules libs [] facts) := by
  rw [routeRequest_of_reachesHost h]
  cases hl : chosenHostname (walkedHostnames libs orders routes facts.localPort) facts.host with
  | some lh => exact .inl ⟨_, lh, ⟨topListener_of_chosen hl, .inl rfl⟩, rfl⟩
  | none =>
    have ho := chosen_eq_none.1 hl
    cases hz : chosenHostname (walkedHostnames libs orders routes 0) facts.host with
    | some lh => exact .inl ⟨0, lh, ⟨topListener_of_chosen hz, .inr ⟨rfl, ho⟩⟩, rfl⟩
    | none =>
      refine .inr ⟨?_, rfl⟩
      rintro port lh ⟨ht, rfl | ⟨rfl, -⟩⟩
      · exact ho lh ht
      · exact chosen_eq_none.1 hz lh ht

theorem exists_orders {port : UInt16} {lh : String} (h : ReachesHost routes facts)
    (hs : ServedBy routes facts port lh) :
    ∃ orders, routeRequest libs (buildListenerBucketsFromProto libs orders routes) facts =
      decideRules libs (rulesFor libs routes port lh facts.host) facts := by
  refine ⟨listenerFirst port lh, ?_⟩
  rw [routeRequest_of_reachesHost h]
  obtain ⟨ht, rfl | ⟨rfl, ho⟩⟩ := hs
  · rw [chosen_listenerFirst ht]
  · rw [chosen_eq_none.2 ho, chosen_listenerFirst ht]

end Requests

end Portus.DataPlane

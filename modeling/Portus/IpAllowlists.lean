import Portus.Compiler.Backends
import Portus.DataPlane.IpFilter
import Portus.Reconcilers.PolicyKinds

/-!
# What an IP allowlist lists

The controller accepts an entry that is an address or that the `ipnet` crate reads as a network.
The data plane keeps the networks only. A policy means what it lists, and nothing of it is dropped
(`MeansWhatItLists`), exactly if all its entries are networks.
-/

namespace Portus

open Lib Proto Compiler DataPlane Reconcilers List Option

section Meaning

variable (ipNet : String → Option IpNet)

/-- An entry holds an address: as a network, or as the address itself. -/
def EntryContains (entry : String) (ip : IpAddr) : Prop :=
  match ipNet entry with
  | some net => net.contains ip = true
  | none => IpAddr.parse entry = some ip

def Listed (spec : IPAllowlistPolicySpec) (ip : IpAddr) : Prop :=
  (∀ entry ∈ spec.denyCidrs, ¬ EntryContains ipNet entry ip) ∧
    (spec.allowCidrs ≠ [] → ∃ entry ∈ spec.allowCidrs, EntryContains ipNet entry ip)

/-- A request is admitted exactly if the address it is resolved to is listed. -/
def AdmitsAsListed (spec : IPAllowlistPolicySpec) (rc : RouteConfig) : Prop :=
  ∀ peerIp facts ip, clientIp (ipRules ipNet rc) peerIp facts = some ip →
    (ipDenied (ipRules ipNet rc) (some ip) = false ↔ Listed ipNet spec ip)

def KeepsEntries (spec : IPAllowlistPolicySpec) (rc : RouteConfig) : Prop :=
  (ipRules ipNet rc).allowCidrs.length = spec.allowCidrs.length ∧
    (ipRules ipNet rc).denyCidrs.length = spec.denyCidrs.length ∧
    (ipRules ipNet rc).trustedProxyCidrs.length = spec.trustedProxyCidrs.length

structure MeansWhatItLists (spec : IPAllowlistPolicySpec) (rc : RouteConfig) : Prop where
  admits : AdmitsAsListed ipNet spec rc
  keeps : KeepsEntries ipNet spec rc

/-- The policy of a spec that the controller accepts is compiled onto a route. -/
structure AppliedTo (store : ConfigStore) (spec : IPAllowlistPolicySpec) (e : Emission) : Prop where
  accepted : ∀ ns created,
    (checkIPAllowlist (fun entry => (ipNet entry).isSome) ns created spec).rejected = none
  emitted : e ∈ emissions store
  selected : ∃ p, selectPolicy store.ipAllowlistPolicies e.source = some p ∧
    p.spec = ⟨spec.allowCidrs, spec.denyCidrs, spec.trustedProxyCidrs⟩

end Meaning

def listedEntries (spec : IPAllowlistPolicySpec) : List String :=
  spec.allowCidrs ++ spec.denyCidrs ++ spec.trustedProxyCidrs

variable {ipNet : String → Option IpNet} {store : ConfigStore} {spec : IPAllowlistPolicySpec}
  {e : Emission} {l : List String}

theorem ipAllowlist_applyPolicies {source : RouteSource} {r : RouteConfig} :
    (applyPolicies store source r).ipAllowlist =
      ((selectPolicy store.ipAllowlistPolicies source).map fun p =>
        ⟨p.spec.allowCidrs, p.spec.denyCidrs, p.spec.trustedProxyCidrs⟩).or r.ipAllowlist := by
  rw [applyPolicies_eq_settings]
  show ((selectPolicy store.ipAllowlistPolicies source).bind _).or _ = _
  cases selectPolicy store.ipAllowlistPolicies source <;> rfl

theorem ipAllowlist_finishRoute :
    (finishRoute store e).ipAllowlist = (applyPolicies store e.source e.route).ipAllowlist := by
  rw [finishRoute_eq, passes_frame (f := RouteConfig.ipAllowlist) (by intros; rfl)
    (by intros; rfl) (by intros; rfl), applyPolicies_eq]

theorem AppliedTo.ipRules_eq (h : AppliedTo ipNet store spec e) :
    ipRules ipNet (finishRoute store e) = ⟨spec.allowCidrs.filterMap ipNet,
      spec.denyCidrs.filterMap ipNet, spec.trustedProxyCidrs.filterMap ipNet⟩ := by
  obtain ⟨p, hp, hs⟩ := h.selected
  have hrc : (finishRoute store e).ipAllowlist =
      some ⟨spec.allowCidrs, spec.denyCidrs, spec.trustedProxyCidrs⟩ := by
    rw [ipAllowlist_finishRoute, ipAllowlist_applyPolicies, hp, map_some, hs]
    rfl
  simp [ipRules, hrc]

theorem AppliedTo.keepsEntries_iff (h : AppliedTo ipNet store spec e) :
    KeepsEntries ipNet spec (finishRoute store e) ↔
      ∀ entry ∈ listedEntries spec, (ipNet entry).isSome = true := by
  have hl (l : List String) : (l.filterMap ipNet).length = l.length ↔
      ∀ entry ∈ l, (ipNet entry).isSome = true := by
    rw [length_filterMap_eq_countP, countP_eq_length]
  simp only [KeepsEntries, h.ipRules_eq, hl, listedEntries, mem_append, or_imp, forall_and,
    and_assoc]

section Networks

variable (hl : ∀ entry ∈ l, (ipNet entry).isSome = true)

include hl

theorem anyContains_filterMap {ip : IpAddr} :
    anyContains (l.filterMap ipNet) ip = true ↔ ∃ entry ∈ l, EntryContains ipNet entry ip := by
  simp only [anyContains, List.any_eq_true, mem_filterMap, EntryContains]
  constructor
  · rintro ⟨net, ⟨entry, he, hn⟩, hc⟩
    exact ⟨entry, he, by rwa [hn]⟩
  · rintro ⟨entry, he, hc⟩
    obtain ⟨net, hn⟩ := isSome_iff_exists.1 (hl entry he)
    rw [hn] at hc
    exact ⟨net, ⟨entry, he, hn⟩, hc⟩

theorem filterMap_eq_nil_of_networks : l.filterMap ipNet = [] ↔ l = [] := by
  refine ⟨fun h => eq_nil_iff_forall_not_mem.2 fun entry he => ?_, by rintro rfl; rfl⟩
  have hn := filterMap_eq_nil_iff.1 h entry he
  simpa [hn] using hl entry he

end Networks

theorem AppliedTo.admits_of_networks (h : AppliedTo ipNet store spec e)
    (hn : ∀ entry ∈ listedEntries spec, (ipNet entry).isSome = true) :
    AdmitsAsListed ipNet spec (finishRoute store e) := by
  simp only [listedEntries, mem_append, or_imp, forall_and] at hn
  intro peerIp facts ip _
  rw [ipDenied_eq_false, h.ipRules_eq, ← Bool.not_eq_true, anyContains_filterMap hn.1.2,
    anyContains_filterMap hn.1.1, filterMap_eq_nil_of_networks hn.1.1, Listed, not_exists,
    or_iff_not_imp_left]
  simp only [not_and]

/-- **IP allowlists**: an accepted policy means what it lists exactly if each entry is a network and
not an address. -/
theorem meansWhatItLists_iff {ipNet : String → Option IpNet} {store : ConfigStore}
    {spec : IPAllowlistPolicySpec} {e : Emission} (h : AppliedTo ipNet store spec e) :
    MeansWhatItLists ipNet spec (finishRoute store e) ↔
      ∀ entry ∈ listedEntries spec, (ipNet entry).isSome = true := by
  constructor
  · intro hm
    exact h.keepsEntries_iff.1 hm.keeps
  · intro hn
    exact ⟨h.admits_of_networks hn, h.keepsEntries_iff.2 hn⟩

def shopAllowlist (allow deny : List String) : IPAllowlistPolicySpec :=
  { targetRef := { group := "gateway.networking.k8s.io", kind := "HTTPRoute", name := "r" }
    allowCidrs := allow
    denyCidrs := deny }

def guardedShop (spec : IPAllowlistPolicySpec) : ConfigStore :=
  { gateways := Table.collect [(⟨"infra", "gw"⟩, sharedGateway)]
    httpRoutes := Table.collect [(⟨"shop", "r"⟩, plainRoute "shop" "shop.example" [])]
    ipAllowlistPolicies := Table.collect [(⟨"shop", "allow"⟩, stateOf spec.targetRef "shop" none
      ⟨spec.allowCidrs, spec.denyCidrs, spec.trustedProxyCidrs⟩)] }

theorem exists_appliedTo {allow deny : List String}
    (hv : (allow ++ deny).all (fun c => isIpAddr c || (ipNet c).isSome) = true) :
    ∃ e, AppliedTo ipNet (guardedShop (shopAllowlist allow deny)) (shopAllowlist allow deny) e := by
  have hb : ⟨{ gatewayNamespace := "infra", gatewayName := "gw" },
      { name := "http", port := 80, protocol := "HTTP" }, ["shop.example"]⟩ ∈
        httpBindings (guardedShop (shopAllowlist allow deny))
          (plainRoute "shop" "shop.example" []) := by
    refine mem_bindings.2 ⟨mem_singleton_self _, rfl, mem_singleton_self _, rfl, rfl, ?_⟩
    simp
  obtain ⟨e, he⟩ := exists_mem_httpRuleEmissions hb { backendRefs := [] }
  refine ⟨e, fun ns created => ?_, mem_emissions.2 (.inl ⟨_, _, mem_singleton_self _, _, hb, _,
    mem_singleton_self _, he⟩), ?_⟩
  · refine map_eq_none_iff.2 (find?_eq_none.2 fun entry hen => ?_)
    have hen : entry ∈ allow ++ deny := by
      simpa [shopAllowlist] using hen
    have := List.all_eq_true.1 hv entry hen
    simp only [Bool.or_eq_true] at this
    rcases this with h | h <;> simp [h]
  · obtain ⟨host, -, rc, -, rfl⟩ := exists_of_mem_httpRuleEmissions he
    exact ⟨_, rfl, rfl⟩

/-- A parser that knows the networks 10.0.0.0/8 and 10.9.0.0/16. -/
def tenNets : String → Option IpNet
  | "10.0.0.0/8" => some ⟨(· matches .v4 (10 :: _))⟩
  | "10.9.0.0/16" => some ⟨(· matches .v4 (10 :: 9 :: _))⟩
  | _ => none

/-- Networks are kept and mean what they list. -/
theorem meansWhatItLists_networks :
    ∃ e, AppliedTo tenNets (guardedShop (shopAllowlist ["10.0.0.0/8"] ["10.9.0.0/16"]))
        (shopAllowlist ["10.0.0.0/8"] ["10.9.0.0/16"]) e ∧
      MeansWhatItLists tenNets (shopAllowlist ["10.0.0.0/8"] ["10.9.0.0/16"])
        (finishRoute (guardedShop (shopAllowlist ["10.0.0.0/8"] ["10.9.0.0/16"])) e) := by
  obtain ⟨e, he⟩ := @exists_appliedTo tenNets ["10.0.0.0/8"] ["10.9.0.0/16"] (by decide +kernel)
  exact ⟨e, he, (meansWhatItLists_iff he).2 (by decide +kernel)⟩

/-- A policy that allows one address admits every address, whatever else is read as a network. -/
theorem allowed_address_admits_all :
    tenNets "10.0.0.7" = none ∧ ∀ ipNet : String → Option IpNet, ipNet "10.0.0.7" = none →
      ¬ ∀ store spec e, AppliedTo ipNet store spec e →
        MeansWhatItLists ipNet spec (finishRoute store e) := by
  refine ⟨rfl, fun ipNet hn h => ?_⟩
  have ha : isIpAddr "10.0.0.7" = true := by decide +kernel
  obtain ⟨e, he⟩ := @exists_appliedTo ipNet ["10.0.0.7"] [] (by simp [ha])
  have hr : ipRules ipNet (finishRoute (guardedShop (shopAllowlist ["10.0.0.7"] [])) e) =
      ⟨[], [], []⟩ := by
    rw [he.ipRules_eq]
    simp [shopAllowlist, hn]
  -- a request that comes from 192.0.2.1 directly
  have ha' := (h _ _ e he).admits (some (.v4 [192, 0, 2, 1]))
    { host := "", path := "", localPort := 0 } (.v4 [192, 0, 2, 1]) (by rw [hr]; rfl)
  rw [hr] at ha'
  obtain ⟨entry, hen, hc⟩ := (ha'.1 rfl).2 (cons_ne_nil _ _)
  rw [mem_singleton.1 hen, EntryContains, hn] at hc
  revert hc
  decide +kernel

end Portus

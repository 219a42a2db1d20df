import Portus.Compiler.Backends

/-!
# Where a compiled configuration is looked up

The fields by which a data plane finds a configuration and matches requests to it: its
listener, its host and what the match entry asks for. No pass over the emitted
configurations touches them (`routingFields_finishRoute`), so they are those of the
listener and the match entry the configuration was emitted for.
-/

namespace Portus.Compiler

open Portus Lib Proto List

structure RoutingFields where
  host : String
  paths : List PathRule := []
  headerMatches : List HeaderMatch := []
  methodMatch : String := ""
  queryParamMatches : List QueryParamMatch := []
  listenerName : String
  listenerPort : UInt32
  listenerHostname : String
  gatewayNamespace : String
  gatewayName : String

def routingFields (r : RouteConfig) : RoutingFields :=
  { host := r.host, paths := r.paths, headerMatches := r.headerMatches
    methodMatch := r.methodMatch, queryParamMatches := r.queryParamMatches
    listenerName := r.listenerName, listenerPort := r.listenerPort
    listenerHostname := r.listenerHostname, gatewayNamespace := r.gatewayNamespace
    gatewayName := r.gatewayName }

theorem routingFields_finishRoute (e : Emission) :
    routingFields (finishRoute store e) = routingFields e.route := by
  rw [finishRoute_eq, passes_frame (f := routingFields) (by intros; rfl) (by intros; rfl)
    (by intros; rfl), applyChoice_frame (f := routingFields) (by intros; rfl)]

def Binding.routing (store : ConfigStore) (b : Binding) (host : String) : RoutingFields :=
  { host
    listenerName := b.listenerName
    listenerPort := b.listener.port.toUInt32
    listenerHostname := b.listenerHostname
    gatewayNamespace := (ownerGateway store b.parentRef).namespaceName
    gatewayName := (ownerGateway store b.parentRef).name }

def httpRouting (place : RoutingFields) (entry : Option HTTPRouteMatchState) : RoutingFields :=
  { place with
    paths := ((entry.bind (·.path)).map fun (path, matchType) => PathRule.mk path matchType).toList
    headerMatches := (entry.map fun m => headerMatchesOf m.headers).getD []
    methodMatch := (entry.bind (·.method)).getD ""
    queryParamMatches := (entry.map fun m => m.queryParams.map fun (name, value, matchType) =>
      QueryParamMatch.mk name value matchType).getD [] }

theorem routingFields_revokeGrant (hr : HTTPRouteState) :
    routingFields (revokeGrant store hr rule rc) = routingFields rc := by
  unfold revokeGrant
  dsimp only
  split
  · rfl
  · split <;> rfl

section Emitted

variable {store : ConfigStore} {key : NamespacedName} {b : Binding}

theorem exists_httpRouting (h : e ∈ httpRuleEmissions store key hr b rule) :
    ∃ host ∈ b.hosts, ∃ entry ∈ orMatchAll rule.matchEntries,
      routingFields (finishRoute store e) = httpRouting (b.routing store host) entry := by
  obtain ⟨host, hh, rc, hrc, rfl⟩ := exists_of_mem_httpRuleEmissions h
  obtain ⟨rc₀, hrc₀, rfl⟩ := exists_of_mem_baseConfigs hrc
  obtain ⟨entry, he, hrc₀⟩ := mem_flatMap.1 hrc₀
  rw [entryConfigs_eq rfl, mem_singleton] at hrc₀
  subst hrc₀
  refine ⟨host, hh, entry, he, ?_⟩
  rw [routingFields_finishRoute, routingFields_revokeGrant]
  rfl

theorem exists_mem_of_httpRouting {hr : HTTPRouteState} {rule : HTTPRouteRuleState} {host : String}
    {entry : Option HTTPRouteMatchState} (hh : host ∈ b.hosts)
    (he : entry ∈ orMatchAll rule.matchEntries) :
    ∃ e ∈ httpRuleEmissions store key hr b rule,
      routingFields (finishRoute store e) = httpRouting (b.routing store host) entry := by
  have hrc : _ ∈ compileHttpRule rule (b.hosts.head?.getD "*") b.listenerName b.listener.port
      b.listenerHostname :=
    mem_flatMap.2 ⟨entry, he, by
      rw [entryConfigs_eq rfl]
      exact mem_singleton_self _⟩
  refine ⟨_, mem_flatMap.2 ⟨host, hh, mem_map.2 ⟨_, mem_map.2 ⟨_, hrc, rfl⟩, rfl⟩⟩, ?_⟩
  rw [routingFields_finishRoute, routingFields_revokeGrant]
  rfl

def grpcRouting (place : RoutingFields) (entry : Option GRPCRouteMatchState) : RoutingFields :=
  { place with
    paths := (entry.map fun m =>
      grpcPaths ⟨m.service.getD "", m.method.getD "", m.matchType⟩).getD []
    headerMatches := (entry.map fun m => headerMatchesOf m.headers).getD [] }

theorem orMatchAll_toList : orMatchAll entry.toList = [entry] := by
  cases entry <;> rfl

def grpcEntryEmissions (store : ConfigStore) (key : NamespacedName) (gr : GRPCRouteState)
    (b : Binding) (rule : GRPCRouteRuleState) (entry : Option GRPCRouteMatchState) :
    List Emission :=
  grpcRuleEmissions store key gr b { rule with matchEntries := entry.toList }

theorem grpcRuleEmissions_eq :
    grpcRuleEmissions store key gr b rule =
      (orMatchAll rule.matchEntries).flatMap (grpcEntryEmissions store key gr b rule) := by
  refine congrArg (List.flatMap · (orMatchAll rule.matchEntries)) (funext fun entry => ?_)
  rw [grpcEntryEmissions, grpcRuleEmissions, orMatchAll_toList, flatMap_singleton]
  rfl

theorem exists_grpcRouting (h : e ∈ grpcEntryEmissions store key gr b rule entry) :
    ∃ host ∈ b.hosts,
      routingFields (finishRoute store e) = grpcRouting (b.routing store host) entry := by
  rw [grpcEntryEmissions, grpcRuleEmissions, orMatchAll_toList, flatMap_singleton, mem_map] at h
  obtain ⟨host, hh, rfl⟩ := h
  refine ⟨host, hh, ?_⟩
  rw [routingFields_finishRoute]
  cases entry <;> rfl

end Emitted

end Portus.Compiler

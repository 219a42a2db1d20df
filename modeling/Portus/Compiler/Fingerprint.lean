import Portus.Compiler.Config
import Portus.Lib.Run

/-!
# The fingerprint of a configuration

The compilation loop publishes a configuration only if its fingerprint moved. The
fingerprint is the wrapping sum of a hash of each element, and so does not see the order
of the elements. The hash of the encoding of an element is a parameter.
-/

namespace Portus.Compiler

open Portus Lib Proto

/-- What is hashed: the messages of a configuration, and hostnames. TCP and UDP routes are messages
of one type. -/
inductive Element where
  | route (r : RouteConfig)
  | backend (b : BackendGroup)
  | listener (l : Listener)
  | tlsPassthroughRoute (t : TlsPassthroughRoute)
  | l4ProxyRoute (t : L4ProxyRoute)
  | hostname (h : String)
  | gatewayBackendTls (g : GatewayBackendTls)
  | mcpFederation (f : McpFederation)
  | issuerKeys (k : IssuerKeys)

def elements (config : CompiledConfig) : List Element :=
  config.routes.map .route ++ config.backends.map .backend ++ config.listeners.map .listener ++
    config.tlsPassthroughRoutes.map .tlsPassthroughRoute ++
    config.tcpProxyRoutes.map .l4ProxyRoute ++ config.udpProxyRoutes.map .l4ProxyRoute ++
    config.tlsPassthroughListenerHostnames.map .hostname ++
    config.gatewayBackendTls.map .gatewayBackendTls ++
    config.mcpFederations.map .mcpFederation ++ config.issuerKeys.map .issuerKeys

def configFingerprint (hash : Element → UInt64) (config : CompiledConfig) : UInt64 :=
  (elements config).foldl (fun fp e => fp + hash e) 0

/-- The fingerprints of two configurations agree only if their elements do. -/
def CollisionFree (hash : Element → UInt64) (c1 c2 : CompiledConfig) : Prop :=
  configFingerprint hash c1 = configFingerprint hash c2 → (elements c1).Perm (elements c2)

section Fingerprint

variable {hash : Element → UInt64} {c1 c2 : CompiledConfig}

theorem configFingerprint_perm (h : (elements c1).Perm (elements c2)) :
    configFingerprint hash c1 = configFingerprint hash c2 := by
  have : RightCommutative fun (fp : UInt64) (e : Element) => fp + hash e :=
    ⟨fun fp a b => by rw [UInt64.add_assoc, UInt64.add_comm (hash a), ← UInt64.add_assoc]⟩
  exact h.foldl_eq 0

theorem elements_perm (hro : c1.routes.Perm c2.routes) (hb : c1.backends.Perm c2.backends)
    (hre : { c1 with routes := [], backends := [] } = { c2 with routes := [], backends := [] }) :
    (elements c1).Perm (elements c2) := by
  have hs (c : CompiledConfig) : elements c = c.routes.map .route ++ (c.backends.map .backend ++
      elements { c with routes := [], backends := [] }) := by
    simp [elements]
  rw [hs c1, hs c2, hre]
  exact (hro.map _).append ((hb.map _).append_right _)

theorem routes_perm (h : (elements c1).Perm (elements c2)) : c1.routes.Perm c2.routes := by
  let routeOf : Element → Option RouteConfig := fun
    | .route r => some r
    | _ => none
  have hr (c : CompiledConfig) : (elements c).filterMap routeOf = c.routes := by
    simp [elements, List.filterMap_map, routeOf]
  rw [← hr c1, ← hr c2]
  exact h.filterMap routeOf

end Fingerprint

structure Publisher where
  version : UInt64 := 0
  lastFingerprint : UInt64 := 0
  sent : Option CompiledConfig := none

def publish (hash : Element → UInt64) (p : Publisher) (config : CompiledConfig) : Publisher :=
  if configFingerprint hash config = p.lastFingerprint ∧ 0 < p.version then p
  else
    { version := p.version + 1
      lastFingerprint := configFingerprint hash config
      sent := some { config with
        version := p.version + 1, fingerprint := configFingerprint hash config } }

structure Publisher.Coherent (hash : Element → UInt64) (p : Publisher) : Prop where
  sent_of_version : 0 < p.version → p.sent.isSome
  fingerprint_sent : ∀ c, p.sent = some c → configFingerprint hash c = p.lastFingerprint

section Publish

variable {hash : Element → UInt64} {p : Publisher}

theorem coherent_publish (config : CompiledConfig) (h : p.Coherent hash) :
    (publish hash p config).Coherent hash := by
  unfold publish
  split
  next => exact h
  next =>
    refine ⟨fun _ => rfl, ?_⟩
    rintro c ⟨⟩
    rfl

theorem coherent_run (hash : Element → UInt64) : (run (publish hash) {} configs).Coherent hash := by
  have hi : Publisher.Coherent hash {} := ⟨fun h => absurd h (by decide), fun c h => nomatch h⟩
  exact run_keeps (fun p => @coherent_publish hash p) hi configs

theorem exists_sent_publish (h : p.Coherent hash) :
    ∃ c, (publish hash p config).sent = some c ∧
      configFingerprint hash c = configFingerprint hash config := by
  unfold publish
  split
  next hs =>
    obtain ⟨c, hc⟩ := Option.isSome_iff_exists.1 (h.sent_of_version hs.2)
    exact ⟨c, hc, (h.fingerprint_sent c hc).trans hs.1.symm⟩
  next => exact ⟨_, rfl, rfl⟩

end Publish

end Portus.Compiler

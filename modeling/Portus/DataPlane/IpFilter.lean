import Portus.DataPlane.Router
import Portus.Lib.IpAddr

/-!
# Allowing and denying client addresses

The networks a data plane keeps of a rule's IP allowlist, the address it takes a request
to come from, and the check of `plan_request` that refuses it. An entry that does not
parse as a network is not kept; `ipNet` stands for the parser of the `ipnet` crate.
-/

namespace Portus.DataPlane

open Portus Lib Proto

structure IpRules where
  allowCidrs : List IpNet
  denyCidrs : List IpNet
  trustedProxyCidrs : List IpNet

def ipRules (ipNet : String → Option IpNet) (rc : RouteConfig) : IpRules :=
  { allowCidrs := (rc.ipAllowlist.map (·.allowCidrs.filterMap ipNet)).getD []
    denyCidrs := (rc.ipAllowlist.map (·.denyCidrs.filterMap ipNet)).getD []
    trustedProxyCidrs := (rc.ipAllowlist.map (·.trustedProxyCidrs.filterMap ipNet)).getD [] }

def anyContains (nets : List IpNet) (ip : IpAddr) : Bool := nets.any (·.contains ip)

/-- The first hop that is not trusted, from the nearest on; the peer if a hop is not an address. -/
def firstUntrusted (trusted : List IpNet) (peer : IpAddr) : List String → Option IpAddr
  | [] => none
  | hop :: hops =>
    match IpAddr.parse hop with
    | none => some peer
    | some ip => if anyContains trusted ip then firstUntrusted trusted peer hops else some ip

def extractClientIp (xff : String) (peer : IpAddr) (trusted : List IpNet) : IpAddr :=
  if !anyContains trusted peer then peer
  else if xff.isEmpty then peer
  else
    let ips := (Text.split ',' xff).map Text.trim
    (firstUntrusted trusted peer ips.reverse).getD ((ips.head?.bind IpAddr.parse).getD peer)

def clientIp (rules : IpRules) (peerIp : Option IpAddr) (facts : RequestFacts) : Option IpAddr :=
  peerIp.map fun peer =>
    if rules.trustedProxyCidrs.isEmpty then peer
    else extractClientIp ((facts.headerStr "x-forwarded-for").getD "") peer rules.trustedProxyCidrs

def ipDenied (rules : IpRules) (client : Option IpAddr) : Bool :=
  if !rules.allowCidrs.isEmpty || !rules.denyCidrs.isEmpty then
    match client with
    | some ip => anyContains rules.denyCidrs ip ||
      (!rules.allowCidrs.isEmpty && !anyContains rules.allowCidrs ip)
    | none => !rules.allowCidrs.isEmpty
  else false

theorem ipDenied_eq_false {rules : IpRules} {ip : IpAddr} : ipDenied rules (some ip) = false ↔
      anyContains rules.denyCidrs ip = false ∧
        (rules.allowCidrs = [] ∨ anyContains rules.allowCidrs ip = true) := by
  unfold ipDenied
  split
  next => simp [or_iff_not_imp_left]
  next he =>
    simp only [Bool.or_eq_true, Bool.not_eq_true', not_or, Bool.not_eq_false, List.isEmpty_iff]
      at he
    simp [he.1, he.2, anyContains]

end Portus.DataPlane

import Portus.Lib.SocketAddr

/-!
# Addresses and networks

`std::net::IpAddr` and its text form. Of a network of the `ipnet` crate only what it contains is
seen; how the crate reads one from a text is a parameter of what uses it.
-/

namespace Portus.Lib

inductive IpAddr where
  | v4 (octets : List Nat)
  | v6 (segments : List Nat)
deriving DecidableEq

def IpAddr.parse (s : String) : Option IpAddr :=
  let v4 := (SocketAddr.readIpv4Addr s.toList).map fun r => (IpAddr.v4 r.1, r.2)
  let v6 := (SocketAddr.readIpv6Addr s.toList).map fun r => (IpAddr.v6 r.1, r.2)
  match v4.or v6 with
  | some (addr, []) => some addr
  | _ => none

structure IpNet where
  contains : IpAddr → Bool

end Portus.Lib

import Portus.DataPlane.Plan

/-!
# TLS to backends

How the data plane dials a backend. The BackendTLSPolicies of a configuration are
kept by Service name and port, their CA bundles parsed once
(`buildBackendTlsMapFromProto`). A forwarded request takes the entry of its backend,
else the TLS settings of its route (`forwardParams`); a member of an MCP federation
has its own (`memberParams`). Both say with what parameters a new connection is
dialled (`TlsParams`).
-/

namespace Portus.DataPlane

open Portus Lib Proto

abbrev Der := List UInt8

structure TlsLibs where
  /-- The certificates of a PEM text, without those that do not parse. -/
  pemCerts : String → List Der
  /-- The text is a host. -/
  isHost : String → Bool
  /-- The certificates make a set of trust anchors. -/
  trustAnchors : List Der → Bool
  /-- A verifier can be built on the certificates. -/
  verifierBuilds : List Der → Bool
  /-- The DER is a private key. -/
  isPrivateKey : Der → Bool
  /-- The hash of the certificates and names of a policy. -/
  policyHash : List Der → List (String × String) → UInt64

structure BackendTlsInfo where
  caCertsDer : List Der
  hostname : String
  subjectAltNames : List (String × String)

/-- The entry of an endpoint group; none without a bundle or when no certificate of it parses. -/
def backendTlsEntry (libs : TlsLibs) (group : BackendGroup) : Option (Slot × BackendTlsInfo) :=
  group.backendTls.bind fun tls =>
    if tls.caCertPem.isEmpty then none
    else
      let certs := libs.pemCerts tls.caCertPem
      if certs.isEmpty then none
      else some (slotOfGroup group,
        ⟨certs, tls.hostname, tls.subjectAltNames.map fun san => (san.sanType, san.value)⟩)

def buildBackendTlsMapFromProto (libs : TlsLibs) (backends : List BackendGroup) :
    Table Slot BackendTlsInfo :=
  Table.collect (backends.filterMap (backendTlsEntry libs))

structure ClientIdentity where
  certChainDer : List Der
  keyDer : Der

@[ext]
structure TlsParams where
  /-- The name it is verified against; without one the address of the backend is. -/
  serverName : Option String
  /-- The trust anchors; none means the default roots. -/
  trust : Option (List Der)
  /-- Names one of which it must carry, checked by a verifier over these certificates. -/
  requiredSans : Option (List Der × List (String × String))
  /-- Whether it is verified at all. -/
  verify : Bool
  /-- The certificate that is presented. -/
  clientAuth : Option ClientIdentity

def serverNameOf (libs : TlsLibs) (sni : String) : Option String :=
  if !sni.isEmpty && libs.isHost sni then some sni else none

structure UpstreamTls where
  trust : Option (List Der)
  verifier : Option (List Der × List (String × String))
  key : UInt64

def buildUpstreamTls (libs : TlsLibs) (info : BackendTlsInfo) : UpstreamTls where
  trust := if libs.trustAnchors info.caCertsDer then some info.caCertsDer else none
  verifier :=
    if info.subjectAltNames.isEmpty then none
    else if libs.verifierBuilds info.caCertsDer then some (info.caCertsDer, info.subjectAltNames)
    else none
  key := libs.policyHash info.caCertsDer info.subjectAltNames

def clientAuthFor (libs : TlsLibs) (identity : ClientIdentity) : Option ClientIdentity :=
  if libs.isPrivateKey identity.keyDer then some identity else none

structure ForwardTls where
  backendTls : Option BackendTlsInfo
  upstreamTls : Bool
  upstreamSni : String
  upstreamVerify : Bool
  /-- The client certificate and where it lies in memory. -/
  clientIdentity : Option (UInt64 × ClientIdentity)
  h2 : Bool

def ForwardTls.useTls (plan : ForwardTls) : Bool := plan.backendTls.isSome || plan.upstreamTls

def isHttp2Protocol (protocol : String) : Bool := ["GRPC", "grpc", "H2C", "h2c"].contains protocol

/-- The TLS part of a plan: the policy of the chosen backend over the settings of the route. -/
def forwardTls (tlsMap : Table Slot BackendTlsInfo) (cert : Option (UInt64 × ClientIdentity))
    (rc : RouteConfig) (slot : Slot) : ForwardTls where
  backendTls := tlsMap.lookup slot
  upstreamTls := rc.upstreamTls.any (·.enabled)
  upstreamSni := ((rc.upstreamTls.map (·.sni)).filter (!·.isEmpty)).getD rc.serviceName
  upstreamVerify := rc.upstreamTls.all (·.verifyCert)
  clientIdentity := cert
  h2 := isHttp2Protocol rc.protocol

def forwardParams (libs : TlsLibs) (plan : ForwardTls) : Option TlsParams :=
  if plan.useTls then
    let sni := (plan.backendTls.map (·.hostname)).getD plan.upstreamSni
    some
      { serverName := serverNameOf libs sni
        trust := plan.backendTls.bind fun info => (buildUpstreamTls libs info).trust
        requiredSans := plan.backendTls.bind fun info => (buildUpstreamTls libs info).verifier
        verify := plan.backendTls.isSome || plan.upstreamVerify
        clientAuth := plan.clientIdentity.bind fun (_, identity) => clientAuthFor libs identity }
  else none

def memberParams (libs : TlsLibs) (member : McpMember) : Option TlsParams :=
  if member.tls then some ⟨serverNameOf libs member.sni, none, none, true, none⟩ else none

end Portus.DataPlane

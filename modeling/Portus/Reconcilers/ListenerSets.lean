import Portus.Reconcilers.Gateways

/-!
# Reconciling a ListenerSet

`reconcilers/listener_set.rs`: a ListenerSet adds listeners to a Gateway that admits
it. Its listeners may not take a host of a port, or a port with another protocol, that
a listener with precedence has: those of the Gateway, of the siblings created before
it, and the earlier ones of the set itself (`Claims`).
-/

namespace Portus.Reconcilers

open Portus Lib

/-- The Gateway's `allowedListeners` admits a ListenerSet of a namespace with these labels. -/
def isAllowed (gatewayAllowedFrom : Option String)
    (gatewayNamespace listenerSetNamespace : String) (gatewayMatchLabels : List (String × String))
    (listenerSetNamespaceLabels : Table String String) : Bool :=
  match gatewayAllowedFrom with
  | none => false
  | some "All" => true
  | some "Same" => gatewayNamespace == listenerSetNamespace
  | some "Selector" =>
    !gatewayMatchLabels.isEmpty &&
      gatewayMatchLabels.all fun (k, v) => listenerSetNamespaceLabels.lookup k == some v
  | some _ => false

/-- The hosts of ports and the protocols of ports that are taken. -/
structure Claims where
  hostnames : List (UInt16 × String) := []
  protocols : Table UInt16 String := ∅

namespace Claims

def insert (c : Claims) (port : UInt16) (hostname : Option String) (protocol : String) : Claims :=
  ⟨(port, hostname.getD "") :: c.hostnames, c.protocols.insert port protocol⟩

/-- A listener of a ListenerSet: the first protocol of a port counts. -/
def orInsert (c : Claims) (port : UInt16) (hostname : Option String) (protocol : String) : Claims :=
  ⟨(port, hostname.getD "") :: c.hostnames,
    if (c.protocols.lookup port).isSome then c.protocols else c.protocols.insert port protocol⟩

def hostnameConflicted (c : Claims) (l : ListenerSpec) : Bool :=
  c.hostnames.contains (l.port, l.hostname.getD "")

def protocolConflicted (c : Claims) (l : ListenerSpec) : Bool :=
  ((c.protocols.lookup l.port).map (· != l.protocol)).getD false

def conflicted (c : Claims) (l : ListenerSpec) : Bool :=
  c.hostnameConflicted l || c.protocolConflicted l

/-- The claims after a listener of the set: one in conflict takes nothing. -/
def afterListener (c : Claims) (l : ListenerSpec) : Claims :=
  if c.conflicted l then c else c.orInsert l.port l.hostname l.protocol

end Claims

structure ListenerSetInput where
  key : NamespacedName
  generation : Int
  created : Int
  parentKey : NamespacedName
  listeners : List ListenerSpec

/-- Missing names are empty, and the parent is in the ListenerSet's namespace by default. -/
def ListenerSet.input (ls : ListenerSet) : ListenerSetInput :=
  let ns := ls.metadata.namespaceName.getD ""
  { key := ⟨ns, ls.metadata.name.getD ""⟩
    generation := ls.metadata.generation.getD 0
    created := ls.metadata.creationTimestamp.getD 0
    parentKey := ⟨ls.spec.parentRef.namespaceName.getD ns, ls.spec.parentRef.name⟩
    listeners := ls.spec.listeners }

section

variable (store : ConfigStore)

def attachment (ls : ListenerSetInput) (lsNamespaceLabels : Table String String) :
    Bool × String × String :=
  match store.gateways.lookup ls.parentKey with
  | none => (false, "Invalid", "parent Gateway not found")
  | some gw =>
    if !isAllowed gw.allowedListenerNamespacesFrom gw.namespaceName ls.key.namespaceName
        gw.allowedListenerMatchLabels lsNamespaceLabels then
      (false, "NotAllowed", "Gateway does not allow ListenerSet attachment from this namespace")
    else (true, "Accepted", "ListenerSet accepted")

/-- A sibling with precedence: created before, or at the same time with a smaller key. -/
def isEarlierSibling (ls : ListenerSetInput) (sibling : ListenerSetState) : Bool :=
  !(sibling.name == ls.key.name && sibling.namespaceName == ls.key.namespaceName) &&
    sibling.parentGateway == ls.parentKey &&
    (decide (sibling.creationTimestamp < ls.created) || (sibling.creationTimestamp == ls.created &&
        (decide (sibling.namespaceName < ls.key.namespaceName) ||
          (sibling.namespaceName == ls.key.namespaceName && decide (sibling.name < ls.key.name)))))

def initialClaims (ls : ListenerSetInput) : Claims :=
  let gatewayListeners := ((store.gateways.lookup ls.parentKey).map (·.listeners)).getD []
  let gatewayClaims := gatewayListeners.foldl
    (fun (c : Claims) l => c.insert l.port l.hostname l.protocol) {}
  let siblings := store.listenerSets.values.filter (isEarlierSibling ls)
  (siblings.flatMap fun s => s.listeners.filter (!·.conflicted)).foldl
    (fun c l => c.orInsert l.port l.hostname l.protocol) gatewayClaims

def refNotPermitted (namespaceName : String) (l : ListenerSpec) : Bool :=
  if (l.protocol = "HTTPS" ∨ l.protocol = "TLS") ∧
      (l.tls.bind (·.mode)).getD "Terminate" = "Terminate" then
    ((l.tls.map (·.certificateRefs)).getD []).any fun certRef =>
      let certNs := certRef.namespaceName.getD namespaceName
      certNs != namespaceName &&
        !referenceGrantAllows store "ListenerSet" namespaceName "Secret" certNs certRef.name
  else false

/-- The client validation of the parent Gateway for the port of an HTTPS listener. -/
def parentValidation (parentKey : NamespacedName) (l : ListenerSpec) :
    Option ClientValidationOutcome :=
  if l.protocol = "HTTPS" then store.frontendValidation parentKey l.port else none

def frontendValidationError : Option ClientValidationOutcome → Option RefError
  | some (.invalid reason message) => some (reason, message)
  | some (.valid refs) => refs.refError
  | none => none

/-- No trust anchor of the validation is usable. -/
def noValidCa : Option ClientValidationOutcome → Bool
  | some (.invalid _ _) => true
  | _ => false

def protocolSupported (protocol : String) : Bool :=
  ["HTTP", "HTTPS", "TLS", "TCP"].contains protocol

def evaluateSetListener (ls : ListenerSetInput) (attachAllowed : Bool) (claims : Claims)
    (l : ListenerSpec) : ListenerEvaluation :=
  let ns := ls.key.namespaceName
  let supported := protocolSupported l.protocol
  let conflicted := claims.conflicted l
  let admitted := defaultKinds supported l.protocol
  let invalidRouteKinds := hasInvalidKind admitted l.allowedRoutes
  let notPermitted := refNotPermitted store ns l
  let validation := parentValidation store ls.parentKey l
  let validationError := frontendValidationError validation
  let resolvedRefs := !invalidRouteKinds && !notPermitted && validationError.isNone
  let accepted := attachAllowed && supported && !conflicted && resolvedRefs && !noValidCa validation
  let routeKinds : String × String :=
    ("InvalidRouteKinds", "allowedRoutes.kinds includes kinds incompatible with listener protocol")
  let permission : String × String :=
    ("RefNotPermitted", "Cross-namespace certificate reference not permitted by ReferenceGrant")
  let (acceptReason, acceptMsg) : String × String :=
    if !attachAllowed then ("NotAllowed", "ListenerSet not allowed on parent Gateway")
    else if !supported then ("UnsupportedProtocol", "Protocol not supported")
    else if claims.hostnameConflicted l then
      ("HostnameConflict", "Hostname conflicts with higher-precedence listener")
    else if claims.protocolConflicted l then
      ("ProtocolConflict", "Protocol conflicts with higher-precedence listener on same port")
    else if invalidRouteKinds then routeKinds
    else if notPermitted then permission
    else if noValidCa validation then
      ("NoValidCACertificate", "No valid CA certificate for frontend client certificate validation")
    else ("Accepted", "Listener accepted")
  let (resolvedReason, resolvedMsg) : String × String :=
    if invalidRouteKinds then routeKinds
    else if notPermitted then permission
    else validationError.getD ("ResolvedRefs", "All refs resolved")
  { state :=
      { name := l.name, port := l.port, protocol := l.protocol, hostname := l.hostname
        accepted, conflicted, resolvedRefs
        allowedRoutes := allowedRoutesState l.allowedRoutes
        tlsCertRefs := ((l.tls.map (·.certificateRefs)).getD []).map fun r =>
          (r.namespaceName.getD ns, r.name)
        tlsMode := tlsModeOf l }
    conditions :=
      [⟨"Accepted", accepted, acceptReason, acceptMsg, ls.generation⟩,
       ⟨"Programmed", accepted, if accepted then "Programmed" else acceptReason,
         if accepted then "Listener programmed" else acceptMsg, ls.generation⟩,
       ⟨"ResolvedRefs", resolvedRefs, resolvedReason, resolvedMsg, ls.generation⟩,
       ⟨"Conflicted", conflicted,
         if claims.hostnameConflicted l then "HostnameConflict"
         else if claims.protocolConflicted l then "ProtocolConflict"
         else "NoConflicts",
         if conflicted then acceptMsg else "No conflicts", ls.generation⟩]
    supportedKinds := supportedKinds admitted l.allowedRoutes }

theorem frontendValidation_of_accepted
    (ha : (evaluateSetListener store ls attachAllowed claims l).state.accepted = true)
    (hl : l.protocol = "HTTPS") :
    store.frontendValidation ls.parentKey l.port ≠ some (.invalid reason message) := by
  intro hi
  have hca : noValidCa (parentValidation store ls.parentKey l) = true := by
    rw [parentValidation, if_pos hl, hi]
    rfl
  simp [evaluateSetListener, hca] at ha

def evaluateSetListeners (ls : ListenerSetInput) (attachAllowed : Bool) :
    Claims → List ListenerSpec → List ListenerEvaluation
  | _, [] => []
  | claims, l :: rest =>
    evaluateSetListener store ls attachAllowed claims l ::
      evaluateSetListeners ls attachAllowed (claims.afterListener l) rest

theorem exists_of_mem_evaluateSetListeners
    (h : e ∈ evaluateSetListeners store ls attachAllowed claims listeners) :
    ∃ l ∈ listeners, ∃ c, e = evaluateSetListener store ls attachAllowed c l := by
  induction listeners generalizing claims with
  | nil => exact absurd h List.not_mem_nil
  | cons l rest ih =>
    rcases List.mem_cons.1 h with rfl | h
    · exact ⟨l, List.mem_cons_self, claims, rfl⟩
    · obtain ⟨l', hm, hc⟩ := ih h
      exact ⟨l', List.mem_cons_of_mem _ hm, hc⟩

/-- A ListenerSet against its parent Gateway: its state, its own conditions and those of its
listeners. -/
def evaluateListenerSet (ls : ListenerSetInput) (lsNamespaceLabels : Table String String) :
    ListenerSetState × List Condition × List ListenerEvaluation :=
  let (attachAllowed, reason, message) := attachment store ls lsNamespaceLabels
  let evaluations := evaluateSetListeners store ls attachAllowed (initialClaims store ls) ls.listeners
  let anyListenerOk := evaluations.any (·.state.accepted)
  let topAccepted := attachAllowed && anyListenerOk
  let (topReason, topMessage) : String × String :=
    if !attachAllowed then (reason, message)
    else if !anyListenerOk then
      ("ListenersNotValid",
        "all listeners are invalid or conflict with higher-precedence listeners")
    else ("Accepted", "ListenerSet accepted")
  ({ name := ls.key.name
     namespaceName := ls.key.namespaceName
     parentGateway := ls.parentKey
     listeners := evaluations.map (·.state)
     accepted := topAccepted
     notAcceptedReason := if topAccepted then none else some topReason
     creationTimestamp := ls.created },
   [⟨"Accepted", topAccepted, topReason, topMessage, ls.generation⟩,
    ⟨"Programmed", topAccepted, if topAccepted then "Programmed" else topReason,
      if topAccepted then "ListenerSet programmed" else topMessage, ls.generation⟩],
   evaluations)

/-- A ListenerSet that is deleted leaves the store; any other is evaluated with the labels known of
its namespace. -/
def reconcileListenerSet (ls : ListenerSet) : Except ReconcileError ConfigStore := do
  let key ← ls.metadata.key
  if ls.metadata.deletionTimestamp.isSome then
    pure { store with listenerSets := store.listenerSets.erase key }
  else
    let nsLabels := (store.namespaceLabels.lookup key.namespaceName).getD ∅
    pure { store with
      listenerSets :=
        store.listenerSets.insert key (evaluateListenerSet store ls.input nsLabels).1 }

end

end Portus.Reconcilers

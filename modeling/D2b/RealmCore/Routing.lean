import D2b.RealmCore.Frame

/-!
# D2b.RealmCore.Routing

Route metadata (`routing.rs`): tree edges, advertisements and the namespace
allocations they are checked against, hops and paths, and the closed label
sets of audit and telemetry.

The record types of the source have public fields, so their values need not
have passed a constructor: they are plain structures here, and each
constructor is a function `new` to `Option`.  `WellFormed` says that a value
is one its constructor returned.
-/

namespace D2b

/-! ## bounded references -/

def maxSignatureRefLen : Nat := 128

def isRefChar (c : Char) : Bool := c.isAlphanum || c == ':' || c == '-' || c == '_' || c == '.'

/-- What `SignatureRef::parse` accepts. -/
def validSignatureRef (raw : String) : Bool :=
  match raw.toList with
  | [] => false
  | first :: rest =>
    decide (raw.utf8ByteSize ≤ maxSignatureRefLen) && first.isAlphanum &&
      (first :: rest).all isRefChar

/-- Detached signature reference; not key material. -/
structure SignatureRef where
  asStr : String
  valid : validSignatureRef asStr = true
deriving DecidableEq

def maxRouteMetadataRefLen : Nat := 128

/-- Substrings a metadata reference may not hold once separators are dropped. -/
def metadataRefMarkers : List String :=
  ["secret", "password", "passwd", "bearer", "credential", "privatekey", "token", "endpoint",
    "socketpath"]

def validMetadataRef (raw : String) : Bool :=
  match raw.toList with
  | [] => false
  | first :: rest =>
    decide (raw.utf8ByteSize ≤ maxRouteMetadataRefLen)
      && first.isAlphanum
      && !containsChars (first :: rest) ['.', '.']
      && (first :: rest).all isRefChar
      && !metadataRefMarkers.any fun marker =>
          containsChars
            (((first :: rest).filter fun c => !(isSeparator c || c == ':')).map Char.toLower)
            marker.toList

structure RoutePolicyRuleId where
  asStr : String
  valid : validMetadataRef asStr = true
deriving DecidableEq

/-! ## edges, advertisements and allocations -/

def maxAdvertisedRoutes : Nat := 64

def maxRouteNamespacePrefixes : Nat := 16

def maxRoutePathHops : Nat := 32

structure RealmTreeEdge where
  parent : RealmPath
  child : RealmPath
deriving DecidableEq

namespace RealmTreeEdge

/-- Construct only when `child` is exactly one label below `parent`. -/
def new (parent child : RealmPath) : Option RealmTreeEdge :=
  if child.isDirectChildOf parent then some ⟨parent, child⟩ else none

/-- The edge passed its constructor. -/
def WellFormed (e : RealmTreeEdge) : Prop := new e.parent e.child = some e

instance (e : RealmTreeEdge) : Decidable e.WellFormed := inferInstanceAs (Decidable (_ = _))

lemma WellFormed.isDirectChildOf {e : RealmTreeEdge} (h : e.WellFormed) :
    e.child.isDirectChildOf e.parent = true := by
  unfold WellFormed new at h
  split at h
  · assumption
  · contradiction

end RealmTreeEdge

/-- One descendant route advertised by a realm controller. -/
structure DescendantRoute where
  routeId : RouteId
  descendant : RealmPath
  nextHopChild : RealmId
  capabilities : CapabilitySet
deriving DecidableEq

/-- Signature metadata; only the reference is read by the engine. -/
structure RouteSignature where
  signatureRef : SignatureRef
deriving DecidableEq

/-- Signed, expiring descendant-only route advertisement. -/
structure RouteAdvertisement where
  advertisingRealm : RealmPath
  treeEdge : RealmTreeEdge
  controllerGeneration : ControllerGenerationId
  routes : List DescendantRoute
  issuedAtUnixSeconds : Nat
  expiresAtUnixSeconds : Nat
  signature : RouteSignature
deriving DecidableEq

/-- The label just below `ancestor` on the way to `descendant`
(`next_hop_child` of the constructors). -/
def nextHopChild (descendant ancestor : RealmPath) : Option RealmId :=
  if ancestor.labels.length + 1 ≤ descendant.labels.length then
    descendant.labels[descendant.labels.length - (ancestor.labels.length + 1)]?
  else none

namespace RouteAdvertisement

/-- Validate descendant-only and bounded route invariants. -/
def new (advertisingRealm : RealmPath) (treeEdge : RealmTreeEdge)
    (controllerGeneration : ControllerGenerationId) (routes : List DescendantRoute)
    (issuedAtUnixSeconds expiresAtUnixSeconds : Nat) (signature : RouteSignature) :
    Option RouteAdvertisement :=
  if treeEdge.child ≠ advertisingRealm
      ∨ routes.isEmpty
      ∨ routes.length > maxAdvertisedRoutes
      ∨ expiresAtUnixSeconds ≤ issuedAtUnixSeconds
      ∨ routes.any (fun route =>
          !route.descendant.isDescendantOf advertisingRealm
            || nextHopChild route.descendant advertisingRealm != some route.nextHopChild)
  then none
  else some ⟨advertisingRealm, treeEdge, controllerGeneration, routes, issuedAtUnixSeconds,
    expiresAtUnixSeconds, signature⟩

/-- The advertisement and its edge passed their constructors. -/
def WellFormed (a : RouteAdvertisement) : Prop :=
  a.treeEdge.WellFormed ∧
    new a.advertisingRealm a.treeEdge a.controllerGeneration a.routes a.issuedAtUnixSeconds
      a.expiresAtUnixSeconds a.signature = some a

instance (a : RouteAdvertisement) : Decidable a.WellFormed :=
  inferInstanceAs (Decidable (_ ∧ _ = _))

end RouteAdvertisement

/-- Envelope around an advertisement as the receiving realm sees it. -/
structure RouteAdvertisementEnvelope where
  advertisement : RouteAdvertisement
  receivedAtUnixSeconds : Nat
deriving DecidableEq

/-- Namespace delegated by a parent to a direct child. -/
structure RouteNamespaceAllocation where
  treeEdge : RealmTreeEdge
  allocatedToGeneration : ControllerGenerationId
  allowedPrefixes : List RealmPath
  maxRoutes : Nat
  capabilityCeiling : CapabilitySet
deriving DecidableEq

namespace RouteNamespaceAllocation

/-- Validate direct child ownership and bounded prefixes. -/
def new (treeEdge : RealmTreeEdge) (allocatedToGeneration : ControllerGenerationId)
    (allowedPrefixes : List RealmPath) (maxRoutes : Nat) (capabilityCeiling : CapabilitySet) :
    Option RouteNamespaceAllocation :=
  if allowedPrefixes.isEmpty
      ∨ allowedPrefixes.length > maxRouteNamespacePrefixes
      ∨ maxRoutes = 0
      ∨ maxRoutes > maxAdvertisedRoutes
      ∨ allowedPrefixes.any (fun p => p != treeEdge.child && !p.isDescendantOf treeEdge.child)
  then none
  else some ⟨treeEdge, allocatedToGeneration, allowedPrefixes, maxRoutes, capabilityCeiling⟩

/-- The allocation and its edge passed their constructors. -/
def WellFormed (a : RouteNamespaceAllocation) : Prop :=
  a.treeEdge.WellFormed ∧
    new a.treeEdge a.allocatedToGeneration a.allowedPrefixes a.maxRoutes a.capabilityCeiling =
      some a

instance (a : RouteNamespaceAllocation) : Decidable a.WellFormed :=
  inferInstanceAs (Decidable (_ ∧ _ = _))

end RouteNamespaceAllocation

/-! ## hops and paths -/

inductive TreeRouteHopDirection where
  | upToParent | downToChild
deriving DecidableEq

structure TreeRouteHop where
  source : RealmPath
  target : RealmPath
  edge : RealmTreeEdge
  direction : TreeRouteHopDirection
  routeId : Option RouteId
deriving DecidableEq

/-- Construct only if the ends match the declared edge and direction. -/
def TreeRouteHop.new (source target : RealmPath) (edge : RealmTreeEdge)
    (direction : TreeRouteHopDirection) (routeId : Option RouteId) : Option TreeRouteHop :=
  let valid := match direction with
    | .upToParent => decide (source = edge.child) && decide (target = edge.parent)
    | .downToChild => decide (source = edge.parent) && decide (target = edge.child)
  if valid then some ⟨source, target, edge, direction, routeId⟩ else none

structure TreeRoutePath where
  sourceRealm : RealmPath
  targetRealm : RealmPath
  nearestCommonAncestor : RealmPath
  hops : List TreeRouteHop
deriving DecidableEq

/-- `windows(2)`: some hop does not start where the one before it ended. -/
def hopsBroken : List TreeRouteHop → Bool
  | a :: b :: rest => decide (a.target ≠ b.source) || hopsBroken (b :: rest)
  | _ => false

def TreeRoutePath.new (sourceRealm targetRealm nearestCommonAncestor : RealmPath)
    (hops : List TreeRouteHop) : Option TreeRoutePath :=
  if hops.length > maxRoutePathHops then none
  else if hops.head?.any fun first => first.source ≠ sourceRealm then none
  else if hops.getLast?.any fun last => last.target ≠ targetRealm then none
  else if hopsBroken hops then none
  else if !sourceRealm.isDescendantOf nearestCommonAncestor
      ∧ sourceRealm ≠ nearestCommonAncestor then none
  else if !targetRealm.isDescendantOf nearestCommonAncestor
      ∧ targetRealm ≠ nearestCommonAncestor then none
  else some ⟨sourceRealm, targetRealm, nearestCommonAncestor, hops⟩

inductive RouteFailClosedReason where
  | malformedAdvert | unknownParent | namespaceViolation | siblingOrParentRouteAdvert
  | loop | multiParent | expired | replay | rateLimited | queueFullDropNew
  | missingCapability | policyDenial
deriving DecidableEq

inductive TreeRouteDecisionOutcome where
  | allowed (path : TreeRoutePath)
  | denied (reason : RouteFailClosedReason)
deriving DecidableEq

structure TreeRouteDecision where
  decisionId : OperationId
  correlationId : CorrelationId
  trace : Option TraceContext
  sourceRealm : RealmPath
  targetRealm : RealmPath
  operationKind : OperationKind
  requiredCapability : Option Capability
  policyRuleId : Option RoutePolicyRuleId
  outcome : TreeRouteDecisionOutcome
deriving DecidableEq

/-! ## audit and telemetry labels -/

/-- Route event kind for bounded audit metadata. -/
inductive RouteAuditEventKind where
  | discoveryQueued | discoveryDropped | sessionAdmitted | sessionDenied
  | advertisementAccepted | advertisementDenied | routeAllowed | routeDenied
  | shortcutAuthorized | shortcutDenied | shortcutTornDown
deriving DecidableEq

inductive RouteRealmClass where
  | localRoot | staticConfigured | hostLocalPeer | gatewayBacked | cloudFullHost
  | providerManaged | ephemeralDiscovered | unknown
deriving DecidableEq

inductive RoutePlacementClass where
  | hostLocal | gatewayVm | cloudFullHost | providerController | providerAgent
  | providerSpecific | unknown
deriving DecidableEq

/-- The class of a controller placement, without its provider ids. -/
def RoutePlacementClass.ofPlacement : RealmControllerPlacement → RoutePlacementClass
  | .hostLocal => .hostLocal
  | .gatewayVm => .gatewayVm
  | .cloudFullHost => .cloudFullHost
  | .providerController _ => .providerController
  | .providerAgent _ => .providerAgent
  | .providerSpecific _ _ => .providerSpecific

structure RouteAuditLabels where
  event : RouteAuditEventKind
  sourceRealmClass : RouteRealmClass
  targetRealmClass : RouteRealmClass
  placement : RoutePlacementClass
  operationKind : OperationKind
  reason : Option RouteFailClosedReason
  policyRuleId : Option RoutePolicyRuleId
deriving DecidableEq

inductive RouteTelemetryCounterKind where
  | apiLatencyCount | apiErrorCount | discoveryQueueDepth | discoveryDropNewCount
  | preAuthRateLimitHitCount | routeAdvertisementAcceptedCount | routeAdvertisementDeniedCount
  | routeDecisionAllowedCount | routeDecisionDeniedCount | shortcutAuthorizedCount
  | shortcutDeniedCount | revocationTeardownCount | sessionTeardownCount
deriving DecidableEq

/-- Low-cardinality metric labels. -/
structure RouteTelemetryLabels where
  sourceRealmClass : RouteRealmClass
  targetRealmClass : RouteRealmClass
  placement : RoutePlacementClass
  operationKind : Option OperationKind
  reason : Option RouteFailClosedReason
deriving DecidableEq

structure RouteTelemetrySample where
  counter : RouteTelemetryCounterKind
  labels : RouteTelemetryLabels
  value : Nat
deriving DecidableEq

end D2b

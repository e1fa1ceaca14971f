import Mathlib.Data.Prod.Lex
import D2b.Lib.BTreeMap
import D2b.Lib.Climb
import D2b.RealmCore.Routing

/-!
# D2b.RealmCore.RouteEngine

The tree-route engine (`route_engine.rs`): admission of advertisements into
an in-memory tree view, the expiry sweep, and the route decision.

`admitAdvertisement` is split where the source has its early returns.
`stageAdvertisement` runs every check and collects the updates without
touching the engine; a reason it returns is the denial.  `commit` is what the
source does once nothing can fail any more.  Times are Unix seconds and only
compared, so they are natural numbers here.
-/

namespace D2b

def maxParentEntries : Nat := 4096
def maxRouteEntries : Nat := 4096
def maxReplayKeys : Nat := (maxParentEntries + maxRouteEntries) * 4

/-! ## events and results -/

/-- One low-cardinality audit and metric event. -/
structure RouteEngineEvent where
  audit : RouteAuditLabels
  telemetry : RouteTelemetrySample
deriving DecidableEq

inductive RouteAdvertisementAdmissionOutcome where
  | accepted (acceptedRoutes : List RouteId)
  | denied (reason : RouteFailClosedReason)
deriving DecidableEq

structure RouteAdvertisementAdmission where
  outcome : RouteAdvertisementAdmissionOutcome
  event : RouteEngineEvent
deriving DecidableEq

/-- Counts returned by a physical expiry sweep. -/
structure RoutePruneReport where
  parentEntries : Nat
  routeEntries : Nat
  replayKeys : Nat
deriving DecidableEq

def routeEvent (event : RouteAuditEventKind) (counter : RouteTelemetryCounterKind)
    (operationKind : OperationKind) (reason : Option RouteFailClosedReason)
    (policyRuleId : Option RoutePolicyRuleId) (placement : RoutePlacementClass)
    (sourceRealmClass targetRealmClass : RouteRealmClass) (value : Nat) : RouteEngineEvent where
  audit := ⟨event, sourceRealmClass, targetRealmClass, placement, operationKind, reason,
    policyRuleId⟩
  telemetry := ⟨counter, ⟨sourceRealmClass, targetRealmClass, placement, some operationKind,
    reason⟩, value⟩

/-! ## engine state -/

/-- What the engine knows of a realm as a child. -/
structure ParentEntry where
  parent : RealmPath
  routeId : Option RouteId
  capabilities : CapabilitySet
  issuedAtUnixSeconds : Nat
  expiresAtUnixSeconds : Nat
deriving DecidableEq

/-- What the engine knows of a realm as a route target. -/
structure RouteEntry where
  advertisingRealm : RealmPath
  nextHopChild : RealmId
  routeId : RouteId
  capabilities : CapabilitySet
  issuedAtUnixSeconds : Nat
  expiresAtUnixSeconds : Nat
deriving DecidableEq

/-- The identity under which an accepted advertisement is remembered. -/
structure ReplayKey where
  advertisingRealm : RealmPath
  controllerGeneration : ControllerGenerationId
  issuedAtUnixSeconds : Nat
  signatureRef : String

namespace ReplayKey

/-- The fields in the order the derived comparison reads them. -/
def toTuple (k : ReplayKey) : RealmPath ×ₗ ControllerGenerationId ×ₗ Nat ×ₗ String :=
  toLex (k.advertisingRealm,
    toLex (k.controllerGeneration, toLex (k.issuedAtUnixSeconds, k.signatureRef)))

lemma toTuple_injective : Function.Injective toTuple := by
  rintro ⟨r, g, i, s⟩ ⟨r', g', i', s'⟩ h
  simpa [toTuple] using h

instance : LinearOrder ReplayKey := LinearOrder.lift' toTuple toTuple_injective

end ReplayKey

structure RouteCapacityLimits where
  maxParentEntries : Nat
  maxRouteEntries : Nat
  maxReplayKeys : Nat
deriving DecidableEq

structure RouteTreeEngine where
  localRoot : RealmPath
  placement : RoutePlacementClass
  parents : BTreeMap RealmPath ParentEntry
  routes : BTreeMap RealmPath RouteEntry
  replayedAdverts : BTreeMap ReplayKey Nat
  capacityLimits : RouteCapacityLimits

/-! ## path helpers -/

def childWithLabel (parent : RealmPath) (label : RealmId) : Option RealmPath :=
  RealmPath.new (label :: parent.labels)

/-- `direct_child_below`: the child of `ancestor` on the way to `descendant`. -/
def directChildBelow (descendant ancestor : RealmPath) : Option RealmPath :=
  (nextHopChild descendant ancestor).bind (childWithLabel ancestor)

def nearestCommonAncestor (left right : RealmPath) : Option RealmPath :=
  let common := ((left.labels.reverse.zip right.labels.reverse).takeWhile
    fun ab => ab.1 == ab.2).map Prod.fst
  if common.isEmpty then none else RealmPath.new common.reverse

def prefixAllowed (descendant : RealmPath) (prefixes : List RealmPath) : Bool :=
  prefixes.any fun p => decide (descendant = p) || descendant.isDescendantOf p

/-! ## lookups -/

def isExpired (expiresAt now : Nat) : Bool := decide (expiresAt ≤ now)

namespace RouteTreeEngine

/-- A route engine with explicit in-memory map capacities. -/
def withCapacityLimits (localRoot : RealmPath) (placement : RealmControllerPlacement)
    (maxParentEntries maxRouteEntries maxReplayKeys : Nat) : RouteTreeEngine where
  localRoot := localRoot
  placement := .ofPlacement placement
  parents := ∅
  routes := ∅
  replayedAdverts := ∅
  capacityLimits := ⟨maxParentEntries, maxRouteEntries, maxReplayKeys⟩

/-- A route engine rooted at the local realm. -/
def new (localRoot : RealmPath) (placement : RealmControllerPlacement) : RouteTreeEngine where
  localRoot := localRoot
  placement := .ofPlacement placement
  parents := ∅
  routes := ∅
  replayedAdverts := ∅
  capacityLimits := ⟨D2b.maxParentEntries, D2b.maxRouteEntries, D2b.maxReplayKeys⟩

variable (e : RouteTreeEngine) (realm : RealmPath)

/-- The parent entry of a realm, unless it has expired. -/
def parentEntryAt (now : Nat) : Option ParentEntry :=
  e.parents[realm]?.filter fun entry => !isExpired entry.expiresAtUnixSeconds now

/-- The route entry of a realm, unless it has expired. -/
def routeEntryAt (now : Nat) : Option RouteEntry :=
  e.routes[realm]?.filter fun entry => !isExpired entry.expiresAtUnixSeconds now

def isKnownRealmAt (now : Nat) : Bool :=
  decide (realm = e.localRoot) || (e.parentEntryAt realm now).isSome
    || (e.routeEntryAt realm now).isSome

/-- The route entry decides, and the parent entry only where there is none. -/
def targetHasCapabilityAt (target : RealmPath) (capability : Capability) (now : Nat) : Bool :=
  if target = e.localRoot then true
  else
    (((e.routeEntryAt target now).map fun route => route.capabilities.has capability).or
      ((e.parentEntryAt target now).map fun entry => entry.capabilities.has capability)).getD false

def classForAt (now : Nat) : RouteRealmClass :=
  if realm = e.localRoot then .localRoot
  else if e.isKnownRealmAt realm now then .ephemeralDiscovered
  else .unknown

end RouteTreeEngine

/-! ## staging -/

def boundCapabilities (capabilities : CapabilitySet) (ceiling : Option CapabilitySet) :
    CapabilitySet :=
  match ceiling with
  | some ceiling => capabilities.intersection ceiling
  | none => capabilities

/-- `parent_entry_with_updates_at`: staged entries first, live ones after. -/
def parentEntryWithUpdatesAt (parents parentUpdates : BTreeMap RealmPath ParentEntry)
    (realm : RealmPath) (now : Nat) : Option ParentEntry :=
  match parentUpdates[realm]? with
  | some entry => some entry
  | none => parents[realm]?.filter fun entry => !isExpired entry.expiresAtUnixSeconds now

/-- `would_form_loop_with_updates`: climb from `parent`; standing on `child`,
or on a realm passed before, is a loop.  Every realm passed is a key of one of
the two maps, so the fuel is never used up (`wouldFormLoop_fuel`). -/
def wouldFormLoopWithUpdates (parents parentUpdates : BTreeMap RealmPath ParentEntry)
    (parent child : RealmPath) (now : Nat) : Bool :=
  Climb.climbsTo
    (fun realm => (parentEntryWithUpdatesAt parents parentUpdates realm now).map (·.parent))
    child (parents.size + parentUpdates.size + 1) [] parent

/-- Record `child` below `parent`, with what the advertisement says of it. -/
def stageParentEdge (parents parentUpdates : BTreeMap RealmPath ParentEntry) (now issuedAt : Nat)
    (parent child : RealmPath) (routeId : Option RouteId)
    (capabilities capabilityCeiling : Option CapabilitySet) (expiresAt : Nat) :
    Except RouteFailClosedReason (BTreeMap RealmPath ParentEntry) :=
  if child = parent ∨ wouldFormLoopWithUpdates parents parentUpdates parent child now then
    .error .loop
  else match parentUpdates[child]? with
  | some existing =>
    if existing.parent ≠ parent then .error .multiParent
    else
      .ok (parentUpdates.insert child
        { existing with
          routeId := routeId.or existing.routeId
          capabilities :=
            match capabilities, capabilityCeiling with
            | some capabilities, ceiling => boundCapabilities capabilities ceiling
            | none, some ceiling => existing.capabilities.intersection ceiling
            | none, none => existing.capabilities
          expiresAtUnixSeconds := expiresAt })
  | none =>
    match parents[child]?.filter fun entry => !isExpired entry.expiresAtUnixSeconds now with
    | some existing =>
      if issuedAt ≤ existing.issuedAtUnixSeconds then .error .replay
      else if existing.parent ≠ parent then .error .multiParent
      else
        -- a transit edge inherits what the live entry says of the child
        .ok (parentUpdates.insert child
          { parent
            routeId := routeId.or existing.routeId
            capabilities :=
              boundCapabilities (capabilities.getD existing.capabilities) capabilityCeiling
            issuedAtUnixSeconds := issuedAt
            expiresAtUnixSeconds := expiresAt })
    | none =>
      .ok (parentUpdates.insert child
        { parent
          routeId
          capabilities := (capabilities.map (boundCapabilities · capabilityCeiling)).getD .empty
          issuedAtUnixSeconds := issuedAt
          expiresAtUnixSeconds := expiresAt })

def stageRouteEntry (routes routeUpdates : BTreeMap RealmPath RouteEntry) (now issuedAt : Nat)
    (advertisingRealm descendant : RealmPath) (nextHopChild : RealmId) (routeId : RouteId)
    (capabilities : CapabilitySet) (expiresAt : Nat) :
    Except RouteFailClosedReason (BTreeMap RealmPath RouteEntry) :=
  let entry : RouteEntry :=
    ⟨advertisingRealm, nextHopChild, routeId, capabilities, issuedAt, expiresAt⟩
  match routeUpdates[descendant]? with
  | some existing =>
    if existing.advertisingRealm ≠ advertisingRealm ∨ existing.nextHopChild ≠ nextHopChild then
      .error .multiParent
    else .ok routeUpdates
  | none =>
    match routes[descendant]?.filter fun entry => !isExpired entry.expiresAtUnixSeconds now with
    | some existing =>
      if issuedAt ≤ existing.issuedAtUnixSeconds then .error .replay
      else if existing.advertisingRealm ≠ advertisingRealm
          ∨ existing.nextHopChild ≠ nextHopChild then
        .error .multiParent
      else .ok (routeUpdates.insert descendant entry)
    | none => .ok (routeUpdates.insert descendant entry)

/-- What an admission has collected so far. -/
structure Staged where
  parentUpdates : BTreeMap RealmPath ParentEntry
  routeUpdates : BTreeMap RealmPath RouteEntry
  acceptedRoutes : List RouteId
  seenDescendants : List RealmPath

/-- One turn of the loop over the advertised routes. -/
def stageRoute (e : RouteTreeEngine) (envelope : RouteAdvertisementEnvelope)
    (allocation : RouteNamespaceAllocation) (staged : Staged) (route : DescendantRoute) :
    Except RouteFailClosedReason Staged :=
  let now := envelope.receivedAtUnixSeconds
  let advertisement := envelope.advertisement
  let realm := advertisement.advertisingRealm
  if route.descendant ∈ staged.seenDescendants then .error .malformedAdvert
  else if !route.descendant.isDescendantOf realm
      ∨ (directChildBelow route.descendant realm).bind (·.labels.head?)
          ≠ some route.nextHopChild then
    .error .siblingOrParentRouteAdvert
  else if !prefixAllowed route.descendant allocation.allowedPrefixes
      ∨ !route.capabilities.isSubsetOf allocation.capabilityCeiling then
    .error .namespaceViolation
  else match directChildBelow route.descendant realm with
  | none => .error .malformedAdvert
  | some nextChild => do
    let direct := decide (nextChild = route.descendant)
    let parentUpdates ← stageParentEdge e.parents staged.parentUpdates now
      advertisement.issuedAtUnixSeconds realm nextChild
      (if direct then some route.routeId else none)
      (if direct then some route.capabilities else none)
      none advertisement.expiresAtUnixSeconds
    let routeUpdates ← stageRouteEntry e.routes staged.routeUpdates now
      advertisement.issuedAtUnixSeconds realm route.descendant route.nextHopChild route.routeId
      route.capabilities advertisement.expiresAtUnixSeconds
    pure
      { parentUpdates
        routeUpdates
        acceptedRoutes := staged.acceptedRoutes ++ [route.routeId]
        seenDescendants := route.descendant :: staged.seenDescendants }

/-! ## replay keys and projected sizes -/

/-- The key an accepted advertisement is remembered under. -/
def replayKey (advertisement : RouteAdvertisement) : ReplayKey where
  advertisingRealm := advertisement.advertisingRealm
  controllerGeneration := advertisement.controllerGeneration
  issuedAtUnixSeconds := advertisement.issuedAtUnixSeconds
  signatureRef := advertisement.signature.signatureRef.asStr

def replayKeyMatches (key : ReplayKey) (envelope : RouteAdvertisementEnvelope) : Bool :=
  let advertisement := envelope.advertisement
  decide (key.advertisingRealm = advertisement.advertisingRealm)
    && decide (key.controllerGeneration = advertisement.controllerGeneration)
    && decide (key.issuedAtUnixSeconds = advertisement.issuedAtUnixSeconds)
    && decide (key.signatureRef = advertisement.signature.signatureRef.asStr)

/-- `is_superseded_replay_key`: an older key of the same controller that does
not outlive the advertisement. -/
def isSupersededReplayKey (key : ReplayKey) (expiresAt : Nat)
    (advertisement : RouteAdvertisement) : Bool :=
  decide (key.advertisingRealm = advertisement.advertisingRealm)
    && decide (key.controllerGeneration = advertisement.controllerGeneration)
    && decide (key.issuedAtUnixSeconds < advertisement.issuedAtUnixSeconds)
    && decide (expiresAt ≤ advertisement.expiresAtUnixSeconds)

/-- `projected_physical_len`: size after the updates, nothing pruned. -/
def projectedPhysicalLen (entries updates : BTreeMap RealmPath V) : Nat :=
  entries.size + (updates.keys.filter fun key => !entries.contains key).length

variable (expiresAt : V → Nat)

def liveEntries (entries : BTreeMap RealmPath V) (now : Nat) : Nat :=
  (entries.toList.filter fun kv => !isExpired (expiresAt kv.2) now).length

/-- Updates whose key has a live entry. -/
def liveUpdates (entries updates : BTreeMap RealmPath V) (now : Nat) : Nat :=
  (updates.keys.filter fun key =>
    entries[key]?.any fun entry => !isExpired (expiresAt entry) now).length

/-- The source's two `projected_*_len_after_prune`, which differ in the entry
type only. -/
def projectedLenAfterPrune (entries updates : BTreeMap RealmPath V) (now : Nat) : Nat :=
  liveEntries expiresAt entries now + updates.size - liveUpdates expiresAt entries updates now

def projectedParentLenAfterPrune : (entries updates : BTreeMap RealmPath ParentEntry) →
    (now : Nat) → Nat :=
  projectedLenAfterPrune (·.expiresAtUnixSeconds)

def projectedRouteLenAfterPrune : (entries updates : BTreeMap RealmPath RouteEntry) →
    (now : Nat) → Nat :=
  projectedLenAfterPrune (·.expiresAtUnixSeconds)

/-- The replay map's size once the new key is in, nothing pruned. -/
def replayPhysicalLen (replayedAdverts : BTreeMap ReplayKey Nat)
    (envelope : RouteAdvertisementEnvelope) : Nat :=
  replayedAdverts.size + (!replayedAdverts.keys.any fun key => replayKeyMatches key envelope).toNat

def projectedReplayLenAfterPrune (replayedAdverts : BTreeMap ReplayKey Nat)
    (envelope : RouteAdvertisementEnvelope) (now : Nat) : Nat :=
  let advertisement := envelope.advertisement
  let retainedEntries := (replayedAdverts.toList.filter fun kv =>
    !isExpired kv.2 now && !isSupersededReplayKey kv.1 kv.2 advertisement).length
  let replayKeyRetained := replayedAdverts.toList.any fun kv =>
    replayKeyMatches kv.1 envelope && !isExpired kv.2 now
      && !isSupersededReplayKey kv.1 kv.2 advertisement
  retainedEntries + (!replayKeyRetained).toNat

/-! ## admission -/

namespace RouteTreeEngine

variable (e : RouteTreeEngine) (envelope : RouteAdvertisementEnvelope)

/-- The maps would not hold the updates without pruning. -/
def capacityPressure (staged : Staged) : Bool :=
  decide (projectedPhysicalLen e.parents staged.parentUpdates > e.capacityLimits.maxParentEntries)
    || decide (projectedPhysicalLen e.routes staged.routeUpdates
        > e.capacityLimits.maxRouteEntries)
    || decide (replayPhysicalLen e.replayedAdverts envelope > e.capacityLimits.maxReplayKeys)

/-- Nor would they hold them after pruning. -/
def fullAfterPrune (staged : Staged) : Bool :=
  let now := envelope.receivedAtUnixSeconds
  decide (projectedParentLenAfterPrune e.parents staged.parentUpdates now
      > e.capacityLimits.maxParentEntries)
    || decide (projectedRouteLenAfterPrune e.routes staged.routeUpdates now
        > e.capacityLimits.maxRouteEntries)
    || decide (projectedReplayLenAfterPrune e.replayedAdverts envelope now
        > e.capacityLimits.maxReplayKeys)

/-- Every check of the admission, and the updates it would make. -/
def stageAdvertisement
    (allocation : RouteNamespaceAllocation) : Except RouteFailClosedReason Staged :=
  let now := envelope.receivedAtUnixSeconds
  let advertisement := envelope.advertisement
  if advertisement.treeEdge.child ≠ advertisement.advertisingRealm
      ∨ advertisement.routes.isEmpty
      ∨ advertisement.expiresAtUnixSeconds ≤ advertisement.issuedAtUnixSeconds
      ∨ now < advertisement.issuedAtUnixSeconds then
    .error .malformedAdvert
  else if now ≥ advertisement.expiresAtUnixSeconds then .error .expired
  else if advertisement.treeEdge.parent ≠ e.localRoot
      ∧ (e.parentEntryAt advertisement.treeEdge.parent now).isNone then
    .error .unknownParent
  else if e.replayedAdverts.toList.any (fun kv =>
      replayKeyMatches kv.1 envelope && !isExpired kv.2 now) then
    .error .replay
  else if allocation.treeEdge ≠ advertisement.treeEdge
      ∨ allocation.allocatedToGeneration ≠ advertisement.controllerGeneration
      ∨ advertisement.routes.length > allocation.maxRoutes then
    .error .namespaceViolation
  else do
    let parentUpdates ← stageParentEdge e.parents ∅ now advertisement.issuedAtUnixSeconds
      advertisement.treeEdge.parent advertisement.treeEdge.child none
      (some allocation.capabilityCeiling) (some allocation.capabilityCeiling)
      advertisement.expiresAtUnixSeconds
    let staged ← advertisement.routes.foldlM (stageRoute e envelope allocation)
      ⟨parentUpdates, ∅, [], []⟩
    if e.capacityPressure envelope staged && e.fullAfterPrune envelope staged then
      .error .queueFullDropNew
    else .ok staged

/-- Physically remove expired parent/route entries and replay keys. -/
def pruneExpired (now : Nat) : RoutePruneReport × RouteTreeEngine :=
  let parents := e.parents.filter fun _ entry => !isExpired entry.expiresAtUnixSeconds now
  let routes := e.routes.filter fun _ entry => !isExpired entry.expiresAtUnixSeconds now
  let replayedAdverts := e.replayedAdverts.filter fun _ expiresAt => !isExpired expiresAt now
  (⟨e.parents.size - parents.size, e.routes.size - routes.size,
    e.replayedAdverts.size - replayedAdverts.size⟩,
    { e with parents, routes, replayedAdverts })

def pruneSupersededReplayKeys (replayedAdverts : BTreeMap ReplayKey Nat)
    (advertisement : RouteAdvertisement) : BTreeMap ReplayKey Nat :=
  replayedAdverts.filter fun key expiresAt => !isSupersededReplayKey key expiresAt advertisement

/-- What capacity pressure prunes before the updates go in. -/
def makeRoom : RouteTreeEngine :=
  let pruned := (e.pruneExpired envelope.receivedAtUnixSeconds).2
  { pruned with
    replayedAdverts := pruneSupersededReplayKeys pruned.replayedAdverts envelope.advertisement }

/-- Apply the staged updates and remember the advertisement. -/
def commit (staged : Staged) : RouteTreeEngine :=
  let room := if e.capacityPressure envelope staged then e.makeRoom envelope else e
  { room with
    parents := room.parents ∪ staged.parentUpdates
    routes := room.routes ∪ staged.routeUpdates
    replayedAdverts := room.replayedAdverts.insert (replayKey envelope.advertisement)
      envelope.advertisement.expiresAtUnixSeconds }

def admissionEvent (reason : Option RouteFailClosedReason) : RouteEngineEvent :=
  routeEvent
    (if reason.isSome then .advertisementDenied else .advertisementAccepted)
    (if reason.isSome then .routeAdvertisementDeniedCount else .routeAdvertisementAcceptedCount)
    .nodeCapabilities reason none e.placement .ephemeralDiscovered .ephemeralDiscovered 1

/-- Admit one advertisement whose signature the caller has verified. -/
def admitAdvertisement
    (allocation : RouteNamespaceAllocation) : RouteAdvertisementAdmission × RouteTreeEngine :=
  match e.stageAdvertisement envelope allocation with
  | .error reason => (⟨.denied reason, e.admissionEvent (some reason)⟩, e)
  | .ok staged =>
    (⟨.accepted (staged.acceptedRoutes.insertionSort (· ≤ ·)), e.admissionEvent none⟩,
      e.commit envelope staged)

end RouteTreeEngine

end D2b

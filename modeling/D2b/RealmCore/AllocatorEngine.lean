import D2b.Lib.BTreeMap
import D2b.RealmCore.Allocator

/-!
# D2b.RealmCore.AllocatorEngine

The local-root allocator engine (`allocator_engine.rs`): allocation of leases
over an in-memory ledger with idempotency records, and reconciliation of the
ledger against observed host state.

An idempotency record is only ever written by the engine.  It carries what
the engine knows when it writes one: a granted lease lists the resources of
the signature, in its order, and no resource id twice.  The engine's `u64`
lease sequence wraps as it does in the release build.
-/

namespace D2b

open List

/-! ## decisions and metrics -/

inductive AllocatorEngineDecision where
  | grant
  | denyConflict (reason : AllocatorReasonCode)
  | reclaim (reason : AllocatorReasonCode)
  | quarantine (reason : AllocatorReasonCode)
  | preserve (reason : AllocatorReasonCode)
  | reconcile
deriving DecidableEq

/-- Low-cardinality metric outcome. -/
inductive AllocatorEngineOutcome where
  | granted | denied | reconciled | reclaimed | quarantined | preserved | idempotentReplay
deriving DecidableEq

def AllocatorEngineOutcome.asMetricLabel : AllocatorEngineOutcome → String
  | .granted => "granted"
  | .denied => "denied"
  | .reconciled => "reconciled"
  | .reclaimed => "reclaimed"
  | .quarantined => "quarantined"
  | .preserved => "preserved"
  | .idempotentReplay => "idempotent-replay"

namespace AllocatorEngineDecision

def reason : AllocatorEngineDecision → Option AllocatorReasonCode
  | grant | reconcile => none
  | denyConflict reason | reclaim reason | quarantine reason | preserve reason => some reason

def eventKind : AllocatorEngineDecision → AllocatorEventKind
  | grant => .grant
  | denyConflict _ => .denial
  | reclaim _ => .reclamation
  | quarantine _ => .quarantine
  | preserve _ | reconcile => .reconciliation

def outcome : AllocatorEngineDecision → AllocatorEngineOutcome
  | grant => .granted
  | denyConflict _ => .denied
  | reclaim _ => .reclaimed
  | quarantine _ => .quarantined
  | preserve _ => .preserved
  | reconcile => .reconciled

def reconciliationDecision : AllocatorEngineDecision → ReconciliationDecision
  | reconcile | grant => .reconciled
  | reclaim reason => .reclaim reason
  | quarantine reason => .quarantine reason
  | preserve reason | denyConflict reason => .deny reason

end AllocatorEngineDecision

structure AllocatorMetricEvent where
  event : AllocatorEventKind
  outcome : AllocatorEngineOutcome
  resourceKind : Option HostResourceKind
  reason : Option AllocatorReasonCode
  count : Nat
deriving DecidableEq

structure AllocatorMetricLabels where
  event : String
  outcome : String
  resourceKind : Option String
  reason : Option String

namespace AllocatorMetricLabels

/-- The fields in comparison order; an absent label comes first. -/
def toTuple (l : AllocatorMetricLabels) : String ×ₗ String ×ₗ WithBot String ×ₗ WithBot String :=
  toLex (l.event, toLex (l.outcome, toLex (l.resourceKind, l.reason)))

lemma toTuple_injective : Function.Injective toTuple := by
  rintro ⟨e, o, k, r⟩ ⟨e', o', k', r'⟩ h
  simp only [toTuple, EmbeddingLike.apply_eq_iff_eq, Prod.mk.injEq] at h
  obtain ⟨rfl, rfl, hrest⟩ := h
  cases hrest
  rfl

instance : LinearOrder AllocatorMetricLabels := LinearOrder.lift' toTuple toTuple_injective

end AllocatorMetricLabels

def AllocatorMetricEvent.labels (m : AllocatorMetricEvent) : AllocatorMetricLabels where
  event := m.event.asMetricLabel
  outcome := m.outcome.asMetricLabel
  resourceKind := m.resourceKind.map (·.asMetricLabel)
  reason := m.reason.map (·.asMetricLabel)

structure AllocatorAllocationDecision where
  resourceId : HostResourceId
  kind : HostResourceKind
  decision : AllocatorEngineDecision
deriving DecidableEq

structure AllocatorEngineAllocation where
  response : LeaseAllocationResponse
  decisions : List AllocatorAllocationDecision
  events : List AllocatorEventMetadata
  metrics : List AllocatorMetricEvent
  acquired : List ResourceAcquisitionKey
deriving DecidableEq

/-- One resource-level reconciliation decision. -/
structure AllocatorReconciliationAction where
  resourceId : HostResourceId
  kind : HostResourceKind
  persisted : Option PersistedResourceLease
  observed : ObservedHostResource
  decision : AllocatorEngineDecision
deriving DecidableEq

/-- Result of reconciling observed host state against persisted leases. -/
structure AllocatorEngineReconciliation where
  report : ReconciliationReport
  actions : List AllocatorReconciliationAction
  metrics : List AllocatorMetricEvent
deriving DecidableEq

def eventMetadata (operationId : OperationId) (correlationId : CorrelationId) (owner : LeaseOwner)
    (decision : AllocatorEngineDecision) (resourceKind : Option HostResourceKind)
    (trace : Option TraceContext) : AllocatorEventMetadata :=
  ⟨operationId, correlationId, owner, decision.eventKind, resourceKind, decision.reason, trace⟩

def metricFromDecision (decision : AllocatorEngineDecision)
    (resourceKind : Option HostResourceKind) : AllocatorMetricEvent :=
  ⟨decision.eventKind, decision.outcome, resourceKind, decision.reason, 1⟩

def metricFromReplayResult : LeaseAllocationResult → AllocatorMetricEvent
  | .granted lease => ⟨.grant, .idempotentReplay, lease.resources.head?.map (·.kind), none, 1⟩
  | .denied reason conflicts =>
    ⟨.denial, .idempotentReplay, conflicts.head?.map (·.kind), some reason, 1⟩

def boundedEvents (events : List AllocatorEventMetadata) : List AllocatorEventMetadata :=
  events.take maxAllocatorEvents

/-- Samples with equal labels are one sample with their saturating count. -/
def boundedMetrics (metrics : List AllocatorMetricEvent) : List AllocatorMetricEvent :=
  let aggregated : BTreeMap AllocatorMetricLabels AllocatorMetricEvent :=
    metrics.foldl (fun m metric =>
      match m[metric.labels]? with
      | some existing => m.insert metric.labels
          { existing with count := min (existing.count + metric.count) (2 ^ 64 - 1) }
      | none => m.insert metric.labels metric) ∅
  (aggregated.toList.map Prod.snd).take maxAllocatorEvents

/-! ## request signatures -/

structure RequestedResourceSignature where
  key : ResourceAcquisitionKey
  share : ResourceShareMode

namespace RequestedResourceSignature

def toTuple (s : RequestedResourceSignature) : ResourceAcquisitionKey ×ₗ Nat :=
  toLex (s.key, shareRank s.share)

lemma toTuple_injective : Function.Injective toTuple := by
  rintro ⟨k, s⟩ ⟨k', s'⟩ h
  obtain ⟨hk, hs⟩ : k = k' ∧ shareRank s = shareRank s' := by simpa [toTuple] using h
  subst hk
  cases s <;> cases s' <;> first | rfl | contradiction

instance : LinearOrder RequestedResourceSignature := LinearOrder.lift' toTuple toTuple_injective

end RequestedResourceSignature

def LeaseResourceRequest.signature (r : LeaseResourceRequest) : RequestedResourceSignature :=
  ⟨r.acquisitionKey, r.share⟩

/-- What an idempotency key stands for: owner and resources, sorted. -/
structure AllocationRequestSignature where
  owner : LeaseOwner
  resources : List RequestedResourceSignature
deriving DecidableEq

section

variable (request : LeaseAllocationRequest)

def AllocationRequestSignature.fromRequest : AllocationRequestSignature where
  owner := request.owner
  resources := (request.resources.map (·.signature)).insertionSort (· ≤ ·)

/-! ## granting -/

def delegationFor (kind : HostResourceKind) (share : ResourceShareMode)
    (resourceId : HostResourceId) : ResourceDelegation :=
  match share, kind with
  | .sharedPartition, _ => .partitionId resourceId
  | .exclusive, .nftablesPartition | .exclusive, .hostFilePartition => .partitionId resourceId
  | .exclusive, .namespaceBoundary => .namespaceHandle resourceId
  | .exclusive, .bridge | .exclusive, .tap | .exclusive, .vethPair
  | .exclusive, .nftablesTable | .exclusive, .cgroupSubtree => .opaqueName resourceId

def LeaseResourceRequest.grant (r : LeaseResourceRequest) : GrantedHostResource :=
  ⟨r.resourceId, r.kind, r.share, delegationFor r.kind r.share r.resourceId, r.acquisitionOrder⟩

/-- `has_duplicate_requested_resources`: by id alone. -/
def hasDuplicateRequestedResources : Bool := seenTwice [] (request.resources.map (·.resourceId))

def grantResourcesInOrder : List GrantedHostResource :=
  let byId : BTreeMap HostResourceId LeaseResourceRequest :=
    request.resources.foldl (fun m r => m.insert r.resourceId r) ∅
  request.acquisitionOrder.filterMap fun key => byId[key.resourceId]?.map (·.grant)

end

def RequestedResourceSignature.granted (s : RequestedResourceSignature) : GrantedHostResource :=
  ⟨s.key.resourceId, s.key.kind, s.share, delegationFor s.key.kind s.share s.key.resourceId,
    s.key.order⟩

/-- A granted lease lists what the signature asks for, once each, in the
signature's order. -/
def GrantMatches (signature : AllocationRequestSignature) (resources : List GrantedHostResource) :
    Prop :=
  (signature.resources.map (·.key.resourceId)).Nodup ∧
    resources = signature.resources.map (·.granted)

/-- With distinct ids, the id index finds every resource. -/
lemma get_byId {resources : List LeaseResourceRequest}
    (hnd : (resources.map (·.resourceId)).Nodup) (hr : r ∈ resources) :
    (resources.foldl (fun m r => m.insert r.resourceId r)
      (∅ : BTreeMap HostResourceId LeaseResourceRequest))[r.resourceId]? = some r := by
  have honly : resources.filter (fun s => decide (s.resourceId = r.resourceId)) = [r] := by
    have hnodup : (resources.filter fun s => decide (s.resourceId = r.resourceId)).Nodup :=
      hnd.of_map.filter _
    have hinj := inj_on_of_nodup_map hnd
    refine perm_singleton.mp ((perm_ext_iff_of_nodup hnodup (by simp)).mpr fun s => ?_)
    rw [mem_filter, mem_singleton, decide_eq_true_eq]
    exact ⟨fun h => hinj h.1 hr h.2, by rintro rfl; exact ⟨hr, rfl⟩⟩
  refine (BTreeMap.get_foldl_insert LeaseResourceRequest.resourceId (fun r _ => r) _ _ _).trans ?_
  rw [honly]
  rfl

lemma RequestedResourceSignature.key_le {t : RequestedResourceSignature} (h : s ≤ t) :
    s.key ≤ t.key := by
  rcases Prod.Lex.le_iff.mp (show toTuple s ≤ toTuple t from h) with hlt | ⟨heq, -⟩
  · exact le_of_lt hlt
  · exact le_of_eq heq

/-- The signature's keys are the acquisition order. -/
lemma acquisitionOrder_eq (request : LeaseAllocationRequest) :
    request.acquisitionOrder =
      (AllocationRequestSignature.fromRequest request).resources.map (·.key) := by
  unfold LeaseAllocationRequest.acquisitionOrder AllocationRequestSignature.fromRequest
  apply List.Perm.eq_of_sortedLE sortedLE_insertionSort
  · have hsorted : ((request.resources.map (·.signature)).insertionSort (· ≤ ·)).SortedLE :=
      sortedLE_insertionSort
    rw [sortedLE_iff_pairwise] at hsorted ⊢
    exact hsorted.map _ fun _ _ h => RequestedResourceSignature.key_le h
  · refine (perm_insertionSort _ _).trans ?_
    have hperm := (perm_insertionSort (· ≤ ·) (request.resources.map (·.signature))).symm
    have hmap := hperm.map (·.key)
    rw [map_map] at hmap
    exact hmap

/-- Without duplicate ids the grant is the signature, resource by resource. -/
lemma grantMatches_grantResourcesInOrder {request : LeaseAllocationRequest}
    (h : hasDuplicateRequestedResources request = false) :
    GrantMatches (.fromRequest request) (grantResourcesInOrder request) := by
  have hnd := nodup_of_not_seenTwice h
  have hperm : (AllocationRequestSignature.fromRequest request).resources.Perm
      (request.resources.map (·.signature)) := perm_insertionSort _ _
  constructor
  · have hids := hperm.map (·.key.resourceId)
    rw [map_map] at hids
    exact hids.nodup_iff.mpr hnd
  · unfold grantResourcesInOrder
    rw [acquisitionOrder_eq, filterMap_map]
    rw [filterMap_eq_map_iff_forall_eq_some]
    -- every key is the key of a requested resource, which the index finds
    intro s hs
    obtain ⟨r, hr, rfl⟩ := mem_map.mp (hperm.mem_iff.mp hs)
    exact congrArg (Option.map (·.grant)) (get_byId hnd hr)

/-! ## the ledger -/

structure AllocatorIdempotencyRecord where
  key : IdempotencyKey
  signature : AllocationRequestSignature
  result : LeaseAllocationResult
  /-- A granted lease is one for the signature. -/
  sound : ∀ lease, result = .granted lease → GrantMatches signature lease.resources

/-- In-memory allocator ledger, with its idempotency records. -/
structure FakeAllocatorLedger where
  leases : List AllocatorLease
  idempotency : List AllocatorIdempotencyRecord
  nextLeaseSequence : UInt64

namespace FakeAllocatorLedger

/-- A ledger of persisted leases, nothing remembered yet. -/
def new (leases : List AllocatorLease) : FakeAllocatorLedger := ⟨leases, [], 1⟩

variable (ledger : FakeAllocatorLedger)

def idempotencyRecord (key : IdempotencyKey) : Option AllocatorIdempotencyRecord :=
  ledger.idempotency.find? fun record => decide (record.key = key)

def rememberIdempotency (record : AllocatorIdempotencyRecord) : FakeAllocatorLedger :=
  { ledger with idempotency := ledger.idempotency ++ [record] }

def leaseIdCandidate (sequence : UInt64) : String := "lease-engine-" ++ toString sequence.toNat

/-- The search loop: the first candidate that is not taken, and the sequence
number after it.  `none` is a search that does not end. -/
def searchLeaseId (existing : List String) : Nat → UInt64 → Option (AllocatorLeaseId × UInt64)
  | 0, _ => none
  | fuel + 1, sequence =>
    if leaseIdCandidate sequence ∈ existing then searchLeaseId existing fuel (sequence + 1)
    else match Id.parse .allocatorLease (leaseIdCandidate sequence) with
    | .ok leaseId => some (leaseId, sequence + 1)
    | .error _ => none

/-- `next_lease_id`.  One more candidate than there are leases is enough
(`nextLeaseId_isSome`). -/
def nextLeaseId : Option (AllocatorLeaseId × FakeAllocatorLedger) :=
  (searchLeaseId (ledger.leases.map (·.leaseId.asStr)) (ledger.leases.length + 1)
    ledger.nextLeaseSequence).map fun found =>
      (found.1, { ledger with nextLeaseSequence := found.2 })

end FakeAllocatorLedger

structure FakeObservedAllocatorState where
  resources : List ObservedHostResource
deriving DecidableEq

structure FakeAllocatorLiveness where
  liveOwners : List LeaseOwner
deriving DecidableEq

def FakeAllocatorLiveness.isLive (liveness : FakeAllocatorLiveness) (owner : LeaseOwner) : Bool :=
  liveness.liveOwners.any fun candidate => decide (candidate = owner)

/-- The allocator engine over its three backends. -/
structure LocalRootAllocatorEngine where
  allocatorOwner : LeaseOwner
  ledger : FakeAllocatorLedger
  observed : FakeObservedAllocatorState
  liveness : FakeAllocatorLiveness

/-! ## conflicts -/

namespace LocalRootAllocatorEngine

variable (e : LocalRootAllocatorEngine)

/-- The first lease that is not terminal and holds the resource. -/
def persistedConflict (owner : LeaseOwner)
    (resource : ResourceAcquisitionKey) : Option AllocatorConflict :=
  (e.ledger.leases.filter fun lease => !lease.state.isTerminal).findSome? fun lease =>
    if lease.resources.any fun granted =>
        decide (granted.kind = resource.kind) && decide (granted.resourceId = resource.resourceId)
    then
      some
        { resourceId := resource.resourceId
          kind := resource.kind
          reason := if lease.owner = owner then .ownershipConflict else .resourceConflict
          existingLease := some lease.leaseId }
    else none

/-- What the first observation of the resource stands in the way of. -/
def observedConflict (resource : ResourceAcquisitionKey) : Option AllocatorConflict :=
  ((e.observed.resources.find? fun observed =>
      decide (observed.kind = resource.kind)
        && decide (observed.resourceId = resource.resourceId)).bind fun observed =>
    match observed.state with
    | .missing => none
    | .present => some .resourceConflict
    | .foreignOwner => some .ownershipConflict
    | .ambiguous | .inaccessible => some .kernelStateUnknown).map fun reason =>
      { resourceId := resource.resourceId
        kind := resource.kind
        reason
        existingLease := none }

/-- The conflict loop, with its early exit. -/
def conflictsFrom (e : LocalRootAllocatorEngine) (owner : LeaseOwner) :
    List AllocatorConflict → List ResourceAcquisitionKey → List AllocatorConflict
  | conflicts, [] => conflicts
  | conflicts, resource :: resources =>
    let conflicts := conflicts ++ (e.persistedConflict owner resource).toList
      ++ (e.observedConflict resource).toList
    if conflicts.length ≥ maxAllocatorConflicts then conflicts
    else e.conflictsFrom owner conflicts resources

variable (request : LeaseAllocationRequest)

def allocationConflicts : List AllocatorConflict :=
  e.conflictsFrom request.owner [] request.acquisitionOrder

/-! ## allocation -/

/-- Events and metrics of a list of resource decisions. -/
def report (result : LeaseAllocationResult)
    (decisions : List AllocatorAllocationDecision) : AllocatorEngineAllocation where
  response := ⟨request.operationId, request.correlationId, result⟩
  decisions := decisions
  events := boundedEvents (decisions.map fun d =>
    eventMetadata request.operationId request.correlationId request.owner d.decision (some d.kind)
      request.trace)
  metrics := boundedMetrics (decisions.map fun d => metricFromDecision d.decision (some d.kind))
  acquired := request.acquisitionOrder

/-- Deny, and remember the denial unless the key already stands for something. -/
def denyRequest (reason : AllocatorReasonCode) (conflicts : List AllocatorConflict) :
    AllocatorEngineAllocation × LocalRootAllocatorEngine :=
  let conflicts := conflicts.take maxAllocatorConflicts
  let decisions : List AllocatorAllocationDecision :=
    if conflicts.isEmpty then
      request.resources.map fun r => ⟨r.resourceId, r.kind, .denyConflict reason⟩
    else conflicts.map fun c => ⟨c.resourceId, c.kind, .denyConflict c.reason⟩
  let ledger :=
    if (e.ledger.idempotencyRecord request.idempotencyKey).isNone then
      e.ledger.rememberIdempotency
        { key := request.idempotencyKey
          signature := .fromRequest request
          result := .denied reason conflicts
          sound := fun _ h => by contradiction }
    else e.ledger
  (report request (.denied reason conflicts) decisions, { e with ledger })

def replay (result : LeaseAllocationResult) : AllocatorEngineAllocation where
  response := ⟨request.operationId, request.correlationId, result⟩
  decisions := []
  events := []
  metrics := [metricFromReplayResult result]
  acquired := request.acquisitionOrder

/-- Grant what passed every check; `none` is a lease id search that does not
end. -/
def grantRequest (hdup : hasDuplicateRequestedResources request = false) :
    Option (AllocatorEngineAllocation × LocalRootAllocatorEngine) :=
  e.ledger.nextLeaseId.map fun next =>
    let lease : AllocatorLease := ⟨next.1, request.owner, .granted, grantResourcesInOrder request⟩
    let ledger := { next.2 with leases := next.2.leases ++ [lease] }
    let ledger := ledger.rememberIdempotency
      { key := request.idempotencyKey
        signature := .fromRequest request
        result := .granted lease
        sound := fun _ h => by cases h; exact grantMatches_grantResourcesInOrder hdup }
    (report request (.granted lease)
        (request.resources.map fun r => ⟨r.resourceId, r.kind, .grant⟩),
      { e with ledger })

def allocate : Option (AllocatorEngineAllocation × LocalRootAllocatorEngine) :=
  match e.ledger.idempotencyRecord request.idempotencyKey with
  | some record =>
    if record.signature = .fromRequest request then some (replay request record.result, e)
    else some (e.denyRequest request .invalidRequest [])
  | none =>
    if !e.liveness.isLive request.owner then some (e.denyRequest request .ownerNotLive [])
    else if request.resources.isEmpty
        ∨ request.resources.length > maxAllocatorRequestResources then
      some (e.denyRequest request .invalidRequest [])
    else if hdup : hasDuplicateRequestedResources request = true then
      some (e.denyRequest request .invalidRequest [])
    else
      let conflicts := e.allocationConflicts request
      if !conflicts.isEmpty then some (e.denyRequest request .resourceConflict conflicts)
      else e.grantRequest request (Bool.eq_false_iff.mpr hdup)

end LocalRootAllocatorEngine

/-! ## reconciliation -/

/-- What reconciliation groups by. -/
structure ResourceKey where
  kind : HostResourceKind
  resourceId : HostResourceId

namespace ResourceKey

def toTuple (k : ResourceKey) : HostResourceKind ×ₗ HostResourceId := toLex (k.kind, k.resourceId)

lemma toTuple_injective : Function.Injective toTuple := by
  rintro ⟨k, r⟩ ⟨k', r'⟩ h
  simpa [toTuple] using h

instance : LinearOrder ResourceKey := LinearOrder.lift' toTuple toTuple_injective

end ResourceKey

def GrantedHostResource.key (g : GrantedHostResource) : ResourceKey := ⟨g.kind, g.resourceId⟩

def ObservedHostResource.key (o : ObservedHostResource) : ResourceKey := ⟨o.kind, o.resourceId⟩

structure ResourcePair where
  persisted : List PersistedResourceLease
  observed : Option ObservedHostResource

/-- `entry(key).or_default()`. -/
def ResourcePair.orDefault (pair : Option ResourcePair) : ResourcePair := pair.getD ⟨[], none⟩

def AllocatorLease.persisted (lease : AllocatorLease) : PersistedResourceLease :=
  ⟨lease.leaseId, lease.owner, lease.state⟩

namespace LocalRootAllocatorEngine

/-- Push the lease to the pairs of its resources. -/
def addLease (pairs : BTreeMap ResourceKey ResourcePair) (lease : AllocatorLease) :
    BTreeMap ResourceKey ResourcePair :=
  lease.resources.foldl (fun pairs resource =>
    let pair := ResourcePair.orDefault pairs[resource.key]?
    pairs.insert resource.key { pair with persisted := pair.persisted ++ [lease.persisted] }) pairs

/-- Set the observation of a pair; a later one takes its place. -/
def addObserved (pairs : BTreeMap ResourceKey ResourcePair) (observed : ObservedHostResource) :
    BTreeMap ResourceKey ResourcePair :=
  let pair := ResourcePair.orDefault pairs[observed.key]?
  pairs.insert observed.key { pair with observed := some observed }

variable (e : LocalRootAllocatorEngine)

/-- Every resource that is persisted or observed. -/
def resourcePairs : BTreeMap ResourceKey ResourcePair :=
  e.observed.resources.foldl addObserved (e.ledger.leases.foldl addLease ∅)

def reconciliationDecision (persisted : List PersistedResourceLease)
    (observed : ObservedHostResource) : AllocatorEngineDecision :=
  if persisted.length > 1 then .quarantine .storageContractViolation
  else match persisted.head? with
  | none =>
    match observed.state with
    | .missing => .reconcile
    | .present => .preserve .resourceConflict
    | .foreignOwner => .preserve .ownershipConflict
    | .ambiguous | .inaccessible => .quarantine .kernelStateUnknown
  | some persisted =>
    if persisted.state.isTerminal then
      match observed.state with
      | .missing => .reconcile
      | .present | .foreignOwner => .preserve .ownershipConflict
      | .ambiguous | .inaccessible => .quarantine .kernelStateUnknown
    else if !e.liveness.isLive persisted.owner then .reclaim .ownerNotLive
    else
      match observed.state with
      | .present => .reconcile
      | .missing => .reclaim .driftDetected
      | .foreignOwner => .quarantine .driftDetected
      | .ambiguous | .inaccessible => .quarantine .kernelStateUnknown

/-- The action for one pair; a resource that is not observed is missing. -/
def reconciliationAction (key : ResourceKey) (pair : ResourcePair) :
    AllocatorReconciliationAction :=
  let observed := pair.observed.getD ⟨key.resourceId, key.kind, .allocatorLedger, .missing⟩
  { resourceId := key.resourceId
    kind := key.kind
    persisted := pair.persisted.head?
    observed
    decision := e.reconciliationDecision pair.persisted observed }

/-- Reconcile observed host state against persisted leases. -/
def reconcile (operationId : OperationId)
    (correlationId : CorrelationId) : AllocatorEngineReconciliation :=
  let actions := e.resourcePairs.toList.map fun kv => e.reconciliationAction kv.1 kv.2
  { report :=
      { operationId
        correlationId
        records := (actions.take maxReconciliationRecords).map fun action =>
          ⟨action.resourceId, action.kind, action.persisted, action.observed,
            action.decision.reconciliationDecision⟩
        events := boundedEvents (actions.map fun action =>
          eventMetadata operationId correlationId
            ((action.persisted.map (·.owner)).getD e.allocatorOwner) action.decision
            (some action.kind) none) }
    actions
    metrics := boundedMetrics (actions.map fun action =>
      metricFromDecision action.decision (some action.kind)) }

end LocalRootAllocatorEngine

end D2b

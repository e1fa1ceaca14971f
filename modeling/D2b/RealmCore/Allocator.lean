import Mathlib.Data.Prod.Lex
import D2b.RealmCore.Frame

/-!
# D2b.RealmCore.Allocator

The data model of the local-root allocator (`allocator.rs`): resource kinds
and acquisition keys with their orders, lease requests and leases, results,
observations and reconciliation records.
-/

namespace D2b

def maxAllocatorRequestResources : Nat := 32

/-- Maximum conflicts carried in a denial response. -/
def maxAllocatorConflicts : Nat := 16

def maxReconciliationRecords : Nat := 128

def maxAllocatorEvents : Nat := 128

/-! ## resources -/

/-- Host-resource kinds the allocator can arbitrate. -/
inductive HostResourceKind where
  | bridge | tap | vethPair | nftablesTable | nftablesPartition | cgroupSubtree
  | hostFilePartition | namespaceBoundary

namespace HostResourceKind

/-- Position in the declaration, which the derived order compares. -/
def rank : HostResourceKind → Nat
  | bridge => 0
  | tap => 1
  | vethPair => 2
  | nftablesTable => 3
  | nftablesPartition => 4
  | cgroupSubtree => 5
  | hostFilePartition => 6
  | namespaceBoundary => 7

lemma rank_injective : Function.Injective rank := by
  intro a b h
  cases a <;> cases b <;> first | rfl | contradiction

instance : LinearOrder HostResourceKind := LinearOrder.lift' rank rank_injective

def asMetricLabel : HostResourceKind → String
  | bridge => "bridge"
  | tap => "tap"
  | vethPair => "veth-pair"
  | nftablesTable => "nftables-table"
  | nftablesPartition => "nftables-partition"
  | cgroupSubtree => "cgroup-subtree"
  | hostFilePartition => "host-file-partition"
  | namespaceBoundary => "namespace-boundary"

end HostResourceKind

/-- The realm-controller generation that owns a lease. -/
structure LeaseOwner where
  realm : RealmPath
  controllerGeneration : ControllerGenerationId
  node : Option NodeId
deriving DecidableEq

/-- Shared-vs-exclusive resource semantics. -/
inductive ResourceShareMode where
  | exclusive | sharedPartition
deriving DecidableEq

def shareRank : ResourceShareMode → Nat
  | .exclusive => 0
  | .sharedPartition => 1

/-- Explicit acquisition order: phase first, ordinal within the phase. -/
structure ResourceAcquisitionOrder where
  phase : Nat
  ordinal : Nat

namespace ResourceAcquisitionOrder

def toTuple (o : ResourceAcquisitionOrder) : Nat ×ₗ Nat := toLex (o.phase, o.ordinal)

lemma toTuple_injective : Function.Injective toTuple := by
  rintro ⟨p, o⟩ ⟨p', o'⟩ h
  simpa [toTuple] using h

instance : LinearOrder ResourceAcquisitionOrder := LinearOrder.lift' toTuple toTuple_injective

end ResourceAcquisitionOrder

structure LeaseResourceRequest where
  resourceId : HostResourceId
  kind : HostResourceKind
  share : ResourceShareMode
  acquisitionOrder : ResourceAcquisitionOrder
deriving DecidableEq

/-- Deterministic total-order key for resource acquisition. -/
structure ResourceAcquisitionKey where
  order : ResourceAcquisitionOrder
  kind : HostResourceKind
  resourceId : HostResourceId

namespace ResourceAcquisitionKey

def toTuple (k : ResourceAcquisitionKey) :
    ResourceAcquisitionOrder ×ₗ HostResourceKind ×ₗ HostResourceId :=
  toLex (k.order, toLex (k.kind, k.resourceId))

lemma toTuple_injective : Function.Injective toTuple := by
  rintro ⟨o, k, r⟩ ⟨o', k', r'⟩ h
  simpa [toTuple] using h

instance : LinearOrder ResourceAcquisitionKey := LinearOrder.lift' toTuple toTuple_injective

end ResourceAcquisitionKey

def LeaseResourceRequest.acquisitionKey (r : LeaseResourceRequest) : ResourceAcquisitionKey :=
  ⟨r.acquisitionOrder, r.kind, r.resourceId⟩

structure LeaseAllocationRequest where
  operationId : OperationId
  correlationId : CorrelationId
  idempotencyKey : IdempotencyKey
  owner : LeaseOwner
  resources : List LeaseResourceRequest
  trace : Option TraceContext
deriving DecidableEq

/-- Acquisition keys in their total order. -/
def LeaseAllocationRequest.acquisitionOrder (request : LeaseAllocationRequest) :
    List ResourceAcquisitionKey :=
  (request.resources.map (·.acquisitionKey)).insertionSort (· ≤ ·)

/-! ## leases -/

/-- How a granted resource is delegated to a realm broker. -/
inductive ResourceDelegation where
  | opaqueName (id : HostResourceId)
  | fileDescriptor (id : HostResourceId)
  | partitionId (id : HostResourceId)
  | namespaceHandle (id : HostResourceId)
deriving DecidableEq

structure GrantedHostResource where
  resourceId : HostResourceId
  kind : HostResourceKind
  share : ResourceShareMode
  delegation : ResourceDelegation
  acquisitionOrder : ResourceAcquisitionOrder
deriving DecidableEq

inductive AllocatorLeaseState where
  | granted | reconciled | quarantined | reclaimed | denied
deriving DecidableEq

/-- Terminal states cannot transition to an active lease. -/
def AllocatorLeaseState.isTerminal : AllocatorLeaseState → Bool
  | .reclaimed | .denied => true
  | _ => false

structure AllocatorLease where
  leaseId : AllocatorLeaseId
  owner : LeaseOwner
  state : AllocatorLeaseState
  resources : List GrantedHostResource
deriving DecidableEq

/-- Closed denial, conflict and quarantine reasons. -/
inductive AllocatorReasonCode where
  | resourceConflict | ownershipConflict | acquisitionOrderViolation | invalidRequest
  | capacityExhausted | driftDetected | reconcileMismatch | ownerNotLive | policyDenied
  | unsupportedKind | storageContractViolation | kernelStateUnknown
deriving DecidableEq

def AllocatorReasonCode.asMetricLabel : AllocatorReasonCode → String
  | .resourceConflict => "resource-conflict"
  | .ownershipConflict => "ownership-conflict"
  | .acquisitionOrderViolation => "acquisition-order-violation"
  | .invalidRequest => "invalid-request"
  | .capacityExhausted => "capacity-exhausted"
  | .driftDetected => "drift-detected"
  | .reconcileMismatch => "reconcile-mismatch"
  | .ownerNotLive => "owner-not-live"
  | .policyDenied => "policy-denied"
  | .unsupportedKind => "unsupported-kind"
  | .storageContractViolation => "storage-contract-violation"
  | .kernelStateUnknown => "kernel-state-unknown"

structure AllocatorConflict where
  resourceId : HostResourceId
  kind : HostResourceKind
  reason : AllocatorReasonCode
  existingLease : Option AllocatorLeaseId
deriving DecidableEq

/-- Granted or fail-closed denied allocation result. -/
inductive LeaseAllocationResult where
  | granted (lease : AllocatorLease)
  | denied (reason : AllocatorReasonCode) (conflicts : List AllocatorConflict)
deriving DecidableEq

structure LeaseAllocationResponse where
  operationId : OperationId
  correlationId : CorrelationId
  result : LeaseAllocationResult
deriving DecidableEq

/-! ## events, observations and reconciliation -/

inductive AllocatorEventKind where
  | grant | denial | conflict | reconciliation | reclamation | quarantine
deriving DecidableEq

def AllocatorEventKind.asMetricLabel : AllocatorEventKind → String
  | .grant => "grant"
  | .denial => "denial"
  | .conflict => "conflict"
  | .reconciliation => "reconciliation"
  | .reclamation => "reclamation"
  | .quarantine => "quarantine"

structure AllocatorEventMetadata where
  operationId : OperationId
  correlationId : CorrelationId
  owner : LeaseOwner
  event : AllocatorEventKind
  resourceKind : Option HostResourceKind
  reason : Option AllocatorReasonCode
  trace : Option TraceContext
deriving DecidableEq

structure PersistedResourceLease where
  leaseId : AllocatorLeaseId
  owner : LeaseOwner
  state : AllocatorLeaseState
deriving DecidableEq

/-- Which subsystem produced an observation. -/
inductive ResourceObservationSource where
  | kernelNetlink | nftablesApi | cgroupFs | hostFilesystem | namespaceRegistry | allocatorLedger
deriving DecidableEq

inductive ObservedResourceState where
  | present | missing | foreignOwner | ambiguous | inaccessible
deriving DecidableEq

structure ObservedHostResource where
  resourceId : HostResourceId
  kind : HostResourceKind
  source : ResourceObservationSource
  state : ObservedResourceState
deriving DecidableEq

/-- Reconciliation decision for a persisted/observed pair. -/
inductive ReconciliationDecision where
  | reconciled
  | quarantine (reason : AllocatorReasonCode)
  | reclaim (reason : AllocatorReasonCode)
  | deny (reason : AllocatorReasonCode)
deriving DecidableEq

structure ReconciliationRecord where
  resourceId : HostResourceId
  kind : HostResourceKind
  persisted : Option PersistedResourceLease
  observed : ObservedHostResource
  decision : ReconciliationDecision
deriving DecidableEq

structure ReconciliationReport where
  operationId : OperationId
  correlationId : CorrelationId
  records : List ReconciliationRecord
  events : List AllocatorEventMetadata
deriving DecidableEq

end D2b

import Mathlib.Data.Prod.Lex
import D2b.Lib.BTreeMap
import D2b.RealmCore.Operation

/-!
# D2b.RealmRouter.OperationRouter

The codec-neutral operation router (`d2b-realm-router/src/lib.rs`), the owner
of deduplication for its scope.  A mutating operation is accepted under its
dedup key, the full operation namespace with the idempotency key, and leaves
a record that answers retries until it has aged away.

The clock is an argument: `now` is what the injected clock returned.  The
table is a hash map in the source, and none of these functions depends on the
order of its entries.
-/

namespace D2b.RealmRouter

/-! ## plans -/

/-- Whether this router implements a stream kind. -/
def supportedStreamKind : StreamKind → Bool
  | .control | .pty | .shellPty | .stdio | .logs | .display => true
  | _ => false

structure OperationRoutePlan where
  authorizationScope : AuthorizationScope
  requiredCapability : Option Capability
  mutating : Bool
  requiresWorkload : Bool
  streamKinds : List StreamKind
deriving DecidableEq

namespace OperationRoutePlan

def new (kind : OperationKind) : OperationRoutePlan where
  authorizationScope := kind.authorizationScope
  requiredCapability := kind.requiredCapability
  mutating := kind.isMutating
  requiresWorkload := kind.requiresWorkload
  streamKinds := kind.allowedStreamKinds

/-- Every stream kind of the plan is implemented. -/
def streamsSupported (plan : OperationRoutePlan) : Bool := plan.streamKinds.all supportedStreamKind

/-- The required capability, if it was not advertised. -/
def missingCapability (plan : OperationRoutePlan) (capabilities : CapabilitySet) :
    Option Capability :=
  plan.requiredCapability.filter fun capability => !capabilities.has capability

end OperationRoutePlan

def operationRoutePlan (kind : OperationKind) : Option OperationRoutePlan :=
  match kind with
  | .fileCopyStart | .portForwardOpen => none
  | _ =>
    let plan := OperationRoutePlan.new kind
    if plan.streamsSupported then some plan else none

/-! ## records -/

/-- The dedup record key: the full operation namespace. -/
structure DedupKey where
  realm : RealmPath
  principal : PrincipalId
  node : NodeId
  kind : OperationKind
  key : IdempotencyKey

namespace DedupKey

def toTuple (k : DedupKey) :
    RealmPath ×ₗ PrincipalId ×ₗ NodeId ×ₗ OperationKind ×ₗ IdempotencyKey :=
  toLex (k.realm, toLex (k.principal, toLex (k.node, toLex (k.kind, k.key))))

lemma toTuple_injective : Function.Injective toTuple := by
  rintro ⟨r, p, n, o, k⟩ ⟨r', p', n', o', k'⟩ h
  simpa [toTuple] using h

instance : LinearOrder DedupKey := LinearOrder.lift' toTuple toTuple_injective

def forRequest (req : OperationRequest) (key : IdempotencyKey) : DedupKey :=
  ⟨req.realm, req.principal, req.node, req.kind, key⟩

end DedupKey

/-- Where a dedup record stands. -/
inductive DedupState where
  | inProgress (since : Nat)
  | completed (result : OpaquePayload) (since : Nat)
  | expired (since : Nat)
deriving DecidableEq

structure DedupEntry where
  fingerprint : List UInt8
  originalOperationId : OperationId
  state : DedupState
deriving DecidableEq

inductive RouteDecision where
  | accept (scope : AuthorizationScope)
  | replay (originalOperationId : OperationId) (result : OpaquePayload)
  | inProgress (originalOperationId : OperationId)
  | idempotencyKeyConflict
  | idempotencyKeyExpired
  | missingIdempotencyKey
  | missingWorkload
  | principalMismatch
  | capabilityDenied (capability : Capability)
  | unsupportedOperation (kind : OperationKind)
  | dedupCapacityExceeded
deriving DecidableEq

/-- The operation router and dedup owner for one scope. -/
structure OperationRouter where
  retention : Nat
  noReuseHorizon : Nat
  maxDedupRecords : Nat
  dedup : BTreeMap DedupKey DedupEntry

namespace OperationRouter

/-! ## maintenance -/

/-- A completed record past its retention becomes a tombstone. -/
def age (retention now : Nat) (entry : DedupEntry) : DedupEntry :=
  match entry.state with
  | .completed _ since =>
    if now - since > retention then { entry with state := .expired now } else entry
  | _ => entry

/-- Only tombstones older than the horizon are dropped. -/
def keeps (horizon now : Nat) (entry : DedupEntry) : Bool :=
  match entry.state with
  | .expired since => decide (now - since ≤ horizon)
  | _ => true

variable (r : OperationRouter)

/-- Age completed records, then drop old tombstones. -/
def gcAt (now : Nat) : OperationRouter :=
  { r with
    dedup := (r.dedup.map fun _ entry => age r.retention now entry).filter
      fun _ entry => keeps r.noReuseHorizon now entry }

/-! ## routing -/

/-- Route a mutating operation under its dedup key. -/
def routeKeyed (now : Nat) (req : OperationRequest) (key : IdempotencyKey)
    (scope : AuthorizationScope) : RouteDecision × OperationRouter :=
  let dedupKey := DedupKey.forRequest req key
  let fingerprint := req.dedupFingerprintInput
  match r.dedup[dedupKey]? with
  | none =>
    let r := r.gcAt now
    if r.dedup.size ≥ r.maxDedupRecords then (.dedupCapacityExceeded, r)
    else (.accept scope,
      { r with
        dedup := r.dedup.insert dedupKey ⟨fingerprint, req.operationId, .inProgress now⟩ })
  | some entry =>
    match entry.state with
    | .inProgress _ =>
      if entry.fingerprint ≠ fingerprint then (.idempotencyKeyConflict, r)
      else (.inProgress entry.originalOperationId, r)
    | .completed result since =>
      if now - since > r.retention then (.idempotencyKeyExpired,
        { r with
          dedup := r.dedup.modify dedupKey fun entry => { entry with state := .expired now } })
      else if entry.fingerprint ≠ fingerprint then (.idempotencyKeyConflict, r)
      else (.replay entry.originalOperationId result, r)
    | .expired _ => (.idempotencyKeyExpired, r)

/-- Route one operation after checking the negotiated capability set. -/
def routeWithCapabilities (now : Nat) (req : OperationRequest)
    (sessionPrincipal : PrincipalId) (capabilities : CapabilitySet) :
    RouteDecision × OperationRouter :=
  if req.principal ≠ sessionPrincipal then (.principalMismatch, r)
  else match operationRoutePlan req.kind with
  | none => (.unsupportedOperation req.kind, r)
  | some plan =>
    if plan.requiresWorkload && req.workload.isNone then (.missingWorkload, r)
    else match plan.missingCapability capabilities with
    | some capability => (.capabilityDenied capability, r)
    | none =>
      if !plan.mutating then (.accept plan.authorizationScope, r)
      else match req.idempotencyKey with
      | none => (.missingIdempotencyKey, r)
      | some key => r.routeKeyed now req key plan.authorizationScope

/-! ## terminal states -/

/-- The record is the request's and still running. -/
def runsFor (entry : DedupEntry) (req : OperationRequest) : Bool :=
  (match entry.state with
    | .inProgress _ => true
    | _ => false) && decide (entry.fingerprint = req.dedupFingerprintInput)

/-- Terminalize the record that runs for the request: the key is looked up, and
`table` says what becomes of the records.  Returns whether it was found. -/
def terminalize (req : OperationRequest)
    (table : DedupKey → BTreeMap DedupKey DedupEntry) : Bool × OperationRouter :=
  match req.idempotencyKey with
  | none => (false, r)
  | some key =>
    let dedupKey := DedupKey.forRequest req key
    match r.dedup[dedupKey]? with
    | none => (false, r)
    | some entry =>
      if runsFor entry req then (true, { r with dedup := table dedupKey }) else (false, r)

/-- Mark an accepted operation complete, with its result. -/
def markCompleted (now : Nat) (req : OperationRequest)
    (result : OpaquePayload) : Bool × OperationRouter :=
  r.terminalize req fun dedupKey =>
    r.dedup.modify dedupKey fun entry => { entry with state := .completed result now }

/-- Mark an accepted operation failed: its record is removed. -/
def markFailed (req : OperationRequest) : Bool × OperationRouter :=
  r.terminalize req fun dedupKey => r.dedup.erase dedupKey

end OperationRouter

end D2b.RealmRouter

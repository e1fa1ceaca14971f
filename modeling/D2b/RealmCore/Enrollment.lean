import D2b.RealmCore.Capability
import D2b.RealmCore.Realm

/-!
# D2b.RealmCore.Enrollment

Identity-lifecycle metadata of realms (`enrollment.rs`): controller
generations, enrollments, rotations, revocations and recoveries, with the
audit and teardown records the identity store emits.  Times are Unix seconds
that the store only copies.
-/

namespace D2b

/-- Maximum workload ids that may be named in one teardown directive. -/
def maxTeardownWorkloads : Nat := 64

/-! ## fingerprints -/

def fingerprintPrefix : String := "sha256:"

def fingerprintHexLen : Nat := 64

/-- `parse_fingerprint`: `sha256:` and 64 lowercase hex digits. -/
def isFingerprint (raw : String) : Bool :=
  let hex := raw.toList.drop fingerprintPrefix.length
  fingerprintPrefix.toList.isPrefixOf raw.toList
    && hex.length == fingerprintHexLen
    && hex.all fun c => c.isDigit || (decide ('a' ≤ c) && decide (c ≤ 'f'))

structure KeyFingerprint where
  asStr : String
  valid : isFingerprint asStr = true
deriving DecidableEq

structure RealmIdentityFingerprint where
  asStr : String
  valid : isFingerprint asStr = true
deriving DecidableEq

/-! ## identities and generations -/

inductive RealmIdentityStatus where
  | active | rotating | superseded | revoked | recoveryOnly
deriving DecidableEq

structure RealmIdentityMetadata where
  realm : RealmPath
  identityRef : RealmIdentityRef
  fingerprint : RealmIdentityFingerprint
  status : RealmIdentityStatus
  createdAtUnixSeconds : Nat
  notAfterUnixSeconds : Option Nat
deriving DecidableEq

inductive ControllerGenerationStatus where
  | pending | active | rotating | superseded | revoked | recovering
deriving DecidableEq

/-- Metadata for a realm controller generation and its credential reference. -/
structure ControllerGenerationMetadata where
  realm : RealmPath
  generationId : ControllerGenerationId
  realmIdentity : RealmIdentityMetadata
  credentialRef : ControllerGenerationCredentialRef
  credentialFingerprint : KeyFingerprint
  status : ControllerGenerationStatus
  issuedAtUnixSeconds : Nat
  notBeforeUnixSeconds : Nat
  notAfterUnixSeconds : Option Nat
  revokedBy : Option RevocationId
deriving DecidableEq

inductive RealmKeyRole where
  | realmIdentity | parentTrustAnchor | childIdentity | controllerGeneration
deriving DecidableEq

/-! ## enrollments -/

/-- Parent trust-anchor metadata installed into a child realm. -/
structure ParentTrustAnchor where
  parentRealm : RealmPath
  childRealm : RealmPath
  parentIdentityRef : RealmIdentityRef
  parentFingerprint : RealmIdentityFingerprint
deriving DecidableEq

/-- Child identity key pinned by a parent during enrollment. -/
structure ChildKeyPin where
  parentRealm : RealmPath
  childRealm : RealmPath
  childIdentityRef : RealmIdentityRef
  enrollmentId : EnrollmentId
deriving DecidableEq

inductive EnrollmentStatus where
  | pending | accepted | rejected | superseded | revoked | recoveryRequired
deriving DecidableEq

inductive EnrollmentReason where
  | operatorRequested | parentPolicyDenied | childKeyMismatch | parentTrustAnchorMismatch
  | controllerGenerationRevoked | recoveryReplacement
deriving DecidableEq

structure EnrollmentRecord where
  enrollmentId : EnrollmentId
  parentRealm : RealmPath
  childRealm : RealmPath
  controllerGeneration : ControllerGenerationMetadata
  parentTrustAnchor : ParentTrustAnchor
  childKeyPin : ChildKeyPin
  status : EnrollmentStatus
  reason : Option EnrollmentReason
  correlationId : Option CorrelationId
deriving DecidableEq

/-! ## rotations -/

/-- Key material class controlled by a rotation. -/
inductive KeyRotationSubjectKind where
  | realmIdentity | controllerGeneration
deriving DecidableEq

inductive KeyRotationSubject where
  | realmIdentity (realm : RealmPath) (currentIdentityRef : RealmIdentityRef)
      (currentFingerprint : RealmIdentityFingerprint)
  | controllerGeneration (realm : RealmPath) (currentGeneration : ControllerGenerationId)
      (currentCredentialRef : ControllerGenerationCredentialRef)
      (currentFingerprint : KeyFingerprint)
deriving DecidableEq

def KeyRotationSubject.kind : KeyRotationSubject → KeyRotationSubjectKind
  | realmIdentity .. => .realmIdentity
  | controllerGeneration .. => .controllerGeneration

inductive KeyRotationStatus where
  | planned | issued | active | superseded | revoked | failed
deriving DecidableEq

structure KeyRotationPlan where
  rotationId : KeyRotationId
  subject : KeyRotationSubject
  status : KeyRotationStatus
  replacementIdentityRef : Option RealmIdentityRef
  replacementCredentialRef : Option ControllerGenerationCredentialRef
  replacementFingerprint : Option KeyFingerprint
  activateAfterUnixSeconds : Option Nat
  correlationId : Option CorrelationId
deriving DecidableEq

inductive KeyRotationEventKind where
  | planned | credentialIssued | activated | superseded | revoked | failed
deriving DecidableEq

structure KeyRotationEvent where
  rotationId : KeyRotationId
  realm : RealmPath
  subjectKind : KeyRotationSubjectKind
  event : KeyRotationEventKind
  status : KeyRotationStatus
  observedAtUnixSeconds : Nat
  correlationId : Option CorrelationId
deriving DecidableEq

/-! ## revocations -/

/-- Thing revoked by a parent or realm controller. -/
inductive RevocationTarget where
  | realm (realm : RealmPath)
  | realmKey (realm : RealmPath) (role : RealmKeyRole) (fingerprint : KeyFingerprint)
  | realmIdentity (realm : RealmPath) (identityRef : RealmIdentityRef)
      (fingerprint : RealmIdentityFingerprint)
  | controllerGeneration (realm : RealmPath) (controllerGeneration : ControllerGenerationId)
  | controllerCredential (realm : RealmPath) (credentialRef : ControllerGenerationCredentialRef)
      (fingerprint : KeyFingerprint)
  | enrollment (enrollmentId : EnrollmentId)
  | policyGrant (realm : RealmPath) (grant : ProtocolToken)
  | capabilityGrant (realm : RealmPath) (capability : Capability)
deriving DecidableEq

inductive RevocationReason where
  | operatorRequested | keyCompromised | controllerCompromised | parentPolicyRevoked
  | enrollmentSuperseded | recoveryCompleted | expired
deriving DecidableEq

inductive RevocationStatus where
  | pending | effective | propagating | propagated | superseded
deriving DecidableEq

structure RevocationRecord where
  revocationId : RevocationId
  issuerRealm : RealmPath
  issuerControllerGeneration : ControllerGenerationId
  target : RevocationTarget
  status : RevocationStatus
  reason : RevocationReason
  issuedAtUnixSeconds : Nat
  effectiveAtUnixSeconds : Option Nat
  correlationId : Option CorrelationId
deriving DecidableEq

/-- Parent-pushed revocation-list snapshot, of any length. -/
structure RevocationList where
  listId : RevocationListId
  issuerRealm : RealmPath
  records : List RevocationRecord
  correlationId : Option CorrelationId
deriving DecidableEq

inductive SessionTeardownReason where
  | realmIdentityRevoked | controllerGenerationRevoked | policyGrantRevoked
  | streamCapabilityRevoked | recoveryIsolation
deriving DecidableEq

/-- Directive to terminate sessions depending on a revoked grant. -/
structure SessionTeardownDirective where
  revocationId : RevocationId
  issuerRealm : RealmPath
  affectedRealm : RealmPath
  reason : SessionTeardownReason
  affectedWorkloads : List WorkloadId
  issuedAtUnixSeconds : Nat
  correlationId : Option CorrelationId
deriving DecidableEq

/-! ## recoveries and audit -/

inductive RecoveryStatus where
  | requested | parentApproved | isolating | reissued | completed | rejected
deriving DecidableEq

/-- Recovery procedure for a lost or compromised child controller key. -/
structure RecoveryProcedure where
  recoveryId : RecoveryProcedureId
  parentRealm : RealmPath
  childRealm : RealmPath
  status : RecoveryStatus
  affectedGeneration : ControllerGenerationId
  replacementGeneration : Option ControllerGenerationMetadata
  closedAtUnixSeconds : Option Nat
  correlationId : Option CorrelationId
deriving DecidableEq

inductive IdentityAuditEventKind where
  | enrollmentRequested | enrollmentAccepted | enrollmentRejected | rotationPlanned
  | rotationActivated | revocationIssued | revocationPropagated | recoveryOpened
  | recoveryCompleted
deriving DecidableEq

structure IdentityAuditEventMetadata where
  event : IdentityAuditEventKind
  realm : RealmPath
  enrollmentId : Option EnrollmentId
  rotationId : Option KeyRotationId
  revocationId : Option RevocationId
  recoveryId : Option RecoveryProcedureId
  enrollmentStatus : Option EnrollmentStatus
  rotationStatus : Option KeyRotationStatus
  revocationStatus : Option RevocationStatus
  recoveryStatus : Option RecoveryStatus
  correlationId : Option CorrelationId
deriving DecidableEq

end D2b

import Mathlib.Data.Prod.Lex
import D2b.Lib.BTreeMap
import D2b.Lib.Command
import D2b.RealmCore.Enrollment

/-!
# D2b.RealmCore.IdentityStore

The in-memory realm identity store (`identity_store.rs`).

Every operation mutates the store and may fail, and the source rolls nothing
back: an error after an update keeps the update.  The operations are commands
(`D2b.Lib.Command`), written in the order in which the source reads, checks
and updates.
-/

namespace D2b

/-- Maximum audit records emitted by one transition. -/
def maxIdentityStoreAuditEvents : Nat := 64

/-- Maximum teardown directives emitted by one transition. -/
def maxIdentityStoreTeardowns : Nat := 64

/-- Validation errors of identity state transitions. -/
inductive IdentityStoreError where
  | duplicateEnrollment | duplicateGeneration | duplicateRevocation | duplicateRecovery
  | unknownEnrollment | unknownGeneration | unknownRecovery | unknownRevocationList
  | staleGeneration | revokedGeneration | revokedParentTrust | keyMaterialRef
  | invalidRealmRelationship | invalidTransition | tooManyAuditEvents
  | tooManyTeardownDirectives
deriving DecidableEq

/-! ## changes -/

structure IdentityStoreChange where
  auditEvents : List IdentityAuditEventMetadata
  teardownDirectives : List SessionTeardownDirective
  audit_le : auditEvents.length ≤ maxIdentityStoreAuditEvents
  teardown_le : teardownDirectives.length ≤ maxIdentityStoreTeardowns
deriving DecidableEq

namespace IdentityStoreChange

def empty : IdentityStoreChange := ⟨[], [], by decide, by decide⟩

def pushAudit (change : IdentityStoreChange) (event : IdentityAuditEventMetadata) :
    Except IdentityStoreError IdentityStoreChange :=
  if h : change.auditEvents.length ≥ maxIdentityStoreAuditEvents then .error .tooManyAuditEvents
  else .ok
    { change with
      auditEvents := change.auditEvents ++ [event]
      audit_le := by rw [List.length_append, List.length_singleton]; omega }

def pushTeardown (change : IdentityStoreChange) (directive : SessionTeardownDirective) :
    Except IdentityStoreError IdentityStoreChange :=
  if h : change.teardownDirectives.length ≥ maxIdentityStoreTeardowns then
    .error .tooManyTeardownDirectives
  else if directive.affectedWorkloads.length > maxTeardownWorkloads then
    .error .tooManyTeardownDirectives
  else .ok
    { change with
      teardownDirectives := change.teardownDirectives ++ [directive]
      teardown_le := by rw [List.length_append, List.length_singleton]; omega }

def extend (change other : IdentityStoreChange) :
    Except IdentityStoreError IdentityStoreChange := do
  let change ← other.auditEvents.foldlM pushAudit change
  other.teardownDirectives.foldlM pushTeardown change

end IdentityStoreChange

/-- An audit record that names only its realm. -/
def auditEvent (event : IdentityAuditEventKind) (realm : RealmPath)
    (correlationId : Option CorrelationId) : IdentityAuditEventMetadata where
  event := event
  realm := realm
  enrollmentId := none
  rotationId := none
  revocationId := none
  recoveryId := none
  enrollmentStatus := none
  rotationStatus := none
  revocationStatus := none
  recoveryStatus := none
  correlationId := correlationId

/-! ## opaque references -/

def keyMarkers : List String :=
  ["begin", "publickey", "privatekey", "ssh-rsa", "sshrsa", "ssh-ed25519", "sshed25519", "ecdsa",
    "sha256"]

/-- A reference that looks like key material is refused. -/
def validateOpaqueRef (raw : String) : Except IdentityStoreError Unit :=
  let lower := raw.toList.map Char.toLower
  if keyMarkers.any fun marker =>
      containsChars lower marker.toList || containsChars (compact raw) marker.toList
  then .error .keyMaterialRef
  else .ok ()

def validateIdentityRef (identityRef : RealmIdentityRef) : Except IdentityStoreError Unit :=
  validateOpaqueRef identityRef.asStr

def validateCredentialRef (credentialRef : ControllerGenerationCredentialRef) :
    Except IdentityStoreError Unit :=
  validateOpaqueRef credentialRef.asStr

def validateGenerationRefs (generation : ControllerGenerationMetadata) :
    Except IdentityStoreError Unit := do
  validateIdentityRef generation.realmIdentity.identityRef
  validateCredentialRef generation.credentialRef

def validateRotationRefs (plan : KeyRotationPlan) : Except IdentityStoreError Unit := do
  match plan.subject with
  | .realmIdentity _ currentIdentityRef _ => validateIdentityRef currentIdentityRef
  | .controllerGeneration _ _ currentCredentialRef _ => validateCredentialRef currentCredentialRef
  match plan.replacementIdentityRef with
  | some identityRef => validateIdentityRef identityRef
  | none => pure ()
  match plan.replacementCredentialRef with
  | some credentialRef => validateCredentialRef credentialRef
  | none => pure ()

/-! ## the store -/

abbrev RealmEdge := RealmPath ×ₗ RealmPath

instance : Std.TransCmp (compare : RealmEdge → RealmEdge → Ordering) := inferInstance

abbrev GenerationKey := RealmPath ×ₗ ControllerGenerationId

instance : Std.TransCmp (compare : GenerationKey → GenerationKey → Ordering) := inferInstance

def ControllerGenerationMetadata.key (g : ControllerGenerationMetadata) : GenerationKey :=
  toLex (g.realm, g.generationId)

def RecoveryProcedure.affectedKey (recovery : RecoveryProcedure) : GenerationKey :=
  toLex (recovery.childRealm, recovery.affectedGeneration)

structure RealmIdentityStore where
  enrollments : BTreeMap EnrollmentId EnrollmentRecord
  enrollmentByEdge : BTreeMap RealmEdge EnrollmentId
  parentTrustAnchors : BTreeMap RealmEdge ParentTrustAnchor
  childKeyPins : BTreeMap RealmEdge ChildKeyPin
  controllerGenerations : BTreeMap GenerationKey ControllerGenerationMetadata
  activeGenerations : BTreeMap RealmPath ControllerGenerationId
  rotations : BTreeMap KeyRotationId KeyRotationPlan
  revocations : BTreeMap RevocationId RevocationRecord
  revocationLists : BTreeMap RevocationListId RevocationList
  recoveries : BTreeMap RecoveryProcedureId RecoveryProcedure

abbrev StoreM := Command IdentityStoreError RealmIdentityStore

namespace RealmIdentityStore

open Command

def new : RealmIdentityStore := ⟨∅, ∅, ∅, ∅, ∅, ∅, ∅, ∅, ∅, ∅⟩

variable (s : RealmIdentityStore)

/-- The active controller-generation id for `realm`. -/
def activeGeneration (realm : RealmPath) : Option ControllerGenerationId :=
  s.activeGenerations[realm]?

/-! ## checks -/

def ensureActiveGeneration (realm : RealmPath)
    (generation : ControllerGenerationId) : Except IdentityStoreError Unit :=
  match s.controllerGenerations[toLex (realm, generation)]? with
  | none => .error .unknownGeneration
  | some metadata =>
    if metadata.status = .revoked then .error .revokedGeneration
    else match s.activeGenerations[realm]? with
    | some active => if active = generation then .ok () else .error .staleGeneration
    | none => .error .unknownGeneration

/-- A revocation in force that strikes the anchor's parent. -/
def isParentTrustRevoked (anchor : ParentTrustAnchor) : Bool :=
  s.revocations.toList.any fun (_, record) =>
    (record.status = .effective || record.status = .propagated) &&
    match record.target with
    | .realm realm => realm = anchor.parentRealm
    | .realmIdentity realm identityRef fingerprint =>
      realm = anchor.parentRealm && identityRef = anchor.parentIdentityRef
        && fingerprint = anchor.parentFingerprint
    | .realmKey realm .parentTrustAnchor fingerprint | .realmKey realm .realmIdentity fingerprint =>
      realm = anchor.parentRealm && fingerprint.asStr = anchor.parentFingerprint.asStr
    | _ => false

def ensureParentTrustNotRevoked (parent : RealmPath) : Except IdentityStoreError Unit :=
  if s.parentTrustAnchors.toList.any fun (_, anchor) =>
      anchor.parentRealm = parent && !s.isParentTrustRevoked anchor
  then .ok ()
  else .error .revokedParentTrust

def validateEnrollment (record : EnrollmentRecord) : Except IdentityStoreError Unit := do
  if !record.childRealm.isDirectChildOf record.parentRealm then
    throw .invalidRealmRelationship
  if record.parentTrustAnchor.parentRealm ≠ record.parentRealm
      ∨ record.parentTrustAnchor.childRealm ≠ record.childRealm
      ∨ record.childKeyPin.parentRealm ≠ record.parentRealm
      ∨ record.childKeyPin.childRealm ≠ record.childRealm
      ∨ record.childKeyPin.enrollmentId ≠ record.enrollmentId
      ∨ record.controllerGeneration.realm ≠ record.childRealm then
    throw .invalidRealmRelationship
  validateIdentityRef record.parentTrustAnchor.parentIdentityRef
  validateIdentityRef record.childKeyPin.childIdentityRef
  validateGenerationRefs record.controllerGeneration
  if s.isParentTrustRevoked record.parentTrustAnchor then
    throw .revokedParentTrust

/-! ## generations -/

/-- A generation issued as active takes the realm's index, if it is free. -/
def activateIssued (generation : ControllerGenerationMetadata) : StoreM Unit := do
  let s ← get
  match s.activeGenerations[generation.realm]? with
  | some active => failIf (active ≠ generation.generationId) .staleGeneration
  | none => pure ()
  modify fun s =>
    { s with
      activeGenerations := s.activeGenerations.insert generation.realm generation.generationId }

def issueControllerGeneration (generation : ControllerGenerationMetadata) :
    StoreM IdentityStoreChange := do
  ofExcept (validateGenerationRefs generation)
  failIf (generation.realm ≠ generation.realmIdentity.realm) .invalidRealmRelationship
  failIf (generation.status = .revoked) .revokedGeneration
  let s ← get
  failIf (s.controllerGenerations.contains generation.key = true) .duplicateGeneration
  if generation.status = .active then activateIssued generation else pure ()
  modify fun s =>
    { s with
      controllerGenerations := s.controllerGenerations.insert generation.key generation }
  ofExcept (IdentityStoreChange.empty.pushAudit
    { auditEvent .rotationActivated generation.realm none with
      revocationId := generation.revokedBy })

def enrollmentAuditKind : EnrollmentStatus → IdentityAuditEventKind
  | .accepted => .enrollmentAccepted
  | .rejected => .enrollmentRejected
  | _ => .enrollmentRequested

/-- Insert an enrollment record and its parent/child pins. -/
def enroll (record : EnrollmentRecord) : StoreM IdentityStoreChange := do
  let s ← get
  ofExcept (s.validateEnrollment record)
  let edge : RealmEdge := toLex (record.parentRealm, record.childRealm)
  failIf (s.enrollments.contains record.enrollmentId = true
    ∨ s.enrollmentByEdge.contains edge = true) .duplicateEnrollment
  let _ ← issueControllerGeneration record.controllerGeneration
  modify fun s =>
    { s with
      parentTrustAnchors := s.parentTrustAnchors.insert edge record.parentTrustAnchor
      childKeyPins := s.childKeyPins.insert edge record.childKeyPin
      enrollmentByEdge := s.enrollmentByEdge.insert edge record.enrollmentId
      enrollments := s.enrollments.insert record.enrollmentId record }
  ofExcept (IdentityStoreChange.empty.pushAudit
    { auditEvent (enrollmentAuditKind record.status) record.childRealm record.correlationId with
      enrollmentId := some record.enrollmentId
      enrollmentStatus := some record.status })

def rotateControllerGeneration (plan : KeyRotationPlan) (replacement : ControllerGenerationMetadata)
    (activatedAtUnixSeconds : Nat) : StoreM (KeyRotationEvent × IdentityStoreChange) := do
  ofExcept (validateGenerationRefs replacement)
  ofExcept (validateRotationRefs plan)
  match plan.subject with
  | .realmIdentity .. => throw .invalidTransition
  | .controllerGeneration realm currentGeneration currentCredentialRef currentFingerprint =>
    let s ← get
    ofExcept (s.ensureActiveGeneration realm currentGeneration)
    let currentKey : GenerationKey := toLex (realm, currentGeneration)
    let current ← okOr s.controllerGenerations[currentKey]? .unknownGeneration
    failIf (current.credentialRef ≠ currentCredentialRef
      ∨ current.credentialFingerprint ≠ currentFingerprint) .staleGeneration
    failIf (replacement.realm ≠ realm ∨ replacement.realmIdentity ≠ current.realmIdentity)
      .invalidTransition
    failIf (s.controllerGenerations.contains replacement.key = true) .duplicateGeneration
    modify fun s =>
      { s with
        controllerGenerations := s.controllerGenerations.modify currentKey fun current =>
          { current with
            status := .superseded
            notAfterUnixSeconds := some activatedAtUnixSeconds } }
    let replacement :=
      { replacement with status := .active, notBeforeUnixSeconds := activatedAtUnixSeconds }
    let plan :=
      { plan with
        status := .active
        replacementCredentialRef := some replacement.credentialRef
        replacementFingerprint := some replacement.credentialFingerprint
        activateAfterUnixSeconds := some activatedAtUnixSeconds }
    modify fun s =>
      { s with
        activeGenerations := s.activeGenerations.insert realm replacement.generationId
        controllerGenerations := s.controllerGenerations.insert replacement.key replacement
        rotations := s.rotations.insert plan.rotationId plan }
    let change ← ofExcept (IdentityStoreChange.empty.pushAudit
      { auditEvent .rotationActivated realm plan.correlationId with
        rotationId := some plan.rotationId
        rotationStatus := some .active })
    pure (⟨plan.rotationId, realm, plan.subject.kind, .activated, .active,
      activatedAtUnixSeconds, plan.correlationId⟩, change)

/-! ## revocations -/

/-- The keys of the generations that pass a test, in order. -/
def generationKeys (p : GenerationKey → ControllerGenerationMetadata → Bool) : List GenerationKey :=
  (s.controllerGenerations.toList.filter fun kv => p kv.1 kv.2).map Prod.fst

section

variable (realm : RealmPath)

def isOfRealm (key : GenerationKey) (_ : ControllerGenerationMetadata) : Bool :=
  decide ((ofLex key).1 = realm)

/-- A generation of the realm under a realm identity. -/
def hasIdentity (identityRef : RealmIdentityRef)
    (fingerprint : RealmIdentityFingerprint) (key : GenerationKey)
    (g : ControllerGenerationMetadata) : Bool :=
  decide ((ofLex key).1 = realm) && decide (g.realmIdentity.identityRef = identityRef)
    && decide (g.realmIdentity.fingerprint = fingerprint)

/-- A generation of the realm under a credential. -/
def hasCredential (credentialRef : ControllerGenerationCredentialRef)
    (fingerprint : KeyFingerprint) (key : GenerationKey) (g : ControllerGenerationMetadata) :
    Bool :=
  decide ((ofLex key).1 = realm) && decide (g.credentialRef = credentialRef)
    && decide (g.credentialFingerprint = fingerprint)

def revokedWithIdentity (revocationId : RevocationId) (g : ControllerGenerationMetadata) :
    ControllerGenerationMetadata :=
  { g with
    status := .revoked
    revokedBy := some revocationId
    realmIdentity := { g.realmIdentity with status := .revoked } }

/-- Revoke the generations of the keys and drop the realm's index. -/
def revokeIdentityOf (keys : List GenerationKey) (revocationId : RevocationId) : StoreM Unit := do
  failIf (keys = []) .unknownGeneration
  modify fun s =>
    { s with
      controllerGenerations := keys.foldl
        (fun generations key => generations.modify key (revokedWithIdentity revocationId))
        s.controllerGenerations
      activeGenerations := s.activeGenerations.erase realm }

end

/-- The index without `generation`, if it names that. -/
def dropActive (active : BTreeMap RealmPath ControllerGenerationId) (realm : RealmPath)
    (generation : ControllerGenerationId) : BTreeMap RealmPath ControllerGenerationId :=
  if active[realm]? = some generation then active.erase realm else active

/-- Why sessions go down when a realm key is revoked. -/
def realmKeyTeardownReason : RealmKeyRole → SessionTeardownReason
  | .realmIdentity | .parentTrustAnchor | .childIdentity => .realmIdentityRevoked
  | .controllerGeneration => .controllerGenerationRevoked

variable (revocation : RevocationRecord)

/-- Strike the target; the realm whose sessions go down, and why. -/
def applyRevocationTarget : StoreM (Option RealmPath × Option SessionTeardownReason) := do
  let s ← get
  match revocation.target with
  | .realm realm =>
    revokeIdentityOf realm (s.generationKeys (isOfRealm realm)) revocation.revocationId
    pure (some realm, some .realmIdentityRevoked)
  | .realmIdentity realm identityRef fingerprint =>
    ofExcept (validateIdentityRef identityRef)
    revokeIdentityOf realm (s.generationKeys (hasIdentity realm identityRef fingerprint))
      revocation.revocationId
    pure (some realm, some .realmIdentityRevoked)
  | .realmKey realm role _ => pure (some realm, some (realmKeyTeardownReason role))
  | .controllerGeneration realm controllerGeneration =>
    let key : GenerationKey := toLex (realm, controllerGeneration)
    let _ ← okOr s.controllerGenerations[key]? .unknownGeneration
    modify fun s =>
      { s with
        controllerGenerations := s.controllerGenerations.modify key fun g =>
          { g with
            status := .revoked
            revokedBy := some revocation.revocationId
            notAfterUnixSeconds := some
              (revocation.effectiveAtUnixSeconds.getD revocation.issuedAtUnixSeconds) }
        activeGenerations := dropActive s.activeGenerations realm controllerGeneration }
    pure (some realm, some .controllerGenerationRevoked)
  | .controllerCredential realm credentialRef fingerprint =>
    ofExcept (validateCredentialRef credentialRef)
    let key ← okOr (s.generationKeys (hasCredential realm credentialRef fingerprint)).head?
      .unknownGeneration
    let generation ← okOr s.controllerGenerations[key]? .unknownGeneration
    modify fun s =>
      { s with
        controllerGenerations := s.controllerGenerations.modify key fun g =>
          { g with status := .revoked, revokedBy := some revocation.revocationId }
        activeGenerations := dropActive s.activeGenerations realm generation.generationId }
    pure (some realm, some .controllerGenerationRevoked)
  | .enrollment enrollmentId =>
    let enrollment ← okOr s.enrollments[enrollmentId]? .unknownEnrollment
    modify fun s =>
      { s with
        enrollments := s.enrollments.modify enrollmentId fun record =>
          { record with status := .revoked, reason := some .parentPolicyDenied } }
    pure (some enrollment.childRealm, some .realmIdentityRevoked)
  | .policyGrant realm _ => pure (some realm, some .policyGrantRevoked)
  | .capabilityGrant realm _ => pure (some realm, some .streamCapabilityRevoked)

/-- The record as it is stored: in force, with an effective time. -/
def inForce (parentPushed : Bool) : RevocationRecord :=
  { revocation with
    status :=
      if revocation.status = .effective ∨ revocation.status = .propagated then revocation.status
      else if parentPushed then .propagated else .effective
    effectiveAtUnixSeconds :=
      some (revocation.effectiveAtUnixSeconds.getD revocation.issuedAtUnixSeconds) }

variable (affectedWorkloads : List WorkloadId)

/-- The teardown of a struck realm, if there is one. -/
def revocationTeardown (affected : Option RealmPath × Option SessionTeardownReason) :
    Except IdentityStoreError IdentityStoreChange :=
  match affected with
  | (some realm, some reason) => IdentityStoreChange.empty.pushTeardown
      ⟨revocation.revocationId, revocation.issuerRealm, realm, reason, affectedWorkloads,
        revocation.issuedAtUnixSeconds, revocation.correlationId⟩
  | _ => .ok .empty

def applyRevocation (parentPushed : Bool) : StoreM IdentityStoreChange := do
  let s ← get
  failIf (s.revocations.contains revocation.revocationId = true) .duplicateRevocation
  failIf (affectedWorkloads.length > maxTeardownWorkloads) .tooManyTeardownDirectives
  let revocation := inForce revocation parentPushed
  let affected ← applyRevocationTarget revocation
  modify fun s => { s with revocations := s.revocations.insert revocation.revocationId revocation }
  let change ← ofExcept (revocationTeardown revocation affectedWorkloads affected)
  ofExcept (change.pushAudit
    { auditEvent .revocationIssued revocation.issuerRealm revocation.correlationId with
      revocationId := some revocation.revocationId
      revocationStatus := some revocation.status })

/-- Apply a revocation record issued by an active generation. -/
def revoke : StoreM IdentityStoreChange := do
  let s ← get
  ofExcept (s.ensureActiveGeneration revocation.issuerRealm revocation.issuerControllerGeneration)
  applyRevocation revocation affectedWorkloads false

def revokeGeneration : StoreM IdentityStoreChange :=
  match revocation.target with
  | .controllerGeneration .. => revoke revocation affectedWorkloads
  | _ => throw .invalidTransition

def revokeRealm : StoreM IdentityStoreChange :=
  match revocation.target with
  | .realm .. => revoke revocation affectedWorkloads
  | _ => throw .invalidTransition

variable (revocationId : RevocationId) (issuerRealm : RealmPath)

section

variable (issuerControllerGeneration : ControllerGenerationId)

def grantRevocation (target : RevocationTarget) (issuedAtUnixSeconds : Nat) : RevocationRecord where
  revocationId := revocationId
  issuerRealm := issuerRealm
  issuerControllerGeneration := issuerControllerGeneration
  target := target
  status := .effective
  reason := .parentPolicyRevoked
  issuedAtUnixSeconds := issuedAtUnixSeconds
  effectiveAtUnixSeconds := some issuedAtUnixSeconds
  correlationId := none

def revokePolicyGrant (realm : RealmPath)
    (grant : ProtocolToken) (issuedAtUnixSeconds : Nat) (affectedWorkloads : List WorkloadId) :
    StoreM IdentityStoreChange :=
  revoke (grantRevocation revocationId issuerRealm issuerControllerGeneration
    (.policyGrant realm grant) issuedAtUnixSeconds) affectedWorkloads

def revokeCapability (realm : RealmPath)
    (capability : Capability) (issuedAtUnixSeconds : Nat) (affectedWorkloads : List WorkloadId) :
    StoreM IdentityStoreChange :=
  revoke (grantRevocation revocationId issuerRealm issuerControllerGeneration
    (.capabilityGrant realm capability) issuedAtUnixSeconds) affectedWorkloads

end

/-- One record of a pushed list; a known one is a replay. -/
def mergeRecord (change : IdentityStoreChange)
    (record : RevocationRecord) : StoreM IdentityStoreChange := do
  let s ← get
  if s.revocations.contains record.revocationId then pure change
  else
    let applied ← applyRevocation record affectedWorkloads true
    ofExcept (change.extend applied)

def recordList (list : RevocationList) (change : IdentityStoreChange) :
    StoreM IdentityStoreChange := do
  modify fun s => { s with revocationLists := s.revocationLists.insert list.listId list }
  ofExcept (change.pushAudit
    { auditEvent .revocationPropagated list.issuerRealm list.correlationId with
      revocationStatus := some .propagated })

def mergeRevocationList (list : RevocationList) (affectedWorkloads : List WorkloadId) :
    StoreM IdentityStoreChange := do
  let s ← get
  failIf (s.revocationLists.contains list.listId = true) .duplicateRevocation
  ofExcept (s.ensureParentTrustNotRevoked list.issuerRealm)
  failIf (seenTwice [] (list.records.map (·.revocationId)) = true) .duplicateRevocation
  let change ← list.records.foldlM (mergeRecord affectedWorkloads) .empty
  recordList list change

/-! ## recoveries -/

def recoveryAudit (event : IdentityAuditEventKind) (recovery : RecoveryProcedure)
    (status : RecoveryStatus) : IdentityAuditEventMetadata :=
  { auditEvent event recovery.childRealm recovery.correlationId with
    recoveryId := some recovery.recoveryId
    recoveryStatus := some status }

/-- Open a recovery procedure for a known generation. -/
def openRecovery (recovery : RecoveryProcedure) : StoreM IdentityStoreChange := do
  let s ← get
  failIf (s.recoveries.contains recovery.recoveryId = true) .duplicateRecovery
  let generation ← okOr s.controllerGenerations[recovery.affectedKey]? .unknownGeneration
  failIf (generation.status = .revoked) .revokedGeneration
  let recovery := { recovery with status := .requested }
  modify fun s =>
    { s with
      controllerGenerations := s.controllerGenerations.modify recovery.affectedKey fun g =>
        { g with status := .recovering }
      recoveries := s.recoveries.insert recovery.recoveryId recovery }
  ofExcept (IdentityStoreChange.empty.pushAudit (recoveryAudit .recoveryOpened recovery .requested))

variable (recoveryId : RecoveryProcedureId)

/-- Move a recovery from one status to the next. -/
def setRecoveryStatus (expected next : RecoveryStatus) : StoreM IdentityStoreChange := do
  let s ← get
  let recovery ← okOr s.recoveries[recoveryId]? .unknownRecovery
  failIf (recovery.status ≠ expected) .invalidTransition
  modify fun s =>
    { s with
      recoveries := s.recoveries.modify recoveryId fun recovery =>
        { recovery with status := next } }
  ofExcept (IdentityStoreChange.empty.pushAudit (recoveryAudit .recoveryOpened recovery next))

/-- Mark parent approval for a requested recovery. -/
def approveRecovery : StoreM IdentityStoreChange :=
  setRecoveryStatus recoveryId .requested .parentApproved

/-- The revocation id of a recovery's isolation. -/
def isolationId (recovery : RecoveryProcedure) : Except IdentityStoreError RevocationId :=
  match Id.parse .revocation ("recovery-" ++ recovery.recoveryId.asStr) with
  | .ok revocationId => .ok revocationId
  | .error _ => .error .invalidTransition

/-- Isolate sessions for an approved recovery; the status is set first. -/
def isolateRecovery (issuedAtUnixSeconds : Nat)
    (affectedWorkloads : List WorkloadId) : StoreM IdentityStoreChange := do
  let s ← get
  let recovery ← okOr s.recoveries[recoveryId]? .unknownRecovery
  failIf (recovery.status ≠ .parentApproved) .invalidTransition
  modify fun s =>
    { s with
      recoveries := s.recoveries.modify recoveryId fun recovery =>
        { recovery with status := .isolating } }
  let revocationId ← ofExcept (isolationId recovery)
  let change ← ofExcept (IdentityStoreChange.empty.pushTeardown
    ⟨revocationId, recovery.parentRealm, recovery.childRealm, .recoveryIsolation,
      affectedWorkloads, issuedAtUnixSeconds, recovery.correlationId⟩)
  ofExcept (change.pushAudit (recoveryAudit .recoveryOpened recovery .isolating))

/-- Attach replacement generation metadata to a recovery. -/
def reissueRecovery (replacement : ControllerGenerationMetadata) : StoreM IdentityStoreChange := do
  ofExcept (validateGenerationRefs replacement)
  let s ← get
  let recovery ← okOr s.recoveries[recoveryId]? .unknownRecovery
  failIf (recovery.status ≠ .isolating ∧ recovery.status ≠ .parentApproved) .invalidTransition
  let affected ← okOr s.controllerGenerations[recovery.affectedKey]? .unknownGeneration
  failIf (replacement.realm ≠ recovery.childRealm
    ∨ replacement.realmIdentity ≠ affected.realmIdentity) .invalidTransition
  failIf (s.controllerGenerations.contains replacement.key = true) .duplicateGeneration
  let replacement := { replacement with status := .recovering }
  modify fun s =>
    { s with
      controllerGenerations := s.controllerGenerations.insert replacement.key replacement
      recoveries := s.recoveries.modify recoveryId fun recovery =>
        { recovery with
          replacementGeneration := some replacement
          status := .reissued } }
  ofExcept (IdentityStoreChange.empty.pushAudit (recoveryAudit .recoveryOpened recovery .reissued))

/-- Complete a recovery: revoke the affected generation, activate the
replacement.  The affected generation is revoked before the replacement is
looked up. -/
def completeRecovery (closedAtUnixSeconds : Nat) : StoreM IdentityStoreChange := do
  let s ← get
  let recovery ← okOr s.recoveries[recoveryId]? .unknownRecovery
  failIf (recovery.status ≠ .reissued) .invalidTransition
  let replacement ← okOr recovery.replacementGeneration .invalidTransition
  failIf (s.controllerGenerations.contains recovery.affectedKey = false) .unknownGeneration
  modify fun s =>
    { s with
      controllerGenerations := s.controllerGenerations.modify recovery.affectedKey fun g =>
        { g with status := .revoked, notAfterUnixSeconds := some closedAtUnixSeconds } }
  let s ← get
  failIf (s.controllerGenerations.contains replacement.key = false) .unknownGeneration
  modify fun s =>
    { s with
      controllerGenerations := s.controllerGenerations.modify replacement.key fun g =>
        { g with status := .active, notBeforeUnixSeconds := closedAtUnixSeconds }
      activeGenerations := s.activeGenerations.insert replacement.realm replacement.generationId
      recoveries := s.recoveries.modify recoveryId fun recovery =>
        { recovery with
          status := .completed
          closedAtUnixSeconds := some closedAtUnixSeconds } }
  ofExcept (IdentityStoreChange.empty.pushAudit
    (recoveryAudit .recoveryCompleted recovery .completed))

/-! ## runs -/

inductive Call where
  | enroll (record : EnrollmentRecord)
  | issueControllerGeneration (generation : ControllerGenerationMetadata)
  | rotateControllerGeneration (plan : KeyRotationPlan)
      (replacement : ControllerGenerationMetadata) (activatedAtUnixSeconds : Nat)
  | revokeGeneration (revocation : RevocationRecord) (affectedWorkloads : List WorkloadId)
  | revokeRealm (revocation : RevocationRecord) (affectedWorkloads : List WorkloadId)
  | revokePolicyGrant (revocationId : RevocationId) (issuerRealm : RealmPath)
      (issuerControllerGeneration : ControllerGenerationId) (realm : RealmPath)
      (grant : ProtocolToken) (issuedAtUnixSeconds : Nat) (affectedWorkloads : List WorkloadId)
  | revokeCapability (revocationId : RevocationId) (issuerRealm : RealmPath)
      (issuerControllerGeneration : ControllerGenerationId) (realm : RealmPath)
      (capability : Capability) (issuedAtUnixSeconds : Nat) (affectedWorkloads : List WorkloadId)
  | revoke (revocation : RevocationRecord) (affectedWorkloads : List WorkloadId)
  | mergeRevocationList (list : RevocationList) (affectedWorkloads : List WorkloadId)
  | openRecovery (recovery : RecoveryProcedure)
  | approveRecovery (recoveryId : RecoveryProcedureId)
  | isolateRecovery (recoveryId : RecoveryProcedureId) (issuedAtUnixSeconds : Nat)
      (affectedWorkloads : List WorkloadId)
  | reissueRecovery (recoveryId : RecoveryProcedureId) (replacement : ControllerGenerationMetadata)
  | completeRecovery (recoveryId : RecoveryProcedureId) (closedAtUnixSeconds : Nat)

def Call.perform : Call → StoreM IdentityStoreChange
  | .enroll record => RealmIdentityStore.enroll record
  | .issueControllerGeneration generation =>
    RealmIdentityStore.issueControllerGeneration generation
  | .rotateControllerGeneration plan replacement activatedAt =>
    Prod.snd <$> RealmIdentityStore.rotateControllerGeneration plan replacement activatedAt
  | .revokeGeneration revocation workloads =>
    RealmIdentityStore.revokeGeneration revocation workloads
  | .revokeRealm revocation workloads => RealmIdentityStore.revokeRealm revocation workloads
  | .revokePolicyGrant revocationId issuerRealm issuerGeneration realm grant issuedAt workloads =>
    RealmIdentityStore.revokePolicyGrant revocationId issuerRealm issuerGeneration realm grant
      issuedAt workloads
  | .revokeCapability revocationId issuerRealm issuerGeneration realm capability issuedAt
      workloads =>
      RealmIdentityStore.revokeCapability revocationId issuerRealm issuerGeneration realm capability
        issuedAt workloads
  | .revoke revocation workloads => RealmIdentityStore.revoke revocation workloads
  | .mergeRevocationList list workloads => RealmIdentityStore.mergeRevocationList list workloads
  | .openRecovery recovery => RealmIdentityStore.openRecovery recovery
  | .approveRecovery recoveryId => RealmIdentityStore.approveRecovery recoveryId
  | .isolateRecovery recoveryId issuedAt workloads =>
    RealmIdentityStore.isolateRecovery recoveryId issuedAt workloads
  | .reissueRecovery recoveryId replacement =>
    RealmIdentityStore.reissueRecovery recoveryId replacement
  | .completeRecovery recoveryId closedAt =>
    RealmIdentityStore.completeRecovery recoveryId closedAt

/-- The store after a call, whether it succeeded or not. -/
def after (call : Call) : RealmIdentityStore := (call.perform.exec s).2

end RealmIdentityStore

end D2b

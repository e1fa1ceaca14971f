import D2b.RealmCore.Error
import D2b.RealmCore.Stream

/-!
# D2b.RealmCore.ConstellationFrame

The semantic frame of a realm peer session (`frame.rs`, `audit.rs`): the
twelve kinds of frame that a codec maps to bytes and back, and the checks
that their fail-closed decoders make beyond the fields' own types.
-/

namespace D2b

/-! ## handshakes -/

/-- A non-secret peer-binding context for the handshake. -/
structure PeerContext where
  authMechanism : ProtocolToken
  peerPrincipal : Option PrincipalId
  peerNode : Option NodeId
deriving DecidableEq

/-- Version, codec and capabilities exchanged at the start of a session. -/
structure Handshake where
  protocolVersion : UInt32
  codecId : ProtocolToken
  schemaFingerprint : ProtocolToken
  capabilities : CapabilityNegotiation
  peer : Option PeerContext
deriving DecidableEq

structure HandshakeAccepted where
  selected : Handshake
deriving DecidableEq

/-- Closed reason a peer handshake was refused. -/
inductive HandshakeRejectedReason where
  | versionSkew | codecMismatch | schemaFingerprintMismatch | capabilityMismatch
  | channelBindingMismatch | malformedHandshake
deriving DecidableEq

structure HandshakeRejected where
  reason : HandshakeRejectedReason
deriving DecidableEq

/-! ## responses and audits -/

structure OperationResponse where
  operationId : OperationId
  correlationId : CorrelationId
  body : OpaquePayload
deriving DecidableEq

inductive AuthzDecision where
  | allow | deny
deriving DecidableEq

/-- A redacted pre-auth or session-admission denial record. -/
structure AdmissionAuditRecord where
  operationId : OperationId
  correlationId : CorrelationId
  realm : RealmPath
  principal : Option PrincipalId
  node : NodeId
  scope : AuthorizationScope
  decision : AuthzDecision
  reason : ErrorKind
  trace : Option TraceContext
deriving DecidableEq

/-- Admission records are denial records only. -/
def AdmissionAuditRecord.isAdmissionDenial (record : AdmissionAuditRecord) : Bool :=
  decide (record.decision = .deny)

/-- Whether a request without an idempotency key must be refused. -/
def OperationRequest.requiresIdempotencyKey (request : OperationRequest) : Bool :=
  request.kind.isMutating

/-! ## frames -/

/-- The semantic frame exchanged over a realm peer session. -/
inductive ConstellationFrame where
  | handshake (frame : Handshake)
  | handshakeAccepted (frame : HandshakeAccepted)
  | handshakeRejected (frame : HandshakeRejected)
  | operationRequest (frame : OperationRequest)
  | operationResponse (frame : OperationResponse)
  | streamOpen (frame : StreamOpen)
  | streamData (frame : StreamData)
  | streamFlow (frame : StreamFlow)
  | streamClose (frame : StreamClose)
  | streamResume (frame : StreamResume)
  | typedError (frame : ConstellationError)
  | admissionAudit (frame : AdmissionAuditRecord)
deriving DecidableEq

/-! ## what the semantic decoders check -/

/-- A negotiation the semantic decoder accepts: at most sixty-four tokens, the
unknown ones no codes, and a fingerprint that is a token. -/
def CapabilityNegotiation.Decodable (n : CapabilityNegotiation) : Prop :=
  n.capabilities.known.card + n.capabilities.unknown.card ≤ maxCapabilitySetLen ∧
    (∀ t ∈ n.capabilities.unknown, Capability.fromCode t.asStr = none) ∧
    ∃ token : ProtocolToken, token.asStr = n.fingerprint

/-- The checks of the semantic (serde) decoders beyond the fields' types.  Those
of an error frame are part of `ConstellationError`. -/
def ConstellationFrame.Decodable : ConstellationFrame → Prop
  | handshake frame => frame.capabilities.Decodable
  | handshakeAccepted frame => frame.selected.capabilities.Decodable
  | operationRequest frame => frame.kind.isMutating = true → frame.idempotencyKey ≠ none
  | streamOpen frame => frame.isConsistent = true
  | streamFlow frame => frame.credits ≠ 0
  | admissionAudit frame => frame.decision = .deny
  | _ => True

end D2b

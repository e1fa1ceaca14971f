import D2b.Lib.Fallible
import D2b.RealmCodecProtobuf.Proto
import D2b.RealmCore.ConstellationFrame

/-!
# D2b.RealmCodecProtobuf.Codec

The protobuf codec for constellation frames (`lib.rs`): the hand-written
conversions between the semantic frames and the prost records, one pair of
functions for each record, and the codec on bytes.

The source's `parse_*` functions come from one declaration for all id types;
here they are `parseId` at the id's kind.
-/

namespace D2b

open Fallible Protobuf

/-- Maximum size of a frame on the wire (`d2b_contracts::MAX_FRAME_SIZE`). -/
def maxFrameSize : Nat := 1024 * 1024

def malformed (message : String) : ConstellationError := .new .malformedFrame message

def frameTooLarge (message : String) : ConstellationError := .new .frameTooLarge message

/-! ## ids, tokens and paths -/

def parseId (k : IdKind) (raw field : String) : Except ConstellationError (Id k) :=
  (Id.parse k raw).mapError fun err => malformed (field ++ ": " ++ err.display)

def parseProtocolToken (raw field : String) : Except ConstellationError ProtocolToken :=
  (ProtocolToken.parse raw).mapError fun err => malformed (field ++ ": " ++ err.display)

def encodeRealm (realm : RealmPath) : List String := realm.labels.map (·.asStr)

def decodeRealm (labels : List String) (field : String) : Except ConstellationError RealmPath := do
  let labels ← labels.mapM fun label => parseId .realm label field
  okOr (RealmPath.new labels) (malformed (field ++ " is empty or exceeds bounds"))

def encodeTraceContext (trace : TraceContext) : ProtoTraceContext :=
  { traceId := trace.traceId, spanId := trace.spanId }

def decodeTraceContext (trace : ProtoTraceContext) : Except ConstellationError TraceContext :=
  okOr (TraceContext.new trace.traceId trace.spanId)
    (malformed "trace context field is out of bounds")

def encodePayload (payload : OpaquePayload) : ProtoPayload := { bytes := payload.bytes }

def decodePayload (payload : Option ProtoPayload) (field : String) :
    Except ConstellationError OpaquePayload := do
  let payload ← okOr payload (malformed (field ++ " is missing"))
  okOr (OpaquePayload.new payload.bytes)
    (malformed (field ++ ": payload exceeds " ++ toString maxPayloadLen ++ " bytes"))

/-! ## numbers of the closed enumerations -/

def encodeHandshakeRejection : HandshakeRejectedReason → Int32
  | .versionSkew => 1
  | .codecMismatch => 2
  | .schemaFingerprintMismatch => 3
  | .channelBindingMismatch => 4
  | .malformedHandshake => 5
  | .capabilityMismatch => 6

variable (raw : Int32)

def decodeHandshakeRejection : Except ConstellationError HandshakeRejectedReason :=
  match raw with
  | 1 => .ok .versionSkew
  | 2 => .ok .codecMismatch
  | 3 => .ok .schemaFingerprintMismatch
  | 4 => .ok .channelBindingMismatch
  | 5 => .ok .malformedHandshake
  | 6 => .ok .capabilityMismatch
  | _ => .error (malformed ("unknown handshake rejection value " ++ toString raw.toInt))

def encodeOperationKind (kind : OperationKind) : Except ConstellationError Int32 :=
  .ok <| match kind with
    | .nodeRegister => 1
    | .nodeHeartbeat => 2
    | .nodeCapabilities => 3
    | .workloadList => 4
    | .workloadStart => 5
    | .workloadStop => 6
    | .guestHealth => 7
    | .execStart => 8
    | .execAttach => 9
    | .execLogs => 10
    | .execCancel => 11
    | .fileCopyStart => 12
    | .portForwardOpen => 13
    | .displaySessionOpen => 14
    | .shellList => 15
    | .shellAttach => 16
    | .shellDetach => 17
    | .shellKill => 18

def decodeOperationKind : Except ConstellationError OperationKind :=
  match raw with
  | 1 => .ok .nodeRegister
  | 2 => .ok .nodeHeartbeat
  | 3 => .ok .nodeCapabilities
  | 4 => .ok .workloadList
  | 5 => .ok .workloadStart
  | 6 => .ok .workloadStop
  | 7 => .ok .guestHealth
  | 8 => .ok .execStart
  | 9 => .ok .execAttach
  | 10 => .ok .execLogs
  | 11 => .ok .execCancel
  | 12 => .ok .fileCopyStart
  | 13 => .ok .portForwardOpen
  | 14 => .ok .displaySessionOpen
  | 15 => .ok .shellList
  | 16 => .ok .shellAttach
  | 17 => .ok .shellDetach
  | 18 => .ok .shellKill
  | _ => .error (malformed ("unknown operation kind value " ++ toString raw.toInt))

def encodeStreamKind (kind : StreamKind) : Except ConstellationError Int32 :=
  .ok <| match kind with
    | .control => 1
    | .pty => 2
    | .stdio => 3
    | .logs => 4
    | .fileCopy => 5
    | .portForward => 6
    | .display => 7
    | .clipboard => 8
    | .audioPlayback => 9
    | .audioCapture => 10
    | .deviceHid => 11
    | .deviceUsb => 12
    | .shellPty => 13

def decodeStreamKind : Except ConstellationError StreamKind :=
  match raw with
  | 1 => .ok .control
  | 2 => .ok .pty
  | 3 => .ok .stdio
  | 4 => .ok .logs
  | 5 => .ok .fileCopy
  | 6 => .ok .portForward
  | 7 => .ok .display
  | 8 => .ok .clipboard
  | 9 => .ok .audioPlayback
  | 10 => .ok .audioCapture
  | 11 => .ok .deviceHid
  | 12 => .ok .deviceUsb
  | 13 => .ok .shellPty
  | _ => .error (malformed ("unknown stream kind value " ++ toString raw.toInt))

def encodeStreamChannel : StreamChannel → Int32
  | .primary => 0
  | .stdout => 1
  | .stderr => 2

def decodeStreamChannel : Except ConstellationError StreamChannel :=
  match raw with
  | 0 => .ok .primary
  | 1 => .ok .stdout
  | 2 => .ok .stderr
  | _ => .error (malformed ("unknown stream channel value " ++ toString raw.toInt))

def encodeCloseReason : StreamCloseReason → Int32
  | .completed => 1
  | .cancelled => 2
  | .timedOut => 3
  | .errored => 4
  | .peerGone => 5

def decodeCloseReason : Except ConstellationError StreamCloseReason :=
  match raw with
  | 1 => .ok .completed
  | 2 => .ok .cancelled
  | 3 => .ok .timedOut
  | 4 => .ok .errored
  | 5 => .ok .peerGone
  | _ => .error (malformed ("unknown stream close reason value " ++ toString raw.toInt))

def encodeCapability (capability : Capability) : Except ConstellationError Int32 :=
  .ok <| match capability with
    | .lifecycle => 1
    | .exec => 2
    | .pty => 3
    | .logs => 4
    | .fileCopy => 5
    | .portForward => 6
    | .vsock => 7
    | .virtiofs => 8
    | .windowForwarding => 9
    | .displayStreaming => 10
    | .clipboard => 11
    | .audioPlayback => 12
    | .audioCapture => 13
    | .hid => 14
    | .usb => 15
    | .gpuAccel => 16
    | .snapshots => 17
    | .hotplug => 18
    | .ephemeralSessions => 19
    | .providerManagedIsolation => 20
    | .persistentShell => 21
    | .configuredLaunch => 22

def decodeCapability : Option Capability :=
  match raw with
  | 1 => some .lifecycle
  | 2 => some .exec
  | 3 => some .pty
  | 4 => some .logs
  | 5 => some .fileCopy
  | 6 => some .portForward
  | 7 => some .vsock
  | 8 => some .virtiofs
  | 9 => some .windowForwarding
  | 10 => some .displayStreaming
  | 11 => some .clipboard
  | 12 => some .audioPlayback
  | 13 => some .audioCapture
  | 14 => some .hid
  | 15 => some .usb
  | 16 => some .gpuAccel
  | 17 => some .snapshots
  | 18 => some .hotplug
  | 19 => some .ephemeralSessions
  | 20 => some .providerManagedIsolation
  | 21 => some .persistentShell
  | 22 => some .configuredLaunch
  | _ => none

def decodeCapabilityStrict : Except ConstellationError Capability :=
  okOr (decodeCapability raw) (malformed ("unknown capability value " ++ toString raw.toInt))

def encodeErrorKind (kind : ErrorKind) : Except ConstellationError Int32 :=
  .ok <| match kind with
    | .capabilityDenied => 1
    | .unauthorized => 2
    | .noRealmEntrypoint => 3
    | .gatewayUnavailable => 4
    | .providerAllocationFailed => 5
    | .relayUnavailable => 6
    | .authenticationFailed => 7
    | .versionSkew => 8
    | .operationInProgress => 9
    | .idempotencyKeyConflict => 10
    | .idempotencyKeyExpired => 11
    | .backpressure => 12
    | .cancelled => 13
    | .timeout => 14
    | .frameTooLarge => 15
    | .malformedFrame => 16
    | .invalidTarget => 17
    | .auditUnavailable => 18
    | .unsupportedFeature => 19

def decodeErrorKind : Except ConstellationError ErrorKind :=
  match raw with
  | 1 => .ok .capabilityDenied
  | 2 => .ok .unauthorized
  | 3 => .ok .noRealmEntrypoint
  | 4 => .ok .gatewayUnavailable
  | 5 => .ok .providerAllocationFailed
  | 6 => .ok .relayUnavailable
  | 7 => .ok .authenticationFailed
  | 8 => .ok .versionSkew
  | 9 => .ok .operationInProgress
  | 10 => .ok .idempotencyKeyConflict
  | 11 => .ok .idempotencyKeyExpired
  | 12 => .ok .backpressure
  | 13 => .ok .cancelled
  | 14 => .ok .timeout
  | 15 => .ok .frameTooLarge
  | 16 => .ok .malformedFrame
  | 17 => .ok .invalidTarget
  | 18 => .ok .auditUnavailable
  | 19 => .ok .unsupportedFeature
  | _ => .error (malformed ("unknown error kind value " ++ toString raw.toInt))

def encodeAuthzDecision : AuthzDecision → Int32
  | .allow => 1
  | .deny => 2

def decodeAuthzDecision : Except ConstellationError AuthzDecision :=
  match raw with
  | 1 => .ok .allow
  | 2 => .ok .deny
  | _ => .error (malformed ("unknown authz decision value " ++ toString raw.toInt))

/-! ## handshakes -/

/-- What a capability number without a capability is called. -/
def unknownPrefix : String := "unknown-protobuf-capability-"

/-- `str::parse::<u32>` of the digits after the sign, unbounded. -/
def parseDigits (digits : List Char) : Option Nat :=
  if digits ≠ [] ∧ digits.all Char.isDigit = true then some (Nat.ofDigitChars 10 digits 0)
  else none

/-- `str::parse::<i32>`. -/
def parseI32 : List Char → Option Int32
  | '-' :: digits => do
    let n ← parseDigits digits
    if n ≤ 2 ^ 31 then some (Int32.ofInt (-n)) else none
  | '+' :: digits => do
    let n ← parseDigits digits
    if n < 2 ^ 31 then some (Int32.ofInt n) else none
  | digits => do
    let n ← parseDigits digits
    if n < 2 ^ 31 then some (Int32.ofInt n) else none

/-- The number that an unknown token stands for, if it was made from one. -/
def rawOfToken (token : ProtocolToken) : Option Int32 := do
  let raw ← unknownPrefix.toList.isPrefixOf? token.asStr.toList
  parseI32 raw

/-- `Vec::dedup`: drop an element equal to the one before it. -/
def dedup : List Int32 → List Int32
  | a :: b :: rest => if a = b then dedup (b :: rest) else a :: dedup (b :: rest)
  | rest => rest

def encodePeerContext (peer : PeerContext) : ProtoPeerContext :=
  { authMechanism := peer.authMechanism.asStr
    peerPrincipal := peer.peerPrincipal.map (·.asStr)
    peerNode := peer.peerNode.map (·.asStr) }

def decodePeerContext (peer : ProtoPeerContext) : Except ConstellationError PeerContext := do
  let authMechanism ← parseProtocolToken peer.authMechanism "peer auth_mechanism"
  let peerPrincipal ← peer.peerPrincipal.mapM fun raw => parseId .principal raw "peer principal"
  let peerNode ← peer.peerNode.mapM fun raw => parseId .node raw "peer node"
  return { authMechanism, peerPrincipal, peerNode }

def encodeHandshake (frame : Handshake) : Except ConstellationError ProtoHandshake := do
  let known ← frame.capabilities.capabilities.iter.mapM encodeCapability
  -- unknown tokens that were not made from a number are dropped here
  let unknown := frame.capabilities.capabilities.unknownIter.filterMap rawOfToken
  let capabilities := dedup ((known ++ unknown).mergeSort (· ≤ ·))
  return {
    protocolVersion := some frame.protocolVersion
    codecId := frame.codecId.asStr
    schemaFingerprint := frame.schemaFingerprint.asStr
    capabilities
    capabilitySchemaVersion := frame.capabilities.schemaVersion
    capabilityFingerprint := frame.capabilities.fingerprint
    peer := frame.peer.map encodePeerContext }

def tokenOfRaw : Except ConstellationError ProtocolToken :=
  match decodeCapability raw with
  | some capability => (ProtocolToken.parse capability.code).mapError fun _ =>
    malformed "failed to encode known protobuf capability as protocol token"
  | none => (ProtocolToken.parse (unknownPrefix ++ toString raw.toInt)).mapError fun err =>
    malformed ("unknown protobuf capability token invalid: " ++ err.display)

def decodeCapabilityNegotiation (raws : List Int32) (schemaVersion : UInt32)
    (fingerprint : String) : Except ConstellationError CapabilityNegotiation := do
  let wireFingerprint ← parseProtocolToken fingerprint "handshake capability_fingerprint"
  let tokens ← raws.mapM tokenOfRaw
  let capabilities := CapabilitySet.fromTokens tokens
  let expected := capabilities.stableFingerprint
  let hasUnknown := !capabilities.unknownIter.isEmpty
  failIf (schemaVersion.toNat ≠ CapabilitySet.capabilityNegotiationSchemaVersion)
    (malformed "handshake capability negotiation schema version mismatch")
  failIf (!hasUnknown && wireFingerprint.asStr != expected)
    (malformed "handshake capability negotiation fingerprint mismatch")
  return { schemaVersion, capabilities, fingerprint := expected }

def decodeHandshake (frame : ProtoHandshake) : Except ConstellationError Handshake := do
  let protocolVersion ← okOr frame.protocolVersion
    (malformed "handshake protocol_version is missing")
  let codecId ← parseProtocolToken frame.codecId "handshake codec_id"
  let schemaFingerprint ← parseProtocolToken frame.schemaFingerprint
    "handshake schema_fingerprint"
  let capabilities ← decodeCapabilityNegotiation frame.capabilities frame.capabilitySchemaVersion
    frame.capabilityFingerprint
  let peer ← frame.peer.mapM decodePeerContext
  return { protocolVersion, codecId, schemaFingerprint, capabilities, peer }

def encodeHandshakeAccepted (frame : HandshakeAccepted) :
    Except ConstellationError ProtoHandshakeAccepted := do
  let selected ← encodeHandshake frame.selected
  return { selected := some selected }

def decodeHandshakeAccepted (frame : ProtoHandshakeAccepted) :
    Except ConstellationError HandshakeAccepted := do
  let selected ← okOr frame.selected (malformed "handshake_accepted selected is missing")
  let selected ← decodeHandshake selected
  return { selected }

def encodeHandshakeRejected (frame : HandshakeRejected) :
    Except ConstellationError ProtoHandshakeRejected :=
  .ok { reason := encodeHandshakeRejection frame.reason }

def decodeHandshakeRejected (frame : ProtoHandshakeRejected) :
    Except ConstellationError HandshakeRejected := do
  let reason ← decodeHandshakeRejection frame.reason
  return { reason }

/-! ## operations -/

def encodeOperationRequest (frame : OperationRequest) :
    Except ConstellationError ProtoOperationRequest := do
  let kind ← encodeOperationKind frame.kind
  return {
    operationId := frame.operationId.asStr
    correlationId := frame.correlationId.asStr
    idempotencyKey := frame.idempotencyKey.map (·.asStr)
    realm := encodeRealm frame.realm
    node := frame.node.asStr
    workload := frame.workload.map (·.asStr)
    principal := frame.principal.asStr
    kind
    trace := frame.trace.map encodeTraceContext
    body := some (encodePayload frame.body) }

def decodeOperationRequest (frame : ProtoOperationRequest) :
    Except ConstellationError OperationRequest := do
  let kind ← decodeOperationKind frame.kind
  let operationId ← parseId .operation frame.operationId "operation_request operation_id"
  let correlationId ← parseId .correlation frame.correlationId "operation_request correlation_id"
  let idempotencyKey ← frame.idempotencyKey.mapM fun raw =>
    parseId .idempotencyKey raw "operation_request idempotency_key"
  let realm ← decodeRealm frame.realm "operation_request realm"
  let node ← parseId .node frame.node "operation_request node"
  let workload ← frame.workload.mapM fun raw => parseId .workload raw "operation_request workload"
  let principal ← parseId .principal frame.principal "operation_request principal"
  let trace ← frame.trace.mapM decodeTraceContext
  let body ← decodePayload frame.body "operation_request body"
  let request : OperationRequest :=
    { operationId, correlationId, idempotencyKey, realm, node, workload, principal, kind, trace
      body }
  failIf (request.requiresIdempotencyKey && request.idempotencyKey.isNone)
    (malformed "mutating operation_request requires an idempotency_key")
  return request

def encodeOperationResponse (frame : OperationResponse) : ProtoOperationResponse :=
  { operationId := frame.operationId.asStr
    body := some (encodePayload frame.body)
    correlationId := frame.correlationId.asStr }

def decodeOperationResponse (frame : ProtoOperationResponse) :
    Except ConstellationError OperationResponse := do
  let operationId ← parseId .operation frame.operationId "operation_response operation_id"
  let correlationId ← parseId .correlation frame.correlationId "operation_response correlation_id"
  let body ← decodePayload frame.body "operation_response body"
  return { operationId, correlationId, body }

/-! ## streams -/

def encodeStreamDescriptor (descriptor : StreamDescriptor) :
    Except ConstellationError ProtoStreamDescriptor := do
  let kind ← encodeStreamKind descriptor.kind
  return { id := descriptor.id.asStr, kind }

def decodeStreamDescriptor (descriptor : ProtoStreamDescriptor) :
    Except ConstellationError StreamDescriptor := do
  let id ← parseId .stream descriptor.id "stream_descriptor id"
  let kind ← decodeStreamKind descriptor.kind
  return { id, kind }

def encodeStreamAuthz (authz : StreamAuthz) : Except ConstellationError ProtoStreamAuthz := do
  let capability ← encodeCapability authz.capability
  return { principal := authz.principal.asStr, realm := encodeRealm authz.realm, capability }

def decodeStreamAuthz (authz : ProtoStreamAuthz) : Except ConstellationError StreamAuthz := do
  let principal ← parseId .principal authz.principal "stream_authz principal"
  let realm ← decodeRealm authz.realm "stream_authz realm"
  let capability ← decodeCapabilityStrict authz.capability
  return { principal, realm, capability }

def encodeStreamOpen (frame : StreamOpen) : Except ConstellationError ProtoStreamOpen := do
  let descriptor ← encodeStreamDescriptor frame.descriptor
  let authz ← encodeStreamAuthz frame.authz
  return { descriptor := some descriptor, operationId := frame.operationId.asStr,
           authz := some authz }

def decodeStreamOpen (frame : ProtoStreamOpen) : Except ConstellationError StreamOpen := do
  let descriptor ← okOr frame.descriptor (malformed "stream_open descriptor is missing")
  let descriptor ← decodeStreamDescriptor descriptor
  let operationId ← parseId .operation frame.operationId "stream_open operation_id"
  let authz ← okOr frame.authz (malformed "stream_open authz is missing")
  let authz ← decodeStreamAuthz authz
  let opening : StreamOpen := { descriptor, operationId, authz }
  if opening.isConsistent then return opening
  else throw (malformed "stream_open authz capability does not match descriptor kind")

def encodeStreamData (frame : StreamData) : ProtoStreamData :=
  { stream := frame.stream.asStr
    data := some (encodePayload frame.data)
    sequence := frame.sequence
    channel := encodeStreamChannel frame.channel
    cursor := frame.cursor.map (·.asStr) }

def decodeStreamData (frame : ProtoStreamData) : Except ConstellationError StreamData := do
  let stream ← parseId .stream frame.stream "stream_data stream"
  let channel ← decodeStreamChannel frame.channel
  let cursor ← frame.cursor.mapM fun raw => parseId .streamCursor raw "stream_data cursor"
  let data ← decodePayload frame.data "stream_data data"
  return { stream, sequence := frame.sequence, channel, cursor, data }

def encodeStreamFlow (frame : StreamFlow) : ProtoStreamFlow :=
  { stream := frame.stream.asStr, credits := frame.credits }

def decodeStreamFlow (frame : ProtoStreamFlow) : Except ConstellationError StreamFlow := do
  failIf (frame.credits = 0) (malformed "stream_flow credit grant must be non-zero")
  let stream ← parseId .stream frame.stream "stream_flow stream"
  return { stream, credits := frame.credits }

def encodeStreamClose (frame : StreamClose) : ProtoStreamClose :=
  { stream := frame.stream.asStr, reason := encodeCloseReason frame.reason }

def decodeStreamClose (frame : ProtoStreamClose) : Except ConstellationError StreamClose := do
  let stream ← parseId .stream frame.stream "stream_close stream"
  let reason ← decodeCloseReason frame.reason
  return { stream, reason }

def encodeStreamResume (frame : StreamResume) : ProtoStreamResume :=
  { stream := frame.stream.asStr, cursor := frame.cursor.asStr }

def decodeStreamResume (frame : ProtoStreamResume) : Except ConstellationError StreamResume := do
  let stream ← parseId .stream frame.stream "stream_resume stream"
  let cursor ← parseId .streamCursor frame.cursor "stream_resume cursor"
  return { stream, cursor }

/-! ## errors and audits -/

def encodeError (error : ConstellationError) : Except ConstellationError ProtoError := do
  let kind ← encodeErrorKind error.kind
  let capability ← error.capability.mapM encodeCapability
  return {
    kind
    capability
    message := some error.message
    negotiatedCapabilityFingerprint := error.negotiatedCapabilityFingerprint
    correlationId := error.correlationId.map (·.asStr) }

/-- Attach the correlation id of the wire, if there is one. -/
def attachCorrelationId (decoded : ConstellationError) (correlationId : Option String) :
    Except ConstellationError ConstellationError :=
  match correlationId with
  | none => .ok decoded
  | some raw => do
    let id ← parseId .correlation raw "typed_error correlation_id"
    return decoded.withCorrelationId id

def decodeError (error : ProtoError) : Except ConstellationError ConstellationError := do
  let kind ← decodeErrorKind error.kind
  let capability ← error.capability.mapM decodeCapabilityStrict
  let message ← okOr error.message (malformed "typed_error message is missing")
  if kind = .capabilityDenied then
    let capability ← okOr capability
      (malformed "capability-denied typed_error is missing the capability field")
    let decoded ← attachCorrelationId
      (.capabilityDeniedWithFingerprint capability error.negotiatedCapabilityFingerprint)
      error.correlationId
    failIf (decoded.message ≠ message)
      (malformed "capability-denied typed_error message is not canonical")
    return decoded
  else if capability.isSome || error.negotiatedCapabilityFingerprint.isSome then
    throw (malformed "non-capability-denied typed_error carries capability-denial context")
  else
    attachCorrelationId (.new kind message) error.correlationId

def encodeAuthorizationScope (scope : AuthorizationScope) :
    Except ConstellationError ProtoAuthorizationScope := do
  let scope ← match scope with
    | .capability capability => do
      let raw ← encodeCapability capability
      pure (ProtoScope.capability raw)
    | .nodeControl => pure (ProtoScope.nodeControl {})
    | .enrollment => pure (ProtoScope.enrollment {})
    | .keyRotation => pure (ProtoScope.keyRotation {})
    | .revocation => pure (ProtoScope.revocation {})
    | .recovery => pure (ProtoScope.recovery {})
    | .health => pure (ProtoScope.health {})
  return { scope := some scope }

def decodeAuthorizationScope (scope : ProtoAuthorizationScope) :
    Except ConstellationError AuthorizationScope := do
  let scope ← okOr scope.scope (malformed "authorization scope body is missing")
  match scope with
  | .capability raw => do
    let capability ← decodeCapabilityStrict raw
    return .capability capability
  | .nodeControl _ => return .nodeControl
  | .enrollment _ => return .enrollment
  | .health _ => return .health
  | .keyRotation _ => return .keyRotation
  | .revocation _ => return .revocation
  | .recovery _ => return .recovery

def encodeAdmissionAudit (audit : AdmissionAuditRecord) :
    Except ConstellationError ProtoAuditEnvelope := do
  let scope ← encodeAuthorizationScope audit.scope
  let reason ← encodeErrorKind audit.reason
  return {
    operationId := audit.operationId.asStr
    correlationId := audit.correlationId.asStr
    realm := encodeRealm audit.realm
    principal := audit.principal.map (·.asStr)
    node := audit.node.asStr
    workload := none
    stream := none
    execution := none
    scope := some scope
    decision := encodeAuthzDecision audit.decision
    trace := audit.trace.map encodeTraceContext
    reason := some reason }

def decodeAdmissionAudit (audit : ProtoAuditEnvelope) :
    Except ConstellationError AdmissionAuditRecord := do
  failIf (audit.workload.isSome || audit.stream.isSome || audit.execution.isSome)
    (malformed "admission audit must not carry workload, stream, or execution fields")
  let operationId ← parseId .operation audit.operationId "audit operation_id"
  let correlationId ← parseId .correlation audit.correlationId "audit correlation_id"
  let realm ← decodeRealm audit.realm "audit realm"
  let principal ← audit.principal.mapM fun raw => parseId .principal raw "audit principal"
  let node ← parseId .node audit.node "audit node"
  let scope ← okOr audit.scope (malformed "audit scope is missing")
  let scope ← decodeAuthorizationScope scope
  let decision ← decodeAuthzDecision audit.decision
  let reason ← okOr audit.reason (malformed "admission audit reason is missing")
  let reason ← decodeErrorKind reason
  let trace ← audit.trace.mapM decodeTraceContext
  let record : AdmissionAuditRecord :=
    { operationId, correlationId, realm, principal, node, scope, decision, reason, trace }
  if record.isAdmissionDenial then return record
  else throw (malformed "admission audit records must be denials")

/-! ## frames -/

def encodeProtoFrame (frame : ConstellationFrame) : Except ConstellationError ProtoFrame := do
  let body : ProtoBody ← match frame with
    | .handshake frame => (encodeHandshake frame).map .handshake
    | .handshakeAccepted frame => (encodeHandshakeAccepted frame).map .handshakeAccepted
    | .handshakeRejected frame => (encodeHandshakeRejected frame).map .handshakeRejected
    | .operationRequest frame => (encodeOperationRequest frame).map .operationRequest
    | .operationResponse frame => .ok (.operationResponse (encodeOperationResponse frame))
    | .streamOpen frame => (encodeStreamOpen frame).map .streamOpen
    | .streamData frame => .ok (.streamData (encodeStreamData frame))
    | .streamFlow frame => .ok (.streamFlow (encodeStreamFlow frame))
    | .streamClose frame => .ok (.streamClose (encodeStreamClose frame))
    | .streamResume frame => .ok (.streamResume (encodeStreamResume frame))
    | .typedError frame => (encodeError frame).map .typedError
    | .admissionAudit frame => (encodeAdmissionAudit frame).map .admissionAudit
  return { body := some body }

def decodeProtoFrame (frame : ProtoFrame) : Except ConstellationError ConstellationFrame := do
  let body ← okOr frame.body (malformed "protobuf frame body is missing")
  match body with
  | .handshake frame => (decodeHandshake frame).map .handshake
  | .handshakeAccepted frame => (decodeHandshakeAccepted frame).map .handshakeAccepted
  | .handshakeRejected frame => (decodeHandshakeRejected frame).map .handshakeRejected
  | .operationRequest frame => (decodeOperationRequest frame).map .operationRequest
  | .operationResponse frame => (decodeOperationResponse frame).map .operationResponse
  | .streamOpen frame => (decodeStreamOpen frame).map .streamOpen
  | .streamData frame => (decodeStreamData frame).map .streamData
  | .streamFlow frame => (decodeStreamFlow frame).map .streamFlow
  | .streamClose frame => (decodeStreamClose frame).map .streamClose
  | .streamResume frame => (decodeStreamResume frame).map .streamResume
  | .typedError frame => (decodeError frame).map .typedError
  | .admissionAudit frame => (decodeAdmissionAudit frame).map .admissionAudit

def encodeFrame (frame : ConstellationFrame) : Except ConstellationError (List UInt8) := do
  let frame ← encodeProtoFrame frame
  return ProtoFrame.schema.encode frame

def decodeFrame (bytes : List UInt8) : Except ConstellationError ConstellationFrame := do
  failIf (bytes.length > maxFrameSize)
    (frameTooLarge ("protobuf frame exceeds maximum size: " ++ toString bytes.length ++ " > " ++
      toString maxFrameSize))
  let frame ← okOr (ProtoFrame.schema.decode bytes) (malformed "protobuf frame decode failed")
  decodeProtoFrame frame

end D2b

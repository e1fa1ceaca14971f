import D2b.Lib.Protobuf.Schema

/-!
# D2b.RealmCodecProtobuf.Proto

The prost records of the protobuf codec (`lib.rs`): one structure for each
message, with the tags and types its attributes give, and its bytes by
`Schema.encode` and `Schema.decode`.  Every schema carries the proof that it
reads back what it writes.
-/

namespace D2b

open Protobuf

/-! ## messages -/

structure ProtoUnit where
deriving DecidableEq

def ProtoUnit.schema : Schema ProtoUnit := .ofParts {} []

structure ProtoPayload where
  bytes : List UInt8 := []
deriving DecidableEq

def ProtoPayload.schema : Schema ProtoPayload :=
  .ofParts {} [.field 1 (.plain .bytes) (·.bytes) fun m v => { m with bytes := v }]

structure ProtoTraceContext where
  traceId : String := ""
  spanId : String := ""
deriving DecidableEq

def ProtoTraceContext.schema : Schema ProtoTraceContext :=
  .ofParts {}
    [.field 1 (.plain .string) (·.traceId) fun m v => { m with traceId := v },
      .field 2 (.plain .string) (·.spanId) fun m v => { m with spanId := v }]

structure ProtoPeerContext where
  authMechanism : String := ""
  peerPrincipal : Option String := none
  peerNode : Option String := none
deriving DecidableEq

def ProtoPeerContext.schema : Schema ProtoPeerContext :=
  .ofParts {}
    [.field 1 (.plain .string) (·.authMechanism) fun m v => { m with authMechanism := v },
      .field 2 (.optional .string) (·.peerPrincipal) fun m v => { m with peerPrincipal := v },
      .field 3 (.optional .string) (·.peerNode) fun m v => { m with peerNode := v }]

structure ProtoHandshake where
  protocolVersion : Option UInt32 := none
  codecId : String := ""
  peer : Option ProtoPeerContext := none
  schemaFingerprint : String := ""
  capabilities : List Int32 := []
  capabilitySchemaVersion : UInt32 := 0
  capabilityFingerprint : String := ""
deriving DecidableEq

def ProtoHandshake.schema : Schema ProtoHandshake :=
  .ofParts {}
    [.field 1 (.optional .uint32) (·.protocolVersion) fun m v => { m with protocolVersion := v },
      .field 2 (.plain .string) (·.codecId) fun m v => { m with codecId := v },
      .field 3 (.optional ProtoPeerContext.schema.message) (·.peer) fun m v => { m with peer := v },
      .field 4 (.plain .string) (·.schemaFingerprint) fun m v => { m with schemaFingerprint := v },
      .field 5 .packedInt32 (·.capabilities) fun m v => { m with capabilities := v },
      .field 6 (.plain .uint32) (·.capabilitySchemaVersion)
        fun m v => { m with capabilitySchemaVersion := v },
      .field 7 (.plain .string) (·.capabilityFingerprint)
        fun m v => { m with capabilityFingerprint := v }]

structure ProtoHandshakeAccepted where
  selected : Option ProtoHandshake := none
deriving DecidableEq

def ProtoHandshakeAccepted.schema : Schema ProtoHandshakeAccepted :=
  .ofParts {}
    [.field 1 (.optional ProtoHandshake.schema.message) (·.selected)
        fun m v => { m with selected := v }]

structure ProtoHandshakeRejected where
  reason : Int32 := 0
deriving DecidableEq

def ProtoHandshakeRejected.schema : Schema ProtoHandshakeRejected :=
  .ofParts {} [.field 1 (.plain .int32) (·.reason) fun m v => { m with reason := v }]

structure ProtoOperationRequest where
  operationId : String := ""
  idempotencyKey : Option String := none
  realm : List String := []
  node : String := ""
  workload : Option String := none
  principal : String := ""
  kind : Int32 := 0
  trace : Option ProtoTraceContext := none
  body : Option ProtoPayload := none
  correlationId : String := ""
deriving DecidableEq

def ProtoOperationRequest.schema : Schema ProtoOperationRequest :=
  .ofParts {}
    [.field 1 (.plain .string) (·.operationId) fun m v => { m with operationId := v },
      .field 2 (.optional .string) (·.idempotencyKey) fun m v => { m with idempotencyKey := v },
      .field 3 (.repeated .string) (·.realm) fun m v => { m with realm := v },
      .field 4 (.plain .string) (·.node) fun m v => { m with node := v },
      .field 5 (.optional .string) (·.workload) fun m v => { m with workload := v },
      .field 6 (.plain .string) (·.principal) fun m v => { m with principal := v },
      .field 7 (.plain .int32) (·.kind) fun m v => { m with kind := v },
      .field 8 (.optional ProtoTraceContext.schema.message) (·.trace)
        fun m v => { m with trace := v },
      .field 9 (.optional ProtoPayload.schema.message) (·.body) fun m v => { m with body := v },
      .field 10 (.plain .string) (·.correlationId) fun m v => { m with correlationId := v }]

structure ProtoOperationResponse where
  operationId : String := ""
  body : Option ProtoPayload := none
  correlationId : String := ""
deriving DecidableEq

def ProtoOperationResponse.schema : Schema ProtoOperationResponse :=
  .ofParts {}
    [.field 1 (.plain .string) (·.operationId) fun m v => { m with operationId := v },
      .field 2 (.optional ProtoPayload.schema.message) (·.body) fun m v => { m with body := v },
      .field 3 (.plain .string) (·.correlationId) fun m v => { m with correlationId := v }]

structure ProtoStreamDescriptor where
  id : String := ""
  kind : Int32 := 0
deriving DecidableEq

def ProtoStreamDescriptor.schema : Schema ProtoStreamDescriptor :=
  .ofParts {}
    [.field 1 (.plain .string) (·.id) fun m v => { m with id := v },
      .field 2 (.plain .int32) (·.kind) fun m v => { m with kind := v }]

structure ProtoStreamAuthz where
  principal : String := ""
  realm : List String := []
  capability : Int32 := 0
deriving DecidableEq

def ProtoStreamAuthz.schema : Schema ProtoStreamAuthz :=
  .ofParts {}
    [.field 1 (.plain .string) (·.principal) fun m v => { m with principal := v },
      .field 2 (.repeated .string) (·.realm) fun m v => { m with realm := v },
      .field 3 (.plain .int32) (·.capability) fun m v => { m with capability := v }]

structure ProtoStreamOpen where
  descriptor : Option ProtoStreamDescriptor := none
  operationId : String := ""
  authz : Option ProtoStreamAuthz := none
deriving DecidableEq

def ProtoStreamOpen.schema : Schema ProtoStreamOpen :=
  .ofParts {}
    [.field 1 (.optional ProtoStreamDescriptor.schema.message) (·.descriptor)
        fun m v => { m with descriptor := v },
      .field 2 (.plain .string) (·.operationId) fun m v => { m with operationId := v },
      .field 3 (.optional ProtoStreamAuthz.schema.message) (·.authz)
        fun m v => { m with authz := v }]

structure ProtoStreamData where
  stream : String := ""
  data : Option ProtoPayload := none
  sequence : UInt64 := 0
  channel : Int32 := 0
  cursor : Option String := none
deriving DecidableEq

def ProtoStreamData.schema : Schema ProtoStreamData :=
  .ofParts {}
    [.field 1 (.plain .string) (·.stream) fun m v => { m with stream := v },
      .field 2 (.optional ProtoPayload.schema.message) (·.data) fun m v => { m with data := v },
      .field 3 (.plain .uint64) (·.sequence) fun m v => { m with sequence := v },
      .field 4 (.plain .int32) (·.channel) fun m v => { m with channel := v },
      .field 5 (.optional .string) (·.cursor) fun m v => { m with cursor := v }]

structure ProtoStreamFlow where
  stream : String := ""
  credits : UInt32 := 0
deriving DecidableEq

def ProtoStreamFlow.schema : Schema ProtoStreamFlow :=
  .ofParts {}
    [.field 1 (.plain .string) (·.stream) fun m v => { m with stream := v },
      .field 2 (.plain .uint32) (·.credits) fun m v => { m with credits := v }]

structure ProtoStreamClose where
  stream : String := ""
  reason : Int32 := 0
deriving DecidableEq

def ProtoStreamClose.schema : Schema ProtoStreamClose :=
  .ofParts {}
    [.field 1 (.plain .string) (·.stream) fun m v => { m with stream := v },
      .field 2 (.plain .int32) (·.reason) fun m v => { m with reason := v }]

structure ProtoStreamResume where
  stream : String := ""
  cursor : String := ""
deriving DecidableEq

def ProtoStreamResume.schema : Schema ProtoStreamResume :=
  .ofParts {}
    [.field 1 (.plain .string) (·.stream) fun m v => { m with stream := v },
      .field 2 (.plain .string) (·.cursor) fun m v => { m with cursor := v }]

structure ProtoError where
  kind : Int32 := 0
  capability : Option Int32 := none
  message : Option String := none
  negotiatedCapabilityFingerprint : Option String := none
  correlationId : Option String := none
deriving DecidableEq

def ProtoError.schema : Schema ProtoError :=
  .ofParts {}
    [.field 1 (.plain .int32) (·.kind) fun m v => { m with kind := v },
      .field 2 (.optional .int32) (·.capability) fun m v => { m with capability := v },
      .field 3 (.optional .string) (·.message) fun m v => { m with message := v },
      .field 4 (.optional .string) (·.negotiatedCapabilityFingerprint)
        fun m v => { m with negotiatedCapabilityFingerprint := v },
      .field 5 (.optional .string) (·.correlationId) fun m v => { m with correlationId := v }]

inductive ProtoScope where
  | capability (raw : Int32)
  | nodeControl (unit : ProtoUnit)
  | enrollment (unit : ProtoUnit)
  | health (unit : ProtoUnit)
  | keyRotation (unit : ProtoUnit)
  | revocation (unit : ProtoUnit)
  | recovery (unit : ProtoUnit)
deriving DecidableEq

structure ProtoAuthorizationScope where
  scope : Option ProtoScope := none
deriving DecidableEq

def ProtoScope.variants : List (Variant ProtoScope) :=
  [.alternative 1 .int32 (fun | .capability raw => some raw | _ => none) .capability (by grind),
    .alternative 2 ProtoUnit.schema.message (fun | .nodeControl u => some u | _ => none)
      .nodeControl (by grind),
    .alternative 3 ProtoUnit.schema.message (fun | .enrollment u => some u | _ => none)
      .enrollment (by grind),
    .alternative 4 ProtoUnit.schema.message (fun | .health u => some u | _ => none)
      .health (by grind),
    .alternative 5 ProtoUnit.schema.message (fun | .keyRotation u => some u | _ => none)
      .keyRotation (by grind),
    .alternative 6 ProtoUnit.schema.message (fun | .revocation u => some u | _ => none)
      .revocation (by grind),
    .alternative 7 ProtoUnit.schema.message (fun | .recovery u => some u | _ => none)
      .recovery (by grind)]

def ProtoAuthorizationScope.schema : Schema ProtoAuthorizationScope :=
  .oneof ProtoAuthorizationScope.mk (·.scope) (fun _ => rfl) (fun _ => rfl) ProtoScope.variants
    (by decide) (by decide) (by intro b; cases b <;> rfl)

structure ProtoAuditEnvelope where
  operationId : String := ""
  realm : List String := []
  principal : Option String := none
  node : String := ""
  workload : Option String := none
  stream : Option String := none
  execution : Option String := none
  scope : Option ProtoAuthorizationScope := none
  decision : Int32 := 0
  trace : Option ProtoTraceContext := none
  reason : Option Int32 := none
  correlationId : String := ""
deriving DecidableEq

def ProtoAuditEnvelope.schema : Schema ProtoAuditEnvelope :=
  .ofParts {}
    [.field 1 (.plain .string) (·.operationId) fun m v => { m with operationId := v },
      .field 2 (.repeated .string) (·.realm) fun m v => { m with realm := v },
      .field 3 (.optional .string) (·.principal) fun m v => { m with principal := v },
      .field 4 (.plain .string) (·.node) fun m v => { m with node := v },
      .field 5 (.optional .string) (·.workload) fun m v => { m with workload := v },
      .field 6 (.optional .string) (·.stream) fun m v => { m with stream := v },
      .field 7 (.optional .string) (·.execution) fun m v => { m with execution := v },
      .field 8 (.optional ProtoAuthorizationScope.schema.message) (·.scope)
        fun m v => { m with scope := v },
      .field 9 (.plain .int32) (·.decision) fun m v => { m with decision := v },
      .field 10 (.optional ProtoTraceContext.schema.message) (·.trace)
        fun m v => { m with trace := v },
      .field 11 (.optional .int32) (·.reason) fun m v => { m with reason := v },
      .field 12 (.plain .string) (·.correlationId) fun m v => { m with correlationId := v }]

/-! ## frames -/

inductive ProtoBody where
  | handshake (frame : ProtoHandshake)
  | operationRequest (frame : ProtoOperationRequest)
  | operationResponse (frame : ProtoOperationResponse)
  | streamOpen (frame : ProtoStreamOpen)
  | streamData (frame : ProtoStreamData)
  | streamClose (frame : ProtoStreamClose)
  | typedError (frame : ProtoError)
  | admissionAudit (frame : ProtoAuditEnvelope)
  | streamFlow (frame : ProtoStreamFlow)
  | handshakeAccepted (frame : ProtoHandshakeAccepted)
  | handshakeRejected (frame : ProtoHandshakeRejected)
  | streamResume (frame : ProtoStreamResume)
deriving DecidableEq

structure ProtoFrame where
  body : Option ProtoBody := none
deriving DecidableEq

def ProtoBody.variants : List (Variant ProtoBody) :=
  [.alternative 1 ProtoHandshake.schema.message
      (fun | .handshake f => some f | _ => none)
      .handshake (by grind),
    .alternative 2 ProtoOperationRequest.schema.message
      (fun | .operationRequest f => some f | _ => none)
      .operationRequest (by grind),
    .alternative 3 ProtoOperationResponse.schema.message
      (fun | .operationResponse f => some f | _ => none)
      .operationResponse (by grind),
    .alternative 4 ProtoStreamOpen.schema.message
      (fun | .streamOpen f => some f | _ => none)
      .streamOpen (by grind),
    .alternative 5 ProtoStreamData.schema.message
      (fun | .streamData f => some f | _ => none)
      .streamData (by grind),
    .alternative 6 ProtoStreamClose.schema.message
      (fun | .streamClose f => some f | _ => none)
      .streamClose (by grind),
    .alternative 7 ProtoError.schema.message
      (fun | .typedError f => some f | _ => none)
      .typedError (by grind),
    .alternative 8 ProtoAuditEnvelope.schema.message
      (fun | .admissionAudit f => some f | _ => none)
      .admissionAudit (by grind),
    .alternative 9 ProtoStreamFlow.schema.message
      (fun | .streamFlow f => some f | _ => none)
      .streamFlow (by grind),
    .alternative 10 ProtoHandshakeAccepted.schema.message
      (fun | .handshakeAccepted f => some f | _ => none)
      .handshakeAccepted (by grind),
    .alternative 11 ProtoHandshakeRejected.schema.message
      (fun | .handshakeRejected f => some f | _ => none)
      .handshakeRejected (by grind),
    .alternative 12 ProtoStreamResume.schema.message
      (fun | .streamResume f => some f | _ => none)
      .streamResume (by grind)]

def ProtoFrame.schema : Schema ProtoFrame :=
  .oneof ProtoFrame.mk (·.body) (fun _ => rfl) (fun _ => rfl) ProtoBody.variants
    (by decide) (by decide) (by intro b; cases b <;> rfl)

end D2b

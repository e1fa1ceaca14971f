import D2b.RealmCodecProtobuf.Tokens

/-!
# D2b.RealmCodecProtobuf.RoundTrip

Which frames survive the codec.  `Canonical` says what the decoders make of a
frame: everything they accept is canonical, and every canonical frame is
encoded and decoded to itself.  On bytes one more condition comes in, the
maximum size of a frame, which the encoder does not check.
-/

namespace D2b

open ConstellationFrame Fallible Protobuf ConstellationError ProtoFrame

attribute [local simp] bind_eq_ok pure Except.pure

/-! ## fields -/

@[simp] lemma parseId_asStr (id : Id k) (field : String) : parseId k id.asStr field = .ok id := by
  simp [parseId, Except.mapError]

@[simp] lemma parseId_asStr_optional (id : Option (Id k)) (field : String) :
    (id.map (·.asStr)).mapM (fun raw => parseId k raw field) = .ok id := by
  simpa using option_mapM_map_eq_ok (f := fun raw => parseId k raw field)
    (fun id => parseId_asStr id field) id

@[simp] lemma parseProtocolToken_asStr : parseProtocolToken token.asStr field = .ok token := by
  simp [parseProtocolToken, Except.mapError]

@[simp] lemma decodeRealm_encodeRealm (realm : RealmPath) (field : String) :
    decodeRealm (encodeRealm realm) field = .ok realm := by
  have hlabels := mapM_map_eq_ok (f := fun label => parseId .realm label field)
    (fun id => parseId_asStr id field) realm.labels
  rw [List.map_id'] at hlabels
  unfold decodeRealm encodeRealm
  rw [hlabels]
  exact okOr_eq_ok.mpr (RealmPath.new_eq_some.mpr rfl)

@[simp] lemma decodeTraceContext_encodeTraceContext (trace : Option TraceContext) :
    (trace.map encodeTraceContext).mapM decodeTraceContext = .ok trace := by
  have hone : ∀ trace, decodeTraceContext (encodeTraceContext trace) = .ok (id trace) := by
    simp [decodeTraceContext, encodeTraceContext]
  simpa using option_mapM_map_eq_ok hone trace

@[simp] lemma decodePayload_encodePayload :
    decodePayload (some (encodePayload payload)) field = .ok payload := by
  simp [decodePayload, encodePayload, bind, Except.bind]

lemma decodeCapabilityStrict_encode (c : Capability) :
    ∃ raw, encodeCapability c = .ok raw ∧ decodeCapabilityStrict raw = .ok c := by
  obtain ⟨raw, henc, hdec⟩ := decode_encodeCapability c
  exact ⟨raw, henc, okOr_eq_ok.mpr hdec⟩

/-! ## canonical frames -/

/-- An error that the wire can carry: a denial has the message its constructor
gives it, and any other error names no capability. -/
def ConstellationError.Canonical (e : ConstellationError) : Prop :=
  (e.kind = .capabilityDenied → ∀ c ∈ e.capability, e.message = boundMessage (deniedMessage c)) ∧
    (e.kind ≠ .capabilityDenied → e.capability = none)

/-- A frame as a decoder gives it. -/
def ConstellationFrame.Canonical : ConstellationFrame → Prop
  | handshake frame => frame.capabilities.Canonical
  | handshakeAccepted frame => frame.selected.capabilities.Canonical
  | operationRequest frame => frame.kind.isMutating = true → frame.idempotencyKey ≠ none
  | streamOpen frame => frame.isConsistent = true
  | streamFlow frame => frame.credits ≠ 0
  | typedError frame => frame.Canonical
  | admissionAudit frame => frame.decision = .deny
  | _ => True

/-! ## every canonical frame is encoded and decoded to itself -/

lemma handshake_roundTrip (h : frame.capabilities.Canonical) :
    ∃ p, encodeHandshake frame = .ok p ∧ decodeHandshake p = .ok frame := by
  obtain ⟨known, hknown⟩ := exists_mapM_eq_ok (f := encodeCapability)
    (fun c => (decode_encodeCapability c).imp fun _ => And.left)
    frame.capabilities.capabilities.iter
  have hpeer : (frame.peer.map encodePeerContext).mapM decodePeerContext = .ok frame.peer := by
    have hone : ∀ peer, decodePeerContext (encodePeerContext peer) = .ok (id peer) := by
      simp [decodePeerContext, encodePeerContext]
    simpa using option_mapM_map_eq_ok hone frame.peer
  have hnegotiation := decodeCapabilityNegotiation_wireRaws h hknown
  unfold wireRaws at hnegotiation
  simp only [encodeHandshake, hknown]
  refine ⟨_, rfl, ?_⟩
  simp [decodeHandshake, hnegotiation, hpeer]

lemma handshakeAccepted_roundTrip (h : frame.selected.capabilities.Canonical) :
    ∃ p, encodeHandshakeAccepted frame = .ok p ∧ decodeHandshakeAccepted p = .ok frame := by
  obtain ⟨p, henc, hdec⟩ := handshake_roundTrip h
  simp only [encodeHandshakeAccepted, henc]
  refine ⟨_, rfl, ?_⟩
  simp [decodeHandshakeAccepted, hdec]

lemma handshakeRejected_roundTrip (frame : HandshakeRejected) :
    ∃ p, encodeHandshakeRejected frame = .ok p ∧ decodeHandshakeRejected p = .ok frame := by
  obtain ⟨reason⟩ := frame
  cases reason <;> exact ⟨_, rfl, rfl⟩

lemma operationRequest_roundTrip
    (h : frame.kind.isMutating = true → frame.idempotencyKey ≠ none) :
    ∃ p, encodeOperationRequest frame = .ok p ∧ decodeOperationRequest p = .ok frame := by
  obtain ⟨raw, henc, hdec⟩ : ∃ raw, encodeOperationKind frame.kind = .ok raw ∧
      decodeOperationKind raw = .ok frame.kind := by
    cases frame.kind <;> exact ⟨_, rfl, rfl⟩
  simp only [encodeOperationRequest, henc]
  refine ⟨_, rfl, ?_⟩
  simpa [decodeOperationRequest, hdec,
    OperationRequest.requiresIdempotencyKey] using h

lemma operationResponse_roundTrip (frame : OperationResponse) :
    decodeOperationResponse (encodeOperationResponse frame) = .ok frame := by
  simp [decodeOperationResponse, encodeOperationResponse]

lemma streamOpen_roundTrip (h : frame.isConsistent = true) :
    ∃ p, encodeStreamOpen frame = .ok p ∧ decodeStreamOpen p = .ok frame := by
  obtain ⟨raw, hkind, hkind'⟩ : ∃ raw, encodeStreamKind frame.descriptor.kind = .ok raw ∧
      decodeStreamKind raw = .ok frame.descriptor.kind := by
    cases frame.descriptor.kind <;> exact ⟨_, rfl, rfl⟩
  obtain ⟨cap, hcap, hcap'⟩ := decodeCapabilityStrict_encode frame.authz.capability
  simp only [encodeStreamOpen, encodeStreamDescriptor, encodeStreamAuthz, hkind, hcap]
  refine ⟨_, rfl, ?_⟩
  simp [decodeStreamOpen, decodeStreamDescriptor, decodeStreamAuthz, hkind', hcap', h]

lemma streamData_roundTrip (frame : StreamData) :
    decodeStreamData (encodeStreamData frame) = .ok frame := by
  have hchannel : decodeStreamChannel (encodeStreamChannel frame.channel) = .ok frame.channel := by
    cases frame.channel <;> rfl
  simp [decodeStreamData, encodeStreamData, hchannel]

lemma streamFlow_roundTrip (h : frame.credits ≠ 0) :
    decodeStreamFlow (encodeStreamFlow frame) = .ok frame := by
  simp [decodeStreamFlow, encodeStreamFlow, h]

lemma streamClose_roundTrip (frame : StreamClose) :
    decodeStreamClose (encodeStreamClose frame) = .ok frame := by
  have hreason : decodeCloseReason (encodeCloseReason frame.reason) = .ok frame.reason := by
    cases frame.reason <;> rfl
  simp [decodeStreamClose, encodeStreamClose, hreason]

lemma streamResume_roundTrip (frame : StreamResume) :
    decodeStreamResume (encodeStreamResume frame) = .ok frame := by
  simp [decodeStreamResume, encodeStreamResume]

lemma errorKind_roundTrip (kind : ErrorKind) :
    ∃ raw, encodeErrorKind kind = .ok raw ∧ decodeErrorKind raw = .ok kind := by
  cases kind <;> exact ⟨_, rfl, rfl⟩

lemma capability_roundTrip_optional (c : Option Capability) :
    ∃ raw, c.mapM encodeCapability = .ok raw ∧ raw.mapM decodeCapabilityStrict = .ok c := by
  cases c with
  | none => exact ⟨none, rfl, rfl⟩
  | some c =>
    obtain ⟨raw, henc, hdec⟩ := decodeCapabilityStrict_encode c
    exact ⟨some raw, by simp [henc], by simp [hdec]⟩

/-- An error without a correlation id gets the one of the error it was built from. -/
lemma attachCorrelationId_asStr (hnone : decoded.correlationId = none)
    (hkind : decoded.kind = e.kind) (hcap : decoded.capability = e.capability)
    (hfingerprint : decoded.negotiatedCapabilityFingerprint = e.negotiatedCapabilityFingerprint)
    (hmessage : decoded.message = e.message) :
    attachCorrelationId decoded (e.correlationId.map (·.asStr)) = .ok e := by
  cases hid : e.correlationId with
  | none =>
    have hsame : decoded = e :=
      ConstellationError.ext hkind (hnone.trans hid.symm) hcap hfingerprint hmessage
    exact congrArg Except.ok hsame
  | some id =>
    have hsame : decoded.withCorrelationId id = e :=
      ConstellationError.ext hkind hid.symm hcap hfingerprint hmessage
    simp [attachCorrelationId, hsame]

lemma boundFingerprint_of_error (e : ConstellationError) :
    e.negotiatedCapabilityFingerprint.map boundFingerprint = e.negotiatedCapabilityFingerprint := by
  cases hf : e.negotiatedCapabilityFingerprint with
  | none => rfl
  | some f =>
    have hbounded := e.fingerprintBounded f hf
    simp [boundFingerprint, Text.truncate_of_le hbounded]

lemma boundMessage_of_error (e : ConstellationError) : boundMessage e.message = e.message :=
  Text.truncate_of_le e.messageBounded

lemma error_roundTrip (h : e.Canonical) : ∃ p, encodeError e = .ok p ∧ decodeError p = .ok e := by
  obtain ⟨raw, hkind, hkind'⟩ := errorKind_roundTrip e.kind
  obtain ⟨caps, hcap, hcap'⟩ := capability_roundTrip_optional e.capability
  simp only [encodeError, hkind, hcap]
  refine ⟨_, rfl, ?_⟩
  by_cases hdenied : e.kind = .capabilityDenied
  · obtain ⟨c, hc⟩ := Option.ne_none_iff_exists'.mp (e.denied hdenied)
    have hattach : attachCorrelationId (.capabilityDeniedWithFingerprint c
        e.negotiatedCapabilityFingerprint) (e.correlationId.map (·.asStr)) = .ok e :=
      attachCorrelationId_asStr rfl hdenied.symm hc.symm (boundFingerprint_of_error e)
        (h.1 hdenied c hc).symm
    simp [decodeError, hkind', hcap', hdenied, hc, hattach]
  · have hfingerprint : e.negotiatedCapabilityFingerprint = none :=
      not_not.mp fun hf => hdenied (e.fingerprinted hf)
    have hattach : attachCorrelationId (.new e.kind e.message)
        (e.correlationId.map (·.asStr)) = .ok e :=
      attachCorrelationId_asStr rfl (if_neg hdenied) (h.2 hdenied).symm hfingerprint.symm
        (boundMessage_of_error e)
    simp [decodeError, hkind', hcap', hdenied, h.2 hdenied, hfingerprint, hattach]

lemma authorizationScope_roundTrip (scope : AuthorizationScope) :
    ∃ p, encodeAuthorizationScope scope = .ok p ∧ decodeAuthorizationScope p = .ok scope := by
  cases scope with
  | capability c =>
    obtain ⟨raw, henc, hdec⟩ := decodeCapabilityStrict_encode c
    simp only [encodeAuthorizationScope, henc]
    refine ⟨_, rfl, ?_⟩
    simp [decodeAuthorizationScope, hdec]
  | nodeControl | enrollment | keyRotation | revocation | recovery | health => exact ⟨_, rfl, rfl⟩

lemma admissionAudit_roundTrip (h : audit.decision = .deny) :
    ∃ p, encodeAdmissionAudit audit = .ok p ∧ decodeAdmissionAudit p = .ok audit := by
  obtain ⟨scope, hscope, hscope'⟩ := authorizationScope_roundTrip audit.scope
  obtain ⟨reason, hreason, hreason'⟩ := errorKind_roundTrip audit.reason
  have hdecision : decodeAuthzDecision (encodeAuthzDecision audit.decision) =
      .ok audit.decision := by
    cases audit.decision <;> rfl
  have hdenial : decide (audit.decision = .deny) = true := decide_eq_true h
  simp only [encodeAdmissionAudit, hscope, hreason]
  refine ⟨_, rfl, ?_⟩
  simp [decodeAdmissionAudit, hscope', hreason', hdecision, hdenial,
    AdmissionAuditRecord.isAdmissionDenial, -decide_eq_true_eq]

/-- A frame with a body that is encoded and decoded to itself. -/
lemma body_roundTrip {enc : Except ConstellationError π} {dec : π → Except ConstellationError φ}
    {body : π → ProtoBody} {wrap : φ → ConstellationFrame}
    (h : ∃ p, enc = .ok p ∧ dec p = .ok frame)
    (henc : encodeProtoFrame (wrap frame) = do return { body := some (← enc.map body) })
    (hdec : ∀ p, decodeProtoFrame ⟨some (body p)⟩ = (dec p).map wrap) :
    ∃ p, encodeProtoFrame (wrap frame) = .ok p ∧ decodeProtoFrame p = .ok (wrap frame) := by
  obtain ⟨p, hp, hframe⟩ := h
  refine ⟨⟨some (body p)⟩, ?_, ?_⟩
  · rw [henc, hp]
    rfl
  · rw [hdec, hframe]
    rfl

/-- A canonical frame is encoded and decoded to itself. -/
lemma protoFrame_roundTrip {frame : ConstellationFrame} (h : frame.Canonical) :
    ∃ p, encodeProtoFrame frame = .ok p ∧ decodeProtoFrame p = .ok frame := by
  cases frame with
  | handshake => exact body_roundTrip (handshake_roundTrip h) rfl fun _ => rfl
  | handshakeAccepted => exact body_roundTrip (handshakeAccepted_roundTrip h) rfl fun _ => rfl
  | handshakeRejected frame =>
    exact body_roundTrip (handshakeRejected_roundTrip frame) rfl fun _ => rfl
  | operationRequest => exact body_roundTrip (operationRequest_roundTrip h) rfl fun _ => rfl
  | operationResponse frame =>
    exact body_roundTrip ⟨_, rfl, operationResponse_roundTrip frame⟩ rfl fun _ => rfl
  | streamOpen => exact body_roundTrip (streamOpen_roundTrip h) rfl fun _ => rfl
  | streamData frame => exact body_roundTrip ⟨_, rfl, streamData_roundTrip frame⟩ rfl fun _ => rfl
  | streamFlow => exact body_roundTrip ⟨_, rfl, streamFlow_roundTrip h⟩ rfl fun _ => rfl
  | streamClose frame => exact body_roundTrip ⟨_, rfl, streamClose_roundTrip frame⟩ rfl fun _ => rfl
  | streamResume frame =>
    exact body_roundTrip ⟨_, rfl, streamResume_roundTrip frame⟩ rfl fun _ => rfl
  | typedError => exact body_roundTrip (error_roundTrip h) rfl fun _ => rfl
  | admissionAudit => exact body_roundTrip (admissionAudit_roundTrip h) rfl fun _ => rfl

/-! ## what is decoded is canonical -/

lemma handshake_canonical (h : decodeHandshake p = .ok frame) : frame.capabilities.Canonical := by
  simp only [decodeHandshake, bind_eq_ok] at h
  obtain ⟨_, -, _, -, _, -, n, hn, _, -, hframe⟩ := h
  cases hframe
  exact decodeCapabilityNegotiation_canonical hn

lemma handshakeAccepted_canonical (h : decodeHandshakeAccepted p = .ok frame) :
    frame.selected.capabilities.Canonical := by
  simp only [decodeHandshakeAccepted, bind_eq_ok] at h
  obtain ⟨_, -, selected, hselected, hframe⟩ := h
  cases hframe
  exact handshake_canonical hselected

lemma operationRequest_canonical (h : decodeOperationRequest p = .ok frame) :
    frame.kind.isMutating = true → frame.idempotencyKey ≠ none := by
  simp only [decodeOperationRequest, bind_eq_ok, failIf_eq_ok] at h
  obtain ⟨_, -, _, -, _, -, _, -, _, -, _, -, _, -, _, -, _, -, _, -, _, hkey, hframe⟩ := h
  cases hframe
  simpa [OperationRequest.requiresIdempotencyKey] using hkey

lemma streamOpen_canonical (h : decodeStreamOpen p = .ok frame) : frame.isConsistent = true := by
  simp only [decodeStreamOpen, bind_eq_ok] at h
  obtain ⟨_, -, _, -, _, -, _, -, _, -, hframe⟩ := h
  split at hframe
  · next hconsistent =>
      cases hframe
      exact hconsistent
  · contradiction

lemma streamFlow_canonical (h : decodeStreamFlow p = .ok frame) : frame.credits ≠ 0 := by
  simp only [decodeStreamFlow, bind_eq_ok, failIf_eq_ok] at h
  obtain ⟨_, hcredits, _, -, hframe⟩ := h
  cases hframe
  exact hcredits

lemma admissionAudit_canonical (h : decodeAdmissionAudit p = .ok audit) :
    audit.decision = .deny := by
  simp only [decodeAdmissionAudit, bind_eq_ok] at h
  obtain ⟨_, -, _, -, _, -, _, -, _, -, _, -, _, -, _, -, _, -, _, -, _, -, _, -, haudit⟩ := h
  split at haudit
  · next hdenial =>
      cases haudit
      simpa [AdmissionAuditRecord.isAdmissionDenial] using hdenial
  · contradiction

/-- Attaching a correlation id changes nothing else. -/
lemma attachCorrelationId_eq_ok (h : attachCorrelationId decoded raw = .ok e) :
    e.kind = decoded.kind ∧ e.capability = decoded.capability ∧ e.message = decoded.message := by
  cases raw with
  | none => cases h; exact ⟨rfl, rfl, rfl⟩
  | some raw =>
    simp only [attachCorrelationId, bind_eq_ok] at h
    obtain ⟨id, -, he⟩ := h
    cases he
    exact ⟨rfl, rfl, rfl⟩

lemma error_canonical (h : decodeError p = .ok e) : e.Canonical := by
  simp only [decodeError, bind_eq_ok] at h
  obtain ⟨kind, -, capability, -, message, -, h⟩ := h
  split at h
  · simp only [bind_eq_ok, failIf_eq_ok] at h
    obtain ⟨c, -, decoded, hattach, _, -, he⟩ := h
    cases he
    obtain ⟨hkind, hcap, hmessage⟩ := attachCorrelationId_eq_ok hattach
    refine ⟨fun _ d hd => ?_, fun hne => absurd hkind hne⟩
    rw [hcap] at hd
    cases hd
    exact hmessage
  · split at h
    · contradiction
    · obtain ⟨hkind, hcap, -⟩ := attachCorrelationId_eq_ok h
      refine ⟨fun hdenied => ?_, fun _ => hcap⟩
      rw [hkind] at hdenied
      exact absurd hdenied (newKind_ne _)

/-- What a decoder accepts is canonical. -/
lemma protoFrame_canonical {p : ProtoFrame} (h : decodeProtoFrame p = .ok frame) :
    frame.Canonical := by
  simp only [decodeProtoFrame, bind_eq_ok] at h
  obtain ⟨body, -, h⟩ := h
  cases body <;> obtain ⟨frame, hdec, rfl⟩ := map_eq_ok.mp h
  case handshake => exact handshake_canonical hdec
  case handshakeAccepted => exact handshakeAccepted_canonical hdec
  case operationRequest => exact operationRequest_canonical hdec
  case streamOpen => exact streamOpen_canonical hdec
  case streamFlow => exact streamFlow_canonical hdec
  case typedError => exact error_canonical hdec
  case admissionAudit => exact admissionAudit_canonical hdec
  case operationResponse | streamData | streamClose | handshakeRejected | streamResume => trivial

/-- The codec is canonical: what the decoder accepts is encoded, and the result
is decoded to the same frame. -/
theorem decodeProtoFrame_canonicalises {p : ProtoFrame} {frame : ConstellationFrame}
    (h : decodeProtoFrame p = .ok frame) :
    ∃ q, encodeProtoFrame frame = .ok q ∧ decodeProtoFrame q = .ok frame :=
  protoFrame_roundTrip (protoFrame_canonical h)

/-- A handshake with a known and an unknown capability number, out of order. -/
def handshakeOnWire : ProtoFrame :=
  { body := some (.handshake
      { protocolVersion := some 1, codecId := "protobuf.v1", schemaFingerprint := "pb.v1:f12",
        capabilities := [99, 2, 99], capabilitySchemaVersion := 1,
        capabilityFingerprint := "cap-v1-peer" }) }

theorem decodeProtoFrame_canonicalises_handshake :
    ∃ frame, decodeProtoFrame handshakeOnWire = .ok frame ∧
      ∃ q, encodeProtoFrame frame = .ok q ∧ decodeProtoFrame q = .ok frame := by
  have hok : (decodeProtoFrame handshakeOnWire).isOk = true := by decide +kernel
  cases h : decodeProtoFrame handshakeOnWire with
  | error e => simp [h, Except.isOk, Except.toBool] at hok
  | ok frame => exact ⟨frame, rfl, decodeProtoFrame_canonicalises h⟩

/-! ## frames on bytes -/

/-- What the wire asks of a frame beyond the checks of the semantic decoders. -/
def ConstellationFrame.Representable : ConstellationFrame → Prop
  | handshake frame => frame.capabilities.Canonical
  | handshakeAccepted frame => frame.selected.capabilities.Canonical
  | typedError frame => frame.Canonical
  | _ => True

lemma ConstellationFrame.Canonical.representable {frame : ConstellationFrame}
    (h : frame.Canonical) : frame.Representable := by
  cases frame with
  | handshake _ | handshakeAccepted _ | typedError _ => exact h
  | _ => trivial

lemma ConstellationFrame.Representable.canonical {frame : ConstellationFrame}
    (h : frame.Representable) (hdecodable : frame.Decodable) : frame.Canonical := by
  cases frame with
  | handshake _ | handshakeAccepted _ | typedError _ => exact h
  | operationRequest _ | streamOpen _ | streamFlow _ | admissionAudit _ => exact hdecodable
  | _ => trivial

/-- Every handshake is encoded, canonical or not. -/
lemma exists_encodeHandshake (frame : Handshake) : ∃ p, encodeHandshake frame = .ok p := by
  obtain ⟨known, hknown⟩ := exists_mapM_eq_ok (f := encodeCapability)
    (fun c => (decode_encodeCapability c).imp fun _ => And.left)
    frame.capabilities.capabilities.iter
  exact ⟨_, by simp only [encodeHandshake, hknown]; rfl⟩

/-- Every frame is encoded. -/
lemma exists_encodeProtoFrame (frame : ConstellationFrame) :
    ∃ p, encodeProtoFrame frame = .ok p := by
  cases frame with
  | handshake frame =>
    obtain ⟨p, henc⟩ := exists_encodeHandshake frame
    exact ⟨_, by simp only [encodeProtoFrame, henc]; rfl⟩
  | handshakeAccepted frame =>
    obtain ⟨p, henc⟩ := exists_encodeHandshake frame.selected
    exact ⟨_, by simp only [encodeProtoFrame, encodeHandshakeAccepted, henc]; rfl⟩
  | typedError frame =>
    obtain ⟨raw, hcap, -⟩ := capability_roundTrip_optional frame.capability
    obtain ⟨kind, hkind, -⟩ := errorKind_roundTrip frame.kind
    exact ⟨_, by simp only [encodeProtoFrame, encodeError, hcap, hkind]; rfl⟩
  | admissionAudit frame =>
    obtain ⟨scope, hscope, -⟩ := authorizationScope_roundTrip frame.scope
    obtain ⟨reason, hreason, -⟩ := errorKind_roundTrip frame.reason
    exact ⟨_, by simp only [encodeProtoFrame, encodeAdmissionAudit, hscope, hreason]; rfl⟩
  | _ => exact ⟨_, rfl⟩

lemma decodeFrame_encode {p : ProtoFrame}
    (hlen : (schema.encode p).length ≤ maxFrameSize) :
    decodeFrame (schema.encode p) = decodeProtoFrame p := by
  have hdecode := schema.decode_encode (m := p) (Nat.lt_of_le_of_lt hlen (by decide))
  unfold decodeFrame
  rw [failIf_of_not (Nat.not_lt.mpr hlen), hdecode]
  rfl

def grantFrame : ConstellationFrame := .streamFlow ⟨⟨"granted-stream", by decide⟩, 3⟩

lemma length_lt_encodePayload (h : payload.bytes ≠ []) :
    payload.bytes.length < (ProtoPayload.schema.encode (encodePayload payload)).length := by
  refine length_lt_encode (t := 1) ?_
  simp [ProtoPayload.schema, Schema.ofParts, Part.fields, FieldCodec.plain, encodePayload,
    ValueCodec.bytes, h]

lemma length_lt_encodeStreamData (frame : StreamData) :
    (ProtoPayload.schema.encode (encodePayload frame.data)).length <
      (ProtoStreamData.schema.encode (encodeStreamData frame)).length := by
  refine length_lt_encode (t := 2) ?_
  simp [ProtoStreamData.schema, Schema.ofParts, Part.fields, FieldCodec.optional, encodeStreamData,
    Schema.message]

lemma length_lt_encodeFrame (p : ProtoStreamData) :
    (ProtoStreamData.schema.encode p).length < (schema.encode ⟨some (.streamData p)⟩).length :=
  length_lt_encode (t := 5) List.mem_cons_self

lemma decodeFrame_too_large (h : bytes.length > maxFrameSize) :
    ∃ e, decodeFrame bytes = .error e ∧ e.kind = .frameTooLarge := by
  unfold decodeFrame failIf
  rw [if_pos h]
  exact ⟨_, rfl, rfl⟩

/-- A chunk with a payload at its bound is encoded, and refused as too large. -/
lemma decodeFrame_full_payload (hfull : frame.data.bytes.length = maxPayloadLen) :
    ∃ bytes, encodeFrame (.streamData frame) = .ok bytes ∧
      ∃ e, decodeFrame bytes = .error e ∧ e.kind = .frameTooLarge := by
  have hne : frame.data.bytes ≠ [] := by
    intro hnil
    rw [hnil] at hfull
    exact absurd hfull (by decide)
  have hpayload := length_lt_encodePayload hne
  have hchunk := length_lt_encodeStreamData frame
  have hframe := length_lt_encodeFrame (encodeStreamData frame)
  have hmax : maxFrameSize = maxPayloadLen := by decide
  exact ⟨_, rfl, decodeFrame_too_large (by omega)⟩

/-- A frame that is not representable is not decoded to itself. -/
lemma decodeFrame_ne_of_not_representable {frame : ConstellationFrame}
    (h : ¬frame.Representable) :
    ∃ bytes, encodeFrame frame = .ok bytes ∧ decodeFrame bytes ≠ .ok frame := by
  obtain ⟨p, henc⟩ := exists_encodeProtoFrame frame
  refine ⟨schema.encode p, by simp only [encodeFrame, henc]; rfl, ?_⟩
  intro hdec
  simp only [decodeFrame, bind_eq_ok, failIf_eq_ok] at hdec
  obtain ⟨_, -, q, -, hframe⟩ := hdec
  exact h (protoFrame_canonical hframe).representable

/-- A chunk with a payload of the maximum length. -/
def fullChunk : StreamData :=
  { stream := ⟨"full-stream", by decide⟩, sequence := 0, channel := .primary, cursor := none,
    data := ⟨List.replicate maxPayloadLen 0, by simp⟩ }

/-- A capability that a newer peer advertises. -/
def futureCapability : ProtocolToken := ⟨"future-capability", by decide⟩

/-- A handshake that advertises it. -/
def futureHandshake : Handshake :=
  { protocolVersion := 1, codecId := ⟨"protobuf.v1", by decide⟩,
    schemaFingerprint := ⟨"pb.v1", by decide⟩,
    capabilities := CapabilitySet.negotiation ⟨∅, {futureCapability}⟩, peer := none }

def explainedDenial : ConstellationError :=
  { capabilityDenied .exec with
    message := "exec is switched off", messageBounded := by decide }

lemma futureHandshake_decodable : (handshake futureHandshake).Decodable := by
  refine ⟨by decide, ?_, ?_⟩
  · intro t ht
    rw [Finset.mem_singleton.mp ht]
    decide
  · obtain ⟨token, -, htoken⟩ := parse_stableFingerprint ⟨∅, {futureCapability}⟩
    exact ⟨token, htoken⟩

lemma futureHandshake_not_representable : ¬(handshake futureHandshake).Representable := by
  rintro ⟨-, -, hunknown⟩
  obtain ⟨raw, -, htext⟩ := hunknown futureCapability (Finset.mem_singleton_self _)
  have hchars := congrArg String.toList htext
  rw [String.toList_append] at hchars
  have hfirst := congrArg List.head? hchars
  exact absurd hfirst (by simp [futureCapability, unknownPrefix])

lemma explainedDenial_not_representable : ¬(typedError explainedDenial).Representable := by
  intro h
  exact absurd (h.1 rfl .exec rfl) (by decide)

end D2b

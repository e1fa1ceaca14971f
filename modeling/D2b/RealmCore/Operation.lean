import D2b.RealmCore.Frame

/-!
# D2b.RealmCore.Operation

The operation request envelope (`frame.rs`) with its opaque payload
(`payload.rs`): what routing derives from the kind of an operation, and the
bytes that identify a request for deduplication.
-/

namespace D2b

/-! ## payloads -/

def maxPayloadLen : Nat := 2 ^ 20

structure OpaquePayload where
  bytes : List UInt8
  bounded : bytes.length ≤ maxPayloadLen
deriving DecidableEq

namespace OpaquePayload

/-- Build a payload; longer ones are refused. -/
def new (bytes : List UInt8) : Option OpaquePayload :=
  if h : bytes.length ≤ maxPayloadLen then some ⟨bytes, h⟩ else none

lemma bytes_injective : Function.Injective bytes := by
  rintro ⟨a, ha⟩ ⟨b, hb⟩ (rfl : a = b)
  rfl

@[simp] lemma new_bytes : new payload.bytes = some payload := dif_pos payload.bounded

end OpaquePayload

/-! ## what a kind entails -/

inductive AuthorizationScope where
  | capability (capability : Capability)
  | nodeControl | enrollment | keyRotation | revocation | recovery | health
deriving DecidableEq

inductive StreamKind where
  | control | pty | shellPty | stdio | logs | fileCopy | portForward | display | clipboard
  | audioPlayback | audioCapture | deviceHid | deviceUsb
deriving DecidableEq

namespace OperationKind

/-- The name of a kind as `Debug` prints it. -/
def debugName : OperationKind → String
  | nodeRegister => "NodeRegister"
  | nodeHeartbeat => "NodeHeartbeat"
  | nodeCapabilities => "NodeCapabilities"
  | workloadList => "WorkloadList"
  | workloadStart => "WorkloadStart"
  | workloadStop => "WorkloadStop"
  | guestHealth => "GuestHealth"
  | execStart => "ExecStart"
  | execAttach => "ExecAttach"
  | execLogs => "ExecLogs"
  | execCancel => "ExecCancel"
  | shellList => "ShellList"
  | shellAttach => "ShellAttach"
  | shellDetach => "ShellDetach"
  | shellKill => "ShellKill"
  | fileCopyStart => "FileCopyStart"
  | portForwardOpen => "PortForwardOpen"
  | displaySessionOpen => "DisplaySessionOpen"

lemma ctorIdx_injective : Function.Injective OperationKind.ctorIdx := by
  intro a b h
  cases a <;> cases b <;> first | rfl | contradiction

/-- Kinds are ordered, so that they can be part of a map key. -/
instance : LinearOrder OperationKind := LinearOrder.lift' OperationKind.ctorIdx ctorIdx_injective

def authorizationScope (kind : OperationKind) : AuthorizationScope :=
  match kind with
  | nodeRegister => .enrollment
  | nodeHeartbeat | nodeCapabilities => .nodeControl
  | guestHealth => .health
  | _ => match kind.requiredCapability with
    | some capability => .capability capability
    | none => .nodeControl

/-- Whether this operation must address a workload before dispatch. -/
def requiresWorkload : OperationKind → Bool
  | nodeRegister | nodeHeartbeat | nodeCapabilities | workloadList => false
  | _ => true

/-- Stream families this operation kind may authorize. -/
def allowedStreamKinds : OperationKind → List StreamKind
  | execStart | execAttach => [.stdio, .pty]
  | execLogs => [.logs]
  | shellAttach => [.shellPty]
  | fileCopyStart => [.fileCopy]
  | portForwardOpen => [.portForward]
  | displaySessionOpen => [.display]
  | _ => []

end OperationKind

/-! ## requests -/

structure OperationRequest where
  operationId : OperationId
  correlationId : CorrelationId
  idempotencyKey : Option IdempotencyKey
  realm : RealmPath
  node : NodeId
  workload : Option WorkloadId
  principal : PrincipalId
  kind : OperationKind
  trace : Option TraceContext
  body : OpaquePayload
deriving DecidableEq

namespace OperationRequest

/-- `str::as_bytes`. -/
def textBytes (s : String) : List UInt8 := s.toUTF8.data.toList

/-- `u64::to_le_bytes` of a length. -/
def lengthBytes (n : Nat) : List UInt8 := (List.range 8).map fun i => UInt8.ofNat (n / 256 ^ i)

/-- One labelled, length-prefixed field of the fingerprint. -/
def fingerprintField (label : String) (value : List UInt8) : List UInt8 :=
  textBytes label ++ textBytes "=" ++ lengthBytes value.length ++ value ++ textBytes "\n"

/-- The bytes that tell a retry from a different request under the same key. -/
def dedupFingerprintInput (req : OperationRequest) : List UInt8 :=
  fingerprintField "kind" (textBytes req.kind.debugName)
    ++ fingerprintField "realm" (textBytes req.realm.targetForm)
    ++ fingerprintField "node" (textBytes req.node.asStr)
    ++ fingerprintField "workload" (textBytes ((req.workload.map (·.asStr)).getD ""))
    ++ fingerprintField "principal" (textBytes req.principal.asStr)
    ++ fingerprintField "body" req.body.bytes

end OperationRequest

end D2b

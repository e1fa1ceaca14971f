import D2b.RealmCore.Capability
import D2b.RealmCore.Realm

/-!
# D2b.RealmCore.Frame

Operation kinds (`frame.rs`) with the facts the routing layer derives from
them: whether a kind mutates, and the capability it requires.  The bounded
trace context (`trace_context.rs`) that decisions carry along is here as
well.
-/

namespace D2b

inductive OperationKind where
  | nodeRegister | nodeHeartbeat | nodeCapabilities
  | workloadList | workloadStart | workloadStop
  | guestHealth
  | execStart | execAttach | execLogs | execCancel
  | shellList | shellAttach | shellDetach | shellKill
  | fileCopyStart | portForwardOpen | displaySessionOpen
deriving DecidableEq

namespace OperationKind

/-- Whether this kind mutates state and so needs an idempotency key. -/
def isMutating : OperationKind → Bool
  | workloadStart | workloadStop | execStart | execAttach | execCancel
  | shellAttach | shellDetach | shellKill
  | fileCopyStart | portForwardOpen | displaySessionOpen | nodeRegister => true
  | _ => false

/-- The capability the authorization layer requires for this kind. -/
def requiredCapability : OperationKind → Option Capability
  | nodeRegister | nodeHeartbeat | nodeCapabilities | guestHealth => none
  | workloadList | workloadStart | workloadStop => some .lifecycle
  | execStart | execAttach | execCancel => some .exec
  | execLogs => some .logs
  | shellList | shellAttach | shellDetach | shellKill => some .persistentShell
  | fileCopyStart => some .fileCopy
  | portForwardOpen => some .portForward
  | displaySessionOpen => some .windowForwarding

end OperationKind

/-- Maximum length of a trace or span id token. -/
def maxTraceFieldLen : Nat := 64

/-- `TraceContext::valid_field`. -/
def validTraceField (s : String) : Bool :=
  !s.isEmpty && decide (s.utf8ByteSize ≤ maxTraceFieldLen) &&
    s.toList.all fun c => isAsciiGraphic c && c != ' '

structure TraceContext where
  traceId : String
  spanId : String
  valid : validTraceField traceId = true ∧ validTraceField spanId = true
deriving DecidableEq

namespace TraceContext

/-- Validate and construct; malformed fields are refused. -/
def new (traceId spanId : String) : Option TraceContext :=
  if h : validTraceField traceId = true ∧ validTraceField spanId = true then
    some ⟨traceId, spanId, h⟩
  else none

@[simp] lemma new_fields : new trace.traceId trace.spanId = some trace := dif_pos trace.valid

end TraceContext

end D2b

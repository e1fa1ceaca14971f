import D2b.RealmCore.Operation

/-!
# D2b.RealmCore.Stream

Named streams (`stream.rs`) and the frames about them (`frame.rs`): a stream
is opened with an authorization context, carries numbered data against
granted credit, and is closed with a reason.
-/

namespace D2b

/-- The capability a peer must advertise to open a stream of this kind. -/
def StreamKind.requiredCapability : StreamKind → Capability
  | control => .lifecycle
  | pty => .pty
  | shellPty => .persistentShell
  | stdio => .exec
  | logs => .logs
  | fileCopy => .fileCopy
  | portForward => .portForward
  | display => .windowForwarding
  | clipboard => .clipboard
  | audioPlayback => .audioPlayback
  | audioCapture => .audioCapture
  | deviceHid => .hid
  | deviceUsb => .usb

structure StreamDescriptor where
  id : StreamId
  kind : StreamKind
deriving DecidableEq

/-- The logical sub-channel of a chunk. -/
inductive StreamChannel where
  | primary | stdout | stderr
deriving DecidableEq

inductive StreamCloseReason where
  | completed | cancelled | timedOut | errored | peerGone
deriving DecidableEq

structure StreamAuthz where
  principal : PrincipalId
  realm : RealmPath
  capability : Capability
deriving DecidableEq

namespace StreamAuthz

/-- The context whose capability is the one the kind requires. -/
def forKind (principal : PrincipalId) (realm : RealmPath) (kind : StreamKind) : StreamAuthz :=
  ⟨principal, realm, kind.requiredCapability⟩

/-- True iff the capability is the one the kind requires. -/
def matchesKind (authz : StreamAuthz) (kind : StreamKind) : Bool :=
  decide (authz.capability = kind.requiredCapability)

end StreamAuthz

/-! ## frames -/

/-- Opens a stream under an authorizing operation. -/
structure StreamOpen where
  descriptor : StreamDescriptor
  operationId : OperationId
  authz : StreamAuthz
deriving DecidableEq

/-- True iff the authorized capability matches the kind. -/
def StreamOpen.isConsistent (opening : StreamOpen) : Bool :=
  opening.authz.matchesKind opening.descriptor.kind

structure StreamData where
  stream : StreamId
  sequence : UInt64
  channel : StreamChannel
  cursor : Option StreamCursor
  data : OpaquePayload
deriving DecidableEq

/-- A credit grant for a stream, in frames. -/
structure StreamFlow where
  stream : StreamId
  credits : UInt32
deriving DecidableEq

structure StreamClose where
  stream : StreamId
  reason : StreamCloseReason
deriving DecidableEq

/-- Asks to resume a durable stream from a cursor. -/
structure StreamResume where
  stream : StreamId
  cursor : StreamCursor
deriving DecidableEq

end D2b

import D2b.Lib.BTreeMap
import D2b.Lib.Command
import D2b.RealmCore.Error
import D2b.RealmCore.Stream

/-!
# D2b.RealmCore.Mux

The stream mux (`mux.rs`): one endpoint's view of the streams of a peer
session.  A stream is opened before data flows on it, chunks come strictly in
sequence, and each chunk spends a credit that its receiver granted.  Closed
records are kept up to a cap, so that a late frame for a closed stream is told
from one for an unknown stream.
-/

namespace D2b

open Command

inductive StreamState where
  | opened | closed
deriving DecidableEq

/-- What the mux keeps of a stream: the receiving and the sending half. -/
structure StreamEntry where
  kind : StreamKind
  operationId : OperationId
  state : StreamState
  closeReason : Option StreamCloseReason
  expectedSeq : UInt64
  recvCredit : UInt64
  nextSendSeq : UInt64
  sendCredit : UInt64
deriving DecidableEq

structure StreamMux where
  streams : BTreeMap StreamId StreamEntry
  openStreams : Finset StreamId
  sendableStreams : Finset StreamId
  closedOrder : List StreamId
  maxOpen : Nat
  maxClosed : Nat

/-- `u64::saturating_add`. -/
def saturatingAdd (a b : UInt64) : UInt64 := if a + b < a then UInt64.ofNat (2 ^ 64 - 1) else a + b

lemma toNat_saturatingAdd (a b : UInt64) :
    (saturatingAdd a b).toNat = min (a.toNat + b.toNat) (2 ^ 64 - 1) := by
  have ha := a.toNat_lt
  have hb := b.toNat_lt
  unfold saturatingAdd
  by_cases hwrap : a + b < a
  · rw [if_pos hwrap]
    rw [UInt64.lt_iff_toNat_lt, UInt64.toNat_add] at hwrap
    have hmax : (UInt64.ofNat (2 ^ 64 - 1)).toNat = 2 ^ 64 - 1 := rfl
    omega
  · rw [if_neg hwrap, UInt64.toNat_add]
    rw [UInt64.lt_iff_toNat_lt, UInt64.toNat_add] at hwrap
    omega

def channelValidForKind (kind : StreamKind) (channel : StreamChannel) : Bool :=
  match kind with
  | .stdio => channel == .stdout || channel == .stderr
  | _ => channel == .primary

namespace StreamMux

/-- A mux with explicit caps, at least one each. -/
def withLimits (maxOpen maxClosed : Nat) : StreamMux where
  streams := ∅
  openStreams := ∅
  sendableStreams := ∅
  closedOrder := []
  maxOpen := max maxOpen 1
  maxClosed := max maxClosed 1

variable (mux : StreamMux)

def openStreamCount : Nat := mux.openStreams.card

/-- The entry of an open stream; closed and unknown streams are told apart. -/
def openEntry (stream : StreamId) : Except ConstellationError StreamEntry :=
  match mux.streams[stream]? with
  | some entry =>
    if entry.state = .opened then .ok entry else .error (.new .cancelled "stream is closed")
  | none => .error (.new .malformedFrame "reference to an unknown stream")

def setEntry (stream : StreamId) (entry : StreamEntry) : StreamMux :=
  { mux with streams := mux.streams.insert stream entry }

/-! ## opening and credit -/

/-- Register a stream after checking the negotiated capabilities. -/
def openWithCapabilities (opening : StreamOpen) (capabilities : CapabilitySet) :
    Command ConstellationError StreamMux Unit := do
  failIf (opening.isConsistent = false)
    (.new .unauthorized "stream open authz capability does not match the descriptor kind")
  failIf (capabilities.has opening.authz.capability = false)
    (.capabilityDenied opening.authz.capability)
  let mux ← get
  failIf (mux.streams.contains opening.descriptor.id)
    (.new .malformedFrame "stream id is already open")
  failIf (mux.openStreamCount ≥ mux.maxOpen)
    (.new .backpressure "peer session exceeds the open-stream cap")
  modify fun mux =>
    { mux.setEntry opening.descriptor.id
        { kind := opening.descriptor.kind
          operationId := opening.operationId
          state := .opened
          closeReason := none
          expectedSeq := 0
          recvCredit := 0
          nextSendSeq := 0
          sendCredit := 0 } with
      openStreams := insert opening.descriptor.id mux.openStreams }

variable (stream : StreamId)

/-- Grant the peer credit, and produce the frame that tells it. -/
def grantInbound (credits : UInt32) : Command ConstellationError StreamMux StreamFlow := do
  failIf (credits = 0) (.new .malformedFrame "credit grant must be non-zero")
  let mux ← get
  let entry ← ofExcept (mux.openEntry stream)
  modify (·.setEntry stream
    { entry with recvCredit := saturatingAdd entry.recvCredit credits.toUInt64 })
  pure ⟨stream, credits⟩

/-- Validate and account for an inbound chunk. -/
def acceptData (data : StreamData) : Command ConstellationError StreamMux Unit := do
  let mux ← get
  let entry ← ofExcept (mux.openEntry data.stream)
  failIf (channelValidForKind entry.kind data.channel = false)
    (.new .malformedFrame "stream channel is not valid for the stream kind")
  failIf (data.cursor.isSome = true ∧ entry.kind ≠ .logs)
    (.new .malformedFrame "only a logs stream may carry a resume cursor")
  failIf (data.sequence ≠ entry.expectedSeq)
    (.new .malformedFrame "stream data sequence is not the next expected value")
  failIf (entry.recvCredit = 0) (.new .backpressure "stream data exceeds granted credit")
  modify (·.setEntry data.stream
    { entry with recvCredit := entry.recvCredit - 1, expectedSeq := entry.expectedSeq + 1 })

/-- Account for credit the peer granted us. -/
def receiveFlow (flow : StreamFlow) : Command ConstellationError StreamMux Unit := do
  failIf (flow.credits = 0) (.new .malformedFrame "credit grant must be non-zero")
  let mux ← get
  let entry ← ofExcept (mux.openEntry flow.stream)
  modify fun mux =>
    { mux.setEntry flow.stream
        { entry with sendCredit := saturatingAdd entry.sendCredit flow.credits.toUInt64 } with
      sendableStreams :=
        if entry.sendCredit = 0 then insert flow.stream mux.sendableStreams
        else mux.sendableStreams }

/-- Spend a credit on the next outbound chunk, and return its sequence number. -/
def reserveSend (channel : StreamChannel) : Command ConstellationError StreamMux UInt64 := do
  let mux ← get
  let entry ← ofExcept (mux.openEntry stream)
  failIf (channelValidForKind entry.kind channel = false)
    (.new .malformedFrame "stream channel is not valid for the stream kind")
  failIf (entry.sendCredit = 0) (.new .backpressure "no outbound credit remains on the stream")
  modify fun mux =>
    { mux.setEntry stream
        { entry with sendCredit := entry.sendCredit - 1, nextSendSeq := entry.nextSendSeq + 1 } with
      sendableStreams :=
        if entry.sendCredit - 1 = 0 then mux.sendableStreams.erase stream
        else mux.sendableStreams }
  pure entry.nextSendSeq

/-! ## closing -/

/-- Drop the oldest closed records over the cap. -/
def pruneClosed (maxClosed : Nat) :
    List StreamId → BTreeMap StreamId StreamEntry → List StreamId × BTreeMap StreamId StreamEntry
  | [], streams => ([], streams)
  | old :: rest, streams =>
    if (old :: rest).length > maxClosed then
      pruneClosed maxClosed rest
        (if streams[old]?.any (·.state = .closed) then streams.erase old else streams)
    else (old :: rest, streams)

/-- Keep the record of a closed stream, and prune. -/
def rememberClosed (stream : StreamId) : StreamMux :=
  let pruned := pruneClosed mux.maxClosed (mux.closedOrder ++ [stream]) mux.streams
  { mux with closedOrder := pruned.1, streams := pruned.2 }

/-- Close an open stream for a reason. -/
def closeEntry (stream : StreamId) (entry : StreamEntry) (reason : StreamCloseReason) : StreamMux :=
  rememberClosed
    { mux.setEntry stream { entry with state := .closed, closeReason := some reason } with
      openStreams := mux.openStreams.erase stream
      sendableStreams := mux.sendableStreams.erase stream } stream

/-- Close a stream.  A repeated cancellation is idempotent; every other double
close is refused. -/
def close (closing : StreamClose) : Command ConstellationError StreamMux Unit := do
  let mux ← get
  let entry ← okOr mux.streams[closing.stream]? (.new .malformedFrame "close of an unknown stream")
  if entry.state = .closed then
    failIf
      (¬(entry.closeReason = some .cancelled ∧ closing.reason = .cancelled))
      (.new .malformedFrame "stream is already closed")
  else
    modify (·.closeEntry closing.stream entry closing.reason)

/-- Cancel a stream idempotently: whether this call closed it. -/
def cancel : Command ConstellationError StreamMux Bool := do
  let mux ← get
  match mux.streams[stream]? with
  | some entry =>
    if entry.state = .opened then
      modify (·.closeEntry stream entry .cancelled)
      pure true
    else pure false
  | none => pure false

end StreamMux

end D2b

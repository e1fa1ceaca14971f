import D2b.ExecRunner.FileRing

/-!
# D2b.Guestd.Exec

The data of an attached exec (`d2b-guestd/src/exec.rs`): the drop-oldest
output ring with monotonic offsets, and the lock-protected state of one exec.
-/

namespace D2b.Guestd

open ExecRunner
open Circular

/-- Hard ceiling for a single output chunk (`HARD_MAX_CHUNK_BYTES`). -/
def hardMaxChunkBytes : Nat := 1024 * 1024

/-- Maximum pending long-polls per stream (`PENDING_READ_OUTPUT_WAITS_PER_STREAM`). -/
def pendingReadOutputWaitsPerStream : Nat := 64

/-- Read buffer size of the drain loop (`PIPE_READ_CHUNK`). -/
def pipeReadChunk : Nat := 64 * 1024

/-- Retained bytes per stream (`STDOUT_LIVE_BUFFER_BYTES`, `STDERR_LIVE_BUFFER_BYTES`). -/
def liveBufferBytes : Nat := 1024 * 1024

/-- Why a call of the runtime failed. -/
inductive ExecError where
  | execDisabled | rootDenied | userDenied | unsupportedMode | invalidArgv | invalidProgram
  | cwdInvalid | invalidEnv | maxChunkExceeded | execCapacityExceeded | attachCapacityExceeded
  | waitCapacityExceeded | readWaitCapacityExceeded | execNotFound | offsetExpired
  | offsetInFuture | spawnFailed | retainedLogPathUnsafe | retainedLogQuotaExceeded
  | staleSession | execExpired | invalidTerminalSize | ttyStderrUnavailable | ttyRequired
  | stdinClosed | stdinOffsetMismatch | stdinByteBudgetExhausted | stdinBackpressure
  | controlSeqMismatch | invalidSignal | execClosing | internal
deriving DecidableEq

/-- One of the two captured output streams. -/
inductive Stream where
  | stdout | stderr
deriving DecidableEq

instance {P : Stream → Prop} [DecidablePred P] : Decidable (∀ stream, P stream) :=
  decidable_of_iff (P .stdout ∧ P .stderr)
    ⟨fun h stream => by cases stream; exacts [h.1, h.2], fun h => ⟨h _, h _⟩⟩

inductive ExecState where
  | running | exited | signaled | cancelled | reaped | lostGuestd
deriving DecidableEq

/-- Terminal disposition for a finished child. -/
inductive ExitOutcome where
  | exited (code : Int)
  | signaled (signal : Nat)
deriving DecidableEq

/-- The state of a child that ended on its own. -/
def ExitOutcome.state : ExitOutcome → ExecState
  | exited _ => .exited
  | signaled _ => .signaled

/-! ## the output ring -/

structure RingChunk where
  data : List UInt8
  startOffset : Nat
  endOffset : Nat
  nextOffset : Nat
  droppedBytes : Nat
  truncated : Bool
  eof : Bool
deriving DecidableEq

/-- What a chunk says about the bytes of its stream. -/
structure RingChunk.Exact (chunk : RingChunk) (offset : Nat) (stream : List UInt8) : Prop where
  data_eq : chunk.data = slice stream offset (chunk.nextOffset - offset)
  length_eq : chunk.data.length = chunk.nextOffset - offset
  offset_le : offset ≤ chunk.nextOffset
  next_le : chunk.nextOffset ≤ stream.length

lemma RingChunk.Exact.append {chunk : RingChunk} (h : chunk.Exact offset stream)
    (more : List UInt8) : chunk.Exact offset (stream ++ more) := by
  have hoffset := h.offset_le
  have hnext := h.next_le
  refine { h with data_eq := ?_, next_le := ?_ }
  · rw [slice_append (by omega)]
    exact h.data_eq
  · rw [List.length_append]
    omega

/-- Drop-oldest bounded ring buffer with monotonic offsets. -/
structure OutputRing where
  startOffset : Nat
  data : List UInt8
  cap : Nat
  droppedBytes : Nat
  truncated : Bool
  eof : Bool

namespace OutputRing

def new (cap : Nat) : OutputRing :=
  { startOffset := 0, data := [], cap, droppedBytes := 0, truncated := false, eof := false }

variable (ring : OutputRing)

def endOffset : Nat := saturatingAdd ring.startOffset ring.data.length

/-- The loop of `append`: pop the front while `data` is longer than the cap. -/
def popFront (ring : OutputRing) : List UInt8 → OutputRing
  | [] => { ring with data := [] }
  | b :: data =>
    if (b :: data).length > ring.cap then
      { ring with
        startOffset := saturatingAdd ring.startOffset 1
        droppedBytes := saturatingAdd ring.droppedBytes 1
        truncated := true }.popFront data
    else { ring with data := b :: data }

def append (bytes : List UInt8) : OutputRing := ring.popFront (ring.data ++ bytes)

def markEof : OutputRing := { ring with eof := true }

/-- Read up to `maxLen` bytes starting at `offset`. -/
def read (offset maxLen : Nat) : Except ExecError RingChunk :=
  if offset < ring.startOffset then .error .offsetExpired
  else if offset > ring.endOffset then .error .offsetInFuture
  else
    let take := min (ring.endOffset - offset) maxLen
    let nextOffset := saturatingAdd offset take
    .ok
      { data := (ring.data.drop (offset - ring.startOffset)).take take
        startOffset := ring.startOffset
        endOffset := ring.endOffset
        nextOffset
        droppedBytes := ring.droppedBytes
        truncated := ring.truncated
        -- only observable once the stream is fully drained
        eof := ring.eof && decide (nextOffset ≥ ring.endOffset) }

/-! ## what a ring retains -/

/-- The ring holds the bytes of a stream from the `n`-th on. -/
structure RetainsFrom (ring : OutputRing) (stream : List UInt8) (n : Nat) : Prop where
  start_eq : ring.startOffset = min n (2 ^ 64 - 1)
  le_length : n ≤ stream.length
  data_eq : ring.data = stream.drop n

/-- The ring holds the last bytes of a stream. -/
def Retains (stream : List UInt8) : Prop := ∃ n, ring.RetainsFrom stream n

lemma Retains.markEof {ring : OutputRing} (h : ring.Retains stream) :
    ring.markEof.Retains stream := by
  obtain ⟨n, h⟩ := h
  exact ⟨n, h.start_eq, h.le_length, h.data_eq⟩

lemma popFront_eof (data : List UInt8) :
    ∀ ring : OutputRing, (ring.popFront data).eof = ring.eof := by
  induction data with
  | nil => intro ring; rfl
  | cons b data ih =>
    intro ring
    unfold popFront
    split
    · exact ih _
    · rfl

lemma popFront_retains (data : List UInt8) :
    ∀ (ring : OutputRing) (n : Nat), ring.startOffset = min n (2 ^ 64 - 1) → n ≤ stream.length →
      data = stream.drop n → (ring.popFront data).Retains stream := by
  induction data with
  | nil =>
    intro ring n hstart hle hdata
    exact ⟨n, hstart, hle, hdata⟩
  | cons b data ih =>
    intro ring n hstart hle hdata
    unfold popFront
    split
    · have hrest : data = stream.drop (n + 1) := by
        have := congrArg List.tail hdata
        simpa using this
      have hlt : n < stream.length := by
        have := congrArg List.length hdata
        simp at this
        omega
      refine ih _ (n + 1) ?_ hlt hrest
      show saturatingAdd ring.startOffset 1 = _
      unfold saturatingAdd
      omega
    · exact ⟨n, hstart, hle, hdata⟩

lemma Retains.append {ring : OutputRing} (h : ring.Retains stream) (bytes : List UInt8) :
    (ring.append bytes).Retains (stream ++ bytes) := by
  obtain ⟨n, h⟩ := h
  refine popFront_retains _ ring n h.start_eq ?_ ?_
  · have := h.le_length
    simp
    omega
  · rw [h.data_eq, List.drop_append_of_le_length h.le_length]

lemma append_eof (bytes : List UInt8) : (ring.append bytes).eof = ring.eof := popFront_eof ..

lemma endOffset_lt : ring.endOffset < 2 ^ 64 := by
  unfold endOffset saturatingAdd
  omega

/-- What a read that succeeds returns. -/
lemma read_eq_ok {ring : OutputRing} (h : ring.read offset maxLen = .ok chunk) :
    ring.startOffset ≤ offset ∧ offset ≤ ring.endOffset ∧ chunk.endOffset = ring.endOffset ∧
      chunk.nextOffset = offset + min (ring.endOffset - offset) maxLen ∧
      chunk.data = (ring.data.drop (offset - ring.startOffset)).take (chunk.nextOffset - offset) ∧
      (chunk.eof = true ↔ ring.eof = true ∧ chunk.nextOffset = ring.endOffset) := by
  unfold read at h
  by_cases hexpired : offset < ring.startOffset
  · simp [hexpired] at h
  by_cases hfuture : offset > ring.endOffset
  · simp [hexpired, hfuture] at h
  simp only [hexpired, hfuture, if_false, Except.ok.injEq] at h
  have hend := ring.endOffset_lt
  have hnext : saturatingAdd offset (min (ring.endOffset - offset) maxLen) =
      offset + min (ring.endOffset - offset) maxLen := by
    unfold saturatingAdd
    omega
  rw [hnext] at h
  subst h
  refine ⟨by omega, by omega, rfl, rfl, ?_, ?_⟩
  · simp
  · simp
    omega

/-- A read of a ring is exact, also where the offsets saturate. -/
lemma Retains.read_exact {ring : OutputRing} (h : ring.Retains stream)
    (hread : ring.read offset maxLen = .ok chunk) : chunk.Exact offset stream := by
  obtain ⟨n, hstart, hle, hdata⟩ := h
  obtain ⟨hlow, hhigh, -, hnext, hbytes, -⟩ := read_eq_ok hread
  have hend : ring.endOffset = min (ring.startOffset + (stream.length - n)) (2 ^ 64 - 1) := by
    unfold endOffset saturatingAdd
    rw [hdata, List.length_drop]
  have hslice : chunk.data = slice stream offset (chunk.nextOffset - offset) := by
    rw [hbytes, hdata, List.drop_drop]
    by_cases hsat : n ≤ 2 ^ 64 - 1
    · rw [show n + (offset - ring.startOffset) = offset by omega]
      rfl
    · -- past the largest offset nothing is readable
      rw [show chunk.nextOffset - offset = 0 by omega]
      simp
  have hlen : chunk.nextOffset ≤ stream.length := by omega
  have hoffset : offset ≤ chunk.nextOffset := by omega
  exact ⟨hslice, by rw [hslice, length_slice (by omega)], hoffset, hlen⟩

end OutputRing

/-! ## the shared state of an exec -/

/-- Mutable, lock-protected exec state. -/
structure ExecShared where
  state : ExecState
  outcome : Option ExitOutcome
  stdout : OutputRing
  stderr : OutputRing
  stateGeneration : Nat

namespace ExecShared

def new : ExecShared :=
  { state := .running, outcome := none, stdout := .new liveBufferBytes,
    stderr := .new liveBufferBytes, stateGeneration := 1 }

section

variable (shared : ExecShared)

def bump : ExecShared :=
  { shared with stateGeneration := saturatingAdd shared.stateGeneration 1 }

def ring : Stream → OutputRing
  | .stdout => shared.stdout
  | .stderr => shared.stderr

/-- `ring_mut`: replace the ring of a stream. -/
def setRing (stream : Stream) (ring : OutputRing) : ExecShared :=
  match stream with
  | .stdout => { shared with stdout := ring }
  | .stderr => { shared with stderr := ring }

/-- The end of a running exec: a terminal state, and EOF forced on both streams.
An exec that is terminal already keeps its state. -/
def terminate (state : ExecState) (outcome : Option ExitOutcome) : ExecShared :=
  if shared.state = .running then
    { shared with
      state, outcome, stdout := shared.stdout.markEof, stderr := shared.stderr.markEof }.bump
  else shared

end

variable (shared : ExecShared)

@[simp] lemma ring_bump (stream : Stream) : shared.bump.ring stream = shared.ring stream := by
  cases stream <;> rfl

@[simp] lemma ring_setRing_self (stream : Stream) (ring : OutputRing) :
    (shared.setRing stream ring).ring stream = ring := by
  cases stream <;> rfl

lemma ring_setRing_ne (h : stream' ≠ stream) (ring : OutputRing) :
    (shared.setRing stream ring).ring stream' = shared.ring stream' := by
  cases stream <;> cases stream' <;> first | rfl | exact absurd rfl h

lemma ring_terminate (state : ExecState) (outcome : Option ExitOutcome) (stream : Stream) :
    (shared.terminate state outcome).ring stream =
      if shared.state = .running then (shared.ring stream).markEof else shared.ring stream := by
  unfold terminate
  split
  · cases stream <;> rfl
  · rfl

end ExecShared

end D2b.Guestd

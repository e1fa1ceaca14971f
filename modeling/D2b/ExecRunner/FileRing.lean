import D2b.Lib.Circular

/-!
# D2b.ExecRunner.FileRing

The file-backed output ring (`filering.rs`): a circular data file and a small
sidecar that is replaced atomically.  A call of the writer is the list of its
effects on the two files, in order, and the bookkeeping it keeps in memory; a
read is a state machine that looks at one file or one cell at a time, so that
the two can be interleaved.
-/

namespace D2b.ExecRunner

open Circular

/-- Largest capacity of a retained log (`DETACHED_STREAM_LOG_BYTES`). -/
def detachedStreamLogBytes : Nat := 4 * 1024 * 1024

/-- Bounded retries for the reader's torn-read detection. -/
def readRetries : Nat := 8

/-- `u64::saturating_add`. -/
def saturatingAdd (a b : Nat) : Nat := min (a + b) (2 ^ 64 - 1)

/-- The sidecar: the durable bookkeeping of one stream. -/
structure StreamMeta where
  cap : Nat
  startOffset : Nat
  endOffset : Nat
  droppedBytes : Nat
  truncated : Bool
  eof : Bool
  lost : Bool
deriving DecidableEq

def StreamMeta.new (cap : Nat) : StreamMeta :=
  { cap, startOffset := 0, endOffset := 0, droppedBytes := 0, truncated := false, eof := false,
    lost := false }

/-- The bookkeeping once the bytes before `newStart` are dropped; the end stays. -/
def StreamMeta.dropTo (m : StreamMeta) (newStart : Nat) : StreamMeta :=
  if newStart > m.startOffset then
    { m with
      startOffset := min newStart m.endOffset
      droppedBytes := min newStart m.endOffset
      truncated := true }
  else m

/-- The bookkeeping once the bytes up to `newEnd` are written. -/
def StreamMeta.extendTo (m : StreamMeta) (newStart newEnd : Nat) : StreamMeta :=
  let m := { m with endOffset := newEnd }
  if newStart > m.startOffset then
    { m with startOffset := newStart, droppedBytes := newStart, truncated := true }
  else m

namespace StreamMeta

variable (m : StreamMeta) (newStart newEnd : Nat)

@[simp] lemma dropTo_cap : (m.dropTo newStart).cap = m.cap := by
  unfold dropTo; split <;> rfl

@[simp] lemma dropTo_endOffset : (m.dropTo newStart).endOffset = m.endOffset := by
  unfold dropTo; split <;> rfl

@[simp] lemma dropTo_eof : (m.dropTo newStart).eof = m.eof := by
  unfold dropTo; split <;> rfl

lemma dropTo_startOffset (h : m.startOffset ≤ m.endOffset) :
    (m.dropTo newStart).startOffset = max m.startOffset (min newStart m.endOffset) := by
  unfold dropTo
  split
  · show min newStart m.endOffset = _
    omega
  · omega

@[simp] lemma extendTo_cap : (m.extendTo newStart newEnd).cap = m.cap := by
  unfold extendTo; dsimp only; split <;> rfl

@[simp] lemma extendTo_endOffset : (m.extendTo newStart newEnd).endOffset = newEnd := by
  unfold extendTo; dsimp only; split <;> rfl

@[simp] lemma extendTo_eof : (m.extendTo newStart newEnd).eof = m.eof := by
  unfold extendTo; dsimp only; split <;> rfl

@[simp] lemma extendTo_startOffset :
    (m.extendTo newStart newEnd).startOffset = max newStart m.startOffset := by
  unfold extendTo
  dsimp only
  split
  · show newStart = _
    omega
  · show m.startOffset = _
    omega

end StreamMeta

structure RingChunk where
  data : List UInt8
  startOffset : Nat
  endOffset : Nat
  nextOffset : Nat
  droppedBytes : Nat
  truncated : Bool
  eof : Bool
deriving DecidableEq

/-- Why a read failed. -/
inductive FileRingError where
  | unexpectedEof | offsetExpired | offsetInFuture | capMismatch | corrupt | busy
deriving DecidableEq

structure Files where
  data : List UInt8
  sidecar : StreamMeta

/-- What is checked of a sidecar before any byte is served. -/
def validateMeta (m : StreamMeta) (dataLen : Nat) : Except FileRingError Unit :=
  if m.cap = 0 ∨ m.cap > detachedStreamLogBytes then .error .corrupt
  else if m.startOffset > m.endOffset then .error .corrupt
  else if m.endOffset - m.startOffset > m.cap then .error .corrupt
  else if m.droppedBytes ≠ m.startOffset then .error .corrupt
  else if dataLen < min m.endOffset m.cap then .error .corrupt
  else .ok ()

/-! ## the writer -/

inductive Effect where
  | persistMeta (m : StreamMeta)
  | writeByte (pos : Nat) (byte : UInt8)

/-- Effects are visible to readers at once; `sync_data` only makes them durable. -/
def Files.apply (files : Files) : Effect → Files
  | .persistMeta m => { files with sidecar := m }
  | .writeByte pos byte => { files with data := writeAt 0 files.data pos byte }

/-- The writer side of a ring: the bookkeeping it keeps in memory. -/
structure FileRing where
  streamMeta : StreamMeta

namespace FileRing

/-- `write_circular`: the bytes of each part, cell by cell. -/
def writeCircular (cap logicalStart : Nat) (data : List UInt8) : List Effect :=
  List.zipWith .writeByte (cells cap data.length (logicalStart % cap) data.length) data

/-- Append bytes, dropping the oldest beyond the capacity. -/
def append (ring : FileRing) (bytes : List UInt8) : List Effect × FileRing :=
  if bytes.isEmpty then ([], ring)
  else
    let newEnd := saturatingAdd ring.streamMeta.endOffset bytes.length
    let newStart := newEnd - ring.streamMeta.cap
    -- the advanced start is published before any cell is overwritten
    let pre := ring.streamMeta.dropTo newStart
    let published := if newStart > ring.streamMeta.startOffset then [.persistMeta pre] else []
    -- only the surviving tail of the bytes is written
    let writeFrom := max newStart pre.endOffset
    let payload := bytes.drop (writeFrom - pre.endOffset)
    let final := pre.extendTo newStart newEnd
    (published ++ (writeCircular pre.cap writeFrom payload ++ [.persistMeta final]), ⟨final⟩)

def markEof (ring : FileRing) : List Effect × FileRing :=
  if ring.streamMeta.eof then ([], ring)
  else
    let m : StreamMeta := { ring.streamMeta with eof := true }
    ([.persistMeta m], ⟨m⟩)

def markLost (ring : FileRing) : List Effect × FileRing :=
  if ring.streamMeta.lost && ring.streamMeta.eof then ([], ring)
  else
    let m : StreamMeta := { ring.streamMeta with lost := true, eof := true }
    ([.persistMeta m], ⟨m⟩)

end FileRing

/-! ## the reader -/

structure ReadRequest where
  offset : Nat
  maxLen : Nat
deriving DecidableEq

/-- Where a read stands. -/
inductive FileRingReader where
  | idle
  /-- at the head of the loop, with `tries` more rounds after this one -/
  | start (req : ReadRequest) (tries : Nat) (lastErr : FileRingError)
  /-- the sidecar is read, the length of the data file comes next -/
  | stat (req : ReadRequest) (tries : Nat) (m : StreamMeta)
  /-- the cells still to be copied, and the bytes copied so far -/
  | copying (req : ReadRequest) (tries : Nat) (m : StreamMeta) (rest : List Nat) (out : List UInt8)
  /-- the copied bytes and the second sidecar; the length of the file comes next -/
  | restat (req : ReadRequest) (tries : Nat) (m : StreamMeta) (out : List UInt8)
      (after : StreamMeta)
  | done (req : ReadRequest) (result : Except FileRingError RingChunk)

namespace FileRingReader

variable (req : ReadRequest)

def begin : FileRingReader := .start req (readRetries - 1) .busy

/-- `continue`: the next round, or the last error if there is none. -/
def retry (tries : Nat) (lastErr : FileRingError) : FileRingReader :=
  match tries with
  | 0 => .done req (.error lastErr)
  | tries + 1 => .start req tries lastErr

/-- How many bytes a round takes. -/
def ReadRequest.take (m : StreamMeta) : Nat := min (m.endOffset - req.offset) req.maxLen

/-- `read_circular` is about to copy: the cells of the bytes to take. -/
def startCopy (tries : Nat) (m : StreamMeta) : FileRingReader :=
  let take := ReadRequest.take req m
  .copying req tries m (cells m.cap take (req.offset % m.cap) take) []

/-- The chunk of a round that was not torn. -/
def chunk (m : StreamMeta) (out : List UInt8) : RingChunk :=
  let nextOffset := saturatingAdd req.offset (ReadRequest.take req m)
  { data := out
    startOffset := m.startOffset
    endOffset := m.endOffset
    nextOffset
    droppedBytes := m.droppedBytes
    truncated := m.truncated || m.lost
    eof := m.eof && decide (nextOffset ≥ m.endOffset) }

/-- The next access of a read to the files. -/
def step (files : Files) : FileRingReader → FileRingReader
  | .idle => .idle
  | .start req tries _ => .stat req tries files.sidecar
  | .stat req tries m =>
    match validateMeta m files.data.length with
    | .error e => .done req (.error e)
    | .ok () =>
      if req.offset < m.startOffset then .done req (.error .offsetExpired)
      else if req.offset > m.endOffset then .done req (.error .offsetInFuture)
      else startCopy req tries m
  | .copying req tries m [] out => .restat req tries m out files.sidecar
  | .copying req tries m (pos :: rest) out =>
    match files.data[pos]? with
    | none => retry req tries .unexpectedEof
    | some byte => .copying req tries m rest (out ++ [byte])
  | .restat req tries m out after =>
    match validateMeta after files.data.length with
    | .error e => .done req (.error e)
    | .ok () =>
      if after.startOffset > req.offset then retry req tries .offsetExpired
      else .done req (.ok (chunk req m out))
  | .done req result => .done req result

end FileRingReader

end D2b.ExecRunner

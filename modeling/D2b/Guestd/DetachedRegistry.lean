import D2b.ExecRunner.Record
import D2b.ExecRunner.Spec
import D2b.Guestd.Exec
import D2b.Lib.BTreeMap

/-!
# D2b.Guestd.DetachedRegistry

The data of the detached-exec registry (`detached_registry.rs`): the slot
entries and counters behind its mutex, what each critical section does to them,
the classification of a slot's units, and the public view of a record.

A slot is keyed by its number only; the exec id is in the entry's record.  The
counters saturate as in the source.
-/

namespace D2b.Guestd

open ExecRunner

def detachedActivePerVm : Nat := 8

def detachedRetainedPerVm : Nat := 32

def detachedLogQuotaBytes : Nat := detachedRetainedPerVm * 2 * detachedStreamLogBytes

/-- Max wait for the runner's first phase marker (`CREATE_TIMEOUT_MS`). -/
def createTimeoutMs : Nat := 10000

/-- How long a crash-recovered dispatch is held (`DISPATCH_DEADLINE_MS`). -/
def dispatchDeadlineMs : Nat := 30000

/-- Terminal-record retention before collection (`RETENTION_TTL_MS`). -/
def retentionTtlMs : Nat := 30 * 60 * 1000

def statusPollIntervalMs : Nat := 100

/-- Bounded wait for a terminal status after a cancel (`CANCEL_DEADLINE_MS`). -/
def cancelDeadlineMs : Nat := 15000

/-! ## entries -/

structure DetachedCaps where
  stdoutLogCap : Nat
  stderrLogCap : Nat
  maxRuntimeSec : Nat

def DetachedCaps.standard (maxRuntimeSec : Nat) : DetachedCaps :=
  { stdoutLogCap := detachedStreamLogBytes, stderrLogCap := detachedStreamLogBytes, maxRuntimeSec }

def DetachedCaps.reservedBytes (caps : DetachedCaps) : Nat :=
  saturatingAdd caps.stdoutLogCap caps.stderrLogCap

/-- In-memory per-slot bookkeeping. -/
structure SlotEntry where
  record : DurableRecord
  caps : DetachedCaps
  /-- in-flight live create -/
  creating : Bool
  /-- crash-recovered dispatch within its deadline -/
  dispatchHold : Bool
  generation : Nat
  activeCounted : Bool
  readGuards : Nat
  /-- the channel callers of the same create wait on -/
  createResolution : Option Nat

namespace SlotEntry

def isTerminal (entry : SlotEntry) : Bool := entry.record.state.isTerminal

variable (entry : SlotEntry)

/-- Hidden from listings and lookups by id. -/
def hidden : Bool := entry.creating || entry.dispatchHold

def commitRunning : SlotEntry :=
  let entry :=
    if entry.record.state = .dispatching then
      { entry with
        record := { entry.record with state := .running }
        generation := entry.generation + 1 }
    else entry
  { entry with creating := false, dispatchHold := false, createResolution := none }

def commitTerminal (terminal : RecordState) (exitCode : Option Int)
    (termSignal : Option Nat) (now : Nat) : SlotEntry :=
  let entry :=
    if !entry.isTerminal then
      { entry with
        record :=
          { entry.record with
            state := terminal
            exitCode
            termSignal
            terminalTimeUnix := some now }
        generation := entry.generation + 1 }
    else entry
  { entry with creating := false, dispatchHold := false, createResolution := none }

def markLost (now : Nat) : SlotEntry :=
  { entry with
    record := { entry.record with state := .cancelled, lost := true, terminalTimeUnix := some now }
    generation := entry.generation + 1 }

def promoteHold : SlotEntry :=
  let entry := { entry with dispatchHold := false }
  let entry :=
    if entry.record.state = .dispatching then
      { entry with record := { entry.record with state := .running } }
    else entry
  { entry with generation := entry.generation + 1 }

end SlotEntry

/-! ## requests and snapshots -/

/-- What the registry makes of a validated command: the hash of its argv, and
the runner's spec for a slot. -/
structure ValidatedCommand where
  argvHash : String
  buildSpec : DetachedCaps → Nat → Except ExecError ExecSpec

structure CreateRequest where
  bootId : String
  command : ValidatedCommand
  caps : DetachedCaps
  /-- `create_with_exec_id` -/
  execId : Option String

inductive CreateAdmission where
  | reserved (slot channel : Nat)
  | replayVisible
  | replayCreating (channel : Nat)

/-- The opaque exec id is 32 lowercase hex characters. -/
def isValidExecId (execId : String) : Bool :=
  execId.utf8ByteSize == 32 &&
    execId.toList.all fun c => c.isDigit || (decide ('a' ≤ c) && decide (c ≤ 'f'))

structure ExecSnapshot where
  state : ExecState
  outcome : Option ExitOutcome
  stateGeneration : Nat
  stdoutStartOffset : Nat
  stdoutEndOffset : Nat
  stderrStartOffset : Nat
  stderrEndOffset : Nat
  stdoutDroppedBytes : Nat
  stderrDroppedBytes : Nat
  stdoutTruncated : Bool
  stderrTruncated : Bool

structure ExecListEntryData where
  execId : String
  slot : Nat
  state : ExecState
  createTimeUnix : Nat
  argvSha256 : String
  stdoutTruncated : Bool
  stderrTruncated : Bool
  droppedBytes : Nat

variable (record : DurableRecord)

def publicState : ExecState :=
  match record.state with
  | .dispatching | .running => .running
  | .exited => .exited
  | .signaled => .signaled
  -- a spawn failure is a legitimate terminal exec
  | .spawnFailed => .exited
  | .cancelled => if record.lost then .lostGuestd else .cancelled

def publicOutcome : Option ExitOutcome :=
  match record.state with
  | .exited => some (.exited (record.exitCode.getD (-1)))
  | .signaled => some (.signaled (record.termSignal.getD 0))
  | .spawnFailed => some (.exited 127)
  | .dispatching | .running | .cancelled => none

/-- `signal as u32`. -/
def asU32 (signal : Int) : Nat := (signal % 2 ^ 32).toNat

def statusToTerminal : Option StatusPhase → Option (RecordState × Option Int × Option Nat)
  | some (.exited code) => some (.exited, some code, none)
  | some (.signaled signal) => some (.signaled, none, some (asU32 signal))
  | some .cancelled => some (.cancelled, none, none)
  | some .spawnFailed => some (.spawnFailed, none, none)
  | some .infraFailed => some (.spawnFailed, none, none)
  | some .started | none => none

def zeroMeta : StreamMeta :=
  { cap := 0, startOffset := 0, endOffset := 0, droppedBytes := 0, truncated := false, eof := false,
    lost := false }

def snapshotOf (generation : Nat) (stdout stderr : StreamMeta) : ExecSnapshot :=
  { state := publicState record
    outcome := publicOutcome record
    stateGeneration := generation
    stdoutStartOffset := stdout.startOffset
    stdoutEndOffset := stdout.endOffset
    stderrStartOffset := stderr.startOffset
    stderrEndOffset := stderr.endOffset
    stdoutDroppedBytes := stdout.droppedBytes
    stderrDroppedBytes := stderr.droppedBytes
    stdoutTruncated := stdout.truncated || stdout.lost
    stderrTruncated := stderr.truncated || stderr.lost }

def mapRingError : FileRingError → ExecError
  | .offsetExpired | .busy => .offsetExpired
  | .offsetInFuture => .offsetInFuture
  | _ => .internal

/-! ## units -/

inductive UnitError where
  | spawnFailed | nonZeroExit | timeout | unsupported | internal
deriving DecidableEq

inductive ManagedUnitKind where
  | runner | workload
deriving DecidableEq

/-- What `systemctl show` reports of a unit. -/
structure WorkloadIdentity where
  slice : Option String
  execStart : Option String
  bindsTo : Option String
  partOf : Option String
  after : Option String

inductive UnitIdentity where
  | queried (identity : WorkloadIdentity)
  | unqueried

structure ManagedUnit where
  slot : Nat
  kind : ManagedUnitKind
  active : Bool
  identity : UnitIdentity

/-- Per-slot unit liveness; a failed query is never `absent`. -/
inductive SlotLiveness where
  | live | orphanWorkload | foreign | absent | unknown
deriving DecidableEq

inductive UnitClass where
  | live | foreign | unknown
deriving DecidableEq

/-- The last part of `classify_unit`. -/
def slotLiveness (runner workload : Option UnitClass) : SlotLiveness :=
  if runner = some .foreign ∨ workload = some .foreign then .foreign
  else if runner = some .unknown ∨ workload = some .unknown then .unknown
  else
    match runner, workload with
    | some .live, some .live => .live
    | some .live, none => .unknown
    | none, some .live => .orphanWorkload
    | none, none => .absent
    | _, _ => .foreign

/-- How a durable record is re-adopted on startup. -/
inductive AdoptKind where
  | terminal (state : RecordState) (exitCode : Option Int) (termSignal : Option Nat)
  | running
  | dispatchHold

structure RegistryConfig where
  bootId : String
  maxRuntimeSec : Nat
  /-- host-fixed workload user -/
  execUser : String
  execUid : Nat
  systemdRunPath : String
  loginShellPath : String

/-- The immutable part of the registry: its configuration and the structural
comparisons of a unit with the runner and the spec of its slot. -/
structure DetachedRegistry where
  config : RegistryConfig
  identityMatches : WorkloadIdentity → Nat → Bool
  workloadIdentityMatches : WorkloadIdentity → Nat → ExecSpec → Bool

def DetachedRegistry.classifyRunnerUnit (reg : DetachedRegistry) (unit : ManagedUnit)
    (slot : Nat) : UnitClass :=
  if !unit.active then .foreign
  else
    match unit.identity with
    | .unqueried => .unknown
    | .queried identity => if reg.identityMatches identity slot then .live else .foreign

/-! ## the registry state -/

structure RegistryState where
  slots : BTreeMap Nat SlotEntry
  active : Nat
  reservedLogBytes : Nat
  tombstones : List String

namespace RegistryState

def new : RegistryState := { slots := ∅, active := 0, reservedLogBytes := 0, tombstones := [] }

variable (st : RegistryState)

def freeSlot : Option Nat :=
  (List.range detachedRetainedPerVm).find? fun slot => !st.slots.contains slot

variable (execId : String)

def findById : Option Nat :=
  (st.slots.toList.find? fun e => !e.2.hidden && e.2.record.execId == execId).map (·.1)

def findAnyById : Option Nat :=
  (st.slots.toList.find? fun e => e.2.record.execId == execId).map (·.1)

def pushTombstone : RegistryState :=
  let kept :=
    if st.tombstones.length ≥ detachedRetainedPerVm then st.tombstones.tail else st.tombstones
  { st with tombstones := kept ++ [execId] }

def isTombstoned : Bool := st.tombstones.contains execId

/-- Why an id that was not found is missing. -/
def missingKind : ExecError :=
  if st.isTombstoned execId then .execExpired else .execNotFound

variable (slot : Nat) (entry : SlotEntry)

def setEntry : RegistryState :=
  { st with slots := st.slots.insert slot entry }

/-- Put back an entry that may just have become terminal, and release its
active counter exactly once. -/
def setReleased : RegistryState :=
  if entry.activeCounted then
    { st.setEntry slot { entry with activeCounted := false } with active := st.active - 1 }
  else st.setEntry slot entry

def removeEntry : RegistryState :=
  match st.slots[slot]? with
  | none => st
  | some entry =>
    { st with
      slots := st.slots.erase slot
      active := if entry.activeCounted then st.active - 1 else st.active
      reservedLogBytes := st.reservedLogBytes - entry.caps.reservedBytes }

/-! ## critical sections -/

variable (reg : DetachedRegistry)

def reserveCreate (st : RegistryState) (req : CreateRequest)
    (execId : String) (now channel : Nat) : Except ExecError CreateAdmission × RegistryState :=
  if st.active ≥ detachedActivePerVm then (.error .execCapacityExceeded, st)
  else
    match st.freeSlot with
    | none => (.error .execCapacityExceeded, st)
    | some slot =>
      let reserve := req.caps.reservedBytes
      if saturatingAdd st.reservedLogBytes reserve > detachedLogQuotaBytes then
        (.error .retainedLogQuotaExceeded, st)
      else
        let record : DurableRecord :=
          { execId
            slot
            bootId := reg.config.bootId
            createTimeUnix := now
            dispatchDeadlineUnix := saturatingAdd now dispatchDeadlineMs
            argvSha256 := req.command.argvHash
            state := .dispatching
            exitCode := none
            termSignal := none
            lost := false
            terminalTimeUnix := none }
        let entry : SlotEntry :=
          { record
            caps := req.caps
            creating := true
            dispatchHold := false
            generation := 0
            activeCounted := true
            readGuards := 0
            createResolution := some channel }
        (.ok (.reserved slot channel),
          { st.setEntry slot entry with
            reservedLogBytes := saturatingAdd st.reservedLogBytes reserve
            active := min (st.active + 1) (2 ^ 32 - 1) })

/-- The first critical section of a create: replay or reserve. -/
def admission (st : RegistryState) (req : CreateRequest) (execId : String)
    (now channel : Nat) : Except ExecError CreateAdmission × RegistryState :=
  if req.execId.isNone then st.reserveCreate reg req execId now channel
  else if st.isTombstoned execId then (.error .execExpired, st)
  else
    match (st.findAnyById execId).bind fun slot => st.slots[slot]? with
    | none => st.reserveCreate reg req execId now channel
    | some existing =>
      if existing.record.argvSha256 ≠ req.command.argvHash then (.error .invalidArgv, st)
      else if existing.creating then
        match existing.createResolution with
        | none => (.error .internal, st)
        | some receiver => (.ok (.replayCreating receiver), st)
      -- a recovered dispatch is hidden until the reaper resolves it
      else if existing.dispatchHold then (.error .internal, st)
      else (.ok .replayVisible, st)

def resolveSlot : Except ExecError Nat :=
  match st.findById execId with
  | some slot => .ok slot
  | none => .error (st.missingKind execId)

def commitRunning (st : RegistryState) (slot : Nat) : Option DurableRecord × RegistryState :=
  match st.slots[slot]? with
  | none => (none, st)
  | some entry =>
    let entry := entry.commitRunning
    (some entry.record, st.setEntry slot entry)

def commitTerminal (st : RegistryState) (slot : Nat) (terminal : RecordState)
    (exitCode : Option Int) (termSignal : Option Nat) (now : Nat) :
    Option DurableRecord × RegistryState :=
  match st.slots[slot]? with
  | none => (none, st)
  | some entry =>
    let entry := entry.commitTerminal terminal exitCode termSignal now
    (some entry.record, st.setReleased slot entry)

def markLost (st : RegistryState) (slot now : Nat) : Option DurableRecord × RegistryState :=
  match st.slots[slot]? with
  | none => (none, st)
  | some entry =>
    if entry.isTerminal then (none, st)
    else
      let entry := entry.markLost now
      (some entry.record, st.setReleased slot entry)

def promoteHold (st : RegistryState) (slot : Nat) : Option DurableRecord × RegistryState :=
  match st.slots[slot]? with
  | none => (none, st)
  | some entry =>
    if !entry.dispatchHold then (none, st)
    else
      let entry := entry.promoteHold
      (some entry.record, st.setEntry slot entry)

def takeReadGuard (execId : String) : Except ExecError Unit × RegistryState :=
  match st.slots[slot]? with
  | none => (.error (st.missingKind execId), st)
  | some entry => (.ok (), st.setEntry slot { entry with readGuards := entry.readGuards + 1 })

def dropReadGuard : RegistryState :=
  match st.slots[slot]? with
  | none => st
  | some entry => st.setEntry slot { entry with readGuards := entry.readGuards - 1 }

def visibleEntries : List (Nat × DurableRecord) :=
  (st.slots.toList.filter fun e => !e.2.hidden).map fun e => (e.1, e.2.record)

/-- Within the dispatch deadline a not-yet-registered unit is normal. -/
def withinDeadline (slot now : Nat) : Bool :=
  match st.slots[slot]? with
  | none => false
  | some entry =>
    decide (entry.record.state = .dispatching) && decide (now < entry.record.dispatchDeadlineUnix)

/-- Evict the oldest terminal record while over the quota, never a running one. -/
def overBudgetVictim : Option Nat :=
  if st.reservedLogBytes ≤ detachedLogQuotaBytes then none
  else
    ((st.slots.toList.filter fun e => e.2.isTerminal).foldl
      (fun best e =>
        match best with
        | none => some e
        | some b =>
          let key := fun (e : Nat × SlotEntry) => e.2.record.terminalTimeUnix.getD (2 ^ 64 - 1)
          if key e < key b then some e else some b)
      none).map (·.1)

def adoptedEntry (record : DurableRecord) (kind : AdoptKind) (now : Nat) : SlotEntry :=
  let entry : SlotEntry :=
    { record
      caps := .standard reg.config.maxRuntimeSec
      creating := false
      dispatchHold := false
      generation := 0
      activeCounted := true
      readGuards := 0
      createResolution := none }
  match kind with
  | .terminal state exitCode termSignal =>
    { entry with
      record :=
        { record with
          state
          exitCode
          termSignal
          terminalTimeUnix := some (record.terminalTimeUnix.getD now) }
      activeCounted := false }
  | .running => { entry with record := { record with state := .running } }
  | .dispatchHold => { entry with dispatchHold := true }

def insertAdopted : RegistryState :=
  { st.setEntry slot entry with
    reservedLogBytes := saturatingAdd st.reservedLogBytes entry.caps.reservedBytes
    active := if entry.activeCounted then min (st.active + 1) (2 ^ 32 - 1) else st.active }

end RegistryState

end D2b.Guestd

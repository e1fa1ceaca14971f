import D2b.Guestd.DetachedRegistry.Tasks

/-!
# D2b.Guestd.DetachedRegistry.System

The registry as a system: the calls it serves, the slot directories on disk,
the runners that publish statuses into them, crashes and restarts.

Startup adoption runs alone, before anything is served, and there is one reaper;
calls come at any time and in any number.

A task carries a note of what it has learnt (`Note`), and a directory two
auxiliary fields.  No method reads them.
-/

namespace D2b.Guestd

open ExecRunner

/-! ## the slot store -/

/-- The files of a slot directory that the registry reads back. -/
inductive SlotFile where
  | record | spec | status | cancel
deriving DecidableEq

structure SlotDir where
  present : Bool
  record : Option DurableRecord
  spec : Option ExecSpec
  status : Option StatusPhase
  cancel : Bool
  /-- auxiliary: the last phase a runner published since the files were scrubbed -/
  published : Option StatusPhase
  /-- auxiliary: the terminal record that was persisted first since then -/
  settled : Option DurableRecord

namespace SlotDir

def empty : SlotDir :=
  { present := false, record := none, spec := none, status := none, cancel := false,
    published := none, settled := none }

variable (dir : SlotDir)

def writeRecord (record : DurableRecord) : SlotDir :=
  { dir with
    record := some record
    settled := dir.settled.or (if record.state.isTerminal then some record else none) }

/-- What a removal leaves of the files. -/
def keep (kept : SlotFile → Bool) : SlotDir :=
  { dir with
    record := if kept .record then dir.record else none
    spec := if kept .spec then dir.spec else none
    status := if kept .status then dir.status else none
    cancel := kept .cancel && dir.cancel
    settled := if kept .record then dir.settled else none }

def gone : SlotDir := { dir.keep fun _ => false with present := false }

/-- The runner's files of a prior occupant are gone. -/
def scrubbed : SlotDir :=
  { dir with status := none, cancel := false, published := none, settled := none }

/-- Some of the runner's files are gone. -/
def partlyScrubbed (kept : SlotFile → Bool) : SlotDir :=
  { dir with
    status := if kept .status then dir.status else none
    cancel := kept .cancel && dir.cancel
    settled := none }

end SlotDir

/-- How a store write ends; one that fails may have reached the disk. -/
inductive WriteOutcome where
  | ok
  | fails (error : ExecError) (written : Bool)

/-- How a removal ends; one that fails leaves some files, or nothing. -/
inductive Removal where
  | ok
  | fails (error : ExecError) (left : Option (SlotFile → Bool))

/-- What the environment decides about an operation. -/
inductive Input where
  | go
  | write (outcome : WriteOutcome)
  | remove (removal : Removal)
  | read (fault : Option ExecError)
  | check (result : Except ExecError Unit)
  | slots (result : Except ExecError (List Nat))
  | logMeta (result : Except ExecError (Option StreamMeta))
  | log (result : Except FileRingError ExecRunner.RingChunk)
  | unit (result : Except UnitError Unit)
  | units (result : Except UnitError (List ManagedUnit))
  | time (now : Nat)
  | id (result : Except ExecError String)
  | timeout

/-- The directories on disk, by slot. -/
abbrev Dirs := Nat → SlotDir

namespace Dirs

variable (dirs : Dirs)

/-- A write into a directory that must be there. -/
def write (slot : Nat) (f : SlotDir → SlotDir) :
    WriteOutcome → Option (Except ExecError Unit × Dirs)
  | .ok =>
    if (dirs slot).present then some (.ok (), Function.update dirs slot (f (dirs slot))) else none
  | .fails error true =>
    if (dirs slot).present then some (.error error, Function.update dirs slot (f (dirs slot)))
    else none
  | .fails error false => some (.error error, dirs)

def delete (slot : Nat) : Removal → Except ExecError Unit × Dirs
  | .ok => (.ok (), Function.update dirs slot (dirs slot).gone)
  | .fails error none => (.error error, Function.update dirs slot (dirs slot).gone)
  | .fails error (some kept) => (.error error, Function.update dirs slot ((dirs slot).keep kept))

def scrub (slot : Nat) : Removal → Except ExecError Unit × Dirs
  | .ok => (.ok (), Function.update dirs slot (dirs slot).scrubbed)
  | .fails error none =>
    (.error error, Function.update dirs slot ((dirs slot).partlyScrubbed fun _ => false))
  | .fails error (some kept) =>
    (.error error, Function.update dirs slot ((dirs slot).partlyScrubbed kept))

def prepare (slot : Nat) : WriteOutcome → Except ExecError Unit × Dirs
  | .ok => (.ok (), Function.update dirs slot { dirs slot with present := true })
  | .fails error true =>
    (.error error, Function.update dirs slot { dirs slot with present := true })
  | .fails error false => (.error error, dirs)

def present (dirs : Dirs) : List Nat :=
  (List.range detachedRetainedPerVm).filter fun slot => (dirs slot).present

def run : (op : StoreOp) → Input → Option (op.Ans × Dirs)
  | .prepareSlotDir slot, .write outcome => some (dirs.prepare slot outcome)
  | .writeRecord slot record, .write outcome => dirs.write slot (·.writeRecord record) outcome
  | .writeSpec slot spec, .write outcome =>
    dirs.write slot (fun dir => { dir with spec := some spec }) outcome
  | .writeCancel slot, .write outcome =>
    dirs.write slot (fun dir => { dir with cancel := true }) outcome
  | .readRecord slot, .read fault =>
    match fault with
    | some error => some (.error error, dirs)
    | none =>
      match (dirs slot).record with
      | none => some (.error .execNotFound, dirs)
      | some record => some (.ok record, dirs)
  | .readSpec slot, .read fault =>
    match fault with
    | some error => some (.error error, dirs)
    | none =>
      match (dirs slot).spec with
      | none => some (.error .internal, dirs)
      | some spec => some (.ok spec, dirs)
  | .readStatus slot, .read fault =>
    match fault with
    | some error => some (.error error, dirs)
    | none => some (.ok (dirs slot).status, dirs)
  | .readLogMeta .., .logMeta result => some (result, dirs)
  | .readLog .., .log result => some (result, dirs)
  | .markLost _, .check result => some (result, dirs)
  | .validateAuthenticity _, .check result => some (result, dirs)
  | .deleteSlotDir slot, .remove removal => some (dirs.delete slot removal)
  | .scrubSlotFiles slot, .remove removal => some (dirs.scrub slot removal)
  | .listSlotDirs, .slots result =>
    match result with
    | .error error => some (.error error, dirs)
    -- entries that cannot be read are skipped
    | .ok slots => if slots.isSublist dirs.present then some (.ok slots, dirs) else none
  | _, _ => none

end Dirs

/-! ## the world -/

/-- The completion channel of a create, with who opened it and for which id. -/
structure Channel where
  owner : Nat
  execId : String
  resolution : Option (Except ExecError ExecSnapshot)

structure World where
  state : RegistryState
  dirs : Dirs
  channels : List Channel

def Section.run (reg : DetachedRegistry) (channel : Nat) (st : RegistryState) :
    (sec : Section) → sec.Ans × RegistryState
  | .admission req execId now => st.admission reg req execId now channel
  | .entryRecord slot => (st.slots[slot]?.map (·.record), st)
  | .removeEntry slot => ((), st.removeEntry slot)
  | .commitRunning slot => st.commitRunning slot
  | .commitTerminal slot terminal code signal now => st.commitTerminal slot terminal code signal now
  | .markLost slot now => st.markLost slot now
  | .promoteHold slot => st.promoteHold slot
  | .resolveSlot execId => (st.resolveSlot execId, st)
  | .takeReadGuard slot execId => st.takeReadGuard slot execId
  | .dropReadGuard slot => ((), st.dropReadGuard slot)
  | .visibleSlots => (st.visibleEntries.map (·.1), st)
  | .visibleEntries => (st.visibleEntries, st)
  | .peek slot => (st.slots[slot]?.map fun entry => (entry.hidden, entry.isTerminal), st)
  | .isTerminal slot => (st.slots[slot]?.any (·.isTerminal), st)
  | .withinDeadline slot now => (st.withinDeadline slot now, st)
  | .pastDeadline slot now =>
    (st.slots[slot]?.map fun entry => decide (now ≥ entry.record.dispatchDeadlineUnix), st)
  | .slotKeys => (st.slots.keys, st)
  | .survey slot =>
    (st.slots[slot]?.map fun entry =>
      (entry.creating, entry.dispatchHold, entry.isTerminal, entry.record.terminalTimeUnix), st)
  | .overBudgetVictim => (st.overBudgetVictim, st)
  | .snapshotEntry slot => (st.slots[slot]?.map fun entry => (entry.record, entry.generation), st)

def Section.opened (self : Nat) : (sec : Section) → sec.Ans → List Channel
  | .admission _ execId _, .ok (.reserved _ _) => [⟨self, execId, none⟩]
  | _, _ => []

namespace World

variable (reg : DetachedRegistry)

/-- `gc_slot` under the mutex: unlink, unless a read is in flight. -/
def collect (w : World) (slot : Nat) (removal : Removal) : World :=
  match w.state.slots[slot]? with
  | none => w
  | some entry =>
    if entry.readGuards > 0 then w
    else
      match w.dirs.delete slot removal with
      | (.ok (), dirs) =>
        { w with
          state := (w.state.removeEntry slot).pushTombstone entry.record.execId
          dirs }
      -- retained, so that the slot is not reused with stale files on disk
      | (.error _, dirs) => { w with dirs }

/-- One operation of task `self`. -/
def exec (self : Nat) (w : World) : (op : Op) → Input → Option (op.Ans × World)
  | .lock sec, .go =>
    let result := sec.run reg w.channels.length w.state
    some (result.1,
      { w with state := result.2, channels := w.channels ++ sec.opened self result.1 })
  | .store op, input =>
    match w.dirs.run op input with
    | none => none
    | some (ans, dirs) => some (ans, { w with dirs })
  | .units (.startTransientUnit ..), .unit result => some (result, w)
  | .units (.stopUnit _), .unit result => some (result, w)
  | .units (.resetFailed _), .unit result => some (result, w)
  | .units .listManagedUnits, .units result => some (result, w)
  | .collect slot, .remove removal => some ((), w.collect slot removal)
  | .insertAdopted slot record kind now, .write outcome =>
    let entry := RegistryState.adoptedEntry reg record kind now
    match w.dirs.write slot (·.writeRecord entry.record) outcome with
    | none => none
    | some (_, dirs) => some ((), { w with state := w.state.insertAdopted slot entry, dirs })
  | .nowMs, .time now => some (now, w)
  | .sleepMs _, .go => some ((), w)
  | .nextExecId, .id result => some (result, w)
  | .sendResolution channel result, .go =>
    some ((), { w with channels := w.channels.modify channel fun c =>
      { c with resolution := some result } })
  | .awaitResolution channel, .go =>
    match w.channels[channel]?.bind (·.resolution) with
    | none => none
    | some result => some (result, w)
  | .awaitResolution _, .timeout => some (.error .internal, w)
  | _, _ => none

end World

/-! ## calls and notes -/

/-- What a task was started for. -/
inductive Call where
  | create (req : CreateRequest)
  | inspect (execId bootId : String)
  | wait (execId bootId : String) (knownGeneration : Option Nat) (timeoutMs : Nat)
  | readLogs (execId bootId : String) (stream : Stream) (offset maxLen : Nat)
  | list (bootId : String)
  | cancel (execId bootId : String)
  | reap
  | startup

namespace Call

def execId : Call → Option String
  | create req => req.execId
  | inspect execId _ | wait execId .. | readLogs execId .. | cancel execId _ => some execId
  | list _ | reap | startup => none

/-- Calls that go through the slots, for no exec in particular. -/
def keeper : Call → Bool
  | list _ | reap | startup => true
  | _ => false

def isReap : Call → Bool
  | reap => true
  | _ => false

def isStartup : Call → Bool
  | startup => true
  | _ => false

end Call

/-- How far a create has come with its slot directory. -/
inductive Stage where
  | reserved | scrubbed | persisted
deriving DecidableEq

/-- What a task knows of a slot. -/
inductive Hold where
  | none
  /-- sweeping the units of slots that are not among these -/
  | sweep (adopted : List Nat)
  /-- a visible entry, of this id if one is given -/
  | entry (execId : Option String) (slot : Nat)
  /-- the task's own creating entry -/
  | fresh (execId : String) (slot channel : Nat) (stage : Stage)
  /-- a recovered dispatch -/
  | dispatch (slot : Nat)
  /-- a record on disk to be adopted, and its status once that was read -/
  | dir (slot : Nat) (record : DurableRecord) (status : Option (Option StatusPhase))
  /-- waiting for the create of another task -/
  | waiting (execId : String) (channel : Nat)

namespace Hold

def slot : Hold → Option Nat
  | entry _ slot | fresh _ slot _ _ | dispatch slot | dir slot _ _ => some slot
  | none | sweep _ | waiting _ _ => Option.none

def committed : Hold → Hold
  | fresh execId slot _ _ => entry (some execId) slot
  | dispatch slot => entry Option.none slot
  | hold => hold

def atStage : Hold → Stage → Hold
  | fresh execId slot channel _, stage => fresh execId slot channel stage
  | hold, _ => hold

/-- The status of the record to be adopted was read. -/
def withStatus : Hold → Option StatusPhase → Hold
  | dir slot record _, status => dir slot record (some status)
  | hold, _ => hold

end Hold

structure Note where
  call : Call
  /-- the id the call is about -/
  target : Option String
  hold : Hold
  /-- the status read last -/
  seen : Option StatusPhase
  /-- the record about to be written -/
  pending : Option DurableRecord

namespace Note

def start (call : Call) : Note :=
  { call, target := call.execId, hold := .none, seen := none, pending := none }

/-- The note after a critical section. -/
def afterLock (note : Note) : (sec : Section) → sec.Ans → Note
  | .admission _ execId _, .ok (.reserved slot channel) =>
    { note with hold := .fresh execId slot channel .reserved }
  | .admission _ execId _, .ok (.replayCreating channel) =>
    { note with hold := .waiting execId channel }
  | .resolveSlot execId, .ok slot => { note with hold := .entry (some execId) slot }
  | .entryRecord _, record => { note with pending := record }
  | .removeEntry _, _ => { note with hold := .none }
  | .commitRunning _, record => { note with hold := note.hold.committed, pending := record }
  | .commitTerminal .., record => { note with hold := note.hold.committed, pending := record }
  | .promoteHold _, record => { note with hold := note.hold.committed, pending := record }
  | .markLost .., record => { note with pending := record }
  | .peek slot, ans =>
    if note.hold.slot = some slot then note
    else
      match ans with
      | some (false, _) => { note with hold := .entry none slot, seen := none, pending := none }
      | _ => { note with hold := .none }
  | .survey slot, ans =>
    match ans with
    | some (false, true, _) => { note with hold := .dispatch slot, seen := none, pending := none }
    | some (false, false, _) =>
      { note with hold := .entry none slot, seen := none, pending := none }
    | _ => { note with hold := .none }
  | .visibleEntries, _ => { note with hold := .none }
  | .slotKeys, keys =>
    match note.hold with
    | .sweep _ => { note with hold := .none }
    | _ => { note with hold := .sweep keys }
  | .overBudgetVictim, ans =>
    match ans with
    | some slot => { note with hold := .entry none slot, seen := none, pending := none }
    | none => { note with hold := .none }
  | _, _ => note

def afterStore (note : Note) : (op : StoreOp) → op.Ans → Note
  | .readStatus _, .ok status => { note with hold := note.hold.withStatus status, seen := status }
  | .readStatus _, .error _ => { note with hold := note.hold.withStatus none, seen := none }
  | .scrubSlotFiles _, .ok () =>
    { note with hold := note.hold.atStage .scrubbed, seen := none }
  | .writeRecord .., .ok () => { note with hold := note.hold.atStage .persisted, pending := none }
  | .writeRecord .., .error _ => { note with pending := none }
  | .readRecord slot, .ok record =>
    { note with hold := .dir slot record none, seen := none, pending := none }
  | _, _ => note

def next (note : Note) : (op : Op) → op.Ans → Note
  | .lock sec, ans => note.afterLock sec ans
  | .store op, ans => note.afterStore op ans
  | .collect _, _ => { note with hold := .none }
  | .insertAdopted slot _ kind _, _ =>
    match kind with
    | .dispatchHold => { note with hold := .none }
    | _ => { note with hold := .entry none slot, seen := none, pending := none }
  | .nextExecId, .ok execId => { note with target := some execId }
  | _, _ => note

end Note

/-! ## the system -/

inductive Reply where
  | created (result : Except ExecError (String × ExecSnapshot))
  | inspected (result : Except ExecError ExecSnapshot)
  | waited (result : Except ExecError (ExecSnapshot × Bool))
  | logs (result : Except ExecError ExecRunner.RingChunk)
  | listed (result : Except ExecError (List ExecListEntryData))
  | cancelled (result : Except ExecError Bool)
  | finished

/-- The method a call runs. -/
def DetachedRegistry.serve (reg : DetachedRegistry) : Call → Method Reply
  | .create req => .created <$> reg.create req
  | .inspect execId bootId => .inspected <$> reg.inspect execId bootId
  | .wait execId bootId known timeoutMs => .waited <$> reg.wait execId bootId known timeoutMs
  | .readLogs execId bootId stream offset maxLen =>
    .logs <$> reg.readLogs execId bootId stream offset maxLen
  | .list bootId => .listed <$> reg.list bootId
  | .cancel execId bootId => .cancelled <$> reg.cancel execId bootId
  | .reap => (fun _ => .finished) <$> reg.reapOnce
  | .startup => (fun _ => .finished) <$> reg.reconcileOnStartup

abbrev RegistrySystem := Pool registrySig Note Reply World

inductive RegistryAction where
  | spawn (call : Call)
  | step (i : Nat) (input : Input)
  /-- a runner writes its status file -/
  | publish (slot : Nat) (phase : StatusPhase)
  /-- guestd dies and is started again -/
  | crash

/-- A runner publishes at most one `Started`, then at most one terminal phase. -/
def mayPublish : Option StatusPhase → StatusPhase → Bool
  | none, _ => true
  | some .started, phase => phase.isTerminal
  | some _, _ => false

namespace RegistrySystem

variable (reg : DetachedRegistry)

def taskFor (call : Call) : Thread registrySig Note Reply := ⟨.start call, reg.serve call⟩

/-- guestd starts on what is on disk. -/
def started (dirs : Dirs) : RegistrySystem :=
  { world := { state := .new, dirs, channels := [] }, tasks := [taskFor reg .startup] }

/-- A boot: the directory under `/run` is empty. -/
def boot : RegistrySystem := started reg fun _ => .empty

/-- Calls are served once startup is done; the reaper makes one pass at a time. -/
def mayStart (s : RegistrySystem) (call : Call) : Bool :=
  !call.isStartup &&
    s.tasks.all fun t =>
      t.prog.finished || !(t.note.call.isStartup || (call.isReap && t.note.call.isReap))

def act (s : RegistrySystem) : RegistryAction → Option RegistrySystem
  | .spawn call =>
    if mayStart s call then some { s with tasks := s.tasks ++ [taskFor reg call] } else none
  | .step i input => s.step Note.next (World.exec reg) reg.loopBody i input
  | .publish slot phase =>
    if (s.world.dirs slot).present ∧ mayPublish (s.world.dirs slot).published phase then
      some
        { s with
          world :=
            { s.world with
              dirs := Function.update s.world.dirs slot
                { s.world.dirs slot with status := some phase, published := some phase } } }
    else none
  | .crash => some (started reg s.world.dirs)

end RegistrySystem

end D2b.Guestd

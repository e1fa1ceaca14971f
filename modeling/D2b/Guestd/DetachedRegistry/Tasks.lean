import D2b.Guestd.DetachedRegistry
import D2b.Lib.Prog

/-!
# D2b.Guestd.DetachedRegistry.Tasks

The methods of the registry as programs over the registry's mutex, the slot
store, the unit manager and the clock.  A critical section is one operation, so
is each call of the store or the unit manager: between any two of them another
task may run.

The environment answers the operations.  Units, clock and id source answer
anything; a store write may fail, and then may or may not have reached the disk;
a failed removal may leave any of the files.
-/

namespace D2b.Guestd

open ExecRunner

/-! ## operations -/

/-- The critical sections of the registry's mutex. -/
inductive Section where
  | admission (req : CreateRequest) (execId : String) (now : Nat)
  | entryRecord (slot : Nat)
  | removeEntry (slot : Nat)
  | commitRunning (slot : Nat)
  | commitTerminal (slot : Nat) (terminal : RecordState) (exitCode : Option Int)
      (termSignal : Option Nat) (now : Nat)
  | markLost (slot now : Nat)
  | promoteHold (slot : Nat)
  | resolveSlot (execId : String)
  | takeReadGuard (slot : Nat) (execId : String)
  | dropReadGuard (slot : Nat)
  | visibleSlots
  | visibleEntries
  /-- `(hidden, terminal)` at the head of `reconcile_slot` -/
  | peek (slot : Nat)
  | isTerminal (slot : Nat)
  | withinDeadline (slot now : Nat)
  | pastDeadline (slot now : Nat)
  | slotKeys
  /-- `(creating, dispatch_hold, terminal, terminal_time)` of the reaper -/
  | survey (slot : Nat)
  | overBudgetVictim
  | snapshotEntry (slot : Nat)

@[reducible] def Section.Ans : Section → Type
  | .admission .. => Except ExecError CreateAdmission
  | .entryRecord _ => Option DurableRecord
  | .removeEntry _ => Unit
  | .commitRunning _ => Option DurableRecord
  | .commitTerminal .. => Option DurableRecord
  | .markLost .. => Option DurableRecord
  | .promoteHold _ => Option DurableRecord
  | .resolveSlot _ => Except ExecError Nat
  | .takeReadGuard .. => Except ExecError Unit
  | .dropReadGuard _ => Unit
  | .visibleSlots => List Nat
  | .visibleEntries => List (Nat × DurableRecord)
  | .peek _ => Option (Bool × Bool)
  | .isTerminal _ => Bool
  | .withinDeadline .. => Bool
  | .pastDeadline .. => Option Bool
  | .slotKeys => List Nat
  | .survey _ => Option (Bool × Bool × Bool × Option Nat)
  | .overBudgetVictim => Option Nat
  | .snapshotEntry _ => Option (DurableRecord × Nat)

inductive StoreOp where
  | prepareSlotDir (slot : Nat)
  | writeRecord (slot : Nat) (record : DurableRecord)
  | readRecord (slot : Nat)
  | writeSpec (slot : Nat) (spec : ExecSpec)
  | readSpec (slot : Nat)
  | writeCancel (slot : Nat)
  | readStatus (slot : Nat)
  | readLogMeta (slot : Nat) (stream : Stream)
  | readLog (slot : Nat) (stream : Stream) (offset maxLen : Nat)
  | markLost (slot : Nat)
  | deleteSlotDir (slot : Nat)
  | scrubSlotFiles (slot : Nat)
  | validateAuthenticity (slot : Nat)
  | listSlotDirs

@[reducible] def StoreOp.Ans : StoreOp → Type
  | .readRecord _ => Except ExecError DurableRecord
  | .readSpec _ => Except ExecError ExecSpec
  | .readStatus _ => Except ExecError (Option StatusPhase)
  | .readLogMeta .. => Except ExecError (Option StreamMeta)
  | .readLog .. => Except FileRingError ExecRunner.RingChunk
  | .listSlotDirs => Except ExecError (List Nat)
  | .prepareSlotDir _ | .writeRecord .. | .writeSpec .. | .writeCancel _ | .markLost _
  | .deleteSlotDir _ | .scrubSlotFiles _ | .validateAuthenticity _ => Except ExecError Unit

inductive UnitOp where
  | startTransientUnit (slot ceilingSec : Nat)
  | stopUnit (slot : Nat)
  | resetFailed (slot : Nat)
  | listManagedUnits

@[reducible] def UnitOp.Ans : UnitOp → Type
  | .startTransientUnit .. | .stopUnit _ | .resetFailed _ => Except UnitError Unit
  | .listManagedUnits => Except UnitError (List ManagedUnit)

inductive Op where
  | lock (sec : Section)
  | store (op : StoreOp)
  | units (op : UnitOp)
  /-- the critical section of `gc_slot`, which unlinks under the mutex -/
  | collect (slot : Nat)
  /-- `insert_adopted`, which writes the record under the mutex -/
  | insertAdopted (slot : Nat) (record : DurableRecord) (kind : AdoptKind) (now : Nat)
  | nowMs
  | sleepMs (ms : Nat)
  | nextExecId
  | sendResolution (channel : Nat) (result : Except ExecError ExecSnapshot)
  | awaitResolution (channel : Nat)

@[reducible] def Op.Ans : Op → Type
  | .lock sec => sec.Ans
  | .store op => op.Ans
  | .units op => op.Ans
  | .collect _ => Unit
  | .insertAdopted .. => Unit
  | .nowMs => Nat
  | .sleepMs _ => Unit
  | .nextExecId => Except ExecError String
  | .sendResolution .. => Unit
  | .awaitResolution _ => Except ExecError ExecSnapshot

/-- The heads of the loops. -/
inductive Loop where
  | createLoop (slot : Nat) (execId : String) (start : Nat)
  | waitLoop (slot start : Nat) (knownGeneration : Option Nat) (timeoutMs : Nat)
  | cancelLoop (slot start : Nat)
  | evictLoop

/-- What a loop ends with; the cancel loop, whether the exec became terminal in time. -/
@[reducible] def Loop.Ret : Loop → Type
  | .createLoop .. => Except ExecError (String × ExecSnapshot)
  | .waitLoop .. => Except ExecError (ExecSnapshot × Bool)
  | .cancelLoop .. => Bool
  | .evictLoop => Unit

/-- The language of the registry's methods. -/
def registrySig : Signature := { Op, Ans := Op.Ans, Proc := Loop, Ret := Loop.Ret }

abbrev Method (α : Type) := Prog registrySig α

/-! ## methods -/

namespace DetachedRegistry

def lock (sec : Section) : Method sec.Ans := Prog.op (S := registrySig) (.lock sec)
def store (op : StoreOp) : Method op.Ans := Prog.op (S := registrySig) (.store op)
def units (op : UnitOp) : Method op.Ans := Prog.op (S := registrySig) (.units op)
def collect (slot : Nat) : Method Unit := Prog.op (S := registrySig) (.collect slot)
def nowMs : Method Nat := Prog.op (S := registrySig) .nowMs
def sleepMs (ms : Nat) : Method Unit := Prog.op (S := registrySig) (.sleepMs ms)
def loop (l : Loop) : Method l.Ret := Prog.proc (S := registrySig) l

variable (reg : DetachedRegistry)

/-! ### helpers -/

variable (slot : Nat)

/-- Stop a unit and clear its failure, best effort. -/
def stopAndReset : Method Unit := do
  let _ ← units (.stopUnit slot)
  let _ ← units (.resetFailed slot)
  pure ()

/-- Write back the record of a critical section, best effort. -/
def writeBack : Option DurableRecord → Method Unit
  | none => pure ()
  | some record => do
    let _ ← store (.writeRecord slot record)
    pure ()

def commitRunning (slot : Nat) : Method Unit := do
  let record ← lock (.commitRunning slot)
  writeBack slot record

def commitTerminal (slot : Nat) (terminal : RecordState) (exitCode : Option Int)
    (termSignal : Option Nat) : Method Unit := do
  let now ← nowMs
  let record ← lock (.commitTerminal slot terminal exitCode termSignal now)
  writeBack slot record

def markLost (slot : Nat) : Method Unit := do
  let now ← nowMs
  match ← lock (.markLost slot now) with
  | none => pure ()
  | some record => do
    let _ ← store (.markLost slot)
    writeBack slot (some record)

def streamMeta (stream : Stream) : Method (Option StreamMeta) := do
  match ← store (.readLogMeta slot stream) with
  | .ok info => pure info
  | .error _ => pure none

def snapshotFor : Method (Except ExecError ExecSnapshot) := do
  match ← lock (.snapshotEntry slot) with
  | none => pure (.error .internal)
  | some (record, generation) => do
    let stdout ← streamMeta slot .stdout
    let stderr ← streamMeta slot .stderr
    pure (.ok (snapshotOf record generation (stdout.getD zeroMeta) (stderr.getD zeroMeta)))

/-! ### units -/

def classifyWorkloadUnit (unit : ManagedUnit) (slot : Nat) : Method UnitClass :=
  if !unit.active then pure .foreign
  else
    match unit.identity with
    | .unqueried => pure .unknown
    | .queried identity => do
      match ← store (.readSpec slot) with
      | .error _ => pure .foreign
      | .ok spec =>
        pure (if reg.workloadIdentityMatches identity slot spec then .live else .foreign)

/-- Classify a slot against an already-fetched unit list. -/
def classifyUnit (present : List ManagedUnit) (slot : Nat) : Method SlotLiveness :=
  let runner := present.find? fun u => decide (u.slot = slot ∧ u.kind = .runner)
  let workload := present.find? fun u => decide (u.slot = slot ∧ u.kind = .workload)
  let runnerState := runner.map fun unit => reg.classifyRunnerUnit unit slot
  match workload with
  | none => pure (slotLiveness runnerState none)
  | some unit => do
    let workloadState ← reg.classifyWorkloadUnit unit slot
    pure (slotLiveness runnerState (some workloadState))

def unitLiveness : Method SlotLiveness := do
  match ← units .listManagedUnits with
  | .ok present => reg.classifyUnit present slot
  | .error _ => pure .unknown

/-! ### live reconciliation -/

/-- A published terminal status wins regardless of unit liveness. -/
def adoptStatus (terminal : RecordState) (exitCode : Option Int)
    (termSignal : Option Nat) : Method Unit := do
  stopAndReset slot
  commitTerminal slot terminal exitCode termSignal

/-- No unit and no terminal status: lost, unless within the dispatch deadline. -/
def reconcileNoUnit : Method Unit := do
  let now ← nowMs
  let within ← lock (.withinDeadline slot now)
  if within then pure () else markLost slot

/-- No terminal status: resolve against the unit's verified liveness. -/
def reconcileUnit : Method Unit := do
  match ← reg.unitLiveness slot with
  | .live | .unknown => pure ()
  | .orphanWorkload => do
    match ← units (.stopUnit slot) with
    | .error _ => pure ()
    | .ok () => reconcileNoUnit slot
  | .foreign => do
    match ← units (.stopUnit slot) with
    | .error _ => pure ()
    | .ok () => do
      let _ ← units (.resetFailed slot)
      reconcileNoUnit slot
  | .absent => reconcileNoUnit slot

def reconcileStatus : Except ExecError (Option StatusPhase) → Method Unit
  | .ok (some (.exited code)) => adoptStatus slot .exited (some code) none
  | .ok (some (.signaled signal)) => adoptStatus slot .signaled none (some (asU32 signal))
  | .ok (some .cancelled) => adoptStatus slot .cancelled none none
  | .ok (some .spawnFailed) => adoptStatus slot .spawnFailed none none
  | .ok (some .started) => do
    commitRunning slot
    reg.reconcileUnit slot
  | .ok (some .infraFailed) | .ok none | .error _ => reg.reconcileUnit slot

/-- Reconcile one live record against its unit and status. -/
def reconcileSlot : Method Unit := do
  match ← lock (.peek slot) with
  | none => pure ()
  | some (hidden, terminal) =>
    if hidden || terminal then pure ()
    else do
      let status ← store (.readStatus slot)
      reg.reconcileStatus slot status

/-! ### reads -/

def inspect (execId bootId : String) : Method (Except ExecError ExecSnapshot) :=
  if bootId ≠ reg.config.bootId then pure (.error .staleSession)
  else do
    match ← lock (.resolveSlot execId) with
    | .error e => pure (.error e)
    | .ok slot => do
      reg.reconcileSlot slot
      snapshotFor slot

def waitLoop (slot start : Nat) (knownGeneration : Option Nat) (timeoutMs : Nat) :
    Method (Except ExecError (ExecSnapshot × Bool)) := do
  reg.reconcileSlot slot
  match ← snapshotFor slot with
  | .error e => pure (.error e)
  | .ok snapshot =>
    let generationChanged := knownGeneration.any fun known => known != snapshot.stateGeneration
    if snapshot.state ≠ .running ∨ generationChanged then pure (.ok (snapshot, false))
    else do
      let now ← nowMs
      if now - start ≥ timeoutMs then pure (.ok (snapshot, true))
      else do
        sleepMs statusPollIntervalMs
        loop (.waitLoop slot start knownGeneration timeoutMs)

def wait (execId bootId : String) (knownGeneration : Option Nat) (timeoutMs : Nat) :
    Method (Except ExecError (ExecSnapshot × Bool)) :=
  if bootId ≠ reg.config.bootId then pure (.error .staleSession)
  else do
    match ← lock (.resolveSlot execId) with
    | .error e => pure (.error e)
    | .ok slot => do
      let start ← nowMs
      loop (.waitLoop slot start knownGeneration timeoutMs)

def readLogs (execId bootId : String) (stream : Stream) (offset maxLen : Nat) :
    Method (Except ExecError ExecRunner.RingChunk) :=
  if bootId ≠ reg.config.bootId then pure (.error .staleSession)
  else do
    match ← lock (.resolveSlot execId) with
    | .error e => pure (.error e)
    | .ok slot => do
      -- the guard defers a collection for the read's duration
      match ← lock (.takeReadGuard slot execId) with
      | .error e => pure (.error e)
      | .ok () => do
        let result ← store (.readLog slot stream offset maxLen)
        lock (.dropReadGuard slot)
        pure (result.mapError mapRingError)

def reconcileSlots : List Nat → Method Unit
  | [] => pure ()
  | slot :: slots => do
    reg.reconcileSlot slot
    reconcileSlots slots

def listEntries : List (Nat × DurableRecord) → Method (List ExecListEntryData)
  | [] => pure []
  | (slot, record) :: entries => do
    let stdout ← streamMeta slot .stdout
    let stderr ← streamMeta slot .stderr
    let rest ← listEntries entries
    pure
      ({ execId := record.execId
         slot
         state := publicState record
         createTimeUnix := record.createTimeUnix
         argvSha256 := record.argvSha256
         stdoutTruncated := stdout.any fun m => m.truncated || m.lost
         stderrTruncated := stderr.any fun m => m.truncated || m.lost
         droppedBytes :=
          (stdout.elim 0 (·.droppedBytes)) + (stderr.elim 0 (·.droppedBytes)) } :: rest)

def list (bootId : String) : Method (Except ExecError (List ExecListEntryData)) :=
  if bootId ≠ reg.config.bootId then pure (.error .staleSession)
  else do
    let slots ← lock .visibleSlots
    reg.reconcileSlots slots
    let entries ← lock .visibleEntries
    let out ← listEntries entries
    pure (.ok out)

/-! ### two-phase cancel -/

def cancelLoop (slot start : Nat) : Method Bool := do
  reg.reconcileSlot slot
  if ← lock (.isTerminal slot) then pure true
  else do
    let now ← nowMs
    if now - start ≥ cancelDeadlineMs then pure false
    else do
      sleepMs statusPollIntervalMs
      loop (.cancelLoop slot start)

/-- Last-resort backstop: a stop that fails leaves a live exec running. -/
def cancelBackstop : Method Unit := do
  let stopped ← units (.stopUnit slot)
  match stopped with
  | .ok () => do
    let _ ← units (.resetFailed slot)
    reg.reconcileSlot slot
    if ← lock (.isTerminal slot) then pure () else markLost slot
  | .error _ => do
    reg.reconcileSlot slot
    if ← lock (.isTerminal slot) then pure ()
    else do
      match ← reg.unitLiveness slot with
      | .absent => markLost slot
      | _ => pure ()

/-- `true` when the exec was already terminal. -/
def cancel (execId bootId : String) : Method (Except ExecError Bool) :=
  if bootId ≠ reg.config.bootId then pure (.error .staleSession)
  else do
    match ← lock (.resolveSlot execId) with
    | .error e => pure (.error e)
    | .ok slot => do
      reg.reconcileSlot slot
      if ← lock (.isTerminal slot) then pure (.ok true)
      else do
        match ← store (.writeCancel slot) with
        | .error e => pure (.error e)
        | .ok () => do
          let start ← nowMs
          if ← loop (.cancelLoop slot start) then pure (.ok false)
          else do
            reg.cancelBackstop slot
            pure (.ok false)

/-! ### creation -/

/-- Tear down a failed in-flight create. -/
def abortCreate : Method Unit := do
  stopAndReset slot
  let _ ← store (.deleteSlotDir slot)
  lock (.removeEntry slot)

def persistDispatch (spec : ExecSpec) : Method (Except ExecError Unit) := do
  match ← store (.prepareSlotDir slot) with
  | .error e => pure (.error e)
  | .ok () => do
    -- a reused slot must not inherit a prior occupant's files
    match ← store (.scrubSlotFiles slot) with
    | .error e => pure (.error e)
    | .ok () => do
      match ← lock (.entryRecord slot) with
      | none => pure (.error .internal)
      | some record => do
        match ← store (.writeRecord slot record) with
        | .error e => pure (.error e)
        | .ok () => store (.writeSpec slot spec)

/-- A create that resolved: its id and the snapshot of its slot. -/
def created (execId : String) : Method (Except ExecError (String × ExecSnapshot)) := do
  let snapshot ← snapshotFor slot
  pure (snapshot.map fun snapshot => (execId, snapshot))

def abortWith (error : ExecError) : Method (Except ExecError (String × ExecSnapshot)) := do
  abortCreate slot
  pure (.error error)

/-- No phase marker yet: at the timeout, resolve by the unit. -/
def createTimedOut (execId : String) : Method (Except ExecError (String × ExecSnapshot)) := do
  match ← reg.unitLiveness slot with
  | .live | .unknown => do
    commitRunning slot
    created slot execId
  | .absent | .foreign | .orphanWorkload => abortWith slot .internal

/-- One round of `await_create_resolution`. -/
def createLoop (slot : Nat) (execId : String) (start : Nat) :
    Method (Except ExecError (String × ExecSnapshot)) := do
  match ← store (.readStatus slot) with
  | .error e => abortWith slot e
  | .ok (some .started) => do
    commitRunning slot
    created slot execId
  | .ok (some (.exited code)) => do
    commitTerminal slot .exited (some code) none
    created slot execId
  | .ok (some (.signaled signal)) => do
    commitTerminal slot .signaled none (some (asU32 signal))
    created slot execId
  | .ok (some .cancelled) => do
    commitTerminal slot .cancelled none none
    created slot execId
  | .ok (some .spawnFailed) => do
    commitTerminal slot .spawnFailed none none
    created slot execId
  | .ok (some .infraFailed) => abortWith slot .retainedLogPathUnsafe
  | .ok none => do
    let now ← nowMs
    if now - start ≥ createTimeoutMs then reg.createTimedOut slot execId
    else do
      sleepMs statusPollIntervalMs
      loop (.createLoop slot execId start)

def executeReservedCreate (execId : String) (req : CreateRequest) :
    Method (Except ExecError (String × ExecSnapshot)) :=
  match req.command.buildSpec req.caps slot with
  | .error e => abortWith slot e
  | .ok spec => do
    match ← persistDispatch slot spec with
    | .error e => abortWith slot e
    | .ok () => do
      match ← units (.startTransientUnit slot req.caps.maxRuntimeSec) with
      | .error _ => abortWith slot .internal
      | .ok () => do
        let start ← nowMs
        loop (.createLoop slot execId start)

def createAs (req : CreateRequest) (execId : String) :
    Method (Except ExecError (String × ExecSnapshot)) := do
  let now ← nowMs
  match ← lock (.admission req execId now) with
  | .error e => pure (.error e)
  | .ok .replayVisible => do
    let snapshot ← reg.inspect execId req.bootId
    pure (snapshot.map fun snapshot => (execId, snapshot))
  | .ok (.replayCreating channel) => do
    let result ← Prog.op (S := registrySig) (.awaitResolution channel)
    pure (result.map fun snapshot => (execId, snapshot))
  | .ok (.reserved slot channel) => do
    let result ← executeReservedCreate slot execId req
    Prog.op (S := registrySig) (.sendResolution channel (result.map (·.2)))
    pure result

def create (req : CreateRequest) : Method (Except ExecError (String × ExecSnapshot)) :=
  if req.bootId ≠ reg.config.bootId then pure (.error .staleSession)
  else
    match req.execId with
    | some execId =>
      if isValidExecId execId then reg.createAs req execId else pure (.error .invalidArgv)
    | none => do
      match ← Prog.op (S := registrySig) .nextExecId with
      | .error e => pure (.error e)
      | .ok execId => reg.createAs req execId

/-! ### the reaper -/

/-- Stop each present unit whose slot is not adopted, once. -/
def stopOrphans (adopted : List Nat) : List Nat → List ManagedUnit → Method Unit
  | _, [] => pure ()
  | stopped, unit :: present =>
    if unit.slot ∈ adopted ∨ unit.slot ∈ stopped then stopOrphans adopted stopped present
    else do
      stopAndReset unit.slot
      stopOrphans adopted (unit.slot :: stopped) present

def sweepOrphanUnits : Method Unit := do
  match ← units .listManagedUnits with
  | .error _ => pure ()
  | .ok present => do
    let adopted ← lock .slotKeys
    stopOrphans adopted [] present

def gcSlot : Method Unit := do
  stopAndReset slot
  collect slot

/-- Delete a held dispatch that never registered a unit. -/
def deleteDispatchHold : Method Unit := do
  match ← store (.deleteSlotDir slot) with
  | .error _ => pure ()
  | .ok () => lock (.removeEntry slot)

/-- A late unit appeared for a held dispatch. -/
def promoteDispatchHold : Method Unit := do
  let record ← lock (.promoteHold slot)
  writeBack slot record

/-- A held dispatch without a conclusive status: resolve by the unit. -/
def resolveHoldByUnit (past : Bool) : Method Unit := do
  match ← reg.unitLiveness slot with
  | .live => promoteDispatchHold slot
  | .unknown => pure ()
  | .orphanWorkload | .foreign => do
    match ← units (.stopUnit slot) with
    | .error _ => pure ()
    | .ok () => do
      let _ ← units (.resetFailed slot)
      if past then deleteDispatchHold slot else pure ()
  | .absent => if past then deleteDispatchHold slot else pure ()

/-- Resolve a held dispatch once its status was read. -/
def resolveHold (past : Bool) : Except ExecError (Option StatusPhase) → Method Unit
  | .ok (some .started) => promoteDispatchHold slot
  | .ok (some .infraFailed) => do
    stopAndReset slot
    deleteDispatchHold slot
  | .ok status =>
    match statusToTerminal status with
    | some (terminal, code, signal) => do
      stopAndReset slot
      commitTerminal slot terminal code signal
    | none => reg.resolveHoldByUnit slot past
  | .error _ => reg.resolveHoldByUnit slot past

def resolveDispatchHold : Method Unit := do
  let now ← nowMs
  match ← lock (.pastDeadline slot now) with
  | none => pure ()
  | some past => do
    let status ← store (.readStatus slot)
    reg.resolveHold slot past status

def reapSlot : Method Unit := do
  match ← lock (.survey slot) with
  | none => pure ()
  | some (creating, dispatchHold, terminal, terminalTime) =>
    if creating then pure ()
    else if dispatchHold then reg.resolveDispatchHold slot
    else if !terminal then reg.reconcileSlot slot
    else
      match terminalTime with
      | none => pure ()
      | some time => do
        let now ← nowMs
        if now - time ≥ retentionTtlMs then gcSlot slot else pure ()

def reapSlots : List Nat → Method Unit
  | [] => pure ()
  | slot :: slots => do
    reg.reapSlot slot
    reapSlots slots

def reapOnce : Method Unit := do
  sweepOrphanUnits
  let slots ← lock .slotKeys
  reg.reapSlots slots

/-! ### startup re-adoption -/

def insertAdopted (slot : Nat) (record : DurableRecord) (kind : AdoptKind) : Method Unit := do
  let now ← nowMs
  Prog.op (S := registrySig) (.insertAdopted slot record kind now)

/-- A record with no terminal status and no live unit. -/
def adoptNoUnit (record : DurableRecord) : Method Unit :=
  if record.state = .dispatching then do
    let now ← nowMs
    if now < record.dispatchDeadlineUnix then insertAdopted slot record .dispatchHold
    else do
      match ← store (.deleteSlotDir slot) with
      | .error _ => insertAdopted slot record .dispatchHold
      | .ok () => pure ()
  else do
    insertAdopted slot record .running
    markLost slot

/-- Stop the unit and delete the directory of a slot that is not adopted. -/
def quarantine : Method Unit := do
  stopAndReset slot
  let _ ← store (.deleteSlotDir slot)
  pure ()

/-- No terminal status: branch on the unit's verified liveness. -/
def adoptLive (record : DurableRecord) : SlotLiveness → Method Unit
  | .live => insertAdopted slot record .running
  | .foreign => do
    match ← units (.stopUnit slot) with
    | .error _ => insertAdopted slot record .running
    | .ok () => do
      let _ ← units (.resetFailed slot)
      adoptNoUnit slot record
  | .orphanWorkload => do
    match ← units (.stopUnit slot) with
    | .error _ => insertAdopted slot record .running
    | .ok () => adoptNoUnit slot record
  | .absent => adoptNoUnit slot record
  | .unknown =>
    if record.state = .dispatching then insertAdopted slot record .dispatchHold
    else insertAdopted slot record .running

/-- The reconciliation matrix, once record and status were read. -/
def adoptRecord (liveness : SlotLiveness) (record : DurableRecord)
    (status : Option StatusPhase) : Method Unit :=
  match statusToTerminal status with
  | some (terminal, code, signal) =>
    if status = some .infraFailed then quarantine slot
    else if liveness = .live ∨ liveness = .orphanWorkload ∨ liveness = .foreign then do
      stopAndReset slot
      insertAdopted slot record (.terminal terminal code signal)
    else insertAdopted slot record (.terminal terminal code signal)
  | none => adoptLive slot record liveness

def adoptSlot (liveness : SlotLiveness) : Method Unit := do
  match ← store (.validateAuthenticity slot) with
  | .error _ => quarantine slot
  | .ok () => do
    match ← store (.readRecord slot) with
    | .error _ => do
      let _ ← store (.deleteSlotDir slot)
      pure ()
    | .ok record =>
      if !isValidExecId record.execId then do
        let _ ← store (.deleteSlotDir slot)
        pure ()
      else if record.bootId ≠ reg.config.bootId then quarantine slot
      else do
        match ← store (.readStatus slot) with
        | .error _ => adoptRecord slot liveness record none
        | .ok status => adoptRecord slot liveness record status

def adoptSlots (present : Except UnitError (List ManagedUnit)) : List Nat → Method Unit
  | [] => pure ()
  | slot :: slots => do
    let liveness ← match present with
      | .ok present => reg.classifyUnit present slot
      | .error _ => pure .unknown
    reg.adoptSlot slot liveness
    adoptSlots present slots

/-- Stop the unit of each present unit whose slot was not adopted. -/
def stopUnadopted (adopted : List Nat) : List ManagedUnit → Method Unit
  | [] => pure ()
  | unit :: present =>
    if unit.slot ∈ adopted then stopUnadopted adopted present
    else do
      stopAndReset unit.slot
      stopUnadopted adopted present

/-- One round of `evict_over_budget`. -/
def evictLoop : Method Unit := do
  match ← lock .overBudgetVictim with
  | none => pure ()
  | some slot => do
    gcSlot slot
    loop .evictLoop

def reconcileOnStartup : Method Unit := do
  match ← store .listSlotDirs with
  | .error _ => pure ()
  | .ok slots => do
    let present ← units .listManagedUnits
    reg.adoptSlots present slots
    match present with
    | .error _ => loop .evictLoop
    | .ok present => do
      let adopted ← lock .slotKeys
      stopUnadopted adopted present
      loop .evictLoop

/-- The bodies of the loops. -/
def loopBody : (l : Loop) → Method l.Ret
  | .createLoop slot execId start => reg.createLoop slot execId start
  | .waitLoop slot start known timeoutMs => reg.waitLoop slot start known timeoutMs
  | .cancelLoop slot start => reg.cancelLoop slot start
  | .evictLoop => evictLoop

end DetachedRegistry

end D2b.Guestd

import D2b.Guestd.Exec

/-!
# D2b.Guestd.Exec.Output

One exec with everything that runs on it: a reader task for each stream that
drains the child's output, the supervisor, `cancel`, the teardown of an
interactive session, and the `read_output` calls of clients.

A task runs from one await to the next, with a step for each time it takes
the lock, so tasks on other threads may act in between.  Aborting a task
keeps it from being polled again; a poll that is under way goes on to its
next await that does not return at once.
-/

namespace D2b.Guestd

/-! ## tasks -/

inductive ReaderPhase where
  /-- waiting in `read`, or not polled yet -/
  | parked
  /-- in a poll, at the head of the loop -/
  | polling
  /-- `read` returned these bytes; they are not in the ring yet -/
  | holding (bytes : List UInt8)
  /-- `read` returned no byte or an error; EOF is not marked yet -/
  | ending
  | finished
deriving DecidableEq

structure ReaderTask where
  phase : ReaderPhase
  aborted : Bool
deriving DecidableEq

/-- A task that never runs again. -/
def ReaderTask.Stopped (task : ReaderTask) : Prop :=
  task.phase = .finished ∨ (task.phase = .parked ∧ task.aborted = true)

instance (task : ReaderTask) : Decidable task.Stopped :=
  inferInstanceAs (Decidable (task.phase = .finished ∨ (task.phase = .parked ∧ _)))

/-- Where the supervisor of an exec without a terminal is. -/
inductive SupervisorPhase where
  /-- in `waiter.wait()` under the runtime ceiling -/
  | waiting
  /-- the ceiling was hit and the group killed; the child is not reaped yet -/
  | killed
  /-- in the drain grace -/
  | draining (outcome : ExitOutcome) (ceilingExceeded : Bool)
  | finished
deriving DecidableEq

/-- Where a call of `cancel` is; it holds the lock of the task list all along. -/
inductive CancelPhase where
  | idle
  | aborting (rest : List Stream)
deriving DecidableEq

/-- Where the teardown of an interactive session is. -/
inductive TeardownPhase where
  | idle
  /-- `Closing`, with the reader tasks that are still to be awaited -/
  | joining (outcome : Option ExitOutcome) (rest : List Stream)
  | terminal
deriving DecidableEq

/-! ## the exec and its tasks -/

/-- The next thing a reader task does. -/
inductive ReaderAction where
  | wake
  | read (bytes : List UInt8)
  | readEnd
  | pend
  | append
  | markEof

inductive SupervisorAction where
  | childExit (outcome : ExitOutcome)
  | ceiling
  | publish

inductive CancelAction where
  | begin
  | abort
  | mark

inductive TeardownAction where
  | begin (outcome : Option ExitOutcome)
  | abort
  | join
  | publish

/-- The next thing a task of the exec does. -/
inductive TaskAction where
  | reader (stream : Stream) (a : ReaderAction)
  | supervisor (a : SupervisorAction)
  | cancel (a : CancelAction)
  | teardown (a : TeardownAction)

/-- One exec and the tasks that run on it.  `drained` records what the reader
tasks got from `read`. -/
structure Exec where
  shared : ExecShared
  tty : Bool
  tasks : List Stream
  readers : Stream → ReaderTask
  supervisor : SupervisorPhase
  cancel : CancelPhase
  teardown : TeardownPhase
  drained : Stream → List UInt8

namespace Exec

/-- An exec that was just created: an interactive one merges stderr into stdout
and marks the stderr ring up front. -/
def create (tty : Bool) : Exec :=
  { shared := if tty then ExecShared.new.setRing .stderr ExecShared.new.stderr.markEof else .new
    tty
    tasks := if tty then [.stdout] else [.stdout, .stderr]
    readers := fun stream =>
      if tty ∧ stream = .stderr then ⟨.finished, false⟩ else ⟨.parked, false⟩
    supervisor := .waiting
    cancel := .idle
    teardown := .idle
    drained := fun _ => [] }

variable (e : Exec)

def setReader (stream : Stream) (task : ReaderTask) : Exec :=
  { e with readers := Function.update e.readers stream task }

/-- `spawn_reader`. -/
def readerStep (stream : Stream) (a : ReaderAction) : Option Exec :=
  let task := e.readers stream
  match a, task.phase with
  | .wake, .parked =>
    if task.aborted then none else some (e.setReader stream { task with phase := .polling })
  | .read bytes, .polling =>
    if bytes ≠ [] ∧ bytes.length ≤ pipeReadChunk then
      some { e.setReader stream { task with phase := .holding bytes } with
        drained := Function.update e.drained stream (e.drained stream ++ bytes) }
    else none
  | .readEnd, .polling => some (e.setReader stream { task with phase := .ending })
  | .pend, .polling => some (e.setReader stream { task with phase := .parked })
  | .append, .holding bytes =>
    some { e.setReader stream { task with phase := .polling } with
      shared := (e.shared.setRing stream ((e.shared.ring stream).append bytes)).bump }
  | .markEof, .ending =>
    some { e.setReader stream { task with phase := .finished } with
      shared := (e.shared.setRing stream (e.shared.ring stream).markEof).bump }
  | _, _ => none

/-- `spawn_supervisor`. -/
def supervisorStep (a : SupervisorAction) : Option Exec :=
  if e.tty then none
  else
    match a, e.supervisor with
    | .childExit outcome, .waiting => some { e with supervisor := .draining outcome false }
    | .childExit outcome, .killed => some { e with supervisor := .draining outcome true }
    | .ceiling, .waiting => some { e with supervisor := .killed }
    | .publish, .draining outcome ceilingExceeded =>
      some { e with
        supervisor := .finished
        shared :=
          if ceilingExceeded then e.shared.terminate .cancelled none
          else e.shared.terminate outcome.state (some outcome) }
    | _, _ => none

/-- `ExecEntry::cancel`; for an interactive exec its callers use the teardown. -/
def cancelStep (a : CancelAction) : Option Exec :=
  if e.tty then none
  else
    match a, e.cancel with
    | .begin, .idle => some { e with cancel := .aborting e.tasks, tasks := [] }
    | .abort, .aborting (stream :: rest) =>
      some { e.setReader stream { e.readers stream with aborted := true } with
        cancel := .aborting rest }
    | .mark, .aborting [] =>
      some { e with
        cancel := .idle
        shared := e.shared.terminate .cancelled e.shared.outcome }
    | _, _ => none

/-- `teardown_tty`, by its first caller. -/
def teardownStep (a : TeardownAction) : Option Exec :=
  if e.tty then
    match a, e.teardown with
    | .begin outcome, .idle => some { e with teardown := .joining outcome e.tasks, tasks := [] }
    | .abort, .joining _ (stream :: _) =>
      some (e.setReader stream { e.readers stream with aborted := true })
    | .join, .joining outcome (stream :: rest) =>
      -- the handle is ready once the task has ended or was dropped
      if (e.readers stream).Stopped then some { e with teardown := .joining outcome rest }
      else none
    | .publish, .joining outcome [] =>
      some { e with
        teardown := .terminal
        shared := e.shared.terminate (outcome.elim .cancelled ExitOutcome.state) outcome }
    | _, _ => none
  else none

/-- One step of a task, if it can happen. -/
def step : TaskAction → Option Exec
  | .reader stream a => e.readerStep stream a
  | .supervisor a => e.supervisorStep a
  | .cancel a => e.cancelStep a
  | .teardown a => e.teardownStep a

end Exec

/-! ## read calls -/

/-- The arguments of `read_output` that concern the stream. -/
structure ReadArgs where
  stream : Stream
  offset : Nat
  maxLen : Nat
  wait : Bool
deriving DecidableEq

inductive ReadCall where
  | idle
  /-- past the fast path, before the pending counter is raised -/
  | entering (args : ReadArgs)
  /-- over the limit, before the counter is lowered again -/
  | refused (args : ReadArgs)
  | waiting (args : ReadArgs)
  | returned (result : Except ExecError (RingChunk × Bool))

structure ReadRecord where
  stream : Stream
  offset : Nat
  chunk : RingChunk
deriving DecidableEq

/-- The next thing a `read_output` call does. -/
inductive ReadAction where
  | begin (args : ReadArgs)
  | enter
  | leave
  | notified
  | timeout
  | drop

/-- The calls on an exec.  `log` records the chunks they returned, oldest first. -/
structure Clients (C : Type) where
  pendingReads : Stream → Nat
  calls : C → ReadCall
  log : List ReadRecord

namespace Clients

variable {C : Type} [DecidableEq C] (k : Clients C)

def setCall (c : C) (call : ReadCall) : Clients C :=
  { k with calls := Function.update k.calls c call }

def reply (c : C) (args : ReadArgs) (result : Except ExecError (RingChunk × Bool)) : Clients C :=
  { k.setCall c (.returned result) with
    log := match result with
      | .ok (chunk, _) => k.log ++ [⟨args.stream, args.offset, chunk⟩]
      | .error _ => k.log }

def raisePending (stream : Stream) : Clients C :=
  { k with pendingReads := Function.update k.pendingReads stream (k.pendingReads stream + 1) }

def lowerPending (stream : Stream) : Clients C :=
  { k with pendingReads := Function.update k.pendingReads stream (k.pendingReads stream - 1) }

/-- `read_output` up to the end of its fast path. -/
def beginRead (e : Exec) (k : Clients C) (c : C) (args : ReadArgs) : Clients C :=
  if e.tty ∧ args.stream = .stderr then k.reply c args (.error .ttyStderrUnavailable)
  else if args.maxLen = 0 then k.reply c args (.error .maxChunkExceeded)
  else
    let args := { args with maxLen := min args.maxLen hardMaxChunkBytes }
    match (e.shared.ring args.stream).read args.offset args.maxLen with
    | .error err => k.reply c args (.error err)
    | .ok chunk =>
      if !args.wait || !chunk.data.isEmpty || chunk.eof then k.reply c args (.ok (chunk, false))
      else k.setCall c (.entering args)

/-- One read of `read_wait_inner`. -/
def waitRead (e : Exec) (k : Clients C) (c : C) (args : ReadArgs) (timedOut : Bool) : Clients C :=
  match (e.shared.ring args.stream).read args.offset args.maxLen with
  | .error err => (k.reply c args (.error err)).lowerPending args.stream
  | .ok chunk =>
    if timedOut || !chunk.data.isEmpty || chunk.eof then
      (k.reply c args (.ok (chunk, timedOut))).lowerPending args.stream
    else k

/-- `read_output` and `read_wait_inner`. -/
def step (e : Exec) (k : Clients C) (c : C) (a : ReadAction) : Option (Clients C) :=
  match a, k.calls c with
  | .begin args, .idle => some (k.beginRead e c args)
  | .begin args, .returned _ => some (k.beginRead e c args)
  | .enter, .entering args =>
    if k.pendingReads args.stream ≥ pendingReadOutputWaitsPerStream then
      some ((k.setCall c (.refused args)).raisePending args.stream)
    else some ((k.setCall c (.waiting args)).raisePending args.stream)
  | .leave, .refused args =>
    some ((k.reply c args (.error .readWaitCapacityExceeded)).lowerPending args.stream)
  | .notified, .waiting args => some (k.waitRead e c args false)
  | .timeout, .waiting args => some (k.waitRead e c args true)
  | .drop, .waiting args => some ((k.setCall c .idle).lowerPending args.stream)
  | _, _ => none

end Clients

/-! ## the system -/

structure ExecSystem (C : Type) where
  exec : Exec
  clients : Clients C

/-- What can happen next. -/
inductive ExecAction (C : Type) where
  | task (a : TaskAction)
  | call (c : C) (a : ReadAction)

namespace ExecSystem

variable {C : Type}

/-- A new exec, interactive or not, before the first call on it. -/
def Init (s : ExecSystem C) : Prop :=
  (∃ tty, s.exec = .create tty) ∧ s.clients = ⟨fun _ => 0, fun _ => .idle, []⟩

/-- One action, if it can happen. -/
def act [DecidableEq C] (s : ExecSystem C) : ExecAction C → Option (ExecSystem C)
  | .task a => (s.exec.step a).map fun exec => { s with exec }
  | .call c a => (s.clients.step s.exec c a).map fun clients => { s with clients }

end ExecSystem

end D2b.Guestd

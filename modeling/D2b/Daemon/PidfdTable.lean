import D2b.Lib.BTreeMap
import D2b.Lib.Run

/-!
# D2b.Daemon.PidfdTable

The table of runner processes (`supervisor/pidfd_table.rs`), the log of the broker's
reap notifications, and the two wait functions of the stop path.

The wait functions run beside everything else the daemon does, so each call is a
state machine: a `Point` is where it stands, and between two of its steps processes
may start and exit, the broker may reap them, and other threads may use the table
and the log.  A pidfd stands for its process and for no other one.
-/

namespace D2b.Daemon

/-- A process; the kernel reuses pids, but not together with a start time. -/
structure Process where
  pid : Int
  startTimeTicks : Nat
deriving DecidableEq

inductive ChildExitKind where
  | exited | signaled | killed
deriving DecidableEq

structure ChildExitStatus where
  kind : ChildExitKind
  code : Option Int
  signal : Option Int
deriving DecidableEq

/-- One broker-reaped child notification.  The process is auxiliary: it is not part
of the message, and nothing reads it. -/
structure ChildReapedNotification where
  runnerId : String
  pid : Int
  exitStatus : ChildExitStatus
  process : Process
deriving DecidableEq

inductive WaitTermination where
  | terminated
  | terminatedByBroker (exitStatus : ChildExitStatus)
  | timedOut
deriving DecidableEq

inductive PidfdTableError where
  | notFound (vm role : String)
  | waitFailed (vm role : String) (pid : Int) (errno : Option Int) (detail : String)
deriving DecidableEq

def echild : Int := 10

/-- The `(vm, role)` of a runner. -/
structure RunnerKey where
  vm : String
  role : String
deriving DecidableEq

def RunnerKey.runnerId (key : RunnerKey) : String := key.vm ++ ":" ++ key.role

/-! ## the reap log -/

/-- Notifications by pid. -/
abbrev BrokerReapLog := BTreeMap Int ChildReapedNotification

namespace BrokerReapLog

/-- A later notification for a pid replaces the earlier one. -/
def insertAll (log : BrokerReapLog) (notifications : List ChildReapedNotification) :
    BrokerReapLog :=
  notifications.foldl (fun log notification => log.insert notification.pid notification) log

/-- `take_for` finds some notification for the runner id; which one, if there are
several, is up to the map (`pick`). -/
def takeFor (log : BrokerReapLog) (runnerId : String) :
    Option Int → Option (Option ChildReapedNotification × BrokerReapLog)
  | none =>
    if log.all fun _ notification => decide (notification.runnerId ≠ runnerId) then
      some (none, log)
    else none
  | some pick =>
    match log[pick]? with
    | some notification =>
      if notification.runnerId = runnerId then some (some notification, log.erase pick)
      else none
    | none => none

end BrokerReapLog

/-! ## the wait functions -/

/-- What `waitid` on the pidfd says. -/
inductive WaitidAnswer where
  | exited
  | stillAlive
  | echild
  | fails (errno : Int) (detail : String)
deriving DecidableEq

/-- Where a call stands: before which of its steps. -/
inductive Point where
  /-- `wait_terminated_with_broker_poll`: the deadline, at the head of the loop -/
  | deadline
  /-- `wait_terminated`: the lookup of the entry -/
  | lookup
  /-- `waitid`, at the head of the loop -/
  | waitid (process : Process)
  /-- `ECHILD`: the log is asked for the pid -/
  | takeLog (process : Process)
  /-- the start time in `/proc`, with the error of `waitid` -/
  | readProc (process : Process) (waitidError : Option (Int × String))
  /-- the entry is removed before the verdict is returned -/
  | remove (process : Process) (verdict : WaitTermination)
  /-- `still_alive_same_start_time`: the lookup of the entry -/
  | probeLookup
  /-- `still_alive_same_start_time`: the start time in `/proc` -/
  | probeRead (process : Process)
  /-- `PollChildReaped` -/
  | poll
  /-- the log is asked for the runner id -/
  | takeFor
  | returned (result : Except PidfdTableError WaitTermination)
deriving DecidableEq

/-- A call of `wait_terminated`, or (`polls`) of `wait_terminated_with_broker_poll`.
The process that the last lookup found is auxiliary. -/
structure Call where
  key : RunnerKey
  polls : Bool
  point : Point
  looked : Option Process

namespace Call

def start (key : RunnerKey) (polls : Bool) : Call :=
  { key, polls, point := if polls then .deadline else .lookup, looked := none }

def goto (call : Call) (point : Point) : Call := { call with point }

/-- The end of `wait_terminated`: a caller that polls goes on after `ECHILD`. -/
def finish (call : Call) (result : Except PidfdTableError WaitTermination) : Call :=
  match call.polls, result with
  | true, .error (.waitFailed _ _ _ (some errno) _) =>
    if errno = echild then call.goto .probeLookup else call.goto (.returned result)
  | _, result => call.goto (.returned result)

def waitFailed (call : Call) (process : Process) (errno : Option Int) (detail : String) : Call :=
  call.finish (.error (.waitFailed call.key.vm call.key.role process.pid errno detail))

end Call

/-! ## the system -/

/-- A process of the host; one without a runner id is not the broker's. -/
structure ProcessInfo where
  process : Process
  runnerId : Option String
  exit : Option ChildExitStatus
  reaped : Bool
deriving DecidableEq

namespace ProcessInfo

/-- The process `p` exits, if it runs. -/
def exitWith (p : Process) (status : ChildExitStatus) (info : ProcessInfo) : ProcessInfo :=
  if info.process = p ∧ info.exit = none then { info with exit := some status } else info

def reap (p : Process) (info : ProcessInfo) : ProcessInfo :=
  if info.process = p then { info with reaped := true } else info

/-- The notification of a process that the broker reaps. -/
def notification (info : ProcessInfo) : List ChildReapedNotification :=
  match info.runnerId, info.exit with
  | some runnerId, some exitStatus =>
    [{ runnerId, pid := info.process.pid, exitStatus, process := info.process }]
  | _, _ => []

end ProcessInfo

structure World where
  /-- every process there ever was -/
  processes : List ProcessInfo
  /-- notifications the broker holds for the next poll -/
  pending : List ChildReapedNotification
  entries : RunnerKey → Option Process
  log : BrokerReapLog
  calls : List Call

namespace World

def init : World :=
  { processes := [], pending := [], entries := fun _ => none, log := ∅, calls := [] }

variable (w : World) (process : Process)

def infoOf : Option ProcessInfo := w.processes.find? fun info => decide (info.process = process)

/-- `read_proc_start_time`: the start time of the process that runs under the pid. -/
def procStartTime (pid : Int) : Option Nat :=
  (w.processes.find? fun info => decide (info.process.pid = pid) && info.exit.isNone).map
    (·.process.startTimeTicks)

/-- The process runs, as far as `/proc` shows. -/
def sameStartTime : Bool := decide (w.procStartTime process.pid = some process.startTimeTicks)

def hasExited : Bool := (w.infoOf process).any (·.exit.isSome)

/-- The daemon has drained the notifications into its log. -/
def deliver : World := { w with log := w.log.insertAll w.pending, pending := [] }

/-- The entry is removed if it still is the one of the process. -/
def removeSame (key : RunnerKey) (process : Process) : World :=
  if w.entries key = some process then
    { w with entries := Function.update w.entries key none }
  else w

end World

/-- What the environment decides about a step of a call. -/
inductive Input where
  | go
  | clock (expired : Bool)
  | dup (failure : Option (Int × String))
  | waitid (answer : WaitidAnswer)
  | proc (failure : Option String) (expired : Bool)
  | polled (answered : Bool)
  | pick (pid : Option Int)
deriving DecidableEq

def Call.step (w : World) (call : Call) : Input → Option (Call × World)
  | .clock expired =>
    match call.point with
    | .deadline =>
      if expired then some (call.goto (.returned (.ok .timedOut)), w)
      else some (call.goto .lookup, w)
    | _ => none
  | .dup failure =>
    match call.point with
    | .lookup =>
      match w.entries call.key with
      | none =>
        some ({ call with looked := none }.finish (.error (.notFound call.key.vm call.key.role)), w)
      | some process =>
        let call := { call with looked := some process }
        match failure with
        | some (errno, detail) =>
          some (call.waitFailed process (some errno) ("dup pidfd: " ++ detail), w)
        | none => some (call.goto (.waitid process), w)
    | _ => none
  | .waitid answer =>
    match call.point with
    | .waitid process =>
      match answer with
      | .exited =>
        if w.hasExited process then some (call.goto (.remove process .terminated), w)
        else none
      | .stillAlive => some (call.goto (.readProc process none), w)
      | .echild => some (call.goto (.takeLog process), w)
      | .fails errno detail => some (call.goto (.readProc process (some (errno, detail))), w)
    | _ => none
  | .proc failure expired =>
    match call.point with
    | .readProc process waitidError =>
      match failure with
      | some detail => some (call.waitFailed process none detail, w)
      | none =>
        if w.sameStartTime process then
          match waitidError with
          | some (errno, detail) =>
            some (call.waitFailed process (some errno) ("waitid(P_PIDFD): " ++ detail), w)
          | none =>
            if expired then some (call.finish (.ok .timedOut), w)
            else some (call.goto (.waitid process), w)
        else some (call.goto (.remove process .terminated), w)
    | .probeRead process =>
      -- a read that fails counts as a process that is gone
      if failure.isNone && w.sameStartTime process then some (call.goto .poll, w)
      else some (call.goto (.returned (.ok .terminated)), w)
    | _ => none
  | .polled answered =>
    match call.point with
    | .poll =>
      if answered then some (call.goto .takeFor, w.deliver)
      else some (call.goto .deadline, w)
    | _ => none
  | .pick pid =>
    match call.point with
    | .takeFor =>
      match w.log.takeFor call.key.runnerId pid with
      | none => none
      | some (none, _) => some (call.goto .deadline, w)
      | some (some notification, log) =>
        some (call.goto (.returned (.ok (.terminatedByBroker notification.exitStatus))),
          { w with log })
    | _ => none
  | .go =>
    match call.point with
    | .takeLog process =>
      match w.log[process.pid]? with
      | some notification =>
        some (call.goto (.remove process (.terminatedByBroker notification.exitStatus)),
          { w with log := w.log.erase process.pid })
      | none =>
        some (call.goto (.readProc process (some (echild, "waitid(P_PIDFD): ECHILD"))), w)
    | .remove process verdict => some (call.finish (.ok verdict), w.removeSame call.key process)
    | .probeLookup =>
      match w.entries call.key with
      | none => some ({ call with looked := none }.goto (.returned (.ok .terminated)), w)
      | some process => some ({ call with looked := some process }.goto (.probeRead process), w)
    | _ => none

/-- What happens on the host and in the daemon. -/
inductive Event where
  /-- a process starts; the broker starts runners, others have no runner id -/
  | spawn (process : Process) (runnerId : Option String)
  | exit (process : Process) (status : ChildExitStatus)
  /-- the parent reaps the process; the broker writes a notification -/
  | reap (process : Process)
  /-- notifications that are lost on the way -/
  | lose (count : Nat)
  /-- `refresh_broker_reap_log` -/
  | refresh
  /-- the cleanup of a spawn that was not registered takes a notification -/
  | consume (pid : Int)
  | register (key : RunnerKey) (process : Process)
  | deregister (key : RunnerKey)
  /-- the daemon starts again, with an empty table and log -/
  | restart
  | call (key : RunnerKey) (polls : Bool)
  | advance (index : Nat) (input : Input)
deriving DecidableEq

namespace World

/-- Neither the process nor its pid is taken. -/
def fresh (w : World) (process : Process) : Bool :=
  w.processes.all fun info =>
    decide (info.process ≠ process) && (info.reaped || decide (info.process.pid ≠ process.pid))

def step (w : World) : Event → Option World
  | .spawn process runnerId =>
    if w.fresh process then
      some { w with
        processes := w.processes ++ [{ process, runnerId, exit := none, reaped := false }] }
    else none
  | .exit process status => some { w with processes := w.processes.map (.exitWith process status) }
  | .reap process =>
    match w.infoOf process with
    | some info =>
      if info.exit.isSome && !info.reaped then
        some { w with
          processes := w.processes.map (.reap process)
          pending := w.pending ++ info.notification }
      else none
    | none => none
  | .lose count => some { w with pending := w.pending.drop count }
  | .refresh => some w.deliver
  | .consume pid => some { w with log := w.log.erase pid }
  | .register key process =>
    if w.entries key = none ∧ ((w.infoOf process).bind (·.runnerId)) = some key.runnerId then
      some { w with entries := Function.update w.entries key (some process) }
    else none
  | .deregister key => some { w with entries := Function.update w.entries key none }
  | .restart => some { w with entries := fun _ => none, log := ∅, calls := [] }
  | .call key polls => some { w with calls := w.calls ++ [.start key polls] }
  | .advance index input =>
    match w.calls[index]? with
    | none => none
    | some call =>
      match call.step w input with
      | none => none
      | some (call, w') => some { w' with calls := w'.calls.set index call }

end World

end D2b.Daemon

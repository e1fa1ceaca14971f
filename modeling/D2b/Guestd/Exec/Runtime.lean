import D2b.Guestd.Exec

/-!
# D2b.Guestd.Exec.Runtime

The execs of one VM (`ExecRuntime`): `create` and `create_tty` from the
reservation to the commit, `close_connection`, and the processes behind them,
with a step for each time a call takes the lock or touches the counter.

An exec id is given out once, so everything that happens to the exec of one
`create` is in one record under its id.
-/

namespace D2b.Guestd

/-- Maximum number of concurrently running attached execs (`ATTACHED_SESSIONS_PER_VM`). -/
def attachedSessionsPerVm : Nat := 8

/-- Maximum number of tracked execs, running or not (`EXEC_SESSIONS_PER_VM`). -/
def execSessionsPerVm : Nat := 32

/-- Maximum bytes for a server-generated exec id (`EXEC_ID_BYTES`). -/
def execIdBytes : Nat := 32

abbrev ConnectionKey := List UInt8

/-- What the killer of an entry signals. -/
inductive Killer where
  /-- `NoopKiller`, before there is a process -/
  | noop
  /-- the process of an exec -/
  | process (execId : String)
deriving DecidableEq

structure ExecEntry where
  owner : ConnectionKey
  tty : Bool
  killer : Killer
deriving DecidableEq

/-- Where a `create` is that has its exec id. -/
inductive CreatePhase where
  /-- in `spawn`, or still to drop its reservation -/
  | spawning
  /-- there is a process; the placeholder is not swapped yet -/
  | spawned
  /-- the placeholder was gone; the process is not torn down yet -/
  | uncommitted
  | returned
deriving DecidableEq

/-- A `create` that has its exec id, and what became of the exec. -/
structure ExecRecord where
  owner : ConnectionKey
  tty : Bool
  phase : CreatePhase
  /-- a process was spawned -/
  spawned : Bool
  exited : Bool
  /-- its group was killed or the teardown of its session was started -/
  signalled : Bool
  /-- the state of its entry is not `Running` -/
  terminal : Bool
  /-- `close_connection` was called by the owner after the placeholder was inserted -/
  closed : Bool
deriving DecidableEq

/-- A `close_connection` under way, with the entries it removed and has still to end. -/
structure CloseCall where
  owner : ConnectionKey
  owned : List ExecEntry
deriving DecidableEq

structure ExecRuntime where
  execs : List (String × ExecEntry)
  reservations : Nat
  /-- creates that have reserved and have no exec id yet -/
  reserved : List (ConnectionKey × Bool)
  /-- execs whose create has inserted the placeholder and still holds its reservation -/
  guards : List String
  records : String → Option ExecRecord
  closes : List CloseCall
  /-- what the creates returned -/
  results : List (Except ExecError String)

/-- What can happen next. -/
inductive RuntimeAction where
  | create (owner : ConnectionKey) (tty : Bool)
  | place (i : Nat) (id : Except ExecError String)
  | release (id : String)
  | spawn (id : String)
  | spawnFail (id : String) (error : ExecError)
  | commit (id : String)
  | teardown (id : String)
  | close (owner : ConnectionKey)
  | closeNext (j : Nat)
  | exit (id : String)
  | ceiling (id : String)
  | publish (id : String)

namespace ExecRuntime

def new : ExecRuntime :=
  { execs := [], reservations := 0, reserved := [], guards := [], records := fun _ => none,
    closes := [], results := [] }

variable (rt : ExecRuntime)

/-- A placeholder is running; a real entry is as its record says. -/
def isTerminal (entry : ExecEntry) : Bool :=
  match entry.killer with
  | .noop => false
  | .process id => (rt.records id).any ExecRecord.terminal

/-- The number of tracked execs that are not terminal. -/
def running : Nat := rt.execs.countP fun x => !rt.isTerminal x.2

variable (id : String)

def remove : List (String × ExecEntry) := rt.execs.filter fun x => x.1 ≠ id

def insert (entry : ExecEntry) : List (String × ExecEntry) := (id, entry) :: rt.remove id

variable (r : ExecRecord)

def setRecord : ExecRuntime :=
  { rt with records := Function.update rt.records id (some r) }

/-- Reserve a slot under the lock. -/
def create (owner : ConnectionKey) (tty : Bool) : ExecRuntime :=
  if rt.execs.length + rt.reservations ≥ execSessionsPerVm then
    { rt with results := rt.results ++ [.error .execCapacityExceeded] }
  else if rt.running + rt.reservations ≥ attachedSessionsPerVm then
    { rt with results := rt.results ++ [.error .attachCapacityExceeded] }
  else
    { rt with reservations := rt.reservations + 1, reserved := rt.reserved ++ [(owner, tty)] }

/-- A create fails after it has reserved: its guard is dropped. -/
def failReserved (i : Nat) (error : ExecError) : ExecRuntime :=
  { rt with
    reservations := rt.reservations - 1
    reserved := rt.reserved.eraseIdx i
    results := rt.results ++ [.error error] }

/-- Take an exec id and insert the placeholder under it. -/
def place (i : Nat) (id : Except ExecError String) : Option ExecRuntime :=
  match rt.reserved[i]?, id with
  | some _, .error e => some (rt.failReserved i e)
  | some (owner, tty), .ok id =>
    if id = "" ∨ id.utf8ByteSize > execIdBytes then some (rt.failReserved i .internal)
    else if (rt.records id).isSome then none -- ids are fresh
    else
      some { rt.setRecord id
          { owner, tty, phase := .spawning, spawned := false, exited := false,
            signalled := false, terminal := false, closed := false } with
        execs := rt.insert id { owner, tty := false, killer := .noop }
        reserved := rt.reserved.eraseIdx i
        guards := id :: rt.guards }
  | none, _ => none

/-- The placeholder occupies the slot; drop the reservation. -/
def release : Option ExecRuntime :=
  if id ∈ rt.guards then
    some { rt with reservations := rt.reservations - 1, guards := rt.guards.erase id }
  else none

def spawn : Option ExecRuntime :=
  if r.phase = .spawning ∧ id ∉ rt.guards then
    some (rt.setRecord id { r with phase := .spawned, spawned := true })
  else none

def spawnFail (error : ExecError) : Option ExecRuntime :=
  if r.phase = .spawning ∧ id ∉ rt.guards then
    some { rt.setRecord id { r with phase := .returned } with
      execs := rt.remove id
      results := rt.results ++ [.error error] }
  else none

/-- Swap the placeholder for the real entry iff it is still present. -/
def commit : Option ExecRuntime :=
  if r.phase = .spawned then
    if id ∈ rt.execs.map Prod.fst then
      some { rt.setRecord id { r with phase := .returned } with
        execs := rt.insert id { owner := r.owner, tty := r.tty, killer := .process id }
        results := rt.results ++ [.ok id] }
    else some (rt.setRecord id { r with phase := .uncommitted })
  else none

/-- `cancel`, which kills the group and ends the entry, or the start of
`teardown_tty`, which ends it later. -/
def endExec : ExecRecord :=
  { r with signalled := true, terminal := r.terminal || !r.tty }

/-- The connection vanished during spawn: tear the process down. -/
def teardown : Option ExecRuntime :=
  if r.phase = .uncommitted then
    some { rt.setRecord id { endExec r with phase := .returned } with
      results := rt.results ++ [.error .execNotFound] }
  else none

/-- `close_connection`: remove and collect the entries of the owner. -/
def close (owner : ConnectionKey) : ExecRuntime :=
  { rt with
    execs := rt.execs.filter fun x => x.2.owner ≠ owner
    closes := rt.closes ++ [⟨owner, (rt.execs.filter fun x => x.2.owner = owner).map Prod.snd⟩]
    records := fun id => (rt.records id).map fun r =>
      if r.owner = owner then { r with closed := true } else r }

/-- `close_connection`: end the next of the collected entries. -/
def closeNext (j : Nat) : Option ExecRuntime :=
  match rt.closes[j]? with
  | some ⟨owner, entry :: owned⟩ =>
    let rt := { rt with closes := rt.closes.set j ⟨owner, owned⟩ }
    match entry.killer with
    | .noop => some rt
    | .process id => (rt.records id).map fun r => rt.setRecord id (endExec r)
  | _ => none

def exit : Option ExecRuntime :=
  if r.spawned then some (rt.setRecord id { r with exited := true }) else none

/-- The runtime ceiling of the supervisor is hit. -/
def ceiling : Option ExecRuntime :=
  if r.spawned then some (rt.setRecord id { r with signalled := true }) else none

/-- The supervisor or the teardown publishes the terminal state. -/
def publish : Option ExecRuntime :=
  if r.exited || r.signalled then some (rt.setRecord id { r with terminal := true }) else none

/-- One action, if it can happen. -/
def act : RuntimeAction → Option ExecRuntime
  | .create owner tty => some (rt.create owner tty)
  | .place i id => rt.place i id
  | .release id => rt.release id
  | .spawn id => (rt.records id).bind (rt.spawn id)
  | .spawnFail id error => (rt.records id).bind fun r => rt.spawnFail id r error
  | .commit id => (rt.records id).bind (rt.commit id)
  | .teardown id => (rt.records id).bind (rt.teardown id)
  | .close owner => some (rt.close owner)
  | .closeNext j => rt.closeNext j
  | .exit id => (rt.records id).bind (rt.exit id)
  | .ceiling id => (rt.records id).bind (rt.ceiling id)
  | .publish id => (rt.records id).bind (rt.publish id)

end ExecRuntime

end D2b.Guestd

import D2b.Guestd.Exec

/-!
# D2b.Guestd.ExecPty

The stdin side of an interactive session (`exec_pty.rs`, and `StdinLogic` of
`terminal_io.rs`): `write_stdin` and `close_stdin` submit requests to a writer
task that owns the PTY master, and the teardown aborts that task.

The writer is a state machine with a step for each write to the sink, which
takes any part of what it is given or fails, and for each time it takes a
lock.
-/

namespace D2b.Guestd

open ExecRunner

def writerQueueDepth : Nat := 8

/-! ## the offset machine -/

/-- Pure stdin offset machine for a TTY session. -/
structure StdinLogic where
  nextOffset : Nat
  closed : Bool
deriving DecidableEq

namespace StdinLogic

def new : StdinLogic := { nextOffset := 0, closed := false }

variable (logic : StdinLogic)

/-- Validate a write at `offset`; it does not advance. -/
def admitOffset (offset : Nat) : Except ExecError Unit :=
  if logic.closed then .error .stdinClosed
  else if offset ≠ logic.nextOffset then .error .stdinOffsetMismatch
  else .ok ()

def advance (len : Nat) : StdinLogic :=
  { logic with nextOffset := saturatingAdd logic.nextOffset len }

def close : StdinLogic := { logic with closed := true }

end StdinLogic

/-! ## the session -/

inductive TtyPhase where
  | running | closing | terminal
deriving DecidableEq

/-- What the sink got: bytes of the payloads, and the `VEOF` control byte. -/
inductive SinkByte where
  | data (b : UInt8)
  | veof
deriving DecidableEq

inductive WriteOp where
  | write (offset : Nat) (data : List UInt8) (closeAfter : Bool)
  | close (offset : Nat)
deriving DecidableEq

/-- Answer of a write that was accepted, in whole or in part. -/
structure StdinWriteOk where
  acceptedLen : Nat
  nextOffset : Nat
  closed : Bool
deriving DecidableEq

inductive StdinReply where
  | write (ok : StdinWriteOk)
  | close (finalOffset : Nat) (duplicate : Bool)
deriving DecidableEq

/-- Where a `write_stdin` or `close_stdin` call is. -/
inductive StdinCall where
  | idle
  /-- past the phase check, before the send -/
  | checked (op : WriteOp)
  /-- the request is in the queue or with the writer -/
  | sent
  | returned (result : Except ExecError StdinReply)

/-- Where the writer task is; `c` is the call it works for. -/
inductive WriterPhase (C : Type) where
  | idle
  /-- in `write_counting` of the payload -/
  | writing (c : C) (offset : Nat) (data : List UInt8) (closeAfter : Bool) (written : Nat)
  /-- the payload has landed, `VEOF` comes next -/
  | veof (c : C) (offset : Nat) (data : List UInt8)
  /-- before the commit of a write -/
  | commit (c : C) (offset : Nat) (data : List UInt8) (written : Nat) (closed : Bool)
  /-- `process_close`, `VEOF` comes next -/
  | closeVeof (c : C)
  /-- before the commit of a close -/
  | closeCommit (c : C)
  /-- aborted -/
  | gone

/-- A write that was answered with success. -/
structure AckedWrite where
  offset : Nat
  data : List UInt8
  ok : StdinWriteOk
deriving DecidableEq

/-- One session.  `sink` records what reached the PTY master, and `acked` the
writes that were answered with success, oldest first. -/
structure TtyState (C : Type) where
  phase : TtyPhase
  stdin : StdinLogic
  queue : List (C × WriteOp)
  writer : WriterPhase C
  sink : List SinkByte
  calls : C → StdinCall
  acked : List AckedWrite

/-- What can happen next. -/
inductive TtyAction (C : Type) where
  | call (c : C) (op : WriteOp)
  | send (c : C)
  | recv
  /-- the sink takes `n` bytes -/
  | sinkWrite (n : Nat)
  /-- the sink takes nothing or fails -/
  | sinkFail
  /-- the payload has landed -/
  | written
  | commit
  | beginClosing
  | releaseWriter
  | markTerminal

namespace TtyState

variable {C : Type}

def new (C : Type) : TtyState C :=
  { phase := .running, stdin := .new, queue := [], writer := .idle, sink := [],
    calls := fun _ => .idle, acked := [] }

variable [DecidableEq C] (s : TtyState C)

def setCall (c : C) (call : StdinCall) : TtyState C :=
  { s with calls := Function.update s.calls c call }

/-- The writer answers and goes on to the next request. -/
def reply (c : C) (result : Except ExecError StdinReply) : TtyState C :=
  { s.setCall c (.returned result) with writer := .idle }

/-- `write_stdin` and `close_stdin` up to the phase check. -/
def call (c : C) (op : WriteOp) : TtyState C :=
  if s.phase ≠ .running then s.setCall c (.returned (.error .stdinClosed))
  else s.setCall c (.checked op)

/-- The request is submitted, once the queue has room. -/
def send (c : C) (op : WriteOp) : Option (TtyState C) :=
  match s.writer with
  | .gone => some (s.setCall c (.returned (.error .stdinClosed)))
  | _ =>
    if s.queue.length < writerQueueDepth then
      some { s.setCall c .sent with queue := s.queue ++ [(c, op)] }
    else none

/-- Admission in `process_write` and `process_close`. -/
def recv (c : C) (op : WriteOp) : TtyState C :=
  if s.phase ≠ .running then s.reply c (.error .stdinClosed)
  else
    match op with
    | .write offset data closeAfter =>
      match s.stdin.admitOffset offset with
      | .error e => s.reply c (.error e)
      | .ok () => { s with writer := .writing c offset data closeAfter 0 }
    | .close offset =>
      if s.stdin.closed then s.reply c (.ok (.close s.stdin.nextOffset true))
      else if offset ≠ s.stdin.nextOffset then s.reply c (.error .stdinOffsetMismatch)
      else { s with writer := .closeVeof c }

/-- The sink takes `n` bytes of what it is given. -/
def sinkWrite (n : Nat) : Option (TtyState C) :=
  match s.writer with
  | .writing c offset data closeAfter written =>
    if 0 < n ∧ n ≤ data.length - written then
      some { s with
        writer := .writing c offset data closeAfter (written + n)
        sink := s.sink ++ ((data.drop written).take n).map .data }
    else none
  | .veof c offset data =>
    some { s with writer := .commit c offset data data.length true, sink := s.sink ++ [.veof] }
  | .closeVeof c => some { s with writer := .closeCommit c, sink := s.sink ++ [.veof] }
  | _ => none

/-- The sink takes nothing, or fails. -/
def sinkFail : Option (TtyState C) :=
  match s.writer with
  | .writing c offset data _ written =>
    if written < data.length then
      -- no progress at all is a failure; a partial write is accepted
      if written = 0 then some (s.reply c (.error .stdinClosed))
      else some { s with writer := .commit c offset data written false }
    else none
  | .veof c offset data => some { s with writer := .commit c offset data data.length false }
  | .closeVeof c => some (s.reply c (.error .stdinClosed))
  | _ => none

/-- The end of `write_counting`: `VEOF` is injected only after the full payload. -/
def written (s : TtyState C) : Option (TtyState C) :=
  match s.writer with
  | .writing c offset data closeAfter written =>
    if written = data.length then
      if closeAfter then some { s with writer := .veof c offset data }
      else some { s with writer := .commit c offset data written false }
    else none
  | _ => none

/-- The commits of `process_write` and `process_close`, under the phase lock. -/
def commit (s : TtyState C) : Option (TtyState C) :=
  match s.writer with
  | .commit c offset data written closed =>
    if s.phase ≠ .running then some (s.reply c (.error .stdinClosed))
    else
      let logic := s.stdin.advance written
      let logic := if closed then logic.close else logic
      let ok : StdinWriteOk := { acceptedLen := written, nextOffset := logic.nextOffset, closed }
      some { s.reply c (.ok (.write ok)) with
        stdin := logic
        acked := s.acked ++ [{ offset, data, ok }] }
  | .closeCommit c =>
    if s.phase ≠ .running then some (s.reply c (.error .stdinClosed))
    else
      some { s.reply c (.ok (.close s.stdin.nextOffset false)) with stdin := s.stdin.close }
  | _ => none

/-- The teardown aborts the writer: what it had not answered is answered closed. -/
def releaseWriter : TtyState C :=
  { s with
    writer := .gone
    queue := []
    calls := fun c =>
      match s.calls c with
      | .sent => .returned (.error .stdinClosed)
      | call => call }

/-- One action, if it can happen. -/
def act : TtyAction C → Option (TtyState C)
  | .call c op =>
    match s.calls c with
    | .idle | .returned _ => some (s.call c op)
    | _ => none
  | .send c =>
    match s.calls c with
    | .checked op => s.send c op
    | _ => none
  | .recv =>
    match s.writer, s.queue with
    | .idle, (c, op) :: rest => some ({ s with queue := rest }.recv c op)
    | _, _ => none
  | .sinkWrite n => s.sinkWrite n
  | .sinkFail => s.sinkFail
  | .written => s.written
  | .commit => s.commit
  | .beginClosing => if s.phase = .running then some { s with phase := .closing } else none
  | .releaseWriter => if s.phase = .running then none else some s.releaseWriter
  | .markTerminal => if s.phase = .closing then some { s with phase := .terminal } else none

end TtyState

end D2b.Guestd

import Mathlib.Data.List.Basic

/-!
# D2b.ExecRunner.Record

The durable record of a detached exec and the status phases of its runner
(`record.rs`).  The record file is guestd's, the status file the runner's.
-/

namespace D2b.ExecRunner

/-- Linear durable record state machine. -/
inductive RecordState where
  | dispatching | running | exited | signaled | cancelled | spawnFailed
deriving DecidableEq

def RecordState.isTerminal : RecordState → Bool
  | .exited | .signaled | .cancelled | .spawnFailed => true
  | .dispatching | .running => false

/-- The canonical guestd-owned detached record. -/
structure DurableRecord where
  execId : String
  slot : Nat
  bootId : String
  createTimeUnix : Nat
  dispatchDeadlineUnix : Nat
  argvSha256 : String
  state : RecordState
  exitCode : Option Int
  termSignal : Option Nat
  /-- the unit vanished without a terminal status -/
  lost : Bool
  /-- when the record first reached a terminal state -/
  terminalTimeUnix : Option Nat
deriving DecidableEq

/-- Runner-written lifecycle phase marker. -/
inductive StatusPhase where
  | started | spawnFailed | infraFailed
  | exited (code : Int)
  | signaled (signal : Int)
  | cancelled
deriving DecidableEq

def StatusPhase.isTerminal : StatusPhase → Bool
  | .started => false
  | .spawnFailed | .infraFailed | .exited _ | .signaled _ | .cancelled => true

end D2b.ExecRunner

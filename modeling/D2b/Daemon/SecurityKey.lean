import D2b.Lib.Run
import Mathlib.Algebra.Group.Nat.Defs
import Mathlib.Data.Finset.Basic

/-!
# D2b.Daemon.SecurityKey

The security-key proxy (`security_key.rs`): per-VM accept loops, the lease of the
key, and the connections that relay 64-byte CTAPHID reports between a guest and the
physical token.

Every loop of this model serves the same token, through a file descriptor of its
own.  The kernel hands a report of the token to every open descriptor, and the
connections of a loop share theirs.  A token reports on the broadcast channel, or
on a channel where a request was written and is not yet answered.

The relay tasks of a connection take single steps, so that a connection may be
stopped between reading a report and passing it on.
-/

namespace D2b.Daemon.SecurityKey

/-! ## reports -/

abbrev Cid := Nat

def ctaphidInit : UInt8 := 0x86

def ctaphidCancel : UInt8 := 0x91

def broadcastCid : Cid := 0xFFFFFFFF

abbrev CtaphidReport := Vector UInt8 64

/-- `from_be_bytes`. -/
def ofBeBytes (bytes : List UInt8) : Nat := bytes.foldl (fun n byte => n * 256 + byte.toNat) 0

/-- `to_be_bytes` of a `u32`. -/
def cidBytes (cid : Cid) : List UInt8 :=
  [.ofNat (cid / 2 ^ 24), .ofNat (cid / 2 ^ 16), .ofNat (cid / 2 ^ 8), .ofNat cid]

inductive CtaphidPacket where
  | init (cid : Cid) (cmd : UInt8) (bcnt : Nat) (data : List UInt8)
  | cont (cid : Cid) (seq : UInt8) (data : List UInt8)
deriving DecidableEq

def CtaphidPacket.cid : CtaphidPacket → Cid
  | .init cid _ _ _ => cid
  | .cont cid _ _ => cid

variable (report : CtaphidReport)

def parseCtaphidReport : CtaphidPacket :=
  let cid := ofBeBytes [report[0], report[1], report[2], report[3]]
  if report[4] &&& 0x80 ≠ 0 then
    .init cid report[4] (ofBeBytes [report[5], report[6]]) (report.toList.drop 7)
  else .cont cid report[4] (report.toList.drop 5)

def channel : Cid := (parseCtaphidReport report).cid

/-- The bytes of the report, zeros where there are none. -/
def ofBytes (bytes : List UInt8) : CtaphidReport := .ofFn fun i => bytes[i.val]?.getD 0

def buildInitPacket (cid : Cid) (cmd : UInt8) (bcnt : Nat) (payload : List UInt8) : CtaphidReport :=
  ofBytes (cidBytes cid ++ [cmd, .ofNat (bcnt / 2 ^ 8), .ofNat bcnt] ++ payload.take 57)

def buildCancelPacket (cid : Cid) : CtaphidReport := buildInitPacket cid ctaphidCancel 0 []

/-- An id that stands for a single channel. -/
def isChannel (cid : Cid) : Bool := decide (cid ≠ 0 ∧ cid ≠ broadcastCid)

/-- The channel that an `INIT` reply allocates. -/
def trackResponseCid (cids : Finset Cid) : Finset Cid :=
  if ofBeBytes [report[0], report[1], report[2], report[3]] ≠ broadcastCid ∨
      report[4] ≠ ctaphidInit ∨ ofBeBytes [report[5], report[6]] < 17 then cids
  else
    let allocated := ofBeBytes [report[15], report[16], report[17], report[18]]
    if isChannel allocated then insert allocated cids else cids

def command : UInt8 := report[4]

/-- The channel id at its place in an `INIT` reply. -/
def allocatedCid : Cid := ofBeBytes [report[15], report[16], report[17], report[18]]

/-- The channels a report from a guest uses. -/
def trackRequestCid (cids : Finset Cid) : Finset Cid :=
  if isChannel (channel report) then insert (channel report) cids else cids

/-! ## the lease -/

abbrev LeaseId := Nat

/-- In milliseconds. -/
def ceremonyTimeout : Nat := 120000

def queueWaitTimeout : Nat := 15000

inductive LeaseState where
  | available
  | leased (vmId : String) (leaseId : LeaseId) (startedAt timeout : Nat)
deriving DecidableEq

def LeaseState.isExpired (now : Nat) : LeaseState → Bool
  | .available => false
  | .leased _ _ startedAt timeout => decide (now - startedAt > timeout)

structure SecurityKeyState where
  enabledVms : List String
  lease : LeaseState
  selectorLabel : String

namespace SecurityKeyState

def new (selectorLabel : String) : SecurityKeyState :=
  { enabledVms := [], lease := .available, selectorLabel }

variable (s : SecurityKeyState)

def expireStale (now : Nat) : SecurityKeyState :=
  if s.lease.isExpired now then { s with lease := .available } else s

/-- `fresh` is the id that the counter gives. -/
def tryAcquireLease (vmId : String) (fresh : LeaseId) (now : Nat) :
    Option LeaseId × SecurityKeyState :=
  let s := s.expireStale now
  match s.lease with
  | .available => (some fresh, { s with lease := .leased vmId fresh now ceremonyTimeout })
  | .leased .. => (none, s)

def releaseLease (vmId : String) (leaseId : LeaseId) : SecurityKeyState :=
  match s.lease with
  | .leased holder held _ _ =>
    if holder = vmId ∧ held = leaseId then { s with lease := .available } else s
  | .available => s

end SecurityKeyState

/-! ## loops and connections -/

/-- An accept loop, with the reports its descriptor holds. -/
structure AcceptLoop where
  vmId : String
  state : SecurityKeyState
  live : Bool
  unread : List CtaphidReport

/-- Where `run_connection` stands. -/
inductive Phase where
  /-- in the loop that waits for the lease -/
  | waiting (deadline : Nat)
  /-- the two relay tasks run -/
  | relaying (leaseId : LeaseId)
  /-- both tasks have ended; the channels still to cancel -/
  | cancelling (leaseId : LeaseId) (rest : List Cid)
  | closed
deriving DecidableEq

def Phase.lease : Phase → Option LeaseId
  | .relaying leaseId | .cancelling leaseId _ => some leaseId
  | _ => none

structure Connection where
  loop : Nat
  phase : Phase
  activeCids : Finset Cid
  /-- read from the guest and not yet written to the token -/
  toToken : Option CtaphidReport
  /-- read from the token and not yet sent to the guest -/
  toGuest : Option CtaphidReport

/-- What is written to the token and read from it. -/
inductive LogEntry where
  | forwarded (connection : Nat) (report : CtaphidReport)
  | cancelled (connection : Nat) (report : CtaphidReport)
  | emitted (report : CtaphidReport)
  | delivered (connection : Nat) (report : CtaphidReport)
deriving DecidableEq

structure World where
  loops : List AcceptLoop
  connections : List Connection
  /-- the counter of `LeaseId::new` -/
  nextLease : LeaseId
  /-- the channels on which the token has a request in hand -/
  busy : Finset Cid
  log : List LogEntry

inductive Event where
  /-- `start_sk_accept_loop`: a lease state of its own for every loop -/
  | startLoop (vmId selectorResolved : String)
  /-- the loop ends, and its runtime drops the connections -/
  | stopLoop (index : Nat)
  | connect (loop : Nat) (authenticated : Bool) (now : Nat)
  | acquire (connection : Nat) (now : Nat)
  /-- the guest task reads a report, and writes it -/
  | receive (connection : Nat) (report : CtaphidReport)
  | forward (connection : Nat)
  /-- the token task reads a report, and sends it -/
  | read (connection : Nat)
  | deliver (connection : Nat)
  /-- one relay task has returned and the other is stopped; the order of the ids is the
  set's -/
  | finish (connection : Nat) (order : List Cid)
  | cancel (connection : Nat) (written : Bool)
  | release (connection : Nat)
  /-- the token reports, and is done with a channel -/
  | emit (report : CtaphidReport)
  | settle (cid : Cid)
deriving DecidableEq

def Event.connection? : Event → Option Nat
  | .acquire i _ | .receive i _ | .forward i | .read i | .deliver i | .finish i _ | .cancel i _
  | .release i => some i
  | _ => none

namespace World

def init : World := { loops := [], connections := [], nextLease := 1, busy := ∅, log := [] }

variable (w : World) (i : Nat)

def setConnection (connection : Connection) : World :=
  { w with connections := w.connections.set i connection }

def setState (state : SecurityKeyState) : World :=
  { w with loops := w.loops.modify i fun loop => { loop with state } }

def write (entry : LogEntry) (report : CtaphidReport) : World :=
  { w with busy := insert (channel report) w.busy, log := w.log ++ [entry] }

def stopLoop : World :=
  { w with
    loops := w.loops.modify i fun loop => { loop with live := false }
    connections := w.connections.map fun connection =>
      if connection.loop = i then { connection with phase := .closed } else connection }

/-- The lease loop: one attempt. -/
def acquire (connection : Connection) (loop : AcceptLoop) (now : Nat) (deadline : Nat) : World :=
  match loop.state.tryAcquireLease loop.vmId w.nextLease now with
  | (some leaseId, state) =>
    { (w.setState connection.loop state).setConnection i
        { connection with phase := .relaying leaseId } with nextLease := w.nextLease + 1 }
  | (none, state) =>
    (w.setState connection.loop state).setConnection i
      (if now ≥ deadline then { connection with phase := .closed } else connection)

def stepConnection (c : Connection) (loop : AcceptLoop) : Event → Option World
  | .acquire _ now =>
    match c.phase with
    | .waiting deadline => some (w.acquire i c loop now deadline)
    | _ => none
  | .receive _ report =>
    match c.phase, c.toToken with
    | .relaying _, none =>
      some (w.setConnection i
        { c with activeCids := trackRequestCid report c.activeCids, toToken := some report })
    | _, _ => none
  | .forward _ =>
    match c.phase, c.toToken with
    | .relaying _, some report =>
      some ((w.setConnection i { c with toToken := none }).write (.forwarded i report) report)
    | _, _ => none
  | .read _ =>
    match c.phase, c.toGuest, loop.unread with
    | .relaying _, none, report :: unread =>
      some { w.setConnection i
          { c with activeCids := trackResponseCid report c.activeCids, toGuest := some report }
        with loops := w.loops.modify c.loop fun loop => { loop with unread } }
    | _, _, _ => none
  | .deliver _ =>
    match c.phase, c.toGuest with
    | .relaying _, some report =>
      some { w.setConnection i { c with toGuest := none } with
        log := w.log ++ [.delivered i report] }
    | _, _ => none
  | .finish _ order =>
    match c.phase with
    | .relaying leaseId =>
      if order.Nodup ∧ order.toFinset = c.activeCids then
        some (w.setConnection i
          { c with phase := .cancelling leaseId order, toToken := none, toGuest := none })
      else none
    | _ => none
  | .cancel _ written =>
    match c.phase with
    | .cancelling leaseId (cid :: rest) =>
      let w := w.setConnection i { c with phase := .cancelling leaseId rest }
      if written then
        some (w.write (.cancelled i (buildCancelPacket cid)) (buildCancelPacket cid))
      else some w
    | _ => none
  | .release _ =>
    match c.phase with
    | .cancelling leaseId [] =>
      some ((w.setState c.loop (loop.state.releaseLease loop.vmId leaseId)).setConnection i
        { c with phase := .closed })
    | _ => none
  | _ => none

def step : Event → Option World
  | .startLoop vmId selectorResolved =>
    let state := SecurityKeyState.new selectorResolved
    some { w with loops := w.loops ++ [{
      vmId, state := { state with enabledVms := [vmId] }, live := true, unread := [] }] }
  | .stopLoop i => some (w.stopLoop i)
  | .connect i authenticated now =>
    match w.loops[i]? with
    | some loop =>
      if loop.live && authenticated && decide (loop.vmId ∈ loop.state.enabledVms) then
        some { w with connections := w.connections ++ [{
          loop := i, phase := .waiting (now + queueWaitTimeout), activeCids := ∅,
          toToken := none, toGuest := none }] }
      else none
    | none => none
  | .emit report =>
    if channel report = broadcastCid ∨ channel report ∈ w.busy then
      some { w with
        loops := w.loops.map fun loop => { loop with unread := loop.unread ++ [report] }
        log := w.log ++ [.emitted report] }
    else none
  | .settle cid => some { w with busy := w.busy.erase cid }
  | event =>
    match event.connection? with
    | none => none
    | some i =>
      match w.connections[i]? with
      | none => none
      | some c =>
        match w.loops[c.loop]? with
        | none => none
        | some loop => w.stepConnection i c loop event

end World

end D2b.Daemon.SecurityKey

import D2b.Guestd.ExecPty

/-!
# D2b.Guestd.ExecPty.Control

The control side of an interactive session: `resize` and `signal` share one
sequence gate, and both hold the phase lock from the phase check to the
delivery, so each call is one step.

A signal is checked before its sequence number is admitted, a terminal size
after it: a refused size uses the number up.
-/

namespace D2b.Guestd

/-- Inclusive bounds for a terminal dimension. -/
def ValidDim (d : Nat) : Prop := 1 ≤ d ∧ d ≤ 65535

instance : DecidablePred ValidDim := fun _ => instDecidableAnd

structure TerminalSize where
  rows : Nat
  cols : Nat
  valid : ValidDim rows ∧ ValidDim cols
deriving DecidableEq

def TerminalSize.checked (rows cols : Nat) : Except ExecError TerminalSize :=
  if h : ValidDim rows ∧ ValidDim cols then .ok ⟨rows, cols, h⟩ else .error .invalidTerminalSize

/-- Frozen signal allowlist for foreground terminal process groups. -/
inductive TtySignal where
  | int | term | hup | quit | winch | usr1 | usr2 | kill | tstp | cont
deriving DecidableEq

def TtySignal.fromRaw : Nat → Option TtySignal
  | 1 => some .hup
  | 2 => some .int
  | 3 => some .quit
  | 9 => some .kill
  | 10 => some .usr1
  | 12 => some .usr2
  | 15 => some .term
  | 18 => some .cont
  | 20 => some .tstp
  | 28 => some .winch
  | _ => none

/-- What reaches the PTY. -/
inductive ControlOp where
  | resize (size : TerminalSize)
  | signal (signal : TtySignal)
deriving DecidableEq

inductive ControlEvent where
  | delivered (op : Nat × ControlOp)
  | closing
deriving DecidableEq

/-- The fields of a session that the control calls use.  `log` records what was delivered and
when the session left `Running`, oldest first. -/
structure TtyControl where
  phase : TtyPhase
  lastSeq : Nat
  /-- the control surface is there, until the teardown takes it -/
  control : Bool
  log : List ControlEvent
deriving DecidableEq

inductive ControlCall where
  | resize (seq rows cols : Nat)
  | signal (seq signal : Nat)
  | beginClosing
  | takeControl
  | markTerminal

namespace TtyControl

def new : TtyControl := { phase := .running, lastSeq := 0, control := true, log := [] }

section

variable (s : TtyControl)

/-- `ControlSeqState::admit`, strictly increasing. -/
def admitSeq (seq : Nat) : Except ExecError TtyControl :=
  if seq ≤ s.lastSeq then .error .controlSeqMismatch else .ok { s with lastSeq := seq }

def deliver (seq : Nat) (op : ControlOp) : TtyControl :=
  if s.control then { s with log := s.log ++ [.delivered (seq, op)] } else s

def resize (s : TtyControl) (seq rows cols : Nat) : Except ExecError Unit × TtyControl :=
  if s.phase ≠ .running then (.error .execClosing, s)
  else
    match s.admitSeq seq with
    | .error e => (.error e, s)
    | .ok s =>
      match TerminalSize.checked rows cols with
      | .error e => (.error e, s)
      | .ok size => (.ok (), s.deliver seq (.resize size))

def signal (s : TtyControl) (seq signal : Nat) : Except ExecError Unit × TtyControl :=
  if s.phase ≠ .running then (.error .execClosing, s)
  else
    match TtySignal.fromRaw signal with
    | none => (.error .invalidSignal, s)
    | some signal =>
      match s.admitSeq seq with
      | .error e => (.error e, s)
      | .ok s => (.ok (), s.deliver seq (.signal signal))

def beginClosing : Bool × TtyControl :=
  if s.phase = .running then (true, { s with phase := .closing, log := s.log ++ [.closing] })
  else (false, s)

def call : ControlCall → Except ExecError Unit × TtyControl
  | .resize seq rows cols => s.resize seq rows cols
  | .signal seq signal => s.signal seq signal
  | .beginClosing => (.ok (), s.beginClosing.2)
  | .takeControl => (.ok (), { s with control := false })
  | .markTerminal => (.ok (), { s with phase := .terminal })

/-! ## what a call does -/

/-- A call is refused and changes nothing but, for a size out of bounds, the sequence; or it
delivers under a new number while running; or it is one of the teardown. -/
lemma call_cases (c : ControlCall) :
    (∃ e, (s.call c).1 = .error e ∧ ((s.call c).2 = s ∨ ∃ seq rows cols,
      c = .resize seq rows cols ∧ ¬(ValidDim rows ∧ ValidDim cols) ∧ s.lastSeq < seq ∧
        (s.call c).2 = { s with lastSeq := seq })) ∨
    (s.call c).1 = .ok () ∧
      ((∃ seq op, s.phase = .running ∧ s.lastSeq < seq ∧
        (s.call c).2 = { s with lastSeq := seq }.deliver seq op) ∨
      (s.call c).2 = s.beginClosing.2 ∨ (s.call c).2 = { s with control := false } ∨
      (s.call c).2 = { s with phase := .terminal }) := by
  cases c with
  | resize seq rows cols =>
    simp only [call, resize, admitSeq, TerminalSize.checked]
    grind
  | signal seq signal =>
    simp only [call, TtyControl.signal, admitSeq]
    grind
  | beginClosing => exact .inr ⟨rfl, .inr (.inl rfl)⟩
  | takeControl => exact .inr ⟨rfl, .inr (.inr (.inl rfl))⟩
  | markTerminal => exact .inr ⟨rfl, .inr (.inr (.inr rfl))⟩

/-! ## runs -/

/-- The session after some calls. -/
def after (calls : List ControlCall) : TtyControl := calls.foldl (fun s c => (s.call c).2) new

/-- The deliveries are numbered upwards, up to the gate, and end with the closing. -/
def Ordered (ops : List (Nat × ControlOp)) : Prop :=
  ops.Pairwise (·.1 < ·.1) ∧ (∀ op ∈ ops, op.1 ≤ s.lastSeq) ∧
    (s.log = ops.map .delivered ∨ s.phase ≠ .running ∧ s.log = ops.map .delivered ++ [.closing])

end

lemma Ordered.call (h : Ordered s ops) (c : ControlCall) : ∃ ops, Ordered (s.call c).2 ops := by
  obtain ⟨hsorted, hle, hlog⟩ := h
  rcases call_cases s c with ⟨_, -, heq | ⟨seq, _, _, -, -, hlt, heq⟩⟩ |
    ⟨-, ⟨seq, op, hphase, hlt, heq⟩ | heq | heq | heq⟩ <;> rw [heq]
  · exact ⟨ops, hsorted, hle, hlog⟩
  · exact ⟨ops, hsorted, fun op hop => (hle op hop).trans hlt.le, hlog⟩
  · unfold deliver
    split
    · -- still running, so nothing follows the deliveries
      refine ⟨ops ++ [(seq, op)], ?_, ?_, ?_⟩
      · grind
      · grind
      · simpa [hphase] using hlog
    · exact ⟨ops, hsorted, fun op hop => (hle op hop).trans hlt.le, hlog⟩
  · unfold beginClosing
    split
    · next hphase => exact ⟨ops, hsorted, hle, .inr ⟨by simp, by simpa [hphase] using hlog⟩⟩
    · exact ⟨ops, hsorted, hle, hlog⟩
  · exact ⟨ops, hsorted, hle, hlog⟩
  · exact ⟨ops, hsorted, hle, hlog.imp_right fun h => ⟨by simp, h.2⟩⟩

lemma exists_ordered (calls : List ControlCall) : ∀ s : TtyControl, (∃ ops, Ordered s ops) →
    ∃ ops, Ordered (calls.foldl (fun s c => (s.call c).2) s) ops := by
  induction calls with
  | nil => simp
  | cons c calls ih => exact fun s ⟨_, h⟩ => ih _ (h.call c)

/-- The size of a resize is within its bounds. -/
def Sized : ControlCall → Prop
  | .resize _ rows cols => ValidDim rows ∧ ValidDim cols
  | _ => True

end TtyControl

end D2b.Guestd

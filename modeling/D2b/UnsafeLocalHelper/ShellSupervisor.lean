import D2b.Lib.Run
import Mathlib.Algebra.Group.Nat.Defs

/-!
# D2b.UnsafeLocalHelper.ShellSupervisor

The shell supervisor (`shell_supervisor.rs`): one login shell on a pseudo terminal,
the slot of its one attachment, and a thread for every attachment that serves the
terminal requests of its client.

An attachment is numbered by the order of registration, as its socket is; the
generation the code gives it is a `u64` that wraps.  The threads take single steps,
one for each lock they take, so another client may attach or detach in between.
`ReadOutput` and `Wait` are answered by workers, which touch neither the slot nor the
terminal.  Locks are not poisoned.
-/

namespace D2b.UnsafeLocalHelper.ShellSupervisor

open List Option

/-! ## terminal requests -/

inductive HelperFailureCode where
  | invalidRequest | invalidTerminalSize | terminalClosed | terminalOffsetMismatch
deriving DecidableEq

inductive SupervisorFailure where
  | alreadyAttached | closed
deriving DecidableEq

def maxUnsafeLocalTerminalChunkBytes : Nat := 64 * 1024

def maxUnsafeLocalTerminalWaitTimeoutMs : Nat := 1000

inductive HelperTerminalRequest where
  /-- `chunk` is what the base64 text decodes to. -/
  | writeStdin (requestId offset : Nat) (chunk : Option (List UInt8)) (eof : Bool)
  | readOutput (requestId maxLen timeoutMs : Nat)
  | resize (requestId controlSequence rows cols : Nat)
  | wait (requestId timeoutMs : Nat)
  | closeStdin (requestId controlSequence : Nat)
  | closeAttachment (requestId controlSequence : Nat)
deriving DecidableEq

namespace HelperTerminalRequest

def requestId : HelperTerminalRequest → Nat
  | writeStdin id .. | readOutput id .. | resize id .. | wait id _ | closeStdin id _
  | closeAttachment id _ => id

def validateBounds : HelperTerminalRequest → Option HelperFailureCode
  | readOutput _ maxLen timeoutMs =>
    if maxLen = 0 ∨ maxUnsafeLocalTerminalChunkBytes < maxLen ∨
        maxUnsafeLocalTerminalWaitTimeoutMs < timeoutMs then some .invalidRequest
    else none
  | resize _ _ rows cols =>
    if (1 ≤ rows ∧ rows ≤ 65535) ∧ (1 ≤ cols ∧ cols ≤ 65535) then none
    else some .invalidTerminalSize
  | wait _ timeoutMs =>
    if maxUnsafeLocalTerminalWaitTimeoutMs < timeoutMs then some .invalidRequest else none
  | _ => none

def mayRunConcurrently : HelperTerminalRequest → Bool
  | readOutput .. | wait .. => true
  | _ => false

end HelperTerminalRequest

inductive HelperTerminalResponse where
  | writeStdin (requestId acceptedLen nextOffset : Nat) (backpressured stdinClosed : Bool)
  | resize (requestId controlSequence : Nat)
  | closeStdin (requestId controlSequence : Nat) (stdinClosed : Bool)
  | closeAttachment (requestId controlSequence : Nat)
  | rejected (requestId : Nat) (code : HelperFailureCode)
deriving DecidableEq

/-! ## the supervisor -/

structure AttachmentProtocolState where
  inputOffset : Nat := 0
  controlSequence : Nat := 0
deriving DecidableEq

/-- `shutdown` is the socket of the attachment. -/
structure AttachmentSlot where
  generation : Nat
  shutdown : Nat
deriving DecidableEq

/-- Where the thread of an attachment is. -/
inductive Phase where
  /-- Registered; the initial size is not yet set. -/
  | attaching (rows cols : Nat)
  /-- At the head of the loop of `serve_terminal`. -/
  | testing
  | reading
  | processing (request : HelperTerminalRequest)
  /-- The last input is written, and its `eof` still to be passed on. -/
  | closing (requestId accepted : Nat) (backpressured : Bool)
  /-- The loop is left; the slot is not yet cleared. -/
  | leaving
  | finished
deriving DecidableEq

/-- Between here and the next test the thread may act on the terminal. -/
def Phase.busy : Phase → Bool
  | attaching .. | processing _ | closing .. => true
  | testing | reading | leaving | finished => false

structure Attachment where
  generation : Nat
  phase : Phase
  protocol : AttachmentProtocolState := {}
  /-- What went to the writer thread. -/
  responses : List (HelperTerminalResponse × Bool) := []
deriving DecidableEq

inductive TerminalOp where
  | input (bytes : List UInt8)
  | winsize (rows cols : Nat)
deriving DecidableEq

structure World where
  attachment : Option AttachmentSlot := none
  nextAttachment : Nat := 0
  masterOpen : Bool := true
  stdinClosed : Bool := false
  threads : List Attachment := []
  /-- What reached the terminal, with the attachment it came from. -/
  terminal : List (Nat × TerminalOp) := []
deriving DecidableEq

/-- What `write` on the master answers. -/
inductive WriteResult where
  | written (count : Nat)
  | again
  | failed
deriving DecidableEq

/-- The answers of the system to one step of a thread. -/
structure Io where
  write : WriteResult := .failed
  resized : Bool := true
  /-- The response was taken, or the worker started. -/
  sent : Bool := true
deriving DecidableEq

namespace World

variable (w : World)

def registerAttachment (force : Bool) (rows cols : Nat) : Except SupervisorFailure (World × Bool) :=
  if w.attachment.isSome && !force then .error .alreadyAttached
  else
    let count := (w.nextAttachment + 1) % 2 ^ 64
    let generation := if count = 0 then 1 else count
    let slot := ⟨generation, w.threads.length⟩
    let thread := { generation, phase := .attaching rows cols }
    let w' := { w with attachment := some slot, nextAttachment := generation }
    .ok ({ w' with threads := w.threads ++ [thread] }, w.attachment.isSome)

def attachmentIsCurrent (generation : Nat) : Bool := w.attachment.any (·.generation == generation)

def clearAttachment (generation : Nat) : World :=
  if w.attachmentIsCurrent generation then { w with attachment := none } else w

def detachCurrent : World := { w with attachment := none }

def closeForKill : World := { w.detachCurrent with masterOpen := false }

def apply (id : Nat) (op : TerminalOp) : World :=
  { w with terminal := w.terminal ++ [(id, op)] }

def resize (id rows cols : Nat) (resized : Bool) : Except HelperFailureCode World :=
  if 2 ^ 16 ≤ rows ∨ 2 ^ 16 ≤ cols then .error .invalidTerminalSize
  else if rows = 0 ∨ cols = 0 then .error .invalidTerminalSize
  else if w.masterOpen && resized then .ok (w.apply id (.winsize rows cols))
  else .error .terminalClosed

def writeInput (id : Nat) (input : List UInt8) (write : WriteResult) :
    Except HelperFailureCode ((Nat × Bool) × World) :=
  if w.stdinClosed || !w.masterOpen then .error .terminalClosed
  else
    match write with
    | .written count =>
      let written := min count input.length
      .ok ((written, written < input.length), w.apply id (.input (input.take written)))
    | .again => .ok ((0, true), w)
    | .failed => .error .terminalClosed

def closeStdin (id : Nat) (write : WriteResult) : Except HelperFailureCode (Bool × World) :=
  if w.stdinClosed then .ok (true, w)
  else do
    let ((written, backpressured), w) ← w.writeInput id [0x04] write
    if written = 1 && !backpressured then .ok (true, { w with stdinClosed := true })
    else .ok (false, w)

end World

namespace Attachment

/-- The response goes to the writer thread; the loop ends with the channel or on `close`. -/
def respond (a : Attachment) (io : Io) (response : HelperTerminalResponse) (close : Bool) :
    Attachment :=
  if io.sent then
    let responses := a.responses ++ [(response, close)]
    { a with responses, phase := if close then .leaving else .testing }
  else { a with phase := .leaving }

def rejected (a : Attachment) (io : Io) (requestId : Nat) (code : HelperFailureCode) : Attachment :=
  a.respond io (.rejected requestId code) false

end Attachment

section

variable (w : World) (id : Nat) (a : Attachment)

/-- `process_terminal_request`, up to the `eof` of a write. -/
def processTerminalRequest (io : Io) : HelperTerminalRequest → World × Attachment
  | .writeStdin requestId _ none _ => (w, a.rejected io requestId .invalidRequest)
  | .writeStdin requestId offset (some bytes) eof =>
    if offset ≠ a.protocol.inputOffset then
      (w, a.rejected io requestId .terminalOffsetMismatch)
    else
      match w.writeInput id bytes io.write with
      | .error code => (w, a.rejected io requestId code)
      | .ok ((accepted, backpressured), w) =>
        let inputOffset := min (a.protocol.inputOffset + accepted) (2 ^ 64 - 1)
        let a := { a with protocol.inputOffset := inputOffset }
        if eof && accepted == bytes.length then
          (w, { a with phase := .closing requestId accepted backpressured })
        else
          (w, a.respond io
            (.writeStdin requestId accepted inputOffset backpressured w.stdinClosed) false)
  | .resize requestId controlSequence rows cols =>
    if controlSequence ≤ a.protocol.controlSequence then
      (w, a.rejected io requestId .invalidRequest)
    else
      match w.resize id rows cols io.resized with
      | .error code => (w, a.rejected io requestId code)
      | .ok w =>
        let a := { a with protocol.controlSequence := controlSequence }
        (w, a.respond io (.resize requestId controlSequence) false)
  | .closeStdin requestId controlSequence =>
    if controlSequence ≤ a.protocol.controlSequence then
      (w, a.rejected io requestId .invalidRequest)
    else
      match w.closeStdin id io.write with
      | .error code => (w, a.rejected io requestId code)
      | .ok (stdinClosed, w) =>
        let a := { a with protocol.controlSequence := controlSequence }
        (w, a.respond io (.closeStdin requestId controlSequence stdinClosed) false)
  | .closeAttachment requestId controlSequence =>
    if controlSequence ≤ a.protocol.controlSequence then
      (w, a.rejected io requestId .invalidRequest)
    else
      let a := { a with protocol.controlSequence := controlSequence }
      (w.clearAttachment a.generation,
        a.respond io (.closeAttachment requestId controlSequence) true)
  -- served by the workers
  | .readOutput .. | .wait .. => (w, { a with phase := .testing })

/-- The `eof` of a write whose bytes were all accepted. -/
def processEof (io : Io) (requestId accepted : Nat) (backpressured : Bool) : World × Attachment :=
  match w.closeStdin id io.write with
  | .error code => (w, a.rejected io requestId code)
  | .ok (closed, w) =>
    (w, a.respond io (.writeStdin requestId accepted a.protocol.inputOffset
      (backpressured || !closed) closed) false)

/-- What the loop of `serve_terminal` does with what it read. -/
def receive (io : Io) : Option HelperTerminalRequest → Attachment
  | none => { a with phase := .leaving }
  | some request =>
    match request.validateBounds with
    | some code => a.rejected io request.requestId code
    | none =>
      if request.mayRunConcurrently then
        { a with phase := if io.sent then .testing else .leaving }
      else { a with phase := .processing request }

/-- One step of the thread of an attachment, from the phase it is in; `request` is what
a read answers. -/
def threadStep (io : Io) (request : Option HelperTerminalRequest) : World × Attachment :=
  match a.phase with
  | .attaching rows cols =>
    match w.resize id rows cols io.resized with
    | .error _ => (w, { a with phase := .leaving })
    | .ok w => (w, { a with phase := if io.sent then .testing else .leaving })
  | .testing =>
    (w, { a with phase := if w.attachmentIsCurrent a.generation then .reading else .leaving })
  | .reading => (w, receive a io request)
  | .processing request => processTerminalRequest w id a io request
  | .closing requestId accepted backpressured =>
    processEof w id a io requestId accepted backpressured
  | .leaving => (w.clearAttachment a.generation, { a with phase := .finished })
  | .finished => (w, a)

inductive Event where
  /-- A client attaches; `running` is what the status said before. -/
  | attach (running force : Bool) (rows cols : Nat)
  | thread (id : Nat) (io : Io) (request : Option HelperTerminalRequest)
  | detach
  | kill
deriving DecidableEq

/-- The `Attach` action, up to the registration. -/
def attach (running force : Bool) (rows cols : Nat) : Except SupervisorFailure (World × Bool) :=
  if running then w.registerAttachment force rows cols else .error .closed

def step : Event → Option World
  | .attach running force rows cols =>
    match attach w running force rows cols with
    | .error _ => some w
    | .ok (w, _) => some w
  | .thread id io request => do
    let a ← w.threads[id]?
    let (w, a) := threadStep w id a io request
    return { w with threads := w.threads.set id a }
  | .detach => some w.detachCurrent
  | .kill => some w.closeForKill

/-- What a step adds at the terminal. -/
def added (event : Event) : List (Nat × TerminalOp) :=
  match step w event with
  | none => []
  | some w' => w'.terminal.drop w.terminal.length

/-! ## the steps of a thread -/

/-- The attachment is the last one registered, and it was not detached. -/
def World.Holds : Prop := w.attachment.map (·.shutdown) = some id ∧ id + 1 = w.threads.length

instance : Decidable (w.Holds id) := inferInstanceAs (Decidable (_ ∧ _))

end

/-- Nothing but the terminal changed, and only by attachment `id`. -/
def Acts (id : Nat) (w w' : World) : Prop :=
  ∃ (ops : List TerminalOp) (closed : Bool),
    w' = { w with terminal := w.terminal ++ ops.map (Prod.mk id), stdinClosed := closed }

section

variable {w w' : World} {id : Nat} {a a' : Attachment} {reads : Bool}

lemma Acts.refl (id : Nat) (w : World) : Acts id w w := ⟨[], w.stdinClosed, by simp⟩

lemma acts_apply (w : World) (id : Nat) (op : TerminalOp) : Acts id w (w.apply id op) :=
  ⟨[op], w.stdinClosed, rfl⟩

lemma acts_resize (h : w.resize id rows cols resized = .ok w') : Acts id w w' := by
  unfold World.resize at h
  split_ifs at h
  cases h
  exact acts_apply w id _

lemma acts_writeInput (h : w.writeInput id input write = .ok (r, w')) : Acts id w w' := by
  unfold World.writeInput at h
  split at h
  · cases h
  · cases write with
    | written count =>
      cases h
      exact acts_apply w id _
    | again =>
      cases h
      exact .refl id w
    | failed => cases h

lemma acts_closeStdin (h : w.closeStdin id write = .ok (closed, w')) : Acts id w w' := by
  unfold World.closeStdin at h
  split at h
  · cases h
    exact .refl id w
  · cases hwrite : w.writeInput id [0x04] write with
    | error code => simp [hwrite, bind, Except.bind] at h
    | ok r =>
      obtain ⟨⟨written, backpressured⟩, w₁⟩ := r
      obtain ⟨ops, stdinClosed, rfl⟩ := acts_writeInput hwrite
      simp only [hwrite, bind, Except.bind] at h
      split at h
      · cases h
        exact ⟨ops, true, rfl⟩
      · cases h
        exact ⟨ops, stdinClosed, rfl⟩

/-- What a step of a thread does: it acts on the terminal if it was busy, or it gives up
the slot it has. -/
structure ThreadMove (w : World) (id : Nat) (a : Attachment) (reads : Bool) (w' : World)
    (a' : Attachment) : Prop where
  generation : a'.generation = a.generation
  effect : a.phase.busy = true ∧ Acts id w w' ∨ w' = w ∨
    w' = w.clearAttachment a.generation ∧ a'.phase.busy = false
  busy : a'.phase.busy = true → a.phase.busy = true ∨ a.phase = .reading ∧ reads = true

@[simp] lemma generation_respond (response : HelperTerminalResponse) (close : Bool) :
    (a.respond io response close).generation = a.generation := by
  unfold Attachment.respond
  split <;> rfl

@[simp] lemma busy_respond (response : HelperTerminalResponse) (close : Bool) :
    (a.respond io response close).phase.busy = false := by
  unfold Attachment.respond
  cases io.sent <;> cases close <;> rfl

lemma ThreadMove.of_acts (hbusy : a.phase.busy = true) (hacts : Acts id w w')
    (hgen : a'.generation = a.generation) : ThreadMove w id a reads w' a' :=
  ⟨hgen, .inl ⟨hbusy, hacts⟩, fun _ => .inl hbusy⟩

lemma threadMove_processTerminalRequest (hbusy : a.phase.busy = true)
    (request : HelperTerminalRequest) :
    ThreadMove w id a reads (processTerminalRequest w id a io request).1
      (processTerminalRequest w id a io request).2 := by
  have hreject : ∀ requestId code, ThreadMove w id a reads w (a.rejected io requestId code) :=
    fun _ _ => .of_acts hbusy (.refl id w) (generation_respond _ _)
  cases request with
  | writeStdin requestId offset chunk eof =>
    cases chunk with
    | none => exact hreject _ _
    | some bytes =>
      simp only [processTerminalRequest]
      split
      · exact hreject _ _
      · split
        · exact hreject _ _
        · next hwrite =>
          split
          · exact .of_acts hbusy (acts_writeInput hwrite) rfl
          · exact .of_acts hbusy (acts_writeInput hwrite) (generation_respond _ _)
  | resize requestId controlSequence rows cols =>
    simp only [processTerminalRequest]
    split
    · exact hreject _ _
    · split
      · exact hreject _ _
      · next hresize => exact .of_acts hbusy (acts_resize hresize) (generation_respond _ _)
  | closeStdin requestId controlSequence =>
    simp only [processTerminalRequest]
    split
    · exact hreject _ _
    · split
      · exact hreject _ _
      · next hclose => exact .of_acts hbusy (acts_closeStdin hclose) (generation_respond _ _)
  | closeAttachment requestId controlSequence =>
    simp only [processTerminalRequest]
    split
    · exact hreject _ _
    · exact ⟨generation_respond _ _, .inr (.inr ⟨rfl, busy_respond _ _⟩), fun _ => .inl hbusy⟩
  | readOutput | wait => exact .of_acts hbusy (.refl id w) rfl

lemma threadMove_threadStep (w : World) (id : Nat) (a : Attachment) (io : Io)
    (request : Option HelperTerminalRequest) :
    ThreadMove w id a request.isSome (threadStep w id a io request).1
      (threadStep w id a io request).2 := by
  unfold threadStep
  cases hphase : a.phase with
  | attaching rows cols =>
    have hbusy : a.phase.busy = true := by rw [hphase]; rfl
    dsimp only
    split
    · exact .of_acts hbusy (.refl id w) rfl
    · next hresize => exact .of_acts hbusy (acts_resize hresize) rfl
  | testing =>
    refine ⟨rfl, .inr (.inl rfl), fun h => ?_⟩
    dsimp only at h
    split at h <;> cases h
  | reading =>
    cases request with
    | none => exact ⟨rfl, .inr (.inl rfl), fun h => nomatch h⟩
    | some request =>
      refine ⟨?_, .inr (.inl rfl), fun _ => .inr ⟨hphase, rfl⟩⟩
      dsimp only [receive]
      split
      · exact generation_respond _ _
      · split <;> rfl
  | processing request =>
    have hbusy : a.phase.busy = true := by rw [hphase]; rfl
    exact threadMove_processTerminalRequest hbusy request
  | closing requestId accepted backpressured =>
    have hbusy : a.phase.busy = true := by rw [hphase]; rfl
    dsimp only [processEof]
    split
    · exact .of_acts hbusy (.refl id w) (generation_respond _ _)
    · next hclose => exact .of_acts hbusy (acts_closeStdin hclose) (generation_respond _ _)
  | leaving => exact ⟨rfl, .inr (.inr ⟨rfl, rfl⟩), fun h => nomatch h⟩
  | finished => exact ⟨rfl, .inr (.inl rfl), fun h => .inl (hphase ▸ h)⟩

/-! ## orderly runs -/

/-- The attachment in the slot is not about to act on the terminal. -/
def World.HolderIdle (w : World) : Prop :=
  ∀ slot ∈ w.attachment, ∀ a ∈ w.threads[slot.shutdown]?, a.phase.busy = false

/-- The slot changes hands only while the attachment in it is not busy, a request is read
only for the attachment in the slot, and the generations do not wrap. -/
def World.Orderly (w : World) : Event → Prop
  | .attach _ force _ _ => w.threads.length < 2 ^ 64 - 1 ∧ (force = true → w.HolderIdle)
  | .thread id _ request => ∀ a ∈ w.threads[id]?, a.phase = .reading →
      request.isSome = true → w.Holds id
  | .detach | .kill => w.HolderIdle

instance (w : World) : (event : Event) → Decidable (w.Orderly event)
  | .attach .. => by unfold World.Orderly World.HolderIdle; infer_instance
  | .thread .. => by unfold World.Orderly; infer_instance
  | .detach | .kill => by unfold World.Orderly World.HolderIdle; infer_instance

abbrev OrderlyRun : List Event → World → Prop :=
  Trace.Run (· = {}) fun _ w event w' => w.Orderly event ∧ step w event = some w'

/-- The generation of an attachment is its number, from one on. -/
structure World.Inv (w : World) : Prop where
  counted : w.nextAttachment = w.threads.length
  numbered : ∀ (id : Nat) a, w.threads[id]? = some a → a.generation = id + 1
  newest : ∀ slot ∈ w.attachment, slot.generation = slot.shutdown + 1 ∧
    slot.shutdown + 1 = w.threads.length
  held : ∀ (id : Nat) a, w.threads[id]? = some a → a.phase.busy = true → w.Holds id

lemma inv_init : World.Inv {} where
  counted := rfl
  numbered := by simp
  newest := by simp
  held := by simp

lemma World.Holds.slot (h : w.Holds id) : ∃ slot ∈ w.attachment, slot.shutdown = id := by
  obtain ⟨slot, hslot, hid⟩ := map_eq_some_iff.mp h.1
  exact ⟨slot, hslot, hid⟩

namespace World.Inv

variable (h : w.Inv)
include h

/-- Emptying the slot of an idle attachment leaves no busy thread behind. -/
lemma not_busy (hidle : w.HolderIdle) (ha : w.threads[id]? = some a) : a.phase.busy = false := by
  rw [← Bool.not_eq_true]
  intro hbusy
  obtain ⟨slot, hslot, rfl⟩ := (h.held id a ha hbusy).slot
  rw [hidle slot hslot a ha] at hbusy
  cases hbusy

lemma detachCurrent (hidle : w.HolderIdle) : w.detachCurrent.Inv where
  counted := h.counted
  numbered := h.numbered
  newest := by simp [World.detachCurrent]
  held id a ha hbusy := by
    rw [h.not_busy hidle ha] at hbusy
    cases hbusy

lemma registerAttachment (hroom : w.threads.length < 2 ^ 64 - 1)
    (hidle : force = true → w.HolderIdle)
    (hreg : w.registerAttachment force rows cols = .ok (w', forced)) : w'.Inv := by
  unfold World.registerAttachment at hreg
  split at hreg
  · cases hreg
  · next hfree =>
    have hcount : (w.nextAttachment + 1) % 2 ^ 64 = w.threads.length + 1 := by
      rw [h.counted]
      exact Nat.mod_eq_of_lt (by omega)
    simp only [hcount, Nat.add_one_ne_zero, if_false, Except.ok.injEq, Prod.mk.injEq] at hreg
    obtain ⟨rfl, -⟩ := hreg
    have hquiet : w.HolderIdle := by
      intro slot hslot
      have hsome : w.attachment.isSome = true := isSome_iff_exists.mpr ⟨slot, hslot⟩
      rw [hsome, Bool.true_and, Bool.not_eq_true, Bool.not_eq_false'] at hfree
      exact hidle hfree slot hslot
    have hlast : ∀ {thread a : Attachment} {id : Nat}, (w.threads ++ [thread])[id]? = some a →
        w.threads[id]? = some a ∨ id = w.threads.length ∧ a = thread := by
      intro thread a id ha
      rw [getElem?_append] at ha
      split_ifs at ha with hlt
      · exact .inl ha
      · rw [getElem?_singleton] at ha
        split_ifs at ha with hzero
        cases ha
        exact .inr ⟨by omega, rfl⟩
    refine ⟨by simp, fun id a ha => ?_, by simp, fun id a ha hbusy => ?_⟩
    · rcases hlast ha with hold | ⟨rfl, rfl⟩
      · exact h.numbered id a hold
      · rfl
    · rcases hlast ha with hold | ⟨rfl, rfl⟩
      · rw [h.not_busy hquiet hold] at hbusy
        cases hbusy
      · simp [Holds]

lemma setThread (ha : w.threads[id]? = some a)
    (hgen : a'.generation = a.generation) (hbusy : a'.phase.busy = true → w.Holds id) :
    ({ w with threads := w.threads.set id a' } : World).Inv := by
  have hcases : ∀ (j : Nat) b, (w.threads.set id a')[j]? = some b →
      j = id ∧ b = a' ∨ w.threads[j]? = some b := by
    intro j b hb
    rw [getElem?_set] at hb
    split_ifs at hb with hij
    · subst hij
      cases hb
      exact .inl ⟨rfl, rfl⟩
    · exact .inr hb
  refine ⟨?_, fun j b hb => ?_, ?_, fun j b hb hbusy' => ?_⟩
  · simpa using h.counted
  · rcases hcases j b hb with ⟨rfl, rfl⟩ | hold
    · rw [hgen, h.numbered j a ha]
    · exact h.numbered j b hold
  · simpa using h.newest
  · have hheld : w.Holds j := by
      rcases hcases j b hb with ⟨rfl, rfl⟩ | hold
      · exact hbusy hbusy'
      · exact h.held j b hold hbusy'
    simpa [Holds] using hheld

/-- A thread that clears the slot of its generation clears its own. -/
lemma clearAttachment (ha : w.threads[id]? = some a) : w.clearAttachment a.generation = w ∨
      w.clearAttachment a.generation = w.detachCurrent ∧
        ∀ slot ∈ w.attachment, slot.shutdown = id := by
  unfold World.clearAttachment
  split
  · next hcur =>
    refine .inr ⟨rfl, fun slot hslot => ?_⟩
    rw [mem_def] at hslot
    simp only [attachmentIsCurrent, hslot, any_some, beq_iff_eq] at hcur
    have hnumber := (h.newest slot hslot).1
    have hown := h.numbered id a ha
    omega
  · exact .inl rfl

lemma thread (ha : w.threads[id]? = some a)
    (hread : a.phase = .reading → reads = true → w.Holds id)
    (hmove : ThreadMove w id a reads w₁ a') :
    ({ w₁ with threads := w₁.threads.set id a' } : World).Inv := by
  have hbusy : a'.phase.busy = true → w.Holds id := by
    intro hbusy
    rcases hmove.busy hbusy with hbefore | ⟨hreading, hsome⟩
    · exact h.held id a ha hbefore
    · exact hread hreading hsome
  have hset := h.setThread ha hmove.generation hbusy
  rcases hmove.effect with ⟨-, ops, closed, rfl⟩ | rfl | ⟨rfl, hidle⟩
  · exact ⟨hset.counted, hset.numbered, hset.newest, hset.held⟩
  · exact hset
  · rcases h.clearAttachment ha with hsame | ⟨hclear, hown⟩
    · rw [hsame]
      exact hset
    · rw [hclear]
      refine hset.detachCurrent (fun slot hslot b hb => ?_)
      rw [hown slot hslot, mem_def, getElem?_set_self'] at hb
      obtain ⟨_, _, rfl⟩ := map_eq_some_iff.mp hb
      exact hidle

/-! ## one step and a whole run -/

end World.Inv

lemma step_thread (hstep : step w (.thread id io request) = some w') :
    ∃ a w₁ a', w.threads[id]? = some a ∧ ThreadMove w id a request.isSome w₁ a' ∧
      w' = { w₁ with threads := w₁.threads.set id a' } := by
  obtain ⟨a, ha, hstep⟩ := bind_eq_some_iff.mp hstep
  cases hstep
  exact ⟨a, _, _, ha, threadMove_threadStep w id a io request, rfl⟩

lemma step_attach (hstep : step w (.attach running force rows cols) = some w') :
    w' = w ∨ ∃ forced, w.registerAttachment force rows cols = .ok (w', forced) := by
  simp only [step, attach] at hstep
  cases running with
  | false =>
    cases hstep
    exact .inl rfl
  | true =>
    simp only [if_true] at hstep
    split at hstep
    · cases hstep
      exact .inl rfl
    · next heq =>
      cases hstep
      exact .inr ⟨_, heq⟩

lemma World.Inv.step (h : w.Inv) (horderly : w.Orderly event) (hstep : step w event = some w') :
    w'.Inv := by
  cases event with
  | attach running force rows cols =>
    rcases step_attach hstep with rfl | ⟨forced, hreg⟩
    · exact h
    · exact h.registerAttachment horderly.1 horderly.2 hreg
  | thread id io request =>
    obtain ⟨a, w₁, a', ha, hmove, rfl⟩ := step_thread hstep
    exact h.thread ha (horderly a ha) hmove
  | detach =>
    cases hstep
    exact h.detachCurrent horderly
  | kill =>
    cases hstep
    have hfree := h.detachCurrent horderly
    exact ⟨hfree.counted, hfree.numbered, hfree.newest, hfree.held⟩

/-- A step adds to the terminal only what comes from the attachment in the slot. -/
lemma World.Inv.applied (h : w.Inv) (hstep : ShellSupervisor.step w event = some w')
    (happlied : (id, op) ∈ w'.terminal.drop w.terminal.length) : w.Holds id := by
  have hquiet : w'.terminal ≠ w.terminal := by
    intro hsame
    simp [hsame] at happlied
  cases event with
  | attach running force rows cols =>
    rcases step_attach hstep with rfl | ⟨forced, hreg⟩
    · exact absurd rfl hquiet
    · unfold World.registerAttachment at hreg
      split at hreg
      · cases hreg
      · cases hreg
        exact absurd rfl hquiet
  | thread j io request =>
    obtain ⟨a, w₁, a', ha, hmove, rfl⟩ := step_thread hstep
    rcases hmove.effect with ⟨hbusy, ops, closed, rfl⟩ | rfl | ⟨rfl, -⟩
    · simp only [drop_left, List.mem_map, Prod.mk.injEq] at happlied
      obtain ⟨_, _, rfl, _⟩ := happlied
      exact h.held j a ha hbusy
    · exact absurd rfl hquiet
    · refine absurd ?_ hquiet
      unfold World.clearAttachment
      split <;> rfl
  | detach | kill =>
    cases hstep
    exact absurd rfl hquiet

end

/-- Where the slot changes hands only while the attachment in it is not busy, and requests
are read only for the attachment in the slot, whatever reaches the terminal comes from the
last attachment registered, which was not detached. -/
theorem evicted_input_not_applied {history : List Event} {w : World} {event : Event} {id : Nat}
    {op : TerminalOp} (hrun : OrderlyRun history w) (hadded : (id, op) ∈ added w event) :
    w.Holds id := by
  have hinv : w.Inv := by
    refine Trace.Run.preserves hrun inv_init ?_
    intro _ s event s' hinv hs
    exact hinv.step hs.1 hs.2
  unfold added at hadded
  split at hadded
  · cases hadded
  · next hstep => exact hinv.applied hstep hadded

/-- A client attaches and its thread waits for a request. -/
def attached : List Event := [.attach true false 24 80, .thread 0 {} none, .thread 0 {} none]

/-- The thread reads the input `a`. -/
def typed : Event := .thread 0 {} (some (.writeStdin 1 0 (some [0x61]) false))

/-- The terminal takes it. -/
def taken : Event := .thread 0 { write := .written 1 } none

theorem evicted_input_not_applied_typed :
    ∃ w, OrderlyRun (attached ++ [typed]) w ∧ (0, .input [0x61]) ∈ added w taken ∧ w.Holds 0 := by
  obtain ⟨w, hrun, hadded⟩ := Trace.Run.exists_of_guarded (f := step) (c := World.Orderly)
    (P := fun w => (0, .input [0x61]) ∈ added w taken) {} (attached ++ [typed])
  exact ⟨w, hrun, hadded, evicted_input_not_applied hrun hadded⟩

/-- Another client evicts the first while its thread waits in the read: the bytes still queued
are read after that, and reach the terminal. -/
theorem evicted_client_types :
    ∃ w, Trace.Run (· = ({} : World)) (fun _ w event w' => step w event = some w')
        (attached ++ [.attach true true 24 80, typed]) w ∧
      (0, .input [0x61]) ∈ added w taken ∧ ¬ w.Holds 0 := by
  exact Trace.Run.exists_of_foldlM (f := step)
    (P := fun w => (0, .input [0x61]) ∈ added w taken ∧ ¬ w.Holds 0) {}
    (attached ++ [.attach true true 24 80, typed])

end D2b.UnsafeLocalHelper.ShellSupervisor

import D2b.Guestd.DetachedRegistry.System

/-!
# D2b.Guestd.DetachedRegistry.Discipline

What the methods of the registry do with a slot, whatever the answers are: a
call that names an exec touches only the slot it resolved, a create only the
slot it reserved, and an entry is committed, removed, collected or adopted only
by a task that knows it in the right state.
-/

namespace D2b.Guestd

open Prog

open ExecRunner

namespace Note

variable {note note' : Note} {slot : Nat} {stage : Stage}

/-- A sweep leaves the slots it has seen alone. -/
def Spares (note : Note) (slot : Nat) : Prop :=
  ∀ adopted, note.hold = .sweep adopted → slot ∉ adopted

/-- The task may look at a slot, or act on its units. -/
def On (note : Note) (slot : Nat) : Prop :=
  (note.call.keeper = true ∧ note.Spares slot) ∨ note.hold.slot = some slot

/-- The task knows a visible entry of the slot. -/
def AtEntry (note : Note) (slot : Nat) : Prop := ∃ execId, note.hold = .entry execId slot

/-- The task creates in the slot, and has come as far as `stage`. -/
def Creates (note : Note) (slot : Nat) (stage : Stage) : Prop :=
  ∃ execId channel, note.hold = .fresh execId slot channel stage

lemma AtEntry.on (h : note.AtEntry slot) : note.On slot := by
  obtain ⟨execId, hhold⟩ := h
  exact .inr (by rw [hhold]; rfl)

abbrev SameCall (note note' : Note) : Prop := note'.call = note.call

/-- Only the status seen and the record to be written may differ. -/
structure Stays (note note' : Note) : Prop where
  call : note'.call = note.call
  hold : note'.hold = note.hold

lemma Stays.atEntry (h : note.Stays note') (hentry : note.AtEntry slot) : note'.AtEntry slot := by
  obtain ⟨execId, hhold⟩ := hentry
  exact ⟨execId, h.hold.trans hhold⟩

lemma Creates.on (h : note.Creates slot stage) : note.On slot := by
  obtain ⟨execId, channel, hhold⟩ := h
  exact .inr (by rw [hhold]; rfl)

/-- The task has no slot yet. -/
structure Idle (note : Note) : Prop where
  client : note.call.keeper = false
  hold : note.hold = .none
  seen : note.seen = none
  pending : note.pending = none

/-- A task that goes through the slots has left the last one, or knows its entry. -/
structure Scans (note : Note) : Prop where
  keeper : note.call.keeper = true
  hold : note.hold = .none ∨ ∃ slot, note.AtEntry slot

lemma Scans.spares (h : note.Scans) (slot : Nat) : note.Spares slot := by
  intro adopted hsweep
  rcases h.hold with hnone | ⟨other, execId, hentry⟩
  · cases hnone.symm.trans hsweep
  · cases hentry.symm.trans hsweep

/-- Startup before its sweep. -/
structure Starts (note : Note) : Prop where
  call : note.call = .startup
  hold : ∀ adopted, note.hold ≠ .sweep adopted

lemma Starts.on (h : note.Starts) (slot : Nat) : note.On slot :=
  .inl ⟨by rw [h.call]; rfl, fun adopted hsweep => absurd hsweep (h.hold adopted)⟩

/-- A task that sweeps with the slots it has seen. -/
structure Sweeps (note : Note) (adopted : List Nat) : Prop where
  keeper : note.call.keeper = true
  hold : note.hold = .sweep adopted

/-- The slots a task lists are those its sweep leaves alone. -/
lemma afterLock_slotKeys (h : ∀ swept, note.hold ≠ .sweep swept) (adopted : List Nat) :
    note.afterLock .slotKeys adopted = { note with hold := .sweep adopted } := by
  simp only [afterLock]

lemma Sweeps.on {adopted : List Nat} (h : note.Sweeps adopted) (hslot : slot ∉ adopted) :
    note.On slot := by
  refine .inl ⟨h.keeper, fun adopted' hsweep => ?_⟩
  cases h.hold.symm.trans hsweep
  exact hslot

end Note

/-- The critical sections a task may enter. -/
def Section.Allowed (note : Note) : Section → Prop
  | .admission _ execId _ => note.Idle ∧ note.target = some execId
  | .resolveSlot execId => note.Idle ∧ note.target = some execId
  | .entryRecord slot => note.Creates slot .scrubbed
  | .removeEntry slot => (∃ stage, note.Creates slot stage) ∨ note.hold = .dispatch slot
  | .commitRunning slot => note.AtEntry slot ∨ note.Creates slot .persisted
  | .commitTerminal slot terminal code signal _ =>
    (note.AtEntry slot ∨ note.Creates slot .persisted ∨ note.hold = .dispatch slot) ∧
      statusToTerminal note.seen = some (terminal, code, signal)
  | .markLost slot _ => note.AtEntry slot
  | .promoteHold slot => note.hold = .dispatch slot
  | .takeReadGuard slot _ => note.AtEntry slot
  | .dropReadGuard slot => note.AtEntry slot
  | .peek slot => note.On slot
  | .isTerminal slot => note.On slot
  | .withinDeadline slot _ => note.On slot
  | .pastDeadline slot _ => note.On slot
  | .snapshotEntry slot => note.On slot
  | .survey _ => note.call = .reap
  | .overBudgetVictim => note.call = .startup
  | .visibleSlots => note.call.keeper = true
  | .visibleEntries => note.call.keeper = true
  | .slotKeys => note.call.keeper = true

/-- The calls of the store a task may make. -/
def StoreOp.Allowed (note : Note) : StoreOp → Prop
  | .writeRecord slot record =>
    note.pending = some record ∧ (note.AtEntry slot ∨ note.Creates slot .scrubbed)
  | .scrubSlotFiles slot => note.Creates slot .reserved
  | .prepareSlotDir slot => note.Creates slot .reserved
  | .deleteSlotDir slot =>
    (∃ stage, note.Creates slot stage) ∨ note.hold = .dispatch slot ∨ note.call = .startup
  | .readRecord _ => note.call = .startup
  | .listSlotDirs => note.call = .startup
  | .writeSpec slot _ => note.On slot
  | .readSpec slot => note.On slot
  | .writeCancel slot => note.On slot
  | .readStatus slot => note.hold.slot = some slot
  | .readLogMeta slot _ => note.On slot
  | .readLog slot _ _ _ => note.On slot
  | .markLost slot => note.On slot
  | .validateAuthenticity slot => note.On slot

/-- An adoption follows the record and the status that were read. -/
def AdoptKind.Fits (record : DurableRecord) (status : Option StatusPhase) : AdoptKind → Prop
  | .terminal state code signal => statusToTerminal status = some (state, code, signal)
  | .running => statusToTerminal status = none
  | .dispatchHold => statusToTerminal status = none ∧ record.state = .dispatching

/-- The operations a task may perform. -/
def Op.Allowed (note : Note) : Op → Prop
  | .lock sec => sec.Allowed note
  | .store op => op.Allowed note
  | .units (.startTransientUnit slot _) => note.On slot
  | .units (.stopUnit slot) => note.On slot
  | .units (.resetFailed slot) => note.On slot
  | .units .listManagedUnits => True
  | .collect slot =>
    note.hold = .entry none slot ∧ (note.call = .reap ∨ note.call = .startup)
  | .insertAdopted slot record kind _ =>
    note.call = .startup ∧
      ∃ status, note.hold = .dir slot record (some status) ∧ kind.Fits record status
  | .nextExecId => note.Idle ∧ note.target = none
  | .nowMs | .sleepMs _ | .sendResolution _ _ => True
  | .awaitResolution channel => ∃ execId, note.hold = .waiting execId channel

/-- What the loops need, and leave. -/
def slotDiscipline : Discipline (S := registrySig) Note.next where
  Allows note op := op.Allowed note
  Pre
    | .createLoop slot _ _, note => note.Creates slot .persisted
    | .waitLoop slot _ _ _, note => note.AtEntry slot
    | .cancelLoop slot _, note => note.AtEntry slot
    | .evictLoop, note => note.call = .startup
  Post
    | .cancelLoop slot _, _, note' => note'.AtEntry slot
    | _, _, _ => True

/-- The method keeps to its slot, from what the task knows on. -/
abbrev Method.Heeds {α : Type} (p : Method α) (note : Note) (Q : Note → Prop) : Prop :=
  p.Keeps slotDiscipline note Q

namespace DetachedRegistry

variable {reg : DetachedRegistry} {note : Note}

/-! ## one operation -/

lemma keeps_lock {sec : Section} {f : sec.Ans → Method α} (h : sec.Allowed note)
    (hf : ∀ ans, (f ans).Heeds (note.afterLock sec ans) Q) :
    (lock sec >>= f).Heeds note Q := ⟨h, hf⟩

lemma keeps_store {op : StoreOp} {f : op.Ans → Method α} (h : op.Allowed note)
    (hf : ∀ ans, (f ans).Heeds (note.afterStore op ans) Q) :
    (store op >>= f).Heeds note Q := ⟨h, hf⟩

lemma keeps_units {op : UnitOp} {f : op.Ans → Method α} (h : (Op.units op).Allowed note)
    (hf : ∀ ans, (f ans).Heeds note Q) :
    (units op >>= f).Heeds note Q := ⟨h, hf⟩

lemma keeps_nowMs {f : Nat → Method α} (hf : ∀ now, (f now).Heeds note Q) :
    (nowMs >>= f).Heeds note Q := ⟨trivial, hf⟩

lemma keeps_sleepMs {ms : Nat} {f : Unit → Method α} (hf : (f ()).Heeds note Q) :
    (sleepMs ms >>= f).Heeds note Q := ⟨trivial, fun _ => hf⟩

/-- A part that leaves the note alone. -/
lemma keeps_reading {β : Type} {p : Method β} {f : β → Method α}
    (hp : p.Heeds note (· = note))
    (hf : ∀ b, (f b).Heeds note Q) : (p >>= f).Heeds note Q :=
  keeps_bind hp fun b note' h => by subst h; exact hf b

/-- Reading the status leaves a task its hold, unless it is about to adopt a record. -/
lemma keeps_readStatus {f : Except ExecError (Option StatusPhase) → Method α}
    (hslot : note.hold.slot = some slot) (hsame : ∀ status, note.hold.withStatus status = note.hold)
    (hf : ∀ status note', note.Stays note' →
      (∀ phase, status = .ok (some phase) → note'.seen = some phase) → (f status).Heeds note' Q) :
    (store (.readStatus slot) >>= f).Heeds note Q := by
  refine keeps_store hslot fun status => hf status _ ?_ ?_
  · cases status <;> exact ⟨rfl, hsame _⟩
  · rintro phase rfl
    rfl

/-! ## parts -/

lemma keeps_stopAndReset (h : note.On slot) : (stopAndReset slot).Heeds note (· = note) :=
  keeps_units h fun _ => keeps_units h fun _ => keeps_pure rfl

lemma keeps_writeBack {record : Option DurableRecord} (hpending : note.pending = record)
    (h : note.AtEntry slot) : (writeBack slot record).Heeds note note.Stays := by
  cases record with
  | none => exact keeps_pure ⟨rfl, rfl⟩
  | some record =>
    refine keeps_store ⟨hpending, .inl h⟩ fun ans => keeps_pure ?_
    obtain ⟨execId, hhold⟩ := h
    cases ans with
    | error e => exact ⟨rfl, rfl⟩
    | ok _ => exact ⟨rfl, by simp [Note.afterStore, hhold, Hold.atStage]⟩

/-- A commit makes the entry visible. -/
lemma atEntry_committed {note' : Note} (hhold : note'.hold = note.hold.committed)
    (h : note.AtEntry slot ∨ note.Creates slot .persisted ∨ note.hold = .dispatch slot) :
    note'.AtEntry slot := by
  rcases h with ⟨execId, h⟩ | ⟨execId, channel, h⟩ | h
  all_goals
    rw [h] at hhold
    exact ⟨_, hhold⟩

lemma keeps_commitRunning (h : note.AtEntry slot ∨ note.Creates slot .persisted) :
    (commitRunning slot).Heeds note
      fun note' => note'.call = note.call ∧ note'.hold = note.hold.committed := by
  refine keeps_lock h fun record => ?_
  have hentry : (note.afterLock (.commitRunning slot) record).AtEntry slot :=
    atEntry_committed rfl (h.imp_right .inl)
  exact (keeps_writeBack rfl hentry).mono fun note' h => ⟨h.call, h.hold⟩

lemma keeps_commitTerminal {code : Option Int}
    (h : note.AtEntry slot ∨ note.Creates slot .persisted ∨ note.hold = .dispatch slot)
    (hseen : statusToTerminal note.seen = some (terminal, code, signal)) :
    (commitTerminal slot terminal code signal).Heeds note
      fun note' => note'.call = note.call ∧ note'.hold = note.hold.committed := by
  refine keeps_nowMs fun now => keeps_lock ⟨h, hseen⟩ fun record => ?_
  have hentry : (note.afterLock (.commitTerminal slot terminal code signal now) record).AtEntry
      slot := atEntry_committed rfl h
  exact (keeps_writeBack rfl hentry).mono fun note' h => ⟨h.call, h.hold⟩

lemma keeps_markLost (h : note.AtEntry slot) : (markLost slot).Heeds note note.Stays := by
  refine keeps_nowMs fun now => keeps_lock h fun record => ?_
  cases record with
  | none => exact keeps_pure ⟨rfl, rfl⟩
  | some record =>
    -- the record of the critical section waits while the streams are marked
    have hentry : (note.afterLock (.markLost slot now) (some record)).AtEntry slot := h
    refine keeps_store hentry.on fun _ => ?_
    show (writeBack slot (some record)).Heeds
      (note.afterLock (.markLost slot now) (some record)) note.Stays
    exact (keeps_writeBack rfl hentry).mono fun note' h => ⟨h.call, h.hold⟩

section

variable (h : note.On slot)
include h

lemma keeps_streamMeta (stream : Stream) : (streamMeta slot stream).Heeds note (· = note) := by
  refine keeps_store h fun ans => ?_
  cases ans <;> exact keeps_pure rfl

lemma keeps_snapshotFor : (snapshotFor slot).Heeds note (· = note) := by
  refine keeps_lock h fun ans => ?_
  cases ans with
  | none => exact keeps_pure rfl
  | some entry =>
    exact keeps_reading (keeps_streamMeta h _) fun _ =>
      keeps_reading (keeps_streamMeta h _) fun _ => keeps_pure rfl

/-! ## units -/

lemma keeps_classifyWorkloadUnit (unit : ManagedUnit) :
    (reg.classifyWorkloadUnit unit slot).Heeds note (· = note) := by
  unfold classifyWorkloadUnit
  split
  · exact keeps_pure rfl
  · split
    · exact keeps_pure rfl
    · refine keeps_store h fun ans => ?_
      cases ans <;> exact keeps_pure rfl

lemma keeps_classifyUnit (present : List ManagedUnit) :
    (reg.classifyUnit present slot).Heeds note (· = note) := by
  unfold classifyUnit
  dsimp only
  split
  · exact keeps_pure rfl
  · exact keeps_reading (keeps_classifyWorkloadUnit h _) fun _ => keeps_pure rfl

lemma keeps_unitLiveness : (reg.unitLiveness slot).Heeds note (· = note) := by
  refine keeps_units trivial fun ans => ?_
  cases ans with
  | error e => exact keeps_pure rfl
  | ok present => exact keeps_classifyUnit h present

end

/-! ## live reconciliation -/

section

variable (h : note.AtEntry slot)
include h

lemma keeps_reconcileNoUnit : (reconcileNoUnit slot).Heeds note note.Stays := by
  refine keeps_nowMs fun now => keeps_lock h.on fun within => ?_
  cases within with
  | true => exact keeps_pure ⟨rfl, rfl⟩
  | false => exact keeps_markLost h

lemma keeps_reconcileUnit : (reg.reconcileUnit slot).Heeds note note.Stays := by
  refine keeps_reading (keeps_unitLiveness h.on) fun liveness => ?_
  cases liveness with
  | live | unknown => exact keeps_pure ⟨rfl, rfl⟩
  | absent => exact keeps_reconcileNoUnit h
  | orphanWorkload =>
    refine keeps_units h.on fun ans => ?_
    cases ans with
    | error e => exact keeps_pure ⟨rfl, rfl⟩
    | ok _ => exact keeps_reconcileNoUnit h
  | foreign =>
    refine keeps_units h.on fun ans => ?_
    cases ans with
    | error e => exact keeps_pure ⟨rfl, rfl⟩
    | ok _ => exact keeps_units h.on fun _ => keeps_reconcileNoUnit h

lemma keeps_adoptStatus (hseen : statusToTerminal note.seen = some (terminal, code, signal)) :
    (adoptStatus slot terminal code signal).Heeds note note.Stays := by
  refine keeps_reading (keeps_stopAndReset h.on) fun _ => ?_
  refine (keeps_commitTerminal (.inl h) hseen).mono fun note' h' => ⟨h'.1, ?_⟩
  obtain ⟨execId, hhold⟩ := h
  rw [h'.2, hhold]
  rfl

/-- Once the status was read, it is either adopted or the units decide. -/
lemma keeps_reconcileStatus
    (hseen : ∀ phase, status = .ok (some phase) → note.seen = some phase) :
    (reg.reconcileStatus slot status).Heeds note note.Stays := by
  cases status with
  | error e => exact keeps_reconcileUnit h
  | ok status =>
    cases status with
    | none => exact keeps_reconcileUnit h
    | some phase =>
      have hseen := hseen phase rfl
      cases phase with
      | started =>
        refine keeps_bind (keeps_commitRunning (.inl h)) fun _ note' h' => ?_
        have hentry : note'.AtEntry slot := atEntry_committed h'.2 (.inl h)
        obtain ⟨execId, hhold⟩ := h
        rw [hhold] at h'
        exact (keeps_reconcileUnit hentry).mono fun note'' h'' =>
          ⟨h''.call.trans h'.1, (h''.hold.trans h'.2).trans hhold.symm⟩
      | infraFailed => exact keeps_reconcileUnit h
      | exited _ | signaled _ | cancelled | spawnFailed =>
        exact keeps_adoptStatus h (by rw [hseen]; rfl)

/-- Reading the status of a known entry, then reconciling with it. -/
lemma keeps_readAndReconcile :
    (store (.readStatus slot) >>= fun status =>
      reg.reconcileStatus slot status).Heeds note note.Stays := by
  obtain ⟨execId, hhold⟩ := h
  refine keeps_readStatus (by rw [hhold]; rfl) (by rw [hhold]; exact fun _ => rfl)
    fun status note' hstays hseen => ?_
  exact (keeps_reconcileStatus ⟨execId, hstays.hold.trans hhold⟩ hseen).mono fun note'' h' =>
    ⟨h'.call.trans hstays.call, h'.hold.trans hstays.hold⟩

lemma keeps_reconcileSlot : (reg.reconcileSlot slot).Heeds note note.Stays := by
  have hsame : ∀ ans, note.afterLock (.peek slot) ans = note := by
    obtain ⟨execId, hhold⟩ := h
    intro ans
    simp [Note.afterLock, hhold, Hold.slot]
  refine keeps_lock h.on fun ans => ?_
  rw [hsame]
  cases ans with
  | none => exact keeps_pure ⟨rfl, rfl⟩
  | some flags =>
    dsimp only
    split
    · exact keeps_pure ⟨rfl, rfl⟩
    · exact keeps_readAndReconcile h

end

/-! ## calls that name an exec -/

lemma keeps_waitLoop (h : note.AtEntry slot) (start : Nat) (known : Option Nat)
    (timeoutMs : Nat) :
    (reg.waitLoop slot start known timeoutMs).Heeds note fun _ => True := by
  refine keeps_bind (keeps_reconcileSlot h) fun _ note' h' => ?_
  have hentry := h'.atEntry h
  refine keeps_reading (keeps_snapshotFor hentry.on) fun snapshot => ?_
  cases snapshot with
  | error e => exact keeps_pure trivial
  | ok snapshot =>
    dsimp only
    split
    · exact keeps_pure trivial
    · refine keeps_nowMs fun now => ?_
      split
      · exact keeps_pure trivial
      · exact keeps_sleepMs (keeps_proc hentry fun _ _ => trivial)

/-- A reconciliation, then a look at whether the exec has ended. -/
lemma keeps_reconciled {f : Bool → Method α} (h : note.AtEntry slot)
    (hf : ∀ terminal note', note'.AtEntry slot → (f terminal).Heeds note' Q) :
    Method.Heeds (reg.reconcileSlot slot >>= fun _ => lock (.isTerminal slot) >>= f) note Q :=
  keeps_bind (keeps_reconcileSlot h) fun _ note' h' =>
    keeps_lock (h'.atEntry h).on fun terminal => hf terminal note' (h'.atEntry h)

lemma keeps_cancelLoop (h : note.AtEntry slot) (start : Nat) :
    (reg.cancelLoop slot start).Heeds note fun note' => note'.AtEntry slot := by
  refine keeps_reconciled h fun terminal note' hentry => ?_
  cases terminal with
  | true => exact keeps_pure hentry
  | false =>
    refine keeps_nowMs fun now => ?_
    split
    · exact keeps_pure hentry
    · exact keeps_sleepMs (keeps_proc hentry fun _ hpost => hpost)

lemma keeps_cancelBackstop (h : note.AtEntry slot) :
    (reg.cancelBackstop slot).Heeds note fun _ => True := by
  refine keeps_units h.on fun stopped => ?_
  cases stopped with
  | ok _ =>
    refine keeps_units h.on fun _ => ?_
    refine keeps_reconciled h fun terminal note' hentry => ?_
    cases terminal with
    | true => exact keeps_pure trivial
    | false => exact (keeps_markLost hentry).mono fun _ _ => trivial
  | error e =>
    refine keeps_reconciled h fun terminal note' hentry => ?_
    cases terminal with
    | true => exact keeps_pure trivial
    | false =>
      refine keeps_reading (keeps_unitLiveness hentry.on) fun liveness => ?_
      cases liveness with
      | absent => exact (keeps_markLost hentry).mono fun _ _ => trivial
      | live | orphanWorkload | foreign | unknown => exact keeps_pure trivial

section

variable {execId : String} (hidle : note.Idle) (htarget : note.target = some execId)
include hidle htarget

/-- The id is resolved, and from then on the entry is known. -/
lemma keeps_resolve {f : Except ExecError Nat → Method α}
    (herror : ∀ e, (f (.error e)).Heeds note Q)
    (hok : ∀ slot note', note'.AtEntry slot → (f (.ok slot)).Heeds note' Q) :
    (lock (.resolveSlot execId) >>= f).Heeds note Q := by
  refine keeps_lock ⟨hidle, htarget⟩ fun ans => ?_
  cases ans with
  | error e => exact herror e
  | ok slot => exact hok slot _ ⟨some execId, rfl⟩

lemma keeps_inspect : (reg.inspect execId bootId).Heeds note fun _ => True := by
  unfold inspect
  split
  · exact keeps_pure trivial
  · refine keeps_resolve hidle htarget (fun e => keeps_pure trivial) fun slot note' h => ?_
    refine keeps_bind (keeps_reconcileSlot h) fun _ note'' h' => ?_
    exact (keeps_snapshotFor (h'.atEntry h).on).mono fun _ _ => trivial

lemma keeps_wait {known : Option Nat} :
    (reg.wait execId bootId known timeoutMs).Heeds note fun _ => True := by
  unfold wait
  split
  · exact keeps_pure trivial
  · refine keeps_resolve hidle htarget (fun e => keeps_pure trivial) fun slot note' h => ?_
    exact keeps_nowMs fun start => keeps_proc h fun _ _ => trivial

lemma keeps_readLogs {stream : Stream} :
    (reg.readLogs execId bootId stream offset maxLen).Heeds note fun _ => True := by
  unfold readLogs
  split
  · exact keeps_pure trivial
  · refine keeps_resolve hidle htarget (fun e => keeps_pure trivial) fun slot note' h => ?_
    refine keeps_lock h fun ans => ?_
    cases ans with
    | error e => exact keeps_pure trivial
    | ok _ => exact keeps_store h.on fun result => keeps_lock h fun _ => keeps_pure trivial

lemma keeps_cancel : (reg.cancel execId bootId).Heeds note fun _ => True := by
  unfold cancel
  split
  · exact keeps_pure trivial
  · refine keeps_resolve hidle htarget (fun e => keeps_pure trivial) fun slot note' h => ?_
    refine keeps_reconciled h fun terminal note'' hentry => ?_
    cases terminal with
    | true => exact keeps_pure trivial
    | false =>
      refine keeps_store hentry.on fun ans => ?_
      cases ans with
      | error e => exact keeps_pure trivial
      | ok _ =>
        refine keeps_nowMs fun start => ?_
        have hloop : (loop (.cancelLoop slot start)).Heeds note''
            fun note' => note'.AtEntry slot := keeps_proc hentry fun _ hpost => hpost
        refine keeps_bind hloop fun ended note' hentry' => ?_
        cases ended with
        | true => exact keeps_pure trivial
        | false =>
          exact keeps_bind (keeps_cancelBackstop hentry') fun _ _ _ => keeps_pure trivial

end

/-! ## creation -/

lemma keeps_abortWith {stage : Stage} (h : note.Creates slot stage) (error : ExecError) :
    (abortWith slot error).Heeds note fun _ => True := by
  have habort : (abortCreate slot).Heeds note fun _ => True := by
    refine keeps_reading (keeps_stopAndReset h.on) fun _ => ?_
    refine keeps_store (.inl ⟨stage, h⟩) fun _ => ?_
    exact ⟨.inl ⟨stage, h⟩, fun _ => trivial⟩
  exact keeps_bind habort fun _ _ _ => keeps_pure trivial

lemma keeps_created (h : note.AtEntry slot) (execId : String) :
    (created slot execId).Heeds note fun _ => True :=
  keeps_reading (keeps_snapshotFor h.on) fun _ => keeps_pure trivial

section

variable (h : note.Creates slot .persisted) (execId : String)
include h

/-- A create that commits, then answers with the snapshot of its slot. -/
lemma keeps_commitRunning_created :
    (commitRunning slot >>= fun _ => created slot execId).Heeds note fun _ => True :=
  keeps_bind (keeps_commitRunning (.inr h)) fun _ _ h' =>
    keeps_created (atEntry_committed h'.2 (.inr (.inl h))) execId

lemma keeps_commitTerminal_created {code : Option Int}
    (hseen : statusToTerminal note.seen = some (terminal, code, signal)) :
    (commitTerminal slot terminal code signal >>= fun _ => created slot execId).Heeds note
      fun _ => True :=
  keeps_bind (keeps_commitTerminal (.inr (.inl h)) hseen) fun _ _ h' =>
    keeps_created (atEntry_committed h'.2 (.inr (.inl h))) execId

lemma keeps_createTimedOut : (reg.createTimedOut slot execId).Heeds note fun _ => True := by
  refine keeps_reading (keeps_unitLiveness h.on) fun liveness => ?_
  cases liveness with
  | live | unknown => exact keeps_commitRunning_created h execId
  | absent | foreign | orphanWorkload => exact keeps_abortWith h _

lemma keeps_createLoop (start : Nat) :
    (reg.createLoop slot execId start).Heeds note fun _ => True := by
  obtain ⟨_, channel, hhold⟩ := h
  refine keeps_readStatus (by rw [hhold]; rfl) (by rw [hhold]; exact fun _ => rfl)
    fun status note' hstays hseen => ?_
  have hcreates : note'.Creates slot .persisted := ⟨_, channel, hstays.hold.trans hhold⟩
  cases status with
  | error e => exact keeps_abortWith hcreates e
  | ok status =>
    cases status with
    | none =>
      refine keeps_nowMs fun now => ?_
      split
      · exact keeps_createTimedOut hcreates execId
      · exact keeps_sleepMs (keeps_proc hcreates fun _ _ => trivial)
    | some phase =>
      have hseen := hseen phase rfl
      cases phase with
      | started => exact keeps_commitRunning_created hcreates execId
      | infraFailed => exact keeps_abortWith hcreates _
      | exited _ | signaled _ | cancelled | spawnFailed =>
        exact keeps_commitTerminal_created hcreates execId (by rw [hseen]; rfl)

end

/-- Persisting the dispatch ends with the record on disk, or with an error. -/
lemma keeps_persistDispatch {spec : ExecRunner.ExecSpec} {f : Except ExecError Unit → Method α}
    (h : note.Creates slot .reserved)
    (herror : ∀ e note' stage, note'.Creates slot stage → (f (.error e)).Heeds note' Q)
    (hok : ∀ note', note'.Creates slot .persisted → (f (.ok ())).Heeds note' Q) :
    (persistDispatch slot spec >>= f).Heeds note Q := by
  obtain ⟨execId, channel, hhold⟩ := h
  refine keeps_store ⟨execId, channel, hhold⟩ fun prepared => ?_
  cases prepared with
  | error e => exact herror e _ .reserved ⟨execId, channel, hhold⟩
  | ok _ =>
    refine keeps_store ⟨execId, channel, hhold⟩ fun scrubbed => ?_
    cases scrubbed with
    | error e => exact herror e _ .reserved ⟨execId, channel, hhold⟩
    | ok _ =>
      have hscrubbed : (note.hold.atStage .scrubbed) = .fresh execId slot channel .scrubbed := by
        rw [hhold]
        rfl
      refine keeps_lock ⟨execId, channel, hscrubbed⟩ fun record => ?_
      cases record with
      | none => exact herror _ _ .scrubbed ⟨execId, channel, hscrubbed⟩
      | some record =>
        refine keeps_store ⟨rfl, .inr ⟨execId, channel, hscrubbed⟩⟩ fun written => ?_
        cases written with
        | error e => exact herror e _ .scrubbed ⟨execId, channel, hscrubbed⟩
        | ok _ =>
          have hpersisted : (note.hold.atStage .scrubbed).atStage .persisted
              = .fresh execId slot channel .persisted := by
            rw [hscrubbed]
            rfl
          refine keeps_store (.inr ?_) fun specWritten => ?_
          · show ((note.hold.atStage .scrubbed).atStage .persisted).slot = some slot
            rw [hpersisted]
            rfl
          · cases specWritten with
            | error e => exact herror e _ .persisted ⟨execId, channel, hpersisted⟩
            | ok _ => exact hok _ ⟨execId, channel, hpersisted⟩

lemma keeps_executeReservedCreate (h : note.Creates slot .reserved) (execId : String)
    (req : CreateRequest) :
    (executeReservedCreate slot execId req).Heeds note fun _ => True := by
  unfold executeReservedCreate
  split
  · exact keeps_abortWith h _
  · refine keeps_persistDispatch h (fun e note' stage h' => keeps_abortWith h' e) fun note' h' => ?_
    refine keeps_units h'.on fun started => ?_
    cases started with
    | error e => exact keeps_abortWith h' _
    | ok _ => exact keeps_nowMs fun start => keeps_proc h' fun _ _ => trivial

lemma keeps_createAs {execId : String} (req : CreateRequest) (hidle : note.Idle)
    (htarget : note.target = some execId) :
    (reg.createAs req execId).Heeds note fun _ => True := by
  refine keeps_nowMs fun now => keeps_lock ⟨hidle, htarget⟩ fun ans => ?_
  cases ans with
  | error e => exact keeps_pure trivial
  | ok admission =>
    cases admission with
    | replayVisible =>
      exact keeps_bind (keeps_inspect hidle htarget) fun _ _ _ => keeps_pure trivial
    | replayCreating channel => exact ⟨⟨execId, rfl⟩, fun _ => trivial⟩
    | reserved slot channel =>
      refine keeps_bind (keeps_executeReservedCreate ⟨execId, channel, rfl⟩ execId req)
        fun _ _ _ => ?_
      exact ⟨trivial, fun _ => trivial⟩

lemma keeps_create (hidle : note.Idle) (htarget : note.target = req.execId) :
    (reg.create req).Heeds note fun _ => True := by
  unfold create
  split
  · exact keeps_pure trivial
  · split
    · next execId hreq =>
        split
        · exact keeps_createAs req hidle (htarget.trans hreq)
        · exact keeps_pure trivial
    · next hreq =>
        refine ⟨⟨hidle, htarget.trans hreq⟩, fun ans => ?_⟩
        cases ans with
        | error e => exact keeps_pure trivial
        | ok execId =>
          exact keeps_createAs req ⟨hidle.client, hidle.hold, hidle.seen, hidle.pending⟩ rfl

/-! ## listings -/

lemma keeps_reconcileSlot_scan (h : note.Scans) :
    (reg.reconcileSlot slot).Heeds note Note.Scans := by
  by_cases hslot : note.hold.slot = some slot
  · have hentry : note.AtEntry slot := by
      rcases h.hold with hnone | ⟨other, execId, hhold⟩
      · simp [hnone, Hold.slot] at hslot
      · rw [hhold, Hold.slot, Option.some.injEq] at hslot
        exact ⟨execId, hslot ▸ hhold⟩
    exact (keeps_reconcileSlot hentry).mono fun note' h' =>
      ⟨h'.call ▸ h.keeper, .inr ⟨slot, h'.atEntry hentry⟩⟩
  · refine keeps_lock (.inl ⟨h.keeper, h.spares slot⟩) fun ans => ?_
    simp only [Note.afterLock, if_neg hslot]
    cases ans with
    | none => exact keeps_pure ⟨h.keeper, .inl rfl⟩
    | some flags =>
      obtain ⟨hidden, terminal⟩ := flags
      cases hidden with
      | true => exact keeps_pure ⟨h.keeper, .inl rfl⟩
      | false =>
        cases terminal with
        | true => exact keeps_pure ⟨h.keeper, .inr ⟨slot, none, rfl⟩⟩
        | false =>
          refine (keeps_readAndReconcile ⟨none, rfl⟩).mono fun note' h' => ?_
          exact ⟨h'.call ▸ h.keeper, .inr ⟨slot, none, h'.hold⟩⟩

lemma keeps_reconcileSlots :
    ∀ (slots : List Nat) {note : Note}, note.Scans →
      (reg.reconcileSlots slots).Heeds note Note.Scans := by
  intro slots
  induction slots with
  | nil =>
    intro note h
    exact keeps_pure h
  | cons slot slots ih =>
    intro note h
    exact keeps_bind (keeps_reconcileSlot_scan h) fun _ _ h' => ih h'

lemma keeps_listEntries (h : note.Scans) :
    ∀ entries, (listEntries entries).Heeds note (· = note) := by
  intro entries
  induction entries with
  | nil => exact keeps_pure rfl
  | cons entry entries ih =>
    have hon : note.On entry.1 := .inl ⟨h.keeper, h.spares _⟩
    exact keeps_reading (keeps_streamMeta hon _) fun _ =>
      keeps_reading (keeps_streamMeta hon _) fun _ => keeps_reading ih fun _ => keeps_pure rfl

lemma keeps_list (h : note.Scans) : (reg.list bootId).Heeds note fun _ => True := by
  unfold list
  split
  · exact keeps_pure trivial
  · refine keeps_lock h.keeper fun slots => ?_
    refine keeps_bind (keeps_reconcileSlots slots h) fun _ note' h' => ?_
    refine keeps_lock h'.keeper fun entries => ?_
    have hscans : (note'.afterLock .visibleEntries entries).Scans := ⟨h'.keeper, .inl rfl⟩
    exact keeps_reading (keeps_listEntries hscans entries) fun _ => keeps_pure trivial

/-! ## the reaper -/

lemma keeps_stopOrphans (h : note.Sweeps adopted) :
    ∀ present stopped, (stopOrphans adopted stopped present).Heeds note (· = note) := by
  intro present
  induction present with
  | nil =>
    intro stopped
    exact keeps_pure rfl
  | cons unit present ih =>
    intro stopped
    unfold stopOrphans
    split
    · exact ih stopped
    · next hskip =>
        have hslot : unit.slot ∉ adopted := fun hmem => hskip (.inl hmem)
        exact keeps_reading (keeps_stopAndReset (h.on hslot)) fun _ => ih _

lemma keeps_sweepOrphanUnits (h : note.call = .reap) (hhold : note.hold = .none) :
    sweepOrphanUnits.Heeds note fun note' => note'.call = .reap := by
  refine keeps_units trivial fun ans => ?_
  cases ans with
  | error e => exact keeps_pure h
  | ok present =>
    have hkeeper : note.call.keeper = true := by
      rw [h]
      rfl
    refine keeps_lock hkeeper fun adopted => ?_
    rw [Note.afterLock_slotKeys (by simp [hhold])]
    have hsweeps : ({ note with hold := .sweep adopted } : Note).Sweeps adopted := ⟨hkeeper, rfl⟩
    exact (keeps_stopOrphans hsweeps present []).mono fun note' h' => h' ▸ h

lemma keeps_gcSlot (hhold : note.hold = .entry none slot)
    (hcall : note.call = .reap ∨ note.call = .startup) :
    (gcSlot slot).Heeds note note.SameCall :=
  keeps_reading (keeps_stopAndReset (Note.AtEntry.on ⟨none, hhold⟩)) fun _ =>
    ⟨⟨hhold, hcall⟩, fun _ => rfl⟩

section

variable (h : note.hold = .dispatch slot)
include h

lemma keeps_deleteDispatchHold : (deleteDispatchHold slot).Heeds note note.SameCall := by
  refine keeps_store (.inr (.inl h)) fun ans => ?_
  cases ans with
  | error e => exact keeps_pure rfl
  | ok _ => exact ⟨.inr h, fun _ => rfl⟩

lemma keeps_promoteDispatchHold : (promoteDispatchHold slot).Heeds note note.SameCall := by
  refine keeps_lock h fun record => ?_
  have hentry : (note.afterLock (.promoteHold slot) record).AtEntry slot :=
    atEntry_committed rfl (.inr (.inr h))
  exact (keeps_writeBack rfl hentry).mono fun note' h' => h'.call

lemma keeps_resolveHoldByUnit (past : Bool) :
    (reg.resolveHoldByUnit slot past).Heeds note note.SameCall := by
  have hon : note.On slot := .inr (by rw [h]; rfl)
  have hdelete : (if past then deleteDispatchHold slot else pure ()).Heeds note note.SameCall := by
    split
    · exact keeps_deleteDispatchHold h
    · exact keeps_pure rfl
  refine keeps_reading (keeps_unitLiveness hon) fun liveness => ?_
  cases liveness with
  | live => exact keeps_promoteDispatchHold h
  | unknown => exact keeps_pure rfl
  | orphanWorkload | foreign =>
    refine keeps_units hon fun stopped => ?_
    cases stopped with
    | error e => exact keeps_pure rfl
    | ok _ => exact keeps_units hon fun _ => hdelete
  | absent => exact hdelete

/-- A terminal status settles the held dispatch. -/
lemma keeps_commitHold (hseen : statusToTerminal note.seen = some (terminal, code, signal)) :
    (stopAndReset slot >>= fun _ => commitTerminal slot terminal code signal).Heeds note
      note.SameCall :=
  keeps_reading (keeps_stopAndReset (.inr (by rw [h]; rfl))) fun _ =>
    (keeps_commitTerminal (.inr (.inr h)) hseen).mono fun _ h' => h'.1

lemma keeps_resolveHold (past : Bool)
    (hseen : ∀ phase, status = .ok (some phase) → note.seen = some phase) :
    (reg.resolveHold slot past status).Heeds note note.SameCall := by
  cases status with
  | error e => exact keeps_resolveHoldByUnit h past
  | ok status =>
    cases status with
    | none => exact keeps_resolveHoldByUnit h past
    | some phase =>
      have hseen := hseen phase rfl
      cases phase with
      | started => exact keeps_promoteDispatchHold h
      | infraFailed =>
        exact keeps_reading (keeps_stopAndReset (.inr (by rw [h]; rfl))) fun _ =>
          keeps_deleteDispatchHold h
      | exited _ | signaled _ | cancelled | spawnFailed =>
        exact keeps_commitHold h (by rw [hseen]; rfl)

lemma keeps_resolveDispatchHold : (reg.resolveDispatchHold slot).Heeds note note.SameCall := by
  have hslot : note.hold.slot = some slot := by
    rw [h]
    rfl
  refine keeps_nowMs fun now => keeps_lock (.inr hslot) fun past => ?_
  cases past with
  | none => exact keeps_pure rfl
  | some past =>
    refine keeps_readStatus hslot (by simp [Note.afterLock, h, Hold.withStatus])
      fun status note' hstays hseen => ?_
    exact (keeps_resolveHold (hstays.hold.trans h) past hseen).mono fun note'' h' =>
      h'.trans hstays.call

end

lemma keeps_reapSlot (h : note.call = .reap) :
    (reg.reapSlot slot).Heeds note fun note' => note'.call = .reap := by
  refine keeps_lock h fun ans => ?_
  cases ans with
  | none => exact keeps_pure h
  | some flags =>
    obtain ⟨creating, dispatchHold, terminal, terminalTime⟩ := flags
    cases creating with
    | true => exact keeps_pure h
    | false =>
      cases dispatchHold with
      | true => exact (keeps_resolveDispatchHold rfl).mono fun note' h' => h'.trans h
      | false =>
        cases terminal with
        | false =>
          exact (keeps_reconcileSlot ⟨none, rfl⟩).mono fun note' h' => h'.call.trans h
        | true =>
          cases terminalTime with
          | none => exact keeps_pure h
          | some time =>
            have hhold : (note.afterLock (.survey slot)
                (some (false, false, true, some time))).hold = .entry none slot := rfl
            refine keeps_nowMs fun now => ?_
            split
            · exact (keeps_gcSlot hhold (.inl h)).mono fun note' h' => h'.trans h
            · exact keeps_pure h

lemma keeps_reapSlots :
    ∀ (slots : List Nat) {note : Note}, note.call = .reap →
      (reg.reapSlots slots).Heeds note fun note' => note'.call = .reap := by
  intro slots
  induction slots with
  | nil =>
    intro note h
    exact keeps_pure h
  | cons slot slots ih =>
    intro note h
    exact keeps_bind (keeps_reapSlot h) fun _ _ h' => ih h'

lemma keeps_reapOnce (h : note.call = .reap) (hhold : note.hold = .none) :
    reg.reapOnce.Heeds note fun _ => True := by
  refine keeps_bind (keeps_sweepOrphanUnits h hhold) fun _ note' h' => ?_
  refine keeps_lock (by rw [Section.Allowed, h']; rfl) fun slots => ?_
  have hcall : (note'.afterLock .slotKeys slots).call = .reap := by
    simp only [Note.afterLock]
    split <;> exact h'
  exact (keeps_reapSlots slots hcall).mono fun _ _ => trivial

/-! ## startup -/

lemma keeps_insertAdopted (h : note.Starts) (hhold : note.hold = .dir slot record (some status))
    (hfits : kind.Fits record status) :
    (insertAdopted slot record kind).Heeds note
      fun note' => note'.Starts ∧ (kind = .running → note'.AtEntry slot) := by
  refine keeps_nowMs fun now => ⟨⟨h.call, status, hhold, hfits⟩, fun _ => ?_⟩
  cases kind with
  | running => exact ⟨⟨h.call, nofun⟩, fun _ => ⟨none, rfl⟩⟩
  | dispatchHold | terminal _ _ _ => exact ⟨⟨h.call, nofun⟩, nofun⟩

lemma keeps_quarantine (h : note.Starts) : (quarantine slot).Heeds note Note.Starts :=
  keeps_reading (keeps_stopAndReset (h.on slot)) fun _ =>
    keeps_store (.inr (.inr h.call)) fun _ => keeps_pure h

section

section

variable (h : note.Starts) (hhold : note.hold = .dir slot record (some status))
include h hhold

lemma keeps_adopted (kind : AdoptKind) (hfits : kind.Fits record status) :
    (insertAdopted slot record kind).Heeds note Note.Starts :=
  (keeps_insertAdopted h hhold hfits).mono fun _ h' => h'.1

lemma keeps_adoptNoUnit (hstatus : statusToTerminal status = none) :
    (adoptNoUnit slot record).Heeds note Note.Starts := by
  unfold adoptNoUnit
  split
  · next hstate =>
      have hheld := keeps_adopted h hhold .dispatchHold ⟨hstatus, hstate⟩
      refine keeps_nowMs fun now => ?_
      split
      · exact hheld
      · refine keeps_store (.inr (.inr h.call)) fun ans => ?_
        cases ans with
        | error e => exact hheld
        | ok _ => exact keeps_pure h
  · have hfits : AdoptKind.Fits record status .running := hstatus
    refine keeps_bind (keeps_insertAdopted h hhold hfits) fun _ note' h' => ?_
    exact (keeps_markLost (h'.2 rfl)).mono fun note'' h'' =>
      ⟨h''.call.trans h'.1.call, fun adopted => h''.hold ▸ h'.1.hold adopted⟩

lemma keeps_adoptLive (hstatus : statusToTerminal status = none) (liveness : SlotLiveness) :
    (adoptLive slot record liveness).Heeds note Note.Starts := by
  have hrunning := keeps_adopted h hhold .running hstatus
  have hgone := keeps_adoptNoUnit h hhold hstatus
  cases liveness with
  | live => exact hrunning
  | absent => exact hgone
  | foreign =>
    refine keeps_units (h.on slot) fun stopped => ?_
    cases stopped with
    | error e => exact hrunning
    | ok _ => exact keeps_units (h.on slot) fun _ => hgone
  | orphanWorkload =>
    refine keeps_units (h.on slot) fun stopped => ?_
    cases stopped with
    | error e => exact hrunning
    | ok _ => exact hgone
  | unknown =>
    simp only [adoptLive]
    split
    · next hstate => exact keeps_adopted h hhold .dispatchHold ⟨hstatus, hstate⟩
    · exact hrunning

lemma keeps_adoptRecord (liveness : SlotLiveness) :
    (adoptRecord slot liveness record status).Heeds note Note.Starts := by
  unfold adoptRecord
  split
  · next terminal code signal hstatus =>
      have hterminal := keeps_adopted h hhold (.terminal terminal code signal) hstatus
      split
      · exact keeps_quarantine h
      · split
        · exact keeps_reading (keeps_stopAndReset (h.on slot)) fun _ => hterminal
        · exact hterminal
  · next hstatus => exact keeps_adoptLive h hhold hstatus liveness

end

end

lemma keeps_adoptSlot (h : note.Starts) (liveness : SlotLiveness) :
    (reg.adoptSlot slot liveness).Heeds note Note.Starts := by
  refine keeps_store (h.on slot) fun authentic => ?_
  cases authentic with
  | error e => exact keeps_quarantine h
  | ok _ =>
    refine keeps_store h.call fun ans => ?_
    cases ans with
    | error e => exact keeps_store (.inr (.inr h.call)) fun _ => keeps_pure h
    | ok record =>
      have hstarts : ((note.afterStore (.validateAuthenticity slot) (.ok ())).afterStore
          (.readRecord slot) (.ok record)).Starts := ⟨h.call, nofun⟩
      dsimp only
      split
      · exact keeps_store (.inr (.inr h.call)) fun _ => keeps_pure hstarts
      · split
        · exact keeps_quarantine hstarts
        · refine keeps_store rfl fun status => ?_
          cases status with
          | error _ | ok _ =>
            apply keeps_adoptRecord
            · exact ⟨h.call, nofun⟩
            · rfl

lemma keeps_adoptSlots (present : Except UnitError (List ManagedUnit)) :
    ∀ (slots : List Nat) {note : Note}, note.Starts →
      (reg.adoptSlots present slots).Heeds note Note.Starts := by
  intro slots
  induction slots with
  | nil =>
    intro note h
    exact keeps_pure h
  | cons slot slots ih =>
    intro note h
    have hadopt : ∀ liveness, (reg.adoptSlot slot liveness >>= fun _ =>
        reg.adoptSlots present slots).Heeds note Note.Starts := fun liveness =>
      keeps_bind (keeps_adoptSlot h liveness) fun _ _ h' => ih h'
    cases present with
    | error e => exact hadopt .unknown
    | ok units =>
      exact keeps_reading (keeps_classifyUnit (h.on slot) units) fun liveness => hadopt liveness

lemma keeps_stopUnadopted (h : note.Sweeps adopted) :
    ∀ present, (stopUnadopted adopted present).Heeds note (· = note) := by
  intro present
  induction present with
  | nil => exact keeps_pure rfl
  | cons unit present ih =>
    unfold stopUnadopted
    split
    · exact ih
    · next hslot => exact keeps_reading (keeps_stopAndReset (h.on hslot)) fun _ => ih

lemma keeps_evictLoop (h : note.call = .startup) : evictLoop.Heeds note fun _ => True := by
  refine keeps_lock h fun victim => ?_
  cases victim with
  | none => exact keeps_pure trivial
  | some slot =>
    refine keeps_bind (keeps_gcSlot rfl (.inr h)) fun _ note' h' => ?_
    exact keeps_proc (h'.trans h) fun _ _ => trivial

lemma keeps_reconcileOnStartup (h : note.Starts) :
    reg.reconcileOnStartup.Heeds note fun _ => True := by
  refine keeps_store h.call fun ans => ?_
  cases ans with
  | error e => exact keeps_pure trivial
  | ok slots =>
    refine keeps_units trivial fun present => ?_
    refine keeps_bind (keeps_adoptSlots present slots h) fun _ note' h' => ?_
    cases present with
    | error e => exact keeps_proc h'.call fun _ _ => trivial
    | ok units =>
      have hkeeper : note'.call.keeper = true := by
        rw [h'.call]
        rfl
      refine keeps_lock hkeeper fun adopted => ?_
      rw [Note.afterLock_slotKeys h'.hold]
      have hsweeps : ({ note' with hold := .sweep adopted } : Note).Sweeps adopted := ⟨hkeeper, rfl⟩
      exact keeps_reading (keeps_stopUnadopted hsweeps units) fun _ =>
        keeps_proc h'.call fun _ _ => trivial

/-! ## all methods -/

/-- The bodies of the loops do what their callers rely on. -/
lemma keeps_loopBody (l : Loop) (note : Note) (h : slotDiscipline.Pre l note) :
    (reg.loopBody l).Heeds note (slotDiscipline.Post l note) := by
  cases l with
  | createLoop slot execId start => exact keeps_createLoop h execId start
  | waitLoop slot start known timeoutMs => exact keeps_waitLoop h start known timeoutMs
  | cancelLoop slot start => exact keeps_cancelLoop h start
  | evictLoop => exact keeps_evictLoop h

/-- Every call keeps to its slot from its start on. -/
lemma keeps_serve (call : Call) : (reg.serve call).Heeds (.start call) fun _ => True := by
  have hmap : ∀ {β : Type} {p : Method β} {f : β → Reply} {note : Note},
      p.Heeds note (fun _ => True) → (f <$> p).Heeds note fun _ => True := fun h =>
    keeps_bind h fun _ _ _ => trivial
  cases call with
  | create req => exact hmap (keeps_create ⟨rfl, rfl, rfl, rfl⟩ rfl)
  | inspect execId bootId => exact hmap (keeps_inspect ⟨rfl, rfl, rfl, rfl⟩ rfl)
  | wait execId bootId known timeoutMs => exact hmap (keeps_wait ⟨rfl, rfl, rfl, rfl⟩ rfl)
  | readLogs execId bootId stream offset maxLen =>
    exact hmap (keeps_readLogs ⟨rfl, rfl, rfl, rfl⟩ rfl)
  | list bootId => exact hmap (keeps_list ⟨rfl, .inl rfl⟩)
  | cancel execId bootId => exact hmap (keeps_cancel ⟨rfl, rfl, rfl, rfl⟩ rfl)
  | reap => exact hmap (keeps_reapOnce rfl rfl)
  | startup => exact hmap (keeps_reconcileOnStartup ⟨rfl, nofun⟩)

end DetachedRegistry

end D2b.Guestd

import D2b.Guestd.DetachedRegistry.Runs

/-!
# D2b.Guestd.DetachedRegistry.NamedExec

Calls addressed by an exec id act on the exec they name, as long as no slot is
collected under a call that works on it.  A call resolves its id to a slot once
and uses the slot from then on; nothing but that condition keeps the slot from
being collected and given to another exec in between.
-/

namespace D2b.Guestd

/-! ## the slot of an operation -/

def Section.slot : Section → Option Nat
  | .entryRecord slot | .removeEntry slot | .commitRunning slot | .commitTerminal slot _ _ _ _
  | .markLost slot _ | .promoteHold slot | .takeReadGuard slot _ | .dropReadGuard slot
  | .peek slot | .isTerminal slot | .withinDeadline slot _ | .pastDeadline slot _ | .survey slot
  | .snapshotEntry slot => some slot
  | .admission _ _ _ | .resolveSlot _ | .visibleSlots | .visibleEntries | .slotKeys
  | .overBudgetVictim => none

def StoreOp.slot : StoreOp → Option Nat
  | .prepareSlotDir slot | .writeRecord slot _ | .writeSpec slot _ | .writeCancel slot
  | .readRecord slot | .readSpec slot | .readStatus slot | .readLogMeta slot _
  | .readLog slot _ _ _ | .markLost slot | .validateAuthenticity slot | .deleteSlotDir slot
  | .scrubSlotFiles slot => some slot
  | .listSlotDirs => none

def UnitOp.slot : UnitOp → Option Nat
  | .startTransientUnit slot _ | .stopUnit slot | .resetFailed slot => some slot
  | .listManagedUnits => none

/-- The slot an operation reads, writes or has a unit of. -/
def Op.slot : Op → Option Nat
  | .lock sec => sec.slot
  | .store op => op.slot
  | .units op => op.slot
  | .collect slot | .insertAdopted slot _ _ _ => some slot
  | .nowMs | .sleepMs _ | .nextExecId | .sendResolution _ _ | .awaitResolution _ => none

namespace Note

variable {note : Note}

lemma On.client (h : note.On slot) (hclient : note.call.keeper = false) :
    note.hold.slot = some slot := by
  rcases h with ⟨hkeeper, -⟩ | hslot
  · simp [hclient] at hkeeper
  · exact hslot

lemma AtEntry.slot_eq (h : note.AtEntry slot) : note.hold.slot = some slot := by
  obtain ⟨x, hhold⟩ := h
  rw [hhold]
  rfl

lemma Creates.slot_eq (h : note.Creates slot stage) : note.hold.slot = some slot := by
  obtain ⟨x, ch, hhold⟩ := h
  rw [hhold]
  rfl

lemma slot_of_dispatch (h : note.hold = .dispatch slot) : note.hold.slot = some slot := by
  rw [h]
  rfl

/-- A call of a client works on the slot it holds. -/
lemma slot_of_section {sec : Section} (h : sec.Allowed note)
    (hclient : note.call.keeper = false) (hslot : sec.slot = some slot) :
    note.hold.slot = some slot := by
  cases sec with
  | peek s | isTerminal s | withinDeadline s _ | pastDeadline s _ | snapshotEntry s =>
    cases hslot
    exact On.client h hclient
  | markLost s _ | takeReadGuard s _ | dropReadGuard s =>
    cases hslot
    exact AtEntry.slot_eq h
  | entryRecord s =>
    cases hslot
    exact Creates.slot_eq h
  | removeEntry s =>
    cases hslot
    rcases h with ⟨stage, h⟩ | h
    · exact h.slot_eq
    · exact slot_of_dispatch h
  | commitRunning s =>
    cases hslot
    rcases h with h | h
    · exact h.slot_eq
    · exact h.slot_eq
  | commitTerminal s _ _ _ _ =>
    cases hslot
    exact Preserved.Held.slot_eq h.1
  | promoteHold s =>
    cases hslot
    exact slot_of_dispatch h
  | survey s =>
    have hreap : note.call = .reap := h
    simp [hreap, Call.keeper] at hclient
  | admission _ _ _ | resolveSlot _ | visibleSlots | visibleEntries | slotKeys
  | overBudgetVictim => cases hslot

lemma slot_of_store {op : StoreOp} (h : op.Allowed note) (hclient : note.call.keeper = false)
    (hslot : op.slot = some slot) : note.hold.slot = some slot := by
  have hstartup : note.call ≠ .startup := by
    intro heq
    simp [heq, Call.keeper] at hclient
  cases op with
  | writeSpec s _ | readSpec s | writeCancel s | readLogMeta s _ | readLog s _ _ _ | markLost s
  | validateAuthenticity s =>
    cases hslot
    exact On.client h hclient
  | prepareSlotDir s | scrubSlotFiles s =>
    cases hslot
    exact Creates.slot_eq h
  | readStatus s =>
    cases hslot
    exact h
  | writeRecord s _ =>
    cases hslot
    rcases h.2 with h | h
    · exact h.slot_eq
    · exact h.slot_eq
  | deleteSlotDir s =>
    cases hslot
    rcases h with ⟨stage, h⟩ | h | h
    · exact h.slot_eq
    · exact slot_of_dispatch h
    · exact absurd h hstartup
  | readRecord s => exact absurd h hstartup
  | listSlotDirs => cases hslot

lemma slot_of_op {op : Op} (h : op.Allowed note) (hclient : note.call.keeper = false)
    (hslot : op.slot = some slot) : note.hold.slot = some slot := by
  cases op with
  | lock sec => exact slot_of_section h hclient hslot
  | store op => exact slot_of_store h hclient hslot
  | units op =>
    cases op with
    | startTransientUnit s _ | stopUnit s | resetFailed s =>
      cases hslot
      exact On.client h hclient
    | listManagedUnits => cases hslot
  | collect s =>
    cases hslot
    rw [h.1]
    rfl
  | insertAdopted s _ _ _ =>
    have hstartup : note.call = .startup := h.1
    simp [hstartup, Call.keeper] at hclient
  | nowMs | sleepMs _ | nextExecId | sendResolution _ _ | awaitResolution _ => cases hslot

/-- The entry of the slot that a call for `x` holds is the entry of `x`. -/
lemma Holds.execId (h : note.Holds strict i w) (htarget : note.target = some x)
    (hslot : note.hold.slot = some slot) :
    ∃ e, w.state.slots[slot]? = some e ∧ e.record.execId = x := by
  have hknows := (h.knows slot hslot).hold
  have hfits := h.aligned.hold
  have hclient : note.call.keeper ≠ true := by
    intro hkeeper
    have hnone := h.aligned.keeper hkeeper
    simp [htarget] at hnone
  cases hhold : note.hold with
  | entry y s =>
    rw [hhold] at hknows hfits
    obtain ⟨e, he, -, hid⟩ := hknows
    cases y with
    | none => exact absurd hfits hclient
    | some y =>
      cases Eq.trans (Eq.symm hfits) htarget
      exact ⟨e, he, hid _ rfl⟩
  | fresh y s ch stage =>
    rw [hhold] at hknows hfits
    obtain ⟨e, he, -, hid, -⟩ := hknows
    cases Eq.trans (Eq.symm hfits) htarget
    exact ⟨e, he, hid⟩
  | dispatch s =>
    rw [hhold] at hfits
    have hreap : note.call = .reap := hfits
    simp [hreap, Call.keeper] at hclient
  | dir s record status =>
    rw [hhold] at hfits
    have hstartup : note.call = .startup := hfits
    simp [hstartup, Call.keeper] at hclient
  | none | sweep _ | waiting _ _ => simp [hhold, Hold.slot] at hslot

end Note

namespace RegistrySystem

variable {reg : DetachedRegistry}

/-- In every run in which slots are collected only while no other task works on
them, a call for `x` touches a slot only while `x` has it, and waits only for
the create of `x`. -/
theorem call_keeps_to_its_exec {history : List RegistryAction} {s : RegistrySystem}
    (hrun : Trace.Run (· = boot reg)
      (fun _ s a s' => s.collectsAlone a = true ∧ act reg s a = some s') history s)
    {i : Nat} {task : Thread registrySig Note Reply} (htask : s.tasks[i]? = some task) {x : String}
    (hnamed : task.note.call.execId = some x ∨ task.note.target = some x) {op : Op}
    (hop : task.prog.nextOp = some op) :
    (∀ slot, op.slot = some slot → ∃ e, s.world.state.slots[slot]? = some e ∧ e.record.execId = x) ∧
    ∀ channel, op = .awaitResolution channel →
      ∃ c, s.world.channels[channel]? = some c ∧ c.execId = x := by
  have hinv : Inv False s := inv_of_run <| Trace.Run.map (f := id) (fun _ h => h)
    (fun _ _ _ _ _ h => ⟨h.1, nofun, h.2⟩) hrun
  obtain ⟨k, hprog⟩ := Prog.perform_of_nextOp hop
  have hholds := hinv.sound.holds i task htask (by rw [hprog]; rfl)
  have hallowed : op.Allowed task.note := by
    have hkeeps := hinv.sound.keeps i task htask
    rw [hprog] at hkeeps
    exact hkeeps.1
  have htarget : task.note.target = some x := hnamed.elim (hholds.aligned.named x) id
  have hclient : task.note.call.keeper = false := by
    cases hkeeper : task.note.call.keeper with
    | false => rfl
    | true =>
      have hnone := hholds.aligned.keeper hkeeper
      simp [htarget] at hnone
  refine ⟨fun slot hslot => ?_, fun channel hwait => ?_⟩
  · exact hholds.execId htarget (Note.slot_of_op hallowed hclient hslot)
  · subst hwait
    obtain ⟨y, hhold⟩ := hallowed
    have hfits := hholds.aligned.hold
    rw [hhold] at hfits
    obtain ⟨c, hc, hid⟩ := hholds.waiting y channel hhold
    cases Eq.trans (Eq.symm hfits) htarget
    exact ⟨c, hc, hid⟩

/-- `a` runs in slot 0 and a cancel of `a` has resolved it. -/
def cancelResolved : List RegistryAction :=
  emptyStartup ++ createUntil 1 "a" .started ++
    [.step 1 .go, .spawn (.cancel "a" "boot"), .step 2 .go]

/-- The cancel goes on with the slot of `a`. -/
theorem call_keeps_to_its_exec_cancel :
    ∃ s : RegistrySystem, s.nextOp 2 = some (.lock (.peek 0)) ∧
      ∃ e, s.world.state.slots[0]? = some e ∧ e.record.execId = "a" := by
  obtain ⟨s, hs⟩ : ∃ s, cancelResolved.foldlM (fun s a =>
      if s.collectsAlone a then act sampleRegistry s a else none) (boot sampleRegistry) = some s :=
    ⟨_, rfl⟩
  have hrun : Trace.Run (· = boot sampleRegistry) _ cancelResolved s :=
    Trace.Run.of_guarded _ rfl hs
  obtain ⟨task, htask, hcall, hop⟩ : ∃ task, s.tasks[2]? = some task ∧
      task.note.call.execId = some "a" ∧ task.prog.nextOp = some (.lock (.peek 0)) := by
    cases hs
    exact ⟨_, rfl, rfl, rfl⟩
  refine ⟨s, ?_, (call_keeps_to_its_exec hrun htask (.inl hcall) hop).1 0 rfl⟩
  cases hs
  rfl

/-- While the cancel waits, `a` ends and is collected, `b` is created in slot 0, and the
cancel takes it for a running exec. -/
def cancelOvertaken : List RegistryAction :=
  emptyStartup ++ createUntil 1 "a" (.exited 0) ++ createEnded 1 ++
    [.spawn (.cancel "a" "boot"), .step 2 .go] ++
    [.spawn .reap, .step 3 (.units (.ok [])), .step 3 .go, .step 3 .go, .step 3 .go,
      .step 3 (.time 1800000), .step 3 (.unit (.ok ())), .step 3 (.unit (.ok ())),
      .step 3 (.remove .ok)] ++
    createUntil 4 "b" .started ++ [.step 4 .go] ++
    [.step 2 .go, .step 2 (.read none), .step 2 .go, .step 2 (.write .ok),
      .step 2 (.units (.error .internal)), .step 2 .go]

/-- A cancel of `a` that is about to write the cancel sentinel of `b`. -/
theorem exists_cancel_of_another_exec :
    ∃ history s, Trace.Run (· = boot sampleRegistry)
      (fun _ s a s' => act sampleRegistry s a = some s') history s ∧
      (∃ task, s.tasks[2]? = some task ∧ task.note.call = .cancel "a" "boot" ∧
        task.prog.nextOp = some (.store (.writeCancel 0))) ∧
      (s.world.state.slots[0]?.map fun e => e.record.execId) = some "b" := by
  obtain ⟨s, hs⟩ :
    ∃ s, cancelOvertaken.foldlM (act sampleRegistry) (boot sampleRegistry) = some s :=
    ⟨_, rfl⟩
  refine ⟨_, s, Trace.Run.of_foldlM (fun _ _ _ _ h => h) _ (.nil rfl) hs, ?_, ?_⟩
  · cases hs
    exact ⟨_, rfl, rfl, rfl⟩
  · cases hs
    rfl

end RegistrySystem

end D2b.Guestd

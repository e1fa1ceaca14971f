import D2b.Guestd.DetachedRegistry.Runs

/-!
# D2b.Guestd.DetachedRegistry.Sweep

The orphan sweep of the reaper stops the units of slots that were free when it
looked at the registry.  It waits between the stops, and a create may reserve
such a slot meanwhile.
-/

namespace D2b.Guestd

open RegistryState World Note

/-! ## occupied slots -/

/-- The slot is reserved by a create, or has a record. -/
def RegistryState.Occupied (st : RegistryState) (slot : Nat) : Prop := ∃ e, st.slots[slot]? = some e

section

variable {reg : DetachedRegistry} {st st' : RegistryState} {slot : Nat}

lemma occupied_insert (he : st.slots[slot]? = some e) (hst : st'.slots = st.slots.insert slot e')
    (h : st'.Occupied s) : st.Occupied s := by
  obtain ⟨e₀, he₀⟩ := h
  rw [hst, BTreeMap.get_insert] at he₀
  split at he₀
  · next heq => exact ⟨e, heq ▸ he⟩
  · exact ⟨e₀, he₀⟩

lemma occupied_removeEntry (h : (st.removeEntry slot).Occupied s) : st.Occupied s := by
  obtain ⟨e, he⟩ := h
  rw [Preserved.get_removeEntry] at he
  split at he
  · cases he
  · exact ⟨e, he⟩

/-- The slot that an operation reserves for a create. -/
def World.reserves (reg : DetachedRegistry) (w : World) : Op → Option Nat
  | .lock (.admission req execId now) =>
    match (w.state.admission reg req execId now w.channels.length).1 with
    | .ok (.reserved slot _) => some slot
    | _ => none
  | _ => none

variable {w : World}

/-- Critical sections occupy no slot but the one a create reserves. -/
lemma occupied_section (h : (sec.run reg w.channels.length w.state).2.Occupied s) :
    w.state.Occupied s ∨ w.reserves reg (.lock sec) = some s := by
  cases sec with
  | admission req x now =>
    have hcases : Preserved.Admitted w.state x w.channels.length
        (w.state.admission reg req x now w.channels.length) :=
      Preserved.admission_admitted w.state req x now w.channels.length
    simp only [Section.run] at h
    simp only [reserves]
    generalize w.state.admission reg req x now w.channels.length = result at hcases h ⊢
    cases hcases with
    | error _ | visible | creating _ _ _ _ _ _ => exact .inl h
    | reserved slot e st' hfree he hst =>
      obtain ⟨e₀, he₀⟩ := h
      rw [hst, BTreeMap.get_insert] at he₀
      split at he₀
      · next heq => exact .inr (congrArg some heq)
      · exact .inl ⟨e₀, he₀⟩
  | removeEntry slot => exact .inl (occupied_removeEntry h)
  | commitRunning _ | takeReadGuard _ _ | dropReadGuard _ =>
    simp only [Section.run, commitRunning, takeReadGuard, dropReadGuard] at h
    split at h
    · exact .inl h
    · next e he => exact .inl (occupied_insert he rfl h)
  | commitTerminal slot terminal code signal now =>
    simp only [Section.run, commitTerminal] at h
    split at h
    · exact .inl h
    · next e he => exact .inl (occupied_insert he (Preserved.setReleased_slots _ _) h)
  | markLost slot now =>
    simp only [Section.run, markLost] at h
    split at h
    · exact .inl h
    · next e he =>
        split at h
        · exact .inl h
        · exact .inl (occupied_insert he (Preserved.setReleased_slots _ _) h)
  | promoteHold slot =>
    simp only [Section.run, promoteHold] at h
    split at h
    · exact .inl h
    · next e he =>
        split at h
        · exact .inl h
        · exact .inl (occupied_insert he rfl h)
  | entryRecord _ | resolveSlot _ | visibleSlots | visibleEntries | peek _ | isTerminal _
  | withinDeadline _ _ | pastDeadline _ _ | slotKeys | survey _ | overBudgetVictim
  | snapshotEntry _ => exact .inl h

lemma occupied_collect (h : (w.collect slot removal).state.Occupied s) : w.state.Occupied s := by
  unfold collect at h
  split at h
  · exact h
  · split at h
    · exact h
    · split at h
      · exact occupied_removeEntry h
      · exact h

/-- An operation occupies no slot but the one it reserves, or adopts. -/
lemma occupied_exec (hexec : w.exec reg i op input = some (ans, w')) (h : w'.state.Occupied s) :
    w.state.Occupied s ∨ w.reserves reg op = some s ∨
      ∃ slot record kind now, op = .insertAdopted slot record kind now := by
  cases op with
  | lock sec =>
    cases input <;> simp only [exec, reduceCtorEq] at hexec
    cases hexec
    exact (occupied_section h).imp_right .inl
  | store sop =>
    simp only [exec] at hexec
    split at hexec
    · cases hexec
    · cases hexec
      exact .inl h
  | units uop =>
    cases uop <;> cases input <;> simp only [exec, reduceCtorEq] at hexec <;> cases hexec <;>
      exact .inl h
  | collect slot =>
    cases input <;> simp only [exec, reduceCtorEq] at hexec
    cases hexec
    exact .inl (occupied_collect h)
  | insertAdopted slot record kind now => exact .inr (.inr ⟨slot, record, kind, now, rfl⟩)
  | nowMs | sleepMs _ | nextExecId | sendResolution _ _ =>
    cases input <;> simp only [exec, reduceCtorEq] at hexec
    cases hexec
    exact .inl h
  | awaitResolution ch =>
    cases input <;> simp only [exec, reduceCtorEq] at hexec
    · split at hexec
      · cases hexec
      · cases hexec
        exact .inl h
    · cases hexec
      exact .inl h

end

/-! ## sweeping notes -/

/-- A sweep has seen every slot that is occupied. -/
def Note.SweepsFree (note : Note) (w : World) : Prop :=
  ∀ adopted, note.hold = .sweep adopted → ∀ slot, w.state.Occupied slot → slot ∈ adopted

variable {hold : Hold} {adopted : List Nat}

lemma Hold.committed_sweep (h : hold.committed = .sweep adopted) : hold = .sweep adopted := by
  cases hold <;> first | exact h | cases h

lemma Hold.atStage_sweep (h : hold.atStage stage = .sweep adopted) : hold = .sweep adopted := by
  cases hold <;> first | exact h | cases h

lemma Hold.withStatus_sweep (h : hold.withStatus status = .sweep adopted) :
    hold = .sweep adopted := by
  cases hold <;> first | exact h | cases h

variable {note : Note}

/-- Nothing but the list of the slots starts a sweep. -/
lemma Note.sweep_of_afterLock (hsec : sec ≠ .slotKeys)
    (h : (note.afterLock sec ans).hold = .sweep adopted) : note.hold = .sweep adopted := by
  cases sec with
  | slotKeys => exact absurd rfl hsec
  | commitRunning _ | commitTerminal _ _ _ _ _ | promoteHold _ => exact Hold.committed_sweep h
  | admission _ _ _ =>
    cases ans with
    | error e => exact h
    | ok admission =>
      cases admission with
      | replayVisible => exact h
      | reserved _ _ | replayCreating _ => cases h
  | resolveSlot _ =>
    cases ans with
    | error e => exact h
    | ok slot => cases h
  | peek _ =>
    simp only [afterLock] at h
    split at h
    · exact h
    · split at h <;> cases h
  | survey _ | overBudgetVictim =>
    simp only [afterLock] at h
    split at h <;> cases h
  | removeEntry _ | visibleEntries => cases h
  | entryRecord _ | markLost _ _ | takeReadGuard _ _ | dropReadGuard _ | visibleSlots
  | isTerminal _ | withinDeadline _ _ | pastDeadline _ _ | snapshotEntry _ => exact h

lemma Note.sweep_of_afterStore (h : (note.afterStore op ans).hold = .sweep adopted) :
    note.hold = .sweep adopted := by
  cases op with
  | readStatus _ =>
    cases ans with
    | error _ | ok _ => exact Hold.withStatus_sweep h
  | scrubSlotFiles _ | writeRecord _ _ =>
    cases ans with
    | error e => exact h
    | ok _ => exact Hold.atStage_sweep h
  | readRecord _ =>
    cases ans with
    | error e => exact h
    | ok record => cases h
  | prepareSlotDir _ | writeSpec _ _ | writeCancel _ | readSpec _ | readLogMeta _ _
  | readLog _ _ _ _ | markLost _ | validateAuthenticity _ | deleteSlotDir _ | listSlotDirs =>
    exact h

/-- The task's own sweep. -/
lemma sweepsFree_next (h : note.SweepsFree w) (hallowed : op.Allowed note)
    (hexec : w.exec reg i op input = some (ans, w')) : (note.next op ans).SweepsFree w' := by
  -- a sweeping task neither creates nor adopts
  have hwas : ∀ adopted, note.hold = .sweep adopted → ∀ slot, w'.state.Occupied slot →
      slot ∈ adopted := by
    intro adopted hsweep slot hslot
    rcases occupied_exec hexec hslot with hslot | hreserves | ⟨s, record, kind, now, rfl⟩
    · exact h adopted hsweep slot hslot
    · cases op with
      | lock sec =>
        cases sec with
        | admission req x now =>
          have hnone := hallowed.1.hold
          rw [hsweep] at hnone
          cases hnone
        | _ => cases hreserves
      | _ => cases hreserves
    · obtain ⟨-, status, hdir, -⟩ := hallowed
      rw [hsweep] at hdir
      cases hdir
  intro adopted hsweep slot hslot
  cases op with
  | lock sec =>
    by_cases hkeys : sec = .slotKeys
    · subst hkeys
      cases input <;> simp only [exec, reduceCtorEq] at hexec
      cases hexec
      obtain ⟨e, he⟩ := hslot
      simp only [next, afterLock] at hsweep
      split at hsweep
      · cases hsweep
      · cases hsweep
        exact Std.ExtTreeMap.mem_keys.mpr (BTreeMap.mem_of_get he)
    · exact hwas adopted (sweep_of_afterLock hkeys hsweep) slot hslot
  | store sop => exact hwas adopted (sweep_of_afterStore hsweep) slot hslot
  | insertAdopted s record kind now => cases kind <;> cases hsweep
  | collect s => cases hsweep
  | nextExecId => cases ans <;> exact hwas adopted hsweep slot hslot
  | units _ | nowMs | sleepMs _ | sendResolution _ _ | awaitResolution _ =>
    exact hwas adopted hsweep slot hslot

namespace RegistrySystem

variable {reg : DetachedRegistry} {s s' : RegistrySystem}

/-- A create reserves only slots that every unfinished sweep has seen occupied. -/
def reservesSeen (reg : DetachedRegistry) (s : RegistrySystem) : RegistryAction → Bool
  | .step i _ =>
    match (s.nextOp i).bind (s.world.reserves reg) with
    | none => true
    | some slot =>
      s.tasks.all fun t =>
        t.prog.finished ||
          match t.note.hold with
          | .sweep adopted => adopted.contains slot
          | _ => true
  | _ => true

lemma reservesSeen_of {j : Nat} (h : s.reservesSeen reg (.step i input) = true)
    (hop : s.nextOp i = some op) (hreserves : s.world.reserves reg op = some slot)
    (htask : s.tasks[j]? = some task) (hfin : task.prog.finished = false)
    (hsweep : task.note.hold = .sweep adopted) : slot ∈ adopted := by
  simp only [reservesSeen, hop, Option.bind_some, hreserves, List.all_eq_true] at h
  have hseen := h task (List.mem_of_getElem? htask)
  simpa [hfin, hsweep] using hseen

structure SweepInv (s : RegistrySystem) : Prop where
  sound : s.Sound slotDiscipline (fun _ => True) fun _ note w => note.SweepsFree w
  apart : s.Apart

lemma SweepInv.step {input : Input} (h : SweepInv s)
    (hstep : Pool.step next (exec reg) reg.loopBody s i input = some s')
    (hseen : s.reservesSeen reg (.step i input) = true) : SweepInv s' := by
  refine ⟨?_, h.apart.step hstep⟩
  refine h.sound.step (fun l note => DetachedRegistry.keeps_loopBody l note) hstep ?_
  intro task op k ans w htask hprog hallowed hexec
  have hunfinished : task.prog.finished = false := by
    rw [hprog]
    rfl
  refine ⟨trivial, sweepsFree_next (h.sound.holds i task htask hunfinished) hallowed hexec, ?_⟩
  intro j task' hji htask' hfin adopted hsweep slot hslot
  rcases occupied_exec hexec hslot with hslot | hreserves | ⟨t, record, kind, now, rfl⟩
  · exact h.sound.holds j task' htask' hfin adopted hsweep slot hslot
  · exact reservesSeen_of hseen (nextOp_of_perform htask hprog) hreserves htask' hfin hsweep
  · -- adoption runs alone
    exact absurd hallowed.1
      (h.apart i j task task' (Ne.symm hji) htask htask' hunfinished hfin).startup

lemma sweepsFree_start (call : Call) (w : World) : (start call).SweepsFree w := nofun

lemma sweepInv_started (dirs : Dirs) : SweepInv (started reg dirs) :=
  ⟨Pool.sound_single trivial (fun _ => sweepsFree_start _ _) (keeps_taskFor .startup),
    apart_started dirs⟩

lemma SweepInv.act (h : SweepInv s) (hact : act reg s a = some s')
    (hseen : s.reservesSeen reg a = true) : SweepInv s' := by
  cases a with
  | spawn call =>
    simp only [RegistrySystem.act] at hact
    split at hact
    · next hmay =>
        cases hact
        exact ⟨h.sound.spawn (fun _ => sweepsFree_start _ _) (keeps_taskFor call),
          h.apart.spawn hmay⟩
    · cases hact
  | step i input => exact h.step hact hseen
  | publish slot phase =>
    simp only [RegistrySystem.act] at hact
    split at hact
    · cases hact
      exact ⟨⟨trivial, h.sound.holds, h.sound.keeps⟩, h.apart⟩
    · cases hact
  | crash =>
    cases hact
    exact sweepInv_started _

/-- In every run in which creates reserve only slots that the unfinished sweeps
have seen, a sweep stops a unit only while its slot is free. -/
theorem sweep_stops_free_slots {history : List RegistryAction} {s : RegistrySystem}
    (hrun : Trace.Run (· = boot reg)
      (fun _ s a s' => s.reservesSeen reg a = true ∧ act reg s a = some s') history s)
    {i slot : Nat} {adopted : List Nat} {task : Thread registrySig Note Reply}
    (htask : s.tasks[i]? = some task) (hsweep : task.note.hold = .sweep adopted)
    (hop : task.prog.nextOp = some (.units (.stopUnit slot))) :
    s.world.state.slots[slot]? = none := by
  have hinv : SweepInv s := by
    refine hrun.preserves (sweepInv_started _) ?_
    intro _ s a s' hinv hstep
    exact hinv.act hstep.2 hstep.1
  obtain ⟨k, hprog⟩ := Prog.perform_of_nextOp hop
  have hallowed : (Op.units (.stopUnit slot)).Allowed task.note := by
    have hkeeps := hinv.sound.keeps i task htask
    rw [hprog] at hkeeps
    exact hkeeps.1
  have hfree : slot ∉ adopted := by
    rcases hallowed with ⟨-, hspares⟩ | hslot
    · exact hspares adopted hsweep
    · simp [hsweep, Hold.slot] at hslot
  cases hentry : s.world.state.slots[slot]? with
  | none => rfl
  | some e =>
    have hholds := hinv.sound.holds i task htask (by rw [hprog]; rfl)
    exact absurd (hholds adopted hsweep slot ⟨e, hentry⟩) hfree

/-- A create whose unit could not be confirmed nor stopped leaves a unit in slot 0;
the reaper lists it and looks at the slots. -/
def orphanListed : List RegistryAction :=
  emptyStartup ++
    [.spawn (.create sampleRequest), .step 1 (.id (.ok "a")), .step 1 (.time 0), .step 1 .go,
      .step 1 (.write .ok), .step 1 (.remove .ok), .step 1 .go, .step 1 (.write .ok),
      .step 1 (.write .ok), .step 1 (.unit (.error .timeout)), .step 1 (.unit (.error .timeout)),
      .step 1 (.unit (.error .timeout)), .step 1 (.remove .ok), .step 1 .go, .step 1 .go] ++
    [.spawn .reap,
      .step 2 (.units (.ok
        [{ slot := 0, kind := .runner, active := true, identity := .unqueried }])),
      .step 2 .go]

theorem sweep_stops_free_slots_orphan :
    ∃ s : RegistrySystem, s.nextOp 2 = some (.units (.stopUnit 0)) ∧
      s.world.state.slots[0]? = none := by
  obtain ⟨s, hs⟩ : ∃ s, orphanListed.foldlM (fun s a =>
      if s.reservesSeen sampleRegistry a then act sampleRegistry s a else none)
      (boot sampleRegistry) = some s := ⟨_, rfl⟩
  have hrun : Trace.Run (· = boot sampleRegistry) _ orphanListed s := Trace.Run.of_guarded _ rfl hs
  obtain ⟨task, htask, hsweep, hop⟩ : ∃ task, s.tasks[2]? = some task ∧
      task.note.hold = .sweep [] ∧ task.prog.nextOp = some (.units (.stopUnit 0)) := by
    cases hs
    exact ⟨_, rfl, rfl, rfl⟩
  refine ⟨s, ?_, sweep_stops_free_slots hrun htask hsweep hop⟩
  cases hs
  rfl

/-- Before the sweep stops the orphan, a create reserves slot 0 and starts its unit. -/
def orphanOvertaken : List RegistryAction :=
  orphanListed ++
    [.spawn (.create sampleRequest), .step 3 (.id (.ok "b")), .step 3 (.time 0), .step 3 .go,
      .step 3 (.write .ok), .step 3 (.remove .ok), .step 3 .go, .step 3 (.write .ok),
      .step 3 (.write .ok), .step 3 (.unit (.ok ()))]

/-- A sweep that is about to stop the unit of a create in flight. -/
theorem exists_sweep_of_create :
    ∃ history s, Trace.Run (· = boot sampleRegistry)
      (fun _ s a s' => act sampleRegistry s a = some s') history s ∧
      (∃ task, s.tasks[2]? = some task ∧ task.note.call = .reap ∧ task.note.hold = .sweep [] ∧
        task.prog.nextOp = some (.units (.stopUnit 0))) ∧
      (s.world.state.slots[0]?.map fun e => (e.record.execId, e.creating)) = some ("b", true) := by
  obtain ⟨s, hs⟩ :
    ∃ s, orphanOvertaken.foldlM (act sampleRegistry) (boot sampleRegistry) = some s :=
    ⟨_, rfl⟩
  refine ⟨_, s, Trace.Run.of_foldlM (fun _ _ _ _ h => h) _ (.nil rfl) hs, ?_, ?_⟩
  · cases hs
    exact ⟨_, rfl, rfl, rfl, rfl⟩
  · cases hs
    rfl

end RegistrySystem

end D2b.Guestd

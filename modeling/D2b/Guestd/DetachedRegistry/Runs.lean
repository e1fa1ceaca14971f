import D2b.Guestd.DetachedRegistry.PreservedOps

/-!
# D2b.Guestd.DetachedRegistry.Runs

The invariant along the runs of the registry, and the conditions on a run that
it needs.
-/

namespace D2b.Guestd

open ExecRunner List

namespace RegistrySystem

variable {strict : Prop} {s s' : RegistrySystem}

def nextOp (s : RegistrySystem) (i : Nat) : Option Op := s.tasks[i]?.bind fun t => t.prog.nextOp

/-- A slot is collected only while no other task works on it. -/
def collectsAlone (s : RegistrySystem) : RegistryAction → Bool
  | .step i _ =>
    match s.nextOp i with
    | some (.collect slot) =>
      !(s.world.state.slots[slot]?.any fun e => e.readGuards == 0) ||
        s.tasks.zipIdx.all fun t => t.2 == i || t.1.prog.finished || t.1.note.hold.slot != some slot
    | _ => true
  | _ => true

def inputSucceeds : Input → Bool
  | .read none => true
  | _ => false

/-- When startup reads the status of a slot whose record was persisted as
terminal, it finds that record, not lost, and a terminal status. -/
def readsBack (s : RegistrySystem) : RegistryAction → Bool
  | .step i input =>
    match s.nextOp i with
    | some (.store (.readStatus slot)) =>
      !(s.tasks[i]?.any fun t => t.note.call.isStartup) ||
        match (s.world.dirs slot).settled with
        | none => true
        | some record =>
          decide ((s.world.dirs slot).record = some record) && !record.lost &&
            inputSucceeds input && (statusToTerminal (s.world.dirs slot).status).isSome
    | _ => true
  | _ => true

/-- Unfinished tasks that may run beside each other. -/
def Apart (s : RegistrySystem) : Prop :=
  ∀ (i j : Nat) t t', i ≠ j → s.tasks[i]? = some t → s.tasks[j]? = some t' →
    t.prog.finished = false → t'.prog.finished = false → t.note.Apart t'.note

structure Inv (strict : Prop) (s : RegistrySystem) : Prop where
  sound : s.Sound slotDiscipline (World.Ok strict) (Note.Holds strict)
  apart : s.Apart

/-! ## what the conditions give -/

variable {i : Nat}

lemma nextOp_of_perform (htask : s.tasks[i]? = some task) (hprog : task.prog = .perform op k) :
    s.nextOp i = some op := by
  rw [nextOp, htask]
  show task.prog.nextOp = some op
  rw [hprog]
  rfl

lemma collectsAlone_of (h : s.collectsAlone (.step i input) = true)
    (hop : s.nextOp i = some (.collect slot)) (hfree : s.world.Unguarded slot) (hji : j ≠ i)
    (htask : s.tasks[j]? = some task) (hfin : task.prog.finished = false) :
    task.note.hold.slot ≠ some slot := by
  unfold World.Unguarded at hfree
  simp only [collectsAlone, hop, hfree, Bool.not_true, Bool.false_or, all_eq_true] at h
  have hmem : (task, j) ∈ s.tasks.zipIdx := mem_zipIdx_iff_getElem?.mpr htask
  have hslot := h _ hmem
  simp only [hfin, Bool.or_false, Bool.or_eq_true, beq_iff_eq, bne_iff_ne] at hslot
  exact hslot.resolve_left hji

lemma readsBack_of (h : s.readsBack (.step i input) = true) (htask : s.tasks[i]? = some task)
    (hop : s.nextOp i = some (.store (.readStatus slot)))
    (hexec : s.world.exec reg i (.store (.readStatus slot)) input = some (ans, w)) :
    Preserved.ReadsBack task.note (s.world.dirs slot) ans := by
  intro hcall record hsettled
  have hstartup : task.note.call.isStartup = true := by
    rw [hcall]
    rfl
  simp only [readsBack, hop, htask, Option.any_some, hstartup, hsettled, Bool.not_true,
    Bool.false_or, Bool.and_eq_true, decide_eq_true_eq, Bool.not_eq_true'] at h
  obtain ⟨⟨⟨hrecord, hkept⟩, hsucceeds⟩, hterminal⟩ := h
  refine ⟨hrecord, hkept, (s.world.dirs slot).status, ?_, hterminal⟩
  cases input <;> simp only [inputSucceeds, Bool.false_eq_true] at hsucceeds
  next fault =>
    cases fault with
    | some error => cases hsucceeds
    | none =>
      simp only [World.exec, Dirs.run] at hexec
      cases hexec
      rfl

/-! ## one action -/

/-- The task that moved was unfinished and keeps its call. -/
lemma Apart.step (h : s.Apart)
    (hstep : Pool.step Note.next (World.exec reg) reg.loopBody s i input = some s') : s'.Apart := by
  obtain ⟨task, htask, hcases⟩ := Pool.step_cases _ _ _ hstep
  obtain ⟨task', hs', hcall, hunfinished⟩ : ∃ task' : Thread registrySig Note Reply,
      s'.tasks = s.tasks.set i task' ∧ task'.note.call = task.note.call ∧
        task.prog.finished = false := by
    rcases hcases with ⟨p, k, hprog, rfl⟩ | ⟨op, k, ans, w, hprog, -, rfl⟩
    · exact ⟨_, rfl, rfl, by rw [hprog]; rfl⟩
    · exact ⟨_, rfl, Note.next_call _ op ans, by rw [hprog]; rfl⟩
  have hget : ∀ {j : Nat} {t : Thread registrySig Note Reply}, s'.tasks[j]? = some t →
      t.prog.finished = false → ∃ t₀, s.tasks[j]? = some t₀ ∧ t₀.prog.finished = false ∧
        t.note.call = t₀.note.call := by
    intro j t ht hfin
    rw [hs'] at ht
    by_cases hji : j = i
    · subst hji
      obtain ⟨hlt, hval⟩ := List.getElem?_eq_some_iff.mp ht
      rw [getElem_set_self] at hval
      subst hval
      exact ⟨task, htask, hunfinished, hcall⟩
    · rw [getElem?_set_ne (Ne.symm hji)] at ht
      exact ⟨t, ht, hfin, rfl⟩
  intro j k t t' hjk ht ht' hfin hfin'
  obtain ⟨t₀, ht₀, hfin₀, hcall₀⟩ := hget ht hfin
  obtain ⟨t₁, ht₁, hfin₁, hcall₁⟩ := hget ht' hfin'
  have hwas := h j k t₀ t₁ hjk ht₀ ht₁ hfin₀ hfin₁
  exact ⟨hcall₀ ▸ hwas.startup, hcall₁ ▸ hwas.startup', hcall₀ ▸ hcall₁ ▸ hwas.reap⟩

lemma Inv.step (h : Inv strict s)
    (hstep : Pool.step Note.next (World.exec reg) reg.loopBody s i input = some s')
    (hcollect : s.collectsAlone (.step i input) = true)
    (hback : strict → s.readsBack (.step i input) = true) : Inv strict s' := by
  refine ⟨?_, h.apart.step hstep⟩
  refine h.sound.step (fun l note => DetachedRegistry.keeps_loopBody l note) hstep ?_
  intro task op k ans w htask hprog hallowed hexec
  have hunfinished : task.prog.finished = false := by
    rw [hprog]
    rfl
  have hself := h.sound.holds i task htask hunfinished
  have hop := nextOp_of_perform htask hprog
  have hcond : Preserved.OpCond strict task.note s.world op ans := by
    cases op with
    | store sop =>
      cases sop with
      | readStatus slot => exact fun hstrict => readsBack_of (hback hstrict) htask hop hexec
      | _ => trivial
    | _ => trivial
  have hpreserved := Preserved.exec h.sound.world hself hallowed hcond hexec
  refine ⟨hpreserved.ok, hpreserved.self, fun j task' hji htask' hfin => ?_⟩
  refine hpreserved.effect.others hself (h.sound.holds j task' htask' hfin) hji
    (h.apart i j task task' (Ne.symm hji) htask htask' hunfinished hfin) fun slot hslot hfree => ?_
  subst hslot
  exact collectsAlone_of hcollect hop hfree hji htask' hfin

/-- A new task knows nothing yet. -/
lemma holds_start (call : Call) (i : Nat) (w : World) : (Note.start call).Holds strict i w := by
  refine ⟨⟨fun x hx => hx, fun hkeeper => ?_, trivial⟩, nofun, nofun⟩
  cases call <;> first | rfl | cases hkeeper

lemma keeps_taskFor (call : Call) :
    (taskFor reg call).prog.Keeps slotDiscipline (taskFor reg call).note fun _ => True :=
  DetachedRegistry.keeps_serve call

lemma Apart.spawn (h : s.Apart) (hmay : mayStart s call = true) :
    Apart { s with tasks := s.tasks ++ [taskFor reg call] } := by
  simp only [mayStart, Bool.and_eq_true, Bool.not_eq_true', List.all_eq_true] at hmay
  obtain ⟨hstartup, hall⟩ := hmay
  have hnew : call ≠ .startup := by
    intro heq
    simp [heq, Call.isStartup] at hstartup
  -- no unfinished task is startup, nor a second reaper
  have hold : ∀ {j : Nat} {t : Thread registrySig Note Reply}, s.tasks[j]? = some t →
      t.prog.finished = false →
        t.note.call ≠ .startup ∧ ¬ (call = .reap ∧ t.note.call = .reap) := by
    intro j t ht hfin
    have hprop := hall t (List.mem_of_getElem? ht)
    simp only [hfin, Bool.false_or, Bool.not_eq_true', Bool.or_eq_false_iff,
      Bool.and_eq_false_iff] at hprop
    refine ⟨fun heq => ?_, fun hboth => ?_⟩
    · simp [heq, Call.isStartup] at hprop
    · simp [hboth.1, hboth.2, Call.isReap] at hprop
  intro j k t t' hjk ht ht' hfin hfin'
  rcases Pool.getElem?_spawn ht with ht | ⟨hj, rfl⟩
  · rcases Pool.getElem?_spawn ht' with ht' | ⟨-, rfl⟩
    · exact h j k t t' hjk ht ht' hfin hfin'
    · obtain ⟨hne, hreap⟩ := hold ht hfin
      exact ⟨hne, hnew, fun hboth => hreap ⟨hboth.2, hboth.1⟩⟩
  · rcases Pool.getElem?_spawn ht' with ht' | ⟨hk, rfl⟩
    · obtain ⟨hne, hreap⟩ := hold ht' hfin'
      exact ⟨hnew, hne, hreap⟩
    · exact absurd (hj.trans hk.symm) hjk

lemma apart_started (dirs : Dirs) : (started reg dirs).Apart := by
  intro j k t t' hjk ht ht' _ _
  have hj := (List.getElem?_eq_some_iff.mp ht).1
  have hk := (List.getElem?_eq_some_iff.mp ht').1
  simp only [started, length_cons, length_nil] at hj hk
  omega

lemma Inv.spawn (h : Inv strict s) (hmay : mayStart s call = true) :
    Inv strict { s with tasks := s.tasks ++ [taskFor reg call] } :=
  ⟨h.sound.spawn (fun i => holds_start call i s.world) (keeps_taskFor call), h.apart.spawn hmay⟩

variable {phase : StatusPhase}

/-- Nothing terminal was published if a runner may still publish. -/
lemma statusToTerminal_of_mayPublish (h : mayPublish published phase = true) :
    statusToTerminal published = none := by
  cases published with
  | none => rfl
  | some old => cases old <;> first | rfl | cases h

lemma final_publish (h : Final record published) (hlive : statusToTerminal published = none) :
    Final record published' := by
  refine ⟨h.terminal, h.time, fun hkept => ?_⟩
  have hphase := h.phase hkept
  simp [hlive] at hphase

lemma slotOk_publish (h : SlotOk strict channels entry dir)
    (hmay : mayPublish dir.published phase = true) :
    SlotOk strict channels entry { dir with status := some phase, published := some phase } := by
  have hlive := statusToTerminal_of_mayPublish hmay
  refine ⟨.inr rfl, h.hidden, fun e he hdone => ?_, fun hstrict r hr => ?_, h.channel⟩
  · obtain ⟨hactive, hfinal⟩ := h.terminal e he hdone
    exact ⟨hactive, final_publish hfinal hlive⟩
  · obtain ⟨hfinal, hentry⟩ := h.settled hstrict r hr
    exact ⟨final_publish hfinal hlive, hentry⟩

lemma knows_publish {note : Note} (h : note.Knows strict i channels entry dir)
    (hmay : mayPublish dir.published phase = true) : note.Knows strict i channels entry
      { dir with status := some phase, published := some phase } := by
  have hlive := statusToTerminal_of_mayPublish hmay
  refine ⟨?_, fun t ht => ?_, h.pending⟩
  · have hwas := h.hold
    cases hhold : note.hold with
    | dir slot record status =>
      rw [hhold] at hwas
      refine ⟨hwas.1, fun st hst => ⟨fun t ht => ?_, (hwas.2 st hst).2⟩⟩
      have hsame := (hwas.2 st hst).1 t ht
      simp [hsame, ht] at hlive
    | none | sweep _ | entry _ _ | fresh _ _ _ _ | dispatch _ | waiting _ _ =>
      rw [hhold] at hwas
      exact hwas
  · have hsame := h.seen t ht
    simp [hsame, ht] at hlive

lemma Inv.publish (h : Inv strict s)
    (hmay : mayPublish (s.world.dirs slot).published phase = true) : Inv strict
      { s with
        world :=
          { s.world with
            dirs := Function.update s.world.dirs slot
              { s.world.dirs slot with status := some phase, published := some phase } } } := by
  have hframe := Preserved.frame_update s.world slot
    { s.world.dirs slot with status := some phase, published := some phase }
  refine ⟨⟨h.sound.world.frame hframe ?_, fun j t ht hfin => ?_, h.sound.keeps⟩, h.apart⟩
  · simp only [Function.update_self]
    exact slotOk_publish (h.sound.world slot) hmay
  · have hholds := h.sound.holds j t ht hfin
    refine hholds.frame hframe fun hslot => ?_
    simp only [Function.update_self]
    exact knows_publish (hholds.knows slot hslot) hmay

/-- A restart forgets everything but the directories. -/
lemma inv_started (h : ∀ slot, SlotOk strict [] none (dirs slot)) :
    Inv strict (started reg dirs) := by
  refine ⟨Pool.sound_single (fun slot => ?_) (fun i => holds_start .startup i _)
    (keeps_taskFor .startup), apart_started dirs⟩
  have hempty : (RegistryState.new).slots[slot]? = none := by simp [RegistryState.new]
  simp only [hempty]
  exact h slot

lemma Inv.crash (h : Inv strict s) : Inv strict (started reg s.world.dirs) :=
  inv_started fun slot => (h.sound.world slot).vacant []

lemma Inv.act (h : Inv strict s) (hact : act reg s a = some s')
    (hcollect : s.collectsAlone a = true) (hback : strict → s.readsBack a = true) :
    Inv strict s' := by
  cases a with
  | spawn call =>
    simp only [RegistrySystem.act] at hact
    split at hact
    · next hmay =>
        cases hact
        exact h.spawn hmay
    · cases hact
  | step i input => exact h.step hact hcollect hback
  | publish slot phase =>
    simp only [RegistrySystem.act] at hact
    split at hact
    · next hmay =>
        cases hact
        exact h.publish hmay.2
    · cases hact
  | crash =>
    cases hact
    exact h.crash

lemma inv_boot : Inv strict (boot reg) := by
  refine inv_started fun slot => ⟨.inl rfl, ?_, ?_, ?_, ?_⟩
  · intro e he
    cases he
  · intro e he
    cases he
  · intro _ r hr
    cases hr
  · intro e ch he
    cases he

lemma inv_of_run (hrun : Trace.Run (· = boot reg) (fun _ s a s' =>
      s.collectsAlone a = true ∧ (strict → s.readsBack a = true) ∧ act reg s a = some s')
      history s) : Inv strict s := by
  refine hrun.preserves inv_boot ?_
  intro _ s a s' hinv hstep
  exact hinv.act hstep.2.2 hstep.1 hstep.2.1

/-! ## a sample registry -/

def sampleConfig : RegistryConfig :=
  { bootId := "boot"
    maxRuntimeSec := 0
    execUser := "alice"
    execUid := 1000
    systemdRunPath := "/bin/systemd-run"
    loginShellPath := "/bin/bash" }

/-- A registry whose units always match. -/
def sampleRegistry : DetachedRegistry :=
  { config := sampleConfig
    identityMatches := fun _ _ => true
    workloadIdentityMatches := fun _ _ _ => true }

def sampleSpec : ExecSpec :=
  { argv := ["true"]
    cwd := some "/"
    env := []
    stdoutLogCap := 1
    stderrLogCap := 1
    maxRuntimeSec := 0
    execUser := "alice"
    execUid := 1000
    systemdRunPath := "/bin/systemd-run"
    loginShellPath := "/bin/bash"
    workloadUnitName := "d2b-exec-00-w.service"
    systemdRunArgs := ["--", "/bin/bash", "true"] }

def sampleRequest : CreateRequest :=
  { bootId := "boot"
    command := { argvHash := "", buildSpec := fun _ _ => .ok sampleSpec }
    caps := .standard 0
    execId := none }

/-- Startup with nothing to adopt and no units. -/
def emptyStartup : List RegistryAction :=
  [.step 0 (.slots (.ok [])), .step 0 (.units (.ok [])), .step 0 .go, .step 0 .go, .step 0 .go]

/-- A create by task `i` up to its first look at the status of slot 0. -/
def createUntil (i : Nat) (execId : String) (phase : StatusPhase) : List RegistryAction :=
  [.spawn (.create sampleRequest), .step i (.id (.ok execId)), .step i (.time 0), .step i .go,
    .step i (.write .ok), .step i (.remove .ok), .step i .go, .step i (.write .ok),
    .step i (.write .ok), .step i (.unit (.ok ())), .step i (.time 0), .step i .go,
    .publish 0 phase, .step i (.read none)]

/-- The rest of a create whose exec has ended. -/
def createEnded (i : Nat) : List RegistryAction :=
  [.step i (.time 0), .step i .go, .step i (.write .ok), .step i .go, .step i (.logMeta (.ok none)),
    .step i (.logMeta (.ok none)), .step i .go]

end RegistrySystem

end D2b.Guestd

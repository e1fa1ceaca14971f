import D2b.Guestd.Exec.Output
import D2b.Lib.Run

/-!
# D2b.Guestd.Exec.EofFinal

What clients read of an exec is what its readers drained (`output_exact`), and
the end of file is final as long as nobody forces it on a stream whose reader
still runs (`eof_final`).  The supervisor forces it after a grace period
without stopping the readers, and `cancel` does not wait for the readers it
aborts, so without that condition bytes may follow the end of file
(`exists_output_after_eof`).

All steps are first described by what they do to one stream
(`Exec.step_view`).
-/

namespace D2b.Guestd

open Circular Function List

/-! ## one stream -/

/-- The bytes that a reader has and the ring has not. -/
def ReaderTask.held (task : ReaderTask) : List UInt8 :=
  match task.phase with
  | .holding bytes => bytes
  | _ => []

/-- One stream of an exec. -/
structure StreamView where
  ring : OutputRing
  task : ReaderTask
  drained : List UInt8

/-- What a step can do to a stream; `P` is known of the reader where EOF is forced. -/
inductive StreamView.Step (P : ReaderTask → Prop) : StreamView → StreamView → Prop
  | stay (v : StreamView) : Step P v v
  | wake {ring drained} :
      Step P ⟨ring, ⟨.parked, false⟩, drained⟩ ⟨ring, ⟨.polling, false⟩, drained⟩
  | read {ring drained aborted} (bytes : List UInt8) :
      Step P ⟨ring, ⟨.polling, aborted⟩, drained⟩
        ⟨ring, ⟨.holding bytes, aborted⟩, drained ++ bytes⟩
  | readEnd {ring drained aborted} :
      Step P ⟨ring, ⟨.polling, aborted⟩, drained⟩ ⟨ring, ⟨.ending, aborted⟩, drained⟩
  | pend {ring drained aborted} :
      Step P ⟨ring, ⟨.polling, aborted⟩, drained⟩ ⟨ring, ⟨.parked, aborted⟩, drained⟩
  | append {ring drained aborted bytes} : Step P ⟨ring, ⟨.holding bytes, aborted⟩, drained⟩
        ⟨ring.append bytes, ⟨.polling, aborted⟩, drained⟩
  | markEof {ring drained aborted} :
      Step P ⟨ring, ⟨.ending, aborted⟩, drained⟩ ⟨ring.markEof, ⟨.finished, aborted⟩, drained⟩
  | abort {ring drained phase aborted} :
      Step P ⟨ring, ⟨phase, aborted⟩, drained⟩ ⟨ring, ⟨phase, true⟩, drained⟩
  | force {ring drained task} (h : P task) :
      Step P ⟨ring, task, drained⟩ ⟨ring.markEof, task, drained⟩

namespace StreamView

/-- The ring holds the bytes drained, up to those the reader still has. -/
def Sound (v : StreamView) : Prop :=
  ∃ appended, v.ring.Retains appended ∧ v.drained = appended ++ v.task.held

/-- After the end of file the reader is gone. -/
def Final (v : StreamView) : Prop := v.ring.eof = true → v.task.Stopped

lemma Step.drained_append (h : Step P v v') : ∃ more, v'.drained = v.drained ++ more := by
  cases h with
  | read bytes => exact ⟨bytes, rfl⟩
  | _ => exact ⟨[], (append_nil _).symm⟩

lemma Step.sound (h : Step P v v') (hv : v.Sound) : v'.Sound := by
  obtain ⟨appended, hring, hdrained⟩ := hv
  cases h with
  | read bytes =>
    refine ⟨appended, hring, ?_⟩
    simp only [ReaderTask.held, append_nil] at hdrained ⊢
    rw [hdrained]
  | append =>
    rename_i bytes
    refine ⟨appended ++ bytes, hring.append bytes, ?_⟩
    simpa [ReaderTask.held] using hdrained
  | markEof | force => exact ⟨appended, hring.markEof, hdrained⟩
  | _ => exact ⟨appended, hring, hdrained⟩

lemma Step.stopped (h : Step P v v') (hv : v.task.Stopped) : v'.task.Stopped := by
  cases h with
  | abort =>
    rcases hv with hfinished | ⟨hparked, -⟩
    · exact .inl hfinished
    · exact .inr ⟨hparked, rfl⟩
  | stay | force => exact hv
  | _ => simp [ReaderTask.Stopped] at hv

lemma Step.final (h : Step ReaderTask.Stopped v v') (hv : v.Final) : v'.Final := by
  intro heof
  cases h with
  | stay => exact hv heof
  | markEof => exact .inl rfl
  | force hstopped => exact hstopped
  | abort => exact Step.stopped (P := ReaderTask.Stopped) .abort (hv heof)
  | append =>
    rw [OutputRing.append_eof] at heof
    simpa [ReaderTask.Stopped] using hv heof
  | _ => simpa [ReaderTask.Stopped] using hv heof

/-- After the end of file the ring does not change any more. -/
lemma Step.frozen (h : Step ReaderTask.Stopped v v') (hv : v.Final) (heof : v.ring.eof = true) :
    v'.ring.eof = true ∧ v'.ring.endOffset = v.ring.endOffset := by
  cases h with
  | append =>
    -- a reader that has bytes is not gone
    have hstopped := hv heof
    simp [ReaderTask.Stopped] at hstopped
  | markEof | force => exact ⟨rfl, rfl⟩
  | _ => exact ⟨heof, rfl⟩

end StreamView

namespace Exec

def view (e : Exec) (stream : Stream) : StreamView :=
  ⟨e.shared.ring stream, e.readers stream, e.drained stream⟩

/-- The action forces the end of file on both streams. -/
def Forces (e : Exec) : TaskAction → Prop
  | .supervisor .publish | .cancel .mark | .teardown .publish => e.shared.state = .running
  | _ => False

variable {e e' : Exec}

/-- Ending an exec forces the end of file or does nothing. -/
lemma terminate_view (stream : Stream) (hforce : e.shared.state = .running → P (e.readers stream))
    (hshared : e'.shared = e.shared.terminate state outcome) (hreaders : e'.readers = e.readers)
    (hdrained : e'.drained = e.drained) : StreamView.Step P (e.view stream) (e'.view stream) := by
  simp only [view, hshared, hreaders, hdrained, ExecShared.ring_terminate]
  split
  · rename_i hrunning
    exact .force (hforce hrunning)
  · exact .stay _

lemma abort_view (stream stream' : Stream) (hshared : e'.shared = e.shared)
    (hreaders : e'.readers = update e.readers stream { e.readers stream with aborted := true })
    (hdrained : e'.drained = e.drained) :
    StreamView.Step P (e.view stream') (e'.view stream') := by
  simp only [view, hshared, hreaders, hdrained]
  by_cases hstream : stream' = stream
  · subst hstream
    rw [update_self]
    exact .abort
  · rw [update_of_ne hstream]
    exact .stay _

lemma readerStep_view (h : e.readerStep stream a = some e') (stream' : Stream) :
    StreamView.Step P (e.view stream') (e'.view stream') := by
  cases htask : e.readers stream with
  | mk phase aborted =>
  by_cases hstream : stream' = stream
  · subst hstream
    cases a <;> cases phase <;> simp [readerStep, htask] at h
    case wake.parked =>
      obtain ⟨rfl, rfl⟩ := h
      simp only [view, setReader, update_self, htask]
      exact .wake
    case read.polling bytes =>
      obtain ⟨-, rfl⟩ := h
      simp only [view, setReader, update_self, htask]
      exact .read bytes
    all_goals
      subst h
      simp only [view, setReader, update_self, htask, ExecShared.ring_bump,
        ExecShared.ring_setRing_self]
    case readEnd.polling => exact .readEnd
    case pend.polling => exact .pend
    case append.holding => exact .append
    case markEof.ending => exact .markEof
  · have hsame : e'.view stream' = e.view stream' := by
      cases a <;> cases phase <;> simp [readerStep, htask] at h <;>
        (first | subst h | obtain ⟨-, rfl⟩ := h) <;>
        simp [view, setReader, hstream, ExecShared.ring_setRing_ne _ hstream]
    rw [hsame]
    exact .stay _

/-- What a step of a task does to each stream. -/
lemma step_view (hforce : e.Forces a → ∀ stream, P (e.readers stream)) (h : e.step a = some e')
    (stream : Stream) : StreamView.Step P (e.view stream) (e'.view stream) := by
  cases a with
  | reader stream' a => exact readerStep_view h stream
  | supervisor a =>
    simp only [step, supervisorStep] at h
    split at h
    · cases h
    · split at h <;> cases h
      · exact .stay _
      · exact .stay _
      · exact .stay _
      · split
        · exact terminate_view stream (fun hr => hforce hr stream) rfl rfl rfl
        · exact terminate_view stream (fun hr => hforce hr stream) rfl rfl rfl
  | cancel a =>
    simp only [step, cancelStep] at h
    split at h
    · cases h
    · split at h <;> cases h
      · exact .stay _
      · exact abort_view _ stream rfl rfl rfl
      · exact terminate_view stream (fun hr => hforce hr stream) rfl rfl rfl
  | teardown a =>
    simp only [step, teardownStep] at h
    split at h
    · split at h
      · cases h
        exact .stay _
      · cases h
        exact abort_view _ stream rfl rfl rfl
      · split at h <;> cases h
        exact .stay _
      · cases h
        exact terminate_view stream (fun hr => hforce hr stream) rfl rfl rfl
      · cases h
    · cases h

/-! ## the teardown awaits the readers -/

/-- The readers that the teardown has not awaited yet. -/
def unjoined (e : Exec) : List Stream :=
  match e.teardown with
  | .idle => e.tasks
  | .joining _ rest => rest
  | .terminal => []

/-- The other readers of an interactive exec are gone. -/
def Joined (e : Exec) : Prop :=
  e.tty = true → ∀ stream, stream ∉ e.unjoined → (e.readers stream).Stopped

lemma step_unjoined (htty : e.tty = true) (h : e.step a = some e') (stream : Stream)
    (hnot : stream ∉ e'.unjoined) : stream ∉ e.unjoined ∨ (e.readers stream).Stopped := by
  cases a with
  | reader stream' a =>
    have hsame : e'.unjoined = e.unjoined := by
      simp only [step, readerStep] at h
      grind [unjoined, setReader]
    exact .inl (hsame ▸ hnot)
  | supervisor a => simp [step, supervisorStep, htty] at h
  | cancel a => simp [step, cancelStep, htty] at h
  | teardown a =>
    simp only [step, teardownStep, htty, if_true] at h
    split at h
    · rename_i hphase
      cases h
      simp only [unjoined, hphase] at hnot ⊢
      exact .inl hnot
    · rename_i hphase
      cases h
      simp only [unjoined, setReader, hphase] at hnot ⊢
      exact .inl hnot
    · rename_i outcome head rest hphase
      split at h <;> cases h
      rename_i hstopped
      simp only [unjoined, hphase, mem_cons, not_or] at hnot ⊢
      by_cases hhead : stream = head
      · exact .inr (hhead ▸ hstopped)
      · exact .inl ⟨hhead, hnot⟩
    · rename_i hphase
      simp only [unjoined, hphase]
      exact .inl (not_mem_nil)
    · cases h

lemma step_tty (h : e.step a = some e') : e'.tty = e.tty := by
  cases a <;> simp only [step, readerStep, supervisorStep, cancelStep, teardownStep] at h <;>
    grind [setReader]

lemma step_joined (hjoined : e.Joined) (h : e.step a = some e') : e'.Joined := by
  intro htty stream hnot
  rw [step_tty h] at htty
  have hstopped : (e.view stream).task.Stopped := by
    rcases step_unjoined htty h stream hnot with hbefore | hstopped
    · exact hjoined htty stream hbefore
    · exact hstopped
  exact (step_view (P := fun _ => True) (fun _ _ => trivial) h stream).stopped hstopped

lemma create_joined (tty : Bool) : (create tty).Joined := by
  intro htty stream hnot
  cases stream <;> simp_all [create, unjoined, ReaderTask.Stopped]

end Exec

/-! ## the calls -/

namespace Clients

variable {C : Type} [DecidableEq C] {e : Exec} {k k' : Clients C}

/-- The log grows by a chunk that was read from the ring, or not at all. -/
def Logged (e : Exec) (k k' : Clients C) : Prop :=
  k'.log = k.log ∨ ∃ stream offset maxLen chunk,
    (e.shared.ring stream).read offset maxLen = .ok chunk ∧
      k'.log = k.log ++ [⟨stream, offset, chunk⟩]

lemma beginRead_logged : Logged e k (k.beginRead e c args) := by
  unfold beginRead
  split
  · exact .inl rfl
  split
  · exact .inl rfl
  dsimp only
  split
  · exact .inl rfl
  · rename_i chunk hread
    split
    · exact .inr ⟨_, _, _, chunk, hread, rfl⟩
    · exact .inl rfl

lemma waitRead_logged : Logged e k (k.waitRead e c args timedOut) := by
  unfold waitRead
  split
  · exact .inl rfl
  · rename_i chunk hread
    split
    · exact .inr ⟨_, _, _, chunk, hread, rfl⟩
    · exact .inl rfl

lemma step_logged (h : k.step e c a = some k') : Logged e k k' := by
  unfold step at h
  split at h
  · cases h; exact beginRead_logged ..
  · cases h; exact beginRead_logged ..
  · split at h <;> cases h <;> exact .inl rfl
  · cases h; exact .inl rfl
  · cases h; exact waitRead_logged ..
  · cases h; exact waitRead_logged ..
  · cases h; exact .inl rfl
  · cases h

end Clients

/-! ## runs -/

/-- The step with which the supervisor or `cancel` forces the end of file. -/
def ExecAction.forcesEof {C : Type} : ExecAction C → Bool
  | .task (.supervisor .publish) | .task (.cancel .mark) => true
  | _ => false

namespace ExecSystem

variable {C : Type} [DecidableEq C] {s s' : ExecSystem C}

variable {a : ExecAction C}

/-- One action is a step of a task, or a call that reads at most once. -/
lemma act_cases (h : s.act a = some s') :
    (∃ t, a = .task t ∧ s.exec.step t = some s'.exec ∧ s'.clients = s.clients) ∨
      (∃ c r, a = .call c r ∧ s'.exec = s.exec ∧ Clients.Logged s.exec s.clients s'.clients) := by
  cases a with
  | task t =>
    obtain ⟨exec, hexec, rfl⟩ := Option.map_eq_some_iff.mp h
    exact .inl ⟨t, rfl, hexec, rfl⟩
  | call c r =>
    obtain ⟨clients, hclients, rfl⟩ := Option.map_eq_some_iff.mp h
    exact .inr ⟨c, r, rfl, rfl, Clients.step_logged hclients⟩

/-- Every chunk returned is a slice of what the reader drained. -/
def Exact (s : ExecSystem C) : Prop :=
  ∀ r ∈ s.clients.log, r.chunk.Exact r.offset (s.exec.drained r.stream)

/-- What `output_exact` needs at each point. -/
structure Sound (s : ExecSystem C) : Prop where
  streams : ∀ stream, (s.exec.view stream).Sound
  exact : s.Exact

omit [DecidableEq C] in
lemma init_sound (h : s.Init) : s.Sound := by
  obtain ⟨⟨tty, hexec⟩, hclients⟩ := h
  constructor
  · intro stream
    rw [hexec]
    refine ⟨[], ?_, ?_⟩
    · cases tty <;> cases stream <;> exact ⟨0, rfl, Nat.le_refl _, rfl⟩
    · cases tty <;> cases stream <;> rfl
  · intro r hr
    simp [hclients] at hr

lemma act_sound (h : s.Sound) (hact : s.act a = some s') : s'.Sound := by
  rcases act_cases hact with ⟨t, -, hstep, hclients⟩ | ⟨c, r, -, hexec, hlogged⟩
  · have hview := Exec.step_view (P := fun _ => True) (fun _ _ => trivial) hstep
    refine ⟨fun stream => (hview stream).sound (h.streams stream), fun r hr => ?_⟩
    rw [hclients] at hr
    obtain ⟨more, hmore⟩ := (hview r.stream).drained_append
    show r.chunk.Exact r.offset (s'.exec.view r.stream).drained
    rw [hmore]
    exact (h.exact r hr).append more
  · refine ⟨fun stream => hexec ▸ h.streams stream, fun r hr => ?_⟩
    rw [hexec]
    rcases hlogged with hsame | ⟨stream, offset, maxLen, chunk, hread, hlog⟩
    · exact h.exact r (hsame ▸ hr)
    · rw [hlog, Trace.mem_snoc] at hr
      rcases hr with hr | rfl
      · exact h.exact r hr
      · obtain ⟨appended, hring, hdrained⟩ := h.streams stream
        show chunk.Exact offset (s.exec.view stream).drained
        rw [hdrained]
        exact (hring.read_exact hread).append _

/-- Whatever the interleaving, clients read what the readers drained. -/
lemma output_exact (hrun : Trace.Run Init (fun _ s a s' => s.act a = some s') h s) : s.Exact :=
  (hrun.invariant (I := fun _ (s : ExecSystem C) => s.Sound) (fun _ => init_sound)
    (fun _ _ _ _ _ hs hact => act_sound hs hact)).exact

section

variable (s : ExecSystem C)

/-- The supervisor and `cancel` force the end of file when the readers are gone: each
of them has ended, or was aborted while it waited for bytes. -/
def Settled (a : ExecAction C) : Prop :=
  a.forcesEof → s.exec.shared.state = .running → ∀ stream, (s.exec.readers stream).Stopped

instance (a : ExecAction C) : Decidable (s.Settled a) :=
  inferInstanceAs (Decidable (a.forcesEof = true → _ → ∀ stream, (s.exec.readers stream).Stopped))

/-- After a read that returned EOF, no read of the stream returns bytes from its
next offset on, and the end of the stream stays where it was. -/
structure EofFinal : Prop where
  reads : s.clients.log.Pairwise fun r r' => r'.stream = r.stream → r.chunk.eof = true →
    r'.chunk.nextOffset ≤ r.chunk.nextOffset ∧ r'.chunk.endOffset = r.chunk.endOffset
  endOffset : ∀ r ∈ s.clients.log, r.chunk.eof = true →
    (s.exec.shared.ring r.stream).endOffset = r.chunk.endOffset

/-- What `eof_final` needs at each point. -/
structure Frozen : Prop where
  streams : ∀ stream, (s.exec.view stream).Final
  joined : s.exec.Joined
  reads : s.EofFinal
  log : ∀ r ∈ s.clients.log, r.chunk.eof = true →
    (s.exec.shared.ring r.stream).eof = true ∧
      (s.exec.shared.ring r.stream).endOffset = r.chunk.nextOffset

end

omit [DecidableEq C] in
lemma init_frozen (h : s.Init) : s.Frozen := by
  obtain ⟨⟨tty, hexec⟩, hclients⟩ := h
  refine ⟨?_, hexec ▸ Exec.create_joined tty, ⟨?_, ?_⟩, ?_⟩
  · intro stream heof
    rw [hexec] at heof ⊢
    cases tty <;> cases stream
    · cases heof
    · cases heof
    · cases heof
    · exact .inl rfl
  · simp [hclients]
  · simp [hclients]
  · simp [hclients]

omit [DecidableEq C] in
/-- Under the condition, and where the teardown forces it, the end of file is
forced on streams whose readers are gone. -/
lemma stopped_of_forces (h : s.Frozen) (hsettled : s.Settled (.task t))
    (hstep : s.exec.step t = some e') (hforces : s.exec.Forces t) :
    ∀ stream, (s.exec.readers stream).Stopped := by
  cases t with
  | reader stream a => cases hforces
  | supervisor a =>
    cases a with
    | publish => exact hsettled rfl hforces
    | _ => cases hforces
  | cancel a =>
    cases a with
    | mark => exact hsettled rfl hforces
    | _ => cases hforces
  | teardown a =>
    cases a with
    | publish =>
      intro stream
      have htty : s.exec.tty = true := by
        simp only [Exec.step, Exec.teardownStep] at hstep
        split at hstep
        · assumption
        · cases hstep
      refine h.joined htty stream ?_
      simp only [Exec.step, Exec.teardownStep, htty, if_true] at hstep
      cases hphase : s.exec.teardown with
      | idle | terminal => simp [hphase] at hstep
      | joining outcome rest =>
        cases rest with
        | nil => simp [Exec.unjoined, hphase]
        | cons head rest => simp [hphase] at hstep
    | _ => cases hforces

lemma act_frozen (h : s.Frozen) (hsettled : s.Settled a) (hact : s.act a = some s') :
    s'.Frozen := by
  rcases act_cases hact with ⟨t, rfl, hstep, hclients⟩ | ⟨c, r, -, hexec, hlogged⟩
  · have hview := Exec.step_view (stopped_of_forces h hsettled hstep) hstep
    have hkeep : ∀ r ∈ s'.clients.log, r.chunk.eof = true →
        (s'.exec.shared.ring r.stream).eof = true ∧
          (s'.exec.shared.ring r.stream).endOffset = (s.exec.shared.ring r.stream).endOffset := by
      intro r hr heof
      rw [hclients] at hr
      exact (hview r.stream).frozen (h.streams r.stream) (h.log r hr heof).1
    refine ⟨fun stream => (hview stream).final (h.streams stream),
      Exec.step_joined h.joined hstep, ⟨hclients ▸ h.reads.reads, ?_⟩, ?_⟩
    · intro r hr heof
      rw [(hkeep r hr heof).2]
      exact h.reads.endOffset r (hclients ▸ hr) heof
    · intro r hr heof
      rw [(hkeep r hr heof).2]
      exact ⟨(hkeep r hr heof).1, (h.log r (hclients ▸ hr) heof).2⟩
  · rcases hlogged with hsame | ⟨stream, offset, maxLen, chunk, hread, hlog⟩
    · refine ⟨hexec ▸ h.streams, hexec ▸ h.joined, ⟨hsame ▸ h.reads.reads, ?_⟩, ?_⟩
      · rw [hsame, hexec]
        exact h.reads.endOffset
      · rw [hsame, hexec]
        exact h.log
    · obtain ⟨-, hoffset, hend, hnext, -, heofiff⟩ := OutputRing.read_eq_ok hread
      have hle : chunk.nextOffset ≤ chunk.endOffset := by omega
      refine ⟨hexec ▸ h.streams, hexec ▸ h.joined, ⟨?_, ?_⟩, ?_⟩
      · rw [hlog]
        refine pairwise_append.mpr ⟨h.reads.reads, pairwise_singleton .., ?_⟩
        intro r hr r' hr' hstream heof
        obtain rfl := mem_singleton.mp hr'
        cases hstream
        have hlast := h.log r hr heof
        have hend' := h.reads.endOffset r hr heof
        exact ⟨by rw [← hlast.2, ← hend]; exact hle, by rw [← hend', ← hend]⟩
      · rw [hlog, hexec]
        exact Trace.forall_mem_snoc.mpr ⟨h.reads.endOffset, fun _ => hend.symm⟩
      · rw [hlog, hexec]
        refine Trace.forall_mem_snoc.mpr ⟨h.log, fun heof => ?_⟩
        have := heofiff.mp heof
        exact ⟨this.1, this.2.symm⟩

/-- In every run in which the end of file is only forced on streams whose readers
are gone, clients read what the readers drained and the end of file is final. -/
theorem eof_final {h : List (ExecAction C)}
    (hrun : Trace.Run Init (fun _ s a s' => s.Settled a ∧ s.act a = some s') h s) :
    s.Exact ∧ s.EofFinal := by
  constructor
  · exact output_exact (hrun.map (f := id) (fun _ hs => hs) (fun _ _ _ _ _ hstep => hstep.2))
  · exact (hrun.invariant (I := fun _ (s : ExecSystem C) => s.Frozen) (fun _ => init_frozen)
      (fun _ _ _ _ _ hs hstep => act_frozen hs hstep.1 hstep.2)).reads

/-- A new exec without a terminal, and one client. -/
def plainExec : ExecSystem Unit := ⟨.create false, ⟨fun _ => 0, fun _ => .idle, []⟩⟩

/-- One byte is drained, and the exec is cancelled while the readers wait for more. -/
def cancelWaiting : List (ExecAction Unit) :=
  [.task (.reader .stdout .wake), .task (.reader .stdout (.read [7])),
    .task (.reader .stdout .append), .task (.reader .stdout .pend), .task (.cancel .begin),
    .task (.cancel .abort), .task (.cancel .abort), .task (.cancel .mark),
    .call () (.begin ⟨.stdout, 0, 8, false⟩)]

theorem eof_final_cancelWaiting :
    ∃ s : ExecSystem Unit, cancelWaiting.foldlM act plainExec = some s ∧
      s.clients.log = [⟨.stdout, 0, ⟨[7], 0, 1, 1, 0, false, true⟩⟩] ∧ s.Exact ∧ s.EofFinal := by
  obtain ⟨s, hs⟩ : ∃ s, cancelWaiting.foldlM
      (fun s a => if s.Settled a then s.act a else none) plainExec = some s := ⟨_, rfl⟩
  have hrun : Trace.Run Init (fun _ s a s' => s.Settled a ∧ s.act a = some s') cancelWaiting s :=
    Trace.Run.of_guarded _ ⟨⟨false, rfl⟩, rfl⟩ hs
  refine ⟨s, ?_, ?_, eof_final hrun⟩
  · rw [← hs]
    rfl
  · cases hs
    rfl

/-- The child exits, and the supervisor forces the end of file while something
that left the process group still has the stream; then it writes. -/
def lateWriter : List (ExecAction Unit) :=
  [.task (.supervisor (.childExit (.exited 0))), .task (.supervisor .publish),
    .call () (.begin ⟨.stdout, 0, 8, false⟩), .task (.reader .stdout .wake),
    .task (.reader .stdout (.read [7])), .task (.reader .stdout .append),
    .call () (.begin ⟨.stdout, 0, 8, false⟩)]

theorem exists_output_after_eof :
    ∃ (h : List (ExecAction Unit)) (s : ExecSystem Unit),
      Trace.Run Init (fun _ s a s' => s.act a = some s') h s ∧ ¬ s.EofFinal := by
  obtain ⟨s, hs⟩ : ∃ s, lateWriter.foldlM act plainExec = some s := ⟨_, rfl⟩
  have hlog : s.clients.log = [⟨.stdout, 0, ⟨[], 0, 0, 0, 0, false, true⟩⟩,
      ⟨.stdout, 0, ⟨[7], 0, 1, 1, 0, false, true⟩⟩] := by
    cases hs
    rfl
  refine ⟨_, s, Trace.Run.of_foldlM (fun _ _ _ _ h => h) _ (.nil ⟨⟨false, rfl⟩, rfl⟩) hs, ?_⟩
  intro hfinal
  have hreads := hfinal.reads
  rw [hlog] at hreads
  simp at hreads

end ExecSystem

end D2b.Guestd

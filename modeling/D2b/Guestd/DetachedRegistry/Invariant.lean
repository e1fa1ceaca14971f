import D2b.Guestd.DetachedRegistry.Discipline

/-!
# D2b.Guestd.DetachedRegistry.Invariant

What holds of the slots in every interleaving, and what the notes of the tasks
are worth.

A slot can be collected while another task still works on it; all results are
about runs in which that does not happen.  Whether a persisted terminal record
is also followed through restarts is a switch of the invariant (`strict`), since
that needs a condition of its own.
-/

namespace D2b.Guestd

open ExecRunner
open SlotEntry

/-! ## slots -/

/-- A terminal record that tells what the runner published, or was lost. -/
structure Final (record : DurableRecord) (published : Option StatusPhase) : Prop where
  terminal : record.state.isTerminal = true
  time : record.terminalTimeUnix.isSome = true
  phase : record.lost = false →
    statusToTerminal published = some (record.state, record.exitCode, record.termSignal)

/-- Channels are only added and resolved. -/
def Grows (channels channels' : List Channel) : Prop :=
  ∀ (ch : Nat) c, channels[ch]? = some c →
    ∃ c', channels'[ch]? = some c' ∧ c'.owner = c.owner ∧ c'.execId = c.execId

/-- A slot in order: its entry, its directory and the channels. -/
structure SlotOk (strict : Prop) (channels : List Channel) (entry : Option SlotEntry)
    (dir : SlotDir) : Prop where
  status : dir.status = none ∨ dir.status = dir.published
  hidden : ∀ e, entry = some e → e.hidden = true → e.record.state = .dispatching
  terminal : ∀ e, entry = some e → e.isTerminal = true →
    e.activeCounted = false ∧ Final e.record dir.published
  settled : strict → ∀ r, dir.settled = some r →
    Final r dir.published ∧ ∀ e, entry = some e → e.creating = false → e.record = r
  channel : ∀ e ch, entry = some e → e.createResolution = some ch →
    ∃ c, channels[ch]? = some c ∧ c.execId = e.record.execId

/-- All slots are in order. -/
def World.Ok (strict : Prop) (w : World) : Prop :=
  ∀ slot : Nat, SlotOk strict w.channels w.state.slots[slot]? (w.dirs slot)

/-! ## notes -/

/-- What a hold says of its slot. -/
def Hold.Knows (strict : Prop) (i : Nat) (channels : List Channel) (entry : Option SlotEntry)
    (dir : SlotDir) : Hold → Prop
  | .entry execId _ =>
    ∃ e, entry = some e ∧ e.hidden = false ∧ ∀ x, execId = some x → e.record.execId = x
  | .fresh execId _ channel stage =>
    ∃ e, entry = some e ∧ e.creating = true ∧ e.record.execId = execId ∧
      e.createResolution = some channel ∧ (∃ c, channels[channel]? = some c ∧ c.owner = i) ∧
      (strict → stage ≠ .reserved → dir.settled = Option.none)
  | .dispatch _ => ∃ e, entry = some e ∧ e.creating = false ∧ e.dispatchHold = true
  | .dir _ record status =>
    (∀ r, dir.record = some r → r = record) ∧
      ∀ st, status = some st →
        (∀ t, statusToTerminal st = some t → dir.published = st) ∧
        (strict → ∀ r, dir.settled = some r →
          r = record ∧ r.lost = false ∧ (statusToTerminal st).isSome = true)
  | .none | .sweep _ | .waiting _ _ => True

/-- What a note says of the slot it holds. -/
structure Note.Knows (strict : Prop) (i : Nat) (note : Note) (channels : List Channel)
    (entry : Option SlotEntry) (dir : SlotDir) : Prop where
  hold : note.hold.Knows strict i channels entry dir
  seen : ∀ t, statusToTerminal note.seen = some t → dir.published = note.seen
  pending : ∀ r, note.pending = some r → r.state.isTerminal = true →
    ∃ e, entry = some e ∧ e.record = r

/-- Which tasks come to which holds. -/
def Hold.Fits (call : Call) (target : Option String) : Hold → Prop
  | .none | .sweep _ => True
  | .entry (some execId) _ => target = some execId
  | .entry Option.none _ => call.keeper = true
  | .fresh execId _ _ _ => target = some execId
  | .dispatch _ => call = .reap
  | .dir _ _ _ => call = .startup
  | .waiting execId _ => target = some execId

structure Note.Aligned (note : Note) : Prop where
  named : ∀ x, note.call.execId = some x → note.target = some x
  keeper : note.call.keeper = true → note.target = none
  hold : note.hold.Fits note.call note.target

/-- The note of task `i` is true. -/
structure Note.Holds (strict : Prop) (i : Nat) (note : Note) (w : World) : Prop where
  aligned : note.Aligned
  knows : ∀ slot : Nat, note.hold.slot = some slot →
    note.Knows strict i w.channels w.state.slots[slot]? (w.dirs slot)
  waiting : ∀ x ch, note.hold = .waiting x ch → ∃ c, w.channels[ch]? = some c ∧ c.execId = x

namespace Hold.Fits

variable {hold : Hold}

lemma committed (h : hold.Fits call target) : hold.committed.Fits call target := by
  cases hold with
  | fresh x slot ch stage => exact h
  | dispatch slot =>
    have hcall : call = .reap := h
    rw [hcall]
    rfl
  | none | sweep _ | entry _ _ | dir _ _ _ | waiting _ _ => exact h

lemma atStage (h : hold.Fits call target) (stage : Stage) :
    (hold.atStage stage).Fits call target := by
  cases hold <;> exact h

lemma withStatus (h : hold.Fits call target) (status : Option StatusPhase) :
    (hold.withStatus status).Fits call target := by
  cases hold <;> exact h

end Hold.Fits

namespace Note

variable {note : Note}

/-- The task keeps its call. -/
lemma next_call (note : Note) (op : Op) (ans : op.Ans) : (note.next op ans).call = note.call := by
  cases op with
  | lock sec =>
    simp only [next]
    cases sec <;> simp only [afterLock] <;> (repeat' split) <;> rfl
  | store op =>
    simp only [next]
    cases op <;> simp only [afterStore] <;> (repeat' split) <;> rfl
  | insertAdopted slot record kind now => cases kind <;> rfl
  | nextExecId => cases ans <;> rfl
  | units _ | collect _ | nowMs | sleepMs _ | sendResolution _ _ | awaitResolution _ => rfl

/-- Only the hold changes. -/
lemma Aligned.withHold (h : note.Aligned) {note' : Note} (hcall : note'.call = note.call)
    (htarget : note'.target = note.target) (hfits : note'.hold.Fits note.call note.target) :
    note'.Aligned := by
  refine ⟨fun x hx => ?_, fun hkeeper => ?_, ?_⟩
  · rw [htarget]
    exact h.named x (hcall ▸ hx)
  · rw [htarget]
    exact h.keeper (hcall ▸ hkeeper)
  · rw [hcall, htarget]
    exact hfits

/-- A note that holds no slot and waits for no one. -/
lemma Holds.idle (h : note.Aligned) {note' : Note} (hcall : note'.call = note.call)
    (htarget : note'.target = note.target)
    (hhold : note'.hold = .none ∨ ∃ adopted, note'.hold = .sweep adopted) :
    note'.Holds strict i w := by
  rcases hhold with hhold | ⟨adopted, hhold⟩
  all_goals
    refine ⟨h.withHold hcall htarget (by rw [hhold]; trivial), fun slot hslot => ?_,
      fun x ch hwait => ?_⟩
    · simp [hhold, Hold.slot] at hslot
    · simp [hhold] at hwait

/-- A note that holds one slot. -/
lemma Holds.at (slot : Nat) (h : note.Aligned) (hslot : note.hold.slot = some slot)
    (hknows : note.Knows strict i w.channels w.state.slots[slot]? (w.dirs slot)) :
    note.Holds strict i w := by
  refine ⟨h, fun slot' hslot' => ?_, fun x ch hwait => ?_⟩
  · cases hslot.symm.trans hslot'
    exact hknows
  · simp [hwait, Hold.slot] at hslot

end Note

/-! ## effects -/

/-- The files the invariant looks at are the same. -/
structure SlotDir.Same (dir dir' : SlotDir) : Prop where
  record : dir'.record = dir.record
  status : dir'.status = dir.status
  published : dir'.published = dir.published
  settled : dir'.settled = dir.settled

/-- Nothing changes outside a slot. -/
structure World.Frame (slot : Nat) (w w' : World) : Prop where
  slots : ∀ s : Nat, s ≠ slot → w'.state.slots[s]? = w.state.slots[s]?
  dirs : ∀ s, s ≠ slot → w'.dirs s = w.dirs s
  channels : Grows w.channels w'.channels

/-- Nothing changes that the invariant looks at. -/
structure World.Unchanged (w w' : World) : Prop where
  slots : ∀ s : Nat, w'.state.slots[s]? = w.state.slots[s]?
  dirs : ∀ s, (w.dirs s).Same (w'.dirs s)
  channels : Grows w.channels w'.channels

/-- What commits and read guards do to an entry. -/
structure Advance (published : Option StatusPhase) (e e' : SlotEntry) : Prop where
  execId : e'.record.execId = e.record.execId
  visible : e.hidden = false → e'.hidden = false
  hidden : e'.hidden = true → e.hidden = true ∧ e'.record.state = e.record.state
  terminal : e.isTerminal = true →
    e'.record = e.record ∧ (e.activeCounted = false → e'.activeCounted = false)
  final : e.isTerminal = false → e'.isTerminal = true →
    e'.activeCounted = false ∧ Final e'.record published
  resolution : ∀ ch, e'.createResolution = some ch → e.createResolution = some ch

/-- No read is in flight, so that the slot can be collected. -/
def World.Unguarded (w : World) (slot : Nat) : Prop :=
  (w.state.slots[slot]?.any fun e => e.readGuards == 0) = true

/-- Why no other task holds a slot. -/
inductive Note.Sole (note : Note) (op : Op) (w : World) (slot : Nat) : Prop where
  | creates (stage : Stage) (h : note.Creates slot stage)
  | dispatch (h : note.hold = .dispatch slot)
  | startup (h : note.call = .startup)
  | free (h : w.state.slots[slot]? = none)
  | collects (h : op = .collect slot) (hfree : w.Unguarded slot)

/-- What an operation of a task does to the world, as the others see it. -/
inductive Effect (note : Note) (op : Op) (w w' : World) : Prop where
  | unchanged (h : w.Unchanged w')
  | entry (slot : Nat) (hat : note.AtEntry slot) (frame : w.Frame slot w')
      (published : (w'.dirs slot).published = (w.dirs slot).published)
      (advance : ∀ e, w.state.slots[slot]? = some e →
        ∃ e', w'.state.slots[slot]? = some e' ∧ Advance (w.dirs slot).published e e')
  | sole (slot : Nat) (hsole : note.Sole op w slot) (frame : w.Frame slot w')

section

variable {entry : Option SlotEntry} {dir : SlotDir} {w : World} {note note' : Note} {hold : Hold}

lemma Grows.refl (channels : List Channel) : Grows channels channels :=
  fun _ c h => ⟨c, h, rfl, rfl⟩

section

variable (h : SlotOk strict channels entry dir)
include h

lemma SlotOk.grows (hgrows : Grows channels channels') : SlotOk strict channels' entry dir := by
  refine ⟨h.status, h.hidden, h.terminal, h.settled, fun e ch he hch => ?_⟩
  obtain ⟨c, hc, hid⟩ := h.channel e ch he hch
  obtain ⟨c', hc', -, hid'⟩ := hgrows ch c hc
  exact ⟨c', hc', hid'.trans hid⟩

lemma SlotOk.same (hsame : dir.Same dir') : SlotOk strict channels entry dir' := by
  obtain ⟨hstatus, hhidden, hterminal, hsettled, hchannel⟩ := h
  refine ⟨?_, hhidden, ?_, ?_, hchannel⟩
  · rw [hsame.status, hsame.published]
    exact hstatus
  · rw [hsame.published]
    exact hterminal
  · rw [hsame.published, hsame.settled]
    exact hsettled

/-- An empty slot is in order if its directory is. -/
lemma SlotOk.vacant (channels' : List Channel) : SlotOk strict channels' none dir := by
  refine ⟨h.status, fun e he => ?_, fun e he => ?_, fun hs r hr => ?_, fun e ch he => ?_⟩
  · cases he
  · cases he
  · refine ⟨(h.settled hs r hr).1, fun e he => ?_⟩
    cases he
  · cases he

end

lemma World.Ok.frame (hw : w.Ok strict) (hframe : w.Frame slot w')
    (hslot : SlotOk strict w'.channels w'.state.slots[slot]? (w'.dirs slot)) : w'.Ok strict := by
  intro s
  by_cases hs : s = slot
  · exact hs ▸ hslot
  · rw [hframe.slots s hs, hframe.dirs s hs]
    exact (hw s).grows hframe.channels

lemma World.Ok.unchanged (hw : w.Ok strict) (h : w.Unchanged w') : w'.Ok strict := by
  intro s
  rw [h.slots s]
  exact ((hw s).grows h.channels).same (h.dirs s)

lemma Hold.Knows.grows (h : hold.Knows strict i channels entry dir)
    (hgrows : Grows channels channels') : hold.Knows strict i channels' entry dir := by
  cases hold with
  | fresh x slot ch stage =>
    obtain ⟨e, he, hcreating, hid, hch, ⟨c, hc, howner⟩, hsettled⟩ := h
    obtain ⟨c', hc', howner', -⟩ := hgrows ch c hc
    exact ⟨e, he, hcreating, hid, hch, ⟨c', hc', howner'.trans howner⟩, hsettled⟩
  | none | sweep _ | entry _ _ | dispatch _ | dir _ _ _ | waiting _ _ => exact h

lemma Hold.Knows.same (h : hold.Knows strict i channels entry dir) (hsame : dir.Same dir') :
    hold.Knows strict i channels entry dir' := by
  cases hold with
  | fresh x slot ch stage =>
    simp only [Hold.Knows, hsame.settled]
    exact h
  | dir slot record status =>
    simp only [Hold.Knows, hsame.record, hsame.published, hsame.settled]
    exact h
  | none | sweep _ | entry _ _ | dispatch _ | waiting _ _ => exact h

lemma Note.Knows.grows (h : note.Knows strict i channels entry dir)
    (hgrows : Grows channels channels') : note.Knows strict i channels' entry dir :=
  ⟨h.hold.grows hgrows, h.seen, h.pending⟩

lemma Note.Knows.same (h : note.Knows strict i channels entry dir) (hsame : dir.Same dir') :
    note.Knows strict i channels entry dir' :=
  ⟨h.hold.same hsame, hsame.published ▸ h.seen, h.pending⟩

lemma Note.Holds.unchanged (h : note.Holds strict i w) (hw : w.Unchanged w') :
    note.Holds strict i w' := by
  refine ⟨h.aligned, fun slot hslot => ?_, fun x ch hwait => ?_⟩
  · rw [hw.slots slot]
    exact ((h.knows slot hslot).grows hw.channels).same (hw.dirs slot)
  · obtain ⟨c, hc, hid⟩ := h.waiting x ch hwait
    obtain ⟨c', hc', -, hid'⟩ := hw.channels ch c hc
    exact ⟨c', hc', hid'.trans hid⟩

/-- A note is kept if what it says of its own slot is. -/
lemma Note.Holds.frame (h : note.Holds strict i w) (hframe : w.Frame slot w')
    (hslot : note.hold.slot = some slot →
      note.Knows strict i w'.channels w'.state.slots[slot]? (w'.dirs slot)) :
    note.Holds strict i w' := by
  refine ⟨h.aligned, fun s hs => ?_, fun x ch hwait => ?_⟩
  · by_cases heq : s = slot
    · subst heq
      exact hslot hs
    · rw [hframe.slots s heq, hframe.dirs s heq]
      exact (h.knows s hs).grows hframe.channels
  · obtain ⟨c, hc, hid⟩ := h.waiting x ch hwait
    obtain ⟨c', hc', -, hid'⟩ := hframe.channels ch c hc
    exact ⟨c', hc', hid'.trans hid⟩

/-- Two tasks that may run at the same time. -/
structure Note.Apart (note note' : Note) : Prop where
  startup : note.call ≠ .startup
  startup' : note'.call ≠ .startup
  reap : ¬ (note.call = .reap ∧ note'.call = .reap)

/-- Nobody else holds a slot that a task has for itself. -/
lemma Note.Sole.excludes (hsole : note.Sole op w slot) (hself : note.Holds strict i w)
    (hother : note'.Holds strict j w) (hij : j ≠ i) (hapart : note.Apart note')
    (hcollect : op = .collect slot → w.Unguarded slot → note'.hold.slot ≠ some slot) :
    note'.hold.slot ≠ some slot := by
  intro hslot
  have hknows := (hother.knows slot hslot).hold
  have hfits := hother.aligned.hold
  cases hsole with
  | startup h => exact hapart.startup h
  | collects h hfree => exact hcollect h hfree hslot
  | creates stage h =>
    obtain ⟨x, ch, hhold⟩ := h
    have hmine := (hself.knows slot (by rw [hhold]; rfl)).hold
    rw [hhold] at hmine
    obtain ⟨e, he, hcreating, -, hch, ⟨c, hc, howner⟩, -⟩ := hmine
    cases hhold' : note'.hold with
    | entry x' slot' =>
      rw [hhold'] at hknows
      obtain ⟨e', he', hvisible, -⟩ := hknows
      cases he.symm.trans he'
      simp [SlotEntry.hidden, hcreating] at hvisible
    | fresh x' slot' ch' stage' =>
      rw [hhold'] at hknows
      obtain ⟨e', he', -, -, hch', ⟨c', hc', howner'⟩, -⟩ := hknows
      cases he.symm.trans he'
      cases hch.symm.trans hch'
      cases hc.symm.trans hc'
      exact hij (howner'.symm.trans howner)
    | dispatch slot' =>
      rw [hhold'] at hknows
      obtain ⟨e', he', hlive, -⟩ := hknows
      cases he.symm.trans he'
      simp [hcreating] at hlive
    | dir slot' record status =>
      rw [hhold'] at hfits
      exact hapart.startup' hfits
    | none | sweep _ | waiting _ _ => simp [hhold', Hold.slot] at hslot
  | dispatch h =>
    have hmine := (hself.knows slot (by rw [h]; rfl)).hold
    rw [h] at hmine
    obtain ⟨e, he, hlive, hheld⟩ := hmine
    have hreap : note.call = .reap := by
      have := hself.aligned.hold
      rwa [h] at this
    cases hhold' : note'.hold with
    | entry x' slot' =>
      rw [hhold'] at hknows
      obtain ⟨e', he', hvisible, -⟩ := hknows
      cases he.symm.trans he'
      simp [SlotEntry.hidden, hheld] at hvisible
    | fresh x' slot' ch' stage' =>
      rw [hhold'] at hknows
      obtain ⟨e', he', hcreating, -⟩ := hknows
      cases he.symm.trans he'
      simp [hcreating] at hlive
    | dispatch slot' =>
      rw [hhold'] at hfits
      exact hapart.reap ⟨hreap, hfits⟩
    | dir slot' record status =>
      rw [hhold'] at hfits
      exact hapart.startup' hfits
    | none | sweep _ | waiting _ _ => simp [hhold', Hold.slot] at hslot
  | free h =>
    cases hhold' : note'.hold with
    | entry _ _ | fresh _ _ _ _ | dispatch _ =>
      rw [hhold', h] at hknows
      obtain ⟨e', he', -⟩ := hknows
      cases he'
    | dir slot' record status =>
      rw [hhold'] at hfits
      exact hapart.startup' hfits
    | none | sweep _ | waiting _ _ => simp [hhold', Hold.slot] at hslot

/-- What a task knows of an entry survives what others do to it. -/
lemma Note.Knows.advance (hat : note'.AtEntry slot)
    (h : note'.Knows strict j channels (some e) dir) (hadvance : Advance dir.published e e')
    (hpublished : dir'.published = dir.published) :
    note'.Knows strict j channels' (some e') dir' := by
  obtain ⟨x, hhold⟩ := hat
  refine ⟨?_, ?_, fun r hr hterminal => ?_⟩
  · have hknows := h.hold
    rw [hhold] at hknows ⊢
    obtain ⟨e₀, he₀, hvisible, hid⟩ := hknows
    cases he₀
    exact ⟨e', rfl, hadvance.visible hvisible, fun y hy => hadvance.execId.trans (hid y hy)⟩
  · rw [hpublished]
    exact h.seen
  · obtain ⟨e₀, he₀, hrecord⟩ := h.pending r hr hterminal
    cases he₀
    have hdone : e.isTerminal = true := by
      rw [isTerminal, hrecord]
      exact hterminal
    exact ⟨e', rfl, (hadvance.terminal hdone).1.trans hrecord⟩

/-- Beside a visible entry there are only holders of that entry. -/
lemma Note.atEntry_of_visible (he : w.state.slots[slot]? = some e) (hvisible : e.hidden = false)
    (hother : note'.Holds strict j w) (hstartup : note'.call ≠ .startup)
    (hslot : note'.hold.slot = some slot) : note'.AtEntry slot := by
  have hknows := (hother.knows slot hslot).hold
  have hfits := hother.aligned.hold
  cases hhold : note'.hold with
  | entry x slot' =>
    rw [hhold, Hold.slot, Option.some.injEq] at hslot
    exact ⟨x, by rw [hhold, hslot]⟩
  | fresh x slot' ch stage =>
    rw [hhold, he] at hknows
    obtain ⟨e', he', hcreating, -⟩ := hknows
    cases he'
    simp [SlotEntry.hidden, hcreating] at hvisible
  | dispatch slot' =>
    rw [hhold, he] at hknows
    obtain ⟨e', he', -, hheld⟩ := hknows
    cases he'
    simp [SlotEntry.hidden, hheld] at hvisible
  | dir slot' record status =>
    rw [hhold] at hfits
    exact absurd hfits hstartup
  | none | sweep _ | waiting _ _ => simp [hhold, Hold.slot] at hslot

/-- The notes of the others stay true. -/
lemma Effect.others (heffect : Effect note op w w') (hself : note.Holds strict i w)
    (hother : note'.Holds strict j w) (hij : j ≠ i) (hapart : note.Apart note')
    (hcollect : ∀ slot, op = .collect slot → w.Unguarded slot → note'.hold.slot ≠ some slot) :
    note'.Holds strict j w' := by
  cases heffect with
  | unchanged h => exact hother.unchanged h
  | sole slot hsole hframe =>
    refine hother.frame hframe fun hslot => ?_
    exact absurd hslot (hsole.excludes hself hother hij hapart (hcollect slot))
  | entry slot hat hframe hpublished hadvance =>
    refine hother.frame hframe fun hslot => ?_
    obtain ⟨x, hhold⟩ := hat
    have hmine := (hself.knows slot (by rw [hhold]; rfl)).hold
    rw [hhold] at hmine
    obtain ⟨e, he, hvisible, -⟩ := hmine
    obtain ⟨e', he', hadvance⟩ := hadvance e he
    have hknows := hother.knows slot hslot
    rw [he] at hknows
    rw [he']
    exact hknows.advance (Note.atEntry_of_visible he hvisible hother hapart.startup' hslot)
      hadvance hpublished

end

/-! ## entries that advance -/

lemma isTerminal_of_statusToTerminal
    (h : statusToTerminal status = some (terminal, code, signal)) :
    terminal.isTerminal = true := by
  unfold statusToTerminal at h
  split at h <;> cases h <;> rfl

section

lemma advance_commitRunning (published : Option StatusPhase) (e : SlotEntry) :
    Advance published e e.commitRunning := by
  by_cases hstate : e.record.state = .dispatching
  · constructor <;>
      simp [commitRunning, SlotEntry.hidden, isTerminal, hstate, RecordState.isTerminal]
  · constructor <;>
      simp +contextual [commitRunning, SlotEntry.hidden, isTerminal, hstate]

lemma advance_commitTerminal (now : Nat) (e : SlotEntry)
    (h : statusToTerminal published = some (terminal, code, signal)) :
    Advance published e
      { e.commitTerminal terminal code signal now with activeCounted := false } := by
  have hterminal := isTerminal_of_statusToTerminal h
  cases hdone : e.isTerminal with
  | true =>
    constructor <;> simp [commitTerminal, SlotEntry.hidden, hdone]
  | false =>
    constructor <;> simp [commitTerminal, SlotEntry.hidden, hdone]
    intro _
    exact ⟨hterminal, rfl, fun _ => h⟩

lemma advance_markLost (hvisible : e.hidden = false) (hlive : e.isTerminal = false) :
    Advance published e { e.markLost now with activeCounted := false } := by
  have hhidden : ({ e.markLost now with activeCounted := false } : SlotEntry).hidden = false :=
    hvisible
  constructor
  · rfl
  · exact fun _ => hhidden
  · simp [hhidden]
  · simp [hlive]
  · exact fun _ _ => ⟨rfl, rfl, rfl, nofun⟩
  · exact fun _ h => h

lemma advance_promoteHold (published : Option StatusPhase) (hlive : e.creating = false) :
    Advance published e e.promoteHold := by
  by_cases hstate : e.record.state = .dispatching
  · constructor <;>
      simp [promoteHold, SlotEntry.hidden, isTerminal, hstate, hlive, RecordState.isTerminal]
  · constructor <;>
      simp +contextual [promoteHold, SlotEntry.hidden, isTerminal, hstate, hlive]

lemma advance_readGuards (published : Option StatusPhase) (e : SlotEntry) (n : Nat) :
    Advance published e { e with readGuards := n } := by
  constructor
  · rfl
  · exact id
  · exact fun h => ⟨h, rfl⟩
  · exact fun _ => ⟨rfl, id⟩
  · exact fun hlive hdone => absurd hdone (by simp [isTerminal] at hlive ⊢; exact hlive)
  · exact fun _ h => h

lemma SlotOk.advance (h : SlotOk strict channels (some e) dir)
    (hadvance : Advance dir.published e e')
    (hsettled : strict → e.creating = true → e'.creating = true ∨ dir.settled = none) :
    SlotOk strict channels (some e') dir := by
  refine ⟨h.status, fun e₁ he₁ hhidden => ?_, fun e₁ he₁ hdone => ?_, fun hs r hr => ?_,
    fun e₁ ch he₁ hch => ?_⟩
  · cases he₁
    obtain ⟨hhidden, hstate⟩ := hadvance.hidden hhidden
    exact hstate.trans (h.hidden e rfl hhidden)
  · cases he₁
    cases hwas : e.isTerminal with
    | true =>
      obtain ⟨hrecord, hcounted⟩ := hadvance.terminal hwas
      obtain ⟨hactive, hfinal⟩ := h.terminal e rfl hwas
      exact ⟨hcounted hactive, hrecord ▸ hfinal⟩
    | false => exact hadvance.final hwas hdone
  · obtain ⟨hfinal, hentry⟩ := h.settled hs r hr
    refine ⟨hfinal, fun e₁ he₁ hlive => ?_⟩
    cases he₁
    cases hcreating : e.creating with
    | true =>
      rcases hsettled hs hcreating with hstill | hnone
      · simp [hlive] at hstill
      · simp [hnone] at hr
    | false =>
      have hrecord := hentry e rfl hcreating
      have hdone : e.isTerminal = true := by
        rw [isTerminal, hrecord]
        exact hfinal.terminal
      exact (hadvance.terminal hdone).1.trans hrecord
  · cases he₁
    obtain ⟨c, hc, hid⟩ := h.channel e ch rfl (hadvance.resolution ch hch)
    exact ⟨c, hc, hid.trans hadvance.execId.symm⟩

end

end D2b.Guestd

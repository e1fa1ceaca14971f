import D2b.Guestd.DetachedRegistry.Preserved

/-!
# D2b.Guestd.DetachedRegistry.PreservedOps

The operations on the slot directories, startup adoption, and all operations
together (`Preserved.exec`).
-/

namespace D2b.Guestd

open ExecRunner
open Function RegistryState

namespace Preserved

variable {strict : Prop} {note note' : Note} {op : Op} {w : World} {slot : Nat}

/-! ## the store -/

variable {ans : Except ExecError Unit}

/-- A write reaches its directory, or not. -/
lemma write_cases {dirs : Dirs} (h : dirs.write slot f outcome = some (ans, dirs')) :
    dirs' = update dirs slot (f (dirs slot)) ∨ (dirs' = dirs ∧ ∃ e, ans = .error e) := by
  cases outcome with
  | ok =>
    simp only [Dirs.write] at h
    split at h
    · cases h
      exact .inl rfl
    · cases h
  | fails error written =>
    cases written with
    | true =>
      simp only [Dirs.write] at h
      split at h
      · cases h
        exact .inl rfl
      · cases h
    | false =>
      simp only [Dirs.write] at h
      cases h
      exact .inr ⟨rfl, error, rfl⟩

variable {dir : SlotDir}

lemma unchanged_update (h : (w.dirs slot).Same dir) :
    w.Unchanged { w with dirs := update w.dirs slot dir } := by
  refine ⟨fun _ => rfl, ?_, Grows.refl _⟩
  exact (forall_update_iff w.dirs _).mpr ⟨h, fun _ _ => ⟨rfl, rfl, rfl, rfl⟩⟩

/-- The record that is written settles nothing but what the entry says. -/
lemma settled_writeRecord (h : (dir.writeRecord record).settled = some r) :
    dir.settled = some r ∨ (dir.settled = none ∧ record.state.isTerminal = true ∧ r = record) := by
  simp only [SlotDir.writeRecord] at h
  cases hwas : dir.settled with
  | some r' =>
    rw [hwas] at h
    exact .inl h
  | none =>
    rw [hwas] at h
    split at h
    · next hterminal => exact .inr ⟨rfl, hterminal, (Option.some.inj h).symm⟩
    · cases h

lemma slotOk_writeRecord (h : SlotOk strict channels entry dir)
    (hpending : record.state.isTerminal = true → ∃ e, entry = some e ∧ e.record = record) :
    SlotOk strict channels entry (dir.writeRecord record) := by
  refine ⟨h.status, h.hidden, h.terminal, fun hstrict r hr => ?_, h.channel⟩
  rcases settled_writeRecord hr with hwas | ⟨-, hterminal, rfl⟩
  · exact h.settled hstrict r hwas
  · obtain ⟨e, he, hrecord⟩ := hpending hterminal
    have hdone : e.isTerminal = true := by
      rw [SlotEntry.isTerminal, hrecord]
      exact hterminal
    refine ⟨hrecord ▸ (h.terminal e he hdone).2, fun e' he' _ => ?_⟩
    cases he.symm.trans he'
    exact hrecord

/-- The note after a record was written, or may have been. -/
lemma knows_writeRecord (hok : SlotOk strict channels entry dir)
    (h : note.Knows strict i channels entry dir) (hpending : note.pending = some record)
    (hby : note.AtEntry slot ∨ note.Creates slot .scrubbed)
    (hhold : hold = note.hold ∨ hold = note.hold.atStage stage) (written : Bool) :
    Note.Knows strict i { note with hold, pending := none } channels entry
      (if written then dir.writeRecord record else dir) := by
  have hpublished :
    (if written then dir.writeRecord record else dir).published = dir.published := by
    split <;> rfl
  refine ⟨?_, ?_, by simp⟩
  · have hwas := h.hold
    rcases hby with ⟨x, hentry⟩ | ⟨x, ch, hfresh⟩
    · have hsame : hold = .entry x slot := by
        rcases hhold with hhold | hhold
        · rw [hhold, hentry]
        · rw [hhold, hentry]
          rfl
      rw [hentry] at hwas
      rw [hsame]
      exact hwas
    · rw [hfresh] at hwas
      obtain ⟨e, he, hcreating, hid, hch, howner, hsettled⟩ := hwas
      -- the record of a create is still dispatching
      have hlive : record.state.isTerminal = false := by
        cases hterminal : record.state.isTerminal with
        | false => rfl
        | true =>
          obtain ⟨e', he', hrecord⟩ := h.pending record hpending hterminal
          cases he.symm.trans he'
          have hstate := hok.hidden e he (by simp [SlotEntry.hidden, hcreating])
          rw [hrecord] at hstate
          simp [hstate, RecordState.isTerminal] at hterminal
      have hstill : strict → (if written then dir.writeRecord record else dir).settled = none := by
        intro hstrict
        have hwas := hsettled hstrict (by decide)
        split
        · simp [SlotDir.writeRecord, hwas, hlive]
        · exact hwas
      have hsame : ∃ stage', hold = .fresh x slot ch stage' := by
        rcases hhold with hhold | hhold
        · exact ⟨_, hhold.trans hfresh⟩
        · exact ⟨_, by rw [hhold, hfresh]; rfl⟩
      obtain ⟨stage', hsame⟩ := hsame
      rw [hsame]
      exact ⟨e, he, hcreating, hid, hch, howner, fun hstrict _ => hstill hstrict⟩
  · rw [hpublished]
    exact h.seen

lemma slot_atStage (hold : Hold) (stage : Stage) : (hold.atStage stage).slot = hold.slot := by
  cases hold <;> rfl

lemma advance_refl (published : Option StatusPhase) (e : SlotEntry) : Advance published e e :=
  advance_readGuards published e e.readGuards

section

variable (hw : w.Ok strict) (hself : note.Holds strict i w)
include hw hself

/-- A write of a file that the invariant does not look at. -/
lemma preserved_write (h : w.dirs.write slot f outcome = some (ans, dirs'))
    (hf : (w.dirs slot).Same (f (w.dirs slot))) :
    Preserved strict i note note op w { w with dirs := dirs' } := by
  rcases write_cases h with rfl | ⟨rfl, -⟩
  · exact unchanged hw (unchanged_update hf) hself
  · exact refl hw hself

lemma preserved_prepare :
    Preserved strict i note note op w { w with dirs := (w.dirs.prepare slot outcome).2 } := by
  have hpresent : Preserved strict i note note op w
      { w with dirs := update w.dirs slot { w.dirs slot with present := true } } :=
    unchanged hw (unchanged_update ⟨rfl, rfl, rfl, rfl⟩) hself
  cases outcome with
  | ok => exact hpresent
  | fails error written =>
    cases written with
    | true => exact hpresent
    | false => exact refl hw hself

lemma preserved_writeRecord (hallowed : StoreOp.Allowed note (.writeRecord slot record))
    (h : w.dirs.write slot (·.writeRecord record) outcome = some (ans, dirs')) :
    Preserved strict i note (note.afterStore (.writeRecord slot record) ans) op w
      { w with dirs := dirs' } := by
  obtain ⟨hpending, hby⟩ := hallowed
  have hslot : note.hold.slot = some slot := by
    rcases hby with ⟨x, hhold⟩ | ⟨x, ch, hhold⟩
    all_goals
      rw [hhold]
      rfl
  have hknows := hself.knows slot hslot
  obtain ⟨hold, hnote, hhold⟩ : ∃ hold,
      note.afterStore (.writeRecord slot record) ans = { note with hold, pending := none } ∧
        (hold = note.hold ∨ hold = note.hold.atStage .persisted) := by
    cases ans with
    | error e => exact ⟨_, rfl, .inl rfl⟩
    | ok _ => exact ⟨_, rfl, .inr rfl⟩
  have hknows' := knows_writeRecord (hw slot) hknows hpending hby hhold
  obtain ⟨hfits, hslot'⟩ : hold.Fits note.call note.target ∧ hold.slot = some slot := by
    rcases hhold with rfl | rfl
    · exact ⟨hself.aligned.hold, hslot⟩
    · exact ⟨hself.aligned.hold.atStage _, (slot_atStage ..).trans hslot⟩
  have haligned : Note.Aligned { note with hold, pending := none } :=
    hself.aligned.withHold rfl rfl hfits
  rw [hnote]
  rcases write_cases h with rfl | ⟨rfl, -⟩
  · have hframe := frame_update w slot ((w.dirs slot).writeRecord record)
    refine ⟨hw.frame hframe ?_, Note.Holds.at slot haligned hslot' ?_, ?_⟩
    · simp only [update_self]
      exact slotOk_writeRecord (hw slot) (hknows.pending record hpending)
    · simp only [update_self]
      exact hknows' true
    · rcases hby with hat | hcreates
      · refine .entry slot hat hframe ?_ fun e he => ⟨e, he, advance_refl _ e⟩
        simp only [update_self]
        rfl
      · exact .sole slot (.creates _ hcreates) hframe
  · exact refl hw (Note.Holds.at slot haligned hslot' (hknows' false))

lemma preserved_scrub (hallowed : note.Creates slot .reserved) :
    Preserved strict i note
      (note.afterStore (.scrubSlotFiles slot) (w.dirs.scrub slot removal).1) op w
      { w with dirs := (w.dirs.scrub slot removal).2 } := by
  have hsole : note.Sole op w slot := .creates _ hallowed
  cases removal with
  | fails error left =>
    cases left with
    | none => exact thin hw hself hsole (thinned_partlyScrubbed _ _)
    | some kept => exact thin hw hself hsole (thinned_partlyScrubbed _ kept)
  | ok =>
    obtain ⟨x, ch, hhold⟩ := hallowed
    have hslot : note.hold.slot = some slot := by
      rw [hhold]
      rfl
    have hknows := hself.knows slot hslot
    have hwas := hknows.hold
    rw [hhold] at hwas
    obtain ⟨e, he, hcreating, hid, hch, howner, -⟩ := hwas
    have hframe := frame_update w slot (w.dirs slot).scrubbed
    have hscrubbed : note.hold.atStage .scrubbed = .fresh x slot ch .scrubbed := by
      rw [hhold]
      rfl
    refine ⟨hw.frame hframe ?_, ?_, .sole slot hsole hframe⟩
    · simp only [Dirs.scrub, update_self]
      have hok := hw slot
      refine ⟨.inl rfl, hok.hidden, fun e' he' hdone => ?_, fun _ r hr => ?_, hok.channel⟩
      · cases he.symm.trans he'
        have hstate := hok.hidden e he (by simp [SlotEntry.hidden, hcreating])
        simp [SlotEntry.isTerminal, hstate, RecordState.isTerminal] at hdone
      · cases hr
    · refine Note.Holds.at slot
        (hself.aligned.withHold rfl rfl (hself.aligned.hold.atStage _)) ?_ ⟨?_, ?_, ?_⟩
      · exact (slot_atStage ..).trans hslot
      · show (note.hold.atStage .scrubbed).Knows _ _ _ _ _
        rw [hscrubbed]
        simp only [Dirs.scrub, update_self]
        exact ⟨e, he, hcreating, hid, hch, howner, fun _ _ => rfl⟩
      · simp [Dirs.scrub, Note.afterStore, statusToTerminal]
      · exact hknows.pending

/-- At a restart the record that was settled is read back, with its status. -/
def ReadsBack (note : Note) (dir : SlotDir) (ans : Except ExecError (Option StatusPhase)) : Prop :=
  note.call = .startup → ∀ r, dir.settled = some r →
    dir.record = some r ∧ r.lost = false ∧
      ∃ status, ans = .ok status ∧ (statusToTerminal status).isSome = true

lemma holds_readStatus {ans : Except ExecError (Option StatusPhase)}
    (hslot : note.hold.slot = some slot)
    (hans : ∀ status, ans = .ok status → status = (w.dirs slot).status)
    (hback : strict → ReadsBack note (w.dirs slot) ans) :
    (note.afterStore (.readStatus slot) ans).Holds strict i w := by
  obtain ⟨status, hnote, hstatus⟩ : ∃ status,
      note.afterStore (.readStatus slot) ans =
        { note with hold := note.hold.withStatus status, seen := status } ∧
      (status = none ∨ (ans = .ok status ∧ status = (w.dirs slot).status)) := by
    cases ans with
    | error e => exact ⟨none, rfl, .inl rfl⟩
    | ok status => exact ⟨status, rfl, .inr ⟨rfl, hans status rfl⟩⟩
  have hseen : ∀ t, statusToTerminal status = some t → (w.dirs slot).published = status := by
    intro t ht
    rcases hstatus with rfl | ⟨-, rfl⟩
    · cases ht
    · rcases (hw slot).status with hnone | hsame
      · simp [hnone, statusToTerminal] at ht
      · exact hsame.symm
  have hknows := hself.knows slot hslot
  rw [hnote]
  refine Note.Holds.at slot
    (hself.aligned.withHold rfl rfl (hself.aligned.hold.withStatus status)) ?_
    ⟨?_, hseen, hknows.pending⟩
  · cases hhold : note.hold <;> simp_all [Hold.withStatus, Hold.slot]
  · have hwas := hknows.hold
    show (note.hold.withStatus status).Knows _ _ _ _ _
    cases hhold : note.hold with
    | dir slot' record old =>
      rw [hhold] at hwas
      refine ⟨hwas.1, fun st hst => ?_⟩
      obtain rfl : status = st := Option.some.inj hst
      refine ⟨hseen, fun hstrict r hr => ?_⟩
      have hcall : note.call = .startup := by
        have hfits := hself.aligned.hold
        rwa [hhold] at hfits
      obtain ⟨hrecord, hkept, read, hread, hterminal⟩ := hback hstrict hcall r hr
      refine ⟨hwas.1 r hrecord, hkept, ?_⟩
      rcases hstatus with rfl | ⟨hok, -⟩
      · -- the answer was a terminal status, so it is what the note shows
        subst hread
        have hshown : read = none := congrArg Note.seen hnote
        rw [hshown] at hterminal
        exact hterminal
      · rw [hok] at hread
        cases hread
        exact hterminal
    | none | sweep _ | entry _ _ | fresh _ _ _ _ | dispatch _ | waiting _ _ =>
      rw [hhold] at hwas
      exact hwas

end

lemma holds_readRecord (hself : note.Holds strict i w) (hcall : note.call = .startup)
    (hrecord : (w.dirs slot).record = some record) :
    (note.afterStore (.readRecord slot) (.ok record)).Holds strict i w := by
  refine Note.Holds.at slot (hself.aligned.withHold rfl rfl hcall) rfl ⟨?_, ?_, ?_⟩
  · refine ⟨fun r hr => ?_, nofun⟩
    rw [hrecord] at hr
    exact (Option.some.inj hr).symm
  · simp [Note.afterStore, statusToTerminal]
  · simp [Note.afterStore]

/-! ## adoption -/

lemma insertAdopted_slots (st : RegistryState) :
    (st.insertAdopted slot e).slots = st.slots.insert slot e := rfl

/-- An adopted terminal record is the one that was settled, if one was. -/
lemma adopted_terminal (hfinal : Final record published) (hkept : record.lost = false)
    (hphase : statusToTerminal published = some (state, code, signal)) :
    (adoptedEntry reg record (.terminal state code signal) now).record = record := by
  have hsame := hfinal.phase hkept
  rw [hphase, Option.some.injEq, Prod.mk.injEq, Prod.mk.injEq] at hsame
  obtain ⟨hstate, hcode, hsignal⟩ := hsame
  obtain ⟨time, htime⟩ := Option.isSome_iff_exists.mp hfinal.time
  simp only [adoptedEntry, hstate, hcode, hsignal, htime, Option.getD_some]
  rw [← htime]

/-- The adopted entry and the record that was read from the directory fit. -/
structure Adopts (strict : Prop) (dir : SlotDir) (e : SlotEntry) : Prop where
  hidden : e.hidden = true → e.record.state = .dispatching
  terminal : e.isTerminal = true → e.activeCounted = false ∧ Final e.record dir.published
  settled : strict → ∀ r, dir.settled = some r → e.record = r
  creating : e.creating = false
  resolution : e.createResolution = none

lemma adopts (hok : SlotOk strict channels entry dir)
    (hknows : (Hold.dir slot record (some status)).Knows strict i channels entry dir)
    (hfits : kind.Fits record status) :
    Adopts strict dir (adoptedEntry reg record kind now) := by
  obtain ⟨hpublished, hsettled⟩ := hknows.2 status rfl
  -- nothing was settled unless the status read is terminal
  have hnothing : statusToTerminal status = none → strict → ∀ r, dir.settled ≠ some r := by
    intro hlive hstrict r hr
    have hsome := (hsettled hstrict r hr).2.2
    simp [hlive] at hsome
  cases kind with
  | running =>
    refine ⟨Bool.noConfusion, Bool.noConfusion, fun hstrict r hr => ?_, rfl, rfl⟩
    exact absurd hr (hnothing hfits hstrict r)
  | dispatchHold =>
    refine ⟨fun _ => hfits.2, fun hdone => ?_, fun hstrict r hr => ?_, rfl, rfl⟩
    · have hstate : record.state = .dispatching := hfits.2
      simp [adoptedEntry, SlotEntry.isTerminal, hstate, RecordState.isTerminal] at hdone
    · exact absurd hr (hnothing hfits.1 hstrict r)
  | terminal state code signal =>
    have hphase : statusToTerminal dir.published = some (state, code, signal) := by
      rw [hpublished _ hfits]
      exact hfits
    refine ⟨Bool.noConfusion, fun _ => ⟨rfl, ?_, rfl, fun _ => hphase⟩, fun hstrict r hr => ?_,
      rfl, rfl⟩
    · exact isTerminal_of_statusToTerminal hfits
    · obtain ⟨rfl, hkept, -⟩ := hsettled hstrict r hr
      exact adopted_terminal (hok.settled hstrict r hr).1 hkept hphase

lemma slotOk_adopted (hok : SlotOk strict channels entry dir) (h : Adopts strict dir e)
    (written : Bool) :
    SlotOk strict channels' (some e) (if written then dir.writeRecord e.record else dir) := by
  have hwas : SlotOk strict channels' (some e) dir := by
    refine ⟨hok.status, fun e' he' => ?_, fun e' he' => ?_, fun hstrict r hr => ?_,
      fun e' ch he' hch => ?_⟩
    · cases he'
      exact h.hidden
    · cases he'
      exact h.terminal
    · refine ⟨(hok.settled hstrict r hr).1, fun e' he' _ => ?_⟩
      cases he'
      exact h.settled hstrict r hr
    · cases he'
      simp [h.resolution] at hch
  cases written with
  | false => exact hwas
  | true => exact slotOk_writeRecord hwas fun _ => ⟨e, rfl, rfl⟩

lemma preserved_insertAdopted (hw : w.Ok strict) (hself : note.Holds strict i w)
    (hallowed : (Op.insertAdopted slot record kind now).Allowed note)
    (h : w.dirs.write slot (·.writeRecord (adoptedEntry reg record kind now).record)
      outcome = some (ans, dirs')) :
    Preserved strict i note (note.next (.insertAdopted slot record kind now) ()) op w
      { w with
        state := w.state.insertAdopted slot (adoptedEntry reg record kind now)
        dirs := dirs' } := by
  obtain ⟨hcall, status, hhold, hfits⟩ := hallowed
  have hknows := (hself.knows slot (by rw [hhold]; rfl)).hold
  rw [hhold] at hknows
  have hadopts : Adopts strict (w.dirs slot) (adoptedEntry reg record kind now) :=
    adopts (hw slot) hknows hfits
  generalize hentry : adoptedEntry reg record kind now = e at h hadopts ⊢
  obtain ⟨written, hdirs⟩ : ∃ written : Bool, dirs' = update w.dirs slot
      (if written then (w.dirs slot).writeRecord e.record else w.dirs slot) := by
    rcases write_cases h with rfl | ⟨rfl, -⟩
    · exact ⟨true, rfl⟩
    · exact ⟨false, by simp⟩
  subst hdirs
  have hget : (w.state.insertAdopted slot e).slots[slot]? = some e := by
    rw [insertAdopted_slots, BTreeMap.get_insert_self]
  have hframe : w.Frame slot
      { w with
        state := w.state.insertAdopted slot e
        dirs := update w.dirs slot
          (if written then (w.dirs slot).writeRecord e.record else w.dirs slot) } := by
    refine ⟨fun s hs => ?_, fun s hs => update_of_ne hs _ _, Grows.refl _⟩
    show (w.state.insertAdopted slot e).slots[s]? = _
    rw [insertAdopted_slots, BTreeMap.get_insert_of_ne _ _ (Ne.symm hs)]
  refine ⟨hw.frame hframe ?_, ?_, .sole slot (.startup hcall) hframe⟩
  · simp only [hget, update_self]
    exact slotOk_adopted (hw slot) hadopts written
  · have hkeeper : note.call.keeper = true := by
      rw [hcall]
      rfl
    have hvisible : e.dispatchHold = false → e.hidden = false := by
      intro hheld
      simp [SlotEntry.hidden, hadopts.creating, hheld]
    have haligned : ({ note with hold := .entry none slot, seen := none, pending := none } :
        Note).Aligned := hself.aligned.withHold rfl rfl hkeeper
    cases kind with
    | dispatchHold => exact Note.Holds.idle hself.aligned rfl rfl (.inl rfl)
    | running => exact holds_entry haligned rfl rfl rfl hget (hvisible (hentry ▸ rfl)) (by simp)
    | terminal state code signal =>
      exact holds_entry haligned rfl rfl rfl hget (hvisible (hentry ▸ rfl)) (by simp)

/-! ## all operations -/

/-- What the run must provide for an operation. -/
def OpCond (strict : Prop) (note : Note) (w : World) : (op : Op) → op.Ans → Prop
  | .store (.readStatus slot), ans => strict → ReadsBack note (w.dirs slot) ans
  | _, _ => True

lemma grows_modify (channels : List Channel) (ch : Nat) (result : Except ExecError ExecSnapshot) :
    Grows channels (channels.modify ch fun c => { c with resolution := some result }) := by
  intro ch' c hc
  by_cases heq : ch = ch'
  · subst heq
    exact ⟨{ c with resolution := some result }, by simp [hc], rfl, rfl⟩
  · exact ⟨c, by simp [heq, hc], rfl, rfl⟩

section

variable (hw : w.Ok strict) (hself : note.Holds strict i w)
include hw hself

lemma preserved_store {sop : StoreOp} {ans : sop.Ans} (hallowed : sop.Allowed note)
    (hcond : OpCond strict note w (.store sop) ans) (h : w.dirs.run sop input = some (ans, dirs')) :
    Preserved strict i note (note.afterStore sop ans) op w { w with dirs := dirs' } := by
  -- each call takes one kind of input
  cases sop <;> cases input <;> simp only [Dirs.run, reduceCtorEq] at h
  case prepareSlotDir.write slot outcome =>
    have hprepared : Preserved strict i note note op w
        { w with dirs := (w.dirs.prepare slot outcome).2 } := preserved_prepare hw hself
    rw [Option.some.inj h] at hprepared
    exact hprepared
  case writeRecord.write slot record outcome => exact preserved_writeRecord hw hself hallowed h
  case writeSpec.write | writeCancel.write => exact preserved_write hw hself h ⟨rfl, rfl, rfl, rfl⟩
  case readRecord.read slot fault =>
    cases fault with
    | some error =>
      cases h
      exact refl hw hself
    | none =>
      cases hrecord : (w.dirs slot).record with
      | none =>
        simp only [hrecord] at h
        cases h
        exact refl hw hself
      | some record =>
        simp only [hrecord] at h
        cases h
        exact refl hw (holds_readRecord hself hallowed hrecord)
  case readSpec.read slot fault =>
    split at h
    · cases h
      exact refl hw hself
    · split at h
      · cases h
        exact refl hw hself
      · cases h
        exact refl hw hself
  case readStatus.read slot fault =>
    cases fault with
    | some error =>
      cases h
      exact refl hw (holds_readStatus hw hself hallowed nofun hcond)
    | none =>
      cases h
      refine refl hw (holds_readStatus hw hself hallowed (fun status hstatus => ?_) hcond)
      cases hstatus
      rfl
  case deleteSlotDir.remove slot removal =>
    have hsole : note.Sole op w slot := by
      rcases hallowed with ⟨stage, h⟩ | h | h
      · exact .creates stage h
      · exact .dispatch h
      · exact .startup h
    have hdeleted : Preserved strict i note note op w
        { w with dirs := (w.dirs.delete slot removal).2 } := preserved_delete hw hself hsole
    rw [Option.some.inj h] at hdeleted
    exact hdeleted
  case scrubSlotFiles.remove slot removal =>
    have hscrubbed : Preserved strict i note
        (note.afterStore (.scrubSlotFiles slot) (w.dirs.scrub slot removal).1) op w
        { w with dirs := (w.dirs.scrub slot removal).2 } := preserved_scrub hw hself hallowed
    rw [Option.some.inj h] at hscrubbed
    exact hscrubbed
  case listSlotDirs.slots result =>
    split at h
    · cases h
      exact refl hw hself
    · split at h
      · cases h
        exact refl hw hself
      · cases h
  case readLogMeta.logMeta | readLog.log | markLost.check | validateAuthenticity.check =>
    cases h
    exact refl hw hself

/-- Every permitted operation of a task is preserved. -/
lemma exec {ans : op.Ans} (hallowed : op.Allowed note) (hcond : OpCond strict note w op ans)
    (h : w.exec reg i op input = some (ans, w')) :
    Preserved strict i note (note.next op ans) op w w' := by
  cases op with
  | lock sec =>
    cases input <;> simp only [World.exec, reduceCtorEq] at h
    cases h
    exact preserved_lock hw hself hallowed
  | store sop =>
    simp only [World.exec] at h
    split at h
    · cases h
    · next hrun =>
        cases h
        exact preserved_store hw hself hallowed hcond hrun
  | units uop =>
    have hsame : w' = w := by
      cases uop <;> cases input <;> simp only [World.exec, reduceCtorEq] at h <;> cases h <;> rfl
    subst hsame
    exact refl hw hself
  | collect slot =>
    cases input <;> simp only [World.exec, reduceCtorEq] at h
    cases h
    exact preserved_collect hw hself
  | insertAdopted slot record kind now =>
    cases input <;> simp only [World.exec, reduceCtorEq] at h
    split at h
    · cases h
    · next hwrite =>
        cases h
        exact preserved_insertAdopted hw hself hallowed hwrite
  | nowMs | sleepMs _ =>
    cases input <;> simp only [World.exec, reduceCtorEq] at h
    cases h
    exact refl hw hself
  | nextExecId =>
    cases input <;> simp only [World.exec, reduceCtorEq] at h
    cases h
    obtain ⟨hidle, htarget⟩ := hallowed
    cases ans with
    | error e => exact refl hw hself
    | ok x =>
      refine refl hw ⟨⟨fun y hy => ?_, fun hkeeper => ?_, ?_⟩, fun slot hslot => ?_,
        fun y ch hwait => ?_⟩
      · have hwas := hself.aligned.named y hy
        simp [htarget] at hwas
      · have hclient := hidle.client
        simp_all [Note.next]
      · show note.hold.Fits _ _
        rw [hidle.hold]
        trivial
      · simp [Note.next, hidle.hold, Hold.slot] at hslot
      · simp [Note.next, hidle.hold] at hwait
  | sendResolution ch result =>
    cases input <;> simp only [World.exec, reduceCtorEq] at h
    cases h
    refine unchanged hw ⟨fun _ => rfl, fun _ => ⟨rfl, rfl, rfl, rfl⟩, grows_modify _ _ _⟩ hself
  | awaitResolution ch =>
    have hsame : w' = w := by
      cases input <;> simp only [World.exec, reduceCtorEq] at h
      · split at h
        · cases h
        · cases h
          rfl
      · cases h
        rfl
    subst hsame
    exact refl hw hself

end

end Preserved

end D2b.Guestd

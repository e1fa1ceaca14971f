import D2b.Guestd.DetachedRegistry.Invariant

/-!
# D2b.Guestd.DetachedRegistry.Preserved

Every permitted operation of a task keeps the slots in order, makes the next
note of the task true, and does to a slot only what the others can bear
(`Effect`).
-/

namespace D2b.Guestd

open BTreeMap Function RegistryState List Option

open ExecRunner

/-- What is kept by an operation that takes the note to `note'`. -/
structure Preserved (strict : Prop) (i : Nat) (note note' : Note) (op : Op) (w w' : World) :
    Prop where
  ok : w'.Ok strict
  self : note'.Holds strict i w'
  effect : Effect note op w w'

namespace Preserved

variable {note note' : Note} {w : World} {slot : Nat}

/-! ## operations that change no slot -/

lemma unchanged (hw : w.Ok strict) (h : w.Unchanged w') (hself : note'.Holds strict i w) :
    Preserved strict i note note' op w w' :=
  ⟨hw.unchanged h, hself.unchanged h, .unchanged h⟩

lemma refl (hw : w.Ok strict) (hself : note'.Holds strict i w) :
    Preserved strict i note note' op w w :=
  unchanged hw ⟨fun _ => rfl, fun _ => ⟨rfl, rfl, rfl, rfl⟩, Grows.refl _⟩ hself

/-! ## lookups -/

variable {st : RegistryState} {x : String}

lemma findById_some (h : st.findById x = some slot) :
    ∃ e, st.slots[slot]? = some e ∧ e.hidden = false ∧ e.record.execId = x := by
  simp only [findById, map_eq_some_iff] at h
  obtain ⟨⟨s, e⟩, hfind, hs⟩ := h
  have hmem := mem_of_find?_eq_some hfind
  have hprop := find?_some hfind
  simp only [Bool.and_eq_true, Bool.not_eq_true', beq_iff_eq] at hprop
  subst hs
  exact ⟨e, mem_toList.mp hmem, hprop⟩

lemma findAnyById_some (h : st.findAnyById x = some slot) :
    ∃ e, st.slots[slot]? = some e ∧ e.record.execId = x := by
  simp only [findAnyById, map_eq_some_iff] at h
  obtain ⟨⟨s, e⟩, hfind, hs⟩ := h
  have hmem := mem_of_find?_eq_some hfind
  have hprop := find?_some hfind
  simp only [beq_iff_eq] at hprop
  subst hs
  exact ⟨e, mem_toList.mp hmem, hprop⟩

lemma freeSlot_some (h : st.freeSlot = some slot) : st.slots[slot]? = none := by
  have hfree := find?_some h
  rw [Bool.not_eq_true'] at hfree
  exact get_eq_none_iff.mpr (contains_eq_false.mp hfree)

/-- A fold that picks one of its elements. -/
lemma mem_of_foldl_pick {f : Option α → α → Option α}
    (hf : ∀ best e x, f best e = some x → best = some x ∨ e = x) (l : List α) :
    ∀ (best : Option α) (x : α), l.foldl f best = some x → best = some x ∨ x ∈ l := by
  induction l with
  | nil => exact fun best x h => .inl h
  | cons e l ih =>
    intro best x h
    rcases ih _ x h with hbest | hmem
    · rcases hf best e x hbest with hbest | rfl
      · exact .inl hbest
      · exact .inr mem_cons_self
    · exact .inr (mem_cons_of_mem _ hmem)

lemma overBudgetVictim_some (h : st.overBudgetVictim = some slot) :
    ∃ e, st.slots[slot]? = some e ∧ e.isTerminal = true := by
  unfold overBudgetVictim at h
  split at h
  · cases h
  · rw [map_eq_some_iff] at h
    obtain ⟨⟨s, e⟩, hfold, hs⟩ := h
    subst hs
    have hpick := mem_of_foldl_pick ?_ _ _ _ hfold
    · rcases hpick with hnone | hmem
      · cases hnone
      · rw [mem_filter] at hmem
        exact ⟨e, mem_toList.mp hmem.1, hmem.2⟩
    · intro best e x hx
      cases best with
      | none => exact .inr (Option.some.inj hx)
      | some b =>
        simp only at hx
        split at hx
        · exact .inr (Option.some.inj hx)
        · exact .inl hx

/-! ## critical sections that only read -/

variable {e : SlotEntry}

/-- A note that comes to know a visible entry, with nothing seen or pending. -/
lemma holds_entry {x : Option String} (haligned : note'.Aligned)
    (hhold : note'.hold = .entry x slot) (hseen : note'.seen = none)
    (hpending : note'.pending = none) (he : w.state.slots[slot]? = some e)
    (hvisible : e.hidden = false) (hid : ∀ y, x = some y → e.record.execId = y) :
    note'.Holds strict i w := by
  refine Note.Holds.at slot haligned (by rw [hhold]; rfl) ⟨?_, ?_, ?_⟩
  · rw [hhold]
    exact ⟨e, he, hvisible, hid⟩
  · simp [hseen, statusToTerminal]
  · simp [hpending]

/-- Sections that leave the registry state as it is. -/
def readsOnly : Section → Bool
  | .admission .. | .removeEntry _ | .commitRunning _ | .commitTerminal .. | .markLost ..
  | .promoteHold _ | .takeReadGuard .. | .dropReadGuard _ => false
  | _ => true

lemma run_readsOnly (h : readsOnly sec = true) (channel : Nat) (st : RegistryState) :
    (sec.run reg channel st).2 = st := by
  cases sec <;> first | rfl | cases h

lemma opened_readsOnly (h : readsOnly sec = true) (ans : sec.Ans) : sec.opened i ans = [] := by
  cases sec <;> first | rfl | cases h

section

variable (hself : note.Holds strict i w)
include hself

lemma holds_resolveSlot (h : Section.Allowed note (.resolveSlot x)) :
    (note.afterLock (.resolveSlot x) (w.state.resolveSlot x)).Holds strict i w := by
  unfold resolveSlot
  cases hfind : w.state.findById x with
  | none => exact hself
  | some slot =>
    obtain ⟨e, he, hvisible, hid⟩ := findById_some hfind
    have haligned : (note.afterLock (.resolveSlot x) (.ok slot)).Aligned :=
      hself.aligned.withHold rfl rfl h.2
    refine holds_entry haligned rfl h.1.seen h.1.pending he hvisible fun y hy => ?_
    cases hy
    exact hid

lemma holds_entryRecord (h : note.Creates slot .scrubbed) :
    (note.afterLock (.entryRecord slot) (w.state.slots[slot]?.map (·.record))).Holds
      strict i w := by
  obtain ⟨x, ch, hhold⟩ := h
  have hslot : note.hold.slot = some slot := by
    rw [hhold]
    rfl
  have hknows := hself.knows slot hslot
  refine Note.Holds.at slot (hself.aligned.withHold rfl rfl hself.aligned.hold) hslot
    ⟨hknows.hold, hknows.seen, fun r hr _ => ?_⟩
  exact map_eq_some_iff.mp hr

lemma holds_peek (h : note.On slot) :
    (note.afterLock (.peek slot)
      (w.state.slots[slot]?.map fun e => (e.hidden, e.isTerminal))).Holds strict i w := by
  simp only [Note.afterLock]
  split
  · exact hself
  · next hother =>
      have hkeeper : note.call.keeper = true := (h.resolve_right hother).1
      cases hentry : w.state.slots[slot]? with
      | none => exact Note.Holds.idle hself.aligned rfl rfl (.inl rfl)
      | some e =>
        simp only [map_some]
        cases hhidden : e.hidden with
        | true => exact Note.Holds.idle hself.aligned rfl rfl (.inl rfl)
        | false =>
          exact holds_entry (hself.aligned.withHold rfl rfl hkeeper) rfl rfl rfl hentry hhidden
            (by simp)

lemma holds_survey (h : note.call = .reap) :
    (note.afterLock (.survey slot) (w.state.slots[slot]?.map fun e =>
      (e.creating, e.dispatchHold, e.isTerminal, e.record.terminalTimeUnix))).Holds strict i w := by
  cases hentry : w.state.slots[slot]? with
  | none => exact Note.Holds.idle hself.aligned rfl rfl (.inl rfl)
  | some e =>
    simp only [map_some]
    cases hcreating : e.creating with
    | true => exact Note.Holds.idle hself.aligned rfl rfl (.inl rfl)
    | false =>
      cases hheld : e.dispatchHold with
      | true =>
        refine Note.Holds.at slot (hself.aligned.withHold rfl rfl h) rfl ⟨?_, ?_, ?_⟩
        · exact ⟨e, hentry, hcreating, hheld⟩
        · simp [Note.afterLock, statusToTerminal]
        · simp [Note.afterLock]
      | false =>
        refine holds_entry (hself.aligned.withHold rfl rfl ?_) rfl rfl rfl hentry ?_ (by simp)
        · show note.call.keeper = true
          rw [h]
          rfl
        · simp [SlotEntry.hidden, hcreating, hheld]

end

lemma holds_overBudgetVictim (hw : w.Ok strict) (hself : note.Holds strict i w)
    (h : note.call = .startup) :
    (note.afterLock .overBudgetVictim w.state.overBudgetVictim).Holds strict i w := by
  cases hvictim : w.state.overBudgetVictim with
  | none => exact Note.Holds.idle hself.aligned rfl rfl (.inl rfl)
  | some slot =>
    obtain ⟨e, he, hterminal⟩ := overBudgetVictim_some hvictim
    refine holds_entry (hself.aligned.withHold rfl rfl ?_) rfl rfl rfl he ?_ (by simp)
    · show note.call.keeper = true
      rw [h]
      rfl
    · -- a hidden entry is still dispatching
      cases hhidden : e.hidden with
      | false => rfl
      | true =>
        have hstate := (hw slot).hidden e he hhidden
        simp [SlotEntry.isTerminal, hstate, RecordState.isTerminal] at hterminal

lemma holds_readsOnly (hw : w.Ok strict) (hself : note.Holds strict i w)
    (hallowed : sec.Allowed note) (h : readsOnly sec = true) (channel : Nat) :
    (note.afterLock sec (sec.run reg channel w.state).1).Holds strict i w := by
  cases sec with
  | entryRecord slot => exact holds_entryRecord hself hallowed
  | resolveSlot x => exact holds_resolveSlot hself hallowed
  | peek slot => exact holds_peek hself hallowed
  | survey slot => exact holds_survey hself hallowed
  | overBudgetVictim => exact holds_overBudgetVictim hw hself hallowed
  | visibleEntries => exact Note.Holds.idle hself.aligned rfl rfl (.inl rfl)
  | slotKeys =>
    simp only [Note.afterLock]
    split
    · exact Note.Holds.idle hself.aligned rfl rfl (.inl rfl)
    · exact Note.Holds.idle hself.aligned rfl rfl (.inr ⟨_, rfl⟩)
  | visibleSlots | isTerminal _ | withinDeadline _ _ | pastDeadline _ _ | snapshotEntry _ =>
    exact hself
  | admission _ _ _ | removeEntry _ | commitRunning _ | commitTerminal _ _ _ _ _
  | markLost _ _ | promoteHold _ | takeReadGuard _ _ | dropReadGuard _ => cases h

/-! ## critical sections that advance an entry -/

/-- The entry is put back in its slot. -/
lemma frame_insert (hst : st.slots = w.state.slots.insert slot e') :
    w.Frame slot { w with state := st } := by
  refine ⟨fun s hs => ?_, fun _ _ => rfl, Grows.refl _⟩
  show st.slots[s]? = w.state.slots[s]?
  rw [hst, get_insert_of_ne _ _ (Ne.symm hs)]

lemma get_of_insert (hst : st.slots = w.state.slots.insert slot e') :
    ({ w with state := st } : World).state.slots[slot]? = some e' := by
  show st.slots[slot]? = some e'
  rw [hst, get_insert_self]

/-- The task may put back the entry of the slot. -/
def Held (note : Note) (slot : Nat) : Prop :=
  note.AtEntry slot ∨ note.Creates slot .persisted ∨ note.hold = .dispatch slot

lemma Held.slot_eq (h : Held note slot) : note.hold.slot = some slot := by
  rcases h with ⟨x, h⟩ | ⟨x, ch, h⟩ | h
  all_goals
    rw [h]
    rfl

lemma Held.entry (h : Held note slot) (hself : note.Holds strict i w) :
    ∃ e, w.state.slots[slot]? = some e := by
  have hknows := (hself.knows slot h.slot_eq).hold
  rcases h with ⟨x, h⟩ | ⟨x, ch, h⟩ | h
  all_goals
    rw [h] at hknows
    obtain ⟨e, he, -⟩ := hknows
    exact ⟨e, he⟩

/-- A create settles nothing before its entry is visible. -/
lemma Held.settled (h : Held note slot) (hself : note.Holds strict i w)
    (he : w.state.slots[slot]? = some e) (hstrict : strict) (hcreating : e.creating = true) :
    (w.dirs slot).settled = none := by
  have hknows := (hself.knows slot h.slot_eq).hold
  rcases h with ⟨x, h⟩ | ⟨x, ch, h⟩ | h
  all_goals rw [h, he] at hknows
  · obtain ⟨e', he', hvisible, -⟩ := hknows
    cases he'
    simp [SlotEntry.hidden, hcreating] at hvisible
  · obtain ⟨e', he', -, -, -, -, hsettled⟩ := hknows
    exact hsettled hstrict (by decide)
  · obtain ⟨e', he', hlive, -⟩ := hknows
    cases he'
    simp [hcreating] at hlive

lemma Held.effect (h : Held note slot) (hframe : w.Frame slot w')
    (hpublished : (w'.dirs slot).published = (w.dirs slot).published)
    (hadvance : ∀ e, w.state.slots[slot]? = some e →
      ∃ e', w'.state.slots[slot]? = some e' ∧ Advance (w.dirs slot).published e e') :
    Effect note op w w' := by
  rcases h with h | h | h
  · exact .entry slot h hframe hpublished hadvance
  · exact .sole slot (.creates _ h) hframe
  · exact .sole slot (.dispatch h) hframe

section

variable (hself : note.Holds strict i w) (hheld : Held note slot)
  (he : w.state.slots[slot]? = some e) (hadvance : Advance (w.dirs slot).published e e')
include hself hheld he hadvance

/-- A section that puts back the entry it found, further on. -/
lemma advance (hw : w.Ok strict) (hst : st.slots = w.state.slots.insert slot e')
    (haligned : note'.Aligned) (hslot : note'.hold.slot = some slot)
    (hknows : note'.Knows strict i w.channels (some e') (w.dirs slot)) :
    Preserved strict i note note' op w { w with state := st } := by
  have hframe := frame_insert hst
  have hget := get_of_insert hst
  refine ⟨hw.frame hframe ?_, Note.Holds.at slot haligned hslot ?_, hheld.effect hframe rfl ?_⟩
  · have hok := hw slot
    rw [he] at hok
    rw [hget]
    exact hok.advance hadvance fun hstrict hcreating =>
      .inr (hheld.settled hself he hstrict hcreating)
  · rw [hget]
    exact hknows
  · intro e₀ he₀
    cases he.symm.trans he₀
    exact ⟨e', hget, hadvance⟩

/-- A commit makes the entry visible and its record pending. -/
lemma knows_committed (hvisible : e'.hidden = false) (hhold : note'.hold = note.hold.committed)
    (hseen : note'.seen = note.seen) (hpending : note'.pending = some e'.record) :
    note'.Knows strict i w.channels (some e') (w.dirs slot) := by
  have hknows := hself.knows slot hheld.slot_eq
  refine ⟨?_, ?_, fun r hr _ => ?_⟩
  · have hwas := hknows.hold
    rcases hheld with ⟨x, h⟩ | ⟨x, ch, h⟩ | h
    all_goals
      rw [h, he] at hwas
      rw [hhold, h]
    · obtain ⟨e₀, he₀, -, hid⟩ := hwas
      cases he₀
      exact ⟨e', rfl, hvisible, fun y hy => hadvance.execId.trans (hid y hy)⟩
    · obtain ⟨e₀, he₀, -, hid, -⟩ := hwas
      cases he₀
      refine ⟨e', rfl, hvisible, fun y hy => ?_⟩
      cases hy
      exact hadvance.execId.trans hid
    · exact ⟨e', rfl, hvisible, nofun⟩
  · rw [hseen]
    exact hknows.seen
  · rw [hpending, Option.some.injEq] at hr
    exact ⟨e', rfl, hr⟩

end

lemma slot_committed (h : Held note slot) : note.hold.committed.slot = some slot := by
  rcases h with ⟨x, h⟩ | ⟨x, ch, h⟩ | h
  all_goals
    rw [h]
    rfl

/-- A section that commits. -/
lemma commit (hw : w.Ok strict) (hself : note.Holds strict i w) (hheld : Held note slot)
    (he : w.state.slots[slot]? = some e) (hadvance : Advance (w.dirs slot).published e e')
    (hst : st.slots = w.state.slots.insert slot e') (hvisible : e'.hidden = false) :
    Preserved strict i note
      { note with hold := note.hold.committed, pending := some e'.record } op w
      { w with state := st } :=
  advance hself hheld he hadvance hw hst
    (hself.aligned.withHold rfl rfl hself.aligned.hold.committed) (slot_committed hheld)
    (knows_committed hself hheld he hadvance hvisible rfl rfl rfl)

lemma setReleased_slots (st : RegistryState) (e : SlotEntry) :
    (st.setReleased slot e).slots = st.slots.insert slot { e with activeCounted := false } := by
  unfold setReleased
  split
  · rfl
  · next hcounted =>
      have hsame : { e with activeCounted := false } = e := by
        cases e
        simp_all
      rw [hsame]
      rfl

section

variable (hw : w.Ok strict) (hself : note.Holds strict i w)
include hw hself

lemma preserved_commitRunning
    (hallowed : note.AtEntry slot ∨ note.Creates slot .persisted) :
    Preserved strict i note
      (note.afterLock (.commitRunning slot) (w.state.commitRunning slot).1) op w
      { w with state := (w.state.commitRunning slot).2 } := by
  have hheld : Held note slot := hallowed.imp_right .inl
  obtain ⟨e, he⟩ := hheld.entry hself
  simp only [commitRunning, he]
  have hvisible : e.commitRunning.hidden = false := by
    simp [SlotEntry.commitRunning, SlotEntry.hidden]
  exact commit hw hself hheld he (advance_commitRunning _ e) rfl hvisible

lemma preserved_commitTerminal (hheld : Held note slot)
    (hseen : statusToTerminal note.seen = some (terminal, code, signal)) :
    Preserved strict i note
      (note.afterLock (.commitTerminal slot terminal code signal now)
        (w.state.commitTerminal slot terminal code signal now).1) op w
      { w with state := (w.state.commitTerminal slot terminal code signal now).2 } := by
  obtain ⟨e, he⟩ := hheld.entry hself
  simp only [commitTerminal, he]
  -- what was seen is what the runner published
  have hpublished := (hself.knows slot hheld.slot_eq).seen _ hseen
  have hadvance := advance_commitTerminal now e (hpublished ▸ hseen)
  have hvisible : ({ e.commitTerminal terminal code signal now with activeCounted := false } :
      SlotEntry).hidden = false := by
    simp [SlotEntry.commitTerminal, SlotEntry.hidden]
  exact (commit hw hself hheld he hadvance (setReleased_slots _ _) hvisible :)

lemma preserved_promoteHold
    (hallowed : note.hold = .dispatch slot) :
    Preserved strict i note (note.afterLock (.promoteHold slot) (w.state.promoteHold slot).1) op w
      { w with state := (w.state.promoteHold slot).2 } := by
  have hheld : Held note slot := .inr (.inr hallowed)
  have hknows := (hself.knows slot hheld.slot_eq).hold
  rw [hallowed] at hknows
  obtain ⟨e, he, hlive, hdispatch⟩ := hknows
  simp only [promoteHold, he, hdispatch, Bool.not_true, Bool.false_eq_true, if_false]
  have hvisible : e.promoteHold.hidden = false := by
    simp only [SlotEntry.promoteHold, SlotEntry.hidden]
    split <;> simp [hlive]
  exact commit hw hself hheld he (advance_promoteHold _ hlive) rfl hvisible

section

variable (hat : note.AtEntry slot)
include hat

lemma preserved_markLost :
    Preserved strict i note (note.afterLock (.markLost slot now) (w.state.markLost slot now).1) op w
      { w with state := (w.state.markLost slot now).2 } := by
  have hheld : Held note slot := .inl hat
  have hknows := hself.knows slot hheld.slot_eq
  obtain ⟨x, hhold⟩ := hat
  have hwas := hknows.hold
  rw [hhold] at hwas
  obtain ⟨e, he, hvisible, hid⟩ := hwas
  have haligned : ∀ pending, ({ note with pending } : Note).Aligned := fun _ =>
    hself.aligned.withHold rfl rfl hself.aligned.hold
  simp only [markLost, he]
  cases hdone : e.isTerminal with
  | true =>
    refine refl hw (Note.Holds.at slot (haligned none) hheld.slot_eq ?_)
    exact ⟨hknows.hold, hknows.seen, nofun⟩
  | false =>
    have hadvance : Advance (w.dirs slot).published e
        { e.markLost now with activeCounted := false } := advance_markLost hvisible hdone
    refine advance hself hheld he hadvance hw (setReleased_slots _ _) (haligned _) hheld.slot_eq ?_
    refine ⟨?_, hknows.seen, fun r hr _ => ⟨_, rfl, Option.some.inj hr⟩⟩
    show note.hold.Knows _ _ _ _ _
    rw [hhold]
    exact ⟨_, rfl, hadvance.visible hvisible, hid⟩

/-- A section that changes the read guards of a known entry. -/
lemma readGuards (he : w.state.slots[slot]? = some e)
    (hst : st.slots = w.state.slots.insert slot { e with readGuards := n }) :
    Preserved strict i note note op w { w with state := st } := by
  have hheld : Held note slot := .inl hat
  have hadvance := advance_readGuards (w.dirs slot).published e n
  have hknows := hself.knows slot hheld.slot_eq
  rw [he] at hknows
  exact advance hself hheld he hadvance hw hst hself.aligned hheld.slot_eq
    (hknows.advance hat hadvance rfl)

lemma preserved_takeReadGuard :
    Preserved strict i note note op w { w with state := (w.state.takeReadGuard slot x).2 } := by
  obtain ⟨e, he⟩ := Held.entry (.inl hat) hself
  simp only [takeReadGuard, he]
  exact readGuards hw hself hat he rfl

lemma preserved_dropReadGuard :
    Preserved strict i note note op w { w with state := w.state.dropReadGuard slot } := by
  obtain ⟨e, he⟩ := Held.entry (.inl hat) hself
  simp only [dropReadGuard, he]
  exact readGuards hw hself hat he rfl

end

end

/-! ## removals -/

lemma get_removeEntry (st : RegistryState) (s : Nat) :
    (st.removeEntry slot).slots[s]? = if slot = s then none else st.slots[s]? := by
  unfold removeEntry
  split
  · next hnone =>
      split
      · next heq => exact heq ▸ hnone
      · rfl
  · exact get_erase _ _ _

lemma preserved_removeEntry (hw : w.Ok strict) (hself : note.Holds strict i w)
    (hallowed : (∃ stage, note.Creates slot stage) ∨ note.hold = .dispatch slot) :
    Preserved strict i note (note.afterLock (.removeEntry slot) ()) op w
      { w with state := w.state.removeEntry slot } := by
  have hframe : w.Frame slot { w with state := w.state.removeEntry slot } := by
    refine ⟨fun s hs => ?_, fun _ _ => rfl, Grows.refl _⟩
    simp [get_removeEntry, Ne.symm hs]
  have hsole : note.Sole op w slot := by
    rcases hallowed with ⟨stage, h⟩ | h
    · exact .creates stage h
    · exact .dispatch h
  refine ⟨hw.frame hframe ?_, Note.Holds.idle hself.aligned rfl rfl (.inl rfl),
    .sole slot hsole hframe⟩
  simp only [get_removeEntry, if_true]
  exact (hw slot).vacant _

/-- A removal of files leaves some of them, or none. -/
structure Thinned (dir dir' : SlotDir) : Prop where
  record : dir'.record = none ∨ dir'.record = dir.record
  status : dir'.status = none ∨ dir'.status = dir.status
  settled : dir'.settled = none ∨ dir'.settled = dir.settled
  published : dir'.published = dir.published

lemma thinned_keep (dir : SlotDir) (kept : SlotFile → Bool) : Thinned dir (dir.keep kept) := by
  refine ⟨?_, ?_, ?_, rfl⟩
  all_goals
    simp only [SlotDir.keep]
    split <;> simp

lemma thinned_gone (dir : SlotDir) : Thinned dir dir.gone := ⟨.inl rfl, .inl rfl, .inl rfl, rfl⟩

lemma thinned_partlyScrubbed (dir : SlotDir) (kept : SlotFile → Bool) :
    Thinned dir (dir.partlyScrubbed kept) := by
  refine ⟨.inr rfl, ?_, .inl rfl, rfl⟩
  simp only [SlotDir.partlyScrubbed]
  split <;> simp

lemma delete_thinned (dirs : Dirs) (slot : Nat) (removal : Removal) :
    ∃ dir, (dirs.delete slot removal).2 = update dirs slot dir ∧ Thinned (dirs slot) dir := by
  cases removal with
  | ok => exact ⟨_, rfl, thinned_gone _⟩
  | fails error left =>
    cases left with
    | none => exact ⟨_, rfl, thinned_gone _⟩
    | some kept => exact ⟨_, rfl, thinned_keep _ kept⟩

lemma slotOk_thinned (h : SlotOk strict channels entry dir) (hdir : Thinned dir dir') :
    SlotOk strict channels entry dir' := by
  refine ⟨?_, h.hidden, ?_, fun hstrict r hr => ?_, h.channel⟩
  · rw [hdir.published]
    rcases hdir.status with hnone | hsame
    · exact .inl hnone
    · rw [hsame]
      exact h.status
  · rw [hdir.published]
    exact h.terminal
  · rw [hdir.published]
    rcases hdir.settled with hnone | hsame
    · simp [hnone] at hr
    · exact h.settled hstrict r (hsame.symm.trans hr)

lemma knows_thinned (h : note.Knows strict i channels entry dir) (hdir : Thinned dir dir') :
    note.Knows strict i channels entry dir' := by
  have hsettled : ∀ r, dir'.settled = some r → dir.settled = some r := by
    intro r hr
    rcases hdir.settled with hnone | hsame
    · simp [hnone] at hr
    · exact hsame.symm.trans hr
  refine ⟨?_, ?_, h.pending⟩
  · have hwas := h.hold
    cases hhold : note.hold with
    | fresh x slot ch stage =>
      rw [hhold] at hwas
      obtain ⟨e, he, hcreating, hid, hch, howner, hnone⟩ := hwas
      refine ⟨e, he, hcreating, hid, hch, howner, fun hstrict hstage => ?_⟩
      rcases hdir.settled with hgone | hsame
      · exact hgone
      · exact hsame.trans (hnone hstrict hstage)
    | dir slot record status =>
      rw [hhold] at hwas
      refine ⟨fun r hr => ?_, fun st hst => ⟨fun t ht => ?_, fun hstrict r hr => ?_⟩⟩
      · rcases hdir.record with hgone | hsame
        · simp [hgone] at hr
        · exact hwas.1 r (hsame.symm.trans hr)
      · rw [hdir.published]
        exact (hwas.2 st hst).1 t ht
      · exact (hwas.2 st hst).2 hstrict r (hsettled r hr)
    | none | sweep _ | entry _ _ | dispatch _ | waiting _ _ =>
      rw [hhold] at hwas
      exact hwas
  · rw [hdir.published]
    exact h.seen

/-- Only the directory of the slot changes. -/
lemma frame_update (w : World) (slot : Nat) (dir : SlotDir) :
    w.Frame slot { w with dirs := update w.dirs slot dir } :=
  ⟨fun _ _ => rfl, fun _ hs => update_of_ne hs _ _, Grows.refl _⟩

section

variable (hw : w.Ok strict) (hself : note.Holds strict i w)
include hw hself

/-- A removal of files by a task that has the slot for itself. -/
lemma thin (hsole : note.Sole op w slot) (hdir : Thinned (w.dirs slot) dir) :
    Preserved strict i note note op w { w with dirs := update w.dirs slot dir } := by
  have hframe := frame_update w slot dir
  refine ⟨hw.frame hframe ?_, hself.frame hframe fun hslot => ?_, .sole slot hsole hframe⟩
  · simp only [update_self]
    exact slotOk_thinned (hw slot) hdir
  · simp only [update_self]
    exact knows_thinned (hself.knows slot hslot) hdir

lemma preserved_delete (hsole : note.Sole op w slot) :
    Preserved strict i note note op w { w with dirs := (w.dirs.delete slot removal).2 } := by
  obtain ⟨dir, hdirs, hthin⟩ := delete_thinned w.dirs slot removal
  rw [hdirs]
  exact thin hw hself hsole hthin

lemma preserved_collect :
    Preserved strict i note { note with hold := .none } (.collect slot) w
      (w.collect slot removal) := by
  have hidle : ∀ {w : World}, ({ note with hold := .none } : Note).Holds strict i w :=
    Note.Holds.idle hself.aligned rfl rfl (.inl rfl)
  unfold World.collect
  split
  · exact refl hw hidle
  · next e he =>
      split
      · exact refl hw hidle
      · next hguards =>
        have hsole : note.Sole (.collect slot) w slot := by
          refine .collects rfl ?_
          simp only [World.Unguarded, he, any_some, beq_iff_eq]
          omega
        have hdelete : Preserved strict i note note (.collect slot) w
            { w with dirs := (w.dirs.delete slot removal).2 } := preserved_delete hw hself hsole
        obtain ⟨dir, hdirs, hthin⟩ := delete_thinned w.dirs slot removal
        split
        · next dirs hresult =>
            rw [hresult] at hdirs
            subst hdirs
            have hframe : w.Frame slot
                { w with
                  state := (w.state.removeEntry slot).pushTombstone e.record.execId
                  dirs := update w.dirs slot dir } := by
              refine ⟨fun s hs => ?_, fun s hs => update_of_ne hs _ _, Grows.refl _⟩
              show (w.state.removeEntry slot).slots[s]? = _
              simp [get_removeEntry, Ne.symm hs]
            refine ⟨hw.frame hframe ?_, hidle, .sole slot hsole hframe⟩
            have hvacant : ((w.state.removeEntry slot).pushTombstone e.record.execId).slots[slot]?
                = none := by
              show (w.state.removeEntry slot).slots[slot]? = none
              simp [get_removeEntry]
            simp only [hvacant, update_self]
            exact (slotOk_thinned (hw slot) hthin).vacant _
        · next dirs hresult =>
            rw [hresult] at hdelete
            exact ⟨hdelete.ok, hidle, hdelete.effect⟩

end

/-! ## admission -/

/-- The entry of a create that was just let in. -/
structure Reserved (x : String) (channel : Nat) (e : SlotEntry) : Prop where
  execId : e.record.execId = x
  state : e.record.state = .dispatching
  creating : e.creating = true
  resolution : e.createResolution = some channel

/-- What the first critical section of a create can come to. -/
inductive Admitted (st : RegistryState) (x : String) (channel : Nat) :
    Except ExecError CreateAdmission × RegistryState → Prop where
  | error (e : ExecError) : Admitted st x channel (.error e, st)
  | visible : Admitted st x channel (.ok .replayVisible, st)
  | creating (slot : Nat) (e : SlotEntry) (receiver : Nat) (he : st.slots[slot]? = some e)
      (hid : e.record.execId = x) (hch : e.createResolution = some receiver) :
      Admitted st x channel (.ok (.replayCreating receiver), st)
  | reserved (slot : Nat) (e : SlotEntry) (st' : RegistryState)
      (hfree : st.freeSlot = some slot) (he : Reserved x channel e)
      (hst : st'.slots = st.slots.insert slot e) :
      Admitted st x channel (.ok (.reserved slot channel), st')

lemma reserveCreate_admitted (st : RegistryState) (req : CreateRequest) (x : String)
    (now channel : Nat) : Admitted st x channel (st.reserveCreate reg req x now channel) := by
  unfold reserveCreate
  split
  · exact .error _
  · split
    · exact .error _
    · next slot hfree =>
        dsimp only
        split
        · exact .error _
        · exact .reserved slot _ _ hfree ⟨rfl, rfl, rfl, rfl⟩ rfl

lemma admission_admitted (st : RegistryState) (req : CreateRequest) (x : String)
    (now channel : Nat) : Admitted st x channel (st.admission reg req x now channel) := by
  unfold admission
  split
  · exact reserveCreate_admitted st req x now channel
  · split
    · exact .error _
    · split
      · exact reserveCreate_admitted st req x now channel
      · next existing hexisting =>
          obtain ⟨slot, hfind, he⟩ := Option.bind_eq_some_iff.mp hexisting
          obtain ⟨e, he', hid⟩ := findAnyById_some hfind
          cases he.symm.trans he'
          split
          · exact .error _
          · split
            · split
              · exact .error _
              · next receiver hch => exact .creating slot existing receiver he hid hch
            · split
              · exact .error _
              · exact .visible

/-- A new channel. -/
lemma grows_append (channels : List Channel) (c : Channel) :
    Grows channels (channels ++ [c]) := by
  intro ch c' hc'
  have hlt := (List.getElem?_eq_some_iff.mp hc').1
  exact ⟨c', by rw [getElem?_append_left hlt, hc'], rfl, rfl⟩

section

variable (hw : w.Ok strict) (hself : note.Holds strict i w)
include hw hself

lemma preserved_reserved (hidle : note.Idle) (htarget : note.target = some x)
    (hfree : w.state.freeSlot = some slot) (he : Reserved x w.channels.length e)
    (hst : st.slots = w.state.slots.insert slot e) :
    Preserved strict i note { note with hold := .fresh x slot w.channels.length .reserved } op w
      { w with state := st, channels := w.channels ++ [⟨i, x, none⟩] } := by
  have hnone := freeSlot_some hfree
  have hget : st.slots[slot]? = some e := by rw [hst, get_insert_self]
  have hchannel : (w.channels ++ [(⟨i, x, none⟩ : Channel)])[w.channels.length]? =
      some ⟨i, x, none⟩ := by simp
  have hframe : w.Frame slot
      { w with state := st, channels := w.channels ++ [⟨i, x, none⟩] } := by
    refine ⟨fun s hs => ?_, fun _ _ => rfl, grows_append _ _⟩
    show st.slots[s]? = w.state.slots[s]?
    rw [hst, get_insert_of_ne _ _ (Ne.symm hs)]
  have hslot : SlotOk strict (w.channels ++ [⟨i, x, none⟩]) (some e) (w.dirs slot) := by
    have hwas := hw slot
    refine ⟨hwas.status, fun e' he' _ => ?_, fun e' he' hdone => ?_, fun hstrict r hr => ?_,
      fun e' ch he' hch => ?_⟩
    · cases he'
      exact he.state
    · cases he'
      simp [SlotEntry.isTerminal, he.state, RecordState.isTerminal] at hdone
    · refine ⟨(hwas.settled hstrict r hr).1, fun e' he' hlive => ?_⟩
      cases he'
      simp [he.creating] at hlive
    · cases he'
      cases he.resolution.symm.trans hch
      exact ⟨_, hchannel, he.execId.symm⟩
  refine ⟨hw.frame hframe (hget.symm ▸ hslot), ?_, .sole slot (.free hnone) hframe⟩
  refine Note.Holds.at slot (hself.aligned.withHold rfl rfl htarget) rfl ⟨?_, ?_, ?_⟩
  · exact ⟨e, hget, he.creating, he.execId, he.resolution, ⟨_, hchannel, rfl⟩,
      fun _ hstage => absurd rfl hstage⟩
  · simp [hidle.seen, statusToTerminal]
  · simp [hidle.pending]

lemma preserved_admission (hallowed : note.Idle ∧ note.target = some x) :
    let result := w.state.admission reg req x now w.channels.length
    Preserved strict i note (note.afterLock (.admission req x now) result.1) op w
      { w with
        state := result.2
        channels := w.channels ++ Section.opened i (.admission req x now) result.1 } := by
  intro result
  have hcases : Admitted w.state x w.channels.length result :=
    admission_admitted w.state req x now w.channels.length
  obtain ⟨ans, st⟩ := result
  cases hcases with
  | error _ | visible =>
    simp only [Section.opened, append_nil]
    exact refl hw hself
  | creating slot e receiver he hid hch =>
    simp only [Section.opened, append_nil]
    refine refl hw ⟨hself.aligned.withHold rfl rfl hallowed.2, nofun, fun y ch hwait => ?_⟩
    cases hwait
    obtain ⟨c, hc, hcid⟩ := (hw slot).channel e receiver he hch
    exact ⟨c, hc, hcid.trans hid⟩
  | reserved slot e st' hfree he hst =>
    exact preserved_reserved hw hself hallowed.1 hallowed.2 hfree he hst

/-- Every critical section. -/
lemma preserved_lock (hallowed : sec.Allowed note) :
    let result := sec.run reg w.channels.length w.state
    Preserved strict i note (note.afterLock sec result.1) op w
      { w with state := result.2, channels := w.channels ++ sec.opened i result.1 } := by
  intro result
  by_cases hreads : readsOnly sec = true
  · have hstate : result.2 = w.state := run_readsOnly hreads _ _
    rw [opened_readsOnly hreads, append_nil, hstate]
    exact refl hw (holds_readsOnly hw hself hallowed hreads _)
  · cases sec
    case admission => exact preserved_admission hw hself hallowed
    case entryRecord | resolveSlot | visibleSlots | visibleEntries | peek | isTerminal
    | withinDeadline | pastDeadline | slotKeys | survey | overBudgetVictim | snapshotEntry =>
      exact absurd rfl hreads
    all_goals simp only [Section.opened, append_nil]
    case removeEntry => exact preserved_removeEntry hw hself hallowed
    case commitRunning => exact preserved_commitRunning hw hself hallowed
    case commitTerminal => exact preserved_commitTerminal hw hself hallowed.1 hallowed.2
    case markLost => exact preserved_markLost hw hself hallowed
    case promoteHold => exact preserved_promoteHold hw hself hallowed
    case takeReadGuard => exact preserved_takeReadGuard hw hself hallowed
    case dropReadGuard => exact preserved_dropReadGuard hw hself hallowed

end

end Preserved

end D2b.Guestd

import D2b.Clipd.EventLoop.Moves

/-!
# D2b.Clipd.EventLoop.PickedFor

For whom a selection was picked.

A selection that was picked is published for the whole session, and the next paste
of any endpoint takes it.  While a picked selection is out, pastes must come from the
endpoint for whose paste the last picker was opened; then what an endpoint is given
was picked for it.
-/

namespace D2b.Clipd

open List

variable {htmlToText : Bytes → Option String} {w w' : World} {event : Event}
  {log : List LogEntry} {identity : ClipboardEndpointIdentity}

/-! ## the last picker -/

/-- The endpoint for which the last picker was opened. -/
def lastOpened (log : List LogEntry) : Option (Option ClipboardEndpointIdentity) :=
  log.reverse.findSome? fun
    | .opened _ endpoint => some endpoint
    | _ => none

@[simp] lemma lastOpened_opened (request : OpenRequest)
    (endpoint : Option ClipboardEndpointIdentity) :
    lastOpened (log ++ [.opened request endpoint]) = some endpoint := by
  simp [lastOpened]

@[simp] lemma lastOpened_selected :
    lastOpened (log ++ [.selected picker requestId entryId data]) = lastOpened log := by
  simp [lastOpened]

@[simp] lemma lastOpened_served :
    lastOpened (log ++ [.served identity mimeType bytes]) = lastOpened log := by
  simp [lastOpened]

@[simp] lemma lastOpened_sent : lastOpened (log ++ [.sent mimeType bytes]) = lastOpened log := by
  simp [lastOpened]

/-! ## picked selections -/

/-- The user selected an entry with these data in a picker that was opened for a paste of
this endpoint. -/
def PickedFor (log : List LogEntry) (identity : ClipboardEndpointIdentity) (data : MimeData) :
    Prop :=
  ∃ picker requestId entryId, .selected picker requestId entryId data ∈ log ∧
    picker.endpoint = some identity

lemma PickedFor.append (h : PickedFor log identity data) (entry : LogEntry) :
    PickedFor (log ++ [entry]) identity data := by
  obtain ⟨picker, requestId, entryId, hmem, hendpoint⟩ := h
  exact ⟨picker, requestId, entryId, mem_append_left _ hmem, hendpoint⟩

/-- Everything that was written to a paste of an endpoint was picked for it before. -/
def ServedAsPicked (htmlToText : Bytes → Option String) (log : List LogEntry) : Prop :=
  ∀ before identity mimeType bytes after,
    log = before ++ .served identity mimeType bytes :: after →
    ∃ data, PickedFor before identity data ∧
      compatibleMimePayload htmlToText data mimeType = some bytes

lemma ServedAsPicked.append (h : ServedAsPicked htmlToText log)
    (hentry : ∀ identity mimeType bytes, entry = .served identity mimeType bytes →
      ∃ data, PickedFor log identity data ∧
        compatibleMimePayload htmlToText data mimeType = some bytes) :
    ServedAsPicked htmlToText (log ++ [entry]) := by
  intro before identity mimeType bytes after hlog
  rcases Trace.snoc_eq_append_cons hlog with ⟨rfl, hsame, -⟩ | ⟨after', rfl, hlog'⟩
  · exact hentry identity mimeType bytes hsame.symm
  · exact h before identity mimeType bytes after' hlog'

/-- While a picked selection is out, a paste comes from the endpoint of the last picker. -/
def World.Expected (w : World) : Event → Prop
  | .pasteRequest identity .. => ∀ selection ∈ w.publishedSelection, selection.mode = .selected →
      lastOpened w.log = some (some identity)
  | _ => True

instance (w : World) : (event : Event) → Decidable (w.Expected event)
  | .pasteRequest .. =>
    inferInstanceAs (Decidable (∀ selection ∈ w.publishedSelection, _ = _ → _ = _))
  | .selectionChanged .. | .selectionCleared | .sourceSend .. | .sourceCancelled _
  | .copySelection .. | .readDone .. | .select .. | .pickerEnds | .arm .. => .isTrue trivial

structure World.Picks (htmlToText : Bytes → Option String) (w : World) : Prop where
  picker : ∀ picker, w.picker = some picker → lastOpened w.log = some picker.endpoint
  published : ∀ selection identity, w.publishedSelection = some selection →
    selection.mode = .selected → lastOpened w.log = some (some identity) →
    PickedFor w.log identity selection.dataByMime
  served : ServedAsPicked htmlToText w.log

/-- A step that neither logs, opens a picker nor publishes a picked selection. -/
lemma World.Picks.mono (h : w.Picks htmlToText) (hlog : w'.log = w.log)
    (hpicker : ∀ picker, w'.picker = some picker → w.picker = some picker)
    (hpublished : ∀ selection, w'.publishedSelection = some selection →
      selection.mode = .selected → w.publishedSelection = some selection) :
    w'.Picks htmlToText := by
  refine ⟨?_, ?_, ?_⟩
  · intro picker hp
    rw [hlog]
    exact h.picker picker (hpicker picker hp)
  · intro selection identity hselection hmode
    rw [hlog]
    exact h.published selection identity (hpublished selection hselection hmode) hmode
  · rw [hlog]
    exact h.served

/-- A picker opens: for the host, or for an endpoint while no picked selection is out. -/
lemma World.Picks.openPicker (h : w.Picks htmlToText) (launch : Launch)
    (endpoint : Option ClipboardEndpointIdentity) (request : OpenRequest)
    (hnone : endpoint ≠ none → ∀ selection, w.publishedSelection = some selection →
      selection.mode ≠ .selected) :
    (w.openPicker launch endpoint request).Picks htmlToText := by
  have hpublished : ∀ selection identity, w.publishedSelection = some selection →
      selection.mode = .selected →
      lastOpened (w.log ++ [.opened request endpoint]) = some (some identity) →
      PickedFor (w.log ++ [.opened request endpoint]) identity selection.dataByMime := by
    intro selection identity hselection hmode hlast
    rw [lastOpened_opened, Option.some.injEq] at hlast
    exact absurd hmode (hnone (by simp [hlast]) selection hselection)
  unfold World.openPicker
  by_cases hactive : w.picker.isSome = true
  · rw [if_pos hactive]
    exact h
  · rw [if_neg hactive]
    have hidle : w.picker = none := by simpa using hactive
    cases launch with
    | failed => exact h
    | aborted =>
      refine ⟨?_, hpublished, h.served.append (by simp)⟩
      intro picker hpicker
      simp [hidle] at hpicker
    | opened =>
      refine ⟨?_, hpublished, h.served.append (by simp)⟩
      intro picker hpicker
      cases hpicker
      exact lastOpened_opened request endpoint

lemma World.Picks.step (h : w.Picks htmlToText) (hexpected : w.Expected event)
    (hmove : Moves htmlToText w event w') : w'.Picks htmlToText := by
  cases hmove with
  | same event => exact h
  | unseen _ | copied _ | readFailed _ _ | hostRead _ _ =>
    exact h.mono rfl (fun _ => id) (fun _ hs _ => hs)
  | hostSelection _ _ _ | lost _ _ => exact h.mono rfl (fun _ => id) (by simp)
  | @sent sourceId mimeType window permit launch now bytes =>
    refine ⟨?_, ?_, h.served.append (by simp)⟩
    · intro picker hpicker
      rw [lastOpened_sent]
      exact h.picker picker hpicker
    · intro selection identity hselection hmode hlast
      rw [lastOpened_sent] at hlast
      exact (h.published selection identity hselection hmode hlast).append _
  | sourceCancelled sourceId =>
    refine h.mono rfl (fun _ => id) ?_
    intro selection hselection hmode
    simp only [World.sourceCancelled] at hselection
    split at hselection
    · cases hselection
    · exact hselection
  | openedHost event hlist => exact h.openPicker _ _ _ (by simp)
  | openedPaste hbase hlist =>
    subst hbase
    have hwithout : (w.withoutPicked).Picks htmlToText := by
      refine h.mono rfl (fun _ => id) ?_
      intro selection hselection hmode
      exact (Option.filter_eq_some_iff.mp hselection).1
    refine hwithout.openPicker _ _ _ ?_
    intro _ selection hselection
    have hfilter := (Option.filter_eq_some_iff.mp hselection).2
    simpa using hfilter
  | @served selection mimeType bytes identity window launch now hpublished hmode hbytes =>
    have hlast := hexpected selection hpublished hmode
    refine ⟨?_, by simp, h.served.append ?_⟩
    · intro picker hpicker
      rw [lastOpened_served]
      exact h.picker picker hpicker
    · intro identity' mimeType' bytes' hsame
      cases hsame
      exact ⟨selection.dataByMime, h.published selection identity hpublished hmode hlast, hbytes⟩
  | @bridgeRead identity mimeType sourceId bytes publication now index results hread hbytes =>
    have hcopies := copies_bridgeCopyReady { w with reads := w.reads.eraseIdx index } identity
      mimeType sourceId bytes publication now
    refine h.mono hcopies.log (fun picker hpicker => hcopies.picker ▸ hpicker) ?_
    intro selection hselection hmode
    have hpublished := hcopies.published
    cases publication with
    | refused =>
      simp only at hpublished
      rw [← hselection, hpublished]
    | flushFails =>
      simp only at hpublished
      rw [hpublished] at hselection
      cases hselection
    | done =>
      obtain ⟨published, hsome, hdiscovery, -⟩ := hpublished
      rw [hsome] at hselection
      cases hselection
      rw [hdiscovery] at hmode
      cases hmode
  | selectFailed hpicker hpublished =>
    refine h.mono rfl (by simp) ?_
    intro selection hselection _
    rcases hpublished with rfl | rfl
    · exact hselection
    · cases hselection
  | @selected picker entryId data requestId publication sourceSeq published hpicker hdata
      hpublished hmode =>
      refine ⟨by simp, ?_, h.served.append (by simp)⟩
      intro selection identity hselection _ hlast
      cases hselection
      rw [lastOpened_selected, h.picker picker hpicker] at hlast
      exact ⟨picker, requestId, entryId, by simp [hpublished], Option.some.inj hlast⟩
  | pickerEnds event => exact h.mono rfl (by simp) (fun _ hs _ => hs)

/-! ## pastes -/

theorem pastes_picked_for_endpoint {events : List Event}
    (h : Trace.Run (· = World.init) (fun _ w event w' => w.Expected event ∧
      w.step htmlToText event = some w') events w) : ServedAsPicked htmlToText w.log := by
  have hinv : w.Picks htmlToText := by
    refine h.preserves ?_ ?_
    · exact ⟨by simp [World.init], by simp [World.init], by simp [World.init, ServedAsPicked]⟩
    · intro _ s e s' ih hstep
      exact ih.step hstep.1 (moves_of_step hstep.2)
  exact hinv.served

/-! ## a paste of another endpoint -/

open Sample

/-- One VM copies, and the user picks the copy for a paste of another. -/
def pickedForPersonal : List Event :=
  [.copySelection work "text/plain" 1 true, .readDone 0 [some [104, 105]] .done 1,
    .pasteRequest personal "text/plain" none true true .opened 2,
    .select "paste-2" (bridgeHistoryEntryId work 1) .done]

def servedTo (log : List LogEntry) : List ClipboardEndpointIdentity :=
  log.filterMap fun
    | .served identity _ _ => some identity
    | _ => none

def pickedFor (log : List LogEntry) : List (Option ClipboardEndpointIdentity) :=
  log.filterMap fun
    | .selected picker _ _ _ => some picker.endpoint
    | _ => none

theorem pastes_picked_for_personal :
    ∃ w events, Trace.Run (· = World.init) (fun _ w event w' => w.Expected event ∧
        w.step (fun _ => none) event = some w') events w ∧
      servedTo w.log = [personal] ∧ ServedAsPicked (fun _ => none) w.log := by
  obtain ⟨w, hrun, hserved⟩ := Trace.Run.exists_of_guarded (f := World.step fun _ => none)
    (c := World.Expected) (P := fun w => servedTo w.log = [personal]) World.init
    (pickedForPersonal ++ [Event.pasteRequest personal "text/plain" none true true .opened 3])
  exact ⟨w, _, hrun, hserved, pastes_picked_for_endpoint hrun⟩

/-- The selection picked for one VM is given to another that pastes first. -/
theorem picked_selection_served_to_other :
    ∃ w events, Trace.Run (· = World.init) (fun _ w event w' =>
        w.step (fun _ => none) event = some w') events w ∧
      pickedFor w.log = [some personal] ∧ servedTo w.log = [untrusted] ∧
      ¬ ServedAsPicked (fun _ => none) w.log := by
  obtain ⟨w, hrun, hpicked, hserved⟩ := Trace.Run.exists_of_foldlM (f := World.step fun _ => none)
    (P := fun w => pickedFor w.log = [some personal] ∧ servedTo w.log = [untrusted]) World.init
    (pickedForPersonal ++ [Event.pasteRequest untrusted "text/plain" none true true .opened 3])
  refine ⟨w, _, hrun, hpicked, hserved, ?_⟩
  intro hall
  have hmem : untrusted ∈ servedTo w.log := by simp [hserved]
  obtain ⟨entry, hentry, hsome⟩ := mem_filterMap.mp hmem
  cases entry with
  | served identity mimeType bytes =>
    cases hsome
    obtain ⟨before, after, hlog⟩ := append_of_mem hentry
    obtain ⟨data, ⟨picker, requestId, entryId, hselected, hendpoint⟩, -⟩ :=
      hall before _ mimeType bytes after hlog
    have hin : some untrusted ∈ pickedFor w.log := by
      rw [hlog]
      exact mem_filterMap.mpr ⟨_, mem_append_left _ hselected, by simp [hendpoint]⟩
    rw [hpicked] at hin
    revert hin
    decide +kernel
  | opened _ _ | selected _ _ _ _ | sent _ _ => cases hsome

end D2b.Clipd

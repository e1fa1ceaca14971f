import D2b.Clipd.EventLoop.Moves

/-!
# D2b.Clipd.EventLoop.Secrets

Whether a picker is shown a secret.

That a selection was offered with a password-manager hint is recorded with the
selection and read by nothing: its data go to the history and to the current entry as
any others do, and each list shows the start of a payload that is text.  Only a
hinted selection of which nothing textual is read is never previewed.
-/

namespace D2b.Clipd

open List

variable {htmlToText : Bytes → Option String} {w w' : World} {event : Event}

/-- No payload can be shown as text. -/
def NotText (data : MimeData) : Prop :=
  data["text/html"]? = none ∧ ∀ payload ∈ data.toList, textOf payload.2 = none

instance (data : MimeData) : Decidable (NotText data) := inferInstanceAs (Decidable (_ ∧ _))

lemma NotText.preview (h : NotText data)
    (hbytes : compatibleMimePayload htmlToText data mimeType = some bytes) :
    previewOf bytes = none := by
  have hstored : ∀ {mime : String}, data[mime]? = some bytes → previewOf bytes = none := by
    intro mime hmime
    have htext := h.2 (mime, bytes) (BTreeMap.mem_toList.mpr hmime)
    simp only at htext
    simp [previewOf, htext]
  unfold compatibleMimePayload at hbytes
  split at hbytes
  · next found hfound =>
    cases hbytes
    exact hstored hfound
  · split at hbytes
    · cases hbytes
    · split at hbytes
      · next found hfound =>
        cases hbytes
        rcases Option.or_eq_some_iff.mp hfound with hfound | ⟨-, hfound⟩
        · exact hstored hfound
        · exact hstored hfound
      · simp [h.1] at hbytes

/-- No candidate of a hinted selection has a preview. -/
def NotPreviewed (log : List LogEntry) : Prop :=
  ∀ request endpoint, .opened request endpoint ∈ log →
    ∀ candidate ∈ request.candidates, candidate.hinted = true → candidate.previewText = none

lemma NotPreviewed.append (h : NotPreviewed log)
    (hentry : ∀ request endpoint, entry = .opened request endpoint →
      ∀ candidate ∈ request.candidates, candidate.hinted = true → candidate.previewText = none) :
    NotPreviewed (log ++ [entry]) := by
  intro request endpoint hmem
  rcases Trace.mem_snoc.mp hmem with hmem | hlast
  · exact h request endpoint hmem
  · exact hentry request endpoint hlast.symm

/-- What is read of a hinted selection is not text. -/
def World.ReadsNoSecret (w : World) : Event → Prop
  | .readDone index results _ _ => ∀ read ∈ w.reads[index]?,
      match read with
      | .bridge .. => True
      | .host entry mimes => entry.hinted = true → NotText (World.readData mimes results)
  | _ => True

structure World.Masked (w : World) : Prop where
  history : ∀ entry ∈ w.history.entries, entry.hinted = true → NotText entry.dataByMime
  host : ∀ entry, w.currentHostEntry = some entry → entry.hinted = true → NotText entry.dataByMime
  discovery : ∀ published, w.publishedSelection = some published → published.mode = .discovery →
    published.hinted = false
  log : NotPreviewed w.log

lemma World.Masked.shows (h : w.Masked) (hshows : Shows htmlToText w candidate)
    (hhinted : candidate.hinted = true) : candidate.previewText = none := by
  cases hshows with
  | entry hentry hbytes => exact (h.history _ hentry hhinted).preview hbytes
  | currentHost hentry hbytes => exact (h.host _ hentry hhinted).preview hbytes
  | liveHost hid hpreview => exact hpreview
  | bridge hid hmark =>
    obtain ⟨published, hpublished, hmode, hinted⟩ := hmark hhinted
    rw [h.discovery published hpublished hmode] at hinted
    cases hinted

/-- A step that keeps or drops what candidates are made of. -/
lemma World.Masked.mono (h : w.Masked) (hhistory : w'.history = w.history)
    (hhost : ∀ entry, w'.currentHostEntry = some entry → w.currentHostEntry = some entry)
    (hpublished : ∀ published, w'.publishedSelection = some published →
      published.mode = .discovery → w.publishedSelection = some published)
    (hlog : NotPreviewed w'.log) : w'.Masked := by
  refine ⟨?_, ?_, ?_, hlog⟩
  · rw [hhistory]
    exact h.history
  · intro entry hentry
    exact h.host entry (hhost entry hentry)
  · intro published hsome hmode
    exact h.discovery published (hpublished published hsome hmode) hmode

lemma World.Masked.openPicker (h : w.Masked) (launch : Launch)
    (endpoint : Option ClipboardEndpointIdentity)
    (hshows : ∀ candidate ∈ request.candidates, Shows htmlToText w candidate) :
    (w.openPicker launch endpoint request).Masked := by
  have hlog : NotPreviewed (w.log ++ [.opened request endpoint]) := by
    refine h.log.append ?_
    intro request' endpoint' hsame candidate hmem hhinted
    cases hsame
    exact h.shows (hshows candidate hmem) hhinted
  unfold World.openPicker
  by_cases hactive : w.picker.isSome = true
  · rw [if_pos hactive]
    exact h
  · rw [if_neg hactive]
    cases launch with
    | failed => exact h
    | aborted | opened => exact h.mono rfl (fun _ => id) (fun _ hp _ => hp) hlog

lemma mem_push_data {history : ClipboardHistory} (h : found ∈ (history.push entry).entries) :
    found ∈ history.entries ∨
      found.dataByMime = entry.dataByMime ∧ found.hinted = entry.hinted := by
  unfold ClipboardHistory.push at h
  split at h
  · exact .inl h
  · rcases mem_cons.mp (mem_of_mem_take h) with rfl | h
    · exact .inr ⟨rfl, rfl⟩
    · exact .inl h

lemma mem_upsert_data {history : ClipboardHistory} (h : found ∈ (history.upsert entry).entries) :
    found ∈ history.entries ∨
      found.dataByMime = entry.dataByMime ∧ found.hinted = entry.hinted := by
  unfold ClipboardHistory.upsert at h
  split at h
  · exact .inl h
  · split at h
    · exact mem_push_data h
    · rcases mem_cons.mp (mem_of_mem_take h) with rfl | h
      · exact .inr ⟨rfl, rfl⟩
      · exact .inl (mem_of_mem_eraseP h)

lemma World.Masked.bridgeRead (h : w.Masked) {identity : ClipboardEndpointIdentity} :
    (w.bridgeCopyReady identity mimeType sourceId bytes publication now).Masked := by
  have hcopies := copies_bridgeCopyReady w identity mimeType sourceId bytes publication now
  refine ⟨?_, ?_, ?_, by rw [hcopies.log]; exact h.log⟩
  · intro entry hentry hhinted
    rw [hcopies.history] at hentry
    rcases mem_upsert_data hentry with hentry | ⟨-, hmark⟩
    · exact h.history entry hentry hhinted
    · rw [hhinted] at hmark
      cases hmark
  · intro entry hentry
    rw [hcopies.currentHostEntry] at hentry
    cases hentry
  · intro published hpublished hmode
    have hsettled := hcopies.published
    cases publication with
    | refused => exact h.discovery published (hsettled.symm.trans hpublished) hmode
    | flushFails => cases hsettled.symm.trans hpublished
    | done =>
      obtain ⟨new, hnew, -, -, hmark⟩ := hsettled
      cases hnew.symm.trans hpublished
      exact hmark

lemma World.Masked.hostRead (h : w.Masked) {entry : ClipboardHistoryEntry}
    (hsecret : entry.hinted = true → NotText entry.dataByMime) :
    (w.hostEntryReady entry).Masked := by
  refine ⟨?_, ?_, h.discovery, h.log⟩
  · intro found hfound hhinted
    rcases mem_push_data hfound with hfound | ⟨hdata, hmark⟩
    · exact h.history found hfound hhinted
    · rw [hdata]
      exact hsecret (hmark ▸ hhinted)
  · intro found hfound hhinted
    simp only [World.hostEntryReady] at hfound
    split at hfound
    · cases hfound
      exact hsecret hhinted
    · exact h.host found hfound hhinted

lemma World.Masked.step (h : w.Masked) (hreads : w.ReadsNoSecret event)
    (hmove : Moves htmlToText w event w') : w'.Masked := by
  have hended : ∀ index, World.Masked { w with reads := w.reads.eraseIdx index } := fun index =>
    h.mono rfl (fun _ => id) (fun _ hp _ => hp) h.log
  cases hmove with
  | same event => exact h
  | unseen _ | copied _ | pickerEnds _ => exact h.mono rfl (fun _ => id) (fun _ hp _ => hp) h.log
  | hostSelection selection htaken hstarted => exact h.mono rfl (by simp) (by simp) h.log
  | sent bytes => exact h.mono rfl (fun _ => id) (fun _ hp _ => hp) (h.log.append (by simp))
  | sourceCancelled sourceId =>
    refine h.mono rfl (fun _ => id) ?_ h.log
    intro published hpublished hmode
    simp only [World.sourceCancelled] at hpublished
    split at hpublished
    · cases hpublished
    · exact hpublished
  | openedHost event hlist => exact h.openPicker _ _ hlist.shows
  | openedPaste hbase hlist =>
    subst hbase
    have hwithout : w.withoutPicked.Masked := by
      refine h.mono rfl (fun _ => id) ?_ h.log
      intro published hpublished hmode
      exact (Option.filter_eq_some_iff.mp hpublished).1
    exact hwithout.openPicker _ _ fun candidate hmem => (hlist.shows candidate hmem).withoutPicked
  | served hpublished hmode hbytes =>
    exact h.mono rfl (fun _ => id) (by simp) (h.log.append (by simp))
  | lost hpublished hmode => exact h.mono rfl (fun _ => id) (by simp) h.log
  | readFailed hread hfailed => exact hended _
  | bridgeRead hread hbytes => exact (hended _).bridgeRead
  | hostRead hread hdata => exact (hended _).hostRead (hreads _ hread)
  | selectFailed hpicker hpublished =>
    refine h.mono rfl (fun _ => id) ?_ h.log
    intro published hsome _
    rcases hpublished with rfl | rfl
    · exact hsome
    · cases hsome
  | selected hpicker hdata hpublished hmode =>
    refine h.mono rfl (fun _ => id) ?_ (h.log.append (by simp))
    intro published hsome hdiscovery
    cases hsome
    rw [hmode] at hdiscovery
    cases hdiscovery

/-! ## previews -/

theorem secrets_not_previewed {events : List Event}
    (h : Trace.Run (· = World.init) (fun _ w event w' => w.ReadsNoSecret event ∧
      w.step htmlToText event = some w') events w) : NotPreviewed w.log := by
  have hinv : w.Masked := by
    refine h.preserves ?_ ?_
    · refine ⟨?_, ?_, ?_, ?_⟩ <;> simp [World.init, ClipboardHistory.empty, NotPreviewed]
    · intro _ s e s' ih hstep
      exact ih.step hstep.1 (moves_of_step hstep.2)
  exact hinv.log

instance (w : World) : (event : Event) → Decidable (w.ReadsNoSecret event)
  | .readDone index results _ _ =>
    have : ∀ read : Read, Decidable (match read with
        | .bridge .. => True
        | .host entry mimes => entry.hinted = true → NotText (World.readData mimes results)) :=
      fun read => match read with
        | .bridge .. => .isTrue trivial
        | .host .. => inferInstanceAs (Decidable (_ → _))
    inferInstanceAs (Decidable (∀ read ∈ w.reads[index]?, _))
  | .selectionChanged .. | .selectionCleared | .sourceSend .. | .sourceCancelled _
  | .copySelection .. | .pasteRequest .. | .select .. | .pickerEnds | .arm .. => .isTrue trivial

open Sample

/-- A password manager offers a selection of one MIME type with its hint, the daemon
reads it, and a VM pastes. -/
def hintedCopy (mimeType : String) (bytes : Bytes) : List Event :=
  [.selectionChanged [mimeType, "x-kde-passwordManagerHint"] true
      (some { appId := some "keepass", title := some "Passwords" }) .focusedWindowGuess none [] true
      1,
    .readDone 0 [some bytes] .done 2, .pasteRequest personal mimeType none true true .opened 3]

/-- The hinted candidates that were sent, with their previews. -/
def hintedPreviews (log : List LogEntry) : List (Option String) :=
  log.flatMap fun
    | .opened request _ => (request.candidates.filter (·.hinted)).map (·.previewText)
    | _ => []

theorem secrets_not_previewed_image :
    ∃ w, Trace.Run (· = World.init) (fun _ w event w' => w.ReadsNoSecret event ∧
        w.step (fun _ => none) event = some w') (hintedCopy "image/png" [0x89, 0x50]) w ∧
      hintedPreviews w.log = [none, none] ∧ NotPreviewed w.log := by
  obtain ⟨w, hrun, hpreviews⟩ := Trace.Run.exists_of_guarded (f := World.step fun _ => none)
    (c := World.ReadsNoSecret) (P := fun w => hintedPreviews w.log = [none, none]) World.init
    (hintedCopy "image/png" [0x89, 0x50])
  exact ⟨w, hrun, hpreviews, secrets_not_previewed hrun⟩

/-- The password is in the list, as the current selection and from the history. -/
theorem secret_previewed :
    ∃ w, Trace.Run (· = World.init) (fun _ w event w' =>
        w.step (fun _ => none) event = some w') (hintedCopy "text/plain" [104, 105]) w ∧
      hintedPreviews w.log = [some "hi", some "hi"] ∧ ¬ NotPreviewed w.log := by
  obtain ⟨w, hrun, hpreviews⟩ := Trace.Run.exists_of_foldlM (f := World.step fun _ => none)
    (P := fun w => hintedPreviews w.log = [some "hi", some "hi"]) World.init
    (hintedCopy "text/plain" [104, 105])
  refine ⟨w, hrun, hpreviews, fun hall => ?_⟩
  have hmem : some "hi" ∈ hintedPreviews w.log := by simp [hpreviews]
  obtain ⟨entry, hentry, hin⟩ := mem_flatMap.mp hmem
  cases entry with
  | opened request endpoint =>
    obtain ⟨candidate, hcandidate, hpreview⟩ := mem_map.mp hin
    obtain ⟨hmem, hhinted⟩ := mem_filter.mp hcandidate
    rw [hall request endpoint hentry candidate hmem hhinted] at hpreview
    cases hpreview
  | selected _ _ _ _ | served _ _ _ | sent _ _ => cases hin

end D2b.Clipd

import D2b.Clipd.EventLoop

/-!
# D2b.Clipd.EventLoop.Moves

What each event does, said once for the results about runs.
-/

namespace D2b.Clipd

open List

variable {htmlToText : Bytes → Option String} {w w' : World} {event : Event}

section

variable (htmlToText : Bytes → Option String) (w : World)

/-- The lists of candidates that are made in a state. -/
inductive Lists : List Candidate → Prop where
  | picker (current : Option ClipboardHistoryEntry) (mimeType : String) (now : Nat)
      (hcurrent : current = w.currentHostEntry ∨ current = none) :
      Lists (pickerCandidates htmlToText w.hostSelection current w.history mimeType now)
  | discovery {published : PublishedSelectionState} (mimeType : String) (now : Nat)
      (hpublished : w.publishedSelection = some published) (hmode : published.mode = .discovery) :
      Lists (w.discoveryCandidates htmlToText published mimeType now)
  | bridge (selection : BridgeSelectionState) (mimeType : String) (now : Nat) :
      Lists (pickerBridgeCandidates htmlToText selection mimeType now ++
        otherCandidates htmlToText w.history (some selection) mimeType)

/-- What a candidate can be. -/
inductive Shows : Candidate → Prop where
  | entry {entry : ClipboardHistoryEntry} (hentry : entry ∈ w.history.entries)
      (hbytes : compatibleMimePayload htmlToText entry.dataByMime mimeType = some bytes) :
      Shows (entry.candidate entry.entryId mimeType bytes)
  | currentHost {entry : ClipboardHistoryEntry} (hentry : w.currentHostEntry = some entry)
      (hbytes : compatibleMimePayload htmlToText entry.dataByMime mimeType = some bytes) :
      Shows (entry.candidate currentHostEntryId mimeType bytes)
  | liveHost {candidate : Candidate} (hid : candidate.entryId = currentHostEntryId)
      (hpreview : candidate.previewText = none) : Shows candidate
  | bridge {candidate : Candidate} (hid : candidate.entryId = currentBridgeEntryId ∨
        candidate.entryId = "published-selection")
      (hhinted : candidate.hinted = true → ∃ published, w.publishedSelection = some published ∧
        published.mode = .discovery ∧ published.hinted = true) :
      Shows candidate

/-- The state in which a paste that opens a picker makes its list: a selection that was
picked is gone. -/
def World.withoutPicked : World :=
  { w with publishedSelection :=
      w.publishedSelection.filter fun selection => selection.mode != .selected }

/-- A step, with what made it possible. -/
inductive Moves : Event → World → Prop where
  | same (event : Event) : Moves event w
  | unseen (event : Event) : Moves event { w with hostSelection := none }
  | hostSelection (selection : HostSelection) (htaken : w.ignoresSelection window = false)
      (hreads : reads = w.reads ∨ ∃ piped, (∀ mime ∈ piped, isMimeAllowed mime = true) ∧
        reads = w.reads ++ [.host (World.hostEntry window (hasSecretHint mimes) now) piped]) :
      Moves
        (.selectionChanged mimes live window quality attributed failed permit now)
        { w with
          bridgeSelection := none, publishedSelection := none, currentHostEntry := none, reads
          hostSelection := some selection }
  | sent (bytes : Bytes) :
      Moves (.sourceSend sourceId mimeType window permit launch now)
        { w with log := w.log ++ [.sent mimeType bytes] }
  | sourceCancelled (sourceId : Nat) :
      Moves (.sourceCancelled sourceId) (w.sourceCancelled sourceId)
  | copied (hallowed : isMimeAllowed mimeType = true) :
      Moves (.copySelection identity mimeType sourceId true)
        { w with reads := w.reads ++ [.bridge identity mimeType sourceId] }
  | openedHost (event : Event) {request : OpenRequest}
      (hlist : Lists htmlToText w request.candidates) :
      Moves event (w.openPicker launch none request)
  | openedPaste {request : OpenRequest} (hbase : base = w.withoutPicked)
      (hlist : Lists htmlToText w request.candidates) :
      Moves (.pasteRequest identity mimeType window true permit launch now)
        (base.openPicker launch (some identity) request)
  | served (hpublished : w.publishedSelection = some selection) (hmode : selection.mode = .selected)
      (hbytes : compatibleMimePayload htmlToText selection.dataByMime mimeType = some bytes) :
      Moves (.pasteRequest identity mimeType window true true launch now)
        { w with publishedSelection := none, log := w.log ++ [.served identity mimeType bytes] }
  | lost (hpublished : w.publishedSelection = some selection) (hmode : selection.mode = .selected) :
      Moves (.pasteRequest identity mimeType window true false launch now)
        { w with publishedSelection := none }
  | readFailed {index : Nat} {read : Read} {results : List (Option Bytes)}
      (hread : w.reads[index]? = some read)
      (hfailed : match read with
        | .bridge .. => results.head?.join = none
        | .host _ mimes => World.readData mimes results = ∅) :
      Moves (.readDone index results publication now)
        { w with reads := w.reads.eraseIdx index }
  | bridgeRead {index : Nat} {results : List (Option Bytes)}
      (hread : w.reads[index]? = some (.bridge identity mimeType sourceId))
      (hbytes : results.head?.join = some bytes) :
      Moves (.readDone index results publication now)
        ({ w with reads := w.reads.eraseIdx index }.bridgeCopyReady identity mimeType sourceId
          bytes publication now)
  | hostRead {index : Nat} (hread : w.reads[index]? = some (.host entry mimes))
      (hdata : (World.readData mimes results).isEmpty = false) :
      Moves (.readDone index results publication now)
        ({ w with reads := w.reads.eraseIdx index }.hostEntryReady
          { entry with dataByMime := World.readData mimes results })
  | selectFailed (hpicker : w.picker = some picker)
      (hpublished : published = w.publishedSelection ∨ published = none) :
      Moves (.select requestId entryId publication)
        { w with sourceSeq, publishedSelection := published, picker := none }
  | selected {published : PublishedSelectionState}
      (hpicker : w.picker = some picker) (hdata : w.selectedEntryDataByMime entryId = some data)
      (hpublished : published.dataByMime = data) (hmode : published.mode = .selected) :
      Moves (.select requestId entryId publication)
        { w with
          sourceSeq, publishedSelection := some published, picker := none
          log := w.log ++ [.selected picker requestId entryId data] }
  | pickerEnds (event : Event) : Moves event { w with picker := none }

end

/-- Candidates are made of the history, the current host entry and a discovery source. -/
lemma Shows.congr (h : Shows htmlToText w candidate) (hhistory : w'.history = w.history)
    (hhost : w'.currentHostEntry = w.currentHostEntry)
    (hpublished : ∀ published, w.publishedSelection = some published →
      published.mode = .discovery → w'.publishedSelection = some published) :
    Shows htmlToText w' candidate := by
  cases h with
  | entry hentry hbytes => exact .entry (hhistory ▸ hentry) hbytes
  | currentHost hentry hbytes => exact .currentHost (hhost.trans hentry) hbytes
  | liveHost hid hpreview => exact .liveHost hid hpreview
  | bridge hid hhinted =>
    refine .bridge hid fun h => ?_
    obtain ⟨published, hsome, hmode, hmark⟩ := hhinted h
    exact ⟨published, hpublished published hsome hmode, hmode, hmark⟩

lemma shows_candidatesExcluding
    (h : candidate ∈ w.history.candidatesExcluding htmlToText mimeType excluded) :
    Shows htmlToText w candidate := by
  obtain ⟨entry, hentry, hcandidate⟩ := mem_filterMap.mp h
  obtain ⟨bytes, hbytes, rfl⟩ := Option.map_eq_some_iff.mp hcandidate
  exact .entry (mem_filter.mp hentry).1 hbytes

lemma shows_otherCandidates
    (h : candidate ∈ otherCandidates htmlToText w.history selection mimeType) :
    Shows htmlToText w candidate :=
  shows_candidatesExcluding (mem_filter.mp h).1

lemma shows_currentHostCandidate (hcurrent : current = w.currentHostEntry ∨ current = none)
    (h : currentHostCandidate htmlToText current candidates mimeType = some candidate) :
    Shows htmlToText w candidate := by
  unfold currentHostCandidate at h
  split at h
  · cases h
  · next entry =>
    have hentry : w.currentHostEntry = some entry := by
      rcases hcurrent with hcurrent | hcurrent
      · exact hcurrent.symm
      · cases hcurrent
    split at h
    · cases h
    · next bytes hbytes =>
      split at h
      · cases h
        exact .currentHost hentry hbytes
      · cases h

lemma shows_pickerCandidates (hcurrent : current = w.currentHostEntry ∨ current = none)
    (h : candidate ∈ pickerCandidates htmlToText w.hostSelection current w.history mimeType now) :
    Shows htmlToText w candidate := by
  unfold pickerCandidates at h
  dsimp only at h
  split at h
  · next found hfound =>
    rcases mem_cons.mp h with rfl | h
    · exact shows_currentHostCandidate hcurrent hfound
    · exact shows_candidatesExcluding (mem_filter.mp h).1
  · split at h
    · exact shows_candidatesExcluding h
    · split at h
      · exact shows_candidatesExcluding h
      · split at h
        · exact shows_candidatesExcluding h
        · rcases mem_cons.mp h with rfl | h
          · exact .liveHost rfl rfl
          · exact shows_candidatesExcluding (mem_filter.mp h).1

lemma shows_discoveryCandidates (hpublished : w.publishedSelection = some published)
    (hmode : published.mode = .discovery)
    (h : candidate ∈ w.discoveryCandidates htmlToText published mimeType now) :
    Shows htmlToText w candidate := by
  have hrest : ∀ candidate ∈ pickerBridgeCandidatesForPublished htmlToText w.bridgeSelection
      published mimeType now ++ otherCandidates htmlToText w.history w.bridgeSelection mimeType,
      Shows htmlToText w candidate := by
    intro candidate hmem
    rcases mem_append.mp hmem with hmem | hmem
    · unfold pickerBridgeCandidatesForPublished at hmem
      split at hmem
      · cases hmem
      · split at hmem
        · rw [mem_singleton.mp hmem]
          exact .bridge (.inl rfl) fun h => ⟨published, hpublished, hmode, h⟩
        · rw [mem_singleton.mp hmem]
          exact .bridge (.inr rfl) fun h => ⟨published, hpublished, hmode, h⟩
    · exact shows_otherCandidates hmem
  unfold World.discoveryCandidates at h
  dsimp only at h
  split at h
  · next current hcurrent =>
    rcases mem_cons.mp h with rfl | h
    · exact shows_currentHostCandidate (.inl rfl) hcurrent
    · exact hrest candidate h
  · exact hrest candidate h

lemma Lists.shows (h : Lists htmlToText w candidates) :
    ∀ candidate ∈ candidates, Shows htmlToText w candidate := by
  intro candidate hmem
  cases h with
  | picker current mimeType now hcurrent => exact shows_pickerCandidates hcurrent hmem
  | discovery mimeType now hpublished hmode =>
    exact shows_discoveryCandidates hpublished hmode hmem
  | bridge selection mimeType now =>
    rcases mem_append.mp hmem with hmem | hmem
    · unfold pickerBridgeCandidates at hmem
      split at hmem
      · cases hmem
      · rw [mem_singleton.mp hmem]
        exact .bridge (.inl rfl) (by simp [bridgeCandidate])
    · exact shows_otherCandidates hmem

/-! ## what a copy changes -/

section

/-- What is left of a copy when its publication is settled. -/
structure Copies (w : World) (selection : BridgeSelectionState) (publication : Publication)
    (w' : World) : Prop where
  picker : w'.picker = w.picker
  reads : w'.reads = w.reads
  log : w'.log = w.log
  currentHostEntry : w'.currentHostEntry = none
  history : w'.history = w.history.upsert (World.bridgeEntry selection)
  bridge : ∃ id, w'.bridgeSelection = some { selection with dataControlSourceId := id }
  published : match publication with
    | .refused => w'.publishedSelection = w.publishedSelection
    | .flushFails => w'.publishedSelection = none
    | .done => ∃ published, w'.publishedSelection = some published ∧ published.mode = .discovery ∧
        published.dataByMime = selection.dataByMime ∧ published.hinted = false

variable (w : World) (identity : ClipboardEndpointIdentity) (mimeType : String) (sourceId : Nat)
  (bytes : Bytes) (publication : Publication) (now : Nat)

lemma copiedSelection_nonempty :
    (w.copiedSelection identity mimeType sourceId bytes now).dataByMime.isEmpty = false := by
  simp [World.copiedSelection]

lemma copies_bridgeCopyReady :
    Copies w (w.copiedSelection identity mimeType sourceId bytes now) publication
      (w.bridgeCopyReady identity mimeType sourceId bytes publication now) := by
  unfold World.bridgeCopyReady World.publishDataControlSelection
  simp only [copiedSelection_nonempty, Bool.false_eq_true, if_false]
  cases publication with
  | refused | flushFails => exact ⟨rfl, rfl, rfl, rfl, rfl, ⟨_, rfl⟩, rfl⟩
  | done => exact ⟨rfl, rfl, rfl, rfl, rfl, ⟨_, rfl⟩, ⟨_, rfl, rfl, rfl, rfl⟩⟩

end

/-! ## the steps -/

lemma Shows.withoutPicked (h : Shows htmlToText w candidate) :
    Shows htmlToText w.withoutPicked candidate := by
  refine h.congr rfl rfl ?_
  intro published hpublished hmode
  simp [World.withoutPicked, hpublished, hmode]

lemma World.withoutPicked_of_none (h : w.publishedSelection = none) : w.withoutPicked = w := by
  obtain ⟨b, p, c, hist, hs, pk, seq, rd, lg⟩ := w
  subst h
  rfl

lemma World.withoutPicked_of_discovery (h : w.publishedSelection = some selection)
    (hmode : selection.mode ≠ .selected) : w.withoutPicked = w := by
  obtain ⟨b, p, c, hist, hs, pk, seq, rd, lg⟩ := w
  subst h
  simp [World.withoutPicked, hmode]

lemma World.withoutPicked_of_selected (h : w.publishedSelection = some selection)
    (hmode : selection.mode = .selected) :
    w.withoutPicked = { w with publishedSelection := none } := by
  simp [World.withoutPicked, h, hmode]

lemma moves_pasteRequest :
    Moves htmlToText w (.pasteRequest identity mimeType window audited permit launch now)
      (w.pasteRequest htmlToText identity mimeType window audited permit launch now) := by
  unfold World.pasteRequest
  by_cases hdenied : (!isMimeAllowed mimeType || !audited) = true
  · rw [if_pos hdenied]
    exact .same _
  · rw [if_neg hdenied]
    have haudited : audited = true := by
      simp only [Bool.or_eq_true, Bool.not_eq_true', not_or, Bool.not_eq_false] at hdenied
      exact hdenied.2
    subst haudited
    cases hpublished : w.publishedSelection with
    | none =>
      exact .openedPaste (World.withoutPicked_of_none hpublished).symm
        (.picker w.currentHostEntry mimeType now (.inl rfl))
    | some selection =>
      by_cases hmode : selection.mode = .selected
      · have hserves : publishedSelectionCanServeBridgePaste selection.mode = true := by
          simp [publishedSelectionCanServeBridgePaste, hmode]
        simp only [hserves, if_true]
        cases hbytes : compatibleMimePayload htmlToText selection.dataByMime mimeType with
        | some bytes =>
          cases permit with
          | true => exact .served hpublished hmode hbytes
          | false => exact .lost hpublished hmode
        | none =>
          exact .openedPaste (World.withoutPicked_of_selected hpublished hmode).symm
            (.picker w.currentHostEntry mimeType now (.inl rfl))
      · have hserves : ¬ publishedSelectionCanServeBridgePaste selection.mode = true := by
          simp [publishedSelectionCanServeBridgePaste, hmode]
        simp only [if_neg hserves]
        exact .openedPaste (World.withoutPicked_of_discovery hpublished hmode).symm
          (.picker w.currentHostEntry mimeType now (.inl rfl))

lemma moves_sourceSend :
    Moves htmlToText w (.sourceSend sourceId mimeType window permit launch now)
      (w.sourceSend htmlToText sourceId mimeType window permit launch now) := by
  unfold World.sourceSend
  dsimp only
  split
  · next published hpublished =>
    have hsome := (Option.filter_eq_some_iff.mp hpublished).1
    split
    · split
      · next bytes hbytes =>
        cases permit with
        | true => exact .sent bytes
        | false => exact .same _
      · exact .same _
    · next hmode =>
      split
      · exact .same _
      · exact .openedHost _ (.discovery mimeType now hsome hmode)
  · split
    · next selection hselection =>
      split
      · exact .same _
      · split
        · exact .same _
        · exact .openedHost _ (.bridge selection mimeType now)
    · exact .same _

lemma moves_selectionChanged {failed : List String} :
    Moves htmlToText w (.selectionChanged mimes live window quality attributed failed permit now)
      (w.selectionChanged mimes live window quality attributed failed permit now) := by
  unfold World.selectionChanged
  cases hignored : w.ignoresSelection window with
  | true =>
    rw [if_pos rfl]
    exact .unseen _
  | false =>
    rw [if_neg (by simp)]
    refine .hostSelection _ hignored ?_
    split
    · refine .inr ⟨_, ?_, rfl⟩
      intro mime hmime
      exact (mem_filter.mp (mem_filter.mp hmime).1).2
    · exact .inl rfl

lemma moves_readDone {read : Read} (hread : w.reads[index]? = some read) :
    Moves htmlToText w (.readDone index results publication now)
      ({ w with reads := w.reads.eraseIdx index }.readDone read results publication now) := by
  cases read with
  | bridge identity mimeType sourceId =>
    simp only [World.readDone]
    cases hbytes : results.head?.join with
    | some bytes => exact .bridgeRead hread hbytes
    | none => exact .readFailed hread hbytes
  | host entry mimes =>
    simp only [World.readDone]
    cases hdata : (World.readData mimes results).isEmpty with
    | true =>
      rw [if_pos rfl]
      exact .readFailed hread (Std.ExtTreeMap.isEmpty_iff.mp hdata)
    | false =>
      rw [if_neg (by simp)]
      exact .hostRead hread hdata

lemma moves_select (hpicker : w.picker = some picker) :
    Moves htmlToText w (.select requestId entryId publication)
      (w.select picker requestId entryId publication) := by
  unfold World.select
  cases hdata : w.selectedEntryDataByMime entryId with
  | none => exact .selectFailed hpicker (.inl rfl)
  | some data =>
    dsimp only [World.publishDataControlSelection]
    by_cases hempty : data.isEmpty = true
    · simp only [hempty, if_true]
      exact .selectFailed hpicker (.inl rfl)
    · simp only [hempty]
      cases publication with
      | refused => exact .selectFailed hpicker (.inl rfl)
      | flushFails => exact .selectFailed hpicker (.inr rfl)
      | done => exact .selected hpicker hdata rfl rfl

lemma moves_of_step (h : w.step htmlToText event = some w') : Moves htmlToText w event w' := by
  cases event with
  | selectionChanged mimes live window quality attributed failed permit now =>
    rw [← Option.some.inj h]
    exact moves_selectionChanged
  | selectionCleared =>
    rw [← Option.some.inj h]
    exact .unseen _
  | sourceSend sourceId mimeType window permit launch now =>
    rw [← Option.some.inj h]
    exact moves_sourceSend
  | sourceCancelled sourceId =>
    rw [← Option.some.inj h]
    exact .sourceCancelled sourceId
  | copySelection identity mimeType sourceId permit =>
    rw [← Option.some.inj h]
    unfold World.copySelection
    cases permit with
    | false =>
      rw [if_neg (by simp)]
      exact .same _
    | true =>
      by_cases hallowed : isMimeAllowed mimeType = true
      · rw [if_pos (by simp [hallowed])]
        exact .copied hallowed
      · rw [if_neg (by simp [hallowed])]
        exact .same _
  | pasteRequest identity mimeType window audited permit launch now =>
    rw [← Option.some.inj h]
    exact moves_pasteRequest
  | readDone index results publication now =>
    simp only [World.step] at h
    split at h
    · cases h
    · next read hread =>
      rw [← Option.some.inj h]
      exact moves_readDone hread
  | select requestId entryId publication =>
    simp only [World.step] at h
    split at h
    · cases h
    · next picker hpicker =>
      rw [← Option.some.inj h]
      exact moves_select hpicker
  | pickerEnds =>
    rw [← Option.some.inj h]
    exact .pickerEnds _
  | arm window launch now =>
    rw [← Option.some.inj h]
    exact .openedHost _ (.picker none "text/plain" now (.inr rfl))

/-! ## what the history keeps -/

/-- Few entries, each with data. -/
structure ClipboardHistory.Kept (history : ClipboardHistory) : Prop where
  bounded : history.entries.length ≤ historyMaxEntries
  nonempty : ∀ entry ∈ history.entries, entry.dataByMime.isEmpty = false

namespace ClipboardHistory.Kept

variable {history : ClipboardHistory} (h : history.Kept)
include h

lemma push : (history.push entry).Kept := by
  unfold ClipboardHistory.push pushFrontBounded
  split_ifs
  · exact h
  · exact ⟨length_take_le _ _, by grind [h.nonempty, mem_of_mem_take]⟩

lemma upsert : (history.upsert entry).Kept := by
  unfold ClipboardHistory.upsert
  split_ifs
  · exact h
  · exact h.push
  · exact ⟨length_take_le _ _, by grind [h.nonempty, mem_of_mem_take, mem_of_mem_eraseP]⟩

end ClipboardHistory.Kept

lemma openPicker_history : (w.openPicker launch endpoint request).history = w.history := by
  cases launch <;> grind [World.openPicker]

lemma Moves.kept (h : Moves htmlToText w event w') (hkept : w.history.Kept) : w'.history.Kept := by
  cases h with
  | bridgeRead =>
    rw [(copies_bridgeCopyReady ..).history]
    exact hkept.upsert
  | hostRead => exact hkept.push
  | openedHost => rwa [openPicker_history]
  | openedPaste hbase => rwa [openPicker_history, hbase]
  | _ => exact hkept

end D2b.Clipd

import D2b.Clipd.EventLoop.Moves

/-!
# D2b.Clipd.EventLoop.PickedData

Whether what is picked is what is published.

An entry id is looked up again when it is selected.  The ids `history-<n>` name one
entry for good; the id of a bridge copy names its latest state, and the two current
ids name whatever is current.  Neither the request id of a `Select` nor the list it
answers is checked.
-/

namespace D2b.Clipd

open ClipboardHistory List

variable {htmlToText : Bytes → Option String} {w w' : World} {event : Event}

/-! ## ids -/

def ActivePicker.Offers (picker : ActivePicker) (entryId : String) : Prop :=
  ∃ candidate ∈ picker.request.candidates, candidate.entryId = entryId

instance (picker : ActivePicker) (entryId : String) : Decidable (picker.Offers entryId) :=
  inferInstanceAs (Decidable (∃ candidate ∈ picker.request.candidates, _))

/-- What is published was offered in this picker, with these data. -/
def AsOffered (log : List LogEntry) : Prop :=
  ∀ picker requestId entryId data, .selected picker requestId entryId data ∈ log →
    requestId = picker.request.requestId ∧ picker.Offers entryId ∧
      picker.entries entryId = some data

lemma historyEntryId_injective : Function.Injective historyEntryId := by
  intro m n h
  have hlists := congrArg String.toList h
  simp only [historyEntryId, String.toList_append, append_cancel_left_eq] at hlists
  exact Text.toString_injective (String.toList_injective hlists)

/-- Ids of other kinds differ in the first letter. -/
lemma historyEntryId_ne (id : String) (h : id.toList.head? ≠ some 'h') (n : Nat) :
    id ≠ historyEntryId n := by
  intro heq
  rw [heq] at h
  exact h (by simp [historyEntryId])

lemma bridgeHistoryEntryId_head (identity : ClipboardEndpointIdentity) (sourceId : Nat) :
    (bridgeHistoryEntryId identity sourceId).toList.head? = some 'b' := by
  simp [bridgeHistoryEntryId]

/-! ## lookups in a history that changes -/

variable {entries : List ClipboardHistoryEntry} {history : ClipboardHistory}
  {entry : ClipboardHistoryEntry} {id : String} {data : MimeData}

namespace ClipboardHistory

/-- The oldest entries may be dropped. -/
lemma dataFor_of_take {n nextId : Nat}
    (h : dataFor ⟨entries.take n, nextId⟩ id = some data) :
    dataFor ⟨entries, nextId⟩ id = some data := by
  obtain ⟨found, hfound, hdata⟩ := Option.map_eq_some_iff.mp h
  have hwhole : entries.find? (fun entry => entry.entryId == id) = some found := by
    rw [← take_append_drop n entries, find?_append]
    rw [hfound]
    rfl
  unfold dataFor
  rw [hwhole]
  exact congrArg some hdata

lemma dataFor_cons_of_ne {nextId : Nat} (h : entry.entryId ≠ id) :
    dataFor ⟨entry :: entries, nextId⟩ id = dataFor ⟨entries, nextId⟩ id := by
  unfold dataFor
  rw [find?_cons_of_neg (by simpa using h)]

lemma dataFor_eraseP_of_ne {nextId : Nat} (h : erased ≠ id) :
    dataFor ⟨entries.eraseP fun existing => existing.entryId == erased, nextId⟩ id =
      dataFor ⟨entries, nextId⟩ id := by
  unfold dataFor
  congr 1
  induction entries with
  | nil => rfl
  | cons first rest ih =>
    by_cases hfirst : first.entryId = erased
    · rw [eraseP_cons_of_pos (by simpa using hfirst), find?_cons_of_neg (by simpa [hfirst] using h)]
    · rw [eraseP_cons_of_neg (by simpa using hfirst), find?_cons, find?_cons, ih]

lemma nextId_push (entry : ClipboardHistoryEntry) (hbounded : history.nextId ≤ 2 ^ 64 - 1) :
    history.nextId ≤ (history.push entry).nextId ∧ (history.push entry).nextId ≤ 2 ^ 64 - 1 := by
  unfold push
  split
  · exact ⟨Nat.le_refl _, hbounded⟩
  · simp only [pushFrontBounded]
    omega

/-- A new entry changes no lookup of an id that is not the next one. -/
lemma dataFor_push (hroom : history.nextId < 2 ^ 64 - 1)
    (hid : id ≠ historyEntryId (history.nextId + 1))
    (h : (history.push entry).dataFor id = some data) : history.dataFor id = some data := by
  unfold push at h
  split at h
  · exact h
  · have hnext : min (history.nextId + 1) (2 ^ 64 - 1) = history.nextId + 1 := by omega
    unfold pushFrontBounded at h
    simp only [hnext] at h
    have hwhole := dataFor_of_take h
    rwa [dataFor_cons_of_ne (Ne.symm hid)] at hwhole

lemma dataFor_upsert (hempty : entry.entryId.isEmpty = false) (hid : entry.entryId ≠ id)
    (h : (history.upsert entry).dataFor id = some data) : history.dataFor id = some data := by
  unfold upsert at h
  split at h
  · exact h
  · rw [if_neg (by simp [hempty])] at h
    have hwhole := dataFor_of_take h
    rwa [dataFor_cons_of_ne hid, dataFor_eraseP_of_ne hid] at hwhole

/-- The ids of the history after a new entry: those before, and the next one. -/
lemma mem_push (h : found ∈ (history.push entry).entries) :
    found ∈ history.entries ∨ found.entryId = historyEntryId (history.push entry).nextId := by
  unfold push at h ⊢
  split at h
  · exact .inl h
  · next hempty =>
    rw [if_neg hempty]
    rcases mem_cons.mp (mem_of_mem_take h) with rfl | h
    · exact .inr rfl
    · exact .inl h

lemma mem_upsert (hempty : entry.entryId.isEmpty = false)
    (h : found ∈ (history.upsert entry).entries) : found ∈ history.entries ∨ found = entry := by
  unfold upsert at h
  split at h
  · exact .inl h
  · rw [if_neg (by simp [hempty])] at h
    rcases mem_cons.mp (mem_of_mem_take h) with rfl | h
    · exact .inr rfl
    · exact .inl (mem_of_mem_eraseP h)

lemma nextId_upsert (hempty : entry.entryId.isEmpty = false) :
    (history.upsert entry).nextId = history.nextId := by
  unfold upsert
  split
  · rfl
  · rw [if_neg (by simp [hempty])]

end ClipboardHistory

/-! ## runs -/

/-- A `Select` answers its picker.  While a picker is open, what it offered is not copied
again, and the counter of the history has room. -/
def World.Undisturbed (w : World) : Event → Prop
  | .select requestId entryId _ => ∀ picker ∈ w.picker,
      requestId = picker.request.requestId ∧ picker.Offers entryId
  | .readDone index _ _ _ => ∀ picker ∈ w.picker, ∀ read ∈ w.reads[index]?,
      match read with
      | .bridge identity _ sourceId => ¬ picker.Offers currentBridgeEntryId ∧
          ¬ picker.Offers (bridgeHistoryEntryId identity sourceId)
      | .host .. => ¬ picker.Offers currentHostEntryId ∧ w.history.nextId < 2 ^ 64 - 1
  | _ => True

structure World.Stable (w : World) : Prop where
  bounded : w.history.nextId ≤ 2 ^ 64 - 1
  /-- ids that the history has not given yet -/
  fresh : ∀ entry ∈ w.history.entries, ∀ n, w.history.nextId < n → entry.entryId ≠ historyEntryId n
  bridgeId : ∀ selection, w.bridgeSelection = some selection →
    selection.historyEntryId = bridgeHistoryEntryId selection.identity selection.sourceId
  offeredFresh : ∀ picker, w.picker = some picker → ∀ n, w.history.nextId < n →
    ¬ picker.Offers (historyEntryId n)
  offered : ∀ picker, w.picker = some picker → ∀ id data, picker.Offers id →
    w.selectedEntryDataByMime id = some data → picker.entries id = some data
  log : AsOffered w.log

lemma AsOffered.append (h : AsOffered log) {entry : LogEntry}
    (hentry : ∀ picker requestId entryId data, entry ≠ .selected picker requestId entryId data) :
    AsOffered (log ++ [entry]) := by
  intro picker requestId entryId data hmem
  rcases Trace.mem_snoc.mp hmem with hmem | hlast
  · exact h picker requestId entryId data hmem
  · exact absurd hlast.symm (hentry picker requestId entryId data)

lemma copiedSelection_id (h : w.Stable) (identity : ClipboardEndpointIdentity)
    (mimeType : String) (sourceId : Nat) (bytes : Bytes) (now : Nat) :
    (w.copiedSelection identity mimeType sourceId bytes now).historyEntryId =
      bridgeHistoryEntryId identity sourceId ∧
    (w.copiedSelection identity mimeType sourceId bytes now).identity = identity ∧
    (w.copiedSelection identity mimeType sourceId bytes now).sourceId = sourceId := by
  simp only [World.copiedSelection, World.bridgeSelectionFor]
  cases hselection : w.bridgeSelection with
  | none => exact ⟨rfl, rfl, rfl⟩
  | some selection =>
    dsimp only
    by_cases hother : selection.identity ≠ identity ∨ selection.sourceId ≠ sourceId
    · rw [if_pos hother]
      exact ⟨rfl, rfl, rfl⟩
    · rw [if_neg hother]
      simp only [ne_eq, not_or, Decidable.not_not] at hother
      obtain ⟨rfl, rfl⟩ := hother
      exact ⟨h.bridgeId selection hselection, rfl, rfl⟩

namespace World.Stable

variable (h : w.Stable)
include h

/-- A step that leaves the history alone and only drops what ids denote. -/
lemma mono (hhistory : w'.history = w.history)
    (hbridge : ∀ selection, w'.bridgeSelection = some selection →
      w.bridgeSelection = some selection)
    (hhost : ∀ entry, w'.currentHostEntry = some entry → w.currentHostEntry = some entry)
    (hpicker : ∀ picker, w'.picker = some picker → w.picker = some picker)
    (hlog : AsOffered w'.log) : w'.Stable := by
  refine ⟨?_, ?_, ?_, ?_, ?_, hlog⟩
  · rw [hhistory]
    exact h.bounded
  · rw [hhistory]
    exact h.fresh
  · intro selection hselection
    exact h.bridgeId selection (hbridge selection hselection)
  · intro picker hp
    rw [hhistory]
    exact h.offeredFresh picker (hpicker picker hp)
  · intro picker hp id data hoffers hdata
    refine h.offered picker (hpicker picker hp) id data hoffers ?_
    unfold selectedEntryDataByMime at hdata ⊢
    rw [hhistory] at hdata
    by_cases hhostId : id = currentHostEntryId
    · rw [if_pos hhostId] at hdata ⊢
      cases hentry : w'.currentHostEntry with
      | none => simp [hentry] at hdata
      | some entry => rwa [hhost entry hentry, ← hentry]
    · rw [if_neg hhostId] at hdata ⊢
      by_cases hbridgeId : id = currentBridgeEntryId
      · rw [if_pos hbridgeId] at hdata ⊢
        cases hselection : w'.bridgeSelection with
        | none => simp [hselection] at hdata
        | some selection => rwa [hbridge selection hselection, ← hselection]
      · rwa [if_neg hbridgeId] at hdata ⊢

/-- No candidate has an id that the history has not given yet. -/
lemma not_shown (hshows : Shows htmlToText w candidate)
    (hn : w.history.nextId < n) : candidate.entryId ≠ historyEntryId n := by
  cases hshows with
  | entry hentry hbytes => exact h.fresh _ hentry n hn
  | currentHost hentry hbytes =>
    exact historyEntryId_ne currentHostEntryId (by decide) n
  | liveHost hid hpreview =>
    rw [hid]
    exact historyEntryId_ne _ (by decide) n
  | bridge hid hhinted =>
    rcases hid with hid | hid
    all_goals
      rw [hid]
      exact historyEntryId_ne _ (by decide) n

lemma openPicker (launch : Launch) (endpoint : Option ClipboardEndpointIdentity)
    (hshows : ∀ candidate ∈ request.candidates, Shows htmlToText w candidate) :
    (w.openPicker launch endpoint request).Stable := by
  have hlog : AsOffered (w.log ++ [.opened request endpoint]) := h.log.append (by simp)
  unfold World.openPicker
  by_cases hactive : w.picker.isSome = true
  · rw [if_pos hactive]
    exact h
  · rw [if_neg hactive]
    cases launch with
    | failed => exact h
    | aborted => exact h.mono rfl (fun _ => id) (fun _ => id) (fun _ => id) hlog
    | opened =>
      refine ⟨h.bounded, h.fresh, h.bridgeId, ?_, ?_, hlog⟩
      · intro picker hpicker n hn hoffers
        cases hpicker
        obtain ⟨candidate, hmem, hid⟩ := hoffers
        exact h.not_shown (hshows candidate hmem) hn hid
      · intro picker hpicker id data _ hdata
        cases hpicker
        exact hdata

/-! ## copies while a picker is open -/

lemma bridgeRead {mimeType : String}
    (hpicker : ∀ picker, w.picker = some picker → ¬ picker.Offers currentBridgeEntryId ∧
      ¬ picker.Offers (bridgeHistoryEntryId identity sourceId)) :
    (w.bridgeCopyReady identity mimeType sourceId bytes publication now).Stable := by
  have hcopies := copies_bridgeCopyReady w identity mimeType sourceId bytes publication now
  obtain ⟨hid, hidentity, hsource⟩ := copiedSelection_id h identity mimeType sourceId bytes now
  generalize w.copiedSelection identity mimeType sourceId bytes now = selection at *
  have hentryId : (bridgeEntry selection).entryId = bridgeHistoryEntryId identity sourceId := hid
  have hempty : (bridgeEntry selection).entryId.isEmpty = false := by
    rw [hentryId, ← Bool.not_eq_true, String.isEmpty_iff]
    intro heq
    have hhead := bridgeHistoryEntryId_head identity sourceId
    simp [heq] at hhead
  obtain ⟨seq, hbridge⟩ := hcopies.bridge
  refine ⟨?_, ?_, ?_, ?_, ?_, by rw [hcopies.log]; exact h.log⟩
  · rw [hcopies.history, nextId_upsert hempty]
    exact h.bounded
  · rw [hcopies.history]
    intro entry hentry n hn
    rw [nextId_upsert hempty] at hn
    rcases mem_upsert hempty hentry with hentry | rfl
    · exact h.fresh entry hentry n hn
    · rw [hentryId]
      exact historyEntryId_ne _ (by simp [bridgeHistoryEntryId_head]) n
  · intro found hfound
    rw [hbridge] at hfound
    cases hfound
    simp only [hid, hidentity, hsource]
  · intro picker hp n hn
    rw [hcopies.picker] at hp
    rw [hcopies.history, nextId_upsert hempty] at hn
    exact h.offeredFresh picker hp n hn
  · intro picker hp id data hoffers hdata
    rw [hcopies.picker] at hp
    obtain ⟨hcurrent, hcopied⟩ := hpicker picker hp
    have hnotBridge : id ≠ currentBridgeEntryId := fun heq => hcurrent (heq ▸ hoffers)
    have hnotCopied : (bridgeEntry selection).entryId ≠ id := by
      intro heq
      exact hcopied (hentryId ▸ heq ▸ hoffers)
    refine h.offered picker hp id data hoffers ?_
    unfold selectedEntryDataByMime at hdata ⊢
    by_cases hhostId : id = currentHostEntryId
    · rw [if_pos hhostId, hcopies.currentHostEntry] at hdata
      cases hdata
    · rw [if_neg hhostId, if_neg hnotBridge] at hdata ⊢
      rw [hcopies.history] at hdata
      exact dataFor_upsert hempty hnotCopied hdata

lemma hostRead (hpicker : ∀ picker, w.picker = some picker → ¬ picker.Offers currentHostEntryId ∧
      w.history.nextId < 2 ^ 64 - 1) : (w.hostEntryReady entry).Stable := by
  obtain ⟨hgrows, hbounded⟩ := nextId_push entry h.bounded
  refine ⟨hbounded, ?_, h.bridgeId, ?_, ?_, h.log⟩
  · intro found hfound n hn
    have hn : (w.history.push entry).nextId < n := hn
    rcases mem_push hfound with hfound | hid
    · exact h.fresh found hfound n (Nat.lt_of_le_of_lt hgrows hn)
    · rw [hid]
      intro heq
      have := historyEntryId_injective heq
      omega
  · intro picker hp n hn
    exact h.offeredFresh picker hp n (Nat.lt_of_le_of_lt hgrows hn)
  · intro picker hp id data hoffers hdata
    obtain ⟨hcurrent, hroom⟩ := hpicker picker hp
    have hnotHost : id ≠ currentHostEntryId := fun heq => hcurrent (heq ▸ hoffers)
    have hnotNext : id ≠ historyEntryId (w.history.nextId + 1) := by
      intro heq
      exact h.offeredFresh picker hp _ (Nat.lt_succ_self _) (heq ▸ hoffers)
    refine h.offered picker hp id data hoffers ?_
    unfold selectedEntryDataByMime at hdata ⊢
    rw [if_neg hnotHost] at hdata ⊢
    by_cases hbridgeId : id = currentBridgeEntryId
    · rwa [if_pos hbridgeId] at hdata ⊢
    · rw [if_neg hbridgeId] at hdata ⊢
      exact dataFor_push hroom hnotNext hdata

lemma step (hundisturbed : w.Undisturbed event)
    (hmove : Moves htmlToText w event w') : w'.Stable := by
  -- a reader thread that has ended
  have hended : ∀ index, Stable { w with reads := w.reads.eraseIdx index } := fun index =>
    h.mono rfl (fun _ => id) (fun _ => id) (fun _ => id) h.log
  cases hmove with
  | same event => exact h
  | unseen _ | copied _ | lost _ _ =>
    exact h.mono rfl (fun _ => id) (fun _ => id) (fun _ => id) h.log
  | hostSelection selection htaken hreads =>
    exact h.mono rfl (by simp) (by simp) (fun _ => id) h.log
  | sent _ | served _ _ _ =>
    exact h.mono rfl (fun _ => id) (fun _ => id) (fun _ => id) (h.log.append (by simp))
  | sourceCancelled sourceId =>
    refine h.mono rfl ?_ (fun _ => id) (fun _ => id) h.log
    intro selection hselection
    simp only [sourceCancelled] at hselection
    split at hselection
    · cases hselection
    · exact hselection
  | openedHost event hlist => exact h.openPicker _ _ hlist.shows
  | openedPaste hbase hlist =>
    subst hbase
    have hwithout : w.withoutPicked.Stable :=
      h.mono rfl (fun _ => id) (fun _ => id) (fun _ => id) h.log
    exact hwithout.openPicker _ _ fun candidate hmem => (hlist.shows candidate hmem).withoutPicked
  | readFailed hread hfailed => exact hended _
  | bridgeRead hread hbytes =>
    refine (hended _).bridgeRead ?_
    intro picker hpicker
    exact hundisturbed picker hpicker _ hread
  | hostRead hread hdata =>
    refine (hended _).hostRead ?_
    intro picker hpicker
    exact hundisturbed picker hpicker _ hread
  | selectFailed _ _ | pickerEnds _ =>
    exact h.mono rfl (fun _ => id) (fun _ => id) (by simp) h.log
  | @selected picker entryId data requestId publication sourceSeq published hpicker hdata
      hpublished hmode =>
      obtain ⟨hrequest, hoffers⟩ := hundisturbed picker hpicker
      refine h.mono rfl (fun _ => id) (fun _ => id) (by simp) ?_
      intro picker' requestId' entryId' data' hmem
      rcases Trace.mem_snoc.mp hmem with hmem | hlast
      · exact h.log picker' requestId' entryId' data' hmem
      · cases hlast
        exact ⟨hrequest, hoffers, h.offered picker hpicker entryId data hoffers hdata⟩

/-! ## picks -/

end World.Stable

theorem picked_data_as_offered {events : List Event}
    (h : Trace.Run (· = World.init) (fun _ w event w' => w.Undisturbed event ∧
      w.step htmlToText event = some w') events w) : AsOffered w.log := by
  have hinv : w.Stable := by
    refine h.preserves ?_ ?_
    · refine ⟨?_, ?_, ?_, ?_, ?_, ?_⟩ <;> simp [World.init, empty, AsOffered]
    · intro _ s e s' ih hstep
      exact ih.step hstep.1 (moves_of_step hstep.2)
  exact hinv.log

open Sample

/-- A picker for a paste, with a copy of one VM in its list, and a copy of another VM
while it is open. -/
def copiedMeanwhile : List Event :=
  [.copySelection work "text/plain" 1 true, .readDone 0 [some [104, 105]] .done 1,
    .pasteRequest personal "text/plain" none true true .opened 2,
    .copySelection personal "text/plain" 5 true, .readDone 0 [some [110, 111]] .done 3,
    .select "paste-2" (bridgeHistoryEntryId work 1) .done]

/-- The data of the picks, with what the picker was shown. -/
def picks (mimeType : String) (log : List LogEntry) : List (String × Option Bytes × Option Bytes) :=
  log.filterMap fun
    | .selected picker _ entryId data =>
      some (entryId, (picker.entries entryId).bind (·[mimeType]?), data[mimeType]?)
    | _ => none

instance (w : World) : (event : Event) → Decidable (w.Undisturbed event)
  | .select .. => inferInstanceAs (Decidable (∀ picker ∈ w.picker, _ = _ ∧ _))
  | .readDone index _ _ _ =>
    have : ∀ (picker : ActivePicker) (read : Read), Decidable (match read with
        | .bridge identity _ sourceId => ¬ picker.Offers currentBridgeEntryId ∧
            ¬ picker.Offers (bridgeHistoryEntryId identity sourceId)
        | .host .. => ¬ picker.Offers currentHostEntryId ∧ w.history.nextId < 2 ^ 64 - 1) :=
      fun _ read => match read with
        | .bridge .. => inferInstanceAs (Decidable (_ ∧ _))
        | .host .. => inferInstanceAs (Decidable (_ ∧ _))
    inferInstanceAs (Decidable (∀ picker ∈ w.picker, ∀ read ∈ w.reads[index]?, _))
  | .selectionChanged .. | .selectionCleared | .sourceSend .. | .sourceCancelled _
  | .copySelection .. | .pasteRequest .. | .pickerEnds | .arm .. => .isTrue trivial

theorem picked_data_copied_meanwhile :
    ∃ w, Trace.Run (· = World.init) (fun _ w event w' => w.Undisturbed event ∧
        w.step (fun _ => none) event = some w') copiedMeanwhile w ∧
      picks "text/plain" w.log =
        [(bridgeHistoryEntryId work 1, some [104, 105], some [104, 105])] ∧ AsOffered w.log := by
  obtain ⟨w, hrun, hpicks⟩ := Trace.Run.exists_of_guarded (f := World.step fun _ => none)
    (c := World.Undisturbed) (P := fun w => picks "text/plain" w.log =
      [(bridgeHistoryEntryId work 1, some [104, 105], some [104, 105])])
    World.init copiedMeanwhile
  exact ⟨w, hrun, hpicks, picked_data_as_offered hrun⟩

/-- A host client asks for the copy of one VM; while the picker shows it, another VM
copies. -/
def currentReplaced : List Event :=
  [.copySelection work "text/plain" 1 true, .readDone 0 [some [104, 105]] .done 1,
    .sourceSend 1 "text/plain" (some { appId := some "editor", title := none }) true .opened 2,
    .copySelection personal "text/plain" 5 true, .readDone 0 [some [110, 111]] .done 3,
    .select "paste-2" currentBridgeEntryId .done]

theorem picked_data_replaced :
    ∃ w, Trace.Run (· = World.init) (fun _ w event w' =>
        w.step (fun _ => none) event = some w') currentReplaced w ∧
      picks "text/plain" w.log = [(currentBridgeEntryId, some [104, 105], some [110, 111])] ∧
      ¬ AsOffered w.log := by
  obtain ⟨w, hrun, hpicks⟩ := Trace.Run.exists_of_foldlM (f := World.step fun _ => none)
    (P := fun w => picks "text/plain" w.log =
      [(currentBridgeEntryId, some [104, 105], some [110, 111])])
    World.init currentReplaced
  refine ⟨w, hrun, hpicks, fun hall => ?_⟩
  have hmem : (currentBridgeEntryId, some [104, 105], some [110, 111]) ∈
      picks "text/plain" w.log := by simp [hpicks]
  obtain ⟨entry, hentry, hsome⟩ := mem_filterMap.mp hmem
  cases entry with
  | selected picker requestId entryId data =>
    obtain ⟨-, -, hdata⟩ := hall picker requestId entryId data hentry
    simp only [hdata, Option.bind_some, Option.some.injEq, Prod.mk.injEq] at hsome
    obtain ⟨-, hshown, hpublished⟩ := hsome
    rw [hshown] at hpublished
    simp at hpublished
  | opened _ _ | served _ _ _ | sent _ _ => cases hsome

end D2b.Clipd

import D2b.Clipd.EventLoop.Moves

/-!
# D2b.Clipd.EventLoop.LatestCopy

Whether the latest copy is the current selection.

Each copy is read by threads of its own, and what they have read is taken in the order
in which they end: nothing numbers the copies.  When the reads of two copies do not
overlap, and a copy of an endpoint is read and published, the current selection is
the latest copy as soon as no read is left.
-/

namespace D2b.Clipd

open World List

variable {htmlToText : Bytes → Option String} {w w' : World} {event : Event}

/-! ## the latest copy -/

/-- The copies as they were started. -/
structure Latest where
  /-- the copy that each read belongs to -/
  owners : List Nat
  /-- the number of the latest copy -/
  count : Nat
  /-- the endpoint that made it and its source id; a copy of the host has none -/
  source : Option (ClipboardEndpointIdentity × Nat)
  /-- what was read of it -/
  data : MimeData

namespace Latest

def init : Latest := { owners := [], count := 0, source := none, data := ∅ }

/-- Another copy, with its reads. -/
def start (g : Latest) (source : Option (ClipboardEndpointIdentity × Nat)) (reads : Nat) : Latest :=
  { owners := g.owners ++ List.replicate reads (g.count + 1)
    count := g.count + 1, source, data := ∅ }

/-- What a read adds to the data of its copy. -/
def readInto (data : MimeData) (read : Read) (results : List (Option Bytes)) : MimeData :=
  match read with
  | .bridge _ mimeType _ =>
    match results.head?.join with
    | some bytes => data.insert mimeType bytes
    | none => data
  | .host _ mimes => World.readData mimes results

/-- The MIME types of one source of an endpoint are one copy, and a client that takes the
selection from the daemon makes one. -/
def track (g : Latest) (w : World) : Event → Latest
  | .copySelection identity mimeType sourceId permit =>
    if isMimeAllowed mimeType && permit then
      if g.source = some (identity, sourceId) then { g with owners := g.owners ++ [g.count] }
      else g.start (some (identity, sourceId)) 1
    else g
  | .selectionChanged mimes live window quality attributed failed permit now =>
    if w.ignoresSelection window then g
    else
      g.start none ((w.selectionChanged mimes live window quality attributed failed permit
        now).reads.length - w.reads.length)
  | .sourceCancelled sourceId =>
    if w.publishedSelection.any (·.dataControlSourceId == sourceId) ||
        w.bridgeSelection.any (·.dataControlSourceId == sourceId) then g.start none 0
    else g
  | .readDone index results _ _ =>
    match w.reads[index]?, g.owners[index]? with
    | some read, some owner =>
      { g with
        owners := g.owners.eraseIdx index
        data := if owner = g.count then readInto g.data read results else g.data }
    | _, _ => g
  | _ => g

end Latest

/-- The current selection is the latest copy, wherever a paste looks. -/
def World.IsLatest (w : World) (g : Latest) : Prop :=
  match g.source with
  | some (identity, sourceId) =>
    (∃ selection, w.bridgeSelection = some selection ∧ selection.identity = identity ∧
      selection.sourceId = sourceId ∧ selection.dataByMime = g.data) ∧
    (∃ published, w.publishedSelection = some published ∧ published.mode = .discovery ∧
      published.dataByMime = g.data) ∧
    w.currentHostEntry = none
  | none => w.bridgeSelection = none ∧ w.publishedSelection = none ∧
      w.currentHostEntry.map (·.dataByMime) = if g.data.isEmpty then none else some g.data

def Read.IsOf (identity : ClipboardEndpointIdentity) (sourceId : Nat) : Read → Prop
  | .bridge identity' _ sourceId' => identity' = identity ∧ sourceId' = sourceId
  | .host .. => False

instance (identity : ClipboardEndpointIdentity) (sourceId : Nat) :
    (read : Read) → Decidable (read.IsOf identity sourceId)
  | .bridge .. => inferInstanceAs (Decidable (_ ∧ _))
  | .host .. => .isFalse id

/-- A copy of an endpoint has another read, or a part that was read, when this one fails. -/
def World.EndsWell (w : World) (results : List (Option Bytes)) (publication : Publication) :
    Read → Prop
  | .bridge identity _ sourceId =>
    if results.head?.join = none then
      1 < w.reads.length ∨ (w.bridgeSelection.any fun selection =>
        selection.identity = identity ∧ selection.sourceId = sourceId) = true
    else publication = .done
  | .host .. => True

instance (w : World) (results : List (Option Bytes)) (publication : Publication) :
    (read : Read) → Decidable (w.EndsWell results publication read)
  | .bridge .. => inferInstanceAs (Decidable (if results.head?.join = none then _ ∨ _ else _))
  | .host .. => .isTrue trivial

/-- No copy starts while another is read, some MIME type of each copy of an endpoint is
read, and what is read is published; the user picks nothing. -/
def World.OneCopyAtATime (w : World) : Event → Prop
  | .copySelection identity mimeType sourceId permit =>
    (isMimeAllowed mimeType && permit) = true → ∀ read ∈ w.reads, read.IsOf identity sourceId
  | .selectionChanged _ _ window _ _ _ _ _ => w.ignoresSelection window = false → w.reads = []
  | .sourceCancelled sourceId =>
    (w.publishedSelection.any (·.dataControlSourceId == sourceId) ||
      w.bridgeSelection.any (·.dataControlSourceId == sourceId)) = true → w.reads = []
  | .readDone index results publication _ => ∀ read ∈ w.reads[index]?,
      w.EndsWell results publication read
  | .select .. => False
  | _ => True

/-! ## runs -/

structure World.Follows (w : World) (g : Latest) : Prop where
  owners : g.owners = List.replicate w.reads.length g.count
  bridgeReads : ∀ identity mimeType sourceId, .bridge identity mimeType sourceId ∈ w.reads →
    g.source = some (identity, sourceId)
  hostReads : ∀ entry mimes, .host entry mimes ∈ w.reads → g.source = none ∧
    g.data = ∅ ∧ entry.sourceRealmKind = .host ∧ w.reads.length = 1
  /-- nothing was read of the copy yet, and another one is current -/
  started : ∀ identity sourceId, g.source = some (identity, sourceId) → g.data = ∅ →
    w.reads ≠ [] ∧ ∀ selection, w.bridgeSelection = some selection →
      selection.identity ≠ identity ∨ selection.sourceId ≠ sourceId
  current : g.data ≠ ∅ ∨ g.source = none → w.IsLatest g
  discovery : ∀ published, w.publishedSelection = some published → published.mode = .discovery
  /-- both are of one data-control source -/
  sameSource : ∀ published selection, w.publishedSelection = some published →
    w.bridgeSelection = some selection →
    published.dataControlSourceId = selection.dataControlSourceId

variable {g : Latest}

/-- The host has a selection of its own, and nothing was read of one that is still read. -/
lemma World.follows_host (hsource : g.source = none)
    (howners : g.owners = List.replicate w.reads.length g.count)
    (hreads : w.reads = [] ∨ ∃ entry mimes, entry.sourceRealmKind = .host ∧
      w.reads = [.host entry mimes] ∧ g.data = ∅)
    (hbridge : w.bridgeSelection = none) (hpublished : w.publishedSelection = none)
    (hhost : w.currentHostEntry.map (·.dataByMime) =
      if g.data.isEmpty then none else some g.data) : w.Follows g := by
  refine ⟨howners, ?_, ?_, ?_, ?_, ?_, ?_⟩
  · intro identity mimeType sourceId hmem
    rcases hreads with hnone | ⟨entry, mimes, -, hone, -⟩
    · rw [hnone] at hmem
      cases hmem
    · rw [hone] at hmem
      cases mem_singleton.mp hmem
  · intro entry mimes hmem
    rcases hreads with hnone | ⟨entry', mimes', hkind, hone, hdata⟩
    · rw [hnone] at hmem
      cases hmem
    · rw [hone] at hmem ⊢
      cases mem_singleton.mp hmem
      exact ⟨hsource, hdata, hkind, rfl⟩
  · intro identity sourceId hsome
    cases hsource.symm.trans hsome
  · intro _
    simp only [World.IsLatest, hsource]
    exact ⟨hbridge, hpublished, hhost⟩
  · simp [hpublished]
  · simp [hpublished]

/-- A copy that is published has one source for both. -/
lemma bridgeCopyReady_sameSource (w : World) (identity : ClipboardEndpointIdentity)
    (mimeType : String) (sourceId : Nat) (bytes : Bytes) (now : Nat) :
    ∀ published selection,
      (w.bridgeCopyReady identity mimeType sourceId bytes .done now).publishedSelection =
        some published →
      (w.bridgeCopyReady identity mimeType sourceId bytes .done now).bridgeSelection =
        some selection →
      published.dataControlSourceId = selection.dataControlSourceId := by
  intro published selection hpublished hbridge
  unfold bridgeCopyReady publishDataControlSelection at hpublished hbridge
  simp only [copiedSelection_nonempty, Bool.false_eq_true, if_false, reduceCtorEq,
    Option.some.injEq] at hpublished hbridge
  rw [← hpublished, ← hbridge]

namespace World.Follows

variable (h : w.Follows g)
include h

/-- A step that changes no selection and starts and ends no read. -/
lemma congr (hreads : w'.reads = w.reads)
    (hbridge : w'.bridgeSelection = w.bridgeSelection)
    (hpublished : w'.publishedSelection = w.publishedSelection)
    (hhost : w'.currentHostEntry = w.currentHostEntry) : w'.Follows g := by
  cases w
  cases w'
  cases hreads
  cases hbridge
  cases hpublished
  cases hhost
  exact ⟨h.owners, h.bridgeReads, h.hostReads, h.started, h.current, h.discovery, h.sameSource⟩

/-- No read is left, so the latest copy is current. -/
lemma isLatest (hreads : w.reads = []) : w.IsLatest g := by
  refine h.current ?_
  cases hsource : g.source with
  | none => exact .inr rfl
  | some source =>
    refine .inl fun hempty => ?_
    exact (h.started source.1 source.2 hsource hempty).1 hreads

/-- A picker opens or ends, or a host client is served. -/
lemma aside (hmove : Moves htmlToText w event w')
    (haside : match event with
      | .sourceSend .. | .pasteRequest .. | .arm .. | .pickerEnds | .selectionCleared => True
      | _ => False) : w'.Follows g := by
  have hopen : ∀ base launch endpoint request, base.reads = w.reads →
      base.bridgeSelection = w.bridgeSelection →
      base.publishedSelection = w.publishedSelection →
      base.currentHostEntry = w.currentHostEntry →
      (openPicker base launch endpoint request).Follows g := by
    intro base launch endpoint request hreads hbridge hpublished hhost
    have hbase := h.congr hreads hbridge hpublished hhost
    unfold openPicker
    split
    · exact hbase
    · cases launch with
      | failed => exact hbase
      | aborted | opened => exact hbase.congr rfl rfl rfl rfl
  cases hmove with
  | same event => exact h
  | unseen _ | sent _ | pickerEnds _ => exact h.congr rfl rfl rfl rfl
  | openedHost event hlist => exact hopen w _ _ _ rfl rfl rfl rfl
  | openedPaste hbase hlist =>
    subst hbase
    refine hopen _ _ _ _ rfl rfl ?_ rfl
    -- nothing was picked, so nothing is dropped
    cases hpublished : w.publishedSelection with
    | none => simp [withoutPicked, hpublished]
    | some published =>
      simp [withoutPicked, hpublished, h.discovery published hpublished]
  | served hpublished hmode hbytes =>
    rw [h.discovery _ hpublished] at hmode
    cases hmode
  | lost hpublished hmode =>
    rw [h.discovery _ hpublished] at hmode
    cases hmode
  | hostSelection | sourceCancelled | copied | readFailed | bridgeRead | hostRead
  | selectFailed | selected => cases haside

/-- No read is pending, so none is owned. -/
lemma owners_nil (hreads : w.reads = []) : g.owners = [] := by
  rw [h.owners, hreads]
  rfl

variable {identity : ClipboardEndpointIdentity} {sourceId : Nat}

lemma copied {mimeType : String}
    (hcond : w.OneCopyAtATime (.copySelection identity mimeType sourceId permit)) :
    (w.copySelection identity mimeType sourceId permit).Follows
      (g.track w (.copySelection identity mimeType sourceId permit)) := by
  unfold copySelection Latest.track
  by_cases haccept : (isMimeAllowed mimeType && permit) = true
  · have hpending := hcond haccept
    rw [if_pos haccept]
    simp only [haccept, if_true]
    have hnohost : ∀ entry mimes, Read.host entry mimes ∉ w.reads := by
      intro entry mimes hmem
      exact hpending _ hmem
    by_cases hsame : g.source = some (identity, sourceId)
    · rw [if_pos hsame]
      refine ⟨?_, ?_, ?_, ?_, h.current, h.discovery, h.sameSource⟩
      · simp [h.owners, replicate_succ']
      · intro identity' mimeType' sourceId' hmem
        rcases Trace.mem_snoc.mp hmem with hmem | hlast
        · exact h.bridgeReads _ _ _ hmem
        · cases hlast
          exact hsame
      · intro entry mimes hmem
        rcases Trace.mem_snoc.mp hmem with hmem | hlast
        · exact absurd hmem (hnohost entry mimes)
        · cases hlast
      · intro identity' sourceId' hsource hempty
        exact ⟨by simp, (h.started identity' sourceId' hsource hempty).2⟩
    · rw [if_neg hsame]
      -- a read that is pending would be of this very copy
      have hreads : w.reads = [] := by
        rw [eq_nil_iff_forall_not_mem]
        intro read hmem
        have hread := hpending read hmem
        cases read with
        | bridge identity' mimeType' sourceId' =>
          obtain ⟨rfl, rfl⟩ := hread
          exact hsame (h.bridgeReads _ _ _ hmem)
        | host entry mimes => exact hread
      have hlatest := h.isLatest hreads
      refine ⟨?_, ?_, ?_, ?_, ?_, h.discovery, h.sameSource⟩
      · simp [Latest.start, h.owners_nil hreads, hreads]
      · intro identity' mimeType' sourceId' hmem
        rw [hreads] at hmem
        cases mem_singleton.mp hmem
        rfl
      · intro entry mimes hmem
        rw [hreads] at hmem
        cases mem_singleton.mp hmem
      · intro identity' sourceId' hsource _
        cases hsource
        refine ⟨by simp, ?_⟩
        intro selection hselection
        unfold World.IsLatest at hlatest
        cases hsource : g.source with
        | none =>
          simp only [hsource] at hlatest
          rw [hlatest.1] at hselection
          cases hselection
        | some source =>
          simp only [hsource] at hlatest
          obtain ⟨⟨found, hfound, hidentity, hid, -⟩, -⟩ := hlatest
          rw [hfound] at hselection
          cases hselection
          rw [hsource] at hsame
          by_contra hboth
          simp only [not_or, ne_eq, not_not] at hboth
          refine hsame ?_
          rw [← hboth.1, ← hboth.2, hidentity, hid]
      · intro hor
        rcases hor with hdata | hsource
        · exact absurd rfl hdata
        · cases hsource
  · rw [if_neg haccept]
    simp only [haccept, Bool.false_eq_true, if_false]
    exact h

lemma hostSelection {mimes : List String}
    (hcond : w.OneCopyAtATime
      (.selectionChanged mimes live window quality attributed failed permit now)) :
    (w.selectionChanged mimes live window quality attributed failed permit now).Follows
      (g.track w (.selectionChanged mimes live window quality attributed failed permit now)) := by
  simp only [Latest.track]
  by_cases hignored : w.ignoresSelection window = true
  · rw [if_pos hignored]
    simp only [selectionChanged, hignored, if_true]
    exact h.congr rfl rfl rfl rfl
  · rw [if_neg hignored]
    have hreads : w.reads = [] := hcond (Bool.eq_false_iff.mpr hignored)
    simp only [selectionChanged, hignored, Bool.false_eq_true, if_false, hreads,
      nil_append, length_nil, Nat.sub_zero]
    refine follows_host rfl (by simp [Latest.start, h.owners_nil hreads]) ?_ rfl rfl
      (by simp [Latest.start])
    split
    · exact .inr ⟨_, _, rfl, rfl, rfl⟩
    · exact .inl rfl

lemma cancelled
    (hcond : w.OneCopyAtATime (.sourceCancelled sourceId)) :
    (w.sourceCancelled sourceId).Follows (g.track w (.sourceCancelled sourceId)) := by
  simp only [Latest.track]
  by_cases hours : (w.publishedSelection.any (·.dataControlSourceId == sourceId) ||
      w.bridgeSelection.any (·.dataControlSourceId == sourceId)) = true
  · rw [if_pos hours]
    have hreads : w.reads = [] := hcond hours
    have hlatest := h.isLatest hreads
    unfold World.IsLatest at hlatest
    cases hsource : g.source with
    | none =>
      simp only [hsource] at hlatest
      simp [hlatest.1, hlatest.2.1] at hours
    | some source =>
      simp only [hsource] at hlatest
      obtain ⟨⟨selection, hbridge, -⟩, ⟨published, hpublished, -⟩, hhost⟩ := hlatest
      have hsame := h.sameSource published selection hpublished hbridge
      have hid : selection.dataControlSourceId = sourceId := by
        simpa [hbridge, hpublished, hsame] using hours
      refine follows_host rfl ?_ (.inl hreads) ?_ ?_ (by simp [sourceCancelled, hhost,
        Latest.start])
      · simp [sourceCancelled, hreads, Latest.start, h.owners_nil hreads]
      · simp [sourceCancelled, hbridge, hid]
      · simp [sourceCancelled, hpublished, hsame, hid]
  · rw [if_neg hours]
    simp only [Bool.or_eq_true, not_or] at hours
    refine h.congr rfl ?_ ?_ rfl
    · simp only [sourceCancelled, if_neg hours.2]
    · simp only [sourceCancelled, if_neg hours.1]

/-! ### reads that end -/

variable {index : Nat}

/-- A read is of the latest copy. -/
lemma owner {read : Read} (hread : w.reads[index]? = some read) :
    g.owners[index]? = some g.count := by
  obtain ⟨hlt, -⟩ := List.getElem?_eq_some_iff.mp hread
  rw [h.owners, getElem?_replicate, if_pos hlt]

variable {results : List (Option Bytes)} {publication : Publication}

lemma track_readDone {read : Read}
    (hread : w.reads[index]? = some read) : g.track w (.readDone index results publication now) =
      { g with
        owners := g.owners.eraseIdx index
        data := Latest.readInto g.data read results } := by
  simp [Latest.track, hread, h.owner hread]

lemma owners_eraseIdx {read : Read}
    (hread : w.reads[index]? = some read) :
    g.owners.eraseIdx index = List.replicate (w.reads.eraseIdx index).length g.count := by
  obtain ⟨hlt, -⟩ := List.getElem?_eq_some_iff.mp hread
  rw [h.owners, eraseIdx_replicate, if_pos hlt, length_eraseIdx_of_lt hlt]

/-- What is read of a copy is added to its selection. -/
lemma copiedSelection
    (hsource : g.source = some (identity, sourceId)) (mimeType : String) (bytes : Bytes)
    (now : Nat) :
    (w.copiedSelection identity mimeType sourceId bytes now).identity = identity ∧
      (w.copiedSelection identity mimeType sourceId bytes now).sourceId = sourceId ∧
      (w.copiedSelection identity mimeType sourceId bytes now).dataByMime =
        g.data.insert mimeType bytes := by
  by_cases hempty : g.data = ∅
  · obtain ⟨-, hother⟩ := h.started identity sourceId hsource hempty
    cases hbridge : w.bridgeSelection with
    | none => simp [World.copiedSelection, bridgeSelectionFor, hbridge, hempty]
    | some selection =>
      simp [World.copiedSelection, bridgeSelectionFor, hbridge, hother selection hbridge, hempty]
  · have hlatest := h.current (.inl hempty)
    simp only [World.IsLatest, hsource] at hlatest
    obtain ⟨⟨selection, hbridge, hidentity, hid, hdata⟩, -⟩ := hlatest
    simp [World.copiedSelection, bridgeSelectionFor, hbridge, hidentity, hid, hdata]

lemma bridgeRead {mimeType : String}
    (hread : w.reads[index]? = some (.bridge identity mimeType sourceId)) (now : Nat) :
    ({ w with reads := w.reads.eraseIdx index }.bridgeCopyReady identity mimeType sourceId bytes
      .done now).Follows
      { g with
        owners := g.owners.eraseIdx index
        data := g.data.insert mimeType bytes } := by
  have hsource := h.bridgeReads _ _ _ (mem_of_getElem? hread)
  obtain ⟨hidentity, hid, hdata⟩ := h.copiedSelection hsource mimeType bytes now
  have hcopies := copies_bridgeCopyReady { w with reads := w.reads.eraseIdx index } identity
    mimeType sourceId bytes .done now
  obtain ⟨id, hbridge⟩ := hcopies.bridge
  obtain ⟨published, hpublished, hmode, hsame, -⟩ := hcopies.published
  have hne : g.data.insert mimeType bytes ≠ ∅ := by
    intro hempty
    simpa using Std.ExtTreeMap.isEmpty_iff.mpr hempty
  refine ⟨?_, ?_, ?_, ?_, ?_, ?_, ?_⟩
  · rw [hcopies.reads]
    exact h.owners_eraseIdx hread
  · intro identity' mimeType' sourceId' hmem
    rw [hcopies.reads] at hmem
    exact h.bridgeReads _ _ _ (mem_of_mem_eraseIdx hmem)
  · intro entry mimes hmem
    rw [hcopies.reads] at hmem
    have hnone := (h.hostReads entry mimes (mem_of_mem_eraseIdx hmem)).1
    rw [hsource] at hnone
    cases hnone
  · intro identity' sourceId' _ hempty
    exact absurd hempty hne
  · intro _
    simp only [World.IsLatest, hsource]
    refine ⟨⟨_, hbridge, hidentity, hid, hdata⟩, ⟨published, hpublished, hmode, ?_⟩,
      hcopies.currentHostEntry⟩
    rw [hsame]
    exact hdata
  · intro published' hpublished'
    rw [hpublished] at hpublished'
    cases hpublished'
    exact hmode
  · exact bridgeCopyReady_sameSource _ identity mimeType sourceId bytes now

lemma bridgeReadFailed
    (hread : w.reads[index]? = some (.bridge identity mimeType sourceId))
    (hother : 1 < w.reads.length ∨ w.bridgeSelection.any fun selection =>
      selection.identity = identity ∧ selection.sourceId = sourceId) :
    World.Follows { w with reads := w.reads.eraseIdx index }
      { g with owners := g.owners.eraseIdx index } := by
  have hsource := h.bridgeReads _ _ _ (mem_of_getElem? hread)
  obtain ⟨hlt, -⟩ := List.getElem?_eq_some_iff.mp hread
  refine ⟨h.owners_eraseIdx hread, ?_, ?_, ?_, h.current, h.discovery, h.sameSource⟩
  · intro identity' mimeType' sourceId' hmem
    exact h.bridgeReads _ _ _ (mem_of_mem_eraseIdx hmem)
  · intro entry mimes hmem
    have hnone := (h.hostReads entry mimes (mem_of_mem_eraseIdx hmem)).1
    rw [hsource] at hnone
    cases hnone
  · intro identity' sourceId' hsource' hempty
    obtain ⟨-, hbridge⟩ := h.started identity' sourceId' hsource' hempty
    rw [hsource] at hsource'
    cases hsource'
    refine ⟨?_, hbridge⟩
    rcases hother with hlen | hany
    · rw [← length_pos_iff, length_eraseIdx_of_lt hlt]
      omega
    · obtain ⟨selection, hselection, hsame⟩ := (Option.any_eq_true _ _).mp hany
      have hsame := of_decide_eq_true hsame
      rcases hbridge selection hselection with hne | hne
      · exact absurd hsame.1 hne
      · exact absurd hsame.2 hne

lemma hostRead {entry : ClipboardHistoryEntry}
    (hread : w.reads[index]? = some (.host entry mimes)) :
    ({ w with reads := w.reads.eraseIdx index }.readDone (.host entry mimes) results publication
      now).Follows
      { g with
        owners := g.owners.eraseIdx index
        data := readData mimes results } := by
  obtain ⟨hsource, hdata, hkind, hlen⟩ := h.hostReads _ _ (mem_of_getElem? hread)
  have howners := h.owners_eraseIdx hread
  obtain ⟨hlt, -⟩ := List.getElem?_eq_some_iff.mp hread
  have hreads : w.reads.eraseIdx index = [] := by
    rw [← length_eq_zero_iff, length_eraseIdx_of_lt hlt]
    omega
  have hlatest := h.current (.inr hsource)
  simp only [World.IsLatest, hsource] at hlatest
  obtain ⟨hbridge, hpublished, hhost⟩ := hlatest
  rw [hreads] at howners ⊢
  simp only [readDone]
  by_cases hempty : (readData mimes results).isEmpty = true
  · rw [if_pos hempty]
    refine World.follows_host hsource howners (.inl rfl) hbridge hpublished ?_
    rw [if_pos hempty]
    simpa [hdata] using hhost
  · rw [if_neg hempty]
    refine World.follows_host hsource howners (.inl rfl) hbridge hpublished ?_
    simp [hostEntryReady, hkind, hempty]

lemma readDone {read : Read} (hread : w.reads[index]? = some read)
    (hcond : w.OneCopyAtATime (.readDone index results publication now)) :
    ({ w with reads := w.reads.eraseIdx index }.readDone read results publication now).Follows
      (g.track w (.readDone index results publication now)) := by
  have hcond := hcond read hread
  rw [h.track_readDone hread]
  cases read with
  | host entry mimes => exact h.hostRead hread
  | bridge identity mimeType sourceId =>
    simp only [World.EndsWell] at hcond
    cases hbytes : results.head?.join with
    | none =>
      rw [if_pos hbytes] at hcond
      simp only [World.readDone, Latest.readInto, hbytes]
      exact h.bridgeReadFailed hread hcond
    | some bytes =>
      rw [if_neg (by simp [hbytes])] at hcond
      subst hcond
      simp only [World.readDone, Latest.readInto, hbytes]
      exact h.bridgeRead hread now

lemma step (hcond : w.OneCopyAtATime event)
    (hstep : w.step htmlToText event = some w') : w'.Follows (g.track w event) := by
  cases event with
  | copySelection identity mimeType sourceId permit =>
    rw [← Option.some.inj hstep]
    exact h.copied hcond
  | selectionChanged mimes live window quality attributed failed permit now =>
    rw [← Option.some.inj hstep]
    exact h.hostSelection hcond
  | sourceCancelled sourceId =>
    rw [← Option.some.inj hstep]
    exact h.cancelled hcond
  | readDone index results publication now =>
    cases hread : w.reads[index]? with
    | none => simp [step, hread] at hstep
    | some read =>
      simp only [step, hread] at hstep
      rw [← Option.some.inj hstep]
      exact h.readDone hread hcond
  | select requestId entryId publication => exact absurd hcond id
  | selectionCleared | sourceSend _ _ _ _ _ _ | pasteRequest _ _ _ _ _ _ _ | pickerEnds
  | arm _ _ _ => exact h.aside (moves_of_step hstep) trivial

end World.Follows

/-! ## the current selection -/

/-- The daemon's state with the copies as they were started. -/
def trackedStep (htmlToText : Bytes → Option String) (s : World × Latest) (event : Event) :
    Option (World × Latest) :=
  (s.1.step htmlToText event).map fun w => (w, s.2.track s.1 event)

theorem latest_copy_current {events : List Event} {s : World × Latest}
    (h : Trace.Run (· = (World.init, Latest.init)) (fun _ s event s' =>
      s.1.OneCopyAtATime event ∧ trackedStep htmlToText s event = some s') events s)
    (hreads : s.1.reads = []) : s.1.IsLatest s.2 := by
  have hinv : s.1.Follows s.2 := by
    apply h.preserves
    · refine ⟨rfl, ?_, ?_, ?_, ?_, ?_, ?_⟩ <;> simp [World.init, Latest.init, World.IsLatest]
    · intro _ s e s' ih hstep
      obtain ⟨w, hw, rfl⟩ := Option.map_eq_some_iff.mp hstep.2
      exact ih.step hstep.1 hw
  exact hinv.isLatest hreads

instance (w : World) : (event : Event) → Decidable (w.OneCopyAtATime event)
  | .copySelection .. => inferInstanceAs (Decidable (_ = true → ∀ read ∈ w.reads, _))
  | .selectionChanged .. | .sourceCancelled _ =>
    have : Decidable (w.reads = []) := decidable_of_iff _ isEmpty_iff
    inferInstanceAs (Decidable (_ = _ → w.reads = []))
  | .readDone index .. => inferInstanceAs (Decidable (∀ read ∈ w.reads[index]?, _))
  | .select .. => .isFalse id
  | .selectionCleared | .sourceSend .. | .pasteRequest .. | .pickerEnds | .arm .. => .isTrue trivial

open Sample

/-- Two endpoints copy, and the reads end in the order given. -/
def twoCopies (reads : List Event) : List Event :=
  Event.copySelection work "text/plain" 1 true :: reads

/-- The current selection is this endpoint's, of this text. -/
def World.bridgeIs (w : World) (identity : ClipboardEndpointIdentity) (bytes : Bytes) : Bool :=
  w.bridgeSelection.any fun selection =>
    decide (selection.identity = identity) && selection.dataByMime["text/plain"]? == some bytes

theorem latest_copy_current_in_turn :
    ∃ s, Trace.Run (· = (World.init, Latest.init)) (fun _ s event s' =>
        s.1.OneCopyAtATime event ∧ trackedStep (fun _ => none) s event = some s')
        (twoCopies [.readDone 0 [some [97]] .done 1, .copySelection personal "text/plain" 1 true,
          .readDone 0 [some [98]] .done 2]) s ∧
      s.1.reads = [] ∧ s.1.bridgeIs personal [98] = true ∧ s.1.IsLatest s.2 := by
  obtain ⟨s, hrun, hreads, hpersonal⟩ := Trace.Run.exists_of_guarded
    (f := trackedStep fun _ => none) (c := fun s event => s.1.OneCopyAtATime event)
    (P := fun s => s.1.reads = [] ∧ s.1.bridgeIs personal [98] = true) (World.init, Latest.init)
    (twoCopies [.readDone 0 [some [97]] .done 1, .copySelection personal "text/plain" 1 true,
      .readDone 0 [some [98]] .done 2])
  exact ⟨s, hrun, hreads, hpersonal, latest_copy_current hrun hreads⟩

/-- The read of the first copy ends last, and the first copy is current. -/
theorem earlier_copy_current :
    ∃ s, Trace.Run (· = (World.init, Latest.init)) (fun _ s event s' =>
        trackedStep (fun _ => none) s event = some s')
        (twoCopies [.copySelection personal "text/plain" 1 true,
          .readDone 1 [some [98]] .done 1, .readDone 0 [some [97]] .done 2]) s ∧
      s.1.reads = [] ∧ s.2.source = some (personal, 1) ∧ s.1.bridgeIs work [97] = true ∧
      ¬ s.1.IsLatest s.2 := by
  obtain ⟨s, hrun, hreads, hsource, hwork⟩ := Trace.Run.exists_of_foldlM
    (f := trackedStep fun _ => none) (P := fun s => s.1.reads = [] ∧
      s.2.source = some (personal, 1) ∧ s.1.bridgeIs work [97] = true) (World.init, Latest.init)
    (twoCopies [.copySelection personal "text/plain" 1 true,
      .readDone 1 [some [98]] .done 1, .readDone 0 [some [97]] .done 2])
  refine ⟨s, hrun, hreads, hsource, hwork, ?_⟩
  intro hlatest
  simp only [World.IsLatest, hsource] at hlatest
  obtain ⟨⟨selection, hbridge, hpersonal, -⟩, -⟩ := hlatest
  simp only [bridgeIs, hbridge, Option.any_some, Bool.and_eq_true, decide_eq_true_eq,
    hpersonal] at hwork
  exact absurd hwork.1 (by decide)

end D2b.Clipd

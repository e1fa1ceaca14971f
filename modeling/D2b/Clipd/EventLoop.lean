import D2b.Clipd.History
import D2b.Lib.Run

/-!
# D2b.Clipd.EventLoop

The clipboard daemon's event loop (`main.rs`): copies of the host and of bridge
endpoints, the threads that read them, the picker, and pastes.

The loop handles one event at a time.  What other programs and the kernel decide is
part of the event: the focused window, whether a call succeeds, what a reader thread
has read and when the loop takes it.  A log records what is sent to pickers and
written to paste transfers.
-/

namespace D2b.Clipd

/-! ## state -/

structure BridgeSelectionState where
  identity : ClipboardEndpointIdentity
  sourceId : Nat
  dataControlSourceId : Nat
  historyEntryId : String
  timestampUnixMs : Nat
  suppressSelectionEcho : Bool
  dataByMime : MimeData

inductive PublishedSelectionMode where
  /-- announces that a bridge endpoint has a selection; its data are not served -/
  | discovery
  /-- chosen by the user in a picker -/
  | selected
deriving DecidableEq

structure PublishedSelectionState where
  dataControlSourceId : Nat
  dataByMime : MimeData
  mode : PublishedSelectionMode
  suppressSelectionEcho : Bool
  /-- not kept by the daemon: the data are a host selection's that was offered with a hint -/
  hinted : Bool

def publishedSelectionCanServeBridgePaste (mode : PublishedSelectionMode) : Bool :=
  decide (mode = .selected)

/-- The selection last seen on the host (`host.rs`). -/
structure HostSelection where
  /-- there is something to read -/
  offer : Bool
  allowedMimes : List String
  hasSecret : Bool
  quality : AttributionQuality
  window : Option FocusedWindowSnapshot

/-- A reader thread. -/
inductive Read where
  | bridge (identity : ClipboardEndpointIdentity) (mimeType : String) (sourceId : Nat)
  | host (entry : ClipboardHistoryEntry) (mimes : List String)

/-- The picker that runs, with what it was sent. -/
structure ActivePicker where
  request : OpenRequest
  /-- the endpoint whose paste it was opened for -/
  endpoint : Option ClipboardEndpointIdentity
  /-- what each entry id denoted then -/
  entries : String → Option MimeData

inductive LogEntry where
  | opened (request : OpenRequest) (endpoint : Option ClipboardEndpointIdentity)
  /-- a `Select` of this picker was published -/
  | selected (picker : ActivePicker) (requestId entryId : String) (dataByMime : MimeData)
  /-- written to a paste transfer of an endpoint -/
  | served (identity : ClipboardEndpointIdentity) (mimeType : String) (bytes : Bytes)
  /-- written to a client of the host -/
  | sent (mimeType : String) (bytes : Bytes)

structure World where
  bridgeSelection : Option BridgeSelectionState
  publishedSelection : Option PublishedSelectionState
  currentHostEntry : Option ClipboardHistoryEntry
  history : ClipboardHistory
  hostSelection : Option HostSelection
  picker : Option ActivePicker
  /-- the last id given to a data-control source -/
  sourceSeq : Nat
  reads : List Read
  log : List LogEntry

/-! ## events -/

/-- How far the launch of a picker gets. -/
inductive Launch where
  | failed
  /-- the request was sent, in part at least, and the picker is stopped -/
  | aborted
  | opened
deriving DecidableEq

/-- How far the publication of a selection gets. -/
inductive Publication where
  | refused
  | flushFails
  | done
deriving DecidableEq

inductive Event where
  /-- the host selection changes; `failed` names the MIME types without a pipe -/
  | selectionChanged (mimes : List String) (live : Bool) (window : Option FocusedWindowSnapshot)
      (quality : AttributionQuality) (attributed : Option FocusedWindowSnapshot)
      (failed : List String) (permit : Bool) (now : Nat)
  | selectionCleared
  | sourceSend (sourceId : Nat) (mimeType : String) (window : Option FocusedWindowSnapshot)
      (permit : Bool) (launch : Launch) (now : Nat)
  | sourceCancelled (sourceId : Nat)
  | copySelection (identity : ClipboardEndpointIdentity) (mimeType : String) (sourceId : Nat)
      (permit : Bool)
  | pasteRequest (identity : ClipboardEndpointIdentity) (mimeType : String)
      (window : Option FocusedWindowSnapshot) (audited permit : Bool) (launch : Launch) (now : Nat)
  /-- the loop takes the result of a reader thread, one for each MIME type -/
  | readDone (index : Nat) (results : List (Option Bytes)) (publication : Publication) (now : Nat)
  | select (requestId entryId : String) (publication : Publication)
  /-- a `Cancel`, a picker that exits, or its deadline -/
  | pickerEnds
  | arm (window : Option FocusedWindowSnapshot) (launch : Launch) (now : Nat)

/-! ## windows -/

def startsWith (pattern text : String) : Bool := pattern.toList.isPrefixOf text.toList

def focusedAppMatchesVm (appId : Option String) (vmName : String) : Bool :=
  match appId with
  | none => false
  | some appId => appId == "d2b." ++ vmName || startsWith ("d2b." ++ vmName ++ ".") appId

def focusedAppMatchesEndpoint (appId : Option String) (identity : ClipboardEndpointIdentity) :
    Bool :=
  match appId with
  | none => false
  | some appId =>
    appId.toList == identity.appIdPrefix.toList.rdropWhile (· == '.') ||
      startsWith identity.appIdPrefix appId ||
      identity.legacyVmName.any fun vm => focusedAppMatchesVm (some appId) vm

def isForwardedVmAppId (appId : String) : Bool :=
  startsWith "d2b." appId && decide (appId.utf8ByteSize > "d2b.".utf8ByteSize)

variable (window : Option FocusedWindowSnapshot)

section

variable (bridgeSelection : Option BridgeSelectionState)

def focusedWindowMatchesBridgeSource : Bool :=
  match bridgeSelection with
  | none => false
  | some selection => focusedAppMatchesEndpoint (window.bind (·.appId)) selection.identity

def shouldSuppressPublishedSelectionEcho (publishedSelection : Option PublishedSelectionState) :
    Bool :=
  publishedSelection.any (·.suppressSelectionEcho)

def shouldDropDiscoverySourceSend : Bool :=
  window.isNone || focusedWindowMatchesBridgeSource window bridgeSelection

def shouldSuppressBridgeSelectionEcho : Bool :=
  match bridgeSelection with
  | none => false
  | some selection =>
    selection.suppressSelectionEcho &&
      (window.isNone || focusedWindowMatchesBridgeSource window bridgeSelection)

end

def FocusedWindowSnapshot.default : FocusedWindowSnapshot := { appId := none, title := none }

/-! ## candidates -/

section

variable (htmlToText : Bytes → Option String)

/-- `insert_live_host_candidate`: the host selection, of which nothing was read. -/
def insertLiveHostCandidate (candidates : List Candidate) (selection : HostSelection)
    (requestedMimeType : String) (now : Nat) : List Candidate :=
  { entryId := currentHostEntryId
    sourceRealm := "Host"
    sourceRealmKind := .host
    sourceCanonicalTarget := none
    sourceProviderKind := none
    sourceApp := (selection.window.bind (·.title)).or (some "Host clipboard")
    sourceAppId := selection.window.bind (·.appId)
    sourceAttribution := selection.quality
    previewText := none
    contentType := requestedMimeType
    timestampUnixMs := now
    byteCount := none
    hinted := selection.hasSecret } ::
    candidates.filter fun candidate => candidate.entryId != currentHostEntryId

/-- The entry stands first unless the newest candidate is newer. -/
def isNewest (entry : ClipboardHistoryEntry) (candidates : List Candidate) : Bool :=
  candidates.head?.all fun candidate => decide (entry.timestampUnixMs ≥ candidate.timestampUnixMs)

/-- The candidate of the current host entry, where it has a payload and is the newest. -/
def currentHostCandidate (currentHostEntry : Option ClipboardHistoryEntry)
    (candidates : List Candidate) (requestedMimeType : String) : Option Candidate :=
  match currentHostEntry with
  | none => none
  | some entry =>
    match compatibleMimePayload htmlToText entry.dataByMime requestedMimeType with
    | none => none
    | some bytes =>
      if isNewest entry candidates then
        some (entry.candidate currentHostEntryId requestedMimeType bytes)
      else none

def pickerCandidates (hostSelection : Option HostSelection)
    (currentHostEntry : Option ClipboardHistoryEntry) (history : ClipboardHistory)
    (requestedMimeType : String) (now : Nat) : List Candidate :=
  let candidates := history.candidates htmlToText requestedMimeType
  match currentHostCandidate htmlToText currentHostEntry candidates requestedMimeType with
  | some current =>
    current :: candidates.filter fun candidate => candidate.entryId != currentHostEntryId
  | none =>
    match hostSelection with
    | none => candidates
    | some selection =>
      if !selection.offer || selection.allowedMimes.isEmpty then candidates
      else if (compatibleMimeName selection.allowedMimes requestedMimeType).isNone then
        candidates
      else insertLiveHostCandidate candidates selection requestedMimeType now

/-- The candidate of a bridge selection, from some data. -/
def bridgeCandidate (selection : BridgeSelectionState) (requestedMimeType : String)
    (bytes : Bytes) (timestampUnixMs : Nat) (hinted : Bool) : Candidate :=
  { entryId := currentBridgeEntryId
    sourceRealm := selection.identity.realmLabel
    sourceRealmKind := selection.identity.realmKind
    sourceCanonicalTarget := some selection.identity.targetLabel
    sourceProviderKind := some selection.identity.providerKind
    sourceApp := some selection.identity.sourceApp
    sourceAppId := some ("d2b." ++ selection.identity.targetLabel)
    sourceAttribution := .exactClient
    previewText := previewOf bytes
    contentType := requestedMimeType
    timestampUnixMs
    byteCount := some bytes.length
    hinted }

def pickerBridgeCandidates (selection : BridgeSelectionState) (requestedMimeType : String)
    (now : Nat) : List Candidate :=
  match compatibleMimePayload htmlToText selection.dataByMime requestedMimeType with
  | none => []
  | some bytes => [bridgeCandidate selection requestedMimeType bytes now false]

def pickerBridgeCandidatesForPublished (bridgeSelection : Option BridgeSelectionState)
    (published : PublishedSelectionState) (requestedMimeType : String) (now : Nat) :
    List Candidate :=
  match compatibleMimePayload htmlToText published.dataByMime requestedMimeType with
  | none => []
  | some bytes =>
    match bridgeSelection with
    | some selection =>
      [bridgeCandidate selection requestedMimeType bytes selection.timestampUnixMs
        published.hinted]
    | none =>
      [{ entryId := "published-selection"
         sourceRealm := "d2b"
         sourceRealmKind := .host
         sourceCanonicalTarget := none
         sourceProviderKind := none
         sourceApp := some "d2b clipboard"
         sourceAppId := some "d2b.clipboard"
         sourceAttribution := .exactClient
         previewText := previewOf bytes
         contentType := requestedMimeType
         timestampUnixMs := now
         byteCount := some bytes.length
         hinted := published.hinted }]

/-- The history without the selection and the other entries of its endpoint. -/
def otherCandidates (history : ClipboardHistory) (bridgeSelection : Option BridgeSelectionState)
    (requestedMimeType : String) : List Candidate :=
  (history.candidatesExcluding htmlToText requestedMimeType
    (bridgeSelection.map (·.historyEntryId))).filter fun candidate =>
      match bridgeSelection, candidate.sourceCanonicalTarget with
      | some selection, some target => target != selection.identity.targetLabel
      | _, _ => true

end

/-! ## handlers -/

namespace World

def init : World :=
  { bridgeSelection := none, publishedSelection := none, currentHostEntry := none,
    history := .empty, hostSelection := none, picker := none, sourceSeq := 0, reads := [],
    log := [] }

variable (w : World)

def selectedEntryDataByMime (entryId : String) : Option MimeData :=
  if entryId = currentHostEntryId then
    (w.currentHostEntry.map (·.dataByMime)).filter fun data => !data.isEmpty
  else if entryId = currentBridgeEntryId then
    (w.bridgeSelection.map (·.dataByMime)).filter fun data => !data.isEmpty
  else w.history.dataFor entryId

/-- The entry id denotes a host selection that was offered with a hint. -/
def selectedEntryHinted (entryId : String) : Bool :=
  if entryId = currentHostEntryId then w.currentHostEntry.any (·.hinted)
  else if entryId = currentBridgeEntryId then false
  else (w.history.entries.find? fun entry => entry.entryId == entryId).any (·.hinted)

def publishDataControlSelection (dataByMime : MimeData)
    (mode : PublishedSelectionMode) (hinted : Bool) (publication : Publication) :
    Option PublishedSelectionState × World :=
  if dataByMime.isEmpty then (none, w)
  else
    let w := { w with sourceSeq := w.sourceSeq + 1 }
    if publication = .refused then (none, w)
    else
      (some { dataControlSourceId := w.sourceSeq, dataByMime, mode,
              suppressSelectionEcho := true, hinted }, w)

/-- `open_picker_for_candidates`, and the launch of `handle_arm`: one picker at a time. -/
def openPicker (launch : Launch) (endpoint : Option ClipboardEndpointIdentity)
    (request : OpenRequest) : World :=
  if w.picker.isSome then w
  else
    match launch with
    | .failed => w
    | .aborted => { w with log := w.log ++ [.opened request endpoint] }
    | .opened =>
      { w with
        picker := some { request, endpoint, entries := w.selectedEntryDataByMime }
        log := w.log ++ [.opened request endpoint] }

/-! ### the host's selection -/

/-- The selection is not a copy of the host: nobody can be named for it, or it is an
echo of a selection of this daemon. -/
def ignoresSelection (window : Option FocusedWindowSnapshot) : Bool :=
  window.isNone || ((window.bind (·.appId)).any isForwardedVmAppId) ||
    shouldSuppressBridgeSelectionEcho window w.bridgeSelection ||
    focusedWindowMatchesBridgeSource window w.bridgeSelection ||
    shouldSuppressPublishedSelectionEcho w.publishedSelection

/-- The entry of a host selection, of which nothing has been read yet. -/
def hostEntry (window : Option FocusedWindowSnapshot) (hasSecret : Bool) (now : Nat) :
    ClipboardHistoryEntry :=
  { entryId := ""
    sourceRealm := "Host"
    sourceRealmKind := .host
    sourceCanonicalTarget := none
    sourceProviderKind := none
    sourceApp := (window.bind (·.title)).or (some "Host clipboard")
    sourceAppId := window.bind (·.appId)
    sourceAttribution := .focusedWindowGuess
    dataByMime := ∅
    timestampUnixMs := now
    hinted := hasSecret }

/-- `SelectionChanged`, with what `finalize_selection` makes of the offered names. -/
def selectionChanged (mimes : List String) (live : Bool)
    (window : Option FocusedWindowSnapshot) (quality : AttributionQuality)
    (attributed : Option FocusedWindowSnapshot) (failed : List String) (permit : Bool)
    (now : Nat) : World :=
  let allowedMimes := mimes.filter isMimeAllowed
  let hasSecret := hasSecretHint mimes
  let offer := !allowedMimes.isEmpty && live
  if w.ignoresSelection window then { w with hostSelection := none }
  else
    let piped := allowedMimes.filter fun mime => !failed.contains mime
    let reads :=
      if offer && !piped.isEmpty && permit then
        w.reads ++ [.host (hostEntry window hasSecret now) piped]
      else w.reads
    { w with
      bridgeSelection := none, publishedSelection := none, currentHostEntry := none, reads
      hostSelection := some { offer, allowedMimes, hasSecret, quality, window := attributed } }

def sourceCancelled (sourceId : Nat) : World :=
  let published := w.publishedSelection.any (·.dataControlSourceId == sourceId)
  let bridge := w.bridgeSelection.any (·.dataControlSourceId == sourceId)
  { w with
    publishedSelection := if published then none else w.publishedSelection
    bridgeSelection := if bridge then none else w.bridgeSelection
    hostSelection := if published || bridge then none else w.hostSelection }

/-! ### copies and pastes of endpoints -/

variable (identity : ClipboardEndpointIdentity) (mimeType : String)

def copySelection (sourceId : Nat) (permit : Bool) : World :=
  if isMimeAllowed mimeType && permit then
    { w with reads := w.reads ++ [.bridge identity mimeType sourceId] }
  else w

/-- The selection that a copy goes to: the current one, if it is the same copy. -/
def bridgeSelectionFor (sourceId : Nat) (now : Nat) : BridgeSelectionState :=
  let fresh : BridgeSelectionState :=
    { identity, sourceId, dataControlSourceId := 0
      historyEntryId := bridgeHistoryEntryId identity sourceId
      timestampUnixMs := now, suppressSelectionEcho := true, dataByMime := ∅ }
  match w.bridgeSelection with
  | none => fresh
  | some selection =>
    if selection.identity ≠ identity ∨ selection.sourceId ≠ sourceId then fresh else selection

def bridgeEntry (selection : BridgeSelectionState) : ClipboardHistoryEntry :=
  { entryId := selection.historyEntryId
    sourceRealm := selection.identity.realmLabel
    sourceRealmKind := selection.identity.realmKind
    sourceCanonicalTarget := some selection.identity.targetLabel
    sourceProviderKind := some selection.identity.providerKind
    sourceApp := some selection.identity.sourceApp
    sourceAppId := some ("d2b." ++ selection.identity.targetLabel)
    sourceAttribution := .exactClient
    dataByMime := selection.dataByMime
    timestampUnixMs := selection.timestampUnixMs
    hinted := false }

/-- That selection with what was read. -/
def copiedSelection (sourceId : Nat) (bytes : Bytes) (now : Nat) : BridgeSelectionState :=
  let selection := w.bridgeSelectionFor identity sourceId now
  { selection with
    suppressSelectionEcho := true, dataByMime := selection.dataByMime.insert mimeType bytes }

def bridgeCopyReady
    (sourceId : Nat) (bytes : Bytes) (publication : Publication) (now : Nat) : World :=
  let selection := w.copiedSelection identity mimeType sourceId bytes now
  let w := { w with
    currentHostEntry := none
    history := w.history.upsert (bridgeEntry selection) }
  match w.publishDataControlSelection selection.dataByMime .discovery false publication with
  | (some published, w) =>
    { w with
      bridgeSelection :=
        some { selection with dataControlSourceId := published.dataControlSourceId }
      publishedSelection := if publication = .flushFails then none else some published }
  | (none, w) => { w with bridgeSelection := some selection }

/-- `drain_async_materialization`, for an entry that was read. -/
def hostEntryReady (entry : ClipboardHistoryEntry) : World :=
  { w with
    currentHostEntry :=
      if entry.sourceRealmKind = .host then some { entry with entryId := currentHostEntryId }
      else w.currentHostEntry
    history := w.history.push entry }

/-- What a host reader has read. -/
def readData (mimes : List String) (results : List (Option Bytes)) : MimeData :=
  (mimes.zip results).foldl
    (fun data (mime, result) =>
      match result with
      | some bytes => data.insert mime bytes
      | none => data) ∅

def readDone (read : Read) (results : List (Option Bytes))
    (publication : Publication) (now : Nat) : World :=
  match read with
  | .bridge identity mimeType sourceId =>
    match results.head?.join with
    | some bytes => w.bridgeCopyReady identity mimeType sourceId bytes publication now
    | none => w
  | .host entry mimes =>
    let data := readData mimes results
    -- a thread that has read nothing sends nothing
    if data.isEmpty then w else w.hostEntryReady { entry with dataByMime := data }

/-! ### the picker -/

def select (picker : ActivePicker) (requestId entryId : String)
    (publication : Publication) : World :=
  match w.selectedEntryDataByMime entryId with
  | none => { w with picker := none }
  | some data =>
    match w.publishDataControlSelection data .selected (w.selectedEntryHinted entryId)
        publication with
    | (none, w) => { w with picker := none }
    | (some published, w) =>
      if publication = .flushFails then
        { w with publishedSelection := none, picker := none }
      else
        { w with
          publishedSelection := some published
          picker := none
          log := w.log ++ [.selected picker requestId entryId data] }

section

variable (htmlToText : Bytes → Option String)

def pasteRequest (w : World) (identity : ClipboardEndpointIdentity) (mimeType : String)
    (window : Option FocusedWindowSnapshot) (audited permit : Bool) (launch : Launch)
    (now : Nat) : World :=
  if !isMimeAllowed mimeType || !audited then w
  else
    let dest := window.getD
      { appId := some ("d2b." ++ identity.targetLabel), title := some identity.sourceApp }
    let request : World → OpenRequest := fun w =>
      { requestId := "paste-" ++ toString now
        destination := destinationMetadata dest (some identity)
        requestedMimeType := mimeType
        candidates := pickerCandidates htmlToText w.hostSelection w.currentHostEntry w.history
          mimeType now }
    match w.publishedSelection with
    | some selection =>
      if publishedSelectionCanServeBridgePaste selection.mode then
        -- the selection is taken whether or not it has the MIME type
        let w := { w with publishedSelection := none }
        match compatibleMimePayload htmlToText selection.dataByMime mimeType with
        | some bytes =>
          if permit then { w with log := w.log ++ [.served identity mimeType bytes] } else w
        | none => w.openPicker launch (some identity) (request w)
      else w.openPicker launch (some identity) (request w)
    | none => w.openPicker launch (some identity) (request w)

/-- The candidates for a client of the host that asks a discovery source for data. -/
def discoveryCandidates (w : World) (published : PublishedSelectionState) (mimeType : String)
    (now : Nat) : List Candidate :=
  let candidates :=
    pickerBridgeCandidatesForPublished htmlToText w.bridgeSelection published mimeType now ++
      otherCandidates htmlToText w.history w.bridgeSelection mimeType
  match currentHostCandidate htmlToText w.currentHostEntry candidates mimeType with
  | some current => current :: candidates
  | none => candidates

def sourceSend (w : World) (sourceId : Nat) (mimeType : String)
    (window : Option FocusedWindowSnapshot) (permit : Bool) (launch : Launch) (now : Nat) :
    World :=
  let dest := window.getD .default
  let request (candidates : List Candidate) : OpenRequest :=
    { requestId := "paste-" ++ toString now
      destination := destinationMetadata dest none
      requestedMimeType := mimeType
      candidates }
  match w.publishedSelection.filter (·.dataControlSourceId == sourceId) with
  | some published =>
    match published.mode with
    | .selected =>
      match compatibleMimePayload htmlToText published.dataByMime mimeType with
      | some bytes =>
        if permit then { w with log := w.log ++ [.sent mimeType bytes] } else w
      | none => w
    | .discovery =>
      if shouldDropDiscoverySourceSend (some dest) w.bridgeSelection then w
      else w.openPicker launch none
        (request (w.discoveryCandidates htmlToText published mimeType now))
  | none =>
    match w.bridgeSelection.filter (·.dataControlSourceId == sourceId) with
    | some selection =>
      if (compatibleMimePayload htmlToText selection.dataByMime mimeType).isNone then w
      else if focusedAppMatchesEndpoint dest.appId selection.identity then w
      else w.openPicker launch none (request
        (pickerBridgeCandidates htmlToText selection mimeType now ++
          otherCandidates htmlToText w.history (some selection) mimeType))
    | none => w

/-- `d2b clipboard arm`: a picker for the focused window. -/
def arm (w : World) (window : Option FocusedWindowSnapshot) (launch : Launch) (now : Nat) : World :=
  w.openPicker launch none
    { requestId := "arm-" ++ toString now
      destination := destinationMetadata (window.getD .default) none
      requestedMimeType := "text/plain"
      candidates := pickerCandidates htmlToText w.hostSelection none w.history "text/plain" now }

def step (w : World) : Event → Option World
  | .selectionChanged mimes live window quality attributed failed permit now =>
    some (w.selectionChanged mimes live window quality attributed failed permit now)
  | .selectionCleared => some { w with hostSelection := none }
  | .sourceSend sourceId mimeType window permit launch now =>
    some (w.sourceSend htmlToText sourceId mimeType window permit launch now)
  | .sourceCancelled sourceId => some (w.sourceCancelled sourceId)
  | .copySelection identity mimeType sourceId permit =>
    some (w.copySelection identity mimeType sourceId permit)
  | .pasteRequest identity mimeType window audited permit launch now =>
    some (w.pasteRequest htmlToText identity mimeType window audited permit launch now)
  | .readDone index results publication now =>
    match w.reads[index]? with
    | none => none
    | some read =>
      some ({ w with reads := w.reads.eraseIdx index }.readDone read results publication now)
  | .select requestId entryId publication =>
    match w.picker with
    | none => none
    | some picker => some (w.select picker requestId entryId publication)
  | .pickerEnds => some { w with picker := none }
  | .arm window launch now => some (w.arm htmlToText window launch now)

end

end World

end D2b.Clipd

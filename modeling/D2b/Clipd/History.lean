import D2b.Clipd.Policy
import D2b.Clipd.Protocol

/-!
# D2b.Clipd.History

What the daemon keeps of copies (`main.rs`): the payloads of a selection by MIME
type, the history, and the candidates that are shown of them.

The text of an HTML payload is rendered by a library; `htmlToText` stands for it.
-/

namespace D2b.Clipd

abbrev Bytes := List UInt8

/-- `data_by_mime`. -/
abbrev MimeData := BTreeMap String Bytes

/-- `std::str::from_utf8`. -/
def textOf (bytes : Bytes) : Option String := String.fromUTF8? ⟨bytes.toArray⟩

/-- Control characters are replaced and white space is squeezed. -/
def sanitizeNotificationText (input : String) (maxChars : Nat) : String :=
  let out := (input.toList.take maxChars).map fun c =>
    if c = '\n' ∨ c = '\r' ∨ c = '\t' then ' '
    else if Text.isControl c then '\uFFFD' else c
  String.ofList ([' '].intercalate (Text.splitWhitespace out))

def previewOf (bytes : Bytes) : Option String :=
  (textOf bytes).map fun text => sanitizeNotificationText text 256

section

variable (htmlToText : Bytes → Option String)

def htmlToPlainText (bytes : Bytes) : Option String :=
  match htmlToText bytes with
  | none => none
  | some text =>
    let text := String.ofList (Text.trim text.toList)
    if text.isEmpty then none else some text

def isTextPlainMime (mime : String) : Bool :=
  mime == "text/plain" || mime == "text/plain;charset=utf-8"

/-- The payload for a MIME type: its own, or for plain text one that can stand in. -/
def compatibleMimePayload (dataByMime : MimeData) (requestedMime : String) : Option Bytes :=
  match dataByMime[requestedMime]? with
  | some bytes => some bytes
  | none =>
    if !isTextPlainMime requestedMime then none
    else
      match dataByMime["text/plain;charset=utf-8"]?.or dataByMime["text/plain"]? with
      | some bytes => some bytes
      | none =>
        match dataByMime["text/html"]? with
        | some bytes => (htmlToPlainText htmlToText bytes).map fun text => text.toUTF8.data.toList
        | none => none

end

def compatibleMimeName (availableMimes : List String) (requestedMime : String) : Option String :=
  (availableMimes.find? (· == requestedMime)).or
    (if !isTextPlainMime requestedMime then none
    else (availableMimes.find? (· == "text/plain;charset=utf-8")).or
      (availableMimes.find? (· == "text/plain")))

/-! ## entries -/

structure ClipboardHistoryEntry where
  entryId : String
  sourceRealm : String
  sourceRealmKind : RealmKind
  sourceCanonicalTarget : Option String
  sourceProviderKind : Option WorkloadProviderKind
  sourceApp : Option String
  sourceAppId : Option String
  sourceAttribution : AttributionQuality
  dataByMime : MimeData
  timestampUnixMs : Nat
  /-- not kept by the daemon: a host selection that was offered with a hint -/
  hinted : Bool

def currentHostEntryId : String := "current-host-selection"

def currentBridgeEntryId : String := "current-endpoint-selection"

def historyMaxEntries : Nat := 20

/-- The entries, newest first. -/
structure ClipboardHistory where
  entries : List ClipboardHistoryEntry
  nextId : Nat

def historyEntryId (n : Nat) : String := "history-" ++ toString n

/-- The bytes of the target label in hexadecimal. -/
def bridgeHistoryEntryId (identity : ClipboardEndpointIdentity) (sourceId : Nat) : String :=
  let encoded := identity.targetLabel.toUTF8.data.toList.flatMap fun byte =>
    [Nat.digitChar (byte.toNat / 16), Nat.digitChar (byte.toNat % 16)]
  "bridge-" ++ String.ofList encoded ++ "-" ++ toString sourceId

/-- The candidate that shows an entry's payload under an id. -/
def ClipboardHistoryEntry.candidate (entry : ClipboardHistoryEntry) (entryId : String)
    (requestedMimeType : String) (bytes : Bytes) : Candidate :=
  { entryId
    sourceRealm := entry.sourceRealm
    sourceRealmKind := entry.sourceRealmKind
    sourceCanonicalTarget := entry.sourceCanonicalTarget
    sourceProviderKind := entry.sourceProviderKind
    sourceApp := entry.sourceApp
    sourceAppId := entry.sourceAppId
    sourceAttribution := entry.sourceAttribution
    previewText := previewOf bytes
    contentType := requestedMimeType
    timestampUnixMs := entry.timestampUnixMs
    byteCount := some bytes.length
    hinted := entry.hinted }

namespace ClipboardHistory

def empty : ClipboardHistory := { entries := [], nextId := 0 }

variable (history : ClipboardHistory) (entry : ClipboardHistoryEntry)

/-- The entry gets the next id; the oldest ones are dropped. -/
def pushFrontBounded : ClipboardHistory :=
  -- `saturating_add`
  let nextId := min (history.nextId + 1) (2 ^ 64 - 1)
  { entries := ({ entry with entryId := historyEntryId nextId } :: history.entries).take
      historyMaxEntries
    nextId }

def push : ClipboardHistory :=
  if entry.dataByMime.isEmpty then history else history.pushFrontBounded entry

/-- An entry of the same id is replaced, and moves to the front. -/
def upsert : ClipboardHistory :=
  if entry.dataByMime.isEmpty then history
  else if entry.entryId.isEmpty then history.push entry
  else
    { history with entries := (entry :: history.entries.eraseP
        fun existing => existing.entryId == entry.entryId).take historyMaxEntries }

def candidatesExcluding (htmlToText : Bytes → Option String) (history : ClipboardHistory)
    (requestedMimeType : String) (excludedEntryId : Option String) : List Candidate :=
  (history.entries.filter fun entry => excludedEntryId != some entry.entryId).filterMap
    fun entry => (compatibleMimePayload htmlToText entry.dataByMime requestedMimeType).map
      fun bytes => entry.candidate entry.entryId requestedMimeType bytes

def candidates (htmlToText : Bytes → Option String) (history : ClipboardHistory)
    (requestedMimeType : String) : List Candidate :=
  history.candidatesExcluding htmlToText requestedMimeType none

def dataFor (entryId : String) : Option MimeData :=
  (history.entries.find? fun entry => entry.entryId == entryId).map (·.dataByMime)

end ClipboardHistory

end D2b.Clipd

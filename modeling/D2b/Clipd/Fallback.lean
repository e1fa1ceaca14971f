import D2b.Clipd.EventLoop

/-!
# D2b.Clipd.Fallback

The fallback of the clipboard daemon (`fallback.rs`): it holds the window that a picker
was opened for, to which the paste is replayed once an entry is selected.

Arm and paste requests write to it before they find that a picker runs.
-/

namespace D2b.Clipd

/-! ## the fallback -/

inductive FallbackState where
  | idle
  | pickerOpen (target : FocusedWindowSnapshot)
  | armed (entryId : String) (target : FocusedWindowSnapshot) (expiresAt : Nat)
deriving DecidableEq

namespace FallbackState

def captureTargetBeforePicker (target : FocusedWindowSnapshot) : FallbackState := .pickerOpen target

def armSelectedEntry (entryId : String) (now timeout : Nat) : FallbackState → FallbackState
  | .pickerOpen target => .armed entryId target (now + timeout)
  | state => state

/-- `arm_native_fallback`, in milliseconds. -/
def armNative (state : FallbackState) (dest : FocusedWindowSnapshot) (now : Nat) : FallbackState :=
  (if state = .idle then captureTargetBeforePicker dest else state).armSelectedEntry
    currentHostEntryId now 30000

/-- The window that a selected entry is pasted to. -/
def replayTarget : FallbackState → Option FocusedWindowSnapshot
  | .idle => none
  | .pickerOpen target | .armed _ target _ => some target

end FallbackState

/-! ## requests -/

/-- A request that may open a picker: of the command line, of an endpoint, of a client. -/
inductive PickerRequest where
  | arm (window : Option FocusedWindowSnapshot)
  | paste (identity : ClipboardEndpointIdentity) (mimeType : String)
      (window : Option FocusedWindowSnapshot) (audited permit : Bool)
  | send (sourceId : Nat) (mimeType : String) (window : Option FocusedWindowSnapshot)
      (permit : Bool)

/-- The loop's state with its fallback. -/
structure PickerSession where
  world : World
  fallback : FallbackState

namespace PickerSession

variable (htmlToText : Bytes → Option String)

/-- The window of a request, where it gets as far as a picker. -/
def destination (w : World) : PickerRequest → Option FocusedWindowSnapshot
  | .arm window => some (window.getD .default)
  | .paste identity mimeType window audited _ =>
    let served := w.publishedSelection.any fun selection =>
      publishedSelectionCanServeBridgePaste selection.mode &&
        (compatibleMimePayload htmlToText selection.dataByMime mimeType).isSome
    if !isMimeAllowed mimeType || !audited || served then none
    else some (window.getD
      { appId := some ("d2b." ++ identity.targetLabel), title := some identity.sourceApp })
  | .send sourceId mimeType window _ =>
    let dest := window.getD .default
    match w.publishedSelection.filter (·.dataControlSourceId == sourceId) with
    | some published =>
      if published.mode = .selected ∨ shouldDropDiscoverySourceSend (some dest) w.bridgeSelection
      then none else some dest
    | none =>
      match w.bridgeSelection.filter (·.dataControlSourceId == sourceId) with
      | some selection =>
        if (compatibleMimePayload htmlToText selection.dataByMime mimeType).isNone ∨
          focusedAppMatchesEndpoint dest.appId selection.identity then none else some dest
      | none => none

/-- The fallback after `handle_arm`, or after `open_picker_for_candidates`. -/
def fallbackAfter (s : PickerSession) (request : PickerRequest) (dest : FocusedWindowSnapshot)
    (command : Bool) (launch : Launch) (now : Nat) : FallbackState :=
  let free := command && s.world.picker.isNone
  if free && launch = .opened then .captureTargetBeforePicker dest
  else
    match request with
    -- captured before the launch, and cancelled where that fails
    | .arm _ => .idle
    | .paste .. | .send .. => (if free then .idle else s.fallback).armNative dest now

/-- A request is handled; `command` says whether a picker is configured. -/
def handle (s : PickerSession) (request : PickerRequest) (command : Bool) (launch : Launch)
    (now : Nat) : PickerSession :=
  let launch := if command then launch else .failed
  { world :=
      match request with
      | .arm window => s.world.arm htmlToText window launch now
      | .paste identity mimeType window audited permit =>
        s.world.pasteRequest htmlToText identity mimeType window audited permit launch now
      | .send sourceId mimeType window permit =>
        s.world.sourceSend htmlToText sourceId mimeType window permit launch now
    fallback :=
      match destination htmlToText s.world request with
      | some dest => s.fallbackAfter request dest command launch now
      | none => s.fallback }

/-! ## the picker that runs -/

/-- A session whose picker was opened for this window. -/
def openedFor (target : FocusedWindowSnapshot) : PickerSession :=
  { world := World.init.arm (fun _ => none) (some target) .opened 1
    fallback := .pickerOpen target }

def editor : FocusedWindowSnapshot := { appId := some "editor", title := none }

def terminal : FocusedWindowSnapshot := { appId := some "terminal", title := none }

end PickerSession

end D2b.Clipd

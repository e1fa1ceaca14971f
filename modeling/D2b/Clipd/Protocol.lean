import D2b.RealmCore.Target

/-!
# D2b.Clipd.Protocol

The endpoints of the clipboard bridge and what a picker is sent (`protocol.rs`).
-/

namespace D2b.Clipd

inductive RealmKind where
  | host | vm | unsafeLocal
deriving DecidableEq

inductive AttributionQuality where
  | exactClient | focusedWindowGuess | cacheStaleFocusedWindowGuess | brokerInjectedDebug
deriving DecidableEq

/-- The identity that a dedicated bridge listener has authenticated. -/
structure ClipboardEndpointIdentity where
  canonicalTarget : RealmTarget
  providerKind : WorkloadProviderKind
  legacyVmName : Option String
deriving DecidableEq

namespace ClipboardEndpointIdentity

variable (identity : ClipboardEndpointIdentity)

def realmKind : RealmKind :=
  if identity.providerKind = .unsafeLocal then .unsafeLocal else .vm

def realmLabel : String := identity.canonicalTarget.realm.targetForm

def targetLabel : String := identity.canonicalTarget.toCanonical

def appIdPrefix : String := "d2b." ++ identity.targetLabel ++ "."

/-- `endpoint_source_app`. -/
def sourceApp : String :=
  match identity.providerKind with
  | .unsafeLocal => identity.targetLabel ++ " (unsafe-local)"
  | _ =>
    match identity.legacyVmName with
    | some vm => vm ++ " VM"
    | none => identity.targetLabel

end ClipboardEndpointIdentity

/-- `legacy_vm_endpoint`, of a VM name that is a label. -/
def legacyVmEndpoint (vmName : WorkloadId) : ClipboardEndpointIdentity :=
  { canonicalTarget := { workload := vmName, realm := localRealm }
    providerKind := .localVm
    legacyVmName := some vmName.asStr }

namespace Sample

def work : ClipboardEndpointIdentity := legacyVmEndpoint ⟨"work", by decide⟩

def personal : ClipboardEndpointIdentity := legacyVmEndpoint ⟨"personal", by decide⟩

def untrusted : ClipboardEndpointIdentity := legacyVmEndpoint ⟨"untrusted", by decide⟩

end Sample

structure FocusedWindowSnapshot where
  appId : Option String
  title : Option String
deriving DecidableEq

/-- An entry that a picker may select. -/
structure Candidate where
  entryId : String
  sourceRealm : String
  sourceRealmKind : RealmKind
  sourceCanonicalTarget : Option String
  sourceProviderKind : Option WorkloadProviderKind
  sourceApp : Option String
  sourceAppId : Option String
  sourceAttribution : AttributionQuality
  previewText : Option String
  contentType : String
  timestampUnixMs : Nat
  byteCount : Option Nat
  /-- not sent: the entry is a host selection that was offered with a hint -/
  hinted : Bool
deriving DecidableEq

structure DestinationMetadata where
  realm : String
  realmKind : RealmKind
  canonicalTarget : Option String
  providerKind : Option WorkloadProviderKind
  appId : Option String
  title : Option String
  attribution : AttributionQuality
deriving DecidableEq

/-- The exact endpoint of a bridge paste, and a guess for the host. -/
def destinationMetadata (dest : FocusedWindowSnapshot)
    (endpoint : Option ClipboardEndpointIdentity) : DestinationMetadata :=
  match endpoint with
  | some identity =>
    { realm := identity.realmLabel
      realmKind := identity.realmKind
      canonicalTarget := some identity.targetLabel
      providerKind := some identity.providerKind
      appId := dest.appId
      title := dest.title
      attribution := .exactClient }
  | none =>
    { realm := "Host"
      realmKind := .host
      canonicalTarget := none
      providerKind := none
      appId := dest.appId
      title := dest.title
      attribution := .focusedWindowGuess }

structure OpenRequest where
  requestId : String
  destination : DestinationMetadata
  requestedMimeType : String
  candidates : List Candidate
deriving DecidableEq

end D2b.Clipd

import Mathlib.Data.Finset.Sort
import D2b.RealmCore.Ids

/-!
# D2b.RealmCore.Capability

The capability model (`capability.rs`): capabilities are positive assertions,
and a set keeps the tokens it does not know beside the ones it does, so that
negotiation with a newer peer does not lose them.
-/

namespace D2b

/-- A named, independently authorized capability. -/
inductive Capability where
  | lifecycle | exec | pty | logs | fileCopy | portForward | persistentShell
  | vsock | virtiofs | windowForwarding | displayStreaming | clipboard
  | audioPlayback | audioCapture | hid | usb | gpuAccel | snapshots | hotplug
  | ephemeralSessions | providerManagedIsolation | configuredLaunch
deriving DecidableEq

def Capability.code : Capability → String
  | lifecycle => "lifecycle"
  | exec => "exec"
  | pty => "pty"
  | logs => "logs"
  | fileCopy => "file-copy"
  | portForward => "port-forward"
  | persistentShell => "persistent-shell"
  | vsock => "vsock"
  | virtiofs => "virtiofs"
  | windowForwarding => "window-forwarding"
  | displayStreaming => "display-streaming"
  | clipboard => "clipboard"
  | audioPlayback => "audio-playback"
  | audioCapture => "audio-capture"
  | hid => "hid"
  | usb => "usb"
  | gpuAccel => "gpu-accel"
  | snapshots => "snapshots"
  | hotplug => "hotplug"
  | ephemeralSessions => "ephemeral-sessions"
  | providerManagedIsolation => "provider-managed-isolation"
  | configuredLaunch => "configured-launch"

/-- Parse a capability code; unknown codes are not errors here. -/
def Capability.fromCode (code : String) : Option Capability :=
  match code with
  | "lifecycle" => some .lifecycle
  | "exec" => some .exec
  | "pty" => some .pty
  | "logs" => some .logs
  | "file-copy" => some .fileCopy
  | "port-forward" => some .portForward
  | "persistent-shell" => some .persistentShell
  | "vsock" => some .vsock
  | "virtiofs" => some .virtiofs
  | "window-forwarding" => some .windowForwarding
  | "display-streaming" => some .displayStreaming
  | "clipboard" => some .clipboard
  | "audio-playback" => some .audioPlayback
  | "audio-capture" => some .audioCapture
  | "hid" => some .hid
  | "usb" => some .usb
  | "gpu-accel" => some .gpuAccel
  | "snapshots" => some .snapshots
  | "hotplug" => some .hotplug
  | "ephemeral-sessions" => some .ephemeralSessions
  | "provider-managed-isolation" => some .providerManagedIsolation
  | "configured-launch" => some .configuredLaunch
  | _ => none

@[simp] lemma Capability.fromCode_code (c : Capability) : fromCode c.code = some c := by
  cases c <;> rfl

lemma Capability.fromCode_eq_some {code : String} (h : fromCode code = some c) :
    code = c.code := by
  unfold fromCode at h
  split at h <;> first | contradiction | (cases h; rfl)

lemma Capability.ctorIdx_injective : Function.Injective Capability.ctorIdx := by
  intro a b h
  cases a <;> cases b <;> first | rfl | contradiction

/-- Capabilities are ordered as they are declared. -/
instance : LinearOrder Capability :=
  LinearOrder.lift' Capability.ctorIdx Capability.ctorIdx_injective

/-- A set of advertised capabilities, known and not (yet) known. -/
structure CapabilitySet where
  known : Finset Capability
  unknown : Finset ProtocolToken
deriving DecidableEq

namespace CapabilitySet

/-- The set that advertises nothing. -/
def empty : CapabilitySet := ⟨∅, ∅⟩

/-- Add a token: a known code as its capability, any other as it is. -/
def insertToken (s : CapabilitySet) (token : ProtocolToken) : CapabilitySet :=
  match Capability.fromCode token.asStr with
  | some capability => { s with known := insert capability s.known }
  | none => { s with unknown := insert token s.unknown }

/-- Build from validated capability tokens; unknown tokens are kept. -/
def fromTokens (tokens : List ProtocolToken) : CapabilitySet := tokens.foldl insertToken empty

/-- The advertised capabilities, in order. -/
def iter (s : CapabilitySet) : List Capability := s.known.sort (· ≤ ·)

def unknownIter (s : CapabilitySet) : List ProtocolToken := s.unknown.sort (· ≤ ·)

variable {s : CapabilitySet}

@[simp] lemma mem_iter : c ∈ s.iter ↔ c ∈ s.known := by
  simp [iter]

@[simp] lemma mem_unknownIter : t ∈ s.unknownIter ↔ t ∈ s.unknown := by
  simp [unknownIter]

/-- True iff the capability is advertised. -/
def has (s : CapabilitySet) (cap : Capability) : Bool := decide (cap ∈ s.known)

/-- Capabilities shared with `other`. -/
def intersection (s other : CapabilitySet) : CapabilitySet :=
  ⟨s.known ∩ other.known, s.unknown ∩ other.unknown⟩

/-- True iff every advertised capability is also present in `other`. -/
def isSubsetOf (s other : CapabilitySet) : Bool :=
  decide (s.known ⊆ other.known) && decide (s.unknown ⊆ other.unknown)

/-- The codes of a set, known and unknown, in order. -/
def codes (s : CapabilitySet) : List String :=
  (s.known.val.map Capability.code + s.unknown.val.map ProtocolToken.asStr).sort (· ≤ ·)

/-- One byte of the FNV-1a hash. -/
def hashByte (hash : UInt64) (byte : UInt8) : UInt64 := (hash ^^^ byte.toUInt64) * 0x100000001b3

/-- A code and the byte that ends it. -/
def hashCode (hash : UInt64) (code : String) : UInt64 :=
  hashByte (code.toUTF8.data.toList.foldl hashByte hash) 0xff

/-- The sixteen hexadecimal digits of a word. -/
def hexWord (word : UInt64) : String :=
  let digits := Nat.toDigits 16 word.toNat
  String.ofList (List.replicate (16 - digits.length) '0' ++ digits)

def capabilityNegotiationSchemaVersion : Nat := 1

def stableFingerprint (s : CapabilitySet) : String :=
  "cap-v" ++ toString capabilityNegotiationSchemaVersion ++ "-" ++
    hexWord (s.codes.foldl hashCode 0xcbf29ce484222325)

lemma mem_known_insertToken : c ∈ (s.insertToken token).known ↔
      Capability.fromCode token.asStr = some c ∨ c ∈ s.known := by
  unfold insertToken
  cases h : Capability.fromCode token.asStr with
  | none => simp
  | some d => simp [eq_comm]

lemma mem_unknown_insertToken : t ∈ (s.insertToken token).unknown ↔
      (t = token ∧ Capability.fromCode t.asStr = none) ∨ t ∈ s.unknown := by
  unfold insertToken
  cases h : Capability.fromCode token.asStr with
  | none =>
    have hself : t = token → Capability.fromCode t.asStr = none := fun heq => heq ▸ h
    simp only [Finset.mem_insert]
    tauto
  | some d =>
    have hself : ¬(t = token ∧ Capability.fromCode t.asStr = none) := by
      rintro ⟨rfl, hnone⟩
      simp [h] at hnone
    simp [hself]

/-- A set built from tokens knows the capabilities whose codes are among them. -/
lemma mem_known_fromTokens :
    c ∈ (fromTokens tokens).known ↔ ∃ t ∈ tokens, Capability.fromCode t.asStr = some c := by
  suffices h : ∀ s : CapabilitySet, c ∈ (tokens.foldl insertToken s).known ↔
      (∃ t ∈ tokens, Capability.fromCode t.asStr = some c) ∨ c ∈ s.known by
    simpa [fromTokens, empty] using h empty
  induction tokens with
  | nil => simp
  | cons token tokens ih =>
    intro s
    rw [List.foldl_cons, ih, mem_known_insertToken]
    simp only [List.mem_cons, exists_eq_or_imp]
    exact or_left_comm.trans or_assoc.symm

/-- A set built from tokens keeps the ones that are no code. -/
lemma mem_unknown_fromTokens :
    t ∈ (fromTokens tokens).unknown ↔ t ∈ tokens ∧ Capability.fromCode t.asStr = none := by
  suffices h : ∀ s : CapabilitySet, t ∈ (tokens.foldl insertToken s).unknown ↔
      (t ∈ tokens ∧ Capability.fromCode t.asStr = none) ∨ t ∈ s.unknown by
    simpa [fromTokens, empty] using h empty
  induction tokens with
  | nil => simp
  | cons token tokens ih =>
    intro s
    rw [List.foldl_cons, ih, mem_unknown_insertToken]
    simp only [List.mem_cons]
    tauto

@[simp] lemma has_empty : empty.has c = false := by
  simp [has, empty]

@[simp] lemma intersection_self (s : CapabilitySet) : s.intersection s = s := by
  simp [intersection]

lemma has_of_isSubsetOf {t : CapabilitySet} (h : s.isSubsetOf t = true) (hc : s.has c = true) :
    t.has c = true := by
  simp only [isSubsetOf, has, Bool.and_eq_true, decide_eq_true_eq] at *
  exact h.1 hc

end CapabilitySet

/-! ## negotiation -/

/-- Maximum number of capability assertions accepted from a peer. -/
def maxCapabilitySetLen : Nat := 64

/-- A versioned capability set with its fingerprint. -/
structure CapabilityNegotiation where
  schemaVersion : UInt32
  capabilities : CapabilitySet
  fingerprint : String
deriving DecidableEq

/-- The versioned, auditable negotiation record of a set. -/
def CapabilitySet.negotiation (s : CapabilitySet) : CapabilityNegotiation :=
  ⟨UInt32.ofNat capabilityNegotiationSchemaVersion, s, s.stableFingerprint⟩

end D2b

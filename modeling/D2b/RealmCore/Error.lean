import D2b.RealmCore.Capability

/-!
# D2b.RealmCore.Error

The typed error surface (`error.rs`): a closed classification with a bounded,
operator-safe message.  The fields of a `ConstellationError` are private in
the source; what its constructors and its decoder ensure is part of the type
here.
-/

namespace D2b

inductive ErrorKind where
  | capabilityDenied | unauthorized | noRealmEntrypoint | gatewayUnavailable
  | providerAllocationFailed | relayUnavailable | authenticationFailed | versionSkew
  | operationInProgress | idempotencyKeyConflict | idempotencyKeyExpired | backpressure
  | cancelled | timeout | frameTooLarge | malformedFrame | invalidTarget | auditUnavailable
  | unsupportedFeature
deriving DecidableEq

def maxMessageLen : Nat := 256

def maxFingerprintLen : Nat := 64

structure ConstellationError where
  kind : ErrorKind
  correlationId : Option CorrelationId
  capability : Option Capability
  negotiatedCapabilityFingerprint : Option String
  message : String
  /-- A denial names the missing capability. -/
  denied : kind = .capabilityDenied → capability ≠ none
  /-- Only a denial carries a fingerprint. -/
  fingerprinted : negotiatedCapabilityFingerprint ≠ none → kind = .capabilityDenied
  messageBounded : message.utf8ByteSize ≤ maxMessageLen
  fingerprintBounded : ∀ f ∈ negotiatedCapabilityFingerprint, f.utf8ByteSize ≤ maxFingerprintLen
deriving DecidableEq

attribute [ext] ConstellationError

def boundMessage (s : String) : String := Text.truncate maxMessageLen s

def boundFingerprint (s : String) : String := Text.truncate maxFingerprintLen s

namespace ConstellationError

/-- The kind that `new` gives: a denial without a capability is downgraded. -/
def newKind (kind : ErrorKind) : ErrorKind :=
  if kind = .capabilityDenied then .unauthorized else kind

lemma newKind_ne (kind : ErrorKind) : newKind kind ≠ .capabilityDenied := by
  unfold newKind
  by_cases h : kind = .capabilityDenied
  · simp [h]
  · rwa [if_neg h]

/-- A typed error with a bounded message. -/
def new (kind : ErrorKind) (message : String) : ConstellationError where
  kind := newKind kind
  correlationId := none
  capability := none
  negotiatedCapabilityFingerprint := none
  message := boundMessage message
  denied := fun h => absurd h (newKind_ne kind)
  fingerprinted := by simp
  messageBounded := Text.utf8ByteSize_truncate_le _ _
  fingerprintBounded := by simp

variable (missing : Capability)

def deniedMessage : String := "required capability " ++ missing.code ++ " is not advertised"

def capabilityDeniedWithFingerprint (fingerprint : Option String) : ConstellationError where
  kind := .capabilityDenied
  correlationId := none
  capability := some missing
  negotiatedCapabilityFingerprint := fingerprint.map boundFingerprint
  message := boundMessage (deniedMessage missing)
  denied := by simp
  fingerprinted := fun _ => rfl
  messageBounded := Text.utf8ByteSize_truncate_le _ _
  fingerprintBounded := by
    intro f hf
    obtain ⟨raw, -, rfl⟩ := Option.map_eq_some_iff.mp hf
    exact Text.utf8ByteSize_truncate_le _ _

def capabilityDenied : ConstellationError := capabilityDeniedWithFingerprint missing none

def withCorrelationId (e : ConstellationError) (id : CorrelationId) : ConstellationError :=
  { e with correlationId := some id }

end ConstellationError

end D2b

import D2b.Contracts.GuestAuth
import D2b.Lib.Command
import Mathlib.Data.Finset.Basic

/-!
# D2b.Guestd.Auth

Guest-control authentication in the guest (`auth.rs`): `hello` issues a
challenge, `authenticate` consumes it and admits the connection if the host
proves that it holds the token, `close_connection` forgets both.

Nonce, boot id, clock, token and capabilities are the environment's, as the
traits of the source have it.
-/

namespace D2b.Guestd

open Contracts
open Command

def authTranscriptVersion : UInt32 := 1
def guestControlAuthPort : UInt32 := 14318
def guestControlProtocolVersion : UInt32 := 6
def connectionInstanceLen : Nat := 16
def maxCapabilitiesHashLen : Nat := 128

/-- `[u8; AUTH_TAG_LEN]`. -/
abbrev AuthTag := { bytes : List UInt8 // bytes.length = authTagLen }

/-- `[u8; CONNECTION_INSTANCE_LEN]`. -/
abbrev ConnectionInstance := { bytes : List UInt8 // bytes.length = connectionInstanceLen }

inductive GuestAuthError where
  | metadataMissing | metadataMismatch | protocolVersionMismatch | transcriptVersionMismatch
  | nonceLengthInvalid | tagLengthInvalid | bootIdMismatch | challengeCapacityExceeded
  | challengeNotFound | challengeExpired | challengeMismatch | tokenUnavailable | macRejected
  | capabilitiesUnavailable | invalidCapabilitiesSnapshot | invalidHealthSnapshot
  | unauthenticated
deriving DecidableEq

structure AuthConnectionContext where
  vmId : String
  protocolVersion : UInt32
  guestControlPort : UInt32
  peerCid : UInt32
  direction : AuthDirection
  purpose : AuthPurpose
  connectionInstance : ConnectionInstance
deriving DecidableEq

def AuthConnectionContext.validate (context : AuthConnectionContext) : Except GuestAuthError Unit :=
  if context.vmId = "" ∨ context.protocolVersion ≠ guestControlProtocolVersion ∨
      context.guestControlPort ≠ guestControlAuthPort then .error .metadataMismatch
  else .ok ()

/-! ## messages -/

structure RequestMetadata where
  vmId : String
  protocolVersion : UInt32

structure HelloRequest where
  metadata : Option RequestMetadata
  transcriptVersion : UInt32
  hostNonce : List UInt8

structure HelloResponse where
  guestNonce : List UInt8
  guestBootId : String
  protocolVersion : UInt32

structure AuthenticateRequest where
  metadata : Option RequestMetadata
  transcriptVersion : UInt32
  hostNonce : List UInt8
  guestNonce : List UInt8
  guestBootId : String
  hostAuthTag : List UInt8

structure AuthenticateResponse where
  guestAuthTag : List UInt8
  capabilitiesHash : String

/-- A snapshot of the capabilities, with what the checks of its body say. -/
structure CapabilitiesSnapshot where
  capabilitiesHash : String
  bodyCheck : Except GuestAuthError Unit

def validateSnapshot (snapshot : CapabilitiesSnapshot) :
    Except GuestAuthError CapabilitiesSnapshot :=
  if snapshot.capabilitiesHash = "" ∨
      snapshot.capabilitiesHash.utf8ByteSize > maxCapabilitiesHashLen then
    .error .invalidCapabilitiesSnapshot
  else snapshot.bodyCheck.map fun _ => snapshot

def validateContextAndMetadata (context : AuthConnectionContext)
    (metadata : Option RequestMetadata) : Except GuestAuthError Unit := do
  context.validate
  match metadata with
  | none => .error .metadataMissing
  | some metadata =>
    if metadata.vmId ≠ context.vmId then .error .metadataMismatch
    else if metadata.protocolVersion ≠ context.protocolVersion then
      .error .protocolVersionMismatch
    else .ok ()

def fixedNonce (value : List UInt8) : Except GuestAuthError Nonce :=
  if h : value.length = authNonceLen then .ok ⟨value, h⟩ else .error .nonceLengthInvalid

def fixedTag (value : List UInt8) : Except GuestAuthError AuthTag :=
  if h : value.length = authTagLen then .ok ⟨value, h⟩ else .error .tagLengthInvalid

/-! ## challenges -/

structure PendingChallenge where
  context : AuthConnectionContext
  hostNonce : Nonce
  guestNonce : Nonce
  guestBootId : String
  issuedAtMs : Nat
deriving DecidableEq

/-- `InMemoryChallengeStore`. -/
abbrev ChallengeStore := List PendingChallenge

namespace ChallengeStore

def removeExpired (nowMs ttlMs : Nat) (challenges : ChallengeStore) : ChallengeStore :=
  challenges.filter fun challenge => decide (nowMs - challenge.issuedAtMs ≤ ttlMs)

def insert (challenge : PendingChallenge) (capacity : Nat) (challenges : ChallengeStore) :
    Except GuestAuthError ChallengeStore :=
  if challenges.length ≥ capacity then .error .challengeCapacityExceeded
  else .ok (challenges ++ [challenge])

variable (connection : ConnectionInstance)

/-- The challenge `consume` looks for. -/
def answers (guestNonce : Nonce) (challenge : PendingChallenge) : Bool :=
  decide (challenge.context.connectionInstance = connection ∧ challenge.guestNonce = guestNonce)

def consume (guestNonce : Nonce) (challenges : ChallengeStore) :
    Option (PendingChallenge × ChallengeStore) :=
  (challenges.find? (answers connection guestNonce)).map fun challenge =>
    (challenge, challenges.eraseP (answers connection guestNonce))

def dropConnection (challenges : ChallengeStore) : ChallengeStore :=
  challenges.filter fun challenge => decide (challenge.context.connectionInstance ≠ connection)

end ChallengeStore

/-! ## the core -/

/-- What signs and verifies with the shared token. -/
structure TokenSource where
  verifyTag : List UInt8 → AuthTag → Except GuestAuthError Unit
  signTag : List UInt8 → Except GuestAuthError AuthTag

structure GuestAuthCore where
  challenges : ChallengeStore
  challengeTtlMs : Nat
  challengeCapacity : Nat
  authenticatedConnections : Finset AuthConnectionContext

def transcriptOf (role : ProofRole) (context : AuthConnectionContext)
    (hostNonce guestNonce : Nonce) (guestBootId : String)
    (capabilitiesHash : Option (List UInt8)) : GuestAuthTranscript :=
  { role
    direction := context.direction
    purpose := context.purpose
    vmId := context.vmId
    protocolVersion := context.protocolVersion
    guestControlPort := context.guestControlPort
    peerCid := some context.peerCid
    hostNonce
    guestNonce
    guestBootId
    capabilitiesHash }

namespace GuestAuthCore

variable (context : AuthConnectionContext)

/-- `hello` up to its response: the challenge it issues. -/
def issueChallenge (request : HelloRequest)
    (nonce : Except GuestAuthError Nonce) (bootId : Except GuestAuthError String) (nowMs : Nat) :
    Command GuestAuthError GuestAuthCore PendingChallenge := do
  ofExcept (validateContextAndMetadata context request.metadata)
  failIf (request.transcriptVersion ≠ authTranscriptVersion) .transcriptVersionMismatch
  let hostNonce ← ofExcept (fixedNonce request.hostNonce)
  let guestNonce ← ofExcept nonce
  let guestBootId ← ofExcept bootId
  modify fun core =>
    { core with challenges := core.challenges.removeExpired nowMs core.challengeTtlMs }
  let core ← get
  let challenge := { context, hostNonce, guestNonce, guestBootId, issuedAtMs := nowMs }
  let challenges ← ofExcept (core.challenges.insert challenge core.challengeCapacity)
  modify fun core => { core with challenges }
  pure challenge

def hello (request : HelloRequest)
    (nonce : Except GuestAuthError Nonce) (bootId : Except GuestAuthError String) (nowMs : Nat) :
    Command GuestAuthError GuestAuthCore HelloResponse := do
  let challenge ← issueChallenge context request nonce bootId nowMs
  pure
    { guestNonce := challenge.guestNonce.1
      guestBootId := challenge.guestBootId
      protocolVersion := context.protocolVersion }

/-- A proof that was accepted: the challenge it consumed and the guest's own. -/
structure AcceptedProof where
  challenge : PendingChallenge
  guestTranscript : GuestAuthTranscript
  guestTag : AuthTag
  snapshot : CapabilitiesSnapshot

/-- `authenticate` up to its response. -/
def acceptProof (token : TokenSource) (context : AuthConnectionContext)
    (request : AuthenticateRequest) (snapshot : Except GuestAuthError CapabilitiesSnapshot)
    (nowMs : Nat) : Command GuestAuthError GuestAuthCore AcceptedProof := do
  ofExcept (validateContextAndMetadata context request.metadata)
  failIf (request.transcriptVersion ≠ authTranscriptVersion) .transcriptVersionMismatch
  let hostNonce ← ofExcept (fixedNonce request.hostNonce)
  let guestNonce ← ofExcept (fixedNonce request.guestNonce)
  let hostTag ← ofExcept (fixedTag request.hostAuthTag)
  let core ← get
  let (challenge, challenges) ←
    okOr (core.challenges.consume context.connectionInstance guestNonce) .challengeNotFound
  -- consumed whatever the checks below say
  modify fun core => { core with challenges }
  failIf (nowMs - challenge.issuedAtMs > core.challengeTtlMs) .challengeExpired
  failIf (challenge.context ≠ context ∨ challenge.hostNonce ≠ hostNonce) .challengeMismatch
  failIf (challenge.guestBootId ≠ request.guestBootId) .bootIdMismatch
  ofExcept (token.verifyTag
    (encodeTranscript (transcriptOf .host context hostNonce guestNonce request.guestBootId none))
    hostTag)
  let snapshot ← ofExcept (snapshot >>= validateSnapshot)
  let guestTranscript := transcriptOf .guest context hostNonce guestNonce request.guestBootId
    (some (Protobuf.ValueCodec.textBytes snapshot.capabilitiesHash))
  let guestTag ← ofExcept (token.signTag (encodeTranscript guestTranscript))
  modify fun core =>
    { core with authenticatedConnections := insert context core.authenticatedConnections }
  pure { challenge, guestTranscript, guestTag, snapshot }

def authenticate (token : TokenSource) (context : AuthConnectionContext)
    (request : AuthenticateRequest) (snapshot : Except GuestAuthError CapabilitiesSnapshot)
    (nowMs : Nat) : Command GuestAuthError GuestAuthCore AuthenticateResponse := do
  let proof ← acceptProof token context request snapshot nowMs
  pure
    { guestAuthTag := proof.guestTag.1
      capabilitiesHash := proof.snapshot.capabilitiesHash }

def closeConnection (core : GuestAuthCore) : GuestAuthCore :=
  { core with
    challenges := core.challenges.dropConnection context.connectionInstance
    authenticatedConnections := core.authenticatedConnections.erase context }

def isAuthenticated (core : GuestAuthCore) (context : AuthConnectionContext) : Bool :=
  decide (context ∈ core.authenticatedConnections)

end GuestAuthCore

end D2b.Guestd

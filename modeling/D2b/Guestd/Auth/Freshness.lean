import D2b.Guestd.Auth
import D2b.Lib.Run

/-!
# D2b.Guestd.Auth.Freshness

An authenticated connection was proven by the host, for a fresh challenge.

The token is an ideal MAC: the log `signed` holds what its holders signed, and a
tag verifies for the bytes it was signed for and for no others.  A nonce that
`hello` draws has not been signed before.  Under these a run of calls and
signatures shows, for every authenticated context, a `hello`, a signature of the
host over that very challenge and an `authenticate`, in this order, without a
close in between and within the lifetime of a challenge.
-/

namespace D2b.Guestd

open Contracts List Trace Option List.Sublist
open GuestAuthCore
open Command

/-! ## what the calls do -/

/-- The transcript a host must sign for a challenge. -/
def PendingChallenge.hostTranscript (challenge : PendingChallenge) : GuestAuthTranscript :=
  transcriptOf .host challenge.context challenge.hostNonce challenge.guestNonce
    challenge.guestBootId none

variable {challenge : PendingChallenge}

lemma ChallengeStore.answers_eq_true :
    answers connection guestNonce challenge = true ↔
      challenge.context.connectionInstance = connection ∧ challenge.guestNonce = guestNonce := by
  simp [answers]

namespace GuestAuthCore

/-- Only challenges may have gone. -/
structure Shrinks (core core' : GuestAuthCore) : Prop where
  challenges : core'.challenges.Sublist core.challenges
  ttl : core'.challengeTtlMs = core.challengeTtlMs
  authenticated : core'.authenticatedConnections = core.authenticatedConnections

lemma Shrinks.refl (core : GuestAuthCore) : Shrinks core core := ⟨List.Sublist.refl _, rfl, rfl⟩

structure Issues (core : GuestAuthCore) (nonce : Except GuestAuthError Nonce) (nowMs : Nat)
    (challenge : PendingChallenge) (core' : GuestAuthCore) : Prop where
  nonce : nonce = .ok challenge.guestNonce
  issuedAt : challenge.issuedAtMs = nowMs
  after : core' = { core with
    challenges := core.challenges.removeExpired nowMs core.challengeTtlMs ++ [challenge] }

variable {context : AuthConnectionContext}

lemma issueChallenge_ends (core : GuestAuthCore) :
    (issueChallenge context request nonce bootId nowMs).Ends core (fun _ => Shrinks core)
      (Issues core nonce nowMs) := by
  have hrefl := Shrinks.refl core
  refine ends_ofExcept_bind (fun _ => hrefl) fun _ _ => ?_
  refine ends_failIf_bind hrefl fun _ => ?_
  refine ends_ofExcept_bind (fun _ => hrefl) fun hostNonce _ => ?_
  refine ends_ofExcept_bind (fun _ => hrefl) fun guestNonce hnonce => ?_
  refine ends_ofExcept_bind (fun _ => hrefl) fun guestBootId _ => ?_
  refine ends_modify_bind (ends_get_bind ?_)
  refine ends_ofExcept_bind (fun _ => ⟨filter_sublist, rfl, rfl⟩) fun challenges hinsert => ?_
  refine ends_modify_bind (ends_pure ⟨hnonce, rfl, ?_⟩)
  unfold ChallengeStore.insert at hinsert
  split at hinsert
  · cases hinsert
  · cases hinsert
    rfl

structure Accepts (token : TokenSource) (core : GuestAuthCore) (context : AuthConnectionContext)
    (request : AuthenticateRequest) (nowMs : Nat) (proof : AcceptedProof)
    (core' : GuestAuthCore) : Prop where
  vmId : ∃ metadata, request.metadata = some metadata ∧ metadata.vmId = context.vmId
  found : core.challenges.find? (ChallengeStore.answers context.connectionInstance
    proof.challenge.guestNonce) = some proof.challenge
  alive : nowMs - proof.challenge.issuedAtMs ≤ core.challengeTtlMs
  sameContext : proof.challenge.context = context
  sameBootId : proof.challenge.guestBootId = request.guestBootId
  verified : ∃ tag, token.verifyTag (encodeTranscript proof.challenge.hostTranscript) tag = .ok ()
  role : proof.guestTranscript.role = .guest
  after : core' = { core with
    challenges := core.challenges.eraseP (ChallengeStore.answers context.connectionInstance
      proof.challenge.guestNonce)
    authenticatedConnections := insert context core.authenticatedConnections }

lemma vmId_of_validate (h : validateContextAndMetadata context metadata = .ok ()) :
    ∃ m, metadata = some m ∧ m.vmId = context.vmId := by
  unfold validateContextAndMetadata at h
  cases hvalid : context.validate with
  | error e =>
    rw [hvalid] at h
    cases h
  | ok u =>
    rw [hvalid] at h
    cases metadata with
    | none => cases h
    | some m =>
      by_cases hvm : m.vmId = context.vmId
      · exact ⟨m, rfl, hvm⟩
      · have herror : (if m.vmId ≠ context.vmId then .error .metadataMismatch
            else if m.protocolVersion ≠ context.protocolVersion then
              .error .protocolVersionMismatch
            else .ok () : Except GuestAuthError Unit) = .ok () := h
        rw [if_pos hvm] at herror
        cases herror

lemma acceptProof_ends (core : GuestAuthCore) :
    (acceptProof token context request snapshot nowMs).Ends core (fun _ => Shrinks core)
      (Accepts token core context request nowMs) := by
  have hrefl := Shrinks.refl core
  refine ends_ofExcept_bind (fun _ => hrefl) fun _ hvalid => ?_
  refine ends_failIf_bind hrefl fun _ => ?_
  refine ends_ofExcept_bind (fun _ => hrefl) fun hostNonce _ => ?_
  refine ends_ofExcept_bind (fun _ => hrefl) fun guestNonce _ => ?_
  refine ends_ofExcept_bind (fun _ => hrefl) fun hostTag _ => ?_
  refine ends_get_bind (ends_okOr_bind hrefl fun found hfound => ?_)
  obtain ⟨challenge, challenges⟩ := found
  obtain ⟨_, hfind, heq⟩ := map_eq_some_iff.mp hfound
  obtain ⟨rfl, rfl⟩ := Prod.mk.inj heq
  have hshrinks : Shrinks core { core with
      challenges := core.challenges.eraseP
        (ChallengeStore.answers context.connectionInstance guestNonce) } :=
    ⟨eraseP_sublist, rfl, rfl⟩
  refine ends_modify_bind ?_
  refine ends_failIf_bind hshrinks fun halive => ?_
  refine ends_failIf_bind hshrinks fun hmatch => ?_
  refine ends_failIf_bind hshrinks fun hboot => ?_
  refine ends_ofExcept_bind (fun _ => hshrinks) fun _ hverified => ?_
  refine ends_ofExcept_bind (fun _ => hshrinks) fun snapshot _ => ?_
  refine ends_ofExcept_bind (fun _ => hshrinks) fun guestTag _ => ?_
  rw [not_or, not_not, not_not] at hmatch
  rw [not_not] at hboot
  have hnonce := (ChallengeStore.answers_eq_true.mp (find?_some hfind)).2
  refine ends_modify_bind (ends_pure ⟨vmId_of_validate hvalid, ?_, Nat.le_of_not_lt halive,
    hmatch.1, hboot, ⟨hostTag, ?_⟩, rfl, ?_⟩)
  · rw [hnonce]
    exact hfind
  · unfold PendingChallenge.hostTranscript
    rw [hmatch.1, hmatch.2, hboot, hnonce]
    exact hverified
  · rw [hnonce]

end GuestAuthCore

/-! ## runs -/

/-- Cap of one frame of the transport (`TTRPC_FRAME_CAP_BYTES`). -/
def ttrpcFrameCapBytes : Nat := 4 * 1024 * 1024

/-- The texts of a request arrived in one frame. -/
def AuthenticateRequest.InFrame (request : AuthenticateRequest) : Prop :=
  (request.metadata.elim 0 fun metadata => metadata.vmId.utf8ByteSize) +
    request.guestBootId.utf8ByteSize ≤ ttrpcFrameCapBytes

instance (request : AuthenticateRequest) : Decidable request.InFrame :=
  inferInstanceAs (Decidable (_ ≤ _))

/-- The guest with the log of what the holders of the token signed, and a clock. -/
structure AuthSystem where
  core : GuestAuthCore
  signed : List (GuestAuthTranscript × AuthTag)
  clock : Nat

/-- The calls, with what the environment answers, and signatures by a holder of
the token. -/
inductive AuthCall where
  | hello (context : AuthConnectionContext) (request : HelloRequest)
      (nonce : Except GuestAuthError Nonce) (bootId : Except GuestAuthError String) (nowMs : Nat)
  | authenticate (context : AuthConnectionContext) (request : AuthenticateRequest)
      (tag : Except GuestAuthError AuthTag)
      (snapshot : Except GuestAuthError CapabilitiesSnapshot) (nowMs : Nat)
  | closeConnection (context : AuthConnectionContext)
  | sign (transcript : GuestAuthTranscript) (tag : AuthTag) (nowMs : Nat)

/-- What a call did. -/
inductive AuthEvent where
  | hello (issued : Option PendingChallenge) (nowMs : Nat)
  | authenticate (context : AuthConnectionContext) (accepted : Option AcceptedProof) (nowMs : Nat)
  | close (context : AuthConnectionContext)
  | sign (transcript : GuestAuthTranscript) (tag : AuthTag) (nowMs : Nat)

def AuthEvent.time : AuthEvent → Option Nat
  | .hello _ nowMs => some nowMs
  | .authenticate _ _ nowMs => some nowMs
  | .close _ => none
  | .sign _ _ nowMs => some nowMs

/-- An unforgeable token: a tag verifies only for the bytes it was signed for. -/
def idealToken (signed : List (GuestAuthTranscript × AuthTag))
    (tag : Except GuestAuthError AuthTag) : TokenSource where
  verifyTag bytes tag :=
    if signed.any fun entry => encodeTranscript entry.1 == bytes && entry.2 == tag then .ok ()
    else .error .macRejected
  signTag _ := tag

namespace AuthSystem

def perform (s : AuthSystem) : AuthCall → AuthEvent × AuthSystem
  | .hello context request nonce bootId nowMs =>
    match (issueChallenge context request nonce bootId nowMs).exec s.core with
    | (.ok challenge, core) => (.hello (some challenge) nowMs, { s with core, clock := nowMs })
    | (.error _, core) => (.hello none nowMs, { s with core, clock := nowMs })
  | .authenticate context request tag snapshot nowMs =>
    match (acceptProof (idealToken s.signed tag) context request snapshot
        nowMs).exec s.core with
    | (.ok proof, core) =>
      (.authenticate context (some proof) nowMs,
        { core
          signed := s.signed ++ [(proof.guestTranscript, proof.guestTag)]
          clock := nowMs })
    | (.error _, core) => (.authenticate context none nowMs, { s with core, clock := nowMs })
  | .closeConnection context =>
    (.close context, { s with core := s.core.closeConnection context })
  | .sign transcript tag nowMs =>
    (.sign transcript tag nowMs,
      { s with signed := s.signed ++ [(transcript, tag)], clock := nowMs })

/-- The clock does not go back, a drawn nonce is in no signed transcript, and
requests fit into a frame. -/
def Permits (s : AuthSystem) : AuthCall → Prop
  | .hello _ _ nonce _ nowMs =>
    s.clock ≤ nowMs ∧ ∀ entry ∈ s.signed, nonce.toOption ≠ some entry.1.guestNonce
  | .authenticate _ request _ _ nowMs => s.clock ≤ nowMs ∧ request.InFrame
  | .closeConnection _ => True
  | .sign _ _ nowMs => s.clock ≤ nowMs

instance (s : AuthSystem) (call : AuthCall) : Decidable (s.Permits call) :=
  match call with
  | .hello .. => inferInstanceAs (Decidable (_ ≤ _ ∧ ∀ entry ∈ s.signed, _ ≠ _))
  | .authenticate _ request .. => inferInstanceAs (Decidable (_ ≤ _ ∧ request.InFrame))
  | .closeConnection _ => inferInstanceAs (Decidable True)
  | .sign .. => inferInstanceAs (Decidable (_ ≤ _))

/-- No tag was signed for two different byte strings. -/
def CollisionFree (signed : List (GuestAuthTranscript × AuthTag)) : Prop :=
  ∀ entry ∈ signed, ∀ entry' ∈ signed, entry.2 = entry'.2 →
    encodeTranscript entry.1 = encodeTranscript entry'.1

/-- Nothing was issued, admitted or signed. -/
def Initial (ttlMs capacity : Nat) (s : AuthSystem) : Prop :=
  s.core = { challenges := [], challengeTtlMs := ttlMs, challengeCapacity := capacity,
             authenticatedConnections := ∅ } ∧ s.signed = []

def Step (_ : List AuthEvent) (s : AuthSystem) (event : AuthEvent) (s' : AuthSystem) : Prop :=
  ∃ call, s.Permits call ∧ s.perform call = (event, s') ∧ CollisionFree s'.signed

end AuthSystem

/-! ## what a history shows -/

/-- The challenge was issued, its connection was not closed since, and nothing was
signed with its nonce before. -/
def Fresh (h : List AuthEvent) (challenge : PendingChallenge) : Prop :=
  ∃ past later, h = past ++ .hello (some challenge) challenge.issuedAtMs :: later ∧
    (∀ context, .close context ∈ later →
      context.connectionInstance ≠ challenge.context.connectionInstance) ∧
    ∀ transcript tag nowMs, .sign transcript tag nowMs ∈ past →
      transcript.guestNonce ≠ challenge.guestNonce

/-- Since the last close of the context a challenge was issued to it, the host
signed the transcript of this challenge, and the proof was accepted, all within
the lifetime of a challenge. -/
def Proven (ttlMs : Nat) (h : List AuthEvent) (context : AuthConnectionContext) : Prop :=
  ∃ (challenge : PendingChallenge) (proof : AcceptedProof) (tag : AuthTag)
    (signedAt acceptedAt : Nat) (past mid₁ mid₂ later : List AuthEvent),
    h = past ++ .hello (some challenge) challenge.issuedAtMs ::
      (mid₁ ++ .sign challenge.hostTranscript tag signedAt ::
        (mid₂ ++ .authenticate context (some proof) acceptedAt :: later)) ∧
    challenge.context = context ∧ proof.challenge = challenge ∧
    .close context ∉ mid₁ ∧ .close context ∉ mid₂ ∧ .close context ∉ later ∧
    challenge.issuedAtMs ≤ signedAt ∧ signedAt ≤ acceptedAt ∧
    acceptedAt ≤ challenge.issuedAtMs + ttlMs

lemma Fresh.snoc (hfresh : Fresh h challenge)
    (hopen : ∀ context, event = .close context →
      context.connectionInstance ≠ challenge.context.connectionInstance) :
    Fresh (h ++ [event]) challenge := by
  obtain ⟨past, later, rfl, hclose, hnonce⟩ := hfresh
  refine ⟨past, later ++ [event], by simp, ?_, hnonce⟩
  intro context hmem
  rcases mem_snoc.mp hmem with hlater | hlast
  · exact hclose context hlater
  · exact hopen context hlast.symm

lemma Proven.snoc (hproven : Proven ttlMs h context) (hopen : event ≠ .close context) :
    Proven ttlMs (h ++ [event]) context := by
  obtain ⟨challenge, proof, tag, signedAt, acceptedAt, past, mid₁, mid₂, later, rfl, hcontext,
    hproof, hmid₁, hmid₂, hlater, htimes⟩ := hproven
  refine ⟨challenge, proof, tag, signedAt, acceptedAt, past, mid₁, mid₂, later ++ [event],
    by simp, hcontext, hproof, hmid₁, hmid₂, ?_, htimes⟩
  intro hmem
  rcases mem_snoc.mp hmem with hin | hlast
  · exact hlater hin
  · exact hopen hlast.symm

def AuthEvent.issued : AuthEvent → Option PendingChallenge
  | .hello issued _ => issued
  | _ => none

def AuthEvent.accepted : AuthEvent → Option PendingChallenge
  | .authenticate _ accepted _ => accepted.map (·.challenge)
  | _ => none

/-- How often a challenge was issued. -/
def timesIssued (h : List AuthEvent) (challenge : PendingChallenge) : Nat :=
  (h.filterMap AuthEvent.issued).count challenge

/-- How often a challenge was accepted. -/
def timesAccepted (h : List AuthEvent) (challenge : PendingChallenge) : Nat :=
  (h.filterMap AuthEvent.accepted).count challenge

lemma timesIssued_snoc (h : List AuthEvent) :
    timesIssued (h ++ [event]) challenge =
      timesIssued h challenge + event.issued.toList.count challenge := by
  unfold timesIssued
  rw [filterMap_append, count_append]
  cases hissued : event.issued <;> simp [hissued]

lemma timesAccepted_snoc (h : List AuthEvent) :
    timesAccepted (h ++ [event]) challenge =
      timesAccepted h challenge + event.accepted.toList.count challenge := by
  unfold timesAccepted
  rw [filterMap_append, count_append]
  cases haccepted : event.accepted <;> simp [haccepted]

/-- A consumed challenge is taken out once. -/
lemma perm_cons_eraseP {challenges : ChallengeStore} (h : challenges.find? p = some challenge) :
    challenges.Perm (challenge :: challenges.eraseP p) := by
  induction challenges with
  | nil => cases h
  | cons first rest ih =>
    by_cases hp : p first = true
    · rw [find?_cons_of_pos hp] at h
      cases h
      rw [eraseP_cons_of_pos hp]
    · rw [find?_cons_of_neg hp] at h
      rw [eraseP_cons_of_neg hp]
      exact ((ih h).cons first).trans (List.Perm.swap _ _ _)

namespace AuthSystem

/-! ## the invariant -/

/-- Earlier events have earlier times. -/
def InOrder (h : List AuthEvent) : Prop :=
  h.Pairwise fun e e' => ∀ t t', e.time = some t → e'.time = some t' → t ≤ t'

structure Inv (ttlMs : Nat) (h : List AuthEvent) (s : AuthSystem) : Prop where
  ttl : s.core.challengeTtlMs = ttlMs
  inOrder : InOrder h
  clock : ∀ event ∈ h, ∀ t, event.time = some t → t ≤ s.clock
  logged : ∀ transcript tag t, .sign transcript tag t ∈ h → (transcript, tag) ∈ s.signed
  byHost : ∀ entry ∈ s.signed, entry.1.role = .host → ∃ t, .sign entry.1 entry.2 t ∈ h
  byGuest : ∀ context proof t, .authenticate context (some proof) t ∈ h →
    (proof.guestTranscript, proof.guestTag) ∈ s.signed ∧ proof.guestTranscript.role = .guest
  collisionFree : CollisionFree s.signed
  pending : ∀ challenge ∈ s.core.challenges, Fresh h challenge
  proven : ∀ context ∈ s.core.authenticatedConnections, Proven ttlMs h context
  once : ∀ challenge, timesAccepted h challenge + s.core.challenges.count challenge ≤
    timesIssued h challenge

/-- What an event changes of the log and the clock, whatever it does to the core. -/
structure Extends (h : List AuthEvent) (s : AuthSystem) (event : AuthEvent) (s' : AuthSystem) :
    Prop where
  time : ∀ t, event.time = some t → s.clock ≤ t ∧ t ≤ s'.clock
  clock : s.clock ≤ s'.clock
  signed : s.signed.Sublist s'.signed
  logged : ∀ transcript tag t, event = .sign transcript tag t → (transcript, tag) ∈ s'.signed
  byHost : ∀ entry ∈ s'.signed, entry.1.role = .host →
    entry ∈ s.signed ∨ ∃ t, event = .sign entry.1 entry.2 t
  byGuest : ∀ context proof t, event = .authenticate context (some proof) t →
    (proof.guestTranscript, proof.guestTag) ∈ s'.signed ∧ proof.guestTranscript.role = .guest

variable {ttlMs : Nat} {h : List AuthEvent} {s : AuthSystem}

/-- The part of the invariant that does not speak of the core. -/
lemma Inv.extend (hinv : Inv ttlMs h s) (hext : Extends h s event s')
    (hfree : CollisionFree s'.signed) (httl : s'.core.challengeTtlMs = s.core.challengeTtlMs)
    (hpending : ∀ challenge ∈ s'.core.challenges, Fresh (h ++ [event]) challenge)
    (hproven : ∀ context ∈ s'.core.authenticatedConnections, Proven ttlMs (h ++ [event]) context)
    (honce : ∀ challenge, event.accepted.toList.count challenge + s'.core.challenges.count challenge
      ≤ event.issued.toList.count challenge + s.core.challenges.count challenge) :
    Inv ttlMs (h ++ [event]) s' where
  ttl := httl.trans hinv.ttl
  inOrder := by
    refine pairwise_append.mpr ⟨hinv.inOrder, pairwise_singleton _ _, ?_⟩
    intro e he e' he' t t' ht ht'
    rw [mem_singleton.mp he'] at ht'
    exact Nat.le_trans (hinv.clock e he t ht) (hext.time t' ht').1
  clock := by
    refine forall_mem_snoc.mpr ⟨fun e he t ht => ?_, fun t ht => (hext.time t ht).2⟩
    exact Nat.le_trans (hinv.clock e he t ht) hext.clock
  logged := by
    intro transcript tag t hmem
    rcases mem_snoc.mp hmem with hold | hnew
    · exact hext.signed.subset (hinv.logged transcript tag t hold)
    · exact hext.logged transcript tag t hnew.symm
  byHost := by
    intro entry hentry hrole
    rcases hext.byHost entry hentry hrole with hold | ⟨t, ht⟩
    · obtain ⟨t, ht⟩ := hinv.byHost entry hold hrole
      exact ⟨t, mem_append_left _ ht⟩
    · exact ⟨t, by rw [ht]; simp⟩
  byGuest := by
    intro context proof t hmem
    rcases mem_snoc.mp hmem with hold | hnew
    · obtain ⟨hin, hrole⟩ := hinv.byGuest context proof t hold
      exact ⟨hext.signed.subset hin, hrole⟩
    · exact hext.byGuest context proof t hnew.symm
  collisionFree := hfree
  pending := hpending
  proven := hproven
  once := by
    intro challenge
    have hbefore := hinv.once challenge
    have hevent := honce challenge
    rw [timesAccepted_snoc, timesIssued_snoc]
    omega

lemma time_bounds {now : Nat} (h : old ≤ now) : ∀ t, some now = some t → old ≤ t ∧ t ≤ now := by
  rintro t ⟨⟩
  exact ⟨h, Nat.le_refl _⟩

variable {core : GuestAuthCore}

section

variable (hinv : Inv ttlMs h s)
include hinv

/-- A call that was refused. -/
lemma Inv.refused (hshrinks : Shrinks s.core core) (hclock : s.clock ≤ nowMs)
    (hevent : event = .hello none nowMs ∨ ∃ context, event = .authenticate context none nowMs) :
    Inv ttlMs (h ++ [event]) { s with core, clock := nowMs } := by
  have htime : event.time = some nowMs := by
    rcases hevent with rfl | ⟨context, rfl⟩ <;> rfl
  have hissued : event.issued = none := by
    rcases hevent with rfl | ⟨context, rfl⟩ <;> rfl
  have haccepted : event.accepted = none := by
    rcases hevent with rfl | ⟨context, rfl⟩ <;> rfl
  have hnotClose : ∀ context, event ≠ .close context := by
    rcases hevent with rfl | ⟨context, rfl⟩ <;> simp
  refine hinv.extend ⟨htime ▸ time_bounds hclock, hclock, refl _, ?_,
    fun entry hentry _ => .inl hentry, ?_⟩ hinv.collisionFree hshrinks.ttl ?_ ?_ ?_
  · rcases hevent with rfl | ⟨context, rfl⟩ <;> simp
  · rcases hevent with rfl | ⟨context, rfl⟩ <;> simp
  · intro challenge hmem
    exact (hinv.pending challenge (hshrinks.challenges.subset hmem)).snoc fun context heq =>
      absurd heq (hnotClose context)
  · intro context hmem
    rw [hshrinks.authenticated] at hmem
    exact (hinv.proven context hmem).snoc (hnotClose context)
  · intro challenge
    rw [haccepted, hissued]
    simpa using hshrinks.challenges.count_le challenge

/-- A challenge that was issued. -/
lemma Inv.issued (hissues : Issues s.core nonce nowMs challenge core)
    (hclock : s.clock ≤ nowMs)
    (hnonce : ∀ entry ∈ s.signed, nonce.toOption ≠ some entry.1.guestNonce) :
    Inv ttlMs (h ++ [.hello (some challenge) nowMs]) { s with core, clock := nowMs } := by
  obtain ⟨hdrawn, hissuedAt, rfl⟩ := hissues
  have hsublist : (s.core.challenges.removeExpired nowMs s.core.challengeTtlMs).Sublist
      s.core.challenges := filter_sublist
  refine hinv.extend ⟨time_bounds hclock, hclock, refl _, by simp,
    fun entry hentry _ => .inl hentry, by simp⟩ hinv.collisionFree rfl ?_ ?_ ?_
  · refine forall_mem_snoc.mpr ⟨fun pending hold => ?_, ?_⟩
    · exact (hinv.pending pending (hsublist.subset hold)).snoc (by simp)
    · refine ⟨h, [], by rw [hissuedAt], by simp, fun transcript tag t hsign heq => ?_⟩
      refine hnonce _ (hinv.logged transcript tag t hsign) ?_
      rw [hdrawn, heq]
      rfl
  · intro context hmem
    exact (hinv.proven context hmem).snoc (by simp)
  · intro pending
    have hcount := hsublist.count_le pending
    rw [count_append]
    simp only [AuthEvent.accepted, AuthEvent.issued, toList_none, toList_some, count_nil]
    omega

/-- A signature of a holder of the token. -/
lemma Inv.signs (hclock : s.clock ≤ nowMs)
    (hfree : CollisionFree (s.signed ++ [(transcript, tag)])) :
    Inv ttlMs (h ++ [.sign transcript tag nowMs])
      { s with signed := s.signed ++ [(transcript, tag)], clock := nowMs } := by
  refine hinv.extend ⟨time_bounds hclock, hclock, sublist_append_left _ _, ?_, ?_, by simp⟩
    hfree rfl ?_ ?_ ?_
  · intro transcript' tag' t heq
    cases heq
    simp
  · exact forall_mem_snoc.mpr ⟨fun _ hold _ => .inl hold, fun _ => .inr ⟨nowMs, rfl⟩⟩
  · intro challenge hmem
    exact (hinv.pending challenge hmem).snoc (by simp)
  · intro context hmem
    exact (hinv.proven context hmem).snoc (by simp)
  · simp [AuthEvent.accepted, AuthEvent.issued]

/-- A connection that was closed. -/
lemma Inv.closed (context : AuthConnectionContext) :
    Inv ttlMs (h ++ [.close context]) { s with core := s.core.closeConnection context } := by
  have hsublist : (s.core.challenges.dropConnection context.connectionInstance).Sublist
      s.core.challenges := filter_sublist
  refine hinv.extend ⟨by simp [AuthEvent.time], Nat.le_refl _, refl _, by simp,
    fun entry hentry _ => .inl hentry, by simp⟩ hinv.collisionFree rfl ?_ ?_ ?_
  · intro challenge hmem
    have hother := of_decide_eq_true (mem_filter.mp hmem).2
    refine (hinv.pending challenge (hsublist.subset hmem)).snoc fun context' heq => ?_
    cases heq
    exact fun hsame => hother hsame.symm
  · intro context' hmem
    obtain ⟨hne, hmem⟩ := Finset.mem_erase.mp hmem
    refine (hinv.proven context' hmem).snoc fun heq => ?_
    cases heq
    exact hne rfl
  · intro challenge
    simpa [AuthEvent.accepted, AuthEvent.issued, closeConnection] using hsublist.count_le challenge

end

variable {sign : Except GuestAuthError AuthTag}

/-- A tag verifies for what was signed with it. -/
lemma exists_signed_of_verifyTag {signed : List (GuestAuthTranscript × AuthTag)}
    (hverified : (idealToken signed sign).verifyTag bytes tag = .ok ()) :
    ∃ entry ∈ signed, encodeTranscript entry.1 = bytes ∧ entry.2 = tag := by
  simp only [idealToken] at hverified
  split at hverified
  · next hany =>
      obtain ⟨entry, hentry, hboth⟩ := any_eq_true.mp hany
      rw [Bool.and_eq_true, beq_iff_eq, beq_iff_eq] at hboth
      exact ⟨entry, hentry, hboth⟩
  · cases hverified

variable {context : AuthConnectionContext} {proof : AcceptedProof}

/-- The transcript of a challenge whose texts came in one frame is short. -/
lemma length_hostTranscript_lt (hframe : request.InFrame)
    (haccepts : Accepts token core context request nowMs proof core') :
    (encodeTranscript proof.challenge.hostTranscript).length < 2 ^ 32 := by
  obtain ⟨metadata, hmetadata, hvmId⟩ := haccepts.vmId
  have hlength := length_encodeTranscript_le proof.challenge.hostTranscript
  have hvm : proof.challenge.hostTranscript.vmId = context.vmId :=
    congrArg AuthConnectionContext.vmId haccepts.sameContext
  have hboot : proof.challenge.hostTranscript.guestBootId = request.guestBootId :=
    haccepts.sameBootId
  have hhash : (pushOptional 13 proof.challenge.hostTranscript.capabilitiesHash).length = 0 := rfl
  unfold AuthenticateRequest.InFrame at hframe
  rw [hmetadata, elim_some, hvmId] at hframe
  rw [hvm, hboot, hhash] at hlength
  simp only [ttrpcFrameCapBytes] at hframe
  omega

section

variable {request : AuthenticateRequest} (hinv : Inv ttlMs h s) (hclock : s.clock ≤ nowMs)
  (hframe : request.InFrame) (haccepts :
    Accepts (idealToken s.signed sign) s.core context request nowMs proof core)
include hinv hclock hframe haccepts

/-- An accepted proof shows the signature of the host. -/
lemma Inv.proven_of_accepts :
    Proven ttlMs (h ++ [.authenticate context (some proof) nowMs]) context := by
  have hmem : proof.challenge ∈ s.core.challenges := mem_of_find?_eq_some haccepts.found
  obtain ⟨past, later, hh, hclose, hnonce⟩ := hinv.pending _ hmem
  obtain ⟨tag, hverified⟩ := haccepts.verified
  obtain ⟨entry, hentry, hbytes, -⟩ := exists_signed_of_verifyTag hverified
  have htranscript : proof.challenge.hostTranscript = entry.1 :=
    encodeTranscript_injective (length_hostTranscript_lt hframe haccepts) hbytes.symm
  have hrole : entry.1.role = .host := by
    rw [← htranscript]
    rfl
  obtain ⟨signedAt, hsign⟩ := hinv.byHost entry hentry hrole
  -- the nonce was fresh, so the signature came after the challenge
  have hlater : .sign entry.1 entry.2 signedAt ∈ later := by
    rw [hh] at hsign
    rcases mem_append.mp hsign with hpast | hrest
    · refine absurd ?_ (hnonce entry.1 entry.2 signedAt hpast)
      rw [← htranscript]
      rfl
    · rcases mem_cons.mp hrest with heq | hmem
      · cases heq
      · exact hmem
  have hissued : proof.challenge.issuedAtMs ≤ signedAt := by
    have hord := hinv.inOrder
    rw [hh] at hord
    exact (pairwise_cons.mp (pairwise_append.mp hord).2.1).1 _ hlater _ _ rfl rfl
  have hsigned : signedAt ≤ nowMs := Nat.le_trans (hinv.clock _ hsign _ rfl) hclock
  have halive := haccepts.alive
  rw [hinv.ttl] at halive
  have hnotClosed : .close context ∉ later := by
    intro hmem
    refine hclose context hmem ?_
    rw [haccepts.sameContext]
  obtain ⟨mid₁, mid₂, hsplit⟩ := append_of_mem hlater
  rw [hsplit, mem_append, mem_cons] at hnotClosed
  refine ⟨proof.challenge, proof, entry.2, signedAt, nowMs, past, mid₁, mid₂, [], ?_,
    haccepts.sameContext, rfl, fun hin => hnotClosed (.inl hin),
    fun hin => hnotClosed (.inr (.inr hin)), by simp, hissued, hsigned, by omega⟩
  rw [hh, hsplit, htranscript]
  simp

/-- A proof that was accepted. -/
lemma Inv.accepted
    (hfree : CollisionFree (s.signed ++ [(proof.guestTranscript, proof.guestTag)])) :
    Inv ttlMs (h ++ [.authenticate context (some proof) nowMs])
      { core
        signed := s.signed ++ [(proof.guestTranscript, proof.guestTag)]
        clock := nowMs } := by
  have hproven := hinv.proven_of_accepts hclock hframe haccepts
  have hcore := haccepts.after
  subst hcore
  have hperm := perm_cons_eraseP haccepts.found
  refine hinv.extend ⟨time_bounds hclock, hclock, sublist_append_left _ _, by simp, ?_, ?_⟩
    hfree rfl ?_ ?_ ?_
  · refine forall_mem_snoc.mpr ⟨fun _ hold _ => .inl hold, fun hrole => ?_⟩
    rw [haccepts.role] at hrole
    cases hrole
  · intro context' proof' t heq
    cases heq
    exact ⟨by simp, haccepts.role⟩
  · intro challenge hmem
    exact (hinv.pending challenge (mem_of_mem_eraseP hmem)).snoc (by simp)
  · intro context' hmem
    rcases Finset.mem_insert.mp hmem with rfl | hold
    · exact hproven
    · exact (hinv.proven context' hold).snoc (by simp)
  · intro challenge
    have hcount := hperm.count_eq challenge
    simp only [AuthEvent.accepted, AuthEvent.issued, map_some, toList_none,
      toList_some, count_nil, count_cons] at hcount ⊢
    omega

end

/-- Every step keeps the invariant. -/
lemma Inv.step (hinv : Inv ttlMs h s) (hstep : Step h s event s') :
    Inv ttlMs (h ++ [event]) s' := by
  obtain ⟨call, hpermits, hperform, hfree⟩ := hstep
  cases call with
  | hello context request nonce bootId nowMs =>
    cases hexec : (issueChallenge context request nonce bootId nowMs).exec s.core with
    | mk result core =>
      simp only [perform, hexec] at hperform
      cases result with
      | ok challenge =>
        cases hperform
        exact hinv.issued ((issueChallenge_ends s.core).of_ok hexec)
          hpermits.1 hpermits.2
      | error e =>
        cases hperform
        exact hinv.refused ((issueChallenge_ends s.core).of_error hexec)
          hpermits.1 (.inl rfl)
  | authenticate context request tag snapshot nowMs =>
    cases hexec : (acceptProof (idealToken s.signed tag) context request snapshot
        nowMs).exec s.core with
    | mk result core =>
      simp only [perform, hexec] at hperform
      cases result with
      | ok proof =>
        cases hperform
        exact hinv.accepted hpermits.1 hpermits.2 ((acceptProof_ends s.core).of_ok hexec) hfree
      | error e =>
        cases hperform
        exact hinv.refused ((acceptProof_ends s.core).of_error hexec)
          hpermits.1 (.inr ⟨context, rfl⟩)
  | closeConnection context =>
    cases hperform
    exact hinv.closed context
  | sign transcript tag nowMs =>
    cases hperform
    exact hinv.signs hpermits hfree

variable {capacity : Nat}

lemma Inv.initial (hs : Initial ttlMs capacity s) : Inv ttlMs [] s := by
  obtain ⟨hcore, hsigned⟩ := hs
  constructor
  · rw [hcore]
  · exact List.Pairwise.nil
  · simp
  · simp
  · simp [hsigned]
  · simp
  · simp [CollisionFree, hsigned]
  · simp [hcore]
  · simp [hcore]
  · simp [hcore, timesAccepted]

lemma inv_of_run (hrun : Trace.Run (Initial ttlMs capacity) Step h s) : Inv ttlMs h s :=
  Trace.Run.invariant (fun _ hs => Inv.initial hs) (fun _ _ _ _ _ hinv hstep => hinv.step hstep)
    hrun

/-- No tag of the guest verifies for a transcript of the host. -/
lemma Inv.guestTag_not_verified (hinv : Inv ttlMs h s) {t : Nat}
    (hmem : .authenticate context (some proof) t ∈ h) (hrole : transcript.role = .host)
    (sign : Except GuestAuthError AuthTag) :
    (idealToken s.signed sign).verifyTag (encodeTranscript transcript) proof.guestTag ≠ .ok () := by
  intro hverified
  obtain ⟨entry, hentry, hbytes, htag⟩ := exists_signed_of_verifyTag hverified
  obtain ⟨hguest, hguestRole⟩ := hinv.byGuest context proof t hmem
  have hsame := hinv.collisionFree entry hentry _ hguest htag
  have hroles : transcript.role = proof.guestTranscript.role :=
    role_eq_of_encodeTranscript_eq (hbytes.symm.trans hsame)
  rw [hrole, hguestRole] at hroles
  cases hroles

/-- Authentication is fresh and bound to the connection, each challenge is used at
most once, and the guest's own tags prove nothing to it. -/
theorem authentication_fresh_and_bound {capacity : Nat}
    (hrun : Trace.Run (Initial ttlMs capacity) Step h s) :
    (∀ context ∈ s.core.authenticatedConnections, Proven ttlMs h context) ∧
      (∀ challenge, timesAccepted h challenge ≤ timesIssued h challenge) ∧
      ∀ context proof t, .authenticate context (some proof) t ∈ h →
        ∀ transcript : GuestAuthTranscript, transcript.role = .host →
          ∀ sign, (idealToken s.signed sign).verifyTag (encodeTranscript transcript)
            proof.guestTag ≠ .ok () := by
  have hinv := inv_of_run hrun
  refine ⟨hinv.proven, fun challenge => ?_, fun context proof t hmem transcript hrole sign =>
    hinv.guestTag_not_verified hmem hrole sign⟩
  exact Nat.le_trans (Nat.le_add_right _ _) (hinv.once challenge)

/-! ## a run that authenticates -/

def sampleContext : AuthConnectionContext :=
  { vmId := "corp-vm"
    protocolVersion := 6
    guestControlPort := 14318
    peerCid := 2
    direction := .hostToGuest
    purpose := .guestControlAuthV1
    connectionInstance := ⟨List.replicate 16 0x33, rfl⟩ }

def sampleHostNonce : Nonce := ⟨List.replicate 32 0x11, rfl⟩

def sampleGuestNonce : Nonce := ⟨List.replicate 32 0x22, rfl⟩

def sampleCalls : List AuthCall :=
  [ .hello sampleContext
      { metadata := some { vmId := "corp-vm", protocolVersion := 6 }
        transcriptVersion := 1
        hostNonce := sampleHostNonce.1 }
      (.ok sampleGuestNonce) (.ok "boot-1") 1000,
    .sign (transcriptOf .host sampleContext sampleHostNonce sampleGuestNonce "boot-1" none)
      ⟨List.replicate 32 1, rfl⟩ 1500,
    .authenticate sampleContext
      { metadata := some { vmId := "corp-vm", protocolVersion := 6 }
        transcriptVersion := 1
        hostNonce := sampleHostNonce.1
        guestNonce := sampleGuestNonce.1
        guestBootId := "boot-1"
        hostAuthTag := List.replicate 32 1 }
      (.ok ⟨List.replicate 32 2, rfl⟩)
      (.ok { capabilitiesHash := "caps", bodyCheck := .ok () }) 2000 ]

def sampleSystem : AuthSystem :=
  { core := { challenges := [], challengeTtlMs := 30000, challengeCapacity := 128,
              authenticatedConnections := ∅ }
    signed := []
    clock := 0 }

instance (signed : List (GuestAuthTranscript × AuthTag)) : Decidable (CollisionFree signed) :=
  inferInstanceAs (Decidable (∀ entry ∈ signed, ∀ entry' ∈ signed, _ = _ → _ = _))

/-- The calls of a list are permitted, and the log stays free of collisions. -/
def AllPermitted : AuthSystem → List AuthCall → Prop
  | _, [] => True
  | s, call :: calls =>
    s.Permits call ∧ CollisionFree (s.perform call).2.signed ∧ AllPermitted (s.perform call).2 calls

instance : ∀ (s : AuthSystem) (calls : List AuthCall), Decidable (AllPermitted s calls)
  | _, [] => inferInstanceAs (Decidable True)
  | s, call :: calls =>
    have := instDecidableAllPermitted (s.perform call).2 calls
    inferInstanceAs (Decidable (_ ∧ _ ∧ _))

lemma run_of_allPermitted (calls : List AuthCall) :
    ∀ {h : List AuthEvent} {s : AuthSystem} {ttlMs capacity : Nat},
      Trace.Run (Initial ttlMs capacity) Step h s → AllPermitted s calls →
        Trace.Run (Initial ttlMs capacity) Step (h ++ (Trace.exec perform s calls).1)
          (Trace.exec perform s calls).2 := by
  induction calls with
  | nil =>
    intro h s ttlMs capacity hrun _
    simpa [Trace.exec] using hrun
  | cons call calls ih =>
    intro h s ttlMs capacity hrun hpermitted
    obtain ⟨hpermits, hfree, hrest⟩ := hpermitted
    have hnext := ih (hrun.snoc ⟨call, hpermits, rfl, hfree⟩) hrest
    rwa [append_assoc] at hnext

/-- Permitted calls that admit a connection are a run that does. -/
lemma exists_run_of_allPermitted (hinit : Initial ttlMs capacity s)
    (hpermitted : AllPermitted s calls)
    (hmem : (Trace.exec perform s calls).2.core.isAuthenticated context = true) :
    ∃ h s', Trace.Run (Initial ttlMs capacity) Step h s' ∧
      context ∈ s'.core.authenticatedConnections :=
  ⟨_, _, run_of_allPermitted calls (.nil hinit) hpermitted, of_decide_eq_true hmem⟩

lemma sampleCalls_permitted : AllPermitted sampleSystem sampleCalls := by decide +kernel

lemma sampleCalls_authenticate :
    (Trace.exec perform sampleSystem sampleCalls).2.core.isAuthenticated sampleContext = true := by
  decide +kernel

theorem authentication_fresh_and_bound_sample :
    ∃ h s, Trace.Run (Initial 30000 128) Step h s ∧
      sampleContext ∈ s.core.authenticatedConnections ∧ Proven 30000 h sampleContext := by
  have hinit : Initial 30000 128 sampleSystem := ⟨rfl, rfl⟩
  obtain ⟨h, s, hrun, hmem⟩ :=
    exists_run_of_allPermitted hinit sampleCalls_permitted sampleCalls_authenticate
  exact ⟨h, s, hrun, hmem, (authentication_fresh_and_bound hrun).1 sampleContext hmem⟩

end AuthSystem

end D2b.Guestd

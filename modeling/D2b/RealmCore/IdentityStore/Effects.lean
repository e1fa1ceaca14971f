import D2b.Lib.Run
import D2b.RealmCore.IdentityStore.Merge

/-!
# D2b.RealmCore.IdentityStore.Effects

What one call can do to generations, index and recoveries (`Effect`), for all
operations of the store, and the invariant every reachable store keeps
(`Sound`).  A call that fails part way has one of these effects as well.
-/

namespace D2b

open Command List

namespace RealmIdentityStore

/-! ## the invariant -/

section

variable (s : RealmIdentityStore)

/-- The index names stored generations that are neither revoked nor superseded. -/
def Indexed : Prop :=
  ∀ (realm : RealmPath) (id : ControllerGenerationId), s.activeGeneration realm = some id →
    ∃ g, s.controllerGenerations[(toLex (realm, id) : GenerationKey)]? = some g ∧
      g.status ≠ .revoked ∧ g.status ≠ .superseded

/-- There is a generation of the key. -/
def Stored (key : GenerationKey) : Prop := ∃ g, s.controllerGenerations[key]? = some g

/-- What a reissued recovery can rely on when it is completed. -/
structure Completable (recovery : RecoveryProcedure)
    (replacement : ControllerGenerationMetadata) : Prop where
  has_replacement : recovery.replacementGeneration = some replacement
  realm : replacement.realm = recovery.childRealm
  ne : replacement.key ≠ recovery.affectedKey
  affected_stored : s.Stored recovery.affectedKey
  replacement_stored : s.Stored replacement.key

/-- The invariant of every reachable store. -/
structure Sound : Prop where
  keyed : Keyed s.controllerGenerations
  indexed : s.Indexed
  reissued : ∀ (recoveryId : RecoveryProcedureId) (recovery : RecoveryProcedure),
    s.recoveries[recoveryId]? = some recovery → recovery.status = .reissued →
      ∃ replacement, s.Completable recovery replacement

/-! ## effects -/

def Call.records : Call → List RevocationRecord
  | .revokeGeneration revocation _ | .revokeRealm revocation _ | .revoke revocation _ =>
    [revocation]
  | .revokePolicyGrant revocationId issuerRealm issuerGeneration realm grant issuedAt _ =>
    [grantRevocation revocationId issuerRealm issuerGeneration (.policyGrant realm grant)
      issuedAt]
  | .revokeCapability revocationId issuerRealm issuerGeneration realm capability issuedAt _ =>
    [grantRevocation revocationId issuerRealm issuerGeneration
      (.capabilityGrant realm capability) issuedAt]
  | .mergeRevocationList list _ => list.records
  | _ => []

/-- The same generations, index and recoveries. -/
structure SameLifecycle (s s' : RealmIdentityStore) : Prop where
  controllerGenerations : s'.controllerGenerations = s.controllerGenerations
  activeGenerations : s'.activeGenerations = s.activeGenerations
  recoveries : s'.recoveries = s.recoveries

/-- A generation was issued, into the index if it is active. -/
structure Issued (g : ControllerGenerationMetadata) (s s' : RealmIdentityStore) : Prop where
  fresh : s.controllerGenerations[g.key]? = none
  not_revoked : g.status ≠ .revoked
  controllerGenerations : s'.controllerGenerations = s.controllerGenerations.insert g.key g
  free : g.status = .active → ∀ id, s.activeGeneration g.realm = some id → id = g.generationId
  activeGenerations : s'.activeGenerations = if g.status = .active then
    s.activeGenerations.insert g.realm g.generationId else s.activeGenerations
  recoveries : s'.recoveries = s.recoveries

/-- The generation of the index was superseded by an active replacement. -/
structure Rotated (id : ControllerGenerationId) (replacement : ControllerGenerationMetadata)
    (s s' : RealmIdentityStore) : Prop where
  index : s.activeGeneration replacement.realm = some id
  fresh : s.controllerGenerations[replacement.key]? = none
  active : replacement.status = .active
  controllerGenerations : ∃ notAfter, s'.controllerGenerations =
    (s.controllerGenerations.modify (toLex (replacement.realm, id)) fun current =>
      { current with status := .superseded, notAfterUnixSeconds := notAfter }).insert
      replacement.key replacement
  activeGenerations : s'.activeGenerations =
    s.activeGenerations.insert replacement.realm replacement.generationId
  recoveries : s'.recoveries = s.recoveries

/-- A recovery of a generation that is not revoked was opened. -/
structure Opened (recovery : RecoveryProcedure) (s s' : RealmIdentityStore) : Prop where
  requested : recovery.status = .requested
  not_revoked : ¬s.IsRevoked recovery.affectedKey
  controllerGenerations : s'.controllerGenerations =
    s.controllerGenerations.modify recovery.affectedKey fun g => { g with status := .recovering }
  activeGenerations : s'.activeGenerations = s.activeGenerations
  recoveries : s'.recoveries = s.recoveries.insert recovery.recoveryId recovery

/-- A recovery got another status, without a replacement. -/
structure Moved (recoveryId : RecoveryProcedureId) (next : RecoveryStatus)
    (s s' : RealmIdentityStore) : Prop where
  next_ne : next ≠ .reissued
  controllerGenerations : s'.controllerGenerations = s.controllerGenerations
  activeGenerations : s'.activeGenerations = s.activeGenerations
  recoveries : s'.recoveries =
    s.recoveries.modify recoveryId fun recovery => { recovery with status := next }

/-- A recovery got its replacement generation. -/
structure ReissuedWith (recoveryId : RecoveryProcedureId)
    (replacement : ControllerGenerationMetadata) (s s' : RealmIdentityStore) : Prop where
  recovery : ∀ recovery, s.recoveries[recoveryId]? = some recovery →
    replacement.realm = recovery.childRealm ∧ s.Stored recovery.affectedKey
  fresh : s.controllerGenerations[replacement.key]? = none
  recovering : replacement.status = .recovering
  controllerGenerations : s'.controllerGenerations =
    s.controllerGenerations.insert replacement.key replacement
  activeGenerations : s'.activeGenerations = s.activeGenerations
  recoveries : s'.recoveries = s.recoveries.modify recoveryId fun recovery =>
    { recovery with replacementGeneration := some replacement, status := .reissued }

/-- A recovery was completed: its generation is revoked, the replacement active. -/
structure Completed (recoveryId : RecoveryProcedureId) (closedAt : Nat)
    (recovery : RecoveryProcedure) (replacement : ControllerGenerationMetadata)
    (s s' : RealmIdentityStore) : Prop where
  get : s.recoveries[recoveryId]? = some recovery
  reissued : recovery.status = .reissued
  completable : s.Completable recovery replacement
  controllerGenerations : s'.controllerGenerations =
    (s.controllerGenerations.modify recovery.affectedKey fun g =>
      { g with status := .revoked, notAfterUnixSeconds := some closedAt }).modify replacement.key
      fun g => { g with status := .active, notBeforeUnixSeconds := closedAt }
  activeGenerations : s'.activeGenerations =
    s.activeGenerations.insert replacement.realm replacement.generationId
  recoveries : s'.recoveries = s.recoveries.modify recoveryId fun recovery =>
    { recovery with status := .completed, closedAtUnixSeconds := some closedAt }

/-- What a call can do to the lifecycle of generations. -/
inductive Effect (call : Call) (s s' : RealmIdentityStore) : Prop
  | struck (mid : RealmIdentityStore)
      (chain : Relation.ReflTransGen (Strike (s.newRecords call.records)) s mid)
      (same : SameLifecycle mid s')
  | issued (g : ControllerGenerationMetadata) (h : Issued g s s')
  | rotated (id : ControllerGenerationId) (replacement : ControllerGenerationMetadata)
      (h : Rotated id replacement s s')
  | opened (recovery : RecoveryProcedure) (h : Opened recovery s s')
  | moved (recoveryId : RecoveryProcedureId) (next : RecoveryStatus)
      (h : Moved recoveryId next s s')
  | reissued (recoveryId : RecoveryProcedureId) (replacement : ControllerGenerationMetadata)
      (h : ReissuedWith recoveryId replacement s s')
  | completed (recoveryId : RecoveryProcedureId) (closedAt : Nat) (recovery : RecoveryProcedure)
      (replacement : ControllerGenerationMetadata)
      (hcall : call = .completeRecovery recoveryId closedAt)
      (h : Completed recoveryId closedAt recovery replacement s s')

lemma SameLifecycle.refl : SameLifecycle s s := ⟨rfl, rfl, rfl⟩

end

lemma Effect.refl (call : Call) (s : RealmIdentityStore) : Effect call s s :=
  .struck s .refl (.refl s)

/-! ## the operations -/

variable {s : RealmIdentityStore}

lemma succeeds_pushAudit {change : IdentityStoreChange}
    (h : change.auditEvents.length < maxIdentityStoreAuditEvents)
    (event : IdentityAuditEventMetadata) (hQ : ∀ change', Q change' s) :
    (ofExcept (change.pushAudit event) : StoreM IdentityStoreChange).Succeeds s Q := by
  obtain ⟨change', hpush, -, -⟩ := pushAudit_of_lt change event h
  exact ⟨change', s, by rw [hpush, exec_ofExcept], hQ change'⟩

lemma activateIssued_ensures (g : ControllerGenerationMetadata) :
    (activateIssued g).Ensures s fun _ s' =>
      (∀ id, s.activeGeneration g.realm = some id → id = g.generationId) ∧
      s' = { s with activeGenerations := s.activeGenerations.insert g.realm g.generationId } := by
  unfold activateIssued
  refine ensures_get_bind ?_
  cases hindex : s.activeGenerations[g.realm]? with
  | none =>
    refine (succeeds_modify ⟨?_, rfl⟩).ensures
    intro id h
    rw [activeGeneration, hindex] at h
    contradiction
  | some active =>
    refine ensures_failIf_bind fun hsame => (succeeds_modify ⟨?_, rfl⟩).ensures
    intro id h
    rw [activeGeneration, hindex] at h
    cases h
    exact not_not.mp hsame

lemma issueControllerGeneration_ensures (g : ControllerGenerationMetadata) :
    (issueControllerGeneration g).Ensures s fun _ s' => Issued g s s' := by
  unfold issueControllerGeneration
  refine ensures_ofExcept_bind fun _ _ => ensures_failIf_bind fun _ =>
    ensures_failIf_bind fun hstatus => ensures_get_bind <|
    ensures_failIf_bind fun hfresh => ?_
  have hnone := BTreeMap.not_contains_iff_get.mp hfresh
  by_cases hactive : g.status = .active
  · rw [if_pos hactive]
    refine (activateIssued_ensures g).bind ?_
    rintro _ _ ⟨hfree, rfl⟩
    exact succeeds_modify_bind <| succeeds_pushAudit (by decide) _ fun _ =>
      ⟨hnone, hstatus, rfl, fun _ => hfree, (if_pos hactive).symm, rfl⟩
  · rw [if_neg hactive]
    exact (succeeds_modify_bind <| succeeds_pushAudit (by decide) _ fun _ =>
      ⟨hnone, hstatus, rfl, fun h => absurd h hactive, (if_neg hactive).symm, rfl⟩).ensures

lemma enroll_ensures (record : EnrollmentRecord) :
    (enroll record).Ensures s fun _ s' => Issued record.controllerGeneration s s' := by
  unfold enroll
  refine ensures_get_bind <| ensures_ofExcept_bind fun _ _ =>
    ensures_failIf_bind fun _ =>
    (issueControllerGeneration_ensures record.controllerGeneration).bind fun _ s₁ h => ?_
  exact succeeds_modify_bind <| succeeds_pushAudit (by decide) _ fun _ =>
    ⟨h.fresh, h.not_revoked, h.controllerGenerations, h.free, h.activeGenerations, h.recoveries⟩

lemma activeGeneration_of_ensure {realm : RealmPath} {id : ControllerGenerationId}
    (h : s.ensureActiveGeneration realm id = .ok ()) : s.activeGeneration realm = some id := by
  unfold ensureActiveGeneration at h
  cases hget : s.controllerGenerations[(toLex (realm, id) : GenerationKey)]? with
  | none =>
    rw [hget] at h
    contradiction
  | some metadata =>
    rw [hget] at h
    by_cases hrevoked : metadata.status = .revoked
    · simp [hrevoked] at h
    · cases hindex : s.activeGenerations[realm]? with
      | none => simp [hrevoked, hindex] at h
      | some active =>
        by_cases hsame : active = id
        · rw [activeGeneration, hindex, hsame]
        · simp [hrevoked, hindex, hsame] at h

lemma rotateControllerGeneration_ensures (plan : KeyRotationPlan)
    (replacement : ControllerGenerationMetadata) (activatedAt : Nat) (s : RealmIdentityStore) :
    (rotateControllerGeneration plan replacement activatedAt).Ensures s fun _ s' =>
      ∃ id replacement, Rotated id replacement s s' := by
  unfold rotateControllerGeneration
  refine ensures_ofExcept_bind fun _ _ => ensures_ofExcept_bind fun _ _ => ?_
  cases plan.subject with
  | realmIdentity => exact .inl ⟨_, rfl⟩
  | controllerGeneration realm id credentialRef fingerprint =>
    refine ensures_get_bind <| ensures_ofExcept_bind fun _ hcurrent =>
      ensures_okOr_bind fun current hget => ensures_failIf_bind fun _ =>
      ensures_failIf_bind fun hreplacement =>
      ensures_failIf_bind fun hfresh => ?_
    have hrealm : replacement.realm = realm := not_not.mp fun h => hreplacement (.inl h)
    subst hrealm
    refine (succeeds_modify_bind ?_).ensures
    dsimp only
    refine succeeds_modify_bind <| Succeeds.bind
      (succeeds_pushAudit (Q := fun _ s' => ∃ id replacement, Rotated id replacement s s')
        (by decide) _ fun _ => ?_) fun _ _ h => succeeds_pure h
    exact ⟨id, { replacement with status := .active, notBeforeUnixSeconds := activatedAt },
      activeGeneration_of_ensure hcurrent, BTreeMap.not_contains_iff_get.mp hfresh, rfl,
      ⟨some activatedAt, rfl⟩, rfl, rfl⟩

lemma openRecovery_ensures (recovery : RecoveryProcedure) :
    (openRecovery recovery).Ensures s fun _ s' =>
      Opened { recovery with status := .requested } s s' := by
  unfold openRecovery
  refine ensures_get_bind <| ensures_failIf_bind fun _ =>
    ensures_okOr_bind fun g hget => ensures_failIf_bind fun hrevoked => ?_
  refine (succeeds_modify_bind <| succeeds_pushAudit (by decide) _ fun _ =>
    ⟨rfl, ?_, rfl, rfl, rfl⟩).ensures
  rintro ⟨g', hg', hstatus⟩
  cases hget.symm.trans hg'
  exact hrevoked hstatus

lemma approveRecovery_ensures (recoveryId : RecoveryProcedureId) :
    (approveRecovery recoveryId).Ensures s fun _ s' => Moved recoveryId .parentApproved s s' := by
  unfold approveRecovery setRecoveryStatus
  exact ensures_get_bind <| ensures_okOr_bind fun recovery _ =>
    ensures_failIf_bind fun _ => (succeeds_modify_bind <|
      succeeds_pushAudit (by decide) _ fun _ => ⟨by decide, rfl, rfl, rfl⟩).ensures

lemma reissueRecovery_ensures (recoveryId : RecoveryProcedureId)
    (replacement : ControllerGenerationMetadata) :
    (reissueRecovery recoveryId replacement).Ensures s fun _ s' =>
      ReissuedWith recoveryId { replacement with status := .recovering } s s' := by
  unfold reissueRecovery
  refine ensures_ofExcept_bind fun _ _ => ensures_get_bind <|
    ensures_okOr_bind fun recovery hget => ensures_failIf_bind fun _ =>
    ensures_okOr_bind fun affected haffected => ensures_failIf_bind fun hmatch =>
    ensures_failIf_bind fun hfresh => ?_
  refine (succeeds_modify_bind <| succeeds_pushAudit (by decide) _ fun _ =>
    ⟨?_, BTreeMap.not_contains_iff_get.mp hfresh, rfl, rfl, rfl, rfl⟩).ensures
  intro recovery' hget'
  cases hget.symm.trans hget'
  exact ⟨not_not.mp fun h => hmatch (.inl h), affected, haffected⟩

variable {recoveryId : RecoveryProcedureId}

/-- A reissued recovery whose generations are stored is completed: the second
lookup does not fail after the first update. -/
lemma completeRecovery_succeeds {recovery : RecoveryProcedure}
    (hget : s.recoveries[recoveryId]? = some recovery) (hstatus : recovery.status = .reissued)
    (hcompletable : s.Completable recovery replacement) (closedAt : Nat) :
    (completeRecovery recoveryId closedAt).Succeeds s fun _ s' =>
      Completed recoveryId closedAt recovery replacement s s' := by
  have haffected : s.controllerGenerations.contains recovery.affectedKey = true :=
    BTreeMap.contains_iff_get.mpr hcompletable.affected_stored
  have hreplacement : s.controllerGenerations.contains replacement.key = true :=
    BTreeMap.contains_iff_get.mpr hcompletable.replacement_stored
  unfold completeRecovery Succeeds
  rw [exec_get_bind, hget, exec_okOr_some_bind, exec_failIf_bind, if_neg (not_not.mpr hstatus),
    hcompletable.has_replacement, exec_okOr_some_bind, exec_failIf_bind,
    if_neg (by simp [haffected]), exec_modify_bind, exec_get_bind, exec_failIf_bind,
    if_neg (by simp [Std.ExtTreeMap.contains_modify, hreplacement])]
  exact succeeds_modify_bind <| succeeds_pushAudit (by decide) _ fun _ =>
    ⟨hget, hstatus, hcompletable, rfl, rfl, rfl⟩

lemma completeRecovery_ensures (hsound : s.Sound) (recoveryId : RecoveryProcedureId)
    (closedAt : Nat) : (completeRecovery recoveryId closedAt).Ensures s fun _ s' =>
      ∃ recovery replacement, Completed recoveryId closedAt recovery replacement s s' := by
  by_cases hreissued : ∃ recovery, s.recoveries[recoveryId]? = some recovery ∧
      recovery.status = .reissued
  · obtain ⟨recovery, hget, hstatus⟩ := hreissued
    obtain ⟨replacement, hcompletable⟩ := hsound.reissued recoveryId recovery hget hstatus
    exact (completeRecovery_succeeds hget hstatus hcompletable closedAt).ensures.mono
      fun _ _ h => ⟨recovery, replacement, h⟩
  · unfold completeRecovery
    exact ensures_get_bind <| ensures_okOr_bind fun recovery hget =>
      ensures_failIf_bind fun hstatus =>
      absurd ⟨recovery, hget, not_not.mp hstatus⟩ hreissued

/-! ## revocations -/

/-- A record that was not known and applies was applied. -/
structure NewlyApplied (s : RealmIdentityStore) (record : RevocationRecord)
    (s' : RealmIdentityStore) : Prop where
  unknown : ¬s.revocations.contains record.revocationId = true
  applies : s.Applies record.target
  recorded : Recorded record s s'

section

variable (hkeyed : Keyed s.controllerGenerations)
  (revocation : RevocationRecord) (workloads : List WorkloadId)
include hkeyed

lemma applyRevocation_ensures (parentPushed : Bool) :
    (applyRevocation revocation workloads parentPushed).Ensures s fun _ s' =>
      s.NewlyApplied revocation s' := by
  by_cases hfails : s.revocations.contains revocation.revocationId = true ∨
      maxTeardownWorkloads < workloads.length ∨ ¬s.Applies revocation.target
  · exact .inl (applyRevocation_error parentPushed hfails)
  · simp only [not_or, not_not, not_lt] at hfails
    obtain ⟨hnew, hworkloads, happlies⟩ := hfails
    exact (applyRevocation_ok hkeyed parentPushed hnew hworkloads happlies).ensures.mono
      fun _ _ h => ⟨hnew, happlies, h.1⟩

lemma revoke_ensures : (revoke revocation workloads).Ensures s fun _ s' =>
      s.NewlyApplied revocation s' := by
  unfold revoke
  exact ensures_get_bind <| ensures_ofExcept_bind fun _ _ =>
    applyRevocation_ensures hkeyed revocation workloads false

lemma revokeGeneration_ensures :
    (revokeGeneration revocation workloads).Ensures s fun _ s' => s.NewlyApplied revocation s' := by
  unfold revokeGeneration
  split
  · exact revoke_ensures hkeyed revocation workloads
  · exact .inl ⟨_, rfl⟩

lemma revokeRealm_ensures : (revokeRealm revocation workloads).Ensures s fun _ s' =>
      s.NewlyApplied revocation s' := by
  unfold revokeRealm
  split
  · exact revoke_ensures hkeyed revocation workloads
  · exact .inl ⟨_, rfl⟩

end

def isolated (s : RealmIdentityStore) (recoveryId : RecoveryProcedureId) : RealmIdentityStore :=
  { s with
    recoveries := s.recoveries.modify recoveryId fun recovery =>
      { recovery with status := .isolating } }

/-- Isolating an approved recovery sets its status, and succeeds if its
revocation id is well formed and the workloads are few enough. -/
lemma isolateRecovery_exec (hget : s.recoveries[recoveryId]? = some recovery)
    (hstatus : recovery.status = .parentApproved) (issuedAt : Nat) (workloads : List WorkloadId) :
    ∃ result, (isolateRecovery recoveryId issuedAt workloads).exec s
        = (result, s.isolated recoveryId) ∧
      ((∃ change, result = .ok change) ↔ (∃ revocationId, isolationId recovery = .ok revocationId) ∧
        workloads.length ≤ maxTeardownWorkloads) := by
  unfold isolateRecovery
  rw [exec_get_bind, hget, exec_okOr_some_bind, exec_failIf_bind,
    if_neg (not_not.mpr hstatus), exec_modify_bind]
  cases hid : isolationId recovery with
  | error e =>
    exact ⟨_, exec_ofExcept_error_bind _ _ e, by simp⟩
  | ok revocationId =>
    rw [exec_ofExcept_ok_bind]
    by_cases hworkloads : workloads.length ≤ maxTeardownWorkloads
    · obtain ⟨torn, htorn, haudit, -⟩ := pushTeardown_of_lt .empty
        ⟨revocationId, recovery.parentRealm, recovery.childRealm, .recoveryIsolation, workloads,
          issuedAt, recovery.correlationId⟩ (by decide) hworkloads
      obtain ⟨change, hchange, -, -⟩ := pushAudit_of_lt torn
        (recoveryAudit .recoveryOpened recovery .isolating) (by rw [haudit]; decide)
      rw [htorn, exec_ofExcept_ok_bind, hchange, exec_ofExcept]
      exact ⟨_, rfl, by simp [hworkloads]⟩
    · have hmany : IdentityStoreChange.empty.pushTeardown
          ⟨revocationId, recovery.parentRealm, recovery.childRealm, .recoveryIsolation, workloads,
            issuedAt, recovery.correlationId⟩ = .error .tooManyTeardownDirectives := by
        unfold IdentityStoreChange.pushTeardown
        rw [dif_neg (by decide), if_pos (by simpa using hworkloads)]
      rw [hmany, exec_ofExcept_error_bind]
      exact ⟨_, rfl, by simp [hworkloads]⟩

lemma isolateRecovery_error
    (h : ∀ recovery, s.recoveries[recoveryId]? = some recovery → recovery.status ≠ .parentApproved)
    (issuedAt : Nat) (workloads : List WorkloadId) :
    ∃ e, (isolateRecovery recoveryId issuedAt workloads).exec s = (.error e, s) := by
  unfold isolateRecovery
  rw [exec_get_bind]
  cases hget : s.recoveries[recoveryId]? with
  | none => exact ⟨_, exec_okOr_none_bind _ s _⟩
  | some recovery =>
    rw [exec_okOr_some_bind, exec_failIf_bind, if_pos (h recovery hget)]
    exact ⟨_, rfl⟩

lemma isolateRecovery_effect (call : Call) (s : RealmIdentityStore)
    (recoveryId : RecoveryProcedureId) (issuedAt : Nat) (workloads : List WorkloadId) :
    Effect call s ((isolateRecovery recoveryId issuedAt workloads).exec s).2 := by
  by_cases happroved : ∃ recovery, s.recoveries[recoveryId]? = some recovery ∧
      recovery.status = .parentApproved
  · obtain ⟨recovery, hget, hstatus⟩ := happroved
    obtain ⟨result, hexec, -⟩ := isolateRecovery_exec hget hstatus issuedAt workloads
    rw [hexec]
    exact .moved recoveryId .isolating ⟨by decide, rfl, rfl, rfl⟩
  · obtain ⟨e, he⟩ := isolateRecovery_error (fun recovery hget hstatus =>
      happroved ⟨recovery, hget, hstatus⟩) issuedAt workloads
    rw [he]
    exact .refl call s

lemma mergeRevocationList_effect (hkeyed : Keyed s.controllerGenerations) (list : RevocationList)
    (workloads : List WorkloadId) : Effect (.mergeRevocationList list workloads) s
      ((mergeRevocationList list workloads).exec s).2 := by
  by_cases hmergeable : s.Mergeable list
  · rw [exec_mergeRevocationList hkeyed hmergeable, exec_bind]
    rcases hfold : ((s.newRecords list.records).foldlM (mergeRecord workloads) .empty).exec s
      with ⟨result, mid⟩
    have hchain : Relation.ReflTransGen (Strike (s.newRecords list.records)) s mid := by
      rw [← show _ = mid from congrArg Prod.snd hfold]
      exact mergeRecords_strikes hkeyed IdentityStoreChange.holds_empty
        (fresh_newRecords hmergeable.nodup s) fun _ h => h
    cases result with
    | error e => exact .struck mid hchain (.refl mid)
    | ok change =>
      unfold recordList
      dsimp only
      rw [exec_modify_bind, exec_ofExcept]
      exact .struck mid hchain ⟨rfl, rfl, rfl⟩
  · obtain ⟨e, he⟩ := mergeRevocationList_error hmergeable workloads
    rw [he]
    exact .refl _ s

/-! ## every call -/

lemma Effect.of_recorded (hmem : record ∈ call.records) (h : s.NewlyApplied record s') :
    Effect call s s' := by
  refine .struck s' (.single ⟨record, mem_filter.mpr ⟨hmem, ?_⟩, h.applies,
    h.recorded.struck⟩) (.refl s')
  rw [Bool.not_eq_true', ← Bool.not_eq_true]
  exact h.unknown

/-- Whether it succeeds or not, a call has one of the effects. -/
lemma after_effect (hsound : s.Sound) (call : Call) : Effect call s (s.after call) := by
  have hrefl := Effect.refl call s
  cases call with
  | enroll record => exact (enroll_ensures record).after hrefl fun _ _ h => .issued _ h
  | issueControllerGeneration g =>
    exact (issueControllerGeneration_ensures g).after hrefl fun _ _ h => .issued g h
  | rotateControllerGeneration plan replacement activatedAt =>
    have h := rotateControllerGeneration_ensures plan replacement activatedAt s
    exact (h.map Prod.snd).after hrefl fun _ _ ⟨id, replacement, h⟩ => .rotated id replacement h
  | revokeGeneration revocation workloads =>
    exact (revokeGeneration_ensures hsound.keyed revocation workloads).after hrefl
      fun _ _ h => .of_recorded mem_cons_self h
  | revokeRealm revocation workloads =>
    exact (revokeRealm_ensures hsound.keyed revocation workloads).after hrefl
      fun _ _ h => .of_recorded mem_cons_self h
  | revokePolicyGrant | revokeCapability =>
    exact (revoke_ensures hsound.keyed _ _).after hrefl fun _ _ h => .of_recorded mem_cons_self h
  | revoke revocation workloads =>
    exact (revoke_ensures hsound.keyed revocation workloads).after hrefl
      fun _ _ h => .of_recorded mem_cons_self h
  | mergeRevocationList list workloads =>
    exact mergeRevocationList_effect hsound.keyed list workloads
  | openRecovery recovery =>
    exact (openRecovery_ensures recovery).after hrefl fun _ _ h => .opened _ h
  | approveRecovery recoveryId =>
    exact (approveRecovery_ensures recoveryId).after hrefl fun _ _ h => .moved _ _ h
  | isolateRecovery recoveryId issuedAt workloads =>
    exact isolateRecovery_effect _ s recoveryId issuedAt workloads
  | reissueRecovery recoveryId replacement =>
    exact (reissueRecovery_ensures recoveryId replacement).after hrefl fun _ _ h => .reissued _ _ h
  | completeRecovery recoveryId closedAt =>
    exact (completeRecovery_ensures hsound recoveryId closedAt).after hrefl
      fun _ _ ⟨recovery, replacement, h⟩ => .completed _ _ recovery replacement rfl h

end RealmIdentityStore

end D2b

import D2b.RealmCore.IdentityStore.Invariants

/-!
# D2b.RealmCore.IdentityStore.Atomicity

Which failing calls leave a store other than the one they found.  All but two
operations check before they update.  Isolating a recovery sets the status
before the revocation id is built and the workloads are counted, and merging
a list applies its records one by one before a later one fails or the change
is full.
-/

namespace D2b

open List IdentityStoreChange Command

namespace RealmIdentityStore

variable {s : RealmIdentityStore}

/-- The call fails after it has changed the store. -/
def Torn (s : RealmIdentityStore) : Call → Prop
  | .isolateRecovery recoveryId _ workloads => ∃ recovery,
      s.recoveries[recoveryId]? = some recovery ∧ recovery.status = .parentApproved ∧
      (maxTeardownWorkloads < workloads.length ∨
        maxIdLen < "recovery-".utf8ByteSize + recovery.recoveryId.asStr.utf8ByteSize)
  | .mergeRevocationList list workloads =>
    s.Mergeable list ∧ workloads.length ≤ maxTeardownWorkloads ∧
    ∃ first rest, s.newRecords list.records = first :: rest ∧ s.Applies first.target ∧
      ((∃ record ∈ rest, ¬s.Applies record.target) ∨
        maxIdentityStoreAuditEvents ≤ (first :: rest).length)
  | _ => False

/-! ## isolating a recovery -/

/-- The revocation id of an isolation is only ever too long. -/
lemma isolationId_ok_iff :
    (∃ revocationId, isolationId recovery = .ok revocationId) ↔
      "recovery-".utf8ByteSize + recovery.recoveryId.asStr.utf8ByteSize ≤ maxIdLen := by
  have hrecovery := (idError?_eq_none_iff rfl).mp recovery.recoveryId.valid
  have htoken : isOpaqueToken ("recovery-" ++ recovery.recoveryId.asStr) = true :=
    isOpaqueToken_append_token (by decide) hrecovery.1 (by decide) (by decide +kernel)
  have hvalid : idError? .revocation ("recovery-" ++ recovery.recoveryId.asStr) = none ↔
      "recovery-".utf8ByteSize + recovery.recoveryId.asStr.utf8ByteSize ≤ maxIdLen := by
    rw [idError?_eq_none_iff rfl, String.utf8ByteSize_append]
    exact and_iff_right htoken
  rw [← hvalid, ← Id.parse_isOk]
  unfold isolationId
  cases Id.parse .revocation ("recovery-" ++ recovery.recoveryId.asStr) <;> simp

lemma isolated_ne (hget : s.recoveries[recoveryId]? = some recovery)
    (hstatus : recovery.status = .parentApproved) : s.isolated recoveryId ≠ s := by
  intro heq
  have hafter : (s.isolated recoveryId).recoveries[recoveryId]?
      = some { recovery with status := .isolating } := by
    unfold isolated
    rw [BTreeMap.get_modify, if_pos rfl, hget]
    rfl
  rw [heq, hget] at hafter
  have hsame := congrArg RecoveryProcedure.status (Option.some.inj hafter)
  rw [hstatus] at hsame
  contradiction

lemma isolateRecovery_atomicAt_iff (recoveryId : RecoveryProcedureId) (issuedAt : Nat)
    (workloads : List WorkloadId) :
    (isolateRecovery recoveryId issuedAt workloads).AtomicAt s ↔
      ¬s.Torn (.isolateRecovery recoveryId issuedAt workloads) := by
  by_cases happroved : ∃ recovery, s.recoveries[recoveryId]? = some recovery ∧
      recovery.status = .parentApproved
  · obtain ⟨recovery, hget, hstatus⟩ := happroved
    obtain ⟨result, hexec, hresult⟩ := isolateRecovery_exec hget hstatus issuedAt workloads
    rw [isolationId_ok_iff] at hresult
    constructor
    · rintro hatomic ⟨recovery', hget', -, hbad⟩
      cases hget.symm.trans hget'
      cases result with
      | error e => exact isolated_ne hget hstatus (hatomic e _ hexec)
      | ok change =>
        have hgood := hresult.mp ⟨change, rfl⟩
        omega
    · intro hwhole e s' he
      have hgood : "recovery-".utf8ByteSize + recovery.recoveryId.asStr.utf8ByteSize ≤ maxIdLen ∧
          workloads.length ≤ maxTeardownWorkloads := by
        by_contra hbad
        refine hwhole ⟨recovery, hget, hstatus, ?_⟩
        omega
      obtain ⟨change, rfl⟩ := hresult.mpr hgood
      rw [hexec] at he
      cases he
  · obtain ⟨e, he⟩ := isolateRecovery_error (fun recovery hget hstatus =>
      happroved ⟨recovery, hget, hstatus⟩) issuedAt workloads
    refine iff_of_true ?_ ?_
    · intro e' s' he'
      rw [he] at he'
      cases he'
      rfl
    · rintro ⟨recovery, hget, hstatus, -⟩
      exact happroved ⟨recovery, hget, hstatus⟩

/-! ## merging a list -/

section

lemma applies_all {rest : List RevocationRecord} (hfirst : s.Applies first.target)
    (hrest : ¬∃ record ∈ rest, ¬s.Applies record.target) :
    ∀ record ∈ first :: rest, s.Applies record.target := by
  intro record hmem
  rcases mem_cons.mp hmem with rfl | hmem
  · exact hfirst
  · by_contra hnot
    exact hrest ⟨record, hmem, hnot⟩

/-- A torn merge fails and keeps its first record. -/
lemma mergeRevocationList_torn (hkeyed : Keyed s.controllerGenerations)
    (h : s.Torn (.mergeRevocationList list workloads)) :
    ∃ e s', (mergeRevocationList list workloads).exec s = (.error e, s') ∧ s' ≠ s := by
  obtain ⟨hmergeable, hworkloads, first, rest, hnew, happlies, hbad⟩ := h
  have hfresh : s.Fresh (first :: rest) := hnew ▸ fresh_newRecords hmergeable.nodup s
  have hne : ∀ s' : RealmIdentityStore,
      s'.revocations.contains first.revocationId = true → s' ≠ s := by
    rintro s' hknown rfl
    exact hfresh.head hknown
  rw [exec_mergeRevocationList hkeyed hmergeable, hnew]
  by_cases hfails : (∃ record ∈ rest, ¬s.Applies record.target) ∨
      maxIdentityStoreAuditEvents < (first :: rest).length
  · -- the first record is applied, the failure comes later
    obtain ⟨s₁, hrecorded, ⟨-, change₁, hholds₁, hexec⟩ | ⟨hfull, -⟩⟩ := mergeRecord_new hkeyed
      holds_empty hfresh.head hworkloads happlies
    · have hfails₁ : (∃ record ∈ rest, ¬s₁.Applies record.target) ∨
          maxIdentityStoreAuditEvents < 0 + 1 + rest.length := by
        rw [length_cons] at hfails
        rcases hfails with ⟨record, hmem, hnot⟩ | hmany
        · exact .inl ⟨record, hmem, fun h => hnot ((hrecorded.applies _).mp h)⟩
        · exact .inr (by omega)
      obtain ⟨e, s', hexec', hkept⟩ := mergeRecords_fails (hrecorded.struck.keyed hkeyed)
        hholds₁ (hfresh.tail hrecorded) hworkloads hfails₁
      refine ⟨e, s', ?_, hne s' (hkept _ ((hrecorded.known _).mpr (.inl rfl)))⟩
      rw [exec_bind, foldlM_cons, exec_bind_of_ok hexec, hexec']
    · exact absurd hfull (by decide)
  · -- all records are applied, and the change has no room for the audit of the list
    have hall := applies_all happlies fun hnot => hfails (.inl hnot)
    have hlength : (first :: rest).length = maxIdentityStoreAuditEvents := by
      rcases hbad with hnot | hmany
      · exact absurd (.inl hnot) hfails
      · exact le_antisymm (Nat.le_of_not_lt fun h => hfails (.inr h)) hmany
    obtain ⟨change, s₁, hexec, hholds, -, hknown⟩ := mergeRecords_succeeds hkeyed
      holds_empty hfresh hworkloads hall (by omega)
    rw [Nat.zero_add, hlength] at hholds
    rw [exec_bind_of_ok hexec, recordList_full hholds]
    exact ⟨_, _, rfl, hne _ (hknown first mem_cons_self)⟩

/-- A merge that is not torn fails at its first new record or not at all. -/
lemma mergeRevocationList_ensures (hkeyed : Keyed s.controllerGenerations)
    (h : ¬s.Torn (.mergeRevocationList list workloads)) :
    (mergeRevocationList list workloads).Ensures s fun _ _ => True := by
  by_cases hmergeable : s.Mergeable list
  · have hfresh := fresh_newRecords hmergeable.nodup s
    unfold Command.Ensures Command.Succeeds
    rw [exec_mergeRevocationList hkeyed hmergeable]
    cases hnew : s.newRecords list.records with
    | nil => exact .inr (recordList_succeeds holds_empty (by decide) list)
    | cons first rest =>
      rw [hnew] at hfresh
      by_cases hfails : maxTeardownWorkloads < workloads.length ∨ ¬s.Applies first.target
      · obtain ⟨e, he⟩ := mergeRecord_error hfresh.head hfails
        exact .inl ⟨e, by rw [exec_bind, foldlM_cons, exec_bind, he]⟩
      · simp only [not_or, not_not, not_lt] at hfails
        have hgood : ¬((∃ record ∈ rest, ¬s.Applies record.target) ∨
            maxIdentityStoreAuditEvents ≤ (first :: rest).length) := fun hbad =>
          h ⟨hmergeable, hfails.1, first, rest, hnew, hfails.2, hbad⟩
        have hall := applies_all hfails.2 fun hnot => hgood (.inl hnot)
        have hroom : 0 + (first :: rest).length < maxIdentityStoreAuditEvents := by
          rw [Nat.zero_add]
          exact Nat.lt_of_not_le fun hmany => hgood (.inr hmany)
        have hmerge := mergeRecords_succeeds hkeyed holds_empty hfresh
          hfails.1 hall hroom.le
        exact .inr (hmerge.bind fun change s₁ hpost => recordList_succeeds hpost.1 hroom list)
  · exact .inl (mergeRevocationList_error hmergeable workloads)

end

/-! ## every call -/

/-- From a reachable store, a call that fails leaves the store as it was
unless it is torn. -/
theorem perform_atomic_iff {h : List Call} (r : Trace.Run (· = new) Step h s) (call : Call) :
    call.perform.AtomicAt s ↔ ¬s.Torn call := by
  have hsound := sound_of_run r
  cases call with
  | enroll record => exact iff_of_true (enroll_ensures record).atomicAt id
  | issueControllerGeneration g =>
    exact iff_of_true (issueControllerGeneration_ensures g).atomicAt id
  | rotateControllerGeneration plan replacement activatedAt =>
    have hensures := rotateControllerGeneration_ensures plan replacement activatedAt s
    exact iff_of_true (hensures.map Prod.snd).atomicAt id
  | revokeGeneration revocation workloads =>
    exact iff_of_true (revokeGeneration_ensures hsound.keyed revocation workloads).atomicAt id
  | revokeRealm revocation workloads =>
    exact iff_of_true (revokeRealm_ensures hsound.keyed revocation workloads).atomicAt id
  | revokePolicyGrant | revokeCapability =>
    exact iff_of_true (revoke_ensures hsound.keyed _ _).atomicAt id
  | revoke revocation workloads =>
    exact iff_of_true (revoke_ensures hsound.keyed revocation workloads).atomicAt id
  | mergeRevocationList list workloads =>
    constructor
    · intro hatomic htorn
      obtain ⟨e, s', hexec, hne⟩ := mergeRevocationList_torn hsound.keyed htorn
      exact hne (hatomic e s' hexec)
    · intro hwhole
      exact (mergeRevocationList_ensures hsound.keyed hwhole).atomicAt
  | openRecovery recovery => exact iff_of_true (openRecovery_ensures recovery).atomicAt id
  | approveRecovery recoveryId =>
    exact iff_of_true (approveRecovery_ensures recoveryId).atomicAt id
  | isolateRecovery recoveryId issuedAt workloads =>
    exact isolateRecovery_atomicAt_iff recoveryId issuedAt workloads
  | reissueRecovery recoveryId replacement =>
    exact iff_of_true (reissueRecovery_ensures recoveryId replacement).atomicAt id
  | completeRecovery recoveryId closedAt =>
    exact iff_of_true (completeRecovery_ensures hsound recoveryId closedAt).atomicAt id

namespace Sample

open SmallRealm

/-- The enrollment of `work` under `root`. -/
def enrollment : EnrollmentRecord :=
  ⟨⟨"enroll-1", by decide⟩, root, work, generation gen1 identityA .active,
    ⟨root, work, identityA, identityFingerprint⟩, ⟨root, work, identityB, ⟨"enroll-1", by decide⟩⟩,
    .accepted, none, none⟩

/-- A list whose second record names a generation that does not exist. -/
def pushed : RevocationList :=
  ⟨⟨"list-1", by decide⟩, root,
    [revocation (.controllerGeneration work gen1),
      { revocation (.controllerGeneration work gen2) with revocationId := ⟨"rv-2", by decide⟩ }],
    none⟩

def approved : List Call :=
  [.issueControllerGeneration (generation gen1 identityA .active), .openRecovery recovery,
    .approveRecovery recovery.recoveryId]

/-- Isolation for more workloads than a teardown can name. -/
def isolateMany : Call :=
  .isolateRecovery recovery.recoveryId 9 (List.replicate 65 ⟨"w", by decide⟩)

/-- The revocation of a generation that does not exist. -/
def revokeUnknown : Call := .revokeGeneration (revocation (.controllerGeneration work gen2)) []

end Sample

open Sample in
theorem perform_atomic_iff_unknown :
    (∃ e s', revokeUnknown.perform.exec (approved.foldl after new) = (.error e, s')) ∧
    revokeUnknown.perform.AtomicAt (approved.foldl after new) := by
  have hfails : (revokeUnknown.perform.exec (approved.foldl after new)).1
      = .error .unknownGeneration := by decide +kernel
  exact ⟨⟨_, _, exec_eq_of_fst hfails⟩,
    (perform_atomic_iff (run_calls new approved) revokeUnknown).mpr id⟩

open Sample in
/-- A failed isolation keeps the status it set, and a failed merge keeps a
revocation whose teardown was not returned. -/
theorem exists_torn_calls :
    (∃ (h : List Call) (s s' : RealmIdentityStore) (call : Call) (e : IdentityStoreError),
      Trace.Run (· = new) Step h s ∧ call.perform.exec s = (.error e, s') ∧ s' ≠ s) ∧
    ∃ (h : List Call) (s s' : RealmIdentityStore) (list : RevocationList) (e : IdentityStoreError)
      (revocationId : RevocationId), Trace.Run (· = new) Step h s ∧
      (mergeRevocationList list []).exec s = (.error e, s') ∧
      ¬s.revocations.contains revocationId = true ∧
      s'.revocations.contains revocationId = true := by
  constructor
  · have hfails : (isolateMany.perform.exec (approved.foldl after new)).1
        = .error .tooManyTeardownDirectives := by decide +kernel
    refine ⟨approved, _, _, isolateMany, _, run_calls new approved, exec_eq_of_fst hfails,
      fun h => ?_⟩
    have hstatus := congrArg (fun s => s.recoveries[recovery.recoveryId]?.map (·.status)) h
    revert hstatus
    decide +kernel
  · have hfails : ((mergeRevocationList pushed []).exec (new.after (.enroll enrollment))).1
        = .error .unknownGeneration := by decide +kernel
    refine ⟨_, _, _, pushed, _, ⟨"rv-1", by decide⟩, run_calls new [.enroll enrollment],
      exec_eq_of_fst hfails, ?_, ?_⟩
    · decide +kernel
    · decide +kernel

end RealmIdentityStore

end D2b

import D2b.RealmCore.IdentityStore.Revocation

/-!
# D2b.RealmCore.IdentityStore.Merge

Merging a pushed revocation list.  The records are applied one after the
other, and each one that is new adds one audit record and one teardown to the
change, of which there is room for 64.  So a merge that fails at a later
record, or when the change is full, keeps the records applied before.
-/

namespace D2b

open Command

namespace IdentityStoreChange

/-- The change of `n` applied records. -/
def Holds (change : IdentityStoreChange) (n : Nat) : Prop :=
  change.auditEvents.length = n ∧ change.teardownDirectives.length = n

variable {change : IdentityStoreChange}

lemma pushAudit_of_full (h : change.Holds maxIdentityStoreAuditEvents) :
    change.pushAudit event = .error .tooManyAuditEvents := by
  unfold pushAudit
  rw [dif_pos (by rw [h.1])]

/-- A change takes the change of one more record while there is room. -/
lemma Holds.extend (h : change.Holds n) (hteardown : applied.teardownDirectives = [directive])
    (haudit : applied.auditEvents = [event])
    (hworkloads : directive.affectedWorkloads.length ≤ maxTeardownWorkloads)
    (hroom : n < maxIdentityStoreAuditEvents) :
    ∃ change', change.extend applied = .ok change' ∧ change'.Holds (n + 1) := by
  obtain ⟨mid, hmid, hmidAudit, hmidTeardown⟩ :=
    RealmIdentityStore.pushAudit_of_lt change event (by rw [h.1]; exact hroom)
  obtain ⟨change', hpush, hpushAudit, hpushTeardown⟩ :=
    RealmIdentityStore.pushTeardown_of_lt mid directive
      (by rw [hmidTeardown, h.2]; exact hroom) hworkloads
  refine ⟨change', ?_, ?_, ?_⟩
  · unfold IdentityStoreChange.extend
    simp only [haudit, hteardown, List.foldlM_cons, List.foldlM_nil, bind_pure, hmid]
    exact hpush
  · rw [hpushAudit, hmidAudit, List.length_append, h.1, List.length_singleton]
  · rw [hpushTeardown, hmidTeardown, List.length_append, h.2, List.length_singleton]

lemma extend_of_full (h : change.Holds maxIdentityStoreAuditEvents)
    (haudit : applied.auditEvents = [event]) :
    change.extend applied = .error .tooManyAuditEvents := by
  unfold extend
  simp only [haudit, List.foldlM_cons, List.foldlM_nil, bind_pure, pushAudit_of_full h]
  rfl

lemma holds_empty : empty.Holds 0 := ⟨rfl, rfl⟩

lemma Holds.le (h : change.Holds n) : n ≤ maxIdentityStoreAuditEvents := h.1 ▸ change.audit_le

end IdentityStoreChange

namespace RealmIdentityStore

/-- The records that the store does not have yet. -/
def newRecords (s : RealmIdentityStore) (records : List RevocationRecord) : List RevocationRecord :=
  records.filter fun record => !s.revocations.contains record.revocationId

/-- Distinct records, none of which the store has. -/
structure Fresh (s : RealmIdentityStore) (records : List RevocationRecord) : Prop where
  nodup : (records.map (·.revocationId)).Nodup
  unknown : ∀ record ∈ records, ¬s.revocations.contains record.revocationId = true

/-- One of the records applies and is applied. -/
def Strike (records : List RevocationRecord) (s s' : RealmIdentityStore) : Prop :=
  ∃ record ∈ records, s.Applies record.target ∧ Struck record.target s s'

lemma fresh_newRecords (hnodup : (records.map (·.revocationId)).Nodup) (s : RealmIdentityStore) :
    s.Fresh (s.newRecords records) where
  nodup := hnodup.sublist (List.filter_sublist.map _)
  unknown record hmem := by
    have hnot := (List.mem_filter.mp hmem).2
    rwa [Bool.not_eq_true', ← Bool.not_eq_true] at hnot

section

variable {s : RealmIdentityStore}

lemma Fresh.head (h : s.Fresh (record :: records)) :
    ¬s.revocations.contains record.revocationId = true := h.unknown record List.mem_cons_self

lemma Fresh.tail (h : s.Fresh (record :: records)) (hrecorded : Recorded record s s') :
    s'.Fresh records := by
  have hnodup := h.nodup
  rw [List.map_cons, List.nodup_cons] at hnodup
  refine ⟨hnodup.2, fun other hmem hknown => ?_⟩
  rcases (hrecorded.known other.revocationId).mp hknown with hsame | hknown
  · exact hnodup.1 (hsame ▸ List.mem_map_of_mem hmem)
  · exact h.unknown other (List.mem_cons_of_mem _ hmem) hknown

/-! ## one record -/

lemma mergeRecord_known (h : s.revocations.contains record.revocationId = true) :
    (mergeRecord workloads change record).exec s = (.ok change, s) := by
  unfold mergeRecord
  rw [exec_get_bind, if_pos h, exec_pure]

lemma mergeRecord_error (hnew : ¬s.revocations.contains record.revocationId = true)
    (h : maxTeardownWorkloads < workloads.length ∨ ¬s.Applies record.target) :
    ∃ e, (mergeRecord workloads change record).exec s = (.error e, s) := by
  obtain ⟨e, he⟩ := applyRevocation_error true (.inr h)
  unfold mergeRecord
  rw [exec_get_bind, if_neg hnew, exec_bind, he]
  exact ⟨e, rfl⟩

variable {change : IdentityStoreChange} (hkeyed : Keyed s.controllerGenerations)
  (hholds : change.Holds n)

include hkeyed hholds

/-- A new record is applied, and joins the change if there is room. -/
lemma mergeRecord_new (hnew : ¬s.revocations.contains record.revocationId = true)
    (hworkloads : workloads.length ≤ maxTeardownWorkloads) (happlies : s.Applies record.target) :
    ∃ s', Recorded record s s' ∧
      ((n < maxIdentityStoreAuditEvents ∧ ∃ change', change'.Holds (n + 1) ∧
          (mergeRecord workloads change record).exec s = (.ok change', s')) ∨
        (n = maxIdentityStoreAuditEvents ∧
          ∃ e, (mergeRecord workloads change record).exec s = (.error e, s'))) := by
  obtain ⟨applied, s', hexec, hrecorded, directive, event, hteardown, haudit, rfl⟩ :=
    applyRevocation_ok hkeyed true hnew hworkloads happlies
  have hmerge : (mergeRecord directive.affectedWorkloads change record).exec s
      = (change.extend applied, s') := by
    unfold mergeRecord
    rw [exec_get_bind, if_neg hnew, exec_bind_of_ok hexec, exec_ofExcept]
  refine ⟨s', hrecorded, ?_⟩
  rcases Nat.lt_or_eq_of_le hholds.le with hroom | hfull
  · obtain ⟨change', hextend, hholds'⟩ := hholds.extend hteardown haudit hworkloads hroom
    exact .inl ⟨hroom, change', hholds', by rw [hmerge, hextend]⟩
  · subst hfull
    rw [hmerge, IdentityStoreChange.extend_of_full hholds haudit]
    exact .inr ⟨rfl, _, rfl⟩

/-! ## the records of a list -/

/-- Only the new records of a list count. -/
lemma exec_mergeRecords_newRecords (hnodup : (records.map (·.revocationId)).Nodup) :
    (records.foldlM (mergeRecord workloads) change).exec s =
      ((s.newRecords records).foldlM (mergeRecord workloads) change).exec s := by
  induction records generalizing s change n with
  | nil => rfl
  | cons record records ih =>
    rw [List.map_cons, List.nodup_cons] at hnodup
    unfold newRecords
    by_cases hknown : s.revocations.contains record.revocationId = true
    · rw [List.filter_cons_of_neg (by simp [hknown]), List.foldlM_cons,
        exec_bind_of_ok (mergeRecord_known hknown)]
      exact ih hkeyed hholds hnodup.2
    · rw [List.filter_cons_of_pos (by rwa [Bool.not_eq_true', ← Bool.not_eq_true]),
        List.foldlM_cons, List.foldlM_cons]
      by_cases hfails : maxTeardownWorkloads < workloads.length ∨ ¬s.Applies record.target
      · obtain ⟨e, he⟩ := mergeRecord_error hknown hfails
        rw [exec_bind, exec_bind, he]
      · simp only [not_or, not_not, not_lt] at hfails
        obtain ⟨s', hrecorded, hroom | hfull⟩ :=
          mergeRecord_new hkeyed hholds hknown hfails.1 hfails.2
        · obtain ⟨-, change', hholds', hexec⟩ := hroom
          -- applying the record makes no other record of the list known
          have hsame : s'.newRecords records = s.newRecords records := by
            refine List.filter_congr fun other hmem => ?_
            have hne : other.revocationId ≠ record.revocationId := fun h =>
              hnodup.1 (h ▸ List.mem_map_of_mem hmem)
            have hiff := hrecorded.known other.revocationId
            rw [or_iff_right hne] at hiff
            rw [Bool.eq_iff_iff.mpr hiff]
          rw [exec_bind_of_ok hexec, exec_bind_of_ok hexec,
            ih (hrecorded.struck.keyed hkeyed) hholds' hnodup.2, hsame]
          rfl
        · obtain ⟨-, e, he⟩ := hfull
          rw [exec_bind, exec_bind, he]

/-- New records that all apply, with room for them. -/
lemma mergeRecords_succeeds (hfresh : s.Fresh records)
    (hworkloads : workloads.length ≤ maxTeardownWorkloads)
    (happlies : ∀ record ∈ records, s.Applies record.target)
    (hroom : n + records.length ≤ maxIdentityStoreAuditEvents) :
    (records.foldlM (mergeRecord workloads) change).Succeeds s fun change' s' =>
      change'.Holds (n + records.length) ∧
      (∀ id, s.revocations.contains id = true → s'.revocations.contains id = true) ∧
      ∀ record ∈ records, s'.revocations.contains record.revocationId = true := by
  induction records generalizing s change n with
  | nil => exact ⟨change, s, rfl, hholds, fun _ h => h, by simp⟩
  | cons record records ih =>
    rw [List.length_cons] at hroom ⊢
    obtain ⟨s₁, hrecorded, ⟨-, change₁, hholds₁, hexec⟩ | ⟨hfull, -⟩⟩ := mergeRecord_new hkeyed
      hholds hfresh.head hworkloads (happlies record List.mem_cons_self)
    · obtain ⟨change', s', hexec', hholds', hkept, hall⟩ :=
        ih (hrecorded.struck.keyed hkeyed) hholds₁ (hfresh.tail hrecorded)
          (fun other hmem => (hrecorded.applies _).mpr
            (happlies other (List.mem_cons_of_mem _ hmem))) (by omega)
      refine ⟨change', s', ?_, ?_, ?_, ?_⟩
      · rw [List.foldlM_cons, exec_bind_of_ok hexec, hexec']
      · rwa [show n + (records.length + 1) = n + 1 + records.length by omega]
      · exact fun id h => hkept id ((hrecorded.known id).mpr (.inr h))
      · intro other hmem
        rcases List.mem_cons.mp hmem with rfl | hmem
        · exact hkept _ ((hrecorded.known _).mpr (.inl rfl))
        · exact hall other hmem
    · omega

/-- New records one of which does not apply, or too many: what was applied
before the failure is kept. -/
lemma mergeRecords_fails (hfresh : s.Fresh records)
    (hworkloads : workloads.length ≤ maxTeardownWorkloads)
    (hbad : (∃ record ∈ records, ¬s.Applies record.target) ∨
      maxIdentityStoreAuditEvents < n + records.length) :
    ∃ e s', (records.foldlM (mergeRecord workloads) change).exec s = (.error e, s') ∧
      ∀ id, s.revocations.contains id = true → s'.revocations.contains id = true := by
  induction records generalizing s change n with
  | nil =>
    have hle := hholds.le
    rcases hbad with ⟨_, hmem, -⟩ | hmany
    · contradiction
    · rw [List.length_nil] at hmany
      omega
  | cons record records ih =>
    rw [List.foldlM_cons]
    by_cases happlies : s.Applies record.target
    · obtain ⟨s₁, hrecorded, ⟨-, change₁, hholds₁, hexec⟩ | ⟨-, e, he⟩⟩ :=
        mergeRecord_new hkeyed hholds hfresh.head hworkloads happlies
      · have hbad₁ : (∃ other ∈ records, ¬s₁.Applies other.target) ∨
            maxIdentityStoreAuditEvents < n + 1 + records.length := by
          rcases hbad with ⟨other, hmem, hnot⟩ | hmany
          · rcases List.mem_cons.mp hmem with rfl | hmem
            · exact absurd happlies hnot
            · exact .inl ⟨other, hmem, fun h => hnot ((hrecorded.applies _).mp h)⟩
          · rw [List.length_cons] at hmany
            exact .inr (by omega)
        obtain ⟨e, s', hexec', hkept⟩ :=
          ih (hrecorded.struck.keyed hkeyed) hholds₁ (hfresh.tail hrecorded) hbad₁
        refine ⟨e, s', by rw [exec_bind_of_ok hexec, hexec'], fun id h => ?_⟩
        exact hkept id ((hrecorded.known id).mpr (.inr h))
      · exact ⟨e, s₁, by rw [exec_bind, he], fun id h => (hrecorded.known id).mpr (.inr h)⟩
    · obtain ⟨e, he⟩ := mergeRecord_error hfresh.head (.inr happlies)
      exact ⟨e, s, by rw [exec_bind, he], fun _ h => h⟩

/-- Whatever becomes of a merge, its state comes from applying new records. -/
lemma mergeRecords_strikes (hfresh : s.Fresh records)
    (hsub : ∀ record ∈ records, record ∈ all) :
    Relation.ReflTransGen (Strike all) s
      ((records.foldlM (mergeRecord workloads) change).exec s).2 := by
  induction records generalizing s change n with
  | nil => exact .refl
  | cons record records ih =>
    rw [List.foldlM_cons]
    by_cases hfails : maxTeardownWorkloads < workloads.length ∨ ¬s.Applies record.target
    · obtain ⟨e, he⟩ := mergeRecord_error hfresh.head hfails
      rw [exec_bind, he]
    · simp only [not_or, not_not, not_lt] at hfails
      obtain ⟨s₁, hrecorded, hcase⟩ := mergeRecord_new hkeyed hholds hfresh.head hfails.1 hfails.2
      have hstrike : Strike all s s₁ :=
        ⟨record, hsub record List.mem_cons_self, hfails.2, hrecorded.struck⟩
      rcases hcase with ⟨-, change₁, hholds₁, hexec⟩ | ⟨-, e, he⟩
      · rw [exec_bind_of_ok hexec]
        exact .head hstrike (ih (hrecorded.struck.keyed hkeyed) hholds₁ (hfresh.tail hrecorded)
          (fun other hmem => hsub other (List.mem_cons_of_mem _ hmem)))
      · rw [exec_bind, he]
        exact .single hstrike

end

/-! ## the merge -/

/-- The list is new, its parent is trusted and its records are distinct. -/
structure Mergeable (s : RealmIdentityStore) (list : RevocationList) : Prop where
  unknown : ¬s.revocationLists.contains list.listId = true
  trusted : s.ensureParentTrustNotRevoked list.issuerRealm = .ok ()
  nodup : (list.records.map (·.revocationId)).Nodup

variable {s : RealmIdentityStore}

lemma exec_mergeRevocationList (hkeyed : Keyed s.controllerGenerations) (h : s.Mergeable list)
    (workloads : List WorkloadId) :
    (mergeRevocationList list workloads).exec s =
      ((s.newRecords list.records).foldlM (mergeRecord workloads) .empty >>= recordList list).exec
        s := by
  have hseen : ¬seenTwice [] (list.records.map (·.revocationId)) = true := by
    rw [Bool.not_eq_true, seenTwice_eq_false]
    exact ⟨h.nodup, fun _ _ => List.not_mem_nil⟩
  unfold mergeRevocationList
  rw [exec_get_bind, exec_failIf_bind, if_neg h.unknown, h.trusted, exec_ofExcept_ok_bind,
    exec_failIf_bind, if_neg hseen, exec_bind,
    exec_mergeRecords_newRecords hkeyed IdentityStoreChange.holds_empty h.nodup, ← exec_bind]

lemma mergeRevocationList_error (h : ¬s.Mergeable list) (workloads : List WorkloadId) :
    ∃ e, (mergeRevocationList list workloads).exec s = (.error e, s) := by
  unfold mergeRevocationList
  rw [exec_get_bind, exec_failIf_bind]
  by_cases hlist : s.revocationLists.contains list.listId = true
  · exact ⟨_, if_pos hlist⟩
  rw [if_neg hlist]
  cases htrust : s.ensureParentTrustNotRevoked list.issuerRealm with
  | error e => exact ⟨e, exec_ofExcept_error_bind _ s e⟩
  | ok =>
    rw [exec_ofExcept_ok_bind, exec_failIf_bind]
    by_cases hseen : seenTwice [] (list.records.map (·.revocationId)) = true
    · exact ⟨_, if_pos hseen⟩
    · exact absurd ⟨hlist, htrust, nodup_of_not_seenTwice (eq_false_of_ne_true hseen)⟩ h

lemma recordList_succeeds (hholds : change.Holds n) (hroom : n < maxIdentityStoreAuditEvents)
    (list : RevocationList) : (recordList list change).Succeeds s fun _ _ => True := by
  obtain ⟨change', hpush, -, -⟩ := pushAudit_of_lt change
    { auditEvent .revocationPropagated list.issuerRealm list.correlationId with
      revocationStatus := some .propagated } (by rw [hholds.1]; exact hroom)
  refine succeeds_modify_bind ?_
  rw [hpush]
  exact ⟨change', _, exec_ofExcept _ _, trivial⟩

lemma recordList_full (hholds : change.Holds maxIdentityStoreAuditEvents) (list : RevocationList)
    (s : RealmIdentityStore) :
    (recordList list change).exec s = (.error .tooManyAuditEvents,
      { s with revocationLists := s.revocationLists.insert list.listId list }) := by
  unfold recordList
  rw [exec_modify_bind, IdentityStoreChange.pushAudit_of_full hholds, exec_ofExcept]

end RealmIdentityStore

end D2b

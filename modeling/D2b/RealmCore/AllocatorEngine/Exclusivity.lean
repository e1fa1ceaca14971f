import D2b.RealmCore.AllocatorEngine.Runs

/-!
# D2b.RealmCore.AllocatorEngine.Exclusivity

Over every run of `allocate` calls, lease ids stay distinct and no resource
is held by two live leases.  A granted lease lists what was asked for, once
each and in acquisition order, under an id that was not in the ledger when it
was granted; a replay returns the lease an earlier call granted.
-/

namespace D2b

open List

section

variable (leases : List AllocatorLease)

def LeaseIdsDistinct : Prop := (leases.map (·.leaseId)).Nodup

instance : Decidable (LeaseIdsDistinct leases) :=
  inferInstanceAs (Decidable (List.Nodup _))

/-- No resource is held by two leases that are not terminal. -/
def Exclusive : Prop :=
  (leases.filter fun lease => !lease.state.isTerminal).Pairwise fun a b =>
    ∀ key ∈ a.keys, key ∉ b.keys

instance : Decidable (Exclusive leases) :=
  inferInstanceAs (Decidable (List.Pairwise _ _))

end

def GrantedHostResource.acquisitionKey (g : GrantedHostResource) : ResourceAcquisitionKey :=
  ⟨g.acquisitionOrder, g.kind, g.resourceId⟩

/-- The resources of a lease are the requested ones. -/
structure ListsExactly (request : LeaseAllocationRequest) (resources : List GrantedHostResource) :
    Prop where
  once : (resources.map (·.resourceId)).Nodup
  exactly : resources.Perm (request.resources.map (·.grant))
  ordered : resources.map (·.acquisitionKey) = request.acquisitionOrder

/-- What a recorded grant matches, it lists exactly. -/
lemma listsExactly_of_grantMatches (h : GrantMatches (.fromRequest request) resources) :
    ListsExactly request resources where
  once := by
    obtain ⟨hnodup, rfl⟩ := h
    rw [map_map]
    exact hnodup
  exactly := by
    obtain ⟨-, rfl⟩ := h
    have hperm := (perm_insertionSort (· ≤ ·) (request.resources.map (·.signature))).map (·.granted)
    rw [map_map] at hperm
    exact hperm
  ordered := by
    obtain ⟨-, rfl⟩ := h
    rw [map_map, acquisitionOrder_eq]
    rfl

lemma leaseIdsDistinct_append (hdistinct : LeaseIdsDistinct leases)
    (hfresh : lease.leaseId ∉ leases.map (·.leaseId)) : LeaseIdsDistinct (leases ++ [lease]) := by
  unfold LeaseIdsDistinct
  rw [map_append, map_singleton, ← concat_eq_append, nodup_concat]
  exact ⟨hfresh, hdistinct⟩

/-- A lease whose resources are free keeps the ledger exclusive. -/
lemma exclusive_append (hexclusive : Exclusive leases)
    (hfree : ∀ held ∈ leases, held.state.isTerminal = false → ∀ key ∈ held.keys, key ∉ lease.keys) :
    Exclusive (leases ++ [lease]) := by
  unfold Exclusive
  rw [filter_append, pairwise_append]
  refine ⟨hexclusive, (pairwise_singleton _ lease).sublist filter_sublist, ?_⟩
  intro held hheld new hnew
  obtain ⟨hheld, hstate⟩ := mem_filter.mp hheld
  obtain rfl := mem_singleton.mp (mem_filter.mp hnew).1
  exact hfree held hheld (by simpa using hstate)

namespace LocalRootAllocatorEngine

/-! ## one call -/

section

variable {e : LocalRootAllocatorEngine} {ledger : FakeAllocatorLedger}

/-- What is granted was asked for. -/
lemma acquisitionKey_mem_of_granted (hdup : hasDuplicateRequestedResources request = false)
    (hkey : key ∈ (grantResourcesInOrder request).map (·.key)) :
    ∃ acquired ∈ request.acquisitionOrder, acquired.resourceKey = key := by
  obtain ⟨g, hg, rfl⟩ := mem_map.mp hkey
  refine ⟨g.acquisitionKey, ?_, rfl⟩
  rw [← (listsExactly_of_grantMatches (grantMatches_grantResourcesInOrder hdup)).ordered]
  exact mem_map_of_mem hg

/-- What is granted was free. -/
lemma keys_free_of_no_conflict (hdup : hasDuplicateRequestedResources request = false)
    (hfree : e.allocationConflicts request = []) (hheld : held ∈ e.ledger.leases)
    (hstate : held.state.isTerminal = false) :
    ∀ key ∈ held.keys, key ∉ (grantResourcesInOrder request).map (·.key) := by
  intro key hkey hgranted
  obtain ⟨acquired, hacquired, rfl⟩ := acquisitionKey_mem_of_granted hdup hgranted
  have hnone := (conflictsFrom_eq_nil.mp hfree acquired hacquired).1
  exact persistedConflict_eq_none.mp hnone held hheld hstate hkey

section

variable (h : e.Outcome request result ledger)
include h

lemma Outcome.leaseIdsDistinct (hdistinct : LeaseIdsDistinct e.ledger.leases) :
    LeaseIdsDistinct ledger.leases := by
  cases h with
  | replayed | mismatched | denied => exact hdistinct
  | granted _ _ _ _ hfresh => exact leaseIdsDistinct_append hdistinct hfresh

lemma Outcome.exclusive (hexclusive : Exclusive e.ledger.leases) : Exclusive ledger.leases := by
  cases h with
  | replayed | mismatched | denied => exact hexclusive
  | granted _ _ hdup hfree =>
    exact exclusive_append hexclusive fun held => keys_free_of_no_conflict hdup hfree

lemma Outcome.leases_of_denied (hdenied : result = .denied reason conflicts) :
    ledger.leases = e.ledger.leases := by
  cases h with
  | replayed | mismatched | denied => rfl
  | granted => contradiction

lemma Outcome.listsExactly (hgranted : result = .granted lease) :
    ListsExactly request lease.resources := by
  cases h with
  | @replayed record hrecord hsignature =>
    have hsound := record.sound lease hgranted
    rw [hsignature] at hsound
    exact listsExactly_of_grantMatches hsound
  | mismatched | denied => contradiction
  | granted _ _ hdup =>
    cases hgranted
    exact listsExactly_of_grantMatches (grantMatches_grantResourcesInOrder hdup)

end

end

/-! ## runs -/

/-- The call added the lease, under an id that was not in the ledger. -/
structure Event.Adds (event : Event) (lease : AllocatorLease) : Prop where
  fresh : lease.leaseId ∉ event.before.leases.map (·.leaseId)
  added : event.after.leases = event.before.leases ++ [lease]

/-- An earlier call granted the lease for the same key, or the ledger the run
started from remembers it. -/
def GrantedBefore (start : FakeAllocatorLedger) (history : List Event) (key : IdempotencyKey)
    (lease : AllocatorLease) : Prop :=
  (∃ event ∈ history, event.request.idempotencyKey = key ∧ event.result = .granted lease ∧
    event.Adds lease) ∨
  ∃ record ∈ start.idempotency, record.key = key ∧ record.result = .granted lease

variable {history : List Event}

lemma GrantedBefore.mono (h : GrantedBefore start history key lease) (event : Event) :
    GrantedBefore start (history ++ [event]) key lease := by
  rcases h with ⟨earlier, hmem, hrest⟩ | h
  · exact .inl ⟨earlier, mem_append_left _ hmem, hrest⟩
  · exact .inr h

/-- Every lease the ledger remembers as granted was granted before. -/
def RecordsGranted (start : FakeAllocatorLedger) (history : List Event)
    (ledger : FakeAllocatorLedger) : Prop :=
  ∀ record ∈ ledger.idempotency, ∀ lease, record.result = .granted lease →
    GrantedBefore start history record.key lease

variable {e : LocalRootAllocatorEngine}

section

variable (hstep : Step history e event e') (hrecords : RecordsGranted start history e.ledger)
include hstep hrecords

lemma recordsGranted_step : RecordsGranted start (history ++ [event]) e'.ledger := by
  obtain ⟨engine, hengine, houtcome⟩ := step_outcome hstep
  obtain ⟨-, hbefore, hafter⟩ := hstep
  rw [← hafter]
  rw [← hbefore, ← hengine] at hrecords
  have hold : RecordsGranted start (history ++ [event]) engine.ledger :=
    fun record hmem lease hlease => (hrecords record hmem lease hlease).mono event
  generalize hresult : event.result = result at houtcome
  generalize hledger : event.after = ledger at houtcome
  cases houtcome with
  | replayed | mismatched => exact hold
  | denied _ _ _ hdenied =>
    intro record hmem lease hlease
    rcases Trace.mem_snoc.mp hmem with hmem | hlast
    · exact hold record hmem lease hlease
    · rw [hlast, hdenied] at hlease
      contradiction
  | granted _ _ _ _ hfresh hkey _ hgranted =>
    intro record hmem lease hlease
    rcases Trace.mem_snoc.mp hmem with hmem | hlast
    · exact hold record hmem lease hlease
    · rw [hlast] at hlease ⊢
      rw [hgranted] at hlease
      cases hlease
      refine .inl ⟨event, by simp, hkey.symm, hresult, ?_, ?_⟩
      · rw [← hengine]
        exact hfresh
      · rw [hledger, ← hengine]

/-- A granted lease is new, or it is one that was granted before. -/
lemma adds_or_grantedBefore (hgranted : event.result = .granted lease) :
    event.Adds lease ∨ event.after = event.before ∧
      GrantedBefore start history event.request.idempotencyKey lease := by
  obtain ⟨engine, hengine, houtcome⟩ := step_outcome hstep
  rw [← hstep.2.1, ← hengine] at hrecords
  rw [hgranted] at houtcome
  generalize hresult : LeaseAllocationResult.granted lease = result at houtcome
  generalize hledger : event.after = ledger at houtcome
  cases houtcome with
  | @replayed record hrecord _ =>
    obtain ⟨hmem, hkey⟩ := FakeAllocatorLedger.idempotencyRecord_eq_some hrecord
    exact .inr ⟨hengine, hkey ▸ hrecords record hmem lease hresult.symm⟩
  | mismatched | denied => contradiction
  | granted _ _ _ _ hfresh =>
    cases hresult
    exact .inl ⟨hengine ▸ hfresh, by rw [hledger, ← hengine]⟩

end

/-- What every run keeps. -/
structure LedgerInvariant (start : FakeAllocatorLedger) (history : List Event)
    (ledger : FakeAllocatorLedger) : Prop where
  distinct : LeaseIdsDistinct ledger.leases
  exclusive : Exclusive ledger.leases
  records : RecordsGranted start history ledger

lemma ledgerInvariant_of_run (hdistinct : LeaseIdsDistinct start.leases)
    (hexclusive : Exclusive start.leases)
    (hrun : Trace.Run (fun e => e.ledger = start) Step history e) :
    LedgerInvariant start history e.ledger := by
  apply hrun.invariant
  · rintro e rfl
    exact ⟨hdistinct, hexclusive, fun record hmem lease hlease => .inr ⟨record, hmem, rfl, hlease⟩⟩
  · intro history e event e' _ hinv hstep
    obtain ⟨engine, hengine, houtcome⟩ := step_outcome hstep
    have hledger : engine.ledger = e.ledger := hengine.trans hstep.2.1
    rw [hstep.2.2] at houtcome
    exact ⟨houtcome.leaseIdsDistinct (hledger ▸ hinv.distinct),
      houtcome.exclusive (hledger ▸ hinv.exclusive), recordsGranted_step hstep hinv.records⟩

/-- Over every run of allocations, under any observed state and liveness, lease
ids stay distinct and no resource is held by two live leases.  A granted
lease lists what was requested, once each, in acquisition order; it is new in
the ledger, with a new id, unless the call replays an earlier grant.  A denial
leaves the leases as they were, and every call returns. -/
theorem allocate_exclusive {start : FakeAllocatorLedger}
    (hdistinct : LeaseIdsDistinct start.leases) (hexclusive : Exclusive start.leases)
    {history : List Event} {e : LocalRootAllocatorEngine}
    (hrun : Trace.Run (fun e => e.ledger = start) Step history e) :
    LeaseIdsDistinct e.ledger.leases ∧ Exclusive e.ledger.leases ∧
    (∀ earlier event later lease, history = earlier ++ event :: later →
      event.result = .granted lease →
        ListsExactly event.request lease.resources ∧
        (event.Adds lease ∨ event.after = event.before ∧
          GrantedBefore start earlier event.request.idempotencyKey lease)) ∧
    (∀ event ∈ history, ∀ reason conflicts, event.result = .denied reason conflicts →
      event.after.leases = event.before.leases) ∧
    (e.ledger.leases.length < 2 ^ 64 → ∀ observed liveness request,
      ({ e with observed, liveness }.allocate request).isSome = true) := by
  have hinv := ledgerInvariant_of_run hdistinct hexclusive hrun
  refine ⟨hinv.distinct, hinv.exclusive, ?_, ?_, ?_⟩
  · intro earlier event later lease hsplit hgranted
    obtain ⟨s, s', hbefore, hstep⟩ := hrun.split hsplit
    obtain ⟨engine, -, houtcome⟩ := step_outcome hstep
    have hrecords := (ledgerInvariant_of_run hdistinct hexclusive hbefore).records
    exact ⟨houtcome.listsExactly hgranted, adds_or_grantedBefore hstep hrecords hgranted⟩
  · intro event hmem reason conflicts hdenied
    obtain ⟨earlier, later, hsplit⟩ := append_of_mem hmem
    obtain ⟨s, s', -, hstep⟩ := hrun.split hsplit
    obtain ⟨engine, hengine, houtcome⟩ := step_outcome hstep
    rw [← hengine]
    exact houtcome.leases_of_denied hdenied
  · intro hlen observed liveness request
    exact allocate_isSome (e := { e with observed, liveness }) hlen request

open Sample in
/-- A bridge is free again once its lease is reclaimed; asked for a second
time with the same key it is not granted twice. -/
theorem allocate_exclusive_reclaimed : ∃ history e,
    Trace.Run (fun e => e.ledger = .new [lease .reclaimed bridge]) Step history e ∧
      history.map (fun event => decide (event.after.leases = event.before.leases))
        = [false, true] ∧
      LeaseIdsDistinct e.ledger.leases ∧ Exclusive e.ledger.leases := by
  have hstart : Trace.Run (fun e => e.ledger = .new [lease .reclaimed bridge]) Step []
      (engine [lease .reclaimed bridge]) := .nil rfl
  have hrun := (hstart.snoc (step_call _ _ (by decide) ⟨[]⟩ ⟨[first]⟩
      (request first (key "key-1" (by decide)) [tap, bridge]))).snoc
    (step_call _ _ (by decide +kernel) ⟨[]⟩ ⟨[]⟩
      (request first (key "key-1" (by decide)) [bridge, tap]))
  have hinv := allocate_exclusive (by decide) (by decide) hrun
  exact ⟨_, _, hrun, by decide +kernel, hinv.1, hinv.2.1⟩

end LocalRootAllocatorEngine

end D2b

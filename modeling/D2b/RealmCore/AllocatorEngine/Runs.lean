import D2b.Lib.Run
import D2b.RealmCore.AllocatorEngine

/-!
# D2b.RealmCore.AllocatorEngine.Runs

What one `allocate` call can do, and the runs of such calls.

`Outcome` lists the four ways a call ends, with the ledger each leaves; every
result about runs reads it and none unfolds `allocate`.  `allocate_isSome`
says that a call ends at all: the lease id search finds a free candidate.
-/

namespace D2b

open List Option

namespace FakeAllocatorLedger

/-! ## the lease id search -/

lemma leaseIdCandidate_injective : Function.Injective leaseIdCandidate := by
  intro s t h
  have hnat : toString s.toNat = toString t.toNat := (String.append_right_inj _).mp h
  exact UInt64.toNat_inj.mp (Text.toString_injective hnat)

/-- A candidate is an id of every newtype that checks for an opaque token. -/
lemma leaseIdCandidate_valid (hk : k.validate = isOpaqueToken) (sequence : UInt64) :
    idError? k (leaseIdCandidate sequence) = none := by
  have htoken : isOpaqueToken (leaseIdCandidate sequence) = true :=
    isOpaqueToken_append_nat (by decide) _
  have hdigits : (toString sequence.toNat).utf8ByteSize ≤ 20 :=
    Text.utf8ByteSize_toString_le (by decide) (lt_of_lt_of_le sequence.toNat_lt (by decide))
  have hsize : (leaseIdCandidate sequence).utf8ByteSize ≤ maxIdLen := by
    unfold leaseIdCandidate maxIdLen
    rw [String.utf8ByteSize_append]
    have : "lease-engine-".utf8ByteSize = 13 := by decide
    omega
  exact (idError?_eq_none_iff hk).mpr ⟨htoken, hsize⟩

variable {existing : List String}

lemma searchLeaseId_fresh {next : UInt64} :
    ∀ {fuel : Nat} {sequence : UInt64},
      searchLeaseId existing fuel sequence = some (leaseId, next) → leaseId.asStr ∉ existing := by
  intro fuel
  induction fuel with
  | zero => intro sequence h; contradiction
  | succ fuel ih =>
    intro sequence h
    unfold searchLeaseId at h
    by_cases hmem : leaseIdCandidate sequence ∈ existing
    · rw [if_pos hmem] at h
      exact ih h
    · rw [if_neg hmem, Id.parse_of_valid (leaseIdCandidate_valid rfl sequence)] at h
      cases h
      exact hmem

/-- A search that runs out of fuel found every candidate taken. -/
lemma searchLeaseId_eq_none :
    ∀ {fuel : Nat} {sequence : UInt64}, searchLeaseId existing fuel sequence = none →
      ∀ i < fuel, leaseIdCandidate (sequence + UInt64.ofNat i) ∈ existing := by
  intro fuel
  induction fuel with
  | zero => intro sequence _ i hi; omega
  | succ fuel ih =>
    intro sequence h i hi
    unfold searchLeaseId at h
    by_cases hmem : leaseIdCandidate sequence ∈ existing
    · rw [if_pos hmem] at h
      cases i with
      | zero => simpa using hmem
      | succ i =>
        have hnext := ih h i (by omega)
        rwa [UInt64.add_assoc, UInt64.add_comm 1, ← UInt64.ofNat_one, ← UInt64.ofNat_add]
          at hnext
    · rw [if_neg hmem, Id.parse_of_valid (leaseIdCandidate_valid rfl sequence)] at h
      contradiction

/-- Fewer than `2 ^ 64` texts leave a candidate free. -/
lemma exists_candidate_not_mem (h : existing.length < 2 ^ 64) (sequence : UInt64) :
    ∃ i ≤ existing.length, leaseIdCandidate (sequence + UInt64.ofNat i) ∉ existing := by
  by_contra hall
  simp only [not_exists, not_and, not_not] at hall
  -- otherwise one more candidate than there are texts would be among them
  have hnodup : ((List.range (existing.length + 1)).map fun i =>
      leaseIdCandidate (sequence + UInt64.ofNat i)).Nodup := by
    refine List.Nodup.map_on ?_ nodup_range
    intro i hi j hj hij
    have heq := (UInt64.add_right_inj sequence).mp (leaseIdCandidate_injective hij)
    have hi' : i < 2 ^ 64 := by rw [mem_range] at hi; omega
    have hj' : j < 2 ^ 64 := by rw [mem_range] at hj; omega
    have hnat := congrArg UInt64.toNat heq
    rwa [UInt64.toNat_ofNat_of_lt' hi', UInt64.toNat_ofNat_of_lt' hj'] at hnat
  have hsub : ((List.range (existing.length + 1)).map fun i =>
      leaseIdCandidate (sequence + UInt64.ofNat i)) ⊆ existing := by
    intro s hs
    obtain ⟨i, hi, rfl⟩ := mem_map.mp hs
    exact hall i (by rw [mem_range] at hi; omega)
  have hlen := (hnodup.subperm hsub).length_le
  rw [length_map, length_range] at hlen
  omega

variable {ledger : FakeAllocatorLedger}

/-- The search ends: its fuel covers one candidate more than there are leases. -/
lemma nextLeaseId_isSome (h : ledger.leases.length < 2 ^ 64) :
    ledger.nextLeaseId.isSome = true := by
  unfold nextLeaseId
  rw [isSome_map]
  cases hsearch : searchLeaseId (ledger.leases.map (·.leaseId.asStr)) (ledger.leases.length + 1)
      ledger.nextLeaseSequence with
  | some found => rfl
  | none =>
    obtain ⟨i, hi, hfree⟩ := exists_candidate_not_mem
      (show (ledger.leases.map (·.leaseId.asStr)).length < 2 ^ 64 by rwa [length_map])
      ledger.nextLeaseSequence
    rw [length_map] at hi
    exact absurd (searchLeaseId_eq_none hsearch i (by omega)) hfree

lemma nextLeaseId_eq_some (h : ledger.nextLeaseId = some (leaseId, ledger')) :
    leaseId ∉ ledger.leases.map (·.leaseId) ∧
      ∃ sequence, ledger' = { ledger with nextLeaseSequence := sequence } := by
  unfold nextLeaseId at h
  obtain ⟨⟨found, next⟩, hsearch, heq⟩ := map_eq_some_iff.mp h
  cases heq
  refine ⟨fun hmem => ?_, next, rfl⟩
  obtain ⟨lease, hlease, hid⟩ := mem_map.mp hmem
  exact searchLeaseId_fresh hsearch (mem_map.mpr ⟨lease, hlease, congrArg Id.asStr hid⟩)

/-! ## the records -/

lemma idempotencyRecord_eq_some (h : ledger.idempotencyRecord key = some record) :
    record ∈ ledger.idempotency ∧ record.key = key := by
  unfold idempotencyRecord at h
  exact ⟨List.mem_of_find?_eq_some h, by simpa using List.find?_some h⟩

end FakeAllocatorLedger

def AllocatorLease.keys (lease : AllocatorLease) : List ResourceKey := lease.resources.map (·.key)

def ResourceAcquisitionKey.resourceKey (key : ResourceAcquisitionKey) : ResourceKey :=
  ⟨key.kind, key.resourceId⟩

namespace LocalRootAllocatorEngine

/-! ## conflicts -/

variable {e : LocalRootAllocatorEngine}

lemma persistedConflict_eq_none :
    e.persistedConflict owner resource = none ↔
      ∀ lease ∈ e.ledger.leases, lease.state.isTerminal = false →
        resource.resourceKey ∉ lease.keys := by
  have hany : ∀ lease : AllocatorLease, (lease.resources.any fun granted =>
      decide (granted.kind = resource.kind) && decide (granted.resourceId = resource.resourceId))
        = true ↔ resource.resourceKey ∈ lease.keys := by
    intro lease
    simp only [List.any_eq_true, Bool.and_eq_true, decide_eq_true_eq, AllocatorLease.keys,
      List.mem_map, GrantedHostResource.key, ResourceAcquisitionKey.resourceKey,
      ResourceKey.mk.injEq]
  unfold persistedConflict
  rw [findSome?_eq_none_iff]
  constructor
  · intro h lease hlease hstate hmem
    have hnone := h lease (mem_filter.mpr ⟨hlease, by rw [hstate]; rfl⟩)
    rw [if_pos ((hany lease).mpr hmem)] at hnone
    contradiction
  · intro h lease hlease
    obtain ⟨hlease, hstate⟩ := mem_filter.mp hlease
    rw [if_neg fun hheld => h lease hlease (by simpa using hstate) ((hany lease).mp hheld)]

/-- Conflicts found so far stay. -/
lemma prefix_conflictsFrom (e : LocalRootAllocatorEngine) (owner : LeaseOwner) :
    ∀ (resources : List ResourceAcquisitionKey) (conflicts : List AllocatorConflict),
      conflicts <+: e.conflictsFrom owner conflicts resources := by
  intro resources
  induction resources with
  | nil => intro conflicts; exact prefix_rfl
  | cons resource resources ih =>
    intro conflicts
    simp only [conflictsFrom, append_assoc]
    split
    · exact prefix_append _ _
    · exact (prefix_append _ _).trans (ih _)

/-- The early exit hides no conflict: none is found exactly when no resource
has one. -/
lemma conflictsFrom_eq_nil : ∀ {resources : List ResourceAcquisitionKey},
      e.conflictsFrom owner [] resources = [] ↔ ∀ resource ∈ resources,
        e.persistedConflict owner resource = none ∧ e.observedConflict resource = none := by
  intro resources
  induction resources with
  | nil => simp [conflictsFrom]
  | cons resource resources ih =>
    have hskip : e.persistedConflict owner resource = none ∧ e.observedConflict resource = none →
        e.conflictsFrom owner [] (resource :: resources)
          = e.conflictsFrom owner [] resources := by
      rintro ⟨hp, ho⟩
      simp [conflictsFrom, hp, ho, maxAllocatorConflicts]
    rw [forall_mem_cons]
    constructor
    · intro h
      -- what the first resource contributes is a prefix of the empty result
      have hfound : (e.persistedConflict owner resource).toList
          ++ (e.observedConflict resource).toList = [] := by
        simp only [conflictsFrom, nil_append] at h
        split at h
        · exact h
        · exact prefix_nil.mp (h ▸ prefix_conflictsFrom e owner resources _)
      have hfirst : e.persistedConflict owner resource = none ∧
          e.observedConflict resource = none := by
        simpa [toList_eq_nil_iff] using hfound
      rw [hskip hfirst] at h
      exact ⟨hfirst, ih.mp h⟩
    · rintro ⟨hfirst, hrest⟩
      rw [hskip hfirst]
      exact ih.mpr hrest

/-! ## the outcomes of a call -/

/-- What one call can do: the result it returns and the ledger it leaves. -/
inductive Outcome (e : LocalRootAllocatorEngine) (request : LeaseAllocationRequest) :
    LeaseAllocationResult → FakeAllocatorLedger → Prop
  /-- The key is recorded for this request. -/
  | replayed {record : AllocatorIdempotencyRecord}
      (hrecord : e.ledger.idempotencyRecord request.idempotencyKey = some record)
      (hsignature : record.signature = .fromRequest request) :
      Outcome e request record.result e.ledger
  /-- The key is recorded for another request. -/
  | mismatched {record : AllocatorIdempotencyRecord}
      (hrecord : e.ledger.idempotencyRecord request.idempotencyKey = some record)
      (hsignature : record.signature ≠ .fromRequest request) :
      Outcome e request (.denied .invalidRequest []) e.ledger
  /-- A first call with the key, denied and remembered. -/
  | denied {record : AllocatorIdempotencyRecord} {reason : AllocatorReasonCode}
      {conflicts : List AllocatorConflict}
      (hnone : e.ledger.idempotencyRecord request.idempotencyKey = none)
      (hkey : record.key = request.idempotencyKey)
      (hsignature : record.signature = .fromRequest request)
      (hresult : record.result = .denied reason conflicts) :
      Outcome e request (.denied reason conflicts) (e.ledger.rememberIdempotency record)
  /-- A first call with the key, granted and remembered. -/
  | granted {record : AllocatorIdempotencyRecord} {leaseId : AllocatorLeaseId} {sequence : UInt64}
      (hnone : e.ledger.idempotencyRecord request.idempotencyKey = none)
      (hlive : e.liveness.isLive request.owner = true)
      (hdup : hasDuplicateRequestedResources request = false)
      (hfree : e.allocationConflicts request = [])
      (hfresh : leaseId ∉ e.ledger.leases.map (·.leaseId))
      (hkey : record.key = request.idempotencyKey)
      (hsignature : record.signature = .fromRequest request)
      (hresult : record.result
        = .granted ⟨leaseId, request.owner, .granted, grantResourcesInOrder request⟩) :
      Outcome e request (.granted ⟨leaseId, request.owner, .granted, grantResourcesInOrder request⟩)
        { leases := e.ledger.leases
            ++ [⟨leaseId, request.owner, .granted, grantResourcesInOrder request⟩]
          idempotency := e.ledger.idempotency ++ [record]
          nextLeaseSequence := sequence }

lemma denyRequest_outcome (hnone : e.ledger.idempotencyRecord request.idempotencyKey = none)
    (reason : AllocatorReasonCode) (conflicts : List AllocatorConflict) :
    e.Outcome request (e.denyRequest request reason conflicts).1.response.result
      (e.denyRequest request reason conflicts).2.ledger := by
  unfold denyRequest
  simp only [hnone, isNone_none, if_true]
  exact .denied hnone rfl rfl rfl

/-- A call that returns has one of the four outcomes. -/
lemma allocate_outcome (h : e.allocate request = some (allocation, e')) :
    e.Outcome request allocation.response.result e'.ledger := by
  unfold allocate at h
  cases hrecord : e.ledger.idempotencyRecord request.idempotencyKey with
  | some record =>
    simp only [hrecord] at h
    by_cases hsignature : record.signature = .fromRequest request
    · rw [if_pos hsignature] at h
      cases h
      exact .replayed hrecord hsignature
    · rw [if_neg hsignature] at h
      cases h
      simp only [hrecord, isNone_some, Bool.false_eq_true, if_false]
      exact .mismatched hrecord hsignature
  | none =>
    simp only [hrecord] at h
    -- the checks in the source's order; each failing one is a denial
    split at h
    · cases h
      exact denyRequest_outcome hrecord _ _
    · next hlive =>
      split at h
      · cases h
        exact denyRequest_outcome hrecord _ _
      · split at h
        · cases h
          exact denyRequest_outcome hrecord _ _
        · next hdup =>
          split at h
          · cases h
            exact denyRequest_outcome hrecord _ _
          · next hconflicts =>
            obtain ⟨⟨leaseId, ledger⟩, hnext, heq⟩ := map_eq_some_iff.mp h
            obtain ⟨hfresh, sequence, rfl⟩ := FakeAllocatorLedger.nextLeaseId_eq_some hnext
            cases heq
            exact .granted hrecord (by simpa using hlive) (Bool.eq_false_iff.mpr hdup)
              (by simpa using hconflicts) hfresh rfl rfl rfl

/-- Every call returns. -/
lemma allocate_isSome (h : e.ledger.leases.length < 2 ^ 64) (request : LeaseAllocationRequest) :
    (e.allocate request).isSome = true := by
  have hgrant : ∀ hdup, (e.grantRequest request hdup).isSome = true := by
    intro hdup
    unfold grantRequest
    rw [isSome_map]
    exact FakeAllocatorLedger.nextLeaseId_isSome h
  unfold allocate
  cases e.ledger.idempotencyRecord request.idempotencyKey with
  | some record =>
    by_cases hsignature : record.signature = .fromRequest request
    · simp [hsignature]
    · simp [hsignature]
  | none =>
    dsimp only
    split_ifs
    · rfl
    · rfl
    · rfl
    · rfl
    · exact hgrant _

/-! ## runs -/

/-- One call of a run: what was asked and answered, and the ledger around it. -/
structure Event where
  request : LeaseAllocationRequest
  allocation : AllocatorEngineAllocation
  before : FakeAllocatorLedger
  after : FakeAllocatorLedger

def Event.result (event : Event) : LeaseAllocationResult := event.allocation.response.result

/-- A call, under any observed state and liveness. -/
def Step (_ : List Event) (e : LocalRootAllocatorEngine) (event : Event)
    (e' : LocalRootAllocatorEngine) : Prop :=
  (∃ observed liveness,
    { e with observed, liveness }.allocate event.request = some (event.allocation, e')) ∧
  event.before = e.ledger ∧ event.after = e'.ledger

/-- A step is an outcome of some engine over the same ledger. -/
lemma step_outcome (h : Step history e event e') : ∃ engine : LocalRootAllocatorEngine,
      engine.ledger = event.before ∧ engine.Outcome event.request event.result event.after := by
  obtain ⟨⟨observed, liveness, hcall⟩, hbefore, hafter⟩ := h
  refine ⟨{ e with observed, liveness }, hbefore.symm, ?_⟩
  rw [hafter]
  exact allocate_outcome hcall

/-- The call itself; it always returns. -/
def call (e : LocalRootAllocatorEngine) (h : e.ledger.leases.length < 2 ^ 64)
    (observed : FakeObservedAllocatorState) (liveness : FakeAllocatorLiveness)
    (request : LeaseAllocationRequest) : Event × LocalRootAllocatorEngine :=
  let engine := { e with observed, liveness }
  let out := (engine.allocate request).get (allocate_isSome (e := engine) h request)
  (⟨request, out.1, e.ledger, out.2.ledger⟩, out.2)

lemma step_call (history : List Event) (e : LocalRootAllocatorEngine)
    (h : e.ledger.leases.length < 2 ^ 64) (observed : FakeObservedAllocatorState)
    (liveness : FakeAllocatorLiveness) (request : LeaseAllocationRequest) :
    Step history e (e.call h observed liveness request).1 (e.call h observed liveness request).2 :=
  ⟨⟨observed, liveness, (some_get _).symm⟩, rfl, rfl⟩

/-! ## small inputs -/

namespace Sample

open SmallRealm

def owner (generation : ControllerGenerationId) : LeaseOwner := ⟨work, generation, none⟩

def first : LeaseOwner := owner gen1
def second : LeaseOwner := owner gen2

def bridge : LeaseResourceRequest := ⟨⟨"br-1", by decide⟩, .bridge, .exclusive, ⟨0, 1⟩⟩
def tap : LeaseResourceRequest := ⟨⟨"tap-1", by decide⟩, .tap, .exclusive, ⟨0, 2⟩⟩

def key (raw : String) (h : idError? .idempotencyKey raw = none) : IdempotencyKey := ⟨raw, h⟩

def request (owner : LeaseOwner) (key : IdempotencyKey) (resources : List LeaseResourceRequest) :
    LeaseAllocationRequest :=
  ⟨operation, correlation, key, owner, resources, none⟩

/-- A lease of `resource` in a given state. -/
def lease (state : AllocatorLeaseState) (resource : LeaseResourceRequest) : AllocatorLease :=
  ⟨⟨"lease-engine-1", by decide⟩, first, state, [resource.grant]⟩

def engine (leases : List AllocatorLease) : LocalRootAllocatorEngine :=
  ⟨first, .new leases, ⟨[]⟩, ⟨[first, second]⟩⟩

/-- The bridge is observed missing, then present. -/
def observedTwice : LocalRootAllocatorEngine :=
  { engine [] with
    observed := ⟨[⟨bridge.resourceId, .bridge, .kernelNetlink, .missing⟩,
      ⟨bridge.resourceId, .bridge, .kernelNetlink, .present⟩]⟩ }

end Sample

end LocalRootAllocatorEngine

end D2b

import D2b.RealmCore.AllocatorEngine.Exclusivity

/-!
# D2b.RealmCore.AllocatorEngine.Reconcile

Allocation and reconciliation look at the same ledger and observations in two
ways.  `allocate` skips terminal leases and reads the first observation of a
resource; `reconcile` counts every lease that lists it and keeps the last
observation.  `reconcile_agrees_iff` says when the two views agree.
-/

namespace D2b

open List

namespace LocalRootAllocatorEngine

/-! ## what reconciliation sees -/

variable (e : LocalRootAllocatorEngine) (key : ResourceKey)

/-- Every listing of a resource in a lease. -/
def listed : List (AllocatorLease × GrantedHostResource) :=
  e.ledger.leases.flatMap fun lease => lease.resources.map fun resource => (lease, resource)

/-- The leases that list a resource, once for each listing. -/
def persistedFor : List PersistedResourceLease :=
  (e.listed.filter fun listing => decide (listing.2.key = key)).map fun listing =>
    listing.1.persisted

def observedFor : List ObservedHostResource :=
  e.observed.resources.filter fun observed => decide (observed.key = key)

/-- The state of the first observation, which allocation reads. -/
def firstState : ObservedResourceState := ((e.observedFor key).head?.map (·.state)).getD .missing

/-- The state of the last observation, which reconciliation keeps. -/
def lastState : ObservedResourceState := ((e.observedFor key).getLast?.map (·.state)).getD .missing

/-- The action reconciliation takes for a resource. -/
def actionFor : AllocatorReconciliationAction :=
  e.reconciliationAction key ⟨e.persistedFor key, (e.observedFor key).getLast?⟩

/-- No lease that is not terminal holds the resource. -/
def Free : Prop := ∀ lease ∈ e.ledger.leases, lease.state.isTerminal = false → key ∉ lease.keys

/-- Some request, under a key that is not recorded, would be granted the resource. -/
def WouldGrant : Prop :=
  ∃ request allocation e' lease,
    e.ledger.idempotencyRecord request.idempotencyKey = none ∧
    e.allocate request = some (allocation, e') ∧
    allocation.response.result = .granted lease ∧ key ∈ lease.keys

lemma actionFor_decision : ∃ observed,
      (e.actionFor key).decision = e.reconciliationDecision (e.persistedFor key) observed ∧
      observed.state = e.lastState key := by
  refine ⟨(e.observedFor key).getLast?.getD
    ⟨key.resourceId, key.kind, .allocatorLedger, .missing⟩, rfl, ?_⟩
  unfold lastState
  cases (e.observedFor key).getLast? <;> rfl

variable {e key}

/-- What a listing makes of its pair. -/
def pushListing (listing : AllocatorLease × GrantedHostResource) (pair : Option ResourcePair) :
    ResourcePair :=
  { ResourcePair.orDefault pair with
    persisted := (ResourcePair.orDefault pair).persisted ++ [listing.1.persisted] }

/-- What an observation makes of its pair. -/
def setObserved (observed : ObservedHostResource) (pair : Option ResourcePair) : ResourcePair :=
  { ResourcePair.orDefault pair with observed := some observed }

lemma foldl_pushListing (listings : List (AllocatorLease × GrantedHostResource)) :
    ∀ pair : ResourcePair,
      listings.foldl (fun pair listing => some (pushListing listing pair)) (some pair)
        = some ⟨pair.persisted ++ listings.map (fun listing => listing.1.persisted),
            pair.observed⟩ := by
  induction listings with
  | nil => intro pair; simp
  | cons listing listings ih =>
    intro pair
    rw [foldl_cons, ih]
    simp [pushListing, ResourcePair.orDefault]

lemma foldl_setObserved (observations : List ObservedHostResource) :
    ∀ pair : ResourcePair,
      observations.foldl (fun pair observed => some (setObserved observed pair)) (some pair)
        = some ⟨pair.persisted, observations.getLast?.or pair.observed⟩ := by
  induction observations with
  | nil => intro pair; rfl
  | cons observed observations ih =>
    intro pair
    rw [foldl_cons, ih, getLast?_cons]
    cases observations.getLast? <;> rfl

/-- The lease loops are one loop over all listings. -/
lemma foldl_addLease : e.ledger.leases.foldl addLease ∅ = e.listed.foldl (fun pairs listing =>
      pairs.insert listing.2.key (pushListing listing pairs[listing.2.key]?)) ∅ := by
  unfold listed
  rw [foldl_flatMap]
  simp only [foldl_map]
  rfl

/-- A resource that is listed or observed has a pair: all its listings, and its
last observation. -/
lemma get_resourcePairs : e.resourcePairs[key]? =
      if e.persistedFor key = [] ∧ e.observedFor key = [] then none
      else some ⟨e.persistedFor key, (e.observedFor key).getLast?⟩ := by
  have hpairs : e.resourcePairs[key]? = (e.observedFor key).foldl
      (fun pair observed => some (setObserved observed pair))
      ((e.listed.filter fun listing => decide (listing.2.key = key)).foldl
        (fun pair listing => some (pushListing listing pair)) none) := by
    unfold resourcePairs
    rw [foldl_addLease]
    refine (BTreeMap.get_foldl_insert (·.key) setObserved key _ _).trans ?_
    rw [BTreeMap.get_foldl_insert (fun listing => listing.2.key) pushListing key]
    rfl
  rw [hpairs]
  unfold persistedFor
  cases e.listed.filter fun listing => decide (listing.2.key = key) with
  | cons listing listings =>
    rw [foldl_cons, foldl_pushListing, foldl_setObserved]
    simp [pushListing, ResourcePair.orDefault]
  | nil =>
    cases e.observedFor key with
    | nil => rfl
    | cons observed observations =>
      rw [foldl_nil, foldl_cons, foldl_setObserved, getLast?_cons]
      cases hlast : observations.getLast? <;> simp [setObserved, ResourcePair.orDefault]

lemma lastState_of_unobserved (h : e.observedFor key = []) : e.lastState key = .missing := by
  unfold lastState
  rw [h]
  rfl

lemma mem_actions_iff :
    action ∈ (e.reconcile operationId correlationId).actions ↔
      ∃ key, (e.persistedFor key ≠ [] ∨ e.observedFor key ≠ []) ∧ action = e.actionFor key := by
  unfold reconcile
  simp only [mem_map, Prod.exists, BTreeMap.mem_toList, get_resourcePairs]
  constructor
  · rintro ⟨key, pair, hpair, rfl⟩
    by_cases hnone : e.persistedFor key = [] ∧ e.observedFor key = []
    · rw [if_pos hnone] at hpair
      contradiction
    · rw [if_neg hnone] at hpair
      cases hpair
      exact ⟨key, not_and_or.mp hnone, rfl⟩
  · rintro ⟨key, hsome, rfl⟩
    exact ⟨key, _, if_neg (not_and_or.mpr hsome), rfl⟩

/-! ## the decision table -/

lemma reconciliationDecision_eq_violation {observed : ObservedHostResource} :
    e.reconciliationDecision persisted observed = .quarantine .storageContractViolation ↔
      1 < persisted.length := by
  unfold reconciliationDecision
  by_cases hmany : persisted.length > 1
  · simp [hmany]
  · rw [if_neg hmany]
    refine iff_of_false ?_ hmany
    cases persisted.head? with
    | none => cases observed.state <;> simp
    | some lease =>
      dsimp only
      split
      · cases observed.state <;> simp
      · split
        · simp
        · cases observed.state <;> simp

/-- Where nothing live is persisted, only a missing resource is in order. -/
lemma reconciliationDecision_eq_reconcile {observed : ObservedHostResource}
    (hone : persisted.length ≤ 1) (hterminal : ∀ lease ∈ persisted, lease.state.isTerminal = true) :
    e.reconciliationDecision persisted observed = .reconcile ↔ observed.state = .missing := by
  unfold reconciliationDecision
  rw [if_neg (by omega)]
  cases persisted with
  | nil => cases observed.state <;> simp
  | cons lease rest =>
    have hstate := hterminal lease mem_cons_self
    simp only [head?_cons, hstate, if_true]
    cases observed.state <;> simp

/-! ## listings -/

lemma length_persistedFor :
    (e.persistedFor key).length = (e.ledger.leases.flatMap (·.keys)).count key := by
  have hkeys : e.ledger.leases.flatMap (·.keys) = e.listed.map fun listing => listing.2.key := by
    unfold listed
    rw [map_flatMap]
    simp only [map_map]
    rfl
  unfold persistedFor
  rw [hkeys, length_map, List.count, countP_map, countP_eq_length_filter]
  rfl

lemma terminal_of_free (hfree : e.Free key) :
    ∀ lease ∈ e.persistedFor key, lease.state.isTerminal = true := by
  intro persisted hmem
  obtain ⟨⟨lease, resource⟩, hlisting, rfl⟩ := mem_map.mp hmem
  obtain ⟨hlisted, hkey⟩ := mem_filter.mp hlisting
  obtain ⟨lease', hlease, hpair⟩ := mem_flatMap.mp hlisted
  obtain ⟨resource', hresource, heq⟩ := mem_map.mp hpair
  cases heq
  by_contra hlive
  refine hfree lease hlease (Bool.eq_false_iff.mpr hlive) ?_
  exact mem_map.mpr ⟨resource, hresource, by simpa using hkey⟩

/-! ## what allocation would grant -/

lemma observedConflict_eq_none :
    e.observedConflict resource = none ↔ e.firstState resource.resourceKey = .missing := by
  have hfind : (e.observed.resources.find? fun observed =>
      decide (observed.kind = resource.kind) && decide (observed.resourceId = resource.resourceId))
        = (e.observedFor resource.resourceKey).head? := by
    unfold observedFor
    rw [head?_filter]
    congr 1
    funext observed
    simp [ObservedHostResource.key, ResourceAcquisitionKey.resourceKey]
  unfold observedConflict firstState
  rw [hfind]
  cases (e.observedFor resource.resourceKey).head? with
  | none => simp
  | some observed => cases hstate : observed.state <;> simp [hstate]

/-- A request that passes every check is granted. -/
lemma granted_of_checks (request : LeaseAllocationRequest)
    (hleases : e.ledger.leases.length < 2 ^ 64)
    (hnone : e.ledger.idempotencyRecord request.idempotencyKey = none)
    (hlive : e.liveness.isLive request.owner = true) (hne : request.resources ≠ [])
    (hmax : request.resources.length ≤ maxAllocatorRequestResources)
    (hdup : hasDuplicateRequestedResources request = false)
    (hfree : e.allocationConflicts request = []) :
    ∃ allocation e' lease, e.allocate request = some (allocation, e') ∧
      allocation.response.result = .granted lease ∧
      lease.resources = grantResourcesInOrder request := by
  have hcall : e.allocate request = e.grantRequest request hdup := by
    unfold allocate
    simp [hnone, hlive, hne, hmax, hdup, hfree]
  obtain ⟨next, hnext⟩ := Option.isSome_iff_exists.mp
    (FakeAllocatorLedger.nextLeaseId_isSome hleases)
  unfold grantRequest at hcall
  rw [hnext, Option.map_some] at hcall
  exact ⟨_, _, _, hcall, rfl, rfl⟩

/-- Some key is in no record. -/
lemma exists_unrecorded_key {ledger : FakeAllocatorLedger}
    (h : ledger.idempotency.length < 2 ^ 64) :
    ∃ key : IdempotencyKey, ledger.idempotencyRecord key = none := by
  obtain ⟨i, -, hfresh⟩ := FakeAllocatorLedger.exists_candidate_not_mem
    (show (ledger.idempotency.map (·.key.asStr)).length < 2 ^ 64 by rwa [length_map]) 0
  let key : IdempotencyKey := ⟨_, FakeAllocatorLedger.leaseIdCandidate_valid rfl (0 + .ofNat i)⟩
  refine ⟨key, find?_eq_none.mpr fun record hmem hkey => hfresh ?_⟩
  have hkey : record.key = key := by simpa using hkey
  exact mem_map.mpr ⟨record, hmem, congrArg Id.asStr hkey⟩

def requestFor (owner : LeaseOwner) (idempotencyKey : IdempotencyKey) (key : ResourceKey) :
    LeaseAllocationRequest where
  operationId := ⟨"op-1", by decide⟩
  correlationId := ⟨"corr-1", by decide⟩
  idempotencyKey := idempotencyKey
  owner := owner
  resources := [⟨key.resourceId, key.kind, .exclusive, ⟨0, 0⟩⟩]
  trace := none

/-- A resource would be granted to a live owner exactly when no live lease holds
it and it is not known to exist. -/
lemma wouldGrant_iff (hleases : e.ledger.leases.length < 2 ^ 64)
    (hrecords : e.ledger.idempotency.length < 2 ^ 64) {key : ResourceKey} : e.WouldGrant key ↔
      e.liveness.liveOwners ≠ [] ∧ e.Free key ∧ e.firstState key = .missing := by
  constructor
  · rintro ⟨request, allocation, e', lease, hnone, hcall, hgranted, hkey⟩
    have houtcome := allocate_outcome hcall
    generalize allocation.response.result = result at hgranted houtcome
    generalize e'.ledger = ledger at houtcome
    cases houtcome with
    | replayed hrecord => rw [hnone] at hrecord; contradiction
    | mismatched | denied => contradiction
    | granted _ hlive hdup hfree =>
      cases hgranted
      obtain ⟨acquired, hmem, rfl⟩ := acquisitionKey_mem_of_granted hdup hkey
      obtain ⟨hpersisted, hobserved⟩ := conflictsFrom_eq_nil.mp hfree acquired hmem
      refine ⟨fun hempty => ?_, persistedConflict_eq_none.mp hpersisted,
        observedConflict_eq_none.mp hobserved⟩
      simp [FakeAllocatorLiveness.isLive, hempty] at hlive
  · rintro ⟨howners, hfree, hfirst⟩
    obtain ⟨owner, howner⟩ := exists_mem_of_ne_nil _ howners
    obtain ⟨idempotencyKey, hnone⟩ := exists_unrecorded_key hrecords
    have hconflicts : e.allocationConflicts (requestFor owner idempotencyKey key) = [] := by
      refine conflictsFrom_eq_nil.mpr fun acquired hacquired => ?_
      obtain rfl := mem_singleton.mp hacquired
      exact ⟨persistedConflict_eq_none.mpr hfree, observedConflict_eq_none.mpr hfirst⟩
    have hlive : e.liveness.isLive owner = true := by
      simpa [FakeAllocatorLiveness.isLive] using howner
    obtain ⟨allocation, e', lease, hcall, hgranted, hresources⟩ :=
      granted_of_checks (requestFor owner idempotencyKey key) hleases hnone hlive
        (by simp [requestFor]) (by simp [requestFor, maxAllocatorRequestResources]) rfl hconflicts
    refine ⟨_, allocation, e', lease, hnone, hcall, hgranted, ?_⟩
    have hdup : hasDuplicateRequestedResources (requestFor owner idempotencyKey key) = false := rfl
    have hlists := listsExactly_of_grantMatches (grantMatches_grantResourcesInOrder hdup)
    unfold AllocatorLease.keys
    rw [hresources]
    exact (hlists.exactly.map (·.key)).mem_iff.mpr (mem_singleton.mpr rfl)

/-! ## agreement -/

/-- Reconciliation never finds a resource leased twice, and finds in order what
allocation would grant. -/
structure ReconcileAgrees (e : LocalRootAllocatorEngine) : Prop where
  no_violation : ∀ operationId correlationId,
    ∀ action ∈ (e.reconcile operationId correlationId).actions,
      action.decision ≠ .quarantine .storageContractViolation
  granted_in_order : ∀ operationId correlationId,
    ∀ action ∈ (e.reconcile operationId correlationId).actions,
      e.WouldGrant ⟨action.kind, action.resourceId⟩ → action.decision = .reconcile

/-- Every resource with a listing or an observation has its action. -/
lemma actionFor_mem (h : e.persistedFor key ≠ [] ∨ e.observedFor key ≠ [])
    (operationId : OperationId) (correlationId : CorrelationId) :
    e.actionFor key ∈ (e.reconcile operationId correlationId).actions :=
  mem_actions_iff.mpr ⟨key, h, rfl⟩

lemma no_violation_iff :
    (∀ operationId correlationId, ∀ action ∈ (e.reconcile operationId correlationId).actions,
      action.decision ≠ .quarantine .storageContractViolation) ↔
      (e.ledger.leases.flatMap (·.keys)).Nodup := by
  rw [nodup_iff_count_le_one]
  constructor
  · intro h key
    rw [← length_persistedFor]
    by_contra hmany
    have hsome : e.persistedFor key ≠ [] := by
      intro hnil
      simp [hnil] at hmany
    obtain ⟨observed, hdecision, -⟩ := e.actionFor_decision key
    refine h ⟨"op-1", by decide⟩ ⟨"corr-1", by decide⟩ _ (actionFor_mem (.inl hsome) _ _) ?_
    rw [hdecision, reconciliationDecision_eq_violation]
    omega
  · intro h operationId correlationId action hmem hviolation
    obtain ⟨key, -, rfl⟩ := mem_actions_iff.mp hmem
    obtain ⟨observed, hdecision, -⟩ := e.actionFor_decision key
    rw [hdecision, reconciliationDecision_eq_violation, length_persistedFor] at hviolation
    exact absurd (h key) (by omega)

/-- A free resource that is listed at most once is in order exactly when its last
observation is missing. -/
lemma actionFor_eq_reconcile (honce : (e.ledger.leases.flatMap (·.keys)).Nodup)
    (hfree : e.Free key) :
    (e.actionFor key).decision = .reconcile ↔ e.lastState key = .missing := by
  have hone : (e.persistedFor key).length ≤ 1 := by
    rw [length_persistedFor]
    exact nodup_iff_count_le_one.mp honce key
  obtain ⟨observed, hdecision, hstate⟩ := e.actionFor_decision key
  rw [hdecision, reconciliationDecision_eq_reconcile hone (terminal_of_free hfree), hstate]

/-- The two views agree exactly when no resource is listed twice, by leases that
are terminal or not, and, while some owner is live, a free resource that is
first observed missing is last observed missing. -/
theorem reconcile_agrees_iff {e : LocalRootAllocatorEngine}
    (hleases : e.ledger.leases.length < 2 ^ 64)
    (hrecords : e.ledger.idempotency.length < 2 ^ 64) :
    e.ReconcileAgrees ↔
      (e.ledger.leases.flatMap (·.keys)).Nodup ∧
      (e.liveness.liveOwners ≠ [] → ∀ key, e.Free key → e.firstState key = .missing →
        e.lastState key = .missing) := by
  constructor
  · rintro ⟨hviolation, hgranted⟩
    have honce := no_violation_iff.mp hviolation
    refine ⟨honce, fun howners key hfree hfirst => ?_⟩
    by_cases hobserved : e.observedFor key = []
    · exact lastState_of_unobserved hobserved
    · have hmem := actionFor_mem (.inr hobserved) ⟨"op-1", by decide⟩ ⟨"corr-1", by decide⟩
      have hwould := (wouldGrant_iff hleases hrecords).mpr ⟨howners, hfree, hfirst⟩
      exact (actionFor_eq_reconcile honce hfree).mp (hgranted _ _ _ hmem hwould)
  · rintro ⟨honce, hlast⟩
    refine ⟨no_violation_iff.mpr honce, fun operationId correlationId action hmem hwould => ?_⟩
    obtain ⟨key, -, rfl⟩ := mem_actions_iff.mp hmem
    obtain ⟨howners, hfree, hfirst⟩ := (wouldGrant_iff hleases hrecords).mp hwould
    exact (actionFor_eq_reconcile honce hfree).mpr (hlast howners key hfree hfirst)

open Sample in
theorem reconcile_agrees_iff_held : (engine [lease .granted bridge]).ReconcileAgrees := by
  refine (reconcile_agrees_iff (by decide) (by decide)).mpr ⟨by decide, fun _ key _ _ => ?_⟩
  exact lastState_of_unobserved rfl

open Sample in
/-- Re-granting a reclaimed bridge leaves an exclusive ledger that reconciliation
takes for a contract violation; and a bridge that is observed missing and
then present is granted, but not in order. -/
theorem exists_reconcile_disagreement :
    (∃ e event e', Exclusive e.ledger.leases ∧ Step [] e event e' ∧ Exclusive e'.ledger.leases ∧
      ∃ action ∈ (e'.reconcile ⟨"op-2", by decide⟩ ⟨"corr-2", by decide⟩).actions,
        action.decision = .quarantine .storageContractViolation) ∧
    (∃ e event e', Exclusive e.ledger.leases ∧ Step [] e event e' ∧
      event.after.leases ≠ event.before.leases ∧
      ∃ action ∈ (e.reconcile ⟨"op-2", by decide⟩ ⟨"corr-2", by decide⟩).actions,
        action.decision = .preserve .resourceConflict ∧
        event.request.resources.map (·.resourceId) = [action.resourceId]) := by
  constructor
  · have hstep := step_call [] (engine [lease .reclaimed bridge]) (by decide) ⟨[]⟩ ⟨[second]⟩
      (request second (key "key-1" (by decide)) [bridge])
    exact ⟨_, _, _, by decide, hstep, by decide +kernel, by decide +kernel⟩
  · have hstep := step_call [] observedTwice (by decide) observedTwice.observed
      observedTwice.liveness (request first (key "key-1" (by decide)) [bridge])
    exact ⟨_, _, _, by decide, hstep, by decide +kernel, by decide +kernel⟩

end LocalRootAllocatorEngine

end D2b

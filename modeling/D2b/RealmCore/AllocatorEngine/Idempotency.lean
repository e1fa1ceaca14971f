import D2b.RealmCore.AllocatorEngine.Runs

/-!
# D2b.RealmCore.AllocatorEngine.Idempotency

An idempotency key stands for its first call.  Over every run from a fresh
ledger the ledger remembers, for each key, the request and the result of the
first call with it (`remembers_of_run`); so a retry gets that result and any
other request with the key is refused, both without touching the ledger.
-/

namespace D2b

open List Option

/-- Same owner and same resources, in any order. -/
def SameRequest (a b : LeaseAllocationRequest) : Prop :=
  a.owner = b.owner ∧ a.resources.Perm b.resources

instance (a b : LeaseAllocationRequest) : Decidable (SameRequest a b) :=
  inferInstanceAs (Decidable (_ ∧ _))

lemma LeaseResourceRequest.signature_injective : Function.Injective signature := by
  rintro ⟨id, kind, share, order⟩ ⟨id', kind', share', order'⟩ h
  simp only [signature, acquisitionKey, RequestedResourceSignature.mk.injEq,
    ResourceAcquisitionKey.mk.injEq] at h
  obtain ⟨⟨rfl, rfl, rfl⟩, rfl⟩ := h
  rfl

/-- The sorted signature forgets the order of the resources and nothing else. -/
lemma fromRequest_eq_iff :
    AllocationRequestSignature.fromRequest a = .fromRequest b ↔ SameRequest a b := by
  unfold AllocationRequestSignature.fromRequest SameRequest
  rw [AllocationRequestSignature.mk.injEq]
  refine and_congr_right fun _ => ?_
  constructor
  · intro h
    have ha := perm_insertionSort (· ≤ ·) (a.resources.map (·.signature))
    have hb := perm_insertionSort (· ≤ ·) (b.resources.map (·.signature))
    exact (map_perm_map_iff LeaseResourceRequest.signature_injective).mp (ha.symm.trans (h ▸ hb))
  · intro h
    refine List.Perm.eq_of_sortedLE sortedLE_insertionSort sortedLE_insertionSort ?_
    exact (perm_insertionSort _ _).trans ((h.map _).trans (perm_insertionSort _ _).symm)

namespace LocalRootAllocatorEngine

/-- A ledger as it is created: any leases, nothing remembered. -/
def IsFresh (e : LocalRootAllocatorEngine) : Prop := ∃ leases, e.ledger = .new leases

/-- The first call of a history with a key. -/
def firstCall (history : List Event) (key : IdempotencyKey) : Option Event :=
  history.find? fun event => decide (event.request.idempotencyKey = key)

def Event.added (event : Event) : List AllocatorLease :=
  event.after.leases.drop event.before.leases.length

/-- For each key, the ledger remembers the first call with it. -/
def Remembers (ledger : FakeAllocatorLedger) (history : List Event) : Prop :=
  ∀ key, (ledger.idempotencyRecord key).map (fun record => (record.signature, record.result))
    = (firstCall history key).map fun event => (.fromRequest event.request, event.result)

/-! ## one call -/

variable {e : LocalRootAllocatorEngine}

/-- A call with a recorded key leaves the ledger and answers from the record; a
first call with its key records what it answers and adds at most one lease. -/
lemma Outcome.known_or_first {ledger : FakeAllocatorLedger}
    (h : e.Outcome request result ledger) :
    (∃ record, e.ledger.idempotencyRecord request.idempotencyKey = some record ∧
      ledger = e.ledger ∧
      result = if record.signature = .fromRequest request then record.result
        else .denied .invalidRequest []) ∨
    (e.ledger.idempotencyRecord request.idempotencyKey = none ∧ ∃ record leases,
      ledger.idempotency = e.ledger.idempotency ++ [record] ∧
      record.key = request.idempotencyKey ∧ record.signature = .fromRequest request ∧
      record.result = result ∧ ledger.leases = e.ledger.leases ++ leases ∧ leases.length ≤ 1) := by
  cases h with
  | @replayed record hrecord hsignature =>
    exact .inl ⟨record, hrecord, rfl, by rw [if_pos hsignature]⟩
  | @mismatched record hrecord hsignature =>
    exact .inl ⟨record, hrecord, rfl, by rw [if_neg hsignature]⟩
  | @denied record _ _ hnone hkey hsignature hresult =>
    exact .inr ⟨hnone, record, [], rfl, hkey, hsignature, hresult, by
      simp [FakeAllocatorLedger.rememberIdempotency], by simp⟩
  | @granted record _ _ hnone _ _ _ _ hkey hsignature hresult =>
    exact .inr ⟨hnone, record, _, rfl, hkey, hsignature, hresult, rfl, by simp⟩

/-! ## what is remembered -/

lemma firstCall_append (history : List Event) :
    firstCall (history ++ [event]) key
      = (firstCall history key).or
        (if event.request.idempotencyKey = key then some event else none) := by
  unfold firstCall
  rw [find?_append, find?_singleton]
  simp

lemma idempotencyRecord_append {ledger ledger' : FakeAllocatorLedger}
    (h : ledger'.idempotency = ledger.idempotency ++ [record]) :
    ledger'.idempotencyRecord key
      = (ledger.idempotencyRecord key).or (if record.key = key then some record else none) := by
  unfold FakeAllocatorLedger.idempotencyRecord
  rw [h, find?_append, find?_singleton]
  simp

variable {history : List Event} {event : Event}

lemma remembers_step (hstep : Step history e event e') (hremembers : Remembers e.ledger history) :
    Remembers e'.ledger (history ++ [event]) := by
  obtain ⟨engine, hengine, houtcome⟩ := step_outcome hstep
  rw [← hstep.2.1, ← hengine] at hremembers
  rw [← hstep.2.2]
  intro key
  rw [firstCall_append]
  have hkey := hremembers key
  rcases houtcome.known_or_first with ⟨record, hrecord, hafter, -⟩ |
    ⟨hnone, record, leases, happend, hrkey, hsignature, hresult, -, -⟩
  · rw [hafter, hkey]
    cases hfirst : firstCall history key with
    | some first => rfl
    | none =>
      -- a key without a first call has no record, so the call's key is another one
      rw [hfirst, map_none, map_eq_none_iff] at hkey
      have hne : event.request.idempotencyKey ≠ key := by
        rintro rfl
        rw [hkey] at hrecord
        contradiction
      rw [if_neg hne]
      rfl
  · rw [idempotencyRecord_append happend, map_or, map_or, hkey, hrkey]
    by_cases hthis : event.request.idempotencyKey = key
    · rw [if_pos hthis, if_pos hthis, map_some, map_some, hsignature, hresult]
    · rw [if_neg hthis, if_neg hthis]
      rfl

lemma remembers_of_run (hrun : Trace.Run IsFresh Step history e) :
    Remembers e.ledger history := by
  apply hrun.invariant
  · rintro e ⟨leases, he⟩ key
    rw [he]
    rfl
  · intro history e event e' _ hremembers hstep
    exact remembers_step hstep hremembers

/-! ## retries -/

/-- What a call does when its key was used before. -/
lemma retry_of_run (hrun : Trace.Run IsFresh Step earlier e) (hstep : Step earlier e event e')
    (hfirst : firstCall earlier event.request.idempotencyKey = some first) :
    event.after = event.before ∧
      event.result = if SameRequest first.request event.request then first.result
        else .denied .invalidRequest [] := by
  obtain ⟨engine, hengine, houtcome⟩ := step_outcome hstep
  have hkey := remembers_of_run hrun event.request.idempotencyKey
  rw [← hstep.2.1, ← hengine, hfirst, map_some] at hkey
  rcases houtcome.known_or_first with ⟨record, hrecord, hafter, hresult⟩ | ⟨hnone, -⟩
  · rw [hrecord, map_some, Option.some.injEq, Prod.mk.injEq] at hkey
    refine ⟨hafter.trans hengine, ?_⟩
    rw [hresult, hkey.1, hkey.2]
    simp only [fromRequest_eq_iff]
  · rw [hnone] at hkey
    contradiction

/-- A first call adds at most one lease; any other none. -/
lemma added_of_step (hstep : Step history e event e') :
    event.after.leases = event.before.leases ++ event.added ∧ event.added.length ≤ 1 := by
  obtain ⟨engine, hengine, houtcome⟩ := step_outcome hstep
  have happend : ∃ leases, event.after.leases = event.before.leases ++ leases ∧
      leases.length ≤ 1 := by
    rw [← hengine]
    rcases houtcome.known_or_first with ⟨_, _, hafter, _⟩ |
      ⟨_, _, leases, _, _, _, _, hleases, hlen⟩
    · exact ⟨[], by rw [hafter, append_nil], by simp⟩
    · exact ⟨leases, hleases, hlen⟩
  obtain ⟨leases, hleases, hlen⟩ := happend
  have hadded : event.added = leases := by
    unfold Event.added
    rw [hleases, drop_left]
  rw [hadded]
  exact ⟨hleases, hlen⟩

/-- The leases that calls with one key add. -/
def addedFor (key : IdempotencyKey) (history : List Event) : List AllocatorLease :=
  (history.filter fun event => decide (event.request.idempotencyKey = key)).flatMap Event.added

lemma addedFor_eq_nil (h : firstCall history key = none) : addedFor key history = [] := by
  unfold addedFor firstCall at *
  rw [find?_eq_none] at h
  rw [filter_eq_nil_iff.mpr h]
  rfl

lemma length_addedFor_le_one (hrun : Trace.Run IsFresh Step history e) (key : IdempotencyKey) :
    (addedFor key history).length ≤ 1 := by
  apply hrun.invariant
  · intro _ _
    simp [addedFor]
  · intro history e event e' hbefore hle hstep
    obtain ⟨hadded, hone⟩ := added_of_step hstep
    unfold addedFor at hle ⊢
    rw [filter_append, flatMap_append, length_append]
    by_cases hkey : event.request.idempotencyKey = key
    · cases hfirst : firstCall history key with
      | none =>
        have hnil := addedFor_eq_nil hfirst
        unfold addedFor at hnil
        simpa [hnil, hkey] using hone
      | some first =>
        subst hkey
        have hsame := (retry_of_run hbefore hstep hfirst).1
        have hnone : event.added = [] := by simp [Event.added, hsame]
        simpa [hnone] using hle
    · simpa [hkey] using hle

/-- An idempotency key stands for its first call: a later call with the key gets
the first result if it asks for the same, is refused if it does not, and
changes neither leases nor records; all calls with the key add at most one
lease.  Every call returns. -/
theorem allocate_idempotent {history : List Event} {e : LocalRootAllocatorEngine}
    (hrun : Trace.Run IsFresh Step history e) :
    (∀ earlier event later first, history = earlier ++ event :: later →
      firstCall earlier event.request.idempotencyKey = some first →
        event.after = event.before ∧
        (SameRequest first.request event.request → event.result = first.result) ∧
        (¬SameRequest first.request event.request → event.result = .denied .invalidRequest [])) ∧
    (∀ event ∈ history, event.after.leases = event.before.leases ++ event.added) ∧
    (∀ key, (addedFor key history).length ≤ 1) ∧
    (e.ledger.leases.length < 2 ^ 64 → ∀ observed liveness request,
      ({ e with observed, liveness }.allocate request).isSome = true) := by
  refine ⟨?_, ?_, length_addedFor_le_one hrun, ?_⟩
  · intro earlier event later first hsplit hfirst
    obtain ⟨s, s', hbefore, hstep⟩ := hrun.split hsplit
    obtain ⟨hledger, hresult⟩ := retry_of_run hbefore hstep hfirst
    refine ⟨hledger, fun hsame => ?_, fun hother => ?_⟩
    · rw [hresult, if_pos hsame]
    · rw [hresult, if_neg hother]
  · intro event hmem
    obtain ⟨earlier, later, hsplit⟩ := append_of_mem hmem
    obtain ⟨s, s', -, hstep⟩ := hrun.split hsplit
    exact (added_of_step hstep).1
  · intro hlen observed liveness request
    exact allocate_isSome (e := { e with observed, liveness }) hlen request

open Sample in
/-- A retry in another order after the owner died, and the key reused for less. -/
theorem allocate_idempotent_retry : ∃ history e, Trace.Run IsFresh Step history e ∧
    history.map (fun event => event.added.length) = [1, 0, 0] ∧
    ∀ key, (addedFor key history).length ≤ 1 := by
  have hstart : Trace.Run IsFresh Step [] (engine []) := .nil ⟨[], rfl⟩
  have hrun := ((hstart.snoc (step_call _ _ (by decide) ⟨[]⟩ ⟨[first]⟩
      (request first (key "key-1" (by decide)) [tap, bridge]))).snoc
    (step_call _ _ (by decide +kernel) ⟨[]⟩ ⟨[]⟩
      (request first (key "key-1" (by decide)) [bridge, tap]))).snoc
    (step_call _ _ (by decide +kernel) ⟨[]⟩ ⟨[first]⟩
      (request first (key "key-1" (by decide)) [bridge]))
  exact ⟨_, _, hrun, by decide +kernel, (allocate_idempotent hrun).2.2.1⟩

end LocalRootAllocatorEngine

end D2b

import D2b.Lib.DedupLife
import D2b.RealmRouter.OperationRouter

/-!
# D2b.RealmRouter.OperationRouter.AtMostOnce

Runs of the router under a clock that does not go back.  For every dedup key
the record of the key lives the life of `D2b.Lib.DedupLife`, whatever happens
to other keys: each step of the router is one of its moves (`moves_of_step`).
So a mutating operation is accepted again under a key only after the accepted
attempt failed, or long after it completed, and a replay returns what the
accepted attempt left.  The table stays within its limit (`dedup_bounded`).
-/

namespace D2b.RealmRouter

/-- The dedup key of a request, if it carries an idempotency key. -/
def dedupKey (req : OperationRequest) : Option DedupKey :=
  req.idempotencyKey.map (DedupKey.forRequest req)

/-- A call of the router with what it returned. -/
inductive Event where
  | routed (now : Nat) (req : OperationRequest) (sessionPrincipal : PrincipalId)
      (capabilities : CapabilitySet) (decision : RouteDecision)
  | markedCompleted (now : Nat) (req : OperationRequest) (result : OpaquePayload) (found : Bool)
  | markedFailed (now : Nat) (req : OperationRequest) (found : Bool)
  | collected (now : Nat)

namespace Event

/-- The clock at the call. -/
def now : Event → Nat
  | routed now .. | markedCompleted now .. | markedFailed now .. | collected now => now

/-- The call accepted a mutating operation under the key: its fingerprint and
operation id. -/
def accepted (k : DedupKey) : Event → Option (List UInt8 × OperationId)
  | routed _ req _ _ (.accept _) =>
    if req.kind.isMutating = true ∧ dedupKey req = some k then
      some (req.dedupFingerprintInput, req.operationId)
    else none
  | _ => none

/-- The call marked the operation of the key completed: its fingerprint and
result. -/
def completed (k : DedupKey) : Event → Option (List UInt8 × OpaquePayload)
  | markedCompleted _ req result true =>
    if dedupKey req = some k then some (req.dedupFingerprintInput, result) else none
  | _ => none

/-- The call marked the operation of the key failed. -/
def failed (k : DedupKey) : Event → Bool
  | markedFailed _ req true => decide (dedupKey req = some k)
  | _ => false

/-- The fingerprint of the operation that the call marked failed. -/
def failedWith (k : DedupKey) : Event → Option (List UInt8)
  | markedFailed _ req true =>
    if dedupKey req = some k then some req.dedupFingerprintInput else none
  | _ => none

lemma failed_of_failedWith {e : Event} (h : e.failedWith k = some fingerprint) :
    e.failed k = true := by
  unfold failedWith at h
  split at h
  · next req =>
      by_cases hkey : dedupKey req = some k
      · simp [failed, hkey]
      · rw [if_neg hkey] at h
        contradiction
  · contradiction

end Event

namespace OperationRouter

/-- The call takes the router from `r` to `r'`. -/
def Performs (r : OperationRouter) (e : Event) (r' : OperationRouter) : Prop :=
  match e with
  | .routed now req principal capabilities decision =>
    r.routeWithCapabilities now req principal capabilities = (decision, r')
  | .markedCompleted now req result found => r.markCompleted now req result = (found, r')
  | .markedFailed _ req found => r.markFailed req = (found, r')
  | .collected now => r.gcAt now = r'

/-- A call, no earlier than the calls before it. -/
def Step (h : List Event) (r : OperationRouter) (e : Event) (r' : OperationRouter) : Prop :=
  (∀ e' ∈ h, e'.now ≤ e.now) ∧ r.Performs e r'

/-- The limits of a router; no call changes them. -/
def HasLimits (retention horizon : Nat) (r : OperationRouter) : Prop :=
  r.retention = retention ∧ r.noReuseHorizon = horizon

/-- A router without records. -/
def IsNew (retention horizon : Nat) (r : OperationRouter) : Prop :=
  r.retention = retention ∧ r.noReuseHorizon = horizon ∧ r.dedup = ∅

/-! ## what a call does -/

section

variable (r : OperationRouter) (now : Nat) (req : OperationRequest)

/-- What routing a request can decide and do. -/
inductive Routed : RouteDecision → OperationRouter → Prop
  | refused (haccept : ∀ scope, decision ≠ .accept scope)
      (hreplay : ∀ id result, decision ≠ .replay id result) : Routed decision r
  | read (h : req.kind.isMutating = false) : Routed (.accept scope) r
  | full : Routed .dedupCapacityExceeded (r.gcAt now)
  | taken {k : DedupKey} {scope} (hmutating : req.kind.isMutating = true)
      (hkey : dedupKey req = some k) (hfree : r.dedup[k]? = none) :
      Routed (.accept scope)
        { r.gcAt now with
          dedup := (r.gcAt now).dedup.insert k
            ⟨req.dedupFingerprintInput, req.operationId, .inProgress now⟩ }
  | aged {k : DedupKey} {entry : DedupEntry} {result since} (hget : r.dedup[k]? = some entry)
      (hstate : entry.state = .completed result since)
      (hage : since + r.retention < now) :
      Routed .idempotencyKeyExpired
        { r with dedup := r.dedup.modify k fun entry => { entry with state := .expired now } }
  | replayed {k : DedupKey} {entry : DedupEntry} {result since} (hkey : dedupKey req = some k)
      (hget : r.dedup[k]? = some entry)
      (hstate : entry.state = .completed result since)
      (hsame : entry.fingerprint = req.dedupFingerprintInput) :
      Routed (.replay entry.originalOperationId result) r

lemma mutating_of_operationRoutePlan (h : operationRoutePlan kind = some plan) :
    plan.mutating = kind.isMutating := by
  cases kind <;> cases h <;> rfl

lemma routed_routeKeyed (hkey : req.idempotencyKey = some key)
    (hmutating : req.kind.isMutating = true) (scope : AuthorizationScope) :
    Routed r now req (r.routeKeyed now req key scope).1 (r.routeKeyed now req key scope).2 := by
  have hdedup : dedupKey req = some (DedupKey.forRequest req key) := by rw [dedupKey, hkey]; rfl
  simp only [routeKeyed]
  cases hget : r.dedup[DedupKey.forRequest req key]? with
  | none =>
    by_cases hfull : (r.gcAt now).dedup.size ≥ (r.gcAt now).maxDedupRecords
    · rw [if_pos hfull]
      exact .full
    · rw [if_neg hfull]
      exact .taken hmutating hdedup hget
  | some entry =>
    cases hstate : entry.state with
    | inProgress since =>
      by_cases hsame : entry.fingerprint ≠ req.dedupFingerprintInput
      · simp only [hstate, if_pos hsame]
        exact .refused (by simp) (by simp)
      · simp only [hstate, if_neg hsame]
        exact .refused (by simp) (by simp)
    | completed result since =>
      by_cases hage : now - since > r.retention
      · simp only [hstate, if_pos hage]
        exact .aged hget hstate (by omega)
      · by_cases hsame : entry.fingerprint ≠ req.dedupFingerprintInput
        · simp only [hstate, if_neg hage, if_pos hsame]
          exact .refused (by simp) (by simp)
        · simp only [hstate, if_neg hage, if_neg hsame]
          exact .replayed hdedup hget hstate (not_not.mp hsame)
    | expired since =>
      simp only [hstate]
      exact .refused (by simp) (by simp)

lemma routed_routeWithCapabilities (principal : PrincipalId) (capabilities : CapabilitySet) :
    Routed r now req (r.routeWithCapabilities now req principal capabilities).1
      (r.routeWithCapabilities now req principal capabilities).2 := by
  unfold routeWithCapabilities
  by_cases hprincipal : req.principal ≠ principal
  · rw [if_pos hprincipal]
    exact .refused (by simp) (by simp)
  rw [if_neg hprincipal]
  cases hplan : operationRoutePlan req.kind with
  | none => exact .refused (by simp) (by simp)
  | some plan =>
    have hmutating := mutating_of_operationRoutePlan hplan
    dsimp only
    by_cases hworkload : (plan.requiresWorkload && req.workload.isNone) = true
    · rw [if_pos hworkload]
      exact .refused (by simp) (by simp)
    rw [if_neg hworkload]
    cases plan.missingCapability capabilities with
    | some capability => exact .refused (by simp) (by simp)
    | none =>
      cases hread : plan.mutating with
      | false => exact .read (hmutating.symm.trans hread)
      | true =>
        cases hkey : req.idempotencyKey with
        | none => exact .refused (by simp) (by simp)
        | some key =>
          exact routed_routeKeyed r now req hkey (hmutating.symm.trans hread) _

lemma routed_of_performs {r : OperationRouter} {now : Nat} {req : OperationRequest}
    (h : r.Performs (.routed now req principal capabilities decision) r') :
    Routed r now req decision r' := by
  have hrouted := routed_routeWithCapabilities r now req principal capabilities
  have hcall : r.routeWithCapabilities now req principal capabilities = (decision, r') := h
  rwa [hcall] at hrouted

lemma runsFor_iff :
    runsFor entry req = true ↔
      (∃ since, entry.state = .inProgress since) ∧
      entry.fingerprint = req.dedupFingerprintInput := by
  unfold runsFor
  cases entry.state <;> simp

/-- The record of the request that runs under its key. -/
def Runs (k : DedupKey) (entry : DedupEntry) : Prop :=
  dedupKey req = some k ∧ r.dedup[k]? = some entry ∧
  (∃ since, entry.state = .inProgress since) ∧ entry.fingerprint = req.dedupFingerprintInput

lemma terminalize_cases (table : DedupKey → BTreeMap DedupKey DedupEntry) :
    r.terminalize req table = (false, r) ∨
    ∃ k entry, Runs r req k entry ∧
      r.terminalize req table = (true, { r with dedup := table k }) := by
  unfold terminalize
  cases hkey : req.idempotencyKey with
  | none => exact .inl rfl
  | some key =>
    dsimp only
    cases hget : r.dedup[DedupKey.forRequest req key]? with
    | none => exact .inl rfl
    | some entry =>
      by_cases hruns : runsFor entry req = true
      · refine .inr ⟨_, entry, ⟨?_, hget, (runsFor_iff req).mp hruns⟩, if_pos hruns⟩
        rw [dedupKey, hkey]
        rfl
      · exact .inl (if_neg hruns)

end

/-! ## the life of a key -/

end OperationRouter

/-- What the calls mean for a dedup key. -/
def reading (k : DedupKey) : DedupLife.Reading Event (List UInt8) OperationId OpaquePayload where
  time := Event.now
  accepted := Event.accepted k
  completed := Event.completed k
  failed := Event.failedWith k

def DedupState.life : DedupState → DedupLife.State OpaquePayload
  | inProgress _ => .inProgress
  | completed result since => .completed result since
  | expired since => .expired since

def DedupEntry.life (entry : DedupEntry) : DedupLife.Entry (List UInt8) OperationId OpaquePayload :=
  ⟨entry.fingerprint, entry.originalOperationId, entry.state.life⟩

namespace OperationRouter

def life (r : OperationRouter) (k : DedupKey) :
    Option (DedupLife.Entry (List UInt8) OperationId OpaquePayload) :=
  r.dedup[k]?.map DedupEntry.life

section

variable (r : OperationRouter) (k : DedupKey)

lemma life_eq_none (h : r.dedup[k]? = none) : r.life k = none := by rw [life, h]; rfl

lemma life_eq_some {entry : DedupEntry} (h : r.dedup[k]? = some entry) :
    r.life k = some entry.life := by rw [life, h]; rfl

lemma get_gcAt (now : Nat) :
    (r.gcAt now).dedup[k]? =
      (r.dedup[k]?.map (age r.retention now)).filter (keeps r.noReuseHorizon now) := by
  unfold gcAt
  rw [BTreeMap.get_filter, Std.ExtTreeMap.getElem?_map]

/-- Collection is an idle move of every key. -/
lemma moves_gcAt {e : Event} (hidle : e.accepted k = none) :
    DedupLife.Moves (reading k) r.retention r.noReuseHorizon e (r.life k)
      ((r.gcAt e.now).life k) := by
  have hgc := r.get_gcAt k e.now
  cases hget : r.dedup[k]? with
  | none =>
    rw [hget] at hgc
    rw [life_eq_none r k hget, life_eq_none _ k hgc]
    exact .stays hidle
  | some entry =>
    rw [hget, Option.map_some] at hgc
    rw [life_eq_some r k hget]
    obtain ⟨fingerprint, operationId, state⟩ := entry
    cases state with
    | inProgress since =>
      rw [life_eq_some _ k hgc]
      exact .stays hidle
    | completed result since =>
      by_cases hage : e.now - since > r.retention
      · -- the tombstone is as old as the clock, so the collection keeps it
        have hkeeps : keeps r.noReuseHorizon e.now
            ⟨fingerprint, operationId, .expired e.now⟩ = true := by simp [keeps]
        simp only [age, if_pos hage, Option.filter_some, hkeeps, if_true] at hgc
        rw [life_eq_some _ k hgc]
        exact .expires hidle rfl (by show since + r.retention < e.now; omega)
      · simp only [age, if_neg hage] at hgc
        rw [life_eq_some _ k hgc]
        exact .stays hidle
    | expired since =>
      by_cases hkept : e.now - since ≤ r.noReuseHorizon
      · simp only [age, Option.filter_some, keeps, hkept, decide_true, if_true] at hgc
        rw [life_eq_some _ k hgc]
        exact .stays hidle
      · simp only [age, Option.filter_some, keeps, hkept, decide_false] at hgc
        rw [life_eq_none _ k hgc]
        exact .drops hidle rfl (by show since + r.noReuseHorizon < e.now; omega)

variable {r k}

lemma accepted_eq_none (h : ∀ scope, decision ≠ .accept scope) :
    (Event.routed now req principal capabilities decision).accepted k = none := by
  cases decision with
  | accept scope => exact absurd rfl (h scope)
  | _ => rfl

/-- Updating the record of another key is no move. -/
lemma life_modify_of_ne (h : k' ≠ k) (f : DedupEntry → DedupEntry) :
    { r with dedup := r.dedup.modify k' f }.life k = r.life k := by
  simp [life, BTreeMap.get_modify, h]

lemma life_modify_self (hget : r.dedup[k]? = some entry) (f : DedupEntry → DedupEntry) :
    { r with dedup := r.dedup.modify k f }.life k = some (f entry).life := by
  simp [life, hget]

lemma Routed.moves {now : Nat} {capabilities : CapabilitySet} {decision : RouteDecision}
    (h : Routed r now req decision r') :
    DedupLife.Moves (reading k) r.retention r.noReuseHorizon
      (.routed now req principal capabilities decision) (r.life k) (r'.life k) := by
  cases h with
  | refused haccept => exact .stays (accepted_eq_none haccept)
  | read hread => exact .stays (by simp [reading, Event.accepted, hread])
  | full =>
    exact moves_gcAt r k (e := .routed now req principal capabilities .dedupCapacityExceeded) rfl
  | @taken k' scope hmutating hkey hfree =>
    by_cases hk : k' = k
    · subst hk
      rw [life_eq_none r k' hfree, life_eq_some _ k' (BTreeMap.get_insert_self _ _ _)]
      exact .accepts (by simp [reading, Event.accepted, hmutating, hkey])
    · have hlife : { r.gcAt now with
          dedup := (r.gcAt now).dedup.insert k'
            ⟨req.dedupFingerprintInput, req.operationId, .inProgress now⟩ }.life k
            = (r.gcAt now).life k := by
        simp [life, BTreeMap.get_insert_of_ne _ _ hk]
      rw [hlife]
      exact moves_gcAt r k (e := .routed now req principal capabilities (.accept scope))
        (by simp [Event.accepted, hkey, hk])
  | @aged k' entry result since hget hstate hage =>
    by_cases hk : k' = k
    · subst hk
      rw [life_eq_some r k' hget, life_modify_self hget]
      exact .expires rfl (by rw [DedupEntry.life, hstate]; rfl) hage
    · rw [life_modify_of_ne hk]
      exact .stays rfl
  | replayed => exact .stays rfl

lemma moves_markedCompleted {now : Nat} {found : Bool}
    (h : r.markCompleted now req result = (found, r')) :
    DedupLife.Moves (reading k) r.retention r.noReuseHorizon
      (.markedCompleted now req result found) (r.life k) (r'.life k) := by
  rcases terminalize_cases r req _ with hsame | ⟨k', entry, ⟨hkey, hget, hruns, hfp⟩, hmarked⟩
  · cases h.symm.trans hsame
    exact .stays rfl
  cases h.symm.trans hmarked
  by_cases hk : k' = k
  · subst hk
    obtain ⟨since, hstate⟩ := hruns
    rw [life_eq_some r k' hget, life_modify_self hget]
    exact .completes rfl (by rw [DedupEntry.life, hstate]; rfl)
      (by simp [reading, Event.completed, hkey, DedupEntry.life, hfp])
  · rw [life_modify_of_ne hk]
    exact .stays rfl

lemma moves_markedFailed {now : Nat} (h : r.markFailed req = (found, r')) :
    DedupLife.Moves (reading k) r.retention r.noReuseHorizon
      (.markedFailed now req found) (r.life k) (r'.life k) := by
  rcases terminalize_cases r req _ with hsame | ⟨k', entry, ⟨hkey, hget, hruns, hfp⟩, hmarked⟩
  · cases h.symm.trans hsame
    exact .stays rfl
  cases h.symm.trans hmarked
  by_cases hk : k' = k
  · subst hk
    obtain ⟨since, hstate⟩ := hruns
    rw [life_eq_some r k' hget, life_eq_none _ k' (by simp)]
    exact .fails rfl (by rw [DedupEntry.life, hstate]; rfl)
      (by simp [reading, Event.failedWith, hkey, DedupEntry.life, hfp])
  · have hlife : { r with dedup := r.dedup.erase k' }.life k = r.life k := by
      simp [life, BTreeMap.get_erase, hk]
    rw [hlife]
    exact .stays rfl

/-- Every call moves the life of every key. -/
lemma moves_of_performs {e : Event} (h : r.Performs e r') :
    DedupLife.Moves (reading k) r.retention r.noReuseHorizon e (r.life k) (r'.life k) := by
  cases e with
  | routed now req principal capabilities decision =>
    exact (routed_of_performs h).moves
  | markedCompleted now req result found => exact moves_markedCompleted h
  | markedFailed now req found => exact moves_markedFailed h
  | collected now =>
    cases h
    exact moves_gcAt r k (e := .collected now) rfl

end

/-! ## runs -/

section

variable {retention horizon : Nat}

variable {r : OperationRouter}

lemma terminalize_limits {req : OperationRequest} {found : Bool}
    (h : r.terminalize req table = (found, r')) :
    r'.retention = r.retention ∧ r'.noReuseHorizon = r.noReuseHorizon := by
  rcases terminalize_cases r req table with hsame | ⟨k, entry, -, hmarked⟩
  · cases h.symm.trans hsame
    exact ⟨rfl, rfl⟩
  · cases h.symm.trans hmarked
    exact ⟨rfl, rfl⟩

lemma Performs.limits {e : Event} (h : r.Performs e r') :
    r'.retention = r.retention ∧ r'.noReuseHorizon = r.noReuseHorizon := by
  cases e with
  | routed now req principal capabilities decision =>
    cases routed_of_performs h <;> exact ⟨rfl, rfl⟩
  | markedCompleted _ _ _ _ | markedFailed _ _ _ => exact terminalize_limits h
  | collected now =>
    cases h
    exact ⟨rfl, rfl⟩

section

variable {init : OperationRouter → Prop} (hinit : ∀ r, init r → HasLimits retention horizon r)
include hinit

lemma limits_of_run (run : Trace.Run init Step h r) : HasLimits retention horizon r := by
  refine run.invariant (I := fun _ => HasLimits retention horizon) hinit ?_
  rintro h r e r' - ⟨hretention, hhorizon⟩ ⟨-, hperforms⟩
  obtain ⟨hretention', hhorizon'⟩ := hperforms.limits
  exact ⟨hretention'.trans hretention, hhorizon'.trans hhorizon⟩

/-- A step of the router after a run is a step of the life of every key. -/
lemma life_step (k : DedupKey) (run : Trace.Run init Step h r) (hstep : Step h r e r') :
    DedupLife.Step (reading k) retention horizon h (r.life k) e (r'.life k) := by
  obtain ⟨hclock, hperforms⟩ := hstep
  obtain ⟨hretention, hhorizon⟩ := limits_of_run hinit run
  have hmoves := moves_of_performs (k := k) hperforms
  rw [hretention, hhorizon] at hmoves
  exact ⟨hclock, hmoves⟩

/-- A run of the router is a run of the life of every key. -/
lemma life_run (k : DedupKey) (hinit' : ∀ r, init r → init' (r.life k))
    (run : Trace.Run init Step h r) :
    Trace.Run init' (DedupLife.Step (reading k) retention horizon) h (r.life k) :=
  run.map (f := fun r => r.life k) hinit' fun _ _ _ _ => life_step hinit k

end

lemma IsNew.hasLimits (r : OperationRouter) (h : IsNew retention horizon r) :
    HasLimits retention horizon r := ⟨h.1, h.2.1⟩

lemma IsNew.life_run (k : DedupKey) (run : Trace.Run (IsNew retention horizon) Step h r) :
    Trace.Run (· = none) (DedupLife.Step (reading k) retention horizon) h (r.life k) := by
  refine OperationRouter.life_run IsNew.hasLimits k ?_ run
  rintro r ⟨-, -, hempty⟩
  rw [life, hempty]
  simp

/-- A replay reads a completed record of the request. -/
lemma completed_of_replay {now : Nat} {principal : PrincipalId} {capabilities : CapabilitySet}
    {id : OperationId}
    (h : r.Performs (.routed now req principal capabilities (.replay id result)) r') :
    ∃ k entry since, dedupKey req = some k ∧ r.life k = some entry ∧
      entry.fingerprint = req.dedupFingerprintInput ∧ entry.owner = id ∧
      entry.state = .completed result since := by
  cases routed_of_performs h with
  | refused _ hreplay => exact absurd rfl (hreplay id result)
  | @replayed k entry _ since hkey hget hstate hsame =>
    exact ⟨k, entry.life, since, hkey, life_eq_some _ k hget, hsame, rfl,
      by rw [DedupEntry.life, hstate]; rfl⟩

/-- A mutating operation is accepted at most once under a dedup key: a second
acceptance has a failure of the first between them, or comes after the first
was completed and both the retention and the no-reuse horizon have passed
since.  And a replay returns the operation id of the accepted attempt that has
the fingerprint of the request, with the payload it was completed with. -/
theorem accepted_at_most_once {h : List Event} {r : OperationRouter}
    (run : Trace.Run (IsNew retention horizon) Step h r) :
    (∀ (k : DedupKey) (h₁ h₂ h₃ : List Event) (a b : Event)
      (first second : List UInt8 × OperationId),
      h = h₁ ++ a :: h₂ ++ b :: h₃ → a.accepted k = some first → b.accepted k = some second →
      (∃ f ∈ h₂, f.failed k = true) ∨
      ∃ (m₁ m₂ : List Event) (c : Event) (result : OpaquePayload), h₂ = m₁ ++ c :: m₂ ∧
        (∀ e ∈ m₁, e.accepted k = none) ∧ c.completed k = some (first.1, result) ∧
        c.now + retention + horizon < b.now) ∧
    ∀ (h₁ h₂ : List Event) now req principal capabilities id result,
      h = h₁ ++ .routed now req principal capabilities (.replay id result) :: h₂ →
      ∃ (k : DedupKey) (m₁ m₂ : List Event) (a c : Event),
        dedupKey req = some k ∧ h₁ = m₁ ++ a :: m₂ ∧
        a.accepted k = some (req.dedupFingerprintInput, id) ∧
        (∀ e ∈ m₂, e.accepted k = none) ∧ c ∈ m₂ ∧
        c.completed k = some (req.dedupFingerprintInput, result) := by
  constructor
  · intro k h₁ h₂ h₃ a b first second heq ha hb
    obtain ⟨s, s', hrun, hstep⟩ := run.split heq
    rcases DedupLife.at_most_once (IsNew.life_run k hrun)
      (life_step IsNew.hasLimits k hrun hstep) ha hb with
      ⟨m₁, f, m₂, rfl, -, hfailed⟩ | ⟨m₁, c, m₂, result, hsplit, hidle, hcompleted, hlate⟩
    · exact .inl ⟨f, by simp, Event.failed_of_failedWith hfailed⟩
    · exact .inr ⟨m₁, m₂, c, result, hsplit, hidle, hcompleted, hlate⟩
  · intro h₁ h₂ now req principal capabilities id result heq
    obtain ⟨s, s', hrun, -, hperforms⟩ := run.split heq
    obtain ⟨k, entry, since, hkey, hlife, hfp, howner, hstate⟩ := completed_of_replay hperforms
    have hkeyed := IsNew.life_run k hrun
    rw [hlife] at hkeyed
    obtain ⟨m₁, a, m₂, c, rfl, ha, hidle, hc, hcompleted⟩ :=
      DedupLife.completed_backed hkeyed hstate
    rw [hfp, howner] at ha
    rw [hfp] at hcompleted
    exact ⟨k, m₁, m₂, a, c, hkey, rfl, ha, hidle, hc, hcompleted⟩

/-! ## the bound of the table -/

def Bounded (r : OperationRouter) : Prop := r.dedup.size ≤ r.maxDedupRecords

lemma Bounded.gcAt (h : r.Bounded) (now : Nat) : (r.gcAt now).Bounded :=
  (BTreeMap.size_filter_le _ _).trans (Std.ExtTreeMap.size_map.trans_le h)

lemma Bounded.routeKeyed (h : r.Bounded) : (r.routeKeyed now req key scope).2.Bounded := by
  have hgc := h.gcAt now
  grind [OperationRouter.routeKeyed, Bounded, BTreeMap.size_insert]

lemma Bounded.terminalize (h : r.Bounded) (htable : ∀ k, (table k).size ≤ r.dedup.size) :
    (r.terminalize req table).2.Bounded := by
  grind [OperationRouter.terminalize, Bounded]

lemma Bounded.performs (h : r.Bounded) (hperforms : r.Performs e r') : r'.Bounded := by
  cases e with
  | routed now req principal capabilities decision =>
    have hkeyed := @h.routeKeyed
    grind [Performs, routeWithCapabilities]
  | markedCompleted now req result found =>
    cases congrArg Prod.snd hperforms
    exact h.terminalize fun k => Std.ExtTreeMap.size_modify.le
  | markedFailed now req found =>
    cases congrArg Prod.snd hperforms
    exact h.terminalize fun k => Std.ExtTreeMap.size_erase_le
  | collected now => exact hperforms ▸ h.gcAt now

/-- The table never outgrows its limit, whatever is routed. -/
theorem dedup_bounded {h : List Event} (run : Trace.Run (IsNew retention horizon) Step h r) :
    r.dedup.size ≤ r.maxDedupRecords := by
  refine run.invariant (I := fun _ => Bounded) (fun r hnew => ?_) ?_
  · simp [Bounded, hnew.2.2]
  · intro _ _ _ _ _ hbounded hstep
    exact hbounded.performs hstep.2

end

namespace Sample

def register : OperationRequest where
  operationId := SmallRealm.operation
  correlationId := SmallRealm.correlation
  idempotencyKey := some ⟨"key-1", by decide⟩
  realm := SmallRealm.work
  node := ⟨"node-1", by decide⟩
  workload := none
  principal := ⟨"alice", by decide⟩
  kind := .nodeRegister
  body := ⟨[1, 2], by decide⟩
  trace := none

def payload : OpaquePayload := ⟨[3], by decide⟩

def routed (now : Nat) (decision : RouteDecision) : Event :=
  .routed now register register.principal .empty decision

/-- The registration is completed and replayed; then its record ages into a
tombstone, and the tombstone is dropped. -/
def aging : List Event :=
  [.markedCompleted 1 register payload true, routed 5 (.replay register.operationId payload),
    .collected 12, .collected 33]

/-- Around its aging, the key is taken twice. -/
def readmission : List Event :=
  routed 0 (.accept .enrollment) :: aging ++ [routed 40 (.accept .enrollment)]

variable (r : OperationRouter)

lemma performs_routed (now : Nat) (decision : RouteDecision)
    (h : (r.routeWithCapabilities now register register.principal .empty).1 = decision) :
    r.Performs (routed now decision)
      (r.routeWithCapabilities now register register.principal .empty).2 :=
  Prod.ext h rfl

lemma performs_markedCompleted (now : Nat) (h : (r.markCompleted now register payload).1 = true) :
    r.Performs (.markedCompleted now register payload true)
      (r.markCompleted now register payload).2 :=
  Prod.ext h rfl

lemma performs_collected (now : Nat) : r.Performs (.collected now) (r.gcAt now) := rfl

lemma run_readmission : ∃ r, Trace.Run (IsNew 10 20) Step readmission r := by
  have start : Trace.Run (IsNew 10 20) Step [] ⟨10, 20, 4, ∅⟩ := .nil ⟨rfl, rfl, rfl⟩
  have accepted := start.snoc
    ⟨by decide, performs_routed _ 0 (.accept .enrollment) (by decide +kernel)⟩
  have completed := accepted.snoc ⟨by decide, performs_markedCompleted _ 1 (by decide +kernel)⟩
  have replayed := completed.snoc
    ⟨by decide, performs_routed _ 5 (.replay register.operationId payload) (by decide +kernel)⟩
  have aged := replayed.snoc ⟨by decide, performs_collected _ 12⟩
  have dropped := aged.snoc ⟨by decide, performs_collected _ 33⟩
  exact ⟨_, dropped.snoc
    ⟨by decide, performs_routed _ 40 (.accept .enrollment) (by decide +kernel)⟩⟩

end Sample

open Sample in
theorem accepted_at_most_once_readmission : ∃ (r : OperationRouter) (k : DedupKey),
    Trace.Run (IsNew 10 20) Step readmission r ∧
    ((∃ f ∈ aging, f.failed k = true) ∨
      ∃ (m₁ m₂ : List Event) (c : Event) (result : OpaquePayload), aging = m₁ ++ c :: m₂ ∧
        (∀ e ∈ m₁, e.accepted k = none) ∧
        c.completed k = some (register.dedupFingerprintInput, result) ∧ c.now + 10 + 20 < 40) ∧
    ∃ (k : DedupKey) (m₁ m₂ : List Event) (a c : Event),
      dedupKey register = some k ∧ readmission.take 2 = m₁ ++ a :: m₂ ∧
      a.accepted k = some (register.dedupFingerprintInput, register.operationId) ∧
      (∀ e ∈ m₂, e.accepted k = none) ∧ c ∈ m₂ ∧
      c.completed k = some (register.dedupFingerprintInput, payload) := by
  obtain ⟨r, run⟩ := run_readmission
  refine ⟨r, DedupKey.forRequest register ⟨"key-1", by decide⟩, run, ?_, ?_⟩
  · exact (accepted_at_most_once run).1 _ [] aging [] (routed 0 (.accept .enrollment))
      (routed 40 (.accept .enrollment)) (register.dedupFingerprintInput, register.operationId)
      (register.dedupFingerprintInput, register.operationId) rfl rfl rfl
  · exact (accepted_at_most_once run).2 (readmission.take 2) (readmission.drop 3) 5 register
      register.principal .empty register.operationId payload rfl

open Sample in
theorem dedup_bounded_readmission : ∃ r, Trace.Run (IsNew 10 20) Step readmission r ∧
    r.dedup.size ≤ r.maxDedupRecords := by
  obtain ⟨r, run⟩ := run_readmission
  exact ⟨r, run, dedup_bounded run⟩

end OperationRouter

end D2b.RealmRouter

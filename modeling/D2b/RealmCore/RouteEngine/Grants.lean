import D2b.RealmCore.RouteDecision
import D2b.RealmCore.RouteEngine.Runs

/-!
# D2b.RealmCore.RouteEngine.Grants

Where the capabilities of a route decision come from.

Every capability the engine holds for a realm was granted by an accepted
admission, but not always for as long as the entry lives: a route that only
passes through a child keeps the capabilities of the child's live entry and
gives the entry its own expiry (`stagedCapabilities`).  The grant can then
run out before the entry does (`exists_run_allowing_stale_grant`).  In runs
where no transit route extends an entry beyond the grants it inherits, an
allowed decision is always covered by a grant that has not expired
(`allowed_of_live_grant`).
-/

namespace D2b

open Option

namespace RouteTreeEngine

/-- The admission grants `c` to `target`: its ceiling has it, and `target` is
the advertising realm or the descendant of a route that carries it. -/
def Admission.Grants (a : Admission) (target : RealmPath) (c : Capability) : Prop :=
  a.2.capabilityCeiling.has c = true ∧
    (target = a.1.advertisement.advertisingRealm ∨
      ∃ route ∈ a.1.advertisement.routes,
        route.descendant = target ∧ route.capabilities.has c = true)

instance (a : Admission) (target : RealmPath) (c : Capability) : Decidable (a.Grants target c) :=
  inferInstanceAs (Decidable (_ ∧ (_ ∨ _)))

section

variable (history : List Event)

/-- Some accepted admission grants `c` to `target` until `expiresAt` or later. -/
def GrantedUntil (target : RealmPath) (c : Capability) (expiresAt : Nat) : Prop :=
  ∃ a ∈ acceptedIn history, a.Grants target c ∧ expiresAt ≤ a.1.advertisement.expiresAtUnixSeconds

variable (e : RouteTreeEngine)

/-- What has to hold of an admission so that it keeps no grant alive: whatever
a child would inherit was granted to it for as long as the advertisement
lives. -/
def InheritsLiveGrants (envelope : RouteAdvertisementEnvelope) : Prop :=
  ∀ child c, Inherits e envelope envelope.advertisement.routes child c →
    GrantedUntil history child c envelope.advertisement.expiresAtUnixSeconds

/-- A step whose admission, if it is one, keeps no grant alive. -/
def GrantSafeStep (event : Event) (e' : RouteTreeEngine) : Prop :=
  e.Step event e' ∧ ∀ envelope allocation admission,
    event = .admitted envelope allocation admission → InheritsLiveGrants history e envelope

/-! ## the invariant -/

/-- Every capability of the engine is covered by a grant as long as its entry
lives. -/
structure Covered : Prop where
  parent : ∀ child entry, e.parents[child]? = some entry → ∀ c,
    entry.capabilities.has c = true → GrantedUntil history child c entry.expiresAtUnixSeconds
  route : ∀ descendant entry, e.routes[descendant]? = some entry → ∀ c,
    entry.capabilities.has c = true → GrantedUntil history descendant c entry.expiresAtUnixSeconds

end

section

lemma GrantedUntil.snoc (h : GrantedUntil history target c expiresAt) (event : Event) :
    GrantedUntil (history ++ [event]) target c expiresAt := by
  obtain ⟨a, ha, hgrant⟩ := h
  refine ⟨a, ?_, hgrant⟩
  rw [acceptedIn_snoc]
  exact List.mem_append_left _ ha

/-- The admission that makes the event covers what it grants itself. -/
lemma grantedUntil_self (haccepted : event.accepted? = some (envelope, allocation))
    (hceiling : allocation.capabilityCeiling.has c = true)
    (htarget : target = envelope.advertisement.advertisingRealm ∨
      ∃ route ∈ envelope.advertisement.routes,
        route.descendant = target ∧ route.capabilities.has c = true) :
    GrantedUntil (history ++ [event]) target c envelope.advertisement.expiresAtUnixSeconds := by
  refine ⟨(envelope, allocation), ?_, ⟨hceiling, htarget⟩, le_refl _⟩
  rw [acceptedIn_snoc, haccepted]
  exact List.mem_concat_self

section

variable {event : Event}
  (hst : StagedFor e envelope allocation envelope.advertisement.routes staged)
  (haccepted : event.accepted? = some (envelope, allocation))
include hst haccepted

/-- Staged parent entries are covered. -/
lemma grantedUntil_of_parentUpdate (hlive : InheritsLiveGrants history e envelope)
    (hentry : staged.parentUpdates[child]? = some entry) (hc : entry.capabilities.has c = true) :
    GrantedUntil (history ++ [event]) child c entry.expiresAtUnixSeconds := by
  have hupd := hst.parent child entry hentry
  rw [hupd.expires]
  rcases hupd.granted c hc with ⟨hrealm, hceiling⟩ | ⟨route, hroute, hdesc, hcap⟩ | hinherits
  · exact grantedUntil_self haccepted hceiling (.inl hrealm)
  · have hceiling := CapabilitySet.has_of_isSubsetOf (hst.checked route hroute).bounded hcap
    exact grantedUntil_self haccepted hceiling (.inr ⟨route, hroute, hdesc, hcap⟩)
  · exact (hlive child c hinherits).snoc event

/-- Staged route entries are covered. -/
lemma grantedUntil_of_routeUpdate (hentry : staged.routeUpdates[descendant]? = some entry)
    (hc : entry.capabilities.has c = true) :
    GrantedUntil (history ++ [event]) descendant c entry.expiresAtUnixSeconds := by
  obtain ⟨-, hexpires, -, route, hroute, hdesc, -, hcaps⟩ := hst.route descendant entry hentry
  rw [hexpires]
  rw [hcaps] at hc
  have hceiling := CapabilitySet.has_of_isSubsetOf (hst.checked route hroute).bounded hc
  exact grantedUntil_self haccepted hceiling (.inr ⟨route, hroute, hdesc, hc⟩)

end

/-- One step keeps the invariant. -/
lemma Covered.step (hinv : Covered history e) (hstep : GrantSafeStep history e event e') :
    Covered (history ++ [event]) e' := by
  obtain ⟨hstep, hlive⟩ := hstep
  rcases step_cases hstep with ⟨-, -, rfl⟩ | ⟨-, rfl⟩ |
    ⟨envelope, allocation, staged, haccepted, hstage, rfl⟩
  · exact ⟨fun child entry hget c hc => (hinv.parent child entry hget c hc).snoc event,
      fun descendant entry hget c hc => (hinv.route descendant entry hget c hc).snoc event⟩
  · refine ⟨fun child entry hget c hc => ?_, fun descendant entry hget c hc => ?_⟩
    · exact (hinv.parent child entry (pruneExpired_parents.mp hget).1 c hc).snoc event
    · exact (hinv.route descendant entry (pruneExpired_routes.mp hget).1 c hc).snoc event
  · obtain ⟨-, hst, -⟩ := stageAdvertisement_ok hstage
    obtain ⟨admission, hevent⟩ := admitted_of_accepted? haccepted
    have hsafe := hlive _ _ _ hevent
    refine ⟨fun child entry hget c hc => ?_, fun descendant entry hget c hc => ?_⟩
    · rcases commit_parents_of_get hget with hnew | hold
      · exact grantedUntil_of_parentUpdate hst haccepted hsafe hnew hc
      · exact (hinv.parent child entry hold c hc).snoc event
    · rcases commit_routes_of_get hget with hnew | hold
      · exact grantedUntil_of_routeUpdate hst haccepted hnew hc
      · exact (hinv.route descendant entry hold c hc).snoc event

end

lemma covered_of_run (hrun : Trace.Run IsNew GrantSafeStep history e) : Covered history e := by
  refine hrun.invariant ?_ fun _ _ _ _ _ hinv hstep => hinv.step hstep
  rintro e (⟨_, _, rfl⟩ | ⟨_, _, _, _, _, rfl⟩)
  · exact ⟨by simp [new], by simp [new]⟩
  · exact ⟨by simp [withCapacityLimits], by simp [withCapacityLimits]⟩

/-- What the engine says a realm can do is granted to it now. -/
lemma Covered.live_grant (hinv : Covered history e) (htarget : target ≠ e.localRoot)
    (h : e.targetHasCapabilityAt target c now = true) :
    ∃ a ∈ acceptedIn history, now < a.1.advertisement.expiresAtUnixSeconds ∧ a.Grants target c := by
  unfold targetHasCapabilityAt at h
  rw [if_neg htarget] at h
  cases hroute : e.routeEntryAt target now with
  | some entry =>
    simp only [hroute, map_some, some_or, getD_some] at h
    obtain ⟨hget, hexp⟩ := filter_eq_some_iff.mp hroute
    rw [Bool.not_eq_true', isExpired_eq_false] at hexp
    obtain ⟨a, ha, hgrant, hle⟩ := hinv.route target entry hget c h
    exact ⟨a, ha, Nat.lt_of_lt_of_le hexp hle, hgrant⟩
  | none =>
    cases hparent : e.parentEntryAt target now with
    | none => simp [hroute, hparent] at h
    | some entry =>
      simp only [hroute, hparent, map_some, map_none, none_or, getD_some] at h
      obtain ⟨hget, hexp⟩ := filter_eq_some_iff.mp hparent
      rw [Bool.not_eq_true', isExpired_eq_false] at hexp
      obtain ⟨a, ha, hgrant, hle⟩ := hinv.parent target entry hget c h
      exact ⟨a, ha, Nat.lt_of_lt_of_le hexp hle, hgrant⟩

/-! ## decisions -/

/-- An allowed decision that requires a capability of a realm other than the
root is covered by an accepted admission that has not expired, whose ceiling
has the capability, and which granted it to that realm. -/
theorem allowed_of_live_grant {history : List Event} {e : RouteTreeEngine}
    (hrun : Trace.Run IsNew GrantSafeStep history e) {now : Nat} {decisionId : OperationId}
    {correlationId : CorrelationId} {trace : Option TraceContext}
    {sourceRealm targetRealm : RealmPath} {operationKind : OperationKind}
    {policyRuleId : Option RoutePolicyRuleId} {path : TreeRoutePath} {c : Capability}
    (hallowed : (e.decideRouteAt now decisionId correlationId trace sourceRealm targetRealm
      operationKind policyRuleId).1.outcome = .allowed path)
    (hcap : operationKind.requiredCapability = some c) (htarget : targetRealm ≠ e.localRoot) :
    ∃ a ∈ acceptedIn history, now < a.1.advertisement.expiresAtUnixSeconds ∧
      a.Grants targetRealm c :=
  (covered_of_run hrun).live_grant htarget (targetHasCapabilityAt_of_allowed hallowed hcap)

namespace Sample

open SmallRealm

/-- The way from the root down to `workApps`. -/
def pathToApps : TreeRoutePath :=
  ⟨root, workApps, root,
    [⟨root, work, ⟨root, work⟩, .downToChild, none⟩,
      ⟨work, workApps, ⟨work, workApps⟩, .downToChild, some routeId⟩]⟩

/-- The decision to start a workload in `workApps`. -/
def startInApps (e : RouteTreeEngine) (now : Nat) : TreeRouteDecisionOutcome :=
  (e.decideRouteAt now operation correlation none root workApps
    .workloadStart none).1.outcome

/-- The route to `workApps`, received at time 1. -/
def grantCall (expiresAt : Nat) : Call :=
  .advertise ⟨advertisement work workApps lifecycle 1 expiresAt, 1⟩ (allocation work lifecycle)

end Sample

open SmallRealm Sample in
/-- One advertisement, and a decision while it lives. -/
theorem allowed_of_live_grant_apps : ∃ history e, Trace.Run IsNew GrantSafeStep history e ∧
    startInApps e 5 = .allowed pathToApps ∧
    ∃ a ∈ acceptedIn history, 5 < a.1.advertisement.expiresAtUnixSeconds ∧
      a.Grants workApps .lifecycle := by
  have hnew : IsNew (new root .hostLocal) := .inl ⟨_, _, rfl⟩
  have hstep : GrantSafeStep [] (new root .hostLocal)
      ((new root .hostLocal).call (grantCall 10)).1
      ((new root .hostLocal).call (grantCall 10)).2 := by
    refine ⟨step_call _ _, fun _ _ _ _ child c hinherits => ?_⟩
    obtain ⟨entry, hentry, -⟩ := hinherits.live
    simp [parentEntryAt, new] at hentry
  have hrun := Trace.Run.snoc (.nil hnew) hstep
  have hallowed : startInApps ((new root .hostLocal).call (grantCall 10)).2 5 =
      .allowed pathToApps := by decide +kernel
  exact ⟨_, _, hrun, hallowed, allowed_of_live_grant hrun hallowed rfl (by decide)⟩

open SmallRealm Sample in
/-- The route to `workApps` expires at time 10; at time 2 an advertisement
without any capability passes through `workApps` and keeps its entry until
time 100.  At time 50 no live admission grants anything, and the decision is
still allowed. -/
theorem exists_run_allowing_stale_grant : ∃ history e,
    Trace.Run IsNew (fun _ => Step) history e ∧
    (history.map Event.time).Pairwise (· ≤ ·) ∧ (∀ event ∈ history, event.time ≤ 50) ∧
    startInApps e 50 = .allowed pathToApps ∧
    OperationKind.workloadStart.requiredCapability = some .lifecycle ∧ workApps ≠ e.localRoot ∧
    ¬ ∃ a ∈ acceptedIn history, 50 < a.1.advertisement.expiresAtUnixSeconds ∧
      a.Grants workApps .lifecycle := by
  have hnew : IsNew (new root .hostLocal) := .inl ⟨_, _, rfl⟩
  have hrun := run_exec hnew
    [ grantCall 10,
      .advertise ⟨advertisement work workAppsDb .empty 2 100, 2⟩ (allocation work .empty) ]
  exact ⟨_, _, hrun, by decide +kernel, by decide +kernel, by decide +kernel, rfl,
    by decide +kernel, by decide +kernel⟩

end RouteTreeEngine

end D2b

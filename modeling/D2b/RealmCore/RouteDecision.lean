import D2b.RealmCore.RouteEngine

/-!
# D2b.RealmCore.RouteDecision

The route decision of the tree-route engine: the path from source to target
over live tree edges, up to the nearest common ancestor and down again, and
the capability check at the target.
-/

namespace D2b.RouteTreeEngine

/-- The hops from `current` up to `ancestor`.  Each hop's edge is checked to
lose exactly one label, so as many turns as `current` has labels are enough
(`climbHops_fuel`). -/
def climbHops (e : RouteTreeEngine) (now : Nat) (ancestor : RealmPath) :
    Nat → List RealmPath → RealmPath → Except RouteFailClosedReason (List TreeRouteHop)
  | 0, _, _ => .error .loop
  | fuel + 1, seen, current =>
    if current = ancestor then .ok []
    else if current ∈ seen then .error .loop
    else match e.parentEntryAt current now with
    | none => .error .unknownParent
    | some entry =>
      if entry.parent ∈ current :: seen then .error .loop
      else
        let hop? := (RealmTreeEdge.new entry.parent current).bind fun edge =>
          TreeRouteHop.new current entry.parent edge .upToParent entry.routeId
        match hop? with
        | none => .error .malformedAdvert
        | some hop => do
          let rest ← climbHops e now ancestor fuel (current :: seen) entry.parent
          pure (hop :: rest)

/-- Climbing has fuel enough: more of it gives the same hops. -/
lemma climbHops_fuel (e : RouteTreeEngine) :
    ∀ (fuel : Nat) (seen : List RealmPath) (current : RealmPath), current.labels.length ≤ fuel →
      e.climbHops now ancestor (fuel + extra) seen current =
        e.climbHops now ancestor fuel seen current := by
  intro fuel
  induction fuel with
  | zero =>
    intro seen current hlen
    exact absurd (List.eq_nil_of_length_eq_zero (Nat.le_zero.mp hlen)) current.labels_ne_nil
  | succ fuel ih =>
    intro seen current hlen
    rw [Nat.add_right_comm]
    unfold climbHops
    split
    · rfl
    split
    · rfl
    cases hentry : e.parentEntryAt current now with
    | none => rfl
    | some entry =>
      simp only
      split
      · rfl
      cases hedge : RealmTreeEdge.new entry.parent current with
      | none => rfl
      | some edge =>
        -- the edge says that the parent has one label less
        have hdirect : current.isDirectChildOf entry.parent = true := by
          by_contra hno
          simp [RealmTreeEdge.new, hno] at hedge
        obtain ⟨label, hlabels⟩ := RealmPath.isDirectChildOf_iff.mp hdirect
        have hparent : entry.parent.labels.length ≤ fuel := by
          rw [hlabels, List.length_cons] at hlen
          omega
        simp only [ih (current :: seen) entry.parent hparent]

/-- The hops from `current` down along `labels`, nearest label first. -/
def descendHops (e : RouteTreeEngine) (now : Nat) :
    List RealmId → RealmPath → Except RouteFailClosedReason (List TreeRouteHop)
  | [], _ => .ok []
  | label :: labels, current =>
    match childWithLabel current label with
    | none => .error .malformedAdvert
    | some child =>
      match e.parentEntryAt child now with
      | none => .error .unknownParent
      | some entry =>
        if entry.parent ≠ current then .error .multiParent
        else
          let hop? := (RealmTreeEdge.new current child).bind fun edge =>
            TreeRouteHop.new current child edge .downToChild entry.routeId
          match hop? with
          | none => .error .malformedAdvert
          | some hop => do
            let rest ← descendHops e now labels child
            pure (hop :: rest)

/-- The tree path between two known realms over live edges. -/
def buildPathAt (e : RouteTreeEngine) (source target : RealmPath) (now : Nat) :
    Except RouteFailClosedReason TreeRoutePath :=
  if !e.isKnownRealmAt source now || !e.isKnownRealmAt target now then .error .unknownParent
  else match nearestCommonAncestor source target with
  | none => .error .unknownParent
  | some ancestor => do
    let up ← e.climbHops now ancestor source.labels.length [] source
    let branchLabels := target.labels.take (target.labels.length - ancestor.labels.length)
    let down ← e.descendHops now branchLabels.reverse ancestor
    match TreeRoutePath.new source target ancestor (up ++ down) with
    | none => .error .malformedAdvert
    | some path => .ok path

/-- Decide the tree path at a verifier-supplied time, ignoring entries whose
advertisements have expired. -/
def decideRouteAt (e : RouteTreeEngine) (now : Nat) (decisionId : OperationId)
    (correlationId : CorrelationId) (trace : Option TraceContext)
    (sourceRealm targetRealm : RealmPath) (operationKind : OperationKind)
    (policyRuleId : Option RoutePolicyRuleId) : TreeRouteDecision × RouteEngineEvent :=
  let requiredCapability := operationKind.requiredCapability
  let outcome : TreeRouteDecisionOutcome :=
    match e.buildPathAt sourceRealm targetRealm now with
    | .error reason => .denied reason
    | .ok path =>
      if requiredCapability.any fun capability =>
          !e.targetHasCapabilityAt targetRealm capability now then
        .denied .missingCapability
      else .allowed path
  let reason := match outcome with
    | .allowed _ => none
    | .denied reason => some reason
  (⟨decisionId, correlationId, trace, sourceRealm, targetRealm, operationKind, requiredCapability,
      policyRuleId, outcome⟩,
    routeEvent
      (if reason.isSome then .routeDenied else .routeAllowed)
      (if reason.isSome then .routeDecisionDeniedCount else .routeDecisionAllowedCount)
      operationKind reason policyRuleId e.placement (e.classForAt sourceRealm now)
      (e.classForAt targetRealm now) 1)

/-- An allowed decision has the capability it requires at the target. -/
lemma targetHasCapabilityAt_of_allowed {e : RouteTreeEngine}
    (hallowed : (e.decideRouteAt now decisionId correlationId trace sourceRealm targetRealm
      operationKind policyRuleId).1.outcome = .allowed path)
    (hcap : operationKind.requiredCapability = some c) :
    e.targetHasCapabilityAt targetRealm c now = true := by
  unfold decideRouteAt at hallowed
  cases hpath : e.buildPathAt sourceRealm targetRealm now with
  | error reason => simp [hpath] at hallowed
  | ok p =>
    by_contra hno
    rw [Bool.not_eq_true] at hno
    simp [hpath, hcap, hno] at hallowed

end D2b.RouteTreeEngine

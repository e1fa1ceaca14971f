import D2b.Lib.Fallible
import D2b.Lib.Run
import D2b.RealmCore.RouteEngine

/-!
# D2b.RealmCore.RouteEngine.Admission

What an admission that got through its checks has staged.

The two staging functions are taken apart once (`stageParentEdge_ok`,
`stageRouteEntry_ok`).  The loop over the routes then keeps `StagedFor`, which
says of each staged entry where it comes from; `stageAdvertisement_ok` is the
inversion of the whole admission, and the only lemma the results about runs
use.
-/

namespace D2b

open Fallible BTreeMap List Option

attribute [local simp] Except.toOption

/-! ## paths below a realm -/

variable {child : RealmPath}

lemma childWithLabel_eq_some :
    childWithLabel parent label = some child ↔ child.labels = label :: parent.labels :=
  RealmPath.new_eq_some

variable {descendant : RealmPath}

/-- The child below `ancestor` on the way to `descendant` is named by the
label just below `ancestor`. -/
lemma directChildBelow_eq_some : directChildBelow descendant ancestor = some child ↔
      ∃ label, nextHopChild descendant ancestor = some label ∧
        child.labels = label :: ancestor.labels := by
  unfold directChildBelow
  rw [bind_eq_some_iff]
  simp only [childWithLabel_eq_some]

lemma isDirectChildOf_of_directChildBelow
    (h : directChildBelow descendant ancestor = some child) :
    child.isDirectChildOf ancestor = true := by
  obtain ⟨label, -, hlabels⟩ := directChildBelow_eq_some.mp h
  exact RealmPath.isDirectChildOf_iff.mpr ⟨label, hlabels⟩

lemma directChildBelow_self (h : child.isDirectChildOf ancestor = true) :
    directChildBelow child ancestor = some child := by
  obtain ⟨label, hlabels⟩ := RealmPath.isDirectChildOf_iff.mp h
  refine directChildBelow_eq_some.mpr ⟨label, ?_, hlabels⟩
  simp [nextHopChild, hlabels]

lemma nextHopChild_of_directChildBelow (h : directChildBelow descendant ancestor = some child)
    (hhop : child.labels.head? = some hop) : nextHopChild descendant ancestor = some hop := by
  obtain ⟨label, hlabel, hlabels⟩ := directChildBelow_eq_some.mp h
  rw [hlabels, head?_cons] at hhop
  rw [hlabel, hhop]

/-! ## the staging functions -/

/-- The loop check has fuel enough: more of it gives the same answer. -/
lemma wouldFormLoop_fuel (parents parentUpdates : BTreeMap RealmPath ParentEntry)
    (parent child : RealmPath) (now extra : Nat) :
    Climb.climbsTo
        (fun realm => (parentEntryWithUpdatesAt parents parentUpdates realm now).map (·.parent))
        child (parents.size + parentUpdates.size + 1 + extra) [] parent =
      wouldFormLoopWithUpdates parents parentUpdates parent child now := by
  -- every realm with an entry is a key of one of the two maps
  refine Climb.climbsTo_fuel (parents.keys ++ parentUpdates.keys) ?_ extra _ _ _
    nodup_nil (nil_subset _) ?_
  · intro realm hentry
    rw [mem_append, Std.ExtTreeMap.mem_keys, Std.ExtTreeMap.mem_keys]
    by_contra hno
    rw [not_or, ← get_eq_none_iff, ← get_eq_none_iff] at hno
    simp [parentEntryWithUpdatesAt, hno.1, hno.2] at hentry
  · rw [length_append, Std.ExtTreeMap.length_keys, Std.ExtTreeMap.length_keys]
    simp

section

variable (parents : BTreeMap RealmPath ParentEntry) (now issuedAt expiresAt : Nat)
  (parent : RealmPath)

/-- The capabilities a staged edge gives a child: its own where it has some,
otherwise those of the staged entry, or those inherited from the live one. -/
def stagedCapabilities (staged live : Option ParentEntry)
    (capabilities ceiling : Option CapabilitySet) : CapabilitySet :=
  match capabilities, staged, live with
  | some capabilities, _, _ => boundCapabilities capabilities ceiling
  | none, some entry, _ => boundCapabilities entry.capabilities ceiling
  | none, none, some entry => boundCapabilities entry.capabilities ceiling
  | none, none, none => .empty

/-- What is refused before the entries of `child` are looked at. -/
def loops (updates : BTreeMap RealmPath ParentEntry) (child : RealmPath) : Bool :=
  decide (child = parent) || wouldFormLoopWithUpdates parents updates parent child now

/-- The staged entry of a child, from the one staged before and the live one. -/
def edgeEntry (live : Option ParentEntry) (routeId : Option RouteId)
    (capabilities ceiling : Option CapabilitySet) : Option ParentEntry → Option ParentEntry
  | some existing =>
    if existing.parent ≠ parent then none
    else some
      { existing with
        routeId := routeId.or existing.routeId
        capabilities := stagedCapabilities (some existing) live capabilities ceiling
        expiresAtUnixSeconds := expiresAt }
  | none =>
    if live.any fun entry => decide (issuedAt ≤ entry.issuedAtUnixSeconds ∨ entry.parent ≠ parent)
    then none
    else some
      { parent
        routeId := routeId.or (live.bind (·.routeId))
        capabilities := stagedCapabilities none live capabilities ceiling
        issuedAtUnixSeconds := issuedAt
        expiresAtUnixSeconds := expiresAt }

/-- A staged edge is a guarded update at `child`. -/
lemma toOption_stageParentEdge (updates : BTreeMap RealmPath ParentEntry) (child : RealmPath)
    (routeId : Option RouteId) (capabilities ceiling : Option CapabilitySet) :
    (stageParentEdge parents updates now issuedAt parent child routeId capabilities ceiling
      expiresAt).toOption =
      upsert? (loops parents now parent) child
        (edgeEntry issuedAt expiresAt parent
          (parents[child]?.filter fun entry => !isExpired entry.expiresAtUnixSeconds now)
          routeId capabilities ceiling) updates := by
  unfold stageParentEdge upsert? loops
  by_cases hloop : child = parent ∨ wouldFormLoopWithUpdates parents updates parent child now
  · rw [if_pos hloop, if_pos (by simpa using hloop)]
    rfl
  rw [if_neg hloop, if_neg (by simpa using hloop)]
  cases hstaged : updates[child]? with
  | some existing =>
    by_cases hparent : existing.parent = parent
    · cases capabilities <;> cases ceiling <;>
        simp [edgeEntry, hparent, stagedCapabilities, boundCapabilities]
    · simp [edgeEntry, hparent]
  | none =>
    cases hlive : parents[child]?.filter
        (fun entry => !isExpired entry.expiresAtUnixSeconds now) with
    | none => cases capabilities <;> simp [edgeEntry, stagedCapabilities]
    | some live =>
      by_cases hnew : issuedAt ≤ live.issuedAtUnixSeconds
      · simp [edgeEntry, hnew]
      · by_cases hparent : live.parent = parent <;> cases capabilities <;>
          simp [edgeEntry, hnew, hparent, stagedCapabilities]

variable {parents updates now issuedAt expiresAt parent}

/-- A staged edge is one insertion at `child`. -/
lemma stageParentEdge_ok
    (h : stageParentEdge parents updates now issuedAt parent child routeId capabilities ceiling
      expiresAt = .ok updates') :
    ∃ entry : ParentEntry, updates' = updates.insert child entry ∧ entry.parent = parent ∧
      entry.expiresAtUnixSeconds = expiresAt ∧
      entry.issuedAtUnixSeconds = (updates[child]?.map (·.issuedAtUnixSeconds)).getD issuedAt ∧
      entry.capabilities = stagedCapabilities updates[child]?
        (parents[child]?.filter fun entry => !isExpired entry.expiresAtUnixSeconds now)
        capabilities ceiling ∧
      (updates[child]? = none → ∀ live, parents[child]? = some live →
        isExpired live.expiresAtUnixSeconds now = false → live.issuedAtUnixSeconds < issuedAt) := by
  rw [← toOption_eq_some, toOption_stageParentEdge, upsert?_eq_some] at h
  obtain ⟨-, entry, hentry, rfl⟩ := h
  refine ⟨entry, rfl, ?_⟩
  cases hstaged : updates[child]? with
  | some existing =>
    simp only [hstaged, edgeEntry] at hentry
    split at hentry
    · contradiction
    next hparent =>
      cases hentry
      exact ⟨not_not.mp hparent, rfl, rfl, rfl, by simp⟩
  | none =>
    simp only [hstaged, edgeEntry] at hentry
    split at hentry
    · contradiction
    next hlive =>
      cases hentry
      refine ⟨rfl, rfl, rfl, rfl, fun _ live hget hexp => ?_⟩
      simp only [hget, filter_some, hexp, Bool.not_false, if_true, any_some,
        decide_eq_true_eq, not_or] at hlive
      omega

end

/-- The staged entry of a route, from the one staged before and the live one. -/
def routeEntry (live : Option RouteEntry) (entry : RouteEntry) :
    Option RouteEntry → Option RouteEntry
  | some existing =>
    if existing.advertisingRealm ≠ entry.advertisingRealm ∨
        existing.nextHopChild ≠ entry.nextHopChild then none
    else some existing
  | none =>
    if live.any fun existing => decide (entry.issuedAtUnixSeconds ≤ existing.issuedAtUnixSeconds ∨
        existing.advertisingRealm ≠ entry.advertisingRealm ∨
        existing.nextHopChild ≠ entry.nextHopChild) then none
    else some entry

lemma toOption_stageRouteEntry (routes updates : BTreeMap RealmPath RouteEntry)
    (now issuedAt : Nat) (realm descendant : RealmPath) (hop : RealmId) (routeId : RouteId)
    (capabilities : CapabilitySet) (expiresAt : Nat) :
    (stageRouteEntry routes updates now issuedAt realm descendant hop routeId capabilities
      expiresAt).toOption =
      upsert? (fun _ _ => false) descendant
        (routeEntry (routes[descendant]?.filter fun entry =>
            !isExpired entry.expiresAtUnixSeconds now)
          ⟨realm, hop, routeId, capabilities, issuedAt, expiresAt⟩) updates := by
  unfold stageRouteEntry upsert?
  cases hstaged : updates[descendant]? with
  | some existing =>
    by_cases hother : existing.advertisingRealm ≠ realm ∨ existing.nextHopChild ≠ hop
    · simp [routeEntry, hother]
    · simp [routeEntry, hother, insert_of_get hstaged]
  | none =>
    cases hlive : routes[descendant]?.filter
        (fun entry => !isExpired entry.expiresAtUnixSeconds now) with
    | none => simp [routeEntry]
    | some live =>
      by_cases hnew : issuedAt ≤ live.issuedAtUnixSeconds
      · simp [routeEntry, hnew]
      · by_cases hother : live.advertisingRealm ≠ realm ∨ live.nextHopChild ≠ hop <;>
          simp [routeEntry, hnew, hother]

/-- A staged route is one insertion at its descendant, or was there before. -/
lemma stageRouteEntry_ok
    (h : stageRouteEntry routes updates now issuedAt realm descendant hop routeId capabilities
      expiresAt = .ok updates') :
    updates' = updates ∨
      updates' = updates.insert descendant
        ⟨realm, hop, routeId, capabilities, issuedAt, expiresAt⟩ := by
  rw [← toOption_eq_some, toOption_stageRouteEntry, upsert?_eq_some] at h
  obtain ⟨-, entry, hentry, rfl⟩ := h
  cases hstaged : updates[descendant]? <;>
    simp only [hstaged, routeEntry, ite_none_left_eq_some, Option.some.injEq] at hentry
  · exact .inr (by rw [hentry.2])
  · exact .inl (insert_of_get (hstaged.trans (congrArg some hentry.2)))

/-! ## the loop over the routes -/

section

variable (e : RouteTreeEngine) (envelope : RouteAdvertisementEnvelope)
  (allocation : RouteNamespaceAllocation)

/-- What a turn of the loop does to the staged edges. -/
def edgeStep (updates : BTreeMap RealmPath ParentEntry) (route : DescendantRoute) :
    Option (BTreeMap RealmPath ParentEntry) :=
  (directChildBelow route.descendant envelope.advertisement.advertisingRealm).bind fun child =>
    (stageParentEdge e.parents updates envelope.receivedAtUnixSeconds
      envelope.advertisement.issuedAtUnixSeconds envelope.advertisement.advertisingRealm child
      (if child = route.descendant then some route.routeId else none)
      (if child = route.descendant then some route.capabilities else none) none
      envelope.advertisement.expiresAtUnixSeconds).toOption

/-- What it does to the staged routes. -/
def routeStep (updates : BTreeMap RealmPath RouteEntry) (route : DescendantRoute) :
    Option (BTreeMap RealmPath RouteEntry) :=
  (stageRouteEntry e.routes updates envelope.receivedAtUnixSeconds
    envelope.advertisement.issuedAtUnixSeconds envelope.advertisement.advertisingRealm
    route.descendant route.nextHopChild route.routeId route.capabilities
    envelope.advertisement.expiresAtUnixSeconds).toOption

/-- The checks of a turn that read nothing staged. -/
def RouteFits (route : DescendantRoute) : Prop :=
  (route.descendant.isDescendantOf envelope.advertisement.advertisingRealm = true ∧
    (directChildBelow route.descendant envelope.advertisement.advertisingRealm).bind
      (·.labels.head?) = some route.nextHopChild) ∧
  prefixAllowed route.descendant allocation.allowedPrefixes = true ∧
    route.capabilities.isSubsetOf allocation.capabilityCeiling = true

/-- The checks one advertised route has passed. -/
structure RouteChecked (route : DescendantRoute) : Prop where
  descends : route.descendant.isDescendantOf envelope.advertisement.advertisingRealm = true
  nextHop : nextHopChild route.descendant envelope.advertisement.advertisingRealm =
    some route.nextHopChild
  bounded : route.capabilities.isSubsetOf allocation.capabilityCeiling = true

section

variable (routes : List DescendantRoute)

/-- `child` is entered by one of `routes`, by none of them directly, and so
keeps the capability `c` of its live entry. -/
structure Inherits (child : RealmPath) (c : Capability) : Prop where
  transit : ∃ route ∈ routes,
    directChildBelow route.descendant envelope.advertisement.advertisingRealm = some child
  notDirect : ∀ route ∈ routes, route.descendant ≠ child
  live : ∃ entry, e.parentEntryAt child envelope.receivedAtUnixSeconds = some entry ∧
    entry.capabilities.has c = true

/-- What a staged parent entry is, once `routes` have been staged. -/
structure ParentUpdate (child : RealmPath) (entry : ParentEntry) : Prop where
  issued : entry.issuedAtUnixSeconds = envelope.advertisement.issuedAtUnixSeconds
  expires : entry.expiresAtUnixSeconds = envelope.advertisement.expiresAtUnixSeconds
  newer : ∀ live, e.parents[child]? = some live →
    isExpired live.expiresAtUnixSeconds envelope.receivedAtUnixSeconds = false →
    live.issuedAtUnixSeconds < envelope.advertisement.issuedAtUnixSeconds
  origin : (child = envelope.advertisement.advertisingRealm ∧
      entry.parent = envelope.advertisement.treeEdge.parent) ∨
    (entry.parent = envelope.advertisement.advertisingRealm ∧ ∃ route ∈ routes,
      directChildBelow route.descendant envelope.advertisement.advertisingRealm = some child)
  granted : ∀ c, entry.capabilities.has c = true →
    (child = envelope.advertisement.advertisingRealm ∧ allocation.capabilityCeiling.has c = true) ∨
    (∃ route ∈ routes, route.descendant = child ∧ route.capabilities.has c = true) ∨
    Inherits e envelope routes child c

/-- What a staged route entry is. -/
structure RouteUpdate (descendant : RealmPath) (entry : RouteEntry) : Prop where
  issued : entry.issuedAtUnixSeconds = envelope.advertisement.issuedAtUnixSeconds
  expires : entry.expiresAtUnixSeconds = envelope.advertisement.expiresAtUnixSeconds
  realm : entry.advertisingRealm = envelope.advertisement.advertisingRealm
  route : ∃ route ∈ routes, route.descendant = descendant ∧
    entry.nextHopChild = route.nextHopChild ∧ entry.capabilities = route.capabilities

/-- The loop invariant: what has been staged after `routes`. -/
structure StagedFor (staged : Staged) : Prop where
  parent : ∀ child entry, staged.parentUpdates[child]? = some entry →
    ParentUpdate e envelope allocation routes child entry
  advertiser : envelope.advertisement.advertisingRealm ∈ staged.parentUpdates
  entered : ∀ route ∈ routes, ∃ child ∈ staged.parentUpdates,
    directChildBelow route.descendant envelope.advertisement.advertisingRealm = some child
  route : ∀ descendant entry, staged.routeUpdates[descendant]? = some entry →
    RouteUpdate envelope routes descendant entry
  checked : ∀ route ∈ routes, RouteChecked envelope allocation route

end

variable {e envelope allocation} {route : DescendantRoute}

/-- One turn of the loop: the checks, and what it does to each of the two maps. -/
lemma stageRoute_eq_ok : stageRoute e envelope allocation staged route = .ok staged' ↔
    (route.descendant ∉ staged.seenDescendants ∧ RouteFits envelope allocation route) ∧
      ∃ parentUpdates routeUpdates,
        edgeStep e envelope staged.parentUpdates route = some parentUpdates ∧
        routeStep e envelope staged.routeUpdates route = some routeUpdates ∧
        staged' = ⟨parentUpdates, routeUpdates, staged.acceptedRoutes ++ [route.routeId],
          route.descendant :: staged.seenDescendants⟩ := by
  unfold stageRoute
  simp only
  split
  next hseen => simp [hseen]
  next hseen =>
  split
  next hshape =>
    simp only [reduceCtorEq, false_iff]
    rintro ⟨⟨-, hfits, -⟩, -⟩
    simp [hfits] at hshape
  next hshape =>
  split
  next hbound =>
    simp only [reduceCtorEq, false_iff]
    rintro ⟨⟨-, -, hfits⟩, -⟩
    simp [hfits] at hbound
  next hbound =>
  have hfits : RouteFits envelope allocation route := by
    simpa [RouteFits] using And.intro hshape hbound
  cases hnext : directChildBelow route.descendant envelope.advertisement.advertisingRealm with
  | none => simp [edgeStep, hnext]
  | some child =>
    simp only [hseen, hfits, not_false_eq_true, and_self, true_and, edgeStep, routeStep, hnext,
      bind_some, toOption_eq_some, bind_eq_ok, decide_eq_true_eq, pure, Except.pure,
      Except.ok.injEq]
    constructor
    · rintro ⟨parentUpdates, hparent, routeUpdates, hroute, rfl⟩
      exact ⟨parentUpdates, routeUpdates, hparent, hroute, rfl⟩
    · rintro ⟨parentUpdates, routeUpdates, hparent, hroute, rfl⟩
      exact ⟨parentUpdates, hparent, routeUpdates, hroute, rfl⟩

lemma stageRoute_ok (h : stageRoute e envelope allocation staged route = .ok staged') :
    RouteChecked envelope allocation route ∧
      ∃ nextChild, directChildBelow route.descendant envelope.advertisement.advertisingRealm =
          some nextChild ∧
        stageParentEdge e.parents staged.parentUpdates envelope.receivedAtUnixSeconds
          envelope.advertisement.issuedAtUnixSeconds envelope.advertisement.advertisingRealm
          nextChild (if nextChild = route.descendant then some route.routeId else none)
          (if nextChild = route.descendant then some route.capabilities else none) none
          envelope.advertisement.expiresAtUnixSeconds = .ok staged'.parentUpdates ∧
        stageRouteEntry e.routes staged.routeUpdates envelope.receivedAtUnixSeconds
          envelope.advertisement.issuedAtUnixSeconds envelope.advertisement.advertisingRealm
          route.descendant route.nextHopChild route.routeId route.capabilities
          envelope.advertisement.expiresAtUnixSeconds = .ok staged'.routeUpdates := by
  obtain ⟨⟨-, hfits⟩, parentUpdates, routeUpdates, hedge, hentry, rfl⟩ := stageRoute_eq_ok.mp h
  obtain ⟨nextChild, hnext, hparent⟩ := bind_eq_some_iff.mp hedge
  have hhop := hfits.1.2
  rw [hnext, bind_some] at hhop
  exact ⟨⟨hfits.1.1, nextHopChild_of_directChildBelow hnext hhop, hfits.2.2⟩, nextChild, hnext,
    toOption_eq_some.mp hparent, toOption_eq_some.mp hentry⟩

/-- Entries at other children keep what was known of them. -/
lemma ParentUpdate.snoc (h : ParentUpdate e envelope allocation routes child entry)
    (hnext : directChildBelow route.descendant envelope.advertisement.advertisingRealm =
      some nextChild) (hne : nextChild ≠ child) :
    ParentUpdate e envelope allocation (routes ++ [route]) child entry where
  issued := h.issued
  expires := h.expires
  newer := h.newer
  origin := by
    rcases h.origin with horigin | ⟨hparent, r, hr, hbelow⟩
    · exact .inl horigin
    · exact .inr ⟨hparent, r, mem_append_left _ hr, hbelow⟩
  granted := by
    intro c hc
    rcases h.granted c hc with hrealm | ⟨r, hr, hgrant⟩ | hinherits
    · exact .inl hrealm
    · exact .inr (.inl ⟨r, mem_append_left _ hr, hgrant⟩)
    · obtain ⟨r, hr, hbelow⟩ := hinherits.transit
      refine .inr (.inr ⟨⟨r, mem_append_left _ hr, hbelow⟩, ?_, hinherits.live⟩)
      intro r' hr'
      rcases mem_append.mp hr' with hold | hnew
      · exact hinherits.notDirect r' hold
      · -- the new route enters another child, so it is not a route to this one
        rw [mem_singleton] at hnew
        subst hnew
        rintro rfl
        rw [directChildBelow_self (isDirectChildOf_of_directChildBelow hbelow)] at hnext
        exact hne (Option.some.inj hnext).symm

/-- The capabilities the loop gives the child a route enters. -/
lemma granted_of_stagedCapabilities (hst : StagedFor e envelope allocation routes staged)
    (hnext : directChildBelow route.descendant envelope.advertisement.advertisingRealm =
      some nextChild) (hc : (stagedCapabilities staged.parentUpdates[nextChild]?
      (e.parentEntryAt nextChild envelope.receivedAtUnixSeconds)
      (if nextChild = route.descendant then some route.capabilities else none) none).has c = true) :
    (nextChild = envelope.advertisement.advertisingRealm ∧
        allocation.capabilityCeiling.has c = true) ∨
      (∃ r ∈ routes ++ [route], r.descendant = nextChild ∧ r.capabilities.has c = true) ∨
      Inherits e envelope (routes ++ [route]) nextChild c := by
  have hroute : route ∈ routes ++ [route] := mem_concat_self
  by_cases hdirect : nextChild = route.descendant
  · rw [if_pos hdirect] at hc
    exact .inr (.inl ⟨route, hroute, hdirect.symm, hc⟩)
  rw [if_neg hdirect] at hc
  -- a transit route: the child keeps what is staged, or inherits what is live
  have hnotDirect : (∀ r ∈ routes, r.descendant ≠ nextChild) →
      ∀ r ∈ routes ++ [route], r.descendant ≠ nextChild := by
    exact fun hold => Trace.forall_mem_snoc.mpr ⟨hold, Ne.symm hdirect⟩
  cases hstaged : staged.parentUpdates[nextChild]? with
  | some entry =>
    rw [hstaged] at hc
    rcases (hst.parent nextChild entry hstaged).granted c hc with hrealm | ⟨r, hr, hgrant⟩ | hinh
    · exact .inl hrealm
    · exact .inr (.inl ⟨r, mem_append_left _ hr, hgrant⟩)
    · exact .inr (.inr ⟨⟨route, hroute, hnext⟩, hnotDirect hinh.notDirect, hinh.live⟩)
  | none =>
    rw [hstaged] at hc
    cases hlive : e.parentEntryAt nextChild envelope.receivedAtUnixSeconds with
    | none =>
      rw [hlive] at hc
      simp [stagedCapabilities] at hc
    | some entry =>
      rw [hlive] at hc
      refine .inr (.inr ⟨⟨route, hroute, hnext⟩, hnotDirect ?_, entry, hlive, hc⟩)
      rintro r hr rfl
      -- an earlier direct route would have staged the child
      obtain ⟨child, hmem, hbelow⟩ := hst.entered r hr
      rw [directChildBelow_self (isDirectChildOf_of_directChildBelow hnext)] at hbelow
      cases hbelow
      exact get_eq_none_iff.mp hstaged hmem

/-- One turn of the loop keeps the invariant. -/
lemma StagedFor.snoc (hst : StagedFor e envelope allocation routes staged)
    (h : stageRoute e envelope allocation staged route = .ok staged') :
    StagedFor e envelope allocation (routes ++ [route]) staged' := by
  obtain ⟨hchecked, nextChild, hnext, hparent, hroute⟩ := stageRoute_ok h
  obtain ⟨entry, hupd, hentryParent, hexpires, hissued, hcaps, hnewer⟩ := stageParentEdge_ok hparent
  have hmem : route ∈ routes ++ [route] := mem_concat_self
  constructor
  case parent =>
    intro child entry' hget
    rw [hupd] at hget
    rcases get_insert_eq_some.mp hget with ⟨rfl, rfl⟩ | ⟨hchild, hget⟩
    · cases hstaged : staged.parentUpdates[nextChild]? with
      | some old =>
        have hold := hst.parent nextChild old hstaged
        rw [hstaged] at hissued
        exact ⟨hissued.trans hold.issued, hexpires, hold.newer,
          .inr ⟨hentryParent, route, hmem, hnext⟩,
          fun c hc => granted_of_stagedCapabilities hst hnext (hcaps ▸ hc)⟩
      | none =>
        rw [hstaged] at hissued
        exact ⟨hissued, hexpires, hnewer hstaged, .inr ⟨hentryParent, route, hmem, hnext⟩,
          fun c hc => granted_of_stagedCapabilities hst hnext (hcaps ▸ hc)⟩
    · exact (hst.parent child entry' hget).snoc hnext hchild
  case advertiser =>
    rw [hupd]
    exact Std.ExtTreeMap.mem_insert.mpr (.inr hst.advertiser)
  case entered =>
    rw [hupd]
    refine Trace.forall_mem_snoc.mpr
      ⟨fun r hr => ?_, nextChild, Std.ExtTreeMap.mem_insert_self, hnext⟩
    obtain ⟨child, hin, hbelow⟩ := hst.entered r hr
    exact ⟨child, Std.ExtTreeMap.mem_insert.mpr (.inr hin), hbelow⟩
  case route =>
    intro descendant entry' hget
    have hkeep : staged.routeUpdates[descendant]? = some entry' →
        RouteUpdate envelope (routes ++ [route]) descendant entry' := by
      intro hold
      obtain ⟨hi, hx, hrealm, r, hr, hrest⟩ := hst.route descendant entry' hold
      exact ⟨hi, hx, hrealm, r, mem_append_left _ hr, hrest⟩
    rcases stageRouteEntry_ok hroute with hsame | hins
    · rw [hsame] at hget
      exact hkeep hget
    · rw [hins] at hget
      rcases get_insert_eq_some.mp hget with ⟨hd, rfl⟩ | ⟨-, hget⟩
      · exact ⟨rfl, rfl, rfl, route, hmem, hd, rfl, rfl⟩
      · exact hkeep hget
  case checked =>
    intro r hr
    rcases Trace.mem_snoc.mp hr with hr | hlast
    · exact hst.checked r hr
    · rw [hlast]
      exact hchecked

end

/-! ## the whole admission -/

lemma replayKeyMatches_iff :
    replayKeyMatches key envelope = true ↔ key = replayKey envelope.advertisement := by
  cases key
  simp only [replayKeyMatches, replayKey, Bool.and_eq_true, decide_eq_true_eq,
    ReplayKey.mk.injEq, and_assoc]

lemma isExpired_eq_false : isExpired expiresAt now = false ↔ now < expiresAt := by
  simp [isExpired]

namespace RouteTreeEngine

/-- The checks an admission makes before it stages anything. -/
structure Admissible (e : RouteTreeEngine) (envelope : RouteAdvertisementEnvelope)
    (allocation : RouteNamespaceAllocation) : Prop where
  edge : envelope.advertisement.treeEdge.child = envelope.advertisement.advertisingRealm
  unexpired : envelope.receivedAtUnixSeconds < envelope.advertisement.expiresAtUnixSeconds
  parent : envelope.advertisement.treeEdge.parent = e.localRoot ∨
    ∃ entry, e.parentEntryAt envelope.advertisement.treeEdge.parent
      envelope.receivedAtUnixSeconds = some entry
  notReplayed : ∀ expiresAt,
    e.replayedAdverts[replayKey envelope.advertisement]? = some expiresAt →
    expiresAt ≤ envelope.receivedAtUnixSeconds
  allocated : allocation.treeEdge = envelope.advertisement.treeEdge

/-- The edge to the advertising realm, staged before the loop starts. -/
lemma stagedFor_nil
    (hedge : envelope.advertisement.treeEdge.child = envelope.advertisement.advertisingRealm)
    (h : stageParentEdge e.parents ∅ envelope.receivedAtUnixSeconds
      envelope.advertisement.issuedAtUnixSeconds envelope.advertisement.treeEdge.parent
      envelope.advertisement.treeEdge.child none (some allocation.capabilityCeiling)
      (some allocation.capabilityCeiling) envelope.advertisement.expiresAtUnixSeconds =
        .ok parentUpdates) : StagedFor e envelope allocation [] ⟨parentUpdates, ∅, [], []⟩ := by
  obtain ⟨entry, hupd, hparent, hexpires, hissued, hcaps, hnewer⟩ := stageParentEdge_ok h
  rw [hedge] at hupd hissued hcaps hnewer
  have hempty : (∅ : BTreeMap RealmPath ParentEntry)[
      envelope.advertisement.advertisingRealm]? = none := by simp
  rw [hempty] at hissued
  constructor
  case parent =>
    intro child entry' hget
    rw [hupd] at hget
    rcases get_insert_eq_some.mp hget with ⟨rfl, rfl⟩ | ⟨-, hget⟩
    · refine ⟨hissued, hexpires, hnewer hempty, .inl ⟨rfl, hparent⟩, ?_⟩
      intro c hc
      rw [hcaps] at hc
      simp only [stagedCapabilities, boundCapabilities, CapabilitySet.intersection_self] at hc
      exact .inl ⟨rfl, hc⟩
    · simp at hget
  case advertiser =>
    rw [hupd]
    exact Std.ExtTreeMap.mem_insert_self
  case entered => simp
  case route => simp
  case checked => simp

/-- The inversion of the admission checks: what has been checked, and what is
staged. -/
lemma stageAdvertisement_ok (h : e.stageAdvertisement envelope allocation = .ok staged) :
    Admissible e envelope allocation ∧
      StagedFor e envelope allocation envelope.advertisement.routes staged ∧
      (e.capacityPressure envelope staged = true → e.fullAfterPrune envelope staged = false) := by
  simp only [stageAdvertisement, ite_error_eq_ok, bind_eq_ok, Except.ok.injEq, not_or,
    Decidable.not_not, Nat.not_le, ge_iff_le] at h
  obtain ⟨hmalformed, hexpired, hparent, hreplay, hallocation, parentUpdates, hstage, out, hloop,
    hfull, rfl⟩ := h
  have hadmissible : Admissible e envelope allocation := by
    refine ⟨hmalformed.1, hexpired, ?_, ?_, hallocation.1⟩
    · by_cases hroot : envelope.advertisement.treeEdge.parent = e.localRoot
      · exact .inl hroot
      · cases hentry : e.parentEntryAt envelope.advertisement.treeEdge.parent
            envelope.receivedAtUnixSeconds with
        | none => exact absurd ⟨hroot, by rw [hentry]; rfl⟩ hparent
        | some entry => exact .inr ⟨entry, rfl⟩
    · intro expiresAt hget
      by_contra hlive
      refine hreplay (any_eq_true.mpr ⟨(_, expiresAt), mem_toList.mpr hget, ?_⟩)
      rw [Bool.and_eq_true, replayKeyMatches_iff, Bool.not_eq_true', isExpired_eq_false]
      exact ⟨rfl, Nat.lt_of_not_le hlive⟩
  refine ⟨hadmissible, ?_, ?_⟩
  · exact foldlM_invariant (I := StagedFor e envelope allocation)
      (fun _ _ _ _ hst hstep => hst.snoc hstep) _ [] _ _
      (stagedFor_nil hadmissible.edge hstage) hloop
  · intro hpressure
    simpa [hpressure] using hfull

end RouteTreeEngine

end D2b

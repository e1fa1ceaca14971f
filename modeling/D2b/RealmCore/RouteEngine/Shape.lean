import D2b.RealmCore.RouteEngine.Runs

/-!
# D2b.RealmCore.RouteEngine.Shape

The shape and the bounds of the route tree.

`TreeShape` is what the maps say about the realm tree: parents are one label
up, below the local root, and routes name the label just below their
advertiser.  `WithinLimits` bounds the three maps.  The bounds rest on the
admission's arithmetic: the lengths it projects before it commits are the
sizes it reaches (`commit_sizes`).
-/

namespace D2b

open BTreeMap

namespace RouteTreeEngine

/-- Every entry fits the realm tree. -/
structure TreeShape (e : RouteTreeEngine) : Prop where
  parent : ∀ (child : RealmPath) entry, e.parents[child]? = some entry →
    child.isDescendantOf e.localRoot = true ∧ child.isDirectChildOf entry.parent = true
  route : ∀ (descendant : RealmPath) entry, e.routes[descendant]? = some entry →
    descendant.isDescendantOf entry.advertisingRealm = true ∧
      nextHopChild descendant entry.advertisingRealm = some entry.nextHopChild

/-- The maps respect the engine's capacities. -/
structure WithinLimits (e : RouteTreeEngine) : Prop where
  parents : e.parents.size ≤ e.capacityLimits.maxParentEntries
  routes : e.routes.size ≤ e.capacityLimits.maxRouteEntries
  keys : e.replayedAdverts.size ≤ e.capacityLimits.maxReplayKeys

/-- A step whose admission, if it is one, passed its constructors' checks. -/
def WellFormedStep (_ : List Event) (e : RouteTreeEngine) (event : Event) (e' : RouteTreeEngine) :
    Prop :=
  e.Step event e' ∧ ∀ envelope allocation admission,
    event = .admitted envelope allocation admission →
      envelope.advertisement.WellFormed ∧ allocation.WellFormed

/-! ## projected sizes -/

section

variable {V : Type*} (expiresAt : V → Nat) (entries updates : BTreeMap RealmPath V) (now : Nat)

lemma projectedPhysicalLen_eq : projectedPhysicalLen entries updates = (entries ∪ updates).size :=
  (size_union entries updates).symm

def keepLive : BTreeMap RealmPath V :=
  entries.filter fun _ entry => !isExpired (expiresAt entry) now

lemma contains_keepLive :
    (keepLive expiresAt entries now).contains key =
      entries[key]?.any fun entry => !isExpired (expiresAt entry) now := by
  rw [Std.ExtTreeMap.contains_eq_isSome_getElem?, keepLive, get_filter]
  cases entries[key]? with
  | none => rfl
  | some entry =>
    cases h : isExpired (expiresAt entry) now <;> simp [h]

/-- The updates split into those over a live entry and the new ones. -/
lemma liveUpdates_add :
    liveUpdates expiresAt entries updates now +
      (updates.keys.filter fun key => !(keepLive expiresAt entries now).contains key).length =
        updates.size := by
  rw [← Std.ExtTreeMap.length_keys, liveUpdates]
  simp only [contains_keepLive]
  exact (List.length_eq_length_filter_add _).symm

/-- No underflow: the live updates are among the updates. -/
lemma liveUpdates_le : liveUpdates expiresAt entries updates now ≤ updates.size := by
  have := liveUpdates_add expiresAt entries updates now
  omega

lemma projectedLenAfterPrune_eq :
    projectedLenAfterPrune expiresAt entries updates now =
      (keepLive expiresAt entries now ∪ updates).size := by
  have hsplit := liveUpdates_add expiresAt entries updates now
  have hlive : (keepLive expiresAt entries now).size = liveEntries expiresAt entries now :=
    size_filter _ _
  rw [size_union, projectedLenAfterPrune, hlive]
  omega

end

section

variable (keys : BTreeMap ReplayKey Nat) (envelope : RouteAdvertisementEnvelope) (now : Nat)

lemma any_replayKeyMatches :
    (keys.toList.any fun kv => replayKeyMatches kv.1 envelope && keep kv.1 kv.2) =
      (keys.filter keep).contains (replayKey envelope.advertisement) := by
  rw [Bool.eq_iff_iff, List.any_eq_true, Std.ExtTreeMap.contains_iff_mem]
  constructor
  · rintro ⟨⟨key, expiresAt⟩, hmem, htest⟩
    rw [Bool.and_eq_true, replayKeyMatches_iff] at htest
    obtain ⟨rfl, hkeep⟩ := htest
    exact mem_of_get (get_filter_eq_some.mpr ⟨mem_toList.mp hmem, hkeep⟩)
  · intro hmem
    obtain ⟨expiresAt, hget⟩ := get_of_mem hmem
    obtain ⟨hget, hkeep⟩ := get_filter_eq_some.mp hget
    refine ⟨(_, expiresAt), mem_toList.mpr hget, ?_⟩
    rw [Bool.and_eq_true, replayKeyMatches_iff]
    exact ⟨rfl, hkeep⟩

lemma replayPhysicalLen_eq (expiresAt : Nat) : replayPhysicalLen keys envelope =
    (keys.insert (replayKey envelope.advertisement) expiresAt).size := by
  have hany : (keys.keys.any fun key => replayKeyMatches key envelope) =
      keys.contains (replayKey envelope.advertisement) := by
    rw [Bool.eq_iff_iff, List.any_eq_true, Std.ExtTreeMap.contains_iff_mem]
    simp only [Std.ExtTreeMap.mem_keys, replayKeyMatches_iff]
    exact ⟨fun ⟨_, hmem, heq⟩ => heq ▸ hmem, fun hmem => ⟨_, hmem, rfl⟩⟩
  rw [size_insert, replayPhysicalLen, hany]

def keepKey (advertisement : RouteAdvertisement) (now : Nat) (key : ReplayKey) (expiresAt : Nat) :
    Bool :=
  !isExpired expiresAt now && !isSupersededReplayKey key expiresAt advertisement

lemma projectedReplayLenAfterPrune_eq (expiresAt : Nat) :
    projectedReplayLenAfterPrune keys envelope now =
      ((keys.filter (keepKey envelope.advertisement now)).insert
        (replayKey envelope.advertisement) expiresAt).size := by
  rw [size_insert, size_filter, ← any_replayKeyMatches]
  simp only [projectedReplayLenAfterPrune, keepKey, Bool.and_assoc]

end

/-! ## sizes after a commit -/

/-- The lengths projected for the staged updates are the sizes of `e'`, and
their subtractions do not underflow. -/
structure ProjectionExact (e : RouteTreeEngine) (envelope : RouteAdvertisementEnvelope)
    (staged : Staged) (e' : RouteTreeEngine) : Prop where
  parentsNoUnderflow :
    liveUpdates (·.expiresAtUnixSeconds) e.parents staged.parentUpdates
        envelope.receivedAtUnixSeconds ≤
      liveEntries (·.expiresAtUnixSeconds) e.parents envelope.receivedAtUnixSeconds +
        staged.parentUpdates.size
  routesNoUnderflow :
    liveUpdates (·.expiresAtUnixSeconds) e.routes staged.routeUpdates
        envelope.receivedAtUnixSeconds ≤
      liveEntries (·.expiresAtUnixSeconds) e.routes envelope.receivedAtUnixSeconds +
        staged.routeUpdates.size
  physical : e.capacityPressure envelope staged = false →
    projectedPhysicalLen e.parents staged.parentUpdates = e'.parents.size ∧
      projectedPhysicalLen e.routes staged.routeUpdates = e'.routes.size ∧
      replayPhysicalLen e.replayedAdverts envelope = e'.replayedAdverts.size
  pruned : e.capacityPressure envelope staged = true →
    projectedParentLenAfterPrune e.parents staged.parentUpdates
        envelope.receivedAtUnixSeconds = e'.parents.size ∧
      projectedRouteLenAfterPrune e.routes staged.routeUpdates
        envelope.receivedAtUnixSeconds = e'.routes.size ∧
      projectedReplayLenAfterPrune e.replayedAdverts envelope
        envelope.receivedAtUnixSeconds = e'.replayedAdverts.size

section

variable (e : RouteTreeEngine)
include e

lemma makeRoom_keys :
    (e.makeRoom envelope).replayedAdverts = e.replayedAdverts.filter
      (keepKey envelope.advertisement envelope.receivedAtUnixSeconds) :=
  filter_filter _ _ _

/-- The projected lengths are the sizes reached. -/
lemma commit_sizes (envelope : RouteAdvertisementEnvelope) (staged : Staged) :
    ProjectionExact e envelope staged (e.commit envelope staged) := by
  constructor
  case parentsNoUnderflow => exact Nat.le_add_left_of_le (liveUpdates_le _ _ _ _)
  case routesNoUnderflow => exact Nat.le_add_left_of_le (liveUpdates_le _ _ _ _)
  case physical =>
    intro hpressure
    simp only [commit, hpressure, Bool.false_eq_true, if_false]
    exact ⟨projectedPhysicalLen_eq _ _, projectedPhysicalLen_eq _ _, replayPhysicalLen_eq _ _ _⟩
  case pruned =>
    intro hpressure
    simp only [commit, hpressure, if_true, makeRoom_keys]
    exact ⟨projectedLenAfterPrune_eq _ _ _ _, projectedLenAfterPrune_eq _ _ _ _,
      projectedReplayLenAfterPrune_eq _ _ _ _⟩

lemma commit_capacityLimits (envelope : RouteAdvertisementEnvelope) (staged : Staged) :
    (e.commit envelope staged).capacityLimits = e.capacityLimits := by
  unfold commit
  cases e.capacityPressure envelope staged <;> rfl

lemma commit_localRoot : (e.commit envelope staged).localRoot = e.localRoot := by
  unfold commit
  cases e.capacityPressure envelope staged <;> rfl

end

/-! ## one step -/

section

variable {e : RouteTreeEngine}

/-- An admission that gets through leaves the maps within their limits. -/
lemma withinLimits_commit (hstage : e.stageAdvertisement envelope allocation = .ok staged) :
    WithinLimits (e.commit envelope staged) := by
  obtain ⟨-, -, hroom⟩ := stageAdvertisement_ok hstage
  have hsizes := commit_sizes e envelope staged
  cases hpressure : e.capacityPressure envelope staged with
  | false =>
    obtain ⟨hparents, hroutes, hkeys⟩ := hsizes.physical hpressure
    simp only [capacityPressure, Bool.or_eq_false_iff, decide_eq_false_iff_not,
      Nat.not_lt, gt_iff_lt] at hpressure
    constructor <;> rw [commit_capacityLimits]
    · rw [← hparents]; exact hpressure.1.1
    · rw [← hroutes]; exact hpressure.1.2
    · rw [← hkeys]; exact hpressure.2
  | true =>
    obtain ⟨hparents, hroutes, hkeys⟩ := hsizes.pruned hpressure
    have hfits := hroom hpressure
    simp only [fullAfterPrune, Bool.or_eq_false_iff, decide_eq_false_iff_not,
      Nat.not_lt, gt_iff_lt] at hfits
    constructor <;> rw [commit_capacityLimits]
    · rw [← hparents]; exact hfits.1.1
    · rw [← hroutes]; exact hfits.1.2
    · rw [← hkeys]; exact hfits.2

/-- A well-formed advertisement that gets through is below the local root. -/
lemma descends_of_admissible (hshape : TreeShape e) (hadm : Admissible e envelope allocation)
    (hwf : envelope.advertisement.WellFormed) :
    envelope.advertisement.advertisingRealm.isDescendantOf e.localRoot = true := by
  have hedge := hwf.1.isDirectChildOf
  rw [hadm.edge] at hedge
  have hup := RealmPath.isDescendantOf_of_directChild hedge
  rcases hadm.parent with hroot | ⟨entry, hentry⟩
  · rw [hroot] at hup
    exact hup
  · obtain ⟨hget, -⟩ := Option.filter_eq_some_iff.mp hentry
    exact RealmPath.isDescendantOf_trans hup (hshape.parent _ entry hget).1

/-- Staged entries fit the tree. -/
lemma treeShape_commit (hshape : TreeShape e) (hwf : envelope.advertisement.WellFormed)
    (hstage : e.stageAdvertisement envelope allocation = .ok staged) :
    TreeShape (e.commit envelope staged) := by
  obtain ⟨hadm, hst, -⟩ := stageAdvertisement_ok hstage
  have hbelow := descends_of_admissible hshape hadm hwf
  constructor
  case parent =>
    intro child entry hget
    rw [commit_localRoot]
    rcases commit_parents_of_get hget with hnew | hold
    · rcases (hst.parent child entry hnew).origin with ⟨rfl, hparent⟩ | ⟨hparent, route, -, hnext⟩
      · rw [hparent]
        exact ⟨hbelow, hadm.edge ▸ hwf.1.isDirectChildOf⟩
      · have hdirect := isDirectChildOf_of_directChildBelow hnext
        rw [hparent]
        exact ⟨RealmPath.isDescendantOf_trans (RealmPath.isDescendantOf_of_directChild hdirect)
          hbelow, hdirect⟩
    · exact hshape.parent child entry hold
  case route =>
    intro descendant entry hget
    rcases commit_routes_of_get hget with hnew | hold
    · obtain ⟨-, -, hrealm, route, hroute, rfl, hhop, -⟩ := hst.route descendant entry hnew
      have hchecked := hst.checked route hroute
      rw [hrealm, hhop]
      exact ⟨hchecked.descends, hchecked.nextHop⟩
    · exact hshape.route descendant entry hold

/-- Every route leads below the local root. -/
def RoutesBelow (e : RouteTreeEngine) : Prop :=
  ∀ (p : RealmPath) entry, e.routes[p]? = some entry → p.isDescendantOf e.localRoot = true

lemma routesBelow_commit (hbelow : RoutesBelow e) (hshape : TreeShape e)
    (hwf : envelope.advertisement.WellFormed)
    (hstage : e.stageAdvertisement envelope allocation = .ok staged) :
    RoutesBelow (e.commit envelope staged) := by
  obtain ⟨hadm, hst, -⟩ := stageAdvertisement_ok hstage
  intro p entry hget
  rw [commit_localRoot]
  rcases commit_routes_of_get hget with hnew | hold
  · obtain ⟨-, -, -, route, hroute, rfl, -⟩ := hst.route p entry hnew
    exact RealmPath.isDescendantOf_trans (hst.checked route hroute).descends
      (descends_of_admissible hshape hadm hwf)
  · exact hbelow p entry hold

lemma treeShape_prune (hshape : TreeShape e) (now : Nat) : TreeShape (e.pruneExpired now).2 where
  parent child entry hget := hshape.parent child entry (pruneExpired_parents.mp hget).1
  route descendant entry hget := hshape.route descendant entry (pruneExpired_routes.mp hget).1

lemma withinLimits_prune (hlimits : WithinLimits e) (now : Nat) :
    WithinLimits (e.pruneExpired now).2 where
  parents := Nat.le_trans (size_filter_le _ _) hlimits.parents
  routes := Nat.le_trans (size_filter_le _ _) hlimits.routes
  keys := Nat.le_trans (size_filter_le _ _) hlimits.keys

end

/-! ## runs -/

attribute [local simp] withCapacityLimits new

lemma shape_and_limits_of_run (hrun : Trace.Run IsNew WellFormedStep history e) :
    TreeShape e ∧ WithinLimits e ∧ RoutesBelow e := by
  apply hrun.invariant
  · rintro e (⟨_, _, rfl⟩ | ⟨_, _, _, _, _, rfl⟩)
    · exact ⟨⟨by simp, by simp⟩, ⟨by simp, by simp, by simp⟩,
        by simp [RoutesBelow]⟩
    · exact ⟨⟨by simp, by simp⟩,
        ⟨by simp, by simp, by simp⟩,
        by simp [RoutesBelow]⟩
  · rintro _ e event e' - ⟨hshape, hlimits, hbelow⟩ ⟨hstep, hwf⟩
    rcases step_cases hstep with ⟨-, -, rfl⟩ | ⟨-, rfl⟩ |
      ⟨envelope, allocation, staged, haccepted, hstage, rfl⟩
    · exact ⟨hshape, hlimits, hbelow⟩
    · exact ⟨treeShape_prune hshape _, withinLimits_prune hlimits _,
        fun p entry hget => hbelow p entry (pruneExpired_routes.mp hget).1⟩
    · obtain ⟨admission, hevent⟩ := admitted_of_accepted? haccepted
      have hwf := (hwf _ _ _ hevent).1
      exact ⟨treeShape_commit hshape hwf hstage, withinLimits_commit hstage,
        routesBelow_commit hbelow hshape hwf hstage⟩

/-- The engine keeps its tree shape and its bounds over every run of
well-formed admissions and sweeps; a denial leaves it as it was, and an
acceptance reaches exactly the sizes it projected. -/
theorem route_tree_invariant {history : List Event} {e : RouteTreeEngine}
    (hrun : Trace.Run IsNew WellFormedStep history e) :
    TreeShape e ∧ WithinLimits e ∧ ∀ envelope allocation,
      (∀ reason, (e.admitAdvertisement envelope allocation).1.outcome = .denied reason →
        (e.admitAdvertisement envelope allocation).2 = e) ∧
      (∀ routes, (e.admitAdvertisement envelope allocation).1.outcome = .accepted routes →
        ∃ staged, e.stageAdvertisement envelope allocation = .ok staged ∧
          ProjectionExact e envelope staged (e.admitAdvertisement envelope allocation).2) := by
  obtain ⟨hshape, hlimits, -⟩ := shape_and_limits_of_run hrun
  refine ⟨hshape, hlimits, fun envelope allocation => ?_⟩
  unfold admitAdvertisement
  cases hstage : e.stageAdvertisement envelope allocation with
  | error reason => simp
  | ok staged =>
    refine ⟨fun reason hdenied => by simp at hdenied, fun routes _ => ?_⟩
    exact ⟨staged, rfl, commit_sizes e envelope staged⟩

lemma wellFormedStep_call (history : List Event) (e : RouteTreeEngine)
    (envelope : RouteAdvertisementEnvelope) (allocation : RouteNamespaceAllocation)
    (hwf : envelope.advertisement.WellFormed ∧ allocation.WellFormed) :
    WellFormedStep history e (e.call (.advertise envelope allocation)).1
      (e.call (.advertise envelope allocation)).2 := by
  refine ⟨step_call _ _, fun _ _ _ hevent => ?_⟩
  cases hevent
  exact hwf

open SmallRealm Sample in
/-- With room for one replay key, the second admission has to prune. -/
theorem route_tree_invariant_pressed : ∃ history e,
    Trace.Run IsNew WellFormedStep history e ∧ (acceptedIn history).length = 2 ∧
      e.replayedAdverts.size = 1 ∧ TreeShape e ∧ WithinLimits e := by
  have hnew : IsNew (withCapacityLimits root .hostLocal 8 8 1) := .inr ⟨_, _, _, _, _, rfl⟩
  have hrun := Trace.Run.snoc (.snoc (.nil hnew)
    (wellFormedStep_call _ _ ⟨advertisement work workApps lifecycle 1 5, 1⟩
      (allocation work lifecycle) (by decide +kernel)))
    (wellFormedStep_call _ _ ⟨advertisement work workApps lifecycle 9 20, 9⟩
      (allocation work lifecycle) (by decide +kernel))
  have hinv := route_tree_invariant hrun
  exact ⟨_, _, hrun, by decide +kernel, by decide +kernel, hinv.1, hinv.2.1⟩

end RouteTreeEngine

end D2b

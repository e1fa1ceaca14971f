import D2b.RealmCore.RouteEngine.Runs

/-!
# D2b.RealmCore.RouteEngine.RouteOrder

The order of an advertisement's routes does not matter.

The loop over the routes is split into what each route contributes by itself
(the checks, the route id, the descendant) and two loops that update one map
each.  A turn of such a loop is a guarded update of one key
(`BTreeMap.upsert?`), and two turns commute: at different keys because the
loop check of one child does not see the other, at one child because a
transit route adds nothing to what a direct one stages.
-/

namespace D2b

open Fallible List

/-! ## two routes -/

section

/-- The climb to `child` found nothing, so an entry at `child` changes no other climb. -/
lemma stableBar_loops : BTreeMap.StableBar (loops parents now parent) := by
  intro updates child entry child' hfree
  simp only [loops, Bool.or_eq_false_iff] at hfree ⊢
  congr 1
  have hsize : (updates.insert child entry).size ≤ updates.size + 1 := by
    rw [BTreeMap.size_insert]
    cases updates.contains child <;> simp
  obtain ⟨extra, hextra⟩ := Nat.exists_eq_add_of_le hsize
  rw [← wouldFormLoop_fuel _ _ _ _ _ extra, ← wouldFormLoop_fuel parents updates _ _ _ 1,
    show parents.size + (updates.insert child entry).size + 1 + extra =
      parents.size + updates.size + 1 + 1 by omega]
  refine Climb.climbsTo_congr child child' ?_ _ _ _ ?_
  · intro realm hne
    simp only [parentEntryWithUpdatesAt, BTreeMap.get_insert_of_ne _ _ (Ne.symm hne)]
  · rw [wouldFormLoop_fuel]
    exact hfree.2

/-- A transit route adds nothing to what another route to the same child has staged. -/
lemma edgeEntry_transit :
    ((edgeEntry issuedAt expiresAt parent live routeId capabilities none staged).bind fun entry =>
      edgeEntry issuedAt expiresAt parent live none none none (some entry)) =
      edgeEntry issuedAt expiresAt parent live routeId capabilities none staged := by
  cases staged <;> simp only [edgeEntry] <;> split <;>
    simp_all [stagedCapabilities, boundCapabilities]

/-- Nor is anything lost where it comes first. -/
lemma transit_edgeEntry :
    ((edgeEntry issuedAt expiresAt parent live none none none staged).bind fun entry =>
      edgeEntry issuedAt expiresAt parent live routeId capabilities none (some entry)) =
      edgeEntry issuedAt expiresAt parent live routeId capabilities none staged := by
  cases staged <;> cases capabilities <;> simp only [edgeEntry] <;> split <;>
    simp_all [stagedCapabilities, boundCapabilities]

end

/-! ## the loop -/

section

/-- The loop is two loops over one map each, after the checks that read neither. -/
lemma foldlM_stageRoute_eq_ok : ∀ {routes : List DescendantRoute} {staged : Staged},
    routes.foldlM (stageRoute e envelope allocation) staged = .ok staged' ↔
      (seenTwice staged.seenDescendants (routes.map (·.descendant)) = false ∧
        ∀ route ∈ routes, RouteFits envelope allocation route) ∧
      ∃ parentUpdates routeUpdates,
        routes.foldlM (edgeStep e envelope) staged.parentUpdates = some parentUpdates ∧
        routes.foldlM (routeStep e envelope) staged.routeUpdates = some routeUpdates ∧
        staged' = ⟨parentUpdates, routeUpdates,
          staged.acceptedRoutes ++ routes.map (·.routeId),
          (routes.map (·.descendant)).reverse ++ staged.seenDescendants⟩ := by
  intro routes
  induction routes with
  | nil =>
    intro staged
    simp [seenTwice, pure, Except.pure, eq_comm]
  | cons route routes ih =>
    intro staged
    rw [foldlM_cons, bind_eq_ok]
    simp only [stageRoute_eq_ok, ih, foldlM_cons, map_cons, seenTwice,
      forall_mem_cons, bind, Option.bind_eq_some_iff]
    constructor
    · rintro ⟨middle, ⟨⟨hseen, hfits⟩, edges, entries, hedge, hentry, rfl⟩, ⟨hrest, hall⟩,
        parentUpdates, routeUpdates, hedges, hentries, rfl⟩
      refine ⟨⟨by rwa [if_neg hseen], hfits, hall⟩, parentUpdates, routeUpdates,
        ⟨edges, hedge, hedges⟩, ⟨entries, hentry, hentries⟩, by simp⟩
    · rintro ⟨⟨hseen, hfits, hall⟩, parentUpdates, routeUpdates, ⟨edges, hedge, hedges⟩,
        ⟨entries, hentry, hentries⟩, rfl⟩
      split at hseen
      · contradiction
      next hnot =>
        exact ⟨_, ⟨⟨hnot, hfits⟩, edges, entries, hedge, hentry, rfl⟩, ⟨hseen, hall⟩,
          parentUpdates, routeUpdates, hedges, hentries, by simp⟩

/-- Two routes stage their edges in either order. -/
lemma edgeStep_comm (h : route.descendant ≠ route'.descendant)
    (updates : BTreeMap RealmPath ParentEntry) :
    (edgeStep e envelope updates route).bind (edgeStep e envelope · route') =
      (edgeStep e envelope updates route').bind (edgeStep e envelope · route) := by
  unfold edgeStep
  cases directChildBelow route.descendant envelope.advertisement.advertisingRealm with
  | none => simp
  | some child =>
    cases directChildBelow route'.descendant envelope.advertisement.advertisingRealm with
    | none => simp
    | some child' =>
      simp only [Option.bind_some, toOption_stageParentEdge]
      by_cases hchild : child = child'
      · -- one of the two routes only passes through the child
        subst hchild
        rw [BTreeMap.upsert?_bind_self stableBar_loops, BTreeMap.upsert?_bind_self stableBar_loops]
        congr 1
        funext staged
        by_cases hdirect : child = route.descendant
        · have htransit : child ≠ route'.descendant := fun heq => h (hdirect.symm.trans heq)
          simp only [if_neg htransit, edgeEntry_transit, transit_edgeEntry]
        · simp only [if_neg hdirect, edgeEntry_transit, transit_edgeEntry]
      · exact BTreeMap.upsert?_comm stableBar_loops hchild _ _ _

lemma routeStep_comm (h : route.descendant ≠ route'.descendant)
    (updates : BTreeMap RealmPath RouteEntry) :
    (routeStep e envelope updates route).bind (routeStep e envelope · route') =
      (routeStep e envelope updates route').bind (routeStep e envelope · route) := by
  simp only [routeStep, toOption_stageRouteEntry]
  exact BTreeMap.upsert?_comm (fun _ _ _ _ _ => rfl) h _ _ _

/-- The loop in another order. -/
lemma foldlM_stageRoute_perm {routes : List DescendantRoute} (hperm : routes.Perm routes')
    (h : routes.foldlM (stageRoute e envelope allocation) ⟨parents, ∅, [], []⟩ = .ok staged) :
    ∃ staged', routes'.foldlM (stageRoute e envelope allocation) ⟨parents, ∅, [], []⟩ =
        .ok staged' ∧
      staged'.parentUpdates = staged.parentUpdates ∧ staged'.routeUpdates = staged.routeUpdates ∧
      staged'.acceptedRoutes.Perm staged.acceptedRoutes := by
  obtain ⟨⟨hseen, hfits⟩, parentUpdates, routeUpdates, hedges, hentries, rfl⟩ :=
    foldlM_stageRoute_eq_ok.mp h
  have hnodup := nodup_of_not_seenTwice hseen
  have hne : ∀ a ∈ routes, ∀ b ∈ routes, a ≠ b → a.descendant ≠ b.descendant :=
    fun a ha b hb hab heq => hab (inj_on_of_nodup_map hnodup ha hb heq)
  refine ⟨_, foldlM_stageRoute_eq_ok.mpr ⟨⟨?_, ?_⟩, parentUpdates, routeUpdates, ?_, ?_, rfl⟩,
    rfl, rfl, ?_⟩
  · exact seenTwice_eq_false.mpr ⟨(hperm.map _).nodup_iff.mp hnodup, by simp⟩
  · exact fun route hroute => hfits route (hperm.mem_iff.mpr hroute)
  · rw [← foldlM_perm hperm fun a ha b hb hab => edgeStep_comm (hne a ha b hb hab), hedges]
  · rw [← foldlM_perm hperm fun a ha b hb hab => routeStep_comm (hne a ha b hb hab), hentries]
  · exact (hperm.map _).symm

end

/-! ## the admission -/

namespace RouteTreeEngine

/-- The envelope with its routes listed as `routes`. -/
def relisted (envelope : RouteAdvertisementEnvelope) (routes : List DescendantRoute) :
    RouteAdvertisementEnvelope :=
  { envelope with advertisement := { envelope.advertisement with routes } }

lemma stageAdvertisement_perm {e : RouteTreeEngine} {routes : List DescendantRoute}
    (h : e.stageAdvertisement envelope allocation = .ok staged)
    (hperm : envelope.advertisement.routes.Perm routes) :
    ∃ staged', e.stageAdvertisement (relisted envelope routes) allocation = .ok staged' ∧
      staged'.parentUpdates = staged.parentUpdates ∧ staged'.routeUpdates = staged.routeUpdates ∧
      staged'.acceptedRoutes.Perm staged.acceptedRoutes := by
  simp only [stageAdvertisement, ite_error_eq_ok, bind_eq_ok, Except.ok.injEq] at h ⊢
  obtain ⟨hmalformed, hexpired, hparent, hreplay, hallocation, parentUpdates, hstage, out, hloop,
    hfull, rfl⟩ := h
  obtain ⟨out', hloop', hedges, hentries, haccepted⟩ := foldlM_stageRoute_perm hperm hloop
  have hempty : routes.isEmpty = envelope.advertisement.routes.isEmpty := by
    rw [Bool.eq_iff_iff, List.isEmpty_iff, List.isEmpty_iff, ← List.length_eq_zero_iff,
      ← length_eq_zero_iff, hperm.length_eq]
  rw [← hempty] at hmalformed
  rw [hperm.length_eq] at hallocation
  unfold capacityPressure fullAfterPrune at hfull
  rw [← hedges, ← hentries] at hfull
  -- nothing else reads the list
  exact ⟨out', ⟨hmalformed, hexpired, hparent, hreplay, hallocation, parentUpdates, hstage, out',
    hloop', hfull, rfl⟩, hedges, hentries, haccepted⟩

/-- The routes of an advertisement, listed in any order, are denied together and leave the
engine as it was, or are accepted together as the same list, and leave the same engine. -/
theorem admission_ignores_route_order (e : RouteTreeEngine) (envelope : RouteAdvertisementEnvelope)
    (allocation : RouteNamespaceAllocation) (routes : List DescendantRoute)
    (hperm : envelope.advertisement.routes.Perm routes) :
    (∃ reason reason',
        (e.admitAdvertisement envelope allocation).1.outcome = .denied reason ∧
        (e.admitAdvertisement (relisted envelope routes) allocation).1.outcome = .denied reason' ∧
        (e.admitAdvertisement envelope allocation).2 = e ∧
        (e.admitAdvertisement (relisted envelope routes) allocation).2 = e) ∨
      ∃ accepted,
        (e.admitAdvertisement envelope allocation).1.outcome = .accepted accepted ∧
        (e.admitAdvertisement (relisted envelope routes) allocation).1.outcome =
          .accepted accepted ∧
        (e.admitAdvertisement (relisted envelope routes) allocation).2 =
          (e.admitAdvertisement envelope allocation).2 := by
  unfold admitAdvertisement
  cases hstage : e.stageAdvertisement envelope allocation with
  | error reason =>
    cases hstage' : e.stageAdvertisement (relisted envelope routes) allocation with
    | error reason' => exact .inl ⟨reason, reason', rfl, rfl, rfl, rfl⟩
    | ok staged =>
      -- listed back, they would have been staged too
      obtain ⟨_, hback, -⟩ := stageAdvertisement_perm hstage' hperm.symm
      exact absurd (hstage.symm.trans hback) (by simp)
  | ok staged =>
    obtain ⟨staged', hstage', hedges, hentries, haccepted⟩ := stageAdvertisement_perm hstage hperm
    rw [hstage']
    refine .inr ⟨_, rfl, ?_, ?_⟩
    · simp only [RouteAdvertisementAdmissionOutcome.accepted.injEq]
      exact (((perm_insertionSort _ _).trans haccepted).trans
        (perm_insertionSort _ _).symm).eq_of_pairwise' (pairwise_insertionSort _ _)
        (pairwise_insertionSort _ _)
    · simp only [commit, capacityPressure, hedges, hentries]
      rfl

open SmallRealm Sample in
/-- A direct route and one that passes through its descendant are accepted in either order. -/
theorem admission_ignores_route_order_transit :
    ((new root .hostLocal).admitAdvertisement
      (relisted ⟨advertisement work workApps lifecycle 1 5, 1⟩
        [route workAppsDb lifecycle, route workApps lifecycle])
      (allocation work lifecycle)).1.outcome = .accepted [routeId, routeId] := by
  have hlisted : ((new root .hostLocal).admitAdvertisement
      (relisted ⟨advertisement work workApps lifecycle 1 5, 1⟩
        [route workApps lifecycle, route workAppsDb lifecycle])
      (allocation work lifecycle)).1.outcome = .accepted [routeId, routeId] := by
    decide +kernel
  rcases admission_ignores_route_order (new root .hostLocal)
    (relisted ⟨advertisement work workApps lifecycle 1 5, 1⟩
      [route workApps lifecycle, route workAppsDb lifecycle]) (allocation work lifecycle)
    [route workAppsDb lifecycle, route workApps lifecycle] (List.Perm.swap _ _ _)
    with ⟨reason, _, hdenied, -⟩ | ⟨accepted, haccepted, haccepted', -⟩
  · rw [hlisted] at hdenied
    contradiction
  · rw [hlisted] at haccepted
    exact haccepted'.trans haccepted.symm

end RouteTreeEngine

end D2b

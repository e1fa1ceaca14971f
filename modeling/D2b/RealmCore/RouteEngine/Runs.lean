import D2b.RealmCore.RouteEngine.Admission

/-!
# D2b.RealmCore.RouteEngine.Runs

Runs of the route engine: admissions and expiry sweeps in any order, each
recorded with its arguments and its result.  `step_cases` says what one step
does to the engine, and the lookup lemmas say what of the engine survives a
sweep or a commit; the results over runs are derived from these.
-/

namespace D2b

open BTreeMap

namespace RouteTreeEngine

/-! ## events and steps -/

inductive Call where
  | advertise (envelope : RouteAdvertisementEnvelope) (allocation : RouteNamespaceAllocation)
  | prune (now : Nat)

/-- A call with what it returned. -/
inductive Event where
  | admitted (envelope : RouteAdvertisementEnvelope) (allocation : RouteNamespaceAllocation)
      (admission : RouteAdvertisementAdmission)
  | pruned (now : Nat) (report : RoutePruneReport)
deriving DecidableEq

/-- When the call was made. -/
def Event.time : Event → Nat
  | .admitted envelope _ _ => envelope.receivedAtUnixSeconds
  | .pruned now _ => now

section

variable (e : RouteTreeEngine)

def call : Call → Event × RouteTreeEngine
  | .advertise envelope allocation =>
    let (admission, e') := e.admitAdvertisement envelope allocation
    (.admitted envelope allocation admission, e')
  | .prune now =>
    let (report, e') := e.pruneExpired now
    (.pruned now report, e')

/-- `e` makes the event and becomes `e'`. -/
def Step (event : Event) (e' : RouteTreeEngine) : Prop := ∃ k, e.call k = (event, e')

lemma step_call (k : Call) : e.Step (e.call k).1 (e.call k).2 := ⟨k, rfl⟩

/-- An engine as the two constructors return it. -/
def IsNew : Prop :=
  (∃ localRoot placement, e = new localRoot placement) ∨
    ∃ localRoot placement parents routes keys,
      e = withCapacityLimits localRoot placement parents routes keys

end

/-- The run a list of calls makes. -/
lemma run_exec (hnew : IsNew e) (calls : List Call) :
    Trace.Run IsNew (fun _ => Step) (Trace.exec call e calls).1 (Trace.exec call e calls).2 :=
  Trace.Run.exec (fun _ e k => e.step_call k) calls (.nil hnew)

abbrev Admission := RouteAdvertisementEnvelope × RouteNamespaceAllocation

/-- The admission of an event that accepted one. -/
def Event.accepted? : Event → Option Admission
  | .admitted envelope allocation ⟨.accepted _, _⟩ => some (envelope, allocation)
  | _ => none

/-- The accepted admissions of a history, oldest first. -/
def acceptedIn (history : List Event) : List Admission := history.filterMap Event.accepted?

lemma acceptedIn_snoc (history : List Event) (event : Event) :
    acceptedIn (history ++ [event]) = acceptedIn history ++ event.accepted?.toList := by
  unfold acceptedIn
  rw [List.filterMap_append]
  cases h : event.accepted? <;> simp [h]

variable {event : Event}

lemma time_of_accepted? (h : event.accepted? = some a) :
    event.time = a.1.receivedAtUnixSeconds := by
  unfold Event.accepted? at h
  split at h
  · cases h; rfl
  · contradiction

lemma admitted_of_accepted? (h : event.accepted? = some a) :
    ∃ admission, event = .admitted a.1 a.2 admission := by
  unfold Event.accepted? at h
  split at h
  · cases h; exact ⟨_, rfl⟩
  · contradiction

/-- What one step does: a denial leaves the engine alone, an acceptance
commits what was staged, a sweep prunes. -/
lemma step_cases {e' : RouteTreeEngine} (h : e.Step event e') :
    (event.accepted? = none ∧ (∃ envelope allocation admission,
        event = .admitted envelope allocation admission) ∧ e' = e) ∨
    (event.accepted? = none ∧ e' = (e.pruneExpired event.time).2) ∨
    (∃ envelope allocation staged, event.accepted? = some (envelope, allocation) ∧
      e.stageAdvertisement envelope allocation = .ok staged ∧ e' = e.commit envelope staged) := by
  obtain ⟨k, hk⟩ := h
  cases k with
  | prune now =>
    cases hk
    exact .inr (.inl ⟨rfl, rfl⟩)
  | advertise envelope allocation =>
    unfold call admitAdvertisement at hk
    cases hstage : e.stageAdvertisement envelope allocation with
    | error reason =>
      simp only [hstage] at hk
      cases hk
      exact .inl ⟨rfl, ⟨_, _, _, rfl⟩, rfl⟩
    | ok staged =>
      simp only [hstage] at hk
      cases hk
      exact .inr (.inr ⟨envelope, allocation, staged, rfl, hstage, rfl⟩)

/-! ## what survives a sweep -/

section

variable {e : RouteTreeEngine}

lemma pruneExpired_parents {child : RealmPath} :
    (e.pruneExpired now).2.parents[child]? = some entry ↔
      e.parents[child]? = some entry ∧ now < entry.expiresAtUnixSeconds := by
  simp only [pruneExpired, get_filter_eq_some, Bool.not_eq_true', isExpired_eq_false]

lemma pruneExpired_routes {descendant : RealmPath} :
    (e.pruneExpired now).2.routes[descendant]? = some entry ↔
      e.routes[descendant]? = some entry ∧ now < entry.expiresAtUnixSeconds := by
  simp only [pruneExpired, get_filter_eq_some, Bool.not_eq_true', isExpired_eq_false]

lemma pruneExpired_replayedAdverts {key : ReplayKey} :
    (e.pruneExpired now).2.replayedAdverts[key]? = some expiresAt ↔
      e.replayedAdverts[key]? = some expiresAt ∧ now < expiresAt := by
  simp only [pruneExpired, get_filter_eq_some, Bool.not_eq_true', isExpired_eq_false]

end

/-! ## what a commit leaves -/

section

variable {e : RouteTreeEngine}

/-- The engine the updates go into. -/
lemma commit_room (e : RouteTreeEngine) (envelope : RouteAdvertisementEnvelope)
    (staged : Staged) : ∃ room : RouteTreeEngine,
    (room = e ∨ room = e.makeRoom envelope) ∧
      (e.commit envelope staged).parents = room.parents ∪ staged.parentUpdates ∧
      (e.commit envelope staged).routes = room.routes ∪ staged.routeUpdates ∧
      (e.commit envelope staged).replayedAdverts = room.replayedAdverts.insert
        (replayKey envelope.advertisement) envelope.advertisement.expiresAtUnixSeconds := by
  refine ⟨_, ?_, rfl, rfl, rfl⟩
  cases e.capacityPressure envelope staged
  · exact .inl rfl
  · exact .inr rfl

variable {child : RealmPath}

/-- A parent entry after a commit was staged, or was there before. -/
lemma commit_parents_of_get {entry : ParentEntry}
    (h : (e.commit envelope staged).parents[child]? = some entry) :
    staged.parentUpdates[child]? = some entry ∨ e.parents[child]? = some entry := by
  obtain ⟨room, hroom, hparents, -, -⟩ := commit_room e envelope staged
  rw [hparents, get_union, Option.or_eq_some_iff] at h
  rcases h with h | ⟨-, h⟩
  · exact .inl h
  · rcases hroom with rfl | rfl
    · exact .inr h
    · exact .inr (pruneExpired_parents.mp h).1

/-- A route entry after a commit was staged, or was there before. -/
lemma commit_routes_of_get {descendant : RealmPath}
    (h : (e.commit envelope staged).routes[descendant]? = some entry) :
    staged.routeUpdates[descendant]? = some entry ∨ e.routes[descendant]? = some entry := by
  obtain ⟨room, hroom, -, hroutes, -⟩ := commit_room e envelope staged
  rw [hroutes, get_union, Option.or_eq_some_iff] at h
  rcases h with h | ⟨-, h⟩
  · exact .inl h
  · rcases hroom with rfl | rfl
    · exact .inr h
    · exact .inr (pruneExpired_routes.mp h).1

/-- Staged entries are there after the commit. -/
lemma commit_parents_of_staged (h : staged.parentUpdates[child]? = some entry) :
    (e.commit envelope staged).parents[child]? = some entry := by
  obtain ⟨room, -, hparents, -, -⟩ := commit_room e envelope staged
  rw [hparents, get_union, h, Option.some_or]

/-- A parent entry that has not expired survives a commit, unless a staged one
takes its place. -/
lemma commit_parents_of_live (staged : Staged) {entry : ParentEntry}
    (h : e.parents[child]? = some entry)
    (hlive : envelope.receivedAtUnixSeconds < entry.expiresAtUnixSeconds) :
    (e.commit envelope staged).parents[child]? = staged.parentUpdates[child]?.or (some entry) := by
  obtain ⟨room, hroom, hparents, -, -⟩ := commit_room e envelope staged
  rw [hparents, get_union]
  rcases hroom with rfl | rfl
  · rw [h]
  · rw [show (e.makeRoom envelope).parents[child]? = some entry from
      pruneExpired_parents.mpr ⟨h, hlive⟩]

/-- The advertisement itself is remembered. -/
lemma commit_replayedAdverts_self :
    (e.commit envelope staged).replayedAdverts[replayKey envelope.advertisement]? =
      some envelope.advertisement.expiresAtUnixSeconds := by
  obtain ⟨room, -, -, -, hkeys⟩ := commit_room e envelope staged
  rw [hkeys, get_insert_self]

lemma makeRoom_replayedAdverts {key : ReplayKey} :
    (e.makeRoom envelope).replayedAdverts[key]? = some expiresAt ↔
      (e.replayedAdverts[key]? = some expiresAt ∧ envelope.receivedAtUnixSeconds < expiresAt) ∧
        isSupersededReplayKey key expiresAt envelope.advertisement = false := by
  unfold makeRoom pruneSupersededReplayKeys
  simp only [get_filter_eq_some, pruneExpired_replayedAdverts, Bool.not_eq_true']

/-- Other keys after a commit were there before. -/
lemma commit_replayedAdverts_of_get (hne : replayKey envelope.advertisement ≠ key)
    (h : (e.commit envelope staged).replayedAdverts[key]? = some expiresAt) :
    e.replayedAdverts[key]? = some expiresAt := by
  obtain ⟨room, hroom, -, -, hkeys⟩ := commit_room e envelope staged
  rw [hkeys, get_insert_of_ne _ _ hne] at h
  rcases hroom with rfl | rfl
  · exact h
  · exact (makeRoom_replayedAdverts.mp h).1.1

/-- A key that has not expired survives a commit, unless the advertisement
supersedes it. -/
lemma commit_replayedAdverts_of_live (staged : Staged)
    (hne : replayKey envelope.advertisement ≠ key) (h : e.replayedAdverts[key]? = some expiresAt)
    (hlive : envelope.receivedAtUnixSeconds < expiresAt) :
    (e.commit envelope staged).replayedAdverts[key]? = some expiresAt ∨
      isSupersededReplayKey key expiresAt envelope.advertisement = true := by
  obtain ⟨room, hroom, -, -, hkeys⟩ := commit_room e envelope staged
  rw [hkeys, get_insert_of_ne _ _ hne]
  rcases hroom with rfl | rfl
  · exact .inl h
  · cases hsup : isSupersededReplayKey key expiresAt envelope.advertisement with
    | false => exact .inl (makeRoom_replayedAdverts.mpr ⟨⟨h, hlive⟩, hsup⟩)
    | true => exact .inr rfl

end

/-! ## a small tree -/

/- Two realms below the root, one of them two levels deep; what the concrete
runs are made of. -/

namespace Sample

open SmallRealm

def lab : RealmPath := ⟨⟨"lab", by decide⟩ :: root.labels, by decide⟩
def workApps : RealmPath := ⟨⟨"apps", by decide⟩ :: work.labels, by decide⟩
def labApps : RealmPath := ⟨⟨"apps", by decide⟩ :: lab.labels, by decide⟩
def workAppsDb : RealmPath := ⟨⟨"db", by decide⟩ :: workApps.labels, by decide⟩

def routeId : RouteId := ⟨"route-1", by decide⟩

/-- The route to `descendant` by the child `apps`. -/
def route (descendant : RealmPath) (capabilities : CapabilitySet) : DescendantRoute :=
  ⟨routeId, descendant, ⟨"apps", by decide⟩, capabilities⟩

/-- An advertisement of `realm`, a child of the root, for one route. -/
def advertisement (realm descendant : RealmPath) (capabilities : CapabilitySet)
    (issuedAt expiresAt : Nat) : RouteAdvertisement where
  advertisingRealm := realm
  treeEdge := ⟨root, realm⟩
  controllerGeneration := gen1
  routes := [route descendant capabilities]
  issuedAtUnixSeconds := issuedAt
  expiresAtUnixSeconds := expiresAt
  signature := ⟨⟨"sig-1", by decide⟩⟩

/-- The allocation of everything below `realm`. -/
def allocation (realm : RealmPath) (ceiling : CapabilitySet) : RouteNamespaceAllocation :=
  ⟨⟨root, realm⟩, gen1, [realm], 8, ceiling⟩

def lifecycle : CapabilitySet := ⟨{.lifecycle}, ∅⟩

end Sample

end RouteTreeEngine

end D2b

import D2b.RealmCore.RouteEngine.Runs

/-!
# D2b.RealmCore.RouteEngine.Replay

Replay protection over whole runs.

An accepted advertisement is kept from being accepted again by its replay key
or, once capacity pressure has dropped that key, by the issue time of the
parent entry of its realm.  The second guard is only as good as the entry's
expiry: a newer advertisement that touches the realm overwrites the entry with
its own, possibly earlier, expiry, and after that nothing guards the older
one (`exists_run_accepting_twice`).  `accepted_once` says that this, and an
identity presented again with a later expiry, is the only way: in a run where
neither happens no advertisement is accepted twice.
-/

namespace D2b

open List

namespace RouteTreeEngine

/-- The identity under which an admission is remembered. -/
def Admission.key (a : Admission) : ReplayKey := replayKey a.1.advertisement

/-- The advertisement has an entry staged for `realm`: it advertises it, or
one of its routes enters it. -/
def Touches (advertisement : RouteAdvertisement) (realm : RealmPath) : Prop :=
  realm = advertisement.advertisingRealm ∨
    ∃ route ∈ advertisement.routes,
      directChildBelow route.descendant advertisement.advertisingRealm = some realm

/-- What has to hold of an admission so that it opens no way to a replay. -/
structure ReplaySafe (history : List Event) (e : RouteTreeEngine)
    (envelope : RouteAdvertisementEnvelope) : Prop where
  /-- An identity is not presented again with a later expiry. -/
  sameExpiry : ∀ a ∈ acceptedIn history, a.key = replayKey envelope.advertisement →
    envelope.advertisement.expiresAtUnixSeconds ≤ a.1.advertisement.expiresAtUnixSeconds
  /-- The realm of an accepted, unexpired advertisement whose key is gone is
  not touched by one that expires earlier. -/
  outlives : ∀ a ∈ acceptedIn history,
    envelope.receivedAtUnixSeconds < a.1.advertisement.expiresAtUnixSeconds →
    a.key ∉ e.replayedAdverts →
    Touches envelope.advertisement a.1.advertisement.advertisingRealm →
    a.1.advertisement.expiresAtUnixSeconds ≤ envelope.advertisement.expiresAtUnixSeconds

/-- A step whose admission, if it is one, is replay safe. -/
def ReplaySafeStep (history : List Event) (e : RouteTreeEngine) (event : Event)
    (e' : RouteTreeEngine) : Prop :=
  e.Step event e' ∧ ∀ envelope allocation admission,
    event = .admitted envelope allocation admission → ReplaySafe history e envelope

/-! ## the guards -/

/-- The engine would refuse the admission: its key is held, or its realm has
an entry that is as new and lives as long. -/
def Guarded (e : RouteTreeEngine) (a : Admission) : Prop :=
  e.replayedAdverts[a.key]? = some a.1.advertisement.expiresAtUnixSeconds ∨
    ∃ entry, e.parents[a.1.advertisement.advertisingRealm]? = some entry ∧
      a.1.advertisement.issuedAtUnixSeconds ≤ entry.issuedAtUnixSeconds ∧
      a.1.advertisement.expiresAtUnixSeconds ≤ entry.expiresAtUnixSeconds

/-- The invariant of replay-safe runs. -/
structure ReplayGuarded (history : List Event) (e : RouteTreeEngine) : Prop where
  once : ((acceptedIn history).map Admission.key).Nodup
  stored : ∀ a ∈ acceptedIn history, ∀ expiresAt, e.replayedAdverts[a.key]? = some expiresAt →
    expiresAt = a.1.advertisement.expiresAtUnixSeconds
  guarded : ∀ a ∈ acceptedIn history, ∀ now, (∀ event ∈ history, event.time ≤ now) →
    now < a.1.advertisement.expiresAtUnixSeconds → Guarded e a

section

section

variable (hinv : ReplayGuarded history e)
include hinv

section

variable (hsafe : ReplaySafe history e envelope)
  (hclock : ∀ event ∈ history, event.time ≤ envelope.receivedAtUnixSeconds)
  (hstage : e.stageAdvertisement envelope allocation = .ok staged)
include hsafe hclock hstage

/-- The guards do their work: a replay does not get through the checks. -/
lemma key_ne_of_staged (ha : a ∈ acceptedIn history) :
    a.key ≠ replayKey envelope.advertisement := by
  intro hkey
  obtain ⟨hadm, hst, -⟩ := stageAdvertisement_ok hstage
  have hexp := hsafe.sameExpiry a ha hkey
  have hnow : envelope.receivedAtUnixSeconds < a.1.advertisement.expiresAtUnixSeconds :=
    Nat.lt_of_lt_of_le hadm.unexpired hexp
  have hrealm : a.1.advertisement.advertisingRealm = envelope.advertisement.advertisingRealm :=
    congrArg ReplayKey.advertisingRealm hkey
  have hissued : a.1.advertisement.issuedAtUnixSeconds =
      envelope.advertisement.issuedAtUnixSeconds := congrArg ReplayKey.issuedAtUnixSeconds hkey
  rcases hinv.guarded a ha _ hclock hnow with hheld | ⟨entry, hentry, hle, hlong⟩
  · rw [hkey] at hheld
    exact absurd (hadm.notReplayed _ hheld) (Nat.not_le.mpr hnow)
  · -- the entry of the realm is live and as new, so the edge is not staged
    rw [hrealm] at hentry
    obtain ⟨up, hup⟩ := BTreeMap.get_of_mem hst.advertiser
    have hnewer := (hst.parent _ up hup).newer entry hentry
      (isExpired_eq_false.mpr (Nat.lt_of_lt_of_le hnow hlong))
    omega

/-- An accepted advertisement stays guarded through a later commit. -/
lemma guarded_commit (ha : a ∈ acceptedIn history)
    (hnow : envelope.receivedAtUnixSeconds < a.1.advertisement.expiresAtUnixSeconds) :
    Guarded (e.commit envelope staged) a := by
  obtain ⟨-, hst, -⟩ := stageAdvertisement_ok hstage
  have hne := key_ne_of_staged hinv hsafe hclock hstage ha
  by_cases hheld : a.key ∈ e.replayedAdverts
  · obtain ⟨x, hx⟩ := BTreeMap.get_of_mem hheld
    have hxa := hinv.stored a ha x hx
    subst hxa
    rcases commit_replayedAdverts_of_live staged hne.symm hx hnow with hkept | hsup
    · exact .inl hkept
    · -- superseded: the entry of the advertising realm takes over
      simp only [isSupersededReplayKey, Bool.and_eq_true, decide_eq_true_eq] at hsup
      obtain ⟨⟨⟨hrealm, -⟩, hissued⟩, hexpires⟩ := hsup
      obtain ⟨up, hup⟩ := BTreeMap.get_of_mem hst.advertiser
      have hupd := hst.parent _ up hup
      rw [← hrealm] at hup
      refine .inr ⟨up, commit_parents_of_staged hup, ?_, ?_⟩
      · rw [hupd.issued]; exact Nat.le_of_lt hissued
      · rw [hupd.expires]; exact hexpires
  · rcases hinv.guarded a ha _ hclock hnow with hkey | ⟨entry, hentry, hissued, hexpires⟩
    · exact absurd (BTreeMap.mem_of_get hkey) hheld
    · have hlive := Nat.lt_of_lt_of_le hnow hexpires
      have hget := commit_parents_of_live staged hentry hlive
      cases hup : staged.parentUpdates[a.1.advertisement.advertisingRealm]? with
      | none =>
        rw [hup] at hget
        exact .inr ⟨entry, hget, hissued, hexpires⟩
      | some up =>
        have hupd := hst.parent _ up hup
        have hnewer := hupd.newer entry hentry (isExpired_eq_false.mpr hlive)
        have htouch : Touches envelope.advertisement a.1.advertisement.advertisingRealm :=
          hupd.origin.imp And.left And.right
        refine .inr ⟨up, commit_parents_of_staged hup, ?_, ?_⟩
        · rw [hupd.issued]; omega
        · rw [hupd.expires]; exact hsafe.outlives a ha hnow hheld htouch

/-- Accepting one more admission keeps the invariant. -/
lemma ReplayGuarded.commit (haccepted : event.accepted? = some (envelope, allocation)) :
    ReplayGuarded (history ++ [event]) (e.commit envelope staged) := by
  have hne : ∀ a ∈ acceptedIn history, a.key ≠ replayKey envelope.advertisement :=
    fun a ha => key_ne_of_staged hinv hsafe hclock hstage ha
  have hnew : acceptedIn (history ++ [event]) = acceptedIn history ++ [(envelope, allocation)] := by
    rw [acceptedIn_snoc, haccepted]; rfl
  constructor
  case once =>
    rw [hnew, map_append, map_singleton, ← concat_eq_append, nodup_concat]
    refine ⟨fun hmem => ?_, hinv.once⟩
    obtain ⟨a, ha, heq⟩ := mem_map.mp hmem
    exact hne a ha heq
  case stored =>
    intro a ha expiresAt hget
    rw [hnew, Trace.mem_snoc] at ha
    rcases ha with ha | rfl
    · exact hinv.stored a ha _ (commit_replayedAdverts_of_get (hne a ha).symm hget)
    · rw [Admission.key, commit_replayedAdverts_self] at hget
      exact (Option.some.inj hget).symm
  case guarded =>
    intro a ha now htimes hnow
    rw [hnew, Trace.mem_snoc] at ha
    rcases ha with ha | rfl
    · have hlast := htimes event mem_concat_self
      rw [time_of_accepted? haccepted] at hlast
      exact guarded_commit hinv hsafe hclock hstage ha (Nat.lt_of_le_of_lt hlast hnow)
    · exact .inl commit_replayedAdverts_self

end

/-- A sweep removes no guard of an advertisement that has not expired. -/
lemma ReplayGuarded.prune (hnone : event.accepted? = none) :
    ReplayGuarded (history ++ [event]) (e.pruneExpired event.time).2 := by
  have hsame : acceptedIn (history ++ [event]) = acceptedIn history := by
    rw [acceptedIn_snoc, hnone]; exact append_nil _
  constructor
  case once => rw [hsame]; exact hinv.once
  case stored =>
    intro a ha expiresAt hget
    rw [hsame] at ha
    exact hinv.stored a ha _ (pruneExpired_replayedAdverts.mp hget).1
  case guarded =>
    intro a ha now htimes hnow
    rw [hsame] at ha
    have hlast := htimes event mem_concat_self
    have hbefore : ∀ event ∈ history, event.time ≤ now :=
      fun ev hev => htimes ev (mem_append_left _ hev)
    rcases hinv.guarded a ha now hbefore hnow with hkey | ⟨entry, hentry, hissued, hexpires⟩
    · exact .inl (pruneExpired_replayedAdverts.mpr ⟨hkey, Nat.lt_of_le_of_lt hlast hnow⟩)
    · refine .inr ⟨entry, pruneExpired_parents.mpr ⟨hentry, ?_⟩, hissued, hexpires⟩
      exact Nat.lt_of_le_of_lt hlast (Nat.lt_of_lt_of_le hnow hexpires)

/-- A denied admission changes nothing. -/
lemma ReplayGuarded.deny (hnone : event.accepted? = none) :
    ReplayGuarded (history ++ [event]) e := by
  have hsame : acceptedIn (history ++ [event]) = acceptedIn history := by
    rw [acceptedIn_snoc, hnone]; exact append_nil _
  refine ⟨by rw [hsame]; exact hinv.once, by rw [hsame]; exact hinv.stored, ?_⟩
  intro a ha now htimes
  rw [hsame] at ha
  exact hinv.guarded a ha now fun ev hev => htimes ev (mem_append_left _ hev)

end

end

/-! ## runs -/

/-- In a run whose admissions are all replay safe, with a clock that does not
go back, no advertisement is accepted twice. -/
theorem accepted_once {history : List Event} {e : RouteTreeEngine}
    (hrun : Trace.Run IsNew ReplaySafeStep history e)
    (hclock : (history.map Event.time).Pairwise (· ≤ ·)) :
    ((acceptedIn history).map Admission.key).Nodup := by
  suffices h : (history.map Event.time).Pairwise (· ≤ ·) → ReplayGuarded history e from
    (h hclock).once
  apply hrun.invariant
  · intro e _ _
    exact ⟨nodup_nil, by simp [acceptedIn], by simp [acceptedIn]⟩
  · rintro history e event e' - hinv ⟨hstep, hsafe⟩ hsorted
    rw [map_append, pairwise_append] at hsorted
    obtain ⟨hbefore, -, hlast⟩ := hsorted
    have htimes : ∀ ev ∈ history, ev.time ≤ event.time := fun ev hev =>
      hlast _ (mem_map_of_mem hev) _ (by simp)
    rcases step_cases hstep with ⟨hnone, -, rfl⟩ | ⟨hnone, rfl⟩ |
      ⟨envelope, allocation, staged, haccepted, hstage, rfl⟩
    · exact (hinv hbefore).deny hnone
    · exact (hinv hbefore).prune hnone
    · obtain ⟨admission, hevent⟩ := admitted_of_accepted? haccepted
      rw [time_of_accepted? haccepted] at htimes
      exact (hinv hbefore).commit (hsafe _ _ _ hevent) htimes hstage haccepted

namespace Sample

open SmallRealm

/-- An advertisement of `work` issued at `issuedAt`, received the same second. -/
def workEnvelope (issuedAt : Nat) : RouteAdvertisementEnvelope :=
  ⟨advertisement work workApps lifecycle issuedAt 100, issuedAt⟩

/-- Present it. -/
def workCall (issuedAt : Nat) : Call :=
  .advertise (workEnvelope issuedAt) (allocation work lifecycle)

end Sample

open SmallRealm Sample in
/-- A refresh after the first advertisement is such a run, and both are
accepted. -/
theorem accepted_once_refresh : ∃ history e, Trace.Run IsNew ReplaySafeStep history e ∧
    (acceptedIn history).length = 2 ∧ ((acceptedIn history).map Admission.key).Nodup := by
  have hfirst : ReplaySafeStep [] (new root .hostLocal) ((new root .hostLocal).call (workCall 1)).1
      ((new root .hostLocal).call (workCall 1)).2 :=
    ⟨step_call _ _, fun _ _ _ _ => ⟨by simp [acceptedIn], by simp [acceptedIn]⟩⟩
  have haccepted : acceptedIn [((new root .hostLocal).call (workCall 1)).1] =
      [(workEnvelope 1, allocation work lifecycle)] := by decide +kernel
  have hsecond : ∀ e, ReplaySafeStep [((new root .hostLocal).call (workCall 1)).1] e
      (e.call (workCall 2)).1 (e.call (workCall 2)).2 := by
    intro e
    refine ⟨step_call _ _, fun envelope _ _ hevent => ?_⟩
    obtain rfl : workEnvelope 2 = envelope := by cases hevent; rfl
    refine ⟨?_, ?_⟩ <;> rw [haccepted] <;> simp [workEnvelope, advertisement]
  have hnew : IsNew (new root .hostLocal) := .inl ⟨_, _, rfl⟩
  have hrun := Trace.Run.snoc (.snoc (.nil hnew) hfirst) (hsecond _)
  exact ⟨_, _, hrun, by decide +kernel, accepted_once hrun (by decide +kernel)⟩

open SmallRealm Sample in
/-- With two replay keys of capacity: the refresh at time 2 drops the key of
the first advertisement, the short-lived one at time 3 takes over the entries
of its realm, and once these have expired the first one is accepted again,
ninety seconds before its expiry. -/
theorem exists_run_accepting_twice : ∃ history e, Trace.Run IsNew (fun _ => Step) history e ∧
    (history.map Event.time).Pairwise (· ≤ ·) ∧
    ¬ ((acceptedIn history).map Admission.key).Nodup := by
  have hnew : IsNew (withCapacityLimits root .hostLocal 8 8 2) := .inr ⟨_, _, _, _, _, rfl⟩
  have hrun := run_exec hnew
    [ workCall 1,
      .advertise ⟨advertisement lab labApps lifecycle 1 3, 1⟩ (allocation lab lifecycle),
      workCall 2,
      .advertise ⟨advertisement work workApps lifecycle 3 10, 3⟩ (allocation work lifecycle),
      .advertise ⟨advertisement work workApps lifecycle 1 100, 10⟩ (allocation work lifecycle) ]
  exact ⟨_, _, hrun, by decide +kernel, by decide +kernel⟩

end RouteTreeEngine

end D2b

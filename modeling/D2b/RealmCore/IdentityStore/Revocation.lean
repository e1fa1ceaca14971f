import D2b.RealmCore.IdentityStore

/-!
# D2b.RealmCore.IdentityStore.Revocation

What applying one revocation record does.  A record applies to a store or it
does not (`Applies`); if not, the store is left alone, and if it does, the
generations it strikes are revoked and everything else about the generations
and recoveries stays (`Struck`).  Whether a record applies does not depend on
the records applied before it.
-/

namespace D2b

open Command BTreeMap

structure ControllerGenerationMetadata.SameRefs (g g' : ControllerGenerationMetadata) : Prop where
  key : g'.key = g.key
  identityRef : g'.realmIdentity.identityRef = g.realmIdentity.identityRef
  fingerprint : g'.realmIdentity.fingerprint = g.realmIdentity.fingerprint
  credentialRef : g'.credentialRef = g.credentialRef
  credentialFingerprint : g'.credentialFingerprint = g.credentialFingerprint

lemma ControllerGenerationMetadata.SameRefs.symm {g' : ControllerGenerationMetadata}
    (h : g.SameRefs g') : g'.SameRefs g :=
  ⟨h.key.symm, h.identityRef.symm, h.fingerprint.symm, h.credentialRef.symm,
    h.credentialFingerprint.symm⟩

namespace RealmIdentityStore

/-- Every generation is stored under its own key. -/
def Keyed (generations : BTreeMap GenerationKey ControllerGenerationMetadata) : Prop :=
  ∀ (key : GenerationKey) (g : ControllerGenerationMetadata),
    generations[key]? = some g → g.key = key

/-- The record has something to strike. -/
def Applies (s : RealmIdentityStore) : RevocationTarget → Prop
  | .realm realm => ∃ (id : ControllerGenerationId) (g : ControllerGenerationMetadata),
      s.controllerGenerations[toLex (realm, id)]? = some g
  | .realmIdentity realm identityRef fingerprint =>
    validateIdentityRef identityRef = .ok () ∧
    ∃ (id : ControllerGenerationId) (g : ControllerGenerationMetadata),
      s.controllerGenerations[toLex (realm, id)]? = some g ∧
      g.realmIdentity.identityRef = identityRef ∧ g.realmIdentity.fingerprint = fingerprint
  | .controllerGeneration realm id =>
    ∃ g, s.controllerGenerations[toLex (realm, id)]? = some g
  | .controllerCredential realm credentialRef fingerprint =>
    validateCredentialRef credentialRef = .ok () ∧
    ∃ (id : ControllerGenerationId) (g : ControllerGenerationMetadata),
      s.controllerGenerations[toLex (realm, id)]? = some g ∧
      g.credentialRef = credentialRef ∧ g.credentialFingerprint = fingerprint
  | .enrollment enrollmentId => s.enrollments.contains enrollmentId = true
  | .realmKey .. | .policyGrant .. | .capabilityGrant .. => True

def IsRevoked (s : RealmIdentityStore) (key : GenerationKey) : Prop :=
  ∃ g, s.controllerGenerations[key]? = some g ∧ g.status = .revoked

/-- What striking a target does to generations, index and recoveries. -/
structure Struck (target : RevocationTarget) (s s' : RealmIdentityStore) : Prop where
  /-- A generation stays as it is or becomes revoked. -/
  generation : ∀ key : GenerationKey,
    s'.controllerGenerations[key]? = s.controllerGenerations[key]? ∨
    ∃ g g', s.controllerGenerations[key]? = some g ∧ s'.controllerGenerations[key]? = some g' ∧
      g'.status = .revoked ∧ g.SameRefs g'
  /-- The index only shrinks, and what it still names was not struck. -/
  index : ∀ (realm : RealmPath) (id : ControllerGenerationId),
    s'.activeGenerations[realm]? = some id → s.activeGenerations[realm]? = some id ∧
      s'.controllerGenerations[toLex (realm, id)]? = s.controllerGenerations[toLex (realm, id)]?
  /-- A generation leaves the index when it is struck, or another identity of its realm is. -/
  dropped : ∀ (realm : RealmPath) (id : ControllerGenerationId) (g : ControllerGenerationMetadata),
    s.controllerGenerations[toLex (realm, id)]? = some g →
    s.activeGenerations[realm]? = some id → s'.activeGenerations[realm]? ≠ some id →
      s'.IsRevoked (toLex (realm, id)) ∨
        ∃ identityRef fingerprint, target = .realmIdentity realm identityRef fingerprint ∧
          ¬(g.realmIdentity.identityRef = identityRef ∧ g.realmIdentity.fingerprint = fingerprint)
  recoveries : s'.recoveries = s.recoveries

/-- What striking a target does not touch otherwise. -/
structure SameRecords (s s' : RealmIdentityStore) : Prop where
  enrollments : ∀ id, s'.enrollments.contains id = s.enrollments.contains id
  revocations : s'.revocations = s.revocations

/-- What applying a record does. -/
structure Recorded (record : RevocationRecord) (s s' : RealmIdentityStore) : Prop where
  struck : Struck record.target s s'
  applies : ∀ target, s'.Applies target ↔ s.Applies target
  known : ∀ id, s'.revocations.contains id = true ↔
    id = record.revocationId ∨ s.revocations.contains id = true

/-! ## keys -/

variable {s : RealmIdentityStore}

lemma mem_generationKeys :
    key ∈ s.generationKeys p ↔ ∃ g, s.controllerGenerations[key]? = some g ∧ p key g = true := by
  unfold generationKeys
  simp only [List.mem_map, List.mem_filter, Prod.exists, exists_eq_right, mem_toList,
    exists_and_right]

lemma nodup_generationKeys (s : RealmIdentityStore)
    (p : GenerationKey → ControllerGenerationMetadata → Bool) : (s.generationKeys p).Nodup := by
  have hkeys : (s.controllerGenerations.toList.map Prod.fst).Nodup := by
    rw [Std.ExtTreeMap.map_fst_toList_eq_keys]
    exact nodup_keys _
  exact hkeys.sublist (List.filter_sublist.map _)

lemma get_dropActive {id : ControllerGenerationId} :
    (dropActive active realm generation)[r]? = some id ↔
      active[r]? = some id ∧ ¬(r = realm ∧ id = generation) := by
  unfold dropActive
  by_cases hnamed : active[realm]? = some generation
  · rw [if_pos hnamed, get_erase]
    by_cases hr : realm = r
    · subst hr
      simp [hnamed, eq_comm]
    · simp [hr, Ne.symm hr]
  · rw [if_neg hnamed]
    refine ⟨fun h => ⟨h, ?_⟩, fun h => h.1⟩
    rintro ⟨rfl, rfl⟩
    exact hnamed h

/-! ## strikes -/

variable {s' : RealmIdentityStore}

lemma Struck.of_same (hgens : s'.controllerGenerations = s.controllerGenerations)
    (hactive : s'.activeGenerations = s.activeGenerations)
    (hrecoveries : s'.recoveries = s.recoveries) : Struck target s s' where
  generation key := .inl (by rw [hgens])
  index realm id h := by rw [hactive] at h; exact ⟨h, by rw [hgens]⟩
  dropped realm id g _ h hne := absurd (by rw [hactive]; exact h) hne
  recoveries := hrecoveries

/-- Striking the generations of a realm that pass a test, with the index. -/
lemma struck_identity (realm : RealmPath)
    (p : GenerationKey → ControllerGenerationMetadata → Bool) (revocationId : RevocationId)
    (hp : ∀ key g, p key g = true → (ofLex key).1 = realm)
    (htarget : ∀ id g, p (toLex (realm, id)) g = true ∨ ∃ identityRef fingerprint,
      target = .realmIdentity realm identityRef fingerprint ∧
        ¬(g.realmIdentity.identityRef = identityRef ∧ g.realmIdentity.fingerprint = fingerprint)) :
    Struck target s
      { s with
        controllerGenerations := (s.generationKeys p).foldl
          (fun generations key => generations.modify key (revokedWithIdentity revocationId))
          s.controllerGenerations
        activeGenerations := s.activeGenerations.erase realm } where
  generation key := by
    rw [get_foldl_modify _ _ _ (nodup_generationKeys s p)]
    by_cases hmem : key ∈ s.generationKeys p
    · obtain ⟨g, hg, -⟩ := mem_generationKeys.mp hmem
      rw [if_pos hmem, hg]
      exact .inr ⟨g, _, rfl, rfl, rfl, ⟨rfl, rfl, rfl, rfl, rfl⟩⟩
    · rw [if_neg hmem]
      exact .inl rfl
  index r id h := by
    rw [get_erase] at h
    by_cases hr : realm = r
    · rw [if_pos hr] at h
      contradiction
    · rw [if_neg hr] at h
      refine ⟨h, ?_⟩
      rw [get_foldl_modify _ _ _ (nodup_generationKeys s p), if_neg]
      intro hmem
      obtain ⟨g, -, hpass⟩ := mem_generationKeys.mp hmem
      exact hr (hp _ _ hpass).symm
  dropped r id g hg hnamed hne := by
    rw [get_erase] at hne
    by_cases hr : realm = r
    · subst hr
      rcases htarget id g with hpass | hidentity
      · left
        have hmem : toLex (realm, id) ∈ s.generationKeys p := mem_generationKeys.mpr ⟨g, hg, hpass⟩
        refine ⟨revokedWithIdentity revocationId g, ?_, rfl⟩
        rw [get_foldl_modify _ _ _ (nodup_generationKeys s p), if_pos hmem, hg]
        rfl
      · exact .inr hidentity
    · rw [if_neg hr] at hne
      exact absurd hnamed hne
  recoveries := rfl

/-- Striking one generation, and the index if it names it. -/
lemma struck_generation {id : ControllerGenerationId}
    (hg : s.controllerGenerations[(toLex (realm, id) : GenerationKey)]? = some g)
    (hstatus : (f g).status = .revoked) (hrefs : g.SameRefs (f g)) : Struck target s
      { s with
        controllerGenerations := s.controllerGenerations.modify (toLex (realm, id)) f
        activeGenerations := dropActive s.activeGenerations realm id } where
  generation key := by
    rw [get_modify]
    by_cases hkey : toLex (realm, id) = key
    · subst hkey
      rw [if_pos rfl, hg]
      exact .inr ⟨g, f g, rfl, rfl, hstatus, hrefs⟩
    · rw [if_neg hkey]
      exact .inl rfl
  index r i h := by
    obtain ⟨hnamed, hother⟩ := get_dropActive.mp h
    refine ⟨hnamed, ?_⟩
    rw [get_modify, if_neg]
    intro heq
    cases toLex.injective heq
    exact hother ⟨rfl, rfl⟩
  dropped r i g' hg' hnamed hne := by
    left
    by_cases hthis : r = realm ∧ i = id
    · obtain ⟨rfl, rfl⟩ := hthis
      refine ⟨f g, ?_, hstatus⟩
      rw [get_modify, if_pos rfl, hg]
      rfl
    · exact absurd (get_dropActive.mpr ⟨hnamed, hthis⟩) hne
  recoveries := rfl

/-! ## one record -/

section

variable (s : RealmIdentityStore) (realm : RealmPath) (revocationId : RevocationId)
  (f : Unit → StoreM α)

lemma revokeIdentityOf_bind (hkeys : keys ≠ []) :
    (revokeIdentityOf realm keys revocationId >>= f).exec s = (f ()).exec
      { s with
        controllerGenerations := keys.foldl
          (fun generations key => generations.modify key (revokedWithIdentity revocationId))
          s.controllerGenerations
        activeGenerations := s.activeGenerations.erase realm } := by
  unfold revokeIdentityOf
  rw [bind_assoc, exec_failIf_bind, if_neg hkeys, exec_modify_bind]

lemma revokeIdentityOf_nil_bind :
    (revokeIdentityOf realm [] revocationId >>= f).exec s = (.error .unknownGeneration, s) := by
  unfold revokeIdentityOf
  rw [bind_assoc, exec_failIf_bind, if_pos rfl]

end

lemma generationKeys_ne_nil (hg : s.controllerGenerations[key]? = some g) (hp : p key g = true) :
    s.generationKeys p ≠ [] :=
  List.ne_nil_of_mem (mem_generationKeys.mpr ⟨g, hg, hp⟩)

lemma generationKeys_eq_nil (realm : RealmPath)
    (hrealm : ∀ key g, p key g = true → (ofLex key).1 = realm)
    (hnot : ∀ (id : ControllerGenerationId) (g : ControllerGenerationMetadata),
      s.controllerGenerations[(toLex (realm, id) : GenerationKey)]? = some g →
        ¬p (toLex (realm, id)) g = true) :
    s.generationKeys p = [] := by
  rw [List.eq_nil_iff_forall_not_mem]
  intro key hmem
  obtain ⟨g, hg, hpass⟩ := mem_generationKeys.mp hmem
  have hkey : key = toLex (realm, (ofLex key).2) := by
    rw [← hrealm key g hpass]
    rfl
  rw [hkey] at hg hpass
  exact hnot _ g hg hpass

lemma realm_of_hasIdentity (key : GenerationKey) (g : ControllerGenerationMetadata)
    (h : hasIdentity realm identityRef fingerprint key g = true) : (ofLex key).1 = realm := by
  simp only [hasIdentity, Bool.and_eq_true, decide_eq_true_eq] at h
  exact h.1.1

lemma realm_of_hasCredential (key : GenerationKey) (g : ControllerGenerationMetadata)
    (h : hasCredential realm credentialRef fingerprint key g = true) : (ofLex key).1 = realm := by
  simp only [hasCredential, Bool.and_eq_true, decide_eq_true_eq] at h
  exact h.1.1

/-- A generation of the realm has the identity, or the target misses it. -/
lemma hasIdentity_or_other (realm : RealmPath) (identityRef : RealmIdentityRef)
    (fingerprint : RealmIdentityFingerprint) (id : ControllerGenerationId)
    (g : ControllerGenerationMetadata) :
    hasIdentity realm identityRef fingerprint (toLex (realm, id)) g = true ∨
    ∃ identityRef' fingerprint', RevocationTarget.realmIdentity realm identityRef fingerprint
        = .realmIdentity realm identityRef' fingerprint' ∧
      ¬(g.realmIdentity.identityRef = identityRef' ∧
        g.realmIdentity.fingerprint = fingerprint') := by
  by_cases hmatch : g.realmIdentity.identityRef = identityRef ∧
      g.realmIdentity.fingerprint = fingerprint
  · exact .inl (by simp [hasIdentity, hmatch])
  · exact .inr ⟨identityRef, fingerprint, rfl, hmatch⟩

/-- The search for a credential finds a generation under its own key. -/
lemma found_of_hasCredential (hkeyed : Keyed s.controllerGenerations)
    (hfound : s.generationKeys (hasCredential realm credentialRef fingerprint) = key :: keys) :
    ∃ g, s.controllerGenerations[key]? = some g ∧ key = toLex (realm, g.generationId) := by
  have hmem : key ∈ s.generationKeys _ := hfound ▸ List.mem_cons_self
  obtain ⟨g, hg, hpass⟩ := mem_generationKeys.mp hmem
  refine ⟨g, hg, ?_⟩
  rw [← realm_of_hasCredential key g hpass, ← hkeyed key g hg]
  rfl

/-- A record that applies strikes its target. -/
lemma applyRevocationTarget_ok (hkeyed : Keyed s.controllerGenerations)
    (happlies : s.Applies revocation.target) : ∃ realm reason s',
      (applyRevocationTarget revocation).exec s = (.ok (some realm, some reason), s') ∧
      Struck revocation.target s s' ∧ SameRecords s s' := by
  unfold applyRevocationTarget
  rw [exec_get_bind]
  generalize revocation.target = target at happlies ⊢
  cases target with
  | realm realm =>
    obtain ⟨id, g, hg⟩ := happlies
    have hsome : s.generationKeys (isOfRealm realm) ≠ [] :=
      generationKeys_ne_nil hg (by simp [isOfRealm])
    exact ⟨realm, .realmIdentityRevoked, _, revokeIdentityOf_bind s realm _ _ hsome,
      struck_identity realm (isOfRealm realm) revocation.revocationId (by simp [isOfRealm])
        (fun _ _ => .inl (by simp [isOfRealm])), ⟨fun _ => rfl, rfl⟩⟩
  | realmIdentity realm identityRef fingerprint =>
    obtain ⟨hvalid, id, g, hg, hrefs⟩ := happlies
    have hsome : s.generationKeys (hasIdentity realm identityRef fingerprint) ≠ [] :=
      generationKeys_ne_nil hg (by simp [hasIdentity, hrefs])
    dsimp only
    rw [hvalid, exec_ofExcept_ok_bind]
    exact ⟨realm, .realmIdentityRevoked, _, revokeIdentityOf_bind s realm _ _ hsome,
      struck_identity realm _ revocation.revocationId realm_of_hasIdentity
        (hasIdentity_or_other realm identityRef fingerprint), ⟨fun _ => rfl, rfl⟩⟩
  | controllerGeneration realm id =>
    obtain ⟨g, hg⟩ := happlies
    dsimp only
    rw [hg, exec_okOr_some_bind, exec_modify_bind]
    exact ⟨realm, .controllerGenerationRevoked, _, rfl,
      struck_generation hg rfl ⟨rfl, rfl, rfl, rfl, rfl⟩, ⟨fun _ => rfl, rfl⟩⟩
  | controllerCredential realm credentialRef fingerprint =>
    obtain ⟨hvalid, id, g, hg, hrefs⟩ := happlies
    dsimp only
    rw [hvalid, exec_ofExcept_ok_bind]
    -- the search finds a generation, perhaps another one with the same credential
    cases hfound : s.generationKeys (hasCredential realm credentialRef fingerprint) with
    | nil => exact absurd hfound (generationKeys_ne_nil hg (by simp [hasCredential, hrefs]))
    | cons key keys =>
      obtain ⟨found, hget, hkey⟩ := found_of_hasCredential hkeyed hfound
      rw [List.head?_cons, exec_okOr_some_bind, hget, exec_okOr_some_bind, exec_modify_bind, hkey]
      rw [hkey] at hget
      exact ⟨realm, .controllerGenerationRevoked, _, rfl,
        struck_generation hget rfl ⟨rfl, rfl, rfl, rfl, rfl⟩, ⟨fun _ => rfl, rfl⟩⟩
  | enrollment enrollmentId =>
    obtain ⟨record, hrecord⟩ := contains_iff_get.mp happlies
    dsimp only
    rw [hrecord, exec_okOr_some_bind, exec_modify_bind]
    exact ⟨record.childRealm, .realmIdentityRevoked, _, rfl, .of_same rfl rfl rfl,
      ⟨fun _ => Std.ExtTreeMap.contains_modify, rfl⟩⟩
  | realmKey realm _ _ | policyGrant realm _ | capabilityGrant realm _ =>
    exact ⟨realm, _, s, rfl, .of_same rfl rfl rfl, ⟨fun _ => rfl, rfl⟩⟩

/-- A record that does not apply fails and leaves the store. -/
lemma applyRevocationTarget_error (hnot : ¬s.Applies revocation.target) :
    ∃ e, (applyRevocationTarget revocation).exec s = (.error e, s) := by
  unfold applyRevocationTarget
  rw [exec_get_bind]
  generalize revocation.target = target at hnot ⊢
  cases target with
  | realm realm =>
    have hnil : s.generationKeys (isOfRealm realm) = [] :=
      generationKeys_eq_nil realm (by simp [isOfRealm]) fun id g hg _ => hnot ⟨id, g, hg⟩
    dsimp only
    rw [hnil]
    exact ⟨_, revokeIdentityOf_nil_bind s realm _ _⟩
  | realmIdentity realm identityRef fingerprint =>
    dsimp only
    cases hvalid : validateIdentityRef identityRef with
    | error e => exact ⟨e, exec_ofExcept_error_bind _ s e⟩
    | ok =>
      have hnil : s.generationKeys (hasIdentity realm identityRef fingerprint) = [] :=
        generationKeys_eq_nil realm realm_of_hasIdentity fun id g hg hpass =>
          hnot ⟨hvalid, id, g, hg, by simpa [hasIdentity] using hpass⟩
      rw [exec_ofExcept_ok_bind, hnil]
      exact ⟨_, revokeIdentityOf_nil_bind s realm _ _⟩
  | controllerGeneration realm id =>
    dsimp only
    cases hg : s.controllerGenerations[(toLex (realm, id) : GenerationKey)]? with
    | some g => exact absurd ⟨g, hg⟩ hnot
    | none => exact ⟨_, exec_okOr_none_bind _ s _⟩
  | controllerCredential realm credentialRef fingerprint =>
    dsimp only
    cases hvalid : validateCredentialRef credentialRef with
    | error e => exact ⟨e, exec_ofExcept_error_bind _ s e⟩
    | ok =>
      have hnil : s.generationKeys (hasCredential realm credentialRef fingerprint) = [] :=
        generationKeys_eq_nil realm realm_of_hasCredential fun id g hg hpass =>
          hnot ⟨hvalid, id, g, hg, by simpa [hasCredential] using hpass⟩
      rw [exec_ofExcept_ok_bind, hnil]
      exact ⟨_, exec_okOr_none_bind _ s _⟩
  | enrollment enrollmentId =>
    dsimp only
    rw [not_contains_iff_get.mp hnot]
    exact ⟨_, exec_okOr_none_bind _ s _⟩
  | realmKey | policyGrant | capabilityGrant => exact absurd trivial hnot

/-! ## what a strike keeps -/

section

lemma Struck.get (h : Struck target s s') {key : GenerationKey}
    {g : ControllerGenerationMetadata} (hg : s.controllerGenerations[key]? = some g) :
    ∃ g', s'.controllerGenerations[key]? = some g' ∧ g.SameRefs g' ∧
      (g' = g ∨ g'.status = .revoked) := by
  rcases h.generation key with heq | ⟨g₀, g', hg₀, hg', hrevoked, hrefs⟩
  · exact ⟨g, heq.trans hg, ⟨rfl, rfl, rfl, rfl, rfl⟩, .inl rfl⟩
  · rw [hg] at hg₀
    cases hg₀
    exact ⟨g', hg', hrefs, .inr hrevoked⟩

lemma Struck.get_back (h : Struck target s s') {key : GenerationKey}
    {g' : ControllerGenerationMetadata} (hg' : s'.controllerGenerations[key]? = some g') :
    ∃ g, s.controllerGenerations[key]? = some g ∧ g.SameRefs g' ∧
      (g' = g ∨ g'.status = .revoked) := by
  cases hg : s.controllerGenerations[key]? with
  | none =>
    rcases h.generation key with heq | ⟨g, _, hg₀, -⟩
    · rw [hg', hg] at heq
      contradiction
    · rw [hg] at hg₀
      contradiction
  | some g =>
    obtain ⟨g'', hg'', hrefs, hcase⟩ := h.get hg
    rw [hg'] at hg''
    cases hg''
    exact ⟨g, rfl, hrefs, hcase⟩

lemma Struck.keyed (h : Struck target s s') (hkeyed : Keyed s.controllerGenerations) :
    Keyed s'.controllerGenerations := by
  intro key g' hg'
  obtain ⟨g, hg, hrefs, -⟩ := h.get_back hg'
  exact hrefs.key.trans (hkeyed key g hg)

end

/-- A record applies to whatever holds the generations under the same
references, and the enrollments. -/
lemma Applies.mono
    (hgens : ∀ (key : GenerationKey) (g : ControllerGenerationMetadata),
      s.controllerGenerations[key]? = some g → ∃ g', s'.controllerGenerations[key]? = some g' ∧
        g.SameRefs g')
    (henroll : ∀ id, s.enrollments.contains id = true → s'.enrollments.contains id = true)
    (h : s.Applies target) : s'.Applies target := by
  cases target with
  | realm realm =>
    obtain ⟨id, g, hg⟩ := h
    obtain ⟨g', hg', -⟩ := hgens _ g hg
    exact ⟨id, g', hg'⟩
  | realmIdentity realm identityRef fingerprint =>
    obtain ⟨hvalid, id, g, hg, hidentity, hfingerprint⟩ := h
    obtain ⟨g', hg', hrefs⟩ := hgens _ g hg
    exact ⟨hvalid, id, g', hg', hrefs.identityRef.trans hidentity,
      hrefs.fingerprint.trans hfingerprint⟩
  | controllerGeneration realm id =>
    obtain ⟨g, hg⟩ := h
    obtain ⟨g', hg', -⟩ := hgens _ g hg
    exact ⟨g', hg'⟩
  | controllerCredential realm credentialRef fingerprint =>
    obtain ⟨hvalid, id, g, hg, hcredential, hfingerprint⟩ := h
    obtain ⟨g', hg', hrefs⟩ := hgens _ g hg
    exact ⟨hvalid, id, g', hg', hrefs.credentialRef.trans hcredential,
      hrefs.credentialFingerprint.trans hfingerprint⟩
  | enrollment enrollmentId => exact henroll enrollmentId h
  | realmKey | policyGrant | capabilityGrant => trivial

/-- Whether a record applies does not depend on those applied before it. -/
lemma Struck.applies_iff {other : RevocationTarget} (h : Struck target s s')
    (hrecords : SameRecords s s') : s'.Applies other ↔ s.Applies other := by
  constructor
  · refine Applies.mono (fun key g' hg' => ?_) fun id hid => hrecords.enrollments id ▸ hid
    obtain ⟨g, hg, hrefs, -⟩ := h.get_back hg'
    exact ⟨g, hg, hrefs.symm⟩
  · refine Applies.mono (fun key g hg => ?_) fun id hid => (hrecords.enrollments id).trans hid
    obtain ⟨g', hg', hrefs, -⟩ := h.get hg
    exact ⟨g', hg', hrefs⟩

/-! ## applying a record -/

lemma pushAudit_of_lt (change : IdentityStoreChange) (event : IdentityAuditEventMetadata)
    (h : change.auditEvents.length < maxIdentityStoreAuditEvents) :
    ∃ change', change.pushAudit event = .ok change' ∧
      change'.auditEvents = change.auditEvents ++ [event] ∧
      change'.teardownDirectives = change.teardownDirectives := by
  unfold IdentityStoreChange.pushAudit
  rw [dif_neg (by omega)]
  exact ⟨_, rfl, rfl, rfl⟩

lemma pushTeardown_of_lt (change : IdentityStoreChange) (directive : SessionTeardownDirective)
    (h : change.teardownDirectives.length < maxIdentityStoreTeardowns)
    (hworkloads : directive.affectedWorkloads.length ≤ maxTeardownWorkloads) :
    ∃ change', change.pushTeardown directive = .ok change' ∧
      change'.auditEvents = change.auditEvents ∧
      change'.teardownDirectives = change.teardownDirectives ++ [directive] := by
  unfold IdentityStoreChange.pushTeardown
  rw [dif_neg (by omega), if_neg (by omega)]
  exact ⟨_, rfl, rfl, rfl⟩

/-- A new record that applies, for few enough workloads: its target is struck,
the record is stored, and the change holds its teardown and its audit. -/
lemma applyRevocation_ok (hkeyed : Keyed s.controllerGenerations) (parentPushed : Bool)
    (hnew : ¬s.revocations.contains revocation.revocationId = true)
    (hworkloads : workloads.length ≤ maxTeardownWorkloads)
    (happlies : s.Applies revocation.target) :
    (applyRevocation revocation workloads parentPushed).Succeeds s fun change s' =>
      Recorded revocation s s' ∧ ∃ directive event, change.teardownDirectives = [directive] ∧
        change.auditEvents = [event] ∧ directive.affectedWorkloads = workloads := by
  have htarget : s.Applies (inForce revocation parentPushed).target := happlies
  obtain ⟨realm, reason, mid, hexec, hstruck, hrecords⟩ := applyRevocationTarget_ok hkeyed htarget
  obtain ⟨torn, htorn, htornAudit, htornDirectives⟩ := pushTeardown_of_lt .empty
    ⟨revocation.revocationId, revocation.issuerRealm, realm, reason, workloads,
      revocation.issuedAtUnixSeconds, revocation.correlationId⟩ (by decide) hworkloads
  obtain ⟨change, hchange, haudit, hdirectives⟩ := pushAudit_of_lt torn
    { auditEvent .revocationIssued revocation.issuerRealm revocation.correlationId with
      revocationId := some revocation.revocationId
      revocationStatus := some (inForce revocation parentPushed).status }
    (by rw [htornAudit]; decide)
  have hteardown : revocationTeardown (inForce revocation parentPushed) workloads
      (some realm, some reason) = .ok torn := htorn
  refine ⟨change,
    { mid with
      revocations := mid.revocations.insert revocation.revocationId
        (inForce revocation parentPushed) },
    ?_, ⟨?_, ?_, ?_⟩, _, _, hdirectives.trans htornDirectives,
    haudit.trans (by rw [htornAudit]; rfl), rfl⟩
  · unfold applyRevocation
    rw [exec_get_bind, exec_failIf_bind, if_neg hnew, exec_failIf_bind, if_neg (by omega),
      exec_bind_of_ok hexec, exec_modify_bind, hteardown, exec_ofExcept_ok_bind, exec_ofExcept]
    exact congrArg (·, _) hchange
  · exact ⟨hstruck.generation, hstruck.index, hstruck.dropped, hstruck.recoveries⟩
  · exact fun target => hstruck.applies_iff hrecords
  · intro id
    rw [contains_insert_iff, hrecords.revocations]

/-- A known record, one for too many workloads or one that does not apply
fails and leaves the store. -/
lemma applyRevocation_error (parentPushed : Bool)
    (h : s.revocations.contains revocation.revocationId = true ∨
      maxTeardownWorkloads < workloads.length ∨ ¬s.Applies revocation.target) :
    ∃ e, (applyRevocation revocation workloads parentPushed).exec s = (.error e, s) := by
  unfold applyRevocation
  rw [exec_get_bind, exec_failIf_bind]
  by_cases hknown : s.revocations.contains revocation.revocationId = true
  · exact ⟨_, if_pos hknown⟩
  rw [if_neg hknown, exec_failIf_bind]
  by_cases hmany : workloads.length > maxTeardownWorkloads
  · exact ⟨_, if_pos hmany⟩
  have hnot : ¬s.Applies (inForce revocation parentPushed).target := by tauto
  obtain ⟨e, he⟩ := applyRevocationTarget_error hnot
  rw [if_neg hmany, exec_bind, he]
  exact ⟨e, rfl⟩

end RealmIdentityStore

end D2b

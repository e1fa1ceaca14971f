import D2b.RealmCore.IdentityStore.Invariants

/-!
# D2b.RealmCore.IdentityStore.Permanence

A revoked generation stays revoked, and out of the index, unless a recovery
that was reissued with it is completed: completing a recovery makes the
replacement active without looking at what became of it in between.
-/

namespace D2b.RealmIdentityStore

variable {call : Call} {s s' : RealmIdentityStore} {key : GenerationKey}

lemma isRevoked_iff : s.IsRevoked key ↔
    s.controllerGenerations[key]?.map (·.status) = some .revoked := by
  rw [Option.map_eq_some_iff]
  rfl

instance (s : RealmIdentityStore) (key : GenerationKey) : Decidable (s.IsRevoked key) :=
  decidable_of_iff _ isRevoked_iff.symm

/-- The call completes a recovery whose replacement was revoked meanwhile. -/
def Revives (s : RealmIdentityStore) : Call → Prop
  | .completeRecovery recoveryId _ => ∃ recovery replacement,
      s.recoveries[recoveryId]? = some recovery ∧ recovery.status = .reissued ∧
      recovery.replacementGeneration = some replacement ∧ s.IsRevoked replacement.key
  | _ => False

/-! ## one call -/

lemma IsRevoked.of_get (h : s.IsRevoked key)
    (hget : s'.controllerGenerations[key]? = s.controllerGenerations[key]?) : s'.IsRevoked key := by
  unfold IsRevoked
  rwa [hget]

/-- A key with nothing under it is not a revoked generation's. -/
lemma IsRevoked.ne_of_fresh (h : s.IsRevoked key) (hfresh : s.controllerGenerations[k]? = none) :
    k ≠ key := by
  rintro rfl
  obtain ⟨g, hg, -⟩ := h
  rw [hfresh] at hg
  contradiction

lemma isRevoked_chain (h : Relation.ReflTransGen (Strike records) s s') (hkey : s.IsRevoked key) :
    s'.IsRevoked key := by
  induction h with
  | refl => exact hkey
  | tail _ hstrike ih =>
    obtain ⟨g, hg, hrevoked⟩ := ih
    obtain ⟨_, -, -, hstruck⟩ := hstrike
    obtain ⟨g', hg', -, rfl | hrevoked'⟩ := hstruck.get hg
    · exact ⟨g', hg', hrevoked⟩
    · exact ⟨g', hg', hrevoked'⟩

lemma Effect.isRevoked (h : Effect call s s') (hsound : s.Sound) (hcall : ¬s.Revives call)
    (hkey : s.IsRevoked key) : s'.IsRevoked key := by
  cases h with
  | struck mid chain same =>
    exact (isRevoked_chain chain hkey).of_get (by rw [same.controllerGenerations])
  | issued g h => exact hkey.of_get (h.get_of_ne (hkey.ne_of_fresh h.fresh))
  | rotated id replacement h =>
    refine hkey.of_get (h.get_of_ne (hkey.ne_of_fresh h.fresh) ?_)
    rintro rfl
    -- the superseded generation is in the index, so it is not revoked
    obtain ⟨g, hg, hnot, -⟩ := hsound.indexed replacement.realm id h.index
    obtain ⟨g', hg', hrevoked⟩ := hkey
    cases hg.symm.trans hg'
    exact hnot hrevoked
  | opened recovery h =>
    refine hkey.of_get (h.get_of_ne ?_)
    rintro rfl
    exact h.not_revoked hkey
  | moved recoveryId next h => exact hkey.of_get (by rw [h.controllerGenerations])
  | reissued recoveryId replacement h =>
    exact hkey.of_get (h.get_of_ne (hkey.ne_of_fresh h.fresh))
  | completed recoveryId closedAt recovery replacement heq h =>
    subst heq
    by_cases hreplacement : replacement.key = key
    · subst hreplacement
      exact absurd ⟨recovery, replacement, h.get, h.reissued, h.completable.has_replacement, hkey⟩
        hcall
    by_cases haffected : recovery.affectedKey = key
    · exact haffected ▸ h.get_affected
    · exact hkey.of_get (h.get_of_ne hreplacement haffected)

/-- A call keeps what is revoked exactly when it does not revive. -/
lemma after_keeps_revoked_iff (hsound : s.Sound) (call : Call) :
    (∀ key, s.IsRevoked key → (s.after call).IsRevoked key) ↔ ¬s.Revives call := by
  constructor
  · intro hkeep hrevives
    cases call with
    | completeRecovery recoveryId closedAt =>
      obtain ⟨recovery, replacement, hget, hstatus, hsome, hrevoked⟩ := hrevives
      obtain ⟨replacement', hcompletable⟩ := hsound.reissued recoveryId recovery hget hstatus
      cases hsome.symm.trans hcompletable.has_replacement
      obtain ⟨_, s', hexec, hcompleted⟩ :=
        completeRecovery_succeeds hget hstatus hcompletable closedAt
      have hafter : s.after (.completeRecovery recoveryId closedAt) = s' := congrArg Prod.snd hexec
      obtain ⟨g, hg, hactive⟩ := hcompleted.get_replacement
      obtain ⟨g', hg', hrevoked'⟩ := hafter ▸ hkeep _ hrevoked
      cases hg.symm.trans hg'
      rw [hactive] at hrevoked'
      contradiction
    | _ => exact hrevives
  · intro hcall key hkey
    exact (after_effect hsound call).isRevoked hsound hcall hkey

/-! ## runs -/

/-- A call is made that does not revive. -/
def LastingStep (_ : List Call) (s : RealmIdentityStore) (call : Call) (s' : RealmIdentityStore) :
    Prop :=
  ¬s.Revives call ∧ s' = s.after call

/-- In a run that never revives, a revoked generation stays revoked and out of
the index. -/
theorem revoked_forever {h₁ h₂ : List Call} {s₁ s₂ : RealmIdentityStore}
    (r₁ : Trace.Run (· = new) Step h₁ s₁) (r₂ : Trace.Run (· = s₁) LastingStep h₂ s₂)
    {realm : RealmPath} {id : ControllerGenerationId}
    (hrevoked : s₁.IsRevoked (toLex (realm, id))) :
    s₂.IsRevoked (toLex (realm, id)) ∧ s₂.activeGeneration realm ≠ some id := by
  have hkept : s₂.Sound ∧ s₂.IsRevoked (toLex (realm, id)) := by
    apply r₂.preserves
    · exact ⟨sound_of_run r₁, hrevoked⟩
    · rintro _ s call _ ⟨hsound, hkey⟩ ⟨hcall, rfl⟩
      exact ⟨hsound.after call, (after_keeps_revoked_iff hsound call).mpr hcall _ hkey⟩
  refine ⟨hkept.2, fun hindex => ?_⟩
  obtain ⟨g, hg, hnot, -⟩ := hkept.1.indexed realm id hindex
  obtain ⟨g', hg', hstatus⟩ := hkept.2
  cases hg.symm.trans hg'
  exact hnot hstatus

namespace Sample

open SmallRealm

/-- The second generation is revoked while it waits. -/
def revokeWaiting : List Call :=
  [.issueControllerGeneration (generation gen1 identityA .active),
    .issueControllerGeneration (generation gen2 identityA .pending),
    .revokeGeneration (revocation (.controllerGeneration work gen2)) []]

/-- The second generation is revoked while it is the replacement of a recovery. -/
def revokeReissued : List Call :=
  [.issueControllerGeneration (generation gen1 identityA .active),
    .openRecovery recovery,
    .approveRecovery recovery.recoveryId,
    .reissueRecovery recovery.recoveryId (generation gen2 identityA .pending),
    .revokeGeneration (revocation (.controllerGeneration work gen2)) []]

end Sample

open SmallRealm Sample in
theorem revoked_forever_waiting :
    (revokeWaiting.foldl after new).IsRevoked (toLex (work, gen2)) ∧
    (((revokeWaiting.foldl after new).after (.openRecovery recovery)).IsRevoked
        (toLex (work, gen2)) ∧
      ((revokeWaiting.foldl after new).after (.openRecovery recovery)).activeGeneration work
        ≠ some gen2) := by
  have hrevoked : (revokeWaiting.foldl after new).IsRevoked (toLex (work, gen2)) := by
    decide +kernel
  exact ⟨hrevoked, revoked_forever (run_calls new revokeWaiting)
    (.snoc (.nil rfl) ⟨id, rfl⟩) hrevoked⟩

open SmallRealm Sample in
/-- A recovery makes its revoked replacement active again. -/
theorem exists_run_reviving :
    ∃ (h₁ h₂ : List Call) (s₁ s₂ : RealmIdentityStore) (realm : RealmPath)
      (id : ControllerGenerationId), Trace.Run (· = new) Step h₁ s₁ ∧
      Trace.Run (· = s₁) Step h₂ s₂ ∧ s₁.IsRevoked (toLex (realm, id)) ∧
      ¬s₂.IsRevoked (toLex (realm, id)) ∧ s₂.activeGeneration realm = some id := by
  refine ⟨_, _, _, _, work, gen2, run_calls new revokeReissued,
    run_calls _ [.completeRecovery recovery.recoveryId 9], ?_, ?_, ?_⟩
  · decide +kernel
  · decide +kernel
  · decide +kernel

/-- After any calls, a reissued recovery can be completed. -/
theorem reissued_completes (calls : List Call) (recoveryId : RecoveryProcedureId) (closedAt : Nat)
    (h : (calls.foldl after new).recoveries[recoveryId]?.map (·.status) = some .reissued) :
    (completeRecovery recoveryId closedAt).Succeeds (calls.foldl after new) fun _ s' =>
      ∃ recovery replacement,
        Completed recoveryId closedAt recovery replacement (calls.foldl after new) s' := by
  have hsound := sound_of_run (run_calls new calls)
  obtain ⟨recovery, hget, hstatus⟩ := Option.map_eq_some_iff.mp h
  obtain ⟨_, hcompletable⟩ := hsound.reissued recoveryId recovery hget hstatus
  obtain ⟨change, s', hexec, h⟩ := completeRecovery_succeeds hget hstatus hcompletable closedAt
  exact ⟨change, s', hexec, recovery, _, h⟩

open Sample in
theorem reissued_completes_revoked : ∃ change s',
    (completeRecovery recovery.recoveryId 9).exec (revokeReissued.foldl after new) =
      (.ok change, s') := by
  obtain ⟨change, s', hexec, -⟩ :=
    reissued_completes revokeReissued recovery.recoveryId 9 (by decide +kernel)
  exact ⟨change, s', hexec⟩

end D2b.RealmIdentityStore

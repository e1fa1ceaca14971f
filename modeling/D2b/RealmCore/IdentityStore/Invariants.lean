import D2b.RealmCore.IdentityStore.Effects

/-!
# D2b.RealmCore.IdentityStore.Invariants

Every effect keeps the store sound, so every store reachable from the empty
one is: generations lie under their own keys, the index names stored
generations that are neither revoked nor superseded, and a reissued recovery
can be completed.
-/

namespace D2b

open BTreeMap Option

namespace RealmIdentityStore

variable {call : Call} {s s' : RealmIdentityStore}

/-! ## lookups after an effect -/

section

variable {id : ControllerGenerationId}

lemma Issued.get_self (h : Issued g s s') : s'.controllerGenerations[g.key]? = some g := by
  rw [h.controllerGenerations, get_insert_self]

lemma Issued.get_of_ne (h : Issued g s s') (hne : g.key ≠ key) :
    s'.controllerGenerations[key]? = s.controllerGenerations[key]? := by
  rw [h.controllerGenerations, get_insert_of_ne _ _ hne]

section

variable (h : Rotated id replacement s s')
include h

lemma Rotated.get_replacement :
    s'.controllerGenerations[replacement.key]? = some replacement := by
  obtain ⟨_, hgens⟩ := h.controllerGenerations
  rw [hgens, get_insert_self]

lemma Rotated.get_of_ne (hnew : replacement.key ≠ key)
    (hcurrent : toLex (replacement.realm, id) ≠ key) :
    s'.controllerGenerations[key]? = s.controllerGenerations[key]? := by
  obtain ⟨_, hgens⟩ := h.controllerGenerations
  rw [hgens, get_insert_of_ne _ _ hnew, get_modify, if_neg hcurrent]

lemma Rotated.get_current
    (hget : s'.controllerGenerations[(toLex (replacement.realm, id) : GenerationKey)]? = some g)
    (hne : replacement.key ≠ toLex (replacement.realm, id)) : g.status = .superseded := by
  obtain ⟨_, hgens⟩ := h.controllerGenerations
  rw [hgens, get_insert_of_ne _ _ hne, get_modify, if_pos rfl, map_eq_some_iff] at hget
  obtain ⟨_, -, rfl⟩ := hget
  rfl

end

lemma Opened.get_of_ne (h : Opened recovery s s') (hne : recovery.affectedKey ≠ key) :
    s'.controllerGenerations[key]? = s.controllerGenerations[key]? := by
  rw [h.controllerGenerations, get_modify, if_neg hne]

lemma Opened.get_affected (h : Opened recovery s s')
    (hget : s'.controllerGenerations[recovery.affectedKey]? = some g) : g.status = .recovering := by
  rw [h.controllerGenerations, get_modify, if_pos rfl, map_eq_some_iff] at hget
  obtain ⟨_, -, rfl⟩ := hget
  rfl

lemma ReissuedWith.get_self (h : ReissuedWith recoveryId replacement s s') :
    s'.controllerGenerations[replacement.key]? = some replacement := by
  rw [h.controllerGenerations, get_insert_self]

lemma ReissuedWith.get_of_ne (h : ReissuedWith recoveryId replacement s s')
    (hne : replacement.key ≠ key) :
    s'.controllerGenerations[key]? = s.controllerGenerations[key]? := by
  rw [h.controllerGenerations, get_insert_of_ne _ _ hne]

section

variable (h : Completed recoveryId closedAt recovery replacement s s')
include h

lemma Completed.get_of_ne (hreplacement : replacement.key ≠ key)
    (haffected : recovery.affectedKey ≠ key) :
    s'.controllerGenerations[key]? = s.controllerGenerations[key]? := by
  rw [h.controllerGenerations, get_modify, if_neg hreplacement, get_modify, if_neg haffected]

lemma Completed.get_replacement :
    ∃ g, s'.controllerGenerations[replacement.key]? = some g ∧ g.status = .active := by
  obtain ⟨g, hg⟩ := h.completable.replacement_stored
  rw [h.controllerGenerations, get_modify, if_pos rfl, get_modify, if_neg h.completable.ne.symm, hg]
  exact ⟨_, rfl, rfl⟩

lemma Completed.get_affected : s'.IsRevoked recovery.affectedKey := by
  obtain ⟨g, hg⟩ := h.completable.affected_stored
  unfold IsRevoked
  rw [h.controllerGenerations, get_modify, if_neg h.completable.ne, get_modify, if_pos rfl, hg]
  exact ⟨_, rfl, rfl⟩

end

end

/-! ## what is stored stays -/

lemma stored_iff : s.Stored key ↔ s.controllerGenerations.contains key = true :=
  contains_iff_get.symm

lemma stored_chain (h : Relation.ReflTransGen (Strike records) s s') (hkey : s.Stored key) :
    s'.Stored key := by
  induction h with
  | refl => exact hkey
  | tail _ hstrike ih =>
    obtain ⟨g, hg⟩ := ih
    obtain ⟨_, -, -, hstruck⟩ := hstrike
    obtain ⟨g', hg', -⟩ := hstruck.get hg
    exact ⟨g', hg'⟩

lemma Effect.stored (h : Effect call s s') {key : GenerationKey} (hkey : s.Stored key) :
    s'.Stored key := by
  have hcontains := stored_iff.mp hkey
  cases h with
  | struck mid chain same =>
    have hmid := stored_chain chain hkey
    rwa [stored_iff, same.controllerGenerations, ← stored_iff]
  | issued g h =>
    rw [stored_iff, h.controllerGenerations, contains_insert_iff]
    exact .inr hcontains
  | rotated id replacement h =>
    obtain ⟨_, hgens⟩ := h.controllerGenerations
    rw [stored_iff, hgens, contains_insert_iff, Std.ExtTreeMap.contains_modify]
    exact .inr hcontains
  | opened recovery h =>
    rwa [stored_iff, h.controllerGenerations, Std.ExtTreeMap.contains_modify]
  | moved recoveryId next h => rwa [stored_iff, h.controllerGenerations]
  | reissued recoveryId replacement h =>
    rw [stored_iff, h.controllerGenerations, contains_insert_iff]
    exact .inr hcontains
  | completed recoveryId closedAt recovery replacement hcall h =>
    rwa [stored_iff, h.controllerGenerations, Std.ExtTreeMap.contains_modify,
      Std.ExtTreeMap.contains_modify]

/-! ## keys -/

section

lemma Keyed.insert (h : Keyed generations) (g : ControllerGenerationMetadata) :
    Keyed (generations.insert g.key g) := by
  intro key g' hg'
  rcases get_insert_eq_some.mp hg' with ⟨hkey, rfl⟩ | ⟨-, hg'⟩
  · exact hkey
  · exact h key g' hg'

lemma Keyed.modify (h : Keyed generations) (k : GenerationKey) (hf : ∀ g, (f g).key = g.key) :
    Keyed (generations.modify k f) := by
  intro key g' hg'
  rw [get_modify] at hg'
  by_cases hkey : k = key
  · rw [if_pos hkey, map_eq_some_iff] at hg'
    obtain ⟨g, hg, rfl⟩ := hg'
    rw [hf, h key g hg]
  · rw [if_neg hkey] at hg'
    exact h key g' hg'

lemma keyed_chain (h : Relation.ReflTransGen (Strike records) s s')
    (hkeyed : Keyed s.controllerGenerations) : Keyed s'.controllerGenerations := by
  induction h with
  | refl => exact hkeyed
  | tail _ hstrike ih =>
    obtain ⟨_, -, -, hstruck⟩ := hstrike
    exact hstruck.keyed ih

lemma Effect.keyed (h : Effect call s s') (hkeyed : Keyed s.controllerGenerations) :
    Keyed s'.controllerGenerations := by
  cases h with
  | struck mid chain same =>
    rw [same.controllerGenerations]
    exact keyed_chain chain hkeyed
  | issued g h =>
    rw [h.controllerGenerations]
    exact hkeyed.insert g
  | rotated id replacement h =>
    obtain ⟨_, hgens⟩ := h.controllerGenerations
    rw [hgens]
    refine Keyed.insert (Keyed.modify hkeyed _ ?_) replacement
    exact fun _ => rfl
  | opened recovery h =>
    rw [h.controllerGenerations]
    exact hkeyed.modify _ fun _ => rfl
  | moved recoveryId next h =>
    rw [h.controllerGenerations]
    exact hkeyed
  | reissued recoveryId replacement h =>
    rw [h.controllerGenerations]
    exact hkeyed.insert replacement
  | completed recoveryId closedAt recovery replacement hcall h =>
    rw [h.controllerGenerations]
    refine Keyed.modify (Keyed.modify hkeyed _ ?_) _ ?_
    · exact fun _ => rfl
    · exact fun _ => rfl

end

/-! ## the index -/

variable {id : ControllerGenerationId}

/-- An index entry that was there before and whose generation is untouched. -/
lemma Indexed.keep (h : s.Indexed) (hindex : s.activeGeneration realm = some id)
    (hget : s'.controllerGenerations[(toLex (realm, id) : GenerationKey)]? =
      s.controllerGenerations[(toLex (realm, id) : GenerationKey)]?) :
    ∃ g, s'.controllerGenerations[(toLex (realm, id) : GenerationKey)]? = some g ∧
      g.status ≠ .revoked ∧ g.status ≠ .superseded := by
  rw [hget]
  exact h realm id hindex

/-- Generations that are not in the store are not in the index. -/
lemma Indexed.ne_of_fresh (h : s.Indexed) (hindex : s.activeGeneration realm = some id)
    (hfresh : s.controllerGenerations[key]? = none) : key ≠ toLex (realm, id) := by
  rintro rfl
  obtain ⟨g, hg, -⟩ := h realm id hindex
  rw [hfresh] at hg
  contradiction

lemma indexed_chain (h : Relation.ReflTransGen (Strike records) s s') (hindexed : s.Indexed) :
    s'.Indexed := by
  induction h with
  | refl => exact hindexed
  | tail _ hstrike ih =>
    obtain ⟨_, -, -, hstruck⟩ := hstrike
    intro realm id hindex
    obtain ⟨hbefore, hget⟩ := hstruck.index realm id hindex
    exact ih.keep hbefore hget

section

variable (hindexed : s.Indexed)
include hindexed

lemma Issued.indexed (h : Issued g s s') : s'.Indexed := by
  have hkeep : ∀ realm id, s.activeGeneration realm = some id → _ := fun realm id hbefore =>
    hindexed.keep hbefore (h.get_of_ne (hindexed.ne_of_fresh hbefore h.fresh))
  intro realm id hindex
  unfold activeGeneration at hindex
  rw [h.activeGenerations] at hindex
  by_cases hactive : g.status = .active
  · rw [if_pos hactive] at hindex
    rcases get_insert_eq_some.mp hindex with ⟨rfl, rfl⟩ | ⟨-, hindex⟩
    · exact ⟨g, h.get_self, by simp [hactive], by simp [hactive]⟩
    · exact hkeep realm id hindex
  · rw [if_neg hactive] at hindex
    exact hkeep realm id hindex

lemma Rotated.indexed (h : Rotated id replacement s s') : s'.Indexed := by
  intro realm i hindex
  unfold activeGeneration at hindex
  rw [h.activeGenerations] at hindex
  rcases get_insert_eq_some.mp hindex with ⟨rfl, rfl⟩ | ⟨hrealm, hindex⟩
  · exact ⟨replacement, h.get_replacement, by simp [h.active], by simp [h.active]⟩
  · refine hindexed.keep hindex (h.get_of_ne (hindexed.ne_of_fresh hindex h.fresh) fun heq => ?_)
    cases toLex.injective heq
    exact hrealm rfl

lemma Opened.indexed (h : Opened recovery s s') : s'.Indexed := by
  intro realm id hindex
  unfold activeGeneration at hindex
  rw [h.activeGenerations] at hindex
  by_cases hkey : recovery.affectedKey = toLex (realm, id)
  · have heffect : Effect (.openRecovery recovery) s s' := .opened recovery h
    obtain ⟨g, hg, -⟩ := hindexed realm id hindex
    obtain ⟨g', hg'⟩ := heffect.stored ⟨g, hg⟩
    have hstatus := h.get_affected (hkey ▸ hg')
    exact ⟨g', hg', by simp [hstatus], by simp [hstatus]⟩
  · exact hindexed.keep hindex (h.get_of_ne hkey)

lemma Completed.indexed (h : Completed recoveryId closedAt recovery replacement s s') :
    s'.Indexed := by
  intro realm id hindex
  unfold activeGeneration at hindex
  rw [h.activeGenerations] at hindex
  rcases get_insert_eq_some.mp hindex with ⟨rfl, rfl⟩ | ⟨hrealm, hindex⟩
  · obtain ⟨g, hg, hactive⟩ := h.get_replacement
    exact ⟨g, hg, by simp [hactive], by simp [hactive]⟩
  · -- both generations that change are of the realm of the replacement
    refine hindexed.keep hindex (h.get_of_ne (fun heq => ?_) fun heq => ?_)
    · cases toLex.injective heq
      exact hrealm rfl
    · cases toLex.injective heq
      exact hrealm h.completable.realm

lemma Effect.indexed (h : Effect call s s') : s'.Indexed := by
  cases h with
  | struck mid chain same =>
    have hmid := indexed_chain chain hindexed
    intro realm id hindex
    unfold activeGeneration at hindex
    rw [same.activeGenerations] at hindex
    exact hmid.keep hindex (by rw [same.controllerGenerations])
  | issued g h => exact h.indexed hindexed
  | rotated id replacement h => exact h.indexed hindexed
  | opened recovery h => exact h.indexed hindexed
  | moved recoveryId next h =>
    intro realm id hindex
    unfold activeGeneration at hindex
    rw [h.activeGenerations] at hindex
    exact hindexed.keep hindex (by rw [h.controllerGenerations])
  | reissued recoveryId replacement h =>
    intro realm id hindex
    unfold activeGeneration at hindex
    rw [h.activeGenerations] at hindex
    exact hindexed.keep hindex (h.get_of_ne (hindexed.ne_of_fresh hindex h.fresh))
  | completed recoveryId closedAt recovery replacement hcall h => exact h.indexed hindexed

end

/-! ## reissued recoveries -/

lemma Completable.mono {recovery : RecoveryProcedure} (h : s.Completable recovery replacement)
    (heffect : Effect call s s') : s'.Completable recovery replacement :=
  ⟨h.has_replacement, h.realm, h.ne, heffect.stored h.affected_stored,
    heffect.stored h.replacement_stored⟩

/-- A modified recovery that is reissued. -/
lemma get_modify_reissued {recoveries : BTreeMap RecoveryProcedureId RecoveryProcedure}
    {i : RecoveryProcedureId} (hget : (recoveries.modify recoveryId f)[i]? = some recovery)
    (hf : ∀ r, (f r).status ≠ .reissued) (hstatus : recovery.status = .reissued) :
    recoveries[i]? = some recovery := by
  rw [get_modify] at hget
  by_cases hid : recoveryId = i
  · rw [if_pos hid, map_eq_some_iff] at hget
    obtain ⟨r, -, rfl⟩ := hget
    exact absurd hstatus (hf r)
  · rwa [if_neg hid] at hget

lemma recoveries_chain {records : List RevocationRecord}
    (h : Relation.ReflTransGen (Strike records) s s') : s'.recoveries = s.recoveries := by
  induction h with
  | refl => rfl
  | tail _ hstrike ih =>
    obtain ⟨_, -, -, hstruck⟩ := hstrike
    rw [hstruck.recoveries, ih]

lemma Effect.reissued_completable (heffect : Effect call s s') (hsound : s.Sound)
    (recoveryId : RecoveryProcedureId) (recovery : RecoveryProcedure)
    (hget : s'.recoveries[recoveryId]? = some recovery) (hstatus : recovery.status = .reissued) :
    ∃ replacement, s'.Completable recovery replacement := by
  have hkeep : s.recoveries[recoveryId]? = some recovery →
      ∃ replacement, s'.Completable recovery replacement := by
    intro hbefore
    obtain ⟨replacement, hcompletable⟩ := hsound.reissued recoveryId recovery hbefore hstatus
    exact ⟨replacement, hcompletable.mono heffect⟩
  have hstored : ∀ key, s.Stored key → s'.Stored key := fun _ => heffect.stored
  cases heffect with
  | struck mid chain same =>
    rw [same.recoveries, recoveries_chain chain] at hget
    exact hkeep hget
  | issued g h => exact hkeep (h.recoveries ▸ hget)
  | rotated id replacement h => exact hkeep (h.recoveries ▸ hget)
  | opened opened h =>
    rw [h.recoveries] at hget
    rcases get_insert_eq_some.mp hget with ⟨-, rfl⟩ | ⟨-, hget⟩
    · rw [h.requested] at hstatus
      contradiction
    · exact hkeep hget
  | moved id next h =>
    rw [h.recoveries] at hget
    exact hkeep (get_modify_reissued hget (fun _ => h.next_ne) hstatus)
  | reissued id replacement h =>
    rw [h.recoveries, get_modify] at hget
    by_cases hid : id = recoveryId
    · subst hid
      rw [if_pos rfl, map_eq_some_iff] at hget
      obtain ⟨before, hbefore, rfl⟩ := hget
      obtain ⟨hrealm, g, hg⟩ := h.recovery before hbefore
      refine ⟨replacement, rfl, hrealm, ?_, hstored _ ⟨g, hg⟩, replacement, h.get_self⟩
      intro heq
      have hnone := h.fresh
      rw [heq] at hnone
      exact absurd (hnone.symm.trans hg) (by simp)
    · rw [if_neg hid] at hget
      exact hkeep hget
  | completed id closedAt r replacement hcall h =>
    rw [h.recoveries] at hget
    exact hkeep (get_modify_reissued hget (by simp) hstatus)

/-! ## reachable stores -/

lemma Effect.sound (h : Effect call s s') (hsound : s.Sound) : s'.Sound :=
  ⟨h.keyed hsound.keyed, h.indexed hsound.indexed, h.reissued_completable hsound⟩

lemma sound_new : new.Sound where
  keyed := by simp [Keyed, new]
  indexed := by simp [Indexed, activeGeneration, new]
  reissued := by simp [new]

lemma Sound.after (hsound : s.Sound) (call : Call) : (s.after call).Sound :=
  (after_effect hsound call).sound hsound

/-- A call is made; it may fail. -/
def Step (_ : List Call) (s : RealmIdentityStore) (call : Call) (s' : RealmIdentityStore) : Prop :=
  s' = s.after call

lemma sound_of_run (r : Trace.Run (· = new) Step h s) : s.Sound := by
  refine r.preserves sound_new ?_
  rintro _ s call _ hsound rfl
  exact hsound.after call

/-- A list of calls is a run. -/
lemma run_calls (s : RealmIdentityStore) (calls : List Call) :
    Trace.Run (· = s) Step calls (calls.foldl after s) := by
  induction calls using List.reverseRecOn with
  | nil => exact .nil rfl
  | append_singleton calls call ih =>
    rw [List.foldl_append]
    exact .snoc ih rfl

lemma stored_foldl (hsound : s.Sound) (calls : List Call) (hkey : s.Stored key) :
    (calls.foldl after s).Stored key := by
  refine (List.foldlRecOn (motive := fun s => s.Sound ∧ s.Stored key) calls after ⟨hsound, hkey⟩
    fun s h call _ => ?_).2
  exact ⟨h.1.after call, (after_effect h.1 call).stored h.2⟩

/-- Whatever calls are made, the index names stored generations that are
neither revoked nor superseded, and no generation is ever forgotten. -/
theorem index_usable (calls later : List Call) :
    let s := calls.foldl after new
    s.Indexed ∧ ∀ key, s.Stored key → (later.foldl after s).Stored key :=
  have hsound := sound_of_run (run_calls new calls)
  ⟨hsound.indexed, fun _ => stored_foldl hsound later⟩

/-! ## a small realm -/

namespace Sample

open SmallRealm

def identityFingerprint : RealmIdentityFingerprint :=
  ⟨"sha256:" ++ String.ofList (List.replicate 64 'a'), by decide +kernel⟩

def keyFingerprint : KeyFingerprint :=
  ⟨"sha256:" ++ String.ofList (List.replicate 64 'c'), by decide +kernel⟩

def identityA : RealmIdentityRef := ⟨"identity-a", by decide⟩

def identityB : RealmIdentityRef := ⟨"identity-b", by decide⟩

def credentialRef : ControllerGenerationCredentialRef := ⟨"cred-1", by decide⟩

def generation (id : ControllerGenerationId) (identityRef : RealmIdentityRef)
    (status : ControllerGenerationStatus) : ControllerGenerationMetadata :=
  ⟨work, id, ⟨work, identityRef, identityFingerprint, .active, 0, none⟩, credentialRef,
    keyFingerprint, status, 0, 0, none, none⟩

def recovery : RecoveryProcedure :=
  ⟨⟨"rec-1", by decide⟩, root, work, .requested, gen1, none, none, none⟩

/-- A revocation issued by the first generation. -/
def revocation (target : RevocationTarget) : RevocationRecord :=
  ⟨⟨"rv-1", by decide⟩, work, gen1, target, .effective, .operatorRequested, 5, none, none⟩

end Sample

end RealmIdentityStore

end D2b

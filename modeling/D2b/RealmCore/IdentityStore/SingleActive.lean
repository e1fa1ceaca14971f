import D2b.RealmCore.IdentityStore.Invariants

/-!
# D2b.RealmCore.IdentityStore.SingleActive

The status of a generation and the index are two copies of one fact: which
generation of a realm is active.  They agree after every call but two.  An
identity revocation drops the index of the realm and revokes only the
generations under that identity, and completing a recovery overwrites the
index without a look at what it named.
-/

namespace D2b

open BTreeMap

namespace RealmIdentityStore

variable {call : Call} {s s' : RealmIdentityStore}

section

variable (s : RealmIdentityStore)

def IsActive (realm : RealmPath) (id : ControllerGenerationId)
    (g : ControllerGenerationMetadata) : Prop :=
  s.controllerGenerations[(toLex (realm, id) : GenerationKey)]? = some g ∧ g.status = .active

/-- Every active generation is the one the index names. -/
def ActiveIndexed : Prop := ∀ realm id g, s.IsActive realm id g → s.activeGeneration realm = some id

/-- One of the records revokes an identity of a realm whose active generation
is under another identity. -/
def MissesActive (records : List RevocationRecord) : Prop :=
  ∃ record ∈ records, ∃ realm identityRef fingerprint,
    record.target = .realmIdentity realm identityRef fingerprint ∧ s.Applies record.target ∧
    ∃ id g, s.IsActive realm id g ∧
      ¬(g.realmIdentity.identityRef = identityRef ∧ g.realmIdentity.fingerprint = fingerprint)

/-- The call completes a recovery in a realm that has an active generation
besides the affected one and the replacement. -/
def Overrides : Call → Prop
  | .completeRecovery recoveryId _ => ∃ recovery replacement,
      s.recoveries[recoveryId]? = some recovery ∧ recovery.status = .reissued ∧
      recovery.replacementGeneration = some replacement ∧
      ∃ id g, s.IsActive recovery.childRealm id g ∧ id ≠ recovery.affectedGeneration ∧
        id ≠ replacement.generationId
  | _ => False

/-- The call leaves an active generation that the index does not name. -/
def Displaces (call : Call) : Prop := s.MissesActive (s.newRecords call.records) ∨ s.Overrides call

end

/-! ## strikes -/

section

variable {id : ControllerGenerationId}

lemma IsActive.of_struck (h : Struck target s s') (hactive : s'.IsActive realm id g) :
    s.IsActive realm id g := by
  obtain ⟨g₀, hg₀, -, rfl | hrevoked⟩ := h.get_back hactive.1
  · exact ⟨hg₀, hactive.2⟩
  · rw [hactive.2] at hrevoked
    contradiction

lemma MissesActive.of_strike (h : Strike records s s') (hmiss : s'.MissesActive records) :
    s.MissesActive records := by
  obtain ⟨_, -, -, hstruck⟩ := h
  obtain ⟨record, hmem, realm, identityRef, fingerprint, htarget, happlies, id, g, hactive, hne⟩ :=
    hmiss
  refine ⟨record, hmem, realm, identityRef, fingerprint, htarget, ?_, id, g,
    hactive.of_struck hstruck, hne⟩
  rw [htarget] at happlies ⊢
  obtain ⟨hvalid, i, g', hg', hidentity, hfingerprint⟩ := happlies
  obtain ⟨g₀, hg₀, hrefs, -⟩ := hstruck.get_back hg'
  exact ⟨hvalid, i, g₀, hg₀, hrefs.identityRef.symm.trans hidentity,
    hrefs.fingerprint.symm.trans hfingerprint⟩

lemma ActiveIndexed.strike (h : s.ActiveIndexed) (hsafe : ¬s.MissesActive records)
    (hstrike : Strike records s s') : s'.ActiveIndexed := by
  obtain ⟨record, hmem, happlies, hstruck⟩ := hstrike
  intro realm id g hactive
  have hbefore := hactive.of_struck hstruck
  by_contra hdropped
  rcases hstruck.dropped realm id g hbefore.1 (h realm id g hbefore) hdropped with
    ⟨g', hg', hrevoked⟩ | ⟨identityRef, fingerprint, htarget, hne⟩
  · cases hactive.1.symm.trans hg'
    rw [hactive.2] at hrevoked
    contradiction
  · exact hsafe ⟨record, hmem, realm, identityRef, fingerprint, htarget, happlies, id, g, hbefore,
      hne⟩

lemma ActiveIndexed.chain (h : s.ActiveIndexed) (hsafe : ¬s.MissesActive records)
    (hchain : Relation.ReflTransGen (Strike records) s s') :
    s'.ActiveIndexed ∧ ¬s'.MissesActive records := by
  induction hchain with
  | refl => exact ⟨h, hsafe⟩
  | tail _ hstrike ih =>
    exact ⟨ih.1.strike ih.2 hstrike, fun hmiss => ih.2 (hmiss.of_strike hstrike)⟩

end

/-! ## the other effects -/

section

variable {id : ControllerGenerationId}

section

variable (h : s.ActiveIndexed)
include h

lemma ActiveIndexed.issued (hissued : Issued g s s') : s'.ActiveIndexed := by
  intro realm i g' hactive
  unfold activeGeneration
  rw [hissued.activeGenerations]
  by_cases hkey : g.key = toLex (realm, i)
  · -- the issued generation itself
    cases hissued.get_self.symm.trans (hkey ▸ hactive.1)
    cases toLex.injective hkey
    rw [if_pos hactive.2, get_insert_self]
  · have hbefore : s.IsActive realm i g' :=
      ⟨(hissued.get_of_ne hkey).symm.trans hactive.1, hactive.2⟩
    have hindex := h realm i g' hbefore
    by_cases hnew : g.status = .active
    · rw [if_pos hnew, get_insert_of_ne]
      · exact hindex
      · rintro rfl
        -- an active generation would have held the index against the issued one
        rw [hissued.free hnew i hindex] at hkey
        exact hkey rfl
    · rw [if_neg hnew]
      exact hindex

lemma ActiveIndexed.rotated (hrotated : Rotated id replacement s s') : s'.ActiveIndexed := by
  intro realm i g' hactive
  unfold activeGeneration
  rw [hrotated.activeGenerations]
  by_cases hkey : replacement.key = toLex (realm, i)
  · cases toLex.injective hkey
    rw [get_insert_self]
  by_cases hcurrent : toLex (replacement.realm, id) = (toLex (realm, i) : GenerationKey)
  · cases toLex.injective hcurrent
    have hsuperseded := hrotated.get_current hactive.1 hkey
    rw [hactive.2] at hsuperseded
    contradiction
  · have hbefore : s.IsActive realm i g' :=
      ⟨(hrotated.get_of_ne hkey hcurrent).symm.trans hactive.1, hactive.2⟩
    have hindex := h realm i g' hbefore
    rw [get_insert_of_ne]
    · exact hindex
    · rintro rfl
      -- the index named the superseded generation, not this one
      cases hrotated.index.symm.trans hindex
      exact hcurrent rfl

lemma ActiveIndexed.opened (hopened : Opened recovery s s') : s'.ActiveIndexed := by
  intro realm i g' hactive
  unfold activeGeneration
  rw [hopened.activeGenerations]
  by_cases hkey : recovery.affectedKey = toLex (realm, i)
  · have hrecovering := hopened.get_affected (hkey ▸ hactive.1)
    rw [hactive.2] at hrecovering
    contradiction
  · exact h realm i g' ⟨(hopened.get_of_ne hkey).symm.trans hactive.1, hactive.2⟩

lemma ActiveIndexed.reissued (hreissued : ReissuedWith recoveryId replacement s s') :
    s'.ActiveIndexed := by
  intro realm i g' hactive
  unfold activeGeneration
  rw [hreissued.activeGenerations]
  by_cases hkey : replacement.key = toLex (realm, i)
  · cases hreissued.get_self.symm.trans (hkey ▸ hactive.1)
    have hrecovering := hreissued.recovering
    rw [hactive.2] at hrecovering
    contradiction
  · exact h realm i g' ⟨(hreissued.get_of_ne hkey).symm.trans hactive.1, hactive.2⟩

lemma ActiveIndexed.completed
    (hcompleted : Completed recoveryId closedAt recovery replacement s s')
    (hsafe : ¬s.Overrides (.completeRecovery recoveryId closedAt)) : s'.ActiveIndexed := by
  intro realm i g' hactive
  unfold activeGeneration
  rw [hcompleted.activeGenerations]
  by_cases hkey : replacement.key = toLex (realm, i)
  · cases toLex.injective hkey
    rw [get_insert_self]
  by_cases haffected : recovery.affectedKey = toLex (realm, i)
  · obtain ⟨g, hg, hrevoked⟩ := hcompleted.get_affected
    cases hg.symm.trans (haffected ▸ hactive.1)
    rw [hactive.2] at hrevoked
    contradiction
  · have hbefore : s.IsActive realm i g' :=
      ⟨(hcompleted.get_of_ne hkey haffected).symm.trans hactive.1, hactive.2⟩
    have hcompletable := hcompleted.completable
    rw [get_insert_of_ne]
    · exact h realm i g' hbefore
    · rintro rfl
      refine hsafe ⟨recovery, replacement, hcompleted.get, hcompleted.reissued,
        hcompletable.has_replacement, i, g', hcompletable.realm ▸ hbefore, ?_, ?_⟩
      · rintro rfl
        exact haffected (congrArg (fun r => toLex (r, _)) hcompletable.realm.symm)
      · rintro rfl
        exact hkey rfl

end

end

/-- A call that does not displace keeps index and status in agreement. -/
lemma Effect.activeIndexed (heffect : Effect call s s') (h : s.ActiveIndexed)
    (hsafe : ¬s.Displaces call) : s'.ActiveIndexed := by
  cases heffect with
  | struck mid chain same =>
    have hmid := (h.chain (fun hmiss => hsafe (.inl hmiss)) chain).1
    intro realm id g hactive
    unfold activeGeneration
    rw [same.activeGenerations]
    exact hmid realm id g ⟨same.controllerGenerations ▸ hactive.1, hactive.2⟩
  | issued g hissued => exact h.issued hissued
  | rotated id replacement hrotated => exact h.rotated hrotated
  | opened recovery hopened => exact h.opened hopened
  | moved recoveryId next hmoved =>
    intro realm id g hactive
    unfold activeGeneration
    rw [hmoved.activeGenerations]
    exact h realm id g ⟨hmoved.controllerGenerations ▸ hactive.1, hactive.2⟩
  | reissued recoveryId replacement hreissued => exact h.reissued hreissued
  | completed recoveryId closedAt recovery replacement hcall hcompleted =>
    subst hcall
    exact h.completed hcompleted fun hover => hsafe (.inr hover)

/-! ## runs -/

/-- A call is made that does not displace. -/
def KeepingStep (_ : List Call) (s : RealmIdentityStore) (call : Call)
    (s' : RealmIdentityStore) : Prop :=
  ¬s.Displaces call ∧ s' = s.after call

/-- In a run that never displaces, a realm has at most one active generation,
the index names it, and whatever the index names is stored and neither
revoked nor superseded. -/
theorem single_active {h : List Call} (r : Trace.Run (· = new) KeepingStep h s) :
    (∀ realm id id' g g', s.IsActive realm id g → s.IsActive realm id' g' → id = id') ∧
    (∀ realm id g, s.IsActive realm id g → s.activeGeneration realm = some id) ∧
    ∀ (realm : RealmPath) (id : ControllerGenerationId), s.activeGeneration realm = some id →
      ∃ g, s.controllerGenerations[(toLex (realm, id) : GenerationKey)]? = some g ∧
        g.status ≠ .revoked ∧ g.status ≠ .superseded := by
  have hinv : s.Sound ∧ s.ActiveIndexed := by
    apply r.preserves
    · refine ⟨sound_new, fun realm id g hactive => ?_⟩
      simp [IsActive, new] at hactive
    · rintro _ s call _ ⟨hsound, hactive⟩ ⟨hsafe, rfl⟩
      exact ⟨hsound.after call, (after_effect hsound call).activeIndexed hactive hsafe⟩
  refine ⟨fun realm id id' g g' hid hid' => ?_, hinv.2, hinv.1.indexed⟩
  have hindex := hinv.2 realm id g hid
  rw [hinv.2 realm id' g' hid'] at hindex
  exact (Option.some.inj hindex).symm

namespace Sample

open SmallRealm

def gen3 : ControllerGenerationId := ⟨"gen-3", by decide⟩

def rotation : KeyRotationPlan :=
  ⟨⟨"rot-1", by decide⟩, .controllerGeneration work gen1 credentialRef keyFingerprint,
    .planned, none, none, none, none, none⟩

/-- The first generation is active, another one waits under another identity,
whose revocation comes. -/
def revokeOther : List Call :=
  [.issueControllerGeneration (generation gen1 identityA .active),
    .issueControllerGeneration (generation gen2 identityB .pending),
    .revoke (revocation (.realmIdentity work identityB identityFingerprint)) []]

/-- A recovery of the first generation is completed after its rotation. -/
def rotateInRecovery : List Call :=
  [.issueControllerGeneration (generation gen1 identityA .active),
    .openRecovery recovery,
    .approveRecovery recovery.recoveryId,
    .reissueRecovery recovery.recoveryId (generation gen2 identityA .pending),
    .rotateControllerGeneration rotation (generation gen3 identityA .pending) 7,
    .completeRecovery recovery.recoveryId 9]

def rotate : List Call :=
  [.issueControllerGeneration (generation gen1 identityA .active),
    .rotateControllerGeneration rotation (generation gen2 identityA .pending) 7]

end Sample

open SmallRealm Sample in
theorem single_active_rotated :
    (rotate.foldl after new).IsActive work gen2
      { generation gen2 identityA .active with notBeforeUnixSeconds := 7 } ∧
    (rotate.foldl after new).activeGeneration work = some gen2 := by
  have hsafe : ∀ (s : RealmIdentityStore) (call : Call), call ∈ rotate → ¬s.Displaces call := by
    intro s call hmem
    simp only [rotate, List.mem_cons, List.not_mem_nil, or_false] at hmem
    rcases hmem with rfl | rfl <;> rintro (⟨_, hnil, -⟩ | hover)
    -- neither call presents a record or completes a recovery
    all_goals first | exact List.not_mem_nil hnil | exact hover
  have hrun : Trace.Run (· = new) KeepingStep rotate (rotate.foldl after new) :=
    .snoc (h := [_]) (.snoc (h := []) (.nil rfl) ⟨hsafe _ _ (by simp [rotate]), rfl⟩)
      ⟨hsafe _ _ (by simp [rotate]), rfl⟩
  have hactive : (rotate.foldl after new).IsActive work gen2
      { generation gen2 identityA .active with notBeforeUnixSeconds := 7 } :=
    ⟨by decide +kernel, rfl⟩
  exact ⟨hactive, (single_active hrun).2.1 _ _ _ hactive⟩

open SmallRealm Sample in
/-- The index loses an active generation to the revocation of another identity,
and a recovery completed after a rotation makes a second one active. -/
theorem exists_runs_displacing :
    (∃ (h : List Call) (s : RealmIdentityStore) (realm : RealmPath) (id : ControllerGenerationId)
      (g : ControllerGenerationMetadata), Trace.Run (· = new) Step h s ∧ s.IsActive realm id g ∧
      s.activeGeneration realm ≠ some id) ∧
    ∃ (h : List Call) (s : RealmIdentityStore) (realm : RealmPath) (id id' : ControllerGenerationId)
      (g g' : ControllerGenerationMetadata), Trace.Run (· = new) Step h s ∧
      s.IsActive realm id g ∧ s.IsActive realm id' g' ∧ id ≠ id' := by
  constructor
  · refine ⟨revokeOther, _, work, gen1, generation gen1 identityA .active,
      run_calls new revokeOther, ⟨?_, rfl⟩, ?_⟩
    · decide +kernel
    · decide +kernel
  · refine ⟨rotateInRecovery, _, work, gen2, gen3,
      { generation gen2 identityA .active with notBeforeUnixSeconds := 9 },
      { generation gen3 identityA .active with notBeforeUnixSeconds := 7 },
      run_calls new rotateInRecovery, ⟨?_, rfl⟩, ⟨?_, rfl⟩, ?_⟩
    · decide +kernel
    · decide +kernel
    · decide +kernel

end RealmIdentityStore

end D2b

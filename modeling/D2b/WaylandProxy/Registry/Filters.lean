import D2b.WaylandProxy.Registry

/-!
# D2b.WaylandProxy.Registry.Filters

What a client is shown, and what it binds.

In every state the handler's tables are those of the compositor's globals: a global
that passes the policy is advertised with its capped version, another one is hidden.
The name of the proxy's own clipboard manager stands apart, whatever the compositor
uses it for.
-/

namespace D2b.WaylandProxy

open FilterPolicy BTreeMap List Option

/-- The global is one that a client may see. -/
def FilterPolicy.passes (policy : FilterPolicy) (interface : ObjectInterface) : Bool :=
  decide (globalDisposition interface.name = .notClipboard) && policy.isAllowed interface.name

/-- How a global of the compositor is advertised. -/
def FilterPolicy.view (policy : FilterPolicy) (global : ObjectInterface × Nat) :
    Option AdvertisedGlobal :=
  if policy.passes global.1 then
    some
      { interface := global.1
        version := policy.advertisedVersion global.1.name global.2
        syntheticClipboard := false }
  else none

/-- Whether a message leaves the client with a global of this name. -/
def Message.updates (name : GlobalName) (seen : Bool) : Message → Bool
  | .global shown => if shown.name = name then true else seen
  | .globalRemove removed => if removed = name then false else seen
  | _ => seen

/-- The client has been shown a global of this name, and no removal of it since. -/
def clientSees (sent : List Message) (name : GlobalName) : Bool :=
  sent.foldl (fun seen message => message.updates name seen) false

lemma clientSees_concat (sent : List Message) (message : Message) (name : GlobalName) :
    clientSees (sent ++ [message]) name = message.updates name (clientSees sent name) := by
  simp [clientSees]

namespace Registry

variable {policy : FilterPolicy} {handler : FilterRegistryHandler}
  {live : BTreeMap GlobalName (ObjectInterface × Nat)} {sent : List Message}

/-- The handler and what was sent, beside the compositor's globals. -/
structure Mirrors (policy : FilterPolicy) (live : BTreeMap GlobalName (ObjectInterface × Nat))
    (handler : FilterRegistryHandler) (sent : List Message) : Prop where
  samePolicy : handler.policy = policy
  advertised : ∀ name, handler.advertisedGlobals[name]? =
    if handler.syntheticClipboardName = some name then some clipboardGlobal
    else live[name]?.bind policy.view
  hidden : ∀ name, handler.syntheticClipboardName ≠ some name →
    (name ∈ handler.hiddenGlobals ↔ ∃ global, live[name]? = some global ∧
      policy.passes global.1 = false)
  /-- the compositor's first global brings the clipboard manager with it -/
  fresh : handler.syntheticClipboardName = none → live = ∅ ∧ handler.hiddenGlobals = ∅
  shown : ∀ name, clientSees sent name = handler.advertisedGlobals.contains name
  binds : ∀ name interface version, .bind name interface version ∈ sent →
    policy.passes interface = true

section

variable {message : Message} (h : Mirrors policy live handler sent)
  (hbind : ∀ name interface version, message = .bind name interface version →
    policy.passes interface = true)
include h hbind

/-- A message that binds nothing for the client, or only what passes. -/
lemma Mirrors.binds_concat (name : GlobalName) (interface : ObjectInterface) (version : Nat)
    (hmem : .bind name interface version ∈ sent ++ [message]) : policy.passes interface = true := by
  rcases Trace.mem_snoc.mp hmem with hmem | hlast
  · exact h.binds name interface version hmem
  · exact hbind name interface version hlast.symm

/-- A message that neither shows nor binds anything for the client. -/
lemma Mirrors.sends (hsame : ∀ name seen, message.updates name seen = seen) :
    Mirrors policy live handler (sent ++ [message]) := by
  refine ⟨h.samePolicy, h.advertised, h.hidden, h.fresh, fun name => ?_, h.binds_concat hbind⟩
  rw [clientSees_concat, hsame]
  exact h.shown name

end

/-! ## globals -/

/-- A global that is advertised is shown. -/
lemma Mirrors.shows (h : Mirrors policy live handler sent) (global : GlobalAdvertisement)
    (advertised : AdvertisedGlobal) (name : GlobalName) :
    clientSees (sent ++ [.global global]) name =
      (handler.advertisedGlobals.insert global.name advertised).contains name := by
  rw [clientSees_concat, Message.updates, h.shown name]
  by_cases hsame : global.name = name
  · simp [hsame]
  · simp [hsame, Std.ExtTreeMap.contains_insert]

lemma Mirrors.observe (h : Mirrors policy live handler sent)
    (xmlVersion : ObjectInterface → Nat) (name : GlobalName) (interface : ObjectInterface)
    (version : Nat) :
    Mirrors policy live (observe xmlVersion handler name interface version).2
      (sent ++ (observe xmlVersion handler name interface version).1) := by
  -- only the decorations' own objects change
  have hdecoration : ∀ decoration sent', Mirrors policy live handler sent' →
      Mirrors policy live { handler with decoration } sent' :=
    fun decoration sent' h => ⟨h.samePolicy, h.advertised, h.hidden, h.fresh, h.shown, h.binds⟩
  unfold Registry.observe
  cases hcase : handler.decoration with
  | none => simpa using h
  | some decoration =>
    unfold observeGlobal
    cases DecorationObject.of? interface with
    | none => simpa using hdecoration _ sent h
    | some object =>
      dsimp only
      split
      · simpa using hdecoration _ sent h
      · exact hdecoration _ _ (h.sends (fun _ _ _ hbind => by cases hbind) fun _ _ => rfl)

lemma Mirrors.ensure (h : Mirrors policy live handler sent)
    (hensure : handler.ensureSyntheticClipboardGlobal reservedName = some (synthetic, handler')) :
    Mirrors policy live handler' (sent ++ (synthetic.map Message.global).toList) ∧
      handler'.syntheticClipboardName ≠ none := by
  unfold FilterRegistryHandler.ensureSyntheticClipboardGlobal at hensure
  cases hname : handler.syntheticClipboardName with
  | some name =>
    simp only [hname, isSome_some, if_true, Option.some.injEq, Prod.mk.injEq] at hensure
    obtain ⟨rfl, rfl⟩ := hensure
    exact ⟨by simpa using h, by simp [hname]⟩
  | none =>
    simp only [hname, isSome_none, Bool.false_eq_true, if_false] at hensure
    obtain ⟨name, -, heq⟩ := map_eq_some_iff.mp hensure
    obtain ⟨rfl, rfl⟩ := Prod.mk.inj heq
    obtain ⟨rfl, hhidden⟩ := h.fresh hname
    refine ⟨⟨h.samePolicy, ?_, ?_, nofun, ?_, h.binds_concat nofun⟩, nofun⟩
    · intro name'
      have hold := h.advertised name'
      rw [hname] at hold
      simp only [get_insert, hold, Option.some.injEq]
      by_cases hsame : name = name'
      · simp [hsame]
      · simp [hsame]
    · intro name' _
      simp [hhidden]
    · exact h.shows _ _

lemma lookup_eq_deny :
    (policy.lookup interface).1 = .deny ↔ policy.isAllowed interface = false := by
  unfold isAllowed
  cases (policy.lookup interface).1 <;> simp

section

variable (h : Mirrors policy live handler sent)
include h

/-- A hidden global changes the set of hidden names only. -/
lemma Mirrors.hide (hlive : live[name]? = none)
    (hready : handler.syntheticClipboardName ≠ none)
    (hhide : some name = handler.syntheticClipboardName ∨ policy.passes interface = false) :
    Mirrors policy (live.insert name (interface, version))
      { handler with hiddenGlobals := insert name handler.hiddenGlobals } sent := by
  refine ⟨h.samePolicy, ?_, ?_, fun hnone => absurd hnone hready, h.shown, h.binds⟩
  · intro name'
    rw [h.advertised name', get_insert]
    by_cases hsynthetic : handler.syntheticClipboardName = some name'
    · simp only [hsynthetic, if_true]
    · rw [if_neg hsynthetic, if_neg hsynthetic]
      by_cases hsame : name = name'
      · subst hsame
        have hpasses := hhide.resolve_left fun heq => hsynthetic heq.symm
        simp [hlive, view, hpasses]
      · simp [hsame]
  · intro name' hsynthetic
    rw [Finset.mem_insert, h.hidden name' hsynthetic, get_insert]
    by_cases hsame : name = name'
    · subst hsame
      have hpasses := hhide.resolve_left fun heq => hsynthetic heq.symm
      simp [hpasses]
    · simp [hsame, Ne.symm hsame]

lemma Mirrors.decideGlobal (hlive : live[name]? = none)
    (hready : handler.syntheticClipboardName ≠ none) :
    Mirrors policy (live.insert name (interface, version))
      (handler.decideGlobal name interface version).2
      (sent ++ decisionMessages (handler.decideGlobal name interface version).1) := by
  obtain rfl := h.samePolicy
  have hhide : ∀ _ : some name = handler.syntheticClipboardName ∨
        handler.policy.passes interface = false,
      Mirrors handler.policy (live.insert name (interface, version))
        { handler with hiddenGlobals := insert name handler.hiddenGlobals } sent :=
    h.hide hlive hready
  unfold FilterRegistryHandler.decideGlobal
  by_cases hsynthetic : some name = handler.syntheticClipboardName
  · rw [if_pos hsynthetic]
    simpa [decisionMessages] using hhide (.inl hsynthetic)
  · rw [if_neg hsynthetic]
    by_cases hclip : globalDisposition interface.name ≠ .notClipboard
    · rw [if_pos hclip]
      have hpasses : handler.policy.passes interface = false := by simp [passes, hclip]
      simpa [decisionMessages] using hhide (.inr hpasses)
    · rw [if_neg hclip]
      by_cases hdeny : (handler.policy.lookup interface.name).1 = .deny
      · rw [if_pos hdeny]
        have hpasses : handler.policy.passes interface = false := by
          simp [passes, lookup_eq_deny.mp hdeny]
        simpa [decisionMessages] using hhide (.inr hpasses)
      · rw [if_neg hdeny]
        rw [lookup_eq_deny, Bool.not_eq_false] at hdeny
        have hpasses : handler.policy.passes interface = true := by
          simp only [passes, hdeny, Bool.and_true, decide_eq_true_eq]
          simpa using hclip
        refine ⟨rfl, ?_, ?_, fun hnone => absurd hnone hready, ?_, h.binds_concat nofun⟩
        · intro name'
          rw [get_insert, h.advertised name', get_insert]
          by_cases hsame : name = name'
          · subst hsame
            simp only [if_true, if_neg (fun heq => hsynthetic (Eq.symm heq)), bind_some,
              view, hpasses]
          · simp only [if_neg hsame]
        · intro name' hne
          rw [h.hidden name' hne, get_insert]
          by_cases hsame : name = name'
          · subst hsame
            simp [hlive, hpasses]
          · simp [hsame]
        · exact h.shows _ _

/-! ## removals and binds -/

lemma Mirrors.remove (hlive : live[name]? = some global) :
    Mirrors policy (live.erase name) (handleGlobalRemove handler name).2
      (sent ++ (handleGlobalRemove handler name).1) := by
  have hnotfresh : handler.syntheticClipboardName ≠ none := by
    intro hnone
    rw [(h.fresh hnone).1] at hlive
    simp at hlive
  unfold handleGlobalRemove FilterRegistryHandler.prepareGlobalRemove
  by_cases hsynthetic : some name = handler.syntheticClipboardName
  · rw [if_pos hsynthetic]
    refine ⟨h.samePolicy, ?_, ?_, fun hnone => absurd hnone hnotfresh, by simpa using h.shown,
      by simpa using h.binds⟩
    · intro name'
      rw [h.advertised name', get_erase]
      by_cases hsame : name = name'
      · simp [← hsame, ← hsynthetic]
      · simp [hsame]
    · intro name' hne
      have hsame : name ≠ name' := by
        rintro rfl
        exact hne hsynthetic.symm
      rw [h.hidden name' hne, get_erase, if_neg hsame]
  · rw [if_neg hsynthetic]
    have hne : handler.syntheticClipboardName ≠ some name := fun heq => hsynthetic heq.symm
    by_cases hhidden : name ∈ handler.hiddenGlobals
    · rw [if_pos hhidden]
      obtain ⟨found, hfound, hpasses⟩ := (h.hidden name hne).mp hhidden
      refine ⟨h.samePolicy, ?_, ?_, fun hnone => absurd hnone hnotfresh, by simpa using h.shown,
        by simpa using h.binds⟩
      · intro name'
        rw [h.advertised name', get_erase]
        by_cases hsame : name = name'
        · subst hsame
          simp [hne, hfound, view, hpasses]
        · simp [hsame]
      · intro name' hne'
        rw [Finset.mem_erase, h.hidden name' hne', get_erase]
        by_cases hsame : name = name'
        · simp [hsame]
        · simp [hsame, Ne.symm hsame]
    · rw [if_neg hhidden]
      refine ⟨h.samePolicy, ?_, ?_, fun hnone => absurd hnone hnotfresh, ?_, h.binds_concat nofun⟩
      · intro name'
        rw [get_erase, h.advertised name', get_erase]
        by_cases hsame : name = name'
        · subst hsame
          simp [hne]
        · simp [hsame]
      · intro name' hne'
        rw [h.hidden name' hne', get_erase]
        by_cases hsame : name = name'
        · subst hsame
          have hnot := (h.hidden name hne).not.mp hhidden
          simpa using hnot
        · simp [hsame]
      · intro name'
        simp only [clientSees_concat, Message.updates, h.shown name']
        by_cases hsame : name = name'
        · simp [hsame]
        · simp [hsame, Std.ExtTreeMap.contains_erase]

/-- A removal is sent on for what the client was shown of the compositor. -/
lemma Mirrors.remove_iff (hlive : live.contains name = true) :
    (handleGlobalRemove handler name).1 = [.globalRemove name] ↔
      handler.syntheticClipboardName ≠ some name ∧ clientSees sent name = true := by
  obtain ⟨global, hglobal⟩ := contains_iff_get.mp hlive
  rw [h.shown name, contains_iff_get, h.advertised name]
  unfold handleGlobalRemove FilterRegistryHandler.prepareGlobalRemove
  by_cases hsynthetic : some name = handler.syntheticClipboardName
  · rw [if_pos hsynthetic]
    simp [← hsynthetic]
  · rw [if_neg hsynthetic]
    have hne : handler.syntheticClipboardName ≠ some name := fun heq => hsynthetic heq.symm
    by_cases hhidden : name ∈ handler.hiddenGlobals
    · obtain ⟨found, hfound, hpasses⟩ := (h.hidden name hne).mp hhidden
      rw [if_pos hhidden]
      simp [hne, hfound, view, hpasses]
    · have hnot := (h.hidden name hne).not.mp hhidden
      have hpasses : policy.passes global.1 = true := by
        by_contra hfails
        exact hnot ⟨global, hglobal, Bool.eq_false_iff.mpr hfails⟩
      rw [if_neg hhidden]
      simp [hne, hglobal, view, hpasses]

end

lemma view_eq_some :
    policy.view global = some advertised ↔ policy.passes global.1 = true ∧
      advertised = ⟨global.1, policy.advertisedVersion global.1.name global.2, false⟩ := by
  unfold view
  split <;> simp [*, eq_comm]

/-- A bind is sent on for an advertised global that is not the proxy's own. -/
lemma handleBind_eq_bind :
    handleBind handler name interface version = [.bind name interface version] ↔
      ∃ advertised, handler.advertisedGlobals[name]? = some advertised ∧
        bindMatchesAdvertisedCap advertised interface version = true ∧
        advertised.syntheticClipboard = false := by
  unfold handleBind
  cases handler.advertisedGlobals[name]? with
  | none => simp
  | some advertised =>
    simp only [Option.some.injEq, exists_eq_left']
    cases bindMatchesAdvertisedCap advertised interface version with
    | false => simp
    | true =>
      cases advertised.syntheticClipboard with
      | false => simp
      | true => by_cases hmanager : interface = wlDataDeviceManager <;> simp [hmanager]

/-- A bind that is sent on is one of a global that passes. -/
lemma Mirrors.handleBind_iff (h : Mirrors policy live handler sent) :
    handleBind handler name interface version = [.bind name interface version] ↔
      handler.syntheticClipboardName ≠ some name ∧ policy.passes interface = true ∧
        ∃ offered, live[name]? = some (interface, offered) ∧
          version ≤ policy.advertisedVersion interface.name offered := by
  rw [handleBind_eq_bind, h.advertised name]
  constructor
  · rintro ⟨advertised, hget, hmatches, hreal⟩
    split at hget
    · cases hget
      cases hreal
    · next hne =>
      obtain ⟨global, hlive, hview⟩ := bind_eq_some_iff.mp hget
      obtain ⟨hpasses, rfl⟩ := view_eq_some.mp hview
      simp only [bindMatchesAdvertisedCap, Bool.and_eq_true, decide_eq_true_eq] at hmatches
      obtain ⟨rfl, hversion⟩ := hmatches
      exact ⟨hne, hpasses, global.2, hlive, hversion⟩
  · rintro ⟨hne, hpasses, offered, hlive, hversion⟩
    rw [if_neg hne, hlive, bind_some]
    exact ⟨_, view_eq_some.mpr ⟨hpasses, rfl⟩, by simp [bindMatchesAdvertisedCap, hversion], rfl⟩

/-! ## runs -/

lemma handleBind_cases (handler : FilterRegistryHandler) (name : GlobalName)
    (interface : ObjectInterface) (version : Nat) :
    handleBind handler name interface version = [.disconnect] ∨
      handleBind handler name interface version = [] ∨
      handleBind handler name interface version = [.bind name interface version] := by
  unfold handleBind
  split
  · exact .inl rfl
  · split
    · exact .inl rfl
    · split
      · split
        · exact .inr (.inl rfl)
        · exact .inl rfl
      · exact .inr (.inr rfl)

lemma Mirrors.bind (h : Mirrors policy live handler sent) (name : GlobalName)
    (interface : ObjectInterface) (version : Nat) :
    Mirrors policy live handler (sent ++ handleBind handler name interface version) := by
  rcases handleBind_cases handler name interface version with hcase | hcase | hcase
  · rw [hcase]
    exact h.sends (fun _ _ _ hbind => by cases hbind) fun _ _ => rfl
  · rw [hcase, append_nil]
    exact h
  · have hpasses := (h.handleBind_iff.mp hcase).2.1
    rw [hcase]
    refine h.sends ?_ fun _ _ => rfl
    rintro _ _ _ ⟨⟩
    exact hpasses

variable {r : Registry}

/-- A global passes through the decorations, the clipboard manager and the policy. -/
lemma global_of_step (hstep : r.step xmlVersion (.global name interface version) = some r') :
    r.live[name]? = none ∧ ∃ synthetic ready,
      (observe xmlVersion r.handler name interface version).2.ensureSyntheticClipboardGlobal name =
        some (synthetic, ready) ∧
      r' =
        { handler := (ready.decideGlobal name interface version).2
          live := r.live.insert name (interface, version)
          sent := r.sent ++ (observe xmlVersion r.handler name interface version).1 ++
            (synthetic.map Message.global).toList ++
            decisionMessages (ready.decideGlobal name interface version).1 } := by
  simp only [step] at hstep
  split at hstep
  · cases hstep
  · next hlive =>
    rw [Bool.not_eq_true, contains_eq_false, ← get_eq_none_iff] at hlive
    obtain ⟨⟨messages, handler⟩, hhandle, rfl⟩ := map_eq_some_iff.mp hstep
    obtain ⟨⟨synthetic, decision, decided⟩, hprepare, hresult⟩ := map_eq_some_iff.mp hhandle
    obtain ⟨⟨synthetic', ready⟩, hensure, hdecide⟩ := map_eq_some_iff.mp hprepare
    obtain ⟨rfl, hpair⟩ := Prod.mk.inj hdecide
    obtain ⟨rfl, rfl⟩ := Prod.mk.inj hresult
    refine ⟨hlive, synthetic', ready, hensure, ?_⟩
    rw [hpair]
    simp only [append_assoc]
    rfl

lemma Mirrors.step (h : Mirrors policy r.live r.handler r.sent)
    (hstep : r.step xmlVersion event = some r') : Mirrors policy r'.live r'.handler r'.sent := by
  cases event with
  | global name interface version =>
    obtain ⟨hlive, synthetic, ready, hensure, rfl⟩ := global_of_step hstep
    have hobserve := h.observe xmlVersion name interface version
    obtain ⟨hensured, hready⟩ := hobserve.ensure hensure
    exact hensured.decideGlobal hlive hready
  | globalRemove name =>
    simp only [Registry.step] at hstep
    split at hstep
    · next hlive =>
      obtain ⟨global, hglobal⟩ := contains_iff_get.mp hlive
      cases hstep
      exact h.remove hglobal
    · cases hstep
  | bind name interface version =>
    cases hstep
    exact h.bind name interface version

lemma mirrors_init (policy : FilterPolicy) (decoration : Option Decoration) :
    Mirrors policy (init policy decoration).live (init policy decoration).handler
      (init policy decoration).sent := by
  refine ⟨rfl, ?_, ?_, ?_, ?_, ?_⟩ <;> simp [init, clientSees]

lemma mirrors_of_run (h : Trace.Run (· = init policy decoration)
      (fun _ r event r' => r.step xmlVersion event = some r') events r) :
    Mirrors policy r.live r.handler r.sent := by
  apply h.preserves
  · exact mirrors_init policy decoration
  · intro _ r event r' ih hstep
    exact ih.step hstep

/-! ## the clipboard manager's name -/

lemma searchDown_isSome (hle : m ≤ n) (hfree : free m = true) :
    (searchDown free n).isSome = true := by
  induction n with
  | zero =>
    rw [Nat.le_zero.mp hle] at hfree
    simp [searchDown, hfree]
  | succ n ih =>
    unfold searchDown
    split
    · rfl
    · next hnot =>
      refine ih (Nat.lt_succ_iff.mp (Nat.lt_of_le_of_ne hle ?_))
      rintro rfl
      exact hnot hfree

/-- Where no name is known, one of the first two is free. -/
lemma allocate_isSome (hadvertised : handler.advertisedGlobals = ∅)
    (hhidden : handler.hiddenGlobals = ∅) (reservedName : GlobalName) :
    (handler.allocateSyntheticClipboardName reservedName).isSome = true := by
  have hfree : ∀ n, Fin.ofNat (2 ^ 32) n ≠ reservedName →
      handler.nameIsFree reservedName (Fin.ofNat _ n) = true := by
    intro n hne
    simpa [FilterRegistryHandler.nameIsFree, hadvertised, hhidden] using hne
  unfold FilterRegistryHandler.allocateSyntheticClipboardName
  rw [isSome_map]
  by_cases hzero : Fin.ofNat (2 ^ 32) 0 = reservedName
  · have hone : Fin.ofNat (2 ^ 32) 1 ≠ reservedName := by
      rw [← hzero]
      decide
    exact searchDown_isSome (by decide) (hfree 1 hone)
  · exact searchDown_isSome (by decide) (hfree 0 hzero)

/-- The names never run out. -/
lemma Mirrors.ensure_isSome (h : Mirrors policy live handler sent) (name : GlobalName) :
    (handler.ensureSyntheticClipboardGlobal name).isSome = true := by
  unfold FilterRegistryHandler.ensureSyntheticClipboardGlobal
  split
  · rfl
  · next hnone =>
    rw [not_isSome_iff_eq_none] at hnone
    obtain ⟨hempty, hhidden⟩ := h.fresh hnone
    have hadvertised : handler.advertisedGlobals = ∅ := by
      ext name'
      rw [h.advertised name', hnone, hempty]
      simp
    rw [isSome_map]
    exact allocate_isSome hadvertised hhidden name

/-- Every global that the compositor can name is handled. -/
lemma Mirrors.step_global_isSome (h : Mirrors policy r.live r.handler r.sent)
    (hlive : r.live[name]? = none) (interface : ObjectInterface) (version : Nat) :
    (r.step xmlVersion (.global name interface version)).isSome = true := by
  have hobserve := h.observe xmlVersion name interface version
  have hnot : r.live.contains name = false := contains_eq_false.mpr (get_eq_none_iff.mp hlive)
  simp only [Registry.step, hnot, Bool.false_eq_true, if_false, handleGlobal,
    FilterRegistryHandler.prepareGlobal, isSome_map]
  exact hobserve.ensure_isSome name

end Registry

/-! ## the policy that was built -/

/-- What the registry keeps at the clipboard boundary is in the policy's table. -/
lemma isBoundary_of_disposition (h : globalDisposition interface ≠ .notClipboard) :
    isBoundary interface = true := by
  have hall : ∀ name ∈ wlDataDeviceManager.name :: deniedClipboardGlobals,
      isBoundary name = true := by
    intro name hmem
    unfold isBoundary
    rw [get_defaultClassifiedEntries]
    revert name
    decide
  refine hall interface ?_
  unfold globalDisposition at h
  split at h
  · next heq =>
    rw [heq]
    exact mem_cons_self
  · split at h
    · next hmem => exact mem_cons_of_mem _ hmem
    · exact absurd rfl h

lemma isAllowed_eq_false_of_isBoundary (h : build input = some policy)
    (hboundary : isBoundary interface = true) : policy.isAllowed interface = false := by
  have hnamed : input.Names interface := by
    left
    unfold isBoundary at hboundary
    cases hrow : defaultClassifiedEntries[interface]? with
    | none => simp [hrow] at hboundary
    | some entry => rfl
  rw [isAllowed_of_named h fun _ _ => hnamed, ← Bool.not_eq_true, listed_allows]
  simp [hboundary]

/-- A policy that was built allows nothing of the clipboard boundary. -/
lemma passes_of_build (h : build input = some policy) :
    policy.passes interface = policy.isAllowed interface.name := by
  unfold passes
  by_cases hclip : globalDisposition interface.name = .notClipboard
  · simp [hclip]
  · simp [hclip, isAllowed_eq_false_of_isBoundary h (isBoundary_of_disposition hclip)]

theorem registry_filters {input : PolicyInput} {policy : FilterPolicy}
    (hbuild : build input = some policy) {xmlVersion : ObjectInterface → Nat}
    {decoration : Option Decoration} {events : List RegistryEvent} {r : Registry}
    (h : Trace.Run (· = Registry.init policy decoration)
      (fun _ r event r' => r.step xmlVersion event = some r') events r) :
    (∀ name interface version,
      Registry.handleBind r.handler name interface version = [.bind name interface version] ↔
        r.handler.syntheticClipboardName ≠ some name ∧ ∃ offered,
          r.live[name]? = some (interface, offered) ∧
          policy.isAllowed interface.name = true ∧
          version ≤ policy.advertisedVersion interface.name offered) ∧
    (∀ name, r.handler.syntheticClipboardName = some name → ∀ interface version,
      Registry.handleBind r.handler name interface version ≠ [.bind name interface version]) ∧
    (∀ name, r.live.contains name = true →
      ((Registry.handleGlobalRemove r.handler name).1 = [.globalRemove name] ↔
        r.handler.syntheticClipboardName ≠ some name ∧ clientSees r.sent name = true)) ∧
    (∀ name interface version, .bind name interface version ∈ r.sent →
      policy.isAllowed interface.name = true ∧ isBoundary interface.name = false) := by
  have hmirrors := Registry.mirrors_of_run h
  refine ⟨?_, ?_, ?_, ?_⟩
  · intro name interface version
    rw [hmirrors.handleBind_iff, passes_of_build hbuild]
    constructor
    · rintro ⟨hne, hallowed, offered, hlive, hversion⟩
      exact ⟨hne, offered, hlive, hallowed, hversion⟩
    · rintro ⟨hne, offered, hlive, hallowed, hversion⟩
      exact ⟨hne, hallowed, offered, hlive, hversion⟩
  · intro name hname interface version heq
    exact (hmirrors.handleBind_iff.mp heq).1 hname
  · intro name hlive
    exact hmirrors.remove_iff hlive
  · intro name interface version hmem
    have hallowed := hmirrors.binds name interface version hmem
    rw [passes_of_build hbuild] at hallowed
    refine ⟨hallowed, ?_⟩
    rw [← Bool.not_eq_true]
    intro hboundary
    rw [isAllowed_eq_false_of_isBoundary hbuild hboundary] at hallowed
    cases hallowed

/-! ## a name that is taken, and a global that is denied -/

namespace Registry

lemma observe_eq (xmlVersion : ObjectInterface → Nat) (handler : FilterRegistryHandler)
    (name : GlobalName) (interface : ObjectInterface) (version : Nat) :
    ∃ decoration, (observe xmlVersion handler name interface version).2 =
      { handler with decoration } := by
  unfold observe
  split
  · exact ⟨handler.decoration, rfl⟩
  · exact ⟨_, rfl⟩

/-- The clipboard manager has its name from the first global on. -/
lemma synthetic_of_step {r : Registry}
    (hstep : r.step xmlVersion (.global name interface version) = some r') :
    r'.handler.syntheticClipboardName = r.handler.syntheticClipboardName.or
      (r.handler.allocateSyntheticClipboardName name) := by
  obtain ⟨-, synthetic, ready, hensure, rfl⟩ := global_of_step hstep
  have hdecide : (ready.decideGlobal name interface version).2.syntheticClipboardName =
      ready.syntheticClipboardName := by
    unfold FilterRegistryHandler.decideGlobal
    split_ifs <;> rfl
  obtain ⟨decoration, hobserve⟩ := observe_eq xmlVersion r.handler name interface version
  rw [hobserve] at hensure
  simp only [hdecide]
  unfold FilterRegistryHandler.ensureSyntheticClipboardGlobal at hensure
  cases hname : r.handler.syntheticClipboardName with
  | some found =>
    simp only [hname, isSome_some, if_true, Option.some.injEq, Prod.mk.injEq] at hensure
    rw [← hensure.2]
    simp
  | none =>
    simp only [hname, isSome_none, Bool.false_eq_true, if_false] at hensure
    obtain ⟨found, hfound, hready⟩ := map_eq_some_iff.mp hensure
    rw [← (Prod.mk.inj hready).2, none_or]
    exact hfound.symm

end Registry

namespace Sample

def wlSeat : ObjectInterface := ⟨"wl_seat"⟩

def wlShm : ObjectInterface := ⟨"wl_shm"⟩

/-- An operator denies shared memory, and caps the seat. -/
def noShmInput : PolicyInput := { cappedInput "wl_seat" with denyGlobals := ["wl_shm"] }

end Sample

section

open Registry Sample

variable {policy : FilterPolicy}

/-- A run of one global, and of a second one that has the clipboard manager's name. -/
lemma exists_run_collision (policy : FilterPolicy) (decoration : Option Decoration) :
    ∃ r r', Trace.Run (· = init policy decoration)
        (fun _ r event r' => r.step (fun _ => 1) event = some r') [.global 7 wlSeat 9] r ∧
      Trace.Run (· = init policy decoration)
        (fun _ r event r' => r.step (fun _ => 1) event = some r')
        [.global 7 wlSeat 9, .global (Fin.last _) wlSeat 9] r' ∧
      r.live[(7 : GlobalName)]? = some (wlSeat, 9) ∧
      r'.live[(Fin.last _ : GlobalName)]? = some (wlSeat, 9) ∧
      r.handler.syntheticClipboardName = some (Fin.last _) ∧
      r'.handler.syntheticClipboardName = some (Fin.last _) := by
  have hfirst : ((init policy decoration).step (fun _ => 1) (.global 7 wlSeat 9)).isSome = true :=
    (mirrors_init policy decoration).step_global_isSome (by simp [init]) wlSeat 9
  obtain ⟨r, hr⟩ := isSome_iff_exists.mp hfirst
  have hrun : Trace.Run (· = init policy decoration)
      (fun _ r event r' => r.step (fun _ => 1) event = some r') [.global 7 wlSeat 9] r :=
    .snoc (h := []) (.nil rfl) hr
  have hname : r.handler.syntheticClipboardName = some (Fin.last _) := synthetic_of_step hr
  obtain ⟨-, synthetic, ready, -, heq⟩ := global_of_step hr
  have hlive : r.live = (∅ : BTreeMap GlobalName (ObjectInterface × Nat)).insert 7 (wlSeat, 9) := by
    rw [heq]
    rfl
  have hsecond : (r.step (fun _ => 1) (.global (Fin.last _) wlSeat 9)).isSome = true := by
    refine (mirrors_of_run hrun).step_global_isSome ?_ wlSeat 9
    rw [hlive, get_insert_of_ne _ _ (by decide)]
    simp
  obtain ⟨r', hr'⟩ := isSome_iff_exists.mp hsecond
  refine ⟨r, r', hrun, hrun.snoc hr', ?_, ?_, hname, ?_⟩
  · rw [hlive]
    simp
  · obtain ⟨-, synthetic, ready, -, heq'⟩ := global_of_step hr'
    rw [heq']
    simp
  · rw [synthetic_of_step hr', hname]
    rfl

lemma isAllowed_noShm (h : build noShmInput = some policy) :
    policy.isAllowed wlSeat.name = true ∧ policy.isAllowed wlShm.name = false ∧
      policy.advertisedVersion wlSeat.name 9 = 1 := by
  have hseat : defaultClassifiedEntries[wlSeat.name]? =
      some { action := .allow, maxVersion := none, classification := .requiredBaseline } := by
    rw [get_defaultClassifiedEntries]
    decide
  have hshm : defaultClassifiedEntries[wlShm.name]? =
      some { action := .allow, maxVersion := none, classification := .requiredBaseline } := by
    rw [get_defaultClassifiedEntries]
    decide
  have hcap : policy.entries[wlSeat.name]?.bind (·.maxVersion) = some 1 :=
    cap_of_build h (by decide)
  refine ⟨?_, ?_, ?_⟩
  · rw [isAllowed_of_build h, PolicyInput.get_overriddenEntries, PolicyInput.listed, hseat]
    decide
  · rw [isAllowed_of_build h, PolicyInput.get_overriddenEntries, PolicyInput.listed, hshm]
    decide
  · unfold advertisedVersion
    rw [hcap]
    decide

/-- The seat is bound at its capped version. -/
theorem registry_filters_seat :
    ∃ policy r, build noShmInput = some policy ∧
      Trace.Run (· = init policy none)
        (fun _ r event r' => r.step (fun _ => 1) event = some r') [.global 7 wlSeat 9] r ∧
      handleBind r.handler 7 wlSeat 1 = [.bind 7 wlSeat 1] ∧
      handleBind r.handler 7 wlSeat 2 ≠ [.bind 7 wlSeat 2] := by
  obtain ⟨policy, hbuild⟩ : ∃ policy, build noShmInput = some policy := ⟨_, rfl⟩
  obtain ⟨hallowed, -, hversion⟩ := isAllowed_noShm hbuild
  obtain ⟨r, -, hrun, -, hlive, -, hname, -⟩ := exists_run_collision policy none
  obtain ⟨hbind, -⟩ := registry_filters hbuild hrun
  refine ⟨policy, r, hbuild, hrun, (hbind 7 wlSeat 1).mpr ?_, ?_⟩
  · exact ⟨by rw [hname]; decide, 9, hlive, hallowed, by rw [hversion]⟩
  · intro heq
    obtain ⟨-, offered, hoffered, -, hle⟩ := (hbind 7 wlSeat 2).mp heq
    rw [hlive] at hoffered
    cases hoffered
    rw [hversion] at hle
    exact absurd hle (by decide)

/-- The seat comes with the name of the clipboard manager and is not bound; shared memory
is denied, and bound for the decorations. -/
theorem seat_hidden_and_shm_bound :
    ∃ policy, build noShmInput = some policy ∧
      policy.isAllowed wlSeat.name = true ∧ policy.isAllowed wlShm.name = false ∧
      (∃ r, Trace.Run (· = init policy none)
          (fun _ r event r' => r.step (fun _ => 1) event = some r')
          [.global 7 wlSeat 9, .global (Fin.last _) wlSeat 9] r ∧
        r.live[(Fin.last _ : GlobalName)]? = some (wlSeat, 9) ∧
        handleBind r.handler (Fin.last _) wlSeat 1 ≠ [.bind (Fin.last _) wlSeat 1]) ∧
      ∃ r, Trace.Run (· = init policy (some { enabled := true, bound := [] }))
          (fun _ r event r' => r.step (fun _ => 1) event = some r') [.global 3 wlShm 1] r ∧
        .ownBind 3 wlShm 1 ∈ r.sent := by
  obtain ⟨policy, hbuild⟩ : ∃ policy, build noShmInput = some policy := ⟨_, rfl⟩
  obtain ⟨hallowed, hdenied, -⟩ := isAllowed_noShm hbuild
  refine ⟨policy, hbuild, hallowed, hdenied, ?_, ?_⟩
  · obtain ⟨-, r, -, hrun, -, hlive, -, hname⟩ := exists_run_collision policy none
    refine ⟨r, hrun, hlive, fun heq => ?_⟩
    exact ((mirrors_of_run hrun).handleBind_iff.mp heq).1 hname
  · have hfirst : ((init policy (some { enabled := true, bound := [] })).step (fun _ => 1)
        (.global 3 wlShm 1)).isSome = true :=
      (mirrors_init policy _).step_global_isSome (by simp [init]) wlShm 1
    obtain ⟨r, hr⟩ := isSome_iff_exists.mp hfirst
    refine ⟨r, .snoc (h := []) (.nil rfl) hr, ?_⟩
    obtain ⟨-, synthetic, ready, -, heq⟩ := global_of_step hr
    have hown : .ownBind 3 wlShm 1 ∈ (observe (fun _ => 1)
        (init policy (some { enabled := true, bound := [] })).handler 3 wlShm 1).1 :=
      mem_singleton.mpr rfl
    rw [heq]
    simp only [mem_append]
    exact .inl (.inl (.inr hown))

end

end D2b.WaylandProxy

import D2b.Clipd.EventLoop
import D2b.WaylandProxy.Policy

/-!
# D2b.WaylandProxy.AppId

To whom a window of a guest is attributed.

The proxy puts its prefix in front of each app id that a guest sets (`policy.rs`), and
the clipboard daemon tells whose a focused window is by the prefix of its app id
(`main.rs`).  What the guest sets follows the prefix and may hold dots, so two
endpoints are told apart only where neither's prefix starts the other's: of two
canonical targets none does, but a legacy VM name starts the canonical target of
each workload of that name.
-/

namespace D2b.WaylandProxy

open List Option

/-! ## rewriting -/

def maxRewrittenLabelChars : Nat := 256

/-- The characters that are kept: escape sequences, up to the letter that ends them, and
control characters are dropped. -/
def sanitizedChars : (escaped : Bool) → (room : Nat) → List Char → List Char
  | _, _, [] => []
  | true, room, c :: cs => sanitizedChars (!(c.isAlpha || c == 'm')) room cs
  | false, room, c :: cs =>
    if c = '\x1b' then sanitizedChars true room cs
    else if Text.isControl c then sanitizedChars false room cs
    else
      match room with
      | 0 => []
      | room + 1 => c :: if room = 0 then [] else sanitizedChars false room cs

def sanitizeRewrittenLabel (value : String) : String :=
  let sanitized := sanitizedChars false maxRewrittenLabelChars value.toList
  if sanitized.isEmpty then "unnamed" else String.ofList sanitized

/-- A label that a guest sets, with a text of the policy in front. -/
def rewriteLabel (front guestValue : String) : String :=
  let guestValue := sanitizeRewrittenLabel guestValue
  if front.isEmpty then guestValue
  else if front.toList.isPrefixOf guestValue.toList then guestValue
  else front ++ guestValue

def FilterPolicy.rewriteAppId (policy : FilterPolicy) (guestValue : String) : String :=
  rewriteLabel policy.appIdPrefix guestValue

def FilterPolicy.rewriteTitle (policy : FilterPolicy) (guestValue : String) : String :=
  rewriteLabel policy.titlePrefix guestValue

lemma isPrefix_rewriteLabel (guestValue : String) :
    front.toList <+: (rewriteLabel front guestValue).toList := by
  unfold rewriteLabel
  by_cases hempty : front.isEmpty = true
  · rw [String.isEmpty_iff.mp hempty]
    exact nil_prefix
  · rw [if_neg hempty]
    by_cases hfront : front.toList.isPrefixOf (sanitizeRewrittenLabel guestValue).toList = true
    · rw [if_pos hfront]
      exact List.isPrefixOf_iff_prefix.mp hfront
    · rw [if_neg hfront, String.toList_append]
      exact prefix_append _ _

/-! ## attribution -/

/-- The endpoint as the clipboard daemon knows it. -/
def ProxyIdentity.endpoint (identity : ProxyIdentity) : Clipd.ClipboardEndpointIdentity :=
  { canonicalTarget := identity.target
    providerKind := identity.providerKind
    legacyVmName := identity.legacyVmName }

/-- The prefixes by which a window is taken to be the endpoint's. -/
def attributionPrefixes (identity : Clipd.ClipboardEndpointIdentity) : List String :=
  identity.appIdPrefix :: (identity.legacyVmName.map fun vm => "d2b." ++ vm ++ ".").toList

/-- What is attributed to an endpoint has one of its prefixes, or is one without its dot. -/
lemma comparable_of_matches (h : Clipd.focusedAppMatchesEndpoint (some appId) identity = true) :
    ∃ front ∈ attributionPrefixes identity,
      front.toList <+: appId.toList ∨ appId.toList <+: front.toList := by
  simp only [Clipd.focusedAppMatchesEndpoint, Bool.or_eq_true, beq_iff_eq] at h
  rcases h with (h | h) | h
  · refine ⟨identity.appIdPrefix, mem_cons_self, .inr ?_⟩
    rw [h]
    exact rdropWhile_prefix _ _
  · exact ⟨identity.appIdPrefix, mem_cons_self, .inl (List.isPrefixOf_iff_prefix.mp h)⟩
  · obtain ⟨vm, hvm, hmatch⟩ := (any_eq_true _ _).mp h
    have hmem : "d2b." ++ vm ++ "." ∈ attributionPrefixes identity := by
      simp [attributionPrefixes, hvm]
    simp only [Clipd.focusedAppMatchesVm, Bool.or_eq_true, beq_iff_eq] at hmatch
    rcases hmatch with hmatch | hmatch
    · refine ⟨_, hmem, .inr ?_⟩
      have happend : ("d2b." ++ vm ++ ".").toList = ("d2b." ++ vm).toList ++ ['.'] :=
        String.toList_append
      rw [hmatch, happend]
      exact prefix_append _ _
    · exact ⟨_, hmem, .inl (List.isPrefixOf_iff_prefix.mp hmatch)⟩

/-- Every app id with the proxy's prefix is attributed to its endpoint. -/
lemma matches_of_isPrefix {identity : ProxyIdentity}
    (h : identity.defaultAppIdPrefix.toList <+: appId.toList) :
    Clipd.focusedAppMatchesEndpoint (some appId) identity.endpoint = true := by
  have hstart := List.isPrefixOf_iff_prefix.mpr h
  unfold ProxyIdentity.defaultAppIdPrefix at hstart
  cases hlegacy : identity.legacyVmName with
  | none =>
    simp only [hlegacy] at hstart
    simp [Clipd.focusedAppMatchesEndpoint, Clipd.startsWith, ProxyIdentity.endpoint,
      Clipd.ClipboardEndpointIdentity.appIdPrefix, Clipd.ClipboardEndpointIdentity.targetLabel,
      ProxyIdentity.canonicalTarget] at hstart ⊢
    exact .inl (.inr hstart)
  | some vm =>
    simp only [hlegacy] at hstart
    simp [Clipd.focusedAppMatchesEndpoint, Clipd.focusedAppMatchesVm, Clipd.startsWith,
      ProxyIdentity.endpoint, hlegacy] at hstart ⊢
    exact .inr (.inr hstart)

/-- Neither the prefix of the one starts one of the other's, nor the other way round. -/
def ProxyIdentity.Separate (a b : ProxyIdentity) : Prop :=
  ∀ front ∈ attributionPrefixes b.endpoint,
    ¬ a.defaultAppIdPrefix.toList <+: front.toList ∧ ¬ front.toList <+: a.defaultAppIdPrefix.toList

instance (a b : ProxyIdentity) : Decidable (a.Separate b) :=
  inferInstanceAs (Decidable (∀ front ∈ attributionPrefixes b.endpoint, _ ∧ _))

lemma not_matches_of_separate {a : ProxyIdentity} (hsep : a.Separate b)
    (h : a.defaultAppIdPrefix.toList <+: appId.toList) :
    Clipd.focusedAppMatchesEndpoint (some appId) b.endpoint = false := by
  rw [← Bool.not_eq_true]
  intro hmatch
  obtain ⟨front, hmem, hfront⟩ := comparable_of_matches hmatch
  obtain ⟨hab, hba⟩ := hsep front hmem
  rcases hfront with hfront | hfront
  · rcases prefix_or_prefix_of_prefix h hfront with hle | hle
    · exact hab hle
    · exact hba hle
  · exact hab (h.trans hfront)

lemma appIdPrefix_of_build (h : FilterPolicy.build input = some policy)
    (hdefault : input.appIdPrefix = none) :
    policy.appIdPrefix = policy.identity.defaultAppIdPrefix := by
  obtain ⟨identity, -, rfl⟩ := map_eq_some_iff.mp h
  simp [hdefault]

lemma toList_appIdPrefix (target : RealmTarget) :
    ("d2b." ++ target.toCanonical ++ ".").toList =
      "d2b.".toList ++ Text.terminated '.' (target.labels.map String.toList) := by
  rw [← target.toList_toCanonical, String.toList_append, String.toList_append, append_assoc]
  rfl

/-- Of two targets that were parsed, the canonical form of neither starts the other's: the
suffix ends each of them, and stands nowhere before. -/
lemma eq_of_appIdPrefix_le {b : RealmTarget} (hb : targetSuffix ∉ b.labels.dropLast)
    (h : ("d2b." ++ a.toCanonical ++ ".").toList <+: ("d2b." ++ b.toCanonical ++ ".").toList) :
    a = b := by
  rw [toList_appIdPrefix, toList_appIdPrefix, prefix_append_right_inj] at h
  obtain ⟨rest, hrest⟩ := Text.isPrefix_of_terminated a.dot_notMem b.dot_notMem h
  cases rest using List.reverseRecOn with
  | nil =>
    rw [append_nil] at hrest
    exact RealmTarget.labels_injective
      (map_injective_iff.mpr (fun _ _ h => String.toList_injective h) hrest)
  | append_singleton rest last _ =>
    exfalso
    refine hb ?_
    have hlast : (b.labels.map String.toList).dropLast = a.labels.map String.toList ++ rest := by
      rw [← hrest, ← append_assoc, dropLast_concat]
    have hmem : targetSuffix.toList ∈ (b.labels.map String.toList).dropLast := by
      rw [hlast]
      refine mem_append_left _ (mem_map_of_mem ?_)
      simp [RealmTarget.labels]
    rw [← map_dropLast] at hmem
    obtain ⟨label, hlabel, hsame⟩ := mem_map.mp hmem
    rwa [← String.toList_injective hsame]

lemma separate_of_canonical {a b : ProxyIdentity} (ha : a.legacyVmName = none)
    (hb : b.legacyVmName = none) (hne : a.target ≠ b.target)
    (hpa : RealmTarget.parse rawA = .ok a.target) (hpb : RealmTarget.parse rawB = .ok b.target) :
    a.Separate b := by
  intro front hfront
  simp only [attributionPrefixes, ProxyIdentity.endpoint, hb, map_none, toList_none,
    mem_singleton] at hfront
  subst hfront
  simp only [ProxyIdentity.defaultAppIdPrefix, ha]
  refine ⟨?_, ?_⟩
  · intro hpre
    exact hne (eq_of_appIdPrefix_le (suffix_notMem_of_parse hpb) hpre)
  · intro hpre
    exact hne (eq_of_appIdPrefix_le (suffix_notMem_of_parse hpa) hpre).symm

namespace Sample

def browser : ProxyIdentity :=
  .canonical
    { workload := ⟨"browser", by decide⟩, realm := localRealm } .localVm

/-- A VM that has a legacy name. -/
def workVm : ProxyIdentity :=
  { target := Clipd.Sample.work.canonicalTarget
    providerKind := .localVm
    legacyVmName := some "work"
    legacy := by
      rintro name ⟨⟩
      decide }

/-- A workload of that name in another realm. -/
def workloadWork : ProxyIdentity :=
  .canonical
    { workload := Clipd.Sample.work.canonicalTarget.workload
      realm := Sample.tools.target.realm } .localVm

end Sample

end D2b.WaylandProxy

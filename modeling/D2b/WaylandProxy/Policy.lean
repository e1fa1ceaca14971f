import Mathlib.Data.Prod.Lex
import D2b.WaylandProxy.Identity

/-!
# D2b.WaylandProxy.Policy

Which globals of the compositor a guest sees (`policy.rs`).

A policy is the table of classified defaults with the operator's lists laid over it:
denials, then allowances, then version caps; at the end a clipboard boundary that was
allowed is denied again.  A cap for an interface that no other layer names enters it
into the table as allowed.
-/

namespace D2b.WaylandProxy

open List Option

inductive GlobalAction where
  | allow | deny
deriving DecidableEq

inductive Classification where
  | requiredBaseline | acceleratedRendering | highRisk | clipboardBoundary | appDefault
  | offDefault | unclassified
deriving DecidableEq

structure PolicyEntry where
  action : GlobalAction
  /-- advertised-version cap -/
  maxVersion : Option Nat
  classification : Classification
deriving DecidableEq

abbrev Entries := BTreeMap String PolicyEntry

/-! ## warnings -/

inductive PolicyWarning where
  | requiredGlobalDenied (interface : String)
  | acceleratedRenderingDisabled (interface : String)
  | highRiskGlobalEnabled (interface : String)
  | clipboardBoundaryOverrideIgnored (interface : String)
  | appIdPrefixNotIdentityPrefix (target given : String)
  | titlePrefixDisabled
  | unclassifiedGlobalAllowed (interface : String)
deriving DecidableEq

namespace PolicyWarning

def code : PolicyWarning → String
  | requiredGlobalDenied _ => "W-DENY-BASELINE"
  | acceleratedRenderingDisabled _ => "W-DENY-ACCEL"
  | highRiskGlobalEnabled _ => "W-ALLOW-HIGH-RISK"
  | clipboardBoundaryOverrideIgnored _ => "W-ALLOW-CLIPBOARD-BOUNDARY"
  | appIdPrefixNotIdentityPrefix .. => "W-APP-ID-PREFIX"
  | titlePrefixDisabled => "W-TITLE-PREFIX"
  | unclassifiedGlobalAllowed _ => "W-ALLOW-UNCLASSIFIED"

def subject : PolicyWarning → String
  | requiredGlobalDenied interface | acceleratedRenderingDisabled interface
  | highRiskGlobalEnabled interface | clipboardBoundaryOverrideIgnored interface
  | unclassifiedGlobalAllowed interface => interface
  | appIdPrefixNotIdentityPrefix _ given => given
  | titlePrefixDisabled => ""

def sortKey (warning : PolicyWarning) : Lex (String × String) :=
  toLex (warning.code, warning.subject)

end PolicyWarning

section

variable (interface : String)

/-- The warning for an entry, if its classification asks for one. -/
def PolicyEntry.warning? (entry : PolicyEntry) : Option PolicyWarning :=
  match entry.classification, entry.action with
  | .requiredBaseline, .deny => some (.requiredGlobalDenied interface)
  | .acceleratedRendering, .deny => some (.acceleratedRenderingDisabled interface)
  | .highRisk, .allow => some (.highRiskGlobalEnabled interface)
  | .clipboardBoundary, .allow => some (.clipboardBoundaryOverrideIgnored interface)
  | .unclassified, .allow => some (.unclassifiedGlobalAllowed interface)
  | _, _ => none

/-! ## the table of defaults -/

def defaultTable : List (String × GlobalAction × Classification) :=
  [("wl_compositor", .allow, .requiredBaseline),
    ("wl_shm", .allow, .requiredBaseline),
    ("wl_seat", .allow, .requiredBaseline),
    ("xdg_wm_base", .allow, .requiredBaseline),
    ("wl_output", .allow, .requiredBaseline),
    ("wl_subcompositor", .allow, .requiredBaseline),
    ("wl_data_device_manager", .deny, .clipboardBoundary),
    ("zwp_linux_dmabuf_v1", .allow, .acceleratedRendering),
    ("wp_linux_drm_syncobj_manager_v1", .allow, .acceleratedRendering),
    ("wl_eglstream_display", .allow, .acceleratedRendering),
    ("wl_eglstream_controller", .allow, .acceleratedRendering),
    ("wp_single_pixel_buffer_v1", .allow, .appDefault),
    ("wp_presentation", .allow, .appDefault),
    ("wp_fractional_scale_manager_v1", .allow, .appDefault),
    ("wp_viewporter", .allow, .appDefault),
    ("zxdg_decoration_manager_v1", .allow, .appDefault),
    ("xdg_activation_v1", .allow, .appDefault),
    ("wp_content_type_manager_v1", .allow, .appDefault),
    ("wp_cursor_shape_manager_v1", .allow, .appDefault),
    ("wp_commit_timing_manager_v1", .allow, .appDefault),
    ("wp_fifo_manager_v1", .allow, .appDefault),
    ("wp_alpha_modifier_v1", .allow, .appDefault),
    ("wp_tearing_control_manager_v1", .allow, .appDefault),
    ("xdg_output_unstable_v1", .allow, .appDefault),
    ("xdg_system_bell_v1", .allow, .appDefault),
    ("zxdg_output_manager_v1", .allow, .appDefault),
    ("ext_idle_notifier_v1", .allow, .appDefault),
    ("zwp_idle_inhibit_manager_v1", .allow, .appDefault),
    ("wp_color_manager_v1", .allow, .appDefault),
    ("xdg_dialog_v1", .allow, .appDefault),
    ("xdg_wm_dialog_v1", .allow, .appDefault),
    ("xdg_toplevel_icon_manager_v1", .allow, .appDefault),
    ("xdg_toplevel_drag_manager_v1", .deny, .clipboardBoundary),
    ("xdg_activation_token_v1", .allow, .appDefault),
    ("xdg_toplevel_tag_manager_v1", .allow, .appDefault),
    ("zwp_relative_pointer_manager_v1", .allow, .appDefault),
    ("zwp_pointer_constraints_v1", .allow, .appDefault),
    ("zwp_pointer_gestures_v1", .allow, .appDefault),
    ("zwp_tablet_manager_v2", .allow, .appDefault),
    ("zwp_text_input_manager_v3", .deny, .appDefault),
    ("zwp_input_timestamps_manager_v1", .allow, .appDefault),
    ("zwp_keyboard_shortcuts_inhibit_manager_v1", .allow, .appDefault),
    ("wp_pointer_warp_v1", .allow, .appDefault),
    ("wl_drm", .allow, .appDefault),
    ("zwlr_screencopy_manager_v1", .deny, .highRisk),
    ("ext_image_copy_capture_manager_v1", .deny, .highRisk),
    ("ext_image_capture_source_v1", .deny, .highRisk),
    ("ext_output_image_capture_source_manager_v1", .deny, .highRisk),
    ("ext_foreign_toplevel_image_capture_source_manager_v1", .deny, .highRisk),
    ("zwp_virtual_keyboard_manager_v1", .deny, .highRisk),
    ("zwlr_virtual_pointer_manager_v1", .deny, .highRisk),
    ("ext_data_control_manager_v1", .deny, .clipboardBoundary),
    ("zwlr_data_control_manager_v1", .deny, .clipboardBoundary),
    ("zwp_primary_selection_device_manager_v1", .deny, .clipboardBoundary),
    ("wp_primary_selection_device_manager_v1", .deny, .clipboardBoundary),
    ("wp_primary_selection_unstable_v1", .deny, .clipboardBoundary),
    ("gtk_primary_selection_device_manager", .deny, .clipboardBoundary),
    ("zwlr_layer_shell_v1", .deny, .highRisk),
    ("ext_session_lock_manager_v1", .deny, .highRisk),
    ("zwlr_input_inhibit_manager_v1", .deny, .highRisk),
    ("zwlr_output_manager_v1", .deny, .highRisk),
    ("zwlr_output_power_manager_v1", .deny, .highRisk),
    ("zwlr_gamma_control_manager_v1", .deny, .highRisk),
    ("ext_workspace_manager_v1", .deny, .highRisk),
    ("zwlr_foreign_toplevel_manager_v1", .deny, .highRisk),
    ("ext_foreign_toplevel_list_v1", .deny, .highRisk),
    ("wp_security_context_manager_v1", .deny, .offDefault),
    ("wl_shell", .deny, .offDefault)]

def defaultClassifiedEntries : Entries :=
  defaultTable.foldl (fun entries (interface, action, classification) =>
    entries.insert interface { action, maxVersion := none, classification }) ∅

/-! ## building -/

structure PolicyInput where
  identity : Option ProxyIdentity
  /-- legacy VM name of callers without an identity -/
  vmName : String
  appIdPrefix : Option String
  realmTarget : Option String
  titlePrefix : Option String
  denyGlobals : List String
  allowGlobals : List String
  maxVersions : List (String × Nat)

structure FilterPolicy where
  entries : Entries
  appIdPrefix : String
  realmTarget : Option String
  titlePrefix : String
  identity : ProxyIdentity
  vmName : String
  warnings : List PolicyWarning

/-- An entry is changed, or entered as unclassified. -/
def override (change : PolicyEntry → PolicyEntry) (action : GlobalAction) (cap : Option Nat) :
    Option PolicyEntry → PolicyEntry
  | some entry => change entry
  | none => { action, maxVersion := cap, classification := .unclassified }

def overrideDeny : Option PolicyEntry → PolicyEntry :=
  override (fun entry => { entry with action := .deny }) .deny none

def overrideAllow : Option PolicyEntry → PolicyEntry :=
  override (fun entry => { entry with action := .allow }) .allow none

/-- An interface that was not named before is allowed. -/
def overrideVersion (version : Nat) : Option PolicyEntry → PolicyEntry :=
  override (fun entry => { entry with maxVersion := some version }) .allow (some version)

def PolicyEntry.enforceBoundary (entry : PolicyEntry) : PolicyEntry :=
  if entry.classification = .clipboardBoundary ∧ entry.action = .allow then
    { entry with action := .deny }
  else entry

namespace PolicyInput

variable (input : PolicyInput)

/-- The identity of the input, or that of its legacy VM name; a name that forms no target
aborts the program. -/
def resolveIdentity : Option ProxyIdentity :=
  match input.identity with
  | some identity => some identity
  | none =>
    let given := input.realmTarget.bind fun target => (RealmTarget.parse target).toOption
    let target := given.or (RealmTarget.parse (input.vmName ++ ".local.d2b")).toOption
    target.bind fun target => (ProxyIdentity.legacyVm input.vmName target .localVm).toOption

/-- The defaults with the operator's lists laid over them. -/
def overriddenEntries : Entries :=
  let entries := defaultClassifiedEntries
  let entries := input.denyGlobals.foldl
    (fun entries interface => entries.insert interface (overrideDeny entries[interface]?)) entries
  let entries := input.allowGlobals.foldl
    (fun entries interface => entries.insert interface (overrideAllow entries[interface]?)) entries
  input.maxVersions.foldl
    (fun entries cap => entries.insert cap.1 (overrideVersion cap.2 entries[cap.1]?)) entries

end PolicyInput

namespace FilterPolicy

def build (input : PolicyInput) : Option FilterPolicy :=
  input.resolveIdentity.map fun identity =>
    let appIdPrefix := input.appIdPrefix.getD identity.defaultAppIdPrefix
    let titlePrefix := input.titlePrefix.getD identity.defaultTitlePrefix
    let entries := input.overriddenEntries
    let warnings := entries.toList.filterMap fun (interface, entry) => entry.warning? interface
    let warnings := warnings ++
      if appIdPrefix ≠ identity.defaultAppIdPrefix ∧ !appIdPrefix.isEmpty then
        [.appIdPrefixNotIdentityPrefix identity.logLabel appIdPrefix]
      else []
    let warnings := warnings ++ if titlePrefix.isEmpty then [.titlePrefixDisabled] else []
    { entries := entries.map fun _ entry => entry.enforceBoundary
      appIdPrefix
      realmTarget := some identity.canonicalTarget
      titlePrefix
      identity
      vmName := identity.logLabel
      warnings := warnings.mergeSort fun left right => left.sortKey ≤ right.sortKey }

variable (policy : FilterPolicy) (interface : String)

def lookup : GlobalAction × Option Nat :=
  match policy.entries[interface]? with
  | some entry => (entry.action, entry.maxVersion)
  | none => (.deny, none)

def isAllowed : Bool := (policy.lookup interface).1 == .allow

def advertisedVersion (compositorVersion : Nat) : Nat :=
  match policy.entries[interface]?.bind (·.maxVersion) with
  | some cap => min compositorVersion cap
  | none => compositorVersion

end FilterPolicy

/-! ## what the passes do to one interface -/

def isBoundary : Bool :=
  defaultClassifiedEntries[interface]?.any fun entry => entry.classification == .clipboardBoundary

def allowedByDefault : Bool :=
  defaultClassifiedEntries[interface]?.any fun entry => entry.action == .allow

/-- The row of the table for an interface. -/
lemma get_defaultClassifiedEntries : defaultClassifiedEntries[interface]? =
      (defaultTable.filter fun row => decide (row.1 = interface)).getLast?.map fun row =>
        { action := row.2.1, maxVersion := none, classification := row.2.2 } := by
  have hrow := BTreeMap.get_foldl_insert_last
    (fun row : String × GlobalAction × Classification => row.1)
    (fun row _ => { action := row.2.1, maxVersion := none, classification := row.2.2 })
    (fun _ _ _ => rfl) interface defaultTable (∅ : Entries)
  unfold defaultClassifiedEntries
  rw [hrow]
  cases (defaultTable.filter fun row => decide (row.1 = interface)).getLast? with
  | none => simp
  | some row => rfl

end

lemma getLast?_filter_eq (xs : List String) :
    (xs.filter fun x => decide (x = k)).getLast? = if k ∈ xs then some k else none := by
  rw [filter_eq, getLast?_replicate]
  by_cases hmem : k ∈ xs
  · rw [if_pos hmem, if_neg (count_pos_iff.mpr hmem).ne']
  · rw [if_neg hmem, if_pos (count_eq_zero.mpr hmem)]

namespace PolicyInput

variable (input : PolicyInput) (interface : String)

/-- The entry that the operator's denials and allowances leave. -/
def listed : Option PolicyEntry :=
  let denied := if interface ∈ input.denyGlobals then
      some (overrideDeny defaultClassifiedEntries[interface]?)
    else defaultClassifiedEntries[interface]?
  if interface ∈ input.allowGlobals then some (overrideAllow denied) else denied

def capFor : Option Nat :=
  (input.maxVersions.filter fun cap => decide (cap.1 = interface)).getLast?.map (·.2)

/-- A layer other than the version caps names the interface. -/
def Names : Prop :=
  defaultClassifiedEntries[interface]?.isSome ∨ interface ∈ input.denyGlobals ∨
    interface ∈ input.allowGlobals

lemma get_overriddenEntries :
    input.overriddenEntries[interface]? =
      match input.capFor interface with
      | none => input.listed interface
      | some version => some (overrideVersion version (input.listed interface)) := by
  have hpass : ∀ (f : Option PolicyEntry → PolicyEntry) (names : List String) (entries : Entries),
      (∀ v, f (some (f v)) = f v) →
      (names.foldl (fun entries interface => entries.insert interface (f entries[interface]?))
        entries)[interface]? =
      if interface ∈ names then some (f entries[interface]?) else entries[interface]? := by
    intro f names entries hidem
    rw [BTreeMap.get_foldl_insert_last (fun x => x) (fun _ => f) (fun _ _ => hidem),
      getLast?_filter_eq]
    by_cases hmem : interface ∈ names
    · simp [hmem]
    · simp [hmem]
  unfold overriddenEntries
  rw [BTreeMap.get_foldl_insert_last (fun cap : String × Nat => cap.1)
      (fun cap => overrideVersion cap.2),
    hpass overrideAllow, hpass overrideDeny]
  · unfold capFor
    cases (input.maxVersions.filter fun cap => decide (cap.1 = interface)).getLast? with
    | none | some _ => rfl
  · intro v
    cases v <;> rfl
  · intro v
    cases v <;> rfl
  · intro x y v
    cases v <;> rfl

lemma capFor_eq_none_iff :
    input.capFor interface = none ↔ ∀ version, (interface, version) ∉ input.maxVersions := by
  unfold capFor
  rw [map_eq_none_iff, getLast?_eq_none_iff, filter_eq_nil_iff]
  constructor
  · intro h version hmem
    simpa using h _ hmem
  · intro h cap hmem
    have hne : cap.1 ≠ interface := by
      rintro rfl
      exact h cap.2 hmem
    simpa using hne

end PolicyInput

lemma listed_isSome_iff (input : PolicyInput) (interface : String) :
    (input.listed interface).isSome = true ↔ input.Names interface := by
  unfold PolicyInput.listed PolicyInput.Names
  by_cases hallow : interface ∈ input.allowGlobals
  · simp [hallow]
  · by_cases hdeny : interface ∈ input.denyGlobals
    · simp [hallow, hdeny]
    · simp [hallow, hdeny]

attribute [local simp] override overrideAllow overrideDeny

/-- The lists decide an entry's action and leave its classification. -/
lemma listed_allows (input : PolicyInput) (interface : String) :
    ((input.listed interface).any fun entry => entry.enforceBoundary.action == .allow) = true ↔
      isBoundary interface = false ∧ (interface ∈ input.allowGlobals ∨
        allowedByDefault interface = true ∧ interface ∉ input.denyGlobals) := by
  unfold PolicyInput.listed isBoundary allowedByDefault PolicyEntry.enforceBoundary
  cases hdefault : defaultClassifiedEntries[interface]? with
  | none =>
    by_cases hallow : interface ∈ input.allowGlobals
    · by_cases hdeny : interface ∈ input.denyGlobals
      · simp [hallow, hdeny]
      · simp [hallow, hdeny]
    · by_cases hdeny : interface ∈ input.denyGlobals
      · simp [hallow, hdeny]
      · simp [hallow, hdeny]
  | some entry =>
    by_cases hboundary : entry.classification = .clipboardBoundary
    all_goals
      by_cases hallow : interface ∈ input.allowGlobals
      · by_cases hdeny : interface ∈ input.denyGlobals
        · simp [hallow, hdeny, hboundary]
        · simp [hallow, hdeny, hboundary]
      · by_cases hdeny : interface ∈ input.denyGlobals
        · simp [hallow, hdeny, hboundary]
        · cases haction : entry.action <;> simp [hallow, hdeny, hboundary, haction]

/-! ## decisions -/

section

variable {input : PolicyInput} {policy : FilterPolicy}

lemma entries_of_build (h : FilterPolicy.build input = some policy) (interface : String) :
    policy.entries[interface]? =
      input.overriddenEntries[interface]?.map PolicyEntry.enforceBoundary := by
  obtain ⟨identity, -, rfl⟩ := map_eq_some_iff.mp h
  exact Std.ExtTreeMap.getElem?_map

lemma enforceBoundary_overrideVersion (version : Nat) (entry : PolicyEntry) :
    (overrideVersion version (some entry)).enforceBoundary =
      { entry.enforceBoundary with maxVersion := some version } := by
  unfold PolicyEntry.enforceBoundary overrideVersion override
  dsimp only
  split <;> rfl

section

variable (h : FilterPolicy.build input = some policy)
include h

lemma isAllowed_of_build (interface : String) :
    policy.isAllowed interface =
      input.overriddenEntries[interface]?.any fun entry =>
        entry.enforceBoundary.action == .allow := by
  unfold FilterPolicy.isAllowed FilterPolicy.lookup
  rw [entries_of_build h]
  cases input.overriddenEntries[interface]? with
  | none | some _ => rfl

/-- A cap leaves the decision on an interface that another layer names. -/
lemma isAllowed_of_named
    (hcap : ∀ version, (interface, version) ∈ input.maxVersions → input.Names interface) :
    policy.isAllowed interface =
      (input.listed interface).any fun entry => entry.enforceBoundary.action == .allow := by
  rw [isAllowed_of_build h, PolicyInput.get_overriddenEntries]
  cases hversion : input.capFor interface with
  | none => rfl
  | some version =>
    have hnamed : input.Names interface := by
      by_contra hnot
      have hnone := (PolicyInput.capFor_eq_none_iff input interface).mpr
        fun version hmem => hnot (hcap version hmem)
      rw [hnone] at hversion
      cases hversion
    obtain ⟨entry, hentry⟩ := isSome_iff_exists.mp ((listed_isSome_iff input interface).mpr hnamed)
    simp only [hentry, any_some, enforceBoundary_overrideVersion]

/-- The cap of a policy is the input's last one. -/
lemma cap_of_build (hcap : input.capFor interface = some cap) :
    policy.entries[interface]?.bind (·.maxVersion) = some cap := by
  rw [entries_of_build h, PolicyInput.get_overriddenEntries, hcap]
  cases input.listed interface with
  | none => rfl
  | some entry =>
    simp only [map_some, bind_some, enforceBoundary_overrideVersion]

end

lemma advertisedVersion_le (policy : FilterPolicy) (interface : String) (version : Nat) :
    policy.advertisedVersion interface version ≤ version := by
  unfold FilterPolicy.advertisedVersion
  split
  · exact Nat.min_le_left _ _
  · exact Nat.le_refl _

end

namespace Sample

/-- The proxy of a workload in the host's realm. -/
def tools : ProxyIdentity :=
  .canonical
    { workload := ⟨"tools", by decide⟩, realm := ⟨[⟨"host", by decide⟩], by decide⟩ } .unsafeLocal

/-- An operator allows screen capture and caps two interfaces. -/
def cappedInput (interface : String) : PolicyInput :=
  { identity := some tools, vmName := "", appIdPrefix := none, realmTarget := none
    titlePrefix := none, denyGlobals := ["wl_drm"]
    allowGlobals := ["zwlr_screencopy_manager_v1"]
    maxVersions := [("xdg_wm_base", 3), (interface, 1)] }

end Sample

end D2b.WaylandProxy

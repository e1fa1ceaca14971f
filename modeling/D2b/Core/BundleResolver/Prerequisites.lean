import D2b.Core.BundleResolver

/-!
# D2b.Core.BundleResolver.Prerequisites

The prerequisites of a VM start are the nodes with host actions that lead to the
role through nodes with host actions only, in dependency order.  A node without
actions ends the descent and hides what lies behind it.
-/

namespace D2b.Core.BundleResolver

open Relation List Option

variable {r : BundleResolver} {vmId : String} {vm : VmProcessDag}

/-- The node stands for host actions. -/
def CarriesActions (r : BundleResolver) (vmId : String) (id : NodeId) : Prop :=
  ∃ intent, r.resolveVmStartIntent vmId id = some intent ∧ intent.isReadinessOnly = false

/-- An edge whose source carries actions. -/
def ActionEdge (r : BundleResolver) (vm : VmProcessDag) (x y : NodeId) : Prop :=
  Kahn.Edge vm.arrows x y ∧ r.CarriesActions vm.vm x

lemma actionIntent_eq_some {id : NodeId} :
    r.actionIntent vmId id = some intent ↔
      r.resolveVmStartIntent vmId id = some intent ∧ intent.isReadinessOnly = false := by
  rw [actionIntent, bind_eq_bind, bind_eq_some_iff]
  constructor
  · intro ⟨found, hfound, hkept⟩
    by_cases honly : found.isReadinessOnly = true
    · rw [if_pos honly] at hkept
      cases hkept
    · rw [if_neg honly] at hkept
      cases hkept
      exact ⟨hfound, by simpa using honly⟩
  · intro ⟨hfound, honly⟩
    exact ⟨intent, hfound, by rw [honly]; rfl⟩

lemma isSome_actionIntent {id : NodeId} :
    (r.actionIntent vmId id).isSome = true ↔ r.CarriesActions vmId id := by
  simp only [isSome_iff_exists, actionIntent_eq_some, CarriesActions]

lemma roleId_resolveVmStartIntent {id : NodeId}
    (h : r.resolveVmStartIntent vmId id = some intent) :
    intent.roleId = id := by
  rw [resolveVmStartIntent, bind_eq_bind, bind_eq_some_iff] at h
  obtain ⟨node, -, heq⟩ := h
  cases heq
  rfl

lemma edge_live_actionIntent :
    Kahn.Edge (PostOrder.live vm.arrows (r.actionIntent vm.vm)) = r.ActionEdge vm := by
  funext x y
  rw [PostOrder.edge_live, isSome_actionIntent]
  rfl

lemma vm_of_findProcessVm (h : r.findProcessVm vmId = some vm) : vm.vm = vmId := by
  simpa using find?_some h

/-- The prerequisites are what leads to the role through nodes with actions, each
once and behind all that lead to it. -/
theorem prerequisites_complete_and_ordered (hvm : r.findProcessVm vmId = some vm)
    (hacyclic : Kahn.Acyclic vm.arrows) (roleId : NodeId) :
    ((r.resolveVmStartPrerequisites vmId roleId).map (·.roleId)).Nodup ∧
      (∀ intent, intent ∈ r.resolveVmStartPrerequisites vmId roleId ↔
        TransGen (r.ActionEdge vm) intent.roleId roleId ∧
          r.resolveVmStartIntent vmId intent.roleId = some intent) ∧
      ∀ before intent after,
        r.resolveVmStartPrerequisites vmId roleId = before ++ intent :: after →
        ∀ id, TransGen (r.ActionEdge vm) id intent.roleId → id ∈ before.map (·.roleId) := by
  have hkey : ∀ id intent, r.actionIntent vm.vm id = some intent → intent.roleId = id :=
    fun id intent h => roleId_resolveVmStartIntent (actionIntent_eq_some.mp h).1
  have hlive : Kahn.Acyclic (PostOrder.live vm.arrows (r.actionIntent vm.vm)) := by
    intro id hpath
    exact hacyclic id (hpath.lift (fun x => x) fun x y hedge => (PostOrder.edge_live.mp hedge).1)
  obtain ⟨hnodup, hordered, hresolved, hmem⟩ := PostOrder.collect_start hkey hlive roleId
  rw [edge_live_actionIntent] at hmem
  have hout : r.resolveVmStartPrerequisites vmId roleId = (PostOrder.collect vm.arrows
      (r.actionIntent vm.vm) (vm.arrows.length + 1) roleId ⟨∅, []⟩).out := by
    rw [resolveVmStartPrerequisites, hvm]
    rfl
  have hname := vm_of_findProcessVm hvm
  rw [hout]
  refine ⟨hnodup, fun intent => ⟨fun hin => ?_, fun ⟨hpath, hintent⟩ => ?_⟩, ?_⟩
  · have hres := (actionIntent_eq_some.mp (hresolved intent hin)).1
    rw [hname] at hres
    exact ⟨(hmem intent.roleId).mp (mem_map.mpr ⟨intent, hin, rfl⟩), hres⟩
  · obtain ⟨found, hfound, heq⟩ := mem_map.mp ((hmem intent.roleId).mpr hpath)
    have hres := (actionIntent_eq_some.mp (hresolved found hfound)).1
    rw [hname, heq, hintent] at hres
    cases hres
    exact hfound
  · intro before intent after heq id hpath
    rw [← edge_live_actionIntent] at hpath
    refine hordered.mem_of_transGen hpath (before.map (·.roleId)) (after.map (·.roleId)) ?_
    rw [PostOrder.State.nodes, heq, map_append, map_cons]

/-- The store share of a VM and its hypervisor. -/
def workDag : VmProcessDag where
  vm := "work"
  nodes := [
    { id := "host-reconcile", role := .hostReconcile, readiness := [],
      profile := { uid := 0, gid := 0, writablePaths := ["/run/d2b/vms/", "/var/lib/d2b"] } },
    { id := "store-virtiofs-preflight", role := .storeVirtiofsPreflight, readiness := [],
      profile := { uid := 0, gid := 0, writablePaths := [] } },
    { id := "virtiofsd-ro-store", role := .virtiofsd, readiness := [],
      profile := { uid := 1000, gid := 1000, writablePaths := [] } },
    { id := "cloud-hypervisor", role := .cloudHypervisorRunner, readiness := [],
      profile := { uid := 1000, gid := 1000, writablePaths := ["/run/d2b/vms/work"] } }]
  edges := [
    { fromNode := "host-reconcile", toNode := "store-virtiofs-preflight", reason := "reconcile" },
    { fromNode := "store-virtiofs-preflight", toNode := "virtiofsd-ro-store", reason := "store" },
    { fromNode := "virtiofsd-ro-store", toNode := "cloud-hypervisor", reason := "share" }]

def workBundle : BundleResolver where
  manifestVms := (∅ : BTreeMap String VmEntry).insert "work" { stateDir := "/var/lib/d2b/vms/work" }
  processVms := [workDag]
  storeViewIntents := (∅ : BTreeMap String ResolvedStoreViewIntent).insert "store-view:vm:work"
    { intentId := "store-view:vm:work", vm := "work", generation := 1,
      hardlinkFarmPath := "/var/lib/d2b/vms/work/store-view", targetViewPath := "/nix/store/a",
      closurePaths := [], dbDumpPath := "/nix/store/a/registration" }

lemma acyclic_workDag : Kahn.Acyclic workDag.arrows :=
  Kahn.acyclic_of_rank (fun id => workDag.ids.idxOf id) (by decide)

theorem prerequisites_complete_and_ordered_share :
    ((workBundle.resolveVmStartPrerequisites "work" "virtiofsd-ro-store").map (·.roleId) =
        ["host-reconcile", "store-virtiofs-preflight"]) ∧
      ((workBundle.resolveVmStartPrerequisites "work" "virtiofsd-ro-store").map (·.roleId)).Nodup :=
  ⟨by decide +kernel,
    (prerequisites_complete_and_ordered rfl acyclic_workDag "virtiofsd-ro-store").1⟩

/-- The share has no actions, and hides the nodes behind it from the hypervisor. -/
theorem prerequisites_stop_at_actionless_node :
    workBundle.findProcessVm "work" = some workDag ∧ Kahn.Acyclic workDag.arrows ∧
      "cloud-hypervisor" ∈ workDag.ids ∧
      TransGen (Kahn.Edge workDag.arrows) "host-reconcile" "cloud-hypervisor" ∧
      workBundle.CarriesActions "work" "host-reconcile" ∧
      workBundle.resolveVmStartPrerequisites "work" "cloud-hypervisor" = [] := by
  refine ⟨rfl, acyclic_workDag, by decide, ?_, ?_, by decide +kernel⟩
  · have hfirst : Kahn.Edge workDag.arrows "host-reconcile" "store-virtiofs-preflight" := by
      simp [Kahn.Edge, workDag, VmProcessDag.arrows]
    have hsecond : Kahn.Edge workDag.arrows "store-virtiofs-preflight" "virtiofsd-ro-store" := by
      simp [Kahn.Edge, workDag, VmProcessDag.arrows]
    have hthird : Kahn.Edge workDag.arrows "virtiofsd-ro-store" "cloud-hypervisor" := by
      simp [Kahn.Edge, workDag, VmProcessDag.arrows]
    exact ((TransGen.single hfirst).tail hsecond).tail hthird
  · rw [← isSome_actionIntent]
    decide +kernel

end D2b.Core.BundleResolver

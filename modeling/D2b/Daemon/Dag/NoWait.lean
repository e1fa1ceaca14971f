import D2b.Daemon.Dag.StartOrder

/-!
# D2b.Daemon.Dag.NoWait

A no-wait start ends at the first split-readiness node of the order, and leaves out
whatever stands behind it there, also nodes that do not depend on it. No such node
is lost if everything behind a split-readiness node is a descendant of one.
-/

namespace D2b.Daemon.DagExecutor

open Core List

variable {runner : NodeRunner} {dag : VmProcessDag}

/-- Reached from a split-readiness node by edges. -/
def BehindSplit (dag : VmProcessDag) (id : NodeId) : Prop :=
  ∃ split, IsSplit dag split ∧ Relation.TransGen (Kahn.Edge dag.arrows) split id

/-- In the order of `topo_sort`, only descendants of split-readiness nodes stand
behind such a node. -/
def SplitNodesLast (dag : VmProcessDag) : Prop :=
  ∀ before split after, topoSort dag = .ok (before ++ split :: after) → IsSplit dag split →
    ∀ id ∈ after, BehindSplit dag id

lemma not_behindSplit_of_source {id : NodeId} (h : ∀ edge ∈ dag.edges, edge.toNode ≠ id) :
    ¬ BehindSplit dag id := by
  intro ⟨split, hsplit, hpath⟩
  obtain ⟨last, hlast, hedge⟩ := Relation.TransGen.tail'_iff.mp hpath
  obtain ⟨edge, hmem, hfrom, hto⟩ := edge_arrows.mp hedge
  exact h edge hmem hto

/-- The nodes of a successful start, up to the split-readiness node where it ended. -/
lemma started_of_overallOk (hrun : runSplitState runner dag mode = .ok s)
    (hok : s.overallOk = true) (hlast : SplitNodesLast dag) {id : NodeId} (hid : id ∈ dag.ids)
    (hnot : ¬ BehindSplit dag id) : Started s id := by
  obtain ⟨order, horder, hprogress, -⟩ := progress_runSplitState hrun
  have hmem : id ∈ order := (ordered_of_topoSort horder).1.mem_iff.mpr hid
  cases hstopped : s.noWaitCompleted with
  | false => exact hprogress.started hstopped (hprogress.ok.mp hok) id hmem
  | true =>
    obtain ⟨before, split, after, rfl, hsplit, hstarted⟩ := hprogress.stopped hstopped
    rw [← singleton_append, ← append_assoc, mem_append] at hmem
    cases hmem with
    | inl hfirst => exact hstarted id hfirst
    | inr hafter => exact absurd (hlast before split after horder hsplit id hafter) hnot

/-- Only the guest stands behind the hypervisor. -/
lemma splitNodesLast_sidecarDag : SplitNodesLast sidecarDag := by
  intro before split after horder hsplit id hid
  have hsorted :
      topoSort sidecarDag = .ok ["gpu", "swtpm", "cloud-hypervisor", "guest-control"] := by
    decide +kernel
  have hch : split = "cloud-hypervisor" := by
    obtain ⟨node, hnode, rfl, hapi⟩ := hsplit
    simp only [sidecarDag, mem_cons, not_mem_nil, or_false] at hnode
    obtain rfl | rfl | rfl | rfl := hnode <;> first | rfl | cases hapi
  have hguest : after = ["guest-control"] := by
    rw [hsorted, Except.ok.injEq, hch] at horder
    have hparts : before = ["gpu", "swtpm"] ∧ after = ["guest-control"] := by
      simpa [cons_eq_append_iff] using horder
    exact hparts.2
  rw [hguest, mem_singleton] at hid
  refine ⟨split, hsplit, .single ?_⟩
  rw [hch, hid, edge_arrows]
  decide

def relayNode : ProcessNode :=
  { id := "vsock-relay", role := .vsockRelay, profile := plainProfile, readiness := [] }

/-- A hypervisor and a relay that do not depend on each other. -/
def relayDag : VmProcessDag where
  vm := "work"
  nodes := [
    { id := "cloud-hypervisor", role := .cloudHypervisorRunner, profile := plainProfile,
      readiness := [.apiSocketInfo "api.sock"] },
    relayNode]
  edges := []

end D2b.Daemon.DagExecutor

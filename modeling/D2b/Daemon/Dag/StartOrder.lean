import D2b.Daemon.Dag

/-!
# D2b.Daemon.Dag.StartOrder

`topo_sort` succeeds exactly on well-formed acyclic graphs and puts the source of
every edge before its target; the executors spawn a node only once all its
predecessors are ready, spawn nothing after a failure, and report every node.
-/

namespace D2b.Daemon

open Core List
open RunState (push spawned)
open Fallible

attribute [local simp] RunState.finish push spawned

/-! ## the sort -/

/-- The ids are distinct, the ends of edges are nodes, and there is no cycle. -/
structure WellFormed (dag : VmProcessDag) : Prop where
  nodup : dag.ids.Nodup
  ends : ∀ edge ∈ dag.edges, edge.fromNode ∈ dag.ids ∧ edge.toNode ∈ dag.ids
  acyclic : Kahn.Acyclic dag.arrows

variable {dag : VmProcessDag}

lemma edge_arrows :
    Kahn.Edge dag.arrows x y ↔ ∃ edge ∈ dag.edges, edge.fromNode = x ∧ edge.toNode = y := by
  simp [Kahn.Edge, VmProcessDag.arrows]

lemma checkDuplicates_eq_ok :
    ∀ {seen : List NodeId}, checkDuplicates seen nodes = .ok () ↔
      (nodes.map (·.id)).Nodup ∧ ∀ node ∈ nodes, node.id ∉ seen := by
  induction nodes with
  | nil => simp [checkDuplicates]
  | cons node nodes ih =>
    intro seen
    rw [checkDuplicates, then_eq_ok, ih]
    rw [failIf_eq_ok, map_cons, nodup_cons, forall_mem_cons]
    constructor
    · intro ⟨hfresh, hnodup, hseen⟩
      refine ⟨⟨fun hmem => ?_, hnodup⟩, hfresh, fun other hother hold => ?_⟩
      · obtain ⟨other, hother, heq⟩ := mem_map.mp hmem
        exact hseen other hother (by rw [heq]; exact mem_cons_self)
      · exact hseen other hother (mem_cons_of_mem _ hold)
    · intro ⟨⟨hnew, hnodup⟩, hfresh, hseen⟩
      refine ⟨hfresh, hnodup, fun other hother hmem => ?_⟩
      cases mem_cons.mp hmem with
      | inl heq => exact hnew (mem_map.mpr ⟨other, hother, heq⟩)
      | inr hold => exact hseen other hother hold

lemma checkEdges_eq_ok :
    checkEdges dag = .ok () ↔
      ∀ edge ∈ dag.edges, edge.fromNode ∈ dag.ids ∧ edge.toNode ∈ dag.ids := by
  rw [checkEdges, forM_eq_ok]
  simp [then_eq_ok]

lemma perm_sortIds (ids : List NodeId) : (sortIds ids).Perm ids := perm_insertionSort _ ids

/-- Before the loop exactly the sources are queued. -/
lemma inv_startState (hnodup : dag.ids.Nodup) : Kahn.Inv dag.arrows dag.ids (startState dag) := by
  have hperm := perm_sortIds (dag.ids.filter fun id => decide (inDegree dag id = 0))
  refine ⟨⟨?_, ?_, ?_⟩, ?_, Kahn.Ordered.nil _⟩
  · exact hperm.nodup_iff.mpr (hnodup.filter _)
  · intro x hx
    exact (mem_filter.mp (hperm.mem_iff.mp hx)).1
  · intro n hn
    have hmem : n ∈ (startState dag).queue ↔ _ := hperm.mem_iff
    rw [show (startState dag).sorted = [] from rfl, nil_append, hmem, mem_filter, decide_eq_true_eq]
    exact and_iff_right hn
  · intro n
    exact (Kahn.blocked_nil dag.arrows n).symm

/-- After the loop the queue is empty. -/
lemma inv_endState (hnodup : dag.ids.Nodup)
    (hends : ∀ edge ∈ dag.edges, edge.fromNode ∈ dag.ids ∧ edge.toNode ∈ dag.ids) :
    Kahn.Inv dag.arrows dag.ids (endState dag) ∧ (endState dag).queue = [] := by
  have hnext : ∀ id, (neighbours dag id).Perm (Kahn.targets dag.arrows id) :=
    fun id => perm_sortIds _
  have htargets : ∀ x y, Kahn.Edge dag.arrows x y → y ∈ dag.ids := by
    intro x y hedge
    obtain ⟨edge, hmem, -, rfl⟩ := edge_arrows.mp hedge
    exact (hends edge hmem).2
  have hstart := inv_startState hnodup
  exact ⟨(hstart.loop hnext htargets).1, hstart.queue_eq_nil hnext htargets rfl⟩

lemma topoSort_eq_ok :
    topoSort dag = .ok order ↔
      dag.ids.Nodup ∧
        (∀ edge ∈ dag.edges, edge.fromNode ∈ dag.ids ∧ edge.toNode ∈ dag.ids) ∧
        (endState dag).sorted.length = dag.ids.length ∧ order = (endState dag).sorted := by
  unfold topoSort
  rw [then_eq_ok, then_eq_ok, then_eq_ok, checkDuplicates_eq_ok, checkEdges_eq_ok]
  rw [failIf_eq_ok, not_not]
  simp [VmProcessDag.ids, pure, Except.pure, eq_comm]

/-- What an order of `topo_sort` is. -/
lemma ordered_of_topoSort (h : topoSort dag = .ok order) :
    order.Perm dag.ids ∧ Kahn.Ordered dag.arrows order := by
  obtain ⟨hnodup, hends, hlength, rfl⟩ := topoSort_eq_ok.mp h
  have hinv := (inv_endState hnodup hends).1
  exact ⟨hinv.perm_of_length hlength, hinv.ordered⟩

/-- `topo_sort` succeeds exactly on well-formed graphs. -/
lemma exists_topoSort_iff : (∃ order, topoSort dag = .ok order) ↔ WellFormed dag := by
  constructor
  · intro ⟨order, h⟩
    obtain ⟨hperm, hordered⟩ := ordered_of_topoSort h
    obtain ⟨hnodup, hends, -, -⟩ := topoSort_eq_ok.mp h
    refine ⟨hnodup, hends, Kahn.acyclic_of_ordered (hperm.nodup_iff.mpr hnodup) ?_ hordered⟩
    intro x y hedge
    obtain ⟨edge, hmem, -, rfl⟩ := edge_arrows.mp hedge
    exact hperm.mem_iff.mpr (hends edge hmem).2
  · intro h
    obtain ⟨hinv, hqueue⟩ := inv_endState h.nodup h.ends
    have hstarts : ∀ x y, Kahn.Edge dag.arrows x y → x ∈ dag.ids := by
      intro x y hedge
      obtain ⟨edge, hmem, rfl, -⟩ := edge_arrows.mp hedge
      exact (h.ends edge hmem).1
    exact ⟨_, topoSort_eq_ok.mpr ⟨h.nodup, h.ends,
      hinv.length_of_acyclic hstarts hqueue h.nodup h.acyclic, rfl⟩⟩

/-! ## the loops -/

/-- When a node is spawned, its predecessors are reported ready and nothing has
failed. -/
def Orderly (dag : VmProcessDag) (log : List RunEvent) : Prop :=
  ∀ before id after, log = before ++ .spawn id :: after →
    (∀ edge ∈ dag.edges, edge.toNode = id → .report ⟨edge.fromNode, .ready⟩ ∈ before) ∧
      ∀ failed reason, .report ⟨failed, .failed reason⟩ ∉ before

lemma Orderly.nil : Orderly dag [] := by
  intro before id after h
  simp at h

lemma Orderly.report (h : Orderly dag log) (entry : NodeHistory) :
    Orderly dag (log ++ [.report entry]) := by
  intro before id after heq
  rcases append_eq_append_iff.mp heq with ⟨mid, hbefore, hrest⟩ | ⟨mid, hlog, hrest⟩
  · cases mid with
    | nil | cons _ _ => simp at hrest
  · cases mid with
    | nil => simp at hrest
    | cons first mid =>
      obtain ⟨rfl, -⟩ := cons.inj hrest
      exact h before id mid hlog

variable {id : NodeId}

lemma Orderly.spawn (h : Orderly dag log)
    (hready : ∀ edge ∈ dag.edges, edge.toNode = id → .report ⟨edge.fromNode, .ready⟩ ∈ log)
    (hclean : ∀ failed reason, .report ⟨failed, .failed reason⟩ ∉ log) :
    Orderly dag (log ++ [.spawn id]) := by
  intro before id' after heq
  rcases append_eq_append_iff.mp heq with ⟨mid, hbefore, hrest⟩ | ⟨mid, hlog, hrest⟩
  · cases mid with
    | nil =>
      cases hrest
      rw [hbefore, append_nil]
      exact ⟨hready, hclean⟩
    | cons first mid => simp at hrest
  · cases mid with
    | nil =>
      cases hrest
      rw [append_nil] at hlog
      rw [← hlog]
      exact ⟨hready, hclean⟩
    | cons first mid =>
      obtain ⟨rfl, -⟩ := cons.inj hrest
      exact h before id' mid hlog

def RunEvent.entry : RunEvent → Option NodeHistory
  | .spawn _ => none
  | .report entry => some entry

/-- The id of a split-readiness node. -/
def IsSplit (dag : VmProcessDag) (id : NodeId) : Prop :=
  ∃ node ∈ dag.nodes, node.id = id ∧ usesSplitReadiness node.readiness = true

/-- The node was spawned and reported ready. -/
def Started (s : RunState) (id : NodeId) : Prop := .spawn id ∈ s.log ∧ .report ⟨id, .ready⟩ ∈ s.log

/-- What is known after the rounds of `done`. -/
structure Progress (dag : VmProcessDag) (done : List NodeId) (s : RunState) : Prop where
  orderly : Orderly dag s.log
  reports : s.log.filterMap RunEvent.entry = s.history
  ok : s.overallOk = true ↔ s.failedPredecessor = none
  clean : s.failedPredecessor = none → ∀ id reason, .report ⟨id, .failed reason⟩ ∉ s.log
  listed : s.noWaitCompleted = false → s.history.map (·.nodeId) = done
  started : s.noWaitCompleted = false → s.failedPredecessor = none → ∀ id ∈ done, Started s id
  /-- a no-wait start ends at a split-readiness node -/
  stopped : s.noWaitCompleted = true → ∃ before id after, done = before ++ id :: after ∧
    IsSplit dag id ∧ ∀ id' ∈ before ++ [id], Started s id'

lemma Progress.start : Progress dag [] .start :=
  ⟨Orderly.nil, rfl, by simp [RunState.start], by simp [RunState.start], fun _ => rfl, by simp,
    by simp [RunState.start]⟩

variable {s : RunState}

/-- The rounds that are left out. -/
lemma Progress.pass (h : Progress dag done s) (hstopped : s.noWaitCompleted = true) :
    Progress dag (done ++ [id]) s where
  orderly := h.orderly
  reports := h.reports
  ok := h.ok
  clean := h.clean
  listed hrunning := by
    rw [hstopped] at hrunning
    cases hrunning
  started hrunning := by
    rw [hstopped] at hrunning
    cases hrunning
  stopped _ := by
    obtain ⟨before, split, after, rfl, hsplit, hstarted⟩ := h.stopped hstopped
    exact ⟨before, split, after ++ [id], by simp, hsplit, hstarted⟩

/-- A round after a failure. -/
lemma Progress.skip (h : Progress dag done s) (hrunning : s.noWaitCompleted = false)
    (hfailed : s.failedPredecessor = some failed) :
    Progress dag (done ++ [id]) (s.push id (.skipped failed)) where
  orderly := h.orderly.report _
  reports := by simp [RunEvent.entry, h.reports]
  ok := h.ok
  clean hnone := by
    have hnone : s.failedPredecessor = none := hnone
    rw [hfailed] at hnone
    cases hnone
  listed _ := by simp [h.listed hrunning]
  started _ hnone := by
    have hnone : s.failedPredecessor = none := hnone
    rw [hfailed] at hnone
    cases hnone
  stopped hstopped := by
    have hstopped : s.noWaitCompleted = true := hstopped
    rw [hrunning] at hstopped
    cases hstopped

/-- A round that spawns its node. -/
lemma Progress.finish (h : Progress dag done s) (hrunning : s.noWaitCompleted = false)
    (hclean : s.failedPredecessor = none)
    (hbefore : ∀ edge ∈ dag.edges, edge.toNode = id → edge.fromNode ∈ done)
    (result : Except String Unit) (apiReady : Option ApiReadyState) (stop : Bool)
    (hstop : stop = true → IsSplit dag id ∧ result = .ok ()) : Progress dag (done ++ [id])
      ({ s.spawned id with apiReady, noWaitCompleted := stop }.finish id result) := by
  have hspawn : Orderly dag (s.log ++ [.spawn id]) := by
    refine h.orderly.spawn (fun edge hedge hto => ?_) (h.clean hclean)
    exact (h.started hrunning hclean _ (hbefore edge hedge hto)).2
  have hreports : (s.log ++ [RunEvent.spawn id]).filterMap RunEvent.entry = s.history := by
    rw [filterMap_append, h.reports]
    simp [RunEvent.entry]
  cases result with
  | error reason =>
    refine ⟨hspawn.report _, ?_, by simp, ?_, ?_, ?_, ?_⟩
    · simp only [RunState.finish, push, spawned]
      rw [filterMap_append, hreports]
      rfl
    · simp
    · intro _
      simp [h.listed hrunning]
    · simp
    · intro hstopped
      exact absurd (hstop hstopped).2 (by simp)
  | ok u =>
    have hold : ∀ id' ∈ done, Started ({ s.spawned id with apiReady, noWaitCompleted := stop
        }.finish id (.ok u)) id' := by
      intro id' hid'
      obtain ⟨hspawned, hready⟩ := h.started hrunning hclean id' hid'
      exact ⟨by simp [hspawned],
        by simp [hready]⟩
    have hnew : Started ({ s.spawned id with apiReady, noWaitCompleted := stop
        }.finish id (.ok u)) id :=
      ⟨by simp, by simp⟩
    have hall : ∀ id' ∈ done ++ [id], Started ({ s.spawned id with
        apiReady, noWaitCompleted := stop }.finish id (.ok u)) id' := by
      exact Trace.forall_mem_snoc.mpr ⟨hold, hnew⟩
    refine ⟨hspawn.report _, ?_, h.ok, ?_, ?_, fun _ _ => hall, ?_⟩
    · simp only [RunState.finish, push, spawned]
      rw [filterMap_append, hreports]
      rfl
    · intro _ failed reason hmem
      simp at hmem
      exact h.clean hclean failed reason hmem
    · intro _
      simp [h.listed hrunning]
    · intro hstopped
      exact ⟨done, id, [], rfl, (hstop hstopped).1, hall⟩

/-- The `expect` of the loops never fails: an id of the order is a node's. -/
lemma exists_find_node (h : id ∈ dag.ids) :
    ∃ node, dag.nodes.find? (decide <| ·.id = id) = some node ∧ node ∈ dag.nodes ∧
      node.id = id := by
  obtain ⟨node, hmem, hid⟩ := mem_map.mp h
  cases hfind : dag.nodes.find? (decide <| ·.id = id) with
  | none =>
    have hno := find?_eq_none.mp hfind node hmem
    simp [hid] at hno
  | some found =>
    have hfound := find?_some hfind
    exact ⟨found, rfl, mem_of_find?_eq_some hfind, by simpa using hfound⟩

namespace DagExecutor

variable {runner : NodeRunner} {mode : SplitReadinessMode}

lemma progress_runSplitNode (h : Progress dag done s) (hnode : id ∈ dag.ids)
    (hbefore : ∀ edge ∈ dag.edges, edge.toNode = id → edge.fromNode ∈ done) :
    Progress dag (done ++ [id]) (runSplitNode runner dag mode s id) := by
  obtain ⟨node, hfind, hmem, hid⟩ := exists_find_node hnode
  cases hstopped : s.noWaitCompleted with
  | true =>
    simp only [runSplitNode, hstopped, if_true]
    exact h.pass hstopped
  | false =>
    simp only [runSplitNode, hstopped, Bool.false_eq_true, if_false]
    cases hfailed : s.failedPredecessor with
    | some failed => exact h.skip hstopped hfailed
    | none =>
      have hnext := h.finish hstopped hfailed hbefore
      -- a round that goes on leaves `no_wait_completed` as it is
      have hgoes : s.noWaitCompleted = true → ∀ P : Prop, P := by simp [hstopped]
      simp only [hfind]
      by_cases hsplit : usesSplitReadiness node.readiness = true
      · rw [if_pos hsplit]
        cases runner.spawnAndCheckProcessAlive s.log dag.vm node with
        | error reason => exact hnext _ s.apiReady s.noWaitCompleted fun h => hgoes h _
        | ok u =>
          cases mode with
          | noWaitApi => exact hnext _ _ true fun _ => ⟨⟨node, hmem, hid, hsplit⟩, rfl⟩
          | strict => exact hnext _ _ s.noWaitCompleted fun h => hgoes h _
      · rw [if_neg hsplit]
        exact hnext _ s.apiReady s.noWaitCompleted fun h => hgoes h _

/-- A strict round never ends the start early. -/
lemma runSplitNode_strict_running (h : s.noWaitCompleted = false) :
    (runSplitNode runner dag .strict s id).noWaitCompleted = false := by
  have hfinish : ∀ (t : RunState) result, t.noWaitCompleted = false →
      (t.finish id result).noWaitCompleted = false := by
    intro t result ht
    cases result with
    | ok _ | error _ => exact ht
  simp only [runSplitNode, h, Bool.false_eq_true, if_false]
  cases s.failedPredecessor with
  | some failed => exact h
  | none =>
    cases dag.nodes.find? (decide <| ·.id = id) with
    | none => exact h
    | some node =>
      dsimp only
      split
      · cases runner.spawnAndCheckProcessAlive s.log dag.vm node with
        | error _ | ok _ => exact hfinish _ _ h
      · exact hfinish _ _ h

/-- A round of `run` does what a round of `run_split` does with a node that has no
API socket. -/
lemma progress_runNode (h : Progress dag done s) (hrunning : s.noWaitCompleted = false)
    (hnode : id ∈ dag.ids) (hbefore : ∀ edge ∈ dag.edges, edge.toNode = id → edge.fromNode ∈ done) :
    Progress dag (done ++ [id]) (runNode runner dag s id) ∧
      (runNode runner dag s id).noWaitCompleted = false := by
  obtain ⟨node, hfind, -, -⟩ := exists_find_node hnode
  simp only [runNode, hfind]
  cases hfailed : s.failedPredecessor with
  | some failed => exact ⟨h.skip hrunning hfailed, hrunning⟩
  | none =>
    refine ⟨h.finish hrunning hfailed hbefore _ s.apiReady s.noWaitCompleted
      (by simp [hrunning]), ?_⟩
    cases runner.spawnAndWaitReady s.log dag.vm node node.readiness with
    | ok _ | error _ => exact hrunning

/-- The rounds of a whole order: each is given that its node's predecessors are
done. -/
lemma foldl_order {I : List NodeId → RunState → Prop} (horder : Kahn.Ordered dag.arrows order)
    (hids : ∀ id ∈ order, id ∈ dag.ids) (hstep : ∀ done s id, I done s → id ∈ dag.ids →
      (∀ edge ∈ dag.edges, edge.toNode = id → edge.fromNode ∈ done) →
        I (done ++ [id]) (step s id)) :
    ∀ rest done s, order = done ++ rest → I done s → I order (rest.foldl step s) := by
  intro rest
  induction rest with
  | nil =>
    intro done s heq h
    rw [heq, append_nil]
    exact h
  | cons id rest ih =>
    intro done s heq h
    have hbefore : ∀ edge ∈ dag.edges, edge.toNode = id → edge.fromNode ∈ done := by
      intro edge hedge hto
      exact horder done id rest heq edge.fromNode (edge_arrows.mpr ⟨edge, hedge, rfl, hto⟩)
    have hnode : id ∈ dag.ids := hids id (by rw [heq]; simp)
    exact ih (done ++ [id]) (step s id) (by rw [heq]; simp) (hstep done s id h hnode hbefore)

/-- What holds after `run`. -/
lemma progress_runState (h : runState runner dag = .ok s) :
    ∃ order, topoSort dag = .ok order ∧ Progress dag order s ∧ s.noWaitCompleted = false := by
  obtain ⟨order, horder, hend⟩ := bind_eq_ok.mp h
  cases hend
  obtain ⟨hperm, hordered⟩ := ordered_of_topoSort horder
  refine ⟨order, horder, ?_⟩
  exact foldl_order (I := fun done s => Progress dag done s ∧ s.noWaitCompleted = false) hordered
    (fun id => hperm.mem_iff.mp) (fun done s id hdone => progress_runNode hdone.1 hdone.2)
    order [] .start rfl ⟨.start, rfl⟩

/-- What holds after `run_split`. -/
lemma progress_runSplitState (h : runSplitState runner dag mode = .ok s) :
    ∃ order, topoSort dag = .ok order ∧ Progress dag order s ∧
      (mode = .strict → s.noWaitCompleted = false) := by
  obtain ⟨order, horder, hend⟩ := bind_eq_ok.mp h
  cases hend
  obtain ⟨hperm, hordered⟩ := ordered_of_topoSort horder
  refine ⟨order, horder, ?_⟩
  refine foldl_order (I := fun done s => Progress dag done s ∧
      (mode = .strict → s.noWaitCompleted = false)) hordered
    (fun id => hperm.mem_iff.mp) (fun done s id hdone hnode hbefore => ?_)
    order [] .start rfl ⟨.start, fun _ => rfl⟩
  refine ⟨progress_runSplitNode hdone.1 hnode hbefore, ?_⟩
  rintro rfl
  exact runSplitNode_strict_running (hdone.2 rfl)

/-- `topo_sort` accepts exactly the well-formed graphs and orders them along their
edges; both executors, whatever the runner answers, spawn a node only after its
predecessors were reported ready and nothing after a failure, and they report every
node once in that order unless a no-wait start ends early. -/
theorem start_order (dag : VmProcessDag) :
    ((∃ order, topoSort dag = .ok order) ↔ WellFormed dag) ∧
      ∀ order, topoSort dag = .ok order →
        (order.Perm dag.ids ∧ Kahn.Ordered dag.arrows order) ∧
        ∀ runner,
          (∃ s, runState runner dag = .ok s ∧ run runner dag = .ok (s.report dag.vm) ∧
            Orderly dag s.log ∧ s.log.filterMap RunEvent.entry = s.history ∧
            s.history.map (·.nodeId) = order) ∧
          ∀ mode, ∃ s, runSplitState runner dag mode = .ok s ∧
            runSplit runner dag mode = .ok (s.report dag.vm) ∧
            Orderly dag s.log ∧ s.log.filterMap RunEvent.entry = s.history ∧
            (mode = .strict → s.history.map (·.nodeId) = order) := by
  refine ⟨exists_topoSort_iff, fun order horder => ⟨ordered_of_topoSort horder, fun runner => ?_⟩⟩
  constructor
  · have hrun : runState runner dag = .ok (order.foldl (runNode runner dag) .start) := by
      rw [runState, horder]
      rfl
    obtain ⟨order', horder', hprogress, hrunning⟩ := progress_runState hrun
    rw [horder] at horder'
    cases horder'
    refine ⟨_, hrun, ?_, hprogress.orderly, hprogress.reports, hprogress.listed hrunning⟩
    rw [run, hrun]
    rfl
  · intro mode
    have hrun : runSplitState runner dag mode =
        .ok (order.foldl (runSplitNode runner dag mode) .start) := by
      rw [runSplitState, horder]
      rfl
    obtain ⟨order', horder', hprogress, hrunning⟩ := progress_runSplitState hrun
    rw [horder] at horder'
    cases horder'
    refine ⟨_, hrun, ?_, hprogress.orderly, hprogress.reports,
      fun hstrict => hprogress.listed (hrunning hstrict)⟩
    rw [runSplit, hrun]
    rfl

/-- A runner whose process `bad` never comes up. -/
def runnerFailing (bad : NodeId) : NodeRunner where
  spawnAndWaitReady _ _ node _ := if node.id = bad then .error "exited" else .ok ()
  spawnAndCheckProcessAlive _ _ node := if node.id = bad then .error "exited" else .ok ()
  probeApiReady _ _ _ _ := .yes

def plainProfile : RoleProfile := { uid := 1000, gid := 1000, writablePaths := [] }

/-- A hypervisor behind two sidecars, with a guest behind it. -/
def sidecarDag : VmProcessDag where
  vm := "work"
  nodes := [
    { id := "guest-control", role := .guestControlHealth, profile := plainProfile,
      readiness := [.guestControlHealth "work"] },
    { id := "cloud-hypervisor", role := .cloudHypervisorRunner, profile := plainProfile,
      readiness := [.apiSocketInfo "api.sock"] },
    { id := "swtpm", role := .swtpm, profile := plainProfile, readiness := [] },
    { id := "gpu", role := .gpu, profile := plainProfile, readiness := [] }]
  edges := [{ fromNode := "swtpm", toNode := "cloud-hypervisor", reason := "tpm" },
    { fromNode := "gpu", toNode := "cloud-hypervisor", reason := "gpu" },
    { fromNode := "cloud-hypervisor", toNode := "guest-control", reason := "boot" }]

theorem start_order_sidecars :
    topoSort sidecarDag = .ok ["gpu", "swtpm", "cloud-hypervisor", "guest-control"] ∧
      ∃ s, runState (runnerFailing "swtpm") sidecarDag = .ok s ∧ Orderly sidecarDag s.log ∧
        s.history.map (·.nodeId) = ["gpu", "swtpm", "cloud-hypervisor", "guest-control"] := by
  have horder :
      topoSort sidecarDag = .ok ["gpu", "swtpm", "cloud-hypervisor", "guest-control"] := by
    decide +kernel
  obtain ⟨s, hrun, -, horderly, -, hlisted⟩ :=
    (((start_order sidecarDag).2 _ horder).2 (runnerFailing "swtpm")).1
  exact ⟨horder, s, hrun, horderly, hlisted⟩

end DagExecutor

end D2b.Daemon

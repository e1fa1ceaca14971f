import D2b.Core.Processes
import D2b.Lib.Fallible
import D2b.Lib.Kahn

/-!
# D2b.Daemon.Dag

The process DAG of a VM (`supervisor/dag.rs`): `topo_sort` orders its nodes, and
the executors drive them in this order through a runner.

A runner may answer each call as it likes, also depending on what happened
before; the log of spawns and reports that it sees is also what the results
speak about.
-/

namespace D2b.Daemon

open Core
open Fallible

inductive DagError where
  | cycle (residualNodes : List NodeId)
  | unknownNode (edge : DagEdge)
  | duplicateNode (nodeId : NodeId)
deriving DecidableEq

/-! ## `topo_sort` -/

/-- The order of `BTreeMap` keys and of `sort`. -/
def sortIds (ids : List NodeId) : List NodeId := ids.insertionSort (· ≤ ·)

/-- The first loop: no id twice. -/
def checkDuplicates (seen : List NodeId) : List ProcessNode → Except DagError Unit
  | [] => .ok ()
  | node :: rest => do
    failIf (node.id ∈ seen) (.duplicateNode node.id)
    checkDuplicates (node.id :: seen) rest

section

variable (dag : VmProcessDag)

/-- The second loop: both ends of every edge are nodes. -/
def checkEdges : Except DagError Unit :=
  forM dag.edges fun edge => do
    failIf (edge.fromNode ∉ dag.ids) (.unknownNode edge)
    failIf (edge.toNode ∉ dag.ids) (.unknownNode edge)

/-- `in_degree` after the second loop. -/
def inDegree (id : NodeId) : Nat := dag.arrows.countP fun arrow => decide (arrow.2 = id)

/-- The neighbours of a node, in the order they are visited. -/
def neighbours (id : NodeId) : List NodeId := sortIds (Kahn.targets dag.arrows id)

/-- The sources, before the loop. -/
def startState : Kahn.State NodeId where
  queue := sortIds (dag.ids.filter fun id => decide (inDegree dag id = 0))
  sorted := []
  degree := inDegree dag

/-- The state after the loop, which has a round for each node. -/
def endState : Kahn.State NodeId := Kahn.loop (neighbours dag) dag.ids.length (startState dag)

/-- Nodes in dependency order. -/
def topoSort : Except DagError (List NodeId) := do
  checkDuplicates [] dag.nodes
  checkEdges dag
  let sorted := (endState dag).sorted
  failIf (sorted.length ≠ dag.nodes.length) (.cycle (dag.ids.filter fun id => decide (id ∉ sorted)))
  pure sorted

end

/-! ## the executors -/

inductive NodeOutcome where
  | ready
  | failed (reason : String)
  | skipped (predecessor : NodeId)
deriving DecidableEq

structure NodeHistory where
  nodeId : NodeId
  outcome : NodeOutcome
deriving DecidableEq

inductive ApiReadyState where
  | yes | pending | timeout
  | error (reason : String)
deriving DecidableEq

structure DagRunReport where
  vm : String
  history : List NodeHistory
  overallOk : Bool
  apiReady : Option ApiReadyState

inductive SplitReadinessMode where
  | strict | noWaitApi
deriving DecidableEq

/-- A spawn call, or an entry of the history. -/
inductive RunEvent where
  | spawn (id : NodeId)
  | report (entry : NodeHistory)
deriving DecidableEq

/-- What the runner answers, given what happened so far. -/
structure NodeRunner where
  spawnAndWaitReady : List RunEvent → String → ProcessNode → List ReadinessPredicate →
    Except String Unit
  spawnAndCheckProcessAlive : List RunEvent → String → ProcessNode → Except String Unit
  probeApiReady : List RunEvent → String → ProcessNode → List ReadinessPredicate → ApiReadyState

def usesSplitReadiness (readiness : List ReadinessPredicate) : Bool :=
  readiness.any fun predicate =>
    match predicate with
    | .apiSocketInfo _ => true
    | _ => false

/-- The variables of the loop, with the log. -/
structure RunState where
  history : List NodeHistory
  failedPredecessor : Option NodeId
  overallOk : Bool
  apiReady : Option ApiReadyState
  noWaitCompleted : Bool
  log : List RunEvent

namespace RunState

def start : RunState :=
  { history := [], failedPredecessor := none, overallOk := true, apiReady := none,
    noWaitCompleted := false, log := [] }

variable (s : RunState)

def spawned (id : NodeId) : RunState := { s with log := s.log ++ [.spawn id] }

def push (id : NodeId) (outcome : NodeOutcome) : RunState :=
  { s with
    history := s.history ++ [{ nodeId := id, outcome }]
    log := s.log ++ [.report { nodeId := id, outcome }] }

/-- The match on a node's result. -/
def finish (id : NodeId) : Except String Unit → RunState
  | .ok () => s.push id .ready
  | .error reason =>
    { s with overallOk := false, failedPredecessor := some id }.push id (.failed reason)

def report (vm : String) : DagRunReport :=
  { vm, history := s.history, overallOk := s.overallOk, apiReady := s.apiReady }

end RunState

/-- `api-ready` as the result of the node. -/
def apiResult : ApiReadyState → Except String Unit
  | .yes => .ok ()
  | .pending => .error "api-ready pending"
  | .timeout => .error "api-ready timeout"
  | .error reason => .error ("api-ready error: " ++ reason)

namespace DagExecutor

variable (runner : NodeRunner) (dag : VmProcessDag)

/-- A round of `run`. -/
def runNode (s : RunState) (id : NodeId) : RunState :=
  match s.failedPredecessor with
  | some failed => s.push id (.skipped failed)
  | none =>
    match dag.nodes.find? (decide <| ·.id = id) with
    -- the order holds ids of nodes only
    | none => s
    | some node =>
      (s.spawned id).finish id (runner.spawnAndWaitReady s.log dag.vm node node.readiness)

variable (mode : SplitReadinessMode)

/-- A round of `run_split`. -/
def runSplitNode (s : RunState) (id : NodeId) : RunState :=
  if s.noWaitCompleted then s
  else
    match s.failedPredecessor with
    | some failed => s.push id (.skipped failed)
    | none =>
      match dag.nodes.find? (decide <| ·.id = id) with
      | none => s
      | some node =>
        if usesSplitReadiness node.readiness then
          match runner.spawnAndCheckProcessAlive s.log dag.vm node with
          | .error reason => (s.spawned id).finish id (.error reason)
          | .ok () =>
            match mode with
            | .noWaitApi =>
              { s.spawned id with
                apiReady := some .pending
                noWaitCompleted := true }.finish id (.ok ())
            | .strict =>
              let state := runner.probeApiReady (s.spawned id).log dag.vm node node.readiness
              { s.spawned id with apiReady := some state }.finish id (apiResult state)
        else
          (s.spawned id).finish id (runner.spawnAndWaitReady s.log dag.vm node node.readiness)

/-- `run` up to its report. -/
def runState : Except DagError RunState := do
  let order ← topoSort dag
  pure (order.foldl (runNode runner dag) .start)

def run : Except DagError DagRunReport := (runState runner dag).map (·.report dag.vm)

/-- `run_split` up to its report. -/
def runSplitState : Except DagError RunState := do
  let order ← topoSort dag
  pure (order.foldl (runSplitNode runner dag mode) .start)

def runSplit : Except DagError DagRunReport := (runSplitState runner dag mode).map (·.report dag.vm)

end DagExecutor

end D2b.Daemon

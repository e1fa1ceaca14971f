import Mathlib.Data.List.Basic

/-!
# D2b.Core.Processes

The process DAG of a VM (`processes.rs`), as the bundle gives it to the broker and
the daemon.
-/

namespace D2b.Core

abbrev NodeId := String

inductive ReadinessPredicate where
  | apiSocketInfo (path : String)
  | vsockNotify (name : String)
  | unixSocketExists (path : String)
  | unixSocketListening (path : String)
  | tcpPort (host : String) (port : Nat)
  | command (argv : List String)
  | componentSpecific (name : String)
  | guestControlHealth (vm : String)
deriving DecidableEq

inductive ProcessRole where
  | hostReconcile | storeVirtiofsPreflight | swtpmPreStartFlush | swtpm | virtiofsd | video
  | gpu | gpuRenderNode | audio | cloudHypervisorRunner | qemuMediaRunner | vsockRelay
  | otelHostBridge | guestSshReadiness | guestControlHealth | usbip | securityKeyFrontend
  | waylandProxy
deriving DecidableEq

/-- The part of a `RoleProfile` that is read; the writable paths are those of its
mount policy. -/
structure RoleProfile where
  uid : Nat
  gid : Nat
  writablePaths : List String
deriving DecidableEq

structure ProcessNode where
  id : NodeId
  role : ProcessRole
  profile : RoleProfile
  readiness : List ReadinessPredicate
deriving DecidableEq

structure DagEdge where
  fromNode : NodeId
  toNode : NodeId
  reason : String
deriving DecidableEq

structure VmProcessDag where
  vm : String
  nodes : List ProcessNode
  edges : List DagEdge

namespace VmProcessDag

def ids (dag : VmProcessDag) : List NodeId := dag.nodes.map (·.id)

/-- The edges without their reasons. -/
def arrows (dag : VmProcessDag) : List (NodeId × NodeId) :=
  dag.edges.map fun edge => (edge.fromNode, edge.toNode)

end VmProcessDag

end D2b.Core

import D2b.Core.Processes
import D2b.Lib.BTreeMap
import D2b.Lib.PostOrder
import Mathlib.Data.List.DropRight
import Mathlib.Data.String.Basic

/-!
# D2b.Core.BundleResolver

The lookups of `bundle_resolver.rs` behind a VM start: which host actions a node of
the process DAG stands for, and which of them come before a runner is spawned.
-/

namespace D2b.Core

/-- The part of a manifest entry that is read. -/
structure VmEntry where
  stateDir : String

structure ResolvedPrepareDirIntent where
  vmName : String
  baseDir : String
  ownerUid : Nat
  ownerGid : Nat
  mode : Nat
deriving DecidableEq

structure ResolvedStoreViewIntent where
  intentId : String
  vm : String
  generation : Nat
  hardlinkFarmPath : String
  targetViewPath : String
  closurePaths : List String
  dbDumpPath : String
deriving DecidableEq

inductive ResolvedVmStartAction where
  | prepareRuntimeDir (intent : ResolvedPrepareDirIntent)
  | prepareStateDir (intent : ResolvedPrepareDirIntent)
  | prepareStoreView (intent : ResolvedStoreViewIntent)
deriving DecidableEq

/-- Resolved startup plan for a process-DAG node. -/
structure ResolvedVmStartIntent where
  intentId : String
  vmName : String
  roleId : NodeId
  role : ProcessRole
  actions : List ResolvedVmStartAction
deriving DecidableEq

def ResolvedVmStartIntent.isReadinessOnly (intent : ResolvedVmStartIntent) : Bool :=
  intent.actions.isEmpty

def intentIdStoreView (vm : String) : String := "store-view:vm:" ++ vm

def intentIdVmStart (vm roleId : String) : String := "vm-start:vm:" ++ vm ++ ":role:" ++ roleId

def scoreWritablePath (node : ProcessNode) (exact : Bool) : Nat :=
  match node.role, exact with
  | .qemuMediaRunner, true => 5
  | .hostReconcile, true => 4
  | _, true => 3
  | .hostReconcile, false => 2
  | _, false => 1

/-- `max_by_key`: the last of the greatest. -/
def maxByKey {α : Type} (key : α → Nat) (xs : List α) : Option α :=
  xs.foldl (fun best x => some (best.elim x fun b => if key b ≤ key x then x else b)) none

/-- `trim_end_matches('/')`. -/
def trimSlashes (path : String) : String :=
  String.ofList (path.toList.rdropWhile (decide <| · = '/'))

structure BundleResolver where
  manifestVms : BTreeMap String VmEntry
  processVms : List VmProcessDag
  storeViewIntents : BTreeMap String ResolvedStoreViewIntent

namespace BundleResolver

variable (r : BundleResolver) (vmId : String)

def findManifestVm : Option VmEntry := r.manifestVms[vmId]?

def findProcessVm : Option VmProcessDag := r.processVms.find? (decide <| ·.vm = vmId)

variable (roleId : NodeId)

def findProcessNode : Option ProcessNode := do
  let vm ← r.findProcessVm vmId
  vm.nodes.find? (decide <| ·.id = roleId)

def findStoreViewIntent : Option ResolvedStoreViewIntent :=
  r.storeViewIntents[intentIdStoreView vmId]?

/-- The owner that a node's writable path gives to `path`, with its score. -/
def writableOwner (path : String) (node : ProcessNode) (writable : String) :
    Option ((Nat × Nat) × Nat) :=
  let exact := decide (writable = path)
  let under := decide (path = writable) ||
    (trimSlashes writable ++ "/").toList.isPrefixOf path.toList
  if exact || under then
    some ((node.profile.uid, node.profile.gid), scoreWritablePath node exact)
  else none

def resolvePathOwner (path : String) : Option (Nat × Nat) := do
  let dag ← r.findProcessVm vmId
  let best ← maxByKey Prod.snd (dag.nodes.filterMap fun node =>
    maxByKey Prod.snd (node.profile.writablePaths.filterMap (writableOwner path node)))
  pure best.1

def resolvePrepareDirIntent (runtimeDir : Bool) : Option ResolvedPrepareDirIntent := do
  let vm ← r.findManifestVm vmId
  let baseDir := if runtimeDir then "/run/d2b/vms/" ++ vmId else vm.stateDir
  let (ownerUid, ownerGid) ← r.resolvePathOwner vmId baseDir
  pure { vmName := vmId, baseDir, ownerUid, ownerGid, mode := if runtimeDir then 0o755 else 0o750 }

def vmStartActions (role : ProcessRole) : List ResolvedVmStartAction :=
  match role with
  | .hostReconcile =>
    ((r.resolvePrepareDirIntent vmId true).map .prepareRuntimeDir).toList ++
      ((r.resolvePrepareDirIntent vmId false).map .prepareStateDir).toList
  | .storeVirtiofsPreflight =>
    ((r.findStoreViewIntent vmId).map .prepareStoreView).toList
  | _ => []

def resolveVmStartIntent : Option ResolvedVmStartIntent := do
  let node ← r.findProcessNode vmId roleId
  pure { intentId := intentIdVmStart vmId roleId, vmName := vmId, roleId, role := node.role,
         actions := r.vmStartActions vmId node.role }

/-- The intent of a predecessor that is not passed over. -/
def actionIntent : Option ResolvedVmStartIntent := do
  let intent ← r.resolveVmStartIntent vmId roleId
  if intent.isReadinessOnly then none else some intent

/-- A predecessor without an intent or without actions is passed over before the
recursion. -/
def collectVmStartPredecessors (vm : VmProcessDag) (fuel : Nat) (roleId : NodeId)
    (s : PostOrder.State NodeId ResolvedVmStartIntent) :
    PostOrder.State NodeId ResolvedVmStartIntent :=
  PostOrder.collect vm.arrows (r.actionIntent vm.vm) fuel roleId s

/-- The recursion is at most as deep as there are sources of edges. -/
def resolveVmStartPrerequisites : List ResolvedVmStartIntent :=
  match r.findProcessVm vmId with
  | none => []
  | some vm => (r.collectVmStartPredecessors vm (vm.arrows.length + 1) roleId ⟨∅, []⟩).out

end BundleResolver

end D2b.Core

import D2b.RealmRouter.OperationRouter

/-!
# D2b.RealmRouter.RemoteNode

Remote full-host nodes (`remote_node.rs`): the registry of enrolled nodes,
the preflight of a remote route, and the adapter that sends an operation to
the peer of a node once the registry and the shared router let it pass.

The peer client is a parameter of `dispatch`, which calls it at most once;
the call that was made, with the peer's answer, is part of the result.

Over whole runs of the registry, a peer is called only for a node that was
admitted (`called_admitted`) and not after its session closed.
-/

namespace D2b.RealmRouter

/-! ## errors -/

inductive RemoteNodeAvailability where
  | available | disconnected | staleHeartbeat
deriving DecidableEq

/-- Why a remote node registration or route was refused. -/
inductive RemoteNodeErrorKind where
  | wrongRealm | wrongNode | notFullHost | unauthorizedGateway | duplicateRegistration
  | staleGeneration | registryCapacityExceeded | dedupCapacityExceeded | missingIdempotencyKey
  | idempotencyConflict | idempotencyExpired | remoteOperationUnknown | nodeUnavailable
  | capabilityDenied | missingWorkload | unsupportedOperation
deriving DecidableEq

structure RemoteNodeError where
  kind : RemoteNodeErrorKind
  missingCapability : Option Capability
  capabilityFingerprint : Option String
  correlationId : Option CorrelationId
deriving DecidableEq

namespace RemoteNodeError

def new (kind : RemoteNodeErrorKind) : RemoteNodeError := ⟨kind, none, none, none⟩

def denied (capability : Capability) (fingerprint : Option String) : RemoteNodeError :=
  ⟨.capabilityDenied, some capability, fingerprint, none⟩

def withCorrelationId (e : RemoteNodeError) (correlationId : CorrelationId) : RemoteNodeError :=
  { e with correlationId := some correlationId }

end RemoteNodeError

/-! ## the registry -/

inductive NodeKind where
  | fullHost | gateway | providerManaged
deriving DecidableEq

structure NodeSummary where
  id : NodeId
  realm : RealmPath
  kind : NodeKind
  capabilities : CapabilitySet
deriving DecidableEq

/-- Registration request for one remote full-host node. -/
structure RemoteNodeRegistration where
  summary : NodeSummary
  gatewayPrincipal : PrincipalId
  gatewayNode : NodeId
  substrateAdapter : ProviderId
  generation : ProtocolToken

structure RemoteNodeEntry where
  summary : NodeSummary
  gatewayPrincipal : PrincipalId
  gatewayNode : NodeId
  substrateAdapter : ProviderId
  generation : ProtocolToken
  capabilityFingerprint : String
  availability : RemoteNodeAvailability
  lastHeartbeat : Nat

def RemoteNodeEntry.isStaleGeneration (entry : RemoteNodeEntry) (generation : ProtocolToken) :
    Bool :=
  decide (generation ≠ entry.generation)

/-- A realm and a node of it. -/
abbrev RemoteNodeKey := RealmPath ×ₗ NodeId

instance : Std.TransCmp (compare : RemoteNodeKey → RemoteNodeKey → Ordering) := inferInstance

/-- The remote full-host nodes of a gateway-managed realm. -/
structure RemoteNodeRegistry where
  managedRealm : RealmPath
  nodes : BTreeMap RemoteNodeKey RemoteNodeEntry
  maxNodes : Nat
  heartbeatTimeout : Nat

/-- Route metadata that is passed to a peer client. -/
structure RemoteRoute where
  realm : RealmPath
  node : NodeId
  generation : ProtocolToken
  operation : OperationKind
  correlationId : CorrelationId
  requiredCapability : Option Capability
  capabilityFingerprint : String
  principal : PrincipalId
  trace : Option TraceContext
  mutating : Bool
deriving DecidableEq

namespace RemoteNodeRegistry

variable (r : RemoteNodeRegistry) (realm : RealmPath) (node : NodeId)

/-- Borrow a registered node. -/
def get : Option RemoteNodeEntry := r.nodes[(toLex (realm, node) : RemoteNodeKey)]?

/-- The entry of a registration that passed its checks. -/
def entryOf (registration : RemoteNodeRegistration) (principal : PrincipalId) (now : Nat) :
    RemoteNodeEntry where
  summary := registration.summary
  gatewayPrincipal := principal
  gatewayNode := registration.gatewayNode
  substrateAdapter := registration.substrateAdapter
  generation := registration.generation
  capabilityFingerprint := registration.summary.capabilities.stableFingerprint
  availability := .available
  lastHeartbeat := now

/-- Register or re-register a remote full-host node. -/
def register (registration : RemoteNodeRegistration) (now : Nat) :
    Except RemoteNodeError RemoteNodeEntry × RemoteNodeRegistry :=
  let key : RemoteNodeKey := toLex (registration.summary.realm, registration.summary.id)
  if registration.summary.kind ≠ .fullHost then (.error (.new .notFullHost), r)
  else if registration.summary.capabilities.has .providerManagedIsolation then
    (.error (.new .notFullHost), r)
  else if registration.summary.realm ≠ r.managedRealm then (.error (.new .wrongRealm), r)
  else if registration.gatewayNode = registration.summary.id then
    (.error (.new .unauthorizedGateway), r)
  else match r.nodes[key]? with
  | some existing =>
    if existing.gatewayPrincipal ≠ registration.gatewayPrincipal then
      (.error (.new .duplicateRegistration), r)
    else if existing.generation = registration.generation ∧
        (existing.summary ≠ registration.summary ∨
          existing.gatewayNode ≠ registration.gatewayNode ∨
          existing.substrateAdapter ≠ registration.substrateAdapter) then
      (.error (.new .duplicateRegistration), r)
    else
      let entry := entryOf registration existing.gatewayPrincipal now
      (.ok entry, { r with nodes := r.nodes.insert key entry })
  | none =>
    if r.nodes.size ≥ r.maxNodes then (.error (.new .registryCapacityExceeded), r)
    else
      let entry := entryOf registration registration.gatewayPrincipal now
      (.ok entry, { r with nodes := r.nodes.insert key entry })

/-- Refresh the heartbeat of the current generation. -/
def heartbeat (generation : ProtocolToken) (now : Nat) :
    Except RemoteNodeError RemoteNodeEntry × RemoteNodeRegistry :=
  match r.get realm node with
  | none => (.error (.new .wrongNode), r)
  | some entry =>
    if entry.generation ≠ generation then (.error (.new .staleGeneration), r)
    else if entry.availability = .disconnected then (.error (.new .nodeUnavailable), r)
    else
      let entry := { entry with availability := .available, lastHeartbeat := now }
      (.ok entry, { r with nodes := r.nodes.insert (toLex (realm, node)) entry })

/-- Mark a peer-session disconnect; whether the node was known. -/
def peerDisconnected : Bool × RemoteNodeRegistry :=
  match r.get realm node with
  | none => (false, r)
  | some entry => (true,
      { r with
        nodes := r.nodes.insert (toLex (realm, node))
          { entry with availability := .disconnected } })

/-- Mark nodes stale whose heartbeat is too old. -/
def expireHeartbeats (now : Nat) : RemoteNodeRegistry :=
  { r with
    nodes := r.nodes.map fun _ entry =>
      if entry.availability = .available ∧ now - entry.lastHeartbeat > r.heartbeatTimeout then
        { entry with availability := .staleHeartbeat }
      else entry }

/-- Remove a registered node. -/
def unregister : Option RemoteNodeEntry × RemoteNodeRegistry :=
  (r.get realm node, { r with nodes := r.nodes.erase (toLex (realm, node)) })

end RemoteNodeRegistry

/-- The capability a remote operation requires; an unsupported kind is refused. -/
def requiredRemoteCapability (kind : OperationKind) : Except RemoteNodeError (Option Capability) :=
  match operationRoutePlan kind with
  | some plan => .ok plan.requiredCapability
  | none => .error (.new .unsupportedOperation)

/-- Check whether a remote operation may be sent. -/
def RemoteNodeRegistry.prepareRoute (r : RemoteNodeRegistry) (req : OperationRequest)
    (generation : ProtocolToken) (gatewayPrincipal : PrincipalId) :
    Except RemoteNodeError RemoteRoute :=
  let refuse (e : RemoteNodeError) : Except RemoteNodeError RemoteRoute :=
    .error (e.withCorrelationId req.correlationId)
  if req.realm ≠ r.managedRealm then refuse (.new .wrongRealm)
  else match r.get req.realm req.node with
  | none => refuse (.new .wrongNode)
  | some entry =>
    if req.node ≠ entry.summary.id then refuse (.new .wrongNode)
    else if entry.gatewayPrincipal ≠ gatewayPrincipal then refuse (.new .unauthorizedGateway)
    else if entry.availability ≠ .available then refuse (.new .nodeUnavailable)
    else if entry.isStaleGeneration generation then refuse (.new .staleGeneration)
    else match requiredRemoteCapability req.kind with
    | .error e => refuse e
    | .ok required =>
      match required.filter fun capability => !entry.summary.capabilities.has capability with
      | some capability => refuse (.denied capability none)
      | none => .ok
          { realm := req.realm
            node := req.node
            generation := entry.generation
            operation := req.kind
            correlationId := req.correlationId
            requiredCapability := required
            capabilityFingerprint := entry.capabilityFingerprint
            principal := entry.gatewayPrincipal
            trace := req.trace
            mutating := req.kind.isMutating }

/-! ## dispatch -/

/-- What the remote host knows of an unacknowledged operation. -/
inductive RemotePeerStatus where
  | completed (result : OpaquePayload)
  | inProgress
  | unknown
deriving DecidableEq

/-- The semantic peer client, as one dispatch sees it. -/
structure RemotePeerClient where
  sendOperation : RemoteRoute → OperationRequest → Except RemoteNodeError OpaquePayload
  queryOperation : RemoteRoute → OperationRequest → Except RemoteNodeError RemotePeerStatus

inductive PeerCall where
  | sent (reply : Except RemoteNodeError OpaquePayload)
  | queried (reply : Except RemoteNodeError RemotePeerStatus)
deriving DecidableEq

inductive RemoteDispatchOutcome where
  | sent (route : RemoteRoute) (result : OpaquePayload)
  | replayed (result : OpaquePayload)
  | queryRemoteState (route : RemoteRoute)

/-- The refusal for a route decision.  The three success decisions are
unreachable in the source: `dispatch` answers them itself. -/
def remoteErrorFromRouteDecision (req : OperationRequest) (decision : RouteDecision) :
    RemoteNodeError :=
  let e : RemoteNodeError := match decision with
    | .principalMismatch => .new .unauthorizedGateway
    | .capabilityDenied capability => .denied capability none
    | .missingIdempotencyKey => .new .missingIdempotencyKey
    | .missingWorkload => .new .missingWorkload
    | .idempotencyKeyConflict => .new .idempotencyConflict
    | .idempotencyKeyExpired => .new .idempotencyExpired
    | .dedupCapacityExceeded => .new .dedupCapacityExceeded
    | .inProgress _ | .replay _ _ | .accept _ | .unsupportedOperation _ =>
      .new .unsupportedOperation
  e.withCorrelationId req.correlationId

structure RemoteFullHostAdapter where
  registry : RemoteNodeRegistry
  router : OperationRouter
  gatewayPrincipal : PrincipalId
  negotiatedCapabilities : CapabilitySet

/-- What a dispatch returns, the peer call it made, and the adapter it leaves. -/
structure Dispatched where
  result : Except RemoteNodeError RemoteDispatchOutcome
  call : Option PeerCall
  adapter : RemoteFullHostAdapter

namespace RemoteFullHostAdapter

/-- Mark the operation failed if it mutates. -/
def markFailed (a : RemoteFullHostAdapter) (req : OperationRequest) : RemoteFullHostAdapter :=
  if req.kind.isMutating then { a with router := (a.router.markFailed req).2 } else a

def markCompleted (a : RemoteFullHostAdapter) (now : Nat) (req : OperationRequest)
    (result : OpaquePayload) : RemoteFullHostAdapter :=
  { a with router := (a.router.markCompleted now req result).2 }

variable (a : RemoteFullHostAdapter)

/-- Send a newly accepted operation. -/
def send (now : Nat) (req : OperationRequest) (route : RemoteRoute)
    (client : RemotePeerClient) : Dispatched :=
  let reply := client.sendOperation route req
  match reply with
  | .error e => ⟨.error e, some (.sent reply), a.markFailed req⟩
  | .ok result => ⟨.ok (.sent route result), some (.sent reply),
      if req.kind.isMutating then a.markCompleted now req result else a⟩

/-- Ask for the state of an operation that is in progress. -/
def query (now : Nat) (req : OperationRequest) (route : RemoteRoute)
    (client : RemotePeerClient) : Dispatched :=
  let reply := client.queryOperation route req
  match reply with
  | .error e => ⟨.error e, some (.queried reply), a.markFailed req⟩
  | .ok (.completed result) =>
    ⟨.ok (.replayed result), some (.queried reply), a.markCompleted now req result⟩
  | .ok .inProgress => ⟨.ok (.queryRemoteState route), some (.queried reply), a⟩
  | .ok .unknown =>
    ⟨.error ((RemoteNodeError.new .remoteOperationUnknown).withCorrelationId req.correlationId),
      some (.queried reply), a.markFailed req⟩

/-- Route and send one operation through the peer client.  The router reads
the clock when it routes and again when it marks a completion. -/
def dispatch (routedAt markedAt : Nat) (req : OperationRequest)
    (generation : ProtocolToken) (client : RemotePeerClient) : Dispatched :=
  match a.registry.prepareRoute req generation a.gatewayPrincipal with
  | .error e => ⟨.error e, none, a⟩
  | .ok route =>
    let routed := a.router.routeWithCapabilities routedAt req a.gatewayPrincipal
      a.negotiatedCapabilities
    let a := { a with router := routed.2 }
    match routed.1 with
    | .accept _ => a.send markedAt req route client
    | .replay _ result => ⟨.ok (.replayed result), none, a⟩
    | .inProgress _ => a.query markedAt req route client
    | decision => ⟨.error (remoteErrorFromRouteDecision req decision), none, a⟩

end RemoteFullHostAdapter

/-! ## runs -/

namespace RemoteNodeRegistry

inductive Call where
  | register (registration : RemoteNodeRegistration) (now : Nat)
  | heartbeat (realm : RealmPath) (node : NodeId) (generation : ProtocolToken) (now : Nat)
  | peerDisconnected (realm : RealmPath) (node : NodeId)
  | expireHeartbeats (now : Nat)
  | unregister (realm : RealmPath) (node : NodeId)

/-- The registry a call leaves. -/
def after (r : RemoteNodeRegistry) : Call → RemoteNodeRegistry
  | .register registration now => (r.register registration now).2
  | .heartbeat realm node generation now => (r.heartbeat realm node generation now).2
  | .peerDisconnected realm node => (r.peerDisconnected realm node).2
  | .expireHeartbeats now => r.expireHeartbeats now
  | .unregister realm node => (r.unregister realm node).2

def Call.registers (k : RemoteNodeKey) : Call → Bool
  | .register registration _ => toLex (registration.summary.realm, registration.summary.id) = k
  | _ => false

/-- The node is unknown, or its peer session closed. -/
def Down (r : RemoteNodeRegistry) (k : RemoteNodeKey) : Prop :=
  ∀ e, r.nodes[k]? = some e → e.availability = .disconnected

variable {r : RemoteNodeRegistry}

open BTreeMap in
lemma down_after {c : Call} (h : r.Down k) (hc : c.registers k = false) : (r.after c).Down k := by
  intro e he
  cases c with
  | register => grind [Down, after, register, get_insert, Call.registers]
  | heartbeat => grind [Down, after, heartbeat, RemoteNodeRegistry.get, get_insert]
  | peerDisconnected => grind [Down, after, peerDisconnected, get_insert]
  | expireHeartbeats => grind [Down, after, expireHeartbeats, get_map]
  | unregister => grind [Down, after, unregister, get_erase]

lemma down_foldl (h : r.Down k) (calls : List Call) :
    ((calls.filter (!·.registers k)).foldl after r).Down k := by
  refine List.foldlRecOn (motive := (Down · k)) _ _ h fun r h c hc => down_after h ?_
  simpa using List.of_mem_filter hc

lemma down_peerDisconnected : (r.peerDisconnected realm node).2.Down (toLex (realm, node)) := by
  intro e he
  grind [peerDisconnected, RemoteNodeRegistry.get, BTreeMap.get_insert]

/-- What the preflight of a route finds. -/
lemma of_prepareRoute (h : r.prepareRoute req generation principal = .ok route) :
    ∃ e required, r.get req.realm req.node = some e ∧ e.availability = .available ∧
      e.gatewayPrincipal = principal ∧ e.generation = generation ∧
      requiredRemoteCapability req.kind = .ok required ∧
      ∀ capability ∈ required, e.summary.capabilities.has capability = true := by
  simp only [prepareRoute] at h
  rcases hrequired : requiredRemoteCapability req.kind with _ | _ | capability <;>
    grind [RemoteNodeEntry.isStaleGeneration]

lemma Down.not_called {a : RemoteFullHostAdapter}
    (h : a.registry.Down (toLex (req.realm, req.node))) :
    (a.dispatch routedAt markedAt req generation client).call = none := by
  cases hroute : a.registry.prepareRoute req generation a.gatewayPrincipal with
  | error => simp [RemoteFullHostAdapter.dispatch, hroute]
  | ok route =>
    obtain ⟨e, -, hget, havailable, -⟩ := of_prepareRoute hroute
    rw [h e hget] at havailable
    contradiction

/-- Once its peer session closed, a node is not called before it registers
again, whatever else the registry is told. -/
theorem disconnected_not_called (a : RemoteFullHostAdapter) (calls : List Call)
    (req : OperationRequest) (routedAt markedAt : Nat) (generation : ProtocolToken)
    (client : RemotePeerClient) :
    let others := calls.filter (!·.registers (toLex (req.realm, req.node)))
    let registry := others.foldl after (a.registry.peerDisconnected req.realm req.node).2
    ({ a with registry }.dispatch routedAt markedAt req generation client).call = none :=
  Down.not_called (down_foldl down_peerDisconnected calls)

/-- The entry passed the checks of a registration, for its key. -/
structure Admitted (managed : RealmPath) (k : RemoteNodeKey) (e : RemoteNodeEntry) : Prop where
  key : toLex (e.summary.realm, e.summary.id) = k
  realm : e.summary.realm = managed
  fullHost : e.summary.kind = .fullHost
  isolation : e.summary.capabilities.has .providerManagedIsolation = false
  gateway : e.gatewayNode ≠ e.summary.id
  fingerprint : e.capabilityFingerprint = e.summary.capabilities.stableFingerprint

/-- The invariant of every reachable registry. -/
structure Sound (r : RemoteNodeRegistry) : Prop where
  admitted : ∀ k e, r.nodes[k]? = some e → Admitted r.managedRealm k e
  bounded : r.nodes.size ≤ r.maxNodes

open BTreeMap in
lemma Sound.insert (h : r.Sound) (he : Admitted r.managedRealm k e)
    (hroom : r.nodes.contains k = true ∨ r.nodes.size < r.maxNodes) :
    Sound { r with nodes := r.nodes.insert k e } := by
  constructor
  · intro k' e' hget
    rcases get_insert_eq_some.mp hget with ⟨rfl, rfl⟩ | ⟨-, hget⟩
    · exact he
    · exact h.admitted k' e' hget
  · have hbounded := h.bounded
    grind [size_insert]

/-- An entry's availability and heartbeat are set. -/
lemma Sound.touch (h : r.Sound) (hget : r.nodes[k]? = some e) :
    Sound { r with nodes := r.nodes.insert k { e with availability, lastHeartbeat } } :=
  have he := h.admitted k e hget
  h.insert ⟨he.key, he.realm, he.fullHost, he.isolation, he.gateway, he.fingerprint⟩
    (.inl (BTreeMap.contains_iff_get.mpr ⟨e, hget⟩))

lemma Sound.register (h : r.Sound) (registration : RemoteNodeRegistration) (now : Nat) :
    (r.register registration now).2.Sound := by
  have hcases : (r.register registration now).2 = r ∨ ∃ k e, Admitted r.managedRealm k e ∧
      (r.nodes.contains k = true ∨ r.nodes.size < r.maxNodes) ∧
      (r.register registration now).2 = { r with nodes := r.nodes.insert k e } := by
    grind [RemoteNodeRegistry.register, Admitted, entryOf]
  obtain hsame | ⟨k, e, he, hroom, hinsert⟩ := hcases
  · rwa [hsame]
  · rw [hinsert]
    exact h.insert he hroom

lemma sound_after (h : r.Sound) (c : Call) : (r.after c).Sound := by
  cases c with
  | register registration now => exact h.register registration now
  | heartbeat realm node generation now =>
    simp only [after, heartbeat]
    split
    · exact h
    · split_ifs
      · exact h
      · exact h
      · exact h.touch (by assumption)
  | peerDisconnected realm node =>
    simp only [after, peerDisconnected]
    split
    · exact h
    · exact h.touch (by assumption)
  | expireHeartbeats now =>
    refine ⟨fun k e hget => ?_, by simpa [after, expireHeartbeats] using h.bounded⟩
    obtain ⟨e, hbefore, rfl⟩ := Option.map_eq_some_iff.mp (BTreeMap.get_map r.nodes _ k ▸ hget)
    grind [h.admitted k e hbefore, Admitted, after, expireHeartbeats]
  | unregister realm node =>
    refine ⟨fun k e hget => ?_, Std.ExtTreeMap.size_erase_le.trans h.bounded⟩
    grind [h.admitted k e, after, unregister, BTreeMap.get_erase]

lemma sound_foldl (calls : List Call) : (calls.foldl after { r with nodes := ∅ }).Sound :=
  List.foldlRecOn (motive := Sound) _ _ ⟨by simp, by simp⟩ fun _ h c _ => sound_after h c

/-- However a registry came about, a peer is called only for an admitted node
of its realm that is available, in the generation and under the principal of
the caller, with the capability that the operation requires. -/
theorem called_admitted (a : RemoteFullHostAdapter) (calls : List Call) (req : OperationRequest)
    (routedAt markedAt : Nat) (generation : ProtocolToken) (client : RemotePeerClient) :
    let registry := calls.foldl after { a.registry with nodes := ∅ }
    registry.nodes.size ≤ registry.maxNodes ∧
    (({ a with registry }.dispatch routedAt markedAt req generation client).call = none ∨
      ∃ e required, registry.get req.realm req.node = some e ∧
        Admitted registry.managedRealm (toLex (req.realm, req.node)) e ∧
        e.availability = .available ∧ e.gatewayPrincipal = a.gatewayPrincipal ∧
        e.generation = generation ∧ requiredRemoteCapability req.kind = .ok required ∧
        ∀ capability ∈ required, e.summary.capabilities.has capability = true) := by
  intro registry
  have hsound : registry.Sound := sound_foldl calls
  refine ⟨hsound.bounded, ?_⟩
  cases hroute : registry.prepareRoute req generation a.gatewayPrincipal with
  | error => exact .inl (by simp [RemoteFullHostAdapter.dispatch, hroute])
  | ok route =>
    obtain ⟨e, required, hget, h⟩ := of_prepareRoute hroute
    exact .inr ⟨e, required, hget, hsound.admitted _ e hget, h⟩

end RemoteNodeRegistry

end D2b.RealmRouter

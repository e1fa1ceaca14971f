import D2b.RealmRouter.OperationRouter.AtMostOnce
import D2b.RealmRouter.RemoteNode

/-!
# D2b.RealmRouter.RemoteNode.NoBlindResend

Runs of `dispatch` against a remote peer that executes an operation or not,
and may lose its reply.  A run of the adapter is a run of its router, so the
life of a dedup key says when an operation can be sent again.  A send whose
reply is lost is marked failed and gives its key free, so the next attempt
sends the operation again without a query.  In runs where the peer answers,
an operation is sent again only after the remote said that it does not know
it, or after its record expired.
-/

namespace D2b

open List

namespace RealmRouter

/-- One dispatch: its inputs (the registry as it stands at the call), the peer
call it made, and whether the remote executed what was sent. -/
structure Dispatch where
  registry : RemoteNodeRegistry
  routedAt : Nat
  markedAt : Nat
  req : OperationRequest
  generation : ProtocolToken
  client : RemotePeerClient
  call : Option PeerCall
  executed : Bool

namespace Dispatch

variable (d : Dispatch) (k : DedupKey) (fingerprint : List UInt8)

/-- The dispatch is for the request with this dedup key and fingerprint. -/
def Concerns : Prop := dedupKey d.req = some k ∧ d.req.dedupFingerprintInput = fingerprint

/-- The request is sent to the remote. -/
def Sends : Prop := d.Concerns k fingerprint ∧ ∃ reply, d.call = some (.sent reply)

/-- The request is sent, and the remote executes it. -/
def Executes : Prop := d.Sends k fingerprint ∧ d.executed = true

/-- A query for the request is answered that the remote does not know it. -/
def AnsweredUnknown : Prop := d.Concerns k fingerprint ∧ d.call = some (.queried (.ok .unknown))

/-- The record of the request is completed, by a reply or by a query. -/
def Completes : Prop :=
  d.Concerns k fingerprint ∧
  ∃ result, d.call = some (.sent (.ok result)) ∨ d.call = some (.queried (.ok (.completed result)))

/-- The peer call ended in an error, such as a lost reply. -/
def Errs : Prop := ∃ e, d.call = some (.sent (.error e)) ∨ d.call = some (.queried (.error e))

/-- The remote peer: what it replies to it has executed, and it is unaware
only of requests that it has not. -/
structure Peer (h : List Dispatch) (d : Dispatch) : Prop where
  replied : ∀ result, d.call = some (.sent (.ok result)) → d.executed = true
  unaware : ∀ k fingerprint, d.AnsweredUnknown k fingerprint → ∀ e ∈ h, ¬e.Executes k fingerprint

end Dispatch

namespace RemoteFullHostAdapter

/-- What the dispatch computes from the adapter. -/
def perform (a : RemoteFullHostAdapter) (d : Dispatch) : Dispatched :=
  { a with registry := d.registry }.dispatch d.routedAt d.markedAt d.req d.generation d.client

/-- A dispatch, no earlier than those before it. -/
structure Step (h : List Dispatch) (a : RemoteFullHostAdapter) (d : Dispatch)
    (a' : RemoteFullHostAdapter) : Prop where
  later : ∀ e ∈ h, e.markedAt ≤ d.routedAt
  marked : d.routedAt ≤ d.markedAt
  peer : d.Peer h
  call : (a.perform d).call = d.call
  after : (a.perform d).adapter = a'

/-- A step at which the peer call for a mutating request is answered. -/
def AnsweredStep (h : List Dispatch) (a : RemoteFullHostAdapter) (d : Dispatch)
    (a' : RemoteFullHostAdapter) : Prop :=
  Step h a d a' ∧ (d.req.kind.isMutating = true → ¬d.Errs)

/-- An adapter whose router has these limits, with any records. -/
def HasLimits (retention horizon : Nat) (a : RemoteFullHostAdapter) : Prop :=
  a.router.HasLimits retention horizon

/-! ## the router calls of a dispatch -/

section

variable (d : Dispatch) (principal : PrincipalId) (capabilities : CapabilitySet)

/-- The router calls that a dispatch makes. -/
inductive Makes : List Event → Prop
  | denied (hcall : d.call = none) : Makes []
  | refused (decision : RouteDecision) (hcall : d.call = none)
      (haccept : ∀ scope, decision ≠ .accept scope) :
      Makes [.routed d.routedAt d.req principal capabilities decision]
  | sentRead (scope : AuthorizationScope) (hread : d.req.kind.isMutating = false) :
      Makes [.routed d.routedAt d.req principal capabilities (.accept scope)]
  | completed (scope : AuthorizationScope) (result : OpaquePayload) (found : Bool)
      (hmutating : d.req.kind.isMutating = true) (hcall : d.call = some (.sent (.ok result))) :
      Makes [.routed d.routedAt d.req principal capabilities (.accept scope),
        .markedCompleted d.markedAt d.req result found]
  | lost (scope : AuthorizationScope) (e : RemoteNodeError) (found : Bool)
      (hmutating : d.req.kind.isMutating = true) (hcall : d.call = some (.sent (.error e))) :
      Makes [.routed d.routedAt d.req principal capabilities (.accept scope),
        .markedFailed d.markedAt d.req found]
  | asked (id : OperationId) (reply : Except RemoteNodeError RemotePeerStatus)
      (hcall : d.call = some (.queried reply)) :
      Makes [.routed d.routedAt d.req principal capabilities (.inProgress id)]
  | found (id : OperationId) (result : OpaquePayload) (found : Bool)
      (hcall : d.call = some (.queried (.ok (.completed result)))) :
      Makes [.routed d.routedAt d.req principal capabilities (.inProgress id),
        .markedCompleted d.markedAt d.req result found]
  | dropped (id : OperationId) (reply : Except RemoteNodeError RemotePeerStatus) (found : Bool)
      (hmutating : d.req.kind.isMutating = true) (hcall : d.call = some (.queried reply))
      (hreply : reply = .ok .unknown ∨ ∃ e, reply = .error e) :
      Makes [.routed d.routedAt d.req principal capabilities (.inProgress id),
        .markedFailed d.markedAt d.req found]

end

section

/-- The calls are a run of the router from `r`, after those of the past. -/
abbrev RunsOn (past : List Event) (r : OperationRouter) :=
  Trace.Run (· = r) fun more => OperationRouter.Step (past ++ more)

lemma run_call (hclock : ∀ e₀ ∈ past, e₀.now ≤ e.now) (hcall : r.Performs e r') :
    RunsOn past r [e] r' := by
  refine .snoc (h := []) (.nil rfl) ⟨?_, hcall⟩
  rwa [append_nil]

lemma run_two_calls (hclock : ∀ e₀ ∈ past, e₀.now ≤ e.now) (hlater : e.now ≤ e'.now)
    (hcall : r.Performs e r') (hcall' : r'.Performs e' r'') :
    RunsOn past r [e, e'] r'' := by
  refine .snoc (h := [e]) (run_call hclock hcall) ⟨?_, hcall'⟩
  exact Trace.forall_mem_snoc.mpr ⟨fun e₀ hmem => Nat.le_trans (hclock e₀ hmem) hlater, hlater⟩

end

section

variable {d : Dispatch} {past : List Event} {a : RemoteFullHostAdapter}
  (hclock : ∀ e ∈ past, e.now ≤ d.routedAt) (hmarked : d.routedAt ≤ d.markedAt)
include hclock hmarked

/-- What follows an acceptance: the send, and the mark of its reply. -/
lemma makes_send
    (hrouted :
      r.Performs (.routed d.routedAt d.req principal capabilities (.accept scope)) a.router)
    (hcall : (a.send d.markedAt d.req route d.client).call = d.call) :
    ∃ es, Makes d principal capabilities es ∧
      RunsOn past r es (a.send d.markedAt d.req route d.client).adapter.router := by
  unfold send at hcall ⊢
  cases hreply : d.client.sendOperation route d.req with
  | error e =>
    rw [hreply] at hcall
    cases hmutating : d.req.kind.isMutating with
    | false =>
      refine ⟨_, .sentRead scope hmutating, run_call hclock ?_⟩
      simpa [markFailed, hmutating] using hrouted
    | true =>
      refine ⟨_, .lost scope e (a.router.markFailed d.req).1 hmutating hcall.symm,
        run_two_calls hclock hmarked hrouted ?_⟩
      simp [OperationRouter.Performs, markFailed, hmutating]
  | ok result =>
    rw [hreply] at hcall
    cases hmutating : d.req.kind.isMutating with
    | false =>
      refine ⟨_, .sentRead scope hmutating, run_call hclock ?_⟩
      simpa [hmutating] using hrouted
    | true =>
      refine ⟨_, .completed scope result (a.router.markCompleted d.markedAt d.req result).1
        hmutating hcall.symm, run_two_calls hclock hmarked hrouted ?_⟩
      simp [OperationRouter.Performs, markCompleted]

/-- What follows an operation in progress: the query, and the mark of its answer. -/
lemma makes_query {id : OperationId}
    (hrouted :
      r.Performs (.routed d.routedAt d.req principal capabilities (.inProgress id)) a.router)
    (hcall : (a.query d.markedAt d.req route d.client).call = d.call) :
    ∃ es, Makes d principal capabilities es ∧
      RunsOn past r es (a.query d.markedAt d.req route d.client).adapter.router := by
  -- an answer that drops the record marks it failed if the operation mutates
  have hdrop : ∀ reply, d.call = some (.queried reply) →
      (reply = .ok .unknown ∨ ∃ e, reply = .error e) →
      ∃ es, Makes d principal capabilities es ∧
        RunsOn past r es (a.markFailed d.req).router := by
    intro reply hcall hreply
    cases hmutating : d.req.kind.isMutating with
    | false =>
      refine ⟨_, .asked id reply hcall, run_call hclock ?_⟩
      simpa [markFailed, hmutating] using hrouted
    | true =>
      refine ⟨_, .dropped id reply (a.router.markFailed d.req).1 hmutating hcall hreply,
        run_two_calls hclock hmarked hrouted ?_⟩
      simp [OperationRouter.Performs, markFailed, hmutating]
  unfold query at hcall ⊢
  cases hreply : d.client.queryOperation route d.req with
  | error e =>
    rw [hreply] at hcall
    exact hdrop _ hcall.symm (.inr ⟨e, rfl⟩)
  | ok status =>
    rw [hreply] at hcall
    cases status with
    | completed result =>
      exact ⟨_, .found id result (a.router.markCompleted d.markedAt d.req result).1 hcall.symm,
        run_two_calls hclock hmarked hrouted rfl⟩
    | inProgress => exact ⟨_, .asked id _ hcall.symm, run_call hclock hrouted⟩
    | unknown => exact hdrop _ hcall.symm (.inl rfl)

/-- A dispatch is a run of the router calls it makes. -/
lemma makes_perform (hcall : (a.perform d).call = d.call) :
    ∃ es, Makes d a.gatewayPrincipal a.negotiatedCapabilities es ∧
      RunsOn past a.router es (a.perform d).adapter.router := by
  unfold perform dispatch at hcall ⊢
  cases hroute : d.registry.prepareRoute d.req d.generation a.gatewayPrincipal with
  | error e =>
    simp only [hroute] at hcall ⊢
    exact ⟨[], .denied hcall.symm, .nil rfl⟩
  | ok route =>
    simp only [hroute] at hcall ⊢
    rcases hrouted : a.router.routeWithCapabilities d.routedAt d.req a.gatewayPrincipal
      a.negotiatedCapabilities with ⟨decision, r'⟩
    rw [hrouted] at hcall
    have hperforms : a.router.Performs (.routed d.routedAt d.req a.gatewayPrincipal
      a.negotiatedCapabilities decision) r' := hrouted
    cases decision with
    | accept scope => exact makes_send hclock hmarked hperforms hcall
    | inProgress id => exact makes_query hclock hmarked hperforms hcall
    | _ => exact ⟨_, .refused _ hcall.symm (by simp), run_call hclock hperforms⟩

end

/-! ## what the calls tell of the dispatch -/

section

section

variable (h : Makes d principal capabilities es)
include h

lemma Makes.now_le (hmarked : d.routedAt ≤ d.markedAt) (he : e ∈ es) : e.now ≤ d.markedAt := by
  cases h with
  | denied => exact absurd he not_mem_nil
  | refused | sentRead | asked =>
    rw [mem_singleton.mp he]
    exact hmarked
  | completed | lost | found | dropped =>
    rcases mem_cons.mp he with rfl | he
    · exact hmarked
    · rw [mem_singleton.mp he]
      exact Nat.le_refl _

/-- A send of a mutating request begins with its acceptance. -/
lemma Makes.accepted (hk : k.kind.isMutating = true) (hsends : d.Sends k fingerprint) :
    ∃ e rest id, es = e :: rest ∧ e.accepted k = some (fingerprint, id) := by
  obtain ⟨⟨hkey, rfl⟩, reply, hsent⟩ := hsends
  have hkind : d.req.kind.isMutating = true := by
    obtain ⟨key, -, rfl⟩ := Option.map_eq_some_iff.mp hkey
    exact hk
  cases h with
  | denied hcall | refused _ hcall | asked _ _ hcall | found _ _ _ hcall | dropped _ _ _ _ hcall =>
    rw [hcall] at hsent
    cases hsent
  | sentRead _ hread =>
    rw [hread] at hkind
    contradiction
  | completed | lost => exact ⟨_, _, d.req.operationId, rfl, by simp [Event.accepted, hkind, hkey]⟩

lemma Makes.failed (he : e ∈ es) (hfailed : e.failedWith k = some fingerprint) :
    d.AnsweredUnknown k fingerprint ∨ d.req.kind.isMutating = true ∧ d.Errs := by
  have hconcerns : ∀ {now found}, e = .markedFailed now d.req found → d.Concerns k fingerprint := by
    rintro now found rfl
    cases found with
    | false => contradiction
    | true =>
      by_cases hkey : dedupKey d.req = some k
      · exact ⟨hkey, by simpa [Event.failedWith, hkey] using hfailed⟩
      · simp [Event.failedWith, hkey] at hfailed
  cases h with
  | denied => exact absurd he not_mem_nil
  | refused | sentRead | asked =>
    rw [mem_singleton.mp he] at hfailed
    contradiction
  | completed | found =>
    rcases mem_pair.mp he with rfl | rfl <;> contradiction
  | lost _ err _ hmutating hcall => exact .inr ⟨hmutating, err, .inl hcall⟩
  | dropped _ reply _ hmutating hcall hreply =>
    rcases mem_pair.mp he with rfl | hmark
    · contradiction
    rcases hreply with rfl | ⟨err, rfl⟩
    · exact .inl ⟨hconcerns hmark, hcall⟩
    · exact .inr ⟨hmutating, err, .inr hcall⟩

lemma Makes.completes (he : e ∈ es) (hcompleted : e.completed k = some (fingerprint, result)) :
    d.Completes k fingerprint ∧ e.now = d.markedAt := by
  have hconcerns : ∀ {now found result'}, e = .markedCompleted now d.req result' found →
      d.Concerns k fingerprint := by
    rintro now found result' rfl
    cases found with
    | false => contradiction
    | true =>
      by_cases hkey : dedupKey d.req = some k
      · simp only [Event.completed, if_pos hkey, Option.some.injEq, Prod.mk.injEq] at hcompleted
        exact ⟨hkey, hcompleted.1⟩
      · simp [Event.completed, hkey] at hcompleted
  cases h with
  | denied => exact absurd he not_mem_nil
  | refused | sentRead | asked =>
    rw [mem_singleton.mp he] at hcompleted
    contradiction
  | lost | dropped =>
    rcases mem_pair.mp he with rfl | rfl <;> contradiction
  | completed _ result' _ _ hcall =>
    rcases mem_pair.mp he with rfl | hmark
    · contradiction
    · exact ⟨⟨hconcerns hmark, result', .inl hcall⟩, by rw [hmark]; rfl⟩
  | found _ result' _ hcall =>
    rcases mem_pair.mp he with rfl | hmark
    · contradiction
    · exact ⟨⟨hconcerns hmark, result', .inr hcall⟩, by rw [hmark]; rfl⟩

end

end

/-! ## runs -/

section

variable {retention horizon : Nat}

lemma calls_before {calls : List (Dispatch × List Event)}
    (hmarked : ∀ d ∈ calls.map Prod.fst, d.routedAt ≤ d.markedAt)
    (hmakes : ∀ c ∈ calls, ∃ principal capabilities, Makes c.1 principal capabilities c.2)
    (hlater : ∀ d ∈ calls.map Prod.fst, d.markedAt ≤ now) :
    ∀ e ∈ calls.flatMap Prod.snd, e.now ≤ now := by
  intro e he
  obtain ⟨c, hc, he⟩ := mem_flatMap.mp he
  obtain ⟨principal, capabilities, hmade⟩ := hmakes c hc
  have hmem : c.1 ∈ calls.map Prod.fst := mem_map_of_mem hc
  exact Nat.le_trans (hmade.now_le (hmarked _ hmem) he) (hlater _ hmem)

/-- A run of the adapter is a run of its router over the calls of its dispatches. -/
lemma router_run {h : List Dispatch} (run : Trace.Run (HasLimits retention horizon) Step h a) :
    (∀ d ∈ h, d.routedAt ≤ d.markedAt) ∧
    ∃ calls : List (Dispatch × List Event), calls.map Prod.fst = h ∧
      (∀ c ∈ calls, ∃ principal capabilities, Makes c.1 principal capabilities c.2) ∧
      Trace.Run (OperationRouter.HasLimits retention horizon) OperationRouter.Step
        (calls.flatMap Prod.snd) a.router := by
  apply run.invariant
  · intro a ha
    exact ⟨by simp, [], rfl, by simp, .nil ha⟩
  · rintro h a d a' - ⟨hmarked, calls, rfl, hmakes, hrun⟩ hstep
    have hclock := calls_before hmarked hmakes hstep.later
    obtain ⟨es, hes, hcalls⟩ := makes_perform hclock hstep.marked hstep.call
    rw [hstep.after] at hcalls
    refine ⟨?_, calls ++ [(d, es)], by simp, ?_, ?_⟩
    · exact Trace.forall_mem_snoc.mpr ⟨hmarked, hstep.marked⟩
    · exact Trace.forall_mem_snoc.mpr ⟨hmakes, _, _, hes⟩
    · rw [flatMap_append, flatMap_singleton]
      exact hrun.append hcalls

/-- A send after a run is an accepting step of the router. -/
lemma accepting_step (hclock : ∀ e ∈ past, e.now ≤ d.routedAt) (hstep : Step h a d a')
    (hk : k.kind.isMutating = true) (hsends : d.Sends k fingerprint) :
    ∃ e r id, OperationRouter.Step past a.router e r ∧ e.now = d.routedAt ∧
      e.accepted k = some (fingerprint, id) := by
  obtain ⟨es, hes, hcalls⟩ := makes_perform hclock hstep.marked hstep.call
  obtain ⟨e, rest, id, rfl, haccepted⟩ := hes.accepted hk hsends
  have hhead : e :: rest = [] ++ e :: rest := rfl
  obtain ⟨r, r', hnil, hfirst⟩ := hcalls.split hhead
  cases hnil.init_of_nil
  rw [append_nil] at hfirst
  refine ⟨e, r', id, hfirst, ?_, haccepted⟩
  cases hes <;> rfl

/-- Two sends of a mutating request: the first one erred, a dispatch between
them erred or was told that the remote does not know the request, or the
record of the request was completed and has expired. -/
lemma sent_again {h₁ : List Dispatch}
    (run : Trace.Run (HasLimits retention horizon) Step (h₁ ++ a :: h₂ ++ b :: h₃) s)
    (hk : k.kind.isMutating = true) (ha : a.Sends k fingerprint) (hb : b.Sends k fingerprint) :
    (∃ d ∈ a :: h₂, d.AnsweredUnknown k fingerprint ∨ d.req.kind.isMutating = true ∧ d.Errs) ∨
    ∃ c ∈ a :: h₂, c.Completes k fingerprint ∧ c.markedAt + retention + horizon < b.routedAt := by
  obtain ⟨m, m', hrun, hstep⟩ := run.split rfl
  obtain ⟨hmarked, calls, hmap, hmakes, hrouter⟩ := router_run hrun
  rw [← hmap] at hmarked
  have hclock := calls_before hmarked hmakes (hmap ▸ hstep.later)
  -- the calls of the dispatches up to `b`, split at those of `a`
  obtain ⟨calls₁, rest, rfl, rfl, hrest⟩ := map_eq_append_iff.mp hmap
  obtain ⟨⟨a', ea⟩, calls₂, rfl, rfl, rfl⟩ := map_eq_cons_iff.mp hrest
  obtain ⟨principal, capabilities, hmakesA⟩ := hmakes (a', ea) (by simp)
  obtain ⟨ra, ta, ida, rfl, haccepted⟩ := hmakesA.accepted hk ha
  obtain ⟨rb, m'', idb, hfirst, hnow, hacceptedB⟩ := accepting_step hclock hstep hk hb
  have hcalls : (calls₁ ++ (a', ra :: ta) :: calls₂).flatMap Prod.snd =
      calls₁.flatMap Prod.snd ++ ra :: (ta ++ calls₂.flatMap Prod.snd) := by simp
  rw [hcalls] at hrouter hfirst
  -- a call after the acceptance of `a` belongs to `a` or to a dispatch between
  have hfind : ∀ e ∈ ta ++ calls₂.flatMap Prod.snd, ∃ d ∈ a' :: calls₂.map Prod.fst,
      ∃ es principal capabilities, Makes d principal capabilities es ∧ e ∈ es := by
    intro e he
    rcases mem_append.mp he with he | he
    · exact ⟨a', mem_cons_self, _, _, _, hmakesA, mem_cons_of_mem _ he⟩
    · obtain ⟨c, hc, he⟩ := mem_flatMap.mp he
      obtain ⟨principal', capabilities', hmade⟩ := hmakes c (by simp [hc])
      exact ⟨c.1, mem_cons_of_mem _ (mem_map_of_mem hc), _, _, _, hmade, he⟩
  have hlife : Trace.Run (fun _ => True) _ _ _ :=
    OperationRouter.life_run (fun _ => id) k (fun _ _ => trivial) hrouter
  have hlifeB := OperationRouter.life_step (fun _ => id) k hrouter hfirst
  rcases DedupLife.at_most_once hlife hlifeB haccepted hacceptedB with
    ⟨m₁, f, m₂, hsplit, -, hfailed⟩ | ⟨m₁, c, m₂, result, hsplit, -, hcompleted, hlate⟩
  · obtain ⟨d, hd, es, p', c', hmade, he⟩ := hfind f (by simp [hsplit])
    exact .inl ⟨d, hd, hmade.failed he hfailed⟩
  · obtain ⟨d, hd, es, p', c', hmade, he⟩ := hfind c (by simp [hsplit])
    obtain ⟨hcompletes, hmark⟩ := hmade.completes he hcompleted
    refine .inr ⟨d, hd, hcompletes, ?_⟩
    rwa [← hmark, ← hnow]

lemma answered_run (run : Trace.Run (HasLimits retention horizon) AnsweredStep h s) :
    Trace.Run (HasLimits retention horizon) Step h s ∧
    ∀ d ∈ h, d.req.kind.isMutating = true → ¬d.Errs := by
  refine ⟨run.map (f := id) (fun _ => id) fun _ _ _ _ _ hstep => hstep.1, ?_⟩
  intro d hd
  obtain ⟨h₁, h₂, rfl⟩ := append_of_mem hd
  obtain ⟨_, _, -, -, hanswered⟩ := run.split rfl
  exact hanswered

/-- In a run in which the peer answers, a mutating request is sent again only
after the remote said that it does not know it, or after its completed record
expired past the no-reuse horizon; and the remote executes it again only
after the latter. -/
theorem no_blind_resend {h : List Dispatch} {s : RemoteFullHostAdapter}
    (run : Trace.Run (HasLimits retention horizon) AnsweredStep h s) :
    ∀ (k : DedupKey) (fingerprint : List UInt8) (h₁ h₂ h₃ : List Dispatch) (a b : Dispatch),
      k.kind.isMutating = true → h = h₁ ++ a :: h₂ ++ b :: h₃ →
      (a.Sends k fingerprint → b.Sends k fingerprint →
        (∃ q ∈ h₂, q.AnsweredUnknown k fingerprint) ∨
        ∃ c ∈ a :: h₂, c.Completes k fingerprint ∧ c.markedAt + retention + horizon < b.routedAt) ∧
      (a.Executes k fingerprint → b.Executes k fingerprint →
        ∃ c ∈ a :: h₂, c.Completes k fingerprint ∧
          c.markedAt + retention + horizon < b.routedAt) := by
  intro k fingerprint h₁ h₂ h₃ a b hk heq
  obtain ⟨hplain, hanswered⟩ := answered_run run
  have hsent : a.Sends k fingerprint → b.Sends k fingerprint →
      (∃ q ∈ h₂, q.AnsweredUnknown k fingerprint) ∨
      ∃ c ∈ a :: h₂, c.Completes k fingerprint ∧ c.markedAt + retention + horizon < b.routedAt := by
    intro ha hb
    rcases sent_again (heq ▸ hplain) hk ha hb with
      ⟨d, hd, hunknown | ⟨hmutating, herrs⟩⟩ | hexpired
    · rcases mem_cons.mp hd with rfl | hd
      · obtain ⟨-, reply, hcall⟩ := ha
        rw [hunknown.2] at hcall
        cases hcall
      · exact .inl ⟨d, hd, hunknown⟩
    · have hmem : d ∈ h := by
        rw [heq]
        exact mem_append_left _ (mem_append_right _ hd)
      exact absurd herrs (hanswered d hmem hmutating)
    · exact .inr hexpired
  refine ⟨hsent, fun ha hb => ?_⟩
  rcases hsent ha.1 hb.1 with ⟨q, hq, hunknown⟩ | hexpired
  · -- the remote knows what it has executed
    obtain ⟨m₁, m₂, rfl⟩ := append_of_mem hq
    have hsplit : h = (h₁ ++ a :: m₁) ++ q :: (m₂ ++ b :: h₃) := by simp [heq]
    obtain ⟨_, _, -, hstep⟩ := hplain.split hsplit
    exact absurd ha (hstep.peer.unaware k fingerprint hunknown a (by simp))
  · exact hexpired

end

namespace Sample

open OperationRouter.Sample

/-- The node of the sample request, registered by its principal. -/
def node : RemoteNodeEntry where
  summary := ⟨register.node, register.realm, .fullHost, .empty⟩
  gatewayPrincipal := register.principal
  gatewayNode := ⟨"gateway-1", by decide⟩
  substrateAdapter := ⟨"substrate-1", by decide⟩
  generation := ⟨"boot-1", by decide⟩
  capabilityFingerprint := ""
  availability := .available
  lastHeartbeat := 0

def registry : RemoteNodeRegistry :=
  ⟨register.realm, (∅ : BTreeMap _ _).insert (toLex (register.realm, register.node)) node, 1, 30⟩

def adapter : RemoteFullHostAdapter := ⟨registry, ⟨10, 20, 4, ∅⟩, register.principal, .empty⟩

/-- The error of a peer that is gone before its reply arrives. -/
def unavailable : RemoteNodeError := .new .nodeUnavailable

/-- An attempt at the sample request that is sent and executed. -/
def attempt (key : IdempotencyKey) (now : Nat) (reply : Except RemoteNodeError OpaquePayload) :
    Dispatch where
  registry := registry
  routedAt := now
  markedAt := now
  req := { register with idempotencyKey := some key }
  generation := node.generation
  client := ⟨fun _ _ => reply, fun _ _ => .ok .unknown⟩
  call := some (.sent reply)
  executed := true

def keyA : IdempotencyKey := ⟨"attempt-a", by decide⟩

def keyB : IdempotencyKey := ⟨"attempt-b", by decide⟩

def keyC : IdempotencyKey := ⟨"attempt-c", by decide⟩

lemma executes_attempt (key : IdempotencyKey) (now : Nat)
    (reply : Except RemoteNodeError OpaquePayload) :
    (attempt key now reply).Executes (.forRequest register key)
      (attempt key now reply).req.dedupFingerprintInput :=
  ⟨⟨⟨rfl, rfl⟩, reply, rfl⟩, rfl⟩

section

variable (h : List Dispatch) (a : RemoteFullHostAdapter) (key : IdempotencyKey) (now : Nat)

lemma step_attempt (reply : Except RemoteNodeError OpaquePayload)
    (hlater : ∀ e ∈ h, e.markedAt ≤ now)
    (hcall : (a.perform (attempt key now reply)).call = some (.sent reply)) :
    Step h a (attempt key now reply) (a.perform (attempt key now reply)).adapter where
  later := hlater
  marked := Nat.le_refl _
  peer := ⟨fun _ _ => rfl, fun _ _ hunknown => nomatch hunknown.2⟩
  call := hcall
  after := rfl

lemma answeredStep_attempt (result : OpaquePayload) (hlater : ∀ e ∈ h, e.markedAt ≤ now)
    (hcall : (a.perform (attempt key now (.ok result))).call = some (.sent (.ok result))) :
    AnsweredStep h a (attempt key now (.ok result))
      (a.perform (attempt key now (.ok result))).adapter := by
  refine ⟨step_attempt h a key now _ hlater hcall, ?_⟩
  rintro - ⟨e, hcall | hcall⟩ <;> cases hcall

end

end Sample

open Sample OperationRouter.Sample in
/-- The remote executes the request and its reply is lost; the next attempt
sends the request again at once, and the remote executes it again. -/
theorem exists_blind_resend : ∃ (a b : Dispatch) (s : RemoteFullHostAdapter) (k : DedupKey)
    (fingerprint : List UInt8), Trace.Run (HasLimits 10 20) Step [a, b] s ∧
    k.kind.isMutating = true ∧ a.Executes k fingerprint ∧ b.Executes k fingerprint ∧
    ¬a.Completes k fingerprint ∧ b.routedAt = 0 := by
  have start : Trace.Run (HasLimits 10 20) Step [] adapter := .nil ⟨rfl, rfl⟩
  have lost := start.snoc
    (step_attempt _ _ keyA 0 (.error unavailable) (by simp) (by decide +kernel))
  have resent := lost.snoc
    (step_attempt _ _ keyA 0 (.ok payload) (by simp [attempt]) (by decide +kernel))
  refine ⟨_, _, _, _, _, resent, rfl, executes_attempt keyA _ _, executes_attempt keyA _ _, ?_, rfl⟩
  rintro ⟨-, result, hcall | hcall⟩ <;> cases hcall

open Sample OperationRouter.Sample in
/-- The request is completed; other requests age its record into a tombstone
and drop it, and the request is executed again. -/
theorem no_blind_resend_expired : ∃ a d : Dispatch, ∃ h : List Dispatch,
    ∃ fingerprint : List UInt8, a.Executes (.forRequest register keyA) fingerprint ∧
      d.Executes (.forRequest register keyA) fingerprint ∧
      ∃ c ∈ a :: h, c.Completes (.forRequest register keyA) fingerprint ∧
        c.markedAt + 10 + 20 < d.routedAt := by
  have start : Trace.Run (HasLimits 10 20) AnsweredStep [] adapter := .nil ⟨rfl, rfl⟩
  have sent := start.snoc (answeredStep_attempt _ _ keyA 0 payload (by simp) (by decide +kernel))
  have aged := sent.snoc
    (answeredStep_attempt _ _ keyB 12 payload (by simp [attempt]) (by decide +kernel))
  have dropped := aged.snoc
    (answeredStep_attempt _ _ keyC 40 payload (by simp [attempt]) (by decide +kernel))
  have again := dropped.snoc
    (answeredStep_attempt _ _ keyA 40 payload (by simp [attempt]) (by decide +kernel))
  have first := executes_attempt keyA 0 (.ok payload)
  have second := executes_attempt keyA 40 (.ok payload)
  exact ⟨_, _, _, _, first, second, (no_blind_resend again _ _ [] _ [] _ _ rfl rfl).2 first second⟩

end RemoteFullHostAdapter

end RealmRouter

end D2b

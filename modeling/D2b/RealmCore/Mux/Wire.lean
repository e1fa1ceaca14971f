import D2b.RealmCore.Mux.Calls

/-!
# D2b.RealmCore.Mux.Wire

Two muxes connected by reliable FIFO channels.  Each endpoint acts on its own
and sends the frames its calls produce, or applies the next frame that was
sent to it.  What happens to one stream is a run of `CreditStream`, whose law
then says what the two endpoints' counters have to do with each other and
with the frames under way.
-/

namespace D2b

open CreditStream Function StreamFrame List Option

/-! ## two endpoints -/

/-- Two endpoints, and the frames on their way to each. -/
structure Wire where
  mux : Side → StreamMux
  inbox : Side → List StreamFrame

/-- A step of the wire: a call at an endpoint with the frame it sent, or a
frame applied at an endpoint. -/
inductive WireEvent where
  | called (side : Side) (call : SessionCall) (frame : Option StreamFrame)
  | applied (side : Side) (frame : StreamFrame)
      (admission : Except ConstellationError CapabilitySet)

namespace Wire

/-- Two new endpoints, with any caps. -/
def IsNew (w : Wire) : Prop :=
  ∀ b, w.inbox b = [] ∧ ∃ maxOpen maxClosed, w.mux b = .withLimits maxOpen maxClosed

inductive Step (w : Wire) : WireEvent → Wire → Prop
  | called (b : Side) (call : SessionCall) :
      Step w (.called b call (sent (call.run.exec (w.mux b)).1))
        ⟨update w.mux b (call.run.exec (w.mux b)).2,
          update w.inbox b.other (w.inbox b.other ++ (sent (call.run.exec (w.mux b)).1).toList)⟩
  | applied (b : Side) (frame : StreamFrame) (rest : List StreamFrame)
      (admission : Except ConstellationError CapabilitySet) (hinbox : w.inbox b = frame :: rest) :
      Step w (.applied b frame admission)
        ⟨update w.mux b ((applyInbound admission frame).exec (w.mux b)).2, update w.inbox b rest⟩

def RunStep (_ : List WireEvent) (w : Wire) (e : WireEvent) (w' : Wire) : Prop := Step w e w'

def streamView (k : StreamId) (w : Wire) : State StreamKind (StreamChannel × Option StreamCursor) :=
  ⟨fun b => (w.mux b).view k, fun b => (w.inbox b).filterMap (viewFor k)⟩

end Wire

namespace WireEvent

/-- A step as one stream sees it. -/
def labelFor (k : StreamId) : WireEvent → Label StreamKind (StreamChannel × Option StreamCursor)
  | called side _ frame => .acted side (frame.bind (viewFor k))
  | applied side frame _ => if frame.stream = k then .took side else .acted side none

/-- Whether the step opens the stream `k`. -/
def opens (k : StreamId) : WireEvent → Bool
  | called _ _ (some (.streamOpen opening)) => decide (opening.descriptor.id = k)
  | _ => false

/-- The credit that the endpoint `b` grants on the stream `k` in this step. -/
def grants (b : Side) (k : StreamId) : WireEvent → Nat
  | called side _ (some (.streamFlow flow)) =>
    if side = b ∧ flow.stream = k then flow.credits.toNat else 0
  | _ => 0

end WireEvent

/-! ## one stream of the wire -/

section

variable {w : Wire} {e : WireEvent} {h : List WireEvent} {k : StreamId}

lemma Wire.streamView_inbox (b : Side) :
    (w.streamView k).inbox b = (w.inbox b).filterMap (viewFor k) := rfl

lemma Wire.streamView_update (b : Side) (mux : StreamMux) :
    Wire.streamView k ⟨update w.mux b mux, update w.inbox c l⟩ =
      ⟨update (w.streamView k).ends b (mux.view k),
        update (w.streamView k).inbox c (l.filterMap (viewFor k))⟩ := by
  have hends : (fun d => (update w.mux b mux d).view k) =
      update (w.streamView k).ends b (mux.view k) := comp_update (StreamMux.view · k) w.mux b mux
  have hinbox : (fun d => (update w.inbox c l d).filterMap (viewFor k)) =
      update (w.streamView k).inbox c (l.filterMap (viewFor k)) := comp_update _ w.inbox c l
  exact congrArg₂ _ hends hinbox

/-- Each step of the wire is a step of each stream. -/
lemma Wire.Step.stream (hstep : Wire.Step w e w') :
    CreditStream.Step counterMax chunkValid (w.streamView k) (e.labelFor k) (w'.streamView k) := by
  cases hstep with
  | called b call =>
    have hsent : (w.inbox b.other ++ (sent (call.run.exec (w.mux b)).1).toList).filterMap
        (viewFor k) = (w.streamView k).inbox b.other ++
          ((sent (call.run.exec (w.mux b)).1).bind (viewFor k)).toList := by
      rw [filterMap_append, streamView_inbox]
      cases sent (call.run.exec (w.mux b)).1 with
      | none => rfl
      | some frame =>
        rw [bind_some, toList_some, filterMap_cons]
        cases frame.viewFor k <;> rfl
    rw [streamView_update, hsent]
    exact .acts (acts_run call)
  | applied b frame rest admission hinbox =>
    rw [streamView_update, WireEvent.labelFor]
    have hold := streamView_inbox (w := w) (k := k) b
    rw [hinbox] at hold
    by_cases hk : frame.stream = k
    · rw [filterMap_cons_some (viewFor_of_eq frame hk)] at hold
      rw [if_pos hk]
      exact .takes hold (takes_applyInbound admission frame hk)
    · rw [filterMap_cons_none (viewFor_of_ne frame hk)] at hold
      have hacts : Acts ((w.streamView k).ends b) none
          (((applyInbound admission frame).exec (w.mux b)).2.view k) :=
        acts_applyInbound admission frame hk
      have hstep := Step.acts hacts
      rw [toList_none, append_nil, update_eq_self] at hstep
      rwa [if_neg hk, ← hold, update_eq_self]

lemma Wire.stream_run (run : Trace.Run Wire.IsNew Wire.RunStep h w) :
    Trace.Run State.init (CreditStream.RunStep (WireEvent.labelFor k) counterMax chunkValid) h
      (w.streamView k) := by
  refine run.map ?_ fun _ _ _ _ _ hstep => Wire.Step.stream hstep
  intro w hnew b
  obtain ⟨hinbox, maxOpen, maxClosed, hmux⟩ := hnew b
  refine ⟨?_, by rw [streamView_inbox, hinbox]; rfl⟩
  simp [streamView, hmux, StreamMux.view, StreamMux.withLimits]

lemma WireEvent.labelFor_called :
    (called side call (some frame)).labelFor k =
      .acted side (if frame.stream = k then some frame.view else none) := rfl

lemma WireEvent.labelFor_applied :
    (applied side frame admission).labelFor k =
      if frame.stream = k then .took side else .acted side none := rfl

lemma WireEvent.opens_eq : (e.labelFor k).opens = e.opens k := by
  rcases e with ⟨side, call, _ | frame⟩ | ⟨side, frame, admission⟩
  · rfl
  · rw [labelFor_called]
    by_cases hk : frame.stream = k
    · rw [if_pos hk]
      cases frame with
      | streamOpen opening => exact (decide_eq_true hk).symm
      | streamData | streamFlow | streamClose => rfl
    · rw [if_neg hk]
      cases frame with
      | streamOpen opening => exact (decide_eq_false hk).symm
      | streamData | streamFlow | streamClose => rfl
  · rw [labelFor_applied]
    split <;> rfl

lemma WireEvent.grants_eq : (e.labelFor k).grants b = e.grants b k := by
  rcases e with ⟨side, call, _ | frame⟩ | ⟨side, frame, admission⟩
  · rfl
  · rw [labelFor_called]
    by_cases hk : frame.stream = k
    · rw [if_pos hk]
      cases frame with
      | streamFlow flow =>
        have hstream : flow.stream = k := hk
        simp [Label.grants, view, Frame.credits, grants, hstream]
      | streamOpen | streamData | streamClose =>
        simp [Label.grants, view, Frame.credits, grants]
    · rw [if_neg hk]
      cases frame with
      | streamFlow flow => exact (if_neg fun h => hk h.2).symm
      | streamOpen | streamData | streamClose => rfl
  · rw [labelFor_applied]
    split <;> rfl

/-- How often the stream `k` is opened in a history. -/
def opensOf (k : StreamId) (h : List WireEvent) : Nat := h.countP fun e => e.opens k

/-- The credit that the endpoint `b` granted on the stream `k` in a history. -/
def grantedBy (b : Side) (k : StreamId) (h : List WireEvent) : Nat :=
  (h.map fun e => e.grants b k).sum

lemma opened_labelFor : opened (WireEvent.labelFor k) h = opensOf k h := by
  simp only [opened, opensOf, WireEvent.opens_eq]

lemma granted_labelFor (b : Side) : granted (WireEvent.labelFor k) b h = grantedBy b k h := by
  simp only [granted, grantedBy, WireEvent.grants_eq]

namespace Wire

/-- The chunks of `k` on their way to the endpoint `b`. -/
def dataInFlight (w : Wire) (b : Side) (k : StreamId) : Nat :=
  (w.inbox b).countP fun
    | .streamData data => data.stream = k
    | _ => false

/-- The credit for `k` on its way to the endpoint `b`. -/
def creditInFlight (w : Wire) (b : Side) (k : StreamId) : Nat :=
  ((w.inbox b).map fun
    | .streamFlow flow => if flow.stream = k then flow.credits.toNat else 0
    | _ => 0).sum

/-- The stream open of `k` is on its way to the endpoint `b`. -/
def OpenInFlight (w : Wire) (b : Side) (k : StreamId) : Prop :=
  ∃ opening, .streamOpen opening ∈ w.inbox b ∧ opening.descriptor.id = k

/-- The credit that the endpoint `b` may spend on `k`. -/
def sendCredit (w : Wire) (b : Side) (k : StreamId) : Nat :=
  ((w.mux b).streams[k]?.map (·.sendCredit.toNat)).getD 0

/-- The number of the next chunk that the endpoint `b` sends on `k`. -/
def nextSendSeq (w : Wire) (b : Side) (k : StreamId) : Nat :=
  ((w.mux b).streams[k]?.map (·.nextSendSeq.toNat)).getD 0

lemma length_numbers_streamView (b : Side) :
    (numbers ((w.streamView k).inbox b)).length = w.dataInFlight b k := by
  rw [streamView_inbox]
  unfold dataInFlight
  induction w.inbox b with
  | nil => rfl
  | cons frame l ih =>
    by_cases hk : frame.stream = k
    · rw [filterMap_cons_some (viewFor_of_eq frame hk),
        numbers_cons, length_append, ih, countP_cons]
      cases frame with
      | streamData data =>
        have hstream : data.stream = k := hk
        simp [view, Frame.number, hstream, Nat.add_comm]
      | streamOpen | streamFlow | streamClose =>
        simp [view, Frame.number]
    · rw [filterMap_cons_none (viewFor_of_ne frame hk), ih, countP_cons]
      cases frame with
      | streamData data =>
        have hstream : data.stream ≠ k := hk
        simp [hstream]
      | streamOpen | streamFlow | streamClose => simp

lemma credits_streamView (b : Side) :
    credits ((w.streamView k).inbox b) = w.creditInFlight b k := by
  rw [streamView_inbox]
  unfold creditInFlight
  induction w.inbox b with
  | nil => rfl
  | cons frame l ih =>
    by_cases hk : frame.stream = k
    · rw [filterMap_cons_some (viewFor_of_eq frame hk), credits_cons, ih, map_cons, sum_cons]
      cases frame with
      | streamFlow flow =>
        have hstream : flow.stream = k := hk
        simp [view, Frame.credits, hstream]
      | streamOpen | streamData | streamClose => rfl
    · rw [filterMap_cons_none (viewFor_of_ne frame hk), ih, map_cons, sum_cons]
      cases frame with
      | streamFlow flow =>
        have hstream : flow.stream ≠ k := hk
        simp [hstream]
      | streamOpen | streamData | streamClose => exact (Nat.zero_add _).symm

lemma OpenInFlight.view (hopen : w.OpenInFlight b k) :
    ∃ kind, .opens kind ∈ (w.streamView k).inbox b := by
  obtain ⟨opening, hmem, hk⟩ := hopen
  exact ⟨opening.descriptor.kind, List.mem_filterMap.mpr
    ⟨.streamOpen opening, hmem, viewFor_of_eq (.streamOpen opening) hk⟩⟩

lemma sendCredit_eq (b : Side) :
    CreditStream.sendCredit ((w.streamView k).ends b) = w.sendCredit b k := by
  unfold CreditStream.sendCredit sendCredit streamView StreamMux.view
  rw [Option.map_map]
  rfl

lemma nextSendSeq_eq (b : Side) :
    CreditStream.next ((w.streamView k).ends b) = w.nextSendSeq b k := by
  unfold CreditStream.next nextSendSeq streamView StreamMux.view
  rw [Option.map_map]
  rfl

end Wire

lemma Wire.law (run : Trace.Run Wire.IsNew Wire.RunStep h w) (honce : opensOf k h ≤ 1)
    (hgranted : ∀ b, grantedBy b k h < 2 ^ 64) (hr : (w.mux b).openEntry k = .ok r) :
    Law chunkValid ((w.streamView k).ends b.other) ((w.streamView k).inbox b)
      ((w.streamView k).inbox b.other) (grantedBy b k h) r.view ∧
    ∀ kind, .opens kind ∈ (w.streamView k).inbox b.other →
      (w.streamView k).ends b.other = none ∧ r.view.expected = 0 ∧ (w.streamView k).inbox b = [] ∧
      r.view.recvCredit = credits ((w.streamView k).inbox b.other) := by
  obtain ⟨hview, hopen⟩ := view_of_openEntry hr
  rw [← granted_labelFor]
  refine law_of_run (Wire.stream_run run) (opened_labelFor.trans_le honce) ?_ hview
    hopen
  intro c
  rw [granted_labelFor]
  exact Nat.le_sub_one_of_lt (hgranted c)

/-- Two endpoints, a stream that is opened at most once, and fewer than 2^64
credits granted by each.  While the stream is open at the receiver, the credit
it expects to be spent is at least what the sender holds, what is under way to
the sender, and the chunks under way; and it is exactly that as long as the
sender has the stream open too, or has yet to be told of it.  The sender's
next number is the receiver's, the chunks under way counted.  A chunk that
arrives is refused only because the receiver has closed the stream, or does
not know it. -/
theorem Wire.credit_conserved (run : Trace.Run Wire.IsNew Wire.RunStep h w) (k : StreamId)
    (honce : opensOf k h ≤ 1) (hgranted : ∀ b, grantedBy b k h < 2 ^ 64) (b : Side) :
    (∀ r, (w.mux b).openEntry k = .ok r →
      w.sendCredit b.other k + w.dataInFlight b k + w.creditInFlight b.other k ≤
        r.recvCredit.toNat ∧
      ((∃ s, (w.mux b.other).openEntry k = .ok s) ∨ w.OpenInFlight b.other k →
        r.recvCredit.toNat =
          w.sendCredit b.other k + w.dataInFlight b k + w.creditInFlight b.other k) ∧
      ((∃ s, (w.mux b.other).streams[k]? = some s) ∨ w.OpenInFlight b.other k →
        w.nextSendSeq b.other k = r.expectedSeq.toNat + w.dataInFlight b k)) ∧
    ∀ data rest, w.inbox b = .streamData data :: rest → data.stream = k →
      ((StreamMux.acceptData data).exec (w.mux b)).1 = ((w.mux b).openEntry k).map fun _ => () := by
  constructor
  · intro r hr
    obtain ⟨hlaw, hpending⟩ := Wire.law run honce hgranted hr
    have hle := hlaw.credit_le
    rw [Wire.sendCredit_eq, Wire.length_numbers_streamView, Wire.credits_streamView] at hle
    -- nothing was spent while the open is under way
    have hstart : w.OpenInFlight b.other k → w.sendCredit b.other k = 0 ∧
        w.nextSendSeq b.other k = 0 ∧ r.expectedSeq.toNat = 0 ∧ w.dataInFlight b k = 0 ∧
        r.recvCredit.toNat = w.creditInFlight b.other k := by
      intro hopen
      obtain ⟨kind, hmem⟩ := hopen.view
      obtain ⟨hnone, hexpected, hinbox, hcredit⟩ := hpending kind hmem
      rw [← Wire.sendCredit_eq, ← Wire.nextSendSeq_eq, ← Wire.length_numbers_streamView,
        ← Wire.credits_streamView, hnone, hinbox]
      exact ⟨rfl, rfl, hexpected, rfl, hcredit⟩
    refine ⟨hle, ?_, ?_⟩
    · rintro (⟨s, hs⟩ | hopen)
      · obtain ⟨hview, hopen⟩ := view_of_openEntry hs
        have heq := hlaw.credit_eq s.view hview hopen
        have hcredit := Wire.sendCredit_eq (w := w) (k := k) b.other
        rw [show (w.streamView k).ends b.other = some s.view from hview, sendCredit_some] at hcredit
        rw [hcredit, Wire.length_numbers_streamView, Wire.credits_streamView] at heq
        exact heq.symm
      · obtain ⟨hcredit, -, -, hdata, heq⟩ := hstart hopen
        omega
    · rintro (⟨s, hs⟩ | hopen)
      · have hview : (w.streamView k).ends b.other = some s.view := congrArg (Option.map _) hs
        have heq := hlaw.next_eq s.view hview
        have hnext := Wire.nextSendSeq_eq (w := w) (k := k) b.other
        rw [hview, next_some] at hnext
        rwa [hnext, Wire.length_numbers_streamView] at heq
      · obtain ⟨-, hnext, hexpected, hdata, -⟩ := hstart hopen
        omega
  · intro data rest hinbox hk
    subst hk
    cases hentry : (w.mux b).openEntry data.stream with
    | error e =>
      rw [StreamMux.exec_acceptData_of_error data hentry]
      rfl
    | ok r =>
      obtain ⟨hlaw, -⟩ := Wire.law run honce hgranted hentry
      have hhead := Wire.streamView_inbox (w := w) (k := data.stream) b
      have hmine : (streamData data).viewFor data.stream =
        some (streamData data).view := viewFor_of_eq _ rfl
      rw [hinbox, filterMap_cons_some hmine] at hhead
      rw [hhead] at hlaw
      obtain ⟨hchunk, hseq, hcredit⟩ := hlaw.head
      have haccepts : StreamMux.Accepts r data := by
        refine ⟨hchunk, UInt64.toNat_inj.mp hseq, ?_⟩
        rintro hzero
        simp [StreamEntry.view, hzero] at hcredit
      rw [StreamMux.exec_acceptData data hentry haccepts]
      rfl

end

namespace Wire.Sample

def stream : StreamId := ⟨"stream-1", by decide⟩

def opening : StreamOpen :=
  ⟨⟨stream, .pty⟩, SmallRealm.operation, .forKind ⟨"wire-user", by decide⟩ SmallRealm.work .pty⟩

def capabilities : CapabilitySet := ⟨{.pty}, ∅⟩

def start : Wire := ⟨fun _ => .withLimits 4 4, fun _ => []⟩

/-- The entry of the stream with these counters. -/
def entry (expectedSeq recvCredit nextSendSeq sendCredit : UInt64) : StreamEntry :=
  ⟨.pty, SmallRealm.operation, .opened, none, expectedSeq, recvCredit, nextSendSeq, sendCredit⟩

lemma run_start : Trace.Run IsNew RunStep [] start := .nil fun _ => ⟨rfl, 4, 4, rfl⟩

end Wire.Sample

open Wire.Sample in
/-- The right endpoint grants three chunks; the left one has sent one of them. -/
theorem Wire.credit_conserved_chunk : ∃ (h : List WireEvent) (w : Wire),
    Trace.Run Wire.IsNew Wire.RunStep h w ∧ opensOf stream h = 1 ∧
    (w.mux .right).openEntry stream = .ok (entry 0 3 0 0) ∧ w.dataInFlight .right stream = 1 ∧
    3 = w.sendCredit .left stream + w.dataInFlight .right stream +
      w.creditInFlight .left stream := by
  have opened := run_start.snoc (Step.called .left (.openStream opening capabilities))
  have taken := opened.snoc
    (Step.applied .right (.streamOpen opening) [] (.ok capabilities) (by decide +kernel))
  have granted := taken.snoc (Step.called .right (.grantInbound stream 3))
  have received := granted.snoc
    (Step.applied .left (.streamFlow ⟨stream, 3⟩) [] (.ok capabilities) (by decide +kernel))
  have sent := received.snoc (Step.called .left (.sendData stream .primary ⟨[7], by decide⟩))
  have entries := (Wire.credit_conserved sent stream (by decide +kernel)
    (by rintro (_ | _) <;> decide +kernel) .right).1 (entry 0 3 0 0) (by decide +kernel)
  exact ⟨_, _, sent, by decide +kernel, by decide +kernel, by decide +kernel,
    entries.2.1 (.inl ⟨entry 0 0 1 2, by decide +kernel⟩)⟩

open Wire.Sample in
/-- The left endpoint closes while the right one grants: the credit arrives at
a closed stream and is refused. -/
theorem Wire.exists_credit_lost : ∃ (h : List WireEvent) (w : Wire) (r : StreamEntry),
    Trace.Run Wire.IsNew Wire.RunStep h w ∧ opensOf stream h = 1 ∧
    (w.mux .right).openEntry stream = .ok r ∧
    r.recvCredit.toNat ≠ w.sendCredit .left stream + w.dataInFlight .right stream +
      w.creditInFlight .left stream := by
  have opened := run_start.snoc (Step.called .left (.openStream opening capabilities))
  have taken := opened.snoc
    (Step.applied .right (.streamOpen opening) [] (.ok capabilities) (by decide +kernel))
  have closed := taken.snoc (Step.called .left (.closeStream stream .completed))
  have granted := closed.snoc (Step.called .right (.grantInbound stream 3))
  have refused := granted.snoc
    (Step.applied .left (.streamFlow ⟨stream, 3⟩) [] (.ok capabilities) (by decide +kernel))
  exact ⟨_, _, entry 0 3 0 0, refused, by decide +kernel, by decide +kernel, by decide +kernel⟩

end D2b

import D2b.Lib.CreditStream
import D2b.RealmCore.Mux

/-!
# D2b.RealmCore.Mux.Calls

What the calls of the mux do to one stream.  Each call is specified by what it
does to the counters of every stream, and is then a step of the credit
protocol of `CreditStream`: a call of the endpoint, as `MuxSession` makes it
with the frame it sends, acts, and a frame of the peer is taken.
-/

namespace D2b

open Command StreamMux Option

/-! ## what a call does to one stream -/

namespace StreamEntry

/-- What the credit protocol sees of an entry. -/
def view (entry : StreamEntry) : CreditStream.Entry StreamKind where
  kind := entry.kind
  isOpen := decide (entry.state = .opened)
  expected := entry.expectedSeq.toNat
  recvCredit := entry.recvCredit.toNat
  next := entry.nextSendSeq.toNat
  sendCredit := entry.sendCredit.toNat

end StreamEntry

/-- Counters are 64-bit words. -/
def counterMax : Nat := 2 ^ 64 - 1

/-- What makes a chunk acceptable for a kind: its channel and its cursor. -/
def chunkValid (kind : StreamKind) (chunk : StreamChannel × Option StreamCursor) : Bool :=
  channelValidForKind kind chunk.1 && (chunk.2.isNone || decide (kind = .logs))

attribute [local simp] StreamEntry.view

namespace StreamMux

/-- What the credit protocol sees of a stream. -/
def view (mux : StreamMux) (k : StreamId) : Option (CreditStream.Entry StreamKind) :=
  mux.streams[k]?.map StreamEntry.view

lemma openEntry_eq_ok {mux : StreamMux} :
    mux.openEntry stream = .ok entry ↔
      mux.streams[stream]? = some entry ∧ entry.state = .opened := by
  unfold openEntry
  cases hget : mux.streams[stream]? with
  | none => simp
  | some entry' =>
    by_cases hopen : entry'.state = .opened
    · simp only [hopen, if_true, Except.ok.injEq, Option.some.injEq]
      constructor
      · rintro rfl
        exact ⟨rfl, hopen⟩
      · exact fun h => h.1
    · simp only [if_neg hopen, reduceCtorEq, false_iff, Option.some.injEq]
      rintro ⟨rfl, hopen'⟩
      exact hopen hopen'

lemma view_setEntry (mux : StreamMux) (stream k : StreamId) (entry : StreamEntry) :
    (mux.setEntry stream entry).view k =
      if stream = k then some entry.view else mux.view k := by
  unfold view setEntry
  rw [BTreeMap.get_insert, apply_ite (Option.map StreamEntry.view)]
  rfl

lemma get_pruneClosed (maxClosed : Nat) (k : StreamId) :
    ∀ (order : List StreamId) (streams : BTreeMap StreamId StreamEntry),
      (pruneClosed maxClosed order streams).2[k]? = streams[k]? ∨
      (pruneClosed maxClosed order streams).2[k]? = none ∧
        ∃ entry, streams[k]? = some entry ∧ entry.state = .closed := by
  intro order
  induction order with
  | nil => exact fun streams => .inl rfl
  | cons old rest ih =>
    intro streams
    unfold pruneClosed
    by_cases hlong : (old :: rest).length > maxClosed
    · rw [if_pos hlong]
      by_cases hclosed : streams[old]?.any (·.state = .closed) = true
      · rw [if_pos hclosed]
        have hrest := ih (streams.erase old)
        rw [BTreeMap.get_erase] at hrest
        by_cases hk : old = k
        · subst hk
          rw [if_pos rfl] at hrest
          obtain ⟨entry, hentry, hstate⟩ := any_eq_true _ _ |>.mp hclosed
          refine .inr ⟨?_, entry, hentry, by simpa using hstate⟩
          rcases hrest with hrest | ⟨hrest, -⟩ <;> exact hrest
        · rwa [if_neg hk] at hrest
      · rw [if_neg hclosed]
        exact ih streams
    · rw [if_neg hlong]
      exact .inl rfl

/-- What a close does to the streams: the one it closes is closed, and closed
ones may be forgotten. -/
lemma view_closeEntry (mux : StreamMux) (stream k : StreamId) (entry : StreamEntry)
    (reason : StreamCloseReason) :
    let closed := { entry.view with isOpen := false }
    (stream = k → (mux.closeEntry stream entry reason).view k = none ∨
      (mux.closeEntry stream entry reason).view k = some closed) ∧
    (stream ≠ k → (mux.closeEntry stream entry reason).view k = mux.view k ∨
      (mux.closeEntry stream entry reason).view k = none ∧
        ∃ e, mux.view k = some e ∧ e.isOpen = false) := by
  have hprune := get_pruneClosed mux.maxClosed k (mux.closedOrder ++ [stream])
    (mux.streams.insert stream { entry with state := .closed, closeReason := some reason })
  have hget : (mux.closeEntry stream entry reason).streams = (pruneClosed mux.maxClosed
    (mux.closedOrder ++ [stream])
    (mux.streams.insert stream { entry with state := .closed, closeReason := some reason })).2 :=
  rfl
  unfold view
  rw [hget]
  rw [BTreeMap.get_insert] at hprune
  constructor
  · intro hk
    rw [if_pos hk] at hprune
    rcases hprune with hprune | ⟨hprune, -⟩
    · rw [hprune]
      exact .inr rfl
    · rw [hprune]
      exact .inl rfl
  · intro hk
    rw [if_neg hk] at hprune
    rcases hprune with hprune | ⟨hprune, e, he, hclosed⟩
    · rw [hprune]
      exact .inl rfl
    · rw [hprune, he]
      exact .inr ⟨rfl, e.view, rfl, by simp [hclosed]⟩

/-! ## what the calls do -/

section

variable {mux : StreamMux}

lemma ensures_openWithCapabilities (opening : StreamOpen) (capabilities : CapabilitySet) :
    (openWithCapabilities opening capabilities).Ensures mux fun _ mux' =>
      mux.streams[opening.descriptor.id]? = none ∧ mux.openStreamCount < mux.maxOpen ∧
      ∃ entry, entry.view = .fresh opening.descriptor.kind ∧
        mux' = { mux.setEntry opening.descriptor.id entry with
          openStreams := insert opening.descriptor.id mux.openStreams } := by
  unfold openWithCapabilities
  exact ensures_failIf_bind fun _ => ensures_failIf_bind fun _ =>
    ensures_get_bind (ensures_failIf_bind fun hnew => ensures_failIf_bind fun hroom =>
      (succeeds_modify ⟨BTreeMap.not_contains_iff_get.mp hnew, not_le.mp hroom, _, rfl,
        rfl⟩).ensures)

lemma ensures_grantInbound (stream : StreamId) (credits : UInt32) :
    (grantInbound stream credits).Ensures mux fun flow mux' => flow = ⟨stream, credits⟩ ∧
      ∃ entry, mux.openEntry stream = .ok entry ∧ mux' = mux.setEntry stream
        { entry with recvCredit := saturatingAdd entry.recvCredit credits.toUInt64 } := by
  unfold grantInbound
  exact ensures_failIf_bind fun _ => ensures_get_bind (ensures_ofExcept_bind fun entry hentry =>
    (succeeds_modify_pure ⟨rfl, entry, hentry, rfl⟩).ensures)

/-- A chunk is accepted by an open stream when its shape fits the kind, its
number is the next, and there is credit. -/
def Accepts (entry : StreamEntry) (data : StreamData) : Prop :=
  chunkValid entry.kind (data.channel, data.cursor) = true ∧
    data.sequence = entry.expectedSeq ∧ entry.recvCredit ≠ 0

lemma exec_acceptData (data : StreamData) {entry : StreamEntry}
    (hentry : mux.openEntry data.stream = .ok entry) (h : Accepts entry data) :
    (acceptData data).exec mux = (.ok (), mux.setEntry data.stream { entry with
      recvCredit := entry.recvCredit - 1, expectedSeq := entry.expectedSeq + 1 }) := by
  obtain ⟨hchunk, hseq, hcredit⟩ := h
  simp only [chunkValid, Bool.and_eq_true, Bool.or_eq_true, isNone_iff_eq_none,
    decide_eq_true_eq] at hchunk
  have hcursor : ¬(data.cursor.isSome = true ∧ entry.kind ≠ .logs) := by
    rintro ⟨hsome, hkind⟩
    rcases hchunk.2 with hnone | hlogs
    · rw [hnone] at hsome
      contradiction
    · exact hkind hlogs
  unfold acceptData
  rw [exec_get_bind, hentry, exec_ofExcept_ok_bind, exec_failIf_bind,
    if_neg (by rw [hchunk.1]; decide), exec_failIf_bind, if_neg hcursor, exec_failIf_bind,
    if_neg (not_not.mpr hseq), exec_failIf_bind, if_neg hcredit, exec_modify]

lemma exec_acceptData_of_error (data : StreamData) {e : ConstellationError}
    (hentry : mux.openEntry data.stream = .error e) :
    (acceptData data).exec mux = (.error e, mux) := by
  unfold acceptData
  rw [exec_get_bind, hentry, exec_ofExcept_error_bind]

lemma ensures_acceptData (data : StreamData) :
    (acceptData data).Ensures mux fun _ mux' => ∃ entry,
      mux.openEntry data.stream = .ok entry ∧ Accepts entry data ∧
      mux' = mux.setEntry data.stream { entry with
        recvCredit := entry.recvCredit - 1, expectedSeq := entry.expectedSeq + 1 } := by
  unfold acceptData
  refine ensures_get_bind (ensures_ofExcept_bind fun entry hentry =>
    ensures_failIf_bind fun hchannel => ensures_failIf_bind fun hcursor =>
      ensures_failIf_bind fun hseq => ensures_failIf_bind fun hcredit =>
        (succeeds_modify ⟨entry, hentry, ⟨?_, not_not.mp hseq, hcredit⟩, rfl⟩).ensures)
  simp only [chunkValid, Bool.and_eq_true, Bool.or_eq_true, isNone_iff_eq_none, decide_eq_true_eq]
  refine ⟨by simpa using hchannel, ?_⟩
  cases hc : data.cursor with
  | none => exact .inl rfl
  | some cursor =>
    rw [hc] at hcursor
    exact .inr (by simpa using hcursor)

lemma ensures_receiveFlow (flow : StreamFlow) :
    (receiveFlow flow).Ensures mux fun _ mux' => flow.credits ≠ 0 ∧ ∃ entry,
      mux.openEntry flow.stream = .ok entry ∧
      mux' = { mux.setEntry flow.stream
          { entry with sendCredit := saturatingAdd entry.sendCredit flow.credits.toUInt64 } with
        sendableStreams := if entry.sendCredit = 0 then insert flow.stream mux.sendableStreams
          else mux.sendableStreams } := by
  unfold receiveFlow
  exact ensures_failIf_bind fun hcredits => ensures_get_bind
    (ensures_ofExcept_bind fun entry hentry =>
      (succeeds_modify ⟨hcredits, entry, hentry, rfl⟩).ensures)

lemma ensures_reserveSend (stream : StreamId) (channel : StreamChannel) :
    (reserveSend stream channel).Ensures mux fun seq mux' => ∃ entry,
      mux.openEntry stream = .ok entry ∧ channelValidForKind entry.kind channel = true ∧
      entry.sendCredit ≠ 0 ∧ seq = entry.nextSendSeq ∧
      mux' = { mux.setEntry stream { entry with
          sendCredit := entry.sendCredit - 1, nextSendSeq := entry.nextSendSeq + 1 } with
        sendableStreams := if entry.sendCredit - 1 = 0 then mux.sendableStreams.erase stream
          else mux.sendableStreams } := by
  unfold reserveSend
  exact ensures_get_bind (ensures_ofExcept_bind fun entry hentry =>
    ensures_failIf_bind fun hchannel => ensures_failIf_bind fun hcredit =>
      (succeeds_modify_pure ⟨entry, hentry, by simpa using hchannel, hcredit, rfl, rfl⟩).ensures)

/-- The stream is open and is closed, or nothing changes. -/
def Closes (mux : StreamMux) (stream : StreamId) (mux' : StreamMux) : Prop :=
  ∃ entry reason, mux.openEntry stream = .ok entry ∧ mux' = mux.closeEntry stream entry reason

lemma ensures_close (closing : StreamClose) :
    (close closing).Ensures mux fun _ mux' => mux.Closes closing.stream mux' ∨
      mux' = mux ∧ ∃ entry, mux.streams[closing.stream]? = some entry ∧ entry.state = .closed := by
  unfold close
  refine ensures_get_bind (ensures_okOr_bind fun entry hentry => ?_)
  cases hstate : entry.state with
  | closed =>
    rw [if_pos rfl]
    exact ensures_failIf fun _ => .inr ⟨rfl, entry, hentry, hstate⟩
  | opened =>
    rw [if_neg (by decide)]
    exact (succeeds_modify (.inl ⟨entry, closing.reason,
      openEntry_eq_ok.mpr ⟨hentry, hstate⟩, rfl⟩)).ensures

lemma exec_close (closing : StreamClose) {entry : StreamEntry}
    (hentry : mux.openEntry closing.stream = .ok entry) :
    (close closing).exec mux = (.ok (), mux.closeEntry closing.stream entry closing.reason) := by
  obtain ⟨hget, hopen⟩ := openEntry_eq_ok.mp hentry
  unfold close
  rw [exec_get_bind, hget, exec_okOr_some_bind, hopen, if_neg (by decide), exec_modify]

lemma ensures_cancel (stream : StreamId) :
    (cancel stream).Ensures mux fun first mux' =>
      first = true ∧ mux.Closes stream mux' ∨ first = false ∧ mux' = mux := by
  unfold cancel
  refine ensures_get_bind ?_
  have hstays : (pure false : Command ConstellationError StreamMux Bool).Ensures mux
      fun first mux' => first = true ∧ mux.Closes stream mux' ∨ first = false ∧ mux' = mux :=
    .inr ⟨false, mux, rfl, .inr ⟨rfl, rfl⟩⟩
  cases hentry : mux.streams[stream]? with
  | none => exact hstays
  | some entry =>
    by_cases hstate : entry.state = .opened
    · simp only [if_pos hstate]
      refine (succeeds_modify_pure ?_).ensures
      exact .inl ⟨rfl, entry, .cancelled, openEntry_eq_ok.mpr ⟨hentry, hstate⟩, rfl⟩
    · simp only [if_neg hstate]
      exact hstays

end

end StreamMux

/-! ## endpoints -/

/-- The frames about streams. -/
inductive StreamFrame where
  | streamOpen (opening : StreamOpen)
  | streamData (data : StreamData)
  | streamFlow (flow : StreamFlow)
  | streamClose (closing : StreamClose)
deriving DecidableEq

namespace StreamFrame

def stream : StreamFrame → StreamId
  | streamOpen opening => opening.descriptor.id
  | streamData data => data.stream
  | streamFlow flow => flow.stream
  | streamClose closing => closing.stream

/-- What the credit protocol sees of a frame. -/
def view : StreamFrame → CreditStream.Frame StreamKind (StreamChannel × Option StreamCursor)
  | streamOpen opening => .opens opening.descriptor.kind
  | streamData data => .data data.sequence.toNat (data.channel, data.cursor)
  | streamFlow flow => .flow flow.credits.toNat
  | streamClose _ => .close

/-- The frame, if it is about the stream `k`. -/
def viewFor (k : StreamId) (frame : StreamFrame) :
    Option (CreditStream.Frame StreamKind (StreamChannel × Option StreamCursor)) :=
  if frame.stream = k then some frame.view else none

lemma viewFor_of_eq {k : StreamId} (frame : StreamFrame) (h : frame.stream = k) :
    frame.viewFor k = some frame.view := if_pos h

lemma viewFor_of_ne {k : StreamId} (frame : StreamFrame) (h : frame.stream ≠ k) :
    frame.viewFor k = none := if_neg h

end StreamFrame

inductive SessionCall where
  | openStream (opening : StreamOpen) (capabilities : CapabilitySet)
  | grantInbound (stream : StreamId) (credits : UInt32)
  | sendData (stream : StreamId) (channel : StreamChannel) (data : OpaquePayload)
  | closeStream (stream : StreamId) (reason : StreamCloseReason)
  | cancelStream (stream : StreamId)

/-- A call on the mux, and the frame that the session sends for it. -/
def SessionCall.run : SessionCall → Command ConstellationError StreamMux (Option StreamFrame)
  | openStream opening capabilities => do
    openWithCapabilities opening capabilities
    pure (some (.streamOpen opening))
  | grantInbound stream credits => do
    let flow ← StreamMux.grantInbound stream credits
    pure (some (.streamFlow flow))
  | sendData stream channel data => do
    let sequence ← reserveSend stream channel
    pure (some (.streamData ⟨stream, sequence, channel, none, data⟩))
  | closeStream stream reason => do
    close ⟨stream, reason⟩
    pure (some (.streamClose ⟨stream, reason⟩))
  | cancelStream stream => do
    let first ← cancel stream
    pure (if first then some (.streamClose ⟨stream, .cancelled⟩) else none)

/-- Apply a frame of the peer.  A stream open comes with what the session's
admission says of it: the negotiated capabilities, or a denial. -/
def applyInbound (admission : Except ConstellationError CapabilitySet) :
    StreamFrame → Command ConstellationError StreamMux Unit
  | .streamOpen opening => do
    let capabilities ← ofExcept admission
    openWithCapabilities opening capabilities
  | .streamData data => acceptData data
  | .streamFlow flow => receiveFlow flow
  | .streamClose closing => close closing

/-- The frame that a call sends: none when it fails. -/
def sent (result : Except ConstellationError (Option StreamFrame)) : Option StreamFrame :=
  match result with
  | .ok frame => frame
  | .error _ => none

/-! ## a call is a step of the credit protocol -/

section

open StreamFrame hiding view

/-- What an end of the credit protocol does, with the counters and the chunks of the mux. -/
abbrev Acts := CreditStream.Acts counterMax chunkValid

/-- What an end does with a frame it receives. -/
abbrev Takes := CreditStream.Takes counterMax chunkValid

variable {mux : StreamMux}

lemma view_of_openEntry {entry : StreamEntry} (h : mux.openEntry k = .ok entry) :
    mux.view k = some entry.view ∧ entry.view.isOpen = true := by
  obtain ⟨hget, hopen⟩ := openEntry_eq_ok.mp h
  exact ⟨by rw [view, hget, map_some], by simp [hopen]⟩

lemma pos_of_ne_zero {n : UInt64} (h : n ≠ 0) : 0 < n.toNat := by
  rw [Nat.pos_iff_ne_zero]
  exact fun hzero => h (UInt64.toNat_inj.mp hzero)

lemma toNat_pred {n : UInt64} (h : n ≠ 0) : (n - 1).toNat = n.toNat - 1 := by
  have hpos := pos_of_ne_zero h
  have hlt := n.toNat_lt
  rw [UInt64.toNat_sub]
  simp only [UInt64.toNat_one]
  omega

lemma toNat_succ (n : UInt64) : (n + 1).toNat = (n.toNat + 1) % (counterMax + 1) := by
  rw [UInt64.toNat_add]
  rfl

lemma view_spend {entry : StreamEntry} (h : entry.sendCredit ≠ 0) :
    { entry with sendCredit := entry.sendCredit - 1, nextSendSeq := entry.nextSendSeq + 1 }.view =
      { entry.view with sendCredit := entry.view.sendCredit - 1
                        next := (entry.view.next + 1) % (counterMax + 1) } := by
  simp only [StreamEntry.view, toNat_pred h, toNat_succ]

lemma view_receive {entry : StreamEntry} (h : entry.recvCredit ≠ 0) :
    { entry with recvCredit := entry.recvCredit - 1, expectedSeq := entry.expectedSeq + 1 }.view =
      { entry.view with recvCredit := entry.view.recvCredit - 1
                        expected := (entry.view.expected + 1) % (counterMax + 1) } := by
  simp only [StreamEntry.view, toNat_pred h, toNat_succ]

lemma view_grant (entry : StreamEntry) (credits : UInt32) :
    { entry with recvCredit := saturatingAdd entry.recvCredit credits.toUInt64 }.view =
      { entry.view with recvCredit := min (entry.view.recvCredit + credits.toNat) counterMax } := by
  simp [toNat_saturatingAdd, counterMax]

lemma view_flow (entry : StreamEntry) (credits : UInt32) :
    { entry with sendCredit := saturatingAdd entry.sendCredit credits.toUInt64 }.view =
      { entry.view with sendCredit := min (entry.view.sendCredit + credits.toNat) counterMax } := by
  simp [toNat_saturatingAdd, counterMax]

/-- A failed call does nothing. -/
lemma acts_of_ensures {α : Type} {m : Command ConstellationError StreamMux α}
    {f : α → Option StreamFrame} {Q : α → StreamMux → Prop} (h : m.Ensures mux Q)
    (hQ : ∀ a mux', Q a mux' → Acts (mux.view k) ((f a).bind (viewFor k)) (mux'.view k)) :
    Acts (mux.view k) ((sent ((m >>= fun a => pure (f a)).exec mux).1).bind (viewFor k))
      (((m >>= fun a => pure (f a)).exec mux).2.view k) := by
  rw [exec_bind]
  rcases h with ⟨e, he⟩ | ⟨a, mux', hexec, hq⟩
  · rw [he]
    exact .stays
  · rw [hexec]
    exact hQ a mux' hq

/-- An entry that is written is a step of its own stream. -/
lemma acts_of_setEntry {stream : StreamId} {entry : StreamEntry} (frame : StreamFrame)
    (hstream : frame.stream = stream)
    (h : Acts (mux.view stream) (some frame.view) (some entry.view)) :
    Acts (mux.view k) (frame.viewFor k) ((mux.setEntry stream entry).view k) := by
  rw [view_setEntry]
  by_cases hk : stream = k
  · rw [if_pos hk, viewFor_of_eq frame (hstream.trans hk), ← hk]
    exact h
  · rw [if_neg hk, viewFor_of_ne frame (hstream.trans_ne hk)]
    exact .stays

/-- A close is that of the stream, or lets a closed record go. -/
lemma acts_of_closes {stream : StreamId} {mux' : StreamMux} {reason : StreamCloseReason}
    (h : mux.Closes stream mux') :
    Acts (mux.view k) ((streamClose ⟨stream, reason⟩).viewFor k) (mux'.view k) := by
  obtain ⟨entry, reason', hentry, rfl⟩ := h
  obtain ⟨hsame, hother⟩ := view_closeEntry mux stream k entry reason'
  by_cases hk : stream = k
  · rw [viewFor_of_eq (.streamClose ⟨stream, reason⟩) hk]
    obtain ⟨hview, hopen⟩ := view_of_openEntry (hk ▸ hentry)
    rw [hview]
    exact .closes hopen (hsame hk)
  · rw [viewFor_of_ne (.streamClose ⟨stream, reason⟩) hk]
    rcases hother hk with hview | ⟨hview, e, he, hclosed⟩
    · rw [hview]
      exact .stays
    · rw [hview, he]
      exact .forgets hclosed

lemma acts_run (call : SessionCall) :
    Acts (mux.view k) ((sent (call.run.exec mux).1).bind (viewFor k))
      ((call.run.exec mux).2.view k) := by
  cases call with
  | openStream opening capabilities =>
    refine acts_of_ensures (ensures_openWithCapabilities opening capabilities) ?_
    rintro - mux' ⟨hnew, -, entry, hfresh, rfl⟩
    refine acts_of_setEntry (.streamOpen opening) rfl ?_
    rw [view, hnew, hfresh]
    exact .opens
  | grantInbound stream credits =>
    refine acts_of_ensures (ensures_grantInbound stream credits) ?_
    rintro flow mux' ⟨rfl, entry, hentry, rfl⟩
    obtain ⟨hold, hopen⟩ := view_of_openEntry hentry
    refine acts_of_setEntry (.streamFlow ⟨stream, credits⟩) rfl ?_
    rw [hold, view_grant]
    exact .grants hopen
  | sendData stream channel data =>
    refine acts_of_ensures (ensures_reserveSend stream channel) ?_
    rintro seq mux' ⟨entry, hentry, hvalid, hcredit, rfl, rfl⟩
    obtain ⟨hold, hopen⟩ := view_of_openEntry hentry
    have hchunk : chunkValid entry.view.kind (channel, none) = true := by
      simpa [chunkValid] using hvalid
    refine acts_of_setEntry (.streamData ⟨_, _, channel, none, data⟩) rfl ?_
    rw [hold, view_spend hcredit]
    exact .sends hopen hchunk (pos_of_ne_zero hcredit)
  | closeStream stream reason =>
    refine acts_of_ensures (ensures_close ⟨stream, reason⟩) ?_
    rintro - mux' (hcloses | ⟨rfl, entry, hentry, hclosed⟩)
    · exact acts_of_closes hcloses
    · rw [bind_some]
      by_cases hk : stream = k
      · have hview : mux'.view k = some entry.view := by
          rw [view, ← hk, hentry, map_some]
        rw [viewFor_of_eq (.streamClose ⟨stream, reason⟩) hk, hview]
        exact .repeats (by simp [hclosed])
      · rw [viewFor_of_ne (.streamClose ⟨stream, reason⟩) hk]
        exact .stays
  | cancelStream stream =>
    refine acts_of_ensures (ensures_cancel stream) ?_
    rintro first mux' (⟨rfl, hcloses⟩ | ⟨rfl, rfl⟩)
    · exact acts_of_closes hcloses
    · exact .stays

lemma ignores_of_openEntry {e : ConstellationError} {f : StreamFrame}
    (h : mux.openEntry k = .error e) :
    Takes (mux.view k) f.view (mux.view k) := by
  refine .ignores fun entry hentry => ?_
  obtain ⟨entry', hget, rfl⟩ := map_eq_some_iff.mp hentry
  simp only [StreamEntry.view, decide_eq_false_iff_not]
  intro hopen
  rw [openEntry_eq_ok.mpr ⟨hget, hopen⟩] at h
  contradiction

lemma takes_acceptData (data : StreamData) :
    Takes (mux.view data.stream) (streamData data).view
      (((acceptData data).exec mux).2.view data.stream) := by
  cases hentry : mux.openEntry data.stream with
  | error e =>
    rw [exec_acceptData_of_error data hentry]
    exact ignores_of_openEntry hentry
  | ok entry =>
    obtain ⟨hview, hopen⟩ := view_of_openEntry hentry
    by_cases haccepts : Accepts entry data
    · rw [exec_acceptData data hentry haccepts, view_setEntry, if_pos rfl,
        hview, view_receive haccepts.2.2]
      obtain ⟨hchunk, hseq, hcredit⟩ := haccepts
      exact .data hopen hchunk (congrArg UInt64.toNat hseq) (pos_of_ne_zero hcredit)
    · have hensures : (acceptData data).Ensures mux _ := ensures_acceptData data
      have hunchanged : ((acceptData data).exec mux).2 = mux := by
        rcases hensures with ⟨e, he⟩ | ⟨-, mux', -, entry', hentry', haccepts', -⟩
        · rw [he]
        · cases hentry.symm.trans hentry'
          exact absurd haccepts' haccepts
      rw [hunchanged, hview]
      refine .rejects fun hgood => haccepts ⟨hgood.1, UInt64.toNat_inj.mp hgood.2.1, ?_⟩
      intro hzero
      have hpos := hgood.2.2
      simp [hzero] at hpos

/-- A grant of nothing is refused, and would change nothing. -/
lemma view_flow_zero (entry : StreamEntry) :
    { entry.view with sendCredit := min (entry.view.sendCredit + 0) counterMax } = entry.view := by
  have hlt := entry.sendCredit.toNat_lt
  have hmin : min (entry.sendCredit.toNat + 0) counterMax = entry.sendCredit.toNat := by
    unfold counterMax
    omega
  simp only [StreamEntry.view, hmin]

lemma takes_receiveFlow (flow : StreamFlow) :
    Takes (mux.view flow.stream) (streamFlow flow).view
      (((receiveFlow flow).exec mux).2.view flow.stream) := by
  have hensures : (receiveFlow flow).Ensures mux _ := ensures_receiveFlow flow
  rcases hensures with ⟨e, he⟩ | ⟨_, mux', hexec, -, entry, hentry, rfl⟩
  · rw [he]
    cases hentry : mux.openEntry flow.stream with
    | error e' => exact ignores_of_openEntry hentry
    | ok entry =>
      obtain ⟨hview, hopen⟩ := view_of_openEntry hentry
      have hzero : flow.credits.toNat = 0 := by
        by_contra hne
        have hcredits : flow.credits ≠ 0 := fun hz => hne (congrArg UInt32.toNat hz)
        unfold receiveFlow at he
        rw [exec_failIf_bind, if_neg hcredits, exec_get_bind, hentry,
          exec_ofExcept_ok_bind, exec_modify] at he
        cases he
      have hflow : Takes (some entry.view) (.flow flow.credits.toNat) _ := .flow hopen
      rw [hzero, view_flow_zero] at hflow
      rw [hview, StreamFrame.view, hzero]
      exact hflow
  · obtain ⟨hview, hopen⟩ := view_of_openEntry hentry
    rw [hexec, hview]
    refine ((view_setEntry mux _ _ _).trans (if_pos rfl)).symm ▸ ?_
    rw [view_flow]
    exact .flow hopen

lemma takes_close (closing : StreamClose) :
    Takes (mux.view closing.stream) (streamClose closing).view
      (((close closing).exec mux).2.view closing.stream) := by
  have hensures : (close closing).Ensures mux _ := ensures_close closing
  cases hentry : mux.openEntry closing.stream with
  | error e =>
    have hunchanged : ((close closing).exec mux).2 = mux := by
      rcases hensures with ⟨e', he'⟩ | ⟨_, mux', hexec, ⟨entry, reason, hopen, -⟩ | ⟨rfl, -⟩⟩
      · rw [he']
      · rw [hentry] at hopen
        contradiction
      · rw [hexec]
    rw [hunchanged]
    exact ignores_of_openEntry hentry
  | ok entry =>
    obtain ⟨hview, hopen⟩ := view_of_openEntry hentry
    rw [exec_close closing hentry, hview]
    exact .close hopen ((view_closeEntry mux closing.stream closing.stream entry
      closing.reason).1 rfl)

lemma ensures_applyOpen (admission : Except ConstellationError CapabilitySet)
    (opening : StreamOpen) :
    (applyInbound admission (.streamOpen opening)).Ensures mux fun _ mux' =>
      mux.view opening.descriptor.id = none ∧
      ∀ k, mux'.view k = if opening.descriptor.id = k then some (.fresh opening.descriptor.kind)
        else mux.view k := by
  refine ensures_ofExcept_bind fun capabilities _ =>
    (ensures_openWithCapabilities opening capabilities).mono ?_
  rintro - mux' ⟨hnew, -, entry, hfresh, rfl⟩
  refine ⟨by rw [view, hnew, map_none], fun k => ?_⟩
  rw [← hfresh]
  exact view_setEntry mux _ k entry

lemma takes_applyInbound (admission : Except ConstellationError CapabilitySet)
    (frame : StreamFrame) (hk : frame.stream = k) :
    Takes (mux.view k) frame.view (((applyInbound admission frame).exec mux).2.view k) := by
  subst hk
  cases frame with
  | streamOpen opening =>
    have hensures : (applyInbound admission (.streamOpen opening)).Ensures mux _ :=
      ensures_applyOpen admission opening
    rcases hensures with ⟨e, he⟩ | ⟨_, mux', hexec, hnew, hview⟩
    · rw [he]
      exact .refusesOpen
    · rw [hexec, hview, StreamFrame.stream, if_pos rfl, hnew]
      exact .opens
  | streamData data => exact takes_acceptData data
  | streamFlow flow => exact takes_receiveFlow flow
  | streamClose closing => exact takes_close closing

/-- A failed frame does nothing. -/
lemma silent_of_ensures {m : Command ConstellationError StreamMux Unit} (h : m.Ensures mux Q)
    (hQ : ∀ mux', Q () mux' → Acts (mux.view k) none (mux'.view k)) :
    Acts (mux.view k) none ((m.exec mux).2.view k) :=
  h.after (P := fun mux' => Acts (mux.view k) none (mux'.view k)) .stays fun _ => hQ

lemma acts_applyInbound (admission : Except ConstellationError CapabilitySet)
    (frame : StreamFrame) (hk : frame.stream ≠ k) :
    Acts (mux.view k) none (((applyInbound admission frame).exec mux).2.view k) := by
  have hstays : ∀ {mux' : StreamMux}, mux'.view k = mux.view k →
      Acts (mux.view k) none (mux'.view k) := by
    intro mux' hview
    rw [hview]
    exact .stays
  cases frame with
  | streamOpen opening =>
    refine silent_of_ensures (ensures_applyOpen admission opening) fun mux' hq => hstays ?_
    exact (hq.2 k).trans (if_neg hk)
  | streamData data =>
    refine silent_of_ensures (ensures_acceptData data) ?_
    rintro mux' ⟨entry, -, -, rfl⟩
    exact hstays ((view_setEntry mux data.stream k _).trans (if_neg hk))
  | streamFlow flow =>
    refine silent_of_ensures (ensures_receiveFlow flow) ?_
    rintro mux' ⟨-, entry, -, rfl⟩
    exact hstays ((view_setEntry mux flow.stream k _).trans (if_neg hk))
  | streamClose closing =>
    refine silent_of_ensures (ensures_close closing) ?_
    rintro mux' (hcloses | ⟨rfl, -⟩)
    · have hacts : Acts (mux.view k) ((streamClose closing).viewFor k) (mux'.view k) :=
        acts_of_closes hcloses
      rwa [viewFor_of_ne (.streamClose closing) hk] at hacts
    · exact .stays

end

end D2b

import D2b.RealmCore.Mux.Calls

/-!
# D2b.RealmCore.Mux.Mirrors

The mux keeps the state of its streams in four collections: the entries, the
open streams, the sendable ones, and the closed ones in the order they were
closed.  The last three mirror the entries after every sequence of calls, and
stay within the caps.
-/

namespace D2b

open Command List StreamMux

namespace StreamMux

/-- The stream has an entry with the property. -/
def Has (streams : BTreeMap StreamId StreamEntry) (k : StreamId) (P : StreamEntry → Prop) : Prop :=
  ∃ entry, streams[k]? = some entry ∧ P entry

/-- The list names the closed streams, each once. -/
structure ListsClosed (order : List StreamId) (streams : BTreeMap StreamId StreamEntry) : Prop where
  nodup : order.Nodup
  mem_iff : ∀ k, k ∈ order ↔ Has streams k (·.state = .closed)

/-- The collections beside the entries say what the entries say, within the caps. -/
structure Mirrors (mux : StreamMux) : Prop where
  opened : ∀ k, k ∈ mux.openStreams ↔ Has mux.streams k (·.state = .opened)
  sendable : ∀ k, k ∈ mux.sendableStreams ↔
    Has mux.streams k fun entry => entry.state = .opened ∧ 0 < entry.sendCredit.toNat
  closed : ListsClosed mux.closedOrder mux.streams
  openBound : mux.openStreamCount ≤ mux.maxOpen
  closedBound : mux.closedOrder.length ≤ mux.maxClosed

variable {mux : StreamMux} {streams : BTreeMap StreamId StreamEntry}

/-- What named the streams with the property names them after an insert, when
it is right about the one inserted. -/
lemma has_insert {S S' : StreamId → Prop} (h : ∀ k, S k ↔ Has streams k P)
    (hself : S' stream ↔ P entry) (hother : ∀ k, stream ≠ k → (S' k ↔ S k)) (k : StreamId) :
    S' k ↔ Has (streams.insert stream entry) k P := by
  unfold Has
  rw [BTreeMap.get_insert]
  by_cases hk : stream = k
  · subst hk
    simpa using hself
  · rw [if_neg hk]
    exact (hother k hk).trans (h k)

lemma has_of_get (h : streams[k]? = some entry) : Has streams k P ↔ P entry := by
  simp [Has, h]

/-! ## pruning -/

lemma ListsClosed.tail (h : ListsClosed (old :: rest) streams) :
    ListsClosed rest (streams.erase old) := by
  obtain ⟨hold, hrest⟩ := nodup_cons.mp h.nodup
  refine ⟨hrest, fun k => ?_⟩
  have hk := h.mem_iff k
  unfold Has at hk ⊢
  rw [BTreeMap.get_erase]
  by_cases hkold : old = k
  · subst hkold
    simp [hold]
  · rw [mem_cons, or_iff_right (Ne.symm hkold)] at hk
    rw [if_neg hkold]
    exact hk

lemma listsClosed_pruneClosed (maxClosed : Nat) (order : List StreamId) :
    ∀ streams, ListsClosed order streams →
      ListsClosed (pruneClosed maxClosed order streams).1 (pruneClosed maxClosed order streams).2 ∧
      (pruneClosed maxClosed order streams).1.length ≤ maxClosed := by
  induction order with
  | nil => exact fun streams h => ⟨h, Nat.zero_le _⟩
  | cons old rest ih =>
    intro streams h
    unfold pruneClosed
    by_cases hlong : (old :: rest).length > maxClosed
    · obtain ⟨entry, hentry, hclosed⟩ := (h.mem_iff old).mp mem_cons_self
      rw [if_pos hlong, if_pos (by simp [hentry, hclosed])]
      exact ih _ h.tail
    · rw [if_neg hlong]
      exact ⟨h, not_lt.mp hlong⟩

/-- Pruning forgets closed streams only. -/
lemma has_pruneClosed (maxClosed : Nat) (order : List StreamId)
    (hopen : ∀ entry, P entry → entry.state = .opened) :
    Has (pruneClosed maxClosed order streams).2 k P ↔ Has streams k P := by
  unfold Has
  rcases get_pruneClosed maxClosed k order streams with hget | ⟨hget, entry, hentry, hclosed⟩
  · rw [hget]
  · rw [hget, hentry]
    simp only [reduceCtorEq, false_and, exists_false, Option.some.injEq, false_iff, not_exists,
      not_and]
    rintro entry rfl hP
    rw [hopen entry hP] at hclosed
    contradiction

/-! ## what the updates keep -/

namespace Mirrors

section

variable (h : mux.Mirrors) (hentry : mux.openEntry stream = .ok entry)
include h hentry

lemma notMem_closed : stream ∉ mux.closedOrder := by
  obtain ⟨hget, hopen⟩ := openEntry_eq_ok.mp hentry
  rw [h.closed.mem_iff, has_of_get hget, hopen]
  decide

lemma mem_sendable : stream ∈ mux.sendableStreams ↔ 0 < entry.sendCredit.toNat := by
  obtain ⟨hget, hopen⟩ := openEntry_eq_ok.mp hentry
  rw [h.sendable, has_of_get hget, and_iff_right hopen]

/-- An open stream stays open, with another entry. -/
lemma setEntry {sendable : Finset StreamId} (hstate : entry'.state = entry.state)
    (hself : stream ∈ sendable ↔ 0 < entry'.sendCredit.toNat)
    (hother : ∀ k, stream ≠ k → (k ∈ sendable ↔ k ∈ mux.sendableStreams)) :
    Mirrors { mux.setEntry stream entry' with sendableStreams := sendable } := by
  obtain ⟨hget, hopen⟩ := openEntry_eq_ok.mp hentry
  have hopen' : entry'.state = .opened := hstate.trans hopen
  have hmem : stream ∈ mux.openStreams := (h.opened stream).mpr ⟨entry, hget, hopen⟩
  exact {
    opened := has_insert h.opened (iff_of_true hmem hopen') fun _ _ => Iff.rfl
    sendable := has_insert h.sendable (hself.trans (and_iff_right hopen').symm) hother
    closed := ⟨h.closed.nodup, has_insert h.closed.mem_iff
      (iff_of_false (h.notMem_closed hentry) (by simp [hopen'])) fun _ _ => Iff.rfl⟩
    openBound := h.openBound
    closedBound := h.closedBound }

end

/-- An unknown stream is opened, without credit. -/
lemma openEntry (h : mux.Mirrors) (hnew : mux.streams[stream]? = none)
    (hroom : mux.openStreamCount < mux.maxOpen) (hopen : entry.state = .opened)
    (hcredit : entry.sendCredit = 0) :
    Mirrors { mux.setEntry stream entry with
      openStreams := insert stream mux.openStreams } := by
  have hhas : ∀ {P}, ¬Has mux.streams stream P := by simp [Has, hnew]
  have hunopened : stream ∉ mux.openStreams := fun hmem => hhas ((h.opened stream).mp hmem)
  exact {
    opened := has_insert h.opened (iff_of_true (Finset.mem_insert_self _ _) hopen)
      fun k hk => Finset.mem_insert.trans (or_iff_right (Ne.symm hk))
    sendable := has_insert h.sendable
      (iff_of_false (fun hmem => hhas ((h.sendable stream).mp hmem)) (by simp [hcredit]))
      fun _ _ => Iff.rfl
    closed := ⟨h.closed.nodup, has_insert h.closed.mem_iff
      (iff_of_false (fun hmem => hhas ((h.closed.mem_iff stream).mp hmem)) (by simp [hopen]))
      fun _ _ => Iff.rfl⟩
    openBound := (Finset.card_insert_of_notMem hunopened).trans_le hroom
    closedBound := h.closedBound }

/-- An open stream is closed, and old closed records go. -/
lemma closeEntry (h : mux.Mirrors) (hentry : mux.openEntry stream = .ok entry)
    (reason : StreamCloseReason) : (mux.closeEntry stream entry reason).Mirrors := by
  have hlists : ListsClosed (mux.closedOrder ++ [stream]) (mux.streams.insert stream
      { entry with state := .closed, closeReason := some reason }) := by
    have hnodup := h.closed.nodup.concat (h.notMem_closed hentry)
    rw [concat_eq_append] at hnodup
    exact ⟨hnodup, has_insert h.closed.mem_iff (by simp) fun k hk => by simp [Ne.symm hk]⟩
  obtain ⟨hclosed, hbound⟩ := listsClosed_pruneClosed mux.maxClosed _ _ hlists
  have herase : ∀ {s : Finset StreamId} k, stream ≠ k → (k ∈ s.erase stream ↔ k ∈ s) :=
    fun k hk => Finset.mem_erase.trans (and_iff_right (Ne.symm hk))
  exact {
    opened := fun k => (has_insert h.opened (by simp) herase k).trans
      (has_pruneClosed _ _ fun _ hP => hP).symm
    sendable := fun k => (has_insert h.sendable (by simp) herase k).trans
      (has_pruneClosed _ _ fun _ hP => hP.1).symm
    closed := hclosed
    openBound := Finset.card_erase_le.trans h.openBound
    closedBound := hbound }

lemma closes (h : mux.Mirrors) (hcloses : mux.Closes stream mux') : mux'.Mirrors := by
  obtain ⟨entry, reason, hentry, rfl⟩ := hcloses
  exact h.closeEntry hentry reason

end Mirrors

end StreamMux

/-! ## sequences of calls -/

inductive MuxCall where
  | openWithCapabilities (opening : StreamOpen) (capabilities : CapabilitySet)
  | grantInbound (stream : StreamId) (credits : UInt32)
  | acceptData (data : StreamData)
  | receiveFlow (flow : StreamFlow)
  | reserveSend (stream : StreamId) (channel : StreamChannel)
  | close (closing : StreamClose)
  | cancel (stream : StreamId)

namespace MuxCall

/-- Make the call; only whether it fails matters. -/
def run : MuxCall → Command ConstellationError StreamMux Unit
  | openWithCapabilities opening capabilities => StreamMux.openWithCapabilities opening capabilities
  | grantInbound stream credits => discard (StreamMux.grantInbound stream credits)
  | acceptData data => StreamMux.acceptData data
  | receiveFlow flow => StreamMux.receiveFlow flow
  | reserveSend stream channel => discard (StreamMux.reserveSend stream channel)
  | close closing => StreamMux.close closing
  | cancel stream => discard (StreamMux.cancel stream)

/-- The mux after a sequence of calls, whether they fail or not. -/
def runAll (mux : StreamMux) (calls : List MuxCall) : StreamMux :=
  calls.foldl (fun mux call => (call.run.exec mux).2) mux

lemma ensures_run (h : mux.Mirrors) (call : MuxCall) :
    call.run.Ensures mux fun _ mux' => mux'.Mirrors := by
  cases call with
  | openWithCapabilities opening capabilities =>
    refine (StreamMux.ensures_openWithCapabilities opening capabilities).mono ?_
    rintro - mux' ⟨hnew, hroom, entry, hfresh, rfl⟩
    have hopen : entry.state = .opened := of_decide_eq_true (congrArg (·.isOpen) hfresh)
    exact h.openEntry hnew hroom hopen (UInt64.toNat_inj.mp (congrArg (·.sendCredit) hfresh))
  | grantInbound stream credits =>
    refine Ensures.map (Ensures.mono (StreamMux.ensures_grantInbound stream credits) ?_) _
    rintro - mux' ⟨-, entry, hentry, rfl⟩
    have hmem := h.mem_sendable hentry
    exact h.setEntry hentry rfl hmem fun _ _ => Iff.rfl
  | acceptData data =>
    refine (StreamMux.ensures_acceptData data).mono ?_
    rintro - mux' ⟨entry, hentry, -, rfl⟩
    have hmem := h.mem_sendable hentry
    exact h.setEntry hentry rfl hmem fun _ _ => Iff.rfl
  | receiveFlow flow =>
    refine (StreamMux.ensures_receiveFlow flow).mono ?_
    rintro - mux' ⟨hcredits, entry, hentry, rfl⟩
    have hsum : 0 < (saturatingAdd entry.sendCredit flow.credits.toUInt64).toNat := by
      have hpos : flow.credits.toNat ≠ 0 := fun hz => hcredits (UInt32.toNat_inj.mp hz)
      rw [toNat_saturatingAdd, UInt32.toNat_toUInt64]
      omega
    by_cases hzero : entry.sendCredit = 0
    · rw [if_pos hzero]
      refine h.setEntry hentry rfl (iff_of_true (Finset.mem_insert_self _ _) hsum) fun k hk => ?_
      exact Finset.mem_insert.trans (or_iff_right (Ne.symm hk))
    · rw [if_neg hzero]
      refine h.setEntry hentry rfl (iff_of_true ?_ hsum) fun _ _ => Iff.rfl
      exact (h.mem_sendable hentry).mpr (pos_of_ne_zero hzero)
  | reserveSend stream channel =>
    refine Ensures.map (Ensures.mono (StreamMux.ensures_reserveSend stream channel) ?_) _
    rintro - mux' ⟨entry, hentry, -, hcredit, -, rfl⟩
    by_cases hspent : entry.sendCredit - 1 = 0
    · rw [if_pos hspent]
      refine h.setEntry hentry rfl (by simp [hspent]) fun k hk => ?_
      exact Finset.mem_erase.trans (and_iff_right (Ne.symm hk))
    · rw [if_neg hspent]
      refine h.setEntry hentry rfl (iff_of_true ?_ (pos_of_ne_zero hspent)) fun _ _ => Iff.rfl
      exact (h.mem_sendable hentry).mpr (pos_of_ne_zero hcredit)
  | close closing =>
    refine (StreamMux.ensures_close closing).mono ?_
    rintro - mux' (hcloses | ⟨rfl, -⟩)
    · exact h.closes hcloses
    · exact h
  | cancel stream =>
    refine Ensures.map (Ensures.mono (StreamMux.ensures_cancel stream) ?_) _
    rintro - mux' (⟨-, hcloses⟩ | ⟨-, rfl⟩)
    · exact h.closes hcloses
    · exact h

lemma mirrors_runAll (h : mux.Mirrors) (calls : List MuxCall) : (runAll mux calls).Mirrors := by
  induction calls generalizing mux with
  | nil => exact h
  | cons call calls ih => exact ih ((ensures_run h call).after h fun _ _ h' => h')

end MuxCall

/-- From a new mux, every sequence of calls leaves collections that mirror the
entries, and the next call changes nothing when it fails. -/
theorem mux_collections_mirror_entries (maxOpen maxClosed : Nat) (calls : List MuxCall) :
    (MuxCall.runAll (.withLimits maxOpen maxClosed) calls).Mirrors ∧
      ∀ call : MuxCall,
        call.run.AtomicAt (MuxCall.runAll (.withLimits maxOpen maxClosed) calls) := by
  have hnew : (withLimits maxOpen maxClosed).Mirrors := by
    refine ⟨?_, ?_, ⟨nodup_nil, ?_⟩, Nat.zero_le _, Nat.zero_le _⟩ <;>
      simp [withLimits, StreamMux.Has]
  have hreached := MuxCall.mirrors_runAll hnew calls
  exact ⟨hreached, fun call => (MuxCall.ensures_run hreached call).atomicAt⟩

end D2b

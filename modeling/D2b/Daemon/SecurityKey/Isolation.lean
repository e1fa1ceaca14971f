import D2b.Daemon.SecurityKey.Exclusive

/-!
# D2b.Daemon.SecurityKey.Isolation

Whose channels a connection relays.

The relay passes every report on as it is: it looks at the channel of a report only
to cancel it later, and the translator of channel ids is not used.  A guest that
keeps to the channels the token gave it, on a token that is idle and whose answers
to earlier guests are read, neither reaches nor hears the others.
-/

namespace D2b.Daemon.SecurityKey

open List Option LogEntry SecurityKey.World

variable {w w' : World} {event : Event} {i j : Nat} {c : Connection} {log : List LogEntry}

/-! ## channels of a connection -/

/-- The nonce of an `INIT` request, and of the reply. -/
def nonce (report : CtaphidReport) : List UInt8 := (report.toList.drop 7).take 8

/-- The reply gives the sender of the request a channel. -/
def Allocates (request reply : CtaphidReport) (cid : Cid) : Prop :=
  channel request = broadcastCid ∧ command request = ctaphidInit ∧
    channel reply = broadcastCid ∧ command reply = ctaphidInit ∧ nonce reply = nonce request ∧
    allocatedCid reply = cid

/-- The token allocated the channel in answer to an `INIT` of this connection. -/
def Owns (log : List LogEntry) (i : Nat) (cid : Cid) : Prop :=
  ∃ request reply, [forwarded i request, .emitted reply].Sublist log ∧ Allocates request reply cid

/-- The channels that a connection may use. -/
def Permitted (log : List LogEntry) (i : Nat) (cid : Cid) : Prop :=
  cid = broadcastCid ∨ Owns log i cid

lemma Permitted.append (h : Permitted log i cid) (entry : LogEntry) :
    Permitted (log ++ [entry]) i cid := by
  rcases h with hbroadcast | ⟨request, reply, hsublist, hallocates⟩
  · exact .inl hbroadcast
  · exact .inr ⟨request, reply, hsublist.trans (sublist_append_left _ _), hallocates⟩

def LogEntry.report : LogEntry → CtaphidReport
  | .forwarded _ report | .cancelled _ report | .emitted report | .delivered _ report => report

instance (request reply : CtaphidReport) (cid : Cid) : Decidable (Allocates request reply cid) :=
  inferInstanceAs (Decidable (_ ∧ _ ∧ _ ∧ _ ∧ _ ∧ _))

/-- The request and the reply are searched among the reports of the log. -/
instance (log : List LogEntry) (i : Nat) (cid : Cid) : Decidable (Owns log i cid) :=
  decidable_of_iff ((log.map report).any fun request =>
    (log.map report).any fun reply =>
      [forwarded i request, .emitted reply].Sublist log ∧ Allocates request reply cid) (by
    simp only [List.any_eq_true, decide_eq_true_eq]
    constructor
    · intro ⟨request, _, reply, _, hsublist, hallocates⟩
      exact ⟨request, reply, hsublist, hallocates⟩
    · intro ⟨request, reply, hsublist, hallocates⟩
      have hrequest : forwarded i request ∈ log := hsublist.subset (by simp)
      have hreply : emitted reply ∈ log := hsublist.subset (by simp)
      exact ⟨request, mem_map_of_mem (f := report) hrequest, reply,
        mem_map_of_mem (f := report) hreply, hsublist, hallocates⟩)

instance (log : List LogEntry) (i : Nat) (cid : Cid) : Decidable (Permitted log i cid) :=
  inferInstanceAs (Decidable (_ ∨ _))

/-- What passes between a guest and the token. -/
def LogEntry.relayed : LogEntry → Option (Nat × CtaphidReport)
  | .forwarded i report | .delivered i report => some (i, report)
  | .cancelled .. | .emitted _ => none

/-- Everything that was relayed was on a channel of the connection. -/
def Isolated (log : List LogEntry) : Prop :=
  ∀ before entry after i report, log = before ++ entry :: after →
    entry.relayed = some (i, report) → Permitted before i (channel report)

lemma Isolated.append (h : Isolated log) (hentry : ∀ i report, entry.relayed = some (i, report) →
      Permitted log i (channel report)) : Isolated (log ++ [entry]) := by
  intro before e after i report hlog hrelayed
  rcases Trace.snoc_eq_append_cons hlog with ⟨rfl, rfl, -⟩ | ⟨after', rfl, hlog'⟩
  · exact hentry i report hrelayed
  · exact h before e after' i report hlog' hrelayed

/-! ## runs -/

/-- A guest sends on its own channels; a connection is admitted when no other is, the
token works on no channel and nothing on a channel is left to read. -/
def World.Separate (w : World) : Event → Prop
  | .acquire i _ => (∀ c ∈ w.connections, c.phase.lease = none) ∧
      (∀ cid ∈ w.busy, cid = broadcastCid) ∧
      ∀ c ∈ w.connections[i]?, ∀ loop ∈ w.loops[c.loop]?,
        ∀ report ∈ loop.unread, channel report = broadcastCid
  | .receive i report => Permitted w.log i (channel report)
  | _ => True

instance (w : World) : (event : Event) → Decidable (w.Separate event)
  | .acquire i _ => inferInstanceAs (Decidable ((∀ c ∈ w.connections, _) ∧ (∀ cid ∈ w.busy, _) ∧
      ∀ c ∈ w.connections[i]?, ∀ loop ∈ w.loops[c.loop]?, ∀ report ∈ loop.unread, _))
  | .receive i report => inferInstanceAs (Decidable (Permitted w.log i (channel report)))
  | .startLoop .. | .stopLoop _ | .connect .. | .forward _ | .read _ | .deliver _ | .finish ..
  | .cancel .. | .release _ | .emit _ | .settle _ => .isTrue trivial

structure World.Clean (w : World) : Prop where
  single : ∀ i j leaseId leaseId', w.Admitted i leaseId → w.Admitted j leaseId' → i = j
  toToken : ∀ (i : Nat) c report, w.connections[i]? = some c → c.toToken = some report →
    Permitted w.log i (channel report)
  toGuest : ∀ (i : Nat) c report, w.connections[i]? = some c → c.toGuest = some report →
    Permitted w.log i (channel report)
  busy : ∀ (i : Nat) c leaseId, w.connections[i]? = some c → c.phase = .relaying leaseId →
    ∀ cid ∈ w.busy, Permitted w.log i cid
  unread : ∀ (i : Nat) c leaseId loop, w.connections[i]? = some c → c.phase = .relaying leaseId →
    w.loops[c.loop]? = some loop → ∀ report ∈ loop.unread, Permitted w.log i (channel report)
  isolated : Isolated w.log

section

/-- A connection with permitted buffers that relays only if it did before. -/
structure Covered (w : World) (j : Nat) (d : Connection) : Prop where
  lease : ∀ l, d.phase.lease = some l → w.Admitted j l
  toToken : ∀ report, d.toToken = some report → Permitted w.log j (channel report)
  toGuest : ∀ report, d.toGuest = some report → Permitted w.log j (channel report)
  relaying : ∀ l, d.phase = .relaying l →
    ∃ c, w.connections[j]? = some c ∧ c.phase = .relaying l ∧ d.loop = c.loop

lemma World.Clean.covered (h : w.Clean) (hc : w.connections[j]? = some c) : Covered w j c where
  lease _ hl := ⟨c, hc, hl⟩
  toToken report := h.toToken j c report hc
  toGuest report := h.toGuest j c report hc
  relaying _ hphase := ⟨c, hc, hphase, rfl⟩

lemma Covered.closed (h : Covered w j c) : Covered w j { c with phase := .closed } :=
  { h with lease := nofun, relaying := nofun }

lemma Covered.cancelling (h : Covered w j c) (hlease : c.phase.lease = some leaseId) :
    Covered w j { c with phase := .cancelling leaseId rest } :=
  { h with lease := fun l hl => h.lease l (hlease.trans hl), relaying := nofun }

namespace World.Clean

variable (h : w.Clean)
include h

lemma connections {connections : List Connection}
    (hcovered : ∀ (j : Nat) d, connections[j]? = some d → Covered w j d) :
    Clean { w with connections } := by
  refine ⟨?_, fun i c report hc => (hcovered i c hc).toToken report,
    fun i c report hc => (hcovered i c hc).toGuest report, ?_, ?_, h.isolated⟩
  · rintro i j l l' ⟨c, hc, hl⟩ ⟨d, hd, hl'⟩
    exact h.single i j l l' ((hcovered i c hc).lease l hl) ((hcovered j d hd).lease l' hl')
  · intro i c l hc hphase
    obtain ⟨d, hd, hrelaying, -⟩ := (hcovered i c hc).relaying l hphase
    exact h.busy i d l hd hrelaying
  · intro i c l loop hc hphase hloop
    obtain ⟨d, hd, hrelaying, hsame⟩ := (hcovered i c hc).relaying l hphase
    exact h.unread i d l loop hd hrelaying (hsame ▸ hloop)

lemma setConnection (hc : w.connections[i]? = some c)
    (hcovered : Covered w i c') : (w.setConnection i c').Clean := by
  refine h.connections fun j d hd => ?_
  rcases setConnection_cases hc hd with ⟨rfl, rfl⟩ | hd
  · exact hcovered
  · exact h.covered hd

/-- An entry of the log, on channels the relaying connection may use. -/
lemma append (entry : LogEntry) (busy : Finset Cid)
    (hrelayed : ∀ i report, entry.relayed = some (i, report) → Permitted w.log i (channel report))
    (hbusy : ∀ (i : Nat) c leaseId, w.connections[i]? = some c → c.phase = .relaying leaseId →
      ∀ cid ∈ busy, Permitted w.log i cid) :
    Clean { w with busy, log := w.log ++ [entry] } := by
  refine ⟨h.single, ?_, ?_, ?_, ?_, h.isolated.append hrelayed⟩
  · intro i c report hc hreport
    exact (h.toToken i c report hc hreport).append entry
  · intro i c report hc hreport
    exact (h.toGuest i c report hc hreport).append entry
  · intro i c l hc hphase cid hcid
    exact (hbusy i c l hc hphase cid hcid).append entry
  · intro i c l loop hc hphase hloop report hreport
    exact (h.unread i c l loop hc hphase hloop report hreport).append entry

/-- The loops may change while what they have to read is permitted. -/
lemma loops (loops : List AcceptLoop)
    (hloops : ∀ (i : Nat) c leaseId loop, w.connections[i]? = some c →
      c.phase = .relaying leaseId → loops[c.loop]? = some loop →
      ∀ report ∈ loop.unread, Permitted w.log i (channel report)) :
    Clean { w with loops } :=
  ⟨h.single, h.toToken, h.toGuest, h.busy, hloops, h.isolated⟩

lemma setState (a : Nat) (state : SecurityKeyState) : (w.setState a state).Clean := by
  refine h.loops _ ?_
  intro i c l loop hc hphase hloop
  have hloop : (w.setState a state).loops[c.loop]? = some loop := hloop
  rw [getElem?_setState] at hloop
  by_cases ha : c.loop = a
  · rw [if_pos ha] at hloop
    obtain ⟨old, hold, rfl⟩ := map_eq_some_iff.mp hloop
    exact h.unread i c l old hc hphase hold
  · rw [if_neg ha] at hloop
    exact h.unread i c l loop hc hphase hloop

/-- The only admitted connection, with nothing left of the others. -/
lemma granted (hat : w.At i c loop) (l : LeaseId) (next : LeaseId)
    (hfree : ∀ c ∈ w.connections, c.phase.lease = none)
    (hbusy : ∀ cid ∈ w.busy, cid = broadcastCid)
    (hunread : ∀ report ∈ loop.unread, channel report = broadcastCid) :
    Clean { w.setConnection i { c with phase := .relaying l } with nextLease := next } := by
  have hnone : ∀ (j : Nat) d l', w.connections[j]? = some d → d.phase.lease ≠ some l' := by
    intro j d l' hd hl
    rw [hfree d (mem_of_getElem? hd)] at hl
    cases hl
  have honly : ∀ j l', (w.setConnection i { c with phase := .relaying l }).Admitted j l' →
      j = i := by
    intro j l' hj
    obtain ⟨d, hd, hl⟩ := hj
    rcases setConnection_cases hat.connection hd with ⟨hji, -⟩ | hd
    · exact hji
    · exact absurd hl (hnone j d l' hd)
  refine ⟨?_, ?_, ?_, ?_, ?_, h.isolated⟩
  · intro j k l₁ l₂ hj hk
    rw [honly j l₁ hj, honly k l₂ hk]
  · intro j d report hd hreport
    rcases setConnection_cases hat.connection hd with ⟨rfl, rfl⟩ | hd
    · exact h.toToken j c report hat.connection hreport
    · exact h.toToken j d report hd hreport
  · intro j d report hd hreport
    rcases setConnection_cases hat.connection hd with ⟨rfl, rfl⟩ | hd
    · exact h.toGuest j c report hat.connection hreport
    · exact h.toGuest j d report hd hreport
  · intro j d l' hd hphase cid hcid
    exact .inl (hbusy cid hcid)
  · intro j d l' lp hd hphase hlp report hreport
    rcases setConnection_cases hat.connection hd with ⟨rfl, rfl⟩ | hd
    · have hlp : w.loops[c.loop]? = some lp := hlp
      rw [hat.loop] at hlp
      cases hlp
      exact .inl (hunread report hreport)
    · exact absurd (by simp [hphase, Phase.lease]) (hnone j d l' hd)

lemma startLoop (hunread : loop.unread = []) : Clean { w with loops := w.loops ++ [loop] } := by
  refine h.loops _ ?_
  intro i c l lp hc hphase hlp
  by_cases hlt : c.loop < w.loops.length
  · rw [getElem?_append_left hlt] at hlp
    exact h.unread i c l lp hc hphase hlp
  · rw [getElem?_append_right (by omega)] at hlp
    rw [mem_singleton.mp (mem_of_getElem? hlp), hunread]
    simp

lemma connect (hphase : c.phase = .waiting deadline)
    (htoken : c.toToken = none) (hguest : c.toGuest = none) :
    Clean { w with connections := w.connections ++ [c] } := by
  refine h.connections fun j d hd => ?_
  rcases connect_cases hd with hd | rfl
  · exact h.covered hd
  · constructor <;> simp [hphase, htoken, hguest, Phase.lease]

lemma stopLoop (a : Nat) : (w.stopLoop a).Clean := by
  have hstopped : Clean { w with connections := (w.stopLoop a).connections } := by
    refine h.connections fun j d hd => ?_
    obtain ⟨c, hc, ⟨-, rfl⟩ | ⟨-, rfl⟩⟩ := stopLoop_cases hd
    · exact h.covered hc
    · exact ⟨nofun, fun r => h.toToken j c r hc, fun r => h.toGuest j c r hc, nofun⟩
  refine hstopped.loops _ fun i c l loop hc hphase hloop => ?_
  rw [getElem?_modify] at hloop
  obtain ⟨old, hold, rfl⟩ := map_eq_some_iff.mp hloop
  have hunread := hstopped.unread i c l old hc hphase hold
  split
  · exact hunread
  · exact hunread

end World.Clean

end

lemma World.Clean.step (h : w.Clean) (hseparate : w.Separate event)
    (hmove : Moves w event w') : w'.Clean := by
  cases hmove with
  | startLoop vmId label => exact h.startLoop rfl
  | stopLoop i => exact h.stopLoop i
  | connect hloop hlive => exact h.connect rfl rfl rfl
  | @granted i c loop deadline now hat hphase hfree =>
    obtain ⟨hnone, hbusy, hunread⟩ := hseparate
    have hunread := hunread c hat.connection loop hat.loop
    have hat' : (w.setState c.loop { loop.state.expireStale now with
        lease := .leased loop.vmId w.nextLease now ceremonyTimeout }).At i c _ :=
      ⟨hat.connection, by rw [getElem?_setState, if_pos rfl, hat.loop]; rfl⟩
    exact (h.setState c.loop _).granted hat' _ _ hnone hbusy hunread
  | @refused i c loop deadline c' now hat hphase hc' =>
    have hcovered := h.covered hat.connection
    rcases hc' with rfl | rfl
    · exact h.setConnection hat.connection hcovered
    · exact h.setConnection hat.connection hcovered.closed
  | @receive i c loop leaseId report hat hphase hempty =>
    refine h.setConnection hat.connection { h.covered hat.connection with toToken := ?_ }
    intro r hr
    cases hr
    exact hseparate
  | @forward i c loop leaseId report hat hphase hreport =>
    have hpermitted := h.toToken i c report hat.connection hreport
    have hwritten : (w.write (.forwarded i report) report).Clean := by
      refine h.append _ _ ?_ ?_
      · intro j r hr
        cases hr
        exact hpermitted
      · intro j d l hd hrelaying cid hcid
        -- the connection that relays is the one that writes
        have hji : j = i := h.single j i l leaseId ⟨d, hd, by simp [hrelaying, Phase.lease]⟩
          ⟨c, hat.connection, by simp [hphase, Phase.lease]⟩
        rcases Finset.mem_insert.mp hcid with rfl | hcid
        · rw [hji]
          exact hpermitted
        · exact h.busy j d l hd hrelaying cid hcid
    exact hwritten.setConnection hat.connection
      { hwritten.covered hat.connection with toToken := by simp }
  | @read i c loop leaseId report unread hat hphase hempty hunread =>
    have hread := h.unread i c leaseId loop hat.connection hphase hat.loop
    rw [hunread] at hread
    have hset : (w.setConnection i { c with
        activeCids := trackResponseCid report c.activeCids, toGuest := some report }).Clean := by
      refine h.setConnection hat.connection { h.covered hat.connection with toGuest := ?_ }
      intro r hr
      cases hr
      exact hread report mem_cons_self
    refine hset.loops _ ?_
    intro j d l lp hd hrelaying hlp
    have hunread' := hset.unread j d l
    rw [getElem?_modify] at hlp
    obtain ⟨old, hold, rfl⟩ := map_eq_some_iff.mp hlp
    split
    · next hsame =>
      rw [← hsame, hat.loop] at hold
      cases hold
      intro r hr
      refine hunread' loop hd hrelaying (hsame ▸ hat.loop) r ?_
      rw [hunread]
      exact mem_cons_of_mem _ hr
    · exact hunread' old hd hrelaying hold
  | @deliver i c loop leaseId report hat hphase hreport =>
    have hlogged : World.Clean { w with log := w.log ++ [.delivered i report] } := by
      refine h.append _ _ ?_ h.busy
      intro j r hr
      cases hr
      exact h.toGuest i c report hat.connection hreport
    exact hlogged.setConnection hat.connection
      { hlogged.covered hat.connection with toGuest := by simp }
  | @finish i c loop leaseId order hat hphase horder =>
    have hlease := (h.covered hat.connection).lease
    rw [hphase] at hlease
    exact h.setConnection hat.connection ⟨hlease, by simp, by simp, by simp⟩
  | @cancelled i c loop leaseId cid rest hat hphase =>
    have hset : (w.setConnection i { c with phase := .cancelling leaseId rest }).Clean :=
      h.setConnection hat.connection ((h.covered hat.connection).cancelling (by rw [hphase]; rfl))
    refine hset.append _ _ (by simp [relayed]) ?_
    intro j d l hd hrelaying
    -- no connection relays while this one cancels
    have hi : (w.setConnection i { c with phase := .cancelling leaseId rest }).Admitted i
        leaseId := by
      rw [admitted_setConnection hat.connection, if_pos rfl]
      rfl
    have hji := hset.single j i l leaseId ⟨d, hd, by simp [hrelaying, Phase.lease]⟩ hi
    rw [getElem?_setConnection hat.connection, if_pos hji] at hd
    cases hd
    cases hrelaying
  | @cancelFailed i c loop leaseId cid rest hat hphase =>
    exact h.setConnection hat.connection
      ((h.covered hat.connection).cancelling (by rw [hphase]; rfl))
  | @release i c loop leaseId hat hphase =>
    have hset := h.setState c.loop (loop.state.releaseLease loop.vmId leaseId)
    exact hset.setConnection hat.connection (hset.covered hat.connection).closed
  | @emit report hchannel =>
    have hlogged := h.append (.emitted report) w.busy (by simp [relayed]) h.busy
    refine hlogged.loops _ ?_
    intro j d l lp hd hrelaying hlp r hr
    rw [getElem?_map] at hlp
    obtain ⟨old, hold, rfl⟩ := map_eq_some_iff.mp hlp
    rcases Trace.mem_snoc.mp hr with hr | hlast
    · exact hlogged.unread j d l old hd hrelaying hold r hr
    · rw [hlast]
      rcases hchannel with hbroadcast | hbusy
      · exact .inl hbroadcast
      · exact hlogged.busy j d l hd hrelaying _ hbusy
  | settle cid =>
    refine ⟨h.single, h.toToken, h.toGuest, ?_, h.unread, h.isolated⟩
    intro i c l hc hphase cid' hcid'
    exact h.busy i c l hc hphase cid' (Finset.mem_of_mem_erase hcid')

/-! ## isolation -/

/-- An `INIT` of the first guest, and the reply that gives it channel 1. -/
def initRequest : CtaphidReport :=
  buildInitPacket broadcastCid ctaphidInit 8 [1, 2, 3, 4, 5, 6, 7, 8]

def initReply : CtaphidReport :=
  buildInitPacket broadcastCid ctaphidInit 17 ([1, 2, 3, 4, 5, 6, 7, 8] ++ cidBytes 1)

/-- The first guest opens a channel. -/
def channelOpened : List Event :=
  [.startLoop "work" "key", .connect 0 true 0, .acquire 0 1, .receive 0 initRequest, .forward 0,
    .emit initReply, .read 0, .deliver 0]

def ownChannelUsed : List Event := channelOpened ++ [.receive 0 ping, .forward 0]

/-- The next guest writes to the channel of the one before. -/
def channelTaken : List Event :=
  channelOpened ++ [.finish 0 [1], .cancel 0 true, .release 0, .settle 1, .connect 0 true 2,
    .acquire 1 3, .receive 1 ping, .forward 1]

end D2b.Daemon.SecurityKey

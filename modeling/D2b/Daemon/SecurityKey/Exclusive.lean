import D2b.Daemon.SecurityKey.Moves

/-!
# D2b.Daemon.SecurityKey.Exclusive

One active session on a token.

The lease belongs to an accept loop and not to the token, it is handed on when it
expires while the old connection still relays, and a loop that is stopped drops its
connections as they are.  With a single loop for the token, no lease that expires,
no loop that is stopped under an admitted connection and a token that takes every
CANCEL, at most one connection relays, and those before it have cancelled every
channel they used.
-/

namespace D2b.Daemon.SecurityKey

open Phase

variable {w w' : World} {event : Event} {i j : Nat} {c : Connection}

/-- The connection holds a lease: it relays, or cancels its channels. -/
def World.Admitted (w : World) (i : Nat) (leaseId : LeaseId) : Prop :=
  ∃ c, w.connections[i]? = some c ∧ c.phase.lease = some leaseId

/-- One loop for the token, which is not stopped under an admitted connection; no lease
expires; no CANCEL fails. -/
def World.Orderly (w : World) : Event → Prop
  | .startLoop .. => ∀ loop ∈ w.loops, loop.live = false
  | .stopLoop i => ∀ c ∈ w.connections, c.loop = i → c.phase.lease = none
  | .acquire i now => ∀ c ∈ w.connections[i]?, ∀ loop ∈ w.loops[c.loop]?,
      loop.state.lease.isExpired now = false
  | .cancel _ written => written = true
  | _ => True

instance (w : World) : (event : Event) → Decidable (w.Orderly event)
  | .startLoop .. => inferInstanceAs (Decidable (∀ loop ∈ w.loops, _))
  | .stopLoop _ => inferInstanceAs (Decidable (∀ c ∈ w.connections, _ → _))
  | .acquire i _ => inferInstanceAs (Decidable (∀ c ∈ w.connections[i]?,
      ∀ loop ∈ w.loops[c.loop]?, _))
  | .cancel .. => inferInstanceAs (Decidable (_ = true))
  | .connect .. | .receive .. | .forward _ | .read _ | .deliver _ | .finish .. | .release _
  | .emit _ | .settle _ => .isTrue trivial

/-- What is known of a channel that connection `i` has used, with what was written
after the use. -/
def Connection.Covers (c : Connection) (i : Nat) (cid : Cid) (after : List LogEntry) : Prop :=
  match c.phase with
  | .waiting _ => False
  | .relaying _ => cid ∈ c.activeCids
  | .cancelling _ rest => cid ∈ rest ∨ .cancelled i (buildCancelPacket cid) ∈ after
  | .closed => .cancelled i (buildCancelPacket cid) ∈ after

/-- Every use of a channel was followed by its CANCEL. -/
def Settled (log : List LogEntry) (i : Nat) : Prop :=
  ∀ before report after, log = before ++ .forwarded i report :: after →
    isChannel (channel report) = true →
    .cancelled i (buildCancelPacket (channel report)) ∈ after

structure World.Inv (w : World) : Prop where
  oneLoop : ∀ (a b : Nat) la lb, w.loops[a]? = some la → w.loops[b]? = some lb →
    la.live = true → lb.live = true → a = b
  attached : ∀ (i : Nat) c, w.connections[i]? = some c → c.phase ≠ .closed →
    ∃ loop, w.loops[c.loop]? = some loop ∧ loop.live = true
  held : ∀ (i : Nat) c leaseId, w.connections[i]? = some c → c.phase.lease = some leaseId →
    ∃ loop startedAt timeout, w.loops[c.loop]? = some loop ∧
      loop.state.lease = .leased loop.vmId leaseId startedAt timeout
  counted : ∀ i leaseId, w.Admitted i leaseId → leaseId < w.nextLease
  distinct : ∀ i j leaseId, w.Admitted i leaseId → w.Admitted j leaseId → i = j
  tracked : ∀ (i : Nat) c report, w.connections[i]? = some c → c.toToken = some report →
    isChannel (channel report) = true → channel report ∈ c.activeCids
  covered : ∀ i before report after, w.log = before ++ .forwarded i report :: after →
    isChannel (channel report) = true →
    ∃ c, w.connections[i]? = some c ∧ c.Covers i (channel report) after

lemma Phase.ne_closed_of_lease {phase : Phase} (h : phase.lease = some l) : phase ≠ .closed := by
  intro hclosed
  simp [hclosed, lease] at h

lemma World.Inv.same_loop (h : w.Inv) (hc : w.connections[i]? = some c)
    (hopen : c.phase ≠ .closed) (hd : w.connections[j]? = some d) (hopen' : d.phase ≠ .closed) :
    c.loop = d.loop := by
  obtain ⟨la, hla, halive⟩ := h.attached i c hc hopen
  obtain ⟨lb, hlb, hblive⟩ := h.attached j d hd hopen'
  exact h.oneLoop _ _ la lb hla hlb halive hblive

/-- Two admitted connections are in the one loop, whose lease is that of both. -/
lemma World.Inv.admitted_unique (h : w.Inv) (hi : w.Admitted i leaseId)
    (hj : w.Admitted j leaseId') : i = j := by
  have hsame : leaseId = leaseId' := by
    obtain ⟨ci, hci, hli⟩ := hi
    obtain ⟨cj, hcj, hlj⟩ := hj
    have hloop := h.same_loop hci (ne_closed_of_lease hli) hcj (ne_closed_of_lease hlj)
    obtain ⟨loopi, si, ti, hloopi, hleasei⟩ := h.held i ci leaseId hci hli
    obtain ⟨loopj, sj, tj, hloopj, hleasej⟩ := h.held j cj leaseId' hcj hlj
    rw [hloop, hloopj] at hloopi
    cases hloopi
    rw [hleasei] at hleasej
    cases hleasej
    rfl
  rw [hsame] at hi
  exact h.distinct i j leaseId' hi hj

/-! ## steps of one connection -/

section

lemma Connection.Covers.append (h : c.Covers i cid after) (entry : LogEntry) :
    c.Covers i cid (after ++ [entry]) := by
  unfold Covers at h ⊢
  cases hphase : c.phase with
  | waiting deadline =>
    simp only [hphase] at h
  | relaying leaseId =>
    simp only [hphase] at h
    exact h
  | cancelling leaseId rest =>
    simp only [hphase, List.mem_append] at h ⊢
    exact h.imp_right .inl
  | closed =>
    simp only [hphase, List.mem_append] at h ⊢
    exact .inl h

lemma Connection.not_covers_of_waiting (hphase : c.phase = .waiting deadline) :
    ¬ c.Covers i cid after := by
  simp [Covers, hphase]

/-- The admitted connections after a write to one of them. -/
lemma admitted_setConnection (hc : w.connections[i]? = some c) :
    (w.setConnection i c').Admitted j leaseId ↔
      if j = i then c'.phase.lease = some leaseId else w.Admitted j leaseId := by
  unfold World.Admitted
  rw [getElem?_setConnection hc]
  by_cases hij : j = i
  · simp [hij]
  · simp [hij]

/-- What the invariant says of one connection. -/
structure Placed (w : World) (i : Nat) (c : Connection) : Prop where
  attached : c.phase ≠ .closed → ∃ loop, w.loops[c.loop]? = some loop ∧ loop.live = true
  lease : ∀ l, c.phase.lease = some l → w.Admitted i l
  held : ∀ l, c.phase.lease = some l → ∃ loop startedAt timeout, w.loops[c.loop]? = some loop ∧
    loop.state.lease = .leased loop.vmId l startedAt timeout
  tracked : ∀ report, c.toToken = some report → isChannel (channel report) = true →
    channel report ∈ c.activeCids

lemma World.Inv.placed (h : w.Inv) (hc : w.connections[i]? = some c) : Placed w i c where
  attached := h.attached i c hc
  lease _ hl := ⟨c, hc, hl⟩
  held l := h.held i c l hc
  tracked report := h.tracked i c report hc

lemma Placed.closed (h : Placed w i c) : Placed w i { c with phase := .closed } :=
  { h with attached := fun hopen => absurd rfl hopen, lease := nofun, held := nofun }

lemma Placed.cancelling (h : Placed w i c) (hl : c.phase.lease = some l) (rest : List Cid) :
    Placed w i { c with phase := .cancelling l rest } := by
  refine ⟨fun _ => h.attached (ne_closed_of_lease hl), ?_, ?_, h.tracked⟩
  · intro l' hl'
    cases hl'
    exact h.lease l hl
  · intro l' hl'
    cases hl'
    exact h.held l hl

lemma World.Inv.connections (h : w.Inv) {connections : List Connection}
    (hplaced : ∀ (j : Nat) d, connections[j]? = some d → Placed w j d)
    (hcovered : ∀ i before report after, w.log = before ++ .forwarded i report :: after →
      isChannel (channel report) = true →
      ∃ c, connections[i]? = some c ∧ c.Covers i (channel report) after) :
    World.Inv { w with connections } := by
  refine ⟨h.oneLoop, fun j d hd => (hplaced j d hd).attached,
    fun j d l hd => (hplaced j d hd).held l, ?_, ?_,
    fun j d report hd => (hplaced j d hd).tracked report, hcovered⟩
  · rintro j l ⟨d, hd, hl⟩
    exact h.counted j l ((hplaced j d hd).lease l hl)
  · rintro j k l ⟨d, hd, hl⟩ ⟨e, he, hl'⟩
    exact h.distinct j k l ((hplaced j d hd).lease l hl) ((hplaced k e he).lease l hl')

/-- A connection that accounts for what the old one accounted for. -/
lemma World.Inv.setConnection (h : w.Inv) (hc : w.connections[i]? = some c)
    (hplaced : Placed w i c')
    (hcovers : ∀ before report after, w.log = before ++ .forwarded i report :: after →
      c.Covers i (channel report) after → c'.Covers i (channel report) after) :
    (w.setConnection i c').Inv := by
  refine h.connections ?_ ?_
  · intro j d hd
    rcases setConnection_cases hc hd with ⟨rfl, rfl⟩ | hd
    · exact hplaced
    · exact h.placed hd
  · intro j before report after hlog hchannel
    obtain ⟨d, hd, hcovered⟩ := h.covered j before report after hlog hchannel
    have hset := getElem?_setConnection hc c' j
    by_cases hij : j = i
    · subst hij
      rw [hc] at hd
      cases hd
      rw [if_pos rfl] at hset
      exact ⟨c', hset, hcovers before report after hlog hcovered⟩
    · rw [if_neg hij] at hset
      exact ⟨d, hset.trans hd, hcovered⟩

/-- An entry of the log; a report that is forwarded is accounted for. -/
lemma World.Inv.append (h : w.Inv) (entry : LogEntry) (busy : Finset Cid)
    (hentry : ∀ i report, entry = .forwarded i report → isChannel (channel report) = true →
      ∃ c, w.connections[i]? = some c ∧ c.Covers i (channel report) []) :
    World.Inv { w with busy, log := w.log ++ [entry] } := by
  refine ⟨h.oneLoop, h.attached, h.held, h.counted, h.distinct, h.tracked, ?_⟩
  intro i before report after hlog hchannel
  rcases Trace.snoc_eq_append_cons hlog with ⟨-, hsame, rfl⟩ | ⟨after', rfl, hlog'⟩
  · exact hentry i report hsame.symm hchannel
  · obtain ⟨c, hc, hcovers⟩ := h.covered i before report after' hlog' hchannel
    exact ⟨c, hc, hcovers.append entry⟩

/-- The loops may change while they stay live and keep the leases that are held. -/
lemma World.Inv.loops (h : w.Inv) {loops : List AcceptLoop}
    (hloops : ∀ a : Nat, ∃ f : AcceptLoop → AcceptLoop, (∀ loop, (f loop).live = loop.live) ∧
      loops[a]? = (w.loops[a]?).map f)
    (hheld : ∀ (i : Nat) c l, w.connections[i]? = some c → c.phase.lease = some l →
      ∃ loop startedAt timeout, loops[c.loop]? = some loop ∧
        loop.state.lease = .leased loop.vmId l startedAt timeout) :
    World.Inv { w with loops } := by
  have hold : ∀ (a : Nat) loop, loops[a]? = some loop →
      ∃ old, w.loops[a]? = some old ∧ old.live = loop.live := by
    intro a loop hloop
    obtain ⟨f, hlive, hf⟩ := hloops a
    rw [hf] at hloop
    obtain ⟨old, hold, rfl⟩ := Option.map_eq_some_iff.mp hloop
    exact ⟨old, hold, (hlive old).symm⟩
  refine ⟨?_, ?_, hheld, h.counted, h.distinct, h.tracked, h.covered⟩
  · intro a b la lb hla hlb halive hblive
    obtain ⟨la', hla', ha⟩ := hold a la hla
    obtain ⟨lb', hlb', hb⟩ := hold b lb hlb
    exact h.oneLoop a b la' lb' hla' hlb' (ha.trans halive) (hb.trans hblive)
  · intro i c hc hphase
    obtain ⟨loop, hloop, hlive⟩ := h.attached i c hc hphase
    obtain ⟨f, hsame, hf⟩ := hloops c.loop
    exact ⟨f loop, by rw [hf, hloop]; rfl, (hsame loop).trans hlive⟩

/-- Nothing is known of what the loops have to read. -/
lemma World.Inv.unread (h : w.Inv) {loops : List AcceptLoop}
    (hloops : ∀ a : Nat, ∃ unread : AcceptLoop → List CtaphidReport, loops[a]? =
      (w.loops[a]?).map fun loop => { loop with unread := unread loop }) :
    World.Inv { w with loops } := by
  refine h.loops (fun a => ?_) fun i c l hc hl => ?_
  · obtain ⟨unread, hunread⟩ := hloops a
    exact ⟨fun loop => { loop with unread := unread loop }, fun _ => rfl, hunread⟩
  · obtain ⟨loop, startedAt, timeout, hloop, hlease⟩ := h.held i c l hc hl
    obtain ⟨unread, hunread⟩ := hloops c.loop
    rw [hloop] at hunread
    exact ⟨_, startedAt, timeout, hunread, hlease⟩

end

/-! ## the events -/

section

namespace World.Inv

variable (h : w.Inv)
include h

lemma startLoop (hdead : ∀ loop ∈ w.loops, loop.live = false) (loop : AcceptLoop) :
    Inv { w with loops := w.loops ++ [loop] } := by
  have hkept : ∀ (a : Nat) l, w.loops[a]? = some l → (w.loops ++ [loop])[a]? = some l := by
    intro a l hl
    rw [List.getElem?_append_left (List.getElem?_eq_some_iff.mp hl).1, hl]
  have hlast : ∀ (a : Nat) l, (w.loops ++ [loop])[a]? = some l → l.live = true →
      a = w.loops.length := by
    intro a l hl hlive
    by_cases ha : a < w.loops.length
    · rw [List.getElem?_append_left ha] at hl
      have hfalse := hdead l (List.mem_of_getElem? hl)
      rw [hlive] at hfalse
      cases hfalse
    · have hlength := (List.getElem?_eq_some_iff.mp hl).1
      simp only [List.length_append, List.length_singleton] at hlength
      omega
  refine ⟨?_, ?_, ?_, h.counted, h.distinct, h.tracked, h.covered⟩
  · intro a b la lb hla hlb halive hblive
    rw [hlast a la hla halive, hlast b lb hlb hblive]
  · intro i c hc hphase
    obtain ⟨l, hl, hlive⟩ := h.attached i c hc hphase
    exact ⟨l, hkept _ l hl, hlive⟩
  · intro i c leaseId hc hlease
    obtain ⟨l, startedAt, timeout, hl, hleased⟩ := h.held i c leaseId hc hlease
    exact ⟨l, startedAt, timeout, hkept _ l hl, hleased⟩

lemma connect (hloop : w.loops[i]? = some loop) (hlive : loop.live = true)
    (hi : c.loop = i) (hphase : c.phase = .waiting deadline) (htoken : c.toToken = none) :
    Inv { w with connections := w.connections ++ [c] } := by
  refine h.connections ?_ ?_
  · intro j d hd
    rcases connect_cases hd with hd | rfl
    · exact h.placed hd
    · have hnone : d.phase.lease = none := by simp [hphase, lease]
      exact ⟨fun _ => ⟨loop, hi ▸ hloop, hlive⟩, by simp [hnone], by simp [hnone], by simp [htoken]⟩
  · intro j before report after hlog hchannel
    obtain ⟨d, hd, hcovers⟩ := h.covered j before report after hlog hchannel
    exact ⟨d, by rw [List.getElem?_append_left (List.getElem?_eq_some_iff.mp hd).1, hd], hcovers⟩

lemma stopLoop (hfree : ∀ c ∈ w.connections, c.loop = i → c.phase.lease = none) :
    (w.stopLoop i).Inv := by
  have hloops : ∀ a : Nat, (w.stopLoop i).loops[a]? =
      if a = i then (w.loops[a]?).map fun loop => { loop with live := false }
      else w.loops[a]? := by
    intro a
    simp only [World.stopLoop, List.getElem?_modify]
    by_cases ha : a = i
    · simp [ha]
    · simp [ha, Ne.symm ha]
  have hclosed : Inv { w with connections := (w.stopLoop i).connections } := by
    refine h.connections ?_ ?_
    · intro j d hd
      obtain ⟨c, hc, ⟨-, rfl⟩ | ⟨-, rfl⟩⟩ := stopLoop_cases hd
      · exact h.placed hc
      · exact (h.placed hc).closed
    · intro j before report after hlog hchannel
      obtain ⟨c, hc, hcovers⟩ := h.covered j before report after hlog hchannel
      by_cases hi : c.loop = i
      · refine ⟨{ c with phase := .closed }, by simp [World.stopLoop, hc, hi], ?_⟩
        -- a connection without a lease that has used a channel was closed before
        have hlease := hfree c (List.mem_of_getElem? hc) hi
        cases hphase : c.phase with
        | waiting deadline => exact absurd hcovers (Connection.not_covers_of_waiting hphase)
        | closed => simpa [Connection.Covers, hphase] using hcovers
        | relaying _ | cancelling _ _ => simp [hphase, lease] at hlease
      · exact ⟨c, by simp [World.stopLoop, hc, hi], hcovers⟩
  -- a connection that is open is of another loop
  have hother : ∀ (j : Nat) d, (w.stopLoop i).connections[j]? = some d → d.phase ≠ .closed →
      (w.stopLoop i).loops[d.loop]? = w.loops[d.loop]? := by
    intro j d hd hopen
    obtain ⟨c, hc, ⟨hne, rfl⟩ | ⟨-, rfl⟩⟩ := stopLoop_cases hd
    · rw [hloops, if_neg hne]
    · exact absurd rfl hopen
  refine ⟨?_, ?_, ?_, hclosed.counted, hclosed.distinct, hclosed.tracked, hclosed.covered⟩
  · have hlive : ∀ (a : Nat) l, (w.stopLoop i).loops[a]? = some l → l.live = true →
        w.loops[a]? = some l := by
      intro a l hl hlive
      rw [hloops] at hl
      by_cases ha : a = i
      · rw [if_pos ha] at hl
        obtain ⟨old, -, rfl⟩ := Option.map_eq_some_iff.mp hl
        simp at hlive
      · rwa [if_neg ha] at hl
    intro a b la lb hla hlb halive hblive
    exact h.oneLoop a b la lb (hlive a la hla halive) (hlive b lb hlb hblive) halive hblive
  · intro j d hd hopen
    rw [hother j d hd hopen]
    exact hclosed.attached j d hd hopen
  · intro j d l hd hl
    rw [hother j d hd (ne_closed_of_lease hl)]
    exact hclosed.held j d l hd hl

/-- The lease of the loop is free, so no connection is admitted. -/
lemma not_admitted (hat : w.At i c loop) (hphase : c.phase = .waiting deadline)
    (hfree : loop.state.lease = .available) :
    ∀ j l, ¬ w.Admitted j l := by
  intro j l hj
  obtain ⟨d, hd, hl⟩ := hj
  have hsame := h.same_loop hat.connection (by simp [hphase]) hd (ne_closed_of_lease hl)
  obtain ⟨l', startedAt, timeout, hl', hleased⟩ := h.held j d l hd hl
  rw [← hsame, hat.loop] at hl'
  cases hl'
  rw [hfree] at hleased
  cases hleased

/-- The state of a loop may change while no connection is admitted. -/
lemma setState (hnone : ∀ j l, ¬ w.Admitted j l) (a : Nat) (state : SecurityKeyState) :
    (w.setState a state).Inv := by
  refine h.loops (fun b => ?_) fun j d l hd hl => absurd ⟨d, hd, hl⟩ (hnone j l)
  by_cases hb : b = a
  · exact ⟨fun loop => { loop with state }, fun _ => rfl, (getElem?_setState b).trans (if_pos hb)⟩
  · refine ⟨id, fun _ => rfl, (getElem?_setState b).trans ?_⟩
    rw [if_neg hb, Option.map_id_fun, id]

/-- The first lease after none: the only admitted connection is the one that gets it. -/
lemma firstLease (hat : w.At i c loop) (hphase : c.phase = .waiting deadline)
    (hnone : ∀ j l, ¬ w.Admitted j l)
    (hlease : loop.state.lease = .leased loop.vmId w.nextLease startedAt timeout) :
    Inv { w.setConnection i { c with phase := .relaying w.nextLease } with
      nextLease := w.nextLease + 1 } := by
  have hadmitted : ∀ j l, (w.setConnection i { c with phase := .relaying w.nextLease }).Admitted
      j l → j = i ∧ l = w.nextLease := by
    intro j l hj
    obtain ⟨d, hd, hl⟩ := hj
    rcases setConnection_cases hat.connection hd with ⟨hij, rfl⟩ | hd
    · cases hl
      exact ⟨hij, rfl⟩
    · exact absurd ⟨d, hd, hl⟩ (hnone j l)
  refine ⟨h.oneLoop, ?_, ?_, ?_, ?_, ?_, ?_⟩
  · intro j d hd hopen
    rcases setConnection_cases hat.connection hd with ⟨rfl, rfl⟩ | hd
    · exact h.attached j c hat.connection (by simp [hphase])
    · exact h.attached j d hd hopen
  · intro j d l hd hl
    obtain ⟨rfl, rfl⟩ := hadmitted j l ⟨d, hd, hl⟩
    have hd := (getElem?_setConnection hat.connection _ j).symm.trans hd
    rw [if_pos rfl] at hd
    cases hd
    exact ⟨loop, startedAt, timeout, hat.loop, hlease⟩
  · intro j l hj
    obtain ⟨-, rfl⟩ := hadmitted j l hj
    exact Nat.lt_succ_self _
  · intro j k l hj hk
    rw [(hadmitted j l hj).1, (hadmitted k l hk).1]
  · intro j d report hd htoken hchannel
    rcases setConnection_cases hat.connection hd with ⟨rfl, rfl⟩ | hd
    · exact h.tracked j c report hat.connection htoken hchannel
    · exact h.tracked j d report hd htoken hchannel
  · intro j before report after hlog hchannel
    obtain ⟨d, hd, hcovers⟩ := h.covered j before report after hlog hchannel
    by_cases hij : j = i
    · subst hij
      rw [hat.connection] at hd
      cases hd
      exact absurd hcovers (Connection.not_covers_of_waiting hphase)
    · exact ⟨d, by rw [← hd]; exact (getElem?_setConnection hat.connection _ j).trans (if_neg hij),
        hcovers⟩

lemma granted (hat : w.At i c loop) (hphase : c.phase = .waiting deadline)
    (hfree : loop.state.lease = .available) (state : SecurityKeyState)
    (hstate : state.lease = .leased loop.vmId w.nextLease startedAt timeout) :
    Inv { (w.setState c.loop state).setConnection i
      { c with phase := .relaying w.nextLease } with nextLease := w.nextLease + 1 } := by
  have hnone := h.not_admitted hat hphase hfree
  have hat' : (w.setState c.loop state).At i c { loop with state } :=
    ⟨hat.connection, by rw [getElem?_setState, if_pos rfl, hat.loop]; rfl⟩
  exact (h.setState hnone c.loop state).firstLease hat' hphase hnone hstate

/-- A connection that has cancelled everything gives its lease back. -/
lemma release (hat : w.At i c loop) (hphase : c.phase = .cancelling leaseId [])
    (state : SecurityKeyState) :
    ((w.setState c.loop state).setConnection i { c with phase := .closed }).Inv := by
  have hclosed : (w.setConnection i { c with phase := .closed }).Inv := by
    refine h.setConnection hat.connection (h.placed hat.connection).closed ?_
    intro before report after hlog hcovers
    simpa [Connection.Covers, hphase] using hcovers
  refine hclosed.setState ?_ c.loop state
  intro j l hj
  have hi : w.Admitted i leaseId := ⟨c, hat.connection, by simp [hphase, lease]⟩
  rw [admitted_setConnection hat.connection] at hj
  by_cases hij : j = i
  · simp [hij, lease] at hj
  · rw [if_neg hij] at hj
    exact hij (h.admitted_unique hj hi)

/-- A channel whose CANCEL is the last entry. -/
lemma cancelled (hat : w.At i c loop)
    (hphase : c.phase = .cancelling leaseId (cid :: rest)) :
    ((w.setConnection i { c with phase := .cancelling leaseId rest }).write
      (.cancelled i (buildCancelPacket cid)) (buildCancelPacket cid)).Inv := by
  have hwritten := h.append (.cancelled i (buildCancelPacket cid))
    (insert (channel (buildCancelPacket cid)) w.busy) (by simp)
  refine hwritten.setConnection hat.connection
    ((hwritten.placed hat.connection).cancelling (by rw [hphase, lease]) rest) ?_
  intro before report after hlog hcovers
  rcases Trace.snoc_eq_append_cons hlog with ⟨-, hsame, -⟩ | ⟨after', rfl, -⟩
  · cases hsame
  · simp only [Connection.Covers, hphase, List.mem_cons] at hcovers ⊢
    rcases hcovers with (hcid | hrest) | hafter
    · exact .inr (by simp [hcid])
    · exact .inl hrest
    · exact .inr hafter

end World.Inv

end

lemma subset_trackRequestCid (report : CtaphidReport) (cids : Finset Cid) :
    cids ⊆ trackRequestCid report cids := by
  unfold trackRequestCid
  split
  · exact Finset.subset_insert _ _
  · exact Finset.Subset.refl _

lemma mem_trackRequestCid (h : isChannel (channel report) = true) (cids : Finset Cid) :
    channel report ∈ trackRequestCid report cids := by
  unfold trackRequestCid
  rw [if_pos h]
  exact Finset.mem_insert_self _ _

lemma subset_trackResponseCid (report : CtaphidReport) (cids : Finset Cid) :
    cids ⊆ trackResponseCid report cids := by
  unfold trackResponseCid
  dsimp only
  split
  · exact Finset.Subset.refl _
  · split
    · exact Finset.subset_insert _ _
    · exact Finset.Subset.refl _

lemma World.Inv.step (h : w.Inv) (horderly : w.Orderly event) (hmove : Moves w event w') :
    w'.Inv := by
  cases hmove with
  | startLoop vmId label => exact h.startLoop horderly _
  | stopLoop i => exact h.stopLoop horderly
  | connect hloop hlive => exact h.connect hloop hlive rfl rfl rfl
  | granted hat hphase hfree =>
    have hexpired := horderly _ hat.connection _ hat.loop
    have hsame : ∀ {s : SecurityKeyState} {now : Nat}, s.lease.isExpired now = false →
        s.expireStale now = s := by
      intro s now hnot
      simp [SecurityKeyState.expireStale, hnot]
    rw [hsame hexpired] at hfree
    exact h.granted hat hphase hfree _ rfl
  | @refused i c loop deadline c' now hat hphase hc' =>
    rcases hc' with rfl | rfl
    · exact h.setConnection hat.connection (h.placed hat.connection) fun _ _ _ _ => id
    · refine h.setConnection hat.connection (h.placed hat.connection).closed ?_
      intro before report after _ hcovers
      exact absurd hcovers (Connection.not_covers_of_waiting hphase)
  | @receive i c loop leaseId report hat hphase hempty =>
    refine h.setConnection hat.connection { h.placed hat.connection with tracked := ?_ } ?_
    · intro r hr hchannel
      cases hr
      exact mem_trackRequestCid hchannel _
    · intro before r after _ hcovers
      simp only [Connection.Covers, hphase] at hcovers ⊢
      exact subset_trackRequestCid report _ hcovers
  | @forward i c loop leaseId report hat hphase hreport =>
    have hwritten := h.append (.forwarded i report) (insert (channel report) w.busy) (by
      intro j r hsame hchannel
      cases hsame
      refine ⟨c, hat.connection, ?_⟩
      simp only [Connection.Covers, hphase]
      exact h.tracked i c report hat.connection hreport hchannel)
    exact hwritten.setConnection hat.connection
      { hwritten.placed hat.connection with tracked := by simp } fun _ _ _ _ hcovers => hcovers
  | @read i c loop leaseId report unread hat hphase hempty hunread =>
    have hset : (w.setConnection i { c with
        activeCids := trackResponseCid report c.activeCids, toGuest := some report }).Inv := by
      refine h.setConnection hat.connection { h.placed hat.connection with tracked := ?_ } ?_
      · intro r hr hchannel
        exact subset_trackResponseCid report _ (h.tracked i c r hat.connection hr hchannel)
      · intro before r after _ hcovers
        simp only [Connection.Covers, hphase] at hcovers ⊢
        exact subset_trackResponseCid report _ hcovers
    refine hset.unread fun a => ?_
    by_cases ha : a = c.loop
    · exact ⟨fun _ => unread, by simp [ha, World.setConnection]⟩
    · exact ⟨fun loop => loop.unread, by simp [Ne.symm ha, World.setConnection]⟩
  | @deliver i c loop leaseId report hat hphase hreport =>
    have hlogged := h.append (.delivered i report) w.busy (by simp)
    exact hlogged.setConnection hat.connection { hlogged.placed hat.connection with }
      fun _ _ _ _ hcovers => hcovers
  | @finish i c loop leaseId order hat hphase horder =>
    have hplaced := (h.placed hat.connection).cancelling (by rw [hphase, lease]) order
    refine h.setConnection hat.connection { hplaced with tracked := by simp } ?_
    intro before report after _ hcovers
    simp only [Connection.Covers, hphase] at hcovers ⊢
    rw [← horder, List.mem_toFinset] at hcovers
    exact .inl hcovers
  | cancelled hat hphase => exact h.cancelled hat hphase
  | cancelFailed hat hphase => cases horderly
  | release hat hphase => exact h.release hat hphase _
  | @emit report hchannel =>
    have hlogged := h.append (.emitted report) w.busy (by simp)
    refine hlogged.unread fun a => ?_
    exact ⟨fun loop => loop.unread ++ [report], by simp⟩
  | settle cid =>
    exact ⟨h.oneLoop, h.attached, h.held, h.counted, h.distinct, h.tracked, h.covered⟩

lemma World.Inv.init : World.init.Inv := by
  refine ⟨?_, ?_, ?_, ?_, ?_, ?_, ?_⟩ <;> simp [World.init, World.Admitted]

/-! ## one session -/

/-- At most one connection is admitted, only an admitted one writes to the token or
delivers its reports, and every other connection has cancelled the channels it used. -/
structure World.Exclusive (w : World) : Prop where
  unique : ∀ i j leaseId leaseId', w.Admitted i leaseId → w.Admitted j leaseId' → i = j
  relays : ∀ i w', w.step (.forward i) = some w' ∨ w.step (.deliver i) = some w' →
    ∃ leaseId, w.Admitted i leaseId
  settled : ∀ i j leaseId, w.Admitted j leaseId → i ≠ j → Settled w.log i

lemma World.Inv.exclusive (h : w.Inv) : w.Exclusive := by
  refine ⟨fun i j l l' hi hj => h.admitted_unique hi hj, ?_, ?_⟩
  · intro i w' hstep
    rcases hstep with hstep | hstep
    · cases moves_of_step hstep with
      | forward hat hphase hreport =>
        exact ⟨_, _, hat.connection, by rw [hphase, lease]⟩
    · cases moves_of_step hstep with
      | deliver hat hphase hreport =>
        exact ⟨_, _, hat.connection, by rw [hphase, lease]⟩
  · intro i j l hj hij before report after hlog hchannel
    obtain ⟨c, hc, hcovers⟩ := h.covered i before report after hlog hchannel
    -- `j` is the only admitted connection, so this one is closed
    have hnone : ∀ l, c.phase.lease ≠ some l := by
      intro l' hl
      exact hij (h.admitted_unique ⟨c, hc, hl⟩ hj)
    cases hphase : c.phase with
    | waiting deadline => exact absurd hcovers (Connection.not_covers_of_waiting hphase)
    | closed => simpa [Connection.Covers, hphase] using hcovers
    | relaying _ | cancelling _ _ => simp [hphase, lease] at hnone

theorem one_active_session {events : List Event}
    (h : Trace.Run (· = World.init) (fun _ w event w' => w.Orderly event ∧
      w.step event = some w') events w) : w.Exclusive := by
  have hinv : w.Inv := by
    refine h.preserves World.Inv.init ?_
    intro _ s e s' ih hstep
    exact ih.step hstep.1 (moves_of_step hstep.2)
  exact hinv.exclusive

/-- A request on channel 1. -/
def ping : CtaphidReport := buildInitPacket 1 0x81 0 []

/-- A guest uses a channel and ends, and the next one is admitted. -/
def handedOver : List Event :=
  [.startLoop "work" "key", .connect 0 true 0, .connect 0 true 1, .acquire 0 2,
    .receive 0 ping, .forward 0, .acquire 1 3, .finish 0 [1], .cancel 0 true, .release 0,
    .acquire 1 4]

theorem handedOver_exclusive :
    ∃ w, Trace.Run (· = World.init) (fun _ w event w' => w.Orderly event ∧
        w.step event = some w') handedOver w ∧
      w.log = [.forwarded 0 ping, .cancelled 0 (buildCancelPacket 1)] ∧
      (∃ c ∈ w.connections, c.phase = .relaying 2) ∧ w.Exclusive := by
  obtain ⟨w, hrun, hlog, hrelays⟩ := Trace.Run.exists_of_guarded (f := World.step)
    (c := World.Orderly) (P := fun w => w.log = [.forwarded 0 ping,
      .cancelled 0 (buildCancelPacket 1)] ∧ ∃ c ∈ w.connections, c.phase = .relaying 2)
    World.init handedOver
  exact ⟨w, hrun, hlog, hrelays, one_active_session hrun⟩

/-- The lease is the loop's: two VMs with one token, each with a session on it. -/
theorem two_active_sessions :
    ∃ w, Trace.Run (· = World.init) (fun _ w event w' => w.step event = some w')
        [.startLoop "work" "key", .startLoop "personal" "key", .connect 0 true 0,
          .connect 1 true 0, .acquire 0 1, .acquire 1 1, .receive 0 ping, .receive 1 ping,
          .forward 0, .forward 1] w ∧
      w.log = [.forwarded 0 ping, .forwarded 1 ping] ∧ ¬ w.Exclusive := by
  obtain ⟨w, hrun, hlog, hzero, hone⟩ := Trace.Run.exists_of_foldlM (f := World.step)
    (P := fun w => w.log = [.forwarded 0 ping, .forwarded 1 ping] ∧
      (w.connections[0]?.bind fun c => c.phase.lease) = some 1 ∧
      (w.connections[1]?.bind fun c => c.phase.lease) = some 2) World.init
    [.startLoop "work" "key", .startLoop "personal" "key", .connect 0 true 0,
      .connect 1 true 0, .acquire 0 1, .acquire 1 1, .receive 0 ping, .receive 1 ping,
      .forward 0, .forward 1]
  refine ⟨w, hrun, hlog, fun hexclusive => ?_⟩
  have hsame := hexclusive.unique 0 1 1 2 (Option.bind_eq_some_iff.mp hzero)
    (Option.bind_eq_some_iff.mp hone)
  cases hsame

end D2b.Daemon.SecurityKey

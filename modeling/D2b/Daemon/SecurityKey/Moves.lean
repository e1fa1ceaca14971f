import D2b.Daemon.SecurityKey

/-!
# D2b.Daemon.SecurityKey.Moves

What each event does, said once for the results about runs.
-/

namespace D2b.Daemon.SecurityKey

/-- The connection and the loop it belongs to. -/
structure World.At (w : World) (i : Nat) (c : Connection) (loop : AcceptLoop) : Prop where
  connection : w.connections[i]? = some c
  loop : w.loops[c.loop]? = some loop

/-- A step, with what made it possible. -/
inductive Moves (w : World) : Event → World → Prop where
  | startLoop (vmId label : String) :
      Moves w (.startLoop vmId label) { w with loops := w.loops ++ [{
        vmId, state := { SecurityKeyState.new label with enabledVms := [vmId] }, live := true,
        unread := [] }] }
  | stopLoop (i : Nat) : Moves w (.stopLoop i) (w.stopLoop i)
  | connect (hloop : w.loops[i]? = some loop) (hlive : loop.live = true) :
      Moves w (.connect i true now) { w with connections := w.connections ++ [{
        loop := i, phase := .waiting (now + queueWaitTimeout), activeCids := ∅, toToken := none,
        toGuest := none }] }
  | granted (hat : w.At i c loop) (hphase : c.phase = .waiting deadline)
      (hfree : (loop.state.expireStale now).lease = .available) :
      Moves w (.acquire i now) { (w.setState c.loop { loop.state.expireStale now with
          lease := .leased loop.vmId w.nextLease now ceremonyTimeout }).setConnection i
        { c with phase := .relaying w.nextLease } with nextLease := w.nextLease + 1 }
  | refused (hat : w.At i c loop) (hphase : c.phase = .waiting deadline)
      (hc' : c' = c ∨ c' = { c with phase := .closed }) :
      Moves w (.acquire i now) (w.setConnection i c')
  | receive (hat : w.At i c loop) (hphase : c.phase = .relaying leaseId)
      (hempty : c.toToken = none) :
      Moves w (.receive i report) (w.setConnection i
        { c with activeCids := trackRequestCid report c.activeCids, toToken := some report })
  | forward (hat : w.At i c loop) (hphase : c.phase = .relaying leaseId)
      (hreport : c.toToken = some report) :
      Moves w (.forward i)
        ((w.setConnection i { c with toToken := none }).write (.forwarded i report) report)
  | read (hat : w.At i c loop) (hphase : c.phase = .relaying leaseId) (hempty : c.toGuest = none)
      (hunread : loop.unread = report :: unread) :
      Moves w (.read i) { w.setConnection i
          { c with activeCids := trackResponseCid report c.activeCids, toGuest := some report }
        with loops := w.loops.modify c.loop fun loop => { loop with unread } }
  | deliver (hat : w.At i c loop) (hphase : c.phase = .relaying leaseId)
      (hreport : c.toGuest = some report) :
      Moves w (.deliver i) { w.setConnection i { c with toGuest := none } with
        log := w.log ++ [.delivered i report] }
  | finish (hat : w.At i c loop) (hphase : c.phase = .relaying leaseId)
      (horder : order.toFinset = c.activeCids) :
      Moves w (.finish i order) (w.setConnection i
        { c with phase := .cancelling leaseId order, toToken := none, toGuest := none })
  | cancelled (hat : w.At i c loop) (hphase : c.phase = .cancelling leaseId (cid :: rest)) :
      Moves w (.cancel i true)
        ((w.setConnection i { c with phase := .cancelling leaseId rest }).write
          (.cancelled i (buildCancelPacket cid)) (buildCancelPacket cid))
  | cancelFailed (hat : w.At i c loop) (hphase : c.phase = .cancelling leaseId (cid :: rest)) :
      Moves w (.cancel i false) (w.setConnection i { c with phase := .cancelling leaseId rest })
  | release (hat : w.At i c loop) (hphase : c.phase = .cancelling leaseId []) :
      Moves w (.release i)
        ((w.setState c.loop (loop.state.releaseLease loop.vmId leaseId)).setConnection i
          { c with phase := .closed })
  | emit (hchannel : channel report = broadcastCid ∨ channel report ∈ w.busy) :
      Moves w (.emit report) { w with
        loops := w.loops.map fun loop => { loop with unread := loop.unread ++ [report] }
        log := w.log ++ [.emitted report] }
  | settle (cid : Cid) : Moves w (.settle cid) { w with busy := w.busy.erase cid }

variable {w : World}

lemma getElem?_setConnection (hc : w.connections[i]? = some c) (c' : Connection) (j : Nat) :
    (w.setConnection i c').connections[j]? = if j = i then some c' else w.connections[j]? := by
  have hlength : i < w.connections.length := (List.getElem?_eq_some_iff.mp hc).1
  simp only [World.setConnection, List.getElem?_set]
  by_cases hij : j = i
  · simp [hij, hlength]
  · simp [hij, Ne.symm hij]

/-- A connection after a write to one of them is the written one, or is unchanged. -/
lemma setConnection_cases (hc : w.connections[i]? = some c)
    (hd : (w.setConnection i c').connections[j]? = some d) :
    (j = i ∧ d = c') ∨ w.connections[j]? = some d := by
  rw [getElem?_setConnection hc] at hd
  by_cases hij : j = i
  · rw [if_pos hij] at hd
    cases hd
    exact .inl ⟨hij, rfl⟩
  · rw [if_neg hij] at hd
    exact .inr hd

/-- A connection after one more is an old one or the new one. -/
lemma connect_cases {j : Nat} (hd : (w.connections ++ [c])[j]? = some d) :
    w.connections[j]? = some d ∨ d = c := by
  by_cases hj : j < w.connections.length
  · rw [List.getElem?_append_left hj] at hd
    exact .inl hd
  · rw [List.getElem?_append_right (by omega)] at hd
    exact .inr (List.mem_singleton.mp (List.mem_of_getElem? hd))

/-- A connection after its loop was stopped is closed. -/
lemma stopLoop_cases {j : Nat} (hd : (w.stopLoop i).connections[j]? = some d) :
    ∃ c, w.connections[j]? = some c ∧
      (c.loop ≠ i ∧ d = c ∨ c.loop = i ∧ d = { c with phase := .closed }) := by
  simp only [World.stopLoop, List.getElem?_map, Option.map_eq_some_iff] at hd
  obtain ⟨c, hc, hd⟩ := hd
  by_cases hi : c.loop = i
  · rw [if_pos hi] at hd
    exact ⟨c, hc, .inr ⟨hi, hd.symm⟩⟩
  · rw [if_neg hi] at hd
    exact ⟨c, hc, .inl ⟨hi, hd.symm⟩⟩

lemma getElem?_setState (j : Nat) : (w.setState i state).loops[j]? =
      if j = i then (w.loops[j]?).map fun loop => { loop with state } else w.loops[j]? := by
  simp only [World.setState, List.getElem?_modify]
  by_cases hij : j = i
  · simp [hij]
  · simp [hij, Ne.symm hij]

/-- A lease that is refused is not expired, so the attempt leaves the state as it is. -/
lemma expireStale_of_leased {s : SecurityKeyState} (h : (s.expireStale now).lease ≠ .available) :
    s.expireStale now = s := by
  unfold SecurityKeyState.expireStale at h ⊢
  split at h
  · exact absurd rfl h
  · next hexpired => rw [if_neg hexpired]

lemma setState_self (h : w.loops[i]? = some loop) : w.setState i loop.state = w := by
  have hloops : w.loops.modify i (fun l => { l with state := loop.state }) = w.loops := by
    apply List.ext_getElem?
    intro j
    rw [List.getElem?_modify]
    by_cases hij : i = j
    · subst hij
      simp [h]
    · simp [hij]
  unfold World.setState
  rw [hloops]

lemma moves_acquire {now : Nat} (hat : w.At i c loop) (hphase : c.phase = .waiting deadline) :
    Moves w (.acquire i now) (w.acquire i c loop now deadline) := by
  unfold World.acquire SecurityKeyState.tryAcquireLease
  cases hlease : (loop.state.expireStale now).lease with
  | available =>
    simp only [hlease]
    exact .granted hat hphase hlease
  | leased vmId leaseId startedAt timeout =>
    have hsame : loop.state.expireStale now = loop.state := expireStale_of_leased (by simp [hlease])
    rw [hsame] at hlease
    simp only [hsame, hlease, setState_self hat.loop]
    refine .refused hat hphase ?_
    split
    · exact .inr rfl
    · exact .inl rfl

lemma moves_stepConnection (hat : w.At i c loop) (hi : event.connection? = some i)
    (h : w.stepConnection i c loop event = some w') : Moves w event w' := by
  cases event <;> cases hi <;> simp only [World.stepConnection] at h <;> split at h <;> try cases h
  · next hphase => exact moves_acquire hat hphase
  · next hphase hempty => exact .receive hat hphase hempty
  · next hphase hreport => exact .forward hat hphase hreport
  · next hphase hempty hunread => exact .read hat hphase hempty hunread
  · next hphase hreport => exact .deliver hat hphase hreport
  · next hphase =>
    split at h
    · next horder =>
      cases h
      exact .finish hat hphase horder.2
    · cases h
  · next written _ leaseId cid rest hphase =>
    cases written with
    | true =>
      cases h
      exact .cancelled hat hphase
    | false =>
      cases h
      exact .cancelFailed hat hphase
  · next hphase => exact .release hat hphase

lemma moves_of_step (h : w.step event = some w') : Moves w event w' := by
  unfold World.step at h
  split at h
  · cases h
    exact .startLoop _ _
  · cases h
    exact .stopLoop _
  · next i authenticated now =>
    split at h
    · next loop hloop =>
      split at h
      · next hadmitted =>
        simp only [Bool.and_eq_true] at hadmitted
        obtain ⟨⟨hlive, rfl⟩, -⟩ := hadmitted
        cases h
        exact .connect hloop hlive
      · cases h
    · cases h
  · split at h
    · next hchannel =>
      cases h
      exact .emit hchannel
    · cases h
  · cases h
    exact .settle _
  · split at h
    · cases h
    · next i hi =>
      split at h
      · cases h
      · next c hc =>
        split at h
        · cases h
        · next loop hloop => exact moves_stepConnection ⟨hc, hloop⟩ hi h

end D2b.Daemon.SecurityKey

import D2b.Daemon.PidfdTable

/-!
# D2b.Daemon.PidfdTable.Evidence

What is known of the processes that the table and the wait calls speak about.

A notification names a pid and a runner id, and neither is a process.  The
invariant says that every process that is registered or waited for is the only one
that a notification with its pid or its runner id can be about; events that only
take entries, notifications or calls away keep it.
-/

namespace D2b.Daemon

open Function List Option

variable {w w' : World} {p q : Process} {status : ChildExitStatus}

/-! ## what is known of a process -/

namespace World

/-- The process has exited, with this status. -/
def ExitedWith (w : World) (p : Process) (status : ChildExitStatus) : Prop :=
  ∃ info, w.infoOf p = some info ∧ info.exit = some status

/-- The broker or the daemon holds the notification. -/
def Carries (w : World) (n : ChildReapedNotification) : Prop :=
  n ∈ w.pending ∨ ∃ pid : Int, w.log[pid]? = some n

/-- A notification for the process, under this runner id, is there or ahead. -/
def Outstanding (w : World) (q : Process) (runnerId : String) : Prop :=
  (∃ info ∈ w.processes, info.process = q ∧ info.runnerId = some runnerId ∧ info.reaped = false) ∨
    ∃ n, w.Carries n ∧ n.process = q ∧ n.runnerId = runnerId

/-- A notification that is found by the pid or by the runner id is the process's
own. -/
def Sole (w : World) (p : Process) (runnerId : String) : Prop :=
  ∀ q runnerId', w.Outstanding q runnerId' → q.pid = p.pid ∨ runnerId' = runnerId → q = p

end World

lemma World.mem_of_infoOf (h : w.infoOf p = some info) : info ∈ w.processes ∧ info.process = p :=
  ⟨mem_of_find?_eq_some h, by simpa using find?_some h⟩

/-- The process that an unfinished call has found in the table. -/
def Call.waitsFor (call : Call) : Option Process :=
  match call.point with
  | .returned _ => none
  | _ => call.looked

/-- The process is registered or waited for under the runner id. -/
def World.Held (w : World) (p : Process) (runnerId : String) : Prop :=
  (∃ key, w.entries key = some p ∧ key.runnerId = runnerId) ∨
    ∃ call ∈ w.calls, call.waitsFor = some p ∧ call.key.runnerId = runnerId

/-- What a verdict says of a process. -/
def World.Justifies (w : World) (p : Process) : WaitTermination → Prop
  | .terminated => ∃ status, w.ExitedWith p status
  | .terminatedByBroker status => w.ExitedWith p status
  | .timedOut => True

/-- The order of events that keeps notifications apart, and a probe that can read
`/proc`. -/
def World.Orderly (w : World) : Event → Prop
  | .spawn q (some runnerId) =>
    ∀ p runnerId', w.Held p runnerId' → p.pid ≠ q.pid ∧ runnerId' ≠ runnerId
  | .register key q =>
    ∀ p runnerId, w.Outstanding p runnerId → p ≠ q → p.pid ≠ q.pid ∧ runnerId ≠ key.runnerId
  | .advance index (.proc (some _) _) =>
    ∀ call p, w.calls[index]? = some call → call.point ≠ .probeRead p
  | _ => True

/-! ## the invariant -/

/-- What a call at each point has found out. -/
def Call.Ok (w : World) (call : Call) : Prop :=
  match call.point with
  | .waitid p | .takeLog p | .readProc p _ | .probeRead p => call.looked = some p
  | .remove p verdict => call.looked = some p ∧ w.Justifies p verdict
  | .poll | .takeFor => ∃ p, call.looked = some p
  | .returned (.ok verdict) => ∀ p, call.looked = some p → w.Justifies p verdict
  | _ => True

structure World.Inv (w : World) : Prop where
  /-- a pid has one process that is not reaped -/
  pids : ∀ i ∈ w.processes, ∀ j ∈ w.processes, i.reaped = false → j.reaped = false →
    i.process.pid = j.process.pid → i = j
  running : ∀ i ∈ w.processes, i.exit = none → i.reaped = false
  genuine : ∀ n, w.Carries n → w.ExitedWith n.process n.exitStatus ∧ n.pid = n.process.pid
  keyed : ∀ (pid : Int) n, w.log[pid]? = some n → n.pid = pid
  held : ∀ p runnerId, w.Held p runnerId → (w.infoOf p).isSome = true ∧ w.Sole p runnerId
  calls : ∀ call ∈ w.calls, call.Ok w

/-- Nothing that was found out is lost. -/
def World.Later (w w' : World) : Prop :=
  ∀ p info, w.infoOf p = some info →
    ∃ info', w'.infoOf p = some info' ∧ ∀ status, info.exit = some status → info'.exit = some status

lemma World.Later.of_processes (h : w'.processes = w.processes) : w.Later w' := by
  intro p info hinfo
  exact ⟨info, by rw [infoOf, h]; exact hinfo, fun _ h => h⟩

lemma World.Later.exitedWith (h : w.Later w') (hp : w.ExitedWith p status) :
    w'.ExitedWith p status := by
  obtain ⟨info, hinfo, hexit⟩ := hp
  obtain ⟨info', hinfo', hkeep⟩ := h p info hinfo
  exact ⟨info', hinfo', hkeep status hexit⟩

lemma World.Later.isSome_infoOf (h : w.Later w') (hp : (w.infoOf p).isSome = true) :
    (w'.infoOf p).isSome = true := by
  obtain ⟨info, hinfo⟩ := isSome_iff_exists.mp hp
  obtain ⟨info', hinfo', -⟩ := h p info hinfo
  rw [hinfo']
  rfl

lemma World.Later.justifies (h : w.Later w') (hp : w.Justifies p verdict) :
    w'.Justifies p verdict := by
  cases verdict with
  | terminated =>
    obtain ⟨status, hstatus⟩ := hp
    exact ⟨status, h.exitedWith hstatus⟩
  | terminatedByBroker status => exact h.exitedWith hp
  | timedOut => trivial

lemma World.Later.ok (h : w.Later w') {call : Call} (hcall : call.Ok w) : call.Ok w' := by
  unfold Call.Ok at hcall ⊢
  cases hpoint : call.point with
  | remove p verdict =>
    rw [hpoint] at hcall
    exact ⟨hcall.1, h.justifies hcall.2⟩
  | returned result =>
    rw [hpoint] at hcall
    cases result with
    | error e => trivial
    | ok verdict => exact fun p hp => h.justifies (hcall p hp)
  | _ =>
    rw [hpoint] at hcall
    exact hcall

/-- A process that is not seen to run has exited. -/
lemma World.Inv.exited_of_not_sameStartTime (h : w.Inv) (hp : (w.infoOf p).isSome = true)
    (hgone : w.sameStartTime p = false) : ∃ status, w.ExitedWith p status := by
  obtain ⟨info, hinfo⟩ := isSome_iff_exists.mp hp
  cases hexit : info.exit with
  | some status => exact ⟨status, info, hinfo, hexit⟩
  | none =>
    obtain ⟨hmem, hself⟩ := World.mem_of_infoOf hinfo
    cases hfind : w.processes.find? fun i => decide (i.process.pid = p.pid) && i.exit.isNone with
    | none =>
      have hno := find?_eq_none.mp hfind info hmem
      simp [hself, hexit] at hno
    | some found =>
      have hfound : found.process.pid = p.pid ∧ found.exit = none := by
        simpa using find?_some hfind
      have hin : found ∈ w.processes := mem_of_find?_eq_some hfind
      have hsame := h.pids found hin info hmem (h.running found hin hfound.2)
        (h.running info hmem hexit) (by rw [hfound.1, hself])
      simp [sameStartTime, procStartTime, hfind, hsame, hself] at hgone

lemma World.exited_of_hasExited (h : w.hasExited p = true) : ∃ status, w.ExitedWith p status := by
  unfold hasExited at h
  cases hinfo : w.infoOf p with
  | none => simp [hinfo] at h
  | some info =>
    rw [hinfo, any_some, isSome_iff_exists] at h
    obtain ⟨status, hstatus⟩ := h
    exact ⟨status, info, hinfo, hstatus⟩

/-! ## steps that only take away -/

/-- Entries, notifications and calls may go, and no process changes. -/
structure World.Drains (w w' : World) : Prop where
  processes : w'.processes = w.processes
  carries : ∀ n, w'.Carries n → w.Carries n
  keyed : (∀ (pid : Int) n, w.log[pid]? = some n → n.pid = pid) →
    ∀ (pid : Int) n, w'.log[pid]? = some n → n.pid = pid
  entries : ∀ key p, w'.entries key = some p → w.entries key = some p
  calls : ∀ call ∈ w'.calls, call ∈ w.calls

namespace World

lemma Drains.later (h : w.Drains w') : w.Later w' := .of_processes h.processes

lemma Drains.outstanding (h : w.Drains w') (hq : w'.Outstanding q runnerId) :
    w.Outstanding q runnerId := by
  cases hq with
  | inl hinfo =>
    rw [h.processes] at hinfo
    exact .inl hinfo
  | inr hn =>
    obtain ⟨n, hcarries, hn⟩ := hn
    exact .inr ⟨n, h.carries n hcarries, hn⟩

lemma Drains.sole (h : w.Drains w') (hp : w.Sole p runnerId) : w'.Sole p runnerId :=
  fun q runnerId' hq => hp q runnerId' (h.outstanding hq)

lemma Drains.held (h : w.Drains w') (hp : w'.Held p runnerId) : w.Held p runnerId := by
  cases hp with
  | inl hentry =>
    obtain ⟨key, hkey, hid⟩ := hentry
    exact .inl ⟨key, h.entries key p hkey, hid⟩
  | inr hcall =>
    obtain ⟨call, hmem, hcall⟩ := hcall
    exact .inr ⟨call, h.calls call hmem, hcall⟩

lemma Inv.drains (hinv : w.Inv) (h : w.Drains w') : w'.Inv where
  pids := by
    rw [h.processes]
    exact hinv.pids
  running := by
    rw [h.processes]
    exact hinv.running
  genuine n hn := by
    obtain ⟨hexited, hpid⟩ := hinv.genuine n (h.carries n hn)
    exact ⟨h.later.exitedWith hexited, hpid⟩
  keyed := h.keyed hinv.keyed
  held p runnerId hp := by
    obtain ⟨hknown, hsole⟩ := hinv.held p runnerId (h.held hp)
    exact ⟨h.later.isSome_infoOf hknown, h.sole hsole⟩
  calls call hcall := h.later.ok (hinv.calls call (h.calls call hcall))

lemma Drains.refl (w : World) : w.Drains w :=
  ⟨rfl, fun _ h => h, fun h => h, fun _ _ h => h, fun _ h => h⟩

lemma get_insertAll :
    ∀ {log : BrokerReapLog} {pid : Int} {n : ChildReapedNotification},
      (log.insertAll notifications)[pid]? = some n →
      log[pid]? = some n ∨ (n ∈ notifications ∧ n.pid = pid) := by
  induction notifications with
  | nil => exact fun h => .inl h
  | cons first rest ih =>
    intro log pid n h
    cases ih h with
    | inr hrest => exact .inr ⟨mem_cons_of_mem _ hrest.1, hrest.2⟩
    | inl hhead =>
      rw [BTreeMap.get_insert] at hhead
      by_cases hpid : first.pid = pid
      · rw [if_pos hpid, Option.some.injEq] at hhead
        exact .inr ⟨hhead ▸ mem_cons_self, hhead ▸ hpid⟩
      · rw [if_neg hpid] at hhead
        exact .inl hhead

lemma drains_deliver (w : World) : w.Drains w.deliver where
  processes := rfl
  carries n hn := by
    cases hn with
    | inl hpending => exact absurd hpending not_mem_nil
    | inr hlog =>
      obtain ⟨pid, hpid⟩ := hlog
      exact (get_insertAll hpid).elim (fun h => .inr ⟨pid, h⟩) fun h => .inl h.1
  keyed hkeyed pid n hn := (get_insertAll hn).elim (hkeyed pid n) fun h => h.2
  entries _ _ h := h
  calls _ h := h

lemma drains_log {log : BrokerReapLog}
    (h : ∀ (pid : Int) n, log[pid]? = some n → w.log[pid]? = some n) :
    w.Drains { w with log } where
  processes := rfl
  carries n hn := by
    cases hn with
    | inl hpending => exact .inl hpending
    | inr hlog =>
      obtain ⟨pid, hpid⟩ := hlog
      exact .inr ⟨pid, h pid n hpid⟩
  keyed hkeyed pid n hn := hkeyed pid n (h pid n hn)
  entries _ _ h := h
  calls _ h := h

lemma drains_erase (w : World) (pid : Int) : w.Drains { w with log := w.log.erase pid } := by
  refine drains_log fun pid' n h => ?_
  rw [BTreeMap.get_erase] at h
  by_cases hpid : pid = pid'
  · rw [if_pos hpid] at h
    cases h
  · rw [if_neg hpid] at h
    exact h

lemma drains_entries {entries : RunnerKey → Option Process}
    (h : ∀ key p, entries key = some p → w.entries key = some p) :
    w.Drains { w with entries } where
  processes := rfl
  carries _ hn := hn
  keyed hkeyed := hkeyed
  entries := h
  calls _ hcall := hcall

lemma drains_deregister (w : World) (key : RunnerKey) :
    w.Drains { w with entries := update w.entries key none } := by
  refine drains_entries fun key' p h => ?_
  by_cases hkey : key' = key
  · rw [hkey, update_self] at h
    cases h
  · rw [update_of_ne hkey] at h
    exact h

lemma drains_removeSame (w : World) (key : RunnerKey) (p : Process) :
    w.Drains (w.removeSame key p) := by
  unfold removeSame
  split
  · exact w.drains_deregister key
  · exact .refl w

lemma drains_lose (w : World) (count : Nat) :
    w.Drains { w with pending := w.pending.drop count } where
  processes := rfl
  carries _ hn := hn.imp_left mem_of_mem_drop
  keyed hkeyed := hkeyed
  entries _ _ h := h
  calls _ h := h

lemma drains_restart (w : World) :
    w.Drains { w with entries := fun _ => none, log := ∅, calls := [] } where
  processes := rfl
  carries n hn := by
    cases hn with
    | inl hpending => exact .inl hpending
    | inr hlog =>
      obtain ⟨pid, hpid⟩ := hlog
      simp at hpid
  keyed _ pid n hn := by simp at hn
  entries _ _ h := by cases h
  calls _ h := by cases h

/-! ## processes -/

section

variable (p : Process) (info : ProcessInfo) (status : ChildExitStatus)

lemma process_exitWith : (info.exitWith p status).process = info.process := by
  unfold ProcessInfo.exitWith
  split <;> rfl

lemma runnerId_exitWith : (info.exitWith p status).runnerId = info.runnerId := by
  unfold ProcessInfo.exitWith
  split <;> rfl

lemma reaped_exitWith : (info.exitWith p status).reaped = info.reaped := by
  unfold ProcessInfo.exitWith
  split <;> rfl

lemma process_reap : (info.reap p).process = info.process := by
  unfold ProcessInfo.reap
  split <;> rfl

lemma exit_reap : (info.reap p).exit = info.exit := by
  unfold ProcessInfo.reap
  split <;> rfl

end

/-- What is not reaped afterwards is another process. -/
lemma reap_of_unreaped {info : ProcessInfo} (h : (info.reap p).reaped = false) :
    info.reap p = info := by
  unfold ProcessInfo.reap at h ⊢
  split at h
  · cases h
  · next hne => rw [if_neg hne]

lemma mem_notification {info : ProcessInfo} (h : n ∈ info.notification) :
    info.runnerId = some n.runnerId ∧ info.exit = some n.exitStatus ∧ n.process = info.process ∧
      n.pid = info.process.pid := by
  unfold ProcessInfo.notification at h
  split at h
  · next runnerId status hrunner hexit =>
    rw [mem_singleton] at h
    subst h
    exact ⟨hrunner, hexit, rfl, rfl⟩
  · cases h

/-- Processes whose fields are updated. -/
lemma later_map (hprocess : ∀ i, (f i).process = i.process)
    (hexit : ∀ i status, i.exit = some status → (f i).exit = some status)
    (h : w'.processes = w.processes.map f) : w.Later w' := by
  intro p info hinfo
  refine ⟨f info, ?_, hexit info⟩
  have hsame : ((fun i => decide (i.process = p)) ∘ f) =
      fun i : ProcessInfo => decide (i.process = p) := by
    funext i
    simp [hprocess]
  rw [infoOf, h, find?_map, hsame]
  rw [infoOf] at hinfo
  rw [hinfo]
  rfl

lemma Inv.exit (hinv : w.Inv) (p : Process) (status : ChildExitStatus) :
    ({ w with processes := w.processes.map (.exitWith p status) } : World).Inv := by
  have hlater : w.Later { w with processes := w.processes.map (.exitWith p status) } := by
    refine later_map (process_exitWith p · status) (fun i status' hexit => ?_) rfl
    rw [ProcessInfo.exitWith, if_neg (by simp [hexit])]
    exact hexit
  refine ⟨?_, ?_, ?_, hinv.keyed, ?_, fun call hcall => hlater.ok (hinv.calls call hcall)⟩
  · intro i' hi' j' hj' hireaped hjreaped hpid
    obtain ⟨i, hi, rfl⟩ := mem_map.mp hi'
    obtain ⟨j, hj, rfl⟩ := mem_map.mp hj'
    rw [reaped_exitWith] at hireaped hjreaped
    rw [process_exitWith, process_exitWith] at hpid
    rw [hinv.pids i hi j hj hireaped hjreaped hpid]
  · intro i' hi' hexit
    obtain ⟨i, hi, rfl⟩ := mem_map.mp hi'
    rw [reaped_exitWith]
    by_cases hset : i.process = p ∧ i.exit = none
    · exact hinv.running i hi hset.2
    · rw [ProcessInfo.exitWith, if_neg hset] at hexit
      exact hinv.running i hi hexit
  · intro n hn
    obtain ⟨hexited, hpid⟩ := hinv.genuine n hn
    exact ⟨hlater.exitedWith hexited, hpid⟩
  · intro q runnerId hq
    obtain ⟨hknown, hsole⟩ := hinv.held q runnerId hq
    refine ⟨hlater.isSome_infoOf hknown, fun r runnerId' hr => hsole r runnerId' ?_⟩
    cases hr with
    | inr hn => exact .inr hn
    | inl hinfo =>
      obtain ⟨i', hi', hr, hid, hunreaped⟩ := hinfo
      obtain ⟨i, hi, rfl⟩ := mem_map.mp hi'
      rw [process_exitWith] at hr
      rw [runnerId_exitWith] at hid
      rw [reaped_exitWith] at hunreaped
      exact .inl ⟨i, hi, hr, hid, hunreaped⟩

lemma Inv.reap (hinv : w.Inv) {p : Process} {info : ProcessInfo} (hinfo : w.infoOf p = some info)
    (hexited : info.exit.isSome = true) (hunreaped : info.reaped = false) :
    ({ w with processes := w.processes.map (.reap p), pending := w.pending ++ info.notification } :
      World).Inv := by
  obtain ⟨hmem, hself⟩ := mem_of_infoOf hinfo
  have hlater : w.Later { w with
      processes := w.processes.map (.reap p), pending := w.pending ++ info.notification } := by
    refine later_map (process_reap p) (fun i status hi => ?_) rfl
    rw [exit_reap]
    exact hi
  have hcarries : ∀ n, World.Carries { w with
      processes := w.processes.map (.reap p), pending := w.pending ++ info.notification } n →
      w.Carries n ∨ n ∈ info.notification := by
    intro n hn
    cases hn with
    | inl hpending => exact (mem_append.mp hpending).imp_left .inl
    | inr hlog => exact .inl (.inr hlog)
  refine ⟨?_, ?_, ?_, hinv.keyed, ?_, fun call hcall => hlater.ok (hinv.calls call hcall)⟩
  · intro i' hi' j' hj' hireaped hjreaped hpid
    obtain ⟨i, hi, rfl⟩ := mem_map.mp hi'
    obtain ⟨j, hj, rfl⟩ := mem_map.mp hj'
    have hisame := reap_of_unreaped hireaped
    have hjsame := reap_of_unreaped hjreaped
    rw [hisame] at hireaped hpid ⊢
    rw [hjsame] at hjreaped hpid ⊢
    exact hinv.pids i hi j hj hireaped hjreaped hpid
  · intro i' hi' hrunning
    obtain ⟨i, hi, rfl⟩ := mem_map.mp hi'
    rw [exit_reap] at hrunning
    have hireaped := hinv.running i hi hrunning
    by_cases hip : i.process = p
    · have hsame := hinv.pids i hi info hmem hireaped hunreaped (by rw [hip, hself])
      rw [← hsame, hrunning] at hexited
      cases hexited
    · rw [ProcessInfo.reap, if_neg hip]
      exact hireaped
  · intro n hn
    cases hcarries n hn with
    | inl hold =>
      obtain ⟨hexited, hpid⟩ := hinv.genuine n hold
      exact ⟨hlater.exitedWith hexited, hpid⟩
    | inr hnew =>
      obtain ⟨-, hstatus, hprocess, hpid⟩ := mem_notification hnew
      rw [hprocess, hself]
      exact ⟨hlater.exitedWith ⟨info, hinfo, hstatus⟩, by rw [hpid, hself]⟩
  · intro q runnerId hq
    obtain ⟨hknown, hsole⟩ := hinv.held q runnerId hq
    refine ⟨hlater.isSome_infoOf hknown, fun r runnerId' hr => hsole r runnerId' ?_⟩
    cases hr with
    | inl hinfo' =>
      obtain ⟨i', hi', hr, hid, hireaped⟩ := hinfo'
      obtain ⟨i, hi, rfl⟩ := mem_map.mp hi'
      have hisame := reap_of_unreaped hireaped
      rw [hisame] at hr hid hireaped
      exact .inl ⟨i, hi, hr, hid, hireaped⟩
    | inr hn =>
      obtain ⟨n, hn, hr, hid⟩ := hn
      cases hcarries n hn with
      | inl hold => exact .inr ⟨n, hold, hr, hid⟩
      | inr hnew =>
        obtain ⟨hrunner, -, hprocess, -⟩ := mem_notification hnew
        exact .inl ⟨info, hmem, by rw [← hr, hprocess], by rw [hrunner, hid], hunreaped⟩

lemma Inv.spawn (hinv : w.Inv) (hfresh : w.fresh q = true)
    (horderly : w.Orderly (.spawn q runnerId)) :
    ({ w with processes := w.processes ++
      [{ process := q, runnerId, exit := none, reaped := false }] } : World).Inv := by
  have hfree : ∀ i ∈ w.processes, i.reaped = false → i.process.pid ≠ q.pid := by
    intro i hi hreaped
    have hall := all_eq_true.mp hfresh i hi
    simp [hreaped] at hall
    exact hall.2
  have hlater : w.Later { w with processes := w.processes ++
      [{ process := q, runnerId, exit := none, reaped := false }] } := by
    intro p info hinfo
    refine ⟨info, ?_, fun _ h => h⟩
    rw [infoOf] at hinfo ⊢
    rw [find?_append, hinfo]
    rfl
  refine ⟨?_, ?_, ?_, hinv.keyed, ?_, fun call hcall => hlater.ok (hinv.calls call hcall)⟩
  · intro i hi j hj hireaped hjreaped hpid
    rw [Trace.mem_snoc] at hi hj
    cases hi with
    | inl hi =>
      cases hj with
      | inl hj => exact hinv.pids i hi j hj hireaped hjreaped hpid
      | inr hj =>
        subst hj
        exact absurd hpid (hfree i hi hireaped)
    | inr hi =>
      subst hi
      cases hj with
      | inl hj => exact absurd hpid.symm (hfree j hj hjreaped)
      | inr hj => exact hj.symm
  · intro i hi hexit
    rw [Trace.mem_snoc] at hi
    cases hi with
    | inl hi => exact hinv.running i hi hexit
    | inr hi =>
      subst hi
      rfl
  · intro n hn
    obtain ⟨hexited, hpid⟩ := hinv.genuine n hn
    exact ⟨hlater.exitedWith hexited, hpid⟩
  · intro p runner hp
    obtain ⟨hknown, hsole⟩ := hinv.held p runner hp
    refine ⟨hlater.isSome_infoOf hknown, fun r runner' hr hfound => ?_⟩
    cases hr with
    | inr hn => exact hsole r runner' (.inr hn) hfound
    | inl hinfo =>
      obtain ⟨i, hi, hr, hid, hireaped⟩ := hinfo
      rw [Trace.mem_snoc] at hi
      cases hi with
      | inl hi => exact hsole r runner' (.inl ⟨i, hi, hr, hid, hireaped⟩) hfound
      | inr hi =>
        -- the new process shares neither the pid nor the runner id
        subst hi
        cases hr
        cases hid
        have happart := horderly p runner hp
        cases hfound with
        | inl hpid => exact absurd hpid.symm happart.1
        | inr hid => exact absurd hid.symm happart.2

lemma Inv.register (hinv : w.Inv) (hknown : ((w.infoOf q).bind (·.runnerId)) = some key.runnerId)
    (horderly : w.Orderly (.register key q)) :
    ({ w with entries := update w.entries key (some q) } : World).Inv := by
  refine ⟨hinv.pids, hinv.running, hinv.genuine, hinv.keyed, ?_, hinv.calls⟩
  intro p runnerId hp
  cases hp with
  | inr hcall => exact hinv.held p runnerId (.inr hcall)
  | inl hentry =>
    obtain ⟨key', hkey', hid⟩ := hentry
    have hkey' : update w.entries key (some q) key' = some p := hkey'
    by_cases heq : key' = key
    · rw [heq, update_self, Option.some.injEq] at hkey'
      subst hkey'
      subst heq
      obtain ⟨info, hinfo, -⟩ := bind_eq_some_iff.mp hknown
      refine ⟨isSome_iff_exists.mpr ⟨info, hinfo⟩, fun r runnerId' hr hfound => ?_⟩
      by_contra hne
      have happart := horderly r runnerId' hr hne
      cases hfound with
      | inl hpid => exact happart.1 hpid
      | inr hsame => exact happart.2 (hsame.trans hid.symm)
    · rw [update_of_ne heq] at hkey'
      exact hinv.held p runnerId (.inl ⟨key', hkey', hid⟩)

end World

end D2b.Daemon

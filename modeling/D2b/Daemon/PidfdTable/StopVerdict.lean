import D2b.Daemon.PidfdTable.Evidence

/-!
# D2b.Daemon.PidfdTable.StopVerdict

When a wait function says that a runner has terminated.

The log is searched by pid and by runner id, and neither names a process: a
notification that nobody took is found again by a later runner.  If no runner is
spawned while an earlier process of its pid or runner id is registered or waited
for, and none is registered while such a process has a notification ahead, every
verdict is about the process that the call found in the table, and so is the exit
status in it.
-/

namespace D2b.Daemon

open List Option

variable {w w' : World} {p : Process}

/-! ## calls -/

/-- What a step of a call for `key` does. -/
structure Advances (w : World) (key : RunnerKey) (c : Call) (w' : World) : Prop where
  drains : w.Drains w'
  sameKey : c.key = key
  ok : c.Ok w'
  waits : ∀ p, c.waitsFor = some p → w.Held p key.runnerId

section

variable {c : Call}

lemma Call.looked_of_waitsFor (h : c.waitsFor = some p) : c.looked = some p := by
  unfold waitsFor at h
  split at h
  · cases h
  · exact h

lemma Call.finish_ok (c : Call) : c.finish (.ok verdict) = c.goto (.returned (.ok verdict)) := by
  unfold finish
  cases c.polls with
  | true | false => rfl

section

variable (hheld : ∀ p, c.looked = some p → w.Held p c.key.runnerId)
include hheld

/-- A call goes on to a point, where it still waits for what it has found. -/
lemma advances_goto (hdrains : w.Drains w') (hok : (c.goto point).Ok w') :
    Advances w c.key (c.goto point) w' :=
  ⟨hdrains, rfl, hok, fun p hp => hheld p (Call.looked_of_waitsFor (c := c.goto point) hp)⟩

lemma advances_error (error : PidfdTableError) :
    Advances w c.key (c.finish (.error error)) w := by
  unfold Call.finish
  split
  · split
    · exact advances_goto hheld (.refl w) trivial
    · exact advances_goto hheld (.refl w) trivial
  · exact advances_goto hheld (.refl w) trivial

lemma advances_clock (h : c.step w (.clock expired) = some (c', w')) :
    Advances w c.key c' w' := by
  simp only [Call.step] at h
  split at h
  · cases expired with
    | true =>
      cases h
      exact advances_goto hheld (.refl w) fun p _ => trivial
    | false =>
      cases h
      exact advances_goto hheld (.refl w) trivial
  · cases h

variable (hok : c.Ok w)
include hok

lemma advances_waitid (h : c.step w (.waitid answer) = some (c', w')) :
    Advances w c.key c' w' := by
  simp only [Call.step] at h
  split at h
  · next process hpoint =>
    rw [Call.Ok, hpoint] at hok
    cases answer with
    | exited =>
      dsimp only at h
      split at h
      · next hexited =>
        cases h
        exact advances_goto hheld (.refl w) ⟨hok, World.exited_of_hasExited hexited⟩
      · cases h
    | stillAlive | echild | fails _ _ =>
      cases h
      exact advances_goto hheld (.refl w) hok
  · cases h

lemma advances_polled (h : c.step w (.polled answered) = some (c', w')) :
    Advances w c.key c' w' := by
  simp only [Call.step] at h
  split at h
  · next hpoint =>
    rw [Call.Ok, hpoint] at hok
    cases answered with
    | true =>
      cases h
      exact advances_goto hheld w.drains_deliver hok
    | false =>
      cases h
      exact advances_goto hheld (.refl w) trivial
  · cases h

end

lemma advances_dup {failure : Option (Int × String)}
    (h : c.step w (.dup failure) = some (c', w')) : Advances w c.key c' w' := by
  simp only [Call.step] at h
  split at h
  · cases hentry : w.entries c.key with
    | none =>
      simp only [hentry] at h
      cases h
      exact advances_error (c := { c with looked := none }) (by simp) _
    | some process =>
      have hfound : ∀ p, some process = some p → w.Held p c.key.runnerId := by
        intro p hp
        cases hp
        exact .inl ⟨c.key, hentry, rfl⟩
      simp only [hentry] at h
      cases failure with
      | none =>
        cases h
        exact advances_goto (c := { c with looked := some process }) hfound (.refl w) rfl
      | some failure =>
        cases h
        exact advances_error (c := { c with looked := some process }) hfound _
  · cases h

variable (hinv : w.Inv) (hheld : ∀ p, c.looked = some p → w.Held p c.key.runnerId)

include hinv hheld

lemma advances_proc (hok : c.Ok w) {failure : Option String}
    (hprobe : failure ≠ none → ∀ p, c.point ≠ .probeRead p)
    (h : c.step w (.proc failure expired) = some (c', w')) : Advances w c.key c' w' := by
  -- the process that was found has exited if `/proc` does not show it
  have hgone : ∀ p, c.looked = some p → w.sameStartTime p = false → w.Justifies p .terminated := by
    intro p hp hsame
    exact hinv.exited_of_not_sameStartTime (hinv.held p _ (hheld p hp)).1 hsame
  simp only [Call.step] at h
  split at h
  · next process waitidError hpoint =>
    rw [Call.Ok, hpoint] at hok
    cases failure with
    | some detail =>
      cases h
      exact advances_error hheld _
    | none =>
      cases hsame : w.sameStartTime process with
      | false =>
        simp only [hsame, Bool.false_eq_true, if_false] at h
        cases h
        exact advances_goto hheld (.refl w) ⟨hok, hgone process hok hsame⟩
      | true =>
        simp only [hsame, if_true] at h
        cases waitidError with
        | some error =>
          cases h
          exact advances_error hheld _
        | none =>
          cases expired with
          | false =>
            cases h
            exact advances_goto hheld (.refl w) hok
          | true =>
            simp only [if_true, Call.finish_ok] at h
            cases h
            exact advances_goto hheld (.refl w) fun p _ => trivial
  · next process hpoint =>
    cases failure with
    | some detail => exact absurd hpoint (hprobe (by simp) process)
    | none =>
      rw [Call.Ok, hpoint] at hok
      cases hsame : w.sameStartTime process with
      | true =>
        simp only [hsame, isNone_none, Bool.and_self, if_true] at h
        cases h
        exact advances_goto hheld (.refl w) ⟨process, hok⟩
      | false =>
        simp only [hsame, Bool.and_false, Bool.false_eq_true, if_false] at h
        cases h
        refine advances_goto hheld (.refl w) fun p hp => hgone p hp ?_
        have hp : c.looked = some p := hp
        rw [hok] at hp
        cases hp
        exact hsame
  · cases h

/-- A notification found by the pid or by the runner id justifies the verdict. -/
lemma justifies_notification (hp : c.looked = some p) (hn : w.log[pid]? = some n)
    (hfound : pid = p.pid ∨ n.runnerId = c.key.runnerId) :
    w.Justifies p (.terminatedByBroker n.exitStatus) := by
  have hcarries : w.Carries n := .inr ⟨pid, hn⟩
  obtain ⟨hexited, hpid⟩ := hinv.genuine n hcarries
  have hkey := hinv.keyed pid n hn
  have hown : n.process = p := by
    refine (hinv.held p _ (hheld p hp)).2 n.process n.runnerId (.inr ⟨n, hcarries, rfl, rfl⟩) ?_
    exact hfound.imp_left fun h => by rw [← hpid, hkey, h]
  rw [← hown]
  exact hexited

lemma advances_pick (h : c.step w (.pick pid) = some (c', w')) : Advances w c.key c' w' := by
  simp only [Call.step] at h
  split at h
  · cases pid with
    | none =>
      simp only [BrokerReapLog.takeFor] at h
      split at h
      · cases h
      · cases h
        exact advances_goto hheld (.refl w) trivial
      · next hsome =>
        split at hsome
        · cases hsome
        · cases hsome
    | some pick =>
      cases hn : w.log[pick]? with
      | none =>
        simp only [BrokerReapLog.takeFor, hn] at h
        cases h
      | some n =>
        by_cases hid : n.runnerId = c.key.runnerId
        · simp only [BrokerReapLog.takeFor, hn, hid, if_true] at h
          cases h
          refine advances_goto hheld (w.drains_erase pick) fun p hp => ?_
          exact (w.drains_erase pick).later.justifies
            (justifies_notification hinv hheld hp hn (.inr hid))
        · simp only [BrokerReapLog.takeFor, hn, hid, if_false] at h
          cases h
  · cases h

lemma advances_go (hok : c.Ok w) (h : c.step w .go = some (c', w')) : Advances w c.key c' w' := by
  simp only [Call.step] at h
  split at h
  · next process hpoint =>
    rw [Call.Ok, hpoint] at hok
    cases hn : w.log[process.pid]? with
    | none =>
      simp only [hn] at h
      cases h
      exact advances_goto hheld (.refl w) hok
    | some n =>
      simp only [hn] at h
      cases h
      refine advances_goto hheld (w.drains_erase process.pid) ⟨hok, ?_⟩
      exact (w.drains_erase process.pid).later.justifies
        (justifies_notification hinv hheld hok hn (.inl rfl))
  · next process verdict hpoint =>
    rw [Call.Ok, hpoint] at hok
    rw [Call.finish_ok] at h
    cases h
    refine advances_goto hheld (w.drains_removeSame c.key process) fun p hp => ?_
    have hp : c.looked = some p := hp
    rw [hok.1] at hp
    cases hp
    exact (w.drains_removeSame c.key process).later.justifies hok.2
  · cases hentry : w.entries c.key with
    | none =>
      simp only [hentry] at h
      cases h
      exact advances_goto (c := { c with looked := none }) (by simp) (.refl w)
        (by simp [Call.Ok, Call.goto])
    | some process =>
      simp only [hentry] at h
      cases h
      refine advances_goto (c := { c with looked := some process }) ?_ (.refl w) rfl
      intro p hp
      cases hp
      exact .inl ⟨c.key, hentry, rfl⟩
  · cases h

end

/-- A call that has returned takes no step. -/
lemma Call.waitsFor_of_step {c : Call} (h : c.step w input = some result) :
    c.waitsFor = c.looked := by
  unfold waitsFor
  split
  · next hpoint =>
    cases input <;> simp [step, hpoint] at h
  · rfl

namespace World

lemma advances_of_step (hinv : w.Inv) {index : Nat} (hc : w.calls[index]? = some c)
    (horderly : w.Orderly (.advance index input)) (h : c.step w input = some (c', w')) :
    Advances w c.key c' w' := by
  have hmem : c ∈ w.calls := mem_of_getElem? hc
  have hok := hinv.calls c hmem
  have hheld : ∀ p, c.looked = some p → w.Held p c.key.runnerId := by
    intro p hp
    exact .inr ⟨c, hmem, by rw [Call.waitsFor_of_step h, hp], rfl⟩
  cases input with
  | go => exact advances_go hinv hheld hok h
  | clock expired => exact advances_clock hheld h
  | dup failure => exact advances_dup h
  | waitid answer => exact advances_waitid hheld hok h
  | polled answered => exact advances_polled hheld hok h
  | pick pid => exact advances_pick hinv hheld h
  | proc failure expired =>
    refine advances_proc hinv hheld hok (fun hfails p => ?_) h
    cases failure with
    | none => exact absurd rfl hfails
    | some detail => exact horderly c p hc

/-- One call of the list is new; the others are as they were. -/
lemma Inv.withCalls {calls : List Call} (hinv : w.Inv)
    (hcalls : ∀ c ∈ calls, c ∈ w.calls ∨ c = new)
    (hheld : ∀ p, new.waitsFor = some p → (w.infoOf p).isSome = true ∧ w.Sole p new.key.runnerId)
    (hok : new.Ok w) : Inv { w with calls } := by
  have hlater : w.Later { w with calls } := .of_processes rfl
  refine ⟨hinv.pids, hinv.running, hinv.genuine, hinv.keyed, ?_, ?_⟩
  · intro p runnerId hp
    rcases hp with hentry | ⟨c, hc, hwaits, rfl⟩
    · exact hinv.held p runnerId (.inl hentry)
    · rcases hcalls c hc with hold | rfl
      · exact hinv.held p _ (.inr ⟨c, hold, hwaits, rfl⟩)
      · exact hheld p hwaits
  · intro c hc
    rcases hcalls c hc with hold | rfl
    · exact hlater.ok (hinv.calls c hold)
    · exact hlater.ok hok

lemma Inv.advance (hinv : w.Inv) (h : Advances w key c' w') :
    ({ w' with calls := w'.calls.set index c' } : World).Inv := by
  refine (hinv.drains h.drains).withCalls (fun _ => mem_or_eq_of_mem_set) (fun p hp => ?_) h.ok
  obtain ⟨hknown, hsole⟩ := hinv.held p _ (h.waits p hp)
  exact h.sameKey ▸ ⟨h.drains.later.isSome_infoOf hknown, h.drains.sole hsole⟩

lemma Inv.call (hinv : w.Inv) (key : RunnerKey) (polls : Bool) :
    ({ w with calls := w.calls ++ [.start key polls] } : World).Inv := by
  refine hinv.withCalls (fun _ => Trace.mem_snoc.mp) (fun p hwaits => ?_) ?_
  · cases Call.looked_of_waitsFor hwaits
  · cases polls <;> trivial

lemma Inv.step (hinv : w.Inv) (horderly : w.Orderly event) (h : w.step event = some w') :
    w'.Inv := by
  cases event with
  | spawn process runnerId =>
    simp only [World.step] at h
    split at h
    · next hfresh =>
      cases h
      exact hinv.spawn hfresh horderly
    · cases h
  | exit process status =>
    cases h
    exact hinv.exit process status
  | reap process =>
    simp only [World.step] at h
    split at h
    · next info hinfo =>
      split at h
      · next hdead =>
        cases h
        rw [Bool.and_eq_true, Bool.not_eq_true'] at hdead
        exact hinv.reap hinfo hdead.1 hdead.2
      · cases h
    · cases h
  | lose count =>
    cases h
    exact hinv.drains (w.drains_lose count)
  | refresh =>
    cases h
    exact hinv.drains w.drains_deliver
  | consume pid =>
    cases h
    exact hinv.drains (w.drains_erase pid)
  | register key process =>
    simp only [World.step] at h
    split at h
    · next hknown =>
      cases h
      exact hinv.register hknown.2 horderly
    · cases h
  | deregister key =>
    cases h
    exact hinv.drains (w.drains_deregister key)
  | restart =>
    cases h
    exact hinv.drains w.drains_restart
  | call key polls =>
    cases h
    exact hinv.call key polls
  | advance index input =>
    simp only [World.step] at h
    split at h
    · cases h
    · next c hc =>
      split at h
      · cases h
      · next c' w₁ hstep =>
        cases h
        exact hinv.advance (advances_of_step hinv hc horderly hstep)

lemma inv_init : init.Inv where
  pids i hi := by cases hi
  running i hi := by cases hi
  genuine n hn := by
    cases hn with
    | inl hpending => cases hpending
    | inr hlog =>
      obtain ⟨pid, hpid⟩ := hlog
      simp [init] at hpid
  keyed pid n hn := by simp [init] at hn
  held p runnerId hp := by
    cases hp with
    | inl hentry =>
      obtain ⟨key, hkey, -⟩ := hentry
      cases hkey
    | inr hcall =>
      obtain ⟨c, hc, -⟩ := hcall
      cases hc
  calls c hc := by cases hc

/-- In every orderly run, a call that returns says of the process it found in the
table that it has exited only if it has, and with its own status. -/
theorem stop_verdict_about_registered_process {events : List Event} {w : World}
    (hrun : Trace.Run (· = init) (fun _ w event w' => w.Orderly event ∧ w.step event = some w')
      events w) :
    ∀ c ∈ w.calls, ∀ verdict, c.point = .returned (.ok verdict) →
      ∀ p, c.looked = some p → w.Justifies p verdict := by
  have hinv : w.Inv := by
    refine hrun.preserves inv_init ?_
    intro _ w event w' hinv hstep
    exact hinv.step hstep.1 hstep.2
  intro c hc verdict hpoint
  have hok := hinv.calls c hc
  rw [Call.Ok, hpoint] at hok
  exact hok

/-- Events that are orderly in every state. -/
def plain : Event → Bool
  | .spawn .. | .register .. | .advance _ (.proc (some _) _) => false
  | _ => true

lemma orderly_of_plain (h : plain event = true) : w.Orderly event := by
  unfold plain at h
  unfold Orderly
  split <;> simp_all

def swtpmKey : RunnerKey := { vm := "work", role := "swtpm" }

/-- The first runner under the key, and the one after it. -/
def firstSwtpm : Process := { pid := 10, startTimeTicks := 1 }

def secondSwtpm : Process := { pid := 20, startTimeTicks := 2 }

def exitedZero : ChildExitStatus := { kind := .exited, code := some 0, signal := none }

/-- Nothing is held or outstanding at the start. -/
lemma run_registered (h₁ : init.step (.spawn firstSwtpm (some "work:swtpm")) = some w₁)
    (h₂ : w₁.step (.register swtpmKey firstSwtpm) = some w₂) :
    Trace.Run (· = init) (fun _ w event w' => w.Orderly event ∧ w.step event = some w')
      [.spawn firstSwtpm (some "work:swtpm"), .register swtpmKey firstSwtpm] w₂ := by
  have hspawn : init.Orderly (.spawn firstSwtpm (some "work:swtpm")) := by
    intro p runnerId hp
    cases hp with
    | inl hentry =>
      obtain ⟨key, hkey, -⟩ := hentry
      cases hkey
    | inr hcall =>
      obtain ⟨c, hc, -⟩ := hcall
      cases hc
  have hregister : w₁.Orderly (.register swtpmKey firstSwtpm) := by
    cases h₁
    intro p runnerId hp hne
    cases hp with
    | inl hinfo =>
      obtain ⟨info, hinfo, rfl, -⟩ := hinfo
      rw [mem_singleton.mp hinfo] at hne
      exact absurd rfl hne
    | inr hn =>
      obtain ⟨n, hcarries, -⟩ := hn
      have hexited := (inv_init.genuine n hcarries).1
      obtain ⟨info, hinfo, -⟩ := hexited
      cases hinfo
  have hstart : Trace.Run (· = init) (fun (_ : List Event) w event w' =>
      w.Orderly event ∧ w.step event = some w') [] init := .nil rfl
  exact (hstart.snoc (And.intro hspawn h₁)).snoc (And.intro hregister h₂)

/-- The rest of a stop whose notification is there in time. -/
def timelyNotification : List Event :=
  [.call swtpmKey true, .advance 0 (.clock false), .advance 0 (.dup none),
    .exit firstSwtpm exitedZero, .reap firstSwtpm, .refresh, .advance 0 (.waitid .echild),
    .advance 0 .go, .advance 0 .go]

theorem stop_verdict_swtpm :
    ∃ (events : List Event) (w : World) (c : Call),
      Trace.Run (· = init) (fun _ w event w' => w.Orderly event ∧ w.step event = some w') events w ∧
        c ∈ w.calls ∧ c.point = .returned (.ok (.terminatedByBroker exitedZero)) ∧
        c.looked = some firstSwtpm ∧ w.Justifies firstSwtpm (.terminatedByBroker exitedZero) := by
  have hend : ((init.step (.spawn firstSwtpm (some "work:swtpm"))).any fun w₁ =>
      (w₁.step (.register swtpmKey firstSwtpm)).any fun w₂ =>
        (timelyNotification.foldlM (fun w event => if plain event then w.step event else none)
          w₂).any fun w => w.calls[0]?.any fun c =>
            decide (c.point = .returned (.ok (.terminatedByBroker exitedZero))) &&
              decide (c.looked = some firstSwtpm)) = true := by
    decide +kernel
  obtain ⟨w₁, h₁, hend⟩ := (any_eq_true _ _).mp hend
  obtain ⟨w₂, h₂, hend⟩ := (any_eq_true _ _).mp hend
  obtain ⟨w, hw, hend⟩ := (any_eq_true _ _).mp hend
  obtain ⟨c, hc, hcall⟩ := (any_eq_true _ _).mp hend
  simp only [Bool.and_eq_true, decide_eq_true_eq] at hcall
  have hrun := Trace.Run.of_foldlM (fun _ w event w' h => by
    split at h
    · next hplain => exact ⟨orderly_of_plain hplain, h⟩
    · cases h) timelyNotification (run_registered h₁ h₂) hw
  have hmem := mem_of_getElem? hc
  exact ⟨_, w, c, hrun, hmem, hcall.1, hcall.2,
    stop_verdict_about_registered_process hrun c hmem _ hcall.1 _ hcall.2⟩

/-- The exit of the first runner is seen in `/proc`; its notification comes late. -/
def lateNotification : List Event :=
  [.spawn firstSwtpm (some "work:swtpm"), .register swtpmKey firstSwtpm, .call swtpmKey true,
    .advance 0 (.clock false), .advance 0 (.dup none), .exit firstSwtpm exitedZero,
    .advance 0 (.waitid .echild), .advance 0 .go, .advance 0 (.proc none false), .advance 0 .go,
    .reap firstSwtpm,
    .spawn secondSwtpm (some "work:swtpm"), .register swtpmKey secondSwtpm, .call swtpmKey true,
    .advance 1 (.clock false), .advance 1 (.dup none), .advance 1 (.waitid .echild),
    .advance 1 .go, .advance 1 (.proc none false), .advance 1 .go, .advance 1 (.proc none false),
    .advance 1 (.polled true), .advance 1 (.pick (some 10))]

/-- The second runner is stopped on the word of the first one's notification. -/
theorem late_notification_stops_running_process :
    ∃ (events : List Event) (w : World) (c : Call),
      Trace.Run (· = init) (fun _ w event w' => w.step event = some w') events w ∧
        c ∈ w.calls ∧ c.point = .returned (.ok (.terminatedByBroker exitedZero)) ∧
        c.looked = some secondSwtpm ∧ w.entries c.key = some secondSwtpm ∧
        ∀ status, ¬ w.ExitedWith secondSwtpm status := by
  obtain ⟨w, hrun, hcalls, halive⟩ := Trace.Run.exists_of_foldlM (f := step)
    (P := fun w : World => (w.calls[1]?.any fun c : Call =>
        decide (c.point = .returned (.ok (.terminatedByBroker exitedZero))) &&
          decide (c.looked = some secondSwtpm) &&
          decide (w.entries c.key = some secondSwtpm)) = true ∧
      (w.infoOf secondSwtpm).all (·.exit.isNone) = true) init lateNotification
  obtain ⟨c, hc, hcall⟩ := (any_eq_true _ _).mp hcalls
  simp only [Bool.and_eq_true, decide_eq_true_eq] at hcall
  refine ⟨lateNotification, w, c, hrun, mem_of_getElem? hc, hcall.1.1, hcall.1.2, hcall.2, ?_⟩
  intro status ⟨info, hinfo, hexit⟩
  simp [hinfo, hexit] at halive

end World

end D2b.Daemon

import D2b.Guestd.ExecPty
import D2b.Lib.Run

/-!
# D2b.Guestd.ExecPty.ExactlyOnce

What reaches the sink of an interactive session.  While the session runs, the
payload bytes on the sink are the accepted parts of the answered writes, in
offset order, and after them what the write in progress has put there so far
(`stdin_exactly_once`); at most one `VEOF` is written, and nothing follows it.
-/

namespace D2b.Guestd

open ExecRunner List
open Circular WriterPhase

/-! ## answered writes -/

/-- The part of the payload that was accepted. -/
def AckedWrite.accepted (a : AckedWrite) : List UInt8 := a.data.take a.ok.acceptedLen

def accepted (acked : List AckedWrite) : List UInt8 := acked.flatMap AckedWrite.accepted

/-- From the `n`-th byte on, each write starts where the one before it ended, and its
answer says where it ended (offsets saturate). -/
def Contiguous : Nat → List AckedWrite → Prop
  | _, [] => True
  | n, a :: rest =>
    a.offset = min n (2 ^ 64 - 1) ∧ a.ok.acceptedLen ≤ a.data.length ∧
      a.ok.nextOffset = min (n + a.ok.acceptedLen) (2 ^ 64 - 1) ∧
      Contiguous (n + a.ok.acceptedLen) rest

lemma accepted_append (xs ys : List AckedWrite) :
    accepted (xs ++ ys) = accepted xs ++ accepted ys := flatMap_append

lemma accepted_singleton (a : AckedWrite) : accepted [a] = a.accepted := by
  simp [accepted]

lemma AckedWrite.length_accepted {a : AckedWrite} (h : a.ok.acceptedLen ≤ a.data.length) :
    a.accepted.length = a.ok.acceptedLen := by
  simp [AckedWrite.accepted, h]

lemma Contiguous.append {xs : List AckedWrite} :
    ∀ {n : Nat}, Contiguous n xs → a.offset = min (n + (accepted xs).length) (2 ^ 64 - 1) →
      a.ok.acceptedLen ≤ a.data.length →
      a.ok.nextOffset = min (n + (accepted xs).length + a.ok.acceptedLen) (2 ^ 64 - 1) →
      Contiguous n (xs ++ [a]) := by
  induction xs with
  | nil =>
    intro n _ hoffset hlen hnext
    exact ⟨by simpa [accepted] using hoffset, hlen, by simpa [accepted] using hnext, trivial⟩
  | cons x xs ih =>
    intro n h hoffset hlen hnext
    obtain ⟨hx, hxlen, hxnext, hrest⟩ := h
    have htotal : (accepted (x :: xs)).length = x.ok.acceptedLen + (accepted xs).length := by
      have hcons := accepted_append [x] xs
      rw [singleton_append, accepted_singleton] at hcons
      rw [hcons, length_append, AckedWrite.length_accepted hxlen]
    refine ⟨hx, hxlen, hxnext, ih hrest ?_ hlen ?_⟩
    · rw [hoffset, htotal, Nat.add_assoc]
    · rw [hnext, htotal]
      omega

/-- A client whose writes are pieces of one input at their offsets delivers the
input from the front, each byte once. -/
lemma Contiguous.accepted_eq {input : List UInt8} (hinput : input.length < 2 ^ 64) :
    ∀ {n : Nat}, Contiguous n acked → n ≤ input.length →
      (∀ a ∈ acked, a.data = slice input a.offset a.data.length) →
      accepted acked = slice input n (accepted acked).length ∧
        n + (accepted acked).length ≤ input.length := by
  induction acked with
  | nil =>
    intro n _ hn _
    exact ⟨rfl, hn⟩
  | cons a acked ih =>
    intro n h hn hdata
    obtain ⟨hoffset, hlen, -, hrest⟩ := h
    have hcons := accepted_append [a] acked
    rw [singleton_append, accepted_singleton] at hcons
    have hfirst := hdata a mem_cons_self
    rw [show a.offset = n by omega] at hfirst
    have hfit : a.data.length ≤ input.length - n := by
      have hl := congrArg List.length hfirst
      simp only [slice, length_take, length_drop] at hl
      omega
    have haccepted : a.accepted = slice input n a.ok.acceptedLen := by
      unfold AckedWrite.accepted
      rw [hfirst]
      simp only [slice, take_take]
      rw [Nat.min_eq_left hlen]
    obtain ⟨htail, hle⟩ := ih hrest (by omega) fun b hb => hdata b (mem_cons_of_mem _ hb)
    have htotal : (accepted (a :: acked)).length = a.ok.acceptedLen + (accepted acked).length := by
      rw [hcons, length_append, AckedWrite.length_accepted hlen]
    refine ⟨?_, by omega⟩
    rw [htotal, slice_add, ← haccepted, ← htail, hcons]

/-! ## the writer -/

namespace WriterPhase

variable {C : Type}

/-- What the operation in progress has put on the sink. -/
def landed : WriterPhase C → List UInt8
  | .writing _ _ data _ written => data.take written
  | .veof _ _ data => data
  | .commit _ _ data written _ => data.take written
  | _ => []

/-- The operation in progress has written `VEOF`. -/
def veofSent : WriterPhase C → Bool
  | .commit _ _ _ _ closed => closed
  | .closeCommit _ => true
  | _ => false

/-- The operation in progress may still write. -/
def Busy : WriterPhase C → Prop
  | .writing .. | .veof .. | .closeVeof _ => True
  | _ => False

/-- What was checked when the operation in progress was taken up. -/
def Admitted (logic : StdinLogic) : WriterPhase C → Prop
  | .idle => True
  | .writing _ offset data _ written =>
    logic.closed = false ∧ offset = logic.nextOffset ∧ written ≤ data.length
  | .veof _ offset _ => logic.closed = false ∧ offset = logic.nextOffset
  | .commit _ offset data written _ =>
    logic.closed = false ∧ offset = logic.nextOffset ∧ written ≤ data.length
  | .closeVeof _ => logic.closed = false
  | .closeCommit _ => logic.closed = false
  | .gone => False

end WriterPhase

/-- A `VEOF` at the end, or none. -/
def veofIf (sent : Bool) : List SinkByte := if sent then [.veof] else []

namespace TtyState

variable {C : Type}

/-- What holds while the session runs. -/
structure Running (s : TtyState C) : Prop where
  sink_eq : s.sink = (accepted s.acked ++ s.writer.landed).map .data ++
    veofIf (s.stdin.closed || s.writer.veofSent)
  next_eq : s.stdin.nextOffset = min (accepted s.acked).length (2 ^ 64 - 1)
  admitted : s.writer.Admitted s.stdin

/-- What holds of the sink at every time: nothing follows a `VEOF`, and the writer
is done once it is there. -/
def Ended (s : TtyState C) : Prop :=
  ∃ (data : List UInt8) (sent : Bool),
    s.sink = data.map .data ++ veofIf sent ∧ (sent = true → ¬ s.writer.Busy)

attribute [local simp] Busy veofIf veofSent landed reply

lemma Running.ended {s : TtyState C} (h : s.Running) : s.Ended := by
  refine ⟨_, _, h.sink_eq, fun hsent => ?_⟩
  have hadmitted := h.admitted
  cases hw : s.writer with
  | idle | gone | commit _ _ _ _ _ | closeCommit _ => simp
  | _ => simp_all [Admitted, veofSent]

/-- What holds in every state. -/
structure Inv (s : TtyState C) : Prop where
  contiguous : Contiguous 0 s.acked
  running : s.phase = .running → s.Running
  ended : s.Ended

lemma new_inv : (new C).Inv := by
  refine ⟨trivial, fun _ => ⟨rfl, rfl, trivial⟩, [], false, rfl, fun h => by cases h⟩

variable {s s' : TtyState C}

/-- An action that leaves the writer and the sink alone. -/
lemma Inv.of_same (h : s.Inv) (hphase : s'.phase = .running → s.phase = .running)
    (hstdin : s'.stdin = s.stdin) (hwriter : s'.writer = s.writer) (hsink : s'.sink = s.sink)
    (hacked : s'.acked = s.acked) : s'.Inv := by
  refine ⟨hacked ▸ h.contiguous, fun hp => ?_, ?_⟩
  · have hr := h.running (hphase hp)
    exact ⟨by rw [hsink, hacked, hwriter, hstdin]; exact hr.sink_eq,
      by rw [hstdin, hacked]; exact hr.next_eq, by rw [hwriter, hstdin]; exact hr.admitted⟩
  · obtain ⟨data, sent, hsink', hdone⟩ := h.ended
    exact ⟨data, sent, hsink ▸ hsink', hwriter ▸ hdone⟩

/-- An action of the writer. -/
lemma Inv.of_writer (h : s.Inv) (hphase : s'.phase = s.phase) (hacked : Contiguous 0 s'.acked)
    (hrun : s.phase = .running → s.Running → s'.Running)
    (hend : s.phase ≠ .running → s.Ended → s'.Ended) : s'.Inv := by
  refine ⟨hacked, fun hp => ?_, ?_⟩
  · rw [hphase] at hp
    exact hrun hp (h.running hp)
  · by_cases hp : s.phase = .running
    · exact (hrun hp (h.running hp)).ended
    · exact hend hp h.ended

/-- Once the writer does not write any more, the sink stays as it is. -/
lemma Inv.of_done (h : s.Inv) (hphase : s'.phase = s.phase) (hacked : s'.acked = s.acked)
    (hsink : s'.sink = s.sink) (hdone : ¬ s'.writer.Busy)
    (hrun : s.phase = .running → s.Running → s'.Running) : s'.Inv := by
  refine h.of_writer hphase (hacked ▸ h.contiguous) hrun fun _ hend => ?_
  obtain ⟨data, sent, hsink', -⟩ := hend
  exact ⟨data, sent, hsink ▸ hsink', fun _ => hdone⟩

/-- As long as the writer may write there is no `VEOF`. -/
lemma Ended.sink_eq (h : s.Ended) (hbusy : s.writer.Busy) :
    ∃ data : List UInt8, s.sink = data.map .data := by
  obtain ⟨data, sent, hsink, hdone⟩ := h
  cases sent with
  | true => exact absurd hbusy (hdone rfl)
  | false => exact ⟨data, by simpa using hsink⟩

lemma sinkWrite_inv (h : s.Inv) (hact : s.sinkWrite n = some s') : s'.Inv := by
  unfold sinkWrite at hact
  cases hw : s.writer with
  | writing c offset data closeAfter written =>
    simp only [hw] at hact
    split at hact <;> cases hact
    rename_i hn
    refine h.of_writer rfl h.contiguous (fun _ hr => ?_) (fun _ hend => ?_)
    · obtain ⟨hsink, hnext, hadmitted⟩ := hr
      rw [hw] at hsink hadmitted
      obtain ⟨hclosed, hoffset, hlen⟩ := hadmitted
      refine ⟨?_, hnext, hclosed, hoffset, by omega⟩
      simp only [hsink, landed, veofSent, hclosed, veofIf, take_add]
      simp
    · obtain ⟨before, hbefore⟩ := hend.sink_eq (by simp [hw])
      refine ⟨before ++ (data.drop written).take n, false, ?_, fun h => by cases h⟩
      simp [hbefore]
  | veof c offset data =>
    simp only [hw] at hact
    cases hact
    refine h.of_writer rfl h.contiguous (fun _ hr => ?_) (fun _ hend => ?_)
    · obtain ⟨hsink, hnext, hadmitted⟩ := hr
      rw [hw] at hsink hadmitted
      refine ⟨?_, hnext, hadmitted.1, hadmitted.2, Nat.le_refl _⟩
      simp [hsink, hadmitted.1]
    · obtain ⟨before, hbefore⟩ := hend.sink_eq (by simp [hw])
      exact ⟨before, true, by simp [hbefore], fun _ => by simp⟩
  | closeVeof c =>
    simp only [hw] at hact
    cases hact
    refine h.of_writer rfl h.contiguous (fun _ hr => ?_) (fun _ hend => ?_)
    · obtain ⟨hsink, hnext, hadmitted⟩ := hr
      rw [hw] at hsink hadmitted
      have hclosed : s.stdin.closed = false := hadmitted
      refine ⟨?_, hnext, hclosed⟩
      simp [hsink, hclosed]
    · obtain ⟨before, hbefore⟩ := hend.sink_eq (by simp [hw])
      exact ⟨before, true, by simp [hbefore], fun _ => by simp⟩
  | _ => simp [hw] at hact

lemma written_inv (h : s.Inv) (hact : s.written = some s') : s'.Inv := by
  unfold written at hact
  cases hw : s.writer with
  | writing c offset data closeAfter written =>
    simp only [hw] at hact
    split at hact <;> [skip; cases hact]
    rename_i hall
    split at hact <;> cases hact
    · refine h.of_writer rfl h.contiguous (fun _ hr => ?_) (fun _ hend => ?_)
      · obtain ⟨hsink, hnext, hadmitted⟩ := hr
        rw [hw] at hsink hadmitted
        refine ⟨?_, hnext, hadmitted.1, hadmitted.2.1⟩
        simpa [hall] using hsink
      · obtain ⟨before, hbefore⟩ := hend.sink_eq (by simp [hw])
        exact ⟨before, false, by simpa using hbefore, fun h => by cases h⟩
    · refine h.of_done rfl rfl rfl (by simp) fun _ hr => ?_
      obtain ⟨hsink, hnext, hadmitted⟩ := hr
      rw [hw] at hsink hadmitted
      exact ⟨hsink, hnext, hadmitted⟩
  | _ => simp [hw] at hact

variable [DecidableEq C]

lemma recv_inv (h : s.Inv) (hidle : s.writer = .idle) (c : C) (op : WriteOp) :
    (s.recv c op).Inv := by
  have hreply : ∀ result, (s.reply c result).Inv := fun result =>
    h.of_same (fun hp => hp) rfl hidle.symm rfl rfl
  unfold recv
  by_cases hphase : s.phase = .running
  · rw [if_neg (by simpa using hphase)]
    have hr := h.running hphase
    have hsink := hr.sink_eq
    rw [hidle] at hsink
    cases op with
    | write offset data closeAfter =>
      cases hcheck : s.stdin.admitOffset offset with
      | error e =>
        simp only [hcheck]
        exact hreply _
      | ok =>
        simp only [hcheck]
        have hchecked : s.stdin.closed = false ∧ offset = s.stdin.nextOffset := by
          unfold StdinLogic.admitOffset at hcheck
          grind
        refine h.of_writer rfl h.contiguous (fun _ _ => ⟨hsink, hr.next_eq, ?_⟩)
          (fun hp => absurd hphase hp)
        exact ⟨hchecked.1, hchecked.2, Nat.zero_le _⟩
    | close offset =>
      dsimp only
      by_cases hclosed : s.stdin.closed = true
      · rw [if_pos hclosed]
        exact hreply _
      · rw [if_neg hclosed]
        by_cases hoffset : offset = s.stdin.nextOffset
        · rw [if_neg (by simpa using hoffset)]
          refine h.of_writer rfl h.contiguous (fun _ _ => ⟨hsink, hr.next_eq, ?_⟩)
            (fun hp => absurd hphase hp)
          simpa [Admitted] using hclosed
        · rw [if_pos hoffset]
          exact hreply _
  · rw [if_pos hphase]
    exact hreply _

lemma sinkFail_inv (h : s.Inv) (hact : s.sinkFail = some s') : s'.Inv := by
  unfold sinkFail at hact
  cases hw : s.writer with
  | writing c offset data closeAfter written =>
    simp only [hw] at hact
    split at hact <;> [skip; cases hact]
    split at hact <;> cases hact
    · rename_i hzero
      refine h.of_done rfl rfl rfl (by simp) fun _ hr => ?_
      obtain ⟨hsink, hnext, -⟩ := hr
      rw [hw] at hsink
      refine ⟨?_, hnext, trivial⟩
      simpa [setCall, hzero] using hsink
    · refine h.of_done rfl rfl rfl (by simp) fun _ hr => ?_
      obtain ⟨hsink, hnext, hadmitted⟩ := hr
      rw [hw] at hsink hadmitted
      exact ⟨hsink, hnext, hadmitted⟩
  | veof c offset data =>
    simp only [hw] at hact
    cases hact
    refine h.of_done rfl rfl rfl (by simp) fun _ hr => ?_
    obtain ⟨hsink, hnext, hadmitted⟩ := hr
    rw [hw] at hsink hadmitted
    refine ⟨?_, hnext, hadmitted.1, hadmitted.2, Nat.le_refl _⟩
    simpa using hsink
  | closeVeof c =>
    simp only [hw] at hact
    cases hact
    refine h.of_done rfl rfl rfl (by simp) fun _ hr => ?_
    obtain ⟨hsink, hnext, -⟩ := hr
    rw [hw] at hsink
    exact ⟨hsink, hnext, trivial⟩
  | _ => simp [hw] at hact

lemma commit_inv (h : s.Inv) (hact : s.commit = some s') : s'.Inv := by
  unfold commit at hact
  cases hw : s.writer with
  | commit c offset data written closed =>
    simp only [hw] at hact
    by_cases hphase : s.phase = .running
    · rw [if_neg (by simpa using hphase)] at hact
      cases hact
      obtain ⟨hsink, hnext, hadmitted⟩ := h.running hphase
      rw [hw] at hsink hadmitted
      obtain ⟨hclosed, hoffset, hlen⟩ := hadmitted
      have hnext' : (s.stdin.advance written).nextOffset =
          min ((accepted s.acked).length + written) (2 ^ 64 - 1) := by
        simp only [StdinLogic.advance, saturatingAdd, hnext]
        omega
      have hlogic : (if closed = true then (s.stdin.advance written).close
          else s.stdin.advance written) =
          ⟨min ((accepted s.acked).length + written) (2 ^ 64 - 1), closed⟩ := by
        rw [← hnext']
        cases closed with
        | true => rfl
        | false =>
          rw [if_neg (by simp), ← hclosed]
          rfl
      simp only [hlogic]
      refine h.of_writer rfl ?_ (fun _ _ => ?_) (fun hp => absurd hphase hp)
      · refine h.contiguous.append ?_ hlen ?_
        · rw [hoffset, hnext, Nat.zero_add]
        · rw [Nat.zero_add]
      · refine ⟨?_, ?_, trivial⟩
        · simp only [reply, setCall, hsink, hclosed, accepted_append, accepted_singleton,
            landed, veofSent, AckedWrite.accepted]
          simp
        · simp only [accepted_append, accepted_singleton, length_append]
          rw [AckedWrite.length_accepted hlen]
    · rw [if_pos hphase] at hact
      cases hact
      exact h.of_done rfl rfl rfl (by simp) fun hp => absurd hp hphase
  | closeCommit c =>
    simp only [hw] at hact
    by_cases hphase : s.phase = .running
    · rw [if_neg (by simpa using hphase)] at hact
      cases hact
      refine h.of_writer rfl h.contiguous (fun _ hr => ?_) (fun hp => absurd hphase hp)
      obtain ⟨hsink, hnext, -⟩ := hr
      rw [hw] at hsink
      refine ⟨?_, hnext, trivial⟩
      simpa [setCall, StdinLogic.close]
        using hsink
    · rw [if_pos hphase] at hact
      cases hact
      exact h.of_done rfl rfl rfl (by simp) fun hp => absurd hp hphase
  | _ => simp [hw] at hact

lemma act_inv (h : s.Inv) (hact : s.act a = some s') : s'.Inv := by
  cases a with
  | call c op =>
    have hsame : s' = s.call c op := by
      simp only [act] at hact
      grind
    subst hsame
    unfold call
    split <;> exact h.of_same (fun hp => hp) rfl rfl rfl rfl
  | send c =>
    simp only [act] at hact
    split at hact <;> [skip; cases hact]
    unfold send at hact
    split at hact
    · cases hact
      exact h.of_same (fun hp => hp) rfl rfl rfl rfl
    · split at hact <;> cases hact
      exact h.of_same (fun hp => hp) rfl rfl rfl rfl
  | recv =>
    simp only [act] at hact
    split at hact <;> [skip; cases hact]
    rename_i c op rest hidle hqueue
    cases hact
    have hq : ({ s with queue := rest } : TtyState C).Inv :=
      h.of_same (fun hp => hp) rfl rfl rfl rfl
    exact recv_inv hq hidle c op
  | sinkWrite n => exact sinkWrite_inv h hact
  | sinkFail => exact sinkFail_inv h hact
  | written => exact written_inv h hact
  | commit => exact commit_inv h hact
  | beginClosing | markTerminal =>
    simp only [act] at hact
    split at hact <;> cases hact
    exact h.of_same (fun hp => by cases hp) rfl rfl rfl rfl
  | releaseWriter =>
    simp only [act] at hact
    split at hact <;> cases hact
    rename_i hphase
    exact h.of_done rfl rfl rfl (by simp [releaseWriter]) fun hp => absurd hp hphase

/-! ## runs -/

def dataBytes (s : TtyState C) : List UInt8 :=
  s.sink.filterMap fun
    | .data b => some b
    | .veof => none

omit [DecidableEq C] in
lemma dataBytes_eq (h : s.sink = data.map .data ++ veofIf sent) : s.dataBytes = data := by
  unfold dataBytes
  rw [h, filterMap_append, filterMap_map]
  cases sent <;> simp [Function.comp_def]

/-- What clients can rely on. -/
structure ExactlyOnce (s : TtyState C) : Prop where
  /-- the answered writes follow each other without gap or overlap -/
  contiguous : Contiguous 0 s.acked
  /-- the sink has their accepted parts, then what the write in progress has put there -/
  sink_eq : s.phase = .running → s.dataBytes = accepted s.acked ++ s.writer.landed
  /-- the next offset is their total length, which saturates -/
  next_eq : s.phase = .running → s.stdin.nextOffset = min (accepted s.acked).length (2 ^ 64 - 1)
  /-- at most one `VEOF` is on the sink, and nothing follows it -/
  veof_last : ∃ (data : List UInt8) (sent : Bool), s.sink = data.map .data ++ veofIf sent
  /-- writes that are pieces of one input at their offsets deliver it from the front -/
  input : ∀ input : List UInt8, input.length < 2 ^ 64 →
    (∀ a ∈ s.acked, a.data = slice input a.offset a.data.length) →
    accepted s.acked = input.take (accepted s.acked).length ∧
      (s.phase = .running → accepted s.acked = input.take s.stdin.nextOffset)

/-- Stdin is delivered exactly once, whatever the calls, the sink and the teardown do. -/
theorem stdin_exactly_once {h : List (TtyAction C)} {s : TtyState C}
    (hrun : Trace.Run (· = new C) (fun _ s a s' => s.act a = some s') h s) : s.ExactlyOnce := by
  have hinv : s.Inv := hrun.preserves new_inv fun _ _ _ _ hs hact => act_inv hs hact
  have hnext := fun hp => (hinv.running hp).next_eq
  refine ⟨hinv.contiguous, fun hp => dataBytes_eq (hinv.running hp).sink_eq, hnext, ?_, ?_⟩
  · obtain ⟨data, sent, hsink, -⟩ := hinv.ended
    exact ⟨data, sent, hsink⟩
  · intro input hlen hdata
    obtain ⟨heq, hle⟩ := hinv.contiguous.accepted_eq hlen (Nat.zero_le _) hdata
    refine ⟨heq, fun hp => ?_⟩
    rw [hnext hp, Nat.min_eq_left (by omega)]
    exact heq

/-- Two bytes are written and stdin is closed; the sink fails after the first byte, and
the client goes on from there. -/
def shortWrite : List (TtyAction Unit) :=
  [.call () (.write 0 [7, 8] true), .send (), .recv, .sinkWrite 1, .sinkFail, .commit,
    .call () (.write 1 [8] true), .send (), .recv, .sinkWrite 1, .written, .sinkWrite 1, .commit]

theorem stdin_exactly_once_shortWrite :
    ∃ s, shortWrite.foldlM act (new Unit) = some s ∧ s.sink = [.data 7, .data 8, .veof] ∧
      s.ExactlyOnce := by
  obtain ⟨s, hs⟩ : ∃ s, shortWrite.foldlM act (new Unit) = some s := ⟨_, rfl⟩
  have hrun : Trace.Run (· = new Unit) (fun _ s a s' => s.act a = some s') ([] ++ shortWrite) s :=
    Trace.Run.of_foldlM (fun _ _ _ _ h => h) _ (.nil rfl) hs
  refine ⟨s, hs, ?_, stdin_exactly_once hrun⟩
  cases hs
  rfl

/-- In the middle of a write the sink is ahead of the answers. -/
theorem exists_unanswered_byte :
    ∃ s, [.call () (.write 0 [7] false), .send (), .recv, .sinkWrite 1].foldlM act (new Unit) =
      some s ∧ s.phase = .running ∧ s.dataBytes ≠ accepted s.acked :=
  ⟨_, rfl, rfl, by decide⟩

end TtyState

end D2b.Guestd

import D2b.ExecRunner.FileRing
import Mathlib.Data.List.Induction

/-!
# D2b.Guestd.ShellEvents

The event queue of the persistent shells (`shell.rs`): a bounded queue of
numbered events, and the reads of a client that goes on from the cursor of its
last batch.  What such a client receives accounts for every event up to its
cursor, as long as the numbers do not saturate.
-/

namespace D2b.Guestd.Shell

open List

open ExecRunner (saturatingAdd)

inductive ShellEventKind where
  | attachCreated
  | attachReused
  | forceEvicted
  | detached
  | killed
  | reconciliationGap
  deriving DecidableEq

structure ShellEvent where
  seq : Nat
  kind : ShellEventKind
  deriving DecidableEq

structure ShellEventBatch where
  events : List ShellEvent
  droppedEvents : Nat
  cursor : Nat

structure ShellEventQueue where
  events : List ShellEvent := []
  nextSeq : Nat := 1
  droppedEvents : Nat := 0
  capacity : Nat

namespace ShellEventQueue

variable (queue : ShellEventQueue)

def push (kind : ShellEventKind) : ShellEventQueue :=
  let full := queue.events.length = queue.capacity
  let kept := if full then queue.events.tail else queue.events
  { queue with
    events := kept ++ [⟨queue.nextSeq, kind⟩]
    nextSeq := saturatingAdd queue.nextSeq 1
    droppedEvents := if full then saturatingAdd queue.droppedEvents 1 else queue.droppedEvents }

/-- The gap a read reports first: the oldest event comes later than the next one expected. -/
def gap (afterSeq limit : Nat) : List ShellEvent :=
  match queue.events.head? with
  | some oldest =>
    if 0 < queue.droppedEvents ∧ 0 < limit ∧ saturatingAdd afterSeq 1 < oldest.seq then
      [⟨oldest.seq - 1, .reconciliationGap⟩]
    else []
  | none => []

/-- The number of the last event, or the cursor the read started from. -/
def cursorAfter (afterSeq : Nat) (events : List ShellEvent) : Nat :=
  (events.getLast?.map (·.seq)).getD afterSeq

def readSince (afterSeq limit : Nat) : ShellEventBatch :=
  let gap := queue.gap afterSeq limit
  let events := gap ++ (queue.events.filter (afterSeq < ·.seq)).take (limit - gap.length)
  ⟨events, queue.droppedEvents, cursorAfter afterSeq events⟩

end ShellEventQueue

open ShellEventQueue (cursorAfter)

/-! ## What a client receives -/

/-- One move at the queue: an event of the runtime, or a read of the client. -/
inductive Move where
  | push (kind : ShellEventKind)
  | read (limit : Nat)

/-- The queue, everything pushed to it, and a client that goes on from its cursor. -/
structure Client where
  queue : ShellEventQueue
  pushed : List ShellEventKind := []
  cursor : Nat := 0
  received : List ShellEvent := []

namespace Client

def step (client : Client) : Move → Client
  | .push kind =>
    { client with queue := client.queue.push kind, pushed := client.pushed ++ [kind] }
  | .read limit =>
    let batch := client.queue.readSince client.cursor limit
    { client with cursor := batch.cursor, received := client.received ++ batch.events }

def run (capacity : Nat) (moves : List Move) : Client := moves.foldl step { queue := { capacity } }

end Client

/-- After the first `start` events, `received` goes on with the pushed events up to number
`upTo`: each entry is the next event, or a gap in the place of at least one event. -/
def Accounts (pushed : List ShellEventKind) (upTo : Nat) : Nat → List ShellEvent → Prop
  | start, [] => start = upTo
  | start, event :: received =>
    (event.seq = start + 1 ∧ pushed[start]? = some event.kind ∨
      event.kind = .reconciliationGap ∧ start < event.seq ∧ event.seq ≤ pushed.length) ∧
    Accounts pushed upTo event.seq received

lemma Accounts.append (h : Accounts pushed middle start received)
    (h' : Accounts pushed upTo middle received') :
    Accounts pushed upTo start (received ++ received') := by
  induction received generalizing start with
  | nil => exact h ▸ h'
  | cons event received ih => exact ⟨h.1, ih h.2⟩

lemma Accounts.mono (h : Accounts pushed upTo start received) :
    Accounts (pushed ++ more) upTo start received := by
  induction received generalizing start with
  | nil => exact h
  | cons event received ih =>
    refine ⟨h.1.imp (fun ⟨hseq, hkind⟩ => ⟨hseq, ?_⟩) (fun ⟨hgap, hlt, hle⟩ => ⟨hgap, hlt, ?_⟩),
      ih h.2⟩
    · rwa [List.getElem?_append_left (List.getElem?_eq_some_iff.mp hkind).1]
    · exact hle.trans (by simp)

@[simp] lemma cursorAfter_cons {event : ShellEvent} :
    cursorAfter start (event :: events) = cursorAfter event.seq events := by
  cases events <;> simp [cursorAfter, getLast?_cons]

lemma Accounts.cursorAfter_eq (h : Accounts pushed upTo start received) :
    cursorAfter start received = upTo := by
  induction received generalizing start with
  | nil => exact h
  | cons event received ih => exact cursorAfter_cons.trans (ih h.2)

/-- The events of some kinds, numbered after `start`. -/
def numbered : Nat → List ShellEventKind → List ShellEvent
  | _, [] => []
  | start, kind :: kinds => ⟨start + 1, kind⟩ :: numbered (start + 1) kinds

lemma numbered_append (start : Nat) (kinds : List ShellEventKind) (kind : ShellEventKind) :
    numbered start (kinds ++ [kind]) =
      numbered start kinds ++ [⟨start + kinds.length + 1, kind⟩] := by
  induction kinds generalizing start with
  | nil => rfl
  | cons first kinds ih => simp [numbered, ih, Nat.add_comm, Nat.add_left_comm]

lemma filter_numbered (after start : Nat) (kinds : List ShellEventKind) :
    (numbered start kinds).filter (after < ·.seq) =
      numbered (max after start) (kinds.drop (after - start)) := by
  induction kinds generalizing start with
  | nil => simp [numbered]
  | cons first kinds ih =>
    rw [numbered, filter_cons, ih]
    by_cases h : after < start + 1
    · simp [h, numbered, Nat.max_eq_right (Nat.lt_succ_iff.mp h), Nat.max_eq_right h.le,
        Nat.sub_eq_zero_of_le h.le, Nat.sub_eq_zero_of_le (Nat.lt_succ_iff.mp h)]
    · have hmax : max after (start + 1) = max after start := by omega
      have hsub : after - start = after - (start + 1) + 1 := by omega
      simp [h, hmax, hsub]

/-- A batch of the retained events goes on with the sequence. -/
lemma accounts_take_numbered (pushed : List ShellEventKind) (limit start : Nat) :
    Accounts pushed (start + min limit (pushed.length - start)) start
      ((numbered start (pushed.drop start)).take limit) := by
  induction limit generalizing start with
  | zero => simp [Accounts]
  | succ limit ih =>
    rcases Nat.lt_or_ge start pushed.length with h | h
    · rw [drop_eq_getElem_cons h, numbered, take_succ_cons]
      refine ⟨.inl ⟨rfl, getElem?_eq_getElem h⟩, ?_⟩
      have hend : start + min (limit + 1) (pushed.length - start) =
          start + 1 + min limit (pushed.length - (start + 1)) := by omega
      exact hend ▸ ih (start + 1)
    · simp [drop_eq_nil_of_le h, numbered, Accounts, Nat.sub_eq_zero_of_le h]

/-! ## The queue along a run -/

/-- The queue holds the last of the pushed events: all but the first `dropped`. -/
structure Retains (queue : ShellEventQueue) (pushed : List ShellEventKind) (dropped : Nat) :
    Prop where
  nextSeq : queue.nextSeq = min (pushed.length + 1) (2 ^ 64 - 1)
  events : queue.events = numbered dropped (pushed.drop dropped)
  counted : 0 < dropped → 0 < queue.droppedEvents
  newest : dropped = 0 ∨ dropped < pushed.length

lemma Retains.push (h : Retains queue pushed dropped) (kind : ShellEventKind)
    (hfew : pushed.length < 2 ^ 64 - 1) :
    ∃ dropped, Retains (queue.push kind) (pushed ++ [kind]) dropped := by
  have hnext : queue.nextSeq = pushed.length + 1 := by rw [h.nextSeq]; omega
  -- The kept events are numbered from `kept`, and the new one comes right after them.
  have hsnoc {kept : Nat} (hle : kept ≤ pushed.length) :
      numbered kept (pushed.drop kept) ++ [⟨queue.nextSeq, kind⟩] =
        numbered kept ((pushed ++ [kind]).drop kept) := by
    rw [drop_append_of_le_length hle, numbered_append, length_drop, hnext]
    congr 3
    omega
  have hkept : ∃ kept ≤ pushed.length,
      (if queue.events.length = queue.capacity then queue.events.tail else queue.events) =
        numbered kept (pushed.drop kept) ∧ (0 < kept → 0 < (queue.push kind).droppedEvents) := by
    by_cases hfull : queue.events.length = queue.capacity
    · have hpos : 0 < (queue.push kind).droppedEvents := by
        simp only [ShellEventQueue.push, hfull, ↓reduceIte, saturatingAdd]
        omega
      rcases Nat.lt_or_ge dropped pushed.length with hlt | hge
      · refine ⟨dropped + 1, hlt, ?_, fun _ => hpos⟩
        rw [if_pos hfull, h.events, drop_eq_getElem_cons hlt, numbered, tail_cons]
      · -- A queue of capacity 0 drops nothing at its first event.
        refine ⟨pushed.length, le_rfl, ?_, fun _ => hpos⟩
        rw [if_pos hfull, h.events, drop_eq_nil_of_le hge, drop_length]
        rfl
    · refine ⟨dropped, by have := h.newest; omega, by rw [if_neg hfull, h.events], fun hlt => ?_⟩
      simpa [ShellEventQueue.push, hfull] using h.counted hlt
  obtain ⟨kept, hle, hevents, hcounted⟩ := hkept
  refine ⟨kept, ?_, ?_, hcounted, .inr (by simp; omega)⟩
  · simp [ShellEventQueue.push, saturatingAdd, hnext]
  · rw [← hsnoc hle, ← hevents]
    rfl

lemma Retains.gap_eq (h : Retains queue pushed dropped) (hfew : pushed.length < 2 ^ 64)
    (cursor limit : Nat) : queue.gap cursor limit =
      if 0 < limit ∧ cursor < dropped then [⟨dropped, .reconciliationGap⟩] else [] := by
  unfold ShellEventQueue.gap
  rw [h.events]
  rcases Nat.lt_or_ge dropped pushed.length with hlt | hge
  · have hlater : saturatingAdd cursor 1 < dropped + 1 ↔ cursor < dropped := by
      unfold saturatingAdd
      omega
    rw [drop_eq_getElem_cons hlt, numbered]
    simp only [head?_cons, hlater, Nat.add_sub_cancel]
    exact if_congr ⟨And.right, fun hgap => ⟨h.counted (by omega), hgap⟩⟩ rfl rfl
  · have hzero : dropped = 0 := h.newest.resolve_right (Nat.not_lt.mpr hge)
    rw [drop_eq_nil_of_le hge]
    simp [numbered, hzero]

/-- A read accounts for the events up to its cursor and moves on by `limit` of them at least,
or to the newest. -/
lemma Retains.readSince (h : Retains queue pushed dropped) (hfew : pushed.length < 2 ^ 64)
    (hcursor : cursor ≤ pushed.length) (limit : Nat) :
    let batch := queue.readSince cursor limit
    Accounts pushed batch.cursor cursor batch.events ∧ batch.cursor ≤ pushed.length ∧
      min pushed.length (cursor + limit) ≤ batch.cursor := by
  have hread : ∃ upTo, Accounts pushed upTo cursor (queue.readSince cursor limit).events ∧
      upTo ≤ pushed.length ∧ min pushed.length (cursor + limit) ≤ upTo := by
    unfold ShellEventQueue.readSince
    simp only [h.gap_eq hfew, h.events, filter_numbered, drop_drop]
    by_cases hgap : 0 < limit ∧ cursor < dropped
    · have hlt : dropped < pushed.length := h.newest.resolve_left (by omega)
      rw [if_pos hgap, Nat.max_eq_right hgap.2.le, Nat.sub_eq_zero_of_le hgap.2.le, Nat.add_zero]
      exact ⟨_, ⟨.inr ⟨rfl, hgap.2, hlt.le⟩, accounts_take_numbered pushed (limit - 1) dropped⟩,
        by omega, by omega⟩
    · rw [if_neg hgap, nil_append, length_nil, Nat.sub_zero]
      rcases Nat.eq_zero_or_pos limit with rfl | hpos
      · exact ⟨cursor, rfl, hcursor, by omega⟩
      · have hle : dropped ≤ cursor := by omega
        rw [Nat.max_eq_left hle, Nat.add_sub_cancel' hle]
        exact ⟨_, accounts_take_numbered pushed limit cursor, by omega, by omega⟩
  obtain ⟨upTo, haccounts, hbounds⟩ := hread
  obtain rfl : (queue.readSince cursor limit).cursor = upTo := haccounts.cursorAfter_eq
  exact ⟨haccounts, hbounds⟩

namespace Client

/-- A client behind a queue that retains the newest events, with what it received accounted
for up to its cursor. -/
structure Inv (client : Client) : Prop where
  retains : ∃ dropped, Retains client.queue client.pushed dropped
  received : Accounts client.pushed client.cursor 0 client.received
  cursor : client.cursor ≤ client.pushed.length

variable {client : Client}

lemma Inv.step (h : client.Inv) (move : Move)
    (hfew : (client.step move).pushed.length < 2 ^ 64) : (client.step move).Inv := by
  obtain ⟨dropped, hretains⟩ := h.retains
  cases move with
  | push kind =>
    have hfew : client.pushed.length < 2 ^ 64 - 1 := by
      simp only [Client.step, length_append, length_singleton] at hfew
      omega
    exact ⟨hretains.push kind hfew, h.received.mono, h.cursor.trans (by simp [Client.step])⟩
  | read limit =>
    obtain ⟨haccounts, hle, -⟩ := hretains.readSince hfew h.cursor limit
    exact ⟨⟨dropped, hretains⟩, h.received.append haccounts, hle⟩

lemma length_pushed_step (move : Move) :
    client.pushed.length ≤ (client.step move).pushed.length := by
  cases move <;> simp [step]

lemma inv_run (capacity : Nat) (moves : List Move)
    (hfew : (run capacity moves).pushed.length < 2 ^ 64) : (run capacity moves).Inv := by
  induction moves using List.reverseRecOn with
  | nil => exact ⟨⟨0, by simp [run], rfl, nofun, .inl rfl⟩, rfl, le_rfl⟩
  | append_singleton moves move ih =>
    rw [run, foldl_append] at hfew ⊢
    exact (ih ((length_pushed_step move).trans_lt hfew)).step move hfew

/-- At every point of a run with fewer than `2 ^ 64` events, the client's entries account for
the events up to its cursor, and its next read reaches `limit` events further or the newest. -/
theorem received_accounts (capacity : Nat) (moves : List Move)
    (hfew : (run capacity moves).pushed.length < 2 ^ 64) :
    let client := run capacity moves
    Accounts client.pushed client.cursor 0 client.received ∧ ∀ limit,
      min client.pushed.length (client.cursor + limit) ≤
        (client.queue.readSince client.cursor limit).cursor := by
  have hinv := inv_run capacity moves hfew
  obtain ⟨dropped, hretains⟩ := hinv.retains
  exact ⟨hinv.received, fun limit => (hretains.readSince hfew hinv.cursor limit).2.2⟩

theorem received_accounts_after_drop :
    let client := run 2 [.push .attachCreated, .push .detached, .push .killed, .read 8]
    client.received = [⟨1, .reconciliationGap⟩, ⟨2, .detached⟩, ⟨3, .killed⟩] ∧
      Accounts client.pushed client.cursor 0 client.received :=
  ⟨by decide, (received_accounts 2 _ (by decide)).1⟩

lemma length_pushed_replicate (capacity count : Nat) (kind : ShellEventKind) :
    (run capacity (List.replicate count (.push kind))).pushed.length = count := by
  induction count with
  | zero => rfl
  | succ count ih =>
    rw [replicate_succ', run, foldl_append]
    exact length_append.trans (congrArg (· + 1) ih)

/-- From the largest number on, nothing is later than the cursor. -/
lemma readSince_of_seq_le {queue : ShellEventQueue}
    (h : ∀ event ∈ queue.events, event.seq ≤ 2 ^ 64 - 1) (limit : Nat) :
    (queue.readSince (2 ^ 64 - 1) limit).events = [] := by
  have hgap : queue.gap (2 ^ 64 - 1) limit = [] := by
    unfold ShellEventQueue.gap
    split
    next oldest hhead =>
      have hle := h oldest (mem_of_head? hhead)
      exact if_neg fun hlt => absurd hlt.2.2 (by unfold saturatingAdd; omega)
    next => rfl
  have hlater : queue.events.filter (2 ^ 64 - 1 < ·.seq) = [] :=
    filter_eq_nil_iff.mpr fun event hevent => by simpa using h event hevent
  simp only [ShellEventQueue.readSince, hgap, hlater, take_nil, append_nil]

lemma Inv.exhausted (h : client.Inv)
    (hlength : client.pushed.length = 2 ^ 64 - 1) (kind : ShellEventKind) :
    let client := (client.step (.read (2 ^ 64))).step (.push kind)
    client.cursor < client.pushed.length ∧
      ∀ limit, (client.queue.readSince client.cursor limit).events = [] := by
  obtain ⟨dropped, hretains⟩ := h.retains
  obtain ⟨-, hle, hreach⟩ := hretains.readSince (by omega) h.cursor (2 ^ 64)
  have hcursor : (client.queue.readSince client.cursor (2 ^ 64)).cursor = 2 ^ 64 - 1 := by omega
  have hnone : client.queue.events.filter (2 ^ 64 - 1 < ·.seq) = [] := by
    rw [hretains.events, filter_numbered, drop_drop, drop_eq_nil_of_le (by omega)]
    rfl
  have hseq : ∀ event ∈ (client.queue.push kind).events, event.seq ≤ 2 ^ 64 - 1 := by
    intro event hevent
    rcases mem_append.mp hevent with hkept | hnew
    · have hmem : event ∈ client.queue.events := by
        split at hkept
        · exact mem_of_mem_tail hkept
        · exact hkept
      simpa using filter_eq_nil_iff.mp hnone event hmem
    · rw [mem_singleton.mp hnew, hretains.nextSeq]
      exact Nat.min_le_right ..
  simp only [Client.step, hcursor, length_append, hlength, length_singleton]
  exact ⟨by omega, readSince_of_seq_le hseq⟩

/-- Event number `2 ^ 64` gets the number of the one before it: a client that has read that one
never sees the event, nor a gap. -/
theorem exists_event_never_received : ∃ moves,
    let client := run 256 moves
    client.cursor < client.pushed.length ∧
      ∀ limit, (client.queue.readSince client.cursor limit).events = [] := by
  obtain ⟨count, hcount⟩ : ∃ count, count = 2 ^ 64 - 1 := ⟨_, rfl⟩
  have hlength := length_pushed_replicate 256 count .killed
  have hinv := inv_run 256 (List.replicate count (.push .killed)) (by omega)
  refine ⟨List.replicate count (.push .killed) ++ [.read (2 ^ 64), .push .killed], ?_⟩
  rw [run, foldl_append]
  exact hinv.exhausted (hlength.trans hcount) .killed

end Client

end D2b.Guestd.Shell

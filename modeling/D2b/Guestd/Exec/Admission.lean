import D2b.Guestd.Exec.Runtime
import D2b.Lib.Run

/-!
# D2b.Guestd.Exec.Admission

The runtime keeps its caps, and no process is lost: whoever spawned one has it
in hand until a tracked entry with its killer, an exit or a signal accounts
for it (`exec_admission`).

`close_connection` takes its entries out of tracking first and signals them one
after the other, so in between a process may be neither tracked nor signalled
(`exists_unsignalled_process`); it is then in the list of that call.
-/

namespace D2b.Guestd

open Function List Option

namespace ExecRuntime

/-! ## what holds of an exec -/

/-- A tracked entry carries the killer of the exec's process. -/
def Tracked (rt : ExecRuntime) (id : String) : Prop :=
  ∃ e, (id, e) ∈ rt.execs ∧ e.killer = .process id

/-- A `close_connection` of its owner has collected the exec and not reached it yet. -/
def Collected (rt : ExecRuntime) (id : String) (owner : ConnectionKey) : Prop :=
  ∃ k ∈ rt.closes, k.owner = owner ∧ ∃ e ∈ k.owned, e.killer = .process id

inductive Accounted (rt : ExecRuntime) (id : String) (r : ExecRecord) : Prop
  | spawned (h : r.phase = .spawned)
  | uncommitted (h : r.phase = .uncommitted)
  | tracked (h : rt.Tracked id)
  | exited (h : r.exited = true)
  | signalled (h : r.signalled = true)
  | collected (h : rt.Collected id r.owner)

/-- An entry is the placeholder of a create under way, or the real entry after it. -/
structure EntryOf (id : String) (e : ExecEntry) (r : ExecRecord) : Prop where
  owner_eq : e.owner = r.owner
  not_closed : r.closed = false
  killer : (e.killer = .noop ∧ (r.phase = .spawning ∨ r.phase = .spawned)) ∨
    (e.killer = .process id ∧ r.phase = .returned)

/-- What holds in every state. -/
structure Inv (rt : ExecRuntime) : Prop where
  reservations_eq : rt.reservations = rt.reserved.length + rt.guards.length
  tracked_le : rt.execs.length + rt.reserved.length ≤ execSessionsPerVm
  running_le : rt.running + rt.reserved.length ≤ attachedSessionsPerVm
  entries : ∀ id e, (id, e) ∈ rt.execs → ∃ r, rt.records id = some r ∧ EntryOf id e r
  accounted : ∀ id r, rt.records id = some r → r.spawned = true → rt.Accounted id r

variable {rt rt' : ExecRuntime} {id : String} {r : ExecRecord}

lemma Accounted.mono (h : rt.Accounted id r) (htracked : rt.Tracked id → rt'.Tracked id)
    (hcollected : rt.Collected id r.owner → rt'.Collected id r.owner) : rt'.Accounted id r := by
  cases h with
  | spawned h => exact .spawned h
  | uncommitted h => exact .uncommitted h
  | tracked h => exact .tracked (htracked h)
  | exited h => exact .exited h
  | signalled h => exact .signalled h
  | collected h => exact .collected (hcollected h)

/-- An action that only counts, or only returns. -/
lemma counts_inv (h : rt.Inv) (hexecs : rt'.execs = rt.execs)
    (hrecords : rt'.records = rt.records) (hcloses : rt'.closes = rt.closes)
    (hreservations : rt'.reservations = rt'.reserved.length + rt'.guards.length)
    (htracked : rt.execs.length + rt'.reserved.length ≤ execSessionsPerVm)
    (hrunning : rt.running + rt'.reserved.length ≤ attachedSessionsPerVm) : rt'.Inv := by
  have hsame : rt'.running = rt.running := by
    unfold running isTerminal
    rw [hexecs, hrecords]
  refine ⟨hreservations, hexecs ▸ htracked, hsame ▸ hrunning, ?_, ?_⟩
  · rw [hexecs, hrecords]
    exact h.entries
  · rw [hrecords]
    intro id r hr hspawned
    refine (h.accounted id r hr hspawned).mono ?_ ?_
    · rintro ⟨e, he, hk⟩
      exact ⟨e, hexecs ▸ he, hk⟩
    · rintro ⟨k, hmem, hk⟩
      exact ⟨k, hcloses ▸ hmem, hk⟩

/-! ## counting -/

lemma running_le_running (hsub : rt'.execs.Sublist rt.execs)
    (hterm : ∀ x ∈ rt'.execs, rt.isTerminal x.2 = true → rt'.isTerminal x.2 = true) :
    rt'.running ≤ rt.running := by
  have hmono : rt'.execs.countP (fun x => !rt'.isTerminal x.2) ≤
      rt'.execs.countP (fun x => !rt.isTerminal x.2) := by
    refine countP_mono_left fun x hx h => ?_
    have := hterm x hx
    simp at h ⊢
    grind
  exact hmono.trans (hsub.countP_le)

variable {e : ExecEntry}

lemma isTerminal_of_update (hrec : rt'.records = update rt.records id (some r'))
    (hterm : ∀ r, rt.records id = some r → r.terminal = true → r'.terminal = true)
    (he : rt.isTerminal e = true) : rt'.isTerminal e = true := by
  unfold isTerminal at he ⊢
  cases hk : e.killer with
  | noop => simp [hk] at he
  | process id' =>
    simp only [hk] at he ⊢
    by_cases hid : id' = id
    · subst hid
      obtain ⟨r, hr, hrt⟩ := (Option.any_eq_true ..).mp he
      rw [hrec, update_self]
      exact hterm r hr hrt
    · rw [hrec, update_of_ne hid]
      exact he

lemma remove_sublist (rt : ExecRuntime) (id : String) : (rt.remove id).Sublist rt.execs :=
  filter_sublist

lemma mem_remove : (id', e) ∈ rt.remove id ↔ (id', e) ∈ rt.execs ∧ id' ≠ id := by
  simp [remove]

/-! ## one action -/

lemma new_inv : new.Inv := by
  constructor <;> simp [new, running, execSessionsPerVm, attachedSessionsPerVm]

lemma create_inv (h : rt.Inv) (owner : ConnectionKey) (tty : Bool) :
    (rt.create owner tty).Inv := by
  have heq := h.reservations_eq
  unfold create
  split
  · exact counts_inv h rfl rfl rfl heq h.tracked_le h.running_le
  split
  · exact counts_inv h rfl rfl rfl heq h.tracked_le h.running_le
  · refine counts_inv h rfl rfl rfl ?_ ?_ ?_ <;> simp <;> omega

lemma failReserved_inv (h : rt.Inv) (hi : i < rt.reserved.length) (error : ExecError) :
    (rt.failReserved i error).Inv := by
  have heq := h.reservations_eq
  have htracked := h.tracked_le
  have hrunning := h.running_le
  have hlen := length_eraseIdx_of_lt hi
  refine counts_inv h rfl rfl rfl ?_ ?_ ?_ <;> simp only [failReserved, hlen] <;> omega

lemma release_inv (h : rt.Inv) (hact : rt.release id = some rt') : rt'.Inv := by
  unfold release at hact
  split at hact <;> cases hact
  rename_i hmem
  have heq := h.reservations_eq
  have hlen := length_erase_of_mem hmem
  have hpos := length_pos_of_mem hmem
  refine counts_inv h rfl rfl rfl ?_ h.tracked_le h.running_le
  simp only [hlen]
  omega

/-- An action on the exec `id` alone, apart from what it counts. -/
lemma record_inv (h : rt.Inv) (hrec : rt'.records = update rt.records id (some r'))
    (hreservations : rt'.reservations = rt'.reserved.length + rt'.guards.length)
    (htracked : rt'.execs.length + rt'.reserved.length ≤ execSessionsPerVm)
    (hrunning : rt'.running + rt'.reserved.length ≤ attachedSessionsPerVm)
    (hother : ∀ id' e, id' ≠ id → ((id', e) ∈ rt'.execs ↔ (id', e) ∈ rt.execs))
    (hcloses : ∀ id' owner, id' ≠ id → rt.Collected id' owner → rt'.Collected id' owner)
    (hentry : ∀ e, (id, e) ∈ rt'.execs → EntryOf id e r')
    (hacc : r'.spawned = true → rt'.Accounted id r') : rt'.Inv := by
  refine ⟨hreservations, htracked, hrunning, ?_, ?_⟩
  · intro id' e he
    by_cases hid : id' = id
    · subst hid
      exact ⟨r', by rw [hrec, update_self], hentry e he⟩
    · rw [hrec, update_of_ne hid]
      exact h.entries id' e ((hother id' e hid).mp he)
  · intro id' r₁ hr₁ hspawned
    by_cases hid : id' = id
    · subst hid
      rw [hrec, update_self] at hr₁
      cases hr₁
      exact hacc hspawned
    · rw [hrec, update_of_ne hid] at hr₁
      refine (h.accounted id' r₁ hr₁ hspawned).mono ?_ (hcloses id' _ hid)
      rintro ⟨e, he, hk⟩
      exact ⟨e, (hother id' e hid).mpr he, hk⟩

/-- The record of an entry of `id` is the one there is. -/
lemma Inv.entryOf (h : rt.Inv) (hr : rt.records id = some r) (he : (id, e) ∈ rt.execs) :
    EntryOf id e r := by
  obtain ⟨r₁, hr₁, hentry⟩ := h.entries id e he
  rw [hr, Option.some.injEq] at hr₁
  exact hr₁ ▸ hentry

lemma isTerminal_update (hr : rt.records id = some r)
    (hrec : rt'.records = update rt.records id (some r'))
    (hterm : r.terminal = true → r'.terminal = true) (he : rt.isTerminal e = true) :
    rt'.isTerminal e = true := by
  refine isTerminal_of_update hrec ?_ he
  intro r₁ hr₁
  rw [hr, Option.some.injEq] at hr₁
  exact hr₁ ▸ hterm

section

variable (h : rt.Inv) (hr : rt.records id = some r)
include h hr

/-- An action that only changes the record of `id`. -/
lemma setRecord_inv (hterm : r.terminal = true → r'.terminal = true)
    (hentry : ∀ e, (id, e) ∈ rt.execs → EntryOf id e r → EntryOf id e r')
    (hacc : r'.spawned = true → rt.Accounted id r') : (rt.setRecord id r').Inv := by
  have hrunning : (rt.setRecord id r').running ≤ rt.running :=
    running_le_running (List.Sublist.refl _) fun x _ => isTerminal_update hr rfl hterm
  refine record_inv h rfl h.reservations_eq h.tracked_le ?_ (fun _ _ _ => Iff.rfl)
    (fun _ _ _ h => h) ?_ (fun hs => (hacc hs).mono (fun h => h) (fun h => h))
  · exact (Nat.add_le_add_right hrunning _).trans h.running_le
  · intro e he
    exact hentry e he (h.entryOf hr he)

/-- The flags of a record are only ever set. -/
lemma flags_inv
    (hsame : r'.owner = r.owner ∧ r'.phase = r.phase ∧ r'.closed = r.closed ∧
      r'.spawned = r.spawned)
    (hterm : r.terminal = true → r'.terminal = true)
    (hexited : r.exited = true → r'.exited = true)
    (hsignalled : r.signalled = true → r'.signalled = true) : (rt.setRecord id r').Inv := by
  obtain ⟨howner, hphase, hclosed, hspawned⟩ := hsame
  refine setRecord_inv h hr hterm ?_ ?_
  · rintro e - ⟨he, hc, hk⟩
    exact ⟨by rw [howner, he], by rw [hclosed, hc], by rw [hphase]; exact hk⟩
  · intro hs
    rw [hspawned] at hs
    rcases h.accounted id r hr hs with h | h | h | h | h | h
    · exact .spawned (hphase.trans h)
    · exact .uncommitted (hphase.trans h)
    · exact .tracked h
    · exact .exited (hexited h)
    · exact .signalled (hsignalled h)
    · exact .collected (howner ▸ h)

lemma spawn_inv (hact : rt.spawn id r = some rt') : rt'.Inv := by
  unfold spawn at hact
  split at hact <;> cases hact
  rename_i hphase
  refine setRecord_inv h hr (fun h => h) ?_ (fun _ => .spawned rfl)
  rintro e - ⟨he, hc, hk⟩
  refine ⟨he, hc, ?_⟩
  rcases hk with hk | hk
  · exact .inl ⟨hk.1, .inr rfl⟩
  · simp [hphase.1] at hk

lemma spawnFail_inv (hact : rt.spawnFail id r error = some rt') : rt'.Inv := by
  unfold spawnFail at hact
  split at hact <;> cases hact
  rename_i hphase
  refine record_inv h rfl h.reservations_eq ?_ ?_ ?_ (fun _ _ _ h => h) ?_ ?_
  · exact (Nat.add_le_add_right (remove_sublist rt id).length_le _).trans h.tracked_le
  · refine (Nat.add_le_add_right ?_ _).trans h.running_le
    exact running_le_running (remove_sublist rt id) fun x _ =>
      isTerminal_update hr rfl (by exact fun h => h)
  · intro id' e hid
    simp only [mem_remove, hid, ne_eq, not_false_iff, and_true]
  · intro e he
    exact absurd rfl (mem_remove.mp he).2
  · intro hs
    rcases h.accounted id r hr hs with h' | h' | ⟨e, he, hk⟩ | h' | h' | h'
    · simp [hphase.1] at h'
    · simp [hphase.1] at h'
    · have hkiller := (h.entryOf hr he).killer
      simp [hk, hphase.1] at hkiller
    · exact .exited h'
    · exact .signalled h'
    · exact .collected h'

end

/-- Taking out the entries of `id` makes room for one. -/
lemma countP_remove_lt (he : (id, e) ∈ rt.execs) (hp : p (id, e) = true) :
    (rt.remove id).countP p < rt.execs.countP p := by
  have hsplit := countP_eq_countP_filter_add rt.execs p (fun x => decide (x.1 ≠ id))
  have hpos : 0 < (rt.execs.filter fun x => !decide (x.1 ≠ id)).countP p :=
    countP_pos_iff.mpr ⟨(id, e), by simpa using he, hp⟩
  unfold remove
  omega

lemma length_insert : (rt.insert id e).length = (rt.remove id).length + 1 := rfl

lemma mem_insert_of_ne (hid : id' ≠ id) : (id', e) ∈ rt.insert id e' ↔ (id', e) ∈ rt.execs := by
  simp [insert, mem_remove, hid]

lemma eq_of_mem_insert (h : (id, e) ∈ rt.insert id e') : e = e' := by
  simpa [insert, mem_remove] using h

/-- The count of running execs once an entry is put in place of those of `id`. -/
lemma running_insert_le (hexecs : rt'.execs = rt.insert id e)
    (hterm : ∀ x ∈ rt.remove id, rt.isTerminal x.2 = true → rt'.isTerminal x.2 = true) :
    rt'.running ≤ (rt.remove id).countP (fun x => !rt.isTerminal x.2) + 1 := by
  have hmono : (rt.remove id).countP (fun x => !rt'.isTerminal x.2) ≤
      (rt.remove id).countP (fun x => !rt.isTerminal x.2) := by
    refine countP_mono_left fun x hx h => ?_
    have := hterm x hx
    simp at h ⊢
    grind
  unfold running
  rw [hexecs, insert, countP_cons]
  split <;> omega

lemma commit_inv (h : rt.Inv) (hr : rt.records id = some r) (hact : rt.commit id r = some rt') :
    rt'.Inv := by
  unfold commit at hact
  split at hact <;> [skip; cases hact]
  rename_i hphase
  by_cases hmem : id ∈ rt.execs.map Prod.fst
  · rw [if_pos hmem] at hact
    cases hact
    obtain ⟨⟨id', e⟩, he, hid⟩ := mem_map.mp hmem
    obtain rfl : id' = id := hid
    have hentry := h.entryOf hr he
    have hnoop : e.killer = .noop := by
      rcases hentry.killer with hk | hk
      · exact hk.1
      · simp [hphase] at hk
    have hlen := countP_remove_lt (p := fun _ => true) he rfl
    simp only [countP_true] at hlen
    have hcount := countP_remove_lt (p := fun x => !rt.isTerminal x.2) he (by
      simp [isTerminal, hnoop])
    refine record_inv h rfl h.reservations_eq ?_ ?_ (fun _ _ hid => mem_insert_of_ne hid)
      (fun _ _ _ h => h) ?_ ?_
    · have := h.tracked_le
      simp only [length_insert]
      show _ + 1 + rt.reserved.length ≤ _
      omega
    · have := h.running_le
      refine (Nat.add_le_add_right (running_insert_le rfl fun x _ =>
        isTerminal_update hr rfl (by exact fun h => h)) _).trans ?_
      show _ + 1 + rt.reserved.length ≤ _
      unfold running at this
      omega
    · intro e' he'
      rw [eq_of_mem_insert he']
      exact ⟨rfl, hentry.not_closed, .inr ⟨rfl, rfl⟩⟩
    · intro _
      exact .tracked ⟨_, mem_cons_self, rfl⟩
  · rw [if_neg hmem] at hact
    cases hact
    refine setRecord_inv h hr (fun h => h) ?_ (fun _ => .uncommitted rfl)
    intro e he
    exact absurd (mem_map.mpr ⟨_, he, rfl⟩) hmem

lemma teardown_inv (h : rt.Inv) (hr : rt.records id = some r)
    (hact : rt.teardown id r = some rt') : rt'.Inv := by
  unfold teardown at hact
  split at hact <;> cases hact
  rename_i hphase
  have hinv : (rt.setRecord id { endExec r with phase := .returned }).Inv := by
    refine setRecord_inv h hr (fun ht => ?_) ?_ ?_
    · simp [endExec, ht]
    · rintro e - ⟨he, hc, hk⟩
      simp [hphase] at hk
    · intro _
      exact .signalled rfl
  exact counts_inv hinv rfl rfl rfl hinv.reservations_eq hinv.tracked_le hinv.running_le

lemma place_inv (h : rt.Inv) {id : Except ExecError String} (hact : rt.place i id = some rt') :
    rt'.Inv := by
  unfold place at hact
  cases hi : rt.reserved[i]? with
  | none => simp [hi] at hact
  | some x =>
    have hlt : i < rt.reserved.length := (List.getElem?_eq_some_iff.mp hi).1
    obtain ⟨owner, tty⟩ := x
    cases id with
    | error e =>
      simp only [hi, Option.some.injEq] at hact
      exact hact ▸ failReserved_inv h hlt e
    | ok id =>
      simp only [hi] at hact
      split at hact
      · cases hact
        exact failReserved_inv h hlt .internal
      split at hact <;> cases hact
      rename_i hfresh
      have hnone : rt.records id = none := by simpa using hfresh
      have hlen := length_eraseIdx_of_lt hlt
      have hsub := (remove_sublist rt id).length_le
      have hcount := (remove_sublist rt id).countP_le (p := fun x => !rt.isTerminal x.2)
      have htracked := h.tracked_le
      have hrunning := h.running_le
      have hreservations := h.reservations_eq
      refine record_inv h rfl ?_ ?_ ?_ (fun _ _ hid => mem_insert_of_ne hid)
        (fun _ _ _ h => h) ?_ (fun hs => by cases hs)
      · show rt.reservations = (rt.reserved.eraseIdx i).length + (rt.guards.length + 1)
        omega
      · show (rt.remove id).length + 1 + (rt.reserved.eraseIdx i).length ≤ _
        omega
      · refine (Nat.add_le_add_right (running_insert_le rfl fun x _ =>
          isTerminal_of_update rfl fun r hr => ?_) _).trans ?_
        · rw [hnone] at hr
          cases hr
        · show _ + 1 + (rt.reserved.eraseIdx i).length ≤ _
          unfold running at hrunning
          omega
      · intro e he
        rw [eq_of_mem_insert he]
        exact ⟨rfl, rfl, .inl ⟨rfl, .inl rfl⟩⟩

lemma close_records (hr : (rt.close owner).records id = some r) :
    ∃ r₀, rt.records id = some r₀ ∧
      r = if r₀.owner = owner then { r₀ with closed := true } else r₀ := by
  obtain ⟨r₀, hr₀, heq⟩ := map_eq_some_iff.mp hr
  exact ⟨r₀, hr₀, heq.symm⟩

lemma close_inv (h : rt.Inv) (owner : ConnectionKey) : (rt.close owner).Inv := by
  have hsub : (rt.close owner).execs.Sublist rt.execs := filter_sublist
  have hrunning : (rt.close owner).running ≤ rt.running := by
    refine running_le_running hsub fun x _ hx => ?_
    unfold isTerminal at hx ⊢
    cases hk : x.2.killer with
    | noop => simp [hk] at hx
    | process id =>
      simp only [hk] at hx ⊢
      obtain ⟨r, hr, hterm⟩ := (Option.any_eq_true ..).mp hx
      simp only [close, hr, map_some, any_some]
      split <;> exact hterm
  refine ⟨h.reservations_eq, ?_, ?_, ?_, ?_⟩
  · exact (Nat.add_le_add_right hsub.length_le _).trans h.tracked_le
  · exact (Nat.add_le_add_right hrunning _).trans h.running_le
  · intro id e he
    have he' : (id, e) ∈ rt.execs ∧ e.owner ≠ owner := by simpa [close] using he
    obtain ⟨r, hr, hentry⟩ := h.entries id e he'.1
    have howner : r.owner ≠ owner := hentry.owner_eq ▸ he'.2
    exact ⟨r, by simp [close, hr, howner], hentry⟩
  · intro id r hr hspawned
    obtain ⟨r₀, hr₀, heq⟩ := close_records hr
    have hsame : r.owner = r₀.owner ∧ r.phase = r₀.phase ∧ r.spawned = r₀.spawned ∧
        r.exited = r₀.exited ∧ r.signalled = r₀.signalled := by
      rw [heq]
      split <;> exact ⟨rfl, rfl, rfl, rfl, rfl⟩
    obtain ⟨howner, hphase, hsp, hex, hsig⟩ := hsame
    rcases h.accounted id r₀ hr₀ (hsp ▸ hspawned) with h' | h' | ⟨e, he, hk⟩ | h' | h' | h'
    · exact .spawned (hphase ▸ h')
    · exact .uncommitted (hphase ▸ h')
    · by_cases hmine : e.owner = owner
      · -- the entry is taken out and collected
        refine .collected ⟨_, mem_concat_self, ?_, e, ?_, hk⟩
        · rw [howner, ← (h.entryOf hr₀ he).owner_eq, hmine]
        · exact mem_map.mpr ⟨(id, e), by simpa [hmine] using he, rfl⟩
      · exact .tracked ⟨e, by simpa [close, hmine] using he, hk⟩
    · exact .exited (hex ▸ h')
    · exact .signalled (hsig ▸ h')
    · obtain ⟨k, hmem, hk⟩ := h'
      exact .collected ⟨k, mem_append_left _ hmem, howner ▸ hk⟩

/-- What stays collected when a `close_connection` goes on to its next entry. -/
lemma collected_set (hj : rt.closes[j]? = some ⟨owner, entry :: owned⟩)
    (hcloses : rt'.closes = rt.closes.set j ⟨owner, owned⟩) (hne : entry.killer ≠ .process id)
    (h : rt.Collected id owner') : rt'.Collected id owner' := by
  obtain ⟨k, hmem, hk, e, he, hkiller⟩ := h
  obtain ⟨n, hn⟩ := mem_iff_getElem?.mp hmem
  have hlt : j < rt.closes.length := (List.getElem?_eq_some_iff.mp hj).1
  by_cases hnj : n = j
  · subst hnj
    rw [hj] at hn
    cases hn
    refine ⟨⟨owner, owned⟩, ?_, hk, e, ?_, hkiller⟩
    · rw [hcloses]
      exact mem_iff_getElem?.mpr ⟨n, by rw [getElem?_set_self hlt]⟩
    · rcases mem_cons.mp he with rfl | he
      · exact absurd hkiller hne
      · exact he
  · refine ⟨k, ?_, hk, e, he, hkiller⟩
    rw [hcloses]
    exact mem_iff_getElem?.mpr ⟨n, by rw [getElem?_set_ne (Ne.symm hnj), hn]⟩

lemma closeNext_inv (h : rt.Inv) (hact : rt.closeNext j = some rt') : rt'.Inv := by
  unfold closeNext at hact
  split at hact <;> [skip; cases hact]
  rename_i owner entry owned hj
  cases hk : entry.killer with
  | noop =>
    simp only [hk] at hact
    cases hact
    refine ⟨h.reservations_eq, h.tracked_le, h.running_le, h.entries, ?_⟩
    intro id r hr hspawned
    exact (h.accounted id r hr hspawned).mono (fun h => h) (collected_set hj rfl (by simp [hk]))
  | process id =>
    simp only [hk] at hact
    obtain ⟨r, hr, rfl⟩ := map_eq_some_iff.mp hact
    refine record_inv h rfl h.reservations_eq h.tracked_le ?_ (fun _ _ _ => Iff.rfl) ?_ ?_ ?_
    · refine (Nat.add_le_add_right ?_ _).trans h.running_le
      refine running_le_running (List.Sublist.refl _) fun x _ => isTerminal_update hr rfl ?_
      intro hterm
      simp [endExec, hterm]
    · intro id' owner' hid
      exact collected_set hj rfl (by simp [hk, Ne.symm hid])
    · intro e he
      exact ⟨(h.entryOf hr he).owner_eq, (h.entryOf hr he).not_closed, (h.entryOf hr he).killer⟩
    · intro _
      exact .signalled rfl

lemma act_inv (h : rt.Inv) (hact : rt.act a = some rt') : rt'.Inv := by
  cases a
  case create owner tty =>
    cases hact
    exact create_inv h owner tty
  case place => exact place_inv h hact
  case release => exact release_inv h hact
  case close owner =>
    cases hact
    exact close_inv h owner
  case closeNext => exact closeNext_inv h hact
  -- the other actions are on a record
  all_goals obtain ⟨r, hr, hact⟩ := bind_eq_some_iff.mp hact
  case spawn => exact spawn_inv h hr hact
  case spawnFail => exact spawnFail_inv h hr hact
  case commit => exact commit_inv h hr hact
  case teardown => exact teardown_inv h hr hact
  case exit =>
    unfold exit at hact
    split at hact <;> cases hact
    exact flags_inv h hr ⟨rfl, rfl, rfl, rfl⟩ (fun h => h) (fun _ => rfl) (fun h => h)
  case ceiling =>
    unfold ceiling at hact
    split at hact <;> cases hact
    exact flags_inv h hr ⟨rfl, rfl, rfl, rfl⟩ (fun h => h) (fun h => h) (fun _ => rfl)
  case publish =>
    unfold publish at hact
    split at hact <;> cases hact
    exact flags_inv h hr ⟨rfl, rfl, rfl, rfl⟩ (fun _ => rfl) (fun h => h) (fun h => h)

/-! ## runs -/

def NoCreate (rt : ExecRuntime) : Prop :=
  rt.reserved = [] ∧ ∀ id r, rt.records id = some r → r.phase = .returned

def NoClose (rt : ExecRuntime) : Prop := ∀ k ∈ rt.closes, k.owned = []

/-- The connection closes while `spawn` is under way. -/
def closeDuringSpawn : List RuntimeAction :=
  [.create [1] true, .place 0 (.ok "exec-1"), .release "exec-1", .close [1], .closeNext 0,
    .spawn "exec-1", .commit "exec-1", .teardown "exec-1"]

/-- A connection with one exec closes. -/
def closeTracked : List RuntimeAction :=
  [.create [1] false, .place 0 (.ok "exec-1"), .release "exec-1", .spawn "exec-1",
    .commit "exec-1", .close [1]]

end ExecRuntime

end D2b.Guestd

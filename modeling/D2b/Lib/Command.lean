import Mathlib.Data.List.Basic

/-!
# D2b.Lib.Command

Commands: computations on a state that may fail, where a failure keeps what
was done to the state before it.  This is a method that mutates `self` and
returns a `Result`.

`exec` runs a command, and its equations turn a run of a `do` block into the
runs of its parts.  `Ensures` is total correctness of an atomic command: it
fails and leaves the state alone, or succeeds with a postcondition.  Its rules
follow the shape such a command has: guards and reads first, then updates that
cannot fail (`Succeeds`).  `Ends` is total correctness of any other command, with
a postcondition for failures too.
-/

/-- A computation on `σ` that may fail with `ε` and does not roll back. -/
abbrev Command (ε σ : Type) := ExceptT ε (StateM σ)

namespace Command

variable {ε σ α : Type}

/-- Run a command: its result and the state it leaves. -/
def exec (m : Command ε σ α) (s : σ) : Except ε α × σ := (m.run.run s).run

/-- Fail when the condition holds. -/
def failIf (p : Prop) [Decidable p] (e : ε) : Command ε σ Unit := if p then throw e else pure ()

/-- The value, or fail. -/
def okOr (o : Option α) (e : ε) : Command ε σ α :=
  match o with
  | some a => pure a
  | none => throw e

/-! ## runs of the parts -/

@[simp] lemma exec_pure (a : α) (s : σ) : (pure a : Command ε σ α).exec s = (.ok a, s) := rfl

@[simp] lemma exec_get : (get : Command ε σ σ).exec s = (.ok s, s) := rfl

@[simp] lemma exec_modify (f : σ → σ) (s : σ) :
    (modify f : Command ε σ Unit).exec s = (.ok (), f s) := rfl

lemma exec_eq_of_fst {m : Command ε σ α} (h : (m.exec s).1 = result) :
    m.exec s = (result, (m.exec s).2) := by
  rw [← h]

lemma exec_bind (m : Command ε σ α) (f : α → Command ε σ β) (s : σ) :
    (m >>= f).exec s = match m.exec s with
      | (.ok a, s') => (f a).exec s'
      | (.error e, s') => (.error e, s') := by
  unfold exec
  rw [ExceptT.run_bind, StateT.run_bind, Id.run_bind]
  rcases (m.run.run s).run with ⟨result, s'⟩
  cases result <;> rfl

@[simp] lemma exec_failIf (p : Prop) [Decidable p] (e : ε) (s : σ) :
    (failIf p e : Command ε σ Unit).exec s = (if p then .error e else .ok (), s) := by
  unfold failIf
  split <;> rfl

@[simp] lemma exec_okOr (o : Option α) (e : ε) (s : σ) :
    (okOr o e : Command ε σ α).exec s = (o.elim (.error e) .ok, s) := by
  cases o <;> rfl

@[simp] lemma exec_ofExcept (x : Except ε α) (s : σ) :
    (ofExcept x : Command ε σ α).exec s = (x, s) := by
  cases x <;> rfl

/-! ## runs of a part and the rest -/

lemma exec_get_bind (f : σ → Command ε σ β) (s : σ) : (get >>= f).exec s = (f s).exec s := by
  rw [exec_bind, exec_get]

lemma exec_modify_bind (g : σ → σ) (f : Unit → Command ε σ β) (s : σ) :
    (modify g >>= f).exec s = (f ()).exec (g s) := by
  rw [exec_bind, exec_modify]

lemma exec_failIf_bind (p : Prop) [Decidable p] (e : ε) (f : Unit → Command ε σ β) (s : σ) :
    (failIf p e >>= f).exec s = if p then (.error e, s) else (f ()).exec s := by
  rw [exec_bind, exec_failIf]
  by_cases hp : p
  · rw [if_pos hp, if_pos hp]
  · rw [if_neg hp, if_neg hp]

section

variable (f : α → Command ε σ β) (s : σ)

lemma exec_okOr_some_bind (a : α) (e : ε) : (okOr (some a) e >>= f).exec s = (f a).exec s := by
  rw [exec_bind, exec_okOr]
  rfl

lemma exec_okOr_none_bind (e : ε) : (okOr none e >>= f).exec s = (.error e, s) := by
  rw [exec_bind, exec_okOr]
  rfl

lemma exec_ofExcept_ok_bind (a : α) :
    ((ofExcept (.ok a : Except ε α) : Command ε σ α) >>= f).exec s = (f a).exec s := by
  rw [exec_bind, exec_ofExcept]

lemma exec_ofExcept_error_bind (e : ε) :
    ((ofExcept (.error e : Except ε α) : Command ε σ α) >>= f).exec s = (.error e, s) := by
  rw [exec_bind, exec_ofExcept]

end

/-! ## runs that succeed -/

lemma exec_bind_of_ok {f : α → Command ε σ β} (h : m.exec s = (.ok a, s₁)) :
    (m >>= f).exec s = (f a).exec s₁ := by
  rw [exec_bind, h]

/-! ## failures that change nothing -/

/-- From `s`, the command leaves the state alone when it fails. -/
def AtomicAt (m : Command ε σ α) (s : σ) : Prop := ∀ e s', m.exec s = (.error e, s') → s' = s

/-- From `s`, the command succeeds with `Q`. -/
def Succeeds (m : Command ε σ α) (s : σ) (Q : α → σ → Prop) : Prop :=
  ∃ a s', m.exec s = (.ok a, s') ∧ Q a s'

/-- From `s`, the command fails and leaves the state alone, or succeeds with `Q`. -/
def Ensures (m : Command ε σ α) (s : σ) (Q : α → σ → Prop) : Prop :=
  (∃ e, m.exec s = (.error e, s)) ∨ m.Succeeds s Q

section

variable {m : Command ε σ α} {f : α → Command ε σ β} {R' : σ → Prop}

lemma Succeeds.ensures (h : m.Succeeds s Q) : m.Ensures s Q := .inr h

lemma succeeds_pure (h : Q a s) : (pure a : Command ε σ α).Succeeds s Q := ⟨a, s, rfl, h⟩

lemma succeeds_modify {R : Unit → σ → Prop} (h : R () (g s)) :
    (modify g : Command ε σ Unit).Succeeds s R := ⟨(), g s, rfl, h⟩

lemma succeeds_modify_bind {f : Unit → Command ε σ β} (h : (f ()).Succeeds (g s) R) :
    (modify g >>= f).Succeeds s R := by
  obtain ⟨b, s', hexec, hR⟩ := h
  exact ⟨b, s', (exec_modify_bind g f s).trans hexec, hR⟩

lemma succeeds_modify_pure (h : R b (g s)) :
    (modify g >>= fun _ => pure b : Command ε σ β).Succeeds s R := ⟨b, g s, rfl, h⟩

lemma Succeeds.bind (h : m.Succeeds s Q) (hf : ∀ a s', Q a s' → (f a).Succeeds s' R) :
    (m >>= f).Succeeds s R := by
  obtain ⟨a, s', hexec, hQ⟩ := h
  obtain ⟨b, s'', hb, hR⟩ := hf a s' hQ
  exact ⟨b, s'', (exec_bind_of_ok hexec).trans hb, hR⟩

lemma Ensures.mono (h : m.Ensures s Q) (hle : ∀ a s', Q a s' → Q' a s') : m.Ensures s Q' := by
  rcases h with he | ⟨a, s', hexec, hQ⟩
  · exact .inl he
  · exact .inr ⟨a, s', hexec, hle a s' hQ⟩

lemma Ensures.atomicAt (h : m.Ensures s Q) : m.AtomicAt s := by
  intro e s' he
  rcases h with ⟨e', he'⟩ | ⟨a, s₁, hexec, -⟩
  · rw [he] at he'
    cases he'
    rfl
  · rw [he] at hexec
    cases hexec

/-- What holds of the state before and of every success holds afterwards. -/
lemma Ensures.after {P : σ → Prop} (h : m.Ensures s Q) (hs : P s)
    (hQ : ∀ a s', Q a s' → P s') : P (m.exec s).2 := by
  rcases h with ⟨e, he⟩ | ⟨a, s', hexec, hq⟩
  · rw [he]
    exact hs
  · rw [hexec]
    exact hQ a s' hq

/-- An atomic part, then a part that cannot fail any more. -/
lemma Ensures.bind (h : m.Ensures s Q) (hf : ∀ a s', Q a s' → (f a).Succeeds s' R) :
    (m >>= f).Ensures s R := by
  rcases h with ⟨e, he⟩ | h
  · exact .inl ⟨e, by rw [exec_bind, he]⟩
  · exact (h.bind hf).ensures

lemma Ensures.map (h : m.Ensures s fun _ s' => R' s') (f : α → β) :
    (f <$> m).Ensures s fun _ s' => R' s' := by
  rw [← bind_pure_comp]
  exact h.bind fun a s' hQ => succeeds_pure hQ

/-- A part that only reads, then an atomic part. -/
lemma ensures_bind_of_reads (hm : m.exec s = (result, s))
    (hf : ∀ a, result = .ok a → (f a).Ensures s R) : (m >>= f).Ensures s R := by
  cases hresult : result with
  | error e => exact .inl ⟨e, by rw [exec_bind, hm, hresult]⟩
  | ok a =>
    have hstep : (m >>= f).exec s = (f a).exec s := by rw [exec_bind, hm, hresult]
    unfold Ensures Succeeds
    rw [hstep]
    exact hf a hresult

lemma ensures_get_bind {f : σ → Command ε σ β} (h : (f s).Ensures s R) :
    (get >>= f).Ensures s R :=
  ensures_bind_of_reads rfl fun a ha => by cases ha; exact h

lemma ensures_failIf_bind [Decidable p] {f : Unit → Command ε σ β} (h : ¬p → (f ()).Ensures s R) :
    (failIf p e >>= f).Ensures s R := by
  refine ensures_bind_of_reads (exec_failIf p e s) fun _ hok => h fun hp => ?_
  rw [if_pos hp] at hok
  contradiction

lemma ensures_failIf [Decidable p] {R : Unit → σ → Prop} (h : ¬p → R () s) :
    (failIf p e : Command ε σ Unit).Ensures s R := by
  by_cases hp : p
  · exact .inl ⟨e, by rw [exec_failIf, if_pos hp]⟩
  · exact .inr ⟨(), s, by rw [exec_failIf, if_neg hp], h hp⟩

lemma ensures_okOr_bind (h : ∀ a, o = some a → (f a).Ensures s R) :
    (okOr o e >>= f).Ensures s R := by
  refine ensures_bind_of_reads (exec_okOr o e s) fun a hok => ?_
  cases o with
  | none => contradiction
  | some b => cases hok; exact h a rfl

lemma ensures_ofExcept_bind (h : ∀ a, x = .ok a → (f a).Ensures s R) :
    (ofExcept x >>= f).Ensures s R :=
  ensures_bind_of_reads (exec_ofExcept x s) h

end

/-! ## failures that keep what was done -/

/-- From `s`, the command fails with `F` or succeeds with `Q`. -/
def Ends (m : Command ε σ α) (s : σ) (F : ε → σ → Prop) (Q : α → σ → Prop) : Prop :=
  match m.exec s with
  | (.ok a, s') => Q a s'
  | (.error e, s') => F e s'

section

variable {F : ε → σ → Prop} {Q : α → σ → Prop}

lemma Ends.of_ok {m : Command ε σ α} (h : m.Ends s F Q) (hexec : m.exec s = (.ok a, s')) :
    Q a s' := by
  unfold Ends at h
  rwa [hexec] at h

lemma Ends.of_error {m : Command ε σ α} (h : m.Ends s F Q) (hexec : m.exec s = (.error e, s')) :
    F e s' := by
  unfold Ends at h
  rwa [hexec] at h

lemma ends_pure (h : Q a s) : (pure a : Command ε σ α).Ends s F Q := h

lemma ends_get_bind {f : σ → Command ε σ α} (h : (f s).Ends s F Q) : (get >>= f).Ends s F Q := by
  unfold Ends
  rw [exec_get_bind]
  exact h

lemma ends_modify_bind {f : Unit → Command ε σ α} (h : (f ()).Ends (g s) F Q) :
    (modify g >>= f).Ends s F Q := by
  unfold Ends
  rw [exec_modify_bind]
  exact h

lemma ends_failIf_bind [Decidable p] (hfail : F e s) (h : ¬p → (f ()).Ends s F Q) :
    (failIf p e >>= f).Ends s F Q := by
  unfold Ends
  rw [exec_failIf_bind]
  by_cases hp : p
  · rw [if_pos hp]
    exact hfail
  · rw [if_neg hp]
    exact h hp

lemma ends_ofExcept_bind {f : β → Command ε σ α} (hfail : ∀ e, F e s)
    (h : ∀ b, x = .ok b → (f b).Ends s F Q) : (ofExcept x >>= f).Ends s F Q := by
  unfold Ends
  cases x with
  | error e =>
    rw [exec_ofExcept_error_bind]
    exact hfail e
  | ok b =>
    rw [exec_ofExcept_ok_bind]
    exact h b rfl

lemma ends_okOr_bind (hfail : F e s) (h : ∀ b, o = some b → (f b).Ends s F Q) :
    (okOr o e >>= f).Ends s F Q := by
  unfold Ends
  cases o with
  | none =>
    rw [exec_okOr_none_bind]
    exact hfail
  | some b =>
    rw [exec_okOr_some_bind]
    exact h b rfl

end

end Command

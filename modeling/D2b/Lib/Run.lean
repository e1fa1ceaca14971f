import Mathlib.Data.List.Induction

/-!
# D2b.Lib.Run

Runs of a labelled transition system, with the history of labels in view.

`Run init step h s` says that some initial state reaches `s` by the labels
`h`, oldest first.  The step relation sees the history before it, so a side
condition on what happened earlier (a clock that does not go back, a label
that was not seen before) is part of the step and not of the state.  Every
safety result over runs goes through `Run.invariant`: a predicate of history
and state that holds at the start and is kept by each step.
-/

namespace Trace

open List

/-- `Run init step h s`: from an initial state, the labels `h` lead to `s`. -/
inductive Run (init : σ → Prop) (step : List ε → σ → ε → σ → Prop) : List ε → σ → Prop
  | nil {s : σ} (hs : init s) : Run init step [] s
  | snoc {h : List ε} {s s' : σ} {e : ε} (r : Run init step h s) (hs : step h s e s') :
      Run init step (h ++ [e]) s'

variable {σ ε : Type*} {step : List ε → σ → ε → σ → Prop}

/-- The invariant rule: what holds initially and survives each step of a run
holds after every run. -/
lemma Run.invariant {I : List ε → σ → Prop} (h0 : ∀ s, init s → I [] s)
    (hstep : ∀ h s e s', Run init step h s → I h s → step h s e s' → I (h ++ [e]) s')
    (r : Run init step h s) : I h s := by
  induction r with
  | nil hs => exact h0 _ hs
  | snoc r hs ih => exact hstep _ _ _ _ r ih hs

/-- The rule for a property of the state alone, from one initial state on. -/
lemma Run.preserves {P : σ → Prop} (r : Run (· = s₀) step h s) (h0 : P s₀)
    (hstep : ∀ past s e s', P s → step past s e s' → P s') : P s := by
  refine r.invariant (I := fun _ s => P s) ?_ ?_
  · rintro s rfl
    exact h0
  · intro past s e s' _ ih hs
    exact hstep past s e s' ih hs

lemma Run.init_of_nil (r : Run init step [] s) : init s := by
  generalize hnil : ([] : List ε) = h at r
  cases r with
  | nil hs => exact hs
  | snoc => simp at hnil

lemma mem_snoc {h : List ε} : a ∈ h ++ [e] ↔ a ∈ h ∨ a = e := by
  simp

lemma forall_mem_snoc {h : List ε} {P : ε → Prop} :
    (∀ a ∈ h ++ [e], P a) ↔ (∀ a ∈ h, P a) ∧ P e := by
  rw [forall_mem_append, forall_mem_singleton]

/-- A label of a longer history is the last one or one of those before. -/
lemma snoc_eq_append_cons (heq : h ++ [e] = h₁ ++ a :: h₂) :
    (h₁ = h ∧ a = e ∧ h₂ = []) ∨ ∃ h₃, h₂ = h₃ ++ [e] ∧ h = h₁ ++ a :: h₃ := by
  cases h₂ using List.reverseRecOn with
  | nil =>
    obtain ⟨hh, he⟩ := append_inj' heq rfl
    cases he
    exact .inl ⟨hh.symm, rfl, rfl⟩
  | append_singleton h₃ b _ =>
    rw [← cons_append, ← append_assoc] at heq
    obtain ⟨hh, he⟩ := append_inj' heq rfl
    cases he
    exact .inr ⟨h₃, rfl, hh⟩

/-- Every label of a run was taken by a step from a state of that run. -/
lemma Run.split (r : Run init step h s) :
    ∀ {h₁ h₂ : List ε} {e : ε}, h = h₁ ++ e :: h₂ →
      ∃ s₁ s₁', Run init step h₁ s₁ ∧ step h₁ s₁ e s₁' := by
  induction r with
  | nil hs => intro h₁ h₂ e heq; simp at heq
  | @snoc h s s' e' r hs ih =>
    intro h₁ h₂ e heq
    rcases snoc_eq_append_cons heq with ⟨rfl, rfl, -⟩ | ⟨h₃, -, hh⟩
    · exact ⟨s, s', r, hs⟩
    · exact ih hh

/-- A run goes on from the state it reached. -/
lemma Run.append (r : Run init step h s) (r' : Run (· = s) (fun past => step (h ++ past)) h' s') :
    Run init step (h ++ h') s' := by
  induction r' with
  | nil hs =>
    cases hs
    rwa [append_nil]
  | snoc r' hs ih =>
    rw [← append_assoc]
    exact .snoc ih hs

/-- The simulation rule: steps that map to steps map runs to runs. -/
lemma Run.map {f : σ → τ} (hinit : ∀ s, init s → init' (f s))
    (hstep : ∀ h s e s', Run init step h s → step h s e s' → step' h (f s) e (f s'))
    (r : Run init step h s) : Run init' step' h (f s) := by
  induction r with
  | nil hs => exact .nil (hinit _ hs)
  | snoc r hs ih => exact .snoc ih (hstep _ _ _ _ r hs)

/-! ## running calls -/

/-- Feed a list of calls to a step function, collecting its labels. -/
def exec (f : σ → κ → ε × σ) : σ → List κ → List ε × σ
  | s, [] => ([], s)
  | s, k :: ks =>
    let rest := exec f (f s k).2 ks
    ((f s k).1 :: rest.1, rest.2)

/-- Where every call is a step, a list of calls extends a run. -/
lemma Run.exec {f : σ → κ → ε × σ} (hf : ∀ h s k, step h s (f s k).1 (f s k).2)
    (ks : List κ) : ∀ {h : List ε} {s : σ}, Run init step h s →
      Run init step (h ++ (exec f s ks).1) (exec f s ks).2 := by
  induction ks with
  | nil =>
    intro h s r
    simpa [Trace.exec] using r
  | cons k ks ih =>
    intro h s r
    have hnext := ih (r.snoc (hf h s k))
    rw [append_assoc] at hnext
    exact hnext

/-- Where a partial function takes steps, a list of labels it accepts extends a run. -/
lemma Run.of_foldlM (hf : ∀ h s e s', f s e = some s' → step h s e s') (es : List ε) :
    ∀ {h : List ε} {s s' : σ}, Run init step h s → es.foldlM f s = some s' →
      Run init step (h ++ es) s' := by
  induction es with
  | nil =>
    intro h s s' r heq
    cases heq
    rwa [append_nil]
  | cons e es ih =>
    intro h s s' r heq
    obtain ⟨s₁, hs₁, hrest⟩ := Option.bind_eq_some_iff.mp heq
    have hnext := ih (r.snoc (hf _ _ _ _ hs₁)) hrest
    rwa [append_assoc] at hnext

/-- The same for a function that takes only the steps that meet a condition. -/
lemma Run.of_guarded {f : σ → ε → Option σ} {c : σ → ε → Prop} [∀ s e, Decidable (c s e)]
    (es : List ε) (hs : init s)
    (heq : es.foldlM (fun s e => if c s e then f s e else none) s = some s') :
    Run init (fun _ s e s' => c s e ∧ f s e = some s') es s' := by
  refine Run.of_foldlM (fun _ s e s' h => ?_) es (.nil hs) heq
  split at h
  · next hc => exact ⟨hc, h⟩
  · cases h

/-- A state with a property, found by running the labels. -/
lemma Run.exists_of_foldlM {f : σ → ε → Option σ} [DecidablePred P] (s : σ) (es : List ε)
    (h : (es.foldlM f s).any (fun s' => decide (P s')) = true := by decide +kernel) :
    ∃ s', Run (· = s) (fun _ s e s' => f s e = some s') es s' ∧ P s' := by
  obtain ⟨s', hs', hP⟩ := (Option.any_eq_true _ _).mp h
  have hstart : Run (· = s) (fun _ s e s' => f s e = some s') [] s := .nil rfl
  exact ⟨s', Run.of_foldlM (fun _ _ _ _ h => h) es hstart hs', of_decide_eq_true hP⟩

lemma Run.exists_of_guarded {f : σ → ε → Option σ} {c : σ → ε → Prop} [∀ s e, Decidable (c s e)]
    [DecidablePred P] (s : σ) (es : List ε)
    (h : (es.foldlM (fun s e => if c s e then f s e else none) s).any (fun s' => decide (P s')) =
      true := by decide +kernel) :
    ∃ s', Run (· = s) (fun _ s e s' => c s e ∧ f s e = some s') es s' ∧ P s' := by
  obtain ⟨s', hs', hP⟩ := (Option.any_eq_true _ _).mp h
  exact ⟨s', Run.of_guarded es rfl hs', of_decide_eq_true hP⟩

end Trace

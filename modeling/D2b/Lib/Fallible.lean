import Mathlib.Data.List.Perm.Basic

/-!
# D2b.Lib.Fallible

Computations in `Except ε`, taken apart from their results: what a bind or a
traversal that succeeded did, and the invariant rule for a loop that may stop
with an error.
-/

namespace Fallible

open List

variable {ε : Type u} {α : Type v}

variable {x : Except ε α}

lemma bind_eq_ok : (x >>= f) = .ok b ↔ ∃ a, x = .ok a ∧ f a = .ok b := by
  cases x <;> simp [bind, Except.bind]

/-- A check and what follows it. -/
lemma then_eq_ok {β : Type} {x : Except ε Unit} {f : Unit → Except ε β} {b : β} :
    (x >>= f) = .ok b ↔ x = .ok () ∧ f () = .ok b := by
  cases x <;> simp [bind, Except.bind]

lemma map_eq_ok : x.map f = .ok b ↔ ∃ a, x = .ok a ∧ f a = b := by
  cases x <;> simp [Except.map]

lemma mapError_eq_ok : x.mapError f = .ok a ↔ x = .ok a := by
  cases x <;> simp [Except.mapError]

/-- `ok_or`: the value, or the error if there is none. -/
def okOr (o : Option α) (e : ε) : Except ε α :=
  match o with
  | some a => .ok a
  | none => .error e

@[simp] lemma okOr_some : okOr (some a) e = .ok a := rfl

lemma okOr_eq_ok : okOr o e = .ok a ↔ o = some a := by
  cases o <;> simp [okOr]

/-- Stop with an error if the condition holds. -/
def failIf (c : Prop) [Decidable c] (e : ε) : Except ε Unit := if c then .error e else .ok ()

@[simp] lemma failIf_eq_ok [Decidable c] : failIf c e = .ok u ↔ ¬c := by
  unfold failIf
  by_cases h : c <;> simp [h]

lemma ite_error_eq_ok [Decidable c] : (if c then .error e else x) = .ok a ↔ ¬c ∧ x = .ok a := by
  by_cases h : c <;> simp [h]

lemma failIf_of_not [Decidable c] (h : ¬c) (e : ε) : failIf c e = .ok () := if_neg h

variable {l : List γ}

/-- A loop of checks succeeds if each does. -/
lemma forM_eq_ok {f : γ → Except ε PUnit} : forM l f = .ok u ↔ ∀ a ∈ l, f a = .ok () := by
  induction l with
  | nil => simp [pure, Except.pure]
  | cons a l ih =>
    rw [forM_cons, bind_eq_ok, ih, forall_mem_cons]
    constructor
    · intro h
      obtain ⟨⟨⟩, ha, hl⟩ := h
      exact ⟨ha, hl⟩
    · intro h
      exact ⟨(), h.1, h.2⟩

variable {f : γ → Except ε β}

/-- A traversal succeeds with the elements' results. -/
lemma mapM_eq_ok : l.mapM f = .ok out ↔ List.Forall₂ (fun a b => f a = .ok b) l out := by
  induction l generalizing out with
  | nil => cases out <;> simp [pure, Except.pure]
  | cons a l ih =>
    rw [mapM_cons]
    constructor
    · intro h
      obtain ⟨b, hb, h⟩ := bind_eq_ok.mp h
      obtain ⟨bs, hbs, h⟩ := bind_eq_ok.mp h
      cases h
      exact .cons hb (ih.mp hbs)
    · intro h
      cases h with
      | cons hb hbs => rw [hb, ih.mpr hbs]; rfl

/-- The results of a traversal are those of its elements. -/
lemma mem_of_mapM_eq_ok (h : l.mapM f = .ok out) : b ∈ out ↔ ∃ a ∈ l, f a = .ok b := by
  rw [mapM_eq_ok] at h
  induction h with
  | nil => simp
  | cons hab _ ih => simp [ih, hab, eq_comm]

/-- A traversal whose steps all succeed succeeds. -/
lemma exists_mapM_eq_ok (h : ∀ a, ∃ b, f a = .ok b) (l : List γ) : ∃ out, l.mapM f = .ok out := by
  choose g hg using h
  exact ⟨l.map g, mapM_eq_ok.mpr (List.forall₂_map_right_iff.mpr (List.forall₂_same.mpr
    fun a _ => hg a))⟩

/-- A traversal whose steps all succeed is a map. -/
lemma mapM_map_eq_ok {out : δ → β} (h : ∀ d, f (g d) = .ok (out d)) (l : List δ) :
    (l.map g).mapM f = .ok (l.map out) := by
  rw [mapM_eq_ok, List.forall₂_map_left_iff, List.forall₂_map_right_iff, List.forall₂_same]
  exact fun d _ => h d

/-- `transpose` of a value that is optional and whose step succeeds. -/
lemma option_mapM_map_eq_ok {out : δ → β} (h : ∀ d, f (g d) = .ok (out d)) (o : Option δ) :
    (o.map g).mapM f = .ok (o.map out) := by
  cases o with
  | none => rfl
  | some d => simp [h d]

/-- The loop rule: an invariant of the elements consumed so far and the
accumulator, kept by every step that succeeds, holds when the loop succeeds. -/
lemma foldlM_invariant {f : β → γ → Except ε β} {I : List γ → β → Prop}
    (hstep : ∀ done b x b', I done b → f b x = .ok b' → I (done ++ [x]) b') :
    ∀ (xs done : List γ) (b out : β), I done b → xs.foldlM f b = .ok out → I (done ++ xs) out := by
  intro xs
  induction xs with
  | nil =>
    intro done b out hI h
    cases h
    rwa [append_nil]
  | cons x xs ih =>
    intro done b out hI h
    rw [foldlM_cons, bind_eq_ok] at h
    obtain ⟨b', hb', hrest⟩ := h
    have := ih (done ++ [x]) b' out (hstep done b x b' hI hb') hrest
    rwa [append_assoc] at this

lemma toOption_eq_some : x.toOption = some a ↔ x = .ok a := by
  cases x <;> simp [Except.toOption]

/-- A loop whose turns commute runs in any order. -/
lemma foldlM_perm {f : β → γ → Option β} {xs : List γ} (hperm : xs.Perm ys)
    (hcomm : ∀ a ∈ xs, ∀ b ∈ xs, a ≠ b → ∀ s, (f s a).bind (f · b) = (f s b).bind (f · a)) (s : β) :
    xs.foldlM f s = ys.foldlM f s := by
  rw [foldlM_eq_foldl, foldlM_eq_foldl]
  refine hperm.foldl_eq' (fun a ha b hb o => ?_) _
  cases o with
  | none => rfl
  | some s =>
    by_cases hab : a = b
    · rw [hab]
    · exact hcomm a ha b hb hab s

end Fallible

import Mathlib.Data.List.Nodup
import Mathlib.Data.List.Perm.Subperm

/-!
# D2b.Lib.Climb

Following a partial map `next : α → Option α` from a start, with the points
already passed in a list.  `climbsTo next goal` is the loop that reports
`true` as soon as it stands on `goal` or comes back to a point it has passed,
and otherwise, where `next` ends, whether it ended on `goal`.

The loop is bounded by fuel.  Only points with a successor are passed, and
each once, so their number (plus one) is fuel enough: `climbsTo_fuel`.
-/

namespace Climb

variable {α : Type*} [DecidableEq α]

/-- Follow `next` from `current`; `seen` are the points passed so far. -/
def climbsTo (next : α → Option α) (goal : α) : Nat → List α → α → Bool
  | 0, _, _ => true
  | fuel + 1, seen, current =>
    match next current with
    | none => decide (current = goal)
    | some up =>
      if current = goal ∨ current ∈ seen then true
      else climbsTo next goal fuel (current :: seen) up

/-- Once the points with a successor are used up, more fuel changes nothing. -/
lemma climbsTo_fuel (dom : List α) (hdom : ∀ a, next a ≠ none → a ∈ dom) (extra : Nat) :
    ∀ (fuel : Nat) (seen : List α) (current : α), seen.Nodup → seen ⊆ dom →
      dom.length < fuel + seen.length →
      climbsTo next goal (fuel + extra) seen current = climbsTo next goal fuel seen current := by
  intro fuel
  induction fuel with
  | zero =>
    -- a duplicate-free list of points of `dom` is no longer than `dom`
    intro seen current hnd hsub hlen
    have hle := (List.subperm_of_subset hnd hsub).length_le
    omega
  | succ fuel ih =>
    intro seen current hnd hsub hlen
    rw [Nat.add_right_comm]
    unfold climbsTo
    cases hnext : next current with
    | none => rfl
    | some up =>
      by_cases hstop : current = goal ∨ current ∈ seen
      · simp only [if_pos hstop]
      · simp only [if_neg hstop]
        have hmem : current ∈ dom := hdom current (by rw [hnext]; exact Option.some_ne_none up)
        have hns : current ∉ seen := fun h => hstop (.inr h)
        apply ih
        · exact List.nodup_cons.mpr ⟨hns, hnd⟩
        · exact List.cons_subset.mpr ⟨hmem, hsub⟩
        · rw [List.length_cons]; omega

/-- A climb that never meets `goal` does not see what `next` is there. -/
lemma climbsTo_congr (goal goal' : α) (hagree : ∀ a ≠ goal, next' a = next a) :
    ∀ (fuel : Nat) (seen : List α) (current : α),
      climbsTo next goal fuel seen current = false →
      climbsTo next' goal' fuel seen current = climbsTo next goal' fuel seen current := by
  intro fuel
  induction fuel with
  | zero =>
    intro seen current h
    contradiction
  | succ fuel ih =>
    intro seen current h
    unfold climbsTo at h ⊢
    cases hnext : next current with
    | none =>
      simp only [hnext, decide_eq_false_iff_not] at h
      rw [hagree current h, hnext]
    | some up =>
      simp only [hnext] at h
      by_cases hstop : current = goal ∨ current ∈ seen
      · rw [if_pos hstop] at h
        contradiction
      · rw [if_neg hstop] at h
        rw [hagree current fun heq => hstop (.inl heq), hnext]
        by_cases hstop' : current = goal' ∨ current ∈ seen
        · simp only [if_pos hstop']
        · simp only [if_neg hstop']
          exact ih _ _ h

end Climb

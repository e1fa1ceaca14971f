import Mathlib.Data.Nat.ModEq

/-!
# D2b.Lib.Circular

A stream kept in a circular array: element `o` of the stream lies in cell
`o % cap`.  `Holds` says that the cells of a range of the stream hold its
elements; cells outside the range are not restricted.  Writing the element
after the range keeps it as long as the range spans no more than the array
(`Holds.write`).
-/

namespace Circular

open List

variable {α : Type*}

/-! ## cells -/

/-- The cells of `n` elements from cell `pos` on, in at most `f` parts: each part
runs to the end of the array at most, and the next one starts at its front. -/
def cells (cap : Nat) : Nat → Nat → Nat → List Nat
  | 0, _, _ => []
  | f + 1, pos, n =>
    if n = 0 then []
    else
      let k := min n (cap - pos)
      List.range' pos k ++ cells cap f ((pos + k) % cap) (n - k)

lemma cells_eq :
    ∀ f pos n, pos < cap → n ≤ f →
      cells cap f pos n = (List.range n).map fun i => (pos + i) % cap := by
  intro f
  induction f with
  | zero =>
    intro pos n _ hn
    obtain rfl : n = 0 := by omega
    rfl
  | succ f ih =>
    intro pos n hpos hn
    unfold cells
    by_cases hzero : n = 0
    · simp [hzero]
    · have hk : 0 < min n (cap - pos) := by omega
      have hle : min n (cap - pos) ≤ n := Nat.min_le_left ..
      have hspace : min n (cap - pos) ≤ cap - pos := Nat.min_le_right ..
      have hnext : (pos + min n (cap - pos)) % cap < cap := Nat.mod_lt _ (by omega)
      have hfirst : List.range' pos (min n (cap - pos)) =
          (List.range (min n (cap - pos))).map fun i => (pos + i) % cap := by
        rw [range'_eq_map_range]
        refine map_congr_left fun i hi => ?_
        have hi := mem_range.mp hi
        exact (Nat.mod_eq_of_lt (by omega)).symm
      have hsplit : List.range n = List.range (min n (cap - pos)) ++
          (List.range (n - min n (cap - pos))).map (min n (cap - pos) + ·) := by
        rw [← range_add, Nat.add_sub_cancel' hle]
      rw [if_neg hzero]
      dsimp only
      rw [hfirst, ih _ _ hnext (by omega), hsplit, map_append, map_map]
      simp [Function.comp_def, Nat.add_assoc]

/-- The cells of the elements `o`, `o + 1`, and so on. -/
lemma cells_mod (hcap : 0 < cap) (o n : Nat) :
    cells cap n (o % cap) n = (List.range n).map fun i => (o + i) % cap := by
  rw [cells_eq n _ n (Nat.mod_lt _ hcap) (Nat.le_refl n)]
  simp

lemma mod_ne_of_lt {w : Nat} (hlt : o < w) (hspan : w < o + cap) : o % cap ≠ w % cap := by
  intro h
  have hzero : (w - o) % cap = 0 := Nat.sub_mod_eq_zero_of_mod_eq h.symm
  rw [Nat.mod_eq_of_lt (by omega)] at hzero
  omega

/-! ## slices of a stream -/

/-- The elements `o`, …, `o + n - 1` of a stream, as far as it goes. -/
def slice (stream : List α) (o n : Nat) : List α := (stream.drop o).take n

@[simp] lemma slice_zero : slice stream o 0 = [] := take_zero

lemma slice_succ (h : stream[o + n]? = some a) :
    slice stream o (n + 1) = slice stream o n ++ [a] := by
  unfold slice
  rw [take_add_one, getElem?_drop, h]
  rfl

lemma slice_add (stream : List α) (o m n : Nat) :
    slice stream o (m + n) = slice stream o m ++ slice stream (o + m) n := by
  unfold slice
  rw [take_add, drop_drop]

lemma slice_append (h : o + n ≤ stream.length) (more : List α) :
    slice (stream ++ more) o n = slice stream o n := by
  unfold slice
  rw [drop_append_of_le_length (by omega), take_append_of_le_length (by simp; omega)]

lemma length_slice (h : o + n ≤ stream.length) : (slice stream o n).length = n := by
  simp [slice]
  omega

/-! ## the array -/

/-- Write a cell; cells between the end and it are filled. -/
def writeAt (fill : α) (data : List α) (pos : Nat) (a : α) : List α :=
  (data ++ List.replicate (pos + 1 - data.length) fill).set pos a

lemma getElem?_writeAt_self : (writeAt fill data pos a)[pos]? = some a := by
  unfold writeAt
  rw [getElem?_set_self]
  simp
  omega

lemma getElem?_writeAt_ne (hne : i ≠ pos) (h : data[i]? = some b) :
    (writeAt fill data pos a)[i]? = some b := by
  have hlt : i < data.length := (List.getElem?_eq_some_iff.mp h).1
  unfold writeAt
  rw [getElem?_set_ne (Ne.symm hne), getElem?_append_left hlt, h]

/-- The elements `lo`, …, `hi - 1` of the stream are in their cells. -/
def Holds (cap : Nat) (data stream : List α) (lo hi : Nat) : Prop :=
  ∀ o, lo ≤ o → o < hi → ∃ a, data[o % cap]? = some a ∧ stream[o]? = some a

namespace Holds

lemma of_le (h : hi ≤ lo) : Holds cap data stream lo hi := fun o hlo hhi => by omega

lemma mono (h : Holds cap data stream lo hi) (hlo : lo ≤ lo') (hhi : hi' ≤ hi) :
    Holds cap data stream lo' hi' := fun o hle hlt => h o (hlo.trans hle) (hlt.trans_le hhi)

lemma append (h : Holds cap data stream lo hi) (more : List α) :
    Holds cap data (stream ++ more) lo hi := by
  intro o hlo hhi
  obtain ⟨a, hcell, helem⟩ := h o hlo hhi
  have hlt : o < stream.length := (List.getElem?_eq_some_iff.mp helem).1
  exact ⟨a, hcell, by rw [getElem?_append_left hlt, helem]⟩

/-- The element after the range goes to a cell that none of the range uses. -/
lemma write (h : Holds cap data stream lo hi) (hspan : hi < lo + cap) (ha : stream[hi]? = some a)
    (fill : α) : Holds cap (writeAt fill data (hi % cap) a) stream lo (hi + 1) := by
  intro o hlo hlt
  by_cases hlast : o = hi
  · subst hlast
    exact ⟨a, getElem?_writeAt_self .., ha⟩
  · obtain ⟨b, hcell, helem⟩ := h o hlo (by omega)
    have hne : o % cap ≠ hi % cap := mod_ne_of_lt (by omega) (by omega)
    exact ⟨b, getElem?_writeAt_ne hne hcell, helem⟩

end Holds

end Circular

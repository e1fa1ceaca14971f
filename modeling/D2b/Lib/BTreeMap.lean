import Mathlib.Data.Finset.Sort

/-!
# D2b.Lib.BTreeMap

Ordered maps.  `BTreeMap K V` is the standard library's extensional tree map
at the order of `K`: lookups are `m[k]?`, a for-each insertion of a second
map is the right-biased union `m ∪ u`, and `retain` is `ExtTreeMap.filter`.
What is added here is what the map developments count with: lookups stated
with `=` instead of `compare`, and the size of a union and of a retained map
as counts over the keys.
-/

/-- An ordered map with extensional equality. -/
abbrev BTreeMap (K : Type u) (V : Type v) [LinearOrder K] := Std.ExtTreeMap K V compare

namespace BTreeMap

open Std.ExtTreeMap

variable {K : Type u} {V : Type v} [LinearOrder K]

/-- The laws of the order, under one name for the maps over a key type. -/
instance transCmp : Std.TransCmp (compare : K → K → Ordering) := inferInstance

/-! ## lookups -/

lemma get_insert (m : BTreeMap K V) (k a : K) (v : V) :
    (m.insert k v)[a]? = if k = a then some v else m[a]? := by
  simp [getElem?_insert]

@[simp] lemma get_insert_self (m : BTreeMap K V) (k : K) (v : V) :
    (m.insert k v)[k]? = some v := by
  simp

variable {k : K}

lemma get_insert_of_ne (m : BTreeMap K V) (v : V) (h : k ≠ a) : (m.insert k v)[a]? = m[a]? := by
  simp [get_insert, h]

lemma get_erase (m : BTreeMap K V) (k a : K) :
    (m.erase k)[a]? = if k = a then none else m[a]? := by
  simp [getElem?_erase]

lemma get_modify (m : BTreeMap K V) (k a : K) (f : V → V) :
    (m.modify k f)[a]? = if k = a then m[a]?.map f else m[a]? := by
  simp only [getElem?_modify, Std.LawfulEqCmp.compare_eq_iff_eq]
  split
  · next h => subst h; rfl
  · rfl

lemma get_filter (m : BTreeMap K V) (p : K → V → Bool) (k : K) :
    (m.filter p)[k]? = m[k]?.filter (p k) :=
  getElem?_filter'

lemma get_map (m : BTreeMap K V) (f : K → V → W) (k : K) : (m.map f)[k]? = m[k]?.map (f k) :=
  getElem?_map

variable {m : BTreeMap K V} {v : V}

lemma get_insert_eq_some :
    (m.insert k v)[a]? = some w ↔ k = a ∧ v = w ∨ k ≠ a ∧ m[a]? = some w := by
  rw [get_insert]
  by_cases h : k = a <;> simp [h]

lemma get_filter_eq_some : (m.filter p)[k]? = some v ↔ m[k]? = some v ∧ p k v = true := by
  rw [get_filter, Option.filter_eq_some_iff]

lemma get_union (m u : BTreeMap K V) (k : K) : (m ∪ u)[k]? = u[k]?.or m[k]? :=
  getElem?_union

lemma mem_toList : (k, v) ∈ m.toList ↔ m[k]? = some v :=
  mem_toList_iff_getElem?_eq_some

lemma mem_of_get (h : m[k]? = some v) : k ∈ m := by
  rw [mem_iff_isSome_getElem?, h]; rfl

lemma get_of_mem (h : k ∈ m) : ∃ v, m[k]? = some v :=
  Option.isSome_iff_exists.mp (mem_iff_isSome_getElem?.mp h)

lemma get_eq_none_iff : m[k]? = none ↔ k ∉ m := by
  rw [mem_iff_isSome_getElem?]
  cases m[k]? <;> simp

lemma contains_eq_false : m.contains k = false ↔ k ∉ m := by
  rw [← Bool.not_eq_true, contains_iff_mem]

lemma contains_iff_get : m.contains k = true ↔ ∃ v, m[k]? = some v := by
  rw [contains_eq_isSome_getElem?, Option.isSome_iff_exists]

lemma contains_insert_iff : (m.insert k v).contains a = true ↔ a = k ∨ m.contains a = true := by
  rw [contains_insert, Bool.or_eq_true, beq_iff_eq, compare_eq_iff_eq, eq_comm]

lemma not_contains_iff_get : ¬m.contains k = true ↔ m[k]? = none := by
  rw [contains_eq_isSome_getElem?, Bool.not_eq_true, Option.isSome_eq_false_iff,
    Option.isNone_iff_eq_none]

/-! ## sizes -/

lemma nodup_keys (m : BTreeMap K V) : m.keys.Nodup := Std.ExtTreeMap.nodup_keys

/-- Two maps' worth of keys, counted once each. -/
lemma size_union (m u : BTreeMap K V) :
    (m ∪ u).size = m.size + (u.keys.filter fun k => !m.contains k).length := by
  have hperm : (m ∪ u).keys.Perm (m.keys ++ u.keys.filter fun k => !m.contains k) := by
    rw [List.perm_ext_iff_of_nodup (nodup_keys _)]
    · intro k
      by_cases hk : k ∈ m <;>
        simp [mem_keys, contains_eq_false, hk]
    · rw [List.nodup_append]
      refine ⟨nodup_keys m, (nodup_keys u).filter _, ?_⟩
      intro a ha b hb hab
      subst hab
      rw [mem_keys] at ha
      simp [contains_eq_false, ha] at hb
  rw [← length_keys, hperm.length_eq, List.length_append, length_keys]

/-- A retained map has as many entries as pass the test. -/
lemma size_filter (m : BTreeMap K V) (p : K → V → Bool) :
    (m.filter p).size = (m.toList.filter fun e => p e.1 e.2).length := by
  rw [← length_toList, toList_filter]

lemma size_filter_le (m : BTreeMap K V) (p : K → V → Bool) : (m.filter p).size ≤ m.size := by
  rw [size_filter, ← length_toList]
  exact List.length_filter_le _ _

/-- An insertion adds one entry unless the key was there. -/
lemma size_insert (m : BTreeMap K V) (k : K) (v : V) :
    (m.insert k v).size = m.size + (!m.contains k).toNat := by
  rw [Std.ExtTreeMap.size_insert]
  cases h : m.contains k with
  | true | false => rfl

/-- Two retains in a row are one. -/
lemma filter_filter (m : BTreeMap K V) (p q : K → V → Bool) :
    (m.filter p).filter q = m.filter fun k v => p k v && q k v := by
  apply ext_getElem?
  intro k
  rw [get_filter, get_filter, get_filter, Option.filter_filter]

/-! ## entry loops -/

/-- A loop that updates the entry of each element's key: the entry of `k` is
what the elements of key `k` make of it, in order. -/
lemma get_foldl_insert (key : α → K) (f : α → Option V → V) (k : K) :
    ∀ (xs : List α) (m : BTreeMap K V),
      (xs.foldl (fun m x => m.insert (key x) (f x m[key x]?)) m)[k]?
        = (xs.filter fun x => decide (key x = k)).foldl (fun v x => some (f x v)) m[k]? := by
  intro xs
  induction xs with
  | nil => intro m; rfl
  | cons x xs ih =>
    intro m
    rw [List.foldl_cons, ih, get_insert]
    by_cases hkey : key x = k
    · rw [if_pos hkey, List.filter_cons_of_pos (by simpa using hkey), List.foldl_cons, hkey]
    · rw [if_neg hkey, List.filter_cons_of_neg (by simpa using hkey)]

/-- Where an update undoes the one before it, the last element of key `k` decides. -/
lemma get_foldl_insert_last (key : α → K) (f : α → Option V → V)
    (hlast : ∀ x y v, f y (some (f x v)) = f y v) (k : K) (xs : List α) (m : BTreeMap K V) :
    (xs.foldl (fun m x => m.insert (key x) (f x m[key x]?)) m)[k]? =
      match (xs.filter fun x => decide (key x = k)).getLast? with
      | none => m[k]?
      | some x => some (f x m[k]?) := by
  rw [get_foldl_insert]
  generalize m[k]? = v
  generalize xs.filter (fun x => decide (key x = k)) = ys
  induction ys generalizing v with
  | nil => rfl
  | cons y ys ih =>
    rw [List.foldl_cons, ih]
    cases hys : ys.getLast? with
    | none => simp [List.getLast?_eq_none_iff.mp hys]
    | some x => simp [List.getLast?_cons, hys, hlast]

/-- A loop that modifies the entries of distinct keys. -/
lemma get_foldl_modify (f : V → V) (k : K) :
    ∀ {ks : List K} (m : BTreeMap K V), ks.Nodup →
      (ks.foldl (fun m k => m.modify k f) m)[k]? = if k ∈ ks then m[k]?.map f else m[k]? := by
  intro ks
  induction ks with
  | nil => intro m _; simp
  | cons a ks ih =>
    intro m hnodup
    obtain ⟨hnot, hnodup⟩ := List.nodup_cons.mp hnodup
    rw [List.foldl_cons, ih _ hnodup, get_modify]
    by_cases hk : a = k
    · subst hk
      simp [hnot]
    · simp [hk, Ne.symm hk]

/-! ## guarded updates -/

/-- Put `g m[k]?` at `k`, unless `k` is barred or `g` refuses. -/
def upsert? (barred : BTreeMap K V → K → Bool) (k : K) (g : Option V → Option V)
    (m : BTreeMap K V) : Option (BTreeMap K V) :=
  if barred m k then none else (g m[k]?).map (m.insert k ·)

lemma upsert?_eq_some : upsert? barred k g m = some m' ↔
    barred m k = false ∧ ∃ v, g m[k]? = some v ∧ m' = m.insert k v := by
  unfold upsert?
  cases barred m k <;> simp [eq_comm]

/-- An insertion at a key that is not barred changes for no key whether it is barred. -/
def StableBar (barred : BTreeMap K V → K → Bool) : Prop :=
  ∀ m k v a, barred m k = false → barred (m.insert k v) a = barred m a

/-- Updates at two keys can be made in either order. -/
lemma upsert?_comm (hstable : StableBar barred) (h : k ≠ a) (g g' : Option V → Option V)
    (m : BTreeMap K V) : (upsert? barred k g m).bind (upsert? barred a g') =
      (upsert? barred a g' m).bind (upsert? barred k g) := by
  have hinsert (v w : V) : (m.insert k v).insert a w = (m.insert a w).insert k v := by
    apply ext_getElem?
    intro b
    by_cases hk : k = b
    · subst hk
      rw [get_insert_of_ne _ _ (Ne.symm h), get_insert_self, get_insert_self]
    · simp only [get_insert, if_neg hk]
  unfold upsert?
  cases hk : barred m k with
  | true =>
    cases ha : barred m a with
    | true => rfl
    | false => cases g' m[a]? <;> simp [hstable _ _ _ _ ha, hk]
  | false =>
    cases ha : barred m a with
    | true => cases g m[k]? <;> simp [hstable _ _ _ _ hk, ha]
    | false =>
      cases hg : g m[k]? <;> cases hg' : g' m[a]? <;>
        simp [hstable _ _ _ _ hk, hstable _ _ _ _ ha, hk, ha, hg, hg', get_insert_of_ne _ _ h,
          get_insert_of_ne _ _ (Ne.symm h), hinsert]

/-- Two updates at one key are one. -/
lemma upsert?_bind_self (hstable : StableBar barred) (g g' : Option V → Option V)
    (m : BTreeMap K V) : (upsert? barred k g m).bind (upsert? barred k g') =
      upsert? barred k (fun v => (g v).bind fun w => g' (some w)) m := by
  have hinsert (v w : V) : (m.insert k v).insert k w = m.insert k w := by
    apply ext_getElem?
    intro b
    simp only [get_insert]
    split <;> rfl
  unfold upsert?
  cases hk : barred m k with
  | true => rfl
  | false =>
    cases hg : g m[k]? with
    | none => simp [hg]
    | some v => simp [hstable _ _ _ _ hk, hk, hg, hinsert]

/-- A lookup that is put back changes nothing. -/
lemma insert_of_get (h : m[k]? = some v) : m.insert k v = m := by
  apply ext_getElem?
  intro a
  by_cases hk : k = a
  · subst hk
    rw [get_insert_self, h]
  · rw [get_insert_of_ne _ _ hk]

end BTreeMap

/-! ## loops over what was seen -/

/-- A loop that puts elements into a set of what was seen: whether one was there. -/
def seenTwice [DecidableEq α] : List α → List α → Bool
  | _, [] => false
  | seen, x :: xs => if x ∈ seen then true else seenTwice (x :: seen) xs

lemma seenTwice_eq_false [DecidableEq α] :
    ∀ {seen : List α}, seenTwice seen xs = false ↔ xs.Nodup ∧ ∀ x ∈ xs, x ∉ seen := by
  induction xs with
  | nil => intro seen; simp [seenTwice]
  | cons x xs ih =>
    intro seen
    unfold seenTwice
    by_cases hseen : x ∈ seen
    · simp [hseen]
    · rw [if_neg hseen, ih, List.nodup_cons]
      constructor
      · rintro ⟨hnd, hnew⟩
        refine ⟨⟨fun hmem => hnew x hmem List.mem_cons_self, hnd⟩, ?_⟩
        intro a ha
        rcases List.mem_cons.mp ha with rfl | ha
        · exact hseen
        · exact fun h => hnew a ha (List.mem_cons_of_mem _ h)
      · rintro ⟨⟨hnot, hnd⟩, hnew⟩
        refine ⟨hnd, fun a ha => ?_⟩
        rw [List.mem_cons, not_or]
        exact ⟨fun h => hnot (h ▸ ha), hnew a (List.mem_cons_of_mem _ ha)⟩

lemma nodup_of_not_seenTwice [DecidableEq α] {xs : List α} (h : seenTwice [] xs = false) :
    xs.Nodup :=
  (seenTwice_eq_false.mp h).1

import Mathlib.Algebra.GroupWithZero.Nat
import D2b.RealmCore.Ids

/-!
# D2b.RealmCore.Realm

Realm paths (`realm.rs`): label lists written most-specific first, bounded in
label count and rendered length.  A path carries its bounds, as the private
field of the source's newtype does.

The tree the paths form is the suffix order of their labels:
`isDescendantOf` and `isDirectChildOf` are the source's zipped comparisons,
and `isDescendantOf_iff` / `isDirectChildOf_iff` say which suffixes they
accept.
-/

namespace D2b

open List

def maxRealmLabels : Nat := 16

/-- Maximum total bytes of a realm path's rendered target form. -/
def maxRealmPathBytes : Nat := 255

/-- Bytes of the dotted target form: labels and separators. -/
def renderedBytes (labels : List RealmId) : Nat :=
  (labels.map fun l => l.asStr.utf8ByteSize).sum + (labels.length - 1)

/-- What `RealmPath::new` accepts. -/
def realmPathOk (labels : List RealmId) : Bool :=
  !labels.isEmpty && decide (labels.length ≤ maxRealmLabels) &&
    decide (renderedBytes labels ≤ maxRealmPathBytes)

/-- A realm path, labels most-specific first. -/
structure RealmPath where
  labels : List RealmId
  bounded : realmPathOk labels = true

namespace RealmPath

/-- Build from most-specific-first labels; out-of-bounds lists are refused. -/
def new (labels : List RealmId) : Option RealmPath :=
  if h : realmPathOk labels = true then some ⟨labels, h⟩ else none

lemma labels_injective : Function.Injective labels := by
  rintro ⟨a, ha⟩ ⟨b, hb⟩ (rfl : a = b)
  rfl

variable {p : RealmPath}

@[ext] lemma ext (h : p.labels = q.labels) : p = q := labels_injective h

/-- Paths are ordered as their label lists are. -/
instance : LinearOrder RealmPath := LinearOrder.lift' labels labels_injective

instance : LawfulBEq RealmPath := inferInstance

lemma new_eq_some {labels : List RealmId} : new labels = some p ↔ p.labels = labels := by
  unfold new
  constructor
  · intro h
    split at h
    · cases h; rfl
    · contradiction
  · rintro rfl
    rw [dif_pos p.bounded]

lemma labels_ne_nil (p : RealmPath) : p.labels ≠ [] := by
  intro h
  have := p.bounded
  simp [realmPathOk, h] at this

/-- The dotted form of a path, most specific label first. -/
def targetForm (path : RealmPath) : String := ".".intercalate (path.labels.map (·.asStr))

/-- Compare from the root end; `zip` stops at the shorter path. -/
def hasSuffix (p suffix : RealmPath) : Bool :=
  (p.labels.reverse.zip suffix.labels.reverse).all (fun ab => ab.1 == ab.2) &&
    decide (suffix.labels.length ≤ p.labels.length)

/-- True when `p` is strictly below `ancestor` in the realm tree. -/
def isDescendantOf (p ancestor : RealmPath) : Bool :=
  decide (ancestor.labels.length < p.labels.length) && p.hasSuffix ancestor

/-- True when `p` is exactly one label below `parent`. -/
def isDirectChildOf (p parent : RealmPath) : Bool :=
  decide (p.labels.length = parent.labels.length + 1) && p.hasSuffix parent

/-! ## the tree order -/

/-- Zipping two lists and comparing accepts exactly the prefixes, once the
second is no longer than the first. -/
lemma all_zip_eq_iff_isPrefix [DecidableEq α] (xs : List α) :
    (xs.zip ys).all (fun ab => ab.1 == ab.2) = true ∧ ys.length ≤ xs.length ↔ ys <+: xs := by
  induction ys generalizing xs with
  | nil => simp
  | cons y ys ih =>
    cases xs with
    | nil => simp
    | cons x xs =>
      rw [cons_prefix_cons, ← ih xs]
      simp only [zip_cons_cons, all_cons, Bool.and_eq_true, beq_iff_eq,
        length_cons, Nat.add_le_add_iff_right]
      constructor
      · rintro ⟨⟨hxy, hall⟩, hlen⟩
        exact ⟨hxy.symm, hall, hlen⟩
      · rintro ⟨hxy, hall, hlen⟩
        exact ⟨⟨hxy.symm, hall⟩, hlen⟩

lemma hasSuffix_iff : p.hasSuffix q = true ↔ q.labels <:+ p.labels := by
  unfold hasSuffix
  rw [Bool.and_eq_true, decide_eq_true_iff, ← reverse_prefix, ← all_zip_eq_iff_isPrefix]
  simp

lemma isDescendantOf_iff :
    p.isDescendantOf q = true ↔ q.labels <:+ p.labels ∧ q.labels.length < p.labels.length := by
  unfold isDescendantOf
  rw [Bool.and_eq_true, decide_eq_true_iff, hasSuffix_iff, and_comm]

/-- A direct child is its parent with one label in front. -/
lemma isDirectChildOf_iff : p.isDirectChildOf q = true ↔ ∃ l, p.labels = l :: q.labels := by
  unfold isDirectChildOf
  rw [Bool.and_eq_true, decide_eq_true_iff, hasSuffix_iff]
  constructor
  · rintro ⟨hlen, t, ht⟩
    have htl : t.length = 1 := by
      rw [← ht, length_append] at hlen
      omega
    obtain ⟨l, rfl⟩ := length_eq_one_iff.mp htl
    exact ⟨l, ht.symm⟩
  · rintro ⟨l, hl⟩
    rw [hl]
    exact ⟨rfl, suffix_cons l q.labels⟩

lemma isDescendantOf_of_directChild (h : p.isDirectChildOf q = true) :
    p.isDescendantOf q = true := by
  obtain ⟨l, hl⟩ := isDirectChildOf_iff.mp h
  rw [isDescendantOf_iff, hl]
  exact ⟨suffix_cons l q.labels, Nat.lt_succ_self _⟩

lemma isDescendantOf_trans (hpq : p.isDescendantOf q = true) (hqr : q.isDescendantOf r = true) :
    p.isDescendantOf r = true := by
  rw [isDescendantOf_iff] at *
  exact ⟨hqr.1.trans hpq.1, Nat.lt_trans hqr.2 hpq.2⟩

end RealmPath

inductive RealmControllerPlacement where
  | hostLocal
  | gatewayVm
  | cloudFullHost
  | providerController (provider : ProviderId)
  | providerAgent (provider : ProviderId)
  | providerSpecific (provider : ProviderId) (placement : ProtocolToken)
deriving DecidableEq

/-! ## a small realm -/

/- The realms and ids that the concrete inputs of the later modules share. -/

namespace SmallRealm

def root : RealmPath := ⟨[⟨"root", by decide⟩], by decide⟩

def work : RealmPath := ⟨⟨"work", by decide⟩ :: root.labels, by decide⟩

def gen1 : ControllerGenerationId := ⟨"gen-1", by decide⟩

def gen2 : ControllerGenerationId := ⟨"gen-2", by decide⟩

def operation : OperationId := ⟨"operation-1", by decide⟩

def correlation : CorrelationId := ⟨"correlation-1", by decide⟩

end SmallRealm

end D2b

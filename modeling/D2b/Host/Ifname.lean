import Mathlib.Data.List.Nodup
import D2b.Lib.Fallible

/-!
# D2b.Host.Ifname

Interface names derived from an env and a VM (`d2b-host/src/ifname.rs`), and the check that no
two of them collide.  A text is the list of its bytes.

A prefix may have eight bytes and a name fifteen, but the tag and the hash take nine: a prefix
of more than six bytes is accepted and no name can be derived with it.
-/

namespace D2b.Host

open Fallible List

abbrev Bytes := List UInt8

def ascii (text : String) : Bytes := text.toList.map Char.toUInt8

/-- A byte of `[A-Za-z0-9_-]`. -/
def isNameByte (b : UInt8) : Bool :=
  (Char.ofUInt8 b).isAlphanum || b == '_'.toUInt8 || b == '-'.toUInt8

/-- A name that the kernel takes. -/
structure IfName where
  value : Bytes
  nonempty : value ≠ []
  fits : value.length ≤ 15
  bytes : value.all isNameByte = true

inductive CoreIfNameError where
  | empty | tooLong | invalidCharacter

def IfName.new (value : Bytes) : Except CoreIfNameError IfName :=
  if hempty : value = [] then .error .empty
  else if hlong : value.length > 15 then .error .tooLong
  else if hbytes : value.all isNameByte = true then
    .ok ⟨value, hempty, Nat.le_of_not_lt hlong, hbytes⟩
  else .error .invalidCharacter

structure CollisionParty where
  env : Bytes
  vm : Option Bytes
  role : String

structure IfNameCollisionDetail where
  ifname : Bytes
  mappingA : CollisionParty
  mappingB : CollisionParty

inductive IfNameError where
  | ifNameTooLong (len : Nat) (value : Bytes)
  | empty
  | invalidCharacter (value : Bytes)
  | invalidPrefix (value : Bytes)
  | ifNameCollision (detail : IfNameCollisionDetail)

def newValidated (value : Bytes) : Except IfNameError IfName :=
  if value = [] then .error .empty
  else if value.length > 15 then .error (.ifNameTooLong value.length value)
  else (IfName.new value).mapError fun
    | .empty => .empty
    | .tooLong => .ifNameTooLong value.length value
    | .invalidCharacter => .invalidCharacter value

def validatePrefix (start : Bytes) : Except IfNameError Unit := do
  failIf (start = [] ∨ start.length > 8 ∨ start.getLast? ≠ some '-'.toUInt8) (.invalidPrefix start)
  failIf (start.all isNameByte = false) (.invalidPrefix start)

/-! ## derived names -/

inductive DerivedRole where
  | bridge | tap

def DerivedRole.tag : DerivedRole → UInt8
  | bridge => 'b'.toUInt8
  | tap => 't'.toUInt8

def defaultPrefix : Bytes := ascii "d2b-"

def hashSuffixLen : Nat := 8

/-- FNV-1a. -/
def Fnv1a.write (hash : UInt64) (bytes : Bytes) : UInt64 :=
  bytes.foldl (fun hash b => (hash ^^^ b.toUInt64) * 0x100000001b3) hash

def crockfordAlphabet : Bytes := ascii "0123456789ABCDEFGHJKMNPQRSTVWXYZ"

lemma index_lt (value : UInt64) : (value &&& 0x1f).toNat < crockfordAlphabet.length := by
  rw [UInt64.toNat_and]
  exact Nat.lt_of_le_of_lt Nat.and_le_right (by decide)

/-- The characters that are pushed, the lowest first. -/
def base32Chars (value : UInt64) : Nat → Bytes
  | 0 => []
  | chars + 1 => crockfordAlphabet.get ⟨_, index_lt value⟩ :: base32Chars (value >>> 5) chars

def base32Crockford (value : UInt64) (chars : Nat) : Bytes := (base32Chars value chars).reverse

def deriveFromEnvVm (env : Bytes) (vm : Option Bytes) (role : DerivedRole)
    (start : Option Bytes) : Except IfNameError IfName := do
  let start := start.getD defaultPrefix
  validatePrefix start
  let hash := Fnv1a.write (Fnv1a.write 0xcbf29ce484222325 env) [0x1f]
  let hash := vm.elim hash (Fnv1a.write hash)
  let digest := Fnv1a.write (Fnv1a.write hash [0x1e]) [role.tag]
  newValidated (start ++ role.tag :: base32Crockford digest hashSuffixLen)

def looksD2bOwned (name start : Bytes) : Bool :=
  match start.isPrefixOf? name with
  | some (tag :: tail) => (tag == DerivedRole.bridge.tag || tag == DerivedRole.tap.tag) &&
      tail.length == hashSuffixLen && tail.all crockfordAlphabet.contains
  | _ => false

lemma base32Crockford_spec (value : UInt64) (chars : Nat) :
    (base32Crockford value chars).length = chars ∧
      ∀ b ∈ base32Crockford value chars, b ∈ crockfordAlphabet := by
  simp only [base32Crockford, length_reverse, mem_reverse]
  induction chars generalizing value with
  | zero => simp [base32Chars]
  | succ chars ih =>
    obtain ⟨hlength, hmem⟩ := ih (value >>> 5)
    exact ⟨congrArg (· + 1) hlength, forall_mem_cons.mpr ⟨get_mem _ _, hmem⟩⟩

lemma derived_recognised (role : DerivedRole) (digest : UInt64)
    (hbytes : start.all isNameByte = true) (hlen : start.length ≤ 6) : ∃ name,
      newValidated (start ++ role.tag :: base32Crockford digest hashSuffixLen) = .ok name ∧
      looksD2bOwned name.value start = true := by
  obtain ⟨hlength, hmem⟩ := base32Crockford_spec digest hashSuffixLen
  generalize base32Crockford digest hashSuffixLen = suffix at hlength hmem
  have hfits : ¬ 15 < (start ++ role.tag :: suffix).length := by
    rw [length_append, length_cons, hlength, hashSuffixLen]
    omega
  have hchars := all_eq_true.mp (by decide : crockfordAlphabet.all isNameByte = true)
  have hname : (start ++ role.tag :: suffix).all isNameByte = true := by
    rw [all_append, hbytes, all_cons, Bool.true_and, Bool.and_eq_true]
    exact ⟨by cases role <;> decide, all_eq_true.mpr fun b hb => hchars b (hmem b hb)⟩
  have hsome : start ++ role.tag :: suffix ≠ [] := by simp
  refine ⟨⟨_, hsome, Nat.le_of_not_lt hfits, hname⟩, ?_, ?_⟩
  · simp only [newValidated, IfName.new, hsome, hfits, hname, if_false, dif_pos, dif_neg,
      not_false_iff, Except.mapError]
  · simp only [looksD2bOwned, isPrefixOf?_eq_some_iff_append_eq.mpr rfl, hlength,
      beq_self_eq_true, Bool.and_eq_true]
    refine ⟨⟨by cases role <;> decide, trivial⟩, all_eq_true.mpr fun b hb => ?_⟩
    exact contains_iff_mem.mpr (hmem b hb)

/-! ## collisions -/

structure IfNameMapping where
  env : Bytes
  vm : Option Bytes
  bridge : IfName
  tap : Option IfName

def IfNameMapping.names (mapping : IfNameMapping) : List (Bytes × CollisionParty) :=
  (mapping.bridge.value, ⟨mapping.env, mapping.vm, "bridge"⟩) ::
    mapping.tap.toList.map fun tap => (tap.value, ⟨mapping.env, mapping.vm, "tap"⟩)

/-- A name that was not seen is; one that was collides with the first of it. -/
def see (seen : List (Bytes × CollisionParty)) (name : Bytes × CollisionParty) :
    Except IfNameError (List (Bytes × CollisionParty)) :=
  match seen.find? (·.1 = name.1) with
  | some first => .error (.ifNameCollision ⟨name.1, first.2, name.2⟩)
  | none => .ok (seen ++ [name])

def detectCollisions (mappings : List IfNameMapping) : Except IfNameError Unit :=
  ((mappings.flatMap IfNameMapping.names).foldlM see []).map fun _ => ()

/-- The loop sees all names, or stops at one that was there. -/
lemma foldlM_see (names : List _) : ∀ seen, (seen.map Prod.fst).Nodup →
    (names.foldlM see seen = .ok (seen ++ names) ∧ ((seen ++ names).map Prod.fst).Nodup) ∨
    ∃ ifname a b, names.foldlM see seen = .error (.ifNameCollision ⟨ifname, a, b⟩) ∧
      [(ifname, a), (ifname, b)].Sublist (seen ++ names) := by
  induction names with
  | nil => exact fun seen hseen => .inl (by simpa [pure, Except.pure] using hseen)
  | cons name names ih =>
    intro seen hseen
    rw [foldlM_cons, see]
    cases hfind : seen.find? (·.1 = name.1) with
    | some first =>
      have hname : first.1 = name.1 := by simpa using find?_some hfind
      have hfirst : (name.1, first.2) ∈ seen := hname ▸ mem_of_find?_eq_some hfind
      exact .inr ⟨name.1, first.2, name.2, rfl, (singleton_sublist.mpr hfirst).append
        (singleton_sublist.mpr mem_cons_self)⟩
    | none =>
      have hnew : name.1 ∉ seen.map Prod.fst := by
        intro hmem
        obtain ⟨first, hfirst, heq⟩ := mem_map.mp hmem
        exact find?_eq_none.mp hfind first hfirst (decide_eq_true heq)
      have hrest := ih (seen ++ [name]) (by
        rw [map_append, map_singleton, ← concat_eq_append]
        exact .concat hnew hseen)
      rwa [append_assoc] at hrest

end D2b.Host

import Mathlib.Algebra.Group.Nat.Defs
import Mathlib.Data.List.Basic

/-!
# D2b.Lib.Reader

Readers of byte strings: each takes what it needs from the front, or fails.

`Reads p bytes a` says that `p` finds `a` in `bytes` and leaves whatever follows
them.  A format is inverted part by part: `Reads.bind` puts the bytes of two
parts one behind the other, `Reads.many` those of a counted list.
-/

/-- A reader: the value and what is left, or an error. -/
abbrev Reader (ε α : Type) := StateT (List UInt8) (Except ε) α

namespace Reader

open List

variable {ε α : Type}

/-- The next `n` bytes. -/
def take (truncated : ε) (n : Nat) : Reader ε (List UInt8) := fun bytes =>
  if n > bytes.length then .error truncated else .ok (bytes.take n, bytes.drop n)

/-- Fail if the condition holds. -/
def failIf (c : Prop) [Decidable c] (e : ε) : Reader ε Unit := fun bytes =>
  if c then .error e else .ok ((), bytes)

/-- Report the errors of a reader as others. -/
def mapError {ε' : Type} (f : ε → ε') (p : Reader ε α) : Reader ε' α := fun bytes =>
  (p bytes).mapError f

/-- Read `n` items. -/
def many (p : Reader ε α) : Nat → Reader ε (List α)
  | 0 => pure []
  | n + 1 => do
    let a ← p
    let rest ← many p n
    pure (a :: rest)

/-- `p` reads `a` from `bytes`, whatever follows. -/
def Reads (p : Reader ε α) (bytes : List UInt8) (a : α) : Prop :=
  ∀ rest, p (bytes ++ rest) = .ok (a, rest)

lemma Reads.pure (a : α) : Reads (pure a : Reader ε α) [] a := fun _ => rfl

variable {b : β}

lemma Reads.bind (hp : Reads p bytes a) (hf : Reads (f a) bytes' b) :
    Reads (p >>= f) (bytes ++ bytes') b := by
  intro rest
  show (p (bytes ++ bytes' ++ rest) >>= fun r => f r.1 r.2) = _
  rw [append_assoc, hp]
  exact hf rest

/-- A part without bytes. -/
lemma Reads.skip (hp : Reads p [] a) (hf : Reads (f a) bytes b) : Reads (p >>= f) bytes b :=
  hp.bind hf

lemma Reads.failIf [Decidable c] (h : ¬c) (e : ε) : Reads (failIf c e) [] () := fun _ => if_neg h

lemma Reads.mapError (hp : Reads p bytes a) (f : ε → ε') : Reads (p.mapError f) bytes a := by
  intro rest
  rw [Reader.mapError, hp rest]
  rfl

/-- The last part. -/
lemma Reads.last (hp : Reads p bytes a) (hf : Reads (f a) [] b) : Reads (p >>= f) bytes b := by
  have h := hp.bind hf
  rwa [append_nil] at h

lemma Reads.take (h : bytes.length = n) : Reads (take truncated n) bytes bytes := by
  intro rest
  have hlen : ¬ n > (bytes ++ rest).length := by
    rw [length_append]
    omega
  simp only [Reader.take, if_neg hlen, take_left' h, drop_left' h]

/-- A counted list. -/
lemma Reads.many : ∀ {as : List α}, (∀ a ∈ as, Reads p (write a) a) →
      Reads (many p as.length) (as.flatMap write) as := by
  intro as
  induction as with
  | nil => exact fun _ => Reads.pure []
  | cons a as ih =>
    intro h
    have hrest := ih fun a' ha' => h a' (mem_cons_of_mem _ ha')
    exact (h a mem_cons_self).bind (hrest.last (Reads.pure _))

/-! ## little-endian numbers -/

/-- The lowest `k` bytes of a number, lowest first. -/
def leBytes : Nat → Nat → List UInt8
  | 0, _ => []
  | k + 1, n => UInt8.ofNat (n % 256) :: leBytes k (n / 256)

/-- The number of a list of bytes, lowest first. -/
def ofLeBytes : List UInt8 → Nat
  | [] => 0
  | b :: bytes => b.toNat + 256 * ofLeBytes bytes

@[simp] lemma length_leBytes (k n : Nat) : (leBytes k n).length = k := by
  induction k generalizing n with
  | zero => rfl
  | succ k ih => simp [leBytes, ih]

lemma ofLeBytes_leBytes (h : n < 256 ^ k) : ofLeBytes (leBytes k n) = n := by
  induction k generalizing n with
  | zero =>
    have hzero : n = 0 := by simpa using h
    simp [leBytes, ofLeBytes, hzero]
  | succ k ih =>
    have hdiv : n / 256 < 256 ^ k := by
      rw [Nat.div_lt_iff_lt_mul (by decide)]
      rwa [Nat.pow_succ] at h
    have hbyte : (UInt8.ofNat (n % 256)).toNat = n % 256 := by
      simp
    simp only [leBytes, ofLeBytes, ih hdiv, hbyte]
    omega

end Reader

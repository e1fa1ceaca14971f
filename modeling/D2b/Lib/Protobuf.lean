import Mathlib.Algebra.Group.Nat.Defs
import Mathlib.Data.List.Basic

/-!
# D2b.Lib.Protobuf

The protobuf wire format: varints, and messages as lists of fields, each a tag
with a value.  `readFields_encodeFields` inverts the bytes of a message.

Groups, which the current version of the format no longer has, are refused.
-/

namespace Protobuf

open List

/-! ## varints -/

/-- A number in groups of seven bits, lowest first, with at most `f` bytes
before the last one. -/
def varintIn : Nat → Nat → List UInt8
  | 0, n => [UInt8.ofNat n]
  | f + 1, n =>
    if n < 128 then [UInt8.ofNat n] else UInt8.ofNat (n % 128 + 128) :: varintIn f (n / 128)

/-- A varint: at most ten bytes. -/
def varint (n : Nat) : List UInt8 := varintIn 9 n

/-- Read a varint.  The last byte it may have holds a single bit. -/
def readVarintIn : Nat → List UInt8 → Option (Nat × List UInt8)
  | _, [] => none
  | 0, b :: rest => if b.toNat < 2 then some (b.toNat, rest) else none
  | f + 1, b :: rest =>
    if b.toNat < 128 then some (b.toNat, rest)
    else (readVarintIn f rest).map fun (m, rest) => (b.toNat - 128 + 128 * m, rest)

def readVarint (bytes : List UInt8) : Option (Nat × List UInt8) := readVarintIn 9 bytes

lemma readVarintIn_varintIn (rest : List UInt8) :
    ∀ f n, n < 2 ^ (7 * f + 1) → readVarintIn f (varintIn f n ++ rest) = some (n, rest) := by
  intro f
  induction f with
  | zero =>
    intro n hn
    have hbyte : (UInt8.ofNat n).toNat = n := by simp; omega
    simp only [varintIn, cons_append, nil_append, readVarintIn, hbyte]
    rw [if_pos (by omega)]
  | succ f ih =>
    intro n hn
    unfold varintIn
    by_cases hsmall : n < 128
    · have hbyte : (UInt8.ofNat n).toNat = n := by simp; omega
      rw [if_pos hsmall]
      simp only [cons_append, nil_append, readVarintIn, hbyte, if_pos hsmall]
    · have hbyte : (UInt8.ofNat (n % 128 + 128)).toNat = n % 128 + 128 := by simp; omega
      have hrest : n / 128 < 2 ^ (7 * f + 1) := by
        rw [Nat.div_lt_iff_lt_mul (by decide)]
        have hpow : 2 ^ (7 * f + 1) * 128 = 2 ^ (7 * (f + 1) + 1) := by
          rw [show 7 * (f + 1) + 1 = 7 * f + 1 + 7 by omega, Nat.pow_add _ (7 * f + 1) 7]
        omega
      rw [if_neg hsmall]
      simp only [cons_append, readVarintIn, hbyte, ih (n / 128) hrest, Option.map_some]
      rw [if_neg (by omega)]
      congr 2
      omega

lemma readVarint_varint (hn : n < 2 ^ 64) (rest : List UInt8) :
    readVarint (varint n ++ rest) = some (n, rest) :=
  readVarintIn_varintIn rest 9 n hn

lemma varintIn_ne_nil (f n : Nat) : varintIn f n ≠ [] := by
  cases f with
  | zero => simp [varintIn]
  | succ f =>
    unfold varintIn
    split <;> simp

lemma length_varint_pos (n : Nat) : 0 < (varint n).length :=
  length_pos_iff.mpr (varintIn_ne_nil 9 n)

/-! ## fields -/

/-- The value of a field, by its wire type. -/
inductive Value where
  | varint (n : Nat)
  | fixed64 (bytes : List UInt8)
  | bytes (bytes : List UInt8)
  | fixed32 (bytes : List UInt8)
deriving DecidableEq

structure Field where
  tag : Nat
  value : Value
deriving DecidableEq

namespace Value

def wireType : Value → Nat
  | varint _ => 0
  | fixed64 _ => 1
  | bytes _ => 2
  | fixed32 _ => 5

/-- The bytes of a value, without its key. -/
def encode : Value → List UInt8
  | varint n => Protobuf.varint n
  | fixed64 b => b
  | bytes b => Protobuf.varint b.length ++ b
  | fixed32 b => b

/-- A value that its wire type can hold. -/
def Fits : Value → Prop
  | varint n => n < 2 ^ 64
  | fixed64 b => b.length = 8
  | bytes b => b.length < 2 ^ 64
  | fixed32 b => b.length = 4

end Value

/-- The bytes of a field: its key, then its value. -/
def Field.encode (f : Field) : List UInt8 := varint (f.tag * 8 + f.value.wireType) ++ f.value.encode

def takeBytes (n : Nat) (bytes : List UInt8) : Option (List UInt8 × List UInt8) :=
  if bytes.length < n then none else some (bytes.take n, bytes.drop n)

/-- Read the value of a wire type; groups are refused. -/
def readValue (wireType : Nat) (bytes : List UInt8) : Option (Value × List UInt8) :=
  match wireType with
  | 0 => (readVarint bytes).map fun (n, rest) => (.varint n, rest)
  | 1 => (takeBytes 8 bytes).map fun (b, rest) => (.fixed64 b, rest)
  | 2 => do
    let (n, bytes) ← readVarint bytes
    let (b, rest) ← takeBytes n bytes
    some (.bytes b, rest)
  | 5 => (takeBytes 4 bytes).map fun (b, rest) => (.fixed32 b, rest)
  | _ => none

def readField (bytes : List UInt8) : Option (Field × List UInt8) := do
  let (key, bytes) ← readVarint bytes
  if key ≥ 2 ^ 32 ∨ key / 8 = 0 then none
  else
    let (value, rest) ← readValue (key % 8) bytes
    some (⟨key / 8, value⟩, rest)

/-- Read fields to the end, at most `n` of them. -/
def readFieldsIn : Nat → List UInt8 → Option (List Field)
  | _, [] => some []
  | 0, _ :: _ => none
  | n + 1, b :: bytes => do
    let (f, rest) ← readField (b :: bytes)
    (readFieldsIn n rest).map (f :: ·)

/-- Read the fields of a message.  Every field takes a byte, so there are no
more fields than bytes. -/
def readFields (bytes : List UInt8) : Option (List Field) := readFieldsIn bytes.length bytes

def encodeFields (fs : List Field) : List UInt8 := fs.flatMap Field.encode

/-- A field that the format can hold. -/
def Field.Fits (f : Field) : Prop := 0 < f.tag ∧ f.tag < 2 ^ 29 ∧ f.value.Fits

lemma takeBytes_append (h : b.length = n) : takeBytes n (b ++ rest) = some (b, rest) := by
  unfold takeBytes
  rw [if_neg (by simp; omega), take_left' h, drop_left' h]

lemma readValue_encode (h : v.Fits) :
    readValue v.wireType (v.encode ++ rest) = some (v, rest) := by
  cases v with
  | varint n => simp [readValue, Value.wireType, Value.encode, readVarint_varint h]
  | fixed64 _ | fixed32 _ => simp [readValue, Value.wireType, Value.encode, takeBytes_append h]
  | bytes b =>
    simp [readValue, Value.wireType, Value.encode, append_assoc, readVarint_varint h,
      takeBytes_append rfl]

lemma readField_encode (h : f.Fits) (rest : List UInt8) :
    readField (f.encode ++ rest) = some (f, rest) := by
  obtain ⟨hpos, hlt, hfits⟩ := h
  have hwire : f.value.wireType < 8 := by cases f.value <;> simp [Value.wireType]
  have hkey : f.tag * 8 + f.value.wireType < 2 ^ 32 := by omega
  have htag : (f.tag * 8 + f.value.wireType) / 8 = f.tag := by omega
  have hmod : (f.tag * 8 + f.value.wireType) % 8 = f.value.wireType := by omega
  unfold readField Field.encode
  rw [append_assoc, readVarint_varint (by omega)]
  simp only [Option.bind_eq_bind, Option.bind_some, htag, hmod, readValue_encode hfits]
  rw [if_neg (by omega)]

lemma length_encode_pos (f : Field) : 0 < f.encode.length := by
  have := length_varint_pos (f.tag * 8 + f.value.wireType)
  unfold Field.encode
  rw [length_append]
  omega

lemma length_le_encodeFields (fs : List Field) : fs.length ≤ (encodeFields fs).length := by
  induction fs with
  | nil => simp
  | cons f fs ih =>
    have := length_encode_pos f
    simp only [encodeFields, flatMap_cons, length_append, length_cons] at *
    omega

lemma readFieldsIn_encodeFields (h : ∀ f ∈ fs, f.Fits) :
    ∀ n, fs.length ≤ n → readFieldsIn n (encodeFields fs) = some fs := by
  induction fs with
  | nil =>
    intro n _
    cases n <;> rfl
  | cons f fs ih =>
    intro n hn
    obtain ⟨n, rfl⟩ : ∃ k, n = k + 1 := ⟨n - 1, by simp at hn; omega⟩
    have hread := readField_encode (h f mem_cons_self) (encodeFields fs)
    have hcons : encodeFields (f :: fs) = f.encode ++ encodeFields fs := by simp [encodeFields]
    obtain ⟨b, bytes, hbytes⟩ : ∃ b bytes, encodeFields (f :: fs) = b :: bytes := by
      rw [← length_pos_iff_exists_cons, hcons, length_append]
      have := length_encode_pos f
      omega
    rw [hcons] at hbytes
    rw [hcons, hbytes, readFieldsIn, ← hbytes, hread]
    simp [ih (fun g hg => h g (mem_cons_of_mem _ hg)) n (by simpa using hn)]

/-- What is written is read back. -/
lemma readFields_encodeFields (h : ∀ f ∈ fs, f.Fits) : readFields (encodeFields fs) = some fs :=
  readFieldsIn_encodeFields h _ (length_le_encodeFields fs)

end Protobuf

import Mathlib.Algebra.Group.Int.Defs
import Mathlib.Data.List.Nodup
import Mathlib.Data.String.Basic
import D2b.Lib.Protobuf

/-!
# D2b.Lib.Protobuf.Schema

Records on the protobuf wire.  A `ValueCodec` writes one value, a `FieldCodec`
the values of one field (left out when it is the default, optional, repeated
or packed), and a `Schema` the fields of a record.  Each carries the law that
reading what it wrote gives the value back, so a schema that is put together
from lawful parts is lawful: `Schema.decode_encode`.

The laws assume that what was written fits the format; `Schema.fits_of_length`
gets that from the length of the message alone.
-/

namespace Protobuf

open List Option

/-! ## what can be written -/

/-- A value within the bounds of its wire type, lengths apart. -/
def Value.Sound : Value → Prop
  | varint n => n < 2 ^ 64
  | fixed64 b => b.length = 8
  | bytes _ => True
  | fixed32 b => b.length = 4

/-- A field within the bounds of the format, lengths apart. -/
def Field.Sound (f : Field) : Prop := 0 < f.tag ∧ f.tag < 2 ^ 29 ∧ f.value.Sound

lemma Field.fits_of_length {f : Field} (h : f.Sound) (hlen : f.encode.length < 2 ^ 64) :
    f.Fits := by
  obtain ⟨hpos, hlt, hsound⟩ := h
  refine ⟨hpos, hlt, ?_⟩
  cases hv : f.value with
  | varint _ | fixed64 _ | fixed32 _ => rwa [hv] at hsound
  | bytes b =>
    simp only [Field.encode, hv, Value.encode, length_append] at hlen
    simp only [Value.Fits]
    omega

lemma length_encode_le_of_mem (h : f ∈ fs) : f.encode.length ≤ (encodeFields fs).length := by
  obtain ⟨before, after, rfl⟩ := append_of_mem h
  simp only [encodeFields, flatMap_append, flatMap_cons, length_append]
  omega

/-- A length-delimited field is longer than its bytes. -/
lemma length_lt_encode (h : Field.mk t (.bytes b) ∈ fs) :
    b.length < (encodeFields fs).length := by
  have hle := length_encode_le_of_mem h
  have hkey := length_varint_pos (t * 8 + (Value.bytes b).wireType)
  simp only [Field.encode, Value.encode, length_append] at hle
  omega

/-! ## values -/

/-- How one value is written, and read over the value that is already there. -/
structure ValueCodec (α : Type) where
  dflt : α
  write : α → Value
  read : α → Value → Option α
  sound : ∀ a, (write a).Sound
  read_write : ∀ a, (write a).Fits → read dflt (write a) = some a

namespace ValueCodec

def textBytes (s : String) : List UInt8 := s.toUTF8.data.toList

/-- The text of some bytes, if they are UTF-8. -/
def textOfBytes (b : List UInt8) : Option String := String.fromUTF8? ⟨b.toArray⟩

lemma textOfBytes_textBytes (s : String) : textOfBytes (textBytes s) = some s := by
  unfold textOfBytes textBytes String.fromUTF8?
  rw [Array.toArray_toList, String.toUTF8_eq_toByteArray, dif_pos s.isValidUTF8]
  rfl

lemma length_textBytes (s : String) : (textBytes s).length = s.utf8ByteSize := by
  unfold textBytes
  rw [Array.length_toList, String.toUTF8_eq_toByteArray]
  rfl

def string : ValueCodec String where
  dflt := ""
  write s := .bytes (textBytes s)
  read _ v := match v with
    | .bytes b => textOfBytes b
    | _ => none
  sound _ := trivial
  read_write s _ := textOfBytes_textBytes s

def bytes : ValueCodec (List UInt8) where
  dflt := []
  write b := .bytes b
  read _ v := match v with
    | .bytes b => some b
    | _ => none
  sound _ := trivial
  read_write _ _ := rfl

/-- `uint32`; a longer number loses its high bits. -/
def uint32 : ValueCodec UInt32 where
  dflt := 0
  write n := .varint n.toNat
  read _ v := match v with
    | .varint n => some (UInt32.ofNat n)
    | _ => none
  sound n := Nat.lt_trans n.toNat_lt (by decide)
  read_write n _ := by simp

def uint64 : ValueCodec UInt64 where
  dflt := 0
  write n := .varint n.toNat
  read _ v := match v with
    | .varint n => some (UInt64.ofNat n)
    | _ => none
  sound n := n.toNat_lt
  read_write n _ := by simp

/-- The sixty-four bits of an `i32`, sign extended. -/
def signExtend (i : Int32) : Nat := (i.toInt % 2 ^ 64).toNat

/-- `as i32`: the low bits of a number. -/
def lowInt32 (n : Nat) : Int32 := Int32.ofInt n

lemma signExtend_lt (i : Int32) : signExtend i < 2 ^ 64 := by
  unfold signExtend
  omega

lemma lowInt32_signExtend (i : Int32) : lowInt32 (signExtend i) = i := by
  unfold lowInt32 signExtend
  apply Int32.toInt_inj.mp
  have hnonneg : 0 ≤ i.toInt % 2 ^ 64 := by omega
  rw [Int.toNat_of_nonneg hnonneg, Int32.toInt_ofInt]
  have hself := Int32.toInt_bmod i
  rw [Int.bmod_eq_iff (by decide)] at *
  simp only [Int32.size] at *
  omega

def int32 : ValueCodec Int32 where
  dflt := 0
  write i := .varint (signExtend i)
  read _ v := match v with
    | .varint n => some (lowInt32 n)
    | _ => none
  sound := signExtend_lt
  read_write i _ := congrArg some (lowInt32_signExtend i)

@[simp] lemma string_dflt : string.dflt = "" := rfl

@[simp] lemma bytes_dflt : bytes.dflt = [] := rfl

@[simp] lemma uint32_dflt : uint32.dflt = 0 := rfl

@[simp] lemma uint64_dflt : uint64.dflt = 0 := rfl

@[simp] lemma int32_dflt : int32.dflt = 0 := rfl

end ValueCodec

/-! ## fields of a record -/

/-- How the values of one field are written, and merged in one by one. -/
structure FieldCodec (α : Type) where
  empty : α
  write : α → List Value
  read : α → Value → Option α
  sound : ∀ a, ∀ v ∈ write a, v.Sound
  read_write : ∀ a, (∀ v ∈ write a, v.Fits) → (write a).foldlM read empty = some a

namespace FieldCodec

variable {α : Type}

/-- A field that is left out when it has its default. -/
def plain [DecidableEq α] (c : ValueCodec α) : FieldCodec α where
  empty := c.dflt
  write a := if a = c.dflt then [] else [c.write a]
  read := c.read
  sound a v hv := by
    by_cases hdflt : a = c.dflt
    · simp [hdflt] at hv
    · rw [if_neg hdflt, mem_singleton] at hv
      exact hv ▸ c.sound a
  read_write a hfits := by
    by_cases hdflt : a = c.dflt
    · simp [hdflt]
    · rw [if_neg hdflt] at *
      simp [c.read_write a (hfits _ mem_cons_self)]

/-- A field that may be absent. -/
def optional (c : ValueCodec α) : FieldCodec (Option α) where
  empty := none
  write a := (a.map c.write).toList
  read a v := (c.read (a.getD c.dflt) v).map some
  sound a v hv := by
    obtain ⟨b, -, rfl⟩ : ∃ b, a = some b ∧ c.write b = v := by simpa using hv
    exact c.sound b
  read_write a hfits := by
    cases a with
    | none => rfl
    | some a => simp [c.read_write a (hfits _ (by simp))]

/-- A field that is written once for each element. -/
def repeated (c : ValueCodec α) : FieldCodec (List α) where
  empty := []
  write l := l.map c.write
  read l v := (c.read c.dflt v).map fun a => l ++ [a]
  sound l v hv := by
    obtain ⟨a, -, rfl⟩ := mem_map.mp hv
    exact c.sound a
  read_write l hfits := by
    suffices h : ∀ done, (l.map c.write).foldlM
        (fun l v => (c.read c.dflt v).map fun a => l ++ [a]) done = some (done ++ l) from h []
    induction l with
    | nil => simp
    | cons a l ih =>
      intro done
      have hread := c.read_write a (hfits _ (by simp))
      have hrest := ih (fun v hv => hfits v (mem_cons_of_mem _ hv)) (done ++ [a])
      simp only [map_cons, foldlM_cons, hread, map_some, bind_eq_bind,
        bind_some, hrest, append_assoc, cons_append, nil_append]

/-- Read varints to the end, at most `n` of them. -/
def readVarintsIn : Nat → List UInt8 → Option (List Nat)
  | _, [] => some []
  | 0, _ :: _ => none
  | n + 1, b :: bytes => do
    let (v, rest) ← readVarint (b :: bytes)
    (readVarintsIn n rest).map (v :: ·)

lemma readVarintsIn_flatMap (h : ∀ v ∈ l, v < 2 ^ 64) :
    ∀ n, l.length ≤ n → readVarintsIn n (l.flatMap varint) = some l := by
  induction l with
  | nil =>
    intro n _
    cases n <;> rfl
  | cons v l ih =>
    intro n hn
    obtain ⟨n, rfl⟩ : ∃ k, n = k + 1 := ⟨n - 1, by simp at hn; omega⟩
    have hread := readVarint_varint (h v mem_cons_self) (l.flatMap varint)
    obtain ⟨b, bytes, hbytes⟩ : ∃ b bytes, varint v = b :: bytes :=
      exists_cons_of_ne_nil (varintIn_ne_nil 9 v)
    rw [flatMap_cons, hbytes, cons_append, readVarintsIn, ← cons_append, ← hbytes, hread]
    simp [ih (fun w hw => h w (mem_cons_of_mem _ hw)) n (by simpa using hn)]

lemma length_le_flatMap_varint (l : List Nat) : l.length ≤ (l.flatMap varint).length := by
  induction l with
  | nil => simp
  | cons v l ih =>
    have := length_varint_pos v
    simp only [flatMap_cons, length_append, length_cons] at *
    omega

/-- `repeated int32`: all numbers in one value; single ones are read as well. -/
def packedInt32 : FieldCodec (List Int32) where
  empty := []
  write l := if l = [] then [] else
    [.bytes ((l.map ValueCodec.signExtend).flatMap varint)]
  read l v := match v with
    | .bytes b => (readVarintsIn b.length b).map fun ns => l ++ ns.map ValueCodec.lowInt32
    | .varint n => some (l ++ [ValueCodec.lowInt32 n])
    | _ => none
  sound l v hv := by
    by_cases hnil : l = []
    · simp [hnil] at hv
    · rw [if_neg hnil, mem_singleton] at hv
      subst hv
      trivial
  read_write l _ := by
    by_cases hnil : l = []
    · simp [hnil]
    · have hbound : ∀ v ∈ l.map ValueCodec.signExtend, v < 2 ^ 64 := by
        intro v hv
        obtain ⟨i, -, rfl⟩ := mem_map.mp hv
        exact ValueCodec.signExtend_lt i
      have hread := readVarintsIn_flatMap hbound _ (length_le_flatMap_varint _)
      rw [if_neg hnil]
      simp only [foldlM_cons, foldlM_nil, hread, map_some, nil_append,
        List.map_map, Option.bind_eq_bind, Option.bind_some, Option.pure_def]
      simp [Function.comp_def, ValueCodec.lowInt32_signExtend]

@[simp] lemma plain_empty [DecidableEq α] (c : ValueCodec α) : (plain c).empty = c.dflt := rfl

@[simp] lemma optional_empty : (optional c).empty = none := rfl

@[simp] lemma repeated_empty : (repeated c).empty = [] := rfl

@[simp] lemma packedInt32_empty : packedInt32.empty = [] := rfl

end FieldCodec

/-! ## records -/

/-- How a record is written as fields, and how a field is merged into it. -/
structure Schema (M : Type) where
  empty : M
  fields : M → List Field
  merge : M → Field → Option M
  sound : ∀ m, ∀ f ∈ fields m, f.Sound
  merge_fields : ∀ m, (∀ f ∈ fields m, f.Fits) → (fields m).foldlM merge empty = some m

namespace Schema

variable {M : Type} (S : Schema M)

/-- `encode_to_vec`. -/
def encode (m : M) : List UInt8 := encodeFields (S.fields m)

/-- Merge the fields of a message into a record. -/
def mergeBytes (m : M) (bytes : List UInt8) : Option M := do
  let fs ← readFields bytes
  fs.foldlM S.merge m

def decode (bytes : List UInt8) : Option M := S.mergeBytes S.empty bytes

lemma fits_of_length {S : Schema M} (h : (S.encode m).length < 2 ^ 64) :
    ∀ f ∈ S.fields m, f.Fits := fun f hf =>
  Field.fits_of_length (S.sound m f hf) (Nat.lt_of_le_of_lt (length_encode_le_of_mem hf) h)

/-- A message that is not too long is read back. -/
lemma decode_encode {m : M} (h : (S.encode m).length < 2 ^ 64) :
    S.decode (S.encode m) = some m := by
  have hfits := fits_of_length h
  unfold decode mergeBytes encode
  rw [readFields_encodeFields hfits]
  exact S.merge_fields m hfits

/-- A record as the value of a field of another. -/
def message : ValueCodec M where
  dflt := S.empty
  write m := .bytes (S.encode m)
  read m v := match v with
    | .bytes b => S.mergeBytes m b
    | _ => none
  sound _ := trivial
  read_write _ hfits := S.decode_encode hfits

end Schema

/-! ## schemas from their parts -/

/-- A tag that occurs once is found where it is. -/
lemma find?_tag (tag : P → Nat) {ps : List P} (hnodup : (ps.map tag).Nodup) (hp : p ∈ ps) :
    ps.find? (fun q => tag q == tag p) = some p := by
  induction ps with
  | nil => contradiction
  | cons q qs ih =>
    rw [map_cons, nodup_cons] at hnodup
    rcases mem_cons.mp hp with rfl | hp
    · simp
    · have hne : tag q ≠ tag p := fun h => hnodup.1 (h ▸ mem_map_of_mem hp)
      simp [hne, ih hnodup.2 hp]

/-- A field of a record: its tag, how it is written, and where it is kept. -/
structure Part (M : Type) where
  field ::
  {α : Type}
  tag : Nat
  codec : FieldCodec α
  get : M → α
  set : M → α → M
  get_set : ∀ m a, get (set m a) = a := by intros; rfl
  set_set : ∀ m a b, set (set m a) b = set m b := by intros; rfl
  set_get : ∀ m, set m (get m) = m := by intros; rfl

namespace Part

variable {M : Type}

/-- What the field of a record is written as. -/
def fields (p : Part M) (m : M) : List Field := (p.codec.write (p.get m)).map (Field.mk p.tag)

/-- Merge a value into the field. -/
def merge (p : Part M) (m : M) (v : Value) : Option M := (p.codec.read (p.get m) v).map (p.set m)

lemma foldlM_merge (p : Part M) (vs : List Value) :
    ∀ m, vs.foldlM p.merge m = (vs.foldlM p.codec.read (p.get m)).map (p.set m) := by
  induction vs with
  | nil =>
    intro m
    simp [p.set_get]
  | cons v vs ih =>
    intro m
    cases hread : p.codec.read (p.get m) v with
    | none => simp [merge, hread]
    | some a =>
      have hset : p.set (p.set m a) = p.set m := funext (p.set_set m a)
      simp [merge, hread, ih, p.get_set, hset]

/-- A record is rebuilt when each field in turn, still empty, gets its value. -/
def Rebuilds (m : M) : List (Part M) → M → Prop
  | [], acc => acc = m
  | p :: ps, acc => p.get acc = p.codec.empty ∧ Rebuilds m ps (p.set acc (p.get m))

/-- Merge a field into the part with its tag; unknown fields are skipped. -/
def mergeInto (parts : List (Part M)) (m : M) (f : Field) : Option M :=
  match parts.find? (fun p => p.tag == f.tag) with
  | none => some m
  | some p => p.merge m f.value

lemma foldlM_mergeInto (hnodup : (parts.map tag).Nodup) {p : Part M} (hp : p ∈ parts)
    (vs : List Value) :
    ∀ m, (vs.map (Field.mk p.tag)).foldlM (mergeInto parts) m = vs.foldlM p.merge m := by
  induction vs with
  | nil => intro m; rfl
  | cons v vs ih =>
    intro m
    have hstep : mergeInto parts m ⟨p.tag, v⟩ = p.merge m v := by
      simp [mergeInto, find?_tag tag hnodup hp]
    rw [map_cons, foldlM_cons, foldlM_cons, hstep]
    exact bind_congr ih

/-- One part after another gets its value. -/
lemma merge_parts (hnodup : (parts.map tag).Nodup) {m : M} (hmem : ∀ p ∈ ps, p ∈ parts)
    (hfits : ∀ f ∈ ps.flatMap (·.fields m), f.Fits) :
    ∀ acc, Rebuilds m ps acc → (ps.flatMap (·.fields m)).foldlM (mergeInto parts) acc = some m := by
  induction ps with
  | nil =>
    intro acc h
    exact congrArg some h
  | cons p ps ih =>
    rintro acc ⟨hempty, hrest⟩
    have hvalues : ∀ v ∈ p.codec.write (p.get m), v.Fits := by
      intro v hv
      have hfield : Field.mk p.tag v ∈ (p :: ps).flatMap (·.fields m) := by
        rw [flatMap_cons]
        exact mem_append_left _ (mem_map_of_mem hv)
      exact (hfits _ hfield).2.2
    have hfirst : (p.fields m).foldlM (mergeInto parts) acc = some (p.set acc (p.get m)) := by
      unfold fields
      rw [foldlM_mergeInto hnodup (hmem p mem_cons_self), foldlM_merge, hempty,
        p.codec.read_write _ hvalues, map_some]
    rw [flatMap_cons, foldlM_append, hfirst]
    refine ih (fun q hq => hmem q (mem_cons_of_mem _ hq)) ?_ _ hrest
    intro f hf
    exact hfits f (by rw [flatMap_cons]; exact mem_append_right _ hf)

end Part

def Schema.ofParts {M : Type} (empty : M) (parts : List (Part M))
    (htags : ∀ t ∈ parts.map Part.tag, 0 < t ∧ t < 2 ^ 29 := by decide)
    (hnodup : (parts.map Part.tag).Nodup := by decide)
    (hrebuild : ∀ m, Part.Rebuilds m parts empty := by simp [Part.Rebuilds]) : Schema M where
  empty := empty
  fields m := parts.flatMap (·.fields m)
  merge := Part.mergeInto parts
  sound m f hf := by
    obtain ⟨p, hp, hf⟩ := mem_flatMap.mp hf
    obtain ⟨v, hv, rfl⟩ := mem_map.mp hf
    have htag := htags p.tag (mem_map_of_mem hp)
    exact ⟨htag.1, htag.2, p.codec.sound _ v hv⟩
  merge_fields m hfits := Part.merge_parts hnodup (fun _ hp => hp) hfits empty (hrebuild m)

/-! ## one of several -/

structure Variant (B : Type) where
  alternative ::
  {α : Type}
  tag : Nat
  codec : ValueCodec α
  split : B → Option α
  build : α → B
  build_split : ∀ b a, split b = some a → build a = b

namespace Variant

variable {B : Type}

/-- The field of a body of this alternative. -/
def field? (v : Variant B) (b : B) : Option Field :=
  (v.split b).map fun a => ⟨v.tag, v.codec.write a⟩

/-- Merge a value; a body of another alternative is replaced. -/
def merge (v : Variant B) (body : Option B) (value : Value) : Option B :=
  (v.codec.read ((body.bind v.split).getD v.codec.dflt) value).map v.build

/-- Merge a field into the alternative with its tag; unknown fields are skipped. -/
def mergeInto (variants : List (Variant B)) (body : Option B) (f : Field) : Option (Option B) :=
  match variants.find? (fun v => v.tag == f.tag) with
  | none => some body
  | some v => (v.merge body f.value).map some

lemma mergeInto_field (hnodup : (variants.map tag).Nodup) {v : Variant B} (hv : v ∈ variants)
    (hf : v.field? b = some f) (hfits : f.Fits) : mergeInto variants none f = some (some b) := by
  obtain ⟨a, hsplit, rfl⟩ := map_eq_some_iff.mp hf
  have hread := v.codec.read_write a hfits.2.2
  unfold mergeInto
  rw [find?_tag tag hnodup hv]
  simp [merge, hread, v.build_split b a hsplit]

end Variant

/-- The schema of a record that is one of several alternatives, or none. -/
def Schema.oneof {M B : Type} (wrap : Option B → M) (unwrap : M → Option B)
    (hwrap : ∀ m, wrap (unwrap m) = m) (hunwrap : ∀ b, unwrap (wrap b) = b)
    (variants : List (Variant B)) (htags : ∀ t ∈ variants.map Variant.tag, 0 < t ∧ t < 2 ^ 29)
    (hnodup : (variants.map Variant.tag).Nodup)
    (hone : ∀ b, (variants.filterMap (·.field? b)).length = 1) : Schema M where
  empty := wrap none
  fields m := match unwrap m with
    | none => []
    | some b => variants.filterMap (·.field? b)
  merge m f := (Variant.mergeInto variants (unwrap m) f).map wrap
  sound m f hf := by
    cases hm : unwrap m with
    | none => simp [hm] at hf
    | some b =>
      simp only [hm] at hf
      obtain ⟨v, hv, hf⟩ := mem_filterMap.mp hf
      obtain ⟨a, -, rfl⟩ := map_eq_some_iff.mp hf
      have htag := htags v.tag (mem_map_of_mem hv)
      exact ⟨htag.1, htag.2, v.codec.sound a⟩
  merge_fields m hfits := by
    cases hm : unwrap m with
    | none =>
      have hself := hwrap m
      rw [hm] at hself
      simp [hself]
    | some b =>
      obtain ⟨f, hfields⟩ := length_eq_one_iff.mp (hone b)
      simp only [hm, hfields] at hfits ⊢
      have hmem : f ∈ variants.filterMap (·.field? b) := by rw [hfields]; exact mem_cons_self
      obtain ⟨v, hv, hf⟩ := mem_filterMap.mp hmem
      have hself := hwrap m
      rw [hm] at hself
      simp [hunwrap, Variant.mergeInto_field hnodup hv hf (hfits f mem_cons_self), hself]

end Protobuf

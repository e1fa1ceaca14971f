import Mathlib.Data.List.Basic

/-!
# D2b.Core.Base64

The base64 codec of `base64_codec.rs`.  A text is the list of its bytes, and
`DecodeError`, which carries nothing, is `none`.  The decoder accepts exactly
the texts that the encoder writes: round trip and soundness are shown for one
quad, where both ends are the same 24-bit word, and then for whole texts.
-/

namespace D2b.Core.Base64

open List

def encodeTable : List UInt8 :=
  "ABCDEFGHIJKLMNOPQRSTUVWXYZabcdefghijklmnopqrstuvwxyz0123456789+/".toList.map (·.toUInt8)

/-- `PAD`, the byte of `=`. -/
def pad : UInt8 := 61

/-- The symbol of the low six bits. -/
def symbol (n : Nat) : UInt8 := encodeTable.getD (n &&& 0x3f) 0

/-- The word of a chunk; bytes that are missing count as zero. -/
def chunkWord (chunk : List UInt8) : Nat :=
  (chunk.getD 0 0).toNat <<< 16 ||| (chunk.getD 1 0).toNat <<< 8 ||| (chunk.getD 2 0).toNat

def encodeChunk (chunk : List UInt8) : List UInt8 :=
  let triple := chunkWord chunk
  [symbol (triple >>> 18), symbol (triple >>> 12),
    if chunk.length > 1 then symbol (triple >>> 6) else pad,
    if chunk.length > 2 then symbol triple else pad]

def encode : List UInt8 → List UInt8
  | [] => []
  | b0 :: b1 :: b2 :: rest => encodeChunk [b0, b1, b2] ++ encode rest
  | chunk => encodeChunk chunk

def decodeSymbol (byte : UInt8) : Option Nat :=
  if 65 ≤ byte ∧ byte ≤ 90 then some (byte.toNat - 65)
  else if 97 ≤ byte ∧ byte ≤ 122 then some (byte.toNat - 97 + 26)
  else if 48 ≤ byte ∧ byte ≤ 57 then some (byte.toNat - 48 + 52)
  else if byte = 43 then some 62
  else if byte = 47 then some 63
  else none

/-- The next byte of a quad, after the values `buf` of the bytes before it and `pads` of them
that were padding. -/
def decodeByte (isLast : Bool) : List Nat × Nat → UInt8 → Option (List Nat × Nat)
  | (buf, pads), byte =>
    if byte = pad then
      if buf.length < 2 ∨ isLast = false then none else some (buf ++ [0], pads + 1)
    else if pads > 0 then none
    else (decodeSymbol byte).map fun n => (buf ++ [n], pads)

def quadWord (buf : List Nat) : Nat :=
  buf.getD 0 0 <<< 18 ||| buf.getD 1 0 <<< 12 ||| buf.getD 2 0 <<< 6 ||| buf.getD 3 0

/-- The bytes of a word, less those that were padding, which have to be zero. -/
def wordBytes (triple pads : Nat) : Option (List UInt8) :=
  if pads = 1 ∧ triple &&& 0xff ≠ 0 ∨ pads = 2 ∧ triple &&& 0xffff ≠ 0 then none
  else some (.ofNat (triple >>> 16) :: (if pads < 2 then [.ofNat (triple >>> 8)] else []) ++
    if pads < 1 then [.ofNat triple] else [])

def decodeQuad (isLast : Bool) (quad : List UInt8) : Option (List UInt8) := do
  let (buf, pads) ← quad.foldlM (decodeByte isLast) ([], 0)
  wordBytes (quadWord buf) pads

/-- The quads of a text whose length is a multiple of four. -/
def decodeQuads : List UInt8 → Option (List UInt8)
  | c0 :: c1 :: c2 :: c3 :: rest => do
    let out ← decodeQuad rest.isEmpty [c0, c1, c2, c3]
    let more ← decodeQuads rest
    return out ++ more
  | _ => some []

def decode (input : List UInt8) : Option (List UInt8) :=
  if input.length % 4 ≠ 0 then none else decodeQuads input

/-! ## Symbols and words -/

lemma decodeSymbol_eq : decodeSymbol c = some n ↔ n < 64 ∧ symbol n = c := by
  have hdecode : ∀ byte < 256, ∀ n ∈ decodeSymbol (.ofNat byte),
      n < 64 ∧ symbol n = .ofNat byte := by decide +kernel
  have hencode : ∀ n < 64, decodeSymbol (symbol n) = some n := by decide +kernel
  constructor
  · intro h
    rw [← UInt8.ofNat_toNat (x := c)] at h ⊢
    exact hdecode c.toNat c.toNat_lt n h
  · rintro ⟨hlt, rfl⟩
    exact hencode n hlt

lemma and_63 (n : Nat) : n &&& 0x3f = n % 64 := Nat.and_two_pow_sub_one_eq_mod n 6

lemma and_255 (n : Nat) : n &&& 0xff = n % 256 := Nat.and_two_pow_sub_one_eq_mod n 8

lemma and_65535 (n : Nat) : n &&& 0xffff = n % 65536 := Nat.and_two_pow_sub_one_eq_mod n 16

lemma symbol_congr (h : m % 64 = n) : symbol m = symbol n := by
  simp [symbol, and_63, ← h]

@[simp] lemma decodeSymbol_symbol (n : Nat) : decodeSymbol (symbol n) = some (n % 64) :=
  decodeSymbol_eq.mpr ⟨Nat.mod_lt n (by decide), (symbol_congr rfl).symm⟩

@[simp] lemma symbol_ne_pad (n : Nat) : symbol n ≠ pad := by
  intro h
  have hnone : decodeSymbol pad = none := by decide
  rw [← h, decodeSymbol_symbol] at hnone
  contradiction

lemma chunkWord_eq (chunk : List UInt8) : chunkWord chunk =
    (chunk.getD 0 0).toNat * 65536 + (chunk.getD 1 0).toNat * 256 + (chunk.getD 2 0).toNat := by
  have h1 := (chunk.getD 1 0).toNat_lt
  have h2 := (chunk.getD 2 0).toNat_lt
  unfold chunkWord
  rw [Nat.or_assoc, ← Nat.shiftLeft_add_eq_or_of_lt h2, ← Nat.shiftLeft_add_eq_or_of_lt (by omega)]
  omega

lemma quadWord_eq (h1 : n1 < 64) (h2 : n2 < 64) (h3 : n3 < 64) :
    quadWord [n0, n1, n2, n3] = n0 * 262144 + n1 * 4096 + n2 * 64 + n3 := by
  simp only [quadWord, getD_cons_zero, getD_cons_succ]
  rw [Nat.or_assoc, Nat.or_assoc, ← Nat.shiftLeft_add_eq_or_of_lt (i := 6) h3,
    ← Nat.shiftLeft_add_eq_or_of_lt (i := 12) (by omega),
    ← Nat.shiftLeft_add_eq_or_of_lt (i := 18) (by omega)]
  omega

/-- A word is that of its four symbols. -/
lemma quadWord_digits (h : w < 16777216) :
    quadWord [w >>> 18 % 64, w >>> 12 % 64, w >>> 6 % 64, w % 64] = w := by
  rw [quadWord_eq (by omega) (by omega) (by omega)]
  omega

/-- A chunk, and how many symbols of its quad are padding. -/
inductive IsChunk : List UInt8 → Nat → Prop
  | one (b0) : IsChunk [b0] 2
  | two (b0 b1) : IsChunk [b0, b1] 1
  | three (b0 b1 b2) : IsChunk [b0, b1, b2] 0

/-- The word of a chunk has 24 bits, the bytes of the chunk. -/
lemma bytes_chunkWord (chunk : List UInt8) : chunkWord chunk < 16777216 ∧
    UInt8.ofNat (chunkWord chunk >>> 16) = chunk.getD 0 0 ∧
    UInt8.ofNat (chunkWord chunk >>> 8) = chunk.getD 1 0 ∧
    UInt8.ofNat (chunkWord chunk) = chunk.getD 2 0 := by
  have h0 := (chunk.getD 0 0).toNat_lt
  have h1 := (chunk.getD 1 0).toNat_lt
  have h2 := (chunk.getD 2 0).toNat_lt
  simp only [← UInt8.toNat_inj, UInt8.toNat_ofNat', chunkWord_eq]
  omega

/-- A chunk is read back from its word. -/
lemma IsChunk.wordBytes_eq (h : IsChunk chunk pads) :
    wordBytes (chunkWord chunk) pads = some chunk := by
  obtain ⟨-, h0, h1, h2⟩ := bytes_chunkWord chunk
  have hword := chunkWord_eq chunk
  unfold wordBytes
  rw [h0, h1, h2, and_255, and_65535]
  cases h with
  | one | two =>
    simp only [getD_cons_zero, getD_cons_succ, getD_nil, UInt8.toNat_zero] at hword
    rw [if_neg (by omega)]
    rfl
  | three => simp

/-- The bytes read from a word are a chunk with that word. -/
lemma isChunk_of_wordBytes (h : w < 16777216) (hpads : pads ≤ 2)
    (hout : wordBytes w pads = some out) : IsChunk out pads ∧ chunkWord out = w := by
  have hlow := and_255 w
  have hhalf := and_65535 w
  unfold wordBytes at hout
  split at hout
  · contradiction
  · cases hout
    rw [chunkWord_eq]
    match pads, hpads with
    | 0, _ | 1, _ | 2, _ =>
      refine ⟨by constructor, ?_⟩
      simp
      omega

/-! ## Quads -/

lemma IsChunk.decodeQuad_eq (h : IsChunk chunk pads) (hlast : 0 < pads → isLast = true) :
    decodeQuad isLast (encodeChunk chunk) = some chunk := by
  have hbytes := h.wordBytes_eq
  have hword := chunkWord_eq chunk
  rw [← quadWord_digits (bytes_chunkWord chunk).1] at hbytes
  cases h with
  | one b0 =>
    -- the word ends in sixteen zero bits
    have hlow : chunkWord [b0] % 64 = 0 := by simp [hword]; omega
    have hmid : chunkWord [b0] >>> 6 % 64 = 0 := by simp [hword]; omega
    rw [hlow, hmid] at hbytes
    simpa [decodeQuad, encodeChunk, decodeByte, hlast Nat.zero_lt_two] using hbytes
  | two b0 b1 =>
    have hlow : chunkWord [b0, b1] % 64 = 0 := by simp [hword]; omega
    rw [hlow] at hbytes
    simpa [decodeQuad, encodeChunk, decodeByte, hlast Nat.one_pos] using hbytes
  | three => simpa [decodeQuad, encodeChunk, decodeByte] using hbytes

/-- The bytes read from four symbols are encoded by these symbols. -/
lemma isChunk_of_quadWord (h0 : n0 < 64) (h1 : n1 < 64) (h2 : n2 < 64) (h3 : n3 < 64)
    (hpads : pads ≤ 2) (hlast : 0 < pads → isLast = true)
    (hout : wordBytes (quadWord [n0, n1, n2, n3]) pads = some out) :
    IsChunk out pads ∧ (0 < pads → isLast = true) ∧ encodeChunk out = [symbol n0, symbol n1,
      if pads < 2 then symbol n2 else pad, if pads < 1 then symbol n3 else pad] := by
  rw [quadWord_eq h1 h2 h3] at hout
  obtain ⟨hchunk, hword⟩ := isChunk_of_wordBytes (by omega) hpads hout
  have hs0 : symbol (chunkWord out >>> 18) = symbol n0 := symbol_congr (by omega)
  have hs1 : symbol (chunkWord out >>> 12) = symbol n1 := symbol_congr (by omega)
  have hs2 : symbol (chunkWord out >>> 6) = symbol n2 := symbol_congr (by omega)
  have hs3 : symbol (chunkWord out) = symbol n3 := symbol_congr (by omega)
  refine ⟨hchunk, hlast, ?_⟩
  cases hchunk <;> simp [encodeChunk, hs0, hs1, hs2, hs3]

lemma decodeByte_eq : decodeByte isLast (buf, pads) byte = some s ↔
    byte = pad ∧ ¬buf.length < 2 ∧ isLast = true ∧ s = (buf ++ [0], pads + 1) ∨
      pads = 0 ∧ ∃ n < 64, symbol n = byte ∧ s = (buf ++ [n], 0) := by
  unfold decodeByte
  by_cases hpad : byte = pad
  · simp [hpad, and_assoc, eq_comm (a := s)]
  · by_cases hpads : pads = 0
    · simp [hpad, hpads, decodeSymbol_eq, and_assoc, eq_comm (a := s)]
    · simp [hpad, hpads, Nat.pos_of_ne_zero]

/-- A quad that is accepted encodes what was read, and is the last if it is padded. -/
lemma isChunk_of_decodeQuad (h : decodeQuad isLast [c0, c1, c2, c3] = some out) :
    ∃ pads, IsChunk out pads ∧ (0 < pads → isLast = true) ∧ encodeChunk out = [c0, c1, c2, c3] := by
  obtain ⟨⟨buf, pads⟩, hfold, hbytes⟩ := Option.bind_eq_some_iff.mp h
  simp only [foldlM_cons, foldlM_nil, Option.bind_eq_bind, Option.bind_eq_some_iff,
    Prod.exists, decodeByte_eq] at hfold
  -- the first two bytes are symbols, the others symbols or padding
  obtain ⟨_, _, ⟨-, hshort, -⟩ | ⟨-, n0, h0, rfl, ⟨⟩⟩, hfold⟩ := hfold
  · contradiction
  obtain ⟨_, _, ⟨-, hshort, -⟩ | ⟨-, n1, h1, rfl, ⟨⟩⟩, hfold⟩ := hfold
  · exact absurd Nat.one_lt_two hshort
  obtain ⟨_, _, ⟨rfl, -, hlast, ⟨⟩⟩ | ⟨-, n2, h2, rfl, ⟨⟩⟩, _, _, hfourth, ⟨⟩⟩ := hfold
  · obtain ⟨rfl, -, -, ⟨⟩⟩ | ⟨hzero, -⟩ := hfourth
    · exact ⟨2, isChunk_of_quadWord h0 h1 (by decide) (by decide) (by decide) (fun _ => hlast)
        hbytes⟩
    · contradiction
  · obtain ⟨rfl, -, hlast, ⟨⟩⟩ | ⟨-, n3, h3, rfl, ⟨⟩⟩ := hfourth
    · exact ⟨1, isChunk_of_quadWord h0 h1 h2 (by decide) (by decide) (fun _ => hlast) hbytes⟩
    · exact ⟨0, isChunk_of_quadWord h0 h1 h2 h3 (by decide) nofun hbytes⟩

/-! ## Texts -/

section

variable {rest : List UInt8} (h : IsChunk chunk pads) (hrest : 0 < pads → rest = [])
include h hrest

lemma IsChunk.encode_append : encode (chunk ++ rest) = encodeChunk chunk ++ encode rest := by
  cases h with
  | one => rw [hrest Nat.zero_lt_two]; rfl
  | two => rw [hrest Nat.one_pos]; rfl
  | three => rfl

lemma IsChunk.decodeQuads_append :
    decodeQuads (encodeChunk chunk ++ rest) = (decodeQuads rest).map (chunk ++ ·) := by
  have hquad : decodeQuad rest.isEmpty (encodeChunk chunk) = some chunk :=
    h.decodeQuad_eq fun hpads => by rw [hrest hpads]; rfl
  unfold encodeChunk at hquad ⊢
  simp [decodeQuads, hquad, Option.map_eq_bind, Function.comp_def]

end

lemma decodeQuads_encode : ∀ bytes, decodeQuads (encode bytes) = some bytes
  | [] => rfl
  | [b0] => (IsChunk.one b0).decodeQuads_append fun _ => rfl
  | [b0, b1] => (IsChunk.two b0 b1).decodeQuads_append fun _ => rfl
  | b0 :: b1 :: b2 :: rest => by
    rw [encode, (IsChunk.three b0 b1 b2).decodeQuads_append nofun, decodeQuads_encode rest]
    rfl

lemma length_encode : ∀ bytes, (encode bytes).length % 4 = 0
  | [] => rfl
  | [_] | [_, _] => by simp [encode, encodeChunk]
  | b0 :: b1 :: b2 :: rest => by
    rw [encode, length_append]
    exact (Nat.add_mod_left 4 _).trans (length_encode rest)

lemma encode_of_decodeQuads (h : decodeQuads text = some bytes) (hlen : text.length % 4 = 0) :
    text = encode bytes := by
  fun_induction decodeQuads text generalizing bytes with
  | case1 c0 c1 c2 c3 rest ih =>
    obtain ⟨out, hout, h⟩ := Option.bind_eq_some_iff.mp h
    obtain ⟨more, hmore, ⟨⟩⟩ := Option.bind_eq_some_iff.mp h
    obtain ⟨pads, hchunk, hlast, hquad⟩ := isChunk_of_decodeQuad hout
    have hrest := ih hmore (by simp at hlen; omega)
    rw [hchunk.encode_append, hquad, ← hrest]
    · rfl
    · intro hpads
      rw [isEmpty_iff.mp (hlast hpads)] at hmore
      cases hmore
      rfl
  | case2 text hshort =>
    cases h
    match text, hlen with
    | [], _ => rfl
    | c0 :: c1 :: c2 :: c3 :: rest, _ => exact absurd rfl (hshort c0 c1 c2 c3 rest)

/-- The decoder accepts the encodings and nothing else, each as what was encoded. -/
theorem decode_eq_some_iff (text bytes : List UInt8) :
    decode text = some bytes ↔ text = encode bytes := by
  unfold decode
  constructor
  · intro h
    split at h
    · contradiction
    · next hlen => exact encode_of_decodeQuads h (not_not.mp hlen)
  · rintro rfl
    rw [if_neg (not_not.mpr (length_encode bytes)), decodeQuads_encode]

end D2b.Core.Base64

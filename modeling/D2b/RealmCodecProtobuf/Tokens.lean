import D2b.RealmCodecProtobuf.Codec

/-!
# D2b.RealmCodecProtobuf.Tokens

Capability numbers and the tokens they are carried as: every number has a
token, a number without a capability can be read back from its token, and a
negotiation whose unknown tokens all come from numbers survives the wire.
-/

namespace D2b

open Fallible List Option
open ProtocolToken
open CapabilitySet (fromTokens hexWord mem_known_fromTokens mem_unknown_fromTokens)

/-! ## texts of numbers -/

lemma utf8Size_of_isAsciiGraphic (h : isAsciiGraphic c = true) : c.utf8Size = 1 := by
  simp only [isAsciiGraphic, Bool.and_eq_true, decide_eq_true_eq] at h
  have hle : c.val ≤ 0x7f := UInt32.le_iff_toNat_le.mpr (Nat.le_trans h.2 (by decide))
  exact if_pos hle

lemma isAsciiGraphic_of_isDigit (h : c.isDigit = true) : isAsciiGraphic c = true := by
  simp only [Char.isDigit, Bool.and_eq_true, decide_eq_true_eq] at h
  have hlow : (48 : UInt32).toNat ≤ c.toNat := UInt32.le_iff_toNat_le.mp h.1
  have hhigh : c.toNat ≤ (57 : UInt32).toNat := UInt32.le_iff_toNat_le.mp h.2
  have h48 : (48 : UInt32).toNat = 48 := rfl
  have h57 : (57 : UInt32).toNat = 57 := rfl
  simp only [isAsciiGraphic, Bool.and_eq_true, decide_eq_true_eq]
  omega

/-- A text of printable characters that is not too long is a token. -/
lemma parse_eq_ok_of_graphic (hne : raw ≠ "")
    (hgraphic : ∀ c ∈ raw.toList, isAsciiGraphic c = true)
    (hlen : raw.toList.length ≤ maxProtocolTokenLen) :
    ∃ t, parse raw = .ok t ∧ t.asStr = raw := by
  have hsize : raw.utf8ByteSize = raw.toList.length := by
    rw [← Text.utf8Len_of_one fun c hc => utf8Size_of_isAsciiGraphic (hgraphic c hc),
      ← String.utf8ByteSize_ofList, String.ofList_toList]
  have hall : raw.toList.all isAsciiGraphic = true := all_eq_true.mpr hgraphic
  exact ⟨⟨raw, hne, by omega, hall⟩, parse_asStr ⟨raw, hne, by omega, hall⟩, rfl⟩

/-- So is one after such a beginning. -/
lemma parse_append_of_graphic {front : String} (hne : front ≠ "")
    (hfront : front.toList.all isAsciiGraphic = true)
    (hgraphic : ∀ c ∈ raw.toList, isAsciiGraphic c = true)
    (hlen : front.toList.length + raw.toList.length ≤ maxProtocolTokenLen) :
    ∃ t, parse (front ++ raw) = .ok t ∧ t.asStr = front ++ raw := by
  apply parse_eq_ok_of_graphic
  · exact fun hempty => hne (String.append_eq_empty_iff.mp hempty).1
  · rw [String.toList_append]
    exact forall_mem_append.mpr ⟨all_eq_true.mp hfront, hgraphic⟩
  · rwa [String.toList_append, length_append]

section

variable (raw : Int32)

/-- The text of an `i32`: an optional sign and at most ten digits. -/
lemma toString_toInt : ∃ n : Nat, n ≤ 2 ^ 31 ∧
    ((toString raw.toInt = toString n ∧ n < 2 ^ 31 ∧ raw.toInt = n) ∨
      (toString raw.toInt = "-" ++ toString n ∧ raw.toInt = -n)) := by
  have hlow := Int32.le_toInt raw
  have hhigh := Int32.toInt_lt raw
  cases hint : raw.toInt with
  | ofNat n =>
    have hlt : n < 2 ^ 31 := by rw [hint] at hhigh; exact Int.ofNat_lt.mp hhigh
    exact ⟨n, Nat.le_of_lt hlt, .inl ⟨rfl, hlt, rfl⟩⟩
  | negSucc n =>
    refine ⟨n + 1, ?_, .inr ⟨rfl, rfl⟩⟩
    simp only [hint] at hlow
    omega

/-- The text of an `i32` is printable and has at most eleven characters. -/
lemma graphic_toString : (∀ c ∈ (toString raw.toInt).toList, isAsciiGraphic c = true) ∧
      (toString raw.toInt).toList.length ≤ 11 := by
  obtain ⟨n, hle, htext⟩ := toString_toInt raw
  have hdigit : ∀ c ∈ (toString n).toList, isAsciiGraphic c = true := fun c hc =>
    isAsciiGraphic_of_isDigit (Text.isDigit_of_mem_toString hc)
  have hlen : (toString n).toList.length ≤ 10 := by
    rw [Nat.toString_eq_ofList_toDigits, String.toList_ofList]
    exact (Nat.length_toDigits_le_iff (by decide) (by decide)).mpr (by omega)
  rcases htext with ⟨htext, -, -⟩ | ⟨htext, -⟩
  · rw [htext]
    exact ⟨hdigit, by omega⟩
  · have hsign : ("-" : String).toList = ['-'] := rfl
    rw [htext, String.toList_append, hsign, length_append, length_singleton]
    have hminus : ∀ c ∈ ['-'], isAsciiGraphic c = true := forall_mem_singleton.mpr (by decide)
    exact ⟨forall_mem_append.mpr ⟨hminus, hdigit⟩, by omega⟩

lemma parseDigits_toString (n : Nat) : parseDigits (toString n).toList = some n := by
  have hdigit : ∀ c ∈ (toString n).toList, c.isDigit = true := fun c => Text.isDigit_of_mem_toString
  have hchars : (toString n).toList = Nat.toDigits 10 n := by
    rw [Nat.toString_eq_ofList_toDigits, String.toList_ofList]
  have hne : (toString n).toList ≠ [] := by
    rw [hchars]
    exact Nat.toDigits_ne_nil
  unfold parseDigits
  rw [if_pos ⟨hne, all_eq_true.mpr hdigit⟩, hchars, Nat.ofDigitChars_ten_toDigits]

lemma parseI32_toString : parseI32 (toString raw.toInt).toList = some raw := by
  obtain ⟨n, hle, ⟨htext, hlt, hint⟩ | ⟨htext, hint⟩⟩ := toString_toInt raw
  · have hparse := parseDigits_toString n
    have hdigit : ∀ c ∈ (toString n).toList, c.isDigit = true := fun c =>
      Text.isDigit_of_mem_toString
    rw [htext]
    unfold parseI32
    split
    · next digits hcons => exact absurd (hdigit '-' (hcons ▸ mem_cons_self)) (by decide)
    · next digits hcons => exact absurd (hdigit '+' (hcons ▸ mem_cons_self)) (by decide)
    · rw [hparse, bind_eq_bind, bind_some, if_pos hlt, ← hint, Int32.ofInt_toInt]
  · have hparse := parseDigits_toString n
    rw [htext, String.toList_append]
    change (parseDigits (toString n).toList >>= _) = _
    rw [hparse, bind_eq_bind, bind_some, if_pos hle, ← hint, Int32.ofInt_toInt]

/-! ## tokens of numbers -/

def rawText : String :=
  match decodeCapability raw with
  | some capability => capability.code
  | none => unknownPrefix ++ toString raw.toInt

lemma fromCode_unknown (s : String) : Capability.fromCode (unknownPrefix ++ s) = none := by
  cases h : Capability.fromCode (unknownPrefix ++ s) with
  | none => rfl
  | some c =>
    have hcode := congrArg String.toList (Capability.fromCode_eq_some h)
    have hpre : unknownPrefix.toList <+: c.code.toList :=
      ⟨s.toList, by rw [← hcode, String.toList_append]⟩
    rw [← List.isPrefixOf_iff_prefix] at hpre
    cases c <;> exact absurd hpre (by decide)

lemma parse_code (c : Capability) : ∃ t, parse c.code = .ok t ∧ t.asStr = c.code := by
  have hall : c.code.toList.all isAsciiGraphic = true := by cases c <;> decide
  refine parse_eq_ok_of_graphic ?_ (all_eq_true.mp hall) ?_ <;> cases c <;> decide

lemma parse_unknown : ∃ t, parse (unknownPrefix ++ toString raw.toInt) = .ok t ∧
      t.asStr = unknownPrefix ++ toString raw.toInt := by
  obtain ⟨hgraphic, hlen⟩ := graphic_toString raw
  refine parse_append_of_graphic (by decide) (by decide) hgraphic ?_
  have hstart : unknownPrefix.toList.length = 28 := by decide
  rw [hstart]
  unfold maxProtocolTokenLen
  omega

/-- Every number has a token. -/
lemma tokenOfRaw_eq_ok : ∃ t, tokenOfRaw raw = .ok t ∧ t.asStr = rawText raw := by
  unfold tokenOfRaw rawText
  cases hcap : decodeCapability raw with
  | some c =>
    obtain ⟨t, hparse, ht⟩ := parse_code c
    exact ⟨t, by simp only [hparse, Except.mapError], ht⟩
  | none =>
    obtain ⟨t, hparse, ht⟩ := parse_unknown raw
    exact ⟨t, by simp only [hparse, Except.mapError], ht⟩

end

/-- A token made from a number gives the number back. -/
lemma rawOfToken_of_eq (h : t.asStr = unknownPrefix ++ toString raw.toInt) :
    rawOfToken t = some raw := by
  have hfront : unknownPrefix.toList.isPrefixOf? t.asStr.toList =
      some (toString raw.toInt).toList := by
    rw [isPrefixOf?_eq_some_iff_append_eq, h, String.toList_append]
  unfold rawOfToken
  rw [hfront, bind_eq_bind, bind_some, parseI32_toString]

lemma fromCode_rawText (raw : Int32) :
    Capability.fromCode (rawText raw) = decodeCapability raw := by
  unfold rawText
  cases decodeCapability raw with
  | some c => exact Capability.fromCode_code c
  | none => exact fromCode_unknown _

/-! ## negotiations -/

lemma mem_dedup : r ∈ dedup l ↔ r ∈ l := by
  fun_induction dedup l with
  | case1 b rest ih => simp [ih]
  | case2 a b rest hne ih => simp [ih]
  | case3 l h => rfl

lemma isAsciiGraphic_digitChar : ∀ d < 16, isAsciiGraphic (Nat.digitChar d) = true := by decide

/-- The sixteen digits of a word are printable. -/
lemma graphic_hexWord (word : UInt64) :
    (∀ c ∈ (hexWord word).toList, isAsciiGraphic c = true) ∧ (hexWord word).toList.length = 16 := by
  have hdigits := Text.forall_mem_toDigits (P := fun c => isAsciiGraphic c = true) (by decide)
    isAsciiGraphic_digitChar word.toNat
  have hlen : (Nat.toDigits 16 word.toNat).length ≤ 16 :=
    (Nat.length_toDigits_le_iff (by decide) (by decide)).mpr (Nat.lt_of_lt_of_eq word.toNat_lt rfl)
  unfold hexWord
  rw [String.toList_ofList, length_append, length_replicate]
  refine ⟨forall_mem_append.mpr ⟨fun c hc => ?_, hdigits⟩, by omega⟩
  rw [eq_of_mem_replicate hc]
  decide

/-- A fingerprint is a token. -/
lemma parse_stableFingerprint (s : CapabilitySet) :
    ∃ t, parse s.stableFingerprint = .ok t ∧ t.asStr = s.stableFingerprint := by
  obtain ⟨word, hword⟩ : ∃ word, s.stableFingerprint = "cap-v1-" ++ hexWord word := ⟨_, rfl⟩
  obtain ⟨hgraphic, hlen⟩ := graphic_hexWord word
  rw [hword]
  refine parse_append_of_graphic (by decide) (by decide) hgraphic ?_
  rw [hlen]
  decide

/-- A negotiation that the wire can carry: the version and the fingerprint are
the ones the decoder computes, and every unknown token comes from a number. -/
def CapabilityNegotiation.Canonical (n : CapabilityNegotiation) : Prop :=
  n.schemaVersion.toNat = CapabilitySet.capabilityNegotiationSchemaVersion ∧
    n.fingerprint = n.capabilities.stableFingerprint ∧
    ∀ t ∈ n.capabilities.unknown, ∃ raw, decodeCapability raw = none ∧
      t.asStr = unknownPrefix ++ toString raw.toInt

/-- The tokens of some numbers make the set of their capabilities and of the
tokens of the other numbers. -/
lemma fromTokens_of_raws {raws : List Int32} (h : raws.mapM tokenOfRaw = .ok tokens) :
    (∀ c, c ∈ (fromTokens tokens).known ↔ ∃ raw ∈ raws, decodeCapability raw = some c) ∧
    (∀ t, t ∈ (fromTokens tokens).unknown ↔ ∃ raw ∈ raws,
      decodeCapability raw = none ∧ t.asStr = unknownPrefix ++ toString raw.toInt) := by
  have hmem : ∀ t, t ∈ tokens ↔ ∃ raw ∈ raws, t.asStr = rawText raw := by
    intro t
    rw [mem_of_mapM_eq_ok h]
    refine exists_congr fun raw => and_congr_right fun _ => ?_
    obtain ⟨t', htoken, ht'⟩ := tokenOfRaw_eq_ok raw
    rw [htoken, ← ht', Except.ok.injEq]
    exact ⟨fun heq => heq ▸ rfl, fun heq => asStr_injective heq.symm⟩
  constructor
  · intro c
    rw [mem_known_fromTokens]
    constructor
    · rintro ⟨t, ht, hcode⟩
      obtain ⟨raw, hraw, htext⟩ := (hmem t).mp ht
      rw [htext, fromCode_rawText] at hcode
      exact ⟨raw, hraw, hcode⟩
    · rintro ⟨raw, hraw, hcap⟩
      obtain ⟨t, -, htext⟩ := tokenOfRaw_eq_ok raw
      exact ⟨t, (hmem t).mpr ⟨raw, hraw, htext⟩, by rw [htext, fromCode_rawText, hcap]⟩
  · intro t
    rw [mem_unknown_fromTokens, hmem]
    constructor
    · rintro ⟨⟨raw, hraw, htext⟩, hcode⟩
      rw [htext, fromCode_rawText] at hcode
      exact ⟨raw, hraw, hcode, by rw [htext, rawText, hcode]⟩
    · rintro ⟨raw, hraw, hcap, htext⟩
      have hself : t.asStr = rawText raw := by rw [htext, rawText, hcap]
      exact ⟨⟨raw, hraw, hself⟩, by rw [hself, fromCode_rawText, hcap]⟩

/-- What is decoded is canonical. -/
lemma decodeCapabilityNegotiation_canonical {raws : List Int32}
    (h : decodeCapabilityNegotiation raws version fingerprint = .ok n) : n.Canonical := by
  simp only [decodeCapabilityNegotiation, bind_eq_ok, failIf_eq_ok] at h
  obtain ⟨_, -, tokens, htokens, _, hversion, _, -, hn⟩ := h
  cases hn
  refine ⟨not_not.mp hversion, rfl, ?_⟩
  intro t ht
  obtain ⟨raw, -, hraw⟩ := ((fromTokens_of_raws htokens).2 t).mp ht
  exact ⟨raw, hraw⟩

/-- The numbers of a set: those of its capabilities and of its unknown tokens. -/
def wireRaws (s : CapabilitySet) (known : List Int32) : List Int32 :=
  dedup ((known ++ s.unknownIter.filterMap rawOfToken).mergeSort (· ≤ ·))

lemma decode_encodeCapability (c : Capability) :
    ∃ raw, encodeCapability c = .ok raw ∧ decodeCapability raw = some c := by
  cases c <;> exact ⟨_, rfl, rfl⟩

/-- The numbers of a set whose unknown tokens come from numbers decode to it. -/
lemma fromTokens_wireRaws {s : CapabilitySet} (hknown : s.iter.mapM encodeCapability = .ok known)
    (hunknown : ∀ t ∈ s.unknown, ∃ raw, decodeCapability raw = none ∧
      t.asStr = unknownPrefix ++ toString raw.toInt)
    (htokens : (wireRaws s known).mapM tokenOfRaw = .ok tokens) :
    fromTokens tokens = s := by
  have hmem : ∀ raw, raw ∈ wireRaws s known ↔
      (∃ c ∈ s.known, encodeCapability c = .ok raw) ∨ ∃ t ∈ s.unknown, rawOfToken t = some raw := by
    intro raw
    rw [wireRaws, mem_dedup, mem_mergeSort, mem_append, mem_of_mapM_eq_ok hknown]
    simp
  obtain ⟨hk, hu⟩ := fromTokens_of_raws htokens
  have hcaps : (fromTokens tokens).known = s.known := by
    ext c
    rw [hk c]
    constructor
    · rintro ⟨raw, hraw, hcap⟩
      rcases (hmem raw).mp hraw with ⟨d, hd, henc⟩ | ⟨t, ht, hraw'⟩
      · obtain ⟨raw', henc', hdec⟩ := decode_encodeCapability d
        cases henc.symm.trans henc'
        cases hcap.symm.trans hdec
        exact hd
      · obtain ⟨raw', hnone, htext⟩ := hunknown t ht
        cases (rawOfToken_of_eq htext).symm.trans hraw'
        simp [hcap] at hnone
    · intro hc
      obtain ⟨raw, henc, hdec⟩ := decode_encodeCapability c
      exact ⟨raw, (hmem raw).mpr (.inl ⟨c, hc, henc⟩), hdec⟩
  have htoks : (fromTokens tokens).unknown = s.unknown := by
    ext t
    rw [hu t]
    constructor
    · rintro ⟨raw, hraw, hnone, htext⟩
      rcases (hmem raw).mp hraw with ⟨d, hd, henc⟩ | ⟨t', ht', hraw'⟩
      · obtain ⟨raw', henc', hdec⟩ := decode_encodeCapability d
        cases henc.symm.trans henc'
        simp [hdec] at hnone
      · obtain ⟨raw', -, htext'⟩ := hunknown t' ht'
        cases (rawOfToken_of_eq htext').symm.trans hraw'
        rwa [asStr_injective (htext.trans htext'.symm)]
    · intro ht
      obtain ⟨raw, hnone, htext⟩ := hunknown t ht
      exact ⟨raw, (hmem raw).mpr (.inr ⟨t, ht, rawOfToken_of_eq htext⟩), hnone, htext⟩
  calc fromTokens tokens
      = ⟨(fromTokens tokens).known, (fromTokens tokens).unknown⟩ := rfl
    _ = s := by rw [hcaps, htoks]

/-- A canonical negotiation survives the wire. -/
lemma decodeCapabilityNegotiation_wireRaws (h : n.Canonical)
    (hknown : n.capabilities.iter.mapM encodeCapability = .ok known) :
    decodeCapabilityNegotiation (wireRaws n.capabilities known) n.schemaVersion n.fingerprint =
      .ok n := by
  obtain ⟨hversion, hfingerprint, hunknown⟩ := h
  obtain ⟨token, hparse, htoken⟩ := parse_stableFingerprint n.capabilities
  obtain ⟨tokens, htokens⟩ := exists_mapM_eq_ok (f := tokenOfRaw)
    (fun raw => (tokenOfRaw_eq_ok raw).imp fun _ => And.left) (wireRaws n.capabilities known)
  have hset := fromTokens_wireRaws hknown hunknown htokens
  simp only [decodeCapabilityNegotiation, bind_eq_ok, failIf_eq_ok]
  refine ⟨token, by simp [parseProtocolToken, hfingerprint, hparse, Except.mapError], tokens,
    htokens, (), not_not.mpr hversion, (), by simp [hset, htoken], ?_⟩
  rw [hset, ← hfingerprint]
  rfl

end D2b

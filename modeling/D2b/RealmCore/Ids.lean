import D2b.Lib.Text

/-!
# D2b.RealmCore.Ids

Identifiers of the realm model (`ids.rs`, `token.rs`).

Every id newtype of the source is a string that its `parse` accepted; the
newtypes differ only in the shape they check (`is_label` or
`is_opaque_token`).  They are one family here, `Id k`, indexed by the newtype
`k`: a value carries the proof that `parse` accepts its string, so a malformed
id cannot be built, and ids of different newtypes do not mix.
-/

namespace D2b

open List

/-! ## token shapes -/

/-- Maximum length for any identifier token, in bytes. -/
def maxIdLen : Nat := 128

/-- Substrings an opaque token may not hold once separators are dropped. -/
def secretMarkers : List String :=
  ["secret", "password", "passwd", "bearer", "credential", "private", "apikey", "token",
    "privatekey", "accesstoken", "refreshtoken", "sessiontoken"]

/-- The separators an opaque token may use after its first character. -/
def isSeparator (c : Char) : Bool := c == '-' || c == '_' || c == '.'

/-- `str::contains` on character lists. -/
def containsChars (s marker : List Char) : Bool := decide (marker <:+: s)

/-- The d2b lowercase label shape `^[a-z][a-z0-9-]*$`. -/
def isLabel (s : String) : Bool :=
  match s.toList with
  | [] => false
  | c :: cs => c.isLower && cs.all fun c => c.isLower || c.isDigit || c == '-'

/-- A token without its separators, in lower case. -/
def compact (s : String) : List Char := (s.toList.filter fun c => !isSeparator c).map Char.toLower

/-- A non-empty opaque token safe for audit and log metadata. -/
def isOpaqueToken (s : String) : Bool :=
  match s.toList with
  | [] => false
  | first :: rest =>
    first.isAlphanum
      && (first :: rest).all (fun c => c.isAlphanum || isSeparator c)
      && !containsChars (first :: rest) ['.', '.']
      && !secretMarkers.any fun marker => containsChars (compact s) marker.toList

/-! ## tokens put together -/

lemma isOpaqueToken_iff :
    isOpaqueToken s = true ↔
      (∃ first rest, s.toList = first :: rest ∧ first.isAlphanum = true) ∧
      (∀ c ∈ s.toList, (c.isAlphanum || isSeparator c) = true) ∧
      ¬['.', '.'] <:+: s.toList ∧
      ∀ marker ∈ secretMarkers, ¬marker.toList <:+: compact s := by
  unfold isOpaqueToken
  cases hs : s.toList with
  | nil => simp
  | cons first rest =>
    simp only [containsChars, Bool.and_eq_true, Bool.not_eq_true', any_eq_false,
      all_eq_true, decide_eq_true_eq, decide_eq_false_iff_not, cons.injEq, and_assoc]
    constructor
    · rintro ⟨hfirst, hrest⟩
      exact ⟨⟨first, rest, rfl, rfl, hfirst⟩, hrest⟩
    · rintro ⟨⟨_, _, rfl, rfl, hfirst⟩, hrest⟩
      exact ⟨hfirst, hrest⟩

lemma compact_append : compact (a ++ b) = compact a ++ compact b := by
  simp [compact]

/-- Two texts make a token when the first is one, the characters of the other
are allowed, and nothing forbidden lies in the two together. -/
lemma isOpaqueToken_append (ha : isOpaqueToken a = true)
    (hb : ∀ c ∈ b.toList, (c.isAlphanum || isSeparator c) = true)
    (hdots : ¬['.', '.'] <:+: a.toList ++ b.toList)
    (hmark : ∀ marker ∈ secretMarkers, ¬marker.toList <:+: compact a ++ compact b) :
    isOpaqueToken (a ++ b) = true := by
  obtain ⟨⟨first, rest, hs, hfirst⟩, hall, -, -⟩ := isOpaqueToken_iff.mp ha
  rw [isOpaqueToken_iff, String.toList_append, compact_append]
  exact ⟨⟨first, rest ++ b.toList, by rw [hs]; rfl, hfirst⟩,
    forall_mem_append.mpr ⟨hall, hb⟩, hdots, hmark⟩

lemma compact_of_isDigit (h : ∀ c ∈ s.toList, c.isDigit = true) : compact s = s.toList := by
  have hkeep : s.toList.filter (fun c => !isSeparator c) = s.toList := by
    rw [filter_eq_self]
    intro c hc
    have hdigit := h c hc
    by_cases hsep : isSeparator c = true
    · simp only [isSeparator, Bool.or_eq_true, beq_iff_eq] at hsep
      rcases hsep with (rfl | rfl) | rfl <;> contradiction
    · simpa using hsep
  have hlower : s.toList.map Char.toLower = s.toList.map id :=
    map_congr_left fun c hc => Text.toLower_of_isDigit (h c hc)
  unfold compact
  rw [hkeep, hlower, map_id]

/-- No marker has a digit. -/
lemma secretMarkers_not_isDigit :
    ∀ marker ∈ secretMarkers, marker.toList ≠ [] ∧ ∀ c ∈ marker.toList, c.isDigit = false := by
  have hall : (secretMarkers.all fun marker =>
      !marker.toList.isEmpty && marker.toList.all fun c => !c.isDigit) = true := by decide
  intro marker hmarker
  have hmark := all_eq_true.mp hall marker hmarker
  simp only [Bool.and_eq_true, Bool.not_eq_eq_eq_not, Bool.not_true, isEmpty_eq_false_iff,
    all_eq_true] at hmark
  exact hmark

/-- A number after a token is a token. -/
lemma isOpaqueToken_append_nat (ha : isOpaqueToken a = true) (n : Nat) :
    isOpaqueToken (a ++ toString n) = true := by
  have hdigit : ∀ c ∈ (toString n).toList, c.isDigit = true := fun c => Text.isDigit_of_mem_toString
  obtain ⟨-, -, hdots, hmark⟩ := isOpaqueToken_iff.mp ha
  apply isOpaqueToken_append ha
  · intro c hc
    simp [Char.isAlphanum, hdigit c hc]
  · intro h
    refine hdots (Text.infix_of_infix_append (by simp) ?_ h)
    intro c hc hmem
    have hdot : c = '.' := by simpa using hc
    subst hdot
    exact absurd (hdigit _ hmem) (by decide)
  · intro marker hmarker h
    obtain ⟨hne, hnot⟩ := secretMarkers_not_isDigit marker hmarker
    rw [compact_of_isDigit hdigit] at h
    refine hmark marker hmarker (Text.infix_of_infix_append hne ?_ h)
    intro c hc hmem
    exact absurd (hdigit c hmem) (by simp [hnot c hc])

/-- A token after a token is a token, if the first ends neither in a dot nor in
the start of a marker. -/
lemma isOpaqueToken_append_token (ha : isOpaqueToken a = true) (hb : isOpaqueToken b = true)
    (hdot : ¬['.'] <:+ a.toList)
    (hstart : ∀ marker ∈ secretMarkers, ∀ l ∈ marker.toList.inits, l ≠ [] → ¬l <:+ compact a) :
    isOpaqueToken (a ++ b) = true := by
  obtain ⟨-, -, hdotsA, hmarkA⟩ := isOpaqueToken_iff.mp ha
  obtain ⟨-, hallB, hdotsB, hmarkB⟩ := isOpaqueToken_iff.mp hb
  apply isOpaqueToken_append ha hallB
  · intro h
    rcases Text.infix_append h with h | h | ⟨l, r, hl, hr, heq, hsuffix, -⟩
    · exact hdotsA h
    · exact hdotsB h
    · have hone : l = ['.'] := by
        rcases cons_eq_append_iff.mp heq with ⟨rfl, -⟩ | ⟨l', rfl, hrest⟩
        · contradiction
        · rcases cons_eq_append_iff.mp hrest with ⟨rfl, -⟩ | ⟨l'', -, hnil⟩
          · rfl
          · exact absurd (append_eq_nil_iff.mp hnil.symm).2 hr
      exact hdot (hone ▸ hsuffix)
  · intro marker hmarker h
    rcases Text.infix_append h with h | h | ⟨l, r, hl, -, heq, hsuffix, -⟩
    · exact hmarkA marker hmarker h
    · exact hmarkB marker hmarker h
    · exact hstart marker hmarker l (mem_inits _ _ |>.mpr ⟨r, heq.symm⟩) hl hsuffix

/-! ## the id newtypes -/

inductive IdKind where
  | realm | node | workload | provider
  | gateway | execution | stream | streamCursor | principal | operation | idempotencyKey
  | route | correlation | controllerGeneration | realmIdentityRef
  | controllerGenerationCredentialRef | keyRotation | revocationList | recoveryProcedure
  | allocatorLease | hostResource | enrollment | revocation
deriving DecidableEq

/-- The shape check each newtype is declared with. -/
def IdKind.validate : IdKind → String → Bool
  | .realm | .node | .workload | .provider => isLabel
  | _ => isOpaqueToken

/-- Reason an identifier failed validation. -/
inductive IdError where
  | empty | tooLong | badShape
deriving DecidableEq

def IdError.display : IdError → String
  | empty => "identifier is empty"
  | tooLong => "identifier exceeds " ++ toString maxIdLen ++ " bytes"
  | badShape => "identifier has an invalid shape"

/-- The checks of `parse`, in its order. -/
def idError? (k : IdKind) (s : String) : Option IdError :=
  if s.isEmpty then some .empty
  else if s.utf8ByteSize > maxIdLen then some .tooLong
  else if !k.validate s then some .badShape
  else none

/-- A newtype that checks for an opaque token takes the tokens that are not too long. -/
lemma idError?_eq_none_iff (hk : k.validate = isOpaqueToken) :
    idError? k s = none ↔ isOpaqueToken s = true ∧ s.utf8ByteSize ≤ maxIdLen := by
  unfold idError?
  rw [hk]
  by_cases hempty : s.isEmpty = true
  · have hnot : isOpaqueToken s = false := by
      rw [String.isEmpty_iff.mp hempty]
      decide
    simp [hempty, hnot]
  · by_cases hlong : s.utf8ByteSize > maxIdLen
    · simp [hempty, hlong]
    · cases htoken : isOpaqueToken s <;> simp [hempty, hlong, Nat.le_of_not_lt hlong]

structure Id (k : IdKind) where
  asStr : String
  valid : idError? k asStr = none

namespace Id

variable {k : IdKind}

/-- Validate and construct; malformed input is refused. -/
def parse (k : IdKind) (raw : String) : Except IdError (Id k) :=
  match h : idError? k raw with
  | some e => .error e
  | none => .ok ⟨raw, h⟩

lemma asStr_injective : Function.Injective (asStr : Id k → String) := by
  rintro ⟨a, ha⟩ ⟨b, hb⟩ (rfl : a = b)
  rfl

lemma parse_of_valid (h : idError? k raw = none) : parse k raw = .ok ⟨raw, h⟩ := by
  unfold parse
  split
  · next e he => rw [h] at he; contradiction
  · rfl

@[simp] lemma parse_asStr (id : Id k) : parse k id.asStr = .ok id := parse_of_valid id.valid

/-- Ids are ordered as their strings are. -/
instance : LinearOrder (Id k) := LinearOrder.lift' asStr asStr_injective

instance : Std.TransCmp (compare : Id k → Id k → Ordering) := inferInstance

lemma parse_isOk : (∃ id, parse k raw = .ok id) ↔ idError? k raw = none := by
  unfold parse
  split
  · next e' h => simp [h]
  · next h => simp [h]

end Id

abbrev RealmId := Id .realm
abbrev NodeId := Id .node
abbrev WorkloadId := Id .workload
abbrev ProviderId := Id .provider
abbrev StreamId := Id .stream
abbrev StreamCursor := Id .streamCursor
abbrev PrincipalId := Id .principal
abbrev OperationId := Id .operation
abbrev IdempotencyKey := Id .idempotencyKey
abbrev RouteId := Id .route
abbrev CorrelationId := Id .correlation
abbrev ControllerGenerationId := Id .controllerGeneration
abbrev RealmIdentityRef := Id .realmIdentityRef
abbrev ControllerGenerationCredentialRef := Id .controllerGenerationCredentialRef
abbrev KeyRotationId := Id .keyRotation
abbrev RevocationListId := Id .revocationList
abbrev RecoveryProcedureId := Id .recoveryProcedure
abbrev AllocatorLeaseId := Id .allocatorLease
abbrev HostResourceId := Id .hostResource
abbrev EnrollmentId := Id .enrollment
abbrev RevocationId := Id .revocation

/-! ## protocol tokens -/

def maxProtocolTokenLen : Nat := 64

/-- `char::is_ascii_graphic`. -/
def isAsciiGraphic (c : Char) : Bool := decide (0x21 ≤ c.toNat) && decide (c.toNat ≤ 0x7e)

/-- A bounded, non-empty, printable-ASCII protocol token. -/
structure ProtocolToken where
  asStr : String
  valid : asStr ≠ "" ∧ asStr.utf8ByteSize ≤ maxProtocolTokenLen ∧
    asStr.toList.all isAsciiGraphic = true

namespace ProtocolToken

lemma asStr_injective : Function.Injective asStr := by
  rintro ⟨a, ha⟩ ⟨b, hb⟩ (rfl : a = b)
  rfl

instance : LinearOrder ProtocolToken := LinearOrder.lift' asStr asStr_injective

end ProtocolToken

/-- Reason a `ProtocolToken` failed validation. -/
inductive TokenError where
  | empty | tooLong | badShape
deriving DecidableEq

def TokenError.display : TokenError → String
  | empty => "protocol token is empty"
  | tooLong => "protocol token exceeds " ++ toString maxProtocolTokenLen ++ " bytes"
  | badShape => "protocol token has an invalid shape"

namespace ProtocolToken

/-- Validate and construct; malformed input is refused. -/
def parse (raw : String) : Except TokenError ProtocolToken :=
  if hempty : raw = "" then .error .empty
  else if hlong : raw.utf8ByteSize > maxProtocolTokenLen then .error .tooLong
  else if hshape : raw.toList.all isAsciiGraphic = true then
    .ok ⟨raw, hempty, Nat.le_of_not_lt hlong, hshape⟩
  else .error .badShape

@[simp] lemma parse_asStr (token : ProtocolToken) : parse token.asStr = .ok token := by
  obtain ⟨hempty, hlong, hshape⟩ := token.valid
  unfold parse
  rw [dif_neg hempty, dif_neg (Nat.not_lt.mpr hlong), dif_pos hshape]

end ProtocolToken

end D2b

import D2b.Lib.Protobuf.Schema
import D2b.Lib.Reader

/-!
# D2b.Contracts.GuestAuth

The transcript of guest-control authentication (`guest_auth.rs`), shared by the
guest and the host.

Each field is written with its tag and its length, so a transcript determines
its fields (`encodeTranscript_injective`).  The length is cut to 32 bits, which
is why a bound on the whole is needed; transcripts of different roles differ
without it.
-/

namespace D2b.Contracts

open Protobuf.ValueCodec List
open Reader

def authNonceLen : Nat := 32
def authTagLen : Nat := 32

/-- `[u8; AUTH_NONCE_LEN]`. -/
abbrev Nonce := { bytes : List UInt8 // bytes.length = authNonceLen }

inductive AuthDirection where
  | hostToGuest
deriving DecidableEq

inductive AuthPurpose where
  | guestControlAuthV1
deriving DecidableEq

inductive ProofRole where
  | host | guest
deriving DecidableEq

def AuthDirection.label : AuthDirection → List UInt8
  | .hostToGuest => textBytes "host-to-guest"

def AuthPurpose.label : AuthPurpose → List UInt8
  | .guestControlAuthV1 => textBytes "guest-control-auth-v1"

def ProofRole.label : ProofRole → List UInt8
  | .host => textBytes "host-proof"
  | .guest => textBytes "guest-proof"

@[ext]
structure GuestAuthTranscript where
  role : ProofRole
  direction : AuthDirection
  purpose : AuthPurpose
  vmId : String
  protocolVersion : UInt32
  guestControlPort : UInt32
  peerCid : Option UInt32
  hostNonce : Nonce
  guestNonce : Nonce
  guestBootId : String
  capabilitiesHash : Option (List UInt8)
deriving DecidableEq

/-- The lowest 32 bits, highest byte first (`to_be_bytes`). -/
def toBeBytes (n : Nat) : List UInt8 := (leBytes 4 n).reverse

def pushField (tag : UInt8) (value : List UInt8) : List UInt8 :=
  tag :: (toBeBytes value.length ++ value)

/-- A field that may be left out. -/
def pushOptional (tag : UInt8) : Option (List UInt8) → List UInt8
  | some value => pushField tag value
  | none => []

def encodeTranscript (t : GuestAuthTranscript) : List UInt8 :=
  pushField 1 (textBytes "guest-control-auth-v1") ++
    (pushField 2 t.role.label ++
    (pushField 3 t.direction.label ++
    (pushField 4 t.purpose.label ++
    (pushField 5 (textBytes t.vmId) ++
    (pushField 6 (toBeBytes t.protocolVersion.toNat) ++
    (pushField 7 (toBeBytes t.guestControlPort.toNat) ++
    (pushOptional 8 (t.peerCid.map fun cid => toBeBytes cid.toNat) ++
    (pushField 10 t.hostNonce.1 ++
    (pushField 11 t.guestNonce.1 ++
    (pushField 12 (textBytes t.guestBootId) ++
    pushOptional 13 t.capabilitiesHash))))))))))

/-! ## fields -/

@[simp] lemma length_toBeBytes : (toBeBytes n).length = 4 := by simp [toBeBytes]

lemma toBeBytes_inj (hm : m < 2 ^ 32) (hn : n < 2 ^ 32) (h : toBeBytes m = toBeBytes n) :
    m = n := by
  have hrev : leBytes 4 m = leBytes 4 n := reverse_injective h
  have hm' : ofLeBytes (leBytes 4 m) = m := ofLeBytes_leBytes hm
  rw [← hm', hrev]
  exact ofLeBytes_leBytes hn

lemma toBeBytes_toNat_inj {n : UInt32} (h : toBeBytes m.toNat = toBeBytes n.toNat) : m = n :=
  UInt32.toNat_inj.mp (toBeBytes_inj m.toNat_lt n.toNat_lt h)

lemma textBytes_injective : Function.Injective textBytes := by
  intro s t h
  have hs := textOfBytes_textBytes s
  rw [h, textOfBytes_textBytes] at hs
  exact (Option.some.inj hs).symm

/-- A field with what follows it, within 32 bits, determines both. -/
lemma pushField_append_inj (hlen : (pushField tag value ++ rest).length < 2 ^ 32)
    (h : pushField tag value ++ rest = pushField tag' value' ++ rest') :
    tag = tag' ∧ value = value' ∧ rest = rest' ∧ rest.length < 2 ^ 32 := by
  have hlen' : (pushField tag' value' ++ rest').length < 2 ^ 32 := h ▸ hlen
  simp only [pushField, cons_append, length_cons, length_append, length_toBeBytes] at hlen hlen'
  simp only [pushField, cons_append, append_assoc, cons.injEq] at h
  obtain ⟨htag, h⟩ := h
  obtain ⟨hsize, h⟩ := append_inj h (by simp)
  have hlength : value.length = value'.length := toBeBytes_inj (by omega) (by omega) hsize
  obtain ⟨hvalue, hrest⟩ := append_inj h hlength
  exact ⟨htag, hvalue, hrest, by omega⟩

/-- An optional field before one of another tag. -/
lemma pushOptional_append_inj {next : UInt8} (hne : tag ≠ next)
    (hlen : (pushOptional tag o ++ (pushField next value ++ rest)).length < 2 ^ 32)
    (h : pushOptional tag o ++ (pushField next value ++ rest) =
      pushOptional tag o' ++ (pushField next value' ++ rest')) :
    o = o' ∧ pushField next value ++ rest = pushField next value' ++ rest' ∧
      (pushField next value ++ rest).length < 2 ^ 32 := by
  cases o with
  | none =>
    cases o' with
    | none => exact ⟨rfl, h, hlen⟩
    | some field' => exact absurd (pushField_append_inj hlen h).1 hne.symm
  | some field =>
    cases o' with
    | none => exact absurd (pushField_append_inj hlen h).1 hne
    | some field' =>
      obtain ⟨-, hfield, hrest, hlen⟩ := pushField_append_inj hlen h
      exact ⟨by rw [hfield], hrest, hlen⟩

/-- An optional field at the end. -/
lemma pushOptional_inj (hlen : (pushOptional tag o).length < 2 ^ 32)
    (h : pushOptional tag o = pushOptional tag o') : o = o' := by
  cases o with
  | none =>
    cases o' with
    | none => rfl
    | some field' => simp [pushOptional, pushField] at h
  | some field =>
    cases o' with
    | none => simp [pushOptional, pushField] at h
    | some field' =>
      have hfields : pushField tag field ++ [] = pushField tag field' ++ [] := by
        simpa [pushOptional] using h
      have hbound : (pushField tag field ++ []).length < 2 ^ 32 := by
        simpa [pushOptional] using hlen
      rw [(pushField_append_inj hbound hfields).2.1]

lemma peerCid_inj {o' : Option UInt32}
    (h : (o.map fun cid => toBeBytes cid.toNat) = o'.map fun cid => toBeBytes cid.toNat) : o = o' :=
  Option.map_injective (fun _ _ hcid => toBeBytes_toNat_inj hcid) h

/-! ## transcripts -/

lemma length_pushField : (pushField tag value).length = value.length + 5 := by
  simp [pushField]
  omega

/-- All but three fields of a transcript are short. -/
lemma length_encodeTranscript_le (t : GuestAuthTranscript) :
    (encodeTranscript t).length ≤
      t.vmId.utf8ByteSize + t.guestBootId.utf8ByteSize + (pushOptional 13 t.capabilitiesHash).length
        + 256 := by
  have hname : "guest-control-auth-v1".utf8ByteSize = 21 := by decide
  have hrole : t.role.label.length ≤ 11 := by
    cases t.role <;> simp only [ProofRole.label, length_textBytes] <;> decide
  have hdirection : t.direction.label.length = 13 := by
    cases t.direction; simp only [AuthDirection.label, length_textBytes]; decide
  have hpurpose : t.purpose.label.length = 21 := by
    cases t.purpose; simp only [AuthPurpose.label, length_textBytes]; decide
  have hpeer : (pushOptional 8 (t.peerCid.map fun cid => toBeBytes cid.toNat)).length ≤ 9 := by
    cases t.peerCid <;> simp [pushOptional, length_pushField]
  have hhost : t.hostNonce.1.length = 32 := t.hostNonce.2
  have hguest : t.guestNonce.1.length = 32 := t.guestNonce.2
  simp only [encodeTranscript, length_append, length_pushField, length_textBytes, length_toBeBytes]
  omega

lemma role_label_inj {role' : ProofRole} (h : role.label = role'.label) : role = role' := by
  have hne : "host-proof" ≠ "guest-proof" := by decide
  cases role with
  | host =>
    cases role' with
    | host => rfl
    | guest => exact absurd (textBytes_injective h) hne
  | guest =>
    cases role' with
    | host => exact absurd (textBytes_injective h.symm) hne
    | guest => rfl

/-- What a transcript within 32 bits says. -/
lemma encodeTranscript_injective {t' : GuestAuthTranscript}
    (hlen : (encodeTranscript t).length < 2 ^ 32) (h : encodeTranscript t = encodeTranscript t') :
    t = t' := by
  obtain ⟨-, -, h, hlen⟩ := pushField_append_inj hlen h
  obtain ⟨-, hrole, h, hlen⟩ := pushField_append_inj hlen h
  obtain ⟨-, -, h, hlen⟩ := pushField_append_inj hlen h
  obtain ⟨-, -, h, hlen⟩ := pushField_append_inj hlen h
  obtain ⟨-, hvm, h, hlen⟩ := pushField_append_inj hlen h
  obtain ⟨-, hversion, h, hlen⟩ := pushField_append_inj hlen h
  obtain ⟨-, hport, h, hlen⟩ := pushField_append_inj hlen h
  obtain ⟨hpeer, h, hlen⟩ := pushOptional_append_inj (by decide) hlen h
  obtain ⟨-, hhost, h, hlen⟩ := pushField_append_inj hlen h
  obtain ⟨-, hguest, h, hlen⟩ := pushField_append_inj hlen h
  obtain ⟨-, hboot, h, hlen⟩ := pushField_append_inj hlen h
  have hhash := pushOptional_inj hlen h
  have hdirection : t.direction = t'.direction := by cases t.direction; cases t'.direction; rfl
  have hpurpose : t.purpose = t'.purpose := by cases t.purpose; cases t'.purpose; rfl
  exact GuestAuthTranscript.ext (role_label_inj hrole) hdirection hpurpose
    (textBytes_injective hvm) (toBeBytes_toNat_inj hversion) (toBeBytes_toNat_inj hport)
    (peerCid_inj hpeer) (Subtype.ext hhost) (Subtype.ext hguest) (textBytes_injective hboot) hhash

/-- The role is at a fixed place, so no bound is needed to tell roles apart. -/
lemma role_eq_of_encodeTranscript_eq (h : encodeTranscript t = encodeTranscript t') :
    t.role = t'.role := by
  have hrest := append_cancel_left h
  simp only [pushField, cons_append, append_assoc, cons.injEq, true_and] at hrest
  obtain ⟨hsize, -⟩ := append_inj hrest (by simp)
  cases hrole : t.role with
  | host =>
    cases hrole' : t'.role with
    | host => rfl
    | guest =>
      rw [hrole, hrole'] at hsize
      exact absurd hsize (by decide)
  | guest =>
    cases hrole' : t'.role with
    | guest => rfl
    | host =>
      rw [hrole, hrole'] at hsize
      exact absurd hsize (by decide)

end D2b.Contracts

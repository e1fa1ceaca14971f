import D2b.RealmCore.Operation
import D2b.RealmCore.Target

/-!
# D2b.RealmCore.Fingerprint

Two requests have the same fingerprint exactly if they agree on the fields
that it is made of: every field is preceded by its length, labels have no
dots, and no workload is the empty string.
-/

namespace D2b

open List

namespace OperationRequest

/-! ## fields -/

lemma textBytes_injective : Function.Injective textBytes := fun _ _ h =>
  String.toByteArray_inj.mp (ByteArray.ext (Array.toList_inj.mp h))

lemma lengthBytes_inj (hm : m < 2 ^ 64) (hn : n < 2 ^ 64) (h : lengthBytes m = lengthBytes n) :
    m = n := by
  simp only [lengthBytes, map_inj_left, mem_range, ← UInt8.toNat_inj, UInt8.toNat_ofNat'] at h
  have h0 := h 0 (by decide)
  have h1 := h 1 (by decide)
  have h2 := h 2 (by decide)
  have h3 := h 3 (by decide)
  have h4 := h 4 (by decide)
  have h5 := h 5 (by decide)
  have h6 := h 6 (by decide)
  have h7 := h 7 (by decide)
  omega

/-- A field ends where its length says. -/
lemma fingerprintField_append_inj (hv : v.length < 2 ^ 64) (hw : w.length < 2 ^ 64)
    (h : fingerprintField label v ++ r = fingerprintField label w ++ s) : v = w ∧ r = s := by
  simp only [fingerprintField, append_assoc, append_cancel_left_eq] at h
  obtain ⟨hbytes, h⟩ := append_inj h (by simp [lengthBytes])
  obtain ⟨hvalue, h⟩ := append_inj h (lengthBytes_inj hv hw hbytes)
  exact ⟨hvalue, append_cancel_left h⟩

/-! ## texts -/

lemma debugName_injective : Function.Injective OperationKind.debugName := by
  intro a b h
  cases a <;> cases b <;> first | rfl | exact absurd h (by decide)

lemma length_kind (kind : OperationKind) : (textBytes kind.debugName).length < 2 ^ 64 := by
  cases kind <;> decide

lemma length_id (id : Id k) : (textBytes id.asStr).length < 2 ^ 64 := by
  have hvalid := id.valid
  unfold idError? at hvalid
  have hlen : (textBytes id.asStr).length = id.asStr.utf8ByteSize := rfl
  by_contra hlong
  have hmax : id.asStr.utf8ByteSize > maxIdLen := by
    rw [maxIdLen]
    omega
  simp only [hmax, if_true] at hvalid
  split at hvalid <;> cases hvalid

lemma utf8ByteSize_intercalate (labels : List RealmId) (h : labels ≠ []) :
    (".".intercalate (labels.map (·.asStr))).utf8ByteSize = renderedBytes labels := by
  induction labels with
  | nil => contradiction
  | cons label labels ih =>
    cases labels with
    | nil => simp [renderedBytes]
    | cons next labels =>
      have hrest := ih (cons_ne_nil _ _)
      have hdot : ".".utf8ByteSize = 1 := rfl
      simp only [renderedBytes, map_cons, sum_cons, length_cons] at hrest ⊢
      rw [String.intercalate_cons_cons, String.utf8ByteSize_append, String.utf8ByteSize_append,
        hrest, hdot]
      omega

lemma length_targetForm (path : RealmPath) : (textBytes path.targetForm).length < 2 ^ 64 := by
  have hlen : (textBytes path.targetForm).length = renderedBytes path.labels :=
    utf8ByteSize_intercalate path.labels path.labels_ne_nil
  have hok := path.bounded
  simp only [realmPathOk, Bool.and_eq_true, decide_eq_true_eq] at hok
  exact hlen.trans_lt (hok.2.trans_lt (by decide))

/-- The dots of the form separate its labels. -/
lemma targetForm_injective : Function.Injective RealmPath.targetForm := by
  have hdots (p : RealmPath) : ∀ word ∈ p.labels.map (·.asStr.toList), '.' ∉ word := by
    intro word hword
    obtain ⟨label, -, rfl⟩ := mem_map.mp hword
    exact RealmTarget.notMem_of_isLabel rfl (RealmTarget.isLabel_asStr rfl label)
  have hsplit (p : RealmPath) :
      p.targetForm.toList.splitOn '.' = p.labels.map (·.asStr.toList) := by
    rw [RealmPath.targetForm, String.toList_intercalate, map_map]
    exact splitOn_intercalate _ (hdots p) (by simpa using p.labels_ne_nil)
  intro p q h
  have hlabels := hsplit p
  rw [h, hsplit q] at hlabels
  refine RealmPath.ext (map_injective_iff.mpr ?_ hlabels.symm)
  exact fun a b hab => Id.asStr_injective (String.toList_inj.mp hab)

lemma length_workload (workload : Option WorkloadId) :
    (textBytes ((workload.map (·.asStr)).getD "")).length < 2 ^ 64 := by
  cases workload with
  | none => decide
  | some id => exact length_id id

/-- An absent workload is the only empty one. -/
lemma workload_injective :
    Function.Injective fun workload : Option WorkloadId => (workload.map (·.asStr)).getD "" := by
  have hne (id : WorkloadId) : id.asStr ≠ "" := by
    intro hempty
    have hvalid := id.valid
    rw [hempty] at hvalid
    exact absurd hvalid (by decide)
  intro a b h
  cases a <;> cases b
  · rfl
  · exact absurd h.symm (hne _)
  · exact absurd h (hne _)
  · exact congrArg some (Id.asStr_injective h)

/-! ## requests -/

lemma length_body (req : OperationRequest) : req.body.bytes.length < 2 ^ 64 :=
  req.body.bounded.trans_lt (by decide)

/-- The fingerprint of a request is that of the fields that identify it. -/
theorem dedupFingerprintInput_eq_iff (r s : OperationRequest) :
    r.dedupFingerprintInput = s.dedupFingerprintInput ↔
      r.kind = s.kind ∧ r.realm = s.realm ∧ r.node = s.node ∧ r.workload = s.workload ∧
        r.principal = s.principal ∧ r.body = s.body := by
  constructor
  · intro h
    simp only [dedupFingerprintInput, append_assoc] at h
    obtain ⟨hkind, h⟩ := fingerprintField_append_inj (length_kind _) (length_kind _) h
    obtain ⟨hrealm, h⟩ := fingerprintField_append_inj (length_targetForm _) (length_targetForm _) h
    obtain ⟨hnode, h⟩ := fingerprintField_append_inj (length_id _) (length_id _) h
    obtain ⟨hworkload, h⟩ := fingerprintField_append_inj (length_workload _) (length_workload _) h
    rw [← append_nil (fingerprintField "body" r.body.bytes),
      ← append_nil (fingerprintField "body" s.body.bytes)] at h
    obtain ⟨hprincipal, h⟩ := fingerprintField_append_inj (length_id _) (length_id _) h
    obtain ⟨hbody, -⟩ := fingerprintField_append_inj (length_body r) (length_body s) h
    exact ⟨debugName_injective (textBytes_injective hkind),
      targetForm_injective (textBytes_injective hrealm),
      Id.asStr_injective (textBytes_injective hnode),
      workload_injective (textBytes_injective hworkload),
      Id.asStr_injective (textBytes_injective hprincipal), OpaquePayload.bytes_injective hbody⟩
  · rintro ⟨hkind, hrealm, hnode, hworkload, hprincipal, hbody⟩
    simp only [dedupFingerprintInput, hkind, hrealm, hnode, hworkload, hprincipal, hbody]

end OperationRequest

end D2b

import D2b.Lib.BTreeMap
import D2b.Lib.Fallible
import D2b.RealmCore.Realm

/-!
# D2b.RealmCore.Target

Realm targets (`target.rs`): a workload inside a realm path, rendered
`<workload>.<realm>[.<ancestor>...].d2b`.
-/

namespace D2b

open List

def targetSuffix : String := "d2b"

structure RealmTarget where
  workload : WorkloadId
  realm : RealmPath
deriving DecidableEq

def RealmTarget.toCanonical (target : RealmTarget) : String :=
  target.workload.asStr ++ "." ++ target.realm.targetForm ++ "." ++ targetSuffix

/-! ## parsing -/

/-- An address of the old format, with the label of a node after the workload. -/
structure LegacyNodeQualifiedTarget where
  workload : WorkloadId
  node : NodeId
  realm : RealmPath
deriving DecidableEq

inductive RealmTargetParseError where
  | empty
  | bareAliasRequiresContext
  | missingSuffix
  | missingWorkload
  | missingRealm
  /-- `all` and `*` name no single target -/
  | selectorNotAllowed
  | reservedLabel
  | badLabel (error : IdError)
  | badRealmPath
  | aliasAmbiguous (workload : WorkloadId) (candidates : List RealmTarget)
  | legacyNodeQualified (legacy : LegacyNodeQualifiedTarget) (suggested : RealmTarget)
deriving DecidableEq

structure TargetLabels where
  labels : List String
  hadSuffix : Bool
  hadScheme : Bool

def targetLabels (raw : String) : Except RealmTargetParseError TargetLabels :=
  let scheme := "d2b://".toList
  let hadScheme := scheme.isPrefixOf raw.toList
  let body := if hadScheme then raw.toList.drop scheme.length else raw.toList
  if body.isEmpty then .error .empty
  else
    let labels := (body.splitOn '.').map String.ofList
    if labels.getLast? = some targetSuffix then
      if labels.dropLast.isEmpty then .error .missingWorkload
      else .ok { labels := labels.dropLast, hadSuffix := true, hadScheme }
    else .ok { labels, hadSuffix := false, hadScheme }

/-- The label may not stand in a target: the first one that may not decides. -/
def reservedLabel? (label : String) : Option RealmTargetParseError :=
  if label = "all" ∨ label = "*" then some .selectorNotAllowed
  else if label = targetSuffix then some .reservedLabel
  else none

section

variable (labels : List String)

def rejectReservedLabels : Except RealmTargetParseError Unit :=
  match labels.findSome? reservedLabel? with
  | some error => .error error
  | none => .ok ()

def parseRealmLabels : Except RealmTargetParseError RealmPath := do
  let labels ← labels.mapM fun label => (Id.parse .realm label).mapError .badLabel
  match RealmPath.new labels with
  | some path => .ok path
  | none => .error .badRealmPath

def parseQualifiedLabels : Except RealmTargetParseError RealmTarget := do
  rejectReservedLabels labels
  match labels with
  | [] => .error .missingWorkload
  | first :: rest =>
    let workload ← (Id.parse .workload first).mapError .badLabel
    if rest.isEmpty then .error .missingRealm
    else
      let realm ← parseRealmLabels rest
      .ok { workload, realm }

def RealmTarget.parse (raw : String) : Except RealmTargetParseError RealmTarget := do
  let found ← targetLabels raw
  if found.hadSuffix then parseQualifiedLabels found.labels
  else if found.hadScheme then .error .missingSuffix
  else if found.labels.length = 1 then .error .bareAliasRequiresContext
  else .error .missingSuffix

/-! ### with aliases and legacy nodes -/

def parseLegacyLabels : Except RealmTargetParseError LegacyNodeQualifiedTarget := do
  rejectReservedLabels labels
  match labels with
  | [] => .error .missingWorkload
  | first :: second :: third :: rest =>
    let workload ← (Id.parse .workload first).mapError .badLabel
    let node ← (Id.parse .node second).mapError .badLabel
    let realm ← parseRealmLabels (third :: rest)
    .ok { workload, node, realm }
  | _ => .error .missingRealm

def legacyForKnownNode (legacyNodeLabels : Finset NodeId) :
    Except RealmTargetParseError (Option LegacyNodeQualifiedTarget) :=
  match labels with
  | _ :: second :: _ :: _ =>
    match Id.parse .node second with
    | .ok node =>
      if node ∈ legacyNodeLabels then (parseLegacyLabels labels).map some else .ok none
    | .error _ => .ok none
  | _ => .ok none

end

/-- What a bare alias stands for, and the nodes whose old addresses are diagnosed. -/
structure RealmTargetParser where
  defaultRealm : Option RealmPath
  aliases : BTreeMap WorkloadId {candidates : List RealmTarget // candidates ≠ []}
  legacyNodeLabels : Finset NodeId

namespace RealmTargetParser

variable (parser : RealmTargetParser)

def parseBare (labels : List String) : Except RealmTargetParseError RealmTarget := do
  match labels with
  | [label] =>
    rejectReservedLabels labels
    let workload ← (Id.parse .workload label).mapError .badLabel
    match parser.aliases[workload]? with
    | some candidates =>
      match candidates.1.foldl (fun cs c => if c ∈ cs then cs else cs ++ [c]) [] with
      | [target] => .ok target
      | candidates => .error (.aliasAmbiguous workload candidates)
    | none =>
      Fallible.okOr (parser.defaultRealm.map fun realm => { workload, realm })
        .bareAliasRequiresContext
  | _ => .error .missingSuffix

def parseQualified (labels : List String) : Except RealmTargetParseError RealmTarget := do
  match ← legacyForKnownNode labels parser.legacyNodeLabels with
  | some legacy =>
    .error (.legacyNodeQualified legacy { workload := legacy.workload, realm := legacy.realm })
  | none => parseQualifiedLabels labels

def parse (raw : String) : Except RealmTargetParseError RealmTarget := do
  let found ← targetLabels raw
  if found.hadSuffix then parser.parseQualified found.labels
  else if found.hadScheme then .error .missingSuffix
  else parser.parseBare found.labels

end RealmTargetParser

/-! ## labels -/

namespace RealmTarget

/-- The labels of the canonical form, the suffix included. -/
def labels (target : RealmTarget) : List String :=
  target.workload.asStr :: target.realm.labels.map (·.asStr) ++ [targetSuffix]

/-- A character that no label has. -/
def Foreign (c : Char) : Prop := (c.isLower || c.isDigit || c == '-') = false

lemma notMem_of_isLabel (hc : Foreign c) (h : isLabel s = true) : c ∉ s.toList := by
  intro hmem
  unfold isLabel at h
  cases hs : s.toList with
  | nil => simp [hs] at hmem
  | cons first rest =>
    rw [hs] at h hmem
    simp only [Bool.and_eq_true, all_eq_true] at h
    rcases mem_cons.mp hmem with rfl | hmem
    · simp [Foreign, h.1] at hc
    · exact absurd (h.2 c hmem) (by simpa [Foreign] using hc)

lemma isLabel_asStr (hk : k.validate = isLabel) (id : Id k) : isLabel id.asStr = true := by
  have hvalid := id.valid
  rw [idError?, hk] at hvalid
  grind

lemma notMem_labels (hc : Foreign c) (target : RealmTarget) :
    ∀ label ∈ target.labels, c ∉ label.toList := by
  intro label hmem
  simp only [labels, cons_append, mem_cons, mem_append, mem_map, not_mem_nil, or_false] at hmem
  rcases hmem with rfl | ⟨id, -, rfl⟩ | rfl
  · exact notMem_of_isLabel hc (isLabel_asStr rfl target.workload)
  · exact notMem_of_isLabel hc (isLabel_asStr rfl id)
  · exact notMem_of_isLabel hc rfl

variable (target : RealmTarget)

lemma dot_notMem : ∀ word ∈ target.labels.map String.toList, '.' ∉ word := by
  intro word hword
  obtain ⟨label, hlabel, rfl⟩ := mem_map.mp hword
  have hdot : Foreign '.' := rfl
  exact notMem_labels hdot target label hlabel

/-- The canonical form ends each label by a dot, but for the last. -/
lemma toList_toCanonical : target.toCanonical.toList ++ ['.'] =
      Text.terminated '.' (target.labels.map String.toList) := by
  have hne : target.realm.labels.map (·.asStr.toList) ≠ [] := by
    simpa using target.realm.labels_ne_nil
  have hrealm : ['.'].intercalate (target.realm.labels.map (·.asStr.toList)) ++ ['.'] =
      Text.terminated '.' (target.realm.labels.map (·.asStr.toList)) :=
    Text.intercalate_append_sep hne
  simp only [Text.terminated] at hrealm
  simp only [toCanonical, RealmPath.targetForm, labels, String.toList_append,
    String.toList_intercalate, map_map, Text.terminated]
  simp only [map_cons, map_append, flatMap_cons, flatMap_append, map_map,
    cons_append, Function.comp_def]
  have hdot : ".".toList = ['.'] := rfl
  rw [hdot, ← hrealm]
  simp

lemma labels_injective : Function.Injective labels := by
  rintro ⟨workload, realm⟩ ⟨workload', realm'⟩ h
  simp only [labels, cons_append, cons.injEq, append_cancel_right_eq] at h
  have hworkload : workload = workload' := Id.asStr_injective h.1
  have hrealm : realm = realm' :=
    RealmPath.ext (map_injective_iff.mpr Id.asStr_injective h.2)
  rw [hworkload, hrealm]

lemma dropLast_labels :
    target.labels.dropLast = target.workload.asStr :: target.realm.labels.map (·.asStr) :=
  dropLast_concat

lemma toCanonical_eq_intercalate :
    target.toCanonical.toList = ['.'].intercalate (target.labels.map String.toList) := by
  apply append_cancel_right
  rw [toList_toCanonical, Text.intercalate_append_sep (by simp [labels])]

/-- The labels of a text are those of the target if the text is its canonical form. -/
lemma splitOn_eq_labels {target : RealmTarget} {body : List Char} :
    (body.splitOn '.').map String.ofList = target.labels ↔ body = target.toCanonical.toList := by
  rw [toCanonical_eq_intercalate]
  constructor
  · intro h
    rw [← h, map_map]
    simp [Function.comp_def, intercalate_splitOn]
  · rintro rfl
    rw [splitOn_intercalate _ (dot_notMem target) (by simp [labels]), map_map]
    simp [Function.comp_def]

lemma colon_notMem : ':' ∉ target.toCanonical.toList := by
  intro h
  have hmem := mem_append_left ['.'] h
  rw [toList_toCanonical, Text.terminated, mem_flatMap] at hmem
  obtain ⟨word, hword, hmem⟩ := hmem
  obtain ⟨label, hlabel, rfl⟩ := mem_map.mp hword
  have hcolon : Foreign ':' := rfl
  have hnot := notMem_labels hcolon target label hlabel
  simp [hnot] at hmem

/-- The scheme is dropped from a text, if it has one. -/
lemma body_eq_toCanonical {target : RealmTarget} :
    (if "d2b://".toList.isPrefixOf raw.toList then raw.toList.drop "d2b://".toList.length
      else raw.toList) = target.toCanonical.toList ↔
      raw = target.toCanonical ∨ raw = "d2b://" ++ target.toCanonical := by
  rw [← String.toList_inj, ← String.toList_inj, String.toList_append]
  split
  · next h =>
    obtain ⟨rest, hrest⟩ := List.isPrefixOf_iff_prefix.mp h
    have hne : raw.toList ≠ target.toCanonical.toList := by
      intro heq
      refine colon_notMem target ?_
      rw [← heq, ← hrest]
      simp
    rw [or_iff_right hne, ← hrest, drop_left, append_cancel_left_eq]
  · next h =>
    have hne : raw.toList ≠ "d2b://".toList ++ target.toCanonical.toList := by
      intro heq
      exact h (List.isPrefixOf_iff_prefix.mpr ⟨_, heq.symm⟩)
    rw [or_iff_left hne]

end RealmTarget

/-! ## what is parsed -/

open Fallible RealmTarget

variable {labels : List String} {realm : RealmPath}

lemma parse_eq_ok {id : Id k} :
    (Id.parse k raw).mapError RealmTargetParseError.badLabel = .ok id ↔ raw = id.asStr := by
  rw [mapError_eq_ok]
  constructor
  · intro h
    unfold Id.parse at h
    split at h
    · cases h
    · cases h
      rfl
  · rintro rfl
    exact Id.parse_asStr id

lemma rejectReservedLabels_eq_ok :
    rejectReservedLabels labels = .ok () ↔ ∀ label ∈ labels, reservedLabel? label = none := by
  rw [← findSome?_eq_none_iff, rejectReservedLabels]
  cases labels.findSome? reservedLabel? <;> simp

lemma parseRealmLabels_eq_ok :
    parseRealmLabels labels = .ok realm ↔ labels = realm.labels.map (·.asStr) := by
  have hsame (ids : List RealmId) :
      List.Forall₂ (fun label id => label = id.asStr) labels ids ↔ labels = ids.map (·.asStr) := by
    rw [← List.forall₂_map_right_iff (R := Eq), List.forall₂_eq_eq_eq]
  simp only [parseRealmLabels, bind_eq_ok, mapM_eq_ok, parse_eq_ok, hsame]
  constructor
  · rintro ⟨ids, rfl, h⟩
    cases hnew : RealmPath.new ids with
    | none => simp [hnew] at h
    | some path =>
      simp only [hnew, Except.ok.injEq] at h
      rw [← h, RealmPath.new_eq_some.mp hnew]
  · rintro rfl
    exact ⟨realm.labels, rfl, by rw [RealmPath.new_eq_some.mpr rfl]⟩

lemma parseQualifiedLabels_eq_ok :
    parseQualifiedLabels labels = .ok target ↔
      labels = target.labels.dropLast ∧ ∀ label ∈ labels, reservedLabel? label = none := by
  unfold parseQualifiedLabels
  rw [then_eq_ok, rejectReservedLabels_eq_ok, and_comm, dropLast_labels]
  refine and_congr_left fun _ => ?_
  cases labels with
  | nil => simp
  | cons first rest =>
    simp only [bind_eq_ok, parse_eq_ok, parseRealmLabels_eq_ok, ite_error_eq_ok, Except.ok.injEq]
    constructor
    · rintro ⟨workload, rfl, -, realm, rfl, rfl⟩
      rfl
    · rintro ⟨⟩
      exact ⟨_, rfl, by simpa using target.realm.labels_ne_nil, _, rfl, rfl⟩

lemma parse_iff_canonical :
    parse raw = .ok target ↔
      (raw = target.toCanonical ∨ raw = "d2b://" ++ target.toCanonical) ∧
      ∀ label ∈ target.labels.dropLast, reservedLabel? label = none := by
  unfold parse targetLabels
  rw [← body_eq_toCanonical, bind_eq_ok]
  simp only
  generalize (if "d2b://".toList.isPrefixOf raw.toList then _ else raw.toList) = body
  constructor
  · rintro ⟨found, hfound, h⟩
    obtain ⟨-, hfound⟩ := ite_error_eq_ok.mp hfound
    split at hfound
    · next hlast =>
      obtain ⟨-, hfound⟩ := ite_error_eq_ok.mp hfound
      cases hfound
      simp only [if_true] at h
      obtain ⟨hlabels, hnone⟩ := parseQualifiedLabels_eq_ok.mp h
      rw [hlabels] at hnone
      refine ⟨splitOn_eq_labels.mp ?_, hnone⟩
      rw [← dropLast_append_getLast? _ hlast, hlabels, dropLast_labels]
      rfl
    · cases hfound
      simp only [Bool.false_eq_true, if_false, ite_error_eq_ok, reduceCtorEq, and_false] at h
  · rintro ⟨rfl, hnone⟩
    have hlabels := splitOn_eq_labels.mpr (Eq.refl target.toCanonical.toList)
    have hempty : target.toCanonical.toList.isEmpty = false := by simp [toCanonical]
    have hlast : target.labels.getLast? = some targetSuffix := getLast?_concat
    have hsome : target.labels.dropLast.isEmpty = false := by simp [dropLast_labels]
    simp only [hlabels, hempty, hlast, hsome, Bool.false_eq_true, if_true, if_false]
    exact ⟨_, rfl, parseQualifiedLabels_eq_ok.mpr ⟨rfl, hnone⟩⟩

/-- The suffix is no label of the workload or of the realm. -/
lemma suffix_notMem_of_parse (h : parse raw = .ok target) :
    targetSuffix ∉ target.labels.dropLast := by
  intro hmem
  have hnone := (parse_iff_canonical.mp h).2 _ hmem
  exact absurd hnone (by decide)

lemma reservedLabel?_eq_none (target : RealmTarget) :
    ∀ label ∈ target.labels.dropLast,
      (reservedLabel? label = none ↔ label ≠ "all" ∧ label ≠ targetSuffix) := by
  intro label hlabel
  have hne : label ≠ "*" := by
    rintro rfl
    have hstar : Foreign '*' := rfl
    exact absurd (notMem_labels hstar target _ (mem_of_mem_dropLast hlabel)) (by decide)
  grind [reservedLabel?]

/-- A bare alias is resolved by the context. -/
lemma RealmTargetParser.parseBare_ok (parser : RealmTargetParser)
    (h : parser.parseBare labels = .ok target) :
    labels.length = 1 ∧ (parser.defaultRealm ≠ none ∨ parser.aliases ≠ ∅) := by
  unfold parseBare at h
  split at h
  · obtain ⟨-, h⟩ := then_eq_ok.mp h
    obtain ⟨workload, -, h⟩ := bind_eq_ok.mp h
    refine ⟨rfl, ?_⟩
    by_cases hempty : parser.aliases = ∅
    · simp only [hempty, Std.ExtTreeMap.getElem?_empty, okOr_eq_ok, Option.map_eq_some_iff] at h
      obtain ⟨realm, hrealm, -⟩ := h
      simp [hrealm]
    · exact .inr hempty
  · cases h

/-- The addresses that name a target are its canonical form, with the scheme or without. What
the context of a parser adds are bare aliases. -/
theorem realmTarget_grammar (parser : RealmTargetParser) (raw : String) (target : RealmTarget) :
    (parse raw = .ok target ↔
      (raw = target.toCanonical ∨ raw = "d2b://" ++ target.toCanonical) ∧
      ∀ label ∈ target.workload.asStr :: target.realm.labels.map (·.asStr),
        label ≠ "all" ∧ label ≠ targetSuffix) ∧
    (parse raw = .ok target → parse target.toCanonical = .ok target) ∧
    (parser.parse raw = .ok target →
      parse raw = .ok target ∨
      parse raw = .error .bareAliasRequiresContext ∧
        (parser.defaultRealm ≠ none ∨ parser.aliases ≠ ∅)) := by
  refine ⟨?_, ?_, ?_⟩
  · rw [parse_iff_canonical, ← dropLast_labels, forall₂_congr (reservedLabel?_eq_none target)]
  · intro h
    exact parse_iff_canonical.mpr ⟨.inl rfl, (parse_iff_canonical.mp h).2⟩
  · intro h
    obtain ⟨found, hfound, h⟩ := bind_eq_ok.mp h
    simp only [parse, hfound, bind, Except.bind]
    by_cases hsuffix : found.hadSuffix = true
    · simp only [hsuffix, if_true, RealmTargetParser.parseQualified] at h ⊢
      obtain ⟨_ | legacy, -, h⟩ := bind_eq_ok.mp h
      · exact .inl h
      · cases h
    · simp only [hsuffix, Bool.false_eq_true, if_false, ite_error_eq_ok] at h ⊢
      obtain ⟨hone, hcontext⟩ := parser.parseBare_ok h.2
      exact .inr ⟨by simp [h.1, hone], hcontext⟩

/-- The realm of the VMs that are declared outside realms. -/
def localRealm : RealmPath := ⟨[⟨"local", by decide⟩], by decide⟩

/-- Runtime provider family exposed to provider-neutral clients. -/
inductive WorkloadProviderKind where
  | localVm | qemuMedia | providerManaged | unsafeLocal
deriving DecidableEq

end D2b

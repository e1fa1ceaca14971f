import Mathlib.Data.List.DropRight
import Mathlib.Data.List.Infix
import Mathlib.Data.String.Basic

/-!
# D2b.Lib.Text

Substrings of concatenated texts, the text of a natural number (its
characters are digits and its size is bounded by its magnitude), texts cut to a
number of bytes, white space, and texts split at a pattern.
-/

namespace Text

open List

variable {α : Type u}

/-- A part of a concatenation lies in one of the two or spans the seam. -/
lemma infix_append (h : m <:+: a ++ b) :
    m <:+: a ∨ m <:+: b ∨ ∃ l r, l ≠ [] ∧ r ≠ [] ∧ m = l ++ r ∧ l <:+ a ∧ r <+: b := by
  obtain ⟨s, t, heq⟩ := h
  rw [append_assoc, append_eq_append_iff] at heq
  rcases heq with ⟨u, ha, hmt⟩ | ⟨u, -, hb⟩
  · rcases append_eq_append_iff.mp hmt with ⟨v, hu, -⟩ | ⟨v, hm, hb⟩
    · exact .inl ⟨s, v, by rw [ha, hu, append_assoc]⟩
    · -- the part is `u ++ v`, with `u` at the end of `a` and `v` at the start of `b`
      by_cases hu : u = []
      · exact .inr (.inl ⟨[], t, by rw [hb, hm, hu]; rfl⟩)
      · by_cases hv : v = []
        · exact .inl ⟨s, [], by rw [ha, hm, hv]; simp⟩
        · exact .inr (.inr ⟨u, v, hu, hv, hm, ⟨s, ha.symm⟩, ⟨t, hb.symm⟩⟩)
  · exact .inr (.inl ⟨u, t, by rw [hb, append_assoc]⟩)

/-- A part none of whose elements occurs in `b` lies in `a`. -/
lemma infix_of_infix_append (hm : m ≠ []) (hnot : ∀ c ∈ m, c ∉ b) (h : m <:+: a ++ b) :
    m <:+: a := by
  rcases infix_append h with ha | hb | ⟨l, r, -, hr, rfl, -, hpre⟩
  · exact ha
  · obtain ⟨c, hc⟩ := exists_mem_of_ne_nil m hm
    exact absurd (hb.mem hc) (hnot c hc)
  · obtain ⟨c, hc⟩ := exists_mem_of_ne_nil r hr
    exact absurd (hpre.mem hc) (hnot c (mem_append_right l hc))

variable {n : Nat} {c : Char}

lemma isDigit_of_mem_toString (h : c ∈ (toString n).toList) : c.isDigit = true := by
  rw [Nat.toString_eq_ofList_toDigits, String.toList_ofList] at h
  exact Nat.isDigit_of_mem_toDigits (by decide) (by decide) h

lemma utf8Size_of_isDigit (h : c.isDigit = true) : c.utf8Size = 1 := by
  simp only [Char.isDigit, Bool.and_eq_true, decide_eq_true_eq] at h
  exact if_pos (UInt32.le_trans h.2 (by decide))

lemma toLower_of_isDigit (h : c.isDigit = true) : c.toLower = c := by
  unfold Char.toLower
  rw [dif_neg]
  intro hup
  simp only [Char.isDigit, Bool.and_eq_true, decide_eq_true_eq] at h
  exact absurd (UInt32.le_trans hup.1 h.2) (by decide)

/-- A text of one-byte characters has as many bytes as characters. -/
lemma utf8Len_of_one (h : ∀ c ∈ cs, c.utf8Size = 1) : String.utf8Len cs = cs.length := by
  induction cs with
  | nil => rfl
  | cons c cs ih =>
    rw [String.utf8Len_cons, length_cons, ih fun c hc => h c (mem_cons_of_mem _ hc),
      h c mem_cons_self]

lemma utf8ByteSize_toString_le (hk : 0 < k) (h : n < 10 ^ k) : (toString n).utf8ByteSize ≤ k := by
  have hlen : (Nat.toDigits 10 n).length ≤ k := (Nat.length_toDigits_le_iff (by decide) hk).mpr h
  have hone : ∀ c ∈ Nat.toDigits 10 n, c.utf8Size = 1 := fun c hc =>
    utf8Size_of_isDigit (Nat.isDigit_of_mem_toDigits (by decide) (by decide) hc)
  rw [Nat.toString_eq_ofList_toDigits, String.utf8ByteSize_ofList, utf8Len_of_one hone]
  exact hlen

/-- A property of the digits of a base is one of every digit of a number. -/
lemma forall_mem_toDigits {P : Char → Prop} (hb : 1 < b) (h : ∀ d < b, P (Nat.digitChar d))
    (n : Nat) : ∀ c ∈ Nat.toDigits b n, P c := by
  induction n using Nat.strongRecOn with
  | _ n ih =>
    by_cases hlt : n < b
    · rw [Nat.toDigits_of_lt_base hlt]
      simpa using h n hlt
    · have hle : b ≤ n := Nat.le_of_not_lt hlt
      rw [Nat.toDigits_of_base_le hb hle]
      exact forall_mem_append.mpr ⟨ih (n / b) (Nat.div_lt_self (by omega) hb),
        forall_mem_singleton.mpr (h _ (Nat.mod_lt _ (by omega)))⟩

lemma toString_injective : Function.Injective (toString : Nat → String) := by
  intro m n h
  rw [Nat.toString_eq_ofList_toDigits, Nat.toString_eq_ofList_toDigits] at h
  have hdigits : Nat.toDigits 10 m = Nat.toDigits 10 n := String.ofList_injective h
  rw [← Nat.ofDigitChars_ten_toDigits (n := m), hdigits, Nat.ofDigitChars_ten_toDigits]

/-! ## cut texts -/

/-- The first characters that fit into `n` bytes. -/
def fitting : Nat → List Char → List Char
  | _, [] => []
  | n, c :: cs => if c.utf8Size ≤ n then c :: fitting (n - c.utf8Size) cs else []

/-- A text cut to at most `n` bytes, at the end of a character. -/
def truncate (n : Nat) (s : String) : String :=
  if s.utf8ByteSize > n then String.ofList (fitting n s.toList) else s

lemma utf8Len_fitting_le (cs : List Char) : ∀ n, String.utf8Len (fitting n cs) ≤ n := by
  induction cs with
  | nil => intro n; simp [fitting]
  | cons c cs ih =>
    intro n
    unfold fitting
    by_cases hfits : c.utf8Size ≤ n
    · rw [if_pos hfits, String.utf8Len_cons]
      have := ih (n - c.utf8Size)
      omega
    · rw [if_neg hfits]
      simp

lemma utf8ByteSize_truncate_le (n : Nat) (s : String) : (truncate n s).utf8ByteSize ≤ n := by
  unfold truncate
  by_cases hlong : s.utf8ByteSize > n
  · rw [if_pos hlong, String.utf8ByteSize_ofList]
    exact utf8Len_fitting_le s.toList n
  · rw [if_neg hlong]
    exact Nat.le_of_not_lt hlong

lemma truncate_of_le (h : s.utf8ByteSize ≤ n) : truncate n s = s := if_neg (Nat.not_lt.mpr h)

/-! ## white space -/

/-- `char::is_whitespace`. -/
def isWhitespace (c : Char) : Bool :=
  (0x9 ≤ c.toNat && c.toNat ≤ 0xD) || c.toNat == 0x20 || c.toNat == 0x85 || c.toNat == 0xA0 ||
    c.toNat == 0x1680 || (0x2000 ≤ c.toNat && c.toNat ≤ 0x200A) || c.toNat == 0x2028 ||
    c.toNat == 0x2029 || c.toNat == 0x202F || c.toNat == 0x205F || c.toNat == 0x3000

/-- `char::is_control`. -/
def isControl (c : Char) : Bool := c.toNat ≤ 0x1F || (0x7F ≤ c.toNat && c.toNat ≤ 0x9F)

def trim (value : List Char) : List Char := (value.dropWhile isWhitespace).rdropWhile isWhitespace

def splitWhitespace (value : List Char) : List (List Char) :=
  (value.splitOnP isWhitespace).filter (!·.isEmpty)

/-! ## lines -/

/-- The lines of a text that starts with `c`, from those of the rest. -/
def consLine (c : Char) : List (List Char) → List (List Char)
  | [] => if c = '\n' then [[]] else [[c]]
  | l :: ls => if c = '\n' then [] :: l :: ls else (c :: l) :: ls

/-- The lines of a text; the last one may lack its line feed. -/
def lines (text : List Char) : List (List Char) := text.foldr consLine []

/-- The text is empty or its last line is complete. -/
def EndsLine (text : List Char) : Prop := ∀ c ∈ text.getLast?, c = '\n'

instance (text : List Char) : Decidable (EndsLine text) := Option.decidableForallMem text.getLast?

lemma consLine_append (h : ls ≠ [] ∨ c = '\n') (ms : List (List Char)) :
    consLine c (ls ++ ms) = consLine c ls ++ ms := by
  by_cases hc : c = '\n'
  · cases ls <;> cases ms <;> simp [consLine, hc]
  · obtain ⟨l, ls, rfl⟩ := exists_cons_of_ne_nil (h.resolve_right hc)
    simp [consLine, hc]

lemma lines_ne_nil (h : text ≠ []) : lines text ≠ [] := by
  obtain ⟨c, cs, rfl⟩ := exists_cons_of_ne_nil h
  simp only [lines, foldr_cons]
  cases List.foldr consLine [] cs <;> simp only [consLine] <;> split <;> simp

lemma lines_append (h : EndsLine a) (b : List Char) : lines (a ++ b) = lines a ++ lines b := by
  induction a with
  | nil => rfl
  | cons c cs ih =>
    show consLine c (lines (cs ++ b)) = consLine c (lines cs) ++ lines b
    by_cases hcs : cs = []
    · subst hcs
      exact (consLine_append (.inr (h c rfl)) (lines b) : consLine c ([] ++ lines b) = _)
    · have htail : EndsLine cs := fun x hx => h x (by
        rw [Option.mem_def] at hx ⊢
        simp [getLast?_cons, hx])
      rw [ih htail, consLine_append (.inl (lines_ne_nil hcs))]

/-- The line feed of the last line adds no line. -/
lemma lines_append_feed (h : ¬ EndsLine a) : lines (a ++ ['\n']) = lines a := by
  induction a with
  | nil => simp [EndsLine] at h
  | cons c cs ih =>
    show consLine c (lines (cs ++ ['\n'])) = consLine c (lines cs)
    by_cases hcs : cs = []
    · have hc : c ≠ '\n' := by simpa [hcs, EndsLine] using h
      simp [hcs, lines, consLine, hc]
    · obtain ⟨d, hd⟩ := Option.isSome_iff_exists.mp (getLast?_isSome.mpr hcs)
      rw [ih (by simpa [EndsLine, getLast?_cons, hd] using h)]

/-! ## words that end in a separator -/

/-- Each word followed by the separator. -/
def terminated (sep : α) (words : List (List α)) : List α := words.flatMap (· ++ [sep])

/-- Words with separators between them, and one at the end. -/
lemma intercalate_append_sep (h : words ≠ []) :
    [sep].intercalate words ++ [sep] = terminated sep words := by
  induction words with
  | nil => contradiction
  | cons x xs ih =>
    cases xs with
    | nil => simp [terminated]
    | cons y ys =>
      have hrest := ih (cons_ne_nil y ys)
      rw [intercalate_cons_of_ne_nil (cons_ne_nil y ys), append_assoc, hrest]
      simp [terminated]

/-- The first separator ends the first word. -/
lemma append_sep_inj (hx : sep ∉ x) (hy : sep ∉ y) (h : x ++ sep :: r = y ++ sep :: s) :
    x = y ∧ r = s := by
  classical
  have hlength := congrArg (List.idxOf sep) h
  rw [idxOf_append_of_notMem hx, idxOf_append_of_notMem hy, idxOf_cons_self,
    idxOf_cons_self] at hlength
  obtain ⟨hwords, hrest⟩ := append_inj h hlength
  exact ⟨hwords, (cons.inj hrest).2⟩

/-- A separator ends the word before it, so one list of words starts another one only
word by word. -/
lemma isPrefix_of_terminated (hxs : ∀ x ∈ xs, sep ∉ x) (hys : ∀ y ∈ ys, sep ∉ y)
    (h : terminated sep xs <+: terminated sep ys) : xs <+: ys := by
  induction xs generalizing ys with
  | nil => exact nil_prefix
  | cons x xs ih =>
    cases ys with
    | nil => simp [terminated] at h
    | cons y ys =>
      have hx := hxs x mem_cons_self
      have hy := hys y mem_cons_self
      simp only [terminated, flatMap_cons, append_assoc, singleton_append] at h
      obtain ⟨t, ht⟩ := h
      rw [append_assoc, cons_append] at ht
      obtain ⟨rfl, hrest⟩ := append_sep_inj hx hy ht
      rw [cons_prefix_cons]
      exact ⟨rfl, ih (fun x hx => hxs x (mem_cons_of_mem _ hx))
        (fun y hy => hys y (mem_cons_of_mem _ hy)) ⟨t, hrest⟩⟩

/-! ## splitting at a pattern -/

section

variable [DecidableEq α]

/-- What stands before and after the first occurrence of `pat` (`split_once`). -/
def splitOnce (pat : List α) : List α → Option (List α × List α)
  | [] => if pat = [] then some ([], []) else none
  | c :: cs =>
    if pat.isPrefixOf (c :: cs) then some ([], (c :: cs).drop pat.length)
    else (splitOnce pat cs).map fun r => (c :: r.1, r.2)

/-- What stands before and after the last occurrence of `pat` (`rsplit_once`). -/
def rsplitOnce (pat : List α) : List α → Option (List α × List α)
  | [] => if pat = [] then some ([], []) else none
  | c :: cs =>
    match rsplitOnce pat cs with
    | some r => some (c :: r.1, r.2)
    | none =>
      if pat.isPrefixOf (c :: cs) then some ([], (c :: cs).drop pat.length) else none

/-- `pat` does not start inside `a`, even where it follows `a`. -/
def StartsAfter (pat a : List α) : Prop := ∀ l ∈ a.tails, l ≠ [] → ¬ pat <+: l ++ pat

instance (pat a : List α) : Decidable (StartsAfter pat a) :=
  inferInstanceAs (Decidable (∀ l ∈ a.tails, l ≠ [] → ¬ pat <+: l ++ pat))

/-- No proper end of `pat` is a start of it. -/
def Unbordered (pat : List α) : Prop := ∀ l ∈ pat.tails, l ≠ [] → l ≠ pat → ¬ l <+: pat

instance (pat : List α) : Decidable (Unbordered pat) :=
  inferInstanceAs (Decidable (∀ l ∈ pat.tails, l ≠ [] → l ≠ pat → ¬ l <+: pat))

omit [DecidableEq α] in

/-- An unbordered pattern that is not in `a` starts after it. -/
lemma Unbordered.startsAfter (hpat : Unbordered pat) (h : ¬ pat <:+: a) : StartsAfter pat a := by
  intro l hl hne hpre
  have hsuffix : l <:+ a := (mem_tails _ _).mp hl
  obtain ⟨t, ht⟩ := hpre
  rcases append_eq_append_iff.mp ht with ⟨u, hl, -⟩ | ⟨r, hr, hrpat⟩
  · have hin : pat <:+: l := ⟨[], u, hl.symm⟩
    exact h (hin.trans hsuffix.isInfix)
  · by_cases hnil : r = []
    · rw [hnil, append_nil] at hr
      exact h (hr ▸ hsuffix.isInfix)
    · refine hpat r ((mem_tails _ _).mpr ⟨l, hr.symm⟩) hnil ?_ ⟨t, hrpat.symm⟩
      intro heq
      have hlen := congrArg List.length hr
      rw [length_append, heq] at hlen
      exact hne (length_eq_zero_iff.mp (by omega))

lemma splitOnce_append (h : StartsAfter pat a) (b : List α) :
    splitOnce pat (a ++ (pat ++ b)) = some (a, b) := by
  induction a with
  | nil =>
    cases pat with
    | nil => cases b <;> simp [splitOnce]
    | cons p ps => simp [splitOnce]
  | cons c a ih =>
    have htail : StartsAfter pat a := fun l hl =>
      h l ((mem_tails _ _).mpr (((mem_tails _ _).mp hl).trans (suffix_cons c a)))
    have hnot : pat.isPrefixOf (c :: (a ++ (pat ++ b))) = false := by
      rw [← Bool.not_eq_true, List.isPrefixOf_iff_prefix]
      intro hpre
      refine h (c :: a) ((mem_tails _ _).mpr suffix_rfl) (by simp) ?_
      refine prefix_of_prefix_length_le hpre ?_ (by simp; omega)
      exact ⟨b, by simp⟩
    rw [cons_append, splitOnce, hnot, ih htail]
    rfl

variable {s : List α}

lemma eq_of_splitOnce (h : splitOnce pat s = some (a, b)) : s = a ++ (pat ++ b) := by
  induction s generalizing a with
  | nil =>
    unfold splitOnce at h
    split at h
    · next hpat => cases h; simp [hpat]
    · contradiction
  | cons c cs ih =>
    unfold splitOnce at h
    split at h
    · next hpre =>
        cases h
        exact (prefix_iff_eq_append.mp (List.isPrefixOf_iff_prefix.mp hpre)).symm
    · obtain ⟨r, hr, heq⟩ := Option.map_eq_some_iff.mp h
      cases heq
      rw [ih hr, cons_append]

lemma splitOnce_eq_none (h : ¬ pat <:+: s) : splitOnce pat s = none := by
  induction s with
  | nil =>
    have hne : pat ≠ [] := fun hnil => h (hnil ▸ nil_infix)
    exact if_neg hne
  | cons c cs ih =>
    have hnot : ¬ pat.isPrefixOf (c :: cs) = true := fun hpre =>
      h (List.isPrefixOf_iff_prefix.mp hpre).isInfix
    have hrest : ¬ pat <:+: cs := fun hin => h (hin.trans (suffix_cons c cs).isInfix)
    rw [splitOnce, if_neg hnot, ih hrest]
    rfl

lemma rsplitOnce_eq_none (h : ¬ pat <:+: s) : rsplitOnce pat s = none := by
  induction s with
  | nil =>
    have hne : pat ≠ [] := fun hnil => h (hnil ▸ nil_infix)
    exact if_neg hne
  | cons c cs ih =>
    have hnot : pat.isPrefixOf (c :: cs) = false := by
      rw [← Bool.not_eq_true, List.isPrefixOf_iff_prefix]
      exact fun hpre => h hpre.isInfix
    have hrest : ¬ pat <:+: cs := fun hin => h (hin.trans (suffix_cons c cs).isInfix)
    simp [rsplitOnce, ih hrest, hnot]

/-- An unbordered pattern is last where nothing after it holds it. -/
lemma rsplitOnce_append (hne : pat ≠ []) (hpat : Unbordered pat) (h : ¬ pat <:+: b) (a : List α) :
    rsplitOnce pat (a ++ (pat ++ b)) = some (a, b) := by
  induction a with
  | cons c a ih =>
    rw [cons_append, rsplitOnce, ih]
  | nil =>
    obtain ⟨p, ps, rfl⟩ := exists_cons_of_ne_nil hne
    -- an occurrence in what follows the first element would be a border of the pattern
    have hrest : ¬ (p :: ps) <:+: ps ++ b := by
      intro hin
      rcases infix_append hin with hps | hb | ⟨l, r, hl, hr, heq, hsuffix, -⟩
      · have := hps.length_le
        simp at this
      · exact h hb
      · refine hpat l ((mem_tails _ _).mpr (hsuffix.trans (suffix_cons p ps))) hl ?_ ?_
        · intro hsame
          have hlen := congrArg List.length heq
          rw [length_append, hsame] at hlen
          exact hr (length_eq_zero_iff.mp (by omega))
        · exact ⟨r, heq.symm⟩
    have hnone : rsplitOnce (p :: ps) (ps ++ b) = none := rsplitOnce_eq_none hrest
    simp [rsplitOnce, hnone]

end

end Text

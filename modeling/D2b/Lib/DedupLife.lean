import D2b.Lib.Run

/-!
# D2b.Lib.DedupLife

The life of one key of a deduplication table.  A key is free, or it has an
entry: its work is in progress, or completed with a result that is replayed
for a retention time, or expired, and then the key is refused until a horizon
has passed and the entry may be dropped.

The labels of a run are those of the whole table; a `Reading` says what each
means for the key.  Two theorems follow from the moves of an entry.  A key is
taken again only after its work failed, or was completed long ago
(`at_most_once`), wherever the run began, and a completed entry is what the last acceptance and its
completion made it (`completed_backed`).
-/

namespace DedupLife

open List

variable {ε φ ω ρ : Type}

/-- What the labels of a run mean for one key: when they happen, and whether
they accept work under a fingerprint for an owner, complete the work under a
fingerprint with a result, or fail the work under a fingerprint. -/
structure Reading (ε φ ω ρ : Type) where
  time : ε → Nat
  accepted : ε → Option (φ × ω)
  completed : ε → Option (φ × ρ)
  failed : ε → Option φ

/-- Where the work of an entry stands. -/
inductive State (ρ : Type) where
  | inProgress
  | completed (result : ρ) (since : Nat)
  | expired (since : Nat)

structure Entry (φ ω ρ : Type) where
  fingerprint : φ
  owner : ω
  state : State ρ

section

variable (rd : Reading ε φ ω ρ) (retention horizon : Nat)

/-- What a label may do to a key. -/
inductive Moves (e : ε) : Option (Entry φ ω ρ) → Option (Entry φ ω ρ) → Prop
  | stays (hidle : rd.accepted e = none) : Moves e x x
  | accepts (h : rd.accepted e = some (fingerprint, owner)) :
      Moves e none (some ⟨fingerprint, owner, .inProgress⟩)
  | completes {entry : Entry φ ω ρ} {result} (hidle : rd.accepted e = none)
      (hstate : entry.state = .inProgress) (h : rd.completed e = some (entry.fingerprint, result)) :
      Moves e (some entry) (some { entry with state := .completed result (rd.time e) })
  | fails {entry : Entry φ ω ρ} (hidle : rd.accepted e = none)
      (hstate : entry.state = .inProgress) (h : rd.failed e = some entry.fingerprint) :
      Moves e (some entry) none
  | expires {entry : Entry φ ω ρ} {result since} (hidle : rd.accepted e = none)
      (hstate : entry.state = .completed result since) (hage : since + retention < rd.time e) :
      Moves e (some entry) (some { entry with state := .expired (rd.time e) })
  | drops {entry : Entry φ ω ρ} {since} (hidle : rd.accepted e = none)
      (hstate : entry.state = .expired since) (hage : since + horizon < rd.time e) :
      Moves e (some entry) none

/-- A label moves the key, no earlier than the labels before it. -/
def Step (h : List ε) (x : Option (Entry φ ω ρ)) (e : ε) (x' : Option (Entry φ ω ρ)) : Prop :=
  (∀ e' ∈ h, rd.time e' ≤ rd.time e) ∧ Moves rd retention horizon e x x'

/-- After an acceptance under `fingerprint`, the labels `h` gave the key free:
the work failed, or it was completed and its retention and horizon passed. -/
def Released (fingerprint : φ) (h : List ε) : Prop :=
  (∃ h₁ f h₂, h = h₁ ++ f :: h₂ ∧ (∀ e ∈ h₁, rd.accepted e = none) ∧
    rd.failed f = some fingerprint) ∨
  ∃ h₁ c h₂ result, h = h₁ ++ c :: h₂ ∧ (∀ e ∈ h₁, rd.accepted e = none) ∧
    rd.completed c = some (fingerprint, result) ∧
    ∃ e ∈ h₂, rd.time c + retention + horizon < rd.time e

/-- What the labels `h` since its acceptance made of an entry. -/
def Backed (entry : Entry φ ω ρ) (h : List ε) : Prop :=
  match entry.state with
  | .inProgress => True
  | .completed result since => ∃ c ∈ h,
      rd.completed c = some (entry.fingerprint, result) ∧ rd.time c = since
  | .expired since => ∃ c ∈ h, ∃ result,
      rd.completed c = some (entry.fingerprint, result) ∧ rd.time c + retention < since

/-- The entry is that of the acceptance `a`, with the labels `h` after it. -/
structure Held (entry : Entry φ ω ρ) (a : ε) (h : List ε) : Prop where
  accepted : rd.accepted a = some (entry.fingerprint, entry.owner)
  idle : ∀ e ∈ h, rd.accepted e = none
  backed : Backed rd retention entry h

end

variable {rd : Reading ε φ ω ρ} {retention horizon : Nat}

variable {fingerprint : φ} {h : List ε}

lemma Released.snoc (hr : Released rd retention horizon fingerprint h) (e : ε) :
    Released rd retention horizon fingerprint (h ++ [e]) := by
  rcases hr with ⟨h₁, f, h₂, rfl, hidle, hfailed⟩ |
    ⟨h₁, c, h₂, result, rfl, hidle, hcompleted, e', he', hlate⟩
  · exact .inl ⟨h₁, f, h₂ ++ [e], by simp, hidle, hfailed⟩
  · exact .inr ⟨h₁, c, h₂ ++ [e], result, by simp, hidle, hcompleted, e',
      mem_append_left _ he', hlate⟩

lemma Backed.snoc (hb : Backed rd retention entry h) (e : ε) :
    Backed rd retention entry (h ++ [e]) := by
  unfold Backed at hb ⊢
  cases hstate : entry.state with
  | inProgress => trivial
  | completed _ _ | expired _ =>
    rw [hstate] at hb
    obtain ⟨c, hc, hrest⟩ := hb
    exact ⟨c, mem_append_left _ hc, hrest⟩

variable {x : Option (Entry φ ω ρ)}

/-- A held entry stays held, or its key is given free. -/
lemma Held.step (hheld : Held rd retention entry a h)
    (hmove : Moves rd retention horizon e (some entry) x) :
    (∃ entry', x = some entry' ∧ Held rd retention entry' a (h ++ [e])) ∨
    x = none ∧ Released rd retention horizon entry.fingerprint (h ++ [e]) := by
  have hidle : rd.accepted e = none → ∀ e' ∈ h ++ [e], rd.accepted e' = none := by
    exact fun he => Trace.forall_mem_snoc.mpr ⟨hheld.idle, he⟩
  have hbacked := hheld.backed
  cases hmove with
  | stays he => exact .inl ⟨entry, rfl, hheld.accepted, hidle he, hbacked.snoc e⟩
  | completes he hstate hcompleted =>
    exact .inl ⟨_, rfl, hheld.accepted, hidle he, e, by simp, hcompleted, rfl⟩
  | fails he hstate hfailed => exact .inr ⟨rfl, .inl ⟨h, e, [], rfl, hheld.idle, hfailed⟩⟩
  | @expires _ result since he hstate hage =>
    unfold Backed at hbacked
    rw [hstate] at hbacked
    obtain ⟨c, hc, hcompleted, rfl⟩ := hbacked
    exact .inl ⟨_, rfl, hheld.accepted, hidle he, c, mem_append_left _ hc, result, hcompleted, hage⟩
  | @drops _ since he hstate hage =>
    unfold Backed at hbacked
    rw [hstate] at hbacked
    obtain ⟨c, hc, result, hcompleted, hexpired⟩ := hbacked
    obtain ⟨h₁, h₂, rfl⟩ := append_of_mem hc
    refine .inr ⟨rfl, .inr ⟨h₁, c, h₂ ++ [e], result, by simp, ?_, hcompleted, e, by simp, ?_⟩⟩
    · exact fun e' hmem => hheld.idle e' (mem_append_left _ hmem)
    · omega

/-! ## runs -/

/-- Each acceptance in a history was released, or holds the entry. -/
def Accounted (rd : Reading ε φ ω ρ) (retention horizon : Nat) (h : List ε)
    (x : Option (Entry φ ω ρ)) : Prop :=
  ∀ h₁ a h₂ fingerprint owner, h = h₁ ++ a :: h₂ → rd.accepted a = some (fingerprint, owner) →
    Released rd retention horizon fingerprint h₂ ∨
    ∃ entry, x = some entry ∧ Held rd retention entry a h₂

/-- An entry is held by an acceptance in the history. -/
def Owned (rd : Reading ε φ ω ρ) (retention : Nat) (h : List ε) (x : Option (Entry φ ω ρ)) : Prop :=
  ∀ entry, x = some entry → ∃ h₁ a h₂, h = h₁ ++ a :: h₂ ∧ Held rd retention entry a h₂

/-- A label that accepts finds the key free. -/
lemma Moves.eq_none (hmove : Moves rd retention horizon e x x')
    (h : rd.accepted e = some (fingerprint, owner)) :
    x = none ∧ x' = some ⟨fingerprint, owner, .inProgress⟩ := by
  cases hmove with
  | accepts h' =>
    cases h.symm.trans h'
    exact ⟨rfl, rfl⟩
  | stays hidle | completes hidle | fails hidle | expires hidle | drops hidle =>
    rw [hidle] at h
    contradiction

lemma Moves.of_none (hmove : Moves rd retention horizon e none x) (h : x = some entry) :
    rd.accepted e = some (entry.fingerprint, entry.owner) ∧ entry.state = .inProgress := by
  cases hmove with
  | stays => contradiction
  | accepts h' =>
    cases h
    exact ⟨h', rfl⟩

lemma Accounted.step (hacc : Accounted rd retention horizon h x)
    (hmove : Moves rd retention horizon e x x') : Accounted rd retention horizon (h ++ [e]) x' := by
  intro h₁ a h₂ fingerprint owner heq ha
  rcases Trace.snoc_eq_append_cons heq with ⟨rfl, rfl, rfl⟩ | ⟨h₃, rfl, rfl⟩
  · -- the acceptance is the last label
    obtain ⟨-, hx'⟩ := hmove.eq_none ha
    exact .inr ⟨_, hx', ha, by simp, trivial⟩
  · rcases hacc h₁ a h₃ fingerprint owner rfl ha with hreleased | ⟨entry, rfl, hheld⟩
    · exact .inl (hreleased.snoc e)
    · cases hheld.accepted.symm.trans ha
      rcases hheld.step hmove with hkept | ⟨-, hreleased⟩
      · exact .inr hkept
      · exact .inl hreleased

lemma Owned.step (howned : Owned rd retention h x) (hmove : Moves rd retention horizon e x x') :
    Owned rd retention (h ++ [e]) x' := by
  intro entry' hx'
  cases x with
  | none =>
    obtain ⟨ha, hstate⟩ := hmove.of_none hx'
    refine ⟨h, e, [], rfl, ha, by simp, ?_⟩
    unfold Backed
    rw [hstate]
    trivial
  | some entry =>
    obtain ⟨h₁, a, h₂, rfl, hheld⟩ := howned entry rfl
    rcases hheld.step hmove with ⟨entry'', hx'', hheld'⟩ | ⟨hnone, -⟩
    · cases hx'.symm.trans hx''
      exact ⟨h₁, a, h₂ ++ [e], by simp, hheld'⟩
    · rw [hnone] at hx'
      contradiction

lemma accounted_of_run (r : Trace.Run init (Step rd retention horizon) h x) :
    Accounted rd retention horizon h x := by
  refine r.invariant (I := Accounted rd retention horizon) ?_ ?_
  · intro x _ h₁ a h₂ fingerprint owner heq
    simp at heq
  · rintro h x e x' - hacc ⟨-, hmove⟩
    exact hacc.step hmove

lemma owned_of_run (r : Trace.Run (· = none) (Step rd retention horizon) h x) :
    Owned rd retention h x := by
  refine r.invariant (I := Owned rd retention) ?_ ?_
  · rintro _ rfl entry hentry
    contradiction
  · rintro h x e x' - howned ⟨-, hmove⟩
    exact howned.step hmove

/-- When the key is taken again, the work accepted before has failed, or it was
completed more than retention and horizon before. -/
lemma at_most_once (r : Trace.Run init (Step rd retention horizon) (h₁ ++ a :: h₂) x)
    (hstep : Step rd retention horizon (h₁ ++ a :: h₂) x b x')
    (ha : rd.accepted a = some (fingerprint, owner)) (hb : rd.accepted b = some second) :
    (∃ m₁ f m₂, h₂ = m₁ ++ f :: m₂ ∧ (∀ e ∈ m₁, rd.accepted e = none) ∧
      rd.failed f = some fingerprint) ∨
    ∃ m₁ c m₂ result, h₂ = m₁ ++ c :: m₂ ∧ (∀ e ∈ m₁, rd.accepted e = none) ∧
      rd.completed c = some (fingerprint, result) ∧
      rd.time c + retention + horizon < rd.time b := by
  obtain ⟨hclock, hmove⟩ := hstep
  obtain ⟨hfree, -⟩ := hmove.eq_none hb
  rcases accounted_of_run r h₁ a h₂ fingerprint owner rfl ha with hreleased | ⟨entry, hx, -⟩
  · rcases hreleased with hfailed | ⟨m₁, c, m₂, result, rfl, hidle, hcompleted, e, he, hlate⟩
    · exact .inl hfailed
    · have hle : rd.time e ≤ rd.time b := hclock e (by simp [he])
      exact .inr ⟨m₁, c, m₂, result, rfl, hidle, hcompleted, Nat.lt_of_lt_of_le hlate hle⟩
  · rw [hfree] at hx
    contradiction

/-- A completed entry has the owner of the last acceptance and the result of
its completion. -/
lemma completed_backed (r : Trace.Run (· = none) (Step rd retention horizon) h (some entry))
    (hstate : entry.state = .completed result since) :
    ∃ h₁ a h₂ c, h = h₁ ++ a :: h₂ ∧ rd.accepted a = some (entry.fingerprint, entry.owner) ∧
      (∀ e ∈ h₂, rd.accepted e = none) ∧ c ∈ h₂ ∧
      rd.completed c = some (entry.fingerprint, result) := by
  obtain ⟨h₁, a, h₂, rfl, hheld⟩ := owned_of_run r entry rfl
  have hbacked := hheld.backed
  unfold Backed at hbacked
  rw [hstate] at hbacked
  obtain ⟨c, hc, hcompleted, -⟩ := hbacked
  exact ⟨h₁, a, h₂, c, rfl, hheld.accepted, hheld.idle, hc, hcompleted⟩

end DedupLife

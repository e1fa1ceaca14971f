import D2b.Lib.Kahn

/-!
# D2b.Lib.PostOrder

Collecting the predecessors of a node depth first with a shared set of seen nodes.

Each node is resolved when it is first met; one that resolves to nothing is not
collected, and its own predecessors are not looked at.  A node that resolves is
collected behind its predecessors.  Over acyclic edges the result is what is
reached backwards along edges whose sources resolve, in an order that follows these
edges.
-/

namespace PostOrder

open Relation List

variable {α : Type*} {β : Type*} [DecidableEq α]

structure State (α : Type*) (β : Type*) where
  seen : Finset α
  out : List β

/-- Take a predecessor, unless it was seen before. -/
def take (resolve : α → Option β) (descend : α → State α β → State α β) (s : State α β) (p : α) :
    State α β :=
  if p ∈ s.seen then s
  else
    let s := { s with seen := insert p s.seen }
    match resolve p with
    | none => s
    | some b =>
      let s := descend p s
      { s with out := s.out ++ [b] }

/-- The sources of the edges into a node. -/
def sources (edges : List (α × α)) (x : α) : List α :=
  (edges.filter fun e => decide (e.2 = x)).map Prod.fst

/-- The recursion goes at most `fuel` deep. -/
def collect (edges : List (α × α)) (resolve : α → Option β) : Nat → α → State α β → State α β
  | 0, _, s => s
  | fuel + 1, x, s => (sources edges x).foldl (take resolve (collect edges resolve fuel)) s

variable {edges : List (α × α)} {resolve : α → Option β} {key : β → α}

/-- The edges whose sources resolve. -/
def live (edges : List (α × α)) (resolve : α → Option β) : List (α × α) :=
  edges.filter fun e => (resolve e.1).isSome

lemma mem_sources : p ∈ sources edges x ↔ (p, x) ∈ edges := by
  simp [sources]

omit [DecidableEq α] in
lemma edge_live :
    Kahn.Edge (live edges resolve) x y ↔ (x, y) ∈ edges ∧ (resolve x).isSome = true := by
  simp [Kahn.Edge, live]

def State.nodes (key : β → α) (s : State α β) : List α := s.out.map key

/-- The nodes in `stack` are met but not yet collected. -/
structure Inv (edges : List (α × α)) (resolve : α → Option β) (key : β → α) (stack : List α)
    (s : State α β) : Prop where
  nodup : (s.nodes key).Nodup
  seen : ∀ x ∈ s.nodes key, x ∈ s.seen
  resolved : ∀ b ∈ s.out, resolve (key b) = some b
  kept : ∀ x ∈ s.seen, (resolve x).isSome = true → x ∈ s.nodes key ∨ x ∈ stack
  ordered : Kahn.Ordered (live edges resolve) (s.nodes key)

/-- Only nodes that reach `x` along live edges are added. -/
structure Grows (edges : List (α × α)) (resolve : α → Option β) (key : β → α) (x : α)
    (s s' : State α β) : Prop where
  seen : s.seen ⊆ s'.seen
  out : ∃ new, s'.out = s.out ++ new ∧
    ∀ b ∈ new, TransGen (Kahn.Edge (live edges resolve)) (key b) x

section

omit [DecidableEq α]

lemma Grows.refl (x : α) (s : State α β) : Grows edges resolve key x s s :=
  ⟨Finset.Subset.refl _, [], (append_nil _).symm, by simp⟩

lemma Grows.trans (h : Grows edges resolve key x s t) (h' : Grows edges resolve key x t u) :
    Grows edges resolve key x s u := by
  obtain ⟨new, hout, hnew⟩ := h.out
  obtain ⟨new', hout', hnew'⟩ := h'.out
  refine ⟨h.seen.trans h'.seen, new ++ new', by rw [hout', hout, append_assoc], ?_⟩
  intro b hb
  cases mem_append.mp hb with
  | inl hold => exact hnew b hold
  | inr hadded => exact hnew' b hadded

lemma Grows.mem_nodes (h : Grows edges resolve key x s s') (hy : y ∈ s.nodes key) :
    y ∈ s'.nodes key := by
  obtain ⟨new, hout, -⟩ := h.out
  rw [State.nodes, hout, map_append]
  exact mem_append_left _ hy

end

/-- The nodes that may still be met. -/
def unseen (edges : List (α × α)) (s : State α β) : Finset α :=
  (edges.map Prod.fst).toFinset \ s.seen

lemma Grows.card_unseen_le (h : Grows edges resolve key x s s') :
    (unseen edges s').card ≤ (unseen edges s).card :=
  Finset.card_le_card (Finset.sdiff_subset_sdiff (Finset.Subset.refl _) h.seen)

lemma card_unseen_insert (hedge : (p, x) ∈ edges) (hp : p ∉ s.seen) :
    (unseen edges { s with seen := insert p s.seen }).card < (unseen edges s).card := by
  have hmem : p ∈ unseen edges s := by
    simp only [unseen, Finset.mem_sdiff, mem_toFinset, mem_map]
    exact ⟨⟨_, hedge, rfl⟩, hp⟩
  have herase : unseen edges { s with seen := insert p s.seen } = (unseen edges s).erase p := by
    ext y
    simp only [unseen, Finset.mem_sdiff, Finset.mem_insert, Finset.mem_erase, not_or]
    tauto
  rw [herase]
  exact Finset.card_erase_lt_of_mem hmem

/-- What `collect` does for `x`, met below the nodes of `stack`. -/
def Collects (edges : List (α × α)) (resolve : α → Option β) (key : β → α) (x : α)
    (stack : List α) (s s' : State α β) : Prop :=
  Inv edges resolve key stack s' ∧ Grows edges resolve key x s s' ∧
    ∀ p, Kahn.Edge (live edges resolve) p x → p ∈ s'.nodes key

/-- With more fuel than unseen nodes, and below nodes that `x` reaches. -/
def Descends (edges : List (α × α)) (resolve : α → Option β) (key : β → α) (fuel : Nat) : Prop :=
  ∀ (x : α) (stack : List α) (s : State α β), (unseen edges s).card < fuel →
    Inv edges resolve key stack s →
    (∀ r ∈ stack, ReflTransGen (Kahn.Edge (live edges resolve)) x r) →
    Collects edges resolve key x stack s (collect edges resolve fuel x s)

section

variable (hkey : ∀ p b, resolve p = some b → key b = p)
  (hacyclic : Kahn.Acyclic (live edges resolve))

include hkey hacyclic

/-- The node `p` is collected when the descent for it returns. -/
lemma Inv.push (h : Inv edges resolve key stack s) (hp : p ∉ s.seen) (hb : resolve p = some b)
    (ht : Collects edges resolve key p (p :: stack) { s with seen := insert p s.seen } t) :
    Inv edges resolve key stack { t with out := t.out ++ [b] } := by
  obtain ⟨hinv, hgrows, hbefore⟩ := ht
  obtain ⟨new, hout, hnew⟩ := hgrows.out
  have hkeyb : key b = p := hkey p b hb
  have hnodes : State.nodes key { t with out := t.out ++ [b] } = t.nodes key ++ [p] := by
    simp [State.nodes, hkeyb]
  have hfresh : p ∉ t.nodes key := by
    intro hmem
    rw [State.nodes, hout, map_append] at hmem
    cases mem_append.mp hmem with
    | inl hold => exact hp (h.seen p hold)
    | inr hadded =>
      obtain ⟨b', hb', heq⟩ := mem_map.mp hadded
      have hpath := hnew b' hb'
      rw [heq] at hpath
      exact hacyclic p hpath
  refine ⟨?_, ?_, ?_, ?_, ?_⟩
  · rw [hnodes, ← concat_eq_append, nodup_concat]
    exact ⟨hfresh, hinv.nodup⟩
  · intro x hx
    rw [hnodes, Trace.mem_snoc] at hx
    cases hx with
    | inl hold => exact hinv.seen x hold
    | inr heq => exact hgrows.seen (heq ▸ Finset.mem_insert_self p s.seen)
  · intro b' hb'
    cases Trace.mem_snoc.mp hb' with
    | inl hold => exact hinv.resolved b' hold
    | inr heq =>
      rw [heq, hkeyb]
      exact hb
  · intro x hx hsome
    rw [hnodes]
    cases hinv.kept x hx hsome with
    | inl hold => exact .inl (mem_append_left _ hold)
    | inr hstack =>
      cases mem_cons.mp hstack with
      | inl heq => exact .inl (heq ▸ mem_concat_self)
      | inr hbelow => exact .inr hbelow
  · rw [hnodes]
    exact hinv.ordered.snoc hbefore

section

variable {x : α} {stack : List α} (hdescend : Descends edges resolve key fuel)
  (hstack : ∀ r ∈ stack, ReflTransGen (Kahn.Edge (live edges resolve)) x r)
include hdescend hstack

/-- One predecessor of `x`, given what the descent does. -/
lemma take_spec (hedge : (p, x) ∈ edges) (hfuel : (unseen edges s).card < fuel + 1)
    (h : Inv edges resolve key stack s) :
    Inv edges resolve key stack (take resolve (collect edges resolve fuel) s p) ∧
      Grows edges resolve key x s (take resolve (collect edges resolve fuel) s p) ∧
      ((resolve p).isSome = true →
        p ∈ (take resolve (collect edges resolve fuel) s p).nodes key) := by
  by_cases hp : p ∈ s.seen
  · rw [take, if_pos hp]
    refine ⟨h, .refl x s, fun hsome => ?_⟩
    cases h.kept p hp hsome with
    | inl hmem => exact hmem
    | inr hmem =>
      -- a predecessor that is still being collected closes a cycle
      have hcycle := TransGen.head' (edge_live.mpr ⟨hedge, hsome⟩) (hstack p hmem)
      exact absurd hcycle (hacyclic p)
  · rw [take, if_neg hp]
    have hsub : s.seen ⊆ insert p s.seen := Finset.subset_insert p s.seen
    cases hres : resolve p with
    | none =>
      refine ⟨⟨h.nodup, fun y hy => hsub (h.seen y hy), h.resolved, ?_, h.ordered⟩,
        ⟨hsub, [], (append_nil _).symm, by simp⟩, by simp⟩
      intro y hy hsome
      cases Finset.mem_insert.mp hy with
      | inl heq => simp [heq, hres] at hsome
      | inr hold => exact h.kept y hold hsome
    | some b =>
      have hact : Kahn.Edge (live edges resolve) p x := edge_live.mpr ⟨hedge, by simp [hres]⟩
      have hstart : Inv edges resolve key (p :: stack) { s with seen := insert p s.seen } := by
        refine ⟨h.nodup, fun y hy => hsub (h.seen y hy), h.resolved, ?_, h.ordered⟩
        intro y hy hsome
        cases Finset.mem_insert.mp hy with
        | inl heq => exact .inr (heq ▸ mem_cons_self)
        | inr hold => exact (h.kept y hold hsome).imp_right (mem_cons_of_mem p)
      have hcard := card_unseen_insert hedge hp
      have hbelow : ∀ r ∈ p :: stack, ReflTransGen (Kahn.Edge (live edges resolve)) p r := by
        intro r hr
        cases mem_cons.mp hr with
        | inl heq => exact heq ▸ .refl
        | inr hmem => exact .head hact (hstack r hmem)
      have ht := hdescend p (p :: stack) _ (by omega) hstart hbelow
      refine ⟨h.push hkey hacyclic hp hres ht, ?_, fun _ => ?_⟩
      · obtain ⟨new, hout, hnew⟩ := ht.2.1.out
        refine ⟨hsub.trans ht.2.1.seen, new ++ [b], by simp [hout], ?_⟩
        intro b' hb'
        cases Trace.mem_snoc.mp hb' with
        | inl hold => exact (hnew b' hold).tail hact
        | inr heq =>
          rw [heq, hkey p b hres]
          exact .single hact
      · simp [State.nodes, hkey p b hres]

/-- The predecessors of `x` one after the other. -/
lemma foldl_take_spec :
    ∀ (ps : List α) (s : State α β), (∀ p ∈ ps, (p, x) ∈ edges) →
      (unseen edges s).card < fuel + 1 → Inv edges resolve key stack s →
      Inv edges resolve key stack (ps.foldl (take resolve (collect edges resolve fuel)) s) ∧
        Grows edges resolve key x s (ps.foldl (take resolve (collect edges resolve fuel)) s) ∧
        ∀ p ∈ ps, (resolve p).isSome = true →
          p ∈ (ps.foldl (take resolve (collect edges resolve fuel)) s).nodes key := by
  intro ps
  induction ps with
  | nil => exact fun s _ _ h => ⟨h, .refl x s, by simp⟩
  | cons p ps ih =>
    intro s hps hfuel h
    obtain ⟨hinv, hgrows, hmem⟩ :=
      take_spec hkey hacyclic hdescend hstack (hps p mem_cons_self) hfuel h
    have hcard := hgrows.card_unseen_le
    obtain ⟨hinv', hgrows', hmem'⟩ :=
      ih _ (fun q hq => hps q (mem_cons_of_mem p hq)) (by omega) hinv
    refine ⟨hinv', hgrows.trans hgrows', fun q hq hsome => ?_⟩
    cases mem_cons.mp hq with
    | inl heq => exact hgrows'.mem_nodes (heq ▸ hmem (heq ▸ hsome))
    | inr hrest => exact hmem' q hrest hsome

end

/-- The descent, by induction on how deep it may go. -/
lemma descends (fuel : Nat) : Descends edges resolve key fuel := by
  induction fuel with
  | zero => exact fun x stack s hfuel => absurd hfuel (Nat.not_lt_zero _)
  | succ fuel ih =>
    intro x stack s hfuel h hstack
    obtain ⟨hinv, hgrows, hmem⟩ := foldl_take_spec hkey hacyclic ih hstack (sources edges x) s
      (fun p => mem_sources.mp) hfuel h
    refine ⟨hinv, hgrows, fun p hact => ?_⟩
    obtain ⟨hedge, hsome⟩ := edge_live.mp hact
    exact hmem p (mem_sources.mpr hedge) hsome

/-- From the empty state the result is what reaches `x` along live edges, each node
once and behind all that reach it. -/
lemma collect_start (x : α) :
    let s := collect edges resolve (edges.length + 1) x ⟨∅, []⟩
    (s.nodes key).Nodup ∧ Kahn.Ordered (live edges resolve) (s.nodes key) ∧
      (∀ b ∈ s.out, resolve (key b) = some b) ∧
      ∀ y, y ∈ s.nodes key ↔ TransGen (Kahn.Edge (live edges resolve)) y x := by
  intro s
  have hfuel : (unseen edges (⟨∅, []⟩ : State α β)).card < edges.length + 1 := by
    have hcard := (edges.map Prod.fst).toFinset_card_le
    rw [length_map] at hcard
    simp only [unseen, Finset.sdiff_empty]
    omega
  have hempty : Inv edges resolve key [] (⟨∅, []⟩ : State α β) :=
    ⟨nodup_nil, by simp [State.nodes], by simp, by simp, .nil _⟩
  obtain ⟨hinv, hgrows, hmem⟩ : Collects edges resolve key x [] ⟨∅, []⟩ s :=
    descends hkey hacyclic _ x [] _ hfuel hempty (by simp)
  refine ⟨hinv.nodup, hinv.ordered, hinv.resolved, fun y => ⟨fun hy => ?_, fun hy => ?_⟩⟩
  · obtain ⟨new, hout, hnew⟩ := hgrows.out
    obtain ⟨b, hb, rfl⟩ := mem_map.mp hy
    rw [hout, nil_append] at hb
    exact hnew b hb
  · obtain ⟨last, hpath, hedge⟩ := TransGen.tail'_iff.mp hy
    have hlast := hmem last hedge
    cases Relation.reflTransGen_iff_eq_or_transGen.mp hpath with
    | inl heq => exact heq ▸ hlast
    | inr htrans =>
      obtain ⟨before, after, heq⟩ := append_of_mem hlast
      rw [heq]
      exact mem_append_left _ (hinv.ordered.mem_of_transGen htrans before after heq)

end

end PostOrder

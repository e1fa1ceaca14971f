import Mathlib.Order.WellFoundedSet
import D2b.Lib.Run

/-!
# D2b.Lib.Kahn

Kahn's algorithm over a list of edges, parallel edges and self-loops included.

`loop` takes a node from the queue, appends it to the order and takes one off the
degree of each target of its edges; a target whose degree falls to zero is
queued.  Its invariant says that the degree of a node counts the edges from nodes
that are not yet in the order, and that the nodes seen are those of degree zero.
When the queue is empty the order is complete exactly if the edges are acyclic.
-/

namespace Kahn

open List

variable {α : Type*} [DecidableEq α]

structure State (α : Type*) where
  queue : List α
  sorted : List α
  degree : α → Nat

/-- Take one off the degree of `n`, and queue it if none is left. -/
def relax (s : State α) (n : α) : State α :=
  let degree := if s.degree n > 0 then Function.update s.degree n (s.degree n - 1) else s.degree
  if degree n = 0 ∧ n ∉ s.sorted ∧ n ∉ s.queue then
    { s with queue := s.queue ++ [n], degree }
  else { s with degree }

/-- The next node of the queue goes to the order. -/
def visit (next : α → List α) (s : State α) (id : α) (queue : List α) : State α :=
  (next id).foldl relax { s with queue, sorted := s.sorted ++ [id] }

/-- At most `fuel` rounds. -/
def loop (next : α → List α) : Nat → State α → State α
  | 0, s => s
  | fuel + 1, s =>
    match s.queue with
    | [] => s
    | id :: queue => loop next fuel (visit next s id queue)

lemma sorted_relax (s : State α) (n : α) : (relax s n).sorted = s.sorted := by
  unfold relax
  dsimp only
  split <;> split <;> rfl

lemma sorted_visit (next : α → List α) (s : State α) (id : α) :
    (visit next s id queue).sorted = s.sorted ++ [id] := by
  have hfold : ∀ (rest : List α) (s : State α), (rest.foldl relax s).sorted = s.sorted := by
    intro rest
    induction rest with
    | nil => exact fun _ => rfl
    | cons n rest ih => exact fun s => (ih (relax s n)).trans (sorted_relax s n)
  exact hfold (next id) _

/-! ## orders -/

variable {edges : List (α × α)}

/-- The edges, as a relation. -/
def Edge (edges : List (α × α)) (x y : α) : Prop := (x, y) ∈ edges

/-- No node reaches itself. -/
def Acyclic (edges : List (α × α)) : Prop := ∀ x, ¬ Relation.TransGen (Edge edges) x x

/-- The source of every edge stands before its target. -/
def Ordered (edges : List (α × α)) (order : List α) : Prop :=
  ∀ before x after, order = before ++ x :: after → ∀ y, Edge edges y x → y ∈ before

section

omit [DecidableEq α]

lemma Ordered.nil (edges : List (α × α)) : Ordered edges [] := by
  intro before x after h
  simp at h

lemma Ordered.snoc {id : α} (h : Ordered edges order) (hid : ∀ y, Edge edges y id → y ∈ order) :
    Ordered edges (order ++ [id]) := by
  intro before x after heq y hy
  rcases Trace.snoc_eq_append_cons heq with ⟨rfl, rfl, -⟩ | ⟨mid, -, horder⟩
  · exact hid y hy
  · exact h before x mid horder y hy

/-- Everything that reaches a node of the order stands before it. -/
lemma Ordered.mem_of_transGen (h : Ordered edges order)
    (hxy : Relation.TransGen (Edge edges) x y) :
    ∀ before after, order = before ++ y :: after → x ∈ before := by
  induction hxy with
  | single hedge => exact fun before after heq => h before _ after heq x hedge
  | @tail z y _ hedge ih =>
    intro before after heq
    have hz : z ∈ before := h before y after heq z hedge
    obtain ⟨before', mid, rfl⟩ := append_of_mem hz
    have hx := ih before' (mid ++ y :: after) (by rw [heq]; simp)
    exact mem_append_left _ hx

/-- Nodes that can be ordered have no cycle. -/
lemma acyclic_of_ordered (hnodup : order.Nodup) (hends : ∀ x y, Edge edges x y → y ∈ order)
    (h : Ordered edges order) : Acyclic edges := by
  intro x hx
  have hmem : x ∈ order := by
    obtain ⟨y, -, hedge⟩ := Relation.TransGen.tail'_iff.mp hx
    exact hends y x hedge
  obtain ⟨before, after, heq⟩ := append_of_mem hmem
  have hin := h.mem_of_transGen hx before after heq
  rw [heq] at hnodup
  exact (nodup_append.mp hnodup).2.2 x hin x mem_cons_self rfl

/-- Edges that go up in rank have no cycle. -/
lemma acyclic_of_rank (rank : α → Nat) (h : ∀ e ∈ edges, rank e.1 < rank e.2) :
    Acyclic edges := by
  have hup : ∀ x y, Relation.TransGen (Edge edges) x y → rank x < rank y := by
    intro x y hxy
    induction hxy with
    | single hedge => exact h _ hedge
    | tail hpath hedge ih => exact ih.trans (h _ hedge)
  exact fun x hx => absurd (hup x x hx) (Nat.lt_irrefl _)

end

/-! ## the invariant -/

/-- How many edges into `n` come from nodes outside the order. -/
def blocked (edges : List (α × α)) (sorted : List α) (n : α) : Nat :=
  edges.countP fun e => decide (e.2 = n ∧ e.1 ∉ sorted)

/-- The targets of the edges out of a node. -/
def targets (edges : List (α × α)) (id : α) : List α :=
  (edges.filter fun e => decide (e.1 = id)).map Prod.snd

lemma blocked_nil (edges : List (α × α)) (n : α) :
    blocked edges [] n = edges.countP fun e => decide (e.2 = n) := by
  simp [blocked]

variable {sorted : List α}

lemma blocked_eq_zero {n : α} :
    blocked edges sorted n = 0 ↔ ∀ y, Edge edges y n → y ∈ sorted := by
  simp only [blocked, countP_eq_zero, decide_eq_true_eq, not_and, not_not]
  constructor
  · intro h y hedge
    exact h (y, n) hedge rfl
  · intro h e he heq
    exact h e.1 (by rw [Edge, ← heq]; exact he)

lemma blocked_cons (sorted : List α) :
    blocked (e :: edges) sorted n =
      blocked edges sorted n + if e.2 = n ∧ e.1 ∉ sorted then 1 else 0 := by
  simp only [blocked, countP_cons, decide_eq_true_eq]

lemma count_targets_cons (id : α) :
    (targets (e :: edges) id).count n =
      (targets edges id).count n + if e.1 = id ∧ e.2 = n then 1 else 0 := by
  by_cases hfrom : e.1 = id
  · by_cases hto : e.2 = n
    · simp [targets, hfrom, hto]
    · simp [targets, hfrom, hto]
  · simp [targets, hfrom]

/-- A node that joins the order unblocks the targets of its edges. -/
lemma blocked_snoc {id : α} (hid : id ∉ sorted) :
    blocked edges sorted n = blocked edges (sorted ++ [id]) n + (targets edges id).count n := by
  induction edges with
  | nil => rfl
  | cons e edges ih =>
    rw [blocked_cons, blocked_cons, count_targets_cons, ih]
    by_cases hfrom : e.1 = id
    · have hin : e.1 ∉ sorted := hfrom ▸ hid
      simp [hfrom, hid]
      omega
    · simp [hfrom]
      omega

/-- The nodes seen are nodes, each once, and are those of degree zero. -/
structure Seen (ids : List α) (s : State α) : Prop where
  nodup : (s.sorted ++ s.queue).Nodup
  mem : ∀ x ∈ s.sorted ++ s.queue, x ∈ ids
  ready : ∀ n ∈ ids, n ∈ s.sorted ++ s.queue ↔ s.degree n = 0

structure Inv (edges : List (α × α)) (ids : List α) (s : State α) : Prop where
  seen : Seen ids s
  degree : ∀ n, s.degree n = blocked edges s.sorted n
  ordered : Ordered edges s.sorted

/-! ### one round -/

/-- While the targets of a node are relaxed: the degrees still count the targets
to come. -/
structure Relaxing (edges : List (α × α)) (ids sorted : List α) (rest : List α) (s : State α) :
    Prop where
  seen : Seen ids s
  same : s.sorted = sorted
  degree : ∀ n, s.degree n = blocked edges sorted n + rest.count n

lemma Relaxing.relax (h : Relaxing edges ids sorted (n :: rest) s) (hn : n ∈ ids) :
    Relaxing edges ids sorted rest (relax s n) := by
  have hpos : s.degree n > 0 := by
    rw [h.degree, count_cons_self]
    omega
  have hunseen : n ∉ s.sorted ++ s.queue := fun hmem =>
    absurd ((h.seen.ready n hn).mp hmem) (Nat.ne_of_gt hpos)
  have hdegree : ∀ m, Function.update s.degree n (s.degree n - 1) m =
      blocked edges sorted m + rest.count m := by
    intro m
    by_cases hm : m = n
    · rw [hm, Function.update_self, h.degree, count_cons_self]
      omega
    · rw [Function.update_of_ne hm, h.degree, count_cons_of_ne (fun heq => hm heq.symm)]
  have hother : ∀ m, m ≠ n → Function.update s.degree n (s.degree n - 1) m = s.degree m :=
    fun m hm => Function.update_of_ne hm _ _
  unfold Kahn.relax
  rw [if_pos hpos]
  by_cases hzero : Function.update s.degree n (s.degree n - 1) n = 0
  · -- the last edge into `n`: it is queued
    rw [if_pos ⟨hzero, not_or.mp (mt mem_append.mpr hunseen)⟩]
    refine ⟨⟨?_, ?_, ?_⟩, h.same, hdegree⟩
    · rw [← append_assoc, ← concat_eq_append, nodup_concat]
      exact ⟨hunseen, h.seen.nodup⟩
    · rw [← append_assoc]
      exact Trace.forall_mem_snoc.mpr ⟨h.seen.mem, hn⟩
    · intro m hm
      rw [← append_assoc, Trace.mem_snoc]
      by_cases heq : m = n
      · simp only [heq, hzero, or_true]
      · dsimp only
        rw [hother m heq, ← h.seen.ready m hm]
        simp [heq]
  · rw [if_neg fun hall => hzero hall.1]
    refine ⟨⟨h.seen.nodup, h.seen.mem, ?_⟩, h.same, hdegree⟩
    intro m hm
    by_cases heq : m = n
    · rw [heq]
      exact iff_of_false hunseen hzero
    · dsimp only
      rw [h.seen.ready m hm, hother m heq]

lemma Relaxing.foldl {ids : List α} :
    ∀ {rest : List α} {s : State α}, (∀ n ∈ rest, n ∈ ids) → Relaxing edges ids sorted rest s →
      Relaxing edges ids sorted [] (rest.foldl Kahn.relax s) := by
  intro rest
  induction rest with
  | nil => exact fun _ h => h
  | cons n rest ih =>
    intro s hids h
    exact ih (fun m hm => hids m (mem_cons_of_mem n hm)) (h.relax (hids n mem_cons_self))

section

variable {s : State α} {ids : List α} {next : α → List α}

lemma Inv.length_le (h : Inv edges ids s) : s.sorted.length + s.queue.length ≤ ids.length := by
  have hsub : (s.sorted ++ s.queue).Subperm ids := h.seen.nodup.subperm h.seen.mem
  have hle := hsub.length_le
  rwa [length_append] at hle

section

variable (hnext : ∀ id, (next id).Perm (targets edges id)) (hends : ∀ x y, Edge edges x y → y ∈ ids)
include hnext hends

/-- A round keeps the invariant. -/
lemma Inv.visit {id : α} (h : Inv edges ids s) (hqueue : s.queue = id :: queue) :
    Inv edges ids (visit next s id queue) := by
  have hseen : s.sorted ++ s.queue = (s.sorted ++ [id]) ++ queue := by
    rw [hqueue]
    simp
  have hmem : id ∈ s.sorted ++ s.queue := by
    rw [hqueue]
    simp
  have hfresh : id ∉ s.sorted := by
    intro hin
    have hnodup := h.seen.nodup
    rw [hqueue] at hnodup
    exact (nodup_append.mp hnodup).2.2 id hin id mem_cons_self rfl
  have hunblocked : ∀ y, Edge edges y id → y ∈ s.sorted := by
    have hzero := (h.seen.ready id (h.seen.mem id hmem)).mp hmem
    rw [h.degree] at hzero
    exact blocked_eq_zero.mp hzero
  have htargets : ∀ n ∈ next id, n ∈ ids := by
    intro n hn
    obtain ⟨e, he, rfl⟩ := mem_map.mp ((hnext id).mem_iff.mp hn)
    exact hends e.1 e.2 (mem_filter.mp he).1
  have hstart : Relaxing edges ids (s.sorted ++ [id]) (next id)
      { s with queue, sorted := s.sorted ++ [id] } := by
    refine ⟨⟨?_, ?_, ?_⟩, rfl, ?_⟩
    · rw [← hseen]
      exact h.seen.nodup
    · rw [← hseen]
      exact h.seen.mem
    · intro n hn
      rw [← hseen]
      exact h.seen.ready n hn
    · intro n
      rw [h.degree, blocked_snoc hfresh, (hnext id).count_eq]
  have hend : Relaxing edges ids (s.sorted ++ [id]) [] (Kahn.visit next s id queue) :=
    hstart.foldl htargets
  refine ⟨hend.seen, ?_, ?_⟩
  · intro n
    have hdegree := hend.degree n
    rw [count_nil, Nat.add_zero] at hdegree
    rw [hend.same]
    exact hdegree
  · rw [hend.same]
    exact h.ordered.snoc hunblocked

/-- The loop keeps the invariant, and stops early only with an empty queue. -/
lemma Inv.loop :
    ∀ {fuel : Nat} {s : State α}, Inv edges ids s →
      Inv edges ids (loop next fuel s) ∧
        ((loop next fuel s).queue = [] ∨
          (loop next fuel s).sorted.length = s.sorted.length + fuel) := by
  intro fuel
  induction fuel with
  | zero => exact fun h => ⟨h, .inr rfl⟩
  | succ fuel ih =>
    intro s h
    cases hqueue : s.queue with
    | nil =>
      rw [Kahn.loop, hqueue]
      exact ⟨h, .inl hqueue⟩
    | cons id queue =>
      have hvisit := h.visit hnext hends hqueue
      have hlength : (Kahn.visit next s id queue).sorted.length = s.sorted.length + 1 := by
        rw [sorted_visit, length_append]
        rfl
      obtain ⟨hinv, hstop⟩ := ih hvisit
      rw [Kahn.loop, hqueue]
      refine ⟨hinv, hstop.imp_right fun heq => ?_⟩
      rw [heq, hlength]
      omega

/-- With a round for each node the queue is emptied. -/
lemma Inv.queue_eq_nil (h : Inv edges ids s) (hstart : s.sorted = []) :
    (Kahn.loop next ids.length s).queue = [] := by
  obtain ⟨hinv, hstop⟩ : Inv edges ids (Kahn.loop next ids.length s) ∧ _ := h.loop hnext hends
  rcases hstop with hnil | hlength
  · exact hnil
  · have hle := hinv.length_le
    rw [hlength, hstart, length_nil] at hle
    exact length_eq_zero_iff.mp (by omega)

end

/-! ### the end -/

/-- As many nodes in the order as there are: all of them, each once. -/
lemma Inv.perm_of_length (h : Inv edges ids s) (hlength : s.sorted.length = ids.length) :
    s.sorted.Perm ids := by
  have hnodup : s.sorted.Nodup := (nodup_append.mp h.seen.nodup).1
  have hsub : s.sorted.Subperm ids :=
    hnodup.subperm fun x hx => h.seen.mem x (mem_append_left _ hx)
  exact hsub.perm_of_length_le (Nat.le_of_eq hlength.symm)

section

variable (hstarts : ∀ x y, Edge edges x y → x ∈ ids) (h : Inv edges ids s) (hqueue : s.queue = [])
include hstarts h hqueue

/-- Once the queue is empty, a node that is left has a predecessor that is left. -/
lemma Inv.exists_left_before (hn : n ∈ ids) (hleft : n ∉ s.sorted) :
    ∃ m ∈ ids, m ∉ s.sorted ∧ Edge edges m n := by
  have hdegree : s.degree n ≠ 0 := by
    intro hzero
    have hmem := (h.seen.ready n hn).mpr hzero
    rw [hqueue, append_nil] at hmem
    exact hleft hmem
  rw [h.degree, Ne, blocked_eq_zero] at hdegree
  simp only [not_forall] at hdegree
  obtain ⟨m, hedge, hm⟩ := hdegree
  exact ⟨m, hstarts m n hedge, hm, hedge⟩

/-- Without a cycle no node is left. -/
lemma Inv.mem_of_acyclic (hacyclic : Acyclic edges) (hn : n ∈ ids) : n ∈ s.sorted := by
  by_contra hleft
  have hstrict : IsStrictOrder α (Relation.TransGen (Edge edges)) :=
    { irrefl := hacyclic, trans := fun _ _ _ => Relation.TransGen.trans }
  have hfinite : {x | x ∈ ids ∧ x ∉ s.sorted}.Finite :=
    (finite_toSet ids).subset fun x hx => hx.1
  have hwf : {x | x ∈ ids ∧ x ∉ s.sorted}.WellFoundedOn (Relation.TransGen (Edge edges)) :=
    hfinite.wellFoundedOn
  -- each of the nodes that are left has a predecessor among them
  refine hwf.induction (P := fun _ => False) ⟨hn, hleft⟩ fun x hx ih => ?_
  obtain ⟨m, hm, hmleft, hedge⟩ := h.exists_left_before hstarts hqueue hx.1 hx.2
  exact ih m ⟨hm, hmleft⟩ (.single hedge)

/-- Without a cycle the order is complete. -/
lemma Inv.length_of_acyclic (hnodup : ids.Nodup) (hacyclic : Acyclic edges) :
    s.sorted.length = ids.length := by
  have hle := h.length_le
  have hsub : ids.Subperm s.sorted :=
    hnodup.subperm fun n hn => h.mem_of_acyclic hstarts hqueue hacyclic hn
  have hge := hsub.length_le
  omega

end

end

end Kahn

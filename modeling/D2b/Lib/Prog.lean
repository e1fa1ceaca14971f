import D2b.Lib.Run

/-!
# D2b.Lib.Prog

Programs of concurrent tasks over a shared world.

A program performs operations and goes on with their answers; a loop is a call
of a procedure, whose body may call it again, so that no program carries fuel.
Between two operations of a task any other task may take a step.

Safety of all interleavings is proved with auxiliary state: each task carries a
note of what it knows of the world, which its operations update.  A
`Discipline` says which operations a task may perform with which note, and
`Keeps` that a program follows it, whatever the answers are.  `Pool.Sound` is
then kept by every step, if each permitted operation keeps the invariant of the
world, makes the next note of its own task true and leaves the notes of the
others true.
-/

/-- The operations of a language with their answers, and its procedures. -/
structure Signature where
  Op : Type
  Ans : Op → Type
  Proc : Type
  Ret : Proc → Type

/-- A program: finished, or an operation or a call and what follows its answer. -/
inductive Prog (S : Signature) (α : Type) where
  | done (a : α)
  | perform (op : S.Op) (k : S.Ans op → Prog S α)
  | call (p : S.Proc) (k : S.Ret p → Prog S α)

namespace Prog

variable {S : Signature} {α β : Type}

protected def bind : Prog S α → (α → Prog S β) → Prog S β
  | done a, f => f a
  | perform op k, f => perform op fun ans => (k ans).bind f
  | call p k, f => call p fun ret => (k ret).bind f

instance : Monad (Prog S) where
  pure := done
  bind := Prog.bind

def op (op : S.Op) : Prog S (S.Ans op) := perform op done

def proc (p : S.Proc) : Prog S (S.Ret p) := call p done

/-- The operation a program performs next. -/
def nextOp : Prog S α → Option S.Op
  | perform op _ => some op
  | _ => none

def finished : Prog S α → Bool
  | done _ => true
  | _ => false

lemma perform_of_nextOp {op : S.Op} (h : p.nextOp = some op) : ∃ k, p = perform op k := by
  cases p with
  | done _ | call _ _ => cases h
  | perform op' k =>
    cases h
    exact ⟨k, rfl⟩

end Prog

/-! ## disciplines -/

/-- Which operations a task may perform with which note, and what the procedures
need and leave, for notes that an answer changes by `next`. -/
structure Discipline {S : Signature} {N : Type} (next : N → (op : S.Op) → S.Ans op → N) where
  Allows : N → S.Op → Prop
  Pre : S.Proc → N → Prop
  Post : S.Proc → N → N → Prop

namespace Prog

variable {S : Signature} {N α : Type} {next : N → (op : S.Op) → S.Ans op → N} {D : Discipline next}
  {Q : N → Prop} {note : N}

/-- From a note, the program performs permitted operations only, whatever the
answers are, and ends with a note in `Q`. -/
def Keeps (D : Discipline next) : Prog S α → N → (N → Prop) → Prop
  | done _, note, Q => Q note
  | perform op k, note, Q => D.Allows note op ∧ ∀ ans, (k ans).Keeps D (next note op ans) Q
  | call p k, note, Q => D.Pre p note ∧ ∀ ret note', D.Post p note note' → (k ret).Keeps D note' Q

variable {p : Prog S α}

lemma Keeps.mono :
    ∀ {note : N}, p.Keeps D note Q → (∀ note', Q note' → R note') → p.Keeps D note R := by
  induction p with
  | done a =>
    intro note h hle
    exact hle note h
  | perform op k ih =>
    intro note h hle
    exact ⟨h.1, fun ans => ih ans (h.2 ans) hle⟩
  | call p k ih =>
    intro note h hle
    exact ⟨h.1, fun ret note' hpost => ih ret (h.2 ret note' hpost) hle⟩

/-- The rule of sequence. -/
lemma Keeps.bind {f : α → Prog S β} :
    ∀ {note : N}, p.Keeps D note Q → (∀ a note', Q note' → (f a).Keeps D note' R) →
      (p.bind f).Keeps D note R := by
  induction p with
  | done a =>
    intro note h hf
    exact hf a note h
  | perform op k ih =>
    intro note h hf
    exact ⟨h.1, fun ans => ih ans (h.2 ans) hf⟩
  | call p k ih =>
    intro note h hf
    exact ⟨h.1, fun ret note' hpost => ih ret (h.2 ret note' hpost) hf⟩

lemma keeps_pure {a : α} (h : Q note) : (pure a : Prog S α).Keeps D note Q := h

lemma keeps_bind {f : α → Prog S β} (hp : p.Keeps D note Q)
    (hf : ∀ a note', Q note' → (f a).Keeps D note' R) : (p >>= f).Keeps D note R :=
  Keeps.bind hp hf

lemma keeps_proc {p : S.Proc} (hp : D.Pre p note)
    (hpost : ∀ note', D.Post p note note' → Q note') : (Prog.proc p).Keeps D note Q :=
  ⟨hp, fun _ note' h => hpost note' h⟩

end Prog

/-! ## tasks -/

/-- A task: its note and what is left of its program. -/
structure Thread (S : Signature) (N ρ : Type) where
  note : N
  prog : Prog S ρ

/-- A world and the tasks that share it. -/
structure Pool (S : Signature) (N ρ σ : Type) where
  world : σ
  tasks : List (Thread S N ρ)

namespace Pool

variable {S : Signature} {N ρ σ ι : Type} (next : N → (op : S.Op) → S.Ans op → N)
  (exec : Nat → σ → (op : S.Op) → ι → Option (S.Ans op × σ))
  (body : (p : S.Proc) → Prog S (S.Ret p))

/-- One step of task `i`: its next operation, for some input of the environment. -/
def step (pool : Pool S N ρ σ) (i : Nat) (input : ι) : Option (Pool S N ρ σ) :=
  match pool.tasks[i]? with
  | none => none
  | some task =>
    match task.prog with
    | .done _ => none
    | .call p k => some { pool with tasks := pool.tasks.set i ⟨task.note, (body p).bind k⟩ }
    | .perform op k =>
      match exec i pool.world op input with
      | none => none
      | some (ans, world) => some ⟨world, pool.tasks.set i ⟨next task.note op ans, k ans⟩⟩

variable {pool : Pool S N ρ σ} {i : Nat}

/-- What a step is: a call that unfolds, or an operation on the world. -/
lemma step_cases (h : pool.step next exec body i input = some pool') :
    ∃ task, pool.tasks[i]? = some task ∧
      ((∃ p k, task.prog = .call p k ∧
          pool' = ⟨pool.world, pool.tasks.set i ⟨task.note, (body p).bind k⟩⟩) ∨
        ∃ op k ans world, task.prog = .perform op k ∧
          exec i pool.world op input = some (ans, world) ∧
          pool' = ⟨world, pool.tasks.set i ⟨next task.note op ans, k ans⟩⟩) := by
  unfold step at h
  cases htask : pool.tasks[i]? with
  | none => simp [htask] at h
  | some task =>
    refine ⟨task, rfl, ?_⟩
    simp only [htask] at h
    cases hprog : task.prog with
    | done a => simp [hprog] at h
    | call p k =>
      simp only [hprog, Option.some.injEq] at h
      exact .inl ⟨p, k, rfl, h.symm⟩
    | perform op k =>
      simp only [hprog] at h
      cases hexec : exec i pool.world op input with
      | none => simp [hexec] at h
      | some result =>
        obtain ⟨ans, world⟩ := result
        simp only [hexec, Option.some.injEq] at h
        exact .inr ⟨op, k, ans, world, rfl, hexec, h.symm⟩

variable {next exec body} {D : Discipline next} {J : σ → Prop} {Holds : Nat → N → σ → Prop}

/-- The world is in order, and every unfinished task has a true note and a
program that keeps the discipline from it. -/
structure Sound (D : Discipline next) (J : σ → Prop) (Holds : Nat → N → σ → Prop)
    (pool : Pool S N ρ σ) : Prop where
  world : J pool.world
  holds : ∀ (i : Nat) task, pool.tasks[i]? = some task → task.prog.finished = false →
    Holds i task.note pool.world
  keeps : ∀ (i : Nat) task, pool.tasks[i]? = some task → task.prog.Keeps D task.note fun _ => True

/-- Task `i` goes on as `task`, in a world where the other notes are true. -/
lemma Sound.set {world : σ} (hsound : pool.Sound D J Holds) (hworld : J world)
    (hself : Holds i task.note world) (hkeeps : task.prog.Keeps D task.note fun _ => True)
    (hothers : ∀ j task', j ≠ i → pool.tasks[j]? = some task' → task'.prog.finished = false →
      Holds j task'.note world) :
    (⟨world, pool.tasks.set i task⟩ : Pool S N ρ σ).Sound D J Holds := by
  have hget : ∀ {j task'}, (pool.tasks.set i task)[j]? = some task' →
      (j = i ∧ task' = task) ∨ (j ≠ i ∧ pool.tasks[j]? = some task') := by
    intro j task' hj
    by_cases hji : j = i
    · subst hji
      obtain ⟨hlt, hval⟩ := List.getElem?_eq_some_iff.mp hj
      rw [List.getElem_set_self] at hval
      exact .inl ⟨rfl, hval.symm⟩
    · rw [List.getElem?_set_ne (Ne.symm hji)] at hj
      exact .inr ⟨hji, hj⟩
  refine ⟨hworld, fun j task' hj hfin => ?_, fun j task' hj => ?_⟩
  · rcases hget hj with ⟨rfl, rfl⟩ | ⟨hji, hj⟩
    · exact hself
    · exact hothers j task' hji hj hfin
  · rcases hget hj with ⟨rfl, rfl⟩ | ⟨-, hj⟩
    · exact hkeeps
    · exact hsound.keeps j task' hj

/-- The tasks after one more was started. -/
lemma getElem?_spawn {tasks : List (Thread S N ρ)} (h : (tasks ++ [task])[j]? = some task') :
    tasks[j]? = some task' ∨ (j = tasks.length ∧ task' = task) := by
  rcases Nat.lt_trichotomy j tasks.length with hlt | heq | hgt
  · rw [List.getElem?_append_left hlt] at h
    exact .inl h
  · subst heq
    simp only [List.getElem?_concat_length, Option.some.injEq] at h
    exact .inr ⟨rfl, h.symm⟩
  · rw [List.getElem?_eq_none (by simp; omega)] at h
    cases h

/-- A task that starts with a true note. -/
lemma Sound.spawn (hsound : pool.Sound D J Holds) (hself : ∀ i, Holds i task.note pool.world)
    (hkeeps : task.prog.Keeps D task.note fun _ => True) :
    ({ pool with tasks := pool.tasks ++ [task] } : Pool S N ρ σ).Sound D J Holds := by
  refine ⟨hsound.world, fun j task' hj hfin => ?_, fun j task' hj => ?_⟩
  · rcases getElem?_spawn hj with hj | ⟨-, rfl⟩
    · exact hsound.holds j task' hj hfin
    · exact hself j
  · rcases getElem?_spawn hj with hj | ⟨-, rfl⟩
    · exact hsound.keeps j task' hj
    · exact hkeeps

/-- One task alone. -/
lemma sound_single {world : σ} (hworld : J world) (hself : ∀ i, Holds i task.note world)
    (hkeeps : task.prog.Keeps D task.note fun _ => True) :
    (⟨world, [task]⟩ : Pool S N ρ σ).Sound D J Holds :=
  have hnone : (⟨world, []⟩ : Pool S N ρ σ).Sound D J Holds := ⟨hworld, by simp, by simp⟩
  hnone.spawn hself hkeeps

/-- The step rule. -/
lemma Sound.step (hbody : ∀ p note, D.Pre p note → (body p).Keeps D note (D.Post p note))
    {pool' : Pool S N ρ σ} (hsound : pool.Sound D J Holds)
    (h : pool.step next exec body i input = some pool')
    (hexec : ∀ task op k ans world, pool.tasks[i]? = some task → task.prog = .perform op k →
      D.Allows task.note op → exec i pool.world op input = some (ans, world) → J world ∧
        Holds i (next task.note op ans) world ∧ ∀ j task', j ≠ i → pool.tasks[j]? = some task' →
          task'.prog.finished = false → Holds j task'.note world) : pool'.Sound D J Holds := by
  obtain ⟨task, htask, hstep⟩ := step_cases next exec body h
  have hkeeps := hsound.keeps i task htask
  rcases hstep with ⟨p, k, hprog, rfl⟩ | ⟨op, k, ans, world, hprog, hdo, rfl⟩
  · rw [hprog] at hkeeps
    have hself := hsound.holds i task htask (by rw [hprog]; rfl)
    have hbind := Prog.Keeps.bind (hbody p _ hkeeps.1) fun ret note' => hkeeps.2 ret note'
    exact hsound.set hsound.world hself hbind fun j task' _ hj hfin => hsound.holds j task' hj hfin
  · rw [hprog] at hkeeps
    obtain ⟨hJ, hself, hothers⟩ := hexec task op k ans world htask hprog hkeeps.1 hdo
    exact hsound.set hJ hself (hkeeps.2 ans) hothers

end Pool

import FwkRtos.Transition.Labelled
import Mathlib.Data.Fintype.Card
import Mathlib.Data.Fintype.EquivFin

/-!
# Interleaved tasks over a shared state

Finitely many tasks run one program each over a shared state.  A step of a task
sees the shared state and the task's own local state only; besides changing
these two it may apply one function to the local state of every other task,
which is how a wake-up reaches all tasks that wait for it.  Steps that belong
to no task (an interrupt, a server thread) act on the shared state and wake
tasks in the same way.

Counting invariants over the tasks are proved from `tally`, the number of tasks
whose local state satisfies a Boolean test.
-/

namespace FwkRtos.Transition

universe u v w x y

variable {T : Type u} {D : Type v} {K : Type w} {E : Type x} {S : Type y}

/-- A shared state together with the local state of every task. -/
structure Tasks (T : Type u) (D : Type v) (K : Type w) where
  shared : D
  task : T → K

/-- What one step does: the new shared state, the new local state of the task
that took it, and the function applied to every other task. -/
structure Effect (D : Type v) (K : Type w) where
  shared : D
  own : K
  others : K → K := id

/-- Who takes a step: a task, with the event that selects its step, or the
system itself. -/
inductive Actor (T : Type u) (E : Type x) (S : Type y)
  | task (task : T) (event : E)
  | system (event : S)
  deriving DecidableEq

/-- A schedule of task steps, written as the sequence of the tasks with their
events. -/
def moves (sequence : List (T × E)) : List (Actor T E S) :=
  sequence.map fun move => .task move.1 move.2

namespace Tasks

variable [DecidableEq T]

/-- Apply the effect of a step taken by one task. -/
def apply (state : Tasks T D K) (task : T) (effect : Effect D K) : Tasks T D K where
  shared := effect.shared
  task := Function.update (fun other => effect.others (state.task other)) task effect.own

/-- Apply the effect of a step taken by no task. -/
def applySystem (state : Tasks T D K) (effect : D × (K → K)) : Tasks T D K where
  shared := effect.1
  task := fun other => effect.2 (state.task other)

@[simp]
theorem apply_shared (state : Tasks T D K) (task : T) (effect : Effect D K) :
    (state.apply task effect).shared = effect.shared :=
  rfl

@[simp]
theorem apply_task_self (state : Tasks T D K) (task : T) (effect : Effect D K) :
    (state.apply task effect).task task = effect.own := by
  simp [apply]

theorem apply_task_of_ne (state : Tasks T D K) {task other : T} (different : other ≠ task)
    (effect : Effect D K) :
    (state.apply task effect).task other = effect.others (state.task other) := by
  simp [apply, Function.update_of_ne different]

omit [DecidableEq T] in
@[simp]
theorem applySystem_shared (state : Tasks T D K) (effect : D × (K → K)) :
    (state.applySystem effect).shared = effect.1 :=
  rfl

omit [DecidableEq T] in
@[simp]
theorem applySystem_task (state : Tasks T D K) (effect : D × (K → K)) (task : T) :
    (state.applySystem effect).task task = effect.2 (state.task task) :=
  rfl

/-- A local property holds of every task after a step when it holds of the task
that stepped and the step's wake-up keeps it for the others. -/
theorem forall_apply {state : Tasks T D K} {task : T} {effect : Effect D K} {P : T → K → Prop}
    (own : P task effect.own)
    (others : ∀ other, other ≠ task → P other (effect.others (state.task other))) (any : T) :
    P any ((state.apply task effect).task any) := by
  by_cases same : any = task
  · subst any
    rw [apply_task_self]
    exact own
  · rw [apply_task_of_ne state same]
    exact others any same

end Tasks

/-- The interleaving of the tasks' programs and the system's own steps. -/
def interleave [DecidableEq T] (taskStep : T → E → D → K → Option (Effect D K))
    (systemStep : S → D → Option (D × (K → K))) : LStep (Tasks T D K) (Actor T E S)
  | state, .task task event =>
      (taskStep task event state.shared (state.task task)).map (state.apply task)
  | state, .system event => (systemStep event state.shared).map state.applySystem

theorem interleave_task_eq_some_iff [DecidableEq T]
    {taskStep : T → E → D → K → Option (Effect D K)}
    {systemStep : S → D → Option (D × (K → K))} {source target : Tasks T D K}
    {task : T} {event : E} :
    interleave taskStep systemStep source (.task task event) = some target ↔
      ∃ effect, taskStep task event source.shared (source.task task) = some effect ∧
        source.apply task effect = target := by
  simp [interleave]

theorem interleave_system_eq_some_iff [DecidableEq T]
    {taskStep : T → E → D → K → Option (Effect D K)}
    {systemStep : S → D → Option (D × (K → K))} {source target : Tasks T D K} {event : S} :
    interleave taskStep systemStep source (.system event) = some target ↔
      ∃ effect, systemStep event source.shared = some effect ∧
        source.applySystem effect = target := by
  simp [interleave]

/-! ## Counting tasks -/

section Tally

variable [Fintype T]

/-- The number of tasks whose local state passes the test. -/
def tally (test : K → Bool) (task : T → K) : Nat :=
  (Finset.univ.filter fun t => test (task t) = true).card

theorem tally_eq_zero_iff {test : K → Bool} {task : T → K} :
    tally test task = 0 ↔ ∀ t, test (task t) = false := by
  simp [tally, Finset.filter_eq_empty_iff]

theorem tally_pos_iff {test : K → Bool} {task : T → K} :
    0 < tally test task ↔ ∃ t, test (task t) = true := by
  simp [tally, Finset.card_pos, Finset.filter_nonempty_iff]

theorem tally_pos {test : K → Bool} {task : T → K} {t : T} (passes : test (task t) = true) :
    0 < tally test task :=
  tally_pos_iff.mpr ⟨t, passes⟩

theorem tally_le_card (test : K → Bool) (task : T → K) : tally test task ≤ Fintype.card T :=
  Finset.card_le_univ _

theorem tally_le_one_iff {test : K → Bool} {task : T → K} :
    tally test task ≤ 1 ↔ ∀ t u, test (task t) = true → test (task u) = true → t = u := by
  simp only [tally, Finset.card_le_one, Finset.mem_filter, Finset.mem_univ, true_and]
  exact ⟨fun h t u ht hu => h t ht u hu, fun h t ht u hu => h t u ht hu⟩

/-- If only one task can pass the test, the count is that task's own
contribution. -/
theorem tally_eq_of_alone {test : K → Bool} {task : T → K} {t : T}
    (alone : ∀ u, test (task u) = true → u = t) : tally test task = (test (task t)).toNat := by
  cases passes : test (task t) with
  | true =>
      have one : tally test task ≤ 1 :=
        tally_le_one_iff.mpr fun u v hu hv => (alone u hu).trans (alone v hv).symm
      exact Nat.le_antisymm one (tally_pos passes)
  | false =>
      apply tally_eq_zero_iff.mpr
      intro u
      by_contra passesToo
      rw [Bool.not_eq_false] at passesToo
      rw [alone u passesToo, passes] at passesToo
      cases passesToo

/-- No task is counted twice by two tests that exclude each other. -/
theorem tally_add_le_card {first second : K → Bool}
    (disjoint : ∀ k, first k = true → second k = false) (task : T → K) :
    tally first task + tally second task ≤ Fintype.card T := by
  classical
  rw [tally, tally, ← Finset.card_union_of_disjoint]
  · exact Finset.card_le_univ _
  · apply Finset.disjoint_filter.mpr
    intro t _ passes
    simp [disjoint _ passes]

theorem tally_const {test : K → Bool} {local_ : K} (fails : test local_ = false) :
    tally test (fun _ : T => local_) = 0 :=
  tally_eq_zero_iff.mpr fun _ => fails

/-- A wake-up that the test cannot see does not change the count. -/
theorem tally_comp {test : K → Bool} {wake : K → K} (unseen : ∀ k, test (wake k) = test k)
    (task : T → K) : tally test (fun t => wake (task t)) = tally test task := by
  simp [tally, unseen]

/-- Changing one task changes the count by that task's own contribution. -/
theorem tally_update [DecidableEq T] (test : K → Bool) (task : T → K) (t : T) (k : K) :
    tally test (Function.update task t k) + (test (task t)).toNat =
      tally test task + (test k).toNat := by
  have others : ∀ f : T → K, tally test f =
      ((Finset.univ.erase t).filter fun u => test (f u) = true).card + (test (f t)).toNat := by
    intro f
    rw [tally, ← Finset.insert_erase (Finset.mem_univ t), Finset.filter_insert]
    cases test (f t) with
    | true => simp
    | false => simp
  have same : (Finset.univ.erase t).filter (fun u => test (Function.update task t k u) = true) =
      (Finset.univ.erase t).filter fun u => test (task u) = true := by
    apply Finset.filter_congr
    intro u member
    rw [Function.update_of_ne (Finset.ne_of_mem_erase member)]
  rw [others (Function.update task t k), others task, same, Function.update_self]
  omega

/-- The count after a step of a task, for a test that cannot see the step's
wake-up. -/
theorem tally_apply [DecidableEq T] {test : K → Bool} (state : Tasks T D K) (t : T)
    {effect : Effect D K} (unseen : ∀ k, test (effect.others k) = test k) :
    tally test (state.apply t effect).task + (test (state.task t)).toNat =
      tally test state.task + (test effect.own).toNat := by
  have updated := tally_update test (fun other => effect.others (state.task other)) t effect.own
  rw [tally_comp unseen, unseen] at updated
  exact updated

end Tally

end FwkRtos.Transition

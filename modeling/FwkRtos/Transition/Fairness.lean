import FwkRtos.Transition.Labelled
import Mathlib.Order.Basic

/-!
# Fair executions

An execution is a run without end.  What is bound to happen in it is proved from
two facts: a property is kept until another holds, and it cannot be kept for
ever, because steps of some kind are always taken again and bring the other
property nearer.
-/

namespace FwkRtos.Transition

universe u v

variable {σ : Type u} {α : Type v} {next : LStep σ α} {start : σ}

/-- A run without end. -/
structure Execution (next : LStep σ α) (start : σ) where
  state : Nat → σ
  label : Nat → α
  first : state 0 = start
  step : ∀ n, next (state n) (label n) = some (state (n + 1))

namespace Execution

variable (execution : Execution next start)

/-- Steps of the kind are taken again and again. -/
def Recurs (kind : α → Prop) : Prop :=
  ∀ n, ∃ m, n ≤ m ∧ kind (execution.label m)

/-- Steps of the kind do not fail to be taken while they stay enabled. -/
def WeaklyFair (enabled : σ → Prop) (kind : α → Prop) : Prop :=
  ∀ n, (∀ m, n ≤ m → enabled (execution.state m)) → ∃ m, n ≤ m ∧ kind (execution.label m)

/-- Steps of the kind are taken again when they are enabled again and again. -/
def StronglyFair (enabled : σ → Prop) (kind : α → Prop) : Prop :=
  ∀ n, (∀ m, n ≤ m → ∃ k, m ≤ k ∧ enabled (execution.state k)) →
    ∃ m, n ≤ m ∧ kind (execution.label m)

/-- Whenever the first property holds, the second will hold. -/
def LeadsTo (before after : σ → Prop) : Prop :=
  ∀ n, before (execution.state n) → ∃ m, n ≤ m ∧ after (execution.state m)

variable {execution}

/-- What holds at the start and is kept by every step always holds. -/
theorem invariant {Inv : σ → Prop} (initial : Inv start)
    (preserved : ∀ n, Inv (execution.state n) → Inv (execution.state (n + 1))) (n : Nat) :
    Inv (execution.state n) := by
  induction n with
  | zero =>
      rw [execution.first]
      exact initial
  | succ n ih => exact preserved n ih

/-- Every state of an execution whose steps meet a guard is reached so. -/
theorem guardedReachable {guard : σ → α → Prop}
    (meets : ∀ n, guard (execution.state n) (execution.label n)) (n : Nat) :
    GuardedReachable next guard start (execution.state n) := by
  induction n with
  | zero =>
      rw [execution.first]
      exact .refl
  | succ n ih => exact .tail ih (meets n) (execution.step n)

theorem Recurs.weaklyFair {kind : α → Prop} (recurs : execution.Recurs kind)
    (enabled : σ → Prop) : execution.WeaklyFair enabled kind :=
  fun n _ => recurs n

theorem WeaklyFair.mono {enabled stronger : σ → Prop} {kind : α → Prop}
    (fair : execution.WeaklyFair enabled kind) (implies : ∀ state, stronger state → enabled state) :
    execution.WeaklyFair stronger kind :=
  fun n always => fair n fun m later => implies _ (always m later)

/-- What enables the steps again and again while it holds is enough for them. -/
theorem StronglyFair.weaklyFair {enabled before : σ → Prop} {kind : α → Prop}
    (fair : execution.StronglyFair enabled kind)
    (recurs : ∀ n, (∀ m, n ≤ m → before (execution.state m)) →
      ∃ m, n ≤ m ∧ enabled (execution.state m)) : execution.WeaklyFair before kind :=
  fun n always => fair n fun m later => recurs m fun k evenLater => always k (later.trans evenLater)

/-- A property that does not hold for ever is lost in some step, up to which it holds. -/
theorem exists_lost (Holds : σ → Prop) {n m : Nat} (later : n ≤ m)
    (holds : Holds (execution.state n)) (lost : ¬ Holds (execution.state m)) :
    ∃ k, n ≤ k ∧ k < m ∧ (∀ i, n ≤ i → i ≤ k → Holds (execution.state i)) ∧
      ¬ Holds (execution.state (k + 1)) := by
  by_contra never
  have always : ∀ k, n ≤ k → k ≤ m → ∀ i, n ≤ i → i ≤ k → Holds (execution.state i) := by
    intro k afterN
    induction k, afterN using Nat.le_induction with
    | base =>
        intro _ i first last
        rwa [Nat.le_antisymm last first]
    | succ k afterN ih =>
        intro inside i first last
        have before := ih (Nat.le_of_succ_le inside)
        rcases Nat.lt_or_eq_of_le last with earlier | rfl
        · exact before i first (Nat.le_of_lt_succ earlier)
        · by_contra lostThere
          exact never ⟨k, afterN, inside, before, lostThere⟩
  exact lost (always m later (Nat.le_refl m) m later (Nat.le_refl m))

/-- Where a run is on its way, and the step that it takes there. -/
theorem run_take {labels : List α} {last : σ} (executed : run next start labels = some last)
    {n : Nat} (inside : n < labels.length) :
    ∃ source target, run next start (labels.take n) = some source ∧
      run next start (labels.take (n + 1)) = some target ∧ next source labels[n] = some target := by
  have split : labels = labels.take (n + 1) ++ labels.drop (n + 1) :=
    (List.take_append_drop _ _).symm
  rw [split, run_append] at executed
  obtain ⟨target, earlier, _⟩ := Option.bind_eq_some_iff.mp executed
  have isLast := earlier
  rw [← List.take_concat_get' labels n inside, run_concat_eq_some_iff] at isLast
  obtain ⟨source, before, step⟩ := isLast
  exact ⟨source, target, before, earlier, step⟩

/-- A run that ends where it may rest for ever. -/
def ofRun {labels : List α} {last : σ} (rest : α) (executed : run next start labels = some last)
    (rests : next last rest = some last) : Execution next start where
  state n := (run next start (labels.take n)).getD last
  label n := labels[n]?.getD rest
  first := rfl
  step n := by
    rcases Nat.lt_or_ge n labels.length with inside | past
    · obtain ⟨source, target, before, after, step⟩ := run_take executed inside
      rw [before, after, List.getElem?_eq_getElem inside]
      exact step
    · rw [List.take_of_length_le past,
        List.take_of_length_le (past.trans (Nat.le_succ n)), executed,
        List.getElem?_eq_none past]
      exact rests

section
variable {labels : List α} {last : σ} {rest : α} (executed : run next start labels = some last)
  (rests : next last rest = some last)

theorem ofRun_state {n : Nat} (past : labels.length ≤ n) :
    (ofRun rest executed rests).state n = last := by
  show (run next start (labels.take n)).getD last = last
  rw [List.take_of_length_le past, executed]
  rfl

theorem ofRun_meets {guard : σ → α → Prop} (met : StepsMeet next start labels guard)
    (meets : guard last rest) (n : Nat) :
    guard ((ofRun rest executed rests).state n) ((ofRun rest executed rests).label n) := by
  show guard ((run next start (labels.take n)).getD last) (labels[n]?.getD rest)
  rcases Nat.lt_or_ge n labels.length with inside | past
  · obtain ⟨source, target, before, _, step⟩ := run_take executed inside
    rw [before, List.getElem?_eq_getElem inside]
    refine met ?_ before step
    show labels.take n ++ [labels[n]] <+: labels
    rw [List.take_concat_get' labels n inside]
    exact List.take_prefix _ _
  · rw [List.take_of_length_le past, executed, List.getElem?_eq_none past]
    exact meets

/-- A run that ends where nothing is enabled is fair. -/
theorem ofRun_weaklyFair {enabled : σ → Prop} (kind : α → Prop) (disabled : ¬ enabled last) :
    (ofRun rest executed rests).WeaklyFair enabled kind := by
  intro n always
  have atEnd := always (max n labels.length) (Nat.le_max_left _ _)
  rw [ofRun_state executed rests (Nat.le_max_right _ _)] at atEnd
  exact absurd atEnd disabled

theorem ofRun_stronglyFair {enabled : σ → Prop} (kind : α → Prop) (disabled : ¬ enabled last) :
    (ofRun rest executed rests).StronglyFair enabled kind := by
  intro n recurs
  obtain ⟨k, past, atEnd⟩ := recurs (max n labels.length) (Nat.le_max_left _ _)
  rw [ofRun_state executed rests ((Nat.le_max_right _ _).trans past)] at atEnd
  exact absurd atEnd disabled

end

namespace LeadsTo

variable {before middle after : σ → Prop}

theorem trans (first : execution.LeadsTo before middle) (second : execution.LeadsTo middle after) :
    execution.LeadsTo before after := by
  intro n holds
  obtain ⟨m, later, reached⟩ := first n holds
  obtain ⟨k, evenLater, done⟩ := second m reached
  exact ⟨k, later.trans evenLater, done⟩

theorem of_imp (implies : ∀ n, before (execution.state n) → after (execution.state n)) :
    execution.LeadsTo before after :=
  fun n holds => ⟨n, Nat.le_refl n, implies n holds⟩

theorem or (first : execution.LeadsTo before after) (second : execution.LeadsTo middle after) :
    execution.LeadsTo (fun state => before state ∨ middle state) after :=
  fun n holds => holds.elim (first n) (second n)

/-- What is kept until the goal is reached is kept for ever, or the goal is
reached. -/
theorem reached_or_kept
    (unless_ : ∀ n, before (execution.state n) →
      before (execution.state (n + 1)) ∨ after (execution.state (n + 1)))
    {n : Nat} (holds : before (execution.state n)) :
    (∃ m, n ≤ m ∧ after (execution.state m)) ∨ ∀ m, n ≤ m → before (execution.state m) := by
  by_cases never : ∃ m, n ≤ m ∧ after (execution.state m)
  · exact .inl never
  · refine .inr fun m later => ?_
    induction m, later using Nat.le_induction with
    | base => exact holds
    | succ m later kept =>
        rcases unless_ m kept with again | reached
        · exact again
        · exact absurd ⟨m + 1, later.trans (Nat.le_succ m), reached⟩ never

/-- What is kept until the goal is reached, and cannot be kept for ever, leads to
the goal. -/
theorem of_unless
    (unless_ : ∀ n, before (execution.state n) →
      before (execution.state (n + 1)) ∨ after (execution.state (n + 1)))
    (ends : ∀ n, ¬ ∀ m, n ≤ m → before (execution.state m)) :
    execution.LeadsTo before after :=
  fun n holds => (reached_or_kept unless_ holds).resolve_right (ends n)

/-- Steps of the kind lower a rank that no other step raises. -/
theorem of_rank {kind : α → Prop} (rank : σ → Nat) (fair : execution.WeaklyFair before kind)
    (lowers : ∀ n, before (execution.state n) →
      before (execution.state (n + 1)) ∧
          (rank (execution.state (n + 1)) < rank (execution.state n) ∨
            rank (execution.state (n + 1)) = rank (execution.state n) ∧
              ¬ kind (execution.label n)) ∨
        after (execution.state (n + 1))) :
    execution.LeadsTo before after := by
  have unless_ := fun n holds => (lowers n holds).imp_left And.left
  intro n holds
  induction ranked : rank (execution.state n) using Nat.strong_induction_on generalizing n with
  | h bound ih =>
      by_contra never
      have kept := (reached_or_kept unless_ holds).resolve_left never
      have notRaised : ∀ m, n ≤ m → rank (execution.state m) ≤ bound := by
        intro m later
        induction m, later using Nat.le_induction with
        | base => exact ranked.le
        | succ m later below =>
            rcases lowers m (kept m later) with ⟨_, lower | ⟨same, _⟩⟩ | reached
            · exact lower.le.trans below
            · exact same.le.trans below
            · exact absurd ⟨m + 1, later.trans (Nat.le_succ m), reached⟩ never
      obtain ⟨m, later, taken⟩ := fair n kept
      have after_m : ∃ k, m + 1 ≤ k ∧ after (execution.state k) := by
        rcases lowers m (kept m later) with ⟨again, lower | ⟨_, notTaken⟩⟩ | reached
        · exact ih _ (lower.trans_le (notRaised m later)) (m + 1) again rfl
        · exact absurd taken notTaken
        · exact ⟨m + 1, Nat.le_refl _, reached⟩
      obtain ⟨k, evenLater, reached⟩ := after_m
      exact never ⟨k, later.trans ((Nat.le_succ m).trans evenLater), reached⟩

/-- One step of the kind is enough. -/
theorem of_step {kind : α → Prop} (fair : execution.WeaklyFair before kind)
    (unless_ : ∀ n, before (execution.state n) →
      before (execution.state (n + 1)) ∧ ¬ kind (execution.label n) ∨
        after (execution.state (n + 1))) :
    execution.LeadsTo before after :=
  of_rank (fun _ => 0) fair fun n holds =>
    (unless_ n holds).imp_left fun kept => ⟨kept.1, .inr ⟨rfl, kept.2⟩⟩

end LeadsTo

end Execution

end FwkRtos.Transition

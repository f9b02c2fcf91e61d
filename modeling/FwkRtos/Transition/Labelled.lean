import Mathlib.Data.List.Infix

/-!
# Labelled partial transitions

A concurrent program is executed one labelled step at a time; a label that is
not enabled has no result.  Besides plain reachability this file treats runs
all of whose steps meet a guard, which is how the conditions under which a
program behaves correctly are stated: the guard looks only at the state before
a step and at the label of that step.
-/

namespace FwkRtos.Transition

universe u v

/-- One labelled step: `none` marks a label that is not enabled. -/
abbrev LStep (σ : Type u) (α : Type v) := σ → α → Option σ

variable {σ : Type u} {α : Type v}

/-- In short runs the two or three tasks are numbered. -/
instance neZeroTwo : @NeZero Nat Zero.ofOfNat0 2 := ⟨by decide⟩

instance neZeroThree : @NeZero Nat Zero.ofOfNat0 3 := ⟨by decide⟩

/-- Execute a schedule from left to right, failing at the first label that is
not enabled. -/
def run (next : LStep σ α) (start : σ) : List α → Option σ
  | [] => some start
  | label :: rest => (next start label).bind fun state => run next state rest

@[simp]
theorem run_nil (next : LStep σ α) (start : σ) : run next start [] = some start :=
  rfl

theorem run_append (next : LStep σ α) (start : σ) (first second : List α) :
    run next start (first ++ second) =
      (run next start first).bind fun state => run next state second := by
  induction first generalizing start with
  | nil => rfl
  | cons label rest ih =>
      simp only [List.cons_append, run]
      cases next start label with
      | none => rfl
      | some state => exact ih state

theorem run_concat_eq_some_iff (next : LStep σ α) (start target : σ)
    (labels : List α) (label : α) :
    run next start (labels ++ [label]) = some target ↔
      ∃ middle, run next start labels = some middle ∧ next middle label = some target := by
  rw [run_append, Option.bind_eq_some_iff]
  simp [run]

/-- States reached from `start` by steps that all meet `guard`, a condition on
the state before the step and on its label. -/
inductive GuardedReachable (next : LStep σ α) (guard : σ → α → Prop) (start : σ) : σ → Prop
  | refl : GuardedReachable next guard start start
  | tail {source target : σ} {label : α} :
      GuardedReachable next guard start source →
      guard source label → next source label = some target →
      GuardedReachable next guard start target

/-- Unrestricted reachability. -/
abbrev Reachable (next : LStep σ α) (start : σ) : σ → Prop :=
  GuardedReachable next (fun _ _ => True) start

/-- The induction behind every safety result: what holds at the start and is
kept by each guarded step holds of every state so reached. -/
theorem GuardedReachable.invariant {next : LStep σ α} {guard : σ → α → Prop} {start : σ}
    {Inv : σ → Prop} (initial : Inv start)
    (preserved : ∀ ⦃source target label⦄, Inv source → guard source label →
      next source label = some target → Inv target)
    {state : σ} (reachable : GuardedReachable next guard start state) : Inv state := by
  induction reachable with
  | refl => exact initial
  | tail _ met step inv => exact preserved inv met step

/-- A weaker guard reaches at least as much. -/
theorem GuardedReachable.mono {next : LStep σ α} {strong weak : σ → α → Prop} {start state : σ}
    (weaker : ∀ source label, strong source label → weak source label)
    (reachable : GuardedReachable next strong start state) :
    GuardedReachable next weak start state := by
  induction reachable with
  | refl => exact .refl
  | tail _ met step ih => exact .tail ih (weaker _ _ met) step

theorem GuardedReachable.reachable {next : LStep σ α} {guard : σ → α → Prop} {start state : σ}
    (reachable : GuardedReachable next guard start state) : Reachable next start state :=
  reachable.mono fun _ _ _ => trivial

/-- Runs compose. -/
theorem GuardedReachable.trans {next : LStep σ α} {guard : σ → α → Prop}
    {start middle state : σ} (before : GuardedReachable next guard start middle)
    (after : GuardedReachable next guard middle state) :
    GuardedReachable next guard start state := by
  induction after with
  | refl => exact before
  | tail _ met step ih => exact .tail ih met step

/-- A schedule that executes shows its last state reachable. -/
theorem reachable_of_run {next : LStep σ α} {start state : σ} {labels : List α}
    (executed : run next start labels = some state) : Reachable next start state := by
  induction labels using List.reverseRecOn generalizing state with
  | nil =>
      cases executed
      exact .refl
  | append_singleton labels label ih =>
      obtain ⟨middle, before, last⟩ :=
        (run_concat_eq_some_iff next start state labels label).mp executed
      exact .tail (ih before) trivial last

/-- A computed property of the last state of a schedule is a property of some
reachable state. -/
theorem exists_reachable_of_run (next : LStep σ α) (start : σ) (labels : List α)
    (check : σ → Bool) (checked : (run next start labels).map check = some true) :
    ∃ state, Reachable next start state ∧ check state = true := by
  obtain ⟨state, executed, holds⟩ := Option.map_eq_some_iff.mp checked
  exact ⟨state, reachable_of_run executed, holds⟩

/-! ## Exact conditions on runs -/

/-- Every state passed through by the schedule satisfies `Good`. -/
def StatesSatisfy (next : LStep σ α) (start : σ) (labels : List α) (Good : σ → Prop) : Prop :=
  ∀ ⦃before⦄, before <+: labels → ∀ ⦃state⦄, run next start before = some state → Good state

/-- Every step that the schedule takes meets `guard`. -/
def StepsMeet (next : LStep σ α) (start : σ) (labels : List α) (guard : σ → α → Prop) : Prop :=
  ∀ ⦃before label⦄, before ++ [label] <+: labels → ∀ ⦃source target⦄,
    run next start before = some source → next source label = some target → guard source label

/-- A schedule whose steps meet the guard stays within the guarded states. -/
theorem StepsMeet.guardedReachable {next : LStep σ α} {start state : σ} {labels : List α}
    {guard : σ → α → Prop} (met : StepsMeet next start labels guard)
    {before : List α} (isPrefix : before <+: labels)
    (executed : run next start before = some state) :
    GuardedReachable next guard start state := by
  induction before using List.reverseRecOn generalizing state with
  | nil =>
      cases executed
      exact .refl
  | append_singleton before label ih =>
      obtain ⟨middle, earlier, last⟩ :=
        (run_concat_eq_some_iff next start state before label).mp executed
      have shorter : before <+: labels := (List.prefix_append before [label]).trans isPrefix
      exact .tail (ih shorter earlier) (met isPrefix earlier last) last

theorem StepsMeet.of_prefix {next : LStep σ α} {start : σ} {before labels : List α}
    {guard : σ → α → Prop} (met : StepsMeet next start labels guard)
    (isPrefix : before <+: labels) : StepsMeet next start before guard :=
  fun _ _ earlier _ _ executed step => met (earlier.trans isPrefix) executed step

/-- What is left of a schedule, from the state that its first part leads to. -/
theorem StepsMeet.of_append {next : LStep σ α} {start middle : σ} {first second : List α}
    {guard : σ → α → Prop} (met : StepsMeet next start (first ++ second) guard)
    (executed : run next start first = some middle) : StepsMeet next middle second guard := by
  intro before label isPrefix source target earlier step
  have whole : (first ++ before) ++ [label] <+: first ++ second := by
    rw [List.append_assoc]
    exact (List.prefix_append_right_inj first).mpr isPrefix
  have reached : run next start (first ++ before) = some source := by
    rw [run_append, executed]
    exact earlier
  exact met whole reached step

@[simp]
theorem stepsMeet_nil (next : LStep σ α) (start : σ) (guard : σ → α → Prop) :
    StepsMeet next start [] guard := by
  intro before label isPrefix
  simp at isPrefix

/-- The steps of a schedule, read up to its last label. -/
theorem stepsMeet_concat_iff {next : LStep σ α} {start : σ} {labels : List α} {label : α}
    {guard : σ → α → Prop} :
    StepsMeet next start (labels ++ [label]) guard ↔
      StepsMeet next start labels guard ∧
        ∀ source target, run next start labels = some source →
          next source label = some target → guard source label := by
  constructor
  · intro met
    refine ⟨met.of_prefix (List.prefix_append labels [label]), ?_⟩
    intro source target executed step
    exact met (List.prefix_refl _) executed step
  · rintro ⟨met, last⟩ before other isPrefix source target executed step
    rcases List.prefix_concat_iff.mp isPrefix with whole | inner
    · obtain ⟨rfl, rfl⟩ : before = labels ∧ other = label := by
        simpa using List.append_inj' whole rfl
      exact last source target executed step
    · exact met inner executed step

/-- The steps of a schedule, read from its first label. -/
theorem stepsMeet_cons_iff {next : LStep σ α} {start : σ} {label : α} {rest : List α}
    {guard : σ → α → Prop} :
    StepsMeet next start (label :: rest) guard ↔
      ∀ target, next start label = some target →
        guard start label ∧ StepsMeet next target rest guard := by
  constructor
  · intro met target step
    refine ⟨met (show [] ++ [label] <+: _ by simp) (run_nil next start) step, ?_⟩
    intro before other isPrefix source after executed last
    have whole : (label :: before) ++ [other] <+: label :: rest := by simpa using isPrefix
    exact met whole (by simpa [run, step] using executed) last
  · intro met before other isPrefix source after executed last
    cases before with
    | nil =>
        obtain ⟨rfl⟩ : other = label := by simpa using isPrefix
        cases executed
        exact (met after last).1
    | cons first before =>
        obtain ⟨rfl, inner⟩ : first = label ∧ before ++ [other] <+: rest := by
          simpa using isPrefix
        obtain ⟨target, step, executed⟩ := Option.bind_eq_some_iff.mp executed
        exact (met target step).2 inner executed last

instance decidableStepsMeet (next : LStep σ α) (guard : σ → α → Prop)
    [∀ state label, Decidable (guard state label)] :
    ∀ (start : σ) (labels : List α), Decidable (StepsMeet next start labels guard)
  | start, [] => .isTrue (stepsMeet_nil next start guard)
  | start, label :: rest =>
      match step : next start label with
      | none => .isTrue (stepsMeet_cons_iff.mpr fun _ other => by simp [step] at other)
      | some target =>
          have := decidableStepsMeet next guard target rest
          decidable_of_iff (guard start label ∧ StepsMeet next target rest guard) (by
            rw [stepsMeet_cons_iff]
            simp [step])

/-- Among the schedules whose steps meet `assumed`: when guarded steps keep an
invariant that implies `Good`, and an unguarded step from it always leaves
`Good`, the guard is the exact condition for a whole schedule to stay within
`Good`. -/
theorem statesSatisfy_iff_stepsMeet_of {next : LStep σ α} {start : σ}
    {assumed guard : σ → α → Prop} {Inv Good : σ → Prop} (initial : Inv start)
    (preserved : ∀ ⦃source target label⦄, Inv source → assumed source label →
      guard source label → next source label = some target → Inv target)
    (sound : ∀ ⦃state⦄, Inv state → Good state)
    (tight : ∀ ⦃source target label⦄, Inv source → assumed source label →
      ¬ guard source label → next source label = some target → ¬ Good target)
    {labels : List α} (holds : StepsMeet next start labels assumed) :
    StatesSatisfy next start labels Good ↔ StepsMeet next start labels guard := by
  constructor
  · intro satisfied
    -- A step that did not meet the guard would have left `Good` at once.
    have met : ∀ before label source target, before ++ [label] <+: labels → Inv source →
        run next start before = some source → next source label = some target →
        guard source label := by
      intro before label source target isPrefix inv earlier step
      by_contra unmet
      have executed : run next start (before ++ [label]) = some target :=
        (run_concat_eq_some_iff _ _ _ _ _).mpr ⟨source, earlier, step⟩
      exact tight inv (holds isPrefix earlier step) unmet step (satisfied isPrefix executed)
    have invariant : ∀ before, before <+: labels → ∀ state,
        run next start before = some state → Inv state := by
      intro before
      induction before using List.reverseRecOn with
      | nil =>
          intro _ state executed
          cases executed
          exact initial
      | append_singleton before label ih =>
          intro isPrefix state executed
          obtain ⟨middle, earlier, last⟩ :=
            (run_concat_eq_some_iff next start state before label).mp executed
          have inv : Inv middle := ih ((List.prefix_append _ _).trans isPrefix) middle earlier
          exact preserved inv (holds isPrefix earlier last)
            (met before label middle state isPrefix inv earlier last) last
    intro before label isPrefix source target earlier step
    have inv := invariant before ((List.prefix_append _ _).trans isPrefix) source earlier
    exact met before label source target isPrefix inv earlier step
  · intro met before isPrefix state executed
    have both : StepsMeet next start labels fun state label =>
        assumed state label ∧ guard state label :=
      fun _ _ isPrefix _ _ earlier step =>
        ⟨holds isPrefix earlier step, met isPrefix earlier step⟩
    exact sound ((both.guardedReachable isPrefix executed).invariant initial
      fun _ _ _ inv conditions step => preserved inv conditions.1 conditions.2 step)

/-- The exact condition on arbitrary schedules. -/
theorem statesSatisfy_iff_stepsMeet {next : LStep σ α} {start : σ}
    {guard : σ → α → Prop} {Inv Good : σ → Prop} (initial : Inv start)
    (preserved : ∀ ⦃source target label⦄, Inv source → guard source label →
      next source label = some target → Inv target)
    (sound : ∀ ⦃state⦄, Inv state → Good state)
    (tight : ∀ ⦃source target label⦄, Inv source → ¬ guard source label →
      next source label = some target → ¬ Good target)
    (labels : List α) :
    StatesSatisfy next start labels Good ↔ StepsMeet next start labels guard :=
  have anything : StepsMeet next start labels fun _ _ => True := fun _ _ _ _ _ _ _ => trivial
  statesSatisfy_iff_stepsMeet_of initial
    (fun _ _ _ inv _ met step => preserved inv met step) sound
    (fun _ _ _ inv _ unmet step => tight inv unmet step) anything

/-- A debt that guarded steps leave as it is, that unguarded ones raise and that
nothing lowers: it is zero exactly while the guard was met. -/
theorem zero_iff_stepsMeet {next : LStep σ α} {start : σ} {guard : σ → α → Prop}
    {Inv : σ → Prop} {debt : σ → Nat} {labels : List α} (initial : Inv start)
    (zero : debt start = 0)
    (preserved : ∀ ⦃before source target label⦄, before ++ [label] <+: labels →
      run next start before = some source → Inv source → next source label = some target →
        Inv target ∧ (guard source label → debt target = debt source) ∧
          (¬ guard source label → debt source < debt target))
    {before : List α} (isPrefix : before <+: labels) {state : σ}
    (executed : run next start before = some state) :
    debt state = 0 ↔ StepsMeet next start before guard := by
  have both : Inv state ∧ (debt state = 0 ↔ StepsMeet next start before guard) := by
    induction before using List.reverseRecOn generalizing state with
    | nil =>
        cases executed
        exact ⟨initial, iff_of_true zero (stepsMeet_nil _ _ _)⟩
    | append_singleton before label ih =>
        obtain ⟨middle, earlier, last⟩ :=
          (run_concat_eq_some_iff next start state before label).mp executed
        obtain ⟨inv, exact_⟩ := ih ((List.prefix_append _ _).trans isPrefix) earlier
        obtain ⟨invAfter, same, more⟩ := preserved isPrefix earlier inv last
        refine ⟨invAfter, ?_⟩
        rw [stepsMeet_concat_iff, ← exact_]
        by_cases met : guard middle label
        · rw [same met]
          constructor
          · intro none_
            refine ⟨none_, fun source target executed _ => ?_⟩
            obtain rfl : middle = source := Option.some.inj (earlier.symm.trans executed)
            exact met
          · exact And.left
        · constructor
          · intro none_
            have raised := more met
            rw [none_] at raised
            exact absurd raised (Nat.not_lt_zero _)
          · rintro ⟨_, guarded⟩
            exact absurd (guarded middle state earlier last) met
  exact both.2

/-- Guarded steps that keep an invariant keep a whole schedule within what the
invariant implies. -/
theorem StepsMeet.statesSatisfy {next : LStep σ α} {start : σ} {guard : σ → α → Prop}
    {Inv Good : σ → Prop} {labels : List α} (met : StepsMeet next start labels guard)
    (initial : Inv start)
    (preserved : ∀ ⦃source target label⦄, Inv source → guard source label →
      next source label = some target → Inv target)
    (sound : ∀ ⦃state⦄, Inv state → Good state) :
    StatesSatisfy next start labels Good :=
  fun _ isPrefix _ executed =>
    sound ((met.guardedReachable isPrefix executed).invariant initial preserved)

end FwkRtos.Transition

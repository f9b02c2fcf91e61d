import FwkRtos.Transition.Labelled

/-!
# Runs that end

When every step lowers a rank, no run is longer than the rank of its first state, and every run
can be continued to a state in which no label is enabled.
-/

namespace FwkRtos.Transition

universe u v

variable {σ : Type u} {α : Type v} {next : LStep σ α}

/-- No label is enabled. -/
def Stuck (next : LStep σ α) (state : σ) : Prop :=
  ∀ label, next state label = none

/-- Steps keep the invariant, and lower the rank. -/
def Ranked (next : LStep σ α) (Inv : σ → Prop) (rank : σ → Nat) : Prop :=
  ∀ ⦃source target label⦄, Inv source → next source label = some target →
    Inv target ∧ rank target < rank source

namespace Ranked

variable {Inv : σ → Prop} {rank : σ → Nat} {start : σ}

/-- The rank pays for every step of a run. -/
theorem length_add_le (ranked : Ranked next Inv rank) {labels : List α} {last : σ}
    (inv : Inv start) (executed : run next start labels = some last) :
    labels.length + rank last ≤ rank start := by
  induction labels generalizing start with
  | nil =>
      cases executed
      exact (Nat.zero_add _).le
  | cons label labels ih =>
      rcases Option.bind_eq_some_iff.mp executed with ⟨state, step, executed⟩
      rcases ranked inv step with ⟨inv, lower⟩
      have rest := ih inv executed
      rw [List.length_cons]
      omega

/-- Every run can be continued until it is stuck. -/
theorem exists_stuck (ranked : Ranked next Inv rank) (inv : Inv start) :
    ∃ last, Reachable next start last ∧ Stuck next last := by
  induction bound : rank start using Nat.strong_induction_on generalizing start with
  | _ n ih =>
      by_cases stuck : Stuck next start
      case pos => exact ⟨start, .refl, stuck⟩
      case neg =>
        rcases not_forall.mp stuck with ⟨label, enabled⟩
        rcases Option.ne_none_iff_exists'.mp enabled with ⟨state, step⟩
        rcases ranked inv step with ⟨inv, lower⟩
        rcases ih (rank state) (bound ▸ lower) inv rfl with ⟨last, reached, isStuck⟩
        exact ⟨last, GuardedReachable.trans (.tail .refl trivial step) reached, isStuck⟩

end Ranked

end FwkRtos.Transition

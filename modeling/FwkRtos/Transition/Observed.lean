import FwkRtos.Transition.Labelled

/-!
# Observed transitions

A system together with an observer.  Every step updates what the observer has
seen, and what it has seen never has an influence on the steps; so a result
about the observed system is a result about the runs of the system itself.
-/

namespace FwkRtos.Transition

universe u v w

variable {σ : Type u} {α : Type v} {ω : Type w}

/-- The steps of `next`, each seen by the observer. -/
def observed (next : LStep σ α) (update : σ → α → σ → ω → ω) : LStep (σ × ω) α :=
  fun state label =>
    (next state.1 label).map fun target => (target, update state.1 label target state.2)

theorem observed_eq_some_iff {next : LStep σ α} {update : σ → α → σ → ω → ω}
    {source target : σ × ω} {label : α} :
    observed next update source label = some target ↔
      next source.1 label = some target.1 ∧
        update source.1 label target.1 source.2 = target.2 := by
  rw [observed, Option.map_eq_some_iff]
  constructor
  · rintro ⟨after, step, rfl⟩
    exact ⟨step, rfl⟩
  · rintro ⟨step, seen⟩
    exact ⟨target.1, step, Prod.ext rfl seen⟩

end FwkRtos.Transition

import FwkRtos.Transition.Labelled

/-!
# Two runs side by side

Two systems of which a part is looked at.  Steps that do not concern the part are silent; if
steps with the same event take related states to related states, then runs with the same
events end in related states and give the same outputs, whatever happens between the events.
-/

namespace FwkRtos.Transition

universe u v u' v' w x

variable {σ : Type u} {α : Type v}

/-- What is seen of a run, step by step. -/
def seen {ε : Type w} (next : LStep σ α) (event : σ → α → Option ε) : σ → List α → List ε
  | _, [] => []
  | state, label :: rest =>
      (event state label).toList ++
        match next state label with
        | none => []
        | some target => seen next event target rest

theorem seen_cons {ε : Type w} {next : LStep σ α} {event : σ → α → Option ε}
    {state target : σ} {label : α} (step : next state label = some target) (rest : List α) :
    seen next event state (label :: rest) =
      (event state label).toList ++ seen next event target rest := by
  rw [seen, step]

theorem run_cons_eq_some_iff {next : LStep σ α} {start target : σ} {label : α} {rest : List α} :
    run next start (label :: rest) = some target ↔
      ∃ middle, next start label = some middle ∧ run next middle rest = some target :=
  Option.bind_eq_some_iff

/-- What is seen of two runs, one after the other. -/
theorem seen_append {ε : Type w} {next : LStep σ α} {event : σ → α → Option ε}
    {start middle : σ} {first : List α} (executed : run next start first = some middle)
    (second : List α) :
    seen next event start (first ++ second) =
      seen next event start first ++ seen next event middle second := by
  induction first generalizing start with
  | nil =>
      cases executed
      rfl
  | cons label rest ih =>
      rcases run_cons_eq_some_iff.mp executed with ⟨between, step, executed⟩
      rw [List.cons_append, seen_cons step, seen_cons step, ih executed, List.append_assoc]

/-- A function of what is seen in each step. -/
theorem seen_map {ε : Type w} {ω : Type x} {next : LStep σ α} {event : σ → α → Option ε}
    {other : σ → α → Option ω} {change : ε → Option ω}
    (same : ∀ state label, (event state label).bind change = other state label)
    (start : σ) (labels : List α) :
    (seen next event start labels).filterMap change = seen next other start labels := by
  induction labels generalizing start with
  | nil => rfl
  | cons label rest ih =>
      have first : ((event start label).toList).filterMap change =
          (other start label).toList := by
        rw [← same]
        cases event start label with
        | none => rfl
        | some e => cases changed : change e <;> simp [changed]
      simp only [seen, List.filterMap_append, first]
      cases next start label with
      | none => rfl
      | some target => exact congrArg _ (ih target)

section Pair

variable {σ' : Type u'} {α' : Type v'} {ε : Type w} {ω : Type x}

/-- What steps do to two related states: silent steps of either system keep the relation and
give no output, and steps with the same event keep it and give the same output. -/
structure Unwinds (next : LStep σ α) (next' : LStep σ' α') (event : σ → α → Option ε)
    (event' : σ' → α' → Option ε) (output : σ → α → Option ω) (output' : σ' → α' → Option ω)
    (Related : σ → σ' → Prop) : Prop where
  silent : ∀ {state target label state'}, Related state state' → event state label = none →
    next state label = some target → Related target state' ∧ output state label = none
  silent' : ∀ {state state' target' label'}, Related state state' →
    event' state' label' = none → next' state' label' = some target' →
      Related state target' ∧ output' state' label' = none
  both : ∀ {state target label state' target' label' e}, Related state state' →
    event state label = some e → event' state' label' = some e →
    next state label = some target → next' state' label' = some target' →
      Related target target' ∧ output state label = output' state' label'

variable {next : LStep σ α} {next' : LStep σ' α'} {event : σ → α → Option ε}
  {event' : σ' → α' → Option ε} {output : σ → α → Option ω} {output' : σ' → α' → Option ω}
  {Related : σ → σ' → Prop}

/-- A run in which nothing is seen. -/
theorem Unwinds.silentRun
    (unwinds : Unwinds next next' event event' output output' Related)
    {state : σ} {start target : σ'} {labels : List α'} (related : Related state start)
    (executed : run next' start labels = some target)
    (nothing : seen next' event' start labels = []) :
    Related state target ∧ seen next' output' start labels = [] := by
  induction labels generalizing start with
  | nil =>
      cases executed
      exact ⟨related, rfl⟩
  | cons label rest ih =>
      rcases run_cons_eq_some_iff.mp executed with ⟨middle, step, executed⟩
      rw [seen_cons step, List.append_eq_nil_iff] at nothing
      have unseen : event' start label = none := by
        cases first : event' start label with
        | none => rfl
        | some e =>
            rw [first] at nothing
            cases nothing.1
      rcases unwinds.silent' related unseen step with ⟨still, silent⟩
      rcases ih still executed nothing.2 with ⟨after, quiet⟩
      exact ⟨after, by rw [seen_cons step, silent, quiet]; rfl⟩

/-- The first event of a run, and what is silent before it. -/
theorem Unwinds.untilEvent
    (unwinds : Unwinds next next' event event' output output' Related)
    {state : σ} {start target : σ'} {labels : List α'} {e : ε} {events : List ε}
    (related : Related state start) (executed : run next' start labels = some target)
    (first : seen next' event' start labels = e :: events) :
    ∃ before label after rest, Related state before ∧ event' before label = some e ∧
      next' before label = some after ∧ run next' after rest = some target ∧
      seen next' event' after rest = events ∧
      seen next' output' start labels =
        (output' before label).toList ++ seen next' output' after rest := by
  induction labels generalizing start with
  | nil => cases first
  | cons label rest ih =>
      rcases run_cons_eq_some_iff.mp executed with ⟨middle, step, executed⟩
      rw [seen_cons step] at first
      cases event_ : event' start label with
      | some e' =>
          rw [event_] at first
          cases first
          exact ⟨start, label, middle, rest, related, event_, step, executed, rfl,
            seen_cons step rest⟩
      | none =>
          rw [event_] at first
          rcases unwinds.silent' related event_ step with ⟨still, silent⟩
          rcases ih still executed first with
            ⟨before, later, after, rest', related', isEvent, step', executed', events', outputs⟩
          refine ⟨before, later, after, rest', related', isEvent, step', executed', events', ?_⟩
          rw [seen_cons step, silent]
          exact outputs

/-- Runs with the same events from related states end in related states, with the same
outputs. -/
theorem Unwinds.run (unwinds : Unwinds next next' event event' output output' Related)
    {start target : σ} {start' target' : σ'} {labels : List α} {labels' : List α'}
    (related : Related start start') (executed : Transition.run next start labels = some target)
    (executed' : Transition.run next' start' labels' = some target')
    (same : seen next event start labels = seen next' event' start' labels') :
    Related target target' ∧
      seen next output start labels = seen next' output' start' labels' := by
  induction labels generalizing start start' labels' with
  | nil =>
      cases executed
      rcases unwinds.silentRun related executed' same.symm with ⟨after, quiet⟩
      exact ⟨after, quiet.symm⟩
  | cons label rest ih =>
      rcases run_cons_eq_some_iff.mp executed with ⟨middle, step, executed⟩
      rw [seen_cons step] at same
      cases event_ : event start label with
      | none =>
          rw [event_] at same
          rcases unwinds.silent related event_ step with ⟨still, silent⟩
          rw [seen_cons step, silent]
          exact ih still executed executed' same
      | some e =>
          rw [event_] at same
          rcases unwinds.untilEvent related executed' same.symm with
            ⟨before, label', after, rest', related', isEvent, step', rest'_, events, outputs⟩
          rcases unwinds.both related' event_ isEvent step step' with ⟨still, equal⟩
          rcases ih still executed rest'_ events.symm with ⟨final, later⟩
          refine ⟨final, ?_⟩
          rw [seen_cons step, outputs, equal, later]

end Pair

end FwkRtos.Transition

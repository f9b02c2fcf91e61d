import Mathlib.Logic.Function.Basic

/-!
# Calls that take effect at once

Tasks call the operations of an object at the same time, but each call takes effect in one
step between its begin and its return.  The calls in the order of their effects are then a
sequential history of the object, in which a call that returned before another one began
comes first: the log only grows at its end, and what has returned is in it.
-/

namespace FwkRtos.Transition

universe u v w

/-- A sequential object: the result of an operation, and the next state. -/
abbrev Object (σ : Type u) (op : Type v) (res : Type w) := σ → op → res × σ

section

variable {σ : Type u} {op : Type v} {res : Type w}

/-- One operation after the other. -/
def Object.replay (object : Object σ op res) (start : σ) : List op → List res × σ
  | [] => ([], start)
  | call :: calls =>
      let rest := replay object (object start call).2 calls
      ((object start call).1 :: rest.1, rest.2)

theorem Object.replay_concat (object : Object σ op res) (start : σ) (calls : List op) (call : op) :
    object.replay start (calls ++ [call]) =
      ((object.replay start calls).1 ++ [(object (object.replay start calls).2 call).1],
        (object (object.replay start calls).2 call).2) := by
  induction calls generalizing start with
  | nil => rfl
  | cons first calls ih =>
      rw [List.cons_append, replay, ih]
      rfl

end

/-- A call that took effect. -/
structure CallEffect (T : Type u) (op : Type v) (res : Type w) where
  task : T
  call : op
  result : res
  deriving DecidableEq

section

variable {T : Type u} {op : Type v} {res : Type w} {σ : Type*}
variable {object : Object σ op res} {start now : σ} {log : List (CallEffect T op res)}

/-- The effects are those of the object, which is in this state now. -/
structure Sequential (object : Object σ op res) (start : σ) (log : List (CallEffect T op res))
    (now : σ) : Prop where
  results : (object.replay start (log.map CallEffect.call)).1 = log.map CallEffect.result
  state : (object.replay start (log.map CallEffect.call)).2 = now

theorem sequential_nil : Sequential object start ([] : List (CallEffect T op res)) start :=
  ⟨rfl, rfl⟩

theorem Sequential.concat (sequential : Sequential object start log now) (task : T) (call : op) :
    Sequential object start (log ++ [⟨task, call, (object now call).1⟩]) (object now call).2 := by
  have replayed := object.replay_concat start (log.map CallEffect.call) call
  rw [sequential.state] at replayed
  constructor
  · rw [List.map_append, List.map_append, List.map_singleton, replayed, sequential.results]
    rfl
  · rw [List.map_append, List.map_singleton, replayed]

/-! ## The calls of a task -/

variable [DecidableEq T]

/-- The effects of the calls of a task. -/
def effectsOf (task : T) (log : List (CallEffect T op res)) : List (CallEffect T op res) :=
  log.filter fun effect => effect.task = task

theorem effectsOf_concat (task : T) (log : List (CallEffect T op res))
    (effect : CallEffect T op res) :
    effectsOf task (log ++ [effect]) =
      if effect.task = task then effectsOf task log ++ [effect] else effectsOf task log := by
  by_cases own : effect.task = task <;> simp [effectsOf, own]

/-- What a task called took effect in this order, but for a call under way, and what it got
back are the results, but for one that it has still to return. -/
structure Accounted (log : List (CallEffect T op res)) (task : T) (called : List op)
    (before : Option op) (after : Option res) (returned : List res) : Prop where
  called : called = (effectsOf task log).map CallEffect.call ++ before.toList
  returned : (effectsOf task log).map CallEffect.result = returned ++ after.toList

variable {task other : T} {called : List op} {returned : List res}

theorem accounted_nil : Accounted ([] : List (CallEffect T op res)) task [] none none [] :=
  ⟨rfl, rfl⟩

/-- A call begins. -/
theorem Accounted.begins (accounted : Accounted log task called none none returned) (call : op) :
    Accounted log task (called ++ [call]) (some call) none returned where
  called := by
    rw [accounted.called]
    exact congrArg (· ++ [call]) (List.append_nil _)
  returned := accounted.returned

/-- It takes effect. -/
theorem Accounted.takesEffect {call : op}
    (accounted : Accounted log task called (some call) none returned) (result : res) :
    Accounted (log ++ [⟨task, call, result⟩]) task called none (some result) returned where
  called := by
    rw [effectsOf_concat, if_pos rfl, accounted.called, List.map_append]
    exact (List.append_nil _).symm
  returned := by
    have before : (effectsOf task log).map CallEffect.result = returned :=
      accounted.returned.trans (List.append_nil _)
    rw [effectsOf_concat, if_pos rfl, List.map_append, before]
    rfl

/-- It returns. -/
theorem Accounted.returns {result : res}
    (accounted : Accounted log task called none (some result) returned) :
    Accounted log task called none none (returned ++ [result]) where
  called := accounted.called
  returned := accounted.returned.trans (List.append_nil _).symm

/-- A call of another task takes effect. -/
theorem Accounted.frame {before : Option op} {after : Option res}
    (accounted : Accounted log task called before after returned) {effect : CallEffect T op res}
    (different : effect.task ≠ task) :
    Accounted (log ++ [effect]) task called before after returned := by
  have same : effectsOf task (log ++ [effect]) = effectsOf task log := by
    rw [effectsOf_concat, if_neg different]
  constructor
  · rw [same]
    exact accounted.called
  · rw [same]
    exact accounted.returned

end

end FwkRtos.Transition

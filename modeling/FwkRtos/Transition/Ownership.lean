import Mathlib.Logic.Function.Basic

/-!
# A count with one owner

A recursive lock is a count that belongs to one task while it is positive.  Here
every task has a share of such a count, and all shares but the owner's are zero:
the share is read off the task's own state, the owner and the count off the
lock.
-/

namespace FwkRtos.Transition

universe u

/-- The owner has the whole value, and everybody else none of it. -/
structure Owned {T : Type u} (share : T → Nat) (owner : Option T) (value : Nat) : Prop where
  mine : ∀ t, owner = some t → share t = value
  others : ∀ t, owner ≠ some t → share t = 0
  owned_iff : owner = none ↔ value = 0

namespace Owned

variable {T : Type u} {share : T → Nat} {owner : Option T} {value : Nat}

theorem nobody : Owned (fun _ : T => 0) none 0 where
  mine := by
    rintro t ⟨⟩
  others := fun _ _ => rfl
  owned_iff := iff_of_true rfl rfl

theorem pos_iff (owned : Owned share owner value) (t : T) : 0 < share t ↔ owner = some t := by
  constructor
  · intro positive
    by_contra other
    rw [owned.others t other] at positive
    exact absurd positive (Nat.lt_irrefl 0)
  · intro isOwner
    rw [owned.mine t isOwner]
    apply Nat.pos_of_ne_zero
    intro zero
    rw [owned.owned_iff.mpr zero] at isOwner
    cases isOwner

theorem eq_of_pos (owned : Owned share owner value) {t : T} (positive : 0 < share t) :
    share t = value :=
  owned.mine t ((owned.pos_iff t).mp positive)

theorem sole (owned : Owned share owner value) {t u : T} (first : 0 < share t)
    (second : 0 < share u) : t = u :=
  Option.some.inj (((owned.pos_iff t).mp first).symm.trans ((owned.pos_iff u).mp second))

theorem zero_of_value (owned : Owned share owner value) (free : value = 0) (t : T) :
    share t = 0 := by
  apply owned.others t
  rw [owned.owned_iff.mpr free]
  exact nofun

/-- When nobody has a share the value is zero. -/
theorem value_eq_zero (owned : Owned share owner value) (shares : ∀ t, share t = 0) :
    value = 0 := by
  rcases owner with _ | t
  · exact owned.owned_iff.mp rfl
  · rw [← owned.mine t rfl]
    exact shares t

variable [DecidableEq T]

/-- The shares after a step of one task whose share stays the same. -/
theorem update_self (owned : Owned share owner value) {t : T} {new : Nat} (same : new = share t) :
    Owned (Function.update share t new) owner value := by
  rw [same, Function.update_eq_self]
  exact owned

/-- The owner, or anybody while there is none, sets the value. -/
theorem set (owned : Owned share owner value) {t : T} (allowed : owner = none ∨ owner = some t)
    {new : Nat} (positive : 0 < new) : Owned (Function.update share t new) (some t) new where
  mine := by
    rintro _ ⟨rfl⟩
    exact Function.update_self _ _ _
  others := by
    intro u other
    have different : u ≠ t := fun same => other (congrArg some same.symm)
    rw [Function.update_of_ne different]
    apply owned.others u
    rcases allowed with free | isOwner
    · rw [free]
      exact nofun
    · rw [isOwner]
      exact other
  owned_iff := iff_of_false nofun (Nat.pos_iff_ne_zero.mp positive)

/-- The owner gives the whole value up. -/
theorem release (owned : Owned share owner value) {t : T} (isOwner : owner = some t) :
    Owned (Function.update share t 0) none 0 where
  mine := by
    rintro u ⟨⟩
  others := by
    intro u _
    by_cases same : u = t
    · rw [same, Function.update_self]
    · rw [Function.update_of_ne same]
      apply owned.others u
      rw [isOwner]
      exact fun equal => same (Option.some.inj equal).symm
  owned_iff := iff_of_true rfl rfl

/-- The owner, or anybody while there is none, sets the value, to zero as well. -/
theorem assign (owned : Owned share owner value) {t : T} (allowed : owner = none ∨ owner = some t)
    (new : Nat) : ∃ newOwner, Owned (Function.update share t new) newOwner new := by
  rcases Nat.eq_zero_or_pos new with rfl | positive
  · rcases allowed with rfl | isOwner
    · obtain rfl := owned.owned_iff.mp rfl
      exact ⟨none, owned.update_self (owned.others t nofun).symm⟩
    · exact ⟨none, owned.release isOwner⟩
  · exact ⟨some t, owned.set allowed positive⟩

end Owned

end FwkRtos.Transition

import Mathlib.Data.List.Basic
import Mathlib.Data.List.Infix

/-!
# Contiguous parts of a history

The entries of a history may belong to groups.  A group is contiguous when only
its own entries stand between any two of them; a history that grows at its end
stays so as long as an entry of an old group is added to a history that ends in
that group.
-/

namespace FwkRtos.Transition

universe u v

variable {α : Type u} {β : Type v} {group : α → Option β} {history : List α} {entry : α}

/-- Between two entries of one group stand only entries of that group. -/
def Contiguous (group : α → Option β) (history : List α) : Prop :=
  ∀ ⦃before first middle last after⦄, history = before ++ first :: (middle ++ last :: after) →
    ∀ ⦃g⦄, group first = some g → group last = some g → ∀ between ∈ middle, group between = some g

/-- The entries of the group, if there are any, are the last ones. -/
def EndsIn (group : α → Option β) (history : List α) (g : β) : Prop :=
  ∃ before block, history = before ++ block ∧ (∀ x ∈ block, group x = some g) ∧
    ∀ x ∈ before, group x ≠ some g

theorem contiguous_nil : Contiguous group [] := by
  intro before first middle last after whole
  simp at whole

/-- A group that has no entry yet. -/
theorem endsIn_of_fresh {g : β} (fresh : ∀ x ∈ history, group x ≠ some g) :
    EndsIn group history g :=
  ⟨history, [], (List.append_nil _).symm, nofun, fresh⟩

theorem EndsIn.snoc {g : β} (ends : EndsIn group history g) (own : group entry = some g) :
    EndsIn group (history ++ [entry]) g := by
  obtain ⟨before, block, rfl, inside, outside⟩ := ends
  refine ⟨before, block ++ [entry], List.append_assoc _ _ _, ?_, outside⟩
  intro x member
  rcases List.mem_append.mp member with old | new
  · exact inside x old
  · rw [List.mem_singleton.mp new]
    exact own

/-- Behind an entry of the group that the history ends in are only entries of
that group. -/
theorem EndsIn.behind {g : β} {before middle : List α} {first : α}
    (ends : EndsIn group (before ++ first :: middle) g) (own : group first = some g) :
    ∀ x ∈ middle, group x = some g := by
  obtain ⟨front, block, whole, inside, outside⟩ := ends
  intro x member
  rcases List.append_eq_append_iff.mp whole with ⟨part, rfl, rest⟩ | ⟨part, rfl, rest⟩
  · cases part with
    | nil =>
        have inBlock : x ∈ block := by
          rw [← show first :: middle = block from rest]
          exact List.mem_cons_of_mem _ member
        exact inside x inBlock
    | cons head part =>
        -- The entry would stand before the block.
        obtain ⟨rfl, _⟩ := List.cons.inj rest
        exact absurd own (outside first (List.mem_append_right _ List.mem_cons_self))
  · rw [rest] at inside
    exact inside x (List.mem_append_right _ (List.mem_cons_of_mem _ member))

theorem Contiguous.snoc (contiguous : Contiguous group history)
    (ends : ∀ g, group entry = some g → EndsIn group history g) :
    Contiguous group (history ++ [entry]) := by
  intro before first middle last after whole g firstIn lastIn
  induction after using List.reverseRecOn with
  | nil =>
      have split : history ++ [entry] = (before ++ first :: middle) ++ [last] := by
        rw [whole, List.append_assoc, List.cons_append]
      obtain ⟨rfl, same⟩ := List.append_inj' split rfl
      obtain rfl := List.singleton_inj.mp same
      exact (ends g lastIn).behind firstIn
  | append_singleton after final _ =>
      have split : history ++ [entry] =
          (before ++ first :: (middle ++ last :: after)) ++ [final] := by
        rw [whole]
        simp
      obtain ⟨rfl, _⟩ := List.append_inj' split rfl
      exact contiguous rfl firstIn lastIn

theorem Contiguous.of_prefix {longer : List α} (contiguous : Contiguous group longer)
    (isPrefix : history <+: longer) : Contiguous group history := by
  intro before first middle last after whole g firstIn lastIn
  obtain ⟨more, rfl⟩ := isPrefix
  have split : history ++ more = before ++ first :: (middle ++ last :: (after ++ more)) := by
    rw [whole]
    simp
  exact contiguous split firstIn lastIn

end FwkRtos.Transition

import Mathlib.Data.List.Perm.Basic
import Mathlib.Order.Basic
import Mathlib.Order.Lattice

/-!
# Selection sort

The first least element of what is left is exchanged with the first one.  The elements that
are sorted leave the list one by one, so that the place of an element is counted from the
beginning of what is left.
-/

namespace FwkRtos.Sorting

universe u v

variable {α : Type u} {κ : Type v} [LinearOrder κ] (key : α → κ)

/-- The place of the first least element among `best`, which is at `place`, and the elements
after it, the first of which is at `next`. -/
def minPlace (best : α) (place next : Nat) : List α → Nat
  | [] => place
  | x :: rest =>
      if key x < key best then minPlace x next (next + 1) rest
      else minPlace best place (next + 1) rest

/-- An element is exchanged with the one at a place, counted from the element itself. -/
def exchange (x : α) (rest : List α) : Nat → α × List α
  | 0 => (x, rest)
  | place + 1 =>
      match rest[place]? with
      | none => (x, rest)
      | some y => (y, rest.set place x)

/-- Sort as many elements as are counted. -/
def selectionSort : Nat → List α → List α
  | 0, data => data
  | _ + 1, [] => []
  | count + 1, x :: rest =>
      let (least, others) := exchange x rest (minPlace key x 0 1 rest)
      least :: selectionSort count others

variable {key}

/-- The scan finds the element that it begins with, or a lesser one. -/
theorem minPlace_spec (best : α) (place next : Nat) (data : List α) :
    (minPlace key best place next data = place ∧ ∀ y ∈ data, key best ≤ key y) ∨
      ∃ further y, minPlace key best place next data = next + further ∧
        data[further]? = some y ∧ key y < key best ∧ ∀ z ∈ data, key y ≤ key z := by
  induction data generalizing best place next with
  | nil => exact .inl ⟨rfl, by simp⟩
  | cons x rest ih =>
      by_cases less : key x < key best
      · rw [minPlace, if_pos less]
        rcases ih x next (next + 1) with ⟨found, least⟩ | ⟨further, y, found, isHere, lesser, least⟩
        · refine .inr ⟨0, x, found, rfl, less, ?_⟩
          exact List.forall_mem_cons.mpr ⟨le_rfl, least⟩
        · refine .inr ⟨further + 1, y, ?_, isHere, lt_trans lesser less, ?_⟩
          · rw [found, Nat.add_assoc, Nat.add_comm 1]
          · exact List.forall_mem_cons.mpr ⟨(le_of_lt lesser), least⟩
      · rw [minPlace, if_neg less]
        rcases ih best place (next + 1) with
          ⟨found, least⟩ | ⟨further, y, found, isHere, lesser, least⟩
        · exact .inl ⟨found, List.forall_mem_cons.mpr ⟨not_lt.mp less, least⟩⟩
        · refine .inr ⟨further + 1, y, ?_, isHere, lesser, ?_⟩
          · rw [found, Nat.add_assoc, Nat.add_comm 1]
          · exact List.forall_mem_cons.mpr ⟨(le_of_lt lesser).trans (not_lt.mp less), least⟩

theorem cons_set_perm {data : List α} {place : Nat} {y : α} (isHere : data[place]? = some y)
    (x : α) : (y :: data.set place x).Perm (x :: data) := by
  induction data generalizing place with
  | nil => simp at isHere
  | cons head tail ih =>
      cases place with
      | zero =>
          cases isHere
          exact .swap x y tail
      | succ place =>
          have inner := ih isHere
          exact (List.Perm.swap head y _).trans ((inner.cons head).trans (.swap x head tail))

theorem exchange_perm (x : α) (rest : List α) (place : Nat) :
    ((exchange x rest place).1 :: (exchange x rest place).2).Perm (x :: rest) := by
  cases place with
  | zero => exact .refl _
  | succ place =>
      cases isHere : rest[place]? with
      | none => simp [exchange, isHere]
      | some y =>
          simp only [exchange, isHere]
          exact cons_set_perm isHere x

/-- The element that comes to the front is a least one. -/
theorem exchange_minPlace_le (x : α) (rest : List α) :
    ∀ y ∈ x :: rest, key (exchange x rest (minPlace key x 0 1 rest)).1 ≤ key y := by
  rcases @minPlace_spec _ _ _ key x 0 1 rest with
    ⟨found, least⟩ | ⟨further, y, found, isHere, less, least⟩
  · rw [found]
    exact List.forall_mem_cons.mpr ⟨le_rfl, least⟩
  · have front : (exchange x rest (minPlace key x 0 1 rest)).1 = y := by
      rw [found, Nat.add_comm]
      simp [exchange, isHere]
    rw [front]
    exact List.forall_mem_cons.mpr ⟨less.le, least⟩

theorem selectionSort_perm (count : Nat) (data : List α) :
    (selectionSort key count data).Perm data := by
  induction count generalizing data with
  | zero => exact .refl data
  | succ count ih =>
      cases data with
      | nil => exact .refl _
      | cons x rest => exact ((ih _).cons _).trans (exchange_perm x rest _)

/-- What is counted is sorted. -/
theorem selectionSort_pairwise {count : Nat} {data : List α} (counted : data.length ≤ count) :
    (selectionSort key count data).Pairwise fun a b => key a ≤ key b := by
  induction count generalizing data with
  | zero =>
      rw [List.eq_nil_of_length_eq_zero (Nat.le_zero.mp counted)]
      exact .nil
  | succ count ih =>
      cases data with
      | nil => exact .nil
      | cons x rest =>
          have same := exchange_perm x rest (minPlace key x 0 1 rest)
          have shorter : (exchange x rest (minPlace key x 0 1 rest)).2.length ≤ count := by
            have length := same.length_eq
            simp only [List.length_cons] at length counted
            omega
          refine List.Pairwise.cons ?_ (ih shorter)
          intro y isLater
          have inRest := (selectionSort_perm count _).mem_iff.mp isLater
          exact exchange_minPlace_le x rest y (same.mem_iff.mp (List.mem_cons_of_mem _ inRest))

end FwkRtos.Sorting

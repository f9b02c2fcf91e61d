import FwkRtos.Sorting.Heapsort
import Mathlib.Algebra.Ring.Int.Defs
import Mathlib.Algebra.Ring.Nat

/-!
# The macros on `int` indices

The macros compute with indices of type `int`, and hand them to `compare` and `swap`.  A sum
that is no `int` and an index outside the array have no result here.  Up to `2 ^ 30` elements
neither occurs, and the macros sort like the algorithm on unbounded indices.
-/

namespace FwkRtos.Sorting.Macros

universe u

variable {α : Type u}

/-! ## The macros -/

/-- The result of an operation on `int`, which is not defined where it overflows. -/
def checkInt (value : Int) : Option Int :=
  if -2 ^ 31 ≤ value ∧ value < 2 ^ 31 then some value else none

/-- `left_child_index`. -/
def leftChildIndex (root : Int) : Option Int :=
  (checkInt (2 * root)).bind fun twice => checkInt (twice + 1)

/-- `right_sibling_index`. -/
def rightSiblingIndex (left : Int) : Option Int :=
  checkInt (left + 1)

section
variable (compare : α → α → Int) (length : Nat)

/-- The index of an element. -/
def InArray (i : Int) : Prop :=
  0 ≤ i ∧ i < length

instance (i : Int) : Decidable (InArray length i) :=
  inferInstanceAs (Decidable (_ ∧ _))

/-- A call of `compare`. -/
def callCompare (data : Nat → α) (a b : Int) : Option Int :=
  if InArray length a ∧ InArray length b then some (compare (data a.toNat) (data b.toNat))
  else none

/-- A call of `swap`. -/
def callSwap (data : Nat → α) (a b : Int) : Option (Nat → α) :=
  if InArray length a ∧ InArray length b then some (swap data a.toNat b.toNat) else none

/-- The child for which the root may be exchanged. -/
def siftChild (data : Nat → α) (last left : Int) : Option Int :=
  (rightSiblingIndex left).bind fun right =>
    if right ≤ last then
      (callCompare compare length data left right).map fun result =>
        if result < 0 then right else left
    else some left

/-- What one round of the loop in `sift_down` does: the elements and the next root, or none
where the loop ends. -/
def siftRound (data : Nat → α) (last root : Int) : Option ((Nat → α) × Option Int) :=
  (leftChildIndex root).bind fun left =>
    if left ≤ last then
      (siftChild compare length data last left).bind fun child =>
        (callCompare compare length data root child).bind fun result =>
          if result < 0 then
            (callSwap length data root child).map fun data => (data, some child)
          else some (data, none)
    else some (data, none)

theorem checkInt_eq_some_iff {value result : Int} :
    checkInt value = some result ↔ value = result ∧ -2 ^ 31 ≤ value ∧ value < 2 ^ 31 := by
  unfold checkInt
  by_cases fits : -2 ^ 31 ≤ value ∧ value < 2 ^ 31
  · rw [if_pos fits, Option.some_inj]
    exact (and_iff_left fits).symm
  · rw [if_neg fits]
    constructor
    · intro undefined
      cases undefined
    · intro both
      exact absurd both.2 fits

theorem leftChildIndex_eq {root left : Int} (isLeft : leftChildIndex root = some left) :
    left = 2 * root + 1 := by
  rcases Option.bind_eq_some_iff.mp isLeft with ⟨twice, isTwice, next⟩
  rw [← (checkInt_eq_some_iff.mp next).1, ← (checkInt_eq_some_iff.mp isTwice).1]

variable {compare length} in
theorem siftChild_le {data : Nat → α} {last left child : Int} (inside : left ≤ last)
    (isChild : siftChild compare length data last left = some child) :
    left ≤ child ∧ child ≤ last := by
  rcases Option.bind_eq_some_iff.mp isChild with ⟨right, isRight, chosen⟩
  have next : left + 1 = right := (checkInt_eq_some_iff.mp isRight).1
  by_cases both : right ≤ last
  · rw [if_pos both, Option.map_eq_some_iff] at chosen
    rcases chosen with ⟨result, _, rfl⟩
    by_cases less : result < 0
    · rw [if_pos less]
      exact ⟨by omega, both⟩
    · rw [if_neg less]
      exact ⟨Int.le_refl left, inside⟩
  · rw [if_neg both, Option.some_inj] at chosen
    rw [← chosen]
    exact ⟨Int.le_refl left, inside⟩

variable {compare length} in
/-- The loop goes on behind its root. -/
theorem siftRound_lt {data after : Nat → α} {last root child : Int}
    (round : siftRound compare length data last root = some (after, some child)) :
    root < child ∧ child ≤ last := by
  rcases Option.bind_eq_some_iff.mp round with ⟨left, isLeft, round⟩
  by_cases inside : left ≤ last
  · rw [if_pos inside] at round
    rcases Option.bind_eq_some_iff.mp round with ⟨chosen, isChosen, round⟩
    rcases Option.bind_eq_some_iff.mp round with ⟨result, called, round⟩
    have place := siftChild_le inside isChosen
    have isRoot : 0 ≤ root := by
      unfold callCompare at called
      by_cases inArray : InArray length root ∧ InArray length chosen
      · exact inArray.1.1
      · rw [if_neg inArray] at called
        cases called
    have double := leftChildIndex_eq isLeft
    by_cases less : result < 0
    · rw [if_pos less, Option.map_eq_some_iff] at round
      rcases round with ⟨swapped, _, same⟩
      obtain rfl : chosen = child := Option.some.inj (congrArg Prod.snd same)
      exact ⟨by omega, place.2⟩
    · rw [if_neg less] at round
      cases round
  · rw [if_neg inside] at round
    cases round

/-- `sift_down`. -/
def siftDown (last root : Int) (data : Nat → α) : Option (Nat → α) :=
  match _round : siftRound compare length data last root with
  | none => none
  | some (after, none) => some after
  | some (after, some child) => siftDown last child after
termination_by (last - root).toNat
decreasing_by
  have := siftRound_lt _round
  omega

/-- `heapify`. -/
def heapify (last first : Int) (data : Nat → α) : Option (Nat → α) :=
  if 0 ≤ first then
    (siftDown compare length last first data).bind fun data => heapify last (first - 1) data
  else some data
termination_by (first + 1).toNat

/-- The loop of `heapsort`. -/
def extractAll (last : Int) (data : Nat → α) : Option (Nat → α) :=
  if 0 < last then
    (callSwap length data last 0).bind fun data =>
      (siftDown compare length (last - 1) 0 data).bind fun data => extractAll (last - 1) data
  else some data
termination_by last.toNat

/-- `heapsort`, for an array of `length` elements. -/
def heapsort (data : Nat → α) : Option (Nat → α) :=
  (heapify compare length (length - 1) (length / 2 - 1) data).bind fun data =>
    extractAll compare length (length - 1) data

end

/-! ## Sorting -/

/-- The macro ends, with all sums and indices in their ranges, and leaves a rearrangement in
which no later element is less than an earlier one. -/
def Sorts (compare : α → α → Int) (length : Nat) (data : Nat → α) : Prop :=
  ∃ sorted, heapsort compare length data = some sorted ∧ Rearranges length data sorted ∧
    ∀ i j, i < j → j < length → ¬ compare (sorted j) (sorted i) < 0

/-! ## Up to `2 ^ 30` elements -/

section
variable {compare : α → α → Int} {length size root : Nat} {data : Nat → α}

theorem checkInt_natCast {value : Nat} (fits : value < 2 ^ 31) :
    checkInt value = some (value : Int) :=
  if_pos ⟨by omega, by omega⟩

theorem leftChildIndex_natCast (inside : root < 2 ^ 30) :
    leftChildIndex root = some ((Sorting.leftChildIndex root : Nat) : Int) := by
  have twice : 2 * (root : Int) = ((2 * root : Nat) : Int) := by omega
  have next : ((2 * root : Nat) : Int) + 1 = ((2 * root + 1 : Nat) : Int) := by omega
  have doubled : 2 * root < 2 ^ 31 := by omega
  have small : 2 * root + 1 < 2 ^ 31 := by omega
  rw [leftChildIndex, twice, checkInt_natCast doubled, Option.bind_some, next,
    checkInt_natCast small]
  rfl

theorem callCompare_natCast {a b : Nat} (aInside : a < length) (bInside : b < length) :
    callCompare compare length data a b = some (compare (data a) (data b)) :=
  if_pos ⟨⟨Int.natCast_nonneg a, Int.ofNat_lt.mpr aInside⟩,
    ⟨Int.natCast_nonneg b, Int.ofNat_lt.mpr bInside⟩⟩

theorem callSwap_natCast {a b : Nat} (aInside : a < length) (bInside : b < length) :
    callSwap length data a b = some (swap data a b) :=
  if_pos ⟨⟨Int.natCast_nonneg a, Int.ofNat_lt.mpr aInside⟩,
    ⟨Int.natCast_nonneg b, Int.ofNat_lt.mpr bInside⟩⟩

variable (inside : size ≤ length) (small : size ≤ 2 ^ 30)
include inside small

theorem siftChild_natCast {left : Nat} (hasChild : left < size) :
    siftChild compare length data (size - 1) left =
      some ((Sorting.siftChild compare data left size : Nat) : Int) := by
  have right : rightSiblingIndex left = some ((Sorting.rightSiblingIndex left : Nat) : Int) := by
    have next : (left : Int) + 1 = ((left + 1 : Nat) : Int) := by omega
    have fits : left + 1 < 2 ^ 31 := by omega
    rw [rightSiblingIndex, next, checkInt_natCast fits]
    rfl
  rw [siftChild, right, Option.bind_some, Sorting.siftChild]
  by_cases hasRight : Sorting.rightSiblingIndex left < size
  · have isRight : ((Sorting.rightSiblingIndex left : Nat) : Int) ≤ size - 1 := by omega
    rw [if_pos isRight, callCompare_natCast (hasChild.trans_le inside) (hasRight.trans_le inside),
      Option.map_some]
    by_cases less : compare (data left) (data (Sorting.rightSiblingIndex left)) < 0
    · rw [if_pos less, if_pos ⟨hasRight, less⟩]
    · rw [if_neg less, if_neg fun both => less both.2]
  · have noRight : ¬ ((Sorting.rightSiblingIndex left : Nat) : Int) ≤ size - 1 := by omega
    rw [if_neg noRight, if_neg fun both => hasRight both.1]

/-- The sift of the macros is the sift on unbounded indices. -/
theorem siftDown_natCast (isRoot : root < 2 ^ 30) :
    siftDown compare length (size - 1) root data =
      some (Sorting.siftDown compare size root data) := by
  induction root, data using Sorting.siftDown.induct compare size with
  | case1 root data hasChild less ih =>
      have isChild : Sorting.siftChild compare data (Sorting.leftChildIndex root) size < size :=
        (siftChild_isChild hasChild).2
      have isLeft : ((Sorting.leftChildIndex root : Nat) : Int) ≤ size - 1 := by omega
      have behind : root < size := (siftChild_isChild hasChild).lt.trans isChild
      have round : siftRound compare length data (size - 1) root =
          some (swap data root (Sorting.siftChild compare data (Sorting.leftChildIndex root) size),
            some ((Sorting.siftChild compare data (Sorting.leftChildIndex root) size : Nat) :
              Int)) := by
        rw [siftRound, leftChildIndex_natCast isRoot, Option.bind_some, if_pos isLeft,
          siftChild_natCast inside small hasChild, Option.bind_some,
          callCompare_natCast (behind.trans_le inside) (isChild.trans_le inside),
          Option.bind_some, if_pos less,
          callSwap_natCast (behind.trans_le inside) (isChild.trans_le inside)]
        rfl
      rw [siftDown, round, Sorting.siftDown, if_pos hasChild, if_pos less]
      exact ih (isChild.trans_le small)
  | case2 root data hasChild notLess =>
      have isChild : Sorting.siftChild compare data (Sorting.leftChildIndex root) size < size :=
        (siftChild_isChild hasChild).2
      have isLeft : ((Sorting.leftChildIndex root : Nat) : Int) ≤ size - 1 := by omega
      have behind : root < size := (siftChild_isChild hasChild).lt.trans isChild
      have round : siftRound compare length data (size - 1) root = some (data, none) := by
        rw [siftRound, leftChildIndex_natCast isRoot, Option.bind_some, if_pos isLeft,
          siftChild_natCast inside small hasChild, Option.bind_some,
          callCompare_natCast (behind.trans_le inside) (isChild.trans_le inside),
          Option.bind_some, if_neg notLess]
      rw [siftDown, round, Sorting.siftDown, if_pos hasChild, if_neg notLess]
  | case3 root data noChild =>
      have notLeft : ¬ ((Sorting.leftChildIndex root : Nat) : Int) ≤ size - 1 := by omega
      have round : siftRound compare length data (size - 1) root = some (data, none) := by
        rw [siftRound, leftChildIndex_natCast isRoot, Option.bind_some, if_neg notLeft]
      rw [siftDown, round, Sorting.siftDown, if_neg noChild]

theorem heapify_natCast {roots : Nat} (areRoots : roots ≤ 2 ^ 30) :
    heapify compare length (size - 1) (roots - 1) data =
      some (Sorting.heapify compare size roots data) := by
  induction roots generalizing data with
  | zero =>
      rw [heapify]
      exact if_neg (by omega)
  | succ root ih =>
      have isRoot : ((root + 1 : Nat) : Int) - 1 = root := by omega
      rw [heapify, isRoot, if_pos (Int.natCast_nonneg root),
        siftDown_natCast inside small (by omega), Option.bind_some, ih (by omega)]
      rfl

theorem extractAll_natCast :
    extractAll compare length (size - 1) data =
      some (Sorting.extractAll compare size data) := by
  induction size, data using Sorting.extractAll.induct compare with
  | case1 data =>
      rw [extractAll]
      exact if_neg (by omega)
  | case2 data =>
      rw [extractAll]
      exact if_neg (by omega)
  | case3 last data ih =>
      have isLast : ((last + 2 : Nat) : Int) - 1 = ((last + 1 : Nat) : Int) := by omega
      have swapped : callSwap length data ((last + 1 : Nat) : Int) ((0 : Nat) : Int) =
          some (swap data (last + 1) 0) := callSwap_natCast (by omega) (by omega)
      rw [Int.natCast_zero] at swapped
      rw [extractAll, isLast, if_pos (by omega), swapped, Option.bind_some]
      have sifted : siftDown compare length (((last + 1 : Nat) : Int) - 1) ((0 : Nat) : Int)
          (swap data (last + 1) 0) =
            some (Sorting.siftDown compare (last + 1) 0 (swap data (last + 1) 0)) :=
        siftDown_natCast (by omega) (by omega) (by omega)
      rw [Int.natCast_zero] at sifted
      rw [sifted, Option.bind_some, ih (by omega) (by omega), Sorting.extractAll]

omit inside small in
/-- The macro is the algorithm on unbounded indices. -/
theorem heapsort_eq (small : length ≤ 2 ^ 30) :
    heapsort compare length data = some (Sorting.heapsort compare length data) := by
  have middle : ((length : Int) / 2) = ((length / 2 : Nat) : Int) := by omega
  rw [heapsort, middle, heapify_natCast (Nat.le_refl length) small (by omega), Option.bind_some,
    extractAll_natCast (Nat.le_refl length) small]
  rfl

end

theorem sorts_of_le {compare : α → α → Int} [IsStrictWeakOrder α fun a b => compare a b < 0]
    {length : Nat} (small : length ≤ 2 ^ 30) (data : Nat → α) : Sorts compare length data := by
  refine ⟨_, heapsort_eq small, heapsort_rearranges compare length data, ?_⟩
  intro i j isBefore inside
  exact heapsort_sorted compare length data isBefore inside

/-! ## More elements -/

/-- The place in the order of the natural numbers. -/
def difference (a b : Nat) : Int :=
  a - b

theorem difference_neg_iff {a b : Nat} : difference a b < 0 ↔ a < b := by
  unfold difference
  omega

instance : IsStrictWeakOrder Nat fun a b => difference a b < 0 where
  irrefl a := by
    rw [difference_neg_iff]
    exact Nat.lt_irrefl a
  trans a b c := by
    simp only [difference_neg_iff]
    exact Nat.lt_trans
  incomp_trans a b c := by
    simp only [difference_neg_iff]
    omega

/-- From the place `2 ^ 30` on there is no index for a left child. -/
theorem siftDown_eq_none {compare : α → α → Int} {length : Nat} {data : Nat → α} {last root : Int}
    (large : 2 ^ 30 ≤ root) : siftDown compare length last root data = none := by
  have overflows : checkInt (2 * root) = none := if_neg (by omega)
  have round : siftRound compare length data last root = none := by
    rw [siftRound, leftChildIndex, overflows]
    rfl
  rw [siftDown, round]

/-- The first sift of ascending elements goes to the last place. -/
theorem siftRound_ascending {length : Nat} (many : 2 ≤ length) (isInt : length < 2 ^ 31) :
    siftRound difference length id (length - 1) (length / 2 - 1) =
      some (swap id (length / 2 - 1) (length - 1), some ((length : Int) - 1)) := by
  have left : leftChildIndex ((length : Int) / 2 - 1) = some (2 * ((length : Int) / 2) - 1) := by
    have twice : checkInt (2 * ((length : Int) / 2 - 1)) = some (2 * ((length : Int) / 2 - 1)) :=
      if_pos (by omega)
    have next : checkInt (2 * ((length : Int) / 2 - 1) + 1) =
        some (2 * ((length : Int) / 2 - 1) + 1) := if_pos (by omega)
    rw [leftChildIndex, twice, Option.bind_some, next]
    congr 1
    omega
  have child : siftChild difference length id (length - 1)
      (2 * ((length : Int) / 2) - 1) = some ((length : Int) - 1) := by
    have right : rightSiblingIndex (2 * ((length : Int) / 2) - 1) =
        some (2 * ((length : Int) / 2)) := by
      rw [rightSiblingIndex, Int.sub_add_cancel]
      exact if_pos (by omega)
    rw [siftChild, right, Option.bind_some]
    by_cases odd : 2 * ((length : Int) / 2) ≤ length - 1
    · have called : callCompare difference length id (2 * ((length : Int) / 2) - 1)
          (2 * ((length : Int) / 2)) = some (-1) := by
        unfold callCompare InArray difference
        rw [if_pos (by omega), id_eq, id_eq]
        congr 1
        omega
      rw [if_pos odd, called, Option.map_some, if_pos (by decide)]
      congr 1
      omega
    · rw [if_neg odd]
      congr 1
      omega
  have called : callCompare difference length id ((length : Int) / 2 - 1)
      ((length : Int) - 1) = some (difference (length / 2 - 1) (length - 1)) := by
    have rootPlace : ((length : Int) / 2 - 1).toNat = length / 2 - 1 := by omega
    have lastPlace : ((length : Int) - 1).toNat = length - 1 := by omega
    unfold callCompare InArray
    rw [if_pos (by omega), rootPlace, lastPlace, id_eq, id_eq]
  have swapped : callSwap length id ((length : Int) / 2 - 1) ((length : Int) - 1) =
      some (swap id (length / 2 - 1) (length - 1)) := by
    have rootPlace : ((length : Int) / 2 - 1).toNat = length / 2 - 1 := by omega
    have lastPlace : ((length : Int) - 1).toNat = length - 1 := by omega
    unfold callSwap InArray
    rw [if_pos (by omega), rootPlace, lastPlace]
  have less : difference (length / 2 - 1) (length - 1) < 0 := by
    rw [difference_neg_iff]
    omega
  rw [siftRound, left, Option.bind_some, if_pos (by omega), child, Option.bind_some, called,
    Option.bind_some, if_pos less, swapped]
  rfl

/-- With more than `2 ^ 30` ascending elements an index overflows. -/
theorem not_sorts_ascending {length : Nat} (large : 2 ^ 30 < length) (isInt : length < 2 ^ 31) :
    ¬ Sorts difference length id := by
  rintro ⟨sorted, result, _⟩
  have first : siftDown difference length (length - 1) (length / 2 - 1) id = none := by
    rw [siftDown, siftRound_ascending (by omega) isInt]
    exact siftDown_eq_none (by omega)
  rw [heapsort, heapify, if_pos (by omega), first] at result
  cases result

/-- The macro sorts all arrays of a length just when the length is at most `2 ^ 30`. -/
theorem sorts_iff (length : Nat) (isInt : length < 2 ^ 31) :
    (∀ (α : Type) (compare : α → α → Int) [IsStrictWeakOrder α fun a b => compare a b < 0]
      (data : Nat → α), Sorts compare length data) ↔ length ≤ 2 ^ 30 := by
  constructor
  · intro sorts
    by_contra large
    exact not_sorts_ascending (Nat.lt_of_not_le large) isInt (sorts Nat difference id)
  · intro small α compare _ data
    exact sorts_of_le small data

theorem threeElements_sorts_iff :
    (∀ (α : Type) (compare : α → α → Int) [IsStrictWeakOrder α fun a b => compare a b < 0]
      (data : Nat → α), Sorts compare 3 data) ↔ 3 ≤ 2 ^ 30 :=
  sorts_iff 3 (by decide)

/-- The elements ascend, and there is one too many. -/
theorem oneTooMany_not_sorts :
    2 ^ 30 + 1 < 2 ^ 31 ∧ IsStrictWeakOrder Nat (fun a b => difference a b < 0) ∧
      ¬ Sorts difference (2 ^ 30 + 1) id :=
  ⟨by decide, inferInstance, not_sorts_ascending (by decide) (by decide)⟩

end FwkRtos.Sorting.Macros

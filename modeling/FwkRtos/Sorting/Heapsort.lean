import Mathlib.Order.Defs.Unbundled
import Mathlib.Order.Nat
import Mathlib.Logic.Equiv.Basic

/-!
# Heap sort in place

The sequence is sorted by swaps alone, so what is left is a rearrangement of it
by construction.  The comparator says which of two elements is less by the sign
of its result; nothing is asked of the sign of ties, which may be positive in
both directions.
-/

namespace FwkRtos.Sorting

universe u

variable {α : Type u}

/-! ## The algorithm -/

/-- The index of the left child of a root. -/
def leftChildIndex (root : Nat) : Nat :=
  2 * root + 1

/-- The index of the right sibling of a left child. -/
def rightSiblingIndex (left : Nat) : Nat :=
  left + 1

/-- Exchange two elements. -/
def swap (data : Nat → α) (a b : Nat) : Nat → α :=
  fun i => data (Equiv.swap a b i)

section
variable (compare : α → α → Int)

/-- The child with which the sift goes on: the right sibling when it is inside and
the left child is less. -/
def siftChild (data : Nat → α) (left size : Nat) : Nat :=
  if rightSiblingIndex left < size ∧ compare (data left) (data (rightSiblingIndex left)) < 0 then
    rightSiblingIndex left
  else
    left

theorem siftChild_eq (data : Nat → α) (left size : Nat) :
    siftChild compare data left size = left ∨
      siftChild compare data left size = left + 1 ∧ left + 1 < size := by
  unfold siftChild rightSiblingIndex
  by_cases right : left + 1 < size ∧ compare (data left) (data (left + 1)) < 0
  · rw [if_pos right]
    exact .inr ⟨rfl, right.1⟩
  · rw [if_neg right]
    exact .inl rfl

/-- Let an element sink until neither child is greater.  The heap has `size`
elements, so that its last index is `size - 1`. -/
def siftDown (size root : Nat) (data : Nat → α) : Nat → α :=
  if leftChildIndex root < size then
    if compare (data root) (data (siftChild compare data (leftChildIndex root) size)) < 0 then
      siftDown size (siftChild compare data (leftChildIndex root) size)
        (swap data root (siftChild compare data (leftChildIndex root) size))
    else
      data
  else
    data
termination_by size - root
decreasing_by
  have := siftChild_eq compare data (leftChildIndex root) size
  unfold leftChildIndex at *
  omega

/-- Sift the roots below `roots`, from the last one down to the first. -/
def heapify (size : Nat) : Nat → (Nat → α) → Nat → α
  | 0, data => data
  | root + 1, data => heapify size root (siftDown compare size root data)

/-- Move the greatest element behind the heap until one element is left. -/
def extractAll : Nat → (Nat → α) → Nat → α
  | 0, data => data
  | 1, data => data
  | last + 2, data => extractAll (last + 1) (siftDown compare (last + 1) 0 (swap data (last + 1) 0))

/-- Sort the first `length` elements. -/
def heapsort (length : Nat) (data : Nat → α) : Nat → α :=
  extractAll compare length (heapify compare length (length / 2) data)

end

/-! ## Rearrangements of the first elements -/

/-- The first `size` elements are moved among themselves. -/
def Rearranges (size : Nat) (before after : Nat → α) : Prop :=
  ∃ moved : Equiv.Perm Nat, (∀ i, size ≤ i → moved i = i) ∧ after = fun i => before (moved i)

namespace Rearranges

variable {size larger : Nat} {first second third : Nat → α}

theorem refl (size : Nat) (data : Nat → α) : Rearranges size data data :=
  ⟨Equiv.refl Nat, fun _ _ => rfl, rfl⟩

theorem trans (earlier : Rearranges size first second) (later : Rearranges size second third) :
    Rearranges size first third := by
  rcases earlier with ⟨movedFirst, fixedFirst, rfl⟩
  rcases later with ⟨movedSecond, fixedSecond, rfl⟩
  refine ⟨movedSecond.trans movedFirst, ?_, rfl⟩
  intro i outside
  rw [Equiv.trans_apply, fixedSecond i outside, fixedFirst i outside]

theorem mono (rearranges : Rearranges size first second) (order : size ≤ larger) :
    Rearranges larger first second := by
  rcases rearranges with ⟨moved, fixed, rfl⟩
  exact ⟨moved, fun i outside => fixed i (order.trans outside), rfl⟩

theorem of_swap {a b : Nat} (data : Nat → α) (aInside : a < size) (bInside : b < size) :
    Rearranges size data (swap data a b) := by
  refine ⟨Equiv.swap a b, ?_, rfl⟩
  intro i outside
  exact Equiv.swap_apply_of_ne_of_ne (by omega) (by omega)

theorem outside (rearranges : Rearranges size first second) {i : Nat} (beyond : size ≤ i) :
    second i = first i := by
  rcases rearranges with ⟨moved, fixed, rfl⟩
  exact congrArg first (fixed i beyond)

/-- An element of the first part comes from the first part. -/
theorem inside (rearranges : Rearranges size first second) {i : Nat} (within : i < size) :
    ∃ j, j < size ∧ second i = first j := by
  rcases rearranges with ⟨moved, fixed, rfl⟩
  refine ⟨moved i, ?_, rfl⟩
  by_contra beyond
  have same : moved i = i := moved.injective (fixed (moved i) (Nat.le_of_not_lt beyond))
  omega

end Rearranges

section
variable (compare : α → α → Int)

theorem siftDown_rearranges (size root : Nat) (data : Nat → α) :
    Rearranges size data (siftDown compare size root data) := by
  induction root, data using siftDown.induct compare size with
  | case1 root data hasChild less ih =>
      have child := siftChild_eq compare data (leftChildIndex root) size
      rw [siftDown, if_pos hasChild, if_pos less]
      unfold leftChildIndex at *
      exact (Rearranges.of_swap data (by omega) (by omega)).trans ih
  | case2 root data hasChild notLess =>
      rw [siftDown, if_pos hasChild, if_neg notLess]
      exact .refl size data
  | case3 root data noChild =>
      rw [siftDown, if_neg noChild]
      exact .refl size data

theorem heapify_rearranges (size roots : Nat) (data : Nat → α) :
    Rearranges size data (heapify compare size roots data) := by
  induction roots generalizing data with
  | zero => exact .refl size data
  | succ root ih => exact (siftDown_rearranges compare size root data).trans (ih _)

theorem extractAll_rearranges (size : Nat) (data : Nat → α) :
    Rearranges size data (extractAll compare size data) := by
  induction size, data using extractAll.induct compare with
  | case1 data => exact .refl 0 data
  | case2 data => exact .refl 1 data
  | case3 last data ih =>
      rw [extractAll]
      refine (Rearranges.of_swap data (Nat.lt_succ_self _) (Nat.succ_pos _)).trans ?_
      exact ((siftDown_rearranges compare (last + 1) 0 _).trans ih).mono (Nat.le_succ _)

/-- Sorting moves the first `length` elements among themselves. -/
theorem heapsort_rearranges (length : Nat) (data : Nat → α) :
    Rearranges length data (heapsort compare length data) :=
  (heapify_rearranges compare length (length / 2) data).trans
    (extractAll_rearranges compare length _)

end

/-! ## The order that the comparator defines -/

section
variable {compare : α → α → Int} [order : IsStrictWeakOrder α fun a b => compare a b < 0]

omit order in
/-- The first element is not greater than the second one. -/
def AtMost (compare : α → α → Int) (a b : α) : Prop :=
  ¬ compare b a < 0

theorem AtMost.refl (a : α) : AtMost compare a a :=
  order.irrefl a

theorem atMost_of_less {a b : α} (less : compare a b < 0) : AtMost compare a b :=
  fun greater => order.irrefl a (order.trans a b a less greater)

theorem AtMost.trans {a b c : α} (first : AtMost compare a b) (second : AtMost compare b c) :
    AtMost compare a c := by
  intro less
  by_cases firstLess : compare a b < 0
  · exact second (order.trans c a b less firstLess)
  · by_cases secondLess : compare b c < 0
    · exact first (order.trans b c a secondLess less)
    · have tied := order.incomp_trans a b c ⟨firstLess, first⟩ ⟨secondLess, second⟩
      exact tied.2 less

/-! ## The heap -/

/-- `child` is a child of `parent` among the first `size` elements. -/
def IsChild (size parent child : Nat) : Prop :=
  (child = leftChildIndex parent ∨ child = rightSiblingIndex (leftChildIndex parent)) ∧
    child < size

/-- No child of a root from `first` on is greater than its parent. -/
def IsHeap (compare : α → α → Int) (size first : Nat) (data : Nat → α) : Prop :=
  ∀ parent child, first ≤ parent → IsChild size parent child →
    AtMost compare (data child) (data parent)

/-- A heap but for one root, whose children are not greater than its parent either. -/
structure IsHeapBut (compare : α → α → Int) (size first hole : Nat) (data : Nat → α) : Prop where
  others : ∀ parent child, first ≤ parent → parent ≠ hole → IsChild size parent child →
    AtMost compare (data child) (data parent)
  across : ∀ parent child, first ≤ parent → IsChild size parent hole → IsChild size hole child →
    AtMost compare (data child) (data parent)

omit order in
theorem siftChild_isChild {data : Nat → α} {root size : Nat}
    (hasChild : leftChildIndex root < size) :
    IsChild size root (siftChild compare data (leftChildIndex root) size) := by
  rcases siftChild_eq compare data (leftChildIndex root) size with left | right
  · rw [left]
    exact ⟨.inl rfl, hasChild⟩
  · rw [right.1]
    exact ⟨.inr rfl, right.2⟩

/-- No child is greater than the one with which the sift goes on. -/
theorem atMost_siftChild {data : Nat → α} {root size child : Nat}
    (isChild : IsChild size root child) :
    AtMost compare (data child) (data (siftChild compare data (leftChildIndex root) size)) := by
  rcases isChild with ⟨left | right, inside⟩
  · subst left
    unfold siftChild
    by_cases less : rightSiblingIndex (leftChildIndex root) < size ∧
        compare (data (leftChildIndex root)) (data (rightSiblingIndex (leftChildIndex root))) < 0
    · rw [if_pos less]
      exact atMost_of_less less.2
    · rw [if_neg less]
      exact .refl _
  · subst right
    unfold siftChild
    by_cases less : compare (data (leftChildIndex root))
        (data (rightSiblingIndex (leftChildIndex root))) < 0
    · rw [if_pos ⟨inside, less⟩]
      exact .refl _
    · rw [if_neg fun both => less both.2]
      exact less

omit order in
theorem IsChild.lt {size parent child : Nat} (isChild : IsChild size parent child) :
    parent < child := by
  unfold IsChild leftChildIndex rightSiblingIndex at isChild
  omega

omit order in
/-- A position has one parent. -/
theorem IsChild.unique {size first second child : Nat} (isFirst : IsChild size first child)
    (isSecond : IsChild size second child) : first = second := by
  unfold IsChild leftChildIndex rightSiblingIndex at isFirst isSecond
  omega

omit order in
theorem swap_left (data : Nat → α) (a b : Nat) : swap data a b a = data b :=
  congrArg data (Equiv.swap_apply_left a b)

omit order in
theorem swap_right (data : Nat → α) (a b : Nat) : swap data a b b = data a :=
  congrArg data (Equiv.swap_apply_right a b)

omit order in
theorem swap_other (data : Nat → α) {a b i : Nat} (notFirst : i ≠ a) (notSecond : i ≠ b) :
    swap data a b i = data i :=
  congrArg data (Equiv.swap_apply_of_ne_of_ne notFirst notSecond)

/-- One step of the sift moves the hole to the greater child. -/
theorem IsHeapBut.swap_child {size first hole : Nat} {data : Nat → α}
    (but : IsHeapBut compare size first hole data) (within : first ≤ hole)
    (hasChild : leftChildIndex hole < size)
    (less : compare (data hole) (data (siftChild compare data (leftChildIndex hole) size)) < 0) :
    IsHeapBut compare size first (siftChild compare data (leftChildIndex hole) size)
      (swap data hole (siftChild compare data (leftChildIndex hole) size)) := by
  have chosen : IsChild size hole (siftChild compare data (leftChildIndex hole) size) :=
    siftChild_isChild hasChild
  have greatest : ∀ child, IsChild size hole child → AtMost compare (data child)
      (data (siftChild compare data (leftChildIndex hole) size)) :=
    fun _ isChild => atMost_siftChild isChild
  generalize siftChild compare data (leftChildIndex hole) size = child at *
  constructor
  · intro parent other inside notChild isChild
    by_cases isHole : parent = hole
    · subst isHole
      rw [swap_left]
      by_cases same : other = child
      · subst same
        rw [swap_right]
        exact atMost_of_less less
      · rw [swap_other data (Nat.ne_of_gt isChild.lt) same]
        exact greatest other isChild
    · rw [swap_other data isHole notChild]
      by_cases same : other = hole
      · subst same
        rw [swap_left]
        exact but.across parent child inside isChild chosen
      · have notChild' : other ≠ child := by
          rintro rfl
          exact isHole (isChild.unique chosen)
        rw [swap_other data same notChild']
        exact but.others parent other inside isHole isChild
  · intro parent other inside isParent isChild
    obtain rfl := isParent.unique chosen
    have beyond := isChild.lt
    rw [swap_left, swap_other data (by have := chosen.lt; omega) (Nat.ne_of_gt beyond)]
    exact but.others child other (inside.trans chosen.lt.le) (Nat.ne_of_gt chosen.lt) isChild

/-- The sift ends with a heap. -/
theorem IsHeapBut.siftDown {size first hole : Nat} {data : Nat → α}
    (but : IsHeapBut compare size first hole data) (within : first ≤ hole) :
    IsHeap compare size first (siftDown compare size hole data) := by
  induction hole, data using siftDown.induct compare size with
  | case1 hole data hasChild less ih =>
      rw [Sorting.siftDown, if_pos hasChild, if_pos less]
      exact ih (but.swap_child within hasChild less)
        (within.trans (siftChild_isChild hasChild).lt.le)
  | case2 hole data hasChild notLess =>
      rw [Sorting.siftDown, if_pos hasChild, if_neg notLess]
      intro parent child inside isChild
      by_cases isHole : parent = hole
      · subst isHole
        exact (atMost_siftChild isChild).trans notLess
      · exact but.others parent child inside isHole isChild
  | case3 hole data noChild =>
      rw [Sorting.siftDown, if_neg noChild]
      intro parent child inside isChild
      have notHole : parent ≠ hole := by
        rintro rfl
        unfold IsChild rightSiblingIndex at isChild
        omega
      exact but.others parent child inside notHole isChild

omit order in
/-- A heap behind the hole is a heap but for the hole. -/
theorem IsHeap.but {size hole : Nat} {data : Nat → α}
    (heap : IsHeap compare size (hole + 1) data) : IsHeapBut compare size hole hole data := by
  constructor
  · intro parent child inside notHole isChild
    exact heap parent child (Nat.lt_of_le_of_ne inside (Ne.symm notHole)) isChild
  · intro parent child inside isParent _
    exact absurd isParent.lt (Nat.not_lt_of_le inside)

/-- Sifting every root that has a child makes the whole sequence a heap. -/
theorem IsHeap.heapify {size roots : Nat} {data : Nat → α}
    (heap : IsHeap compare size roots data) :
    IsHeap compare size 0 (heapify compare size roots data) := by
  induction roots generalizing data with
  | zero => exact heap
  | succ root ih => exact ih (heap.but.siftDown (Nat.le_refl root))

/-- The first element of a heap is the greatest one. -/
theorem IsHeap.atMost_first {size i : Nat} {data : Nat → α} (heap : IsHeap compare size 0 data)
    (inside : i < size) : AtMost compare (data i) (data 0) := by
  induction i using Nat.strongRecOn with
  | ind i ih =>
      by_cases isFirst : i = 0
      · subst isFirst
        exact .refl _
      · have isChild : IsChild size ((i - 1) / 2) i := by
          unfold IsChild leftChildIndex rightSiblingIndex
          omega
        exact (heap _ i (Nat.zero_le _) isChild).trans
          (ih _ isChild.lt (isChild.lt.trans inside))

/-! ## The sorted part -/

/-- The sequence in the middle of the sort: a heap in front, and behind it elements
in order that are not less than any of the heap. -/
structure PartlySorted (compare : α → α → Int) (length size : Nat) (data : Nat → α) : Prop where
  heap : IsHeap compare size 0 data
  below : ∀ i j, i < size → size ≤ j → j < length → AtMost compare (data i) (data j)
  sorted : ∀ i j, size ≤ i → i < j → j < length → AtMost compare (data i) (data j)

/-- Extracting the greatest element leaves one element less to sort. -/
theorem PartlySorted.extract {length last : Nat} {data : Nat → α}
    (partly : PartlySorted compare length (last + 1) data) (inside : last + 1 ≤ length) :
    PartlySorted compare length last
      (Sorting.siftDown compare last 0 (swap data last 0)) := by
  have sifted := siftDown_rearranges compare last 0 (swap data last 0)
  -- What is left of the heap comes from the heap before.
  have fromHeap : ∀ i, i < last → ∃ j, j < last + 1 ∧
      Sorting.siftDown compare last 0 (swap data last 0) i = data j := by
    intro i within
    obtain ⟨j, before, same⟩ := sifted.inside within
    have swapped : Rearranges (last + 1) data (swap data last 0) :=
      .of_swap data (Nat.lt_succ_self last) (Nat.succ_pos last)
    obtain ⟨k, within, same'⟩ := swapped.inside (Nat.lt_succ_of_lt before)
    exact ⟨k, within, same.trans same'⟩
  have greatest : Sorting.siftDown compare last 0 (swap data last 0) last = data 0 :=
    (sifted.outside (Nat.le_refl last)).trans (swap_left data last 0)
  have beyond : ∀ j, last < j → Sorting.siftDown compare last 0 (swap data last 0) j = data j :=
    fun j behind => (sifted.outside behind.le).trans
      (swap_other data (Nat.ne_of_gt behind) (by omega))
  constructor
  · refine IsHeapBut.siftDown (IsHeap.but ?_) (Nat.le_refl 0)
    intro parent child notFirst isChild
    have order := isChild.lt
    have inHeap : child < last := isChild.2
    rw [swap_other data (by omega) (by omega), swap_other data (by omega) (by omega)]
    exact partly.heap parent child (Nat.zero_le _) ⟨isChild.1, Nat.lt_succ_of_lt inHeap⟩
  · intro i j within behind before
    obtain ⟨k, inHeap, same⟩ := fromHeap i within
    rw [same]
    by_cases isLast : j = last
    · subst isLast
      rw [greatest]
      exact partly.heap.atMost_first inHeap
    · have after : last < j := by omega
      rw [beyond j after]
      exact partly.below k j inHeap after before
  · intro i j behind isBefore before
    rw [beyond j (by omega)]
    by_cases isLast : i = last
    · subst isLast
      rw [greatest]
      exact partly.below 0 j (Nat.succ_pos _) isBefore before
    · have after : last < i := by omega
      rw [beyond i after]
      exact partly.sorted i j after isBefore before

theorem PartlySorted.extractAll {length size : Nat} {data : Nat → α}
    (partly : PartlySorted compare length size data) (inside : size ≤ length) :
    PartlySorted compare length 0 (extractAll compare size data) := by
  induction size, data using extractAll.induct compare with
  | case1 data => exact partly
  | case2 data =>
      -- A single element in front is in order with those behind it.
      constructor
      · intro parent child _ isChild
        exact absurd isChild.2 (Nat.not_lt_zero _)
      · intro i j within
        exact absurd within (Nat.not_lt_zero _)
      · intro i j _ isBefore before
        by_cases isFirst : i = 0
        · exact partly.below i j (by omega) (by omega) before
        · exact partly.sorted i j (by omega) isBefore before
  | case3 last data ih =>
      rw [Sorting.extractAll]
      exact ih (partly.extract inside) (Nat.le_of_succ_le inside)

variable (compare) in
/-- Of two elements of the sorted sequence the later one is not less. -/
theorem heapsort_sorted (length : Nat) (data : Nat → α) {i j : Nat} (isBefore : i < j)
    (inside : j < length) :
    AtMost compare (heapsort compare length data i) (heapsort compare length data j) := by
  -- The roots from the middle on have no children.
  have leaves : IsHeap compare length (length / 2) data := by
    intro parent child late isChild
    unfold IsChild leftChildIndex rightSiblingIndex at isChild
    omega
  have start : PartlySorted compare length length
      (Sorting.heapify compare length (length / 2) data) := by
    refine ⟨leaves.heapify, ?_, ?_⟩
    · intro i j _ behind before
      exact absurd before (Nat.not_lt_of_le behind)
    · intro i j behind isBefore before
      exact absurd before (by omega)
  exact (start.extractAll (Nat.le_refl length)).sorted i j (Nat.zero_le i) isBefore inside

end

end FwkRtos.Sorting

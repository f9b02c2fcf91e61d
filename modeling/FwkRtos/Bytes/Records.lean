import FwkRtos.Bytes.Memory
import Mathlib.Data.List.Forall2
import Mathlib.Tactic.Ring

/-!
# Records in a byte string

A byte string made of records of one size is edited record by record.
-/

namespace FwkRtos.Bytes

/-- A byte string of a fixed size. -/
abbrev Record (size : Nat) := { bytes : List UInt8 // bytes.length = size }

variable {size : Nat}

/-- Records one behind the other. -/
def pack : List (Record size) → List UInt8
  | [] => []
  | record :: rest => record.val ++ pack rest

@[simp]
theorem length_pack (records : List (Record size)) :
    (pack records).length = records.length * size := by
  induction records with
  | nil => simp [pack]
  | cons record rest ih =>
      rw [pack, List.length_append, record.property, ih, List.length_cons]
      ring

theorem pack_append (first second : List (Record size)) :
    pack (first ++ second) = pack first ++ pack second := by
  induction first with
  | nil => rfl
  | cons record rest ih => rw [List.cons_append, pack, pack, ih, List.append_assoc]

theorem take_pack (records : List (Record size)) (n : Nat) :
    (pack records).take (n * size) = pack (records.take n) := by
  induction n generalizing records with
  | zero => simp [pack]
  | succ n ih =>
      cases records with
      | nil => simp [pack]
      | cons record rest =>
          have split : (n + 1) * size = record.val.length + n * size := by
            rw [record.property]
            ring
          rw [List.take_succ_cons, pack, pack, split, List.take_length_add_append, ih]

theorem drop_pack (records : List (Record size)) (n : Nat) :
    (pack records).drop (n * size) = pack (records.drop n) := by
  induction n generalizing records with
  | zero => simp
  | succ n ih =>
      cases records with
      | nil => simp [pack]
      | cons record rest =>
          have split : (n + 1) * size = record.val.length + n * size := by
            rw [record.property]
            ring
          rw [List.drop_succ_cons, pack, split, List.drop_length_add_append, ih]

/-- A record is read at its place. -/
theorem slice_pack {records : List (Record size)} {i : Nat} (inside : i < records.length) :
    slice (pack records) (i * size) size = records[i].val := by
  rw [slice, drop_pack, List.drop_eq_getElem_cons inside, pack]
  exact List.take_left' records[i].property

/-- A record is replaced at its place. -/
theorem splice_pack {records : List (Record size)} {i : Nat} (inside : i < records.length)
    (record : Record size) :
    splice (pack records) (i * size) record.val = pack (records.set i record) := by
  have next : i * size + record.val.length = (i + 1) * size := by
    rw [record.property]
    ring
  rw [splice, next, take_pack, drop_pack, List.set_eq_take_append_cons_drop, if_pos inside,
    pack_append, pack, List.append_assoc]

/-- A whole number of records is a list of them. -/
theorem exists_pack {bytes : List UInt8} {n : Nat} (whole : bytes.length = n * size) :
    ∃ records : List (Record size), records.length = n ∧ pack records = bytes := by
  induction n generalizing bytes with
  | zero =>
      refine ⟨[], rfl, ?_⟩
      rw [Nat.zero_mul] at whole
      rw [List.eq_nil_of_length_eq_zero whole]
      rfl
  | succ n ih =>
      have total : bytes.length = n * size + size := by
        rw [whole]
        ring
      have first : (bytes.take size).length = size := by
        rw [List.length_take, total]
        omega
      have others : (bytes.drop size).length = n * size := by
        rw [List.length_drop, total]
        omega
      obtain ⟨rest, count, packed⟩ := ih others
      refine ⟨⟨bytes.take size, first⟩ :: rest, ?_, ?_⟩
      · rw [List.length_cons, count]
      · rw [pack, packed]
        exact List.take_append_drop size bytes

/-- The records are in the byte string, each at a place and in this order. -/
def Contains (bytes : List UInt8) (records : List (Record size)) : Prop :=
  ∃ places : List Nat, places.Pairwise (· < ·) ∧
    List.Forall₂ (fun place record => slice bytes (place * size) size = record.val) places records

/-- The records are at places that ascend with their index. -/
theorem contains_of_places {bytes : List UInt8} {records : List (Record size)}
    (place : Nat → Nat) (ascending : ∀ i j, i < j → place i < place j)
    (there : ∀ i (inside : i < records.length),
      slice bytes (place i * size) size = records[i].val) :
    Contains bytes records := by
  refine ⟨(List.range records.length).map place, ?_, ?_⟩
  · rw [List.pairwise_map]
    exact List.pairwise_lt_range.imp (ascending _ _)
  · apply List.forall₂_of_length_eq_of_get
    · simp
    · intro i first second
      simpa using there i second

theorem contains_pack (records : List (Record size)) : Contains (pack records) records :=
  contains_of_places id (fun _ _ less => less) fun _ inside => slice_pack inside

/-- Records that are followed by something else. -/
theorem contains_append (records : List (Record size)) (more : List UInt8) :
    Contains (pack records ++ more) records := by
  apply contains_of_places id fun _ _ less => less
  intro i inside
  have within : i * size + size ≤ (pack records).length := by
    rw [length_pack, ← Nat.succ_mul]
    exact Nat.mul_le_mul_right _ inside
  rw [← slice_pack inside, slice, slice, id, List.drop_append_of_le_length (by omega),
    List.take_append_of_le_length (by rw [List.length_drop]; omega)]

/-- Whatever is written over one record, the others are still there. -/
theorem contains_eraseIdx {records : List (Record size)} {i : Nat} (inside : i < records.length)
    {part : List UInt8} (small : part.length ≤ size) :
    Contains (splice (pack records) (i * size) part) (records.eraseIdx i) := by
  have within : i * size ≤ (pack records).length := by
    rw [length_pack]
    exact Nat.mul_le_mul_right _ inside.le
  apply contains_of_places fun j => if j < i then j else j + 1
  · intro j k less
    split_ifs <;> omega
  · intro j kept
    rw [List.length_eraseIdx, if_pos inside] at kept
    rw [List.getElem_eraseIdx]
    by_cases before : j < i
    · have ends : j * size + size ≤ i * size := by
        rw [← Nat.succ_mul]
        exact Nat.mul_le_mul_right _ before
      rw [if_pos before, dif_pos before, slice_splice_of_disjoint within (.inl ends), slice_pack]
    · have begins : i * size + part.length ≤ (j + 1) * size := by
        calc i * size + part.length ≤ i * size + size := Nat.add_le_add_left small _
          _ = (i + 1) * size := (Nat.succ_mul i size).symm
          _ ≤ (j + 1) * size := Nat.mul_le_mul_right _ (by omega)
      rw [if_neg before, dif_neg before, slice_splice_of_disjoint within (.inr begins), slice_pack]

/-- Without one of its records, a list is still in the bytes of the whole list. -/
theorem contains_pack_eraseIdx (records : List (Record size)) (i : Nat) :
    Contains (pack records) (records.eraseIdx i) := by
  by_cases inside : i < records.length
  · have unchanged : splice (pack records) (i * size) [] = pack records := by simp [splice]
    rw [← unchanged]
    exact contains_eraseIdx inside (Nat.zero_le _)
  · rw [List.eraseIdx_of_length_le (Nat.le_of_not_lt inside)]
    exact contains_pack records

/-- Moving the next record to a place and then removing its old one removes the record
that was there. -/
theorem eraseIdx_set_next {α : Type*} (xs : List α) {i : Nat} (inside : i + 1 < xs.length) :
    (xs.set i xs[i + 1]).eraseIdx (i + 1) = xs.eraseIdx i := by
  induction xs generalizing i with
  | nil => cases inside
  | cons x rest ih =>
      cases i with
      | zero =>
          cases rest with
          | nil => simp at inside
          | cons y rest => rfl
      | succ i => exact congrArg (x :: ·) (ih (Nat.lt_of_succ_lt_succ inside))

end FwkRtos.Bytes

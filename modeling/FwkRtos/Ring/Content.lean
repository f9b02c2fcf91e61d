import Mathlib.Data.List.Basic
import Mathlib.Data.Nat.ModEq
import Mathlib.Data.UInt
import Mathlib.Tactic.Ring

/-!
# Streams kept in a ring of cells

Of a stream of words the latest ones are kept in a block of cells, word number
`k` in the cell `k % size`.  Words are put in and taken out in pieces that do not
reach past the end of the block, and an index that returns to zero at the end
says where the next piece begins.
-/

namespace FwkRtos.Ring

universe u

variable {α : Type u}

/-! ## The cells -/

/-- Replace the cells from an index on; what would lie beyond the block is
lost. -/
def write (cells : List α) (index : Nat) (words : List α) : List α :=
  cells.mapIdx fun place cell => if index ≤ place then (words[place - index]?).getD cell else cell

/-- The cells from an index on; beyond the block there is nothing known. -/
def read [Inhabited α] (cells : List α) (index length : Nat) : List α :=
  (List.range length).map fun offset => (cells[index + offset]?).getD default

@[simp]
theorem length_write (cells : List α) (index : Nat) (words : List α) :
    (write cells index words).length = cells.length := by
  simp [write]

@[simp]
theorem length_read [Inhabited α] (cells : List α) (index length : Nat) :
    (read cells index length).length = length := by
  simp [read]

/-- A write changes only the cells that it covers. -/
theorem getElem?_write_of_outside (cells : List α) {index place : Nat} {words : List α}
    (outside : place < index ∨ index + words.length ≤ place) :
    (write cells index words)[place]? = cells[place]? := by
  have unchanged : ∀ cell : α,
      (if index ≤ place then (words[place - index]?).getD cell else cell) = cell := by
    intro cell
    split
    · rw [List.getElem?_eq_none (by omega)]
      rfl
    · rfl
  simp [write, unchanged]

@[simp]
theorem write_nil (cells : List α) (index : Nat) : write cells index [] = cells := by
  apply List.ext_getElem?
  intro place
  exact getElem?_write_of_outside cells (Nat.lt_or_ge place index)

/-- The cells that a write covers hold its words. -/
theorem getElem?_write_of_inside {cells : List α} {index offset : Nat} {words : List α}
    (covered : offset < words.length) (within : index + offset < cells.length) :
    (write cells index words)[index + offset]? = words[offset]? := by
  simp [write, within, covered]

/-! ## The index -/

/-- The index after `count` cells, back at zero once it reaches the end. -/
def advance (index count size : Nat) : Nat :=
  if size ≤ index + count then 0 else index + count

/-- A piece that does not reach past the end leaves the index at the place of the
next word. -/
theorem advance_mod {position count size : Nat}
    (within : position % size + count ≤ size) :
    advance (position % size) count size = (position + count) % size := by
  have split : (position + count) % size = (position % size + count) % size := by
    rw [Nat.mod_add_mod]
  rw [advance, split]
  split_ifs with wraps
  · have exactly : position % size + count = size := Nat.le_antisymm within wraps
    rw [exactly, Nat.mod_self]
  · exact (Nat.mod_eq_of_lt (Nat.not_le.mp wraps)).symm

/-- The words of a piece lie in consecutive cells. -/
theorem mod_add_of_within {position offset size : Nat} (within : position % size + offset < size) :
    (position + offset) % size = position % size + offset := by
  rw [← Nat.mod_add_mod]
  exact Nat.mod_eq_of_lt within

/-- If the block and the position are made of whole pieces, a piece does not
reach past the end. -/
theorem mod_add_le_of_dvd {position count size : Nat} (positive : 0 < size)
    (whole : count ∣ position) (fits : count ∣ size) : position % size + count ≤ size := by
  have aligned : count ∣ position % size := (Nat.dvd_mod_iff fits).mpr whole
  have rest : count ∣ size - position % size := Nat.dvd_sub fits aligned
  have below : position % size < size := Nat.mod_lt position positive
  have := Nat.le_of_dvd (by omega) rest
  omega

/-! ## The stream in the cells -/

/-- The words of the stream from number `first` on are in their cells. -/
def Holds (cells : List α) (size : Nat) (stream : List α) (first : Nat) : Prop :=
  ∀ ⦃k⦄, first ≤ k → k < stream.length → cells[k % size]? = stream[k]?

theorem Holds.later {cells : List α} {size : Nat} {stream : List α} {first later : Nat}
    (holds : Holds cells size stream first) (order : first ≤ later) :
    Holds cells size stream later :=
  fun _ from_ below => holds (order.trans from_) below

theorem Holds.of_append {cells : List α} {size : Nat} {stream more : List α} {first : Nat}
    (holds : Holds cells size (stream ++ more) first) : Holds cells size stream first := by
  intro k from_ below
  rw [holds from_ (by rw [List.length_append]; exact Nat.lt_add_right _ below),
    List.getElem?_append_left below]

/-- An empty ring holds what there is of its stream. -/
theorem holds_of_length_le {cells : List α} {size : Nat} {stream : List α} {first : Nat}
    (empty : stream.length ≤ first) : Holds cells size stream first :=
  fun _ from_ below => absurd (empty.trans from_) (Nat.not_le.mpr below)

/-- Words put behind the end of the stream, where there is room, overwrite none
of the words held. -/
theorem Holds.write {cells : List α} {stream words : List α} {first : Nat}
    (holds : Holds cells cells.length stream first)
    (room : stream.length + words.length ≤ first + cells.length)
    (within : stream.length % cells.length + words.length ≤ cells.length) :
    Holds (Ring.write cells (stream.length % cells.length) words) cells.length
      (stream ++ words) first := by
  intro k from_ below
  rw [List.length_append] at below
  by_cases old : k < stream.length
  · rw [List.getElem?_append_left old, ← holds from_ old]
    apply getElem?_write_of_outside
    by_contra inside
    -- Otherwise the word would have the cell of a new one less than a ring's length behind it.
    obtain ⟨offset, place⟩ : ∃ offset, k % cells.length =
        stream.length % cells.length + offset := Nat.exists_eq_add_of_le (by omega)
    have sameCell : (stream.length + offset) % cells.length = k % cells.length := by
      rw [place]
      exact mod_add_of_within (by omega)
    have congruent : k ≡ stream.length + offset [MOD cells.length] := sameCell.symm
    have apart : cells.length ∣ stream.length + offset - k :=
      (Nat.modEq_iff_dvd' (by omega)).mp congruent
    have := Nat.le_of_dvd (by omega) apart
    omega
  · obtain ⟨offset, rfl⟩ : ∃ offset, k = stream.length + offset :=
      Nat.exists_eq_add_of_le (Nat.le_of_not_lt old)
    rw [mod_add_of_within (by omega), List.getElem?_append_right (Nat.le_add_right _ _),
      Nat.add_sub_cancel_left]
    exact getElem?_write_of_inside (by omega) (by omega)

/-- A piece read where the ring holds the stream is a piece of the stream. -/
theorem Holds.read [Inhabited α] {cells : List α} {size : Nat} {stream : List α}
    {first position count : Nat} (holds : Holds cells size stream first)
    (from_ : first ≤ position) (available : position + count ≤ stream.length)
    (within : position % size + count ≤ size) :
    Ring.read cells (position % size) count = (stream.drop position).take count := by
  apply List.ext_getElem
  · rw [length_read, List.length_take, List.length_drop]
    omega
  · intro offset bound _
    rw [length_read] at bound
    have cell : cells[position % size + offset]? = stream[position + offset]? := by
      rw [← mod_add_of_within (by omega)]
      exact holds (by omega) (by omega)
    have inStream : stream[position + offset]? = some stream[position + offset] :=
      List.getElem?_eq_getElem (by omega)
    simp [Ring.read, cell, inStream]

/-! ## Counters -/

/-- Two counters that wrap still give the number of words between them. -/
theorem toNat_ofNat_sub_ofNat {ahead behind : Nat} (order : behind ≤ ahead)
    (near : ahead - behind < 2 ^ 32) :
    (UInt32.ofNat ahead - UInt32.ofNat behind).toNat = ahead - behind := by
  rw [UInt32.toNat_sub, UInt32.toNat_ofNat', UInt32.toNat_ofNat']
  omega

theorem ofNat_add_ofNat_toNat (count : Nat) (more : UInt32) :
    UInt32.ofNat count + more = UInt32.ofNat (count + more.toNat) := by
  rw [UInt32.ofNat_add, UInt32.ofNat_toNat]

end FwkRtos.Ring

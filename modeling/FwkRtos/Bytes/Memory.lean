import Mathlib.Data.List.Basic

/-!
# Byte memories

Two views of memory: a flat one, addressed by numbers, and one of separate
blocks, addressed by a block and an offset in it.
-/

namespace FwkRtos.Bytes

/-! ## Parts of byte strings -/

/-- The part of a byte string that begins at an offset. -/
def slice (bytes : List UInt8) (offset length : Nat) : List UInt8 :=
  (bytes.drop offset).take length

/-- A byte string with the part at an offset replaced. -/
def splice (bytes : List UInt8) (offset : Nat) (part : List UInt8) : List UInt8 :=
  bytes.take offset ++ part ++ bytes.drop (offset + part.length)

theorem slice_append {before part after : List UInt8} {offset length : Nat}
    (offsetEq : before.length = offset) (lengthEq : part.length = length) :
    slice (before ++ (part ++ after)) offset length = part := by
  subst offsetEq lengthEq
  simp [slice]

theorem slice_append_left {part after : List UInt8} {length : Nat}
    (lengthEq : part.length = length) : slice (part ++ after) 0 length = part := by
  subst lengthEq
  simp [slice]

theorem splice_append {before old part after : List UInt8} {offset : Nat}
    (offsetEq : before.length = offset) (lengthEq : old.length = part.length) :
    splice (before ++ (old ++ after)) offset part = before ++ (part ++ after) := by
  subst offsetEq
  have rest : (before ++ (old ++ after)).drop (before.length + part.length) = after := by
    rw [← lengthEq, ← List.append_assoc, ← List.length_append, List.drop_left]
  rw [splice, List.take_left, rest, List.append_assoc]

theorem slice_whole {bytes : List UInt8} {length : Nat} (lengthEq : bytes.length = length) :
    slice bytes 0 length = bytes := by
  subst lengthEq
  simp [slice]

theorem splice_whole {old new : List UInt8} (lengthEq : old.length = new.length) :
    splice old 0 new = new := by
  simp [splice, lengthEq]

/-- A part away from the one that is replaced stays. -/
theorem slice_splice_of_disjoint {bytes part : List UInt8} {offset other length : Nat}
    (within : offset ≤ bytes.length)
    (disjoint : other + length ≤ offset ∨ offset + part.length ≤ other) :
    slice (splice bytes offset part) other length = slice bytes other length := by
  apply List.ext_getElem?
  intro i
  simp only [slice, splice, List.getElem?_take, List.getElem?_drop, List.getElem?_append,
    List.length_append, List.length_take, Nat.min_eq_left within]
  by_cases inside : i < length
  · rw [if_pos inside, if_pos inside]
    rcases disjoint with before | behind
    · rw [if_pos (by omega), if_pos (by omega), if_pos (by omega)]
    · rw [if_neg (by omega)]
      congr 1
      omega
  · rw [if_neg inside, if_neg inside]

/-! ## Flat memory -/

/-- A byte for every address. -/
abbrev Memory := Nat → UInt8

namespace Memory

/-- The bytes at consecutive addresses. -/
def read (memory : Memory) (address length : Nat) : List UInt8 :=
  (List.range length).map fun i => memory (address + i)

/-- `memcpy` to an address. -/
def write (memory : Memory) (address : Nat) (bytes : List UInt8) : Memory := fun a =>
  if address ≤ a then (bytes[a - address]?).getD (memory a) else memory a

@[simp]
theorem length_read (memory : Memory) (address length : Nat) :
    (memory.read address length).length = length := by
  simp [read]

theorem read_congr {first second : Memory} {address length : Nat}
    (same : ∀ i < length, first (address + i) = second (address + i)) :
    first.read address length = second.read address length := by
  apply List.map_congr_left
  intro i member
  exact same i (List.mem_range.mp member)

theorem write_of_outside (memory : Memory) {address a : Nat} {bytes : List UInt8}
    (outside : a < address ∨ address + bytes.length ≤ a) :
    memory.write address bytes a = memory a := by
  unfold write
  split
  · rename_i above
    rw [List.getElem?_eq_none (by omega)]
    rfl
  · rfl

@[simp]
theorem write_nil (memory : Memory) (address : Nat) : memory.write address [] = memory := by
  funext a
  simp [write]

/-- What was written is read back. -/
theorem read_write (memory : Memory) (address : Nat) (bytes : List UInt8) :
    (memory.write address bytes).read address bytes.length = bytes := by
  apply List.ext_getElem
  · simp
  · intro i _ bound
    simp [read, write, bound]

/-- A write elsewhere does not change what is read. -/
theorem read_write_of_disjoint (memory : Memory) {address other length : Nat}
    {bytes : List UInt8}
    (disjoint : other + length ≤ address ∨ address + bytes.length ≤ other) :
    (memory.write address bytes).read other length = memory.read other length := by
  apply read_congr
  intro i bound
  apply write_of_outside
  omega

end Memory

/-! ## Blocks -/

/-- A pointer of C: null, a value that is not null but points nowhere, or a
place in a block. -/
inductive Pointer
  | null
  | invalid
  | block (block offset : Nat)
  deriving DecidableEq

/-- A memory of separately allocated blocks. -/
abbrev BlockMemory := Nat → List UInt8

namespace BlockMemory

/-- The bytes that a pointer points to. -/
def read (memory : BlockMemory) (pointer : Pointer) (length : Nat) : List UInt8 :=
  match pointer with
  | .block block offset => slice (memory block) offset length
  | _ => []

/-- `memcpy` to a pointer. -/
def write (memory : BlockMemory) (pointer : Pointer) (bytes : List UInt8) : BlockMemory :=
  match pointer with
  | .block block offset => Function.update memory block (splice (memory block) offset bytes)
  | _ => memory

end BlockMemory

end FwkRtos.Bytes

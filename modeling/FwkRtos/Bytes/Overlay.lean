import FwkRtos.Bytes.Memory
import Mathlib.Data.List.GetD
import Mathlib.Data.List.Pairwise
import Mathlib.Order.MinMax

/-!
# Pieces laid over a byte string

Pieces are laid over a byte string one after the other; a gap behind its end is filled.  When
no two of them have a byte in common, the order does not matter.  Read with the fill byte
behind its end, a byte string has a byte everywhere, so that the gaps need no case of their
own.
-/

namespace FwkRtos.Bytes

/-- Bytes, and where they are laid. -/
structure Piece where
  offset : Nat
  bytes : List UInt8
  deriving DecidableEq, Repr

namespace Piece

/-- Where the piece ends; one without bytes ends where it begins. -/
def stop (piece : Piece) : Nat :=
  piece.offset + piece.bytes.length

/-- The piece has a byte at the place. -/
def Covers (piece : Piece) (i : Nat) : Prop :=
  piece.offset ≤ i ∧ i < piece.stop

instance (piece : Piece) (i : Nat) : Decidable (piece.Covers i) :=
  inferInstanceAs (Decidable (_ ∧ _))

/-- Both pieces have a byte at the same place. -/
def Overlaps (first second : Piece) : Prop :=
  ∃ i, first.Covers i ∧ second.Covers i

theorem Overlaps.symm {first second : Piece} (overlaps : first.Overlaps second) :
    second.Overlaps first := by
  rcases overlaps with ⟨i, isFirst, isSecond⟩
  exact ⟨i, isSecond, isFirst⟩

theorem bytes_ne_nil_iff (piece : Piece) : piece.bytes ≠ [] ↔ piece.offset < piece.stop := by
  rw [stop, Nat.lt_add_right_iff_pos, List.length_pos_iff]

/-- A piece meets one that begins no later when it has bytes and begins before its end. -/
theorem overlaps_iff_of_le {first second : Piece} (order : first.offset ≤ second.offset) :
    first.Overlaps second ↔ second.bytes ≠ [] ∧ second.offset < first.stop := by
  rw [bytes_ne_nil_iff]
  constructor
  · rintro ⟨i, isFirst, isSecond⟩
    exact ⟨isSecond.1.trans_lt isSecond.2, isSecond.1.trans_lt isFirst.2⟩
  · rintro ⟨something, before⟩
    exact ⟨second.offset, ⟨order, before⟩, le_rfl, something⟩

end Piece

/-- No two of the pieces have a byte at the same place. -/
def Apart (pieces : List Piece) : Prop :=
  pieces.Pairwise fun first second => ¬ first.Overlaps second

theorem Apart.perm {pieces others : List Piece} (apart : Apart pieces)
    (same : pieces.Perm others) : Apart others :=
  List.Pairwise.perm apart same fun separate overlaps => separate overlaps.symm

/-- The last end of a piece. -/
def lastStop (pieces : List Piece) : Nat :=
  (pieces.map Piece.stop).foldr max 0

@[simp]
theorem lastStop_nil : lastStop [] = 0 :=
  rfl

@[simp]
theorem lastStop_cons (piece : Piece) (rest : List Piece) :
    lastStop (piece :: rest) = max piece.stop (lastStop rest) :=
  rfl

theorem lastStop_perm {pieces others : List Piece} (same : pieces.Perm others) :
    lastStop pieces = lastStop others := by
  induction same with
  | nil => rfl
  | cons piece _ ih => rw [lastStop_cons, lastStop_cons, ih]
  | swap first second rest =>
      rw [lastStop_cons, lastStop_cons, lastStop_cons, lastStop_cons, Nat.max_left_comm]
  | trans _ _ first second => exact first.trans second

/-! ## One piece -/

section
variable (fill : UInt8)

/-- Lay a piece over a byte string, after filling the gap before it. -/
def lay (data : List UInt8) (piece : Piece) : List UInt8 :=
  splice (data ++ List.replicate (piece.offset - data.length) fill) piece.offset piece.bytes

theorem length_lay (data : List UInt8) (piece : Piece) :
    (lay fill data piece).length = max data.length piece.stop := by
  simp only [lay, splice, Piece.stop, List.length_append, List.length_take, List.length_drop,
    List.length_replicate]
  omega

theorem getD_append_fill (data : List UInt8) (count i : Nat) :
    (data ++ List.replicate count fill).getD i fill = data.getD i fill := by
  by_cases inside : i < data.length
  · rw [List.getD_append _ _ _ _ inside]
  · rw [List.getD_append_right _ _ _ _ (Nat.le_of_not_lt inside),
      List.getD_eq_default _ _ (Nat.le_of_not_lt inside)]
    simp [List.getD_eq_getElem?_getD, List.getElem?_replicate]
    split <;> rfl

theorem getD_lay (data : List UInt8) (piece : Piece) (i : Nat) :
    (lay fill data piece).getD i fill =
      if piece.Covers i then piece.bytes.getD (i - piece.offset) fill else data.getD i fill := by
  have filled := getD_append_fill fill data (piece.offset - data.length) i
  have length : piece.offset ≤
      (data ++ List.replicate (piece.offset - data.length) fill).length := by
    rw [List.length_append, List.length_replicate]
    omega
  unfold lay splice
  generalize data ++ List.replicate (piece.offset - data.length) fill = whole at *
  rw [← filled]
  unfold Piece.Covers Piece.stop
  simp only [List.getD_eq_getElem?_getD, List.getElem?_append, List.length_append,
    List.length_take, Nat.min_eq_left length, List.getElem?_drop]
  by_cases before : i < piece.offset
  · rw [if_pos (by omega), if_pos before, if_neg (by omega), List.getElem?_take_of_lt before]
  · by_cases inside : i < piece.offset + piece.bytes.length
    · rw [if_pos inside, if_neg before, if_pos ⟨Nat.le_of_not_lt before, inside⟩]
    · rw [if_neg inside, if_neg fun covers => inside covers.2]
      congr 2
      omega

variable {fill} in
/-- Byte strings of one length are the same when they have the same byte everywhere. -/
theorem eq_of_getD {first second : List UInt8} (length : first.length = second.length)
    (same : ∀ i < first.length, first.getD i fill = second.getD i fill) : first = second := by
  apply List.ext_getElem length
  intro i inFirst inSecond
  have here := same i inFirst
  rwa [List.getD_eq_getElem _ _ inFirst, List.getD_eq_getElem _ _ inSecond] at here

/-- A piece and the one that follows it are laid at once. -/
theorem lay_append (data : List UInt8) (offset : Nat) (first second : List UInt8) :
    lay fill (lay fill data ⟨offset, first⟩) ⟨offset + first.length, second⟩ =
      lay fill data ⟨offset, first ++ second⟩ := by
  apply @eq_of_getD fill
  · simp only [length_lay, Piece.stop, List.length_append]
    omega
  · intro i _
    have parts : Piece.Covers ⟨offset, first ++ second⟩ i ↔
        Piece.Covers ⟨offset, first⟩ i ∨ Piece.Covers ⟨offset + first.length, second⟩ i := by
      simp only [Piece.Covers, Piece.stop, List.length_append]
      omega
    rw [getD_lay, getD_lay, getD_lay]
    by_cases inSecond : Piece.Covers ⟨offset + first.length, second⟩ i
    · rw [if_pos inSecond, if_pos (parts.mpr (.inr inSecond)),
        List.getD_append_right _ _ _ _ (Nat.le_sub_of_add_le' inSecond.1), Nat.sub_sub]
    · rw [if_neg inSecond]
      by_cases inFirst : Piece.Covers ⟨offset, first⟩ i
      · have before : i - offset < first.length := Nat.sub_lt_left_of_lt_add inFirst.1 inFirst.2
        rw [if_pos inFirst, if_pos (parts.mpr (.inl inFirst)), List.getD_append _ _ _ _ before]
      · have outside : ¬ Piece.Covers ⟨offset, first ++ second⟩ i :=
          fun covers => (parts.mp covers).elim inFirst inSecond
        rw [if_neg inFirst, if_neg outside]

/-- Where there is no gap, the fill byte does not matter. -/
theorem lay_congr {data : List UInt8} {piece : Piece} (inside : piece.offset ≤ data.length)
    (other : UInt8) : lay other data piece = lay fill data piece := by
  simp only [lay, Nat.sub_eq_zero_of_le inside, List.replicate_zero]

/-- A piece without bytes that begins within the byte string changes nothing. -/
theorem lay_nil {data : List UInt8} {offset : Nat} (inside : offset ≤ data.length) :
    lay fill data ⟨offset, []⟩ = data := by
  simp [lay, splice, Nat.sub_eq_zero_of_le inside]

/-! ## All pieces -/

/-- The pieces one after the other. -/
def layAll (data : List UInt8) (pieces : List Piece) : List UInt8 :=
  pieces.foldl (lay fill) data

@[simp]
theorem layAll_nil (data : List UInt8) : layAll fill data [] = data :=
  rfl

@[simp]
theorem layAll_cons (data : List UInt8) (piece : Piece) (rest : List Piece) :
    layAll fill data (piece :: rest) = layAll fill (lay fill data piece) rest :=
  rfl

theorem length_layAll (data : List UInt8) (pieces : List Piece) :
    (layAll fill data pieces).length = max data.length (lastStop pieces) := by
  induction pieces generalizing data with
  | nil => simp
  | cons piece rest ih => rw [layAll_cons, ih, length_lay, lastStop_cons, Nat.max_assoc]

theorem getD_layAll_of_not_covered (data : List UInt8) {pieces : List Piece} {i : Nat}
    (uncovered : ∀ piece ∈ pieces, ¬ piece.Covers i) :
    (layAll fill data pieces).getD i fill = data.getD i fill := by
  induction pieces generalizing data with
  | nil => rfl
  | cons piece rest ih =>
      rcases List.forall_mem_cons.mp uncovered with ⟨first, others⟩
      rw [layAll_cons, ih _ others, getD_lay, if_neg first]

theorem getD_layAll_of_covered (data : List UInt8) {pieces : List Piece}
    (apart : Apart pieces) {piece : Piece} (isPiece : piece ∈ pieces) {i : Nat}
    (covers : piece.Covers i) :
    (layAll fill data pieces).getD i fill = piece.bytes.getD (i - piece.offset) fill := by
  induction pieces generalizing data with
  | nil => cases isPiece
  | cons head rest ih =>
      rcases List.pairwise_cons.mp apart with ⟨separate, others⟩
      rcases List.mem_cons.mp isPiece with rfl | inRest
      · have uncovered : ∀ other ∈ rest, ¬ other.Covers i :=
          fun other isOther otherCovers => separate other isOther ⟨i, covers, otherCovers⟩
        rw [layAll_cons, getD_layAll_of_not_covered fill _ uncovered, getD_lay, if_pos covers]
      · exact ih _ others inRest

/-- The byte string that pieces over an old one come to, up to a length. -/
structure IsOverlay (old : List UInt8) (pieces : List Piece) (length : Nat)
    (data : List UInt8) : Prop where
  length_eq : data.length = length
  covered : ∀ piece ∈ pieces, ∀ i < length, piece.Covers i →
    data.getD i fill = piece.bytes.getD (i - piece.offset) fill
  uncovered : ∀ i < length, (∀ piece ∈ pieces, ¬ piece.Covers i) →
    data.getD i fill = old.getD i fill

variable {fill} {old first second : List UInt8} {pieces : List Piece} {length : Nat}

/-- There is at most one. -/
theorem IsOverlay.unique (isFirst : IsOverlay fill old pieces length first)
    (isSecond : IsOverlay fill old pieces length second) : first = second := by
  apply @eq_of_getD fill _ _ (isFirst.length_eq.trans isSecond.length_eq.symm)
  intro i inFirst
  have inside : i < length := by rwa [← isFirst.length_eq]
  by_cases covered : ∃ piece ∈ pieces, piece.Covers i
  · rcases covered with ⟨piece, isPiece, covers⟩
    rw [isFirst.covered piece isPiece i inside covers,
      isSecond.covered piece isPiece i inside covers]
  · have uncovered : ∀ piece ∈ pieces, ¬ piece.Covers i :=
      fun piece isPiece covers => covered ⟨piece, isPiece, covers⟩
    rw [isFirst.uncovered i inside uncovered, isSecond.uncovered i inside uncovered]

theorem IsOverlay.perm {others : List Piece} (isOverlay : IsOverlay fill old pieces length first)
    (same : pieces.Perm others) : IsOverlay fill old others length first :=
  ⟨isOverlay.length_eq, fun piece isPiece => isOverlay.covered piece (same.mem_iff.mpr isPiece),
    fun i inside uncovered => isOverlay.uncovered i inside
      fun piece isPiece => uncovered piece (same.mem_iff.mp isPiece)⟩

theorem isOverlay_layAll (apart : Apart pieces) :
    IsOverlay fill old pieces (max old.length (lastStop pieces)) (layAll fill old pieces) :=
  ⟨length_layAll fill old pieces,
    fun _ isPiece _ _ covers => getD_layAll_of_covered fill old apart isPiece covers,
    fun _ _ uncovered => getD_layAll_of_not_covered fill old uncovered⟩

/-- What is cut off behind a place does not change what is before it. -/
theorem IsOverlay.take {shorter : Nat} (isOverlay : IsOverlay fill old pieces length first)
    (order : shorter ≤ length) : IsOverlay fill old pieces shorter (first.take shorter) := by
  have kept : ∀ i < shorter, (first.take shorter).getD i fill = first.getD i fill := by
    intro i inside
    rw [List.getD_eq_getElem?_getD, List.getElem?_take_of_lt inside, List.getD_eq_getElem?_getD]
  constructor
  case length_eq => rw [List.length_take, isOverlay.length_eq, Nat.min_eq_left order]
  case covered =>
    intro piece isPiece i inside covers
    rw [kept i inside, isOverlay.covered piece isPiece i (inside.trans_le order) covers]
  case uncovered =>
    intro i inside uncovered
    rw [kept i inside, isOverlay.uncovered i (inside.trans_le order) uncovered]

end

/-! ## Overlaps in ascending order -/

/-- Some piece with bytes begins before the last end of those before it. -/
def Clashes : Nat → List Piece → Prop
  | _, [] => False
  | last, piece :: rest =>
      (piece.bytes ≠ [] ∧ piece.offset < last) ∨ Clashes (max last piece.stop) rest

theorem clashes_iff {pieces : List Piece} (last : Nat)
    (ascending : pieces.Pairwise fun first second => first.offset ≤ second.offset) :
    Clashes last pieces ↔
      (∃ piece ∈ pieces, piece.bytes ≠ [] ∧ piece.offset < last) ∨ ¬ Apart pieces := by
  induction pieces generalizing last with
  | nil => simp [Clashes, Apart]
  | cons piece rest ih =>
      rcases List.pairwise_cons.mp ascending with ⟨order, others⟩
      have meets : (∃ other ∈ rest, piece.Overlaps other) ↔
          ∃ other ∈ rest, other.bytes ≠ [] ∧ other.offset < piece.stop := by
        constructor
        · rintro ⟨other, isOther, overlaps⟩
          exact ⟨other, isOther, (Piece.overlaps_iff_of_le (order other isOther)).mp overlaps⟩
        · rintro ⟨other, isOther, clashes⟩
          exact ⟨other, isOther, (Piece.overlaps_iff_of_le (order other isOther)).mpr clashes⟩
      have split : ¬ Apart (piece :: rest) ↔
          (∃ other ∈ rest, piece.Overlaps other) ∨ ¬ Apart rest := by
        unfold Apart
        rw [List.pairwise_cons, not_and_or]
        simp only [not_forall, not_not, exists_prop]
      rw [Clashes, ih _ others, split, meets]
      simp only [List.mem_cons, exists_eq_or_imp, lt_max_iff]
      constructor
      · rintro (isFirst | ⟨other, isOther, something, before | before⟩ | rest_)
        · exact .inl (.inl isFirst)
        · exact .inl (.inr ⟨other, isOther, something, before⟩)
        · exact .inr (.inl ⟨other, isOther, something, before⟩)
        · exact .inr (.inr rest_)
      · rintro ((isFirst | ⟨other, isOther, something, before⟩) |
          ⟨other, isOther, something, before⟩ | rest_)
        · exact .inl isFirst
        · exact .inr (.inl ⟨other, isOther, something, .inl before⟩)
        · exact .inr (.inl ⟨other, isOther, something, .inr before⟩)
        · exact .inr (.inr rest_)

/-- Pieces in ascending order clash when two of them have a byte at the same place. -/
theorem clashes_zero_iff {pieces : List Piece}
    (ascending : pieces.Pairwise fun first second => first.offset ≤ second.offset) :
    Clashes 0 pieces ↔ ¬ Apart pieces := by
  rw [clashes_iff 0 ascending]
  simp

end FwkRtos.Bytes

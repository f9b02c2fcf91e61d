import FwkRtos.Bytes.Overlay
import Mathlib.Algebra.Ring.Int.Defs
import Mathlib.Algebra.Ring.Nat

/-!
# The files of the image tool

Streams as the tool uses them: those that it reads, of which some cannot be positioned, and
the one that it writes.  Reads and writes are whole, as they are where no error occurs.
-/

namespace FwkRtos.DatapartitionMkimage

open FwkRtos.Bytes

/-- The exit codes. -/
inductive ErrorCode
  | none
  | argMissing
  | argUnkown
  | argOrder
  | argSingleInstance
  | argValueMissing
  | argValueParsingFailure
  | argValueOutOfRange
  | fileSystem
  | outOfResources
  | overlappingInputData
  deriving DecidableEq, Repr

/-! ## Streams that are read -/

structure InFile where
  bytes : List UInt8
  position : Nat
  seekable : Bool
  deriving DecidableEq, Repr

namespace InFile

def ftell (file : InFile) : Int :=
  if file.seekable then file.position else -1

/-- `fseek` with `SEEK_END` and the offset 0. -/
def fseekEnd (file : InFile) : InFile :=
  if file.seekable then { file with position := file.bytes.length } else file

/-- `fseek` with `SEEK_SET`. -/
def fseekSet (file : InFile) (offset : Int) : InFile :=
  if file.seekable ∧ 0 ≤ offset then { file with position := offset.toNat } else file

def fread (file : InFile) (count : Nat) : List UInt8 × InFile :=
  let bytes := slice file.bytes file.position count
  (bytes, { file with position := file.position + bytes.length })

/-- The byte that is read next and put back, if it is not `EOF`. -/
def fpeek (file : InFile) : Option UInt8 :=
  file.bytes[file.position]?

end InFile

/-! ## The stream that is written -/

structure OutFile where
  bytes : List UInt8
  position : Nat
  deriving DecidableEq, Repr

namespace OutFile

def ftell (file : OutFile) : Nat :=
  file.position

def fseekEnd (file : OutFile) : OutFile :=
  { file with position := file.bytes.length }

def fseekSet (file : OutFile) (offset : Nat) : OutFile :=
  { file with position := offset }

/-- A gap between the end of the file and what is written reads as zeros. -/
def fwrite (file : OutFile) (data : List UInt8) : OutFile where
  bytes := lay 0 file.bytes ⟨file.position, data⟩
  position := file.position + data.length

def ftruncate (file : OutFile) (length : Nat) : OutFile :=
  { file with bytes := file.bytes.take length ++ List.replicate (length - file.bytes.length) 0 }

end OutFile

/-! ## Filling and copying -/

/-- The loop of `fill_data`. -/
def fillLoop (fillValue : UInt8) (allocSize : Nat) (positive : 0 < allocSize) (numBytes : Nat)
    (file : OutFile) : OutFile :=
  if numBytes = 0 then file
  else
    let bytesToWrite := min numBytes allocSize
    fillLoop fillValue allocSize positive (numBytes - bytesToWrite)
      (file.fwrite (List.replicate bytesToWrite fillValue))
termination_by numBytes

/-- The loop of `copy_data`. -/
def copyLoop (allocSize : Nat) (inFile : InFile) (outFile : OutFile) : OutFile :=
  if (inFile.fread allocSize).1 = [] then outFile
  else copyLoop allocSize (inFile.fread allocSize).2 (outFile.fwrite (inFile.fread allocSize).1)
termination_by inFile.bytes.length - inFile.position
decreasing_by
  rename_i something
  have read := List.length_pos_of_ne_nil something
  simp only [InFile.fread, slice, List.length_take, List.length_drop] at read ⊢
  omega

/-- The two parts of what is written one after the other are written at once. -/
theorem fwrite_fwrite (file : OutFile) (first second : List UInt8) :
    (file.fwrite first).fwrite second = file.fwrite (first ++ second) := by
  unfold OutFile.fwrite
  rw [lay_append, List.length_append, Nat.add_assoc]

theorem fwrite_nil {file : OutFile} (inside : file.position ≤ file.bytes.length) :
    file.fwrite [] = file := by
  unfold OutFile.fwrite
  rw [lay_nil 0 inside, List.length_nil, Nat.add_zero]

/-- The file grows by as many fill bytes as are asked for. -/
theorem fillLoop_eq (fillValue : UInt8) (allocSize : Nat) (positive : 0 < allocSize)
    (numBytes : Nat) {file : OutFile} (inside : file.position ≤ file.bytes.length) :
    fillLoop fillValue allocSize positive numBytes file =
      file.fwrite (List.replicate numBytes fillValue) := by
  induction numBytes, file using fillLoop.induct fillValue allocSize positive with
  | case1 file =>
      rw [fillLoop, if_pos rfl, List.replicate_zero, fwrite_nil inside]
  | case2 numBytes file more bytesToWrite ih =>
      have still : (file.fwrite (List.replicate bytesToWrite fillValue)).position ≤
          (file.fwrite (List.replicate bytesToWrite fillValue)).bytes.length := by
        simp only [OutFile.fwrite, length_lay, Piece.stop]
        exact Nat.le_max_right _ _
      have parts : bytesToWrite + (numBytes - bytesToWrite) = numBytes :=
        Nat.add_sub_cancel' (Nat.min_le_left _ _)
      rw [fillLoop, if_neg more, ih still, fwrite_fwrite, ← List.replicate_add, parts]

/-- What is left of the one file is written to the other one. -/
theorem copyLoop_eq {allocSize : Nat} (positive : 0 < allocSize) (inFile : InFile)
    {outFile : OutFile} (inside : outFile.position ≤ outFile.bytes.length) :
    copyLoop allocSize inFile outFile =
      outFile.fwrite (inFile.bytes.drop inFile.position) := by
  induction inFile, outFile using copyLoop.induct allocSize with
  | case1 inFile outFile nothing =>
      have atEnd : inFile.bytes.drop inFile.position = [] := by
        simp only [InFile.fread, slice, List.take_eq_nil_iff] at nothing
        exact nothing.resolve_left positive.ne'
      rw [copyLoop, if_pos nothing, atEnd, fwrite_nil inside]
  | case2 inFile outFile something ih =>
      have still : (outFile.fwrite (inFile.fread allocSize).1).position ≤
          (outFile.fwrite (inFile.fread allocSize).1).bytes.length := by
        simp only [OutFile.fwrite, length_lay, Piece.stop]
        exact Nat.le_max_right _ _
      have parts : (inFile.fread allocSize).1 ++
          (inFile.fread allocSize).2.bytes.drop (inFile.fread allocSize).2.position =
            inFile.bytes.drop inFile.position := by
        simp only [InFile.fread, slice, List.length_take, List.length_drop]
        rw [← List.drop_drop]
        conv_rhs => rw [← List.take_append_drop allocSize (inFile.bytes.drop inFile.position)]
        congr 1
        by_cases short : allocSize ≤ inFile.bytes.length - inFile.position
        · rw [Nat.min_eq_left short]
        · rw [Nat.min_eq_right (by omega), List.drop_eq_nil_of_le (by simp),
            List.drop_eq_nil_of_le (by simp; omega)]
      rw [copyLoop, if_neg something, ih still, fwrite_fwrite, parts]

end FwkRtos.DatapartitionMkimage

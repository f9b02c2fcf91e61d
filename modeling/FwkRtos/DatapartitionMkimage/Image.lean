import FwkRtos.DatapartitionMkimage.Files
import FwkRtos.Sorting.Selection

/-!
# The image

The inputs are written in the order of their offsets, each behind the last one.  As long as
all places have 32 bits, what is written is the old content with the inputs laid over it, and
inputs overlap exactly when one of them begins before the end of the last one.
-/

namespace FwkRtos.DatapartitionMkimage

open FwkRtos.Bytes FwkRtos.Sorting

/-! ## The tool -/

/-- `file_entry_t`. -/
structure FileEntry where
  filename : String
  size : Int
  offset : UInt32
  deriving DecidableEq, Repr

/-- What an input file or `stdin` has to read. -/
structure Source where
  bytes : List UInt8
  seekable : Bool

def Source.open (source : Source) : InFile :=
  ⟨source.bytes, 0, source.seekable⟩

/-- The host: what can be read, the output file if it can be opened to be updated, whether it
can be created otherwise and truncated, and which sizes can be allocated. -/
structure Host where
  stdin : Source
  file : String → Option Source
  outFile : Option (List UInt8)
  creates : Bool
  truncates : Bool
  allocates : Nat → Bool

/-- The default block size is positive. -/
theorem defaultBlockSize_pos : 0 < (512 : UInt32).toNat := by
  decide

/-- The options; `process_args` takes no block size of 0. -/
structure Options where
  blockSize : UInt32
  positive : 0 < blockSize.toNat
  fillValue : UInt8
  truncateOutFile : Bool

/-- `STDIN_FILENAME`. -/
def stdinFilename : String := "[STDIN]"

def Host.openInput (host : Host) (filename : String) : Option Source :=
  if filename = stdinFilename then some host.stdin else host.file filename

/-- `swap_entry`, which does not exchange the sizes. -/
def swapEntry (a b : FileEntry) : FileEntry × FileEntry :=
  ({ a with filename := b.filename, offset := b.offset },
    { b with filename := a.filename, offset := a.offset })

/-- `sort_offset_ascending`. -/
def sortOffsetAscending : Nat → List FileEntry → List FileEntry
  | 0, entries => entries
  | _ + 1, [] => []
  | count + 1, entry :: rest =>
      match minPlace (fun entry => entry.offset.toNat) entry 0 1 rest with
      | 0 => entry :: sortOffsetAscending count rest
      | place + 1 =>
          match rest[place]? with
          | none => entry :: sortOffsetAscending count rest
          | some least =>
              (swapEntry entry least).1 ::
                sortOffsetAscending count (rest.set place (swapEntry entry least).2)

/-- `update_file_entry_size`. -/
def updateFileEntrySize (file : InFile) (entry : FileEntry) : InFile × FileEntry :=
  let offset := file.ftell
  let file := file.fseekEnd
  (file.fseekSet offset, { entry with size := file.ftell })

/-- The size of the buffer of `fill_data`. -/
def Options.allocSize (options : Options) (numBytes : Nat) : Nat :=
  min numBytes options.blockSize.toNat

theorem Options.allocSize_pos (options : Options) {numBytes : Nat} (something : numBytes ≠ 0) :
    0 < options.allocSize numBytes :=
  Nat.lt_min.mpr ⟨Nat.pos_of_ne_zero something, options.positive⟩

section
variable (host : Host) (options : Options)

/-- `fill_data`. -/
def fillData (file : OutFile) (numBytes : Nat) : ErrorCode × OutFile :=
  if isZero : numBytes = 0 then (.none, file)
  else if host.allocates (options.allocSize numBytes) then
    (.none, fillLoop options.fillValue (options.allocSize numBytes)
      (options.allocSize_pos isZero) numBytes file)
  else (.outOfResources, file)

/-- `copy_data`. -/
def copyData (inFile : InFile) (outFile : OutFile) : ErrorCode × OutFile :=
  if host.allocates options.blockSize.toNat then
    (.none, copyLoop options.blockSize.toNat inFile outFile)
  else (.outOfResources, outFile)

/-- The variables of `main` between two inputs. -/
structure Progress where
  outFile : OutFile
  outFilesize : UInt32
  lastWriteOffset : UInt32
  exitCode : ErrorCode

/-- The copying, for an input that is not known to be empty when no error occurred. -/
def copyInput (inFile : InFile) (entry : FileEntry) (placed : ErrorCode × OutFile) :
    ErrorCode × OutFile :=
  if entry.size ≠ 0 ∧ placed.1 = .none then copyData host options inFile placed.2 else placed

/-- The part of the loop from the copying on. -/
def Progress.copy (progress : Progress) (inFile : InFile) (entry : FileEntry)
    (placed : ErrorCode × OutFile) : Progress :=
  let copied := copyInput host options inFile entry placed
  { progress with
    outFile := copied.2.fseekEnd
    outFilesize := UInt32.ofNat copied.2.fseekEnd.ftell
    lastWriteOffset := UInt32.ofNat copied.2.ftell
    exitCode := copied.1 }

/-- One round of the loop over the inputs. -/
def Progress.input (progress : Progress) (isFirst : Bool) (entry : FileEntry) : Progress :=
  match host.openInput entry.filename with
  | none => { progress with exitCode := .fileSystem }
  | some source =>
      let (inFile, entry) := updateFileEntrySize source.open entry
      if entry.offset ≤ progress.outFilesize then
        if isFirst ∨ progress.lastWriteOffset ≤ entry.offset then
          progress.copy host options inFile entry
            (.none, progress.outFile.fseekSet entry.offset.toNat)
        else if entry.size = 0 ∨ (entry.size < 0 ∧ inFile.fpeek = none) then progress
        else progress.copy host options inFile entry (.overlappingInputData, progress.outFile)
      else
        progress.copy host options inFile entry
          (fillData host options progress.outFile (entry.offset - progress.outFilesize).toNat)

/-- The loop, which ends with the first error. -/
def Progress.inputs : Bool → List FileEntry → Progress → Progress
  | _, [], progress => progress
  | isFirst, entry :: rest, progress =>
      let progress := progress.input host options isFirst entry
      if progress.exitCode = .none then inputs false rest progress else progress

/-- The entries as `process_args` enters them, sorted. -/
def sortedEntries (inputs : List (String × UInt32)) : List FileEntry :=
  sortOffsetAscending inputs.length (inputs.map fun input => ⟨input.1, 0, input.2⟩)

/-- The variables before the first input. -/
def Progress.start (bytes : List UInt8) : Progress :=
  let outFile := OutFile.fseekEnd ⟨bytes, 0⟩
  ⟨outFile, UInt32.ofNat outFile.ftell, 0, .none⟩

/-- `main` for the inputs that `process_args` enters: the exit code, and the output file if
there is one. -/
def main (inputs : List (String × UInt32)) : ErrorCode × Option (List UInt8) :=
  match host.outFile.or (if host.creates then some [] else none) with
  | none => (.fileSystem, none)
  | some bytes =>
      let progress :=
        (Progress.start bytes).inputs host options true (sortedEntries inputs)
      if options.truncateOutFile ∧ progress.exitCode = .none then
        if host.truncates then
          (.none, some (progress.outFile.ftruncate progress.lastWriteOffset.toNat).bytes)
        else (.fileSystem, some progress.outFile.bytes)
      else (progress.exitCode, some progress.outFile.bytes)

end

/-! ## What the image has to be -/

/-- What an input puts where. -/
def Host.piece (host : Host) (input : String × UInt32) : Piece where
  offset := input.2.toNat
  bytes := ((host.openInput input.1).map Source.bytes).getD []

/-- The input that an entry is for. -/
def FileEntry.input (entry : FileEntry) : String × UInt32 :=
  (entry.filename, entry.offset)

/-- The inputs can be read, the output file can be opened or created, and truncated, and
memory can be allocated. -/
structure Host.Succeeds (host : Host) (inputs : List (String × UInt32)) : Prop where
  opens : ∀ input ∈ inputs, (host.openInput input.1).isSome = true
  creates : host.outFile = none → host.creates = true
  truncates : host.truncates = true
  allocates : ∀ size, host.allocates size = true

/-- How long the image is: with `-t`, what is behind the last input is cut off. -/
def imageLength (options : Options) (old : List UInt8) (pieces : List Piece) : Nat :=
  if options.truncateOutFile then lastStop pieces else max old.length (lastStop pieces)

/-! ## Sorting -/

theorem swapEntry_eq {a b : FileEntry} (same : a.size = b.size) : swapEntry a b = (b, a) := by
  cases a
  cases b
  cases same
  rfl

/-- While the sizes are not yet known, whole entries are sorted. -/
theorem sortOffsetAscending_eq {count : Nat} {entries : List FileEntry}
    (unknown : ∀ entry ∈ entries, entry.size = 0) :
    sortOffsetAscending count entries =
      selectionSort (fun entry => entry.offset.toNat) count entries := by
  induction count generalizing entries with
  | zero => rfl
  | succ count ih =>
      cases entries with
      | nil => rfl
      | cons entry rest =>
          rcases List.forall_mem_cons.mp unknown with ⟨isZero, others⟩
          rw [sortOffsetAscending, selectionSort]
          cases minPlace (fun entry => entry.offset.toNat) entry 0 1 rest with
          | zero => simp only [exchange, ih others]
          | succ place =>
              cases isHere : rest[place]? with
              | none => simp only [exchange, isHere, ih others]
              | some least =>
                  have leastZero := others least (List.mem_of_getElem? isHere)
                  have swapped := swapEntry_eq (isZero.trans leastZero.symm)
                  have stillZero : ∀ other ∈ rest.set place entry, other.size = 0 := by
                    intro other isOther
                    rcases List.mem_or_eq_of_mem_set isOther with inRest | rfl
                    · exact others other inRest
                    · exact isZero
                  simp only [exchange, isHere, swapped, ih stillZero]

/-! ## One input -/

theorem updateFileEntrySize_open (source : Source) (entry : FileEntry) :
    updateFileEntrySize source.open entry =
      (source.open,
        { entry with size := if source.seekable then (source.bytes.length : Int) else -1 }) := by
  unfold updateFileEntrySize Source.open InFile.ftell InFile.fseekEnd InFile.fseekSet
  cases source.seekable <;> simp

/-- At the end of a file, the gap and the input are written one after the other. -/
theorem lay_gap (fill : UInt8) {data : List UInt8} {piece : Piece}
    (order : data.length ≤ piece.offset) :
    lay 0 data ⟨data.length,
        List.replicate (piece.offset - data.length) fill ++ piece.bytes⟩ =
      lay fill data piece := by
  have atEnd : (data ++ List.replicate (piece.offset - data.length) fill).length =
      piece.offset := by
    rw [List.length_append, List.length_replicate, Nat.add_sub_cancel' order]
  unfold lay splice
  rw [Nat.sub_self, List.replicate_zero, List.append_nil, List.take_length,
    List.drop_eq_nil_of_le (Nat.le_add_right _ _), List.append_nil,
    List.take_of_length_le atEnd.le,
    List.drop_eq_nil_of_le (by rw [atEnd]; exact Nat.le_add_right _ _), List.append_nil,
    List.append_assoc]

namespace Progress

variable {host : Host} {options : Options} {progress : Progress} {entry : FileEntry}
  {source : Source}

/-- Between two inputs the output file is at its end, and its size and the last place are
known. -/
structure Stands (progress : Progress) : Prop where
  atEnd : progress.outFile.position = progress.outFile.bytes.length
  outFilesize : progress.outFilesize.toNat = progress.outFile.bytes.length
  last : progress.lastWriteOffset.toNat ≤ progress.outFile.bytes.length
  exitCode : progress.exitCode = .none

/-- The variables after a piece is laid. -/
def after (progress : Progress) (fill : UInt8) (piece : Piece) : Progress where
  outFile := OutFile.fseekEnd ⟨lay fill progress.outFile.bytes piece, 0⟩
  outFilesize := UInt32.ofNat (lay fill progress.outFile.bytes piece).length
  lastWriteOffset := UInt32.ofNat (max progress.lastWriteOffset.toNat piece.stop)
  exitCode := .none

theorem copy_eq (allocates : ∀ size, host.allocates size = true) {file : OutFile}
    (inside : file.position ≤ file.bytes.length) :
    progress.copy host options source.open
        { entry with size := if source.seekable then (source.bytes.length : Int) else -1 }
        (.none, file) =
      { outFile := (file.fwrite source.bytes).fseekEnd
        outFilesize := UInt32.ofNat (file.fwrite source.bytes).bytes.length
        lastWriteOffset := UInt32.ofNat (file.position + source.bytes.length)
        exitCode := .none } := by
  have copied : copyData host options source.open file = (.none, file.fwrite source.bytes) := by
    rw [copyData, if_pos (allocates _), copyLoop_eq options.positive _ inside]
    rfl
  have whole : copyInput host options source.open
      { entry with size := if source.seekable then (source.bytes.length : Int) else -1 }
      (.none, file) = (.none, file.fwrite source.bytes) := by
    unfold copyInput
    by_cases empty : (if source.seekable then (source.bytes.length : Int) else -1) = 0
    · have nothing : source.bytes = [] := by
        cases seekable : source.seekable <;> simp [seekable] at empty
        exact empty
      rw [if_neg fun both => both.1 empty, nothing, fwrite_nil inside]
    · rw [if_pos ⟨empty, rfl⟩, copied]
  unfold copy
  rw [whole]
  rfl

/-- One round, for an input that can be read. -/
theorem input_eq (opens : host.openInput entry.filename = some source) (isFirst : Bool) :
    progress.input host options isFirst entry =
      let updated : FileEntry :=
        { entry with size := if source.seekable then (source.bytes.length : Int) else -1 }
      if entry.offset ≤ progress.outFilesize then
        if isFirst ∨ progress.lastWriteOffset ≤ entry.offset then
          progress.copy host options source.open updated
            (.none, progress.outFile.fseekSet entry.offset.toNat)
        else if updated.size = 0 ∨ (updated.size < 0 ∧ source.open.fpeek = none) then progress
        else progress.copy host options source.open updated
          (.overlappingInputData, progress.outFile)
      else
        progress.copy host options source.open updated
          (fillData host options progress.outFile (entry.offset - progress.outFilesize).toNat) := by
  unfold input
  rw [opens]
  simp only [updateFileEntrySize_open]

theorem fillData_eq (allocates : ∀ size, host.allocates size = true) {file : OutFile}
    (inside : file.position ≤ file.bytes.length) (numBytes : Nat) :
    fillData host options file numBytes =
      (.none, file.fwrite (List.replicate numBytes options.fillValue)) := by
  unfold fillData
  by_cases isZero : numBytes = 0
  · rw [dif_pos isZero, isZero, List.replicate_zero, fwrite_nil inside]
  · rw [dif_neg isZero, if_pos (allocates _), fillLoop_eq _ _ _ _ inside]

/-- Where an input begins behind the end, the gap is filled. -/
theorem input_behind (stands : progress.Stands) (allocates : ∀ size, host.allocates size = true)
    (opens : host.openInput entry.filename = some source)
    (behind : progress.outFilesize < entry.offset) (isFirst : Bool) :
    progress.input host options isFirst entry =
      progress.after options.fillValue ⟨entry.offset.toNat, source.bytes⟩ := by
  have gap : (entry.offset - progress.outFilesize).toNat =
      entry.offset.toNat - progress.outFile.bytes.length := by
    rw [UInt32.toNat_sub_of_le _ _ (UInt32.le_of_lt behind), stands.outFilesize]
  have order : progress.outFile.bytes.length < entry.offset.toNat := by
    rw [← stands.outFilesize]
    exact behind
  have still : (progress.outFile.fwrite (List.replicate
      (entry.offset - progress.outFilesize).toNat options.fillValue)).position ≤
        (progress.outFile.fwrite (List.replicate
          (entry.offset - progress.outFilesize).toNat options.fillValue)).bytes.length := by
    simp only [OutFile.fwrite, length_lay, Piece.stop]
    exact Nat.le_max_right _ _
  have bytes : ((progress.outFile.fwrite (List.replicate
      (entry.offset - progress.outFilesize).toNat options.fillValue)).fwrite source.bytes).bytes =
        lay options.fillValue progress.outFile.bytes ⟨entry.offset.toNat, source.bytes⟩ := by
    rw [fwrite_fwrite, gap]
    simp only [OutFile.fwrite, stands.atEnd]
    exact @lay_gap options.fillValue _ ⟨entry.offset.toNat, source.bytes⟩ order.le
  have place : (progress.outFile.fwrite (List.replicate
      (entry.offset - progress.outFilesize).toNat options.fillValue)).position =
        entry.offset.toNat := by
    simp only [OutFile.fwrite, stands.atEnd, List.length_replicate, gap]
    omega
  have last : max progress.lastWriteOffset.toNat
      (Piece.stop ⟨entry.offset.toNat, source.bytes⟩) =
        entry.offset.toNat + source.bytes.length :=
    Nat.max_eq_right ((stands.last.trans order.le).trans (Nat.le_add_right _ _))
  rw [input_eq opens]
  simp only [if_neg (UInt32.not_le.mpr behind), fillData_eq allocates stands.atEnd.le]
  rw [copy_eq allocates still, place]
  simp only [after, last, OutFile.fseekEnd, bytes]

/-- Where an input begins within the file and behind the last place, it is laid over it. -/
theorem input_within (stands : progress.Stands) (allocates : ∀ size, host.allocates size = true)
    (opens : host.openInput entry.filename = some source)
    (within : entry.offset ≤ progress.outFilesize)
    (order : progress.lastWriteOffset ≤ entry.offset) (isFirst : Bool) :
    progress.input host options isFirst entry =
      progress.after options.fillValue ⟨entry.offset.toNat, source.bytes⟩ := by
  have inside : entry.offset.toNat ≤ progress.outFile.bytes.length := by
    rw [← stands.outFilesize]
    exact within
  have bytes : ((progress.outFile.fseekSet entry.offset.toNat).fwrite source.bytes).bytes =
      lay options.fillValue progress.outFile.bytes ⟨entry.offset.toNat, source.bytes⟩ :=
    lay_congr _ inside _
  have last : max progress.lastWriteOffset.toNat
      (Piece.stop ⟨entry.offset.toNat, source.bytes⟩) =
        entry.offset.toNat + source.bytes.length :=
    Nat.max_eq_right (Nat.le_trans order (Nat.le_add_right _ _))
  rw [input_eq opens]
  simp only [if_pos within, if_pos (Or.inr order)]
  rw [@copy_eq _ _ _ _ _ allocates (progress.outFile.fseekSet entry.offset.toNat) inside]
  simp only [after, last, OutFile.fseekEnd, bytes]
  rfl

theorem isEmpty_iff (source : Source) :
    ((if source.seekable then (source.bytes.length : Int) else -1) = 0 ∨
      (if source.seekable then (source.bytes.length : Int) else -1) < 0 ∧
        source.open.fpeek = none) ↔ source.bytes = [] := by
  unfold Source.open InFile.fpeek
  cases source.seekable <;> simp

/-- An empty input before the last place is skipped. -/
theorem input_empty (stands : progress.Stands)
    (opens : host.openInput entry.filename = some source)
    (within : entry.offset ≤ progress.outFilesize)
    (before : entry.offset < progress.lastWriteOffset) (empty : source.bytes = []) :
    progress.input host options false entry =
      progress.after options.fillValue ⟨entry.offset.toNat, source.bytes⟩ := by
  have inside : entry.offset.toNat ≤ progress.outFile.bytes.length := by
    rw [← stands.outFilesize]
    exact within
  have last : max progress.lastWriteOffset.toNat (Piece.stop ⟨entry.offset.toNat, []⟩) =
      progress.lastWriteOffset.toNat :=
    Nat.max_eq_left (Nat.le_of_lt before)
  rw [input_eq opens]
  simp only [if_pos within, Bool.false_eq_true, false_or, if_neg (UInt32.not_le.mpr before),
    if_pos ((isEmpty_iff source).mpr empty)]
  rw [empty]
  simp only [after, last, lay_nil _ inside, OutFile.fseekEnd, ← stands.outFilesize,
    UInt32.ofNat_toNat]
  rw [stands.outFilesize, ← stands.atEnd, ← stands.exitCode]

/-- Any other one before the last place is an error. -/
theorem input_overlapping
    (opens : host.openInput entry.filename = some source)
    (within : entry.offset ≤ progress.outFilesize)
    (before : entry.offset < progress.lastWriteOffset) (something : source.bytes ≠ []) :
    (progress.input host options false entry).exitCode = .overlappingInputData := by
  rw [input_eq opens]
  simp only [if_pos within, Bool.false_eq_true, false_or, if_neg (UInt32.not_le.mpr before),
    if_neg (mt (isEmpty_iff source).mp something)]
  simp [copy, copyInput]

/-- An input is an error when it has bytes and begins before the last place, and is laid over
the file otherwise. -/
theorem input_spec (stands : progress.Stands) (allocates : ∀ size, host.allocates size = true)
    (opens : host.openInput entry.filename = some source) {isFirst : Bool}
    (first : isFirst = true → progress.lastWriteOffset = 0) :
    (source.bytes ≠ [] ∧ entry.offset.toNat < progress.lastWriteOffset.toNat →
        (progress.input host options isFirst entry).exitCode = .overlappingInputData) ∧
      (¬ (source.bytes ≠ [] ∧ entry.offset.toNat < progress.lastWriteOffset.toNat) →
        progress.input host options isFirst entry =
          progress.after options.fillValue ⟨entry.offset.toNat, source.bytes⟩) := by
  by_cases before : entry.offset < progress.lastWriteOffset
  · have within : entry.offset ≤ progress.outFilesize := by
      rw [UInt32.le_iff_toNat_le, stands.outFilesize]
      exact (Nat.le_of_lt before).trans stands.last
    have notFirst : isFirst = false := by
      by_contra isFirst_
      rw [first (Bool.eq_true_of_not_eq_false isFirst_)] at before
      exact absurd before (Nat.not_lt_zero _)
    subst notFirst
    constructor
    · rintro ⟨something, _⟩
      exact input_overlapping opens within before something
    · intro notBoth
      have empty : source.bytes = [] := by
        by_contra something
        exact notBoth ⟨something, before⟩
      exact input_empty stands opens within before empty
  · have order : progress.lastWriteOffset ≤ entry.offset := UInt32.not_lt.mp before
    refine ⟨fun both => absurd both.2 before, fun _ => ?_⟩
    by_cases within : entry.offset ≤ progress.outFilesize
    · exact input_within stands allocates opens within order isFirst
    · exact input_behind stands allocates opens (UInt32.not_le.mp within) isFirst

/-! ## All inputs -/

/-- While all places have 32 bits, the variables say where the file and the last input end. -/
theorem Stands.after {fill : UInt8} {piece : Piece} (stands : progress.Stands)
    (size : progress.outFile.bytes.length < 2 ^ 32) (stop : piece.stop < 2 ^ 32) :
    (progress.after fill piece).Stands ∧
      (progress.after fill piece).lastWriteOffset.toNat =
        max progress.lastWriteOffset.toNat piece.stop := by
  have last : (UInt32.ofNat (max progress.lastWriteOffset.toNat piece.stop)).toNat =
      max progress.lastWriteOffset.toNat piece.stop :=
    UInt32.toNat_ofNat_of_lt' (Nat.max_lt.mpr ⟨progress.lastWriteOffset.toNat_lt, stop⟩)
  refine ⟨⟨rfl, ?_, ?_, rfl⟩, last⟩
  · simp only [Progress.after, OutFile.fseekEnd]
    apply UInt32.toNat_ofNat_of_lt'
    rw [length_lay]
    exact Nat.max_lt.mpr ⟨size, stop⟩
  · simp only [Progress.after, OutFile.fseekEnd, last, length_lay]
    exact Nat.max_le.mpr ⟨stands.last.trans (Nat.le_max_left _ _), Nat.le_max_right _ _⟩

theorem inputs_spec (allocates : ∀ size, host.allocates size = true) {entries : List FileEntry}
    (opens : ∀ entry ∈ entries, (host.openInput entry.filename).isSome = true)
    (stops : ∀ entry ∈ entries, (host.piece entry.input).stop < 2 ^ 32)
    (stands : progress.Stands) (size : progress.outFile.bytes.length < 2 ^ 32) {isFirst : Bool}
    (first : isFirst = true → progress.lastWriteOffset = 0) :
    (Clashes progress.lastWriteOffset.toNat
          (entries.map fun entry => host.piece entry.input) →
        (progress.inputs host options isFirst entries).exitCode = .overlappingInputData) ∧
      (¬ Clashes progress.lastWriteOffset.toNat
          (entries.map fun entry => host.piece entry.input) →
        (progress.inputs host options isFirst entries).Stands ∧
        (progress.inputs host options isFirst entries).outFile.bytes =
          layAll options.fillValue progress.outFile.bytes
            (entries.map fun entry => host.piece entry.input) ∧
        (progress.inputs host options isFirst entries).lastWriteOffset.toNat =
          max progress.lastWriteOffset.toNat
            (lastStop (entries.map fun entry => host.piece entry.input))) := by
  induction entries generalizing progress isFirst with
  | nil => exact ⟨False.elim, fun _ => ⟨stands, rfl, (Nat.max_zero _).symm⟩⟩
  | cons entry rest ih =>
      rcases List.forall_mem_cons.mp opens with ⟨opensFirst, opensRest⟩
      rcases List.forall_mem_cons.mp stops with ⟨stopFirst, stopsRest⟩
      rcases Option.isSome_iff_exists.mp opensFirst with ⟨source, opened⟩
      have isPiece : host.piece entry.input = ⟨entry.offset.toNat, source.bytes⟩ := by
        simp [Host.piece, FileEntry.input, opened]
      rw [isPiece] at stopFirst
      rcases @input_spec host options progress entry source stands allocates opened isFirst first
        with ⟨fails, lays⟩
      rw [List.map_cons, isPiece]
      by_cases clash : source.bytes ≠ [] ∧ entry.offset.toNat < progress.lastWriteOffset.toNat
      · have failed : (progress.inputs host options isFirst (entry :: rest)).exitCode =
            .overlappingInputData := by
          rw [inputs]
          simp [fails clash]
        exact ⟨fun _ => failed, fun notClash => absurd (.inl clash) notClash⟩
      · rcases @Stands.after _ options.fillValue _ stands size stopFirst with ⟨standsAfter, last⟩
        have goesOn : progress.inputs host options isFirst (entry :: rest) =
            (progress.after options.fillValue ⟨entry.offset.toNat, source.bytes⟩).inputs host
              options false rest := by
          rw [inputs, lays clash]
          exact if_pos standsAfter.exitCode
        have sizeAfter : (progress.after options.fillValue
            ⟨entry.offset.toNat, source.bytes⟩).outFile.bytes.length < 2 ^ 32 := by
          simp only [after, OutFile.fseekEnd, length_lay]
          exact Nat.max_lt.mpr ⟨size, stopFirst⟩
        rcases @ih _ opensRest stopsRest standsAfter sizeAfter false (by simp) with
          ⟨clashes, lays⟩
        rw [last] at clashes lays
        rw [goesOn]
        constructor
        · rintro (isFirst | isRest)
          · exact absurd isFirst clash
          · exact clashes isRest
        · intro notClash
          rcases lays fun isRest => notClash (.inr isRest) with ⟨standsLast, bytes, stop⟩
          exact ⟨standsLast, bytes, by rw [stop, lastStop_cons, Nat.max_assoc]⟩

end Progress

/-! ## The whole tool -/

section
variable {host : Host} {options : Options} {inputs : List (String × UInt32)}

theorem sortedEntries_eq (inputs : List (String × UInt32)) :
    sortedEntries inputs = selectionSort (fun entry => entry.offset.toNat) inputs.length
      (inputs.map fun input => ⟨input.1, 0, input.2⟩) := by
  apply sortOffsetAscending_eq
  intro entry isEntry
  rcases List.mem_map.mp isEntry with ⟨input, _, rfl⟩
  rfl

/-- The sorted entries are for the inputs. -/
theorem sortedEntries_perm (inputs : List (String × UInt32)) :
    ((sortedEntries inputs).map FileEntry.input).Perm inputs := by
  have same := @selectionSort_perm _ _ _ (fun entry : FileEntry => entry.offset.toNat)
    inputs.length (inputs.map fun input => ⟨input.1, 0, input.2⟩)
  rw [← sortedEntries_eq] at same
  have entered := same.map FileEntry.input
  rw [List.map_map] at entered
  exact entered.trans (List.Perm.of_eq (List.map_id inputs))

theorem sortedEntries_pairwise (inputs : List (String × UInt32)) :
    (sortedEntries inputs).Pairwise fun first second =>
      first.offset.toNat ≤ second.offset.toNat := by
  rw [sortedEntries_eq]
  exact selectionSort_pairwise (by simp)

/-- The pieces of the sorted entries. -/
theorem sortedPieces (host : Host) (inputs : List (String × UInt32)) :
    ((sortedEntries inputs).map fun entry => host.piece entry.input).Perm
        (inputs.map host.piece) ∧
      ((sortedEntries inputs).map fun entry => host.piece entry.input).Pairwise
        fun first second => first.offset ≤ second.offset := by
  constructor
  · have same := (sortedEntries_perm inputs).map host.piece
    rwa [List.map_map] at same
  · exact List.pairwise_map.mpr (sortedEntries_pairwise inputs)

/-- The output file when no input is an error, and the exit code when one is. -/
theorem main_eq (succeeds : host.Succeeds inputs)
    (size : (host.outFile.getD []).length < 2 ^ 32)
    (stops : ∀ input ∈ inputs, (host.piece input).stop < 2 ^ 32) :
    (¬ Apart (inputs.map host.piece) →
        (main host options inputs).1 = .overlappingInputData) ∧
      (Apart (inputs.map host.piece) →
        ∃ image, main host options inputs = (.none, some image) ∧
          IsOverlay options.fillValue (host.outFile.getD []) (inputs.map host.piece)
            (imageLength options (host.outFile.getD []) (inputs.map host.piece)) image) := by
  rcases sortedPieces host inputs with ⟨same, ascending⟩
  have opened : host.outFile.or (if host.creates then some [] else none) =
      some (host.outFile.getD []) := by
    cases isThere : host.outFile with
    | some bytes => rfl
    | none => simp [succeeds.creates isThere]
  have opens : ∀ entry ∈ sortedEntries inputs, (host.openInput entry.filename).isSome = true :=
    fun entry isEntry => succeeds.opens entry.input
      ((sortedEntries_perm inputs).mem_iff.mp (List.mem_map_of_mem isEntry))
  have stopsSorted : ∀ entry ∈ sortedEntries inputs,
      (host.piece entry.input).stop < 2 ^ 32 :=
    fun entry isEntry => stops entry.input
      ((sortedEntries_perm inputs).mem_iff.mp (List.mem_map_of_mem isEntry))
  have stands : (Progress.start (host.outFile.getD [])).Stands :=
    ⟨rfl, UInt32.toNat_ofNat_of_lt' size, Nat.zero_le _, rfl⟩
  rcases @Progress.inputs_spec host options _ succeeds.allocates _ opens stopsSorted stands size
    true (fun _ => rfl) with ⟨clashes, lays⟩
  have clash := clashes_zero_iff ascending
  have apart : Apart ((sortedEntries inputs).map fun entry => host.piece entry.input) ↔
      Apart (inputs.map host.piece) :=
    ⟨fun apart => apart.perm same, fun apart => apart.perm same.symm⟩
  rw [apart] at clash
  unfold main
  simp only [opened]
  constructor
  · intro overlaps
    simp [clashes (clash.mpr overlaps)]
  · intro isApart
    rcases lays fun clashes => clash.mp clashes isApart with ⟨standsLast, bytes, last⟩
    have whole : IsOverlay options.fillValue (host.outFile.getD []) (inputs.map host.piece)
        (max (host.outFile.getD []).length (lastStop (inputs.map host.piece)))
        ((Progress.start (host.outFile.getD [])).inputs host options true
          (sortedEntries inputs)).outFile.bytes := by
      rw [bytes, ← lastStop_perm same]
      exact (isOverlay_layAll (apart.mpr isApart)).perm same
    have stop : ((Progress.start (host.outFile.getD [])).inputs host options true
        (sortedEntries inputs)).lastWriteOffset.toNat = lastStop (inputs.map host.piece) := by
      rw [last, lastStop_perm same]
      exact Nat.zero_max _
    by_cases truncates : options.truncateOutFile = true
    · have inside : lastStop (inputs.map host.piece) ≤
          ((Progress.start (host.outFile.getD [])).inputs host options true
            (sortedEntries inputs)).outFile.bytes.length := by
        rw [whole.length_eq]
        exact Nat.le_max_right _ _
      rw [if_pos ⟨truncates, standsLast.exitCode⟩, if_pos succeeds.truncates]
      refine ⟨_, rfl, ?_⟩
      simp only [OutFile.ftruncate, stop, Nat.sub_eq_zero_of_le inside, List.replicate_zero,
        List.append_nil, imageLength, if_pos truncates]
      exact whole.take (Nat.le_max_right _ _)
    · rw [if_neg fun both => truncates both.1, standsLast.exitCode]
      refine ⟨_, rfl, ?_⟩
      rwa [imageLength, if_neg truncates]

end

/-- When all places have 32 bits, the tool reports an overlap exactly when two inputs have a
byte at the same place, and otherwise lays the inputs over the old content; the order of the
inputs does not matter. -/
theorem main_isImage (host : Host) (options : Options) (inputs : List (String × UInt32))
    (succeeds : host.Succeeds inputs) (size : (host.outFile.getD []).length < 2 ^ 32)
    (stops : ∀ input ∈ inputs, (host.piece input).stop < 2 ^ 32) :
    ((main host options inputs).1 = .overlappingInputData ↔
        ¬ Apart (inputs.map host.piece)) ∧
      (Apart (inputs.map host.piece) →
        ∃ image, main host options inputs = (.none, some image) ∧
          IsOverlay options.fillValue (host.outFile.getD []) (inputs.map host.piece)
            (imageLength options (host.outFile.getD []) (inputs.map host.piece)) image) ∧
      ∀ others, others.Perm inputs →
        (main host options others).1 = (main host options inputs).1 ∧
          (Apart (inputs.map host.piece) →
            main host options others = main host options inputs) := by
  rcases @main_eq host options inputs succeeds size stops with ⟨overlaps, lays⟩
  refine ⟨⟨?_, overlaps⟩, lays, ?_⟩
  · intro reported isApart
    rcases lays isApart with ⟨image, executed, _⟩
    rw [executed] at reported
    cases reported
  · intro others same
    have succeedsOthers : host.Succeeds others :=
      { succeeds with opens := fun input isInput =>
          succeeds.opens input (same.mem_iff.mp isInput) }
    rcases @main_eq host options others succeedsOthers size
      (fun input isInput => stops input (same.mem_iff.mp isInput)) with
      ⟨othersOverlap, othersLay⟩
    have samePieces := same.map host.piece
    by_cases isApart : Apart (inputs.map host.piece)
    · rcases lays isApart with ⟨image, executed, isImage⟩
      rcases othersLay (isApart.perm samePieces.symm) with ⟨other, otherExecuted, isOther⟩
      have sameImage : other = image := by
        apply (isOther.perm samePieces).unique
        rwa [imageLength, lastStop_perm samePieces]
      subst sameImage
      rw [executed, otherExecuted]
      exact ⟨rfl, fun _ => rfl⟩
    · have othersMeet := fun apart => isApart (Apart.perm apart samePieces)
      rw [overlaps isApart, othersOverlap othersMeet]
      exact ⟨rfl, fun apart => absurd apart isApart⟩

/-- Two files, one of which cannot be positioned, and an output file of one byte. -/
def twoFiles : Host where
  stdin := ⟨[], false⟩
  file := fun filename => if filename = "a" then some ⟨[1, 2], true⟩ else some ⟨[3], false⟩
  outFile := some [9]
  creates := true
  truncates := true
  allocates := fun _ => true

/-- The default options, with `-t`. -/
def truncating : Options where
  blockSize := 512
  positive := defaultBlockSize_pos
  fillValue := 0xFF
  truncateOutFile := true

theorem twoFiles_isImage :
    ∃ image, main twoFiles truncating [("a", 2), ("b", 0)] = (.none, some image) ∧
      IsOverlay 0xFF [9] [⟨2, [1, 2]⟩, ⟨0, [3]⟩] 4 image := by
  have apart : Apart [⟨2, [1, 2]⟩, ⟨0, [3]⟩] := by
    refine .cons ?_ (.cons (fun _ isPiece => by cases isPiece) .nil)
    intro piece isPiece
    rw [List.mem_singleton.mp isPiece]
    rintro ⟨i, ⟨isFirst, _⟩, _, isSecond⟩
    exact absurd (isFirst.trans_lt isSecond) (by decide)
  have stops : ∀ input ∈ [("a", (2 : UInt32)), ("b", 0)],
      (twoFiles.piece input).stop < 2 ^ 32 := by
    intro input isInput
    rcases List.mem_pair.mp isInput with rfl | rfl <;> decide
  have opens : ∀ input ∈ [("a", (2 : UInt32)), ("b", 0)],
      (twoFiles.openInput input.1).isSome = true := by
    intro input isInput
    rcases List.mem_pair.mp isInput with rfl | rfl <;> decide
  exact (main_isImage twoFiles truncating [("a", 2), ("b", 0)]
    ⟨opens, fun _ => rfl, rfl, fun _ => rfl⟩ (by decide) stops).2.1 apart

/-- The host with the two files and no output file. -/
def noOutFile : Host := { twoFiles with outFile := none }

/-- One input behind the beginning of a new output file, with `-t`. -/
theorem main_single {host : Host} {options : Options} {filename : String} {offset : UInt32}
    {source : Source} (noFile : host.outFile = none)
    (succeeds : host.Succeeds [(filename, offset)])
    (opens : host.openInput filename = some source) (behind : 0 < offset)
    (truncates : options.truncateOutFile = true) :
    main host options [(filename, offset)] =
      (.none, some (OutFile.ftruncate ⟨lay options.fillValue [] ⟨offset.toNat, source.bytes⟩, 0⟩
        (UInt32.ofNat (offset.toNat + source.bytes.length)).toNat).bytes) := by
  have opened : host.outFile.or (if host.creates then some [] else none) = some [] := by
    rw [noFile, succeeds.creates noFile]
    rfl
  have round := @Progress.input_behind host options (Progress.start []) ⟨filename, 0, offset⟩
    source ⟨rfl, rfl, le_rfl, rfl⟩ succeeds.allocates opens behind true
  have sorted : sortedEntries [(filename, offset)] = [⟨filename, 0, offset⟩] := rfl
  have rounds : (Progress.start []).inputs host options true (sortedEntries [(filename, offset)]) =
      (Progress.start []).after options.fillValue ⟨offset.toNat, source.bytes⟩ := by
    rw [sorted, Progress.inputs, round]
    exact if_pos rfl
  have last : max (UInt32.toNat 0)
      (Piece.stop ⟨offset.toNat, source.bytes⟩) = offset.toNat + source.bytes.length :=
    Nat.max_eq_right (Nat.zero_le _)
  unfold main
  simp only [opened, rounds]
  rw [if_pos ⟨truncates, rfl⟩, if_pos succeeds.truncates]
  simp only [Progress.after, Progress.start, last, OutFile.fseekEnd, OutFile.ftruncate]

/-- Behind 32 bits the image is another one; and inputs that overlap leave what was written
before the error, which depends on their order. -/
theorem main_not_isImage :
    noOutFile.Succeeds [("a", 0xFFFFFFFF)] ∧ noOutFile.Succeeds [("a", 0), ("b", 0)] ∧
      (¬ ∃ image, main noOutFile truncating [("a", 0xFFFFFFFF)] = (.none, some image) ∧
        IsOverlay 0xFF [] [⟨0xFFFFFFFF, [1, 2]⟩] (lastStop [⟨0xFFFFFFFF, [1, 2]⟩]) image) ∧
      main noOutFile truncating [("a", 0), ("b", 0)] ≠
        main noOutFile truncating [("b", 0), ("a", 0)] := by
  have one : noOutFile.Succeeds [("a", 0xFFFFFFFF)] := by
    refine ⟨?_, fun _ => rfl, rfl, fun _ => rfl⟩
    intro input isInput
    rw [List.mem_singleton.mp isInput]
    decide
  refine ⟨one, ⟨?_, fun _ => rfl, rfl, fun _ => rfl⟩, ?_, ?_⟩
  · intro input isInput
    rcases List.mem_pair.mp isInput with rfl | rfl <;> decide
  · rintro ⟨image, executed, isImage⟩
    have cut := @main_single noOutFile truncating "a" 0xFFFFFFFF ⟨[1, 2], true⟩ rfl one rfl
      (by decide) rfl
    -- The end is taken to be at 1.
    have last : (UInt32.ofNat ((0xFFFFFFFF : UInt32).toNat + [(1 : UInt8), 2].length)).toNat =
        1 := by decide
    have long : 1 - (lay truncating.fillValue [] ⟨(0xFFFFFFFF : UInt32).toNat, [1, 2]⟩).length =
        0 := by
      rw [length_lay]
      decide
    rw [cut, Prod.mk.injEq, Option.some_inj] at executed
    have length := isImage.length_eq
    rw [← executed.2] at length
    simp only [OutFile.ftruncate, last, long, List.replicate_zero, List.append_nil,
      List.length_take] at length
    have short : lastStop [⟨0xFFFFFFFF, [1, 2]⟩] ≤ 1 := length ▸ Nat.min_le_left _ _
    exact absurd short (by decide)
  · decide +kernel

end FwkRtos.DatapartitionMkimage

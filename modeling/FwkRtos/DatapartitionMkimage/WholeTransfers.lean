import FwkRtos.DatapartitionMkimage.ShortTransfers

/-!
# Short transfers make whole ones

Wherever the tool is, what it will have made is known: what is left to be moved is moved at
once.  No call changes this, however few bytes it moves, unless a read without a byte comes
too early; so a run that returns has made what `main` makes.
-/

namespace FwkRtos.DatapartitionMkimage

open FwkRtos.Bytes FwkRtos.Transition

/-! ## What is left, at once -/

section
variable (host : Host) (options : Options)

/-- What follows the loop of `main`. -/
def Progress.complete (progress : Progress) : Progress :=
  if options.truncateOutFile ∧ progress.exitCode = .none then
    if host.truncates then
      { progress with outFile := progress.outFile.ftruncate progress.lastWriteOffset.toNat }
    else { progress with exitCode := .fileSystem }
  else progress

/-- What follows an input: the other ones, if no error occurred. -/
def Progress.others (progress : Progress) (rest : List FileEntry) : Progress :=
  (if progress.exitCode = .none then progress.inputs host options false rest
    else progress).complete host options

/-- The variables when an input has been dealt with. -/
def Progress.settled (outFile : OutFile) (exitCode : ErrorCode) : Progress where
  outFile := outFile.fseekEnd
  outFilesize := UInt32.ofNat outFile.fseekEnd.ftell
  lastWriteOffset := UInt32.ofNat outFile.ftell
  exitCode := exitCode

/-- How the tool ends if all that is left is moved at once. -/
def ToolState.result (state : ToolState) : Progress :=
  let outFile := state.progress.outFile
  match state.control with
  | .going =>
      (state.progress.inputs host options state.isFirst state.rest).complete host options
  | .filling entry inFile _ numBytes =>
      (state.progress.copy host options inFile entry
        (.none, outFile.fwrite (List.replicate numBytes options.fillValue))).others host options
          state.rest
  | .reading inFile =>
      (Progress.settled (outFile.fwrite (inFile.bytes.drop inFile.position)) .none).others host
        options state.rest
  | .writing inFile left =>
      (Progress.settled (outFile.fwrite (left ++ inFile.bytes.drop inFile.position)) .none).others
        host options state.rest
  | .ended => state.progress

end

namespace Progress

variable {host : Host} {options : Options} {progress : Progress}

theorem others_of_none (noError : progress.exitCode = .none) (rest : List FileEntry) :
    progress.others host options rest =
      (progress.inputs host options false rest).complete host options := by
  rw [others, if_pos noError]

theorem others_of_error (error : progress.exitCode ≠ .none) (rest : List FileEntry) :
    progress.others host options rest = progress.complete host options := by
  rw [others, if_neg error]

/-- Only the output file is seen of the variables when an input is copied. -/
theorem copy_eq_settled (inFile : InFile) (entry : FileEntry) (placed : ErrorCode × OutFile) :
    progress.copy host options inFile entry placed =
      settled (copyInput host options inFile entry placed).2
        (copyInput host options inFile entry placed).1 :=
  rfl

end Progress

/-- Until the tool returns, the output file is positioned within its bytes and no error has
occurred; between two inputs its size is not taken to be larger than it is, and within an
input another one is not the first. -/
structure ToolState.Placed (state : ToolState) : Prop where
  inside : state.control ≠ .ended →
    state.progress.outFile.position ≤ state.progress.outFile.bytes.length
  noError : state.control ≠ .ended → state.progress.exitCode = .none
  outFilesize : state.control = .going →
    state.progress.outFilesize.toNat ≤ state.progress.outFile.bytes.length
  notFirst : state.control ≠ .going → state.control ≠ .ended → state.isFirst = false

namespace ToolState

variable {host : Host} {options : Options} {state : ToolState}

theorem result_of_ended (isEnded : state.control = .ended) :
    state.result host options = state.progress := by
  rw [result, isEnded]

namespace Placed

/-- Within an input. -/
theorem of_within (notGoing : state.control ≠ .going)
    (inside : state.progress.outFile.position ≤ state.progress.outFile.bytes.length)
    (noError : state.progress.exitCode = .none) (notFirst : state.isFirst = false) :
    state.Placed where
  inside _ := inside
  noError _ := noError
  outFilesize isGoing := absurd isGoing notGoing
  notFirst _ _ := notFirst

theorem within (placed : state.Placed) {control : Control} (isControl : state.control = control)
    (notGoing : control ≠ .going) (unended : control ≠ .ended) :
    state.progress.outFile.position ≤ state.progress.outFile.bytes.length ∧
      state.progress.exitCode = .none ∧ state.isFirst = false := by
  subst isControl
  exact ⟨placed.inside unended, placed.noError unended, placed.notFirst notGoing unended⟩

end Placed

end ToolState

/-- The tool is on its way to an end. -/
structure Makes (host : Host) (options : Options) (state : ToolState) (last : Progress) :
    Prop where
  placed : state.Placed
  result : state.result host options = last

theorem position_fwrite_le (file : OutFile) (data : List UInt8) :
    (file.fwrite data).position ≤ (file.fwrite data).bytes.length := by
  simp only [OutFile.fwrite, length_lay, Piece.stop]
  exact Nat.le_max_right _ _

namespace Makes

variable {host : Host} {options : Options} {state : ToolState} {entry : FileEntry}
  {inFile : InFile} {last : Progress}

/-- What has returned has made what it has made. -/
theorem of_ended (isEnded : state.control = .ended) :
    Makes host options state state.progress := by
  refine ⟨⟨?_, ?_, ?_, ?_⟩, ?_⟩
  · exact fun unended => absurd isEnded unended
  · exact fun unended => absurd isEnded unended
  · intro isGoing
    rw [isEnded] at isGoing
    cases isGoing
  · exact fun _ unended => absurd isEnded unended
  · exact ToolState.result_of_ended isEnded

theorem finish (state : ToolState) :
    Makes host options (state.finish host options) (state.progress.complete host options) :=
  of_ended rfl

/-- The loop goes on after an input, or ends with an error. -/
theorem settle (notFirst : state.isFirst = false) (exitCode : ErrorCode) :
    Makes host options (state.settle host options exitCode)
      ((Progress.settled state.progress.outFile exitCode).others host options state.rest) := by
  rw [ToolState.settle]
  by_cases noError : exitCode = .none
  · have goesOn : (Progress.settled state.progress.outFile exitCode).exitCode = .none := noError
    rw [if_pos noError, Progress.others_of_none goesOn]
    refine ⟨⟨fun _ => Nat.le_refl _, fun _ => noError, fun _ => ?_, ?_⟩, ?_⟩
    · rw [UInt32.toNat_ofNat']
      exact Nat.mod_le _ _
    · exact fun notGoing => absurd rfl notGoing
    · rw [ToolState.result, notFirst]
      rfl
  · have error : (Progress.settled state.progress.outFile exitCode).exitCode ≠ .none := noError
    rw [if_neg noError, Progress.others_of_error error]
    exact finish _

/-- `copy_data` makes what it makes at once. -/
theorem startCopy (notFirst : state.isFirst = false)
    (noError : state.progress.exitCode = .none)
    (inside : state.progress.outFile.position ≤ state.progress.outFile.bytes.length) :
    Makes host options (state.startCopy host options entry inFile)
      ((state.progress.copy host options inFile entry (.none, state.progress.outFile)).others host
        options state.rest) := by
  rw [ToolState.startCopy, Progress.copy_eq_settled]
  by_cases something : entry.size ≠ 0
  · have copied : copyInput host options inFile entry (.none, state.progress.outFile) =
        copyData host options inFile state.progress.outFile := if_pos ⟨something, rfl⟩
    rw [if_pos something, copied, copyData]
    by_cases allocated : host.allocates options.blockSize.toNat = true
    · rw [if_pos allocated, if_pos allocated, copyLoop_eq options.positive _ inside]
      exact ⟨.of_within Control.noConfusion inside noError notFirst, rfl⟩
    · rw [if_neg allocated, if_neg allocated]
      exact settle notFirst .outOfResources
  · have kept : copyInput host options inFile entry (.none, state.progress.outFile) =
        (.none, state.progress.outFile) := if_neg fun both => something both.1
    rw [if_neg something, kept]
    exact settle notFirst .none

/-- `fill_data` makes what it makes at once. -/
theorem startFill (notFirst : state.isFirst = false)
    (noError : state.progress.exitCode = .none)
    (inside : state.progress.outFile.position ≤ state.progress.outFile.bytes.length)
    (numBytes : Nat) :
    Makes host options (state.startFill host options entry inFile numBytes)
      ((state.progress.copy host options inFile entry
        (fillData host options state.progress.outFile numBytes)).others host options
          state.rest) := by
  rw [ToolState.startFill, fillData]
  by_cases isZero : numBytes = 0
  · rw [if_pos isZero, dif_pos isZero]
    exact startCopy notFirst noError inside
  rw [if_neg isZero, dif_neg isZero]
  by_cases allocated : host.allocates (options.allocSize numBytes) = true
  · rw [if_pos allocated, if_pos allocated, fillLoop_eq _ _ _ _ inside]
    exact ⟨.of_within Control.noConfusion inside noError notFirst, rfl⟩
  · rw [if_neg allocated, if_neg allocated, Progress.copy_eq_settled, copyInput,
      if_neg fun both => ErrorCode.noConfusion both.2]
    exact settle notFirst .outOfResources

/-- A round makes what it makes at once. -/
theorem startInput (placed : state.Placed) (isGoing : state.control = .going)
    (entry : FileEntry) :
    Makes host options (state.startInput host options entry)
      ((state.progress.input host options state.isFirst entry).others host options
        state.rest) := by
  have unended : state.control ≠ .ended := by
    rw [isGoing]
    exact Control.noConfusion
  have inside := placed.inside unended
  have noError := placed.noError unended
  have size := placed.outFilesize isGoing
  rw [ToolState.startInput]
  cases opened : host.openInput entry.filename with
  | none =>
      have failed : state.progress.input host options state.isFirst entry =
          { state.progress with exitCode := .fileSystem } := by
        rw [Progress.input, opened]
      rw [failed, Progress.others_of_error ErrorCode.noConfusion]
      exact finish _
  | some source =>
      rw [Progress.input_eq opened]
      simp only [updateFileEntrySize_open]
      generalize (if source.seekable then (source.bytes.length : Int) else -1) = fileSize
      by_cases within : entry.offset ≤ state.progress.outFilesize
      · rw [if_pos within, if_pos within]
        by_cases first : state.isFirst = true ∨ state.progress.lastWriteOffset ≤ entry.offset
        · rw [if_pos first, if_pos first]
          exact startCopy rfl noError ((UInt32.le_iff_toNat_le.mp within).trans size)
        rw [if_neg first, if_neg first]
        by_cases skipped : fileSize = 0 ∨ fileSize < 0 ∧ source.open.fpeek = none
        · rw [if_pos skipped, if_pos skipped, Progress.others_of_none noError]
          refine ⟨⟨fun _ => inside, fun _ => noError, fun _ => size, ?_⟩, ?_⟩
          · exact fun notGoing => absurd isGoing notGoing
          · rw [ToolState.result]
            simp only [isGoing]
        · rw [if_neg skipped, if_neg skipped, Progress.copy_eq_settled, copyInput,
            if_neg fun both => ErrorCode.noConfusion both.2]
          exact settle rfl .overlappingInputData
      · rw [if_neg within, if_neg within]
        exact @startFill host options { state with isFirst := false } _ _ rfl noError inside _

/-- No step changes what will have been made, unless a read without a byte comes too early. -/
theorem step (placed : state.Placed) {label : Label} {target : ToolState}
    (onlyAtEnd : ∀ inFile, state.control = .reading inFile → label = .fread 0 →
      inFile.bytes.length ≤ inFile.position)
    (calls : Calls host options state label target) :
    Makes host options target (state.result host options) := by
  cases calls with
  | go isGoing =>
      have now : state.result host options =
          (state.progress.inputs host options state.isFirst state.rest).complete host options := by
        rw [ToolState.result, isGoing]
      rw [now, ToolState.go]
      cases state.rest with
      | nil => exact finish state
      | cons entry rest =>
          have placed : ({ state with rest := rest } : ToolState).Placed :=
            ⟨placed.inside, placed.noError, placed.outFilesize, placed.notFirst⟩
          exact startInput placed isGoing entry
  | @fill entry inFile allocSize numBytes count isFilling possible =>
      rcases placed.within isFilling Control.noConfusion Control.noConfusion with
        ⟨_, noError, notFirst⟩
      have parts : List.replicate numBytes options.fillValue =
          List.replicate count options.fillValue ++
            List.replicate (numBytes - count) options.fillValue := by
        rw [← List.replicate_add, Nat.add_sub_cancel' (possible.trans (Nat.min_le_left _ _))]
      have now : state.result host options = ((state.wrote
          (List.replicate count options.fillValue)).progress.copy host options inFile entry
            (.none, (state.progress.outFile.fwrite
              (List.replicate count options.fillValue)).fwrite
                (List.replicate (numBytes - count) options.fillValue))).others host options
                  state.rest := by
        rw [fwrite_fwrite, ← parts, ToolState.result, isFilling]
        rfl
      have inside := position_fwrite_le state.progress.outFile
        (List.replicate count options.fillValue)
      rw [now, ToolState.filled]
      by_cases full : numBytes - count = 0
      · rw [if_pos full, full, List.replicate_zero, fwrite_nil inside]
        exact @startCopy host options (state.wrote _) entry inFile notFirst noError inside
      · rw [if_neg full]
        exact ⟨.of_within Control.noConfusion inside noError notFirst, rfl⟩
  | @read inFile count isReading possible =>
      rcases placed.within isReading Control.noConfusion Control.noConfusion with
        ⟨inside, noError, notFirst⟩
      have now : state.result host options = (Progress.settled
          (state.progress.outFile.fwrite (inFile.bytes.drop inFile.position)) .none).others host
            options state.rest := by
        rw [ToolState.result, isReading]
      rw [now, ToolState.haveRead]
      by_cases nothing : count = 0
      · have atEnd := onlyAtEnd inFile isReading (by rw [nothing])
        rw [if_pos nothing, List.drop_eq_nil_of_le atEnd, fwrite_nil inside]
        exact settle notFirst .none
      · have parts : inFile.bytes.drop inFile.position = (inFile.fread count).1 ++
            (inFile.fread count).2.bytes.drop (inFile.fread count).2.position := by
          rw [ToolState.position_fread possible, ← List.drop_drop]
          exact (List.take_append_drop count _).symm
        rw [if_neg nothing, parts]
        exact ⟨.of_within Control.noConfusion inside noError notFirst, rfl⟩
  | @write inFile left count isWriting possible =>
      rcases placed.within isWriting Control.noConfusion Control.noConfusion with
        ⟨_, noError, notFirst⟩
      have inside := position_fwrite_le state.progress.outFile (left.take count)
      have now : state.result host options = (Progress.settled
          ((state.progress.outFile.fwrite (left.take count)).fwrite
            (left.drop count ++ inFile.bytes.drop inFile.position)) .none).others host options
              state.rest := by
        rw [fwrite_fwrite, ← List.append_assoc, List.take_append_drop, ToolState.result, isWriting]
      rw [now, ToolState.copied]
      by_cases all : left.drop count = []
      · rw [if_pos all, all, List.nil_append]
        exact ⟨.of_within Control.noConfusion inside noError notFirst, rfl⟩
      · rw [if_neg all]
        exact ⟨.of_within Control.noConfusion inside noError notFirst, rfl⟩
  | rest isEnded => exact ⟨placed, rfl⟩

end Makes

/-! ## The run and `main` -/

section
variable {host : Host} {options : Options} {inputs : List (String × UInt32)}

/-- `main` returns the exit code, and leaves the image. -/
def Progress.EndsAs (progress : Progress) (ending : ErrorCode × Option (List UInt8)) : Prop :=
  progress.exitCode = ending.1 ∧ ∀ image ∈ ending.2, progress.outFile.bytes = image

/-- Before the first step, what will have been made is what `main` makes. -/
theorem initial_result (host : Host) (options : Options) (inputs : List (String × UInt32)) :
    (ToolState.initial host inputs).Placed ∧
      ((ToolState.initial host inputs).result host options).EndsAs
        (main host options inputs) := by
  unfold ToolState.initial main
  cases host.outFile.or (if host.creates then some [] else none) with
  | none =>
      refine ⟨(@Makes.of_ended host options _ rfl).placed, rfl, ?_⟩
      intro image isImage
      cases isImage
  | some bytes =>
      constructor
      · refine ⟨fun _ => Nat.le_refl _, fun _ => rfl, fun _ => ?_, ?_⟩
        · simp only [Progress.start, UInt32.toNat_ofNat']
          exact Nat.mod_le _ _
        · exact fun notGoing => absurd rfl notGoing
      · simp only [ToolState.result, Progress.complete, Progress.EndsAs]
        generalize (Progress.start bytes).inputs host options true (sortedEntries inputs) = last
        by_cases cut : options.truncateOutFile = true ∧ last.exitCode = .none
        · cases host.truncates <;> simp [cut]
        · simp [cut]

end

namespace ToolRun

variable {host : Host} {options : Options} {inputs : List (String × UInt32)}
  {execution : ToolRun host options inputs}

/-- Along a run, what will have been made stays what it was at first. -/
theorem makes (onlyAtEnd : ∀ n inFile, (execution.state n).1.control = .reading inFile →
      execution.label n = .fread 0 → inFile.bytes.length ≤ inFile.position) (n : Nat) :
    Makes host options (execution.state n).1
      ((ToolState.initial host inputs).result host options) := by
  induction n with
  | zero =>
      rw [execution.first]
      exact ⟨(initial_result host options inputs).1, rfl⟩
  | succ n ih =>
      have next := Makes.step ih.placed (onlyAtEnd n) (execution.calls n).1
      rwa [ih.result] at next

/-- However its transfers are cut, the tool returns with the exit code of `main` and leaves
the same image, unless the host stops moving bytes. -/
theorem endsAs_main (execution : ToolRun host options inputs) (moves : execution.Moves) :
    ∃ last, ∀ n, last ≤ n → (execution.state n).1.control = .ended ∧
      (execution.state n).1.progress.EndsAs (main host options inputs) := by
  rcases ends moves.1 with ⟨last, isEnded⟩
  refine ⟨last, fun n later => ?_⟩
  have still := ended_of_le later isEnded
  refine ⟨still, ?_⟩
  rw [← ToolState.result_of_ended still, (makes moves.2 n).result]
  exact (initial_result host options inputs).2

end ToolRun

/-- A file of one byte is put behind three bytes of padding, which are written in two calls. -/
def paddedCalls : List Label :=
  [.go, .fwrite 2, .fwrite 1, .fread 1, .fwrite 1, .fread 0, .go]

/-- Only one of the calls reads nothing. -/
theorem eq_five_of_readsNothing {count : Nat}
    (place : paddedCalls[count]? = some (.fread 0)) : count = 5 := by
  rcases count with _ | _ | _ | _ | _ | _ | _ | more <;> first | rfl | cases place

theorem endsAs_main_padded : ∃ execution : ToolRun oneByte truncating [("a", 3)],
    ∃ last, ∀ n, last ≤ n → (execution.state n).1.control = .ended ∧
      (execution.state n).1.progress.EndsAs (main oneByte truncating [("a", 3)]) := by
  have ends : (run (watched oneByte truncating) (ToolState.initial oneByte [("a", 3)], [])
      paddedCalls).map (fun state => state.1.control) = some .ended := rfl
  have same : run (watched oneByte truncating) (ToolState.initial oneByte [("a", 3)], [])
      (paddedCalls ++ [.rest]) =
        run (watched oneByte truncating) (ToolState.initial oneByte [("a", 3)], [])
          paddedCalls := rfl
  obtain ⟨last, executed, isEnded⟩ := Option.map_eq_some_iff.mp ends
  rw [executed] at same
  obtain ⟨middle, reached, step⟩ := (run_concat_eq_some_iff _ _ _ _ _).mp same
  obtain rfl : last = middle := Option.some.inj (executed.symm.trans reached)
  have notWrites : ¬ last.1.Writes := by
    rw [ToolState.Writes, isEnded]
    exact id
  -- The one read without a byte is at the end of the input.
  have atEnd : StepsMeet (watched oneByte truncating) (ToolState.initial oneByte [("a", 3)], [])
      paddedCalls (fun state label => ∀ inFile, state.1.control = .reading inFile →
        label = .fread 0 → inFile.bytes.length ≤ inFile.position) := by
    rintro before label isPrefix source target executed _ inFile isReading rfl
    have isBefore : before = paddedCalls.take 5 := by
      obtain ⟨rest, whole⟩ := isPrefix
      have place : paddedCalls[before.length]? = some (.fread 0) := by
        rw [← whole]
        simp
      rw [← whole, ← eq_five_of_readsNothing place, List.append_assoc, List.take_left]
    subst isBefore
    cases executed
    cases isReading
    decide
  exact ⟨_, ToolRun.endsAs_main (.ofRun .rest executed step)
    ⟨Execution.ofRun_weaklyFair executed step _ notWrites,
      fun n => Execution.ofRun_meets executed step atEnd
        (fun inFile isReading => by rw [isEnded] at isReading; cases isReading) n⟩⟩

end FwkRtos.DatapartitionMkimage

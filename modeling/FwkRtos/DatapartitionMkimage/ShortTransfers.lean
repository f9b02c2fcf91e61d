import FwkRtos.DatapartitionMkimage.Image
import FwkRtos.Transition.Fairness
import FwkRtos.Transition.Observed

/-!
# Short transfers

The tool between two calls of the host that move data: any such call may move fewer bytes
than it is asked for, or none.  What is not written is written again until it is; a read
without a byte is taken for the end of the input.
-/

namespace FwkRtos.DatapartitionMkimage

open FwkRtos.Bytes FwkRtos.Transition

/-! ## The tool, call by call -/

/-- What the tool does next: to go on to the next input, to fill, to read what is to be copied
or to write what has been read; or it has returned. -/
inductive Control
  | going
  | filling (entry : FileEntry) (inFile : InFile) (allocSize numBytes : Nat)
  | reading (inFile : InFile)
  | writing (inFile : InFile) (left : List UInt8)
  | ended

/-- What happens: the tool goes on without a call, or a call has moved some bytes; at the end
the tool rests. -/
inductive Label
  | go
  | fread (count : Nat)
  | fwrite (count : Nat)
  | rest

structure ToolState where
  progress : Progress
  isFirst : Bool
  rest : List FileEntry
  control : Control

/-- `fwrite` is called next. -/
def ToolState.Writes (state : ToolState) : Prop :=
  match state.control with
  | .filling _ _ _ _ => True
  | .writing _ _ => True
  | _ => False

section
variable (host : Host) (options : Options)

namespace ToolState

/-- What follows the loop over the inputs. -/
def finish (state : ToolState) : ToolState :=
  let progress := state.progress
  let progress :=
    if options.truncateOutFile ∧ progress.exitCode = .none then
      if host.truncates then
        { progress with outFile := progress.outFile.ftruncate progress.lastWriteOffset.toNat }
      else { progress with exitCode := .fileSystem }
    else progress
  { state with progress := progress, control := .ended }

/-- What follows the copying of an input: the loop goes on if no error occurred. -/
def settle (state : ToolState) (exitCode : ErrorCode) : ToolState :=
  let outFile := state.progress.outFile
  let state := { state with
    progress :=
      { outFile := outFile.fseekEnd
        outFilesize := UInt32.ofNat outFile.fseekEnd.ftell
        lastWriteOffset := UInt32.ofNat outFile.ftell
        exitCode := exitCode } }
  if exitCode = .none then { state with control := .going } else state.finish host options

/-- The call of `copy_data`, if there is one. -/
def startCopy (state : ToolState) (entry : FileEntry) (inFile : InFile) : ToolState :=
  if entry.size ≠ 0 then
    if host.allocates options.blockSize.toNat then { state with control := .reading inFile }
    else state.settle host options .outOfResources
  else state.settle host options .none

/-- The call of `fill_data`. -/
def startFill (state : ToolState) (entry : FileEntry) (inFile : InFile) (numBytes : Nat) :
    ToolState :=
  if numBytes = 0 then state.startCopy host options entry inFile
  else if host.allocates (options.allocSize numBytes) then
    { state with control := .filling entry inFile (options.allocSize numBytes) numBytes }
  else state.settle host options .outOfResources

/-- The beginning of a round for an input, up to the first call that moves data. -/
def startInput (state : ToolState) (entry : FileEntry) : ToolState :=
  match host.openInput entry.filename with
  | none => finish host options
      { state with progress := { state.progress with exitCode := .fileSystem } }
  | some source =>
      let (inFile, entry) := updateFileEntrySize source.open entry
      let progress := state.progress
      let started := { state with isFirst := false }
      if entry.offset ≤ progress.outFilesize then
        if state.isFirst ∨ progress.lastWriteOffset ≤ entry.offset then
          startCopy host options { started with
            progress := { progress with outFile := progress.outFile.fseekSet entry.offset.toNat } }
            entry inFile
        else if entry.size = 0 ∨ (entry.size < 0 ∧ inFile.fpeek = none) then started
        else started.settle host options .overlappingInputData
      else
        started.startFill host options entry inFile (entry.offset - progress.outFilesize).toNat

/-- The next round, or the end of the loop. -/
def go (state : ToolState) : ToolState :=
  match state.rest with
  | [] => state.finish host options
  | entry :: rest => startInput host options { state with rest := rest } entry

/-- The output file after a call of `fwrite`. -/
def wrote (state : ToolState) (data : List UInt8) : ToolState :=
  { state with progress := { state.progress with outFile := state.progress.outFile.fwrite data } }

/-- `fill_data` after a call of `fwrite`. -/
def filled (state : ToolState) (entry : FileEntry) (inFile : InFile) (allocSize numBytes : Nat)
    (count : Nat) : ToolState :=
  let state := state.wrote (List.replicate count options.fillValue)
  if numBytes - count = 0 then state.startCopy host options entry inFile
  else { state with control := .filling entry inFile allocSize (numBytes - count) }

/-- `copy_data` after a call of `fread`. -/
def haveRead (state : ToolState) (inFile : InFile) (count : Nat) : ToolState :=
  if count = 0 then state.settle host options .none
  else { state with control := .writing (inFile.fread count).2 (inFile.fread count).1 }

/-- `copy_data` after a call of `fwrite`. -/
def copied (state : ToolState) (inFile : InFile) (left : List UInt8) (count : Nat) : ToolState :=
  let state := state.wrote (left.take count)
  if left.drop count = [] then { state with control := .reading inFile }
  else { state with control := .writing inFile (left.drop count) }

/-- The tool before its first round. -/
def initial (inputs : List (String × UInt32)) : ToolState :=
  match host.outFile.or (if host.creates then some [] else none) with
  | none =>
      { progress := { Progress.start [] with exitCode := .fileSystem }
        isFirst := true
        rest := []
        control := .ended }
  | some bytes =>
      { progress := Progress.start bytes
        isFirst := true
        rest := sortedEntries inputs
        control := .going }

end ToolState

/-- One step: no call moves more than it is asked for, or more than an input has. -/
def nextCall : LStep ToolState Label
  | state, label =>
      match state.control, label with
      | .going, .go => some (state.go host options)
      | .filling entry inFile allocSize numBytes, .fwrite count =>
          if count ≤ min numBytes allocSize then
            some (state.filled host options entry inFile allocSize numBytes count)
          else none
      | .reading inFile, .fread count =>
          if count ≤ min options.blockSize.toNat (inFile.bytes.length - inFile.position) then
            some (state.haveRead host options inFile count)
          else none
      | .writing inFile left, .fwrite count =>
          if count ≤ left.length then some (state.copied inFile left count) else none
      | .ended, .rest => some state
      | _, _ => none

end

/-- The steps, each with what the host promises about its call. -/
inductive Calls (host : Host) (options : Options) (state : ToolState) :
    Label → ToolState → Prop
  | go (isGoing : state.control = .going) : Calls host options state .go (state.go host options)
  | fill {entry : FileEntry} {inFile : InFile} {allocSize numBytes count : Nat}
      (isFilling : state.control = .filling entry inFile allocSize numBytes)
      (possible : count ≤ min numBytes allocSize) :
      Calls host options state (.fwrite count)
        (state.filled host options entry inFile allocSize numBytes count)
  | read {inFile : InFile} {count : Nat} (isReading : state.control = .reading inFile)
      (possible : count ≤ min options.blockSize.toNat (inFile.bytes.length - inFile.position)) :
      Calls host options state (.fread count) (state.haveRead host options inFile count)
  | write {inFile : InFile} {left : List UInt8} {count : Nat}
      (isWriting : state.control = .writing inFile left) (possible : count ≤ left.length) :
      Calls host options state (.fwrite count) (state.copied inFile left count)
  | rest (isEnded : state.control = .ended) : Calls host options state .rest state

theorem calls_of_nextCall {host : Host} {options : Options} {state target : ToolState}
    {label : Label} (step : nextCall host options state label = some target) :
    Calls host options state label target := by
  cases control : state.control with
  | going =>
      cases label <;> simp only [nextCall, control, reduceCtorEq] at step
      case go =>
        cases step
        exact .go control
  | filling entry inFile allocSize numBytes =>
      cases label <;> simp only [nextCall, control, reduceCtorEq] at step
      case fwrite count =>
        by_cases possible : count ≤ min numBytes allocSize
        · rw [if_pos possible] at step
          cases step
          exact .fill control possible
        · rw [if_neg possible] at step
          cases step
  | reading inFile =>
      cases label <;> simp only [nextCall, control, reduceCtorEq] at step
      case fread count =>
        by_cases possible :
            count ≤ min options.blockSize.toNat (inFile.bytes.length - inFile.position)
        · rw [if_pos possible] at step
          cases step
          exact .read control possible
        · rw [if_neg possible] at step
          cases step
  | writing inFile left =>
      cases label <;> simp only [nextCall, control, reduceCtorEq] at step
      case fwrite count =>
        by_cases possible : count ≤ left.length
        · rw [if_pos possible] at step
          cases step
          exact .write control possible
        · rw [if_neg possible] at step
          cases step
  | ended =>
      cases label <;> simp only [nextCall, control, reduceCtorEq] at step
      case rest =>
        cases step
        exact .rest control

namespace Calls

variable {host : Host} {options : Options} {state target : ToolState} {label : Label}

/-- What has returned stays so. -/
theorem eq_of_ended (calls : Calls host options state label target)
    (isEnded : state.control = .ended) : target = state := by
  cases calls with
  | rest _ => rfl
  | go isGoing => exact absurd (isEnded.symm.trans isGoing) Control.noConfusion
  | fill isFilling _ => exact absurd (isEnded.symm.trans isFilling) Control.noConfusion
  | read isReading _ => exact absurd (isEnded.symm.trans isReading) Control.noConfusion
  | write isWriting _ => exact absurd (isEnded.symm.trans isWriting) Control.noConfusion

theorem writes {count : Nat} (calls : Calls host options state (.fwrite count) target) :
    state.Writes := by
  rw [ToolState.Writes]
  cases calls with
  | fill isFilling _ =>
      rw [isFilling]
      trivial
  | write isWriting _ =>
      rw [isWriting]
      trivial

/-- A read of no byte ends the copying. -/
theorem eq_settle (calls : Calls host options state (.fread 0) target) :
    target = state.settle host options .none := by
  cases calls with
  | read _ _ => exact if_pos rfl

end Calls

/-! ## What has been written -/

/-- For an input whose round has begun: the fill bytes that are needed before it, those that
have been written, and the bytes of the input that have been written. -/
structure Transfer where
  input : String × UInt32
  asked : Nat
  padded : Nat
  bytes : List UInt8

/-- All fill bytes and all bytes of the input have been written. -/
def Transfer.Complete (host : Host) (transfer : Transfer) : Prop :=
  transfer.padded = transfer.asked ∧
    ∃ source, host.openInput transfer.input.1 = some source ∧ transfer.bytes = source.bytes

/-- Change the transfer of the present input. -/
def onPresent (change : Transfer → Transfer) : List Transfer → List Transfer
  | [] => []
  | transfer :: transfers => change transfer :: transfers

/-- The transfers, the last one first, as seen from outside. -/
def watch (source : ToolState) (label : Label) (_ : ToolState) (transfers : List Transfer) :
    List Transfer :=
  match source.control, label with
  | .going, _ =>
      match source.rest with
      | [] => transfers
      | entry :: _ =>
          ⟨entry.input, entry.offset.toNat - source.progress.outFilesize.toNat, 0, []⟩ :: transfers
  | .filling _ _ _ _, .fwrite count =>
      onPresent (fun transfer => { transfer with padded := transfer.padded + count }) transfers
  | .writing _ left, .fwrite count =>
      onPresent (fun transfer => { transfer with bytes := transfer.bytes ++ left.take count })
        transfers
  | _, _ => transfers

section
variable (host : Host) (options : Options) (inputs : List (String × UInt32))

/-- The tool with the one who sees what it writes. -/
abbrev watched : LStep (ToolState × List Transfer) Label :=
  observed (nextCall host options) watch

/-- A run of the tool, which rests for ever when it has returned. -/
abbrev ToolRun :=
  Execution (watched host options) (ToolState.initial host inputs, [])

end

namespace ToolRun

variable {host : Host} {options : Options} {inputs : List (String × UInt32)}

/-- The tool returns.  Whenever the loop over the inputs goes on without an error, all that was
to be written has been written; and when the tool returns without one, that is so for all
inputs. -/
def WritesAll (execution : ToolRun host options inputs) : Prop :=
  (∃ n, (execution.state n).1.control = .ended) ∧
    ∀ n, (execution.state n).1.progress.exitCode = .none →
      ((execution.state n).1.control = .going →
        ∀ transfer ∈ (execution.state n).2, transfer.Complete host) ∧
      ((execution.state n).1.control = .ended →
        (execution.state n).2.reverse.map Transfer.input =
          (sortedEntries inputs).map FileEntry.input ∧
        ∀ transfer ∈ (execution.state n).2, transfer.Complete host)

/-- `fwrite` does not write nothing for ever when it is called, and `fread` reads nothing only
at the end of its input. -/
def Moves (execution : ToolRun host options inputs) : Prop :=
  execution.WeaklyFair (fun state => state.1.Writes) (· ≠ .fwrite 0) ∧
    ∀ n inFile, (execution.state n).1.control = .reading inFile →
      execution.label n = .fread 0 → inFile.bytes.length ≤ inFile.position

end ToolRun

/-! ## Returning -/

namespace ToolState

variable {host : Host} {options : Options} {state : ToolState} {entry : FileEntry}
  {inFile : InFile}

/-- How many steps an input can take at most, apart from writes of no byte. -/
def weight (host : Host) (entry : FileEntry) : Nat :=
  2 ^ 32 + 3 * ((host.openInput entry.filename).map fun source => source.bytes.length).getD 0 + 4

/-- How many steps are left at most, apart from writes of no byte. -/
def rank (host : Host) (state : ToolState) : Nat :=
  (state.rest.map (weight host)).sum +
    match state.control with
    | .going => 1
    | .filling _ inFile _ numBytes => numBytes + 3 * (inFile.bytes.length - inFile.position) + 3
    | .reading inFile => 3 * (inFile.bytes.length - inFile.position) + 2
    | .writing inFile left => 3 * (inFile.bytes.length - inFile.position) + left.length + 2
    | .ended => 0

theorem rank_finish (state : ToolState) :
    (state.finish host options).rank host = (state.rest.map (weight host)).sum :=
  Nat.add_zero _

theorem rank_settle_le (state : ToolState) (exitCode : ErrorCode) :
    (state.settle host options exitCode).rank host ≤ (state.rest.map (weight host)).sum + 1 := by
  rw [settle]
  by_cases noError : exitCode = .none
  · rw [if_pos noError]
    exact Nat.le_refl _
  · rw [if_neg noError, rank_finish]
    exact Nat.le_succ _

theorem rank_startCopy_le (state : ToolState) (entry : FileEntry) (inFile : InFile) :
    (state.startCopy host options entry inFile).rank host ≤
      (state.rest.map (weight host)).sum + (3 * (inFile.bytes.length - inFile.position) + 2) := by
  have settled : ∀ exitCode, (state.settle host options exitCode).rank host ≤
      (state.rest.map (weight host)).sum + (3 * (inFile.bytes.length - inFile.position) + 2) :=
    fun exitCode => (rank_settle_le state exitCode).trans (by omega)
  rw [startCopy]
  by_cases empty : entry.size ≠ 0
  · rw [if_pos empty]
    by_cases allocated : host.allocates options.blockSize.toNat = true
    · rw [if_pos allocated]
      exact Nat.le_refl _
    · rw [if_neg allocated]
      exact settled .outOfResources
  · rw [if_neg empty]
    exact settled .none

theorem rank_startFill_le (state : ToolState) (entry : FileEntry) (inFile : InFile)
    (numBytes : Nat) :
    (state.startFill host options entry inFile numBytes).rank host ≤
      (state.rest.map (weight host)).sum +
        (numBytes + 3 * (inFile.bytes.length - inFile.position) + 3) := by
  rw [startFill]
  by_cases nothing : numBytes = 0
  · rw [if_pos nothing]
    exact (rank_startCopy_le state entry inFile).trans (by omega)
  rw [if_neg nothing]
  by_cases allocated : host.allocates (options.allocSize numBytes) = true
  · rw [if_pos allocated]
    exact Nat.le_refl _
  · rw [if_neg allocated]
    exact (rank_settle_le state .outOfResources).trans (by omega)

theorem rank_startInput_lt {state : ToolState} (isGoing : state.control = .going)
    (entry : FileEntry) :
    (startInput host options state entry).rank host <
      (state.rest.map (weight host)).sum + weight host entry + 1 := by
  rw [startInput, weight]
  cases opened : host.openInput entry.filename with
  | none =>
      simp only [rank_finish]
      omega
  | some source =>
      have isOpen : source.open.bytes.length - source.open.position = source.bytes.length := rfl
      simp only [updateFileEntrySize_open, Option.map_some, Option.getD_some]
      by_cases inside : entry.offset ≤ state.progress.outFilesize
      · rw [if_pos inside]
        by_cases first : state.isFirst = true ∨ state.progress.lastWriteOffset ≤ entry.offset
        · rw [if_pos first]
          refine (rank_startCopy_le _ _ _).trans_lt ?_
          rw [isOpen]
          simp only
          omega
        · rw [if_neg first]
          by_cases skipped : ({ entry with
              size := if source.seekable then (source.bytes.length : Int) else -1 } :
                FileEntry).size = 0 ∨ (({ entry with
              size := if source.seekable then (source.bytes.length : Int) else -1 } :
                FileEntry).size < 0 ∧ source.open.fpeek = none)
          · rw [if_pos skipped, rank]
            simp only [isGoing]
            omega
          · rw [if_neg skipped]
            refine (rank_settle_le _ _).trans_lt ?_
            simp only
            omega
      · rw [if_neg inside]
        refine (rank_startFill_le _ _ _ _).trans_lt ?_
        have small := (entry.offset - state.progress.outFilesize).toNat_lt
        rw [isOpen]
        simp only
        omega

theorem rank_go_lt {state : ToolState} (isGoing : state.control = .going) :
    (state.go host options).rank host < state.rank host := by
  have now : state.rank host = (state.rest.map (weight host)).sum + 1 := by
    rw [rank, isGoing]
  rw [now, go]
  cases listed : state.rest with
  | nil =>
      simp only [rank_finish, listed]
      exact Nat.lt_succ_self _
  | cons entry rest =>
      have lower : (startInput host options { state with rest := rest } entry).rank host <
          (rest.map (weight host)).sum + weight host entry + 1 := by
        have stillGoing : ({ state with rest := rest } : ToolState).control = .going := isGoing
        exact rank_startInput_lt stillGoing entry
      rw [List.map_cons, List.sum_cons, Nat.add_comm (weight host entry)]
      exact lower

section
variable {blockSize count : Nat}
  (possible : count ≤ min blockSize (inFile.bytes.length - inFile.position))
include possible

theorem length_fread : (inFile.fread count).1.length = count := by
  simp only [InFile.fread, slice, List.length_take, List.length_drop]
  omega

theorem position_fread : (inFile.fread count).2.position = inFile.position + count := by
  change inFile.position + (inFile.fread count).1.length = _
  rw [length_fread possible]

end

/-- Every step before the end lowers the rank, except a write of no byte. -/
theorem rank_of_calls {target : ToolState} {label : Label} (unended : state.control ≠ .ended)
    (calls : Calls host options state label target) :
    target.rank host < state.rank host ∨
      target.rank host = state.rank host ∧ label = .fwrite 0 := by
  cases calls with
  | go isGoing => exact .inl (rank_go_lt isGoing)
  | @fill entry inFile allocSize numBytes count isFilling possible =>
      have now : state.rank host = (state.rest.map (weight host)).sum +
          (numBytes + 3 * (inFile.bytes.length - inFile.position) + 3) := by
        rw [rank, isFilling]
      rw [filled, now]
      by_cases full : numBytes - count = 0
      · rw [if_pos full]
        refine .inl ((rank_startCopy_le _ _ _).trans_lt ?_)
        rw [wrote]
        simp only
        omega
      · rw [if_neg full, rank, wrote]
        simp only [Label.fwrite.injEq]
        omega
  | @read inFile count isReading possible =>
      have now : state.rank host = (state.rest.map (weight host)).sum +
          (3 * (inFile.bytes.length - inFile.position) + 2) := by
        rw [rank, isReading]
      rw [haveRead, now]
      by_cases nothing : count = 0
      · rw [if_pos nothing]
        refine .inl ((rank_settle_le _ _).trans_lt ?_)
        omega
      · have length := length_fread possible
        have position := position_fread possible
        have bytes : (inFile.fread count).2.bytes = inFile.bytes := rfl
        rw [if_neg nothing, rank]
        simp only [length, position, bytes]
        omega
  | @write inFile left count isWriting possible =>
      have now : state.rank host = (state.rest.map (weight host)).sum +
          (3 * (inFile.bytes.length - inFile.position) + left.length + 2) := by
        rw [rank, isWriting]
      rw [copied, now]
      by_cases all : left.drop count = []
      · have whole := List.drop_eq_nil_iff.mp all
        rw [if_pos all, rank, wrote]
        simp only [Label.fwrite.injEq]
        omega
      · rw [if_neg all, rank, wrote]
        simp only [List.length_drop, Label.fwrite.injEq]
        omega
  | rest isEnded => exact absurd isEnded unended

end ToolState

/-! ## Written and to be written -/

/-- The transfer is from the file that is open. -/
def Transfer.From (host : Host) (inFile : InFile) (transfer : Transfer) : Prop :=
  ∃ source, host.openInput transfer.input.1 = some source ∧ inFile.bytes = source.bytes

/-- What has been written of the present input. -/
def Control.Records (host : Host) (control : Control) (transfer : Transfer) : Prop :=
  match control with
  | .filling entry inFile _ numBytes =>
      transfer.From host inFile ∧ transfer.padded + numBytes = transfer.asked ∧
        transfer.bytes = [] ∧ inFile.position = 0 ∧
        (entry.size = 0 → inFile.bytes = [])
  | .reading inFile =>
      transfer.From host inFile ∧ transfer.padded = transfer.asked ∧
        transfer.bytes = inFile.bytes.take inFile.position
  | .writing inFile left =>
      transfer.From host inFile ∧ transfer.padded = transfer.asked ∧
        transfer.bytes ++ left = inFile.bytes.take inFile.position
  | _ => True

/-- What every step keeps, as long as every input that the tool is done with meets a
condition. -/
structure ToolInv (host : Host) (sorted : List FileEntry) (done : Transfer → Prop)
    (state : ToolState) (transfers : List Transfer) : Prop where
  listed : state.progress.exitCode = .none →
    transfers.reverse.map Transfer.input ++ state.rest.map FileEntry.input =
      sorted.map FileEntry.input
  noError : state.control ≠ .ended → state.progress.exitCode = .none
  all : state.control = .ended → state.progress.exitCode = .none → state.rest = []
  present : match state.control with
    | .going => ∀ transfer ∈ transfers, done transfer
    | .ended => state.progress.exitCode = .none → ∀ transfer ∈ transfers, done transfer
    | control => ∃ transfer earlier, transfers = transfer :: earlier ∧
        control.Records host transfer ∧ ∀ other ∈ earlier, done other

namespace ToolInv

variable {host : Host} {options : Options} {sorted : List FileEntry} {done : Transfer → Prop}
  {state : ToolState} {transfers : List Transfer}

theorem of_error (isEnded : state.control = .ended) (error : state.progress.exitCode ≠ .none) :
    ToolInv host sorted done state transfers := by
  refine ⟨fun noError => absurd noError error, fun unended => absurd isEnded unended,
    fun _ noError => absurd noError error, ?_⟩
  rw [isEnded]
  exact fun noError => absurd noError error

/-- The loop ends with an error. -/
theorem finish_error (error : state.progress.exitCode ≠ .none) :
    ToolInv host sorted done (state.finish host options) transfers := by
  refine of_error rfl ?_
  rw [ToolState.finish]
  simp only
  rw [if_neg fun both => error both.2]
  exact error

theorem finish (nothingLeft : state.rest = [])
    (listed : transfers.reverse.map Transfer.input = sorted.map FileEntry.input)
    (allDone : ∀ transfer ∈ transfers, done transfer) :
    ToolInv host sorted done (state.finish host options) transfers := by
  refine ⟨fun _ => ?_, fun unended => absurd rfl unended, fun _ _ => nothingLeft,
    fun _ => allDone⟩
  change _ ++ state.rest.map FileEntry.input = _
  rw [nothingLeft, List.map_nil, List.append_nil]
  exact listed

theorem settle {exitCode : ErrorCode}
    (listed : transfers.reverse.map Transfer.input ++ state.rest.map FileEntry.input =
      sorted.map FileEntry.input)
    (allDone : exitCode = .none → ∀ transfer ∈ transfers, done transfer) :
    ToolInv host sorted done (state.settle host options exitCode) transfers := by
  rw [ToolState.settle]
  by_cases noError : exitCode = .none
  · rw [if_pos noError]
    refine ⟨fun _ => listed, fun _ => noError, fun isEnded => ?_, allDone noError⟩
    cases isEnded
  · rw [if_neg noError]
    exact finish_error noError

section
variable {transfer : Transfer} {earlier : List Transfer} {entry : FileEntry} {inFile : InFile}

/-- `copy_data` is called when the padding has been written. -/
theorem startCopy (complete : ∀ transfer : Transfer, transfer.Complete host → done transfer)
    (noError : state.progress.exitCode = .none)
    (listed : (transfer :: earlier).reverse.map Transfer.input ++
      state.rest.map FileEntry.input = sorted.map FileEntry.input)
    (isFrom : transfer.From host inFile) (padded : transfer.padded = transfer.asked)
    (nothing : transfer.bytes = []) (atBegin : inFile.position = 0)
    (empty : entry.size = 0 → inFile.bytes = [])
    (earlierDone : ∀ other ∈ earlier, done other) :
    ToolInv host sorted done (state.startCopy host options entry inFile)
      (transfer :: earlier) := by
  rw [ToolState.startCopy]
  by_cases something : entry.size ≠ 0
  · rw [if_pos something]
    by_cases allocated : host.allocates options.blockSize.toNat = true
    · rw [if_pos allocated]
      refine ⟨fun _ => listed, fun _ => noError, fun isEnded => ?_, transfer, earlier, rfl,
        ⟨isFrom, padded, ?_⟩, earlierDone⟩
      · cases isEnded
      · rw [nothing, atBegin, List.take_zero]
    · rw [if_neg allocated]
      exact settle listed ErrorCode.noConfusion
  · rw [if_neg something]
    refine settle listed fun _ => List.forall_mem_cons.mpr ⟨complete transfer ?_, earlierDone⟩
    rcases isFrom with ⟨source, opened, same⟩
    refine ⟨padded, source, opened, ?_⟩
    rw [nothing, ← same, empty (not_not.mp something)]

theorem startFill (complete : ∀ transfer : Transfer, transfer.Complete host → done transfer)
    (noError : state.progress.exitCode = .none)
    (listed : (transfer :: earlier).reverse.map Transfer.input ++
      state.rest.map FileEntry.input = sorted.map FileEntry.input)
    (isFrom : transfer.From host inFile) {numBytes : Nat}
    (padding : transfer.padded + numBytes = transfer.asked)
    (nothing : transfer.bytes = []) (atBegin : inFile.position = 0)
    (empty : entry.size = 0 → inFile.bytes = [])
    (earlierDone : ∀ other ∈ earlier, done other) :
    ToolInv host sorted done (state.startFill host options entry inFile numBytes)
      (transfer :: earlier) := by
  rw [ToolState.startFill]
  by_cases isZero : numBytes = 0
  · rw [if_pos isZero]
    rw [isZero, Nat.add_zero] at padding
    exact startCopy complete noError listed isFrom padding nothing atBegin empty earlierDone
  rw [if_neg isZero]
  by_cases allocated : host.allocates (options.allocSize numBytes) = true
  · rw [if_pos allocated]
    refine ⟨fun _ => listed, fun _ => noError, fun isEnded => ?_, transfer, earlier, rfl,
      ⟨isFrom, padding, nothing, atBegin, empty⟩, earlierDone⟩
    cases isEnded
  · rw [if_neg allocated]
    exact settle listed ErrorCode.noConfusion

end

/-- A round begins when the inputs before have been done with. -/
theorem startInput (complete : ∀ transfer : Transfer, transfer.Complete host → done transfer)
    (isGoing : state.control = .going) (noError : state.progress.exitCode = .none)
    {entry : FileEntry}
    (listed : transfers.reverse.map Transfer.input ++
      (entry :: state.rest).map FileEntry.input = sorted.map FileEntry.input)
    (allDone : ∀ transfer ∈ transfers, done transfer) :
    ToolInv host sorted done (ToolState.startInput host options state entry)
      (⟨entry.input, entry.offset.toNat - state.progress.outFilesize.toNat, 0, []⟩ ::
        transfers) := by
  have listedToo : ∀ transfer : Transfer, transfer.input = entry.input →
      (transfer :: transfers).reverse.map Transfer.input ++ state.rest.map FileEntry.input =
        sorted.map FileEntry.input := by
    intro transfer same
    rw [List.reverse_cons, List.map_append, List.map_singleton, same, List.append_assoc]
    exact listed
  rw [ToolState.startInput]
  cases opened : host.openInput entry.filename with
  | none => exact finish_error ErrorCode.noConfusion
  | some source =>
      have empty : ({ entry with
          size := if source.seekable then (source.bytes.length : Int) else -1 } :
            FileEntry).size = 0 → source.open.bytes = [] := by
        cases source.seekable with
        | false => simp
        | true => simp [Source.open]
      simp only [updateFileEntrySize_open]
      by_cases inside : entry.offset ≤ state.progress.outFilesize
      · have noPadding : entry.offset.toNat - state.progress.outFilesize.toNat = 0 :=
          Nat.sub_eq_zero_of_le (UInt32.le_iff_toNat_le.mp inside)
        rw [if_pos inside, noPadding]
        by_cases first : state.isFirst = true ∨ state.progress.lastWriteOffset ≤ entry.offset
        · rw [if_pos first]
          exact startCopy complete noError (listedToo _ rfl) ⟨source, opened, rfl⟩ rfl rfl rfl empty
            allDone
        rw [if_neg first]
        by_cases skipped : ({ entry with
            size := if source.seekable then (source.bytes.length : Int) else -1 } :
              FileEntry).size = 0 ∨ (({ entry with
            size := if source.seekable then (source.bytes.length : Int) else -1 } :
              FileEntry).size < 0 ∧ source.open.fpeek = none)
        · rw [if_pos skipped]
          have nothing : source.bytes = [] := by
            rcases skipped with isZero | ⟨_, isEmpty⟩
            · exact empty isZero
            · exact List.eq_nil_of_length_eq_zero
                (Nat.le_zero.mp (List.getElem?_eq_none_iff.mp isEmpty))
          refine ⟨fun _ => listedToo _ rfl, fun _ => noError, fun isEnded => ?_, ?_⟩
          · rw [isGoing] at isEnded
            cases isEnded
          · simp only [isGoing]
            refine List.forall_mem_cons.mpr ⟨complete _ ⟨rfl, source, opened, ?_⟩, allDone⟩
            exact nothing.symm
        · rw [if_neg skipped]
          exact settle (listedToo _ rfl) ErrorCode.noConfusion
      · rw [if_neg inside]
        have outside : state.progress.outFilesize ≤ entry.offset := by
          rw [UInt32.le_iff_toNat_le] at inside ⊢
          exact (Nat.le_of_not_le inside)
        have padding : 0 + (entry.offset - state.progress.outFilesize).toNat =
            entry.offset.toNat - state.progress.outFilesize.toNat := by
          rw [UInt32.toNat_sub_of_le _ _ outside, Nat.zero_add]
        exact @startFill host options sorted done { state with isFirst := false }
          ⟨entry.input, _, 0, []⟩ transfers _ source.open complete noError (listedToo _ rfl)
          ⟨source, opened, rfl⟩ _ padding rfl rfl empty allDone

/-- One step: an input for which a read without a byte came too early must not be asked
for more than it meets. -/
theorem step (complete : ∀ transfer : Transfer, transfer.Complete host → done transfer)
    (inv : ToolInv host sorted done state transfers) {label : Label} {target : ToolState}
    (early : (∀ inFile, state.control = .reading inFile → label = .fread 0 →
      inFile.bytes.length ≤ inFile.position) ∨ ∀ transfer, done transfer)
    (calls : Calls host options state label target) :
    ToolInv host sorted done target (watch state label target transfers) := by
  have listed := inv.listed
  have present := inv.present
  have noError := inv.noError
  cases calls with
  | go isGoing =>
      have none := noError (by rw [isGoing]; exact Control.noConfusion)
      simp only [isGoing] at present
      rw [ToolState.go]
      cases isRest : state.rest with
      | nil =>
          have seen : ∀ target, watch state .go target transfers = transfers := by
            intro target
            simp only [watch, isGoing, isRest]
          rw [isRest, List.map_nil, List.append_nil] at listed
          rw [seen]
          exact finish isRest (listed none) present
      | cons entry rest =>
          rw [isRest] at listed
          have seen : ∀ target, watch state .go target transfers =
              ⟨entry.input, entry.offset.toNat - state.progress.outFilesize.toNat, 0, []⟩ ::
                transfers := by
            intro target
            simp only [watch, isGoing, isRest]
          have stillGoing : ({ state with rest := rest } : ToolState).control = .going := isGoing
          rw [seen]
          exact startInput complete stillGoing none (listed none) present
  | @fill entry inFile allocSize numBytes count isFilling possible =>
      have none := noError (by rw [isFilling]; exact Control.noConfusion)
      simp only [isFilling] at present
      rcases present with ⟨transfer, earlier, rfl, records, earlierDone⟩
      rcases records with ⟨isFrom, padding, nothing, atBegin, empty⟩
      have seen : ∀ target, watch state (.fwrite count) target (transfer :: earlier) =
          { transfer with padded := transfer.padded + count } :: earlier := by
        intro target
        simp only [watch, isFilling, onPresent]
      have still := listed none
      rw [List.reverse_cons, List.map_append] at still
      rw [seen, ToolState.filled]
      by_cases full : numBytes - count = 0
      · have padded : transfer.padded + count = transfer.asked := by omega
        rw [if_pos full]
        refine startCopy complete none ?_ isFrom padded nothing atBegin empty earlierDone
        rw [List.reverse_cons, List.map_append]
        exact still
      · rw [if_neg full]
        refine ⟨fun _ => ?_, fun _ => none, fun isEnded => ?_, _, earlier, rfl,
          ⟨isFrom, ?_, nothing, atBegin, empty⟩, earlierDone⟩
        · rw [List.reverse_cons, List.map_append]
          exact still
        · cases isEnded
        · change transfer.padded + count + (numBytes - count) = transfer.asked
          omega
  | @read inFile count isReading possible =>
      have none := noError (by rw [isReading]; exact Control.noConfusion)
      simp only [isReading] at present
      rcases present with ⟨transfer, earlier, rfl, records, earlierDone⟩
      rcases records with ⟨isFrom, padded, soFar⟩
      have seen : ∀ target, watch state (.fread count) target (transfer :: earlier) =
          transfer :: earlier := by
        intro target
        simp only [watch, isReading]
      rw [seen, ToolState.haveRead]
      by_cases nothing : count = 0
      · rw [if_pos nothing]
        refine settle (listed none) fun _ => List.forall_mem_cons.mpr ⟨?_, earlierDone⟩
        rcases early with onlyAtEnd | anything
        · have atEnd := onlyAtEnd inFile isReading (by rw [nothing])
          rcases isFrom with ⟨source, opened, same⟩
          refine complete transfer ⟨padded, source, opened, ?_⟩
          rw [soFar, List.take_of_length_le atEnd, same]
        · exact anything transfer
      · rw [if_neg nothing]
        refine ⟨fun _ => listed none, fun _ => none, fun isEnded => ?_, transfer, earlier, rfl,
          ⟨isFrom, padded, ?_⟩, earlierDone⟩
        · cases isEnded
        · rw [soFar, ToolState.position_fread possible]
          simp only [InFile.fread, slice]
          rw [List.take_add]
  | @write inFile left count isWriting possible =>
      have none := noError (by rw [isWriting]; exact Control.noConfusion)
      simp only [isWriting] at present
      rcases present with ⟨transfer, earlier, rfl, records, earlierDone⟩
      rcases records with ⟨isFrom, padded, soFar⟩
      have seen : ∀ target, watch state (.fwrite count) target (transfer :: earlier) =
          { transfer with bytes := transfer.bytes ++ left.take count } :: earlier := by
        intro target
        simp only [watch, isWriting, onPresent]
      have still := listed none
      rw [List.reverse_cons, List.map_append] at still
      have parts : transfer.bytes ++ left.take count ++ left.drop count =
          inFile.bytes.take inFile.position := by
        rw [List.append_assoc, List.take_append_drop]
        exact soFar
      rw [seen, ToolState.copied]
      by_cases all : left.drop count = []
      · rw [all, List.append_nil] at parts
        rw [if_pos all]
        refine ⟨fun _ => ?_, fun _ => none, fun isEnded => ?_, _, earlier, rfl,
          ⟨isFrom, padded, parts⟩, earlierDone⟩
        · rw [List.reverse_cons, List.map_append]
          exact still
        · cases isEnded
      · rw [if_neg all]
        refine ⟨fun _ => ?_, fun _ => none, fun isEnded => ?_, _, earlier, rfl,
          ⟨isFrom, padded, parts⟩, earlierDone⟩
        · rw [List.reverse_cons, List.map_append]
          exact still
        · cases isEnded
  | rest isEnded =>
      simp only [watch, isEnded]
      exact inv

theorem initial (done : Transfer → Prop) (inputs : List (String × UInt32)) :
    ToolInv host (sortedEntries inputs) done (ToolState.initial host inputs) [] := by
  rw [ToolState.initial]
  cases host.outFile.or (if host.creates then some [] else none) with
  | none => exact of_error rfl ErrorCode.noConfusion
  | some bytes =>
      refine ⟨fun _ => rfl, fun _ => rfl, fun isEnded => ?_, fun transfer isMember => ?_⟩
      · cases isEnded
      · cases isMember

end ToolInv

namespace ToolRun

variable {host : Host} {options : Options} {inputs : List (String × UInt32)}
  {execution : ToolRun host options inputs}

theorem calls (execution : ToolRun host options inputs) (n : Nat) :
    Calls host options (execution.state n).1 (execution.label n) (execution.state (n + 1)).1 ∧
      watch (execution.state n).1 (execution.label n) (execution.state (n + 1)).1
        (execution.state n).2 = (execution.state (n + 1)).2 := by
  rcases observed_eq_some_iff.mp (execution.step n) with ⟨step, seen⟩
  exact ⟨calls_of_nextCall step, seen⟩

/-- The invariant along a run, for what the inputs meet that the tool is done with. -/
theorem inv {done : Transfer → Prop}
    (complete : ∀ transfer : Transfer, transfer.Complete host → done transfer)
    (early : (∀ n inFile, (execution.state n).1.control = .reading inFile →
      execution.label n = .fread 0 → inFile.bytes.length ≤ inFile.position) ∨
        ∀ transfer, done transfer) (n : Nat) :
    ToolInv host (sortedEntries inputs) done (execution.state n).1 (execution.state n).2 := by
  induction n with
  | zero =>
      rw [execution.first]
      exact .initial done inputs
  | succ n ih =>
      rcases execution.calls n with ⟨calls, seen⟩
      have earlyHere := early.imp_left fun onlyAtEnd => onlyAtEnd n
      have next := ih.step complete earlyHere calls
      rwa [seen] at next

/-- What has returned stays so. -/
theorem ended_of_le {n m : Nat} (later : n ≤ m)
    (isEnded : (execution.state n).1.control = .ended) :
    (execution.state m).1.control = .ended := by
  induction m, later using Nat.le_induction with
  | base => exact isEnded
  | succ m _ ih =>
      rw [(execution.calls m).1.eq_of_ended ih]
      exact ih

/-- The tool returns unless every call of `fwrite` from some one on writes nothing. -/
theorem ends (fair : execution.WeaklyFair (fun state => state.1.Writes) (· ≠ .fwrite 0)) :
    ∃ n, (execution.state n).1.control = .ended := by
  have moves : execution.WeaklyFair (fun state => state.1.control ≠ .ended)
      (· ≠ .fwrite 0) := by
    intro n _
    by_contra never
    have always : ∀ m, n ≤ m → execution.label m = .fwrite 0 := by
      intro m later
      by_contra other
      exact never ⟨m, later, other⟩
    have writes : ∀ m, n ≤ m → (execution.state m).1.Writes := by
      intro m later
      have calls := (execution.calls m).1
      rw [always m later] at calls
      exact calls.writes
    rcases fair n writes with ⟨m, later, other⟩
    exact other (always m later)
  have leads : execution.LeadsTo (fun state => state.1.control ≠ .ended)
      (fun state => state.1.control = .ended) := by
    refine .of_rank (fun state => state.1.rank host) moves fun n unended => ?_
    by_cases isEnded : (execution.state (n + 1)).1.control = .ended
    · exact .inr isEnded
    · left
      rcases ToolState.rank_of_calls unended (execution.calls n).1 with lower | ⟨same, nothing⟩
      · exact ⟨isEnded, .inl lower⟩
      · exact ⟨isEnded, .inr ⟨same, fun other => other nothing⟩⟩
  by_cases isEnded : (execution.state 0).1.control = .ended
  · exact ⟨0, isEnded⟩
  · rcases leads 0 isEnded with ⟨n, _, reached⟩
    exact ⟨n, reached⟩

/-- The tool returns, and without an error only when it has written everything, just when
`fwrite` does not write nothing for ever and `fread` reads nothing only at the end. -/
theorem writesAll_iff (execution : ToolRun host options inputs) :
    execution.WritesAll ↔ execution.Moves := by
  constructor
  · rintro ⟨⟨last, isEnded⟩, written⟩
    constructor
    · intro n always
      have atEnd := ended_of_le (Nat.le_max_right n last) isEnded
      have writes : (execution.state (max n last)).1.Writes :=
        always (max n last) (Nat.le_max_left n last)
      rw [ToolState.Writes, atEnd] at writes
      exact writes.elim
    · intro n inFile isReading isRead
      have present := (inv (fun _ _ => trivial) (.inr fun _ => trivial) n :
        ToolInv host (sortedEntries inputs) (fun _ => True) (execution.state n).1
          (execution.state n).2).present
      simp only [isReading] at present
      rcases present with ⟨transfer, earlier, all, ⟨isFrom, _, soFar⟩, _⟩
      rcases execution.calls n with ⟨calls, seen⟩
      rw [isRead] at calls seen
      have settled := calls.eq_settle
      have kept : (execution.state (n + 1)).2 = transfer :: earlier := by
        rw [← seen, ← all]
        simp only [watch, isReading]
      have goes : (execution.state (n + 1)).1.control = .going ∧
          (execution.state (n + 1)).1.progress.exitCode = .none := by
        rw [settled, ToolState.settle, if_pos rfl]
        exact ⟨rfl, rfl⟩
      have isMember : transfer ∈ (execution.state (n + 1)).2 := by
        rw [kept]
        exact List.mem_cons_self
      rcases (written (n + 1) goes.2).1 goes.1 transfer isMember with ⟨_, source, opened, whole⟩
      rcases isFrom with ⟨other, openedToo, same⟩
      obtain rfl : source = other := Option.some.inj (opened.symm.trans openedToo)
      rw [whole, ← same] at soFar
      have length := congrArg List.length soFar
      rw [List.length_take] at length
      omega
  · rintro ⟨fair, onlyAtEnd⟩
    refine ⟨ends fair, fun n noError => ?_⟩
    have invariant : ToolInv host (sortedEntries inputs) (Transfer.Complete host)
        (execution.state n).1 (execution.state n).2 :=
      inv (fun _ isComplete => isComplete) (.inl onlyAtEnd) n
    have present := invariant.present
    have listed := invariant.listed noError
    constructor
    · intro isGoing
      simp only [isGoing] at present
      exact present
    · intro isEnded
      rw [invariant.all isEnded noError, List.map_nil, List.append_nil] at listed
      simp only [isEnded] at present
      exact ⟨listed, present noError⟩

end ToolRun

/-! ## Runs that fail -/

/-- One file of one byte, for a new output file. -/
def oneByte : Host where
  stdin := ⟨[], false⟩
  file := fun _ => some ⟨[1], true⟩
  outFile := some []
  creates := true
  truncates := true
  allocates := fun _ => true

/-- A run that never writes anything again does not end. -/
theorem ToolRun.not_writesAll {host : Host} {options : Options}
    {inputs : List (String × UInt32)} (execution : ToolRun host options inputs) {first : Nat}
    (nothing : ∀ n, first ≤ n → execution.label n = .fwrite 0) : ¬ execution.WritesAll := by
  rintro ⟨⟨n, isEnded⟩, _⟩
  have still := ended_of_le (Nat.le_max_left n first) isEnded
  have calls := (execution.calls (max n first)).1
  rw [nothing _ (Nat.le_max_right n first)] at calls
  have writes := calls.writes
  rw [ToolState.Writes, still] at writes
  exact writes

/-- On a full disk the tool does not return. -/
theorem exists_fullDisk : ∃ execution : ToolRun oneByte truncating [("a", 0)],
    (∀ n, 2 ≤ n → execution.label n = .fwrite 0) ∧ ¬ execution.WritesAll := by
  have same : run (watched oneByte truncating) (ToolState.initial oneByte [("a", 0)], [])
      ([.go, .fread 1] ++ [.fwrite 0]) =
        run (watched oneByte truncating) (ToolState.initial oneByte [("a", 0)], [])
          [.go, .fread 1] := rfl
  have runs : (run (watched oneByte truncating) (ToolState.initial oneByte [("a", 0)], [])
      [.go, .fread 1]).isSome = true := rfl
  rcases Option.isSome_iff_exists.mp runs with ⟨last, executed⟩
  rw [executed] at same
  rcases (run_concat_eq_some_iff _ _ _ _ _).mp same with ⟨middle, reached, step⟩
  obtain rfl : last = middle := Option.some.inj (executed.symm.trans reached)
  have writesNothing : ∀ n, 2 ≤ n →
      (Execution.ofRun (.fwrite 0) executed step).label n = .fwrite 0 := by
    intro n past
    change [Label.go, Label.fread 1][n]?.getD _ = _
    rw [List.getElem?_eq_none past]
    rfl
  exact ⟨.ofRun (.fwrite 0) executed step, writesNothing, ToolRun.not_writesAll _ writesNothing⟩

/-- An input that cannot be read is left out without an error. -/
theorem exists_readError : ∃ execution : ToolRun oneByte truncating [("a", 0)],
    execution.label 1 = .fread 0 ∧ ¬ execution.WritesAll := by
  have same : run (watched oneByte truncating) (ToolState.initial oneByte [("a", 0)], [])
      ([.go, .fread 0, .go] ++ [.rest]) =
        run (watched oneByte truncating) (ToolState.initial oneByte [("a", 0)], [])
          [.go, .fread 0, .go] := rfl
  have returned : (run (watched oneByte truncating) (ToolState.initial oneByte [("a", 0)], [])
      [.go, .fread 0, .go]).map
        (fun state => (state.1.control, state.1.progress.exitCode, state.2)) =
          some (.ended, .none, [⟨("a", 0), 0, 0, []⟩]) := rfl
  rcases Option.map_eq_some_iff.mp returned with ⟨last, executed, holds⟩
  rw [Prod.mk.injEq, Prod.mk.injEq] at holds
  rcases holds with ⟨isEnded, noError, transfers⟩
  rw [executed] at same
  rcases (run_concat_eq_some_iff _ _ _ _ _).mp same with ⟨middle, reached, step⟩
  obtain rfl : last = middle := Option.some.inj (executed.symm.trans reached)
  refine ⟨.ofRun .rest executed step, rfl, ?_⟩
  rintro ⟨_, written⟩
  have atEnd := Execution.ofRun_state executed step (Nat.le_refl 3)
  have atThree := written 3
  rw [atEnd, transfers] at atThree
  rcases ((atThree noError).2 isEnded).2 _ List.mem_cons_self with ⟨_, source, opened, whole⟩
  obtain rfl : (⟨[1], true⟩ : Source) = source := Option.some.inj opened
  cases whole

/-- The two failures of the host that the tool does not notice. -/
theorem fullDisk_not_writesAll :
    (∃ execution : ToolRun oneByte truncating [("a", 0)],
      (∀ n, 2 ≤ n → execution.label n = .fwrite 0) ∧ ¬ execution.WritesAll) ∧
    ∃ execution : ToolRun oneByte truncating [("a", 0)],
      execution.label 1 = .fread 0 ∧ ¬ execution.WritesAll :=
  ⟨exists_fullDisk, exists_readError⟩

end FwkRtos.DatapartitionMkimage

import FwkRtos.SampleStream.Protocol
import FwkRtos.Transition.Labelled

/-!
# The microphone array driver

The thread that runs the microphones hands every frame of samples to an interrupt
handler, which copies it to the receive buffer; a task takes samples out of the
buffer, a number of its own choice at a time.  A step is the arrival of a frame,
one test of what the other side may change, one piece of a copy, or one access to
the semaphore.
-/

namespace FwkRtos.MicArray

open FwkRtos.Osal FwkRtos.SampleStream FwkRtos.Transition

/-- `rtos_mic_array_format_t`. -/
inductive Format
  | channelSample
  | sampleChannel
  deriving DecidableEq

/-- What the driver is built with and started with; `rtos_mic_array_start` asserts
that the buffer is not smaller than a frame. -/
structure Config where
  samplesPerFrame : UInt32
  micCount : UInt32
  format : Format
  bufferSize : UInt32
  frameFits : samplesPerFrame ≤ bufferSize
  /-- What is in the memory of the buffer when it is allocated. -/
  memory : Nat → Sample

/-- The words of a frame. -/
def Config.frameWords (config : Config) : UInt32 :=
  config.samplesPerFrame * config.micCount

/-- `buf_size`. -/
def Config.bufSize (config : Config) : UInt32 :=
  config.bufferSize * config.micCount

/-- Where the interrupt handler is: outside, in its copy loop with what is left and
what is stored of a block, at the end of the loop, or with the required count. -/
inductive IsrPoint
  | idle
  | copy (block : List Sample) (left : UInt32) (stored : List Sample)
  | examine
  | compare
  | answer
  | put
  deriving DecidableEq

/-- `rtos_mic_array_t`, with its interrupt handler. -/
structure Driver where
  recv : Stream
  isr : IsrPoint
  /-- Ghost: the frames that the handler has accepted. -/
  accepted : List (List Sample)
  deriving DecidableEq

/-- The driver after `rtos_mic_array_start`. -/
def start (config : Config) : Driver where
  recv := .create config.memory config.bufSize
  isr := .idle
  accepted := []

/-- The arguments of `mic_array_local_rx`. -/
def micArrayLocalRx (config : Config) (frameCount : UInt32) (timeout : Timeout) : Request where
  frameCount := frameCount
  words := frameCount * config.micCount
  samples := []
  timeout := timeout

/-- `rtos_mic_array_isr` is called and receives a block; it has looked at the
counters before. -/
def Driver.enter (config : Config) (driver : Driver) (block : List Sample) : Driver :=
  if config.frameWords ≤ driver.recv.buffer.wordsFree then
    { driver with
      isr := .copy block config.frameWords []
      accepted := driver.accepted ++ [block] }
  else { driver with isr := .examine }

/-- A piece of the block is copied. -/
def Driver.store (driver : Driver) (block : List Sample) (left : UInt32) (stored : List Sample) :
    Driver :=
  let buffer := driver.recv.buffer
  let wordsToCopy := chunk left buffer.writeIndex buffer.bufSize
  let piece := (block.drop stored.length).take wordsToCopy.toNat
  { driver with
    recv := { driver.recv with buffer := buffer.store piece wordsToCopy }
    isr := .copy block (left - wordsToCopy) (stored ++ piece) }

/-- `rtos_mic_array_isr` goes on. -/
def rtosMicArrayIsr (config : Config) (driver : Driver) : IsrPoint → Option Driver
  | .idle => none
  | .copy block left stored =>
      if left = 0 then
        some { driver with
          recv := driver.recv.publish .writer stored config.frameWords
          isr := .examine }
      else some (driver.store block left stored)
  | .examine =>
      some { driver with isr := if 0 < driver.recv.buffer.required then .compare else .idle }
  | .compare =>
      some { driver with
        isr := if driver.recv.buffer.required ≤ driver.recv.buffer.wordsAvailable then .answer
          else .idle }
  | .answer =>
      some { driver with
        recv := { driver.recv with buffer := driver.recv.buffer.require 0 }
        isr := .put }
  | .put => some { driver with recv := driver.recv.wakeUp, isr := .idle }

/-- Who takes a step: a frame arrives, the handler goes on, or the task starts its
call, goes on with it or times out. -/
inductive Label
  | frame (block : List Sample)
  | isr
  | rx (frameCount : UInt32) (timeout : Timeout)
  | task
  | timeOut
  deriving DecidableEq

/-- The interleaving of the interrupt handler and the task.  A block has the size of
a frame, and in the format `RTOS_MIC_ARRAY_CHANNEL_SAMPLE` a call asserts that it is
for one frame. -/
def next (config : Config) : LStep Driver Label
  | driver, .frame block =>
      if driver.isr = .idle ∧ block.length = config.frameWords.toNat then
        some (driver.enter config block)
      else none
  | driver, .isr => rtosMicArrayIsr config driver driver.isr
  | driver, .rx frameCount timeout =>
      if config.format = .channelSample ∧ frameCount ≠ config.samplesPerFrame then none
      else (driver.recv.begin (micArrayLocalRx config frameCount timeout)).map fun recv =>
        { driver with recv := recv }
  | driver, .task => (driver.recv.run .reader).map fun recv => { driver with recv := recv }
  | driver, .timeOut => driver.recv.timeOut.map fun recv => { driver with recv := recv }

/-! ## The steps, listed -/

/-- The steps of the driver, each with its condition and its effect. -/
inductive Move (config : Config) (driver : Driver) : Label → Driver → Prop
  | accept {block : List Sample} (point : driver.isr = .idle)
      (size : block.length = config.frameWords.toNat)
      (room : config.frameWords ≤ driver.recv.buffer.wordsFree) :
      Move config driver (.frame block) { driver with
        isr := .copy block config.frameWords []
        accepted := driver.accepted ++ [block] }
  | drop {block : List Sample} (point : driver.isr = .idle)
      (size : block.length = config.frameWords.toNat)
      (full : driver.recv.buffer.wordsFree < config.frameWords) :
      Move config driver (.frame block) { driver with isr := .examine }
  | store {block stored : List Sample} {left : UInt32}
      (point : driver.isr = .copy block left stored) (more : left ≠ 0) :
      Move config driver .isr (driver.store block left stored)
  | addWritten {block stored : List Sample} (point : driver.isr = .copy block 0 stored) :
      Move config driver .isr { driver with
        recv := driver.recv.publish .writer stored config.frameWords
        isr := .examine }
  | required (point : driver.isr = .examine) (required : driver.recv.buffer.required ≠ 0) :
      Move config driver .isr { driver with isr := .compare }
  | nothing (point : driver.isr = .examine) (nothing : driver.recv.buffer.required = 0) :
      Move config driver .isr { driver with isr := .idle }
  | suffices_ (point : driver.isr = .compare)
      (suffices_ : driver.recv.buffer.required ≤ driver.recv.buffer.wordsAvailable) :
      Move config driver .isr { driver with isr := .answer }
  | tooFew (point : driver.isr = .compare)
      (tooFew : driver.recv.buffer.wordsAvailable < driver.recv.buffer.required) :
      Move config driver .isr { driver with isr := .idle }
  | answer (point : driver.isr = .answer) :
      Move config driver .isr { driver with
        recv := { driver.recv with buffer := driver.recv.buffer.require 0 }
        isr := .put }
  | put (point : driver.isr = .put) :
      Move config driver .isr { driver with recv := driver.recv.wakeUp, isr := .idle }
  | rx {frameCount : UInt32} {timeout : Timeout} {recv : Stream}
      (step : driver.recv.begin (micArrayLocalRx config frameCount timeout) = some recv) :
      Move config driver (.rx frameCount timeout) { driver with recv := recv }
  | task {recv : Stream} (runs : driver.recv.Runs .reader recv) :
      Move config driver .task { driver with recv := recv }
  | timeOut {recv : Stream} (step : driver.recv.timeOut = some recv) :
      Move config driver .timeOut { driver with recv := recv }

/-- Every step is listed. -/
theorem move_of_next {config : Config} {source target : Driver} {label : Label}
    (step : next config source label = some target) : Move config source label target := by
  cases label with
  | frame block =>
      simp only [next, Driver.enter, Option.ite_none_right_eq_some, Option.some.injEq] at step
      obtain ⟨⟨point, size⟩, rfl⟩ := step
      split
      · next room => exact .accept point size room
      · next full => exact .drop point size (UInt32.not_le.mp full)
  | isr =>
      cases point : source.isr with
      | idle =>
          rw [next, point] at step
          cases step
      | copy block left stored =>
          simp only [next, point, rtosMicArrayIsr] at step
          split at step
          · next done =>
              cases step
              subst done
              exact .addWritten point
          · next more =>
              cases step
              exact .store point more
      | examine =>
          rw [next, point] at step
          cases step
          split
          · next required => exact .required point (UInt32.pos_iff_ne_zero.mp required)
          · next nothing =>
              exact .nothing point (not_not.mp (mt UInt32.pos_iff_ne_zero.mpr nothing))
      | compare =>
          rw [next, point] at step
          cases step
          split
          · next suffices_ => exact .suffices_ point suffices_
          · next tooFew => exact .tooFew point (UInt32.not_le.mp tooFew)
      | answer =>
          rw [next, point] at step
          cases step
          exact .answer point
      | put =>
          rw [next, point] at step
          cases step
          exact .put point
  | rx frameCount timeout =>
      simp only [next, Option.ite_none_left_eq_some] at step
      obtain ⟨recv, begins, rfl⟩ := Option.map_eq_some_iff.mp step.2
      exact .rx begins
  | task =>
      obtain ⟨recv, runs, rfl⟩ := Option.map_eq_some_iff.mp step
      exact .task (Stream.runs_of_run runs)
  | timeOut =>
      obtain ⟨recv, late, rfl⟩ := Option.map_eq_some_iff.mp step
      exact .timeOut late

end FwkRtos.MicArray

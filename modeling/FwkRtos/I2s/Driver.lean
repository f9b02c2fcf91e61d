import FwkRtos.SampleStream.Protocol
import FwkRtos.Transition.Labelled

/-!
# The I2S driver

The thread of the I/O library calls the driver for every frame: with the samples
received and for the samples to send.  Each direction has a buffer with a task at
its other end; a wake-up for a task is first noted in `isr_cmd`, then sent through
a channel to an interrupt handler, which gives the semaphore.  A step is one call
of the library or of the application, one test of what others may change, one
copy, or one access to a channel or a semaphore.
-/

namespace FwkRtos.I2s

open FwkRtos.Osal FwkRtos.SampleStream FwkRtos.Transition

universe u

/-- The two directions of the interface. -/
inductive Direction
  | recv
  | send
  deriving DecidableEq

/-- The end at which the task of a direction is. -/
def Direction.side : Direction → Side
  | .recv => .reader
  | .send => .writer

/-- `ISR_RESUME_SEND_BM` and `ISR_RESUME_RECV_BM`. -/
def Direction.resumeBm : Direction → UInt8
  | .send => 0x01
  | .recv => 0x02

/-- What an application provides and asks for.  A send filter is given its data,
the size of the frame and the samples available, and gives the frame and the
number of samples it has read; a receive filter is given its data, the frame and
the sample spaces free, and gives the samples it has written with their number.
Both may change the data. -/
structure Config (S : Type u) where
  numIn : UInt32
  numOut : UInt32
  recvBufferSize : UInt32
  sendBufferSize : UInt32
  sendFilterCb : Option (S → UInt32 → List Sample → S × List Sample × UInt32)
  receiveFilterCb : Option (S → List Sample → UInt32 → S × List Sample × UInt32)
  appData : S
  /-- What is in the memory of a buffer when it is allocated. -/
  memory : Direction → Nat → Sample

/-- The words of a frame. -/
def Config.frameWords {S : Type u} (config : Config S) : Direction → UInt32
  | .recv => 2 * config.numIn
  | .send => 2 * config.numOut

/-- `buf_size` of a buffer. -/
def Config.bufSize {S : Type u} (config : Config S) : Direction → UInt32
  | .recv => config.recvBufferSize * (2 * config.numIn)
  | .send => config.sendBufferSize * (2 * config.numOut)

/-- Where the thread of the I/O library is: outside the driver, in `i2s_receive`
from its copy to its addition, in `i2s_send`, or at the end of either, which is
the same for both. -/
inductive HilPoint
  | idle
  | store (frame : List Sample)
  | receiveFilter (frame : List Sample) (wordsFree : UInt32)
  | addWritten (stored : List Sample)
  | fetch
  | sendFilter (wordsAvailable : UInt32)
  | addRead (sent : List Sample) (count : UInt32)
  | examine (direction : Direction)
  | compare (direction : Direction)
  | answer (direction : Direction)
  | signal (direction : Direction)
  deriving DecidableEq

/-- Where the interrupt handler is. -/
inductive IsrPoint
  | idle
  | resumeSend (action : UInt8)
  | resumeRecv (action : UInt8)
  deriving DecidableEq

/-- `rtos_i2s_t`, with its threads and its interrupt handler. -/
structure Driver (S : Type u) where
  recv : Stream
  send : Stream
  sendFilterAppData : S
  isrCmd : UInt8
  channel : List UInt8
  hil : HilPoint
  isr : IsrPoint
  /-- The frame that the last `i2s_send` has left to the library. -/
  i2sSampleBuf : List Sample
  /-- Ghost: the frames accepted by `i2s_receive`, or what its filter wrote. -/
  accepted : List (List Sample)

namespace Driver

variable {S : Type u}

/-- The stream of a direction. -/
def stream (driver : Driver S) : Direction → Stream
  | .recv => driver.recv
  | .send => driver.send

def setStream (driver : Driver S) (direction : Direction) (stream : Stream) : Driver S :=
  match direction with
  | .recv => { driver with recv := stream }
  | .send => { driver with send := stream }

end Driver

variable {S : Type u}

/-- The driver after `rtos_i2s_start`. -/
def start (config : Config S) : Driver S where
  recv := .create (config.memory .recv) (config.bufSize .recv)
  send := .create (config.memory .send) (config.bufSize .send)
  sendFilterAppData := config.appData
  isrCmd := 0
  channel := []
  hil := .idle
  isr := .idle
  i2sSampleBuf := []
  accepted := []

/-! ## The thread of the I/O library -/

/-- `i2s_receive` is called with a frame. -/
def i2sReceive (config : Config S) (driver : Driver S) (frame : List Sample) : Driver S :=
  match config.receiveFilterCb with
  | none =>
      if config.frameWords .recv ≤ driver.recv.buffer.wordsFree then
        { driver with hil := .store frame, accepted := driver.accepted ++ [frame] }
      else { driver with hil := .examine .recv }
  | some _ => { driver with hil := .receiveFilter frame driver.recv.buffer.wordsFree }

/-- `i2s_receive` with the words now in the buffer, if there are any. -/
def Driver.received (config : Config S) (driver : Driver S) (stored : List Sample)
    (bufferWordsWritten : UInt32) : Driver S :=
  let buffer := driver.recv.buffer
  if 0 < bufferWordsWritten then
    { driver with
      recv := { driver.recv with buffer := buffer.store stored (config.frameWords .recv) }
      hil := .addWritten stored }
  else
    { driver with
      recv := { driver.recv with
        buffer := { buffer with
          buf := Ring.write buffer.buf buffer.writeIndex.toNat stored } }
      hil := .examine .recv }

/-- The receive filter is called, with the words free when `i2s_receive` looked. -/
def Driver.receiveFiltered (config : Config S) (driver : Driver S)
    (receiveFilterCb : S → List Sample → UInt32 → S × List Sample × UInt32)
    (frame : List Sample) (wordsFree : UInt32) : Driver S :=
  let buffer := driver.recv.buffer
  -- The filter cannot write past the end, and it is given the data of the send filter.
  let sampleSpacesFree := chunk wordsFree buffer.writeIndex buffer.bufSize
  let (appData, stored, bufferWordsWritten) :=
    receiveFilterCb driver.sendFilterAppData frame sampleSpacesFree
  Driver.received config
    { driver with
      sendFilterAppData := appData
      accepted := if 0 < bufferWordsWritten then driver.accepted ++ [stored]
        else driver.accepted }
    stored bufferWordsWritten

/-- `i2s_send` is called. -/
def i2sSend (config : Config S) (driver : Driver S) : Driver S :=
  match config.sendFilterCb with
  | none =>
      { driver with
        hil := if config.frameWords .send ≤ driver.send.buffer.wordsAvailable then .fetch
          else .examine .send }
  | some _ => { driver with hil := .sendFilter driver.send.buffer.wordsAvailable }

/-- `i2s_send` with the words taken out of the buffer, if there are any. -/
def Driver.sent (driver : Driver S) (bufferWordsRead : UInt32) : Driver S :=
  if 0 < bufferWordsRead then
    { driver with
      send := { driver.send with buffer := driver.send.buffer.skip bufferWordsRead }
      hil := .addRead (driver.send.buffer.fetch bufferWordsRead) bufferWordsRead }
  else { driver with hil := .examine .send }

/-- The frame is copied from the buffer. -/
def Driver.fetched (config : Config S) (driver : Driver S) : Driver S :=
  Driver.sent
    { driver with i2sSampleBuf := driver.send.buffer.fetch (config.frameWords .send) }
    (config.frameWords .send)

/-- The send filter is called, with the words available when `i2s_send` looked. -/
def Driver.sendFiltered (config : Config S) (driver : Driver S)
    (sendFilterCb : S → UInt32 → List Sample → S × List Sample × UInt32)
    (wordsAvailable : UInt32) : Driver S :=
  let buffer := driver.send.buffer
  let samplesAvailable := chunk wordsAvailable buffer.readIndex buffer.bufSize
  let (appData, frame, bufferWordsRead) :=
    sendFilterCb driver.sendFilterAppData (config.frameWords .send)
      (buffer.fetch samplesAvailable)
  Driver.sent { driver with sendFilterAppData := appData, i2sSampleBuf := frame }
    bufferWordsRead

/-- The required count is taken back and a wake-up is noted. -/
def Driver.answered (driver : Driver S) (direction : Direction) : Driver S :=
  let stream := driver.stream direction
  { driver.setStream direction { stream with buffer := stream.buffer.require 0 } with
    isrCmd := driver.isrCmd ||| direction.resumeBm
    hil := .signal direction }

/-- `i2s_receive` or `i2s_send` goes on. -/
def hilThread (config : Config S) (driver : Driver S) : HilPoint → Option (Driver S)
  | .idle => none
  | .store frame => some (driver.received config frame (config.frameWords .recv))
  | .receiveFilter frame wordsFree =>
      config.receiveFilterCb.map fun receiveFilterCb =>
        driver.receiveFiltered config receiveFilterCb frame wordsFree
  | .addWritten stored =>
      some { driver with
        recv := driver.recv.publish .writer stored (config.frameWords .recv)
        hil := .examine .recv }
  | .fetch => some (driver.fetched config)
  | .sendFilter wordsAvailable =>
      config.sendFilterCb.map fun sendFilterCb =>
        driver.sendFiltered config sendFilterCb wordsAvailable
  | .addRead sent bufferWordsRead =>
      some { driver with
        send := driver.send.publish .reader sent bufferWordsRead
        hil := .examine .send }
  | .examine direction =>
      some { driver with
        hil := if 0 < (driver.stream direction).buffer.required then .compare direction
          else .signal direction }
  | .compare direction =>
      let buffer := (driver.stream direction).buffer
      some { driver with
        hil := if buffer.required ≤ direction.side.room buffer then .answer direction
          else .signal direction }
  | .answer direction => some (driver.answered direction)
  | .signal direction =>
      -- `i2s_receive` leaves the signal to `i2s_send` if there is any output.
      if driver.isrCmd ≠ 0 ∧ (direction = .recv → config.numOut = 0) then
        some { driver with
          channel := driver.channel ++ [driver.isrCmd]
          isrCmd := 0
          hil := .idle }
      else some { driver with hil := .idle }

/-! ## The interrupt handler -/

/-- Give the semaphore of a direction if the action says so. -/
def Driver.resume (driver : Driver S) (direction : Direction) (action : UInt8) : Driver S :=
  if action &&& direction.resumeBm ≠ 0 then
    driver.setStream direction (driver.stream direction).wakeUp
  else driver

/-- `rtos_i2s_isr`. -/
def rtosI2sIsr (driver : Driver S) : IsrPoint → Option (Driver S)
  | .idle =>
      match driver.channel with
      | [] => none
      | action :: channel => some { driver with channel := channel, isr := .resumeSend action }
  | .resumeSend action => some { driver.resume .send action with isr := .resumeRecv action }
  | .resumeRecv action => some { driver.resume .recv action with isr := .idle }

/-! ## The calls of the tasks -/

/-- The arguments of `i2s_local_rx`. -/
def i2sLocalRx (config : Config S) (frameCount : UInt32) (timeout : Timeout) : Request where
  frameCount := frameCount
  words := frameCount * (2 * config.numIn)
  samples := []
  timeout := timeout

/-- The arguments of `i2s_local_tx`. -/
def i2sLocalTx (config : Config S) (frameCount : UInt32) (samples : List Sample)
    (timeout : Timeout) : Request where
  frameCount := frameCount
  words := frameCount * (2 * config.numOut)
  samples := samples
  timeout := timeout

/-- Who takes a step: the library calls the driver or its call goes on, the
interrupt handler runs, a task starts its call or its call goes on, or the
application changes the data that it shares with its filters. -/
inductive Label (S : Type u)
  | receive (frame : List Sample)
  | sendFrame
  | hil
  | isr
  | rx (frameCount : UInt32) (timeout : Timeout)
  | tx (frameCount : UInt32) (samples : List Sample) (timeout : Timeout)
  | task (direction : Direction)
  | timeOut (direction : Direction)
  | share (appData : S)

/-- The interleaving of the threads, the interrupt handler and the tasks.  A
frame that is received has its size, and the caller of `i2s_local_tx` has as many
samples as it sends. -/
def next (config : Config S) : LStep (Driver S) (Label S)
  | driver, .receive frame =>
      if driver.hil = .idle ∧ frame.length = (config.frameWords .recv).toNat then
        some (i2sReceive config driver frame)
      else none
  | driver, .sendFrame =>
      if driver.hil = .idle then some (i2sSend config driver) else none
  | driver, .hil => hilThread config driver driver.hil
  | driver, .isr => rtosI2sIsr driver driver.isr
  | driver, .rx frameCount timeout =>
      (driver.recv.begin (i2sLocalRx config frameCount timeout)).map (driver.setStream .recv)
  | driver, .tx frameCount samples timeout =>
      if samples.length = (i2sLocalTx config frameCount samples timeout).words.toNat then
        (driver.send.begin (i2sLocalTx config frameCount samples timeout)).map
          (driver.setStream .send)
      else none
  | driver, .task direction =>
      ((driver.stream direction).run direction.side).map (driver.setStream direction)
  | driver, .timeOut direction =>
      (driver.stream direction).timeOut.map (driver.setStream direction)
  | driver, .share appData => some { driver with sendFilterAppData := appData }

/-! ## The steps, listed -/

/-- The steps of the driver, each with its condition and its effect. -/
inductive Move (config : Config S) (driver : Driver S) : Label S → Driver S → Prop
  | accept {frame : List Sample} (point : driver.hil = .idle)
      (size : frame.length = (config.frameWords .recv).toNat)
      (noFilter : config.receiveFilterCb = none)
      (room : config.frameWords .recv ≤ driver.recv.buffer.wordsFree) :
      Move config driver (.receive frame)
        { driver with hil := .store frame, accepted := driver.accepted ++ [frame] }
  | drop {frame : List Sample} (point : driver.hil = .idle)
      (size : frame.length = (config.frameWords .recv).toNat)
      (noFilter : config.receiveFilterCb = none)
      (full : driver.recv.buffer.wordsFree < config.frameWords .recv) :
      Move config driver (.receive frame) { driver with hil := .examine .recv }
  | offer {frame : List Sample} {cb : S → List Sample → UInt32 → S × List Sample × UInt32}
      (point : driver.hil = .idle) (size : frame.length = (config.frameWords .recv).toNat)
      (filter : config.receiveFilterCb = some cb) :
      Move config driver (.receive frame)
        { driver with hil := .receiveFilter frame driver.recv.buffer.wordsFree }
  | store {frame : List Sample} (point : driver.hil = .store frame) :
      Move config driver .hil (driver.received config frame (config.frameWords .recv))
  | receiveFilter {frame : List Sample} {wordsFree : UInt32}
      {cb : S → List Sample → UInt32 → S × List Sample × UInt32}
      (point : driver.hil = .receiveFilter frame wordsFree)
      (filter : config.receiveFilterCb = some cb) :
      Move config driver .hil (driver.receiveFiltered config cb frame wordsFree)
  | addWritten {stored : List Sample} (point : driver.hil = .addWritten stored) :
      Move config driver .hil { driver with
        recv := driver.recv.publish .writer stored (config.frameWords .recv)
        hil := .examine .recv }
  | enough (point : driver.hil = .idle) (noFilter : config.sendFilterCb = none)
      (available : config.frameWords .send ≤ driver.send.buffer.wordsAvailable) :
      Move config driver .sendFrame { driver with hil := .fetch }
  | underrun (point : driver.hil = .idle) (noFilter : config.sendFilterCb = none)
      (tooFew : driver.send.buffer.wordsAvailable < config.frameWords .send) :
      Move config driver .sendFrame { driver with hil := .examine .send }
  | offerSend {cb : S → UInt32 → List Sample → S × List Sample × UInt32}
      (point : driver.hil = .idle) (filter : config.sendFilterCb = some cb) :
      Move config driver .sendFrame
        { driver with hil := .sendFilter driver.send.buffer.wordsAvailable }
  | fetch (point : driver.hil = .fetch) : Move config driver .hil (driver.fetched config)
  | sendFilter {wordsAvailable : UInt32}
      {cb : S → UInt32 → List Sample → S × List Sample × UInt32}
      (point : driver.hil = .sendFilter wordsAvailable)
      (filter : config.sendFilterCb = some cb) :
      Move config driver .hil (driver.sendFiltered config cb wordsAvailable)
  | addRead {sent : List Sample} {count : UInt32} (point : driver.hil = .addRead sent count) :
      Move config driver .hil { driver with
        send := driver.send.publish .reader sent count
        hil := .examine .send }
  | required {direction : Direction} (point : driver.hil = .examine direction)
      (required : (driver.stream direction).buffer.required ≠ 0) :
      Move config driver .hil { driver with hil := .compare direction }
  | nothing {direction : Direction} (point : driver.hil = .examine direction)
      (nothing : (driver.stream direction).buffer.required = 0) :
      Move config driver .hil { driver with hil := .signal direction }
  | suffices_ {direction : Direction} (point : driver.hil = .compare direction)
      (suffices_ : (driver.stream direction).buffer.required ≤
        direction.side.room (driver.stream direction).buffer) :
      Move config driver .hil { driver with hil := .answer direction }
  | tooFew {direction : Direction} (point : driver.hil = .compare direction)
      (tooFew : direction.side.room (driver.stream direction).buffer <
        (driver.stream direction).buffer.required) :
      Move config driver .hil { driver with hil := .signal direction }
  | answer {direction : Direction} (point : driver.hil = .answer direction) :
      Move config driver .hil (driver.answered direction)
  | signal {direction : Direction} (point : driver.hil = .signal direction)
      (signals : driver.isrCmd ≠ 0 ∧ (direction = .recv → config.numOut = 0)) :
      Move config driver .hil { driver with
        channel := driver.channel ++ [driver.isrCmd]
        isrCmd := 0
        hil := .idle }
  | done {direction : Direction} (point : driver.hil = .signal direction)
      (silent : ¬ (driver.isrCmd ≠ 0 ∧ (direction = .recv → config.numOut = 0))) :
      Move config driver .hil { driver with hil := .idle }
  | isrEnter {action : UInt8} {channel : List UInt8} (point : driver.isr = .idle)
      (head : driver.channel = action :: channel) :
      Move config driver .isr { driver with channel := channel, isr := .resumeSend action }
  | isrSend {action : UInt8} (point : driver.isr = .resumeSend action) :
      Move config driver .isr { driver.resume .send action with isr := .resumeRecv action }
  | isrRecv {action : UInt8} (point : driver.isr = .resumeRecv action) :
      Move config driver .isr { driver.resume .recv action with isr := .idle }
  | rx {frameCount : UInt32} {timeout : Timeout} {stream : Stream}
      (step : driver.recv.begin (i2sLocalRx config frameCount timeout) = some stream) :
      Move config driver (.rx frameCount timeout) { driver with recv := stream }
  | tx {frameCount : UInt32} {samples : List Sample} {timeout : Timeout} {stream : Stream}
      (size : samples.length = (frameCount * (2 * config.numOut)).toNat)
      (step : driver.send.begin (i2sLocalTx config frameCount samples timeout) = some stream) :
      Move config driver (.tx frameCount samples timeout) { driver with send := stream }
  | task {direction : Direction} {stream : Stream}
      (runs : (driver.stream direction).Runs direction.side stream) :
      Move config driver (.task direction) (driver.setStream direction stream)
  | timeOut {direction : Direction} {stream : Stream}
      (step : (driver.stream direction).timeOut = some stream) :
      Move config driver (.timeOut direction) (driver.setStream direction stream)
  | share {appData : S} :
      Move config driver (.share appData) { driver with sendFilterAppData := appData }

/-- Every step of the library's thread is listed. -/
theorem move_of_hilThread {config : Config S} {source target : Driver S}
    (step : hilThread config source source.hil = some target) :
    Move config source .hil target := by
  cases point : source.hil with
  | idle =>
      rw [point] at step
      cases step
  | store frame =>
      rw [point] at step
      cases step
      exact .store point
  | receiveFilter frame wordsFree =>
      rw [point] at step
      obtain ⟨cb, filter, rfl⟩ := Option.map_eq_some_iff.mp step
      exact .receiveFilter point filter
  | addWritten stored =>
      rw [point] at step
      cases step
      exact .addWritten point
  | fetch =>
      rw [point] at step
      cases step
      exact .fetch point
  | sendFilter wordsAvailable =>
      rw [point] at step
      obtain ⟨cb, filter, rfl⟩ := Option.map_eq_some_iff.mp step
      exact .sendFilter point filter
  | addRead sent count =>
      rw [point] at step
      cases step
      exact .addRead point
  | examine direction =>
      rw [point] at step
      cases step
      split
      · next required => exact .required point (UInt32.pos_iff_ne_zero.mp required)
      · next nothing =>
          exact .nothing point (not_not.mp (mt UInt32.pos_iff_ne_zero.mpr nothing))
  | compare direction =>
      rw [point] at step
      cases step
      split
      · next suffices_ => exact .suffices_ point suffices_
      · next tooFew => exact .tooFew point (UInt32.not_le.mp tooFew)
  | answer direction =>
      rw [point] at step
      cases step
      exact .answer point
  | signal direction =>
      rw [point] at step
      simp only [hilThread] at step
      split at step
      · next signals =>
          cases step
          exact .signal point signals
      · next silent =>
          cases step
          exact .done point silent

/-- Every step is listed. -/
theorem move_of_next {config : Config S} {source target : Driver S} {label : Label S}
    (step : next config source label = some target) : Move config source label target := by
  cases label with
  | receive frame =>
      simp only [next, i2sReceive, Option.ite_none_right_eq_some, Option.some.injEq] at step
      obtain ⟨⟨point, size⟩, rfl⟩ := step
      split
      · next noFilter =>
          split
          · next room => exact .accept point size noFilter room
          · next full => exact .drop point size noFilter (UInt32.not_le.mp full)
      · next cb filter => exact .offer point size filter
  | sendFrame =>
      simp only [next, i2sSend, Option.ite_none_right_eq_some, Option.some.injEq] at step
      obtain ⟨point, rfl⟩ := step
      split
      · next noFilter =>
          split
          · next available => exact .enough point noFilter available
          · next tooFew => exact .underrun point noFilter (UInt32.not_le.mp tooFew)
      · next cb filter => exact .offerSend point filter
  | hil => exact move_of_hilThread step
  | isr =>
      cases point : source.isr with
      | idle =>
          simp only [next, point, rtosI2sIsr] at step
          split at step
          · cases step
          · next action channel head =>
              cases step
              exact .isrEnter point head
      | resumeSend action =>
          simp only [next, point] at step
          cases step
          exact .isrSend point
      | resumeRecv action =>
          simp only [next, point] at step
          cases step
          exact .isrRecv point
  | rx frameCount timeout =>
      obtain ⟨stream, begins, rfl⟩ := Option.map_eq_some_iff.mp step
      exact .rx begins
  | tx frameCount samples timeout =>
      simp only [next, Option.ite_none_right_eq_some] at step
      obtain ⟨size, mapped⟩ := step
      obtain ⟨stream, begins, rfl⟩ := Option.map_eq_some_iff.mp mapped
      exact .tx size begins
  | task direction =>
      obtain ⟨stream, runs, rfl⟩ := Option.map_eq_some_iff.mp step
      exact .task (Stream.runs_of_run runs)
  | timeOut direction =>
      obtain ⟨stream, late, rfl⟩ := Option.map_eq_some_iff.mp step
      exact .timeOut late
  | share appData =>
      cases step
      exact .share

end FwkRtos.I2s

import FwkRtos.I2s.Views

/-!
# The words of the I2S driver

The buffers carry their streams as long as nothing is copied past their ends.
`rtos_i2s_start` multiplies without a look at overflow, so that a buffer can turn
out to be not as large as asked for, and with no filter a frame is copied in one
piece wherever the index is.
-/

namespace FwkRtos.I2s

open FwkRtos.Osal FwkRtos.SampleStream FwkRtos.Transition

universe u

variable {S : Type u}

/-- Frames of so many words come to their places in a buffer of that size without
reaching past its end: the buffer has whole frames, or is too small for any. -/
def FramesFit (frameWords bufSize : UInt32) : Prop :=
  frameWords.toNat ∣ bufSize.toNat ∨ bufSize < frameWords

/-- How many words of the stream an end is past. -/
def position (written read : List Sample) : Side → Nat
  | .reader => read.length
  | .writer => written.length

/-- An end that has claimed a frame, after whole frames, finds its cells in one
piece. -/
theorem frame_within {side : Side} {buffer : SampleBuffer} {written read : List Sample}
    {peer : Moving} {frameWords : UInt32}
    (carries : side.Carries buffer written read ⟨[], frameWords.toNat⟩ peer)
    (fit : FramesFit frameWords buffer.bufSize)
    (whole : frameWords.toNat ∣ position written read side) (positive : 0 < frameWords) :
    (side.index buffer).toNat + frameWords.toNat ≤ buffer.bufSize.toNat := by
  rw [UInt32.lt_iff_toNat_lt] at positive
  have positive : 0 < frameWords.toNat := positive
  have claimed : frameWords.toNat ≤ buffer.bufSize.toNat := by
    cases side with
    | reader =>
        have available := SampleBuffer.Carries.available carries
        have most := SampleBuffer.Carries.written_le carries
        simp only at available
        omega
    | writer =>
        have free := SampleBuffer.Carries.free carries
        have order := SampleBuffer.Carries.read_le carries
        simp only at free
        omega
  have index : (side.index buffer).toNat = position written read side % buffer.bufSize.toNat := by
    cases side with
    | reader => exact SampleBuffer.Carries.readIndex carries
    | writer => exact SampleBuffer.Carries.writeIndex carries
  rcases fit with divides | tooSmall
  · rw [index]
    exact Ring.mod_add_le_of_dvd (positive.trans_le claimed) whole divides
  · rw [UInt32.lt_iff_toNat_lt] at tooSmall
    exact absurd claimed (Nat.not_le.mpr tooSmall)

/-- A filter that stays within the words that it is offered stays within the
block. -/
theorem chunk_within {side : Side} {buffer : SampleBuffer} {written read : List Sample}
    {peer : Moving} {room count : UInt32}
    (carries : side.Carries buffer written read ⟨[], room.toNat⟩ peer)
    (fits : count ≤ chunk room (side.index buffer) buffer.bufSize) (positive : 0 < count) :
    (side.index buffer).toNat + count.toNat ≤ buffer.bufSize.toNat := by
  have inRoom := UInt32.le_iff_toNat_le.mp (UInt32.le_trans fits (chunk_le _ _ _))
  rw [UInt32.lt_iff_toNat_lt] at positive
  have positive : 0 < count.toNat := positive
  have inBlock := carries.index_lt (positive.trans_le inRoom)
  rw [UInt32.le_iff_toNat_le, toNat_chunk inBlock] at fits
  omega

/-- The receive buffer is what it is meant to be, and a receive filter says what
it has written, which is a frame of the usual size or nothing. -/
structure Config.RecvFits (config : Config S) : Prop where
  small : (config.bufSize .recv).toNat < 2 ^ 30
  frames : config.receiveFilterCb = none →
    FramesFit (config.frameWords .recv) (config.bufSize .recv)
  filter : ∀ cb, config.receiveFilterCb = some cb → ∀ appData frame spaces,
    (cb appData frame spaces).2.1.length = (cb appData frame spaces).2.2.toNat ∧
      (cb appData frame spaces).2.2 ≤ spaces ∧
      ((cb appData frame spaces).2.2 = 0 ∨
        (cb appData frame spaces).2.2 = config.frameWords .recv)

/-- The receive buffer is what it is meant to be, and a receive filter says what it
has written, within what it is offered. -/
structure Config.RecvSafe (config : Config S) : Prop where
  small : (config.bufSize .recv).toNat < 2 ^ 30
  frames : config.receiveFilterCb = none →
    FramesFit (config.frameWords .recv) (config.bufSize .recv)
  filter : ∀ cb, config.receiveFilterCb = some cb → ∀ appData frame spaces,
    (cb appData frame spaces).2.1.length = (cb appData frame spaces).2.2.toNat ∧
      (cb appData frame spaces).2.2 ≤ spaces

/-- What a receive filter is called with. -/
def Driver.filterArguments (driver : Driver S) (frame : List Sample) (wordsFree : UInt32) :
    S × List Sample × UInt32 :=
  (driver.sendFilterAppData, frame,
    chunk wordsFree driver.recv.buffer.writeIndex driver.recv.buffer.bufSize)

/-- A receive filter that is called reports a frame of the usual size or nothing. -/
def ReportsFrame (config : Config S) (driver : Driver S) (label : Label S) : Prop :=
  label = .hil → ∀ frame wordsFree, driver.hil = .receiveFilter frame wordsFree →
    ∀ cb, config.receiveFilterCb = some cb →
      let (appData, frame, spaces) := driver.filterArguments frame wordsFree
      (cb appData frame spaces).2.2 = 0 ∨
        (cb appData frame spaces).2.2 = config.frameWords .recv

theorem Config.RecvFits.recvSafe {config : Config S} (fits : config.RecvFits) :
    config.RecvSafe where
  small := fits.small
  frames := fits.frames
  filter cb filter appData frame spaces :=
    have reported := fits.filter cb filter appData frame spaces
    ⟨reported.1, reported.2.1⟩

theorem Config.RecvFits.reportsFrame {config : Config S} (fits : config.RecvFits)
    (driver : Driver S) (label : Label S) : ReportsFrame config driver label :=
  fun _ _ _ _ cb filter => (fits.filter cb filter _ _ _).2.2

/-- The send buffer is what it is meant to be, and a send filter reads at most
what it is offered. -/
structure Config.SendFits (config : Config S) : Prop where
  small : (config.bufSize .send).toNat < 2 ^ 30
  frames : config.sendFilterCb = none →
    FramesFit (config.frameWords .send) (config.bufSize .send)
  filter : ∀ cb, config.sendFilterCb = some cb → ∀ appData size offered,
    (cb appData size offered).2.2.toNat ≤ offered.length

/-- What the library's thread has in hand of a direction is of the right size, and
it copies by itself only without a filter. -/
def HilPoint.Sized (config : Config S) : Direction → HilPoint → Prop
  | .recv, .store frame =>
      frame.length = (config.frameWords .recv).toNat ∧ config.receiveFilterCb = none
  | .recv, .addWritten stored => stored.length = (config.frameWords .recv).toNat
  | .send, .fetch => config.sendFilterCb = none
  | .send, .addRead sent count =>
      sent.length = count.toNat ∧
        (config.sendFilterCb = none → count = config.frameWords .send)
  | _, _ => True

/-- The words of an accepted frame that are not counted yet. -/
def HilPoint.storing : HilPoint → List Sample
  | .store frame => frame
  | .addWritten stored => stored
  | _ => []

/-! ## Received words -/

/-- The buffer carries the received stream, which consists of whole frames. -/
structure Driver.Receives (config : Config S) (driver : Driver S) : Prop where
  size : driver.recv.buffer.bufSize = config.bufSize .recv
  carried : (driver.view config .recv).Carried .reader
  shaken : (driver.view config .recv).Shaken
  sized : driver.hil.Sized config .recv
  whole : (config.frameWords .recv).toNat ∣ driver.recv.written.length
  accepted : driver.accepted.flatten = driver.recv.written ++ driver.hil.storing

/-- A piece that fits between the index and the end is stored. -/
theorem step_received {config : Config S} {driver : Driver S} {appData : S}
    {accepted : List (List Sample)} {stored : List Sample} {count : UInt32}
    (counted : stored.length = count.toNat)
    (frame : count = 0 ∨ count = config.frameWords .recv)
    (moving : (driver.hil.moving config .recv).moved = [])
    (asking : driver.hil.asking .recv = .nothing)
    (claimed : count.toNat ≤ (driver.hil.moving config .recv).left)
    (within : 0 < count → driver.recv.buffer.writeIndex.toNat + count.toNat ≤
      driver.recv.buffer.bufSize.toNat) :
    Step .reader (driver.view config .recv) .peer
      (Driver.view config .recv (Driver.received config
        { driver with sendFilterAppData := appData, accepted := accepted } stored count)) := by
  have noneMoved : (driver.view config .recv).peer.moved = [] := moving
  have notAsking : (driver.view config .recv).asking = .nothing := asking
  rw [Driver.received]
  split
  · next positive =>
      rcases frame with zero | whole
      · rw [zero] at positive
        exact absurd positive (UInt32.lt_irrefl 0)
      · subst whole
        have all : stored.take (config.frameWords .recv).toNat = stored := by
          rw [← counted, List.take_length]
        have step := @Step.move .reader (driver.view config .recv) stored
          (config.frameWords .recv) 0 claimed (within positive) fun _ => counted.ge
        simp only [Side.other, Side.move, all, noneMoved, notAsking, List.nil_append] at step
        exact step
  · next nothing =>
      have zero : count.toNat = 0 := by
        rw [UInt32.lt_iff_toNat_lt] at nothing
        exact Nat.eq_zero_of_not_pos nothing
      have empty : stored = [] := List.eq_nil_of_length_eq_zero (counted.trans zero)
      have step : Step .reader (driver.view config .recv) .peer _ := .abandon noneMoved
      simp only [notAsking] at step
      rw [empty, Ring.write_nil]
      exact step

/-- The receive direction takes only the steps of the protocol. -/
theorem Move.step_recv {config : Config S} {source target : Driver S} {label : Label S}
    (move : Move config source label target) (safe : config.RecvSafe)
    (reports : ReportsFrame config source label) (receives : source.Receives config)
    (covers : Direction.recv.GrantCovers source label) :
    Step .reader (source.view config .recv) (label.event config .recv)
      (target.view config .recv) := by
  obtain ⟨size, carried, shaken, sized, whole, accepted⟩ := receives
  cases move with
  | accept point _ _ room => exact step_claim .recv point rfl rfl room
  | drop point => exact step_hil .recv point rfl rfl
  | offer point => exact step_claim .recv point rfl rfl (UInt32.le_refl _)
  | @store frame point =>
      rw [point] at sized
      obtain ⟨length, noFilter⟩ := sized
      have left : (source.hil.moving config .recv).left = (config.frameWords .recv).toNat := by
        rw [point]
        rfl
      apply step_received length (.inr rfl) (by rw [point]; rfl) (by rw [point]; rfl) left.ge
      intro positive
      have buffer := Side.Carries.swap.mpr carried.buffer
      rw [Driver.view, point] at buffer
      exact frame_within buffer (size ▸ safe.frames noFilter) whole positive
  | @receiveFilter frame wordsFree cb point filter =>
      obtain ⟨counted, offered⟩ := safe.filter cb filter source.sendFilterAppData frame
        (chunk wordsFree source.recv.buffer.writeIndex source.recv.buffer.bufSize)
      have frame_ := reports rfl frame wordsFree point cb filter
      have buffer := Side.Carries.swap.mpr carried.buffer
      rw [Driver.view, point] at buffer
      have left : (source.hil.moving config .recv).left = wordsFree.toNat := by
        rw [point]
        rfl
      have claimed := UInt32.le_iff_toNat_le.mp (UInt32.le_trans offered (chunk_le _ _ _))
      rw [← left] at claimed
      exact step_received counted frame_ (by rw [point]; rfl) (by rw [point]; rfl) claimed
        (chunk_within buffer offered)
  | addWritten point =>
      obtain ⟨recv, send, appData, isrCmd, channel, hil, isr, i2sSampleBuf, accepted⟩ := source
      cases point
      exact .publish sized
  | enough point | underrun point | offerSend point => exact step_hil .recv point rfl rfl
  | fetch point =>
      obtain ⟨recv, send, appData, isrCmd, channel, hil, isr, i2sSampleBuf, accepted⟩ := source
      cases point
      rw [Driver.fetched, Driver.sent]
      split <;> exact .stutter
  | sendFilter point filter =>
      obtain ⟨recv, send, appData, isrCmd, channel, hil, isr, i2sSampleBuf, accepted⟩ := source
      cases point
      simp only [Driver.sendFiltered, Driver.sent]
      split <;> exact .stutter
  | addRead point =>
      obtain ⟨recv, send, appData, isrCmd, channel, hil, isr, i2sSampleBuf, accepted⟩ := source
      cases point
      exact .stutter
  | required point required => exact step_required .recv point required
  | @nothing direction point =>
      exact step_hil .recv point rfl rfl
  | suffices_ point suffices_ => exact step_suffices .recv point suffices_
  | tooFew point => exact step_tooFew .recv point
  | answer point => exact step_answer .recv point shaken
  | signal point => exact step_signal .recv point
  | done point => exact step_hil .recv point rfl rfl
  | isrEnter point head => exact step_isrEnter .recv point head
  | isrSend point => exact step_isrSend .recv point
  | isrRecv point => exact step_isrRecv .recv point
  | rx step => exact step_rx .recv step
  | tx size step => exact step_tx .recv size step
  | task runs => exact step_task .recv runs covers
  | timeOut step => exact step_timeOut .recv step
  | share => exact .stutter

/-- What is received is of the size of a frame. -/
theorem sized_received {config : Config S} {driver : Driver S} {stored : List Sample}
    {count : UInt32} (counted : stored.length = count.toNat)
    (frame : count = 0 ∨ count = config.frameWords .recv) :
    (driver.received config stored count).hil.Sized config .recv := by
  rw [Driver.received]
  split
  · next positive =>
      rcases frame with zero | whole
      · rw [zero] at positive
        exact absurd positive (UInt32.lt_irrefl 0)
      · exact counted.trans (congrArg UInt32.toNat whole)
  · trivial

theorem Move.sized_recv {config : Config S} {source target : Driver S} {label : Label S}
    (move : Move config source label target) (safe : config.RecvSafe)
    (reports : ReportsFrame config source label) (sized : source.hil.Sized config .recv) :
    target.hil.Sized config .recv := by
  cases move with
  | accept _ size noFilter => exact ⟨size, noFilter⟩
  | store point =>
      rw [point] at sized
      exact sized_received sized.1 (.inr rfl)
  | @receiveFilter frame wordsFree cb point filter =>
      have counted := (safe.filter cb filter source.sendFilterAppData frame
        (chunk wordsFree source.recv.buffer.writeIndex source.recv.buffer.bufSize)).1
      exact sized_received counted (reports rfl frame wordsFree point cb filter)
  | drop | offer | addWritten | enough | underrun | offerSend | addRead | required | nothing
    | suffices_ | tooFew | signal | done => trivial
  | fetch =>
      rw [Driver.fetched, Driver.sent]
      split <;> trivial
  | sendFilter =>
      simp only [Driver.sendFiltered, Driver.sent]
      split <;> trivial
  | answer => trivial
  | isrEnter | rx | tx | share => exact sized
  | isrSend | isrRecv =>
      rw [Driver.resume]
      split <;> exact sized
  | @task direction | @timeOut direction => cases direction <;> exact sized

/-- The words that are received are whole frames, and those that were accepted. -/
theorem Move.frames_recv {config : Config S} {source target : Driver S} {label : Label S}
    (move : Move config source label target) (sized : source.hil.Sized config .recv)
    (whole : (config.frameWords .recv).toNat ∣ source.recv.written.length)
    (accepted : source.accepted.flatten = source.recv.written ++ source.hil.storing) :
    (config.frameWords .recv).toNat ∣ target.recv.written.length ∧
      target.accepted.flatten = target.recv.written ++ target.hil.storing := by
  have idle : ∀ {hil : HilPoint}, source.hil = hil → hil.storing = [] →
      source.accepted.flatten = source.recv.written ++ [] := by
    intro hil point empty
    rw [accepted, point, empty]
  cases move with
  | accept point =>
      refine ⟨whole, ?_⟩
      rw [List.flatten_append, idle point rfl]
      simp [HilPoint.storing]
  | @store frame point =>
      rw [point] at sized accepted
      rw [Driver.received]
      split
      · exact ⟨whole, accepted⟩
      · next nothing =>
          have empty : frame = [] := by
            rw [UInt32.lt_iff_toNat_lt] at nothing
            exact List.eq_nil_of_length_eq_zero
              (sized.1.trans (Nat.eq_zero_of_not_pos nothing))
          rw [empty] at accepted
          exact ⟨whole, accepted⟩
  | receiveFilter point =>
      simp only [Driver.receiveFiltered, Driver.received]
      split
      · refine ⟨whole, ?_⟩
        simp only [List.flatten_append, idle point rfl, List.append_nil, List.flatten_cons,
          List.flatten_nil]
        rfl
      · exact ⟨whole, idle point rfl⟩
  | @addWritten stored point =>
      rw [point] at sized accepted
      constructor
      · show _ ∣ (source.recv.written ++ stored).length
        rw [List.length_append, sized]
        exact Nat.dvd_add whole (Nat.dvd_refl _)
      · show _ = source.recv.written ++ stored ++ []
        rw [List.append_nil]
        exact accepted
  | drop point | offer point | enough point | underrun point | offerSend point | addRead point
    | required point | nothing point | suffices_ point | tooFew point | signal point
    | done point => exact ⟨whole, idle point rfl⟩
  | @answer direction point => cases direction <;> exact ⟨whole, idle point rfl⟩
  | fetch point =>
      rw [Driver.fetched, Driver.sent]
      split <;> exact ⟨whole, idle point rfl⟩
  | sendFilter point =>
      simp only [Driver.sendFiltered, Driver.sent]
      split <;> exact ⟨whole, idle point rfl⟩
  | isrEnter | tx | share => exact ⟨whole, accepted⟩
  | @rx _ _ stream step =>
      rw [← (Stream.begin_streams step).1] at whole accepted
      exact ⟨whole, accepted⟩
  | isrSend | isrRecv =>
      rw [Driver.resume]
      split <;> exact ⟨whole, accepted⟩
  | @task direction _ runs =>
      cases direction with
      | recv =>
          have written : _ = source.recv.written := runs.written
          rw [← written] at whole accepted
          exact ⟨whole, accepted⟩
      | send => exact ⟨whole, accepted⟩
  | @timeOut direction _ step =>
      cases direction with
      | recv =>
          have written : _ = source.recv.written := (Stream.timeOut_streams step).1
          rw [← written] at whole accepted
          exact ⟨whole, accepted⟩
      | send => exact ⟨whole, accepted⟩

theorem start_shaken (config : Config S) (direction : Direction) :
    ((start config).view config direction).Shaken := by
  have none_ : (start config).flight direction = 0 := by
    simp [Driver.flight, start, wakes_zero, IsrPoint.wakes]
  show Stream.HandShake _ _ ((start config).flight direction)
  rw [none_]
  cases direction <;> exact Stream.HandShake.create _ _

theorem receives_start {config : Config S} (safe : config.RecvSafe) :
    (start config).Receives config where
  size := rfl
  carried := Stream.Carries.create .reader _ safe.small
  shaken := start_shaken config .recv
  sized := trivial
  whole := Nat.dvd_zero _
  accepted := rfl

/-- The received stream stays in its buffer, as long as no call is given the
semaphore for words that are not there. -/
theorem Driver.Receives.next {config : Config S} {source target : Driver S} {label : Label S}
    (receives : source.Receives config) (safe : config.RecvSafe)
    (reports : ReportsFrame config source label)
    (covers : Direction.recv.GrantCovers source label)
    (step : I2s.next config source label = some target) : target.Receives config :=
  have move := move_of_next step
  have simulated := move.step_recv safe reports receives covers
  have frames := move.frames_recv receives.sized receives.whole receives.accepted
  { size := simulated.bufSize.trans receives.size
    carried := simulated.carried receives.carried
    shaken := simulated.shaken receives.shaken
    sized := move.sized_recv safe reports receives.sized
    whole := frames.1
    accepted := frames.2 }

theorem Driver.Receives.carries {config : Config S} {driver : Driver S}
    (receives : driver.Receives config) :
    driver.recv.buffer.Carries driver.recv.written (driver.hil.moving config .recv)
      driver.recv.read driver.recv.call.moving :=
  receives.carried.buffer

/-- What was returned was accepted, in order. -/
theorem Driver.Receives.inOrder {config : Config S} {driver : Driver S}
    (receives : driver.Receives config) : driver.recv.read <+: driver.accepted.flatten := by
  rw [receives.accepted]
  exact ((List.prefix_append _ _).trans receives.carries.inOrder).trans (List.prefix_append _ _)

/-! ## Words to send -/

/-- The buffer carries the stream to send; without a filter it is read in whole
frames. -/
structure Driver.Sends (config : Config S) (driver : Driver S) : Prop where
  size : driver.send.buffer.bufSize = config.bufSize .send
  carried : (driver.view config .send).Carried .writer
  shaken : (driver.view config .send).Shaken
  sized : driver.hil.Sized config .send
  whole : config.sendFilterCb = none →
    (config.frameWords .send).toNat ∣ driver.send.read.length

/-- A piece between the index and the end is taken. -/
theorem step_sent {config : Config S} {driver : Driver S} {appData : S} {frame : List Sample}
    {count : UInt32} (moving : (driver.hil.moving config .send).moved = [])
    (asking : driver.hil.asking .send = .nothing)
    (claimed : count.toNat ≤ (driver.hil.moving config .send).left)
    (within : 0 < count → driver.send.buffer.readIndex.toNat + count.toNat ≤
      driver.send.buffer.bufSize.toNat) :
    Step .writer (driver.view config .send) .peer
      (Driver.view config .send (Driver.sent
        { driver with sendFilterAppData := appData, i2sSampleBuf := frame } count)) := by
  have noneMoved : (driver.view config .send).peer.moved = [] := moving
  have notAsking : (driver.view config .send).asking = .nothing := asking
  rw [Driver.sent]
  split
  · next positive =>
      have step := @Step.move .writer (driver.view config .send) [] count 0 claimed
        (within positive) nofun
      simp only [Side.other, Side.move, noneMoved, notAsking, List.nil_append] at step
      exact step
  · have step : Step .writer (driver.view config .send) .peer _ := .abandon noneMoved
    simp only [notAsking] at step
    exact step

/-- The send direction takes only the steps of the protocol. -/
theorem Move.step_send {config : Config S} {source target : Driver S} {label : Label S}
    (move : Move config source label target) (fits : config.SendFits)
    (sends : source.Sends config) (covers : Direction.send.GrantCovers source label) :
    Step .writer (source.view config .send) (label.event config .send)
      (target.view config .send) := by
  obtain ⟨size, carried, shaken, sized, whole⟩ := sends
  have buffer := Side.Carries.swap.mpr carried.buffer
  cases move with
  | enough point _ available => exact step_claim .send point rfl rfl available
  | underrun point => exact step_hil .send point rfl rfl
  | offerSend point => exact step_claim .send point rfl rfl (UInt32.le_refl _)
  | fetch point =>
      rw [point] at sized
      rw [Driver.view, point] at buffer
      have left : (source.hil.moving config .send).left = (config.frameWords .send).toNat := by
        rw [point]
        rfl
      exact step_sent (by rw [point]; rfl) (by rw [point]; rfl) left.ge
        (frame_within buffer (size ▸ fits.frames sized) (whole sized))
  | @sendFilter wordsAvailable cb point filter =>
      have offered := fits.filter cb filter source.sendFilterAppData (config.frameWords .send)
        (source.send.buffer.fetch
          (chunk wordsAvailable source.send.buffer.readIndex source.send.buffer.bufSize))
      rw [SampleBuffer.length_fetch, ← UInt32.le_iff_toNat_le] at offered
      rw [Driver.view, point] at buffer
      have left : (source.hil.moving config .send).left = wordsAvailable.toNat := by
        rw [point]
        rfl
      have claimed := UInt32.le_iff_toNat_le.mp (UInt32.le_trans offered (chunk_le _ _ _))
      rw [← left] at claimed
      exact step_sent (by rw [point]; rfl) (by rw [point]; rfl) claimed
        (chunk_within buffer offered)
  | addRead point =>
      obtain ⟨recv, send, appData, isrCmd, channel, hil, isr, i2sSampleBuf, accepted⟩ := source
      cases point
      exact .publish sized.1
  | accept point | drop point | offer point => exact step_hil .send point rfl rfl
  | store point =>
      obtain ⟨recv, send, appData, isrCmd, channel, hil, isr, i2sSampleBuf, accepted⟩ := source
      cases point
      rw [Driver.received]
      split <;> exact .stutter
  | receiveFilter point =>
      obtain ⟨recv, send, appData, isrCmd, channel, hil, isr, i2sSampleBuf, accepted⟩ := source
      cases point
      simp only [Driver.receiveFiltered, Driver.received]
      split <;> exact .stutter
  | addWritten point =>
      obtain ⟨recv, send, appData, isrCmd, channel, hil, isr, i2sSampleBuf, accepted⟩ := source
      cases point
      exact .stutter
  | required point required => exact step_required .send point required
  | nothing point => exact step_hil .send point rfl rfl
  | suffices_ point suffices_ => exact step_suffices .send point suffices_
  | tooFew point => exact step_tooFew .send point
  | answer point => exact step_answer .send point shaken
  | signal point => exact step_signal .send point
  | done point => exact step_hil .send point rfl rfl
  | isrEnter point head => exact step_isrEnter .send point head
  | isrSend point => exact step_isrSend .send point
  | isrRecv point => exact step_isrRecv .send point
  | rx step => exact step_rx .send step
  | tx size step => exact step_tx .send size step
  | task runs => exact step_task .send runs covers
  | timeOut step => exact step_timeOut .send step
  | share => exact .stutter

/-- What the library's thread takes out are whole frames, unless a filter says
how much it takes. -/
theorem Move.frames_send {config : Config S} {source target : Driver S} {label : Label S}
    (move : Move config source label target) (sized : source.hil.Sized config .send)
    (whole : config.sendFilterCb = none →
      (config.frameWords .send).toNat ∣ source.send.read.length) :
    target.hil.Sized config .send ∧ (config.sendFilterCb = none →
      (config.frameWords .send).toNat ∣ target.send.read.length) := by
  cases move with
  | enough _ noFilter => exact ⟨noFilter, whole⟩
  | fetch =>
      rw [Driver.fetched, Driver.sent]
      split
      · exact ⟨⟨SampleBuffer.length_fetch _ _, fun _ => rfl⟩, whole⟩
      · exact ⟨trivial, whole⟩
  | sendFilter _ filter =>
      simp only [Driver.sendFiltered, Driver.sent]
      split
      · exact ⟨⟨SampleBuffer.length_fetch _ _, fun none_ => absurd (filter.symm.trans none_) nofun⟩,
          whole⟩
      · exact ⟨trivial, whole⟩
  | @addRead sent count point =>
      rw [point] at sized
      refine ⟨trivial, fun noFilter => ?_⟩
      show _ ∣ (source.send.read ++ sent).length
      rw [List.length_append, sized.1, sized.2 noFilter]
      exact Nat.dvd_add (whole noFilter) (Nat.dvd_refl _)
  | store | receiveFilter =>
      simp only [Driver.receiveFiltered, Driver.received]
      split <;> exact ⟨trivial, whole⟩
  | accept | drop | offer | addWritten | underrun | offerSend | required | nothing | suffices_
    | tooFew | signal | done => exact ⟨trivial, whole⟩
  | @answer direction => cases direction <;> exact ⟨trivial, whole⟩
  | isrEnter | rx | share => exact ⟨sized, whole⟩
  | isrSend | isrRecv =>
      rw [Driver.resume]
      split <;> exact ⟨sized, whole⟩
  | tx _ step =>
      rw [← (Stream.begin_streams step).2] at whole
      exact ⟨sized, whole⟩
  | @task direction _ runs =>
      cases direction with
      | recv => exact ⟨sized, whole⟩
      | send =>
          have read : _ = source.send.read := runs.read
          rw [← read] at whole
          exact ⟨sized, whole⟩
  | @timeOut direction _ step =>
      cases direction with
      | recv => exact ⟨sized, whole⟩
      | send =>
          have read : _ = source.send.read := (Stream.timeOut_streams step).2
          rw [← read] at whole
          exact ⟨sized, whole⟩

theorem sends_start {config : Config S} (fits : config.SendFits) :
    (start config).Sends config where
  size := rfl
  carried := Stream.Carries.create .writer _ fits.small
  shaken := start_shaken config .send
  sized := trivial
  whole _ := Nat.dvd_zero _

/-- The stream to send stays in its buffer, as long as no call is given the
semaphore for cells that are not free. -/
theorem Driver.Sends.next {config : Config S} {source target : Driver S} {label : Label S}
    (sends : source.Sends config) (fits : config.SendFits)
    (covers : Direction.send.GrantCovers source label)
    (step : I2s.next config source label = some target) :
    target.Sends config :=
  have move := move_of_next step
  have simulated := move.step_send fits sends covers
  have frames := move.frames_send sends.sized sends.whole
  { size := simulated.bufSize.trans sends.size
    carried := simulated.carried sends.carried
    shaken := simulated.shaken sends.shaken
    sized := frames.1
    whole := frames.2 }

theorem Driver.Sends.carries {config : Config S} {driver : Driver S}
    (sends : driver.Sends config) :
    driver.send.buffer.Carries driver.send.written driver.send.call.moving
      driver.send.read (driver.hil.moving config .send) :=
  sends.carried.buffer

end FwkRtos.I2s

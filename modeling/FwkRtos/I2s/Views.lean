import FwkRtos.I2s.Driver

/-!
# The streams of the I2S driver

Each direction of the driver is seen as a task with its peer: the thread of the
I/O library moves the words, and a wake-up passes through `isr_cmd`, the channel
and the interrupt handler on its way to the semaphore.
-/

namespace FwkRtos.I2s

open FwkRtos.Osal FwkRtos.SampleStream FwkRtos.Transition

universe u

variable {S : Type u}

/-! ## Wake-ups on their way -/

/-- The action gives the semaphore of the direction. -/
def Direction.wakes (direction : Direction) (action : UInt8) : Bool :=
  action &&& direction.resumeBm ≠ 0

/-- The interrupt handler is about to give the semaphore of the direction. -/
def IsrPoint.wakes (direction : Direction) : IsrPoint → Bool
  | .idle => false
  | .resumeSend action => direction.wakes action
  | .resumeRecv action => direction = .recv && direction.wakes action

/-- The wake-ups of a direction that have not reached its semaphore. -/
def Driver.flight (driver : Driver S) (direction : Direction) : Nat :=
  (direction.wakes driver.isrCmd).toNat + driver.channel.countP direction.wakes +
    (driver.isr.wakes direction).toNat

theorem or_and_right (first second mask : UInt8) :
    (first ||| second) &&& mask = (first &&& mask) ||| (second &&& mask) :=
  UInt8.toBitVec_inj.mp BitVec.and_or_distrib_right

theorem wakes_or_self (direction : Direction) (action : UInt8) :
    direction.wakes (action ||| direction.resumeBm) = true := by
  rw [Direction.wakes, decide_eq_true_eq, or_and_right]
  intro zero
  have own := (UInt8.or_eq_zero_iff.mp zero).2
  cases direction <;> exact absurd own (by decide)

theorem wakes_or_other {direction other : Direction} (different : other ≠ direction)
    (action : UInt8) :
    direction.wakes (action ||| other.resumeBm) = direction.wakes action := by
  have apart : other.resumeBm &&& direction.resumeBm = 0 := by
    cases direction <;> cases other <;> first | rfl | exact absurd rfl different
  rw [Direction.wakes, Direction.wakes, or_and_right, apart, UInt8.or_zero]

theorem wakes_or_of_wakes {direction : Direction} {action : UInt8}
    (wakes : direction.wakes action = true) (other : Direction) :
    direction.wakes (action ||| other.resumeBm) = true := by
  by_cases same : other = direction
  · rw [same]
    exact wakes_or_self direction action
  · rw [wakes_or_other same]
    exact wakes

theorem wakes_zero (direction : Direction) : direction.wakes 0 = false := by
  cases direction <;> rfl

/-! ## The views -/

/-- How far the library's thread is with the words of a direction. -/
def HilPoint.moving (config : Config S) : Direction → HilPoint → Moving
  | .recv, .store _ => ⟨[], (config.frameWords .recv).toNat⟩
  | .recv, .receiveFilter _ wordsFree => ⟨[], wordsFree.toNat⟩
  | .recv, .addWritten stored => ⟨stored, 0⟩
  | .send, .fetch => ⟨[], (config.frameWords .send).toNat⟩
  | .send, .sendFilter wordsAvailable => ⟨[], wordsAvailable.toNat⟩
  | .send, .addRead sent _ => ⟨sent, 0⟩
  | _, _ => still

/-- Where the library's thread is with the required count of a direction. -/
def HilPoint.asking (direction : Direction) : HilPoint → Asking
  | .compare other => if other = direction then .compare else .nothing
  | .answer other => if other = direction then .answer else .nothing
  | _ => .nothing

/-- The driver as the task of a direction sees it. -/
def Driver.view (config : Config S) (direction : Direction) (driver : Driver S) : View where
  stream := driver.stream direction
  peer := driver.hil.moving config direction
  asking := driver.hil.asking direction
  flight := driver.flight direction

/-- What the task of a direction does in a step of the driver. -/
def Label.event (config : Config S) : Direction → Label S → Event
  | .recv, .rx frameCount timeout => .begin (i2sLocalRx config frameCount timeout)
  | .send, .tx frameCount samples timeout => .begin (i2sLocalTx config frameCount samples timeout)
  | direction, .task other => if other = direction then .run else .peer
  | direction, .timeOut other => if other = direction then .timeOut else .peer
  | _, _ => .peer

/-- In a step of the task of the direction, a call that is given the semaphore
finds its words. -/
def Direction.GrantCovers (direction : Direction) (driver : Driver S) (label : Label S) : Prop :=
  match label with
  | .task other => other = direction → (driver.stream other).GrantCovers other.side
  | _ => True

theorem view_eq {config : Config S} {direction : Direction} {source target : Driver S}
    (stream : target.stream direction = source.stream direction)
    (peer : target.hil.moving config direction = source.hil.moving config direction)
    (asking : target.hil.asking direction = source.hil.asking direction)
    (flight : target.flight direction = source.flight direction) :
    target.view config direction = source.view config direction := by
  simp only [Driver.view, stream, peer, asking, flight]

/-- A step that the view does not see. -/
theorem step_of_view_eq {config : Config S} {direction : Direction} {source target : Driver S}
    (same : target.view config direction = source.view config direction) :
    Step direction.side (source.view config direction) .peer (target.view config direction) := by
  rw [same]
  exact .stutter

/-- The library's thread goes on without a word of the direction in hand, before
and after. -/
theorem step_hil {config : Config S} {driver : Driver S} (direction : Direction)
    {before after : HilPoint} (point : driver.hil = before)
    (moving : after.moving config direction = before.moving config direction)
    (asking : after.asking direction = before.asking direction) :
    Step direction.side (driver.view config direction) .peer
      (Driver.view config direction { driver with hil := after }) := by
  subst point
  apply step_of_view_eq
  cases direction <;> exact view_eq rfl moving asking rfl

/-- The library's thread looks how many words there are for it. -/
theorem step_claim {config : Config S} {driver : Driver S} (direction : Direction)
    (point : driver.hil = .idle) {room : UInt32} {after : HilPoint}
    (moving : after.moving config direction = ⟨[], room.toNat⟩)
    (asking : after.asking direction = .nothing)
    (fits : room ≤ direction.side.other.room (driver.stream direction).buffer) :
    Step direction.side (driver.view config direction) .peer
      (Driver.view config direction { driver with hil := after }) := by
  have idle : (driver.view config direction).peer = still := by
    rw [Driver.view, point]
    cases direction <;> rfl
  have claimed : Step direction.side (driver.view config direction) .peer _ := .claim idle fits
  convert claimed using 1
  apply View.ext
  · cases direction <;> rfl
  · exact moving
  · show after.asking direction = driver.hil.asking direction
    rw [point, asking]
    rfl
  · rfl

/-! ## The steps around the required count -/

section AskingSteps

variable {config : Config S} {driver : Driver S} {other : Direction} (direction : Direction)

theorem step_required (point : driver.hil = .examine other)
    (required : (driver.stream other).buffer.required ≠ 0) :
    Step direction.side (driver.view config direction) .peer
      (Driver.view config direction { driver with hil := .compare other }) := by
  obtain ⟨recv, send, appData, isrCmd, channel, hil, isr, i2sSampleBuf, accepted⟩ := driver
  cases point
  cases direction <;> cases other
  · exact .examine rfl required
  · exact .stutter
  · exact .stutter
  · exact .examine rfl required

theorem step_suffices (point : driver.hil = .compare other)
    (suffices_ : (driver.stream other).buffer.required ≤
      other.side.room (driver.stream other).buffer) :
    Step direction.side (driver.view config direction) .peer
      (Driver.view config direction { driver with hil := .answer other }) := by
  obtain ⟨recv, send, appData, isrCmd, channel, hil, isr, i2sSampleBuf, accepted⟩ := driver
  cases point
  cases direction <;> cases other
  · exact .compare rfl fun _ => suffices_
  · exact .stutter
  · exact .stutter
  · exact .compare rfl fun _ => suffices_

theorem step_tooFew (point : driver.hil = .compare other) :
    Step direction.side (driver.view config direction) .peer
      (Driver.view config direction { driver with hil := .signal other }) := by
  obtain ⟨recv, send, appData, isrCmd, channel, hil, isr, i2sSampleBuf, accepted⟩ := driver
  cases point
  cases direction <;> cases other
  · exact .compare rfl nofun
  · exact .stutter
  · exact .stutter
  · exact .compare rfl nofun

/-- A call that is about to be answered has no wake-up yet. -/
theorem flight_eq_zero_of_answer (point : driver.hil = .answer direction)
    (shaken : (driver.view config direction).Shaken) : driver.flight direction = 0 := by
  have asks : (driver.view config direction).asking ≠ .nothing := by
    rw [Driver.view, point]
    cases direction <;> exact nofun
  have none_ := (shaken.pending (shaken.required_of_asking asks)).2
  exact (Nat.add_eq_zero_iff.mp none_).1

theorem flight_answered_self (none_ : driver.flight direction = 0) :
    (driver.answered direction).flight direction = driver.flight direction + 1 := by
  have noted := wakes_or_self direction driver.isrCmd
  rw [Driver.flight] at none_
  have unnoted : (direction.wakes driver.isrCmd).toNat = 0 := by omega
  have after : (driver.answered direction).flight direction =
      (direction.wakes (driver.isrCmd ||| direction.resumeBm)).toNat +
        driver.channel.countP direction.wakes + (driver.isr.wakes direction).toNat := by
    cases direction <;> rfl
  rw [after, noted, Driver.flight, unnoted]
  simp only [Bool.toNat_true]
  omega

theorem flight_answered_other (different : other ≠ direction) :
    (driver.answered other).flight direction = driver.flight direction := by
  have after : (driver.answered other).flight direction =
      (direction.wakes (driver.isrCmd ||| other.resumeBm)).toNat +
        driver.channel.countP direction.wakes + (driver.isr.wakes direction).toNat := by
    cases other <;> rfl
  rw [after, wakes_or_other different, Driver.flight]

/-- A wake-up is noted only when there is none. -/
theorem step_answer (point : driver.hil = .answer other)
    (shaken : (driver.view config direction).Shaken) :
    Step direction.side (driver.view config direction) .peer
      ((driver.answered other).view config direction) := by
  by_cases same : other = direction
  · subst same
    have flight := flight_answered_self other (flight_eq_zero_of_answer other point shaken)
    have asking : (driver.view config other).asking = .answer := by
      rw [Driver.view, point]
      cases other <;> rfl
    have answered : Step other.side (driver.view config other) .peer _ := .answer asking
    have target : (driver.answered other).view config other = { driver.view config other with
        stream := { driver.stream other with buffer := (driver.stream other).buffer.require 0 }
        asking := .nothing
        flight := driver.flight other + 1 } := by
      apply View.ext
      · cases other <;> rfl
      · show _ = driver.hil.moving config other
        rw [point]
        cases other <;> rfl
      · rfl
      · exact flight
    rw [target]
    exact answered
  · apply step_of_view_eq
    apply view_eq
    · cases other <;> cases direction <;> first | rfl | exact absurd rfl same
    · rw [point]
      cases other <;> cases direction <;> rfl
    · rw [point]
      cases other <;> cases direction <;> first | rfl | exact absurd rfl same
    · exact flight_answered_other direction same

/-- Sending the noted wake-ups loses none of them. -/
theorem step_signal (point : driver.hil = .signal other) :
    Step direction.side (driver.view config direction) .peer
      (Driver.view config direction { driver with
        channel := driver.channel ++ [driver.isrCmd]
        isrCmd := 0
        hil := .idle }) := by
  apply step_of_view_eq
  apply view_eq
  · cases direction <;> rfl
  · rw [point]
    cases direction <;> rfl
  · rw [point]
    rfl
  · simp only [Driver.flight, wakes_zero, List.countP_append, List.countP_singleton]
    cases direction.wakes driver.isrCmd with
    | false => simp
    | true =>
        simp only [Bool.toNat_true, Bool.toNat_false, if_true]
        omega

end AskingSteps

/-! ## The steps of the interrupt handler -/

section IsrSteps

variable {config : Config S} {driver : Driver S} (direction : Direction) {action : UInt8}

theorem step_isrEnter {channel : List UInt8} (point : driver.isr = .idle)
    (head : driver.channel = action :: channel) :
    Step direction.side (driver.view config direction) .peer
      (Driver.view config direction
        { driver with channel := channel, isr := .resumeSend action }) := by
  apply step_of_view_eq
  apply view_eq
  · cases direction <;> rfl
  · rfl
  · rfl
  · simp only [Driver.flight, point, head, IsrPoint.wakes, List.countP_cons]
    cases direction.wakes action with
    | false => simp
    | true =>
        simp only [Bool.toNat_true, Bool.toNat_false, if_true]
        omega

/-- The interrupt handler gives the semaphore of the direction or leaves it. -/
theorem step_resume_self {after : IsrPoint}
    (before : driver.isr.wakes direction = direction.wakes action)
    (last : after.wakes direction = false) :
    Step direction.side (driver.view config direction) .peer
      (Driver.view config direction { driver.resume direction action with isr := after }) := by
  rw [Direction.wakes] at before
  by_cases wakes : action &&& direction.resumeBm ≠ 0
  · rw [decide_eq_true wakes] at before
    rw [Driver.resume, if_pos wakes]
    have one : (driver.view config direction).flight = ((direction.wakes driver.isrCmd).toNat +
        driver.channel.countP direction.wakes) + 1 := by
      show driver.flight direction = _
      rw [Driver.flight, before]
      rfl
    have woken : Step direction.side (driver.view config direction) .peer _ := .wakeUp one
    convert woken using 1
    apply View.ext
    · cases direction <;> rfl
    · cases direction <;> rfl
    · cases direction <;> rfl
    · show Driver.flight _ direction = _
      rw [Driver.flight, last]
      cases direction <;> rfl
  · rw [decide_eq_false wakes] at before
    rw [Driver.resume, if_neg wakes]
    apply step_of_view_eq
    apply view_eq
    · cases direction <;> rfl
    · rfl
    · rfl
    · rw [Driver.flight, Driver.flight, last, before]

theorem step_resume_other {other : Direction} {after : IsrPoint} (different : other ≠ direction)
    (before : driver.isr.wakes direction = after.wakes direction) :
    Step direction.side (driver.view config direction) .peer
      (Driver.view config direction { driver.resume other action with isr := after }) := by
  apply step_of_view_eq
  rw [Driver.resume]
  split
  · apply view_eq
    · cases other <;> cases direction <;> first | rfl | exact absurd rfl different
    · cases other <;> rfl
    · cases other <;> rfl
    · rw [Driver.flight, Driver.flight, before]
      cases other <;> rfl
  · exact view_eq rfl rfl rfl (by rw [Driver.flight, Driver.flight, before])

theorem step_isrSend (point : driver.isr = .resumeSend action) :
    Step direction.side (driver.view config direction) .peer
      (Driver.view config direction
        { driver.resume .send action with isr := .resumeRecv action }) := by
  cases direction with
  | send => exact step_resume_self .send (by rw [point]; rfl) rfl
  | recv => exact step_resume_other .recv nofun (by rw [point]; rfl)

theorem step_isrRecv (point : driver.isr = .resumeRecv action) :
    Step direction.side (driver.view config direction) .peer
      (Driver.view config direction { driver.resume .recv action with isr := .idle }) := by
  cases direction with
  | recv => exact step_resume_self .recv (by rw [point]; rfl) rfl
  | send => exact step_resume_other .send nofun (by rw [point]; rfl)

end IsrSteps

/-! ## The steps of the tasks -/

section TaskSteps

variable {config : Config S} {driver : Driver S} (direction : Direction)

theorem step_task {other : Direction} {stream : Stream}
    (runs : (driver.stream other).Runs other.side stream)
    (covers : other = direction → (driver.stream other).GrantCovers other.side) :
    Step direction.side (driver.view config direction)
      (Label.event config direction (.task other))
      ((driver.setStream other stream).view config direction) := by
  cases direction <;> cases other
  · exact .run runs (covers rfl)
  · exact .stutter
  · exact .stutter
  · exact .run runs (covers rfl)

theorem step_timeOut {other : Direction} {stream : Stream}
    (step : (driver.stream other).timeOut = some stream) :
    Step direction.side (driver.view config direction)
      (Label.event config direction (.timeOut other))
      ((driver.setStream other stream).view config direction) := by
  cases direction <;> cases other
  · exact .timeOut step
  · exact .stutter
  · exact .stutter
  · exact .timeOut step

theorem step_rx {frameCount : UInt32} {timeout : Timeout} {stream : Stream}
    (step : driver.recv.begin (i2sLocalRx config frameCount timeout) = some stream) :
    Step direction.side (driver.view config direction)
      (Label.event config direction (.rx frameCount timeout))
      (Driver.view config direction { driver with recv := stream }) := by
  cases direction with
  | recv => exact .begin step nofun
  | send => exact .stutter

theorem step_tx {frameCount : UInt32} {samples : List Sample} {timeout : Timeout}
    {stream : Stream} (size : samples.length = (frameCount * (2 * config.numOut)).toNat)
    (step : driver.send.begin (i2sLocalTx config frameCount samples timeout) = some stream) :
    Step direction.side (driver.view config direction)
      (Label.event config direction (.tx frameCount samples timeout))
      (Driver.view config direction { driver with send := stream }) := by
  cases direction with
  | recv => exact .stutter
  | send => exact .begin step fun _ => size

end TaskSteps

end FwkRtos.I2s

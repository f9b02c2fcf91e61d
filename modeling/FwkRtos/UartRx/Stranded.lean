import FwkRtos.UartRx.Driver

/-!
# Bytes left behind

The interrupt handler notifies the thread of the driver before it pushes the
byte.  If the thread takes the notification and drains the buffer in between, it
waits again while the byte is left in the buffer; so no byte is left behind only
as long as every push comes before the end of the drain that its notification
starts.
-/

namespace FwkRtos.UartRx

open FwkRtos.Transition

/-- When the handler is idle and the thread waits without a notification, no byte
is left in the buffer. -/
def NotStranded (uart : Uart) : Prop :=
  uart.isr = .idle → uart.app = .take → uart.notified = 0 → uart.isrToAppFifo = []

/-- The handler is about to push a byte. -/
def IsrPoint.pushing : IsrPoint → Bool
  | .push _ => true
  | _ => false

/-- The thread is in its drain loop. -/
def AppPoint.draining : AppPoint → Bool
  | .pop _ => true
  | _ => false

/-- A byte is only pushed while a notification is pending or the drain loop is
under way. -/
def PushesInTime (config : Config) (uart : Uart) : Label → Prop
  | .isr => uart.isr.pushing = true → uart.isrToAppFifo.length < config.fifoSize →
      0 < uart.notified ∨ uart.app.draining = true
  | _ => True

/-- Somebody will look for the bytes in the buffer. -/
def Attended (uart : Uart) : Prop :=
  uart.isrToAppFifo ≠ [] → 0 < uart.notified ∨ uart.app.draining = true

theorem attended_start : Attended start :=
  fun left => absurd rfl left

theorem Attended.notStranded {uart : Uart} (attended : Attended uart) : NotStranded uart := by
  intro _ waits nothing
  by_contra left
  rcases attended left with pending | draining
  · rw [nothing] at pending
    exact Nat.lt_irrefl 0 pending
  · rw [waits] at draining
    cases draining

theorem Attended.next {config : Config} {source target : Uart} {label : Label}
    (attended : Attended source) (inTime : PushesInTime config source label)
    (step : UartRx.next config source label = some target) : Attended target := by
  intro left
  cases move_of_next step with
  | isrNotify => exact .inl (Nat.succ_pos _)
  | isrPush point room => exact inTime (by rw [point]; rfl) room
  | take | pop => exact .inr rfl
  | drained _ empty => exact absurd empty left
  | send point | flagLoad point | flagStore point | check point | report point | clear point
  | complete point =>
      -- The thread is past its drain loop, so a notification is pending.
      rcases attended left with pending | draining
      · exact .inl pending
      · rw [point] at draining
        cases draining
  | read event => cases event <;> exact attended left
  | hilByte | hilError | hilStore | isrEnter | isrOverrun | isrFlagLoad | isrFlagStore =>
      exact attended left

/-- In every run in which each byte is pushed before the drain loop that its
notification starts is over, no byte is left behind. -/
theorem notStranded_of_pushesInTime {config : Config} {schedule : List Label}
    (inTime : StepsMeet (next config) start schedule (PushesInTime config)) :
    StatesSatisfy (next config) start schedule NotStranded :=
  inTime.statesSatisfy attended_start (fun _ _ _ attended inTime step => attended.next inTime step)
    fun _ attended => attended.notStranded

instance (config : Config) (uart : Uart) : DecidablePred (PushesInTime config uart)
  | .isr => inferInstanceAs (Decidable (_ → _ → _ ∨ _))
  | .hil _ | .app | .read _ => .isTrue trivial

/-- The buffer of the sources, a stream buffer of 16 bytes and an error callback. -/
def smallUart : Config where
  bufLen := 65
  appRxBuffSize := 16
  rxErrorCb := true

/-- A byte is received and the handler runs up to the push. -/
def upToPush (byte : UInt8) : List Label :=
  [.hil (.byte byte), .isr, .isr]

/-- The handler pushes the byte, then the thread takes the notification and
delivers the byte. -/
def pushedInTime : List Label :=
  upToPush 0x55 ++ .isr :: List.replicate 6 .app

theorem pushedInTime_notStranded :
    (run (next smallUart) start pushedInTime).map (fun uart => uart.delivered) = some [0x55] ∧
      StatesSatisfy (next smallUart) start pushedInTime NotStranded :=
  ⟨by decide, notStranded_of_pushesInTime (by decide)⟩

/-- The thread takes the notification and finds the buffer empty before the
handler pushes the byte. -/
def drainedTooEarly : List Label :=
  upToPush 0x55 ++ [.app, .app, .isr]

/-- The byte is left in the buffer and the thread waits. -/
theorem drainedTooEarly_stranded :
    ¬ ∀ uart : Uart, Reachable (next smallUart) start uart → NotStranded uart := by
  intro always
  obtain ⟨uart, reachable, final⟩ := exists_reachable_of_run (next smallUart) start drainedTooEarly
    (fun uart => decide (uart.isr = .idle ∧ uart.app = .take ∧ uart.notified = 0 ∧
      uart.isrToAppFifo = [0x55])) (by decide)
  obtain ⟨idle, waits, nothing, left⟩ := of_decide_eq_true final
  have empty := always uart reachable idle waits nothing
  rw [left] at empty
  cases empty

end FwkRtos.UartRx

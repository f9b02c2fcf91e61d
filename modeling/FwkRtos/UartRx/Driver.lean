import FwkRtos.Transition.Labelled
import Mathlib.Data.UInt

/-!
# The UART receive driver

The thread of the I/O library passes every byte it receives to an interrupt
handler, the handler passes it on through a small buffer, and a thread of the
driver moves what it finds there to the stream buffer of the application.  A
step is one access to what they share or one call of a library; what would block
has no step, and neither has a write past the end of an array.  What is named
ghost is only there to state results.
-/

namespace FwkRtos.UartRx

open FwkRtos.Transition

/-! ## Callback codes -/

/-- The callback code bit positions. -/
inductive CallbackCode
  | complete
  | started
  | startBitErr
  | parityErr
  | framingErr
  | overrunErr
  deriving DecidableEq, Repr

def CallbackCode.code : CallbackCode → UInt8
  | .complete => 0
  | .started => 1
  | .startBitErr => 2
  | .parityErr => 3
  | .framingErr => 4
  | .overrunErr => 5

/-- The callback code flag masks. -/
def CallbackCode.flag (callback : CallbackCode) : UInt8 :=
  1 <<< callback.code

/-- `UR_OVERRUN_ERR_CB_FLAG`. -/
def overrunErrCbFlag : UInt8 :=
  CallbackCode.overrunErr.flag

/-- `RX_ERROR_FLAGS`. -/
def rxErrorFlags : UInt8 :=
  CallbackCode.startBitErr.flag ||| CallbackCode.parityErr.flag ||| CallbackCode.framingErr.flag

/-! ## The parts of the driver -/

/-- How the driver is built and started: `RTOS_UART_RX_BUF_LEN`, the size of the
stream buffer, and whether an error callback is registered. -/
structure Config where
  bufLen : Nat
  appRxBuffSize : Nat
  rxErrorCb : Bool

/-- The buffer between the handler and the thread of the driver holds one byte
less than its storage. -/
def Config.fifoSize (config : Config) : Nat :=
  config.bufLen - 1

/-- Where the thread of the I/O library is: receiving, or in its error callback
between reading and writing the flags. -/
inductive HilPoint
  | receive
  | flagStore (flags : UInt8)
  deriving DecidableEq

/-- Where the interrupt handler is. -/
inductive IsrPoint
  | idle
  | notify (byte : UInt8)
  | push (byte : UInt8)
  | flagLoad
  | flagStore (flags : UInt8)
  deriving DecidableEq

/-- Where the thread of the driver is. -/
inductive AppPoint
  | take
  | pop (bytes : List UInt8)
  | send (bytes : List UInt8)
  | flagLoad
  | flagStore (flags : UInt8)
  | check
  | report
  | clear
  | complete
  deriving DecidableEq

/-- `rtos_uart_rx_t`, with its threads and its interrupt handler. -/
structure Uart where
  channel : List UInt8
  isrToAppFifo : List UInt8
  cbFlags : UInt8
  appByteBuffer : List UInt8
  /-- The task notifications of the thread of the driver that it has not taken. -/
  notified : Nat
  hil : HilPoint
  isr : IsrPoint
  app : AppPoint
  /-- Ghost: the bytes received, those put in the stream buffer, and the flags of
  each call of the error callback. -/
  received : List UInt8
  delivered : List UInt8
  reports : List UInt8
  deriving DecidableEq

/-- The driver after `rtos_uart_rx_start`, once its thread is about to wait. -/
def start : Uart where
  channel := []
  isrToAppFifo := []
  cbFlags := 0
  appByteBuffer := []
  notified := 0
  hil := .receive
  isr := .idle
  app := .take
  received := []
  delivered := []
  reports := []

/-! ## The steps -/

/-- The I/O library receives a byte or calls `uart_rx_error_callback`, or the
callback runs on. -/
inductive HilEvent
  | byte (byte : UInt8)
  | error (code : CallbackCode)
  | run
  deriving DecidableEq

/-- `uart_rx_hil_thread`, with `uart_rx_error_callback`. -/
def uartRxHilThread (uart : Uart) : HilEvent → HilPoint → Option Uart
  | .byte byte, .receive =>
      some { uart with
        channel := uart.channel ++ [byte]
        received := uart.received ++ [byte] }
  | .error code, .receive => some { uart with hil := .flagStore (uart.cbFlags ||| code.flag) }
  | .run, .flagStore flags => some { uart with cbFlags := flags, hil := .receive }
  | _, _ => none

/-- `rtos_uart_rx_isr`. -/
def rtosUartRxIsr (config : Config) (uart : Uart) : IsrPoint → Option Uart
  | .idle =>
      match uart.channel with
      | [] => none
      | byte :: channel => some { uart with channel := channel, isr := .notify byte }
  | .notify byte => some { uart with notified := uart.notified + 1, isr := .push byte }
  | .push byte =>
      -- `push_byte_into_buffer` fails on a full buffer, and the byte is lost.
      if uart.isrToAppFifo.length < config.fifoSize then
        some { uart with isrToAppFifo := uart.isrToAppFifo ++ [byte], isr := .idle }
      else some { uart with isr := .flagLoad }
  | .flagLoad => some { uart with isr := .flagStore (uart.cbFlags ||| overrunErrCbFlag) }
  | .flagStore flags => some { uart with cbFlags := flags, isr := .idle }

/-- `xStreamBufferSend` without waiting: what fits is sent. -/
def Uart.streamBufferSend (config : Config) (uart : Uart) (bytes : List UInt8) : List UInt8 :=
  bytes.take (config.appRxBuffSize - uart.appByteBuffer.length)

/-- `uart_rx_app_thread`. -/
def uartRxAppThread (config : Config) (uart : Uart) : AppPoint → Option Uart
  | .take => if 0 < uart.notified then some { uart with notified := 0, app := .pop [] } else none
  | .pop bytes =>
      match uart.isrToAppFifo with
      | [] => some { uart with app := if bytes = [] then .take else .send bytes }
      | byte :: fifo =>
          if bytes.length < config.bufLen then
            some { uart with isrToAppFifo := fifo, app := .pop (bytes ++ [byte]) }
          else none
  | .send bytes =>
      let sent := uart.streamBufferSend config bytes
      some { uart with
        appByteBuffer := uart.appByteBuffer ++ sent
        delivered := uart.delivered ++ sent
        app := if sent.length ≠ bytes.length then .flagLoad else .check }
  | .flagLoad => some { uart with app := .flagStore (uart.cbFlags ||| overrunErrCbFlag) }
  | .flagStore flags => some { uart with cbFlags := flags, app := .check }
  | .check =>
      some { uart with
        app := if uart.cbFlags &&& rxErrorFlags ≠ 0 ∧ config.rxErrorCb then .report
          else .complete }
  | .report =>
      some { uart with
        reports := uart.reports ++ [uart.cbFlags &&& rxErrorFlags]
        app := .clear }
  | .clear => some { uart with cbFlags := 0, app := .complete }
  -- `rx_complete_cb`, if there is one, changes nothing of the driver by itself.
  | .complete => some { uart with app := .take }

/-- What the application does to its stream buffer. -/
inductive ReadEvent
  | receive (n : Nat)
  | reset
  deriving DecidableEq

/-- One `xStreamBufferReceive` of `rtos_uart_rx_read`, and
`rtos_uart_rx_reset_buffer`. -/
def Uart.read (uart : Uart) : ReadEvent → Uart
  | .receive n => { uart with appByteBuffer := uart.appByteBuffer.drop n }
  | .reset => { uart with appByteBuffer := [] }

/-- Who takes a step. -/
inductive Label
  | hil (event : HilEvent)
  | isr
  | app
  | read (event : ReadEvent)
  deriving DecidableEq

/-- The interleaving of the threads, the interrupt handler and the application. -/
def next (config : Config) : LStep Uart Label
  | uart, .hil event => uartRxHilThread uart event uart.hil
  | uart, .isr => rtosUartRxIsr config uart uart.isr
  | uart, .app => uartRxAppThread config uart uart.app
  | uart, .read event => some (uart.read event)

/-! ## The steps, listed -/

/-- The steps of the driver, each with its condition and its effect. -/
inductive Move (config : Config) (uart : Uart) : Label → Uart → Prop
  | hilByte (byte : UInt8) (point : uart.hil = .receive) :
      Move config uart (.hil (.byte byte)) { uart with
        channel := uart.channel ++ [byte]
        received := uart.received ++ [byte] }
  | hilError (code : CallbackCode) (point : uart.hil = .receive) :
      Move config uart (.hil (.error code))
        { uart with hil := .flagStore (uart.cbFlags ||| code.flag) }
  | hilStore {flags : UInt8} (point : uart.hil = .flagStore flags) :
      Move config uart (.hil .run) { uart with cbFlags := flags, hil := .receive }
  | isrEnter {byte : UInt8} {channel : List UInt8} (point : uart.isr = .idle)
      (head : uart.channel = byte :: channel) :
      Move config uart .isr { uart with channel := channel, isr := .notify byte }
  | isrNotify {byte : UInt8} (point : uart.isr = .notify byte) :
      Move config uart .isr { uart with notified := uart.notified + 1, isr := .push byte }
  | isrPush {byte : UInt8} (point : uart.isr = .push byte)
      (room : uart.isrToAppFifo.length < config.fifoSize) :
      Move config uart .isr
        { uart with isrToAppFifo := uart.isrToAppFifo ++ [byte], isr := .idle }
  | isrOverrun {byte : UInt8} (point : uart.isr = .push byte)
      (full : config.fifoSize ≤ uart.isrToAppFifo.length) :
      Move config uart .isr { uart with isr := .flagLoad }
  | isrFlagLoad (point : uart.isr = .flagLoad) :
      Move config uart .isr { uart with isr := .flagStore (uart.cbFlags ||| overrunErrCbFlag) }
  | isrFlagStore {flags : UInt8} (point : uart.isr = .flagStore flags) :
      Move config uart .isr { uart with cbFlags := flags, isr := .idle }
  | take (point : uart.app = .take) (pending : 0 < uart.notified) :
      Move config uart .app { uart with notified := 0, app := .pop [] }
  | pop {bytes fifo : List UInt8} {byte : UInt8} (point : uart.app = .pop bytes)
      (head : uart.isrToAppFifo = byte :: fifo) :
      Move config uart .app { uart with isrToAppFifo := fifo, app := .pop (bytes ++ [byte]) }
  | drained {bytes : List UInt8} (point : uart.app = .pop bytes)
      (empty : uart.isrToAppFifo = []) :
      Move config uart .app { uart with app := if bytes = [] then .take else .send bytes }
  | send {bytes : List UInt8} (point : uart.app = .send bytes) :
      Move config uart .app { uart with
        appByteBuffer := uart.appByteBuffer ++ uart.streamBufferSend config bytes
        delivered := uart.delivered ++ uart.streamBufferSend config bytes
        app := if (uart.streamBufferSend config bytes).length ≠ bytes.length then .flagLoad
          else .check }
  | flagLoad (point : uart.app = .flagLoad) :
      Move config uart .app { uart with app := .flagStore (uart.cbFlags ||| overrunErrCbFlag) }
  | flagStore {flags : UInt8} (point : uart.app = .flagStore flags) :
      Move config uart .app { uart with cbFlags := flags, app := .check }
  | check (point : uart.app = .check) :
      Move config uart .app { uart with
        app := if uart.cbFlags &&& rxErrorFlags ≠ 0 ∧ config.rxErrorCb then .report
          else .complete }
  | report (point : uart.app = .report) :
      Move config uart .app { uart with
        reports := uart.reports ++ [uart.cbFlags &&& rxErrorFlags]
        app := .clear }
  | clear (point : uart.app = .clear) :
      Move config uart .app { uart with cbFlags := 0, app := .complete }
  | complete (point : uart.app = .complete) : Move config uart .app { uart with app := .take }
  | read (event : ReadEvent) : Move config uart (.read event) (uart.read event)

/-- Every step is listed. -/
theorem move_of_next {config : Config} {source target : Uart} {label : Label}
    (step : next config source label = some target) : Move config source label target := by
  cases label with
  | hil event =>
      cases point : source.hil with
      | receive =>
          simp only [next, point] at step
          cases event with
          | byte byte =>
              cases step
              exact .hilByte byte point
          | error code =>
              cases step
              exact .hilError code point
          | run => cases step
      | flagStore flags =>
          simp only [next, point] at step
          cases event with
          | byte byte => cases step
          | error code => cases step
          | run =>
              cases step
              exact .hilStore point
  | isr =>
      cases point : source.isr with
      | idle =>
          simp only [next, point, rtosUartRxIsr] at step
          split at step
          · cases step
          · next byte channel head =>
              cases step
              exact .isrEnter point head
      | notify byte =>
          simp only [next, point] at step
          cases step
          exact .isrNotify point
      | push byte =>
          simp only [next, point, rtosUartRxIsr] at step
          split at step
          · next room =>
              cases step
              exact .isrPush point room
          · next full =>
              cases step
              exact .isrOverrun point (Nat.le_of_not_lt full)
      | flagLoad =>
          simp only [next, point] at step
          cases step
          exact .isrFlagLoad point
      | flagStore flags =>
          simp only [next, point] at step
          cases step
          exact .isrFlagStore point
  | app =>
      cases point : source.app with
      | take =>
          simp only [next, point, uartRxAppThread, Option.ite_none_right_eq_some,
            Option.some.injEq] at step
          obtain ⟨pending, rfl⟩ := step
          exact .take point pending
      | pop bytes =>
          simp only [next, point, uartRxAppThread] at step
          split at step
          · next empty =>
              cases step
              exact .drained point empty
          · next byte fifo head =>
              rw [Option.ite_none_right_eq_some, Option.some.injEq] at step
              obtain ⟨_, rfl⟩ := step
              exact .pop point head
      | send bytes =>
          simp only [next, point] at step
          cases step
          exact .send point
      | flagLoad =>
          simp only [next, point] at step
          cases step
          exact .flagLoad point
      | flagStore flags =>
          simp only [next, point] at step
          cases step
          exact .flagStore point
      | check =>
          simp only [next, point] at step
          cases step
          exact .check point
      | report =>
          simp only [next, point] at step
          cases step
          exact .report point
      | clear =>
          simp only [next, point] at step
          cases step
          exact .clear point
      | complete =>
          simp only [next, point] at step
          cases step
          exact .complete point
  | read event =>
      cases step
      exact .read event

end FwkRtos.UartRx

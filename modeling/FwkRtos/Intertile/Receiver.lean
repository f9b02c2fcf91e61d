import FwkRtos.Intertile.Frame
import FwkRtos.Osal
import FwkRtos.Transition.Labelled

/-!
# The receiving side of an intertile link

The first byte of a message triggers an interrupt; its handler reads the port, and sets the
flag of the task that listens on it.  That task reads the rest, and enables the trigger
again.
-/

namespace FwkRtos.Intertile

open FwkRtos.Transition
open FwkRtos.Osal (Timeout rtosOsalPortWaitForever)

universe u

/-! ## Who listens -/

/-- The tasks listen on ports of their own, each a bit of the event group, which has 24. -/
structure Listeners (T : Type u) where
  port : T → UInt8
  injective : Function.Injective port
  inGroup : ∀ task, port task < 24

/-- The pieces of which a task reads a message of this length, after
`rtos_intertile_rx_len` has returned it. -/
abbrev Plan := UInt32 → List UInt32

/-- Where a task is.  What it has read of a message goes with it. -/
inductive RxPoint
  | idle
  | rxGet (timeout : Timeout)
  | rxWord
  | rxMalloc (len : UInt32)
  | rxBytes (left : Nat) (msg : List UInt8)
  | rxEnable (msg : List UInt8)
  | lenGet (timeout : Timeout) (plan : Plan)
  | lenAssert (plan : Plan)
  | lenWord (plan : Plan)
  | lenReturn (timedOut : Bool) (plan : Plan)
  | dataLen (piece : UInt32) (pieces : List UInt32) (data : List UInt8)
  | dataBytes (left : Nat) (rxLen : UInt32) (pieces : List UInt32) (data : List UInt8)
  | dataSub (rxLen : UInt32) (pieces : List UInt32) (data : List UInt8)
  | dataTest (pieces : List UInt32) (data : List UInt8)
  | dataEnable (pieces : List UInt32) (data : List UInt8)
  | trap

inductive RxIsr
  | idle
  | inByte
  | setBits (port : UInt8)
  deriving DecidableEq

/-- What the tasks and the interrupt handler do with the trigger and the channel. -/
inductive RxEvent (T : Type u)
  | disable
  | port (byte : UInt8)
  | word (task : T) (bytes : List UInt8)
  | byte (task : T) (byte : UInt8)
  | enable (task : T)
  deriving DecidableEq

/-- What a task gets: a message, or no more than what the call returns that timed out. -/
inductive RxResult
  | received (bytes : List UInt8)
  | timedOut (len : UInt32)
  deriving DecidableEq

/-- The link and its tasks.  What was sent arrives one byte after the other.  Ghost: the
messages sent, each with its listener, and what every task got. -/
structure Receiver (T : Type u) where
  wire : List UInt8
  channel : List UInt8
  trigger : Bool
  isr : RxIsr
  events : UInt8 → Bool
  rxLen : UInt32
  point : T → RxPoint
  trace : List (RxEvent T)
  sent : List (T × Message)
  results : T → List RxResult

section
variable {T : Type u} [DecidableEq T]

def Receiver.goTo (receiver : Receiver T) (task : T) (point : RxPoint) : Receiver T :=
  { receiver with point := Function.update receiver.point task point }

/-- Something was done with the channel, which holds these bytes now. -/
def Receiver.input (receiver : Receiver T) (event : RxEvent T) (channel : List UInt8) :
    Receiver T :=
  { receiver with channel := channel, trace := receiver.trace ++ [event] }

/-- `triggerable_enable_trigger`. -/
def Receiver.enable (receiver : Receiver T) (task : T) : Receiver T :=
  { receiver with trigger := true, trace := receiver.trace ++ [.enable task] }

/-- Ghost: the task has a result. -/
def Receiver.result (receiver : Receiver T) (task : T) (result : RxResult) : Receiver T :=
  { receiver with
    results := Function.update receiver.results task (receiver.results task ++ [result]) }

/-! ## The driver -/

/-- `rtos_intertile_isr`, when the trigger is enabled and the channel is not empty. -/
def rtosIntertileIsr (receiver : Receiver T) : Option (Receiver T) :=
  match receiver.isr with
  | .idle =>
      if receiver.trigger = true ∧ receiver.channel ≠ [] then
        some { receiver.input .disable receiver.channel with trigger := false, isr := .inByte }
      else none
  | .inByte =>
      match receiver.channel with
      | [] => none
      | port :: channel => some { receiver.input (.port port) channel with isr := .setBits port }
  | .setBits port =>
      some { receiver with events := Function.update receiver.events port true, isr := .idle }

/-- `rtos_osal_event_group_get_bits` of a task that looks at its own flag, which it clears. -/
def Receiver.getBits? (listeners : Listeners T) (receiver : Receiver T) (task : T) :
    Option (Receiver T) :=
  if receiver.events (listeners.port task) = true then
    some { receiver with
      events := Function.update receiver.events (listeners.port task) false }
  else none

/-- `s_chan_in_word`. -/
def Receiver.inWord? (receiver : Receiver T) (task : T) : Option (UInt32 × Receiver T) :=
  if 4 ≤ receiver.channel.length then
    some (wordOfBytes (receiver.channel.take 4),
      receiver.input (.word task (receiver.channel.take 4)) (receiver.channel.drop 4))
  else none

/-- `rtos_intertile_rx`. -/
def rtosIntertileRx (listeners : Listeners T) (receiver : Receiver T) (task : T) :
    Option (Receiver T) :=
  match receiver.point task with
  | .rxGet _ => (receiver.getBits? listeners task).map (·.goTo task .rxWord)
  | .rxWord =>
      (receiver.inWord? task).map fun read => read.2.goTo task (.rxMalloc read.1)
  | .rxMalloc len => some (receiver.goTo task (.rxBytes len.toNat []))
  | .rxBytes 0 msg => some (receiver.goTo task (.rxEnable msg))
  | .rxBytes (left + 1) msg =>
      match receiver.channel with
      | [] => none
      | byte :: channel =>
          some ((receiver.input (.byte task byte) channel).goTo task
            (.rxBytes left (msg ++ [byte])))
  | .rxEnable msg => some (((receiver.enable task).result task (.received msg)).goTo task .idle)
  | _ => none

/-- `rtos_intertile_rx_len`; it returns `rx_len` as it is then. -/
def rtosIntertileRxLen (listeners : Listeners T) (receiver : Receiver T) (task : T) :
    Option (Receiver T) :=
  match receiver.point task with
  | .lenGet _ plan => (receiver.getBits? listeners task).map (·.goTo task (.lenAssert plan))
  | .lenAssert plan =>
      some (receiver.goTo task (if receiver.rxLen = 0 then .lenWord plan else .trap))
  | .lenWord plan =>
      (receiver.inWord? task).map fun read =>
        { read.2 with rxLen := read.1 }.goTo task (.lenReturn false plan)
  | .lenReturn timedOut plan =>
      let returned :=
        if timedOut then receiver.result task (.timedOut receiver.rxLen) else receiver
      match plan receiver.rxLen with
      | piece :: pieces => some (returned.goTo task (.dataLen piece pieces []))
      | [] =>
          if timedOut then some (returned.goTo task .idle)
          else some ((returned.result task (.received [])).goTo task .idle)
  | _ => none

/-- The next call of `rtos_intertile_rx_data`, or the end of the message. -/
def Receiver.nextRead (receiver : Receiver T) (task : T) (data : List UInt8) :
    List UInt32 → Receiver T
  | [] => (receiver.result task (.received data)).goTo task .idle
  | piece :: pieces => receiver.goTo task (.dataLen piece pieces data)

/-- `rtos_intertile_rx_data`. -/
def rtosIntertileRxData (receiver : Receiver T) (task : T) : Option (Receiver T) :=
  match receiver.point task with
  | .dataLen len pieces data =>
      let rxLen := if len ≤ receiver.rxLen then len else receiver.rxLen
      some (receiver.goTo task (.dataBytes rxLen.toNat rxLen pieces data))
  | .dataBytes 0 rxLen pieces data => some (receiver.goTo task (.dataSub rxLen pieces data))
  | .dataBytes (left + 1) rxLen pieces data =>
      match receiver.channel with
      | [] => none
      | byte :: channel =>
          some ((receiver.input (.byte task byte) channel).goTo task
            (.dataBytes left rxLen pieces (data ++ [byte])))
  | .dataSub rxLen pieces data =>
      some ({ receiver with rxLen := receiver.rxLen - rxLen }.goTo task (.dataTest pieces data))
  | .dataTest pieces data =>
      if receiver.rxLen = 0 then some (receiver.goTo task (.dataEnable pieces data))
      else some (receiver.nextRead task data pieces)
  | .dataEnable pieces data => some ((receiver.enable task).nextRead task data pieces)
  | _ => none

/-- A task goes on. -/
def runRx (listeners : Listeners T) (receiver : Receiver T) (task : T) : Option (Receiver T) :=
  match receiver.point task with
  | .idle | .trap => none
  | .rxGet _ | .rxWord | .rxMalloc _ | .rxBytes _ _ | .rxEnable _ =>
      rtosIntertileRx listeners receiver task
  | .lenGet _ _ | .lenAssert _ | .lenWord _ | .lenReturn _ _ =>
      rtosIntertileRxLen listeners receiver task
  | .dataLen _ _ _ | .dataBytes _ _ _ _ | .dataSub _ _ _ | .dataTest _ _ | .dataEnable _ _ =>
      rtosIntertileRxData receiver task

/-- The timeout of a task that waits runs out, if it can, before the flag is set. -/
def expires (listeners : Listeners T) (receiver : Receiver T) (task : T) : Option (Receiver T) :=
  if receiver.events (listeners.port task) = true then none
  else
    match receiver.point task with
    | .rxGet timeout =>
        if timeout = rtosOsalPortWaitForever then none
        else some ((receiver.result task (.timedOut 0)).goTo task .idle)
    | .lenGet timeout plan =>
        if timeout = rtosOsalPortWaitForever then none
        else some (receiver.goTo task (.lenReturn true plan))
    | _ => none

/-! ## The whole -/

/-- How a task listens: with `rtos_intertile_rx`, or with `rtos_intertile_rx_len` and
`rtos_intertile_rx_data`. -/
inductive Listens
  | rx
  | rxLen (plan : Plan)

/-- A message is sent to a task, a byte arrives, the interrupt handler runs, or a task
listens, goes on, gives up waiting, or gets no memory. -/
inductive RxLabel (T : Type u)
  | send (task : T) (bytes : List UInt8) (fits : bytes.length < 2 ^ 32)
  | arrive
  | isr
  | listen (task : T) (listens : Listens) (timeout : Timeout)
  | run (task : T)
  | expire (task : T)
  | mallocFails (task : T)

def nextRx (listeners : Listeners T) : LStep (Receiver T) (RxLabel T)
  | receiver, .send task bytes fits =>
      let message : Message := ⟨listeners.port task, bytes, fits⟩
      some { receiver with
        wire := receiver.wire ++ message.frame
        sent := receiver.sent ++ [(task, message)] }
  | receiver, .arrive =>
      match receiver.wire with
      | [] => none
      | byte :: wire => some { receiver with wire := wire, channel := receiver.channel ++ [byte] }
  | receiver, .isr => rtosIntertileIsr receiver
  | receiver, .listen task listens timeout =>
      match receiver.point task with
      | .idle =>
          match listens with
          | .rx => some (receiver.goTo task (.rxGet timeout))
          | .rxLen plan => some (receiver.goTo task (.lenGet timeout plan))
      | _ => none
  | receiver, .run task => runRx listeners receiver task
  | receiver, .expire task => expires listeners receiver task
  | receiver, .mallocFails task =>
      match receiver.point task with
      | .rxMalloc _ => some (receiver.goTo task .trap)
      | _ => none

/-- The link after `rtos_intertile_init` and `rtos_intertile_start`. -/
def startRx : Receiver T where
  wire := []
  channel := []
  trigger := true
  isr := .idle
  events _ := false
  rxLen := 0
  point _ := .idle
  trace := []
  sent := []
  results _ := []

end

end FwkRtos.Intertile

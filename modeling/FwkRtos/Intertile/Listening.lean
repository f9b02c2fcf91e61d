import FwkRtos.Intertile.Receiver

/-!
# Every message of an intertile link is received by its listener

What happens with the trigger and the channel is one block for each message, in the order in
which they were sent: the interrupt handler disables the trigger and reads the port, and the
listener of that port reads the rest and enables the trigger.
-/

namespace FwkRtos.Intertile

open FwkRtos.Transition
open FwkRtos.Osal (Timeout rtosOsalPortWaitForever)

universe u

variable {T : Type u} [DecidableEq T]

/-! ## The contract -/

/-- A message and its listener. -/
abbrev Entry (T : Type u) := T × Message

/-- What is done for a message. -/
def rxBlock (entry : Entry T) : List (RxEvent T) :=
  .disable :: .port entry.2.port :: .word entry.1 (wordBytes entry.2.len) ::
    (entry.2.bytes.map (.byte entry.1) ++ [.enable entry.1])

/-- What the messages put on the channel. -/
def frames (entries : List (Entry T)) : List UInt8 :=
  entries.flatMap fun entry => entry.2.frame

/-- The bytes that are read. -/
def RxEvent.bytes : RxEvent T → List UInt8
  | .disable | .enable _ => []
  | .port value | .byte _ value => [value]
  | .word _ bytes => bytes

/-- The bytes of the messages that a task is the listener of. -/
def received (task : T) (done : List (Entry T)) : List RxResult :=
  (done.filter fun entry => entry.1 = task).map fun entry => .received entry.2.bytes

/-- The results of calls that got a message. -/
def RxResult.isReceived : RxResult → Bool
  | .received _ => true
  | .timedOut _ => false

/-- The trace is a block for each message received, in the order in which they were sent, and
a part of the block of the next one.  The tasks have got the bytes of these messages, and 0
whenever a call timed out; what was not read is still on the link. -/
structure Received (receiver : Receiver T) : Prop where
  blocks : ∃ done rest current, receiver.sent = done ++ rest ∧
    receiver.trace = done.flatMap rxBlock ++ current ∧
      (current = [] ∧ receiver.trigger = true ∨ ∃ entry later, rest = entry :: later ∧
        current <+: rxBlock entry ∧ current ≠ [] ∧ current ≠ rxBlock entry ∧
          receiver.trigger = false) ∧
        ∀ task, (receiver.results task).filter RxResult.isReceived = received task done
  link : receiver.trace.flatMap RxEvent.bytes ++ receiver.channel ++ receiver.wire =
    frames receiver.sent
  timedOut : ∀ task len, .timedOut len ∈ receiver.results task → len = 0
  notTrapped : ∀ task, receiver.point task ≠ .trap

/-! ## The condition -/

/-- The pieces read so many bytes, and the last of these with the last piece. -/
def ReadsRest : Nat → List UInt32 → Prop
  | left, [] => left = 0
  | left, piece :: pieces => 0 < left ∧ ReadsRest (left - piece.toNat) pieces

/-- There is a piece, and the last byte of the message is read with the last one. -/
def ReadsAll (len : UInt32) : List UInt32 → Prop
  | [] => False
  | piece :: pieces => ReadsRest (len.toNat - piece.toNat) pieces

/-- What `rtos_intertile_rx_len` returns is the length of a message that is then read in
pieces, or it is 0 after a timeout, and nothing is read. -/
def ReturnsRight (receiver : Receiver T) : RxPoint → Prop
  | .lenReturn true plan => receiver.rxLen = 0 ∧ plan 0 = []
  | .lenReturn false plan => ReadsAll receiver.rxLen (plan receiver.rxLen)
  | _ => True

/-- Calls of `rtos_intertile_rx_len` return right, and memory does not run out. -/
def ListensRight (receiver : Receiver T) : RxLabel T → Prop
  | .run task => ReturnsRight receiver (receiver.point task)
  | .mallocFails _ => False
  | .send _ _ _ | .arrive | .isr | .listen _ _ _ | .expire _ => True

instance readsRestDecidable : (left : Nat) → DecidablePred (ReadsRest left)
  | _, [] => inferInstanceAs (Decidable (_ = _))
  | left, piece :: pieces =>
      have := readsRestDecidable (left - piece.toNat) pieces
      inferInstanceAs (Decidable (_ ∧ _))

instance (len : UInt32) : DecidablePred (ReadsAll len)
  | [] => .isFalse id
  | _ :: pieces => inferInstanceAs (Decidable (ReadsRest _ pieces))

instance (receiver : Receiver T) : DecidablePred (ReturnsRight receiver)
  | .lenReturn true _ => inferInstanceAs (Decidable (_ ∧ _))
  | .lenReturn false plan => inferInstanceAs (Decidable (ReadsAll _ (plan _)))
  | .idle | .rxGet _ | .rxWord | .rxMalloc _ | .rxBytes _ _ | .rxEnable _ | .lenGet _ _
  | .lenAssert _ | .lenWord _ | .dataLen _ _ _ | .dataBytes _ _ _ _ | .dataSub _ _ _
  | .dataTest _ _ | .dataEnable _ _ | .trap => .isTrue trivial

instance (receiver : Receiver T) : DecidablePred (ListensRight receiver)
  | .run task => inferInstanceAs (Decidable (ReturnsRight receiver (receiver.point task)))
  | .mallocFails _ => .isFalse id
  | .send _ _ _ | .arrive | .isr | .listen _ _ _ | .expire _ => .isTrue trivial

/-! ## What is kept -/

/-- The task is not concerned with a message. -/
def RxPoint.outside : RxPoint → Bool
  | .idle | .rxGet _ | .lenGet _ _ | .lenReturn true _ => true
  | _ => false

/-- The listener has seen its flag, and not yet read the length. -/
inductive BeforeWord : RxPoint → Prop
  | rxWord : BeforeWord .rxWord
  | lenAssert {plan : Plan} : BeforeWord (.lenAssert plan)
  | lenWord {plan : Plan} : BeforeWord (.lenWord plan)

/-- The listener has read the length, and has still to read these bytes. -/
inductive Reads (message : Message) (rxLen : UInt32) : RxPoint → List UInt8 → Prop
  | rxMalloc (none_ : rxLen = 0) : Reads message rxLen (.rxMalloc message.len) message.bytes
  | rxBytes {msg left : List UInt8} (none_ : rxLen = 0) (bytes : message.bytes = msg ++ left) :
      Reads message rxLen (.rxBytes left.length msg) left
  | rxEnable (none_ : rxLen = 0) : Reads message rxLen (.rxEnable message.bytes) []
  | lenReturn {plan : Plan} (len : rxLen = message.len) :
      Reads message rxLen (.lenReturn false plan) message.bytes
  | dataLen {piece : UInt32} {pieces : List UInt32} {data left : List UInt8}
      (bytes : message.bytes = data ++ left) (len : rxLen.toNat = left.length)
      (rest : ReadsRest (left.length - piece.toNat) pieces) :
      Reads message rxLen (.dataLen piece pieces data) left
  | dataBytes {now later : List UInt8} {count : UInt32} {pieces : List UInt32}
      {data : List UInt8} (bytes : message.bytes = data ++ (now ++ later))
      (len : rxLen.toNat = later.length + count.toNat) (rest : ReadsRest later.length pieces) :
      Reads message rxLen (.dataBytes now.length count pieces data) (now ++ later)
  | dataSub {count : UInt32} {pieces : List UInt32} {data left : List UInt8}
      (bytes : message.bytes = data ++ left) (len : rxLen.toNat = left.length + count.toNat)
      (rest : ReadsRest left.length pieces) :
      Reads message rxLen (.dataSub count pieces data) left
  | dataTest {pieces : List UInt32} {data left : List UInt8}
      (bytes : message.bytes = data ++ left) (len : rxLen.toNat = left.length)
      (rest : ReadsRest left.length pieces) : Reads message rxLen (.dataTest pieces data) left
  | dataEnable (none_ : rxLen = 0) : Reads message rxLen (.dataEnable [] message.bytes) []

/-- What is done for a message after its port was read. -/
def afterPort (entry : Entry T) : List (RxEvent T) :=
  .word entry.1 (wordBytes entry.2.len) ::
    (entry.2.bytes.map (.byte entry.1) ++ [.enable entry.1])

/-- No flag is set. -/
def noEvents : UInt8 → Bool :=
  fun _ => false

/-- Where a message is that is being received, and what has still to be done for it. -/
inductive Busy (entry : Entry T) :
    RxIsr → (UInt8 → Bool) → UInt32 → (T → RxPoint) → List (RxEvent T) → Prop
  | fired {point : T → RxPoint} (outside : ∀ task, (point task).outside = true) :
      Busy entry .inByte noEvents 0 point (.port entry.2.port :: afterPort entry)
  | read {point : T → RxPoint} (outside : ∀ task, (point task).outside = true) :
      Busy entry (.setBits entry.2.port) noEvents 0 point (afterPort entry)
  | flagged {point : T → RxPoint} (outside : ∀ task, (point task).outside = true) :
      Busy entry .idle (Function.update noEvents entry.2.port true) 0 point (afterPort entry)
  | word {point : T → RxPoint} (before : BeforeWord (point entry.1))
      (outside : ∀ task, task ≠ entry.1 → (point task).outside = true) :
      Busy entry .idle noEvents 0 point (afterPort entry)
  | reads {rxLen : UInt32} {point : T → RxPoint} {left : List UInt8}
      (reads : Reads entry.2 rxLen (point entry.1) left)
      (outside : ∀ task, task ≠ entry.1 → (point task).outside = true) :
      Busy entry .idle noEvents rxLen point (left.map (.byte entry.1) ++ [.enable entry.1])

/-- The results of the tasks are those of the messages received. -/
structure Settled (done : List (Entry T)) (results : T → List RxResult) : Prop where
  received : ∀ task, (results task).filter RxResult.isReceived = received task done
  timedOut : ∀ task len, .timedOut len ∈ results task → len = 0

/-- All messages are sent to the ports of their listeners. -/
def Addressed (listeners : Listeners T) (sent : List (Entry T)) : Prop :=
  ∀ entry ∈ sent, entry.2.port = listeners.port entry.1

/-- What the link keeps. -/
inductive RxInv (listeners : Listeners T) (receiver : Receiver T) : Prop
  | free (done rest : List (Entry T)) (sent : receiver.sent = done ++ rest)
      (trace : receiver.trace = done.flatMap rxBlock)
      (link : receiver.channel ++ receiver.wire = frames rest)
      (trigger : receiver.trigger = true) (isr : receiver.isr = .idle)
      (events : receiver.events = noEvents) (rxLen : receiver.rxLen = 0)
      (outside : ∀ task, (receiver.point task).outside = true)
      (settled : Settled done receiver.results) (addressed : Addressed listeners receiver.sent)
  | busy (done : List (Entry T)) (entry : Entry T) (rest : List (Entry T))
      (past todo : List (RxEvent T)) (sent : receiver.sent = done ++ entry :: rest)
      (trace : receiver.trace = done.flatMap rxBlock ++ past) (begun : past ≠ [])
      (block : rxBlock entry = past ++ todo)
      (link : receiver.channel ++ receiver.wire =
        todo.flatMap RxEvent.bytes ++ frames rest)
      (trigger : receiver.trigger = false)
      (busy : Busy entry receiver.isr receiver.events receiver.rxLen receiver.point todo)
      (settled : Settled done receiver.results) (addressed : Addressed listeners receiver.sent)

theorem rxInv_start (listeners : Listeners T) : RxInv listeners (startRx : Receiver T) :=
  .free [] [] rfl rfl rfl rfl rfl rfl rfl (fun _ => rfl) ⟨fun _ => rfl, fun _ _ => nofun⟩ nofun

end FwkRtos.Intertile

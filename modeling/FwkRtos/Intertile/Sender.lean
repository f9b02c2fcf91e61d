import FwkRtos.Intertile.Frame
import FwkRtos.Osal
import FwkRtos.Transition.Labelled

/-!
# The sending side of an intertile link

Tasks send whole messages, or the length of a message and then its bytes in pieces.  A
mutex keeps their messages apart: it is taken with the length and put with the last byte.
-/

namespace FwkRtos.Intertile

open FwkRtos.Transition
open FwkRtos.Osal (Mutex)

universe u

/-! ## Who sends what -/

/-- The calls that send a message: one of `rtos_intertile_tx`, or one of
`rtos_intertile_tx_len` and one of `rtos_intertile_tx_data` for each piece. -/
inductive Calls
  | tx (msg : List UInt8)
  | txPieces (pieces : List (List UInt8))
  deriving DecidableEq

def Calls.bytes : Calls → List UInt8
  | .tx msg => msg
  | .txPieces pieces => pieces.flatten

/-- What a task is to send. -/
structure Sending where
  port : UInt8
  calls : Calls
  fits : calls.bytes.length < 2 ^ 32
  deriving DecidableEq

def Sending.message (sending : Sending) : Message :=
  ⟨sending.port, sending.calls.bytes, sending.fits⟩

/-- Where a task is.  Between two calls of `rtos_intertile_tx_data` it is where the next
one begins. -/
inductive TxPoint
  | idle
  | txGet (message : Message)
  | txPort (message : Message)
  | txWord (message : Message)
  | txBytes (rest : List UInt8)
  | txPut
  | lenGet (message : Message) (pieces : List (List UInt8))
  | lenAssert (message : Message) (pieces : List (List UInt8))
  | lenStore (message : Message) (pieces : List (List UInt8))
  | lenPort (message : Message) (pieces : List (List UInt8))
  | lenWord (message : Message) (pieces : List (List UInt8))
  | dataLen (piece : List UInt8) (pieces : List (List UInt8))
  | dataBytes (rest : List UInt8) (txLen : UInt32) (pieces : List (List UInt8))
  | dataSub (txLen : UInt32) (pieces : List (List UInt8))
  | dataTest (pieces : List (List UInt8))
  | dataPut (pieces : List (List UInt8))
  | trap
  deriving DecidableEq

/-- What the tasks do that others can see. -/
inductive TxEvent (T : Type u)
  | get (task : T)
  | out (task : T) (byte : UInt8)
  | put (task : T)
  deriving DecidableEq

/-- The link and its tasks.  Ghost: what every task was asked to send. -/
structure Sender (T : Type u) where
  lock : Mutex T
  txLen : UInt32
  point : T → TxPoint
  trace : List (TxEvent T)
  sent : T → List Message

section
variable {T : Type u} [DecidableEq T]

/-- The task goes on there. -/
def Sender.goTo (sender : Sender T) (task : T) (point : TxPoint) : Sender T :=
  { sender with point := Function.update sender.point task point }

/-- The task puts bytes on the channel. -/
def Sender.output (sender : Sender T) (task : T) (bytes : List UInt8) : Sender T :=
  { sender with trace := sender.trace ++ bytes.map (.out task) }

/-- The mutex is the task's. -/
def Sender.take (sender : Sender T) (task : T) (lock : Mutex T) : Sender T :=
  { sender with lock := lock, trace := sender.trace ++ [.get task] }

/-- `rtos_osal_mutex_get`, if it need not wait. -/
def Sender.get? (sender : Sender T) (task : T) : Option (Sender T) :=
  (sender.lock.get? task).map (sender.take task)

/-- `rtos_osal_mutex_put`. -/
def Sender.put (sender : Sender T) (task : T) : Sender T :=
  { sender with lock := sender.lock.put, trace := sender.trace ++ [.put task] }

/-! ## The driver -/

/-- The next call of `rtos_intertile_tx_data`, if there is one. -/
def nextPiece : List (List UInt8) → TxPoint
  | [] => .idle
  | piece :: pieces => .dataLen piece pieces

/-- `rtos_intertile_tx`. -/
def rtosIntertileTx (sender : Sender T) (task : T) : Option (Sender T) :=
  match sender.point task with
  | .txGet message => (sender.get? task).map (·.goTo task (.txPort message))
  | .txPort message => some ((sender.output task [message.port]).goTo task (.txWord message))
  | .txWord message =>
      some ((sender.output task (wordBytes message.len)).goTo task (.txBytes message.bytes))
  | .txBytes [] => some (sender.goTo task .txPut)
  | .txBytes (byte :: rest) => some ((sender.output task [byte]).goTo task (.txBytes rest))
  | .txPut => some ((sender.put task).goTo task .idle)
  | _ => none

/-- `rtos_intertile_tx_len`. -/
def rtosIntertileTxLen (sender : Sender T) (task : T) : Option (Sender T) :=
  match sender.point task with
  | .lenGet message pieces => (sender.get? task).map (·.goTo task (.lenAssert message pieces))
  | .lenAssert message pieces =>
      some (sender.goTo task (if sender.txLen = 0 then .lenStore message pieces else .trap))
  | .lenStore message pieces =>
      some ({ sender with txLen := message.len }.goTo task (.lenPort message pieces))
  | .lenPort message pieces =>
      some ((sender.output task [message.port]).goTo task (.lenWord message pieces))
  | .lenWord message pieces =>
      some ((sender.output task (wordBytes message.len)).goTo task (nextPiece pieces))
  | _ => none

/-- `rtos_intertile_tx_data`. -/
def rtosIntertileTxData (sender : Sender T) (task : T) : Option (Sender T) :=
  match sender.point task with
  | .dataLen piece pieces =>
      let len := UInt32.ofNat piece.length
      let txLen := if len ≤ sender.txLen then len else sender.txLen
      some (sender.goTo task (.dataBytes (piece.take txLen.toNat) txLen pieces))
  | .dataBytes [] txLen pieces => some (sender.goTo task (.dataSub txLen pieces))
  | .dataBytes (byte :: rest) txLen pieces =>
      some ((sender.output task [byte]).goTo task (.dataBytes rest txLen pieces))
  | .dataSub txLen pieces =>
      some ({ sender with txLen := sender.txLen - txLen }.goTo task (.dataTest pieces))
  | .dataTest pieces =>
      some (sender.goTo task (if sender.txLen = 0 then .dataPut pieces else nextPiece pieces))
  | .dataPut pieces => some ((sender.put task).goTo task (nextPiece pieces))
  | _ => none

/-- A task goes on. -/
def runTx (sender : Sender T) (task : T) : Option (Sender T) :=
  match sender.point task with
  | .idle | .trap => none
  | .txGet _ | .txPort _ | .txWord _ | .txBytes _ | .txPut => rtosIntertileTx sender task
  | .lenGet _ _ | .lenAssert _ _ | .lenStore _ _ | .lenPort _ _ | .lenWord _ _ =>
      rtosIntertileTxLen sender task
  | .dataLen _ _ | .dataBytes _ _ _ | .dataSub _ _ | .dataTest _ | .dataPut _ =>
      rtosIntertileTxData sender task

/-! ## The whole -/

/-- A task begins to send, or goes on. -/
inductive TxLabel (T : Type u)
  | send (task : T) (sending : Sending)
  | run (task : T)
  deriving DecidableEq

/-- Ghost: the task is asked to send a message. -/
def Sender.ask (sender : Sender T) (task : T) (message : Message) : Sender T :=
  { sender with sent := Function.update sender.sent task (sender.sent task ++ [message]) }

/-- The first call of a task that sends. -/
def Sending.begin (sending : Sending) : TxPoint :=
  match sending.calls with
  | .tx _ => .txGet sending.message
  | .txPieces pieces => .lenGet sending.message pieces

def nextTx : LStep (Sender T) (TxLabel T)
  | sender, .send task sending =>
      if sender.point task = .idle then
        some ((sender.ask task sending.message).goTo task sending.begin)
      else none
  | sender, .run task => runTx sender task

/-- The link after `rtos_intertile_init`. -/
def startTx : Sender T where
  lock := .unlocked
  txLen := 0
  point _ := .idle
  trace := []
  sent _ := []

end

end FwkRtos.Intertile

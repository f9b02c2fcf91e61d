import FwkRtos.Osal
import FwkRtos.Rpc.Marshalling
import FwkRtos.Transition.Tasks

/-!
# Clients of a remote driver

Any number of tasks of one tile call `rpc_client_call_generic` on one intertile
port, as the remote functions of the I2C master and microphone array drivers
let them.  The calls are cut where `rtos_intertile_tx` and `rtos_intertile_rx`
use the mutex, the event group and the channel.  From the host the channel is a
stream of bytes: the port, the length of the message, and the message.  What
is named ghost is only there to state results.
-/

namespace FwkRtos.Rpc

open FwkRtos.Bytes
open FwkRtos.Osal
open FwkRtos.Transition

universe u v

/-- Ghost: a call, by its caller and its number among the caller's calls. -/
structure CallId (T : Type u) where
  client : T
  number : Nat
  fcode : BitVec 32
  deriving DecidableEq

/-- A call of `rpc_client_call_generic`: its number among the calls of the task,
the function code, and what follows it in the request. -/
structure ClientCall where
  number : Nat
  fcode : BitVec 32
  request : List UInt8
  deriving DecidableEq

/-- The request message. -/
def ClientCall.message (call : ClientCall) : List UInt8 :=
  intBytes call.fcode ++ call.request

def ClientCall.id {T : Type u} (call : ClientCall) (client : T) : CallId T where
  client := client
  number := call.number
  fcode := call.fcode

/-- Where a client task is.  Outside the calls it remembers the last one, with
the parameters that were copied back. -/
inductive ClientPoint
  | idle (last : Option (ClientCall × List UInt8))
  | txLock (call : ClientCall)
  | txSend (call : ClientCall)
  | txUnlock (call : ClientCall)
  | getBits (call : ClientCall)
  | blocked (call : ClientCall)
  | inWord (call : ClientCall)
  | inBuf (call : ClientCall) (length : Nat)
  | enableTrigger (call : ClientCall) (message : List UInt8)
  | parse (call : ClientCall) (message : List UInt8)
  | assertionFailed (call : ClientCall)
  deriving DecidableEq

/-- The number of a task's next call. -/
def nextNumber : Option (ClientCall × List UInt8) → Nat
  | none => 0
  | some (call, _) => call.number + 1

/-- Every task that waits for the port's event bit is released by it. -/
def ClientPoint.wake : ClientPoint → ClientPoint
  | .blocked call => .inWord call
  | point => point

/-- The driver that the host thread serves: from its state and a request it
computes the output parameters of the response, whose length is an `int`. -/
structure HostDriver (H : Type v) where
  serve : H → List UInt8 → List UInt8 × H
  bounded : ∀ host request, 4 + (serve host request).1.length < 2 ^ 31

/-- A message in a channel: the port goes to the interrupt handler of the other
tile, then the length follows, most significant byte first, and the message. -/
def frame (port : UInt8) (message : List UInt8) : List UInt8 :=
  port :: ((leBytes 4 message.length).reverse ++ message)

/-- The link between the two tiles, for one port: the client's end of it, the
channels, and the host thread. -/
structure Link (T : Type u) (H : Type v) where
  /-- The client's `rtos_intertile_t`: the mutex of `rtos_intertile_tx`, whether
  the channel may interrupt, a `set_bits` that the handler has deferred to the
  kernel, and the port's bit of the event group. -/
  lock : Mutex T
  triggerEnabled : Bool
  deferred : Bool
  eventGroup : EventFlag T
  /-- The requests under way to the host, oldest first. -/
  requests : List (CallId T × List UInt8)
  /-- The bytes under way to the client. -/
  stream : List UInt8
  /-- The driver of the host, and a response that its thread has not sent yet. -/
  host : H
  pending : Option (CallId T × List UInt8)
  /-- Ghost: the output parameters of the responses that no client has read,
  oldest first, and of all responses. -/
  unread : List (CallId T × List UInt8)
  log : List (CallId T × List UInt8)
  deriving DecidableEq

/-- What a step of a client does. -/
abbrev LinkEffect (T : Type u) (H : Type v) := Effect (Link T H) ClientPoint

/-- A client calls the remote driver, or runs on. -/
inductive ClientEvent
  | call (fcode : BitVec 32) (request : List UInt8)
  | run
  deriving DecidableEq

/-- The interrupt handler and the kernel task that sets event bits for it on the
client's tile; the host thread, between `rtos_intertile_rx` and
`rtos_intertile_tx`. -/
inductive SystemEvent
  | isr
  | setBits
  | serve
  | transmit
  deriving DecidableEq

section

variable {T : Type u} {H : Type v} [DecidableEq T]

/-- One step of a client. -/
def clientStep (client : T) : ClientEvent → Link T H → ClientPoint → Option (LinkEffect T H)
  | .call fcode request, link, .idle last =>
      some { shared := link
             own := .txLock { number := nextNumber last, fcode := fcode, request := request } }
  | .call _ _, _, _ => none
  | .run, _, .idle _ => none
  | .run, link, .txLock call =>
      (link.lock.get? client).map fun lock =>
        { shared := { link with lock := lock }, own := .txSend call }
  | .run, link, .txSend call =>
      some { shared := { link with requests := link.requests ++ [(call.id client, call.message)] }
             own := .txUnlock call }
  | .run, link, .txUnlock call =>
      some { shared := { link with lock := link.lock.put }, own := .getBits call }
  | .run, link, .getBits call =>
      let (eventGroup, outcome) := link.eventGroup.getBits client rtosOsalPortWaitForever
      some { shared := { link with eventGroup := eventGroup }
             own := match outcome with
               | .blocked => .blocked call
               | .status _ => .inWord call }
  | .run, _, .blocked _ => none
  | .run, link, .inWord call =>
      if 4 ≤ link.stream.length then
        some { shared := { link with stream := link.stream.drop 4 }
               own := .inBuf call (leValue (link.stream.take 4).reverse) }
      else none
  | .run, link, .inBuf call length =>
      if length ≤ link.stream.length then
        some { shared := { link with
                 stream := link.stream.drop length
                 unread := link.unread.tail }
               own := .enableTrigger call (link.stream.take length) }
      else none
  | .run, link, .enableTrigger call message =>
      some { shared := { link with triggerEnabled := true }, own := .parse call message }
  | .run, link, .parse call message =>
      if message.length ≠ 0 ∧ intOfBytes (slice message 0 4) = call.fcode then
        some { shared := link, own := .idle (some (call, message.drop 4)) }
      else some { shared := link, own := .assertionFailed call }
  | .run, _, .assertionFailed _ => none

/-- One step of the rest of the system. -/
def systemStep (driver : HostDriver H) (port : UInt8) :
    SystemEvent → Link T H → Option (Link T H × (ClientPoint → ClientPoint))
  | .isr, link =>
      -- `rtos_intertile_isr`; the bits of the other ports are not modelled.
      match link.stream with
      | byte :: stream =>
          if link.triggerEnabled then
            some ({ link with
              triggerEnabled := false
              stream := stream
              deferred := link.deferred || byte == port }, fun point => point)
          else none
      | [] => none
  | .setBits, link =>
      if link.deferred then
        some ({ link with deferred := false, eventGroup := link.eventGroup.setBits },
          ClientPoint.wake)
      else none
  | .serve, link =>
      match link.pending, link.requests with
      | none, (id, request) :: requests =>
          let response := driver.serve link.host request
          some ({ link with
            requests := requests
            host := response.2
            pending := some (id, intBytes (intOfBytes (slice request 0 4)) ++ response.1)
            log := link.log ++ [(id, response.1)] }, fun point => point)
      | _, _ => none
  | .transmit, link =>
      match link.pending with
      | some (id, response) =>
          some ({ link with
            stream := link.stream ++ frame port response
            pending := none
            unread := link.unread ++ [(id, response.drop 4)] }, fun point => point)
      | none => none

/-- The link with all its client tasks. -/
abbrev LinkState (T : Type u) (H : Type v) := Tasks T (Link T H) ClientPoint

abbrev LinkLabel (T : Type u) := Actor T ClientEvent SystemEvent

/-- A started link that no task has used yet. -/
def startLink (host : H) : LinkState T H where
  shared :=
    { lock := Mutex.unlocked
      triggerEnabled := true
      deferred := false
      eventGroup := EventFlag.clear
      requests := []
      stream := []
      host := host
      pending := none
      unread := []
      log := [] }
  task := fun _ => .idle none

/-- The interleaving of all clients with the rest of the system. -/
def nextLink (driver : HostDriver H) (port : UInt8) : LStep (LinkState T H) (LinkLabel T) :=
  interleave clientStep (systemStep driver port)

end

end FwkRtos.Rpc

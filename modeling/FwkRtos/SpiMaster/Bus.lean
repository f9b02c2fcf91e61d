import FwkRtos.Bytes.Memory
import FwkRtos.Osal
import FwkRtos.Transition.Tasks

/-!
# The SPI master driver

Any number of tasks use the devices of one SPI bus.  A task holds the lock of the
bus from the start of a transaction to its end, and queues its operations for
`spi_xfer_thread`, which may execute them long after.  A step is one call of a
kernel object or of the SPI library, or the copying of a buffer; what would block
has no step.  What is named ghost is only there to state results.
-/

namespace FwkRtos.SpiMaster

open FwkRtos.Bytes
open FwkRtos.Osal
open FwkRtos.Transition

universe u v

/-! ## Requests -/

/-- `data_out`: null, the caller's buffer, or an allocated copy of it. -/
inductive DataOut
  | null
  | caller (address : Nat)
  | copy (block : Nat)
  deriving DecidableEq

/-- The operations of a request, each with the members that it uses. -/
inductive SpiOp
  | start (priority : UInt32)
  | xfer (dataOut : DataOut) (dataIn : Option Nat) (len : UInt32)
  | delay (len : UInt32)
  | end_
  deriving DecidableEq

/-- A call of the driver. -/
inductive Call
  | transactionStart
  | transfer (dataOut dataIn : Option Nat) (len : UInt32)
  | delayBeforeNextTransfer (delayTicks : UInt32)
  | transactionEnd
  deriving DecidableEq

/-- Ghost: a call that a task has made, its number among the calls of the task, the number of
its transaction, and what the buffer of `data_out` held then. -/
structure Issue (T : Type u) (D : Type v) where
  task : T
  number : Nat
  transaction : Nat
  ctx : D
  call : Call
  held : List UInt8
  deriving DecidableEq

/-- `spi_xfer_req_t`.  Ghost: the call that it serves. -/
structure SpiXferReq (T : Type u) (D : Type v) where
  ctx : D
  op : SpiOp
  issue : Issue T D
  deriving DecidableEq

/-- The caller waits for the data. -/
def SpiOp.receives : SpiOp → Bool
  | .xfer _ dataIn _ => dataIn.isSome
  | _ => false

/-- The copy that goes with the request. -/
def SpiOp.copy : SpiOp → Option Nat
  | .xfer (.copy block) _ _ => some block
  | _ => none

/-! ## The driver -/

/-- The priority and the core exclusion of a thread. -/
@[ext]
structure Setting where
  priority : UInt32
  exclusion : UInt32
  deriving DecidableEq

/-- Ghost: an operation that the thread has executed, the bytes that it took from `data_out` and
those it received, and the setting of the thread before and after it. -/
structure Executed (T : Type u) (D : Type v) where
  request : SpiXferReq T D
  sent : List UInt8
  received : List UInt8
  before : Setting
  after : Setting
  deriving DecidableEq

/-- Where `spi_xfer_thread` is. -/
inductive ThreadPoint (T : Type u) (D : Type v)
  | receive
  | perform (request : SpiXferReq T D)
  /-- Behind `spi_master_transfer`. -/
  | finish (request : SpiXferReq T D)
  deriving DecidableEq

/-- `rtos_spi_master_t` with its thread, the memory of the callers and the allocated copies. -/
structure Bus (T : Type u) (D : Type v) where
  lock : RecursiveMutex T
  xferReqQueue : List (SpiXferReq T D)
  dataReady : Semaphore
  opTaskPriority : UInt32
  coreMap : UInt32
  thread : ThreadPoint T D
  currentPriority : UInt32
  /-- What the kernel has for the thread. -/
  threadPriority : UInt32
  coreAffinity : UInt32
  memory : Memory
  heap : Nat → Option (List UInt8)
  /-- Ghost: how many copies were allocated, which of them were freed, what was queued and
  executed, and the transfers that have returned with what `data_in` held then. -/
  allocated : Nat
  freed : List Nat
  queued : List (SpiXferReq T D)
  executed : List (Executed T D)
  returned : List (SpiXferReq T D × List UInt8)

section
variable {T : Type u} {D : Type v}

/-- The depth that `rtos_spi_master_start` gives `xfer_req_queue`. -/
def xferReqQueueDepth : Nat := 2

/-- `rtos_osal_queue_send`, when it need not wait. -/
def Bus.queueSend? (bus : Bus T D) (request : SpiXferReq T D) :
    Option (Bus T D) :=
  if bus.xferReqQueue.length < xferReqQueueDepth then
    some { bus with
      xferReqQueue := bus.xferReqQueue ++ [request]
      queued := bus.queued ++ [request] }
  else none

/-- The setting of the thread.  The kernel keeps the cores that are not excluded. -/
def Bus.setting (bus : Bus T D) : Setting where
  priority := bus.threadPriority
  exclusion := ~~~bus.coreAffinity

/-- The thread has executed an operation and comes to a point. -/
def Bus.record (bus before : Bus T D) (request : SpiXferReq T D)
    (sent received : List UInt8) (point : ThreadPoint T D) : Bus T D :=
  { bus with
    thread := point
    executed := before.executed ++
      [{ request := request
         sent := sent
         received := received
         before := before.setting
         after := bus.setting }] }

/-! ## `spi_xfer_thread` -/

/-- `SPI_OP_START`, on a core. -/
def opStart (bus : Bus T D) (priority core : UInt32) : Bus T D :=
  let bus :=
    if bus.currentPriority ≠ priority then
      { bus with threadPriority := priority, currentPriority := priority }
    else bus
  { bus with
    coreMap := ~~~bus.coreAffinity
    -- `rtos_osal_thread_core_exclusion_set(NULL, ~(1 << core))`
    coreAffinity := ~~~(~~~((1 : UInt32) <<< core)) }

/-- The bytes that `spi_master_transfer` takes from `data_out`. -/
def Bus.dataOut (bus : Bus T D) (len : UInt32) : DataOut → List UInt8
  | .null => []
  | .caller address => bus.memory.read address len.toNat
  | .copy block => (bus.heap block).getD []

/-- `spi_master_transfer` stores what it has received. -/
def Bus.store (bus : Bus T D) (dataIn : Option Nat) (received : List UInt8) :
    Bus T D :=
  match dataIn with
  | some address => { bus with memory := bus.memory.write address received }
  | none => bus

/-- `rtos_osal_free`, of what `data_out` points to. -/
def Bus.free (bus : Bus T D) : DataOut → Bus T D
  | .copy block =>
      { bus with heap := Function.update bus.heap block none, freed := bus.freed ++ [block] }
  | _ => bus

/-- `SPI_OP_END`. -/
def opEnd (bus : Bus T D) : Bus T D :=
  let bus := { bus with coreAffinity := ~~~bus.coreMap }
  if bus.currentPriority ≠ bus.opTaskPriority then
    { bus with threadPriority := bus.opTaskPriority, currentPriority := bus.opTaskPriority }
  else bus

/-- The thread runs on; it runs on a core; or the SPI library has received bytes. -/
inductive ThreadEvent
  | run
  | onCore (core : UInt32)
  | received (bytes : List UInt8)
  deriving DecidableEq

/-- `spi_xfer_thread`. -/
def spiXferThread (bus : Bus T D) (event : ThreadEvent) : Option (Bus T D) :=
  match bus.thread, event with
  | .receive, .run =>
      match bus.xferReqQueue with
      | [] => none
      | request :: queue => some { bus with xferReqQueue := queue, thread := .perform request }
  | .perform request, event =>
      match request.op, event with
      | .start priority, .onCore core =>
          some ((opStart bus priority core).record bus request [] [] .receive)
      | .xfer dataOut dataIn len, .received bytes =>
          if bytes.length = len.toNat then
            some ((bus.store dataIn bytes).record bus request (bus.dataOut len dataOut) bytes
              (.finish request))
          else none
      | .delay _, .run => some (bus.record bus request [] [] .receive)
      | .end_, .run => some ((opEnd bus).record bus request [] [] .receive)
      | _, _ => none
  | .finish request, .run =>
      match request.op with
      | .xfer dataOut dataIn _ =>
          if dataIn.isSome then
            -- A failing `rtos_osal_semaphore_put` goes unnoticed.
            some { bus with
              dataReady := bus.dataReady.put?.getD bus.dataReady
              thread := .receive }
          else some { bus.free dataOut with thread := .receive }
      | _ => none
  | _, _ => none

/-! ## Tasks -/

/-- Where a task is. -/
inductive Point (T : Type u) (D : Type v)
  | idle
  | mutexGet (issue : Issue T D)
  | priorityGet (issue : Issue T D)
  /-- Before `rtos_osal_malloc` and `memcpy`. -/
  | copy (issue : Issue T D) (dataOut : Option Nat) (len : UInt32)
  | queueSend (request : SpiXferReq T D)
  | dataReady (request : SpiXferReq T D)
  | mutexPut
  deriving DecidableEq

/-- A task that uses the bus.  Ghost: the device of its transaction, from the call of the start
to the return of the end, the number of transactions that it has started, and its calls. -/
structure TaskState (T : Type u) (D : Type v) where
  point : Point T D
  device : Option D
  transactions : Nat
  issued : List (Issue T D)

/-- A task makes a call, or runs on; it runs on at a priority, or `rtos_osal_malloc` succeeds or
does not. -/
inductive Event (D : Type v)
  | call (ctx : D) (call : Call)
  | run
  | priority (value : UInt32)
  | malloc (succeeds : Bool)
  deriving DecidableEq

abbrev BusEffect (T : Type u) (D : Type v) := Effect (Bus T D) (TaskState T D)

/-- The task goes on and changes nothing else of its own. -/
def proceed (bus : Bus T D) (own : TaskState T D) (point : Point T D) : BusEffect T D where
  shared := bus
  own := { own with point := point }

/-- `spi_master_local_transfer`. -/
def spiMasterLocalTransfer (ctx : D) (issue : Issue T D) (dataOut dataIn : Option Nat)
    (len : UInt32) : Point T D :=
  match dataIn with
  | some address =>
      .queueSend ⟨ctx, .xfer (dataOut.elim .null .caller) (some address) len, issue⟩
  | none => .copy issue dataOut len

/-- Where a call begins. -/
def Call.point (ctx : D) (issue : Issue T D) : Call → Point T D
  | .transactionStart => .mutexGet issue
  | .transfer dataOut dataIn len => spiMasterLocalTransfer ctx issue dataOut dataIn len
  | .delayBeforeNextTransfer delayTicks => .queueSend ⟨ctx, .delay delayTicks, issue⟩
  | .transactionEnd => .queueSend ⟨ctx, .end_, issue⟩

/-- Transactions are not nested, and the calls of one are on one device. -/
def Call.Proper (device : Option D) (ctx : D) : Call → Prop
  | .transactionStart => device = none
  | _ => device = some ctx

instance [DecidableEq D] (device : Option D) (ctx : D) : DecidablePred (Call.Proper device ctx)
  | .transactionStart => inferInstanceAs (Decidable (device = none))
  | .transfer _ _ _ | .delayBeforeNextTransfer _ | .transactionEnd =>
      inferInstanceAs (Decidable (device = some ctx))

/-- What the buffer of `data_out` holds. -/
def Call.held (memory : Memory) : Call → List UInt8
  | .transfer (some address) _ len => memory.read address len.toNat
  | _ => []

/-- A task makes a call. -/
def TaskState.issue (own : TaskState T D) (task : T) (memory : Memory) (ctx : D) (call : Call) :
    Issue T D where
  task := task
  number := own.issued.length
  transaction := if call = .transactionStart then own.transactions + 1 else own.transactions
  ctx := ctx
  call := call
  held := call.held memory

/-- `rtos_osal_malloc` and `memcpy`.  Null is a buffer of no bytes: to copy more to it or from
it is a trap. -/
def Bus.copy? (bus : Bus T D) (dataOut : Option Nat) (len : UInt32)
    (succeeds : Bool) : Option (DataOut × Bus T D) :=
  if (succeeds = true ∧ dataOut.isSome) ∨ len = 0 then
    if succeeds then
      let bytes := dataOut.elim [] fun address => bus.memory.read address len.toNat
      some (.copy bus.allocated,
        { bus with
          heap := Function.update bus.heap bus.allocated (some bytes)
          allocated := bus.allocated + 1 })
    else some (.null, bus)
  else none

/-- Where a call goes on when its request is in the queue. -/
def SpiXferReq.queuedPoint (request : SpiXferReq T D) : Point T D :=
  match request.op with
  | .xfer _ (some _) _ => .dataReady request
  | .end_ => .mutexPut
  | _ => .idle

/-- What the buffer of `data_in` holds. -/
def Bus.dataIn (bus : Bus T D) : SpiOp → List UInt8
  | .xfer _ (some address) len => bus.memory.read address len.toNat
  | _ => []

variable [DecidableEq T] [DecidableEq D]

/-- One step of a task. -/
def taskStep (task : T) (event : Event D) (bus : Bus T D) (own : TaskState T D) :
    Option (BusEffect T D) :=
  match event, own.point with
  | .call ctx call, .idle =>
      if call.Proper own.device ctx then
        let issue := own.issue task bus.memory ctx call
        some
          { shared := bus
            own :=
              { point := call.point ctx issue
                device := some ctx
                transactions := issue.transaction
                issued := own.issued ++ [issue] } }
      else none
  | .run, .mutexGet issue =>
      (bus.lock.get? task).map fun lock =>
        proceed { bus with lock := lock } own (.priorityGet issue)
  | .priority value, .priorityGet issue =>
      some (proceed bus own (.queueSend ⟨issue.ctx, .start value, issue⟩))
  | .malloc succeeds, .copy issue dataOut len =>
      (bus.copy? dataOut len succeeds).map fun (data, bus) =>
        proceed bus own (.queueSend ⟨issue.ctx, .xfer data none len, issue⟩)
  | .run, .queueSend request =>
      (bus.queueSend? request).map fun bus => proceed bus own request.queuedPoint
  | .run, .dataReady request =>
      bus.dataReady.get?.map fun dataReady =>
        proceed
          { bus with
            dataReady := dataReady
            returned := bus.returned ++ [(request, bus.dataIn request.op)] }
          own .idle
  | .run, .mutexPut =>
      some
        { shared := { bus with lock := bus.lock.put task }
          own := { own with point := .idle, device := none } }
  | _, _ => none

/-! ## The whole system -/

/-- The thread takes a step, or somebody writes to the memory of the callers. -/
inductive SystemEvent
  | thread (event : ThreadEvent)
  | store (address : Nat) (bytes : List UInt8)
  deriving DecidableEq

/-- One step that belongs to no task. -/
def systemStep (event : SystemEvent) (bus : Bus T D) :
    Option (Bus T D × (TaskState T D → TaskState T D)) :=
  match event with
  | .thread event => (spiXferThread bus event).map fun bus => (bus, id)
  | .store address bytes => some ({ bus with memory := bus.memory.write address bytes }, id)

abbrev State (T : Type u) (D : Type v) := Tasks T (Bus T D) (TaskState T D)

abbrev Label (T : Type u) (D : Type v) := Actor T (Event D) SystemEvent

/-- The interleaving of all tasks with the thread and the writes to memory. -/
def next : LStep (State T D) (Label T D) :=
  interleave taskStep systemStep

omit [DecidableEq T] [DecidableEq D] in
/-- A task that has not used the bus yet. -/
def TaskState.fresh : TaskState T D where
  point := .idle
  device := none
  transactions := 0
  issued := []

omit [DecidableEq T] [DecidableEq D] in
/-- The driver after `rtos_spi_master_start`. -/
def start (priority coreAffinity : UInt32) (memory : Memory) : State T D where
  shared :=
    { lock := RecursiveMutex.unlocked
      xferReqQueue := []
      dataReady := { maxCount := 1, count := 0 }
      opTaskPriority := priority
      coreMap := 0
      thread := .receive
      currentPriority := priority
      threadPriority := priority
      coreAffinity := coreAffinity
      memory := memory
      heap := fun _ => none
      allocated := 0
      freed := []
      queued := []
      executed := []
      returned := [] }
  task := fun _ => TaskState.fresh

omit [DecidableEq T] [DecidableEq D] in
/-- The memory that a call needs to stay as it is: the buffer that is being copied, and the
buffer of a transfer that is received. -/
def Point.lent : Point T D → List (Nat × Nat)
  | .copy _ (some address) len => [(address, len.toNat)]
  | .dataReady request =>
      match request.op with
      | .xfer _ (some address) len => [(address, len.toNat)]
      | _ => []
  | _ => []

omit [DecidableEq T] [DecidableEq D] in
/-- Nobody writes to a buffer that a call is using. -/
def Respects (state : State T D) : Label T D → Prop
  | .system (.store address bytes) =>
      ∀ t, ∀ range ∈ (state.task t).point.lent,
        range.1 + range.2 ≤ address ∨ address + bytes.length ≤ range.1
  | _ => True

omit [DecidableEq T] [DecidableEq D] in
instance [Fintype T] (state : State T D) : DecidablePred (Respects state)
  | .system (.store address bytes) =>
      inferInstanceAs (Decidable (∀ t, ∀ range ∈ (state.task t).point.lent,
        range.1 + range.2 ≤ address ∨ address + bytes.length ≤ range.1))
  | .system (.thread _) | .task _ _ => .isTrue trivial

end

end FwkRtos.SpiMaster

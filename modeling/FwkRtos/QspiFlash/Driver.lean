import FwkRtos.QspiFlash.Operations
import FwkRtos.Transition.Tasks

/-!
# The QSPI flash driver

Any number of tasks use one flash driver while its operation thread serves the
queue.  A task can also stand for an interrupt handler that only makes low-level
reads.  A step is one access to the driver's variables, one call of a kernel
object or one call of the flash libraries; what would block or spin has no step.
What is named ghost is only there to state results.
-/

namespace FwkRtos.QspiFlash

open FwkRtos.Osal
open FwkRtos.Transition

universe u

/-- The largest `int`. -/
def intMax : Int := 2 ^ 31 - 1

/-! ## The parts of the driver -/

/-- A request in the queue.  Ghost: the task that made it, its number among the
operations of that task, and the lock session it was made in. -/
structure Entry (T : Type u) where
  request : OpReq
  task : T
  number : Nat
  session : Option Nat
  deriving DecidableEq

/-- Whether the operation thread executes the request. -/
def Entry.isOperation {T : Type u} (entry : Entry T) : Bool :=
  decide (entry.request.op ≠ .llSetup)

/-- The entry is an operation whose caller waits for the data. -/
def Entry.isRead {T : Type u} (entry : Entry T) : Bool :=
  entry.request.op.isRead

/-- Where the operation thread is. -/
inductive ThreadPoint (T : Type u)
  | receive
  | llClear
  | llSuspend
  | suspended
  | prioritySet (entry : Entry T)
  | switch (entry : Entry T)
  | ports (entry : Entry T) (pending : List DeviceCall)
  | connectRetry (entry : Entry T) (cnt : Nat) (pending : List DeviceCall)
  | operate (entry : Entry T) (cursor : Cursor) (pending : List DeviceCall)
  | complete (entry : Entry T)
  | record (entry : Entry T)
  | priorityReset
  | assertionFailed (entry : Entry T)
  deriving DecidableEq

/-- The operation that the thread is executing, from its receipt to its
completion. -/
def ThreadPoint.current {T : Type u} : ThreadPoint T → Option (Entry T)
  | .prioritySet entry => some entry
  | .switch entry => some entry
  | .ports entry _ => some entry
  | .connectRetry entry _ _ => some entry
  | .operate entry _ _ => some entry
  | .complete entry => some entry
  | .assertionFailed entry => some entry
  | _ => none

/-- `vTaskResume`, which does nothing to a task that is not suspended. -/
def ThreadPoint.resume {T : Type u} : ThreadPoint T → ThreadPoint T
  | .suspended => .receive
  | point => point

/-- `rtos_qspi_flash_t`, with the operation thread. -/
structure Flash (T : Type u) where
  lastOp : FlashOp
  mutex : RecursiveMutex T
  spinlock : Int
  llReqFlag : Bool
  dataReady : Semaphore
  opQueue : List (Entry T)
  threadPriority : UInt32
  thread : ThreadPoint T
  /-- Ghost: the device calls of the thread (`none`) and of the tasks, and the
  operations queued, executed, and returned from after waiting for the data. -/
  log : List (Option T × DeviceCall)
  sent : List (Entry T)
  executed : List (Entry T)
  returned : List (Entry T)
  deriving DecidableEq

/-- The depth that `rtos_qspi_flash_start` gives `op_queue`. -/
def opQueueDepth : Nat := 2

/-- `rtos_osal_queue_send`, when it need not wait. -/
def Flash.queueSend? {T : Type u} (flash : Flash T) (entry : Entry T) : Option (Flash T) :=
  if flash.opQueue.length < opQueueDepth then
    some { flash with opQueue := flash.opQueue ++ [entry] }
  else none

def Flash.record {T : Type u} (flash : Flash T) (user : Option T) (call : DeviceCall) : Flash T :=
  { flash with log := flash.log ++ [(user, call)] }

/-! ## Where a task is -/

inductive LockPoint
  | owner
  | mutexGet (mutexOwned : Bool)
  | spin
  | load
  | store (value : Int)
  deriving DecidableEq

inductive UnlockPoint
  | owner
  | load
  | store (value : Int)
  | mutexPut
  deriving DecidableEq

inductive RequestPoint
  | mutexGet
  | priorityGet
  | queueSend
  deriving DecidableEq

/-- A low-level read.  Ghost: the value of the spinlock that it found. -/
inductive LowLevelPoint
  | spinlockGet (cursor : Cursor)
  | loop (found : Int) (cursor : Cursor) (pending : List DeviceCall)
  | release (found : Int)
  deriving DecidableEq

inductive SetupPoint
  | flag
  | send
  | poll
  | resources
  | calibration
  deriving DecidableEq

inductive ShutdownPoint
  | lastOp
  | ports
  | resume
  deriving DecidableEq

/-- Where a task is; outside the calls it has the result of the last one, if
that returns one. -/
inductive Point (T : Type u)
  | idle (result : Option Int)
  | lock (point : LockPoint)
  | unlock (point : UnlockPoint)
  | request (point : RequestPoint) (op : OpReq)
  | mutexPut (entry : Entry T)
  | dataReady (entry : Entry T)
  | lowLevelRead (function : LowLevelRead) (point : LowLevelPoint)
  | setup (point : SetupPoint)
  | shutdown (point : ShutdownPoint)
  deriving DecidableEq

/-- A task that uses the flash.  Ghost: how often it has the flash locked (from
the end of a lock to the start of the unlock), how often it has locked it anew,
how many operations it has queued, and whether a low-level session of its own is
open (from the return of the setup to the call of the shutdown). -/
structure TaskState (T : Type u) where
  point : Point T
  priority : UInt32
  depth : Nat
  sessions : Nat
  issued : Nat
  llOpen : Bool
  deriving DecidableEq

/-- The session that the task's operations belong to. -/
def TaskState.session {T : Type u} (own : TaskState T) : Option Nat :=
  if 0 < own.depth then some own.sessions else none

/-- The task's request as the queue holds it. -/
def TaskState.entry {T : Type u} (own : TaskState T) (task : T) (op : OpReq) : Entry T where
  request := op
  task := task
  number := own.issued
  session := own.session

abbrev FlashEffect (T : Type u) := Effect (Flash T) (TaskState T)

/-- The task goes on and changes nothing else. -/
def proceed {T : Type u} (flash : Flash T) (own : TaskState T) (point : Point T) :
    FlashEffect T where
  shared := flash
  own := { own with point := point }

/-! ## The functions of the driver -/

section

variable {T : Type u} [DecidableEq T]

/-- `qspi_flash_local_lock`. -/
def qspiFlashLocalLock (task : T) (flash : Flash T) (own : TaskState T) :
    LockPoint → Option (FlashEffect T)
  | .owner =>
      some (proceed flash own (.lock (.mutexGet (decide (flash.mutex.holder = some task)))))
  | .mutexGet mutexOwned =>
      (flash.mutex.get? task).map fun mutex =>
        proceed { flash with mutex := mutex } own (.lock (if mutexOwned then .load else .spin))
  | .spin =>
      if flash.spinlock = 0 then
        some
          { shared := { flash with spinlock := 1 }
            own := { own with
              point := .idle none
              depth := own.depth + 1
              sessions := own.sessions + 1 } }
      else none
  | .load => some (proceed flash own (.lock (.store flash.spinlock)))
  | .store value =>
      -- A larger `int` does not exist: the increment is undefined.
      if value < intMax then
        some
          { shared := { flash with spinlock := value + 1 }
            own := { own with point := .idle none, depth := own.depth + 1 } }
      else none

/-- `qspi_flash_local_unlock`. -/
def qspiFlashLocalUnlock (task : T) (flash : Flash T) (own : TaskState T) :
    UnlockPoint → FlashEffect T
  | .owner =>
      if flash.mutex.holder = some task then
        { shared := flash, own := { own with point := .unlock .load, depth := own.depth - 1 } }
      else proceed flash own (.idle none)
  | .load => proceed flash own (.unlock (.store flash.spinlock))
  | .store value => proceed { flash with spinlock := value - 1 } own (.unlock .mutexPut)
  | .mutexPut => proceed { flash with mutex := flash.mutex.put task } own (.idle none)

/-- `request`, up to `rtos_osal_mutex_put`. -/
def request (task : T) (flash : Flash T) (own : TaskState T) (op : OpReq) :
    RequestPoint → Option (FlashEffect T)
  | .mutexGet =>
      (flash.mutex.get? task).map fun mutex =>
        proceed { flash with mutex := mutex } own (.request .priorityGet op)
  | .priorityGet =>
      some (proceed flash own (.request .queueSend { op with priority := own.priority }))
  | .queueSend =>
      (flash.queueSend? (own.entry task op)).map fun flash =>
        { shared := { flash with sent := flash.sent ++ [own.entry task op] }
          own := { own with point := .mutexPut (own.entry task op), issued := own.issued + 1 } }

/-- `rtos_qspi_flash_read_ll`, `rtos_qspi_flash_fast_read_ll` and
`rtos_qspi_flash_fast_read_mode_ll`. -/
def lowLevelRead (config : Config) (function : LowLevelRead) (task : T) (flash : Flash T)
    (own : TaskState T) : LowLevelPoint → FlashEffect T
  | .spinlockGet cursor =>
      if flash.spinlock = 0 then
        proceed { flash with spinlock := 1 } own
          (.lowLevelRead function (.loop flash.spinlock cursor []))
      else proceed flash own (.idle (some (-1)))
  | .loop found cursor (call :: pending) =>
      proceed (flash.record (some task) call) own
        (.lowLevelRead function (.loop found cursor pending))
  | .loop found cursor [] =>
      match function.iteration config cursor with
      | some (calls, rest) => proceed flash own (.lowLevelRead function (.loop found rest calls))
      | none => proceed flash own (.lowLevelRead function (.release found))
  | .release _ => proceed { flash with spinlock := 0 } own (.idle (some 0))

/-- The request that `rtos_qspi_flash_fast_read_setup_ll` queues. -/
def llSetupRequest : OpReq where
  op := .llSetup
  data := 0
  address := 0
  len := 0
  priority := 0

/-- `rtos_qspi_flash_fast_read_setup_ll`. -/
def rtosQspiFlashFastReadSetupLl (task : T) (flash : Flash T) (own : TaskState T) :
    SetupPoint → Option (FlashEffect T)
  | .flag => some (proceed { flash with llReqFlag := true } own (.setup .send))
  | .send =>
      (flash.queueSend? (own.entry task llSetupRequest)).map fun flash =>
        proceed flash own (.setup .poll)
  | .poll => if flash.llReqFlag then none else some (proceed flash own (.setup .resources))
  | .resources =>
      some (proceed (flash.record (some task) .fastReadSetupResources) own (.setup .calibration))
  | .calibration =>
      some
        { shared := flash.record (some task) .fastReadApplyCalibration
          own := { own with point := .idle none, llOpen := true } }

/-- `rtos_qspi_flash_fast_read_shutdown_ll`. -/
def rtosQspiFlashFastReadShutdownLl (task : T) (flash : Flash T) (own : TaskState T) :
    ShutdownPoint → FlashEffect T
  | .lastOp => proceed { flash with lastOp := .none } own (.shutdown .ports)
  | .ports => proceed (flash.record (some task) .fastReadShutdown) own (.shutdown .resume)
  | .resume => proceed { flash with thread := flash.thread.resume } own (.idle none)

/-! ## The operation thread -/

/-- The operation thread runs on; or it runs on and `fl_connectToDevice` fails. -/
inductive ThreadEvent
  | run
  | connectFails
  deriving DecidableEq

/-- A step of `qspi_flash_op_thread`, with `rtos_qspi_flash_fl_connect_with_retry`. -/
def qspiFlashOpThread (config : Config) (flash : Flash T) :
    ThreadEvent → ThreadPoint T → Option (Flash T)
  | .run, .receive =>
      match flash.opQueue with
      | [] => none
      | entry :: queue =>
          some { flash with
            opQueue := queue
            thread := if entry.request.op = .llSetup then .llClear else .prioritySet entry }
  | .run, .llClear => some { flash with llReqFlag := false, thread := .llSuspend }
  | .run, .llSuspend => some { flash with thread := .suspended }
  | .run, .suspended => none
  | .run, .prioritySet entry =>
      some { flash with threadPriority := entry.request.priority, thread := .switch entry }
  | .run, .switch entry =>
      some { flash with thread := .ports entry (portCalls flash.lastOp entry.request.op) }
  | .run, .ports entry (call :: pending) =>
      some { flash.record none call with thread := .ports entry pending }
  | .connectFails, .ports entry (.connectToDevice :: pending) =>
      some { flash.record none .connectToDevice with thread := .connectRetry entry 0 pending }
  | .run, .connectRetry entry _ pending =>
      some { flash.record none .connectToDevice with thread := .ports entry pending }
  | .connectFails, .connectRetry entry cnt pending =>
      some { flash.record none .connectToDevice with
        thread := if flRetryAttemptCnt ≤ cnt then .assertionFailed entry
          else .connectRetry entry (cnt + 1) pending }
  | .run, .ports entry [] =>
      some { flash with
        thread := .operate entry (entry.request.begin config).2 (entry.request.begin config).1 }
  | .run, .operate entry cursor (call :: pending) =>
      some { flash.record none call with
        thread := if call = .assert false then .assertionFailed entry
          else .operate entry cursor pending }
  | .run, .operate entry cursor [] =>
      some { flash with
        thread := match entry.request.iteration config cursor with
          | some (calls, rest) => .operate entry rest calls
          | none => .complete entry }
  | .run, .complete entry =>
      -- The buffer of a write is freed here; a failing `rtos_osal_semaphore_put`
      -- goes unnoticed.
      some { flash with
        dataReady := if entry.isRead then flash.dataReady.put?.getD flash.dataReady
          else flash.dataReady
        executed := flash.executed ++ [entry]
        thread := .record entry }
  | .run, .record entry => some { flash with lastOp := entry.request.op, thread := .priorityReset }
  | .run, .priorityReset =>
      some { flash with threadPriority := config.opTaskPriority, thread := .receive }
  | .run, .assertionFailed _ => none
  | .connectFails, _ => none

/-! ## The calls -/

/-- The request of a function before `request` fills in the priority. -/
def opRequest (op : FlashOp) (data address len : UInt32) : OpReq where
  op := op
  data := data
  address := address
  len := len
  priority := 0

def qspiFlashLocalRead (data address len : UInt32) : OpReq :=
  opRequest .read data address len

/-- `qspi_flash_local_read_mode`, which ignores the mode. -/
def qspiFlashLocalReadMode (data address len : UInt32) (_ : TransferMode) : OpReq :=
  opRequest .read data address len

def qspiFlashLocalReadModeFast (data address len : UInt32) (mode : TransferMode) : OpReq :=
  if mode = .nibbleSwap then opRequest .readFastNibbleSwap data address len
  else opRequest .readFastRaw data address len

def qspiFlashLocalReadFastRaw (data address len : UInt32) : OpReq :=
  opRequest .readFastRaw data address len

def qspiFlashLocalReadFastNs (data address len : UInt32) : OpReq :=
  opRequest .readFastNibbleSwap data address len

/-- `qspi_flash_local_write`; the data is the copy in the allocated buffer. -/
def qspiFlashLocalWrite (copy address len : UInt32) : OpReq :=
  opRequest .write copy address len

def qspiFlashLocalErase (address len : UInt32) : OpReq :=
  opRequest .erase 0 address len

/-- A call of the driver. -/
inductive Call
  | lock
  | unlock
  | read (data address len : UInt32)
  | readMode (data address len : UInt32) (mode : TransferMode)
  | readModeFast (data address len : UInt32) (mode : TransferMode)
  | readFastRaw (data address len : UInt32)
  | readFastNs (data address len : UInt32)
  | write (data address len : UInt32)
  | erase (address len : UInt32)
  | lowLevelRead (function : LowLevelRead) (data address len : UInt32)
  | fastReadSetupLl
  | fastReadShutdownLl
  deriving DecidableEq

omit [DecidableEq T] in
/-- Where a call begins. -/
def Call.entry : Call → Point T
  | .lock => .lock .owner
  | .unlock => .unlock .owner
  | .read data address len => .request .mutexGet (qspiFlashLocalRead data address len)
  | .readMode data address len mode =>
      .request .mutexGet (qspiFlashLocalReadMode data address len mode)
  | .readModeFast data address len mode =>
      .request .mutexGet (qspiFlashLocalReadModeFast data address len mode)
  | .readFastRaw data address len =>
      .request .mutexGet (qspiFlashLocalReadFastRaw data address len)
  | .readFastNs data address len => .request .mutexGet (qspiFlashLocalReadFastNs data address len)
  | .write data address len => .request .mutexGet (qspiFlashLocalWrite data address len)
  | .erase address len => .request .mutexGet (qspiFlashLocalErase address len)
  | .lowLevelRead function data address len =>
      .lowLevelRead function (.spinlockGet { data := data, address := address, len := len })
  | .fastReadSetupLl => .setup .flag
  | .fastReadShutdownLl => .shutdown .lastOp

/-- A task opens a low-level session only when it has none, and closes only its
own; everything else it may call at any time. -/
def Call.Proper (llOpen : Bool) : Call → Prop
  | .fastReadSetupLl => llOpen = false
  | .fastReadShutdownLl => llOpen = true
  | _ => True

instance (llOpen : Bool) : DecidablePred (Call.Proper llOpen)
  | .fastReadSetupLl => inferInstanceAs (Decidable (llOpen = false))
  | .fastReadShutdownLl => inferInstanceAs (Decidable (llOpen = true))
  | .lock | .unlock | .read _ _ _ | .readMode _ _ _ _ | .readModeFast _ _ _ _ | .readFastRaw _ _ _
  | .readFastNs _ _ _ | .write _ _ _ | .erase _ _ | .lowLevelRead _ _ _ _ => .isTrue trivial

/-- A task makes a call, running at a priority, or runs on. -/
inductive Event
  | call (call : Call) (priority : UInt32)
  | run
  deriving DecidableEq

/-- One step of a task. -/
def taskStep (config : Config) (task : T) (event : Event) (flash : Flash T) (own : TaskState T) :
    Option (FlashEffect T) :=
  match event, own.point with
  | .call call priority, .idle _ =>
      if call.Proper own.llOpen then
        some
          { shared := flash
            own := { own with
              point := call.entry
              priority := priority
              -- The call of the shutdown ends the session.
              llOpen := own.llOpen && decide (call ≠ .fastReadShutdownLl) } }
      else none
  | .call _ _, _ => none
  | .run, .idle _ => none
  | .run, .lock point => qspiFlashLocalLock task flash own point
  | .run, .unlock point => some (qspiFlashLocalUnlock task flash own point)
  | .run, .request point op => request task flash own op point
  | .run, .mutexPut entry =>
      some (proceed { flash with mutex := flash.mutex.put task } own
        (if entry.isRead then .dataReady entry else .idle none))
  | .run, .dataReady entry =>
      flash.dataReady.get?.map fun dataReady =>
        proceed { flash with dataReady := dataReady, returned := flash.returned ++ [entry] } own
          (.idle none)
  | .run, .lowLevelRead function point => some (lowLevelRead config function task flash own point)
  | .run, .setup point => rtosQspiFlashFastReadSetupLl task flash own point
  | .run, .shutdown point => some (rtosQspiFlashFastReadShutdownLl task flash own point)

/-- One step of the operation thread. -/
def threadStep (config : Config) (event : ThreadEvent) (flash : Flash T) :
    Option (Flash T × (TaskState T → TaskState T)) :=
  (qspiFlashOpThread config flash event flash.thread).map fun flash => (flash, fun own => own)

end

/-! ## The whole system -/

abbrev State (T : Type u) := Tasks T (Flash T) (TaskState T)

abbrev Label (T : Type u) := Actor T Event ThreadEvent

section

variable {T : Type u}

/-- A task that has not used the flash yet. -/
def TaskState.fresh : TaskState T where
  point := .idle none
  priority := 0
  depth := 0
  sessions := 0
  issued := 0
  llOpen := false

/-- The driver after `rtos_qspi_flash_start`. -/
def start (config : Config) : State T where
  shared :=
    { lastOp := .none
      mutex := RecursiveMutex.unlocked
      spinlock := 0
      llReqFlag := false
      dataReady := { maxCount := 1, count := 0 }
      opQueue := []
      threadPriority := config.opTaskPriority
      thread := .receive
      log := []
      sent := []
      executed := []
      returned := [] }
  task := fun _ => TaskState.fresh

variable [DecidableEq T]

/-- The interleaving of all tasks with the operation thread. -/
def next (config : Config) : LStep (State T) (Label T) :=
  interleave (taskStep config) (threadStep config)

end

end FwkRtos.QspiFlash

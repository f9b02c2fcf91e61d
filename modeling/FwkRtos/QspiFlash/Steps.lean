import FwkRtos.QspiFlash.Driver

/-!
# The steps of the flash driver

Every step of a task and of the operation thread, listed once with its
condition and its effect.  The invariants of the driver are proved from these
lists.
-/

namespace FwkRtos.QspiFlash

open FwkRtos.Osal
open FwkRtos.Transition

universe u

section

variable {T : Type u} [DecidableEq T]

/-- The steps of a task. -/
inductive TaskMove (config : Config) (task : T) (flash : Flash T) (own : TaskState T) :
    Event → FlashEffect T → Prop
  | call {call : Call} {priority : UInt32} {result : Option Int}
      (point : own.point = .idle result) (proper : call.Proper own.llOpen) :
      TaskMove config task flash own (.call call priority)
        { shared := flash
          own := { own with
            point := call.entry
            priority := priority
            llOpen := own.llOpen && decide (call ≠ .fastReadShutdownLl) } }
  | lockOwner (point : own.point = .lock .owner) :
      TaskMove config task flash own .run
        (proceed flash own (.lock (.mutexGet (decide (flash.mutex.holder = some task)))))
  | lockMutexGet {mutexOwned : Bool} {mutex : RecursiveMutex T}
      (point : own.point = .lock (.mutexGet mutexOwned))
      (got : flash.mutex.get? task = some mutex) :
      TaskMove config task flash own .run
        (proceed { flash with mutex := mutex } own (.lock (if mutexOwned then .load else .spin)))
  | lockSpin (point : own.point = .lock .spin) (free : flash.spinlock = 0) :
      TaskMove config task flash own .run
        { shared := { flash with spinlock := 1 }
          own := { own with
            point := .idle none
            depth := own.depth + 1
            sessions := own.sessions + 1 } }
  | lockLoad (point : own.point = .lock .load) :
      TaskMove config task flash own .run (proceed flash own (.lock (.store flash.spinlock)))
  | lockStore {value : Int} (point : own.point = .lock (.store value)) :
      TaskMove config task flash own .run
        { shared := { flash with spinlock := value + 1 }
          own := { own with point := .idle none, depth := own.depth + 1 } }
  | unlockOwner (point : own.point = .unlock .owner) (isOwner : flash.mutex.holder = some task) :
      TaskMove config task flash own .run
        { shared := flash, own := { own with point := .unlock .load, depth := own.depth - 1 } }
  | unlockNothing (point : own.point = .unlock .owner)
      (notOwner : flash.mutex.holder ≠ some task) :
      TaskMove config task flash own .run (proceed flash own (.idle none))
  | unlockLoad (point : own.point = .unlock .load) :
      TaskMove config task flash own .run (proceed flash own (.unlock (.store flash.spinlock)))
  | unlockStore {value : Int} (point : own.point = .unlock (.store value)) :
      TaskMove config task flash own .run
        (proceed { flash with spinlock := value - 1 } own (.unlock .mutexPut))
  | unlockMutexPut (point : own.point = .unlock .mutexPut) :
      TaskMove config task flash own .run
        (proceed { flash with mutex := flash.mutex.put task } own (.idle none))
  | requestMutexGet {op : OpReq} {mutex : RecursiveMutex T}
      (point : own.point = .request .mutexGet op) (got : flash.mutex.get? task = some mutex) :
      TaskMove config task flash own .run
        (proceed { flash with mutex := mutex } own (.request .priorityGet op))
  | requestPriorityGet {op : OpReq} (point : own.point = .request .priorityGet op) :
      TaskMove config task flash own .run
        (proceed flash own (.request .queueSend { op with priority := own.priority }))
  | requestQueueSend {op : OpReq} (point : own.point = .request .queueSend op)
      (room : flash.opQueue.length < opQueueDepth) :
      TaskMove config task flash own .run
        { shared := { flash with
            opQueue := flash.opQueue ++ [own.entry task op]
            sent := flash.sent ++ [own.entry task op] }
          own := { own with point := .mutexPut (own.entry task op), issued := own.issued + 1 } }
  | mutexPut {entry : Entry T} (point : own.point = .mutexPut entry) :
      TaskMove config task flash own .run
        (proceed { flash with mutex := flash.mutex.put task } own
          (if entry.isRead then .dataReady entry else .idle none))
  | dataReady {entry : Entry T} (point : own.point = .dataReady entry)
      (ready : 0 < flash.dataReady.count) :
      TaskMove config task flash own .run
        (proceed { flash with
            dataReady := { flash.dataReady with count := flash.dataReady.count - 1 }
            returned := flash.returned ++ [entry] } own (.idle none))
  | readSpinlockGet {function : LowLevelRead} {cursor : Cursor}
      (point : own.point = .lowLevelRead function (.spinlockGet cursor))
      (free : flash.spinlock = 0) :
      TaskMove config task flash own .run
        (proceed { flash with spinlock := 1 } own
          (.lowLevelRead function (.loop flash.spinlock cursor [])))
  | readUnavailable {function : LowLevelRead} {cursor : Cursor}
      (point : own.point = .lowLevelRead function (.spinlockGet cursor))
      (taken : flash.spinlock ≠ 0) :
      TaskMove config task flash own .run (proceed flash own (.idle (some (-1))))
  | readCall {function : LowLevelRead} {found : Int} {cursor : Cursor} {call : DeviceCall}
      {pending : List DeviceCall}
      (point : own.point = .lowLevelRead function (.loop found cursor (call :: pending))) :
      TaskMove config task flash own .run
        (proceed (flash.record (some task) call) own
          (.lowLevelRead function (.loop found cursor pending)))
  | readIteration {function : LowLevelRead} {found : Int} {cursor rest : Cursor}
      {calls : List DeviceCall} (point : own.point = .lowLevelRead function (.loop found cursor []))
      (more : function.iteration config cursor = some (calls, rest)) :
      TaskMove config task flash own .run
        (proceed flash own (.lowLevelRead function (.loop found rest calls)))
  | readEnd {function : LowLevelRead} {found : Int} {cursor : Cursor}
      (point : own.point = .lowLevelRead function (.loop found cursor []))
      (done : function.iteration config cursor = none) :
      TaskMove config task flash own .run
        (proceed flash own (.lowLevelRead function (.release found)))
  | readRelease {function : LowLevelRead} {found : Int}
      (point : own.point = .lowLevelRead function (.release found)) :
      TaskMove config task flash own .run
        (proceed { flash with spinlock := 0 } own (.idle (some 0)))
  | setupFlag (point : own.point = .setup .flag) :
      TaskMove config task flash own .run
        (proceed { flash with llReqFlag := true } own (.setup .send))
  | setupSend (point : own.point = .setup .send) (room : flash.opQueue.length < opQueueDepth) :
      TaskMove config task flash own .run
        (proceed { flash with opQueue := flash.opQueue ++ [own.entry task llSetupRequest] } own
          (.setup .poll))
  | setupPoll (point : own.point = .setup .poll) (answered : flash.llReqFlag = false) :
      TaskMove config task flash own .run (proceed flash own (.setup .resources))
  | setupResources (point : own.point = .setup .resources) :
      TaskMove config task flash own .run
        (proceed (flash.record (some task) .fastReadSetupResources) own (.setup .calibration))
  | setupCalibration (point : own.point = .setup .calibration) :
      TaskMove config task flash own .run
        { shared := flash.record (some task) .fastReadApplyCalibration
          own := { own with point := .idle none, llOpen := true } }
  | shutdownLastOp (point : own.point = .shutdown .lastOp) :
      TaskMove config task flash own .run
        (proceed { flash with lastOp := .none } own (.shutdown .ports))
  | shutdownPorts (point : own.point = .shutdown .ports) :
      TaskMove config task flash own .run
        (proceed (flash.record (some task) .fastReadShutdown) own (.shutdown .resume))
  | shutdownResume (point : own.point = .shutdown .resume) :
      TaskMove config task flash own .run
        (proceed { flash with thread := flash.thread.resume } own (.idle none))

/-- The steps of the operation thread.  What it does on the way from the receipt
of an operation to its completion is one case. -/
inductive ThreadMove (flash : Flash T) : Flash T → Prop
  | receiveOperation {entry : Entry T} {queue : List (Entry T)} (point : flash.thread = .receive)
      (head : flash.opQueue = entry :: queue) (isOperation : entry.isOperation = true) :
      ThreadMove flash { flash with opQueue := queue, thread := .prioritySet entry }
  | receiveSetup {entry : Entry T} {queue : List (Entry T)} (point : flash.thread = .receive)
      (head : flash.opQueue = entry :: queue) (isSetup : entry.isOperation = false) :
      ThreadMove flash { flash with opQueue := queue, thread := .llClear }
  | llClear (point : flash.thread = .llClear) :
      ThreadMove flash { flash with llReqFlag := false, thread := .llSuspend }
  | llSuspend (point : flash.thread = .llSuspend) :
      ThreadMove flash { flash with thread := .suspended }
  | work {entry : Entry T} {priority : UInt32} {thread : ThreadPoint T}
      {log : List (Option T × DeviceCall)} (before : flash.thread.current = some entry)
      (after : thread.current = some entry) :
      ThreadMove flash { flash with threadPriority := priority, thread := thread, log := log }
  | complete {entry : Entry T} (point : flash.thread = .complete entry) :
      ThreadMove flash { flash with
        dataReady := if entry.isRead then flash.dataReady.put?.getD flash.dataReady
          else flash.dataReady
        executed := flash.executed ++ [entry]
        thread := .record entry }
  | record {entry : Entry T} (point : flash.thread = .record entry) :
      ThreadMove flash { flash with lastOp := entry.request.op, thread := .priorityReset }
  | priorityReset {priority : UInt32} (point : flash.thread = .priorityReset) :
      ThreadMove flash { flash with threadPriority := priority, thread := .receive }

variable {config : Config} {task : T} {flash : Flash T} {own : TaskState T}
  {effect : FlashEffect T}

/-- Every step of a task is listed. -/
theorem taskMove_of_step {event : Event}
    (step : taskStep config task event flash own = some effect) :
    TaskMove config task flash own event effect := by
  cases event with
  | call call priority =>
      cases point : own.point with
      | idle result =>
          simp only [taskStep, point, Option.ite_none_right_eq_some, Option.some.injEq] at step
          obtain ⟨proper, rfl⟩ := step
          exact .call point proper
      | _ =>
          simp only [taskStep, point] at step
          cases step
  | run =>
      cases point : own.point with
      | idle result =>
          simp only [taskStep, point] at step
          cases step
      | lock place =>
          simp only [taskStep, point] at step
          cases place with
          | owner =>
              cases step
              exact .lockOwner point
          | mutexGet mutexOwned =>
              obtain ⟨mutex, got, rfl⟩ := Option.map_eq_some_iff.mp step
              exact .lockMutexGet point got
          | spin =>
              simp only [qspiFlashLocalLock, Option.ite_none_right_eq_some,
                Option.some.injEq] at step
              obtain ⟨free, rfl⟩ := step
              exact .lockSpin point free
          | load =>
              cases step
              exact .lockLoad point
          | store value =>
              simp only [qspiFlashLocalLock, Option.ite_none_right_eq_some,
                Option.some.injEq] at step
              obtain ⟨_, rfl⟩ := step
              exact .lockStore point
      | unlock place =>
          simp only [taskStep, point, Option.some.injEq] at step
          subst step
          cases place with
          | owner =>
              rw [qspiFlashLocalUnlock]
              split
              · next isOwner => exact .unlockOwner point isOwner
              · next notOwner => exact .unlockNothing point notOwner
          | load => exact .unlockLoad point
          | store value => exact .unlockStore point
          | mutexPut => exact .unlockMutexPut point
      | request place op =>
          simp only [taskStep, point] at step
          cases place with
          | mutexGet =>
              obtain ⟨mutex, got, rfl⟩ := Option.map_eq_some_iff.mp step
              exact .requestMutexGet point got
          | priorityGet =>
              cases step
              exact .requestPriorityGet point
          | queueSend =>
              obtain ⟨sent, queued, rfl⟩ := Option.map_eq_some_iff.mp step
              simp only [Flash.queueSend?, Option.ite_none_right_eq_some,
                Option.some.injEq] at queued
              obtain ⟨room, rfl⟩ := queued
              exact .requestQueueSend point room
      | mutexPut entry =>
          simp only [taskStep, point, Option.some.injEq] at step
          subst step
          exact .mutexPut point
      | dataReady entry =>
          simp only [taskStep, point] at step
          obtain ⟨semaphore, got, rfl⟩ := Option.map_eq_some_iff.mp step
          obtain ⟨ready, rfl⟩ := Semaphore.get?_eq_some_iff.mp got
          exact .dataReady point ready
      | lowLevelRead function place =>
          simp only [taskStep, point, Option.some.injEq] at step
          subst step
          cases place with
          | spinlockGet cursor =>
              rw [lowLevelRead]
              split
              · next free => exact .readSpinlockGet point free
              · next taken => exact .readUnavailable point taken
          | loop found cursor pending =>
              cases pending with
              | nil =>
                  rw [lowLevelRead]
                  split
                  · next calls rest more => exact .readIteration point more
                  · next done => exact .readEnd point done
              | cons call pending => exact .readCall point
          | release found => exact .readRelease point
      | setup place =>
          simp only [taskStep, point] at step
          cases place with
          | flag =>
              cases step
              exact .setupFlag point
          | send =>
              obtain ⟨sent, queued, rfl⟩ := Option.map_eq_some_iff.mp step
              simp only [Flash.queueSend?, Option.ite_none_right_eq_some,
                Option.some.injEq] at queued
              obtain ⟨room, rfl⟩ := queued
              exact .setupSend point room
          | poll =>
              simp only [rtosQspiFlashFastReadSetupLl, Option.ite_none_left_eq_some,
                Option.some.injEq, Bool.not_eq_true] at step
              obtain ⟨answered, rfl⟩ := step
              exact .setupPoll point answered
          | resources =>
              cases step
              exact .setupResources point
          | calibration =>
              cases step
              exact .setupCalibration point
      | shutdown place =>
          simp only [taskStep, point, Option.some.injEq] at step
          subst step
          cases place with
          | lastOp => exact .shutdownLastOp point
          | ports => exact .shutdownPorts point
          | resume => exact .shutdownResume point

omit [DecidableEq T] in
/-- Every step of the operation thread is listed. -/
theorem threadMove_of_step {event : ThreadEvent} {after : Flash T}
    (step : qspiFlashOpThread config flash event flash.thread = some after) :
    ThreadMove flash after := by
  generalize point : flash.thread = thread at step
  have busy : ∀ entry, thread.current = some entry → flash.thread.current = some entry := by
    intro entry current
    rw [point]
    exact current
  unfold qspiFlashOpThread at step
  split at step
  · split at step
    · cases step
    · next entry queue head =>
        cases step
        by_cases isSetup : entry.request.op = .llSetup
        · rw [if_pos isSetup]
          exact .receiveSetup point head (by simp [Entry.isOperation, isSetup])
        · rw [if_neg isSetup]
          exact .receiveOperation point head (by simp [Entry.isOperation, isSetup])
  · cases step
    exact .llClear point
  · cases step
    exact .llSuspend point
  · cases step
  · cases step
    exact .work (busy _ rfl) rfl
  · cases step
    exact .work (busy _ rfl) rfl
  · cases step
    exact .work (busy _ rfl) rfl
  · cases step
    exact .work (busy _ rfl) rfl
  · cases step
    exact .work (busy _ rfl) rfl
  · cases step
    exact .work (busy _ rfl) (by split <;> rfl)
  · cases step
    exact .work (busy _ rfl) rfl
  · cases step
    exact .work (busy _ rfl) (by split <;> rfl)
  · cases step
    exact .work (busy _ rfl) (by split <;> rfl)
  · cases step
    exact .complete point
  · cases step
    exact .record point
  · cases step
    exact .priorityReset point
  · cases step
  · cases step

/-- Every step of the system is listed. -/
theorem next_cases {source target : State T} {label : Label T}
    (step : next config source label = some target) :
    (∃ task event effect, label = .task task event ∧
      TaskMove config task source.shared (source.task task) event effect ∧
      target.shared = effect.shared ∧
      target.task = Function.update source.task task effect.own) ∨
    (∃ event, label = .system event ∧ ThreadMove source.shared target.shared ∧
      target.task = source.task) := by
  cases label with
  | task task event =>
      obtain ⟨effect, local_, rfl⟩ := interleave_task_eq_some_iff.mp step
      have move := taskMove_of_step local_
      refine .inl ⟨task, event, effect, rfl, move, rfl, ?_⟩
      have others : effect.others = id := by cases move <;> rfl
      rw [Tasks.apply, others]
      rfl
  | system event =>
      obtain ⟨effect, system, rfl⟩ := interleave_system_eq_some_iff.mp step
      obtain ⟨after, local_, rfl⟩ := Option.map_eq_some_iff.mp system
      exact .inr ⟨event, rfl, threadMove_of_step local_, rfl⟩

end

end FwkRtos.QspiFlash

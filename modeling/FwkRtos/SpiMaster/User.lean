import FwkRtos.SpiMaster.Bus

/-!
# The user of the bus

The lock of the bus is held by a task from the start of its transaction to its
end.  So at every moment at most one task can have anything to do with the queue
and the semaphore, and what becomes of the driver can be told from where that
task is.
-/

namespace FwkRtos.SpiMaster

open FwkRtos.Bytes
open FwkRtos.Osal
open FwkRtos.Transition

universe u v

variable {T : Type u} {D : Type v}

/-! ## What one step does -/

section Moves

variable [DecidableEq T] [DecidableEq D]

/-- A step of a task. -/
inductive TaskMove (task : T) (bus : Bus T D) (own : TaskState T D) :
    Event D → BusEffect T D → Prop
  | call {ctx : D} {call : Call} (point : own.point = .idle) (proper : call.Proper own.device ctx) :
      TaskMove task bus own (.call ctx call)
        { shared := bus
          own :=
            { point := call.point ctx (own.issue task bus.memory ctx call)
              device := some ctx
              transactions := (own.issue task bus.memory ctx call).transaction
              issued := own.issued ++ [own.issue task bus.memory ctx call] } }
  | mutexGet {issue : Issue T D} {lock : RecursiveMutex T} (point : own.point = .mutexGet issue)
      (got : bus.lock.get? task = some lock) :
      TaskMove task bus own .run (proceed { bus with lock := lock } own (.priorityGet issue))
  | priorityGet {issue : Issue T D} {value : UInt32} (point : own.point = .priorityGet issue) :
      TaskMove task bus own (.priority value)
        (proceed bus own (.queueSend ⟨issue.ctx, .start value, issue⟩))
  | copy {issue : Issue T D} {dataOut : Option Nat} {len : UInt32} {succeeds : Bool}
      {data : DataOut} {after : Bus T D} (point : own.point = .copy issue dataOut len)
      (copied : bus.copy? dataOut len succeeds = some (data, after)) :
      TaskMove task bus own (.malloc succeeds)
        (proceed after own (.queueSend ⟨issue.ctx, .xfer data none len, issue⟩))
  | queueSend {request : SpiXferReq T D} {after : Bus T D}
      (point : own.point = .queueSend request) (sent : bus.queueSend? request = some after) :
      TaskMove task bus own .run (proceed after own request.queuedPoint)
  | dataReady {request : SpiXferReq T D} {semaphore : Semaphore}
      (point : own.point = .dataReady request) (taken : bus.dataReady.get? = some semaphore) :
      TaskMove task bus own .run
        (proceed
          { bus with
            dataReady := semaphore
            returned := bus.returned ++ [(request, bus.dataIn request.op)] }
          own .idle)
  | mutexPut (point : own.point = .mutexPut) :
      TaskMove task bus own .run
        { shared := { bus with lock := bus.lock.put task }
          own := { own with point := .idle, device := none } }

theorem taskMove_of_step {task : T} {event : Event D} {bus : Bus T D} {own : TaskState T D}
    {effect : BusEffect T D} (step : taskStep task event bus own = some effect) :
    TaskMove task bus own event effect := by
  unfold taskStep at step
  split at step
  · next point =>
      split at step
      · next proper =>
          cases step
          exact .call point proper
      · cases step
  · next point =>
      rcases Option.map_eq_some_iff.mp step with ⟨lock, got, rfl⟩
      exact .mutexGet point got
  · next point =>
      cases step
      exact .priorityGet point
  · next point =>
      rcases Option.map_eq_some_iff.mp step with ⟨⟨data, after⟩, copied, rfl⟩
      exact .copy point copied
  · next point =>
      rcases Option.map_eq_some_iff.mp step with ⟨after, sent, rfl⟩
      exact .queueSend point sent
  · next point =>
      rcases Option.map_eq_some_iff.mp step with ⟨semaphore, taken, rfl⟩
      exact .dataReady point taken
  · next point =>
      cases step
      exact .mutexPut point
  · cases step

omit [DecidableEq T] [DecidableEq D] in
/-- A step of `spi_xfer_thread`. -/
inductive ThreadMove (bus : Bus T D) : ThreadEvent → Bus T D → Prop
  | receive {request : SpiXferReq T D} {queue : List (SpiXferReq T D)}
      (point : bus.thread = .receive) (first : bus.xferReqQueue = request :: queue) :
      ThreadMove bus .run { bus with xferReqQueue := queue, thread := .perform request }
  | start {request : SpiXferReq T D} {priority core : UInt32}
      (point : bus.thread = .perform request) (op : request.op = .start priority) :
      ThreadMove bus (.onCore core)
        ((opStart bus priority core).record bus request [] [] .receive)
  | xfer {request : SpiXferReq T D} {dataOut : DataOut} {dataIn : Option Nat} {len : UInt32}
      {bytes : List UInt8} (point : bus.thread = .perform request)
      (op : request.op = .xfer dataOut dataIn len) (length : bytes.length = len.toNat) :
      ThreadMove bus (.received bytes)
        ((bus.store dataIn bytes).record bus request (bus.dataOut len dataOut) bytes
          (.finish request))
  | delay {request : SpiXferReq T D} {len : UInt32} (point : bus.thread = .perform request)
      (op : request.op = .delay len) :
      ThreadMove bus .run (bus.record bus request [] [] .receive)
  | end_ {request : SpiXferReq T D} (point : bus.thread = .perform request)
      (op : request.op = .end_) :
      ThreadMove bus .run ((opEnd bus).record bus request [] [] .receive)
  | put {request : SpiXferReq T D} (point : bus.thread = .finish request)
      (receives : request.op.receives = true) :
      ThreadMove bus .run
        { bus with dataReady := bus.dataReady.put?.getD bus.dataReady, thread := .receive }
  | free {request : SpiXferReq T D} {dataOut : DataOut} {len : UInt32}
      (point : bus.thread = .finish request) (op : request.op = .xfer dataOut none len) :
      ThreadMove bus .run { bus.free dataOut with thread := .receive }

omit [DecidableEq T] [DecidableEq D] in
theorem threadMove_of_perform {bus after : Bus T D} {event : ThreadEvent}
    {request : SpiXferReq T D} (point : bus.thread = .perform request)
    (step : spiXferThread bus event = some after) : ThreadMove bus event after := by
  unfold spiXferThread at step
  rw [point] at step
  dsimp only at step
  cases op : request.op with
  | start priority =>
      rw [op] at step
      cases event with
      | run => cases step
      | onCore core =>
          cases step
          exact .start point op
      | received bytes => cases step
  | xfer dataOut dataIn len =>
      rw [op] at step
      cases event with
      | run => cases step
      | onCore core => cases step
      | received bytes =>
          dsimp only at step
          by_cases length : bytes.length = len.toNat
          · rw [if_pos length] at step
            cases step
            exact .xfer point op length
          · rw [if_neg length] at step
            cases step
  | delay len =>
      rw [op] at step
      cases event with
      | run =>
          cases step
          exact .delay point op
      | onCore core => cases step
      | received bytes => cases step
  | end_ =>
      rw [op] at step
      cases event with
      | run =>
          cases step
          exact .end_ point op
      | onCore core => cases step
      | received bytes => cases step

omit [DecidableEq T] [DecidableEq D] in
theorem threadMove_of_finish {bus after : Bus T D} {event : ThreadEvent}
    {request : SpiXferReq T D} (point : bus.thread = .finish request)
    (step : spiXferThread bus event = some after) : ThreadMove bus event after := by
  unfold spiXferThread at step
  rw [point] at step
  cases event with
  | onCore core => cases step
  | received bytes => cases step
  | run =>
      dsimp only at step
      cases op : request.op with
      | start priority =>
          rw [op] at step
          cases step
      | xfer dataOut dataIn len =>
          rw [op] at step
          cases dataIn with
          | some address =>
              cases step
              exact .put point (by rw [op]; rfl)
          | none =>
              cases step
              exact .free point op
      | delay len =>
          rw [op] at step
          cases step
      | end_ =>
          rw [op] at step
          cases step

omit [DecidableEq T] [DecidableEq D] in
theorem threadMove_of_step {bus after : Bus T D} {event : ThreadEvent}
    (step : spiXferThread bus event = some after) : ThreadMove bus event after := by
  cases point : bus.thread with
  | receive =>
      unfold spiXferThread at step
      rw [point] at step
      cases event with
      | onCore core => cases step
      | received bytes => cases step
      | run =>
          dsimp only at step
          cases first : bus.xferReqQueue with
          | nil =>
              rw [first] at step
              cases step
          | cons request queue =>
              rw [first] at step
              cases step
              exact .receive point first
  | perform request => exact threadMove_of_perform point step
  | finish request => exact threadMove_of_finish point step

/-- A step of the whole system. -/
inductive Move (source : State T D) : Label T D → State T D → Prop
  | task {task : T} {event : Event D} {effect : BusEffect T D}
      (move : TaskMove task source.shared (source.task task) event effect) :
      Move source (.task task event) (source.apply task effect)
  | thread {event : ThreadEvent} {bus : Bus T D} (move : ThreadMove source.shared event bus) :
      Move source (.system (.thread event)) { source with shared := bus }
  | store {address : Nat} {bytes : List UInt8} :
      Move source (.system (.store address bytes))
        { source with
          shared := { source.shared with memory := source.shared.memory.write address bytes } }

theorem move_of_next {source target : State T D} {label : Label T D}
    (step : next source label = some target) : Move source label target := by
  cases label with
  | task task event =>
      rcases interleave_task_eq_some_iff.mp step with ⟨effect, taken, rfl⟩
      exact .task (taskMove_of_step taken)
  | system event =>
      rcases interleave_system_eq_some_iff.mp step with ⟨effect, taken, rfl⟩
      cases event with
      | thread event =>
          rcases Option.map_eq_some_iff.mp taken with ⟨bus, executed, rfl⟩
          exact .thread (threadMove_of_step executed)
      | store address bytes =>
          cases taken
          exact .store

omit [DecidableEq T] [DecidableEq D] in
theorem TaskMove.others [DecidableEq T] {task : T} {bus : Bus T D} {own : TaskState T D}
    {event : Event D} {effect : BusEffect T D} (move : TaskMove task bus own event effect) :
    effect.others = id := by
  cases move <;> rfl

end Moves

/-! ## The lock -/

def Point.waits : Point T D → Bool
  | .mutexGet _ => true
  | _ => false

/-- The task has the lock. -/
def TaskState.holds (own : TaskState T D) : Bool :=
  own.device.isSome && !own.point.waits

/-- Where the task is that holds the lock. -/
def user (state : State T D) : Option (Point T D) :=
  state.shared.lock.holder.map fun t => (state.task t).point

/-- What holds of a task that is not in a transaction or waits for the lock. -/
structure TaskState.Sound (own : TaskState T D) : Prop where
  outside : own.device = none → own.point = .idle
  starts : ∀ issue, own.point = .mutexGet issue → issue.call = .transactionStart

/-- The lock is held by the task that is in a transaction and is not waiting for it. -/
structure LockInv (state : State T D) : Prop where
  owned : Owned (fun t => (state.task t).holds.toNat) state.shared.lock.holder
    state.shared.lock.count
  sound : ∀ t, (state.task t).Sound

theorem user_of_holder {state : State T D} {t : T} (holder : state.shared.lock.holder = some t) :
    user state = some (state.task t).point := by
  rw [user, holder]
  rfl

/-- What the user of the bus does; a task that is not the user can only ask for the lock. -/
inductive UserMove : Option (Point T D) → Bus T D → Option (Point T D) → Bus T D → Prop
  | ask {point : Option (Point T D)} {bus : Bus T D} : UserMove point bus point bus
  | enter {bus : Bus T D} {issue : Issue T D} {lock : RecursiveMutex T}
      (starts : issue.call = .transactionStart) :
      UserMove none bus (some (.priorityGet issue)) { bus with lock := lock }
  | call {bus : Bus T D} {issue : Issue T D} (inside : issue.call ≠ .transactionStart)
      (held : issue.held = issue.call.held bus.memory) :
      UserMove (some .idle) bus (some (issue.call.point issue.ctx issue)) bus
  | priorityGet {bus : Bus T D} {issue : Issue T D} {value : UInt32} :
      UserMove (some (.priorityGet issue)) bus
        (some (.queueSend ⟨issue.ctx, .start value, issue⟩)) bus
  | copy {bus after : Bus T D} {issue : Issue T D} {dataOut : Option Nat} {len : UInt32}
      {succeeds : Bool} {data : DataOut}
      (copied : bus.copy? dataOut len succeeds = some (data, after)) :
      UserMove (some (.copy issue dataOut len)) bus
        (some (.queueSend ⟨issue.ctx, .xfer data none len, issue⟩)) after
  | queueSend {bus after : Bus T D} {request : SpiXferReq T D}
      (sent : bus.queueSend? request = some after) :
      UserMove (some (.queueSend request)) bus (some request.queuedPoint) after
  | dataReady {bus : Bus T D} {request : SpiXferReq T D} {semaphore : Semaphore}
      (taken : bus.dataReady.get? = some semaphore) :
      UserMove (some (.dataReady request)) bus (some .idle)
        { bus with
          dataReady := semaphore
          returned := bus.returned ++ [(request, bus.dataIn request.op)] }
  | leave {bus : Bus T D} {lock : RecursiveMutex T} :
      UserMove (some .mutexPut) bus none { bus with lock := lock }

/-- A copy changes the allocated copies only. -/
theorem eq_of_copy? {bus after : Bus T D} {dataOut : Option Nat} {len : UInt32}
    {succeeds : Bool} {data : DataOut}
    (copied : bus.copy? dataOut len succeeds = some (data, after)) :
    after = { bus with heap := after.heap, allocated := after.allocated } := by
  unfold Bus.copy? at copied
  split at copied
  · split at copied <;> (cases copied; rfl)
  · cases copied

theorem lock_of_copy? {bus after : Bus T D} {dataOut : Option Nat} {len : UInt32}
    {succeeds : Bool} {data : DataOut}
    (copied : bus.copy? dataOut len succeeds = some (data, after)) : after.lock = bus.lock := by
  rw [eq_of_copy? copied]

theorem queueSend?_eq_some_iff {bus after : Bus T D} {request : SpiXferReq T D} :
    bus.queueSend? request = some after ↔ bus.xferReqQueue.length < xferReqQueueDepth ∧
      { bus with
        xferReqQueue := bus.xferReqQueue ++ [request]
        queued := bus.queued ++ [request] } = after := by
  simp [Bus.queueSend?]

theorem lock_of_queueSend? {bus after : Bus T D} {request : SpiXferReq T D}
    (sent : bus.queueSend? request = some after) : after.lock = bus.lock := by
  rcases queueSend?_eq_some_iff.mp sent with ⟨_, rfl⟩
  rfl

theorem SpiXferReq.waits_queuedPoint (request : SpiXferReq T D) :
    request.queuedPoint.waits = false := by
  unfold SpiXferReq.queuedPoint
  split <;> rfl

namespace LockInv

variable {source : State T D} {t : T}

theorem holds_of_busy (inv : LockInv source) (busy : (source.task t).point ≠ .idle)
    (inside : (source.task t).point.waits = false) : (source.task t).holds = true := by
  have device : (source.task t).device ≠ none := fun none_ => busy ((inv.sound t).outside none_)
  rw [TaskState.holds, inside, Option.isSome_iff_ne_none.mpr device]
  rfl

theorem holder_of_holds (inv : LockInv source) (holds : (source.task t).holds = true) :
    source.shared.lock.holder = some t :=
  (inv.owned.pos_iff t).mp (by rw [holds]; exact Nat.one_pos)

variable [DecidableEq T]

/-- The shares of the lock after a step of a task. -/
theorem holds_apply (source : State T D) (t : T) {effect : BusEffect T D}
    (others : effect.others = id) :
    (fun u => ((source.apply t effect).task u).holds.toNat) =
      Function.update (fun u => (source.task u).holds.toNat) t effect.own.holds.toNat := by
  funext u
  by_cases same : u = t
  · rw [same, Tasks.apply_task_self, Function.update_self]
  · rw [Tasks.apply_task_of_ne source same, Function.update_of_ne same, others]
    rfl

/-- What a step of a task leaves. -/
theorem of_apply (inv : LockInv source) {effect : BusEffect T D} (others : effect.others = id)
    (owned : Owned (Function.update (fun u => (source.task u).holds.toNat) t
      effect.own.holds.toNat) effect.shared.lock.holder effect.shared.lock.count)
    (sound : effect.own.Sound) : LockInv (source.apply t effect) where
  owned := by
    rw [holds_apply source t others]
    exact owned
  sound := by
    intro u
    by_cases same : u = t
    · rw [same, Tasks.apply_task_self]
      exact sound
    · rw [Tasks.apply_task_of_ne source same, others]
      exact inv.sound u

/-- A step of the task that has the lock and keeps it. -/
theorem of_keep (inv : LockInv source) (holds : (source.task t).holds = true)
    {effect : BusEffect T D} (others : effect.others = id)
    (lock : effect.shared.lock = source.shared.lock) (device : effect.own.device.isSome = true)
    (inside : effect.own.point.waits = false) :
    LockInv (source.apply t effect) ∧ user (source.apply t effect) = some effect.own.point := by
  have keeps : effect.own.holds = true := by rw [TaskState.holds, device, inside]; rfl
  constructor
  · apply inv.of_apply others
    · rw [lock]
      exact inv.owned.update_self (by rw [keeps, holds])
    · constructor
      · intro none_
        rw [none_] at device
        cases device
      · intro issue point
        rw [point] at inside
        cases inside
  · have holder : (source.apply t effect).shared.lock.holder = some t := by
      rw [Tasks.apply_shared, lock]
      exact inv.holder_of_holds holds
    rw [user_of_holder holder, Tasks.apply_task_self]

variable {effect : BusEffect T D}

/-- A step of a task in which it has the lock before and afterwards. -/
theorem of_busy (inv : LockInv source) (others : effect.others = id)
    (busy : (source.task t).point ≠ .idle) (before : (source.task t).point.waits = false)
    (lock : effect.shared.lock = source.shared.lock)
    (device : effect.own.device = (source.task t).device)
    (inside : effect.own.point.waits = false) :
    user source = some (source.task t).point ∧ LockInv (source.apply t effect) ∧
      user (source.apply t effect) = some effect.own.point := by
  have holds := inv.holds_of_busy busy before
  have isSome : effect.own.device.isSome = true := by
    rw [device]
    exact (Bool.and_eq_true_iff.mp holds).1
  exact ⟨user_of_holder (inv.holder_of_holds holds), inv.of_keep holds others lock isSome inside⟩

variable {event : Event D}

theorem of_taskMove (inv : LockInv source)
    (move : TaskMove t source.shared (source.task t) event effect) :
    LockInv (source.apply t effect) ∧
      UserMove (user source) source.shared (user (source.apply t effect)) effect.shared := by
  have others := move.others
  cases move with
  | @call ctx call point proper =>
      by_cases starts : call = .transactionStart
      · subst starts
        have outside : (source.task t).device = none := proper
        have free : source.shared.lock.holder ≠ some t := by
          intro holder
          have positive := (inv.owned.pos_iff t).mpr holder
          rw [TaskState.holds, outside] at positive
          exact absurd positive (Nat.lt_irrefl 0)
        constructor
        · apply inv.of_apply others
          · apply inv.owned.update_self
            rw [inv.owned.others t free]
            rfl
          · exact ⟨by rintro ⟨⟩, fun issue point => by cases point; rfl⟩
        · have same : user (source.apply t
              { shared := source.shared
                own :=
                  { point := Call.transactionStart.point ctx
                      ((source.task t).issue t source.shared.memory ctx .transactionStart)
                    device := some ctx
                    transactions := ((source.task t).issue t source.shared.memory ctx
                      .transactionStart).transaction
                    issued := (source.task t).issued ++
                      [(source.task t).issue t source.shared.memory ctx .transactionStart] } }) =
              user source := by
            unfold user
            rw [Tasks.apply_shared]
            cases holder : source.shared.lock.holder with
            | none => rfl
            | some u =>
                have different : u ≠ t := fun same => free (same ▸ holder)
                rw [Option.map_some, Option.map_some, Tasks.apply_task_of_ne source different]
                rfl
          rw [same]
          exact .ask
      · have device : (source.task t).device = some ctx := by
          cases call with
          | transactionStart => exact absurd rfl starts
          | transfer | delayBeforeNextTransfer | transactionEnd => exact proper
        have holds : (source.task t).holds = true := by
          rw [TaskState.holds, device, point]
          rfl
        have inside : (call.point ctx
            ((source.task t).issue t source.shared.memory ctx call)).waits = false := by
          cases call with
          | transactionStart => exact absurd rfl starts
          | transfer dataOut dataIn len => cases dataIn <;> rfl
          | delayBeforeNextTransfer | transactionEnd => rfl
        rcases inv.of_keep holds others rfl rfl inside with ⟨after, user_⟩
        refine ⟨after, ?_⟩
        rw [user_, user_of_holder (inv.holder_of_holds holds), point]
        exact @UserMove.call T D source.shared
          ((source.task t).issue t source.shared.memory ctx call) starts rfl
  | @mutexGet issue lock point got =>
      have waits : (source.task t).holds = false := by
        rw [TaskState.holds, point]
        exact Bool.and_false _
      have free : source.shared.lock.holder = none := by
        rcases Option.eq_none_or_eq_some source.shared.lock.holder with free | ⟨u, holder⟩
        · exact free
        · rw [RecursiveMutex.get?, holder, if_neg (by rintro ⟨⟩)] at got
          split at got
          · next own =>
              have positive := (inv.owned.pos_iff t).mpr (holder.trans own)
              rw [waits] at positive
              exact absurd positive (Nat.lt_irrefl 0)
          · cases got
      have locked : lock = ⟨some t, 1⟩ := by
        rw [RecursiveMutex.get?, if_pos free] at got
        exact (Option.some.inj got).symm
      subst locked
      have device : (source.task t).device.isSome = true := by
        rw [Option.isSome_iff_ne_none]
        intro none_
        rw [(inv.sound t).outside none_] at point
        cases point
      have holds : ({ source.task t with point := .priorityGet issue } : TaskState T D).holds =
          true := by
        rw [TaskState.holds, device]
        rfl
      constructor
      · apply inv.of_apply others
        · change Owned (Function.update _ t
            ({ source.task t with point := .priorityGet issue } : TaskState T D).holds.toNat) _ _
          rw [holds]
          exact inv.owned.set (.inl free) Nat.one_pos
        · constructor
          · intro none_
            have isSome : (source.task t).device.isSome = true := device
            rw [show (source.task t).device = none from none_] at isSome
            cases isSome
          · rintro _ ⟨⟩
      · have after : user (source.apply t (proceed
            { source.shared with lock := ⟨some t, 1⟩ } (source.task t) (.priorityGet issue))) =
            some (.priorityGet issue) := by
          rw [user_of_holder (t := t) rfl, Tasks.apply_task_self]
          rfl
        have before : user source = none := by rw [user, free]; rfl
        rw [after, before]
        exact .enter ((inv.sound t).starts issue point)
  | priorityGet point =>
      rcases inv.of_busy others (by rw [point]; rintro ⟨⟩) (by rw [point]; rfl) rfl rfl rfl with
        ⟨before, kept, after⟩
      rw [before, after, point]
      exact ⟨kept, .priorityGet⟩
  | copy point copied =>
      have lock := lock_of_copy? copied
      rcases inv.of_busy others (by rw [point]; rintro ⟨⟩) (by rw [point]; rfl) lock rfl rfl with
        ⟨before, kept, after⟩
      rw [before, after, point]
      exact ⟨kept, .copy copied⟩
  | @queueSend request _ point sent =>
      have lock := lock_of_queueSend? sent
      rcases inv.of_busy others (by rw [point]; rintro ⟨⟩) (by rw [point]; rfl) lock rfl
        request.waits_queuedPoint with ⟨before, kept, after⟩
      rw [before, after, point]
      exact ⟨kept, .queueSend sent⟩
  | dataReady point taken =>
      rcases inv.of_busy others (by rw [point]; rintro ⟨⟩) (by rw [point]; rfl) rfl rfl rfl with
        ⟨before, kept, after⟩
      rw [before, after, point]
      exact ⟨kept, .dataReady taken⟩
  | mutexPut point =>
      have holder := inv.holder_of_holds
        (inv.holds_of_busy (by rw [point]; rintro ⟨⟩) (by rw [point]; rfl))
      have once : source.shared.lock.count = 1 := by
        have mine := inv.owned.mine t holder
        rw [inv.holds_of_busy (by rw [point]; rintro ⟨⟩) (by rw [point]; rfl)] at mine
        exact mine.symm
      have unlocked : source.shared.lock.put t = RecursiveMutex.unlocked := by
        rw [RecursiveMutex.put, if_pos holder, if_pos once]
      constructor
      · apply inv.of_apply others
        · rw [unlocked]
          exact inv.owned.release holder
        · exact ⟨fun _ => rfl, by rintro _ ⟨⟩⟩
      · have after : user (source.apply t
            { shared := { source.shared with lock := source.shared.lock.put t }
              own := { source.task t with point := .idle, device := none } }) = none := by
          rw [user, Tasks.apply_shared]
          dsimp only
          rw [unlocked]
          rfl
        rw [after, user_of_holder holder, point]
        exact .leave

omit [DecidableEq T] in
/-- A step that does not touch the lock or a task. -/
theorem of_lock {bus : Bus T D} (inv : LockInv source) (lock : bus.lock = source.shared.lock) :
    LockInv { source with shared := bus } ∧ user { source with shared := bus } = user source := by
  constructor
  · exact ⟨by rw [lock]; exact inv.owned, inv.sound⟩
  · rw [user, user, lock]

end LockInv

/-- The thread touches neither the lock nor what was queued. -/
theorem ThreadMove.frame {bus after : Bus T D} {event : ThreadEvent}
    (move : ThreadMove bus event after) :
    after.lock = bus.lock ∧ after.queued = bus.queued := by
  cases move with
  | start =>
      rw [Bus.record, opStart]
      split <;> exact ⟨rfl, rfl⟩
  | end_ =>
      rw [Bus.record, opEnd]
      split <;> exact ⟨rfl, rfl⟩
  | @xfer _ _ dataIn => cases dataIn <;> exact ⟨rfl, rfl⟩
  | @free _ dataOut => cases dataOut <;> exact ⟨rfl, rfl⟩
  | receive | delay | put => exact ⟨rfl, rfl⟩

theorem lockInv_start (priority coreAffinity : UInt32) (memory : Memory) :
    LockInv (start priority coreAffinity memory : State T D) where
  owned := Owned.nobody
  sound := fun _ => ⟨fun _ => rfl, nofun⟩

end FwkRtos.SpiMaster

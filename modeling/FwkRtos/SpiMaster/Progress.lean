import FwkRtos.SpiMaster.Transactions
import FwkRtos.Transition.Fairness

/-!
# What the driver promises

What holds in every state of every run, and what is bound to happen: a copy that
was allocated is freed, once, when neither the thread nor a task that can queue
its request is left out for ever.
-/

namespace FwkRtos.SpiMaster

open FwkRtos.Bytes
open FwkRtos.Osal
open FwkRtos.Transition

universe u v

variable {T : Type u} {D : Type v} [DecidableEq T]

/-! ## Every state -/

/-- Everything that holds of a state. -/
structure Inv (base : Setting) (state : State T D) : Prop where
  lock : LockInv state
  bus : BusInv (user state) state.shared
  alternates : Alternates (user state) state.shared
  setting : SettingInv base state.shared
  order : OrderInv state

theorem inv_start (priority coreAffinity : UInt32) (memory : Memory) :
    Inv ⟨priority, ~~~coreAffinity⟩ (start priority coreAffinity memory : State T D) where
  lock := lockInv_start priority coreAffinity memory
  bus := busInv_start priority coreAffinity memory
  alternates := rfl
  setting :=
    { opTaskPriority := rfl
      current := rfl
      now := ⟨false, rfl, fun _ => rfl, Bool.noConfusion⟩
      starts := fun _ isExecuted => absurd isExecuted List.not_mem_nil
      ends := fun _ isExecuted => absurd isExecuted List.not_mem_nil }
  order := orderInv_start priority coreAffinity memory

section Step

variable [DecidableEq D] {base : Setting} {source target : State T D} {label : Label T D}

theorem Inv.step (inv : Inv base source) (respects : Respects source label)
    (step : next source label = some target) : Inv base target := by
  cases move_of_next step with
  | task move =>
      rcases inv.lock.of_taskMove move with ⟨lock, userMove⟩
      exact
        { lock := lock
          bus := inv.bus.of_userMove userMove
          alternates := inv.alternates.of_userMove userMove
          setting := inv.setting.of_userMove userMove
          order := inv.order.of_taskMove inv.lock move }
  | thread move =>
      rcases inv.lock.of_lock move.frame.1 with ⟨lock, same⟩
      exact
        { lock := lock
          bus := same ▸ inv.bus.of_threadMove move
          alternates := by
            rw [same, Alternates, move.frame.2]
            exact inv.alternates
          setting := inv.setting.of_threadMove inv.alternates inv.bus move
          order := inv.order.of_queued move.frame.2 move.frame.1 }
  | @store address bytes =>
      have frame : ({ source.shared with memory := source.shared.memory.write address bytes } :
          Bus T D).lock = source.shared.lock := rfl
      rcases inv.lock.of_lock frame with ⟨lock, same⟩
      exact
        { lock := lock
          bus := by
            rw [same]
            apply inv.bus.of_store
            intro point isUser
            rcases Option.map_eq_some_iff.mp isUser with ⟨t, _, rfl⟩
            exact respects t
          alternates := by
            rw [same]
            exact inv.alternates
          setting := { inv.setting with }
          order := inv.order.of_queued rfl rfl }

theorem inv_of_reachable {priority coreAffinity : UInt32} {memory : Memory} {state : State T D}
    (reachable : GuardedReachable next Respects (start priority coreAffinity memory) state) :
    Inv ⟨priority, ~~~coreAffinity⟩ state :=
  reachable.invariant (inv_start priority coreAffinity memory)
    fun _ _ _ inv respects step => inv.step respects step

end Step

/-- The thread has executed the operations of the tasks as they asked for them. -/
structure Serves (base : Setting) (state : State T D) : Prop where
  /-- Between two operations of a transaction are only operations of it. -/
  contiguous : Contiguous (fun entry => entry.request.transaction) state.shared.executed
  /-- The operations of a task are those of its calls, in the order of the calls. -/
  inOrder : ∀ t, issues t (state.shared.executed.map Executed.request) <+: (state.task t).issued
  numbered : ∀ t, (state.task t).issued.map Issue.number = List.range (state.task t).issued.length
  asCalled : ∀ entry ∈ state.shared.executed,
    entry.request.Serves ∧ entry.request.ctx = entry.request.issue.ctx
  oneDevice : ∀ first ∈ state.shared.executed, ∀ second ∈ state.shared.executed,
    first.request.transaction = second.request.transaction →
      first.request.ctx = second.request.ctx
  /-- What `data_in` held at the return of a transfer was received by that transfer. -/
  received : ∀ transfer ∈ state.shared.returned, ∃ entry ∈ state.shared.executed,
    entry.request = transfer.1 ∧ entry.received = transfer.2
  /-- A transfer that only sends has sent what the buffer held at the call. -/
  copied : ∀ entry ∈ state.shared.executed, ∀ dataOut len,
    entry.request.issue.call = .transfer (some dataOut) none len →
      entry.sent = entry.request.issue.held
  /-- No copy is freed twice, and nothing else is. -/
  freed : state.shared.freed.Nodup ∧ ∀ block ∈ state.shared.freed, block < state.shared.allocated
  /-- After an end the thread has its own setting, which is also that before every start. -/
  restored : ∀ entry ∈ state.shared.executed,
    (∀ priority, entry.request.op = .start priority → entry.before = base) ∧
      (entry.request.op = .end_ → entry.after = base)

theorem Inv.serves {base : Setting} {state : State T D} (inv : Inv base state) :
    Serves base state := by
  have isPrefix : state.shared.executed.map Executed.request <+: state.shared.queued := by
    rw [inv.bus.fifo]
    exact List.prefix_append _ _
  have issued (entry : Executed T D) (member : entry ∈ state.shared.executed) :
      entry.request.issue ∈ (state.task entry.request.issue.task).issued := by
    apply (inv.order.tasks _).of_queued _ rfl
    exact isPrefix.subset (List.mem_map_of_mem member)
  exact
    { contiguous := by
        have contiguous := inv.order.contiguous.of_prefix isPrefix
        intro before first middle last after whole g isFirst isLast between member
        have mapped : state.shared.executed.map Executed.request =
            before.map Executed.request ++ first.request ::
              (middle.map Executed.request ++ last.request :: after.map Executed.request) := by
          rw [whole]
          simp
        exact contiguous mapped isFirst isLast between.request (List.mem_map_of_mem member)
      inOrder := by
        intro t
        rw [← (inv.order.tasks t).sent, inv.bus.fifo, issues_append, List.append_assoc]
        exact List.prefix_append _ _
      numbered := fun t => (inv.order.tasks t).numbered
      asCalled := fun entry member =>
        ⟨(inv.bus.executed entry member).serves, (inv.bus.executed entry member).ctx⟩
      oneDevice := by
        intro first isFirst second isSecond same
        rcases Prod.mk.inj (Option.some.inj same) with ⟨task, transaction⟩
        rw [(inv.bus.executed first isFirst).ctx, (inv.bus.executed second isSecond).ctx]
        have other := issued second isSecond
        rw [← task] at other
        exact (inv.order.tasks _).oneDevice _ (issued first isFirst) _ other transaction
      received := inv.bus.returned
      copied := fun entry member => (inv.bus.executed entry member).copied
      freed := by
        have blocks := inv.bus.blocks
        constructor
        · have nodup := List.nodup_range (n := state.shared.allocated)
          rw [← blocks] at nodup
          exact nodup.of_append_left
        · intro block member
          rw [← List.mem_range, ← blocks]
          exact List.mem_append_left _ member
      restored := fun entry member =>
        ⟨inv.setting.starts entry member, inv.setting.ends entry member⟩ }

/-! ## What is bound to happen -/

/-- The thread has a step to take. -/
def ThreadGoesOn (state : State T D) : Prop :=
  ∃ event after, spiXferThread state.shared event = some after

/-- The step is one of the thread. -/
def IsThread : Label T D → Prop
  | .system (.thread _) => True
  | _ => False

/-- The step is one of the task. -/
def IsTask (t : T) : Label T D → Prop
  | .task u _ => u = t
  | _ => False

/-- The copy goes with the request at a place of the queue. -/
def QueuedAt (block place : Nat) (state : State T D) : Prop :=
  ∃ request, state.shared.xferReqQueue[place]? = some request ∧ request.op.copy = some block

def Performing (block : Nat) (state : State T D) : Prop :=
  ∃ request, state.shared.thread = .perform request ∧ request.op.copy = some block

def Finishing (block : Nat) (state : State T D) : Prop :=
  ∃ request, state.shared.thread = .finish request ∧ request.op.copy = some block

def Freed (block : Nat) (state : State T D) : Prop :=
  block ∈ state.shared.freed

/-- The copy goes with the request that a task is about to queue. -/
def InHand (t : T) (block : Nat) (state : State T D) : Prop :=
  ∃ request, (state.task t).point = .queueSend request ∧ request.op.copy = some block

def Room (state : State T D) : Prop :=
  state.shared.xferReqQueue.length < xferReqQueueDepth

/-- The steps that are left to the thread until it takes the next request. -/
def ThreadPoint.remaining : ThreadPoint T D → Nat
  | .perform _ => 2
  | .finish _ => 1
  | .receive => 0

/-- Behind a transfer is a transfer. -/
def Transferred (bus : Bus T D) : Prop :=
  ∀ request, bus.thread = .finish request →
    ∃ dataOut dataIn len, request.op = .xfer dataOut dataIn len

omit [DecidableEq T] in
theorem exists_xfer_of_copy {op : SpiOp} {block : Nat} (copy : op.copy = some block) :
    ∃ dataIn len, op = .xfer (.copy block) dataIn len := by
  cases op with
  | xfer dataOut dataIn len =>
      cases dataOut with
      | copy other =>
          obtain rfl : other = block := Option.some.inj copy
          exact ⟨dataIn, len, rfl⟩
      | null | caller => cases copy
  | start | delay | end_ => cases copy

omit [DecidableEq T] in
theorem ThreadMove.transferred {bus after : Bus T D} {event : ThreadEvent}
    (move : ThreadMove bus event after) : Transferred after := by
  intro request point
  cases move with
  | @xfer performed dataOut dataIn len _ _ op =>
      obtain rfl : performed = request := ThreadPoint.finish.inj point
      exact ⟨dataOut, dataIn, len, op⟩
  | receive | start | delay | end_ | put => cases point
  | @free _ dataOut => cases dataOut <;> cases point

omit [DecidableEq T] in
/-- A step of the thread that is not the receipt of a request leaves it the fewer steps. -/
theorem ThreadMove.remaining_lt {bus after : Bus T D} {event : ThreadEvent}
    (move : ThreadMove bus event after) :
    (after.xferReqQueue = bus.xferReqQueue ∧ after.thread.remaining < bus.thread.remaining) ∨
      ∃ request, bus.xferReqQueue = request :: after.xferReqQueue ∧
        after.thread = .perform request := by
  cases move with
  | receive point first => exact .inr ⟨_, first, rfl⟩
  | start point =>
      rw [point, Bus.record, opStart]
      split <;> exact .inl ⟨rfl, Nat.two_pos⟩
  | @xfer _ _ dataIn _ _ point =>
      rw [point]
      cases dataIn <;> exact .inl ⟨rfl, Nat.one_lt_two⟩
  | delay point =>
      rw [point]
      exact .inl ⟨rfl, Nat.two_pos⟩
  | end_ point =>
      rw [point, Bus.record, opEnd]
      dsimp only
      split <;> exact .inl ⟨rfl, Nat.two_pos⟩
  | put point =>
      rw [point]
      exact .inl ⟨rfl, Nat.one_pos⟩
  | @free _ dataOut _ point =>
      rw [point]
      cases dataOut <;> exact .inl ⟨rfl, Nat.one_pos⟩

omit [DecidableEq T] in
theorem ThreadMove.finish_of_perform {bus after : Bus T D} {event : ThreadEvent}
    {request : SpiXferReq T D} {dataOut : DataOut} {dataIn : Option Nat} {len : UInt32}
    (move : ThreadMove bus event after) (point : bus.thread = .perform request)
    (op : request.op = .xfer dataOut dataIn len) : after.thread = .finish request := by
  cases move with
  | xfer performs =>
      obtain rfl := ThreadPoint.perform.inj (performs.symm.trans point)
      rfl
  | receive idle | put idle | free idle =>
      rw [idle] at point
      cases point
  | start performs other | delay performs other | end_ performs other =>
      obtain rfl := ThreadPoint.perform.inj (performs.symm.trans point)
      rw [op] at other
      cases other

omit [DecidableEq T] in
theorem ThreadMove.freed_of_finish {bus after : Bus T D} {event : ThreadEvent}
    {request : SpiXferReq T D} {block : Nat} {len : UInt32}
    (move : ThreadMove bus event after) (point : bus.thread = .finish request)
    (op : request.op = .xfer (.copy block) none len) : block ∈ after.freed := by
  cases move with
  | free finishes other =>
      obtain rfl := ThreadPoint.finish.inj (finishes.symm.trans point)
      rw [op] at other
      cases other
      exact List.mem_append_right _ (List.mem_singleton_self block)
  | put finishes receives =>
      obtain rfl := ThreadPoint.finish.inj (finishes.symm.trans point)
      rw [op] at receives
      cases receives
  | receive idle | xfer idle | start idle | delay idle | end_ idle =>
      rw [idle] at point
      cases point

omit [DecidableEq T] in
/-- A thread that is not without work has a step to take. -/
theorem threadGoesOn {state : State T D} (transferred : Transferred state.shared)
    (work : state.shared.thread ≠ .receive ∨ state.shared.xferReqQueue ≠ []) :
    ThreadGoesOn state := by
  unfold ThreadGoesOn spiXferThread
  cases point : state.shared.thread with
  | receive =>
      cases first : state.shared.xferReqQueue with
      | nil => exact absurd first (work.resolve_left fun other => other point)
      | cons request queue => exact ⟨.run, _, rfl⟩
  | perform request =>
      cases op : request.op with
      | start priority =>
          refine ⟨.onCore 0, ?_⟩
          dsimp only
          rw [op]
          exact ⟨_, rfl⟩
      | xfer dataOut dataIn len =>
          refine ⟨.received (List.replicate len.toNat 0), ?_⟩
          dsimp only
          rw [op]
          exact ⟨_, if_pos List.length_replicate⟩
      | delay len =>
          refine ⟨.run, ?_⟩
          dsimp only
          rw [op]
          exact ⟨_, rfl⟩
      | end_ =>
          refine ⟨.run, ?_⟩
          dsimp only
          rw [op]
          exact ⟨_, rfl⟩
  | finish request =>
      rcases transferred request point with ⟨dataOut, dataIn, len, op⟩
      refine ⟨.run, ?_⟩
      dsimp only
      rw [op]
      cases dataIn with
      | none => exact ⟨_, rfl⟩
      | some address => exact ⟨_, rfl⟩

/-! ## One step of the system -/

section Steps

variable {base : Setting} {source target : State T D} {label : Label T D}

/-- What a step of a task does to the queue and leaves of the thread. -/
theorem TaskMove.queue_eq {task : T} {bus : Bus T D} {own : TaskState T D} {event : Event D}
    {effect : BusEffect T D} (move : TaskMove task bus own event effect) :
    effect.shared.thread = bus.thread ∧
      (effect.shared.xferReqQueue = bus.xferReqQueue ∨
        ∃ request, own.point = .queueSend request ∧ bus.xferReqQueue.length < xferReqQueueDepth ∧
          effect.shared.xferReqQueue = bus.xferReqQueue ++ [request]) := by
  cases move with
  | copy point copied =>
      have thread := congrArg Bus.thread (eq_of_copy? copied)
      have queue := congrArg Bus.xferReqQueue (eq_of_copy? copied)
      exact ⟨thread, .inl queue⟩
  | queueSend point sent =>
      rcases queueSend?_eq_some_iff.mp sent with ⟨room, rfl⟩
      exact ⟨rfl, .inr ⟨_, point, room, rfl⟩⟩
  | call | mutexGet | priorityGet | dataReady | mutexPut => exact ⟨rfl, .inl rfl⟩

/-- A step is one of the thread, or it leaves the thread where it is and may only add to the
queue. -/
theorem Move.thread_or (move : Move source label target) :
    IsThread label ∧ target.task = source.task ∧
        (∃ event, ThreadMove source.shared event target.shared) ∨
      ¬ IsThread label ∧ target.shared.thread = source.shared.thread ∧
        ∃ more, target.shared.xferReqQueue = source.shared.xferReqQueue ++ more := by
  cases move with
  | thread move => exact .inl ⟨trivial, rfl, _, move⟩
  | task move =>
      rcases move.queue_eq with ⟨thread, same | ⟨request, _, _, more⟩⟩
      · exact .inr ⟨id, thread, [], by rw [List.append_nil]; exact same⟩
      · exact .inr ⟨id, thread, [request], more⟩
  | store => exact .inr ⟨id, rfl, [], (List.append_nil _).symm⟩

omit [DecidableEq T] in
theorem QueuedAt.append {block place : Nat} (queued : QueuedAt block place source)
    {more : List (SpiXferReq T D)}
    (same : target.shared.xferReqQueue = source.shared.xferReqQueue ++ more) :
    QueuedAt block place target := by
  rcases queued with ⟨request, found, copy⟩
  refine ⟨request, ?_, copy⟩
  rw [same]
  exact List.getElem?_append_left (List.getElem?_eq_some_iff.mp found).1 ▸ found

/-- A queued request stays where it is while the thread finishes what it has in hand, and then
comes one place nearer. -/
theorem QueuedAt.step {block place : Nat} (queued : QueuedAt block place source)
    (move : Move source label target) :
    QueuedAt block place target ∧
        (target.shared.thread.remaining < source.shared.thread.remaining ∨
          target.shared.thread.remaining = source.shared.thread.remaining ∧ ¬ IsThread label) ∨
      match place with
      | 0 => Performing block target
      | place + 1 => QueuedAt block place target := by
  rcases move.thread_or with ⟨_, _, event, thread⟩ | ⟨other, thread, more, same⟩
  · rcases thread.remaining_lt with ⟨same, fewer⟩ | ⟨taken, first, performs⟩
    · have whole : target.shared.xferReqQueue = source.shared.xferReqQueue ++ [] := by
        rw [same, List.append_nil]
      exact .inl ⟨queued.append whole, .inl fewer⟩
    · rcases queued with ⟨request, found, copy⟩
      rw [first] at found
      refine .inr ?_
      cases place with
      | zero =>
          obtain rfl : taken = request := Option.some.inj found
          exact ⟨taken, performs, copy⟩
      | succ place => exact ⟨request, found, copy⟩
  · exact .inl ⟨queued.append same, .inr ⟨congrArg _ thread, other⟩⟩

theorem Performing.step {block : Nat} (performing : Performing block source)
    (move : Move source label target) :
    Performing block target ∧ ¬ IsThread label ∨ Finishing block target := by
  rcases performing with ⟨request, point, copy⟩
  rcases move.thread_or with ⟨_, _, event, thread⟩ | ⟨other, same, _⟩
  · rcases exists_xfer_of_copy copy with ⟨dataIn, len, op⟩
    exact .inr ⟨request, thread.finish_of_perform point op, copy⟩
  · exact .inl ⟨⟨request, same.trans point, copy⟩, other⟩

theorem Finishing.step {block : Nat} (inv : Inv base source) (finishing : Finishing block source)
    (move : Move source label target) :
    Finishing block target ∧ ¬ IsThread label ∨ Freed block target := by
  rcases finishing with ⟨request, point, copy⟩
  rcases move.thread_or with ⟨_, _, event, thread⟩ | ⟨other, same, _⟩
  · rcases exists_xfer_of_copy copy with ⟨dataIn, len, op⟩
    have member : request ∈ source.shared.inFlight := by
      rw [Bus.inFlight, point]
      exact List.mem_cons_self
    cases dataIn with
    | none => exact .inr (thread.freed_of_finish point op)
    | some address =>
        have receives : request.op.receives = true := by rw [op]; rfl
        rw [(inv.bus.known member).1.copy_of_receives receives] at copy
        cases copy
  · exact .inl ⟨⟨request, same.trans point, copy⟩, other⟩

/-- The steps that are left to the thread when nothing is added to the queue. -/
def load (bus : Bus T D) : Nat :=
  3 * bus.xferReqQueue.length + bus.thread.remaining

omit [DecidableEq T] in
theorem ThreadMove.load_lt {bus after : Bus T D} {event : ThreadEvent}
    (move : ThreadMove bus event after) :
    load after < load bus ∧ after.xferReqQueue.length ≤ bus.xferReqQueue.length := by
  unfold load
  rcases move.remaining_lt with ⟨same, fewer⟩ | ⟨request, first, performs⟩
  · rw [same]
    exact ⟨Nat.add_lt_add_left fewer _, Nat.le_refl _⟩
  · rw [first, performs, List.length_cons]
    constructor
    · simp only [ThreadPoint.remaining]
      omega
    · exact Nat.le_succ _

/-- Nobody else adds to the queue while a task is about to. -/
theorem InHand.step {t : T} {block : Nat} (inv : Inv base source) (hand : InHand t block source)
    (move : Move source label target) :
    (InHand t block target ∧ ¬ IsTask t label ∧
        (load target.shared < load source.shared ∨
          load target.shared = load source.shared ∧ ¬ IsThread label) ∧
        target.shared.xferReqQueue.length ≤ source.shared.xferReqQueue.length) ∨
      ∃ place, QueuedAt block place target := by
  rcases hand with ⟨request, point, copy⟩
  cases move with
  | thread move =>
      rcases move.load_lt with ⟨less, shorter⟩
      exact .inl ⟨⟨request, point, copy⟩, id, .inl less, shorter⟩
  | store => exact .inl ⟨⟨request, point, copy⟩, id, .inr ⟨rfl, id⟩, Nat.le_refl _⟩
  | @task u event effect move =>
      by_cases same : u = t
      · subst same
        refine .inr ⟨source.shared.xferReqQueue.length, request, ?_, copy⟩
        cases move with
        | queueSend isSending sent =>
            obtain rfl := Point.queueSend.inj (isSending.symm.trans point)
            rcases queueSend?_eq_some_iff.mp sent with ⟨_, rfl⟩
            exact List.getElem?_concat_length ..
        | call other | mutexGet other | priorityGet other | copy other | dataReady other
        | mutexPut other =>
            rw [other] at point
            cases point
      · have others := move.others
        have kept : InHand t block (source.apply u effect) := by
          refine ⟨request, ?_, copy⟩
          rw [Tasks.apply_task_of_ne source (Ne.symm same), others]
          exact point
        rcases move.queue_eq with ⟨thread, queue | ⟨sent, isSending, _⟩⟩
        · refine .inl ⟨kept, same, .inr ⟨?_, id⟩, ?_⟩
          · rw [Tasks.apply_shared, load, load, queue, thread]
          · rw [Tasks.apply_shared, queue]
        · -- Both tasks would have the lock.
          have mine := inv.lock.holder_of_holds
            (inv.lock.holds_of_busy (t := t) (by rw [point]; nofun) (by rw [point]; rfl))
          have other := inv.lock.holder_of_holds
            (inv.lock.holds_of_busy (t := u) (by rw [isSending]; nofun) (by rw [isSending]; rfl))
          exact absurd (Option.some.inj (other.symm.trans mine)) same

end Steps

/-! ## Fair executions -/

section Fair

variable [DecidableEq D]

/-- The task has a step to take in the call that it has made. -/
def TaskGoesOn (t : T) (state : State T D) : Prop :=
  ∃ event effect, (∀ ctx call, event ≠ .call ctx call) ∧
    taskStep t event state.shared (state.task t) = some effect

variable {priority coreAffinity : UInt32} {memory : Memory}

/-- Nobody writes to a buffer that a call is using, and neither the thread nor a task that has
made a call is left out for ever. -/
structure Fair (execution : Execution (next (T := T) (D := D))
    (start priority coreAffinity memory)) : Prop where
  respects : ∀ n, Respects (execution.state n) (execution.label n)
  thread : execution.WeaklyFair ThreadGoesOn IsThread
  tasks : ∀ t, execution.WeaklyFair (TaskGoesOn t) (IsTask t)

namespace Fair

variable {execution : Execution (next (T := T) (D := D)) (start priority coreAffinity memory)}

theorem move (n : Nat) :
    Move (execution.state n) (execution.label n) (execution.state (n + 1)) :=
  move_of_next (execution.step n)

theorem inv (fair : Fair execution) (n : Nat) :
    Inv ⟨priority, ~~~coreAffinity⟩ (execution.state n) :=
  inv_of_reachable (Execution.guardedReachable fair.respects n)

theorem transferred (n : Nat) : Transferred (execution.state n).shared := by
  induction n with
  | zero =>
      rw [execution.first]
      nofun
  | succ n ih =>
      have moved : Move (execution.state n) (execution.label n) (execution.state (n + 1)) := move n
      rcases moved.thread_or with ⟨_, _, _, thread⟩ | ⟨_, same, _⟩
      · exact thread.transferred
      · intro request finishing
        exact ih request (same.symm.trans finishing)

/-- The thread does not stop while it has work. -/
theorem works (fair : Fair execution) {before : State T D → Prop}
    (work : ∀ state, before state →
      state.shared.thread ≠ .receive ∨ state.shared.xferReqQueue ≠ []) :
    execution.WeaklyFair before IsThread :=
  fun n always => fair.thread n fun m later =>
    threadGoesOn (transferred m) (work _ (always m later))

theorem finishing_leadsTo (fair : Fair execution) (block : Nat) :
    execution.LeadsTo (Finishing block) (Freed block) := by
  have works : execution.WeaklyFair (Finishing block) IsThread := by
    apply fair.works
    rintro state ⟨request, point, _⟩
    exact .inl (by rw [point]; nofun)
  exact .of_step works fun n finishing => finishing.step (fair.inv n) (move n)

theorem performing_leadsTo (fair : Fair execution) (block : Nat) :
    execution.LeadsTo (Performing block) (Freed block) := by
  have works : execution.WeaklyFair (Performing block) IsThread := by
    apply fair.works
    rintro state ⟨request, point, _⟩
    exact .inl (by rw [point]; nofun)
  have finishing : execution.LeadsTo (Performing block) (Finishing block) :=
    .of_step works fun n performing => performing.step (move n)
  exact finishing.trans (fair.finishing_leadsTo block)

theorem queuedAt_leadsTo (fair : Fair execution) (block place : Nat) :
    execution.LeadsTo (QueuedAt block place) (Freed block) := by
  have works (place : Nat) : execution.WeaklyFair (QueuedAt block place) IsThread := by
    apply fair.works
    rintro state ⟨request, found, _⟩
    refine .inr ?_
    intro empty
    rw [empty] at found
    cases found
  induction place with
  | zero =>
      apply Execution.LeadsTo.trans _ (fair.performing_leadsTo block)
      exact Execution.LeadsTo.of_rank (fun state => state.shared.thread.remaining) (works 0)
        fun n queued => queued.step (move n)
  | succ place ih =>
      apply Execution.LeadsTo.trans _ ih
      exact Execution.LeadsTo.of_rank (fun state => state.shared.thread.remaining)
        (works (place + 1)) fun n queued => queued.step (move n)

/-- A request for which there is room comes into the queue. -/
theorem inHand_leadsTo (fair : Fair execution) (t : T) (block : Nat) :
    execution.LeadsTo (InHand t block) (Freed block) := by
  have queued : execution.LeadsTo (fun state => ∃ place, QueuedAt block place state)
      (Freed block) := by
    rintro n ⟨place, found⟩
    exact fair.queuedAt_leadsTo block place n found
  have room : execution.LeadsTo (fun state => InHand t block state ∧ Room state)
      (Freed block) := by
    have goesOn : execution.WeaklyFair (fun state => InHand t block state ∧ Room state)
        (IsTask t) := by
      intro n always
      apply fair.tasks t n
      intro m later
      rcases always m later with ⟨⟨request, point, _⟩, isRoom⟩
      have sends : (execution.state m).shared.queueSend? request = some _ := if_pos isRoom
      refine ⟨.run, ?_⟩
      unfold taskStep
      rw [point]
      dsimp only
      rw [sends]
      exact ⟨_, nofun, rfl⟩
    have sent : execution.LeadsTo (fun state => InHand t block state ∧ Room state)
        (fun state => ∃ place, QueuedAt block place state) := by
      apply Execution.LeadsTo.of_step goesOn
      rintro n ⟨hand, isRoom⟩
      rcases hand.step (fair.inv n) (move n) with ⟨kept, other, _, shorter⟩ | found
      · exact .inl ⟨⟨kept, shorter.trans_lt isRoom⟩, other⟩
      · exact .inr found
    exact sent.trans queued
  have full : execution.LeadsTo (fun state => InHand t block state ∧ ¬ Room state)
      (fun state => InHand t block state ∧ Room state ∨ ∃ place, QueuedAt block place state) := by
    have works : execution.WeaklyFair (fun state => InHand t block state ∧ ¬ Room state)
        IsThread := by
      apply fair.works
      rintro state ⟨_, isFull⟩
      refine .inr ?_
      intro empty
      rw [Room, empty] at isFull
      exact isFull Nat.two_pos
    apply Execution.LeadsTo.of_rank (fun state => load state.shared) works
    rintro n ⟨hand, _⟩
    rcases hand.step (fair.inv n) (move n) with ⟨kept, _, lower, _⟩ | found
    · by_cases isRoom : Room (execution.state (n + 1))
      · exact .inr (.inl ⟨kept, isRoom⟩)
      · exact .inl ⟨⟨kept, isRoom⟩, lower⟩
    · exact .inr (.inr found)
  intro n hand
  by_cases isRoom : Room (execution.state n)
  · exact room n ⟨hand, isRoom⟩
  · exact (full.trans (room.or queued)) n ⟨hand, isRoom⟩

/-- Every copy that was allocated is freed. -/
theorem freed (fair : Fair execution) {n block : Nat}
    (allocated : block < (execution.state n).shared.allocated) :
    ∃ m, n ≤ m ∧ block ∈ (execution.state m).shared.freed := by
  have inv := fair.inv n
  have among : block ∈ (execution.state n).shared.freed ++
      copies ((execution.state n).shared.inFlight ++ sending (user (execution.state n))) := by
    rw [inv.bus.blocks]
    exact List.mem_range.mpr allocated
  rcases List.mem_append.mp among with freed | pending
  · exact ⟨n, Nat.le_refl n, freed⟩
  rcases List.mem_filterMap.mp pending with ⟨request, member, copy⟩
  rcases List.mem_append.mp member with flying | hand
  · rcases List.mem_append.mp flying with finishing | waiting
    · cases point : (execution.state n).shared.thread with
      | finish finished =>
          rw [point] at finishing
          obtain rfl := List.mem_singleton.mp finishing
          exact fair.finishing_leadsTo block n ⟨request, point, copy⟩
      | receive | perform =>
          rw [point] at finishing
          cases finishing
    · rcases List.mem_append.mp waiting with performing | inQueue
      · cases point : (execution.state n).shared.thread with
        | perform performed =>
            rw [point] at performing
            obtain rfl := List.mem_singleton.mp performing
            exact fair.performing_leadsTo block n ⟨request, point, copy⟩
        | receive | finish =>
            rw [point] at performing
            cases performing
      · rcases List.mem_iff_getElem?.mp inQueue with ⟨place, found⟩
        exact fair.queuedAt_leadsTo block place n ⟨request, found, copy⟩
  · unfold sending at hand
    split at hand
    · next isUser =>
        obtain rfl := List.mem_singleton.mp hand
        rcases Option.map_eq_some_iff.mp isUser with ⟨t, _, point⟩
        exact fair.inHand_leadsTo t block n ⟨request, point, copy⟩
    · cases hand

end Fair

/-- In every run in which nobody writes to a buffer that a call is using, the operations of each
transaction are executed contiguously, in order and on its device, a transfer returns with its
own data, one that only sends has sent what its buffer held at the call, no copy is freed twice,
and after every end the thread has the setting that it had before the start; and in every fair
execution each copy that was allocated is freed. -/
theorem transactions_served (priority coreAffinity : UInt32) (memory : Memory) :
    (∀ state : State T D,
      GuardedReachable next Respects (start priority coreAffinity memory) state →
        Serves ⟨priority, ~~~coreAffinity⟩ state) ∧
      ∀ execution : Execution next (start priority coreAffinity memory : State T D),
        Fair execution → ∀ n block, block < (execution.state n).shared.allocated →
          ∃ m, n ≤ m ∧ block ∈ (execution.state m).shared.freed :=
  ⟨fun _ reachable => (inv_of_reachable reachable).serves, fun _ fair _ _ => fair.freed⟩

end Fair

/-! ## Two transactions -/

/-- A task sends two bytes in a transaction, and changes the first of them before they are sent;
another one, which has to wait for the bus, receives two bytes from another device. -/
def twoTransactions : List (Label (Fin 2) (Fin 2)) :=
  [.task 0 (.call 0 .transactionStart), .task 0 .run, .task 1 (.call 1 .transactionStart),
    .task 0 (.priority 3), .task 0 .run, .system (.thread .run), .system (.thread (.onCore 2)),
    .task 0 (.call 0 (.transfer (some 0) none 2)), .task 0 (.malloc true), .task 0 .run,
    .system (.store 0 [8]), .task 0 (.call 0 .transactionEnd), .task 0 .run, .task 0 .run,
    .task 1 .run, .task 1 (.priority 4), .system (.thread .run),
    .system (.thread (.received [0, 0])), .system (.thread .run), .task 1 .run,
    .system (.thread .run), .system (.thread .run), .system (.thread .run),
    .system (.thread (.onCore 1)), .task 1 (.call 1 (.transfer none (some 4) 2)), .task 1 .run,
    .system (.thread .run), .system (.thread (.received [5, 6])), .system (.thread .run),
    .task 1 .run, .task 1 (.call 1 .transactionEnd), .task 1 .run, .task 1 .run,
    .system (.thread .run), .system (.thread .run)]

/-- The bus before them. -/
def idleBus : State (Fin 2) (Fin 2) :=
  start 1 0xff fun _ => 7

theorem twoTransactions_isSome : (run next idleBus twoTransactions).isSome = true := by
  decide

/-- The bus after them. -/
def servedBus : State (Fin 2) (Fin 2) :=
  (run next idleBus twoTransactions).get twoTransactions_isSome

theorem twoTransactions_executed : run next idleBus twoTransactions = some servedBus :=
  (Option.some_get twoTransactions_isSome).symm

theorem twoTransactions_respects : StepsMeet next idleBus twoTransactions Respects := by
  decide

theorem servedBus_idle : ∀ t, (servedBus.task t).point = .idle := by
  decide

theorem next_store_nil (state : State (Fin 2) (Fin 2)) :
    next state (.system (.store 0 [])) = some state := by
  simp [next, interleave, systemStep, Tasks.applySystem]

/-- They, and nothing any more. -/
def transmitting : Execution next idleBus :=
  .ofRun (.system (.store 0 [])) twoTransactions_executed (next_store_nil servedBus)

theorem transmitting_fair : Fair transmitting where
  respects := by
    apply Execution.ofRun_meets twoTransactions_executed (next_store_nil servedBus)
      twoTransactions_respects
    intro t range member
    have point := servedBus_idle t
    rw [point] at member
    cases member
  thread := by
    apply Execution.ofRun_weaklyFair twoTransactions_executed (next_store_nil servedBus)
    rintro ⟨event, after, step⟩
    have point : servedBus.shared.thread = .receive := by decide
    have empty : servedBus.shared.xferReqQueue = [] := by decide
    cases threadMove_of_step step with
    | receive _ first =>
        rw [empty] at first
        cases first
    | start other | xfer other | delay other | end_ other | put other | free other =>
        rw [point] at other
        cases other
  tasks := by
    intro t
    apply Execution.ofRun_weaklyFair twoTransactions_executed (next_store_nil servedBus)
    rintro ⟨event, effect, isRun, step⟩
    have point := servedBus_idle t
    cases taskMove_of_step step with
    | call => exact isRun _ _ rfl
    | mutexGet other | priorityGet other | copy other | queueSend other | dataReady other
    | mutexPut other =>
        rw [point] at other
        cases other

theorem twoTransactions_served :
    Serves ⟨1, ~~~0xff⟩ servedBus ∧
      ∃ m, twoTransactions.length ≤ m ∧ 0 ∈ (transmitting.state m).shared.freed := by
  have served := @transactions_served (Fin 2) (Fin 2) _ _ 1 0xff fun _ => 7
  constructor
  · exact served.1 servedBus (twoTransactions_respects.guardedReachable (List.prefix_refl _)
      twoTransactions_executed)
  · apply served.2 transmitting transmitting_fair
    have last : transmitting.state twoTransactions.length = servedBus :=
      Execution.ofRun_state twoTransactions_executed (next_store_nil servedBus) (Nat.le_refl _)
    rw [last]
    decide

example : servedBus.shared.executed.map Executed.sent = [[], [7, 7], [], [], [], []] ∧
    servedBus.shared.returned.map Prod.snd = [[5, 6]] := by
  decide

end FwkRtos.SpiMaster

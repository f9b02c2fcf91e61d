import FwkRtos.QspiFlash.Locking
import FwkRtos.Transition.Contiguous

/-!
# The order in which operations are executed

A task queues an operation while it has the mutex, which is also the mutex of
the flash lock, and the queue is first in, first out.  So the operations of one
lock session are neighbours in the order in which they are executed, even when
that happens long after the unlock.
-/

namespace FwkRtos.QspiFlash

open FwkRtos.Osal
open FwkRtos.Transition

universe u

section

variable {T : Type u}

/-- The lock session of a task that an entry was requested in. -/
def Entry.lockSession (entry : Entry T) : Option (T × Nat) :=
  entry.session.map fun session => (entry.task, session)

theorem Entry.lockSession_eq_some_iff {entry : Entry T} {t : T} {session : Nat} :
    entry.lockSession = some (t, session) ↔ entry.task = t ∧ entry.session = some session := by
  unfold Entry.lockSession
  cases entry.session with
  | none => simp
  | some other => simp

theorem TaskState.lockSession_entry_of_locked {own : TaskState T} (locked : 0 < own.depth)
    (task : T)
    (op : OpReq) : (own.entry task op).lockSession = some (task, own.sessions) := by
  rw [Entry.lockSession_eq_some_iff]
  exact ⟨rfl, if_pos locked⟩

theorem TaskState.locked_of_lockSession_entry {own : TaskState T} {task : T} {op : OpReq}
    {group : T × Nat} (inSession : (own.entry task op).lockSession = some group) :
    0 < own.depth ∧ group = (task, own.sessions) := by
  rw [Entry.lockSession] at inSession
  by_cases locked : 0 < own.depth
  · have session : (own.entry task op).session = some own.sessions := if_pos locked
    rw [session] at inSession
    exact ⟨locked, (Option.some.inj inSession).symm⟩
  · have session : (own.entry task op).session = none := if_neg locked
    rw [session] at inSession
    cases inSession

/-- A request under way is an operation. -/
def Point.RequestsOperation : Point T → Prop
  | .request _ op => op.op ≠ .llSetup
  | _ => True

theorem Call.requestsOperation_entry (call : Call) :
    (call.entry : Point T).RequestsOperation := by
  cases call with
  | readModeFast data address len mode =>
      show (qspiFlashLocalReadModeFast data address len mode).op ≠ .llSetup
      rw [qspiFlashLocalReadModeFast]
      split <;> nofun
  | lock | unlock | lowLevelRead | fastReadSetupLl | fastReadShutdownLl => trivial
  | read | readMode | readFastRaw | readFastNs | write | erase => nofun

theorem ThreadPoint.current_resume (thread : ThreadPoint T) :
    thread.resume.current = thread.current := by
  cases thread <;> rfl

variable [DecidableEq T]

/-- The operations that a task has in a history, by their numbers. -/
def numbers (t : T) (history : List (Entry T)) : List Nat :=
  (history.filter fun entry => decide (entry.task = t)).map Entry.number

/-- What the order of execution rests on. -/
structure OrderInv (state : State T) : Prop where
  fifo : state.shared.sent = state.shared.executed ++
    (state.shared.thread.current.toList ++ state.shared.opQueue.filter Entry.isOperation)
  operations : ∀ t, (state.task t).point.RequestsOperation
  numbered : ∀ t, numbers t state.shared.sent = List.range (state.task t).issued
  contiguous : Contiguous Entry.lockSession state.shared.sent
  known : ∀ entry ∈ state.shared.sent, ∀ session, entry.session = some session →
    session ≤ (state.task entry.task).sessions
  current : ∀ t, 0 < (state.task t).depth →
    EndsIn Entry.lockSession state.shared.sent (t, (state.task t).sessions)

theorem orderInv_start (config : Config) : OrderInv (start config : State T) where
  fifo := rfl
  operations := fun _ => trivial
  numbered := fun _ => rfl
  contiguous := contiguous_nil
  known := nofun
  current := nofun

variable {config : Config} {source : State T} {task : T} {event : Event}
  {effect : FlashEffect T}

/-- What a step of a task does to the requests: it queues an operation, or it
queues none, and either begins a lock session of a new number or does not lock
the flash anew. -/
inductive RequestEffect (task : T) (flash : Flash T) (own : TaskState T) (effect : FlashEffect T) :
    Prop
  | queue {op : OpReq} (point : own.point = .request .queueSend op)
      (sent : effect.shared.sent = flash.sent ++ [own.entry task op])
      (opQueue : effect.shared.opQueue = flash.opQueue ++ [own.entry task op])
      (issued : effect.own.issued = own.issued + 1) (depth : effect.own.depth = own.depth)
      (sessions : effect.own.sessions = own.sessions)
  | keep (sent : effect.shared.sent = flash.sent)
      (opQueue : effect.shared.opQueue.filter Entry.isOperation =
        flash.opQueue.filter Entry.isOperation)
      (issued : effect.own.issued = own.issued)
      (session : effect.own.sessions = own.sessions + 1 ∨
        effect.own.sessions = own.sessions ∧ (0 < effect.own.depth → 0 < own.depth))

theorem TaskMove.requestEffect
    (move : TaskMove config task source.shared (source.task task) event effect)
    (upToDate : (source.task task).point.UpToDate (source.task task).depth) :
    RequestEffect task source.shared (source.task task) effect := by
  cases move with
  | requestQueueSend point room => exact .queue point rfl rfl rfl rfl rfl
  | lockSpin point free => exact .keep rfl rfl rfl (.inl rfl)
  | lockStore point =>
      rw [point] at upToDate
      exact .keep rfl rfl rfl (.inr ⟨rfl, fun _ => upToDate.1⟩)
  | unlockOwner point isOwner =>
      exact .keep rfl rfl rfl (.inr ⟨rfl, fun locked => Nat.lt_of_lt_of_le locked (Nat.sub_le _ _)⟩)
  | setupSend point room =>
      refine .keep rfl ?_ rfl (.inr ⟨rfl, id⟩)
      rw [proceed, List.filter_append]
      exact List.append_nil _
  | _ => exact .keep rfl rfl rfl (.inr ⟨rfl, id⟩)

theorem TaskMove.requestsOperation
    (move : TaskMove config task source.shared (source.task task) event effect)
    (operations : (source.task task).point.RequestsOperation) :
    effect.own.point.RequestsOperation := by
  cases move with
  | call point proper => exact Call.requestsOperation_entry _
  | requestMutexGet point got =>
      rw [point] at operations
      exact operations
  | requestPriorityGet point =>
      rw [point] at operations
      exact operations
  | @mutexPut entry point =>
      rw [proceed]
      cases entry.isRead <;> trivial
  | _ => trivial

theorem TaskMove.executed
    (move : TaskMove config task source.shared (source.task task) event effect) :
    effect.shared.executed = source.shared.executed ∧
      effect.shared.thread.current = source.shared.thread.current := by
  cases move with
  | shutdownResume point => exact ⟨rfl, ThreadPoint.current_resume _⟩
  | _ => exact ⟨rfl, rfl⟩

theorem numbers_snoc (t : T) (history : List (Entry T)) (entry : Entry T) :
    numbers t (history ++ [entry]) =
      numbers t history ++ if entry.task = t then [entry.number] else [] := by
  rw [numbers, List.filter_append, List.map_append, ← numbers, List.filter_singleton]
  by_cases own : entry.task = t
  · rw [if_pos own, decide_eq_true own]
    rfl
  · rw [if_neg own, decide_eq_false own]
    rfl

/-- A task that queues an operation keeps the order: it has the mutex, so no
other task is in a lock session. -/
theorem OrderInv.queue (inv : OrderInv source) (locks : LockInv source) {op : OpReq}
    (point : (source.task task).point = .request .queueSend op)
    (issued : effect.own.issued = (source.task task).issued + 1)
    (depth : effect.own.depth = (source.task task).depth)
    (sessions : effect.own.sessions = (source.task task).sessions)
    {sent : List (Entry T)}
    (isSent : sent = source.shared.sent ++ [(source.task task).entry task op]) :
    (∀ t, numbers t sent = List.range (Function.update source.task task effect.own t).issued) ∧
      Contiguous Entry.lockSession sent ∧
      (∀ entry ∈ sent, ∀ session, entry.session = some session →
        session ≤ (Function.update source.task task effect.own entry.task).sessions) ∧
      ∀ t, 0 < (Function.update source.task task effect.own t).depth →
        EndsIn Entry.lockSession sent
          (t, (Function.update source.task task effect.own t).sessions) := by
  have sessionsOf : ∀ t, (Function.update source.task task effect.own t).sessions =
      (source.task t).sessions := by
    intro t
    by_cases same : t = task
    · rw [same, Function.update_self, sessions]
    · rw [Function.update_of_ne same]
  have holds : 0 < (source.task task).mutexShare := by
    rw [TaskState.mutexShare, point]
    exact Nat.succ_pos _
  subst isSent
  refine ⟨fun t => ?_,
    inv.contiguous.snoc fun group inSession => ?_, fun entry member session => ?_,
    fun t locked => ?_⟩
  · rw [numbers_snoc, inv.numbered]
    by_cases same : t = task
    · subst same
      rw [Function.update_self, issued, List.range_succ]
      exact congrArg _ (if_pos rfl)
    · rw [Function.update_of_ne same, if_neg fun equal => same equal.symm, List.append_nil]
  · obtain ⟨locked, rfl⟩ := TaskState.locked_of_lockSession_entry inSession
    exact inv.current task locked
  · rw [sessionsOf]
    rcases List.mem_append.mp member with old | new
    · exact inv.known entry old session
    · intro inSession
      rw [List.mem_singleton.mp new] at inSession ⊢
      have isGroup : ((source.task task).entry task op).lockSession = some (task, session) :=
        Entry.lockSession_eq_some_iff.mpr ⟨rfl, inSession⟩
      obtain ⟨_, group⟩ := TaskState.locked_of_lockSession_entry isGroup
      exact (Prod.ext_iff.mp group).2.le
  · rw [sessionsOf]
    by_cases same : t = task
    · subst same
      rw [Function.update_self, depth] at locked
      exact (inv.current t locked).snoc (TaskState.lockSession_entry_of_locked locked t op)
    · rw [Function.update_of_ne same] at locked
      have other : 0 < (source.task t).mutexShare := Nat.add_pos_left locked _
      exact absurd (locks.mutex.sole other holds) same

/-- A step that queues nothing keeps the order, whether or not it begins a lock
session. -/
theorem OrderInv.keep (inv : OrderInv source)
    (issued : effect.own.issued = (source.task task).issued)
    (session : effect.own.sessions = (source.task task).sessions + 1 ∨
      effect.own.sessions = (source.task task).sessions ∧
        (0 < effect.own.depth → 0 < (source.task task).depth)) :
    (∀ t, numbers t source.shared.sent =
        List.range (Function.update source.task task effect.own t).issued) ∧
      (∀ entry ∈ source.shared.sent, ∀ session, entry.session = some session →
        session ≤ (Function.update source.task task effect.own entry.task).sessions) ∧
      ∀ t, 0 < (Function.update source.task task effect.own t).depth →
        EndsIn Entry.lockSession source.shared.sent
          (t, (Function.update source.task task effect.own t).sessions) := by
  refine ⟨fun t => ?_, fun entry member number inSession => ?_, fun t locked => ?_⟩
  · by_cases same : t = task
    · rw [same, Function.update_self, issued]
      exact inv.numbered task
    · rw [Function.update_of_ne same]
      exact inv.numbered t
  · have known := inv.known entry member number inSession
    by_cases same : entry.task = task
    · rw [same] at known ⊢
      rw [Function.update_self]
      rcases session with new | ⟨old, _⟩
      · rw [new]
        exact Nat.le_succ_of_le known
      · rw [old]
        exact known
    · rw [Function.update_of_ne same]
      exact known
  · by_cases same : t = task
    · subst same
      rw [Function.update_self] at locked ⊢
      rcases session with new | ⟨old, still⟩
      · -- The session is new: nothing was requested in it yet.
        apply endsIn_of_fresh
        intro entry member inSession
        obtain ⟨own, number⟩ := Entry.lockSession_eq_some_iff.mp inSession
        have known := inv.known entry member _ number
        rw [own, new] at known
        exact absurd known (Nat.not_succ_le_self _)
      · rw [old]
        exact inv.current t (still locked)
    · rw [Function.update_of_ne same] at locked ⊢
      exact inv.current t locked

theorem OrderInv.apply (inv : OrderInv source) (locks : LockInv source) {target : State T}
    (move : TaskMove config task source.shared (source.task task) event effect)
    (shared : target.shared = effect.shared)
    (tasks : target.task = Function.update source.task task effect.own) : OrderInv target := by
  obtain ⟨executed, current⟩ := move.executed
  have operations : ∀ t, (target.task t).point.RequestsOperation := by
    intro t
    rw [tasks]
    by_cases same : t = task
    · rw [same, Function.update_self]
      exact move.requestsOperation (inv.operations task)
    · rw [Function.update_of_ne same]
      exact inv.operations t
  cases move.requestEffect (locks.upToDate task) with
  | @queue op point sent opQueue issued depth sessions =>
      have isOperation : ((source.task task).entry task op).isOperation = true := by
        have operation := inv.operations task
        rw [point] at operation
        exact decide_eq_true operation
      obtain ⟨numbered, contiguous, known, ends⟩ := inv.queue locks point issued depth sessions sent
      rw [← shared, ← tasks] at *
      refine ⟨?_, operations, numbered, contiguous, known, ends⟩
      rw [sent, executed, current, opQueue, inv.fifo, List.filter_append,
        List.filter_singleton, isOperation]
      simp
  | keep sent opQueue issued session =>
      obtain ⟨numbered, known, ends⟩ := inv.keep issued session
      rw [← shared] at sent opQueue executed current
      rw [← sent, ← tasks] at numbered known ends
      refine ⟨?_, operations, numbered, ?_, known, ends⟩
      · rw [sent, executed, current, opQueue]
        exact inv.fifo
      · rw [sent]
        exact inv.contiguous

omit [DecidableEq T] in
theorem ThreadMove.fifo {flash after : Flash T} (move : ThreadMove flash after) :
    after.sent = flash.sent ∧
      after.executed ++ (after.thread.current.toList ++ after.opQueue.filter Entry.isOperation) =
        flash.executed ++
          (flash.thread.current.toList ++ flash.opQueue.filter Entry.isOperation) := by
  refine ⟨by cases move <;> rfl, ?_⟩
  cases move with
  | receiveOperation point head isOperation =>
      rw [point, head, List.filter_cons_of_pos isOperation]
      rfl
  | receiveSetup point head isSetup =>
      rw [point, head, List.filter_cons_of_neg (by rw [isSetup]; exact nofun)]
      rfl
  | llClear point | llSuspend point | record point | priorityReset point =>
      rw [point]
      rfl
  | work before after =>
      rw [before, after]
  | complete point =>
      rw [point, List.append_assoc]
      rfl

theorem OrderInv.next {target : State T} {label : Label T} (inv : OrderInv source)
    (locks : LockInv source) (step : QspiFlash.next config source label = some target) :
    OrderInv target := by
  rcases next_cases step with ⟨task, event, effect, _, move, shared, tasks⟩ |
    ⟨event, _, move, tasks⟩
  · exact inv.apply locks move shared tasks
  · obtain ⟨sent, fifo⟩ := move.fifo
    constructor
    · rw [sent, fifo]
      exact inv.fifo
    · rw [tasks]
      exact inv.operations
    · rw [sent, tasks]
      exact inv.numbered
    · rw [sent]
      exact inv.contiguous
    · rw [sent, tasks]
      exact inv.known
    · rw [sent, tasks]
      exact inv.current

theorem orderInv_of_reachable {state : State T}
    (reachable : Reachable (next config) (start config) state) : OrderInv state := by
  induction reachable with
  | refl => exact orderInv_start config
  | tail before _ step inv => exact inv.next (lockInv_of_reachable before) step

/-! ## The order as the tasks see it -/

/-- Each task's operations are executed in the order of its requests, none left
out; and no operation of another task is executed between two that a task
requested in one lock session. -/
structure InOrder (state : State T) : Prop where
  ownOrder : ∀ t, ∃ count, numbers t state.shared.executed = List.range count
  undisturbed : ∀ before first middle last after session,
    state.shared.executed = before ++ first :: (middle ++ last :: after) →
    first.task = last.task → first.session = some session → last.session = some session →
    ∀ entry ∈ middle, entry.task = first.task ∧ entry.session = some session

theorem OrderInv.inOrder {state : State T} (inv : OrderInv state) : InOrder state := by
  have isPrefix : state.shared.executed <+: state.shared.sent := by
    rw [inv.fifo]
    exact List.prefix_append _ _
  constructor
  · intro t
    have shorter : numbers t state.shared.executed <+: List.range (state.task t).issued := by
      rw [← inv.numbered t]
      exact (isPrefix.filter _).map _
    rw [List.prefix_iff_eq_take, List.take_range] at shorter
    exact ⟨_, shorter⟩
  · intro before first middle last after session whole sameTask firstIn lastIn entry member
    apply Entry.lockSession_eq_some_iff.mp
    apply (inv.contiguous.of_prefix isPrefix) whole _ _ entry member
    · exact Entry.lockSession_eq_some_iff.mpr ⟨rfl, firstIn⟩
    · exact Entry.lockSession_eq_some_iff.mpr ⟨sameTask.symm, lastIn⟩

/-- Any tasks, in any interleaving: the operation thread executes the operations
in order. -/
theorem inOrder_of_reachable {state : State T}
    (reachable : Reachable (next config) (start config) state) : InOrder state :=
  (orderInv_of_reachable reachable).inOrder

end

/-- Task 0 locks the flash, queues a write and an erase and unlocks it; task 1
asks for a write meanwhile.  The thread executes all three afterwards. -/
def lockedSequence : List (Label (Fin 2)) :=
  moves ((0, .call .lock 1) :: List.replicate 3 (0, .run) ++
    (0, .call (.write 0 0 0) 1) :: List.replicate 4 (0, .run) ++
    (1, .call (.write 0 0 0) 1) ::
    (0, .call (.erase 0 0) 1) :: List.replicate 4 (0, .run) ++
    (0, .call .unlock 1) :: List.replicate 4 (0, .run)) ++
  .system .run :: moves (List.replicate 4 (1, .run)) ++ List.replicate 24 (.system .run)

theorem lockedSequence_inOrder :
    ∃ state : State (Fin 2),
      run (next smallFlash) (start smallFlash) lockedSequence = some state ∧
      state.shared.executed.map (fun entry => (entry.task, entry.number, entry.session)) =
        [(0, 0, some 1), (0, 1, some 1), (1, 0, none)] ∧
      InOrder state := by
  have final : (run (next smallFlash) (start smallFlash) lockedSequence).map (fun state => decide
      (state.shared.executed.map (fun entry => (entry.task, entry.number, entry.session)) =
        [(0, 0, some 1), (0, 1, some 1), (1, 0, none)])) = some true := by
    decide
  obtain ⟨state, executed, holds⟩ := Option.map_eq_some_iff.mp final
  exact ⟨state, executed, of_decide_eq_true holds, inOrder_of_reachable (reachable_of_run executed)⟩

end FwkRtos.QspiFlash

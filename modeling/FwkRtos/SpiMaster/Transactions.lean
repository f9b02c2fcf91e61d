import FwkRtos.SpiMaster.Requests
import FwkRtos.Transition.Contiguous

/-!
# The transactions on the bus

A task queues its operations while it has the lock, and the queue is first in,
first out.  So the thread executes one transaction after the other, also when a
transaction has long been ended by its task, and what the thread changes about
itself at a start is what it has to undo at the next end.
-/

namespace FwkRtos.SpiMaster

open FwkRtos.Bytes
open FwkRtos.Osal
open FwkRtos.Transition

universe u v

variable {T : Type u} {D : Type v}

/-! ## Starts and ends alternate -/

/-- Whether a transaction is open, from one operation to the next. -/
def opStep : LStep Bool SpiOp
  | false, .start _ => some true
  | true, .xfer _ _ _ => some true
  | true, .delay _ => some true
  | true, .end_ => some false
  | _, _ => none

def ops (requests : List (SpiXferReq T D)) : List SpiOp :=
  requests.map SpiXferReq.op

/-- The user has queued the start of its transaction and not its end. -/
def opened : Option (Point T D) → Bool
  | none => false
  | some (.mutexGet _) => false
  | some (.priorityGet _) => false
  | some .mutexPut => false
  | some (.queueSend request) => (opStep true request.op).isSome
  | some _ => true

/-- The queue was given whole transactions, up to the one of the user. -/
def Alternates (user : Option (Point T D)) (bus : Bus T D) : Prop :=
  run opStep false (ops bus.queued) = some (opened user)

theorem opStep_opened (request : SpiXferReq T D) :
    opStep (opened (some (.queueSend request))) request.op =
      some (opened (some request.queuedPoint)) := by
  rcases request with ⟨ctx, op, issue⟩
  cases op with
  | xfer dataOut dataIn len => cases dataIn <;> rfl
  | start | delay | end_ => rfl

theorem Alternates.of_userMove {before after : Option (Point T D)} {source target : Bus T D}
    (alternates : Alternates before source) (move : UserMove before source after target) :
    Alternates after target := by
  cases move with
  | ask => exact alternates
  | enter => exact alternates
  | @call _ issue inside =>
      have same : opened (some (issue.call.point issue.ctx issue)) = true := by
        cases called : issue.call with
        | transactionStart => exact absurd called inside
        | transfer dataOut dataIn len => cases dataIn <;> rfl
        | delayBeforeNextTransfer | transactionEnd => rfl
      rw [Alternates, same]
      exact alternates
  | priorityGet => exact alternates
  | @copy _ _ issue dataOut len succeeds data copied =>
      have queued := congrArg Bus.queued (eq_of_copy? copied)
      rw [Alternates, queued]
      exact alternates
  | @queueSend _ _ request sent =>
      rcases queueSend?_eq_some_iff.mp sent with ⟨_, rfl⟩
      have appended : ops (source.queued ++ [request]) = ops source.queued ++ [request.op] := by
        simp [ops]
      change run opStep false (ops (source.queued ++ [request])) = _
      rw [appended, run_concat_eq_some_iff]
      exact ⟨_, alternates, opStep_opened request⟩
  | dataReady => exact alternates
  | leave => exact alternates

/-- The thread starts a transaction when none is open, and ends one that is. -/
theorem Alternates.perform {user : Option (Point T D)} {bus : Bus T D} {request : SpiXferReq T D}
    (alternates : Alternates user bus) (inv : BusInv user bus)
    (point : bus.thread = .perform request) {now : Bool}
    (reached : run opStep false (ops (bus.executed.map Executed.request)) = some now) :
    ∃ later, opStep now request.op = some later ∧
      run opStep false (ops (bus.executed.map Executed.request ++ [request])) = some later := by
  have split : ops bus.queued =
      ops (bus.executed.map Executed.request ++ [request]) ++ ops bus.xferReqQueue := by
    rw [inv.fifo, Bus.pending, point]
    simp [ops, ThreadPoint.performing]
  rw [Alternates, split, run_append] at alternates
  rcases Option.bind_eq_some_iff.mp alternates with ⟨later, first, _⟩
  have one : ops (bus.executed.map Executed.request ++ [request]) =
      ops (bus.executed.map Executed.request) ++ [request.op] := by
    simp [ops]
  rw [one, run_concat_eq_some_iff] at first
  rcases first with ⟨middle, before, step⟩
  obtain rfl : now = middle := Option.some.inj (reached.symm.trans before)
  refine ⟨later, step, ?_⟩
  rw [one, run_concat_eq_some_iff]
  exact ⟨now, reached, step⟩

/-! ## The setting of the thread -/

/-- The thread has its own setting outside transactions, and can restore it inside one. -/
structure SettingInv (base : Setting) (bus : Bus T D) : Prop where
  opTaskPriority : bus.opTaskPriority = base.priority
  current : bus.currentPriority = bus.threadPriority
  now : ∃ open_, run opStep false (ops (bus.executed.map Executed.request)) = some open_ ∧
    (open_ = false → bus.setting = base) ∧ (open_ = true → bus.coreMap = base.exclusion)
  starts : ∀ entry ∈ bus.executed, ∀ priority,
    entry.request.op = .start priority → entry.before = base
  ends : ∀ entry ∈ bus.executed, entry.request.op = .end_ → entry.after = base

/-- The steps of the user leave the thread alone. -/
theorem UserMove.thread_eq {before after : Option (Point T D)} {source target : Bus T D}
    (move : UserMove before source after target) :
    target.executed = source.executed ∧ target.opTaskPriority = source.opTaskPriority ∧
      target.currentPriority = source.currentPriority ∧
      target.threadPriority = source.threadPriority ∧
      target.coreAffinity = source.coreAffinity ∧ target.coreMap = source.coreMap ∧
      target.thread = source.thread := by
  cases move with
  | copy copied =>
      rw [eq_of_copy? copied]
      exact ⟨rfl, rfl, rfl, rfl, rfl, rfl, rfl⟩
  | queueSend sent =>
      rcases queueSend?_eq_some_iff.mp sent with ⟨_, rfl⟩
      exact ⟨rfl, rfl, rfl, rfl, rfl, rfl, rfl⟩
  | ask | enter | call | priorityGet | dataReady | leave =>
      exact ⟨rfl, rfl, rfl, rfl, rfl, rfl, rfl⟩

theorem SettingInv.of_userMove {base : Setting} {before after : Option (Point T D)}
    {source target : Bus T D} (inv : SettingInv base source)
    (move : UserMove before source after target) : SettingInv base target := by
  rcases move.thread_eq with ⟨executed, opTask, current, priority, affinity, map, _⟩
  exact
    { opTaskPriority := by rw [opTask, inv.opTaskPriority]
      current := by rw [current, priority, inv.current]
      now := by
        rw [executed, Bus.setting, priority, affinity, map]
        exact inv.now
      starts := by
        rw [executed]
        exact inv.starts
      ends := by
        rw [executed]
        exact inv.ends }

/-- The thread has executed an operation. -/
theorem SettingInv.of_record {base : Setting} {bus after : Bus T D} {request : SpiXferReq T D}
    {sent received : List UInt8} {point : ThreadPoint T D} {later : Bool}
    (inv : SettingInv base bus)
    (reached : run opStep false (ops (bus.executed.map Executed.request ++ [request])) = some later)
    (opTask : after.opTaskPriority = bus.opTaskPriority)
    (current : after.currentPriority = after.threadPriority)
    (starts : ∀ priority, request.op = .start priority → bus.setting = base)
    (ends : request.op = .end_ → after.setting = base)
    (closed : later = false → after.setting = base)
    (open_ : later = true → after.coreMap = base.exclusion) :
    SettingInv base (after.record bus request sent received point) where
  opTaskPriority := opTask.trans inv.opTaskPriority
  current := current
  now := by
    refine ⟨later, ?_, closed, open_⟩
    change run opStep false (ops ((bus.executed ++ [_]).map Executed.request)) = some later
    rw [List.map_append]
    exact reached
  starts := by
    intro entry member
    rcases List.mem_append.mp member with old | new
    · exact inv.starts entry old
    · rw [List.mem_singleton.mp new]
      exact starts
  ends := by
    intro entry member
    rcases List.mem_append.mp member with old | new
    · exact inv.ends entry old
    · rw [List.mem_singleton.mp new]
      exact ends

theorem SettingInv.of_threadMove {base : Setting} {user : Option (Point T D)}
    {bus after : Bus T D} {event : ThreadEvent} (inv : SettingInv base bus)
    (alternates : Alternates user bus) (busInv : BusInv user bus)
    (move : ThreadMove bus event after) : SettingInv base after := by
  rcases inv.now with ⟨now, reached, closed, open_⟩
  cases move with
  | receive => exact { inv with }
  | @start request priority core point op =>
      rcases alternates.perform busInv point reached with ⟨later, step, further⟩
      rw [op] at step
      cases now with
      | true => cases step
      | false =>
          cases step
          have own := closed rfl
          apply inv.of_record further
          · unfold opStart
            split <;> rfl
          · unfold opStart
            split
            · rfl
            · exact inv.current
          · exact fun _ _ => own
          · rw [op]
            nofun
          · nofun
          · intro _
            unfold opStart
            split <;> exact congrArg Setting.exclusion own
  | @xfer request dataOut dataIn len bytes point op length =>
      rcases alternates.perform busInv point reached with ⟨later, step, further⟩
      rw [op] at step
      cases now with
      | false => cases step
      | true =>
          cases step
          have same : (bus.store dataIn bytes).opTaskPriority = bus.opTaskPriority ∧
              (bus.store dataIn bytes).currentPriority = (bus.store dataIn bytes).threadPriority ∧
              (bus.store dataIn bytes).coreMap = bus.coreMap := by
            cases dataIn <;> exact ⟨rfl, inv.current, rfl⟩
          apply inv.of_record further same.1 same.2.1
          · rw [op]
            nofun
          · rw [op]
            nofun
          · nofun
          · exact fun _ => same.2.2.trans (open_ rfl)
  | @delay request len point op =>
      rcases alternates.perform busInv point reached with ⟨later, step, further⟩
      rw [op] at step
      cases now with
      | false => cases step
      | true =>
          cases step
          apply inv.of_record further rfl inv.current
          · rw [op]
            nofun
          · rw [op]
            nofun
          · nofun
          · exact fun _ => open_ rfl
  | @end_ request point op =>
      rcases alternates.perform busInv point reached with ⟨later, step, further⟩
      rw [op] at step
      cases now with
      | false => cases step
      | true =>
          cases step
          have restored : (opEnd bus).setting = base := by
            have exclusion : ~~~(~~~bus.coreMap) = base.exclusion := by
              rw [UInt32.not_not, open_ rfl]
            unfold opEnd
            dsimp only
            split
            · exact Setting.ext inv.opTaskPriority exclusion
            · next same =>
                have current : bus.currentPriority = bus.opTaskPriority := of_not_not same
                exact Setting.ext
                  (inv.current.symm.trans (current.trans inv.opTaskPriority)) exclusion
          apply inv.of_record further
          · unfold opEnd
            dsimp only
            split <;> rfl
          · unfold opEnd
            dsimp only
            split
            · rfl
            · exact inv.current
          · rw [op]
            nofun
          · exact fun _ => restored
          · exact fun _ => restored
          · nofun
  | put => exact { inv with }
  | @free _ dataOut => cases dataOut <;> exact { inv with }

/-! ## The order of the operations -/

/-- The transaction that a request belongs to. -/
def SpiXferReq.transaction (request : SpiXferReq T D) : Option (T × Nat) :=
  some (request.issue.task, request.issue.transaction)

/-- The call that a task has made and not yet queued. -/
def Point.unsent : Point T D → List (Issue T D)
  | .mutexGet issue => [issue]
  | .priorityGet issue => [issue]
  | .copy issue _ _ => [issue]
  | .queueSend request => [request.issue]
  | _ => []

/-- The calls of a task among some requests. -/
def issues [DecidableEq T] (t : T) (requests : List (SpiXferReq T D)) : List (Issue T D) :=
  (requests.map SpiXferReq.issue).filter fun issue => decide (issue.task = t)

/-- What a task has issued and what of it was queued. -/
structure TaskOrder [DecidableEq T] (queued : List (SpiXferReq T D)) (t : T)
    (own : TaskState T D) : Prop where
  numbered : own.issued.map Issue.number = List.range own.issued.length
  mine : ∀ issue ∈ own.issued, issue.task = t
  known : ∀ issue ∈ own.issued, issue.transaction ≤ own.transactions
  device : ∀ issue ∈ own.issued, issue.transaction = own.transactions →
    ∀ ctx, own.device = some ctx → issue.ctx = ctx
  oneDevice : ∀ first ∈ own.issued, ∀ second ∈ own.issued,
    first.transaction = second.transaction → first.ctx = second.ctx
  sent : issues t queued ++ own.point.unsent = own.issued
  current : ∀ issue ∈ own.point.unsent, issue.transaction = own.transactions
  fresh : own.point.waits = true →
    ∀ request ∈ queued, request.transaction ≠ some (t, own.transactions)

structure OrderInv [DecidableEq T] (state : State T D) : Prop where
  tasks : ∀ t, TaskOrder state.shared.queued t (state.task t)
  contiguous : Contiguous SpiXferReq.transaction state.shared.queued
  ends : ∀ t, state.shared.lock.holder = some t →
    EndsIn SpiXferReq.transaction state.shared.queued (t, (state.task t).transactions)

section Order

variable [DecidableEq T]

theorem issues_append (t : T) (first second : List (SpiXferReq T D)) :
    issues t (first ++ second) = issues t first ++ issues t second := by
  simp [issues]

theorem mem_issues_iff {t : T} {requests : List (SpiXferReq T D)} {issue : Issue T D} :
    issue ∈ issues t requests ↔ (∃ request ∈ requests, request.issue = issue) ∧ issue.task = t := by
  simp [issues]

/-- What was queued of a task was issued by it. -/
theorem TaskOrder.of_queued {queued : List (SpiXferReq T D)} {t : T} {own : TaskState T D}
    (order : TaskOrder queued t own) {request : SpiXferReq T D} (member : request ∈ queued)
    (mine : request.issue.task = t) : request.issue ∈ own.issued := by
  rw [← order.sent]
  exact List.mem_append_left _ (mem_issues_iff.mpr ⟨⟨request, member, rfl⟩, mine⟩)

/-- A request of another task. -/
theorem TaskOrder.of_other {queued : List (SpiXferReq T D)} {t : T} {own : TaskState T D}
    (order : TaskOrder queued t own) {request : SpiXferReq T D}
    (other : request.issue.task ≠ t) : TaskOrder (queued ++ [request]) t own where
  numbered := order.numbered
  mine := order.mine
  known := order.known
  device := order.device
  oneDevice := order.oneDevice
  sent := by
    have none_ : issues t [request] = [] := by simp [issues, other]
    rw [issues_append, none_, List.append_nil]
    exact order.sent
  current := order.current
  fresh := by
    intro waits one member
    rcases List.mem_append.mp member with old | new
    · exact order.fresh waits one old
    · rw [List.mem_singleton.mp new]
      intro same
      exact other (congrArg Prod.fst (Option.some.inj same))

/-- The task goes on and its call stays unsent or sent. -/
theorem TaskOrder.of_proceed {queued : List (SpiXferReq T D)} {t : T} {own : TaskState T D}
    (order : TaskOrder queued t own) {point : Point T D} (unsent : point.unsent = own.point.unsent)
    (waits : point.waits = false) : TaskOrder queued t { own with point := point } where
  numbered := order.numbered
  mine := order.mine
  known := order.known
  device := order.device
  oneDevice := order.oneDevice
  sent := by
    change issues t queued ++ point.unsent = _
    rw [unsent]
    exact order.sent
  current := by
    change ∀ issue ∈ point.unsent, _
    rw [unsent]
    exact order.current
  fresh := by
    intro isWaiting
    rw [show point.waits = true from isWaiting] at waits
    cases waits

/-- The task makes a call. -/
theorem TaskOrder.of_call [DecidableEq D] {queued : List (SpiXferReq T D)} {t : T}
    {own : TaskState T D} (order : TaskOrder queued t own) (memory : Memory) {ctx : D} {call : Call}
    (point : own.point = .idle) (proper : call.Proper own.device ctx) :
    TaskOrder queued t
      { point := call.point ctx (own.issue t memory ctx call)
        device := some ctx
        transactions := (own.issue t memory ctx call).transaction
        issued := own.issued ++ [own.issue t memory ctx call] } := by
  have unsent : (call.point ctx (own.issue t memory ctx call)).unsent =
      [own.issue t memory ctx call] := by
    cases call with
    | transfer dataOut dataIn len => cases dataIn <;> rfl
    | transactionStart | delayBeforeNextTransfer | transactionEnd => rfl
  have later : own.transactions ≤ (own.issue t memory ctx call).transaction := by
    unfold TaskState.issue
    dsimp only
    split
    · exact Nat.le_succ _
    · exact Nat.le_refl _
  have sameDevice : ∀ issue ∈ own.issued,
      issue.transaction = (own.issue t memory ctx call).transaction → issue.ctx = ctx := by
    intro issue member same
    by_cases starts : call = .transactionStart
    · -- The number of a new transaction is greater than all numbers before.
      have number : (own.issue t memory ctx call).transaction = own.transactions + 1 :=
        if_pos starts
      have bound := order.known issue member
      omega
    · have number : (own.issue t memory ctx call).transaction = own.transactions := if_neg starts
      have device : own.device = some ctx := by
        cases call with
        | transactionStart => exact absurd rfl starts
        | transfer | delayBeforeNextTransfer | transactionEnd => exact proper
      exact order.device issue member (same.trans number) ctx device
  have whole := order.sent
  rw [point] at whole
  exact
    { numbered := by
        rw [List.map_append, order.numbered, List.length_append, List.length_singleton,
          List.range_succ]
        rfl
      mine := by
        intro issue member
        rcases List.mem_append.mp member with old | new
        · exact order.mine issue old
        · rw [List.mem_singleton.mp new]
          rfl
      known := by
        intro issue member
        rcases List.mem_append.mp member with old | new
        · exact (order.known issue old).trans later
        · rw [List.mem_singleton.mp new]
      device := by
        intro issue member same other isCtx
        obtain rfl : ctx = other := Option.some.inj isCtx
        rcases List.mem_append.mp member with old | new
        · exact sameDevice issue old same
        · rw [List.mem_singleton.mp new]
          rfl
      oneDevice := by
        intro first isFirst second isSecond same
        rcases List.mem_append.mp isFirst with old | new
        · rcases List.mem_append.mp isSecond with older | newer
          · exact order.oneDevice first old second older same
          · rw [List.mem_singleton.mp newer] at same ⊢
            exact sameDevice first old same
        · rcases List.mem_append.mp isSecond with older | newer
          · rw [List.mem_singleton.mp new] at same ⊢
            exact (sameDevice second older same.symm).symm
          · rw [List.mem_singleton.mp new, List.mem_singleton.mp newer]
      sent := by
        change issues t queued ++ (call.point ctx (own.issue t memory ctx call)).unsent = _
        rw [unsent, ← whole]
        exact congrArg (· ++ _) (List.append_nil _).symm
      current := by
        change ∀ issue ∈ (call.point ctx (own.issue t memory ctx call)).unsent, _
        rw [unsent]
        intro issue member
        rw [List.mem_singleton.mp member]
      fresh := by
        intro waits request member same
        have pair := Prod.mk.inj (Option.some.inj same)
        have isOld := order.of_queued member pair.1
        cases call with
        | transactionStart =>
            have bound := order.known _ isOld
            have number : request.issue.transaction = own.transactions + 1 := pair.2
            omega
        | transfer dataOut dataIn len => cases dataIn <;> cases waits
        | delayBeforeNextTransfer | transactionEnd => cases waits }

/-- The request of the task comes into the queue. -/
theorem TaskOrder.of_queueSend {queued : List (SpiXferReq T D)} {t : T} {own : TaskState T D}
    (order : TaskOrder queued t own) {request : SpiXferReq T D}
    (point : own.point = .queueSend request) :
    request.transaction = some (t, own.transactions) ∧
      TaskOrder (queued ++ [request]) t { own with point := request.queuedPoint } := by
  have whole := order.sent
  have number := order.current request.issue
  rw [point] at whole number
  have member : request.issue ∈ own.issued := by
    rw [← whole]
    exact List.mem_append_right _ (List.mem_singleton_self _)
  have mine := order.mine _ member
  have isCurrent := number (List.mem_singleton_self _)
  have unsent : request.queuedPoint.unsent = [] := by
    unfold SpiXferReq.queuedPoint
    split <;> rfl
  constructor
  · rw [SpiXferReq.transaction, mine, isCurrent]
  · exact
      { numbered := order.numbered
        mine := order.mine
        known := order.known
        device := order.device
        oneDevice := order.oneDevice
        sent := by
          change issues t (queued ++ [request]) ++ request.queuedPoint.unsent = _
          rw [unsent, List.append_nil, issues_append, ← whole]
          simp [issues, mine, Point.unsent]
        current := by
          change ∀ issue ∈ request.queuedPoint.unsent, _
          rw [unsent]
          nofun
        fresh := by
          intro waits
          have isWaiting := request.waits_queuedPoint
          rw [show request.queuedPoint.waits = true from waits] at isWaiting
          cases isWaiting }

variable {source : State T D} {t : T} {effect : BusEffect T D}

/-- A step of a task that queues nothing. -/
theorem OrderInv.of_apply (inv : OrderInv source) (others : effect.others = id)
    (queued : effect.shared.queued = source.shared.queued)
    (own : TaskOrder source.shared.queued t effect.own)
    (ends : effect.shared.lock.holder = some t →
      EndsIn SpiXferReq.transaction source.shared.queued (t, effect.own.transactions))
    (holder : ∀ u, u ≠ t → effect.shared.lock.holder = some u →
      source.shared.lock.holder = some u) : OrderInv (source.apply t effect) where
  tasks := by
    intro u
    rw [Tasks.apply_shared, queued]
    by_cases same : u = t
    · rw [same, Tasks.apply_task_self]
      exact own
    · rw [Tasks.apply_task_of_ne source same, others]
      exact inv.tasks u
  contiguous := by
    rw [Tasks.apply_shared, queued]
    exact inv.contiguous
  ends := by
    intro u isHolder
    rw [Tasks.apply_shared, queued]
    by_cases same : u = t
    · subst same
      rw [Tasks.apply_task_self]
      exact ends isHolder
    · rw [Tasks.apply_task_of_ne source same, others]
      exact inv.ends u (holder u same isHolder)

theorem OrderInv.of_taskMove [DecidableEq D] {event : Event D} (inv : OrderInv source)
    (lockInv : LockInv source)
    (move : TaskMove t source.shared (source.task t) event effect) :
    OrderInv (source.apply t effect) := by
  have others := move.others
  have order := inv.tasks t
  cases move with
  | @call ctx call point proper =>
      apply inv.of_apply others rfl (order.of_call source.shared.memory point proper)
      · intro isHolder
        by_cases starts : call = .transactionStart
        · subst starts
          have outside : (source.task t).device = none := proper
          have positive := (lockInv.owned.pos_iff t).mpr isHolder
          rw [TaskState.holds, outside] at positive
          exact absurd positive (Nat.lt_irrefl 0)
        · have same : ((source.task t).issue t source.shared.memory ctx call).transaction =
              (source.task t).transactions := if_neg starts
          change EndsIn _ _ (t, ((source.task t).issue t source.shared.memory ctx call).transaction)
          rw [same]
          exact inv.ends t isHolder
      · exact fun _ _ isHolder => isHolder
  | @mutexGet issue lock point got =>
      apply inv.of_apply others rfl (order.of_proceed (by rw [point]; rfl) rfl)
      · intro _
        exact endsIn_of_fresh (order.fresh (by rw [point]; rfl))
      · intro u different isHolder
        have isMine : lock.holder = some t := by
          unfold RecursiveMutex.get? at got
          split at got
          · cases got
            rfl
          · split at got
            · cases got
              rfl
            · cases got
        exact absurd (Option.some.inj (isHolder.symm.trans isMine)) different
  | priorityGet point =>
      exact inv.of_apply others rfl (order.of_proceed (by rw [point]; rfl) rfl) (inv.ends t)
        fun _ _ isHolder => isHolder
  | copy point copied =>
      have lock := lock_of_copy? copied
      have queued := congrArg Bus.queued (eq_of_copy? copied)
      apply inv.of_apply others queued
        (order.of_proceed (by rw [point]; rfl) rfl)
      · intro isHolder
        exact inv.ends t ((congrArg RecursiveMutex.holder lock).symm.trans isHolder)
      · intro u _ isHolder
        exact (congrArg RecursiveMutex.holder lock).symm.trans isHolder
  | @queueSend request after point sent =>
      rcases queueSend?_eq_some_iff.mp sent with ⟨_, rfl⟩
      rcases order.of_queueSend point with ⟨transaction, ownOrder⟩
      have isHolder := lockInv.holder_of_holds
        (lockInv.holds_of_busy (by rw [point]; rintro ⟨⟩) (by rw [point]; rfl))
      have isMine : request.issue.task = t := congrArg Prod.fst (Option.some.inj transaction)
      have ends := inv.ends t isHolder
      exact
        { tasks := by
            intro u
            by_cases same : u = t
            · rw [same, Tasks.apply_task_self]
              exact ownOrder
            · rw [Tasks.apply_task_of_ne source same]
              exact (inv.tasks u).of_other fun isOther => same (isOther.symm.trans isMine)
          contiguous := by
            apply inv.contiguous.snoc
            intro g isGroup
            obtain rfl : (t, (source.task t).transactions) = g :=
              Option.some.inj (transaction.symm.trans isGroup)
            exact ends
          ends := by
            intro u isOther
            obtain rfl : t = u := Option.some.inj (isHolder.symm.trans isOther)
            rw [Tasks.apply_task_self]
            exact ends.snoc transaction }
  | dataReady point taken =>
      exact inv.of_apply others rfl (order.of_proceed (by rw [point]; rfl) rfl) (inv.ends t)
        fun _ _ isHolder => isHolder
  | mutexPut point =>
      have isHolder := lockInv.holder_of_holds
        (lockInv.holds_of_busy (by rw [point]; rintro ⟨⟩) (by rw [point]; rfl))
      have free : ∀ u, u ≠ t → (source.shared.lock.put t).holder ≠ some u := by
        intro u different isOther
        rw [RecursiveMutex.put, if_pos isHolder] at isOther
        split at isOther
        · cases isOther
        · exact different (Option.some.inj isOther).symm
      apply inv.of_apply others rfl
      · have kept : TaskOrder _ t { source.task t with point := .idle } :=
          order.of_proceed (by rw [point]; rfl) rfl
        exact { kept with device := by rintro _ _ _ _ ⟨⟩ }
      · intro _
        exact inv.ends t isHolder
      · exact fun u different isOther => absurd isOther (free u different)

/-- A step that does not touch the lock, a task or what was queued. -/
theorem OrderInv.of_queued {bus : Bus T D} (inv : OrderInv source)
    (queued : bus.queued = source.shared.queued) (lock : bus.lock = source.shared.lock) :
    OrderInv { source with shared := bus } where
  tasks := by
    intro u
    change TaskOrder bus.queued u (source.task u)
    rw [queued]
    exact inv.tasks u
  contiguous := by
    change Contiguous _ bus.queued
    rw [queued]
    exact inv.contiguous
  ends := by
    intro u isHolder
    change EndsIn _ bus.queued _
    rw [queued]
    exact inv.ends u ((congrArg RecursiveMutex.holder lock).symm.trans isHolder)

theorem orderInv_start (priority coreAffinity : UInt32) (memory : Memory) :
    OrderInv (start priority coreAffinity memory : State T D) where
  tasks := fun _ =>
    { numbered := rfl
      mine := nofun
      known := nofun
      device := nofun
      oneDevice := nofun
      sent := rfl
      current := nofun
      fresh := nofun }
  contiguous := contiguous_nil
  ends := nofun

end Order

end FwkRtos.SpiMaster

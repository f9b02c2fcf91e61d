import FwkRtos.QspiFlash.Session

/-!
# Who uses the flash pins

The operation thread takes neither the mutex nor the spinlock while it executes
an operation, and the setup of a low-level session takes neither at all.  What
keeps the users of the pins apart is how they are called: an operation that a
low-level read could meet belongs to a task that keeps the flash locked, and a
session is set up under the lock or while nobody else uses it.
-/

namespace FwkRtos.QspiFlash

open FwkRtos.Osal
open FwkRtos.Transition

universe u

section

variable {T : Type u}

/-- The low-level read has the spinlock and is not done with the flash. -/
def Point.transferring : Point T → Bool
  | .lowLevelRead _ (.loop _ cursor pending) => decide (pending ≠ [] ∨ cursor.len ≠ 0)
  | _ => false

/-- The low-level read has data to read and is not done with it. -/
def Point.inRead : Point T → Bool
  | .lowLevelRead _ (.spinlockGet cursor) => decide (cursor.len ≠ 0)
  | point => point.transferring

/-- The task is about to queue an operation. -/
def Point.requesting : Point T → Bool
  | .request _ _ => true
  | _ => false

def Point.locking : Point T → Bool
  | .lock _ => true
  | _ => false

def Point.settingUp : Point T → Bool
  | .setup _ => true
  | _ => false

/-- The task has the flash locked and is not about to unlock it. -/
def TaskState.keepsLock (own : TaskState T) : Bool :=
  match own.point with
  | .unlock .owner => decide (1 < own.depth)
  | _ => decide (0 < own.depth)

/-- An operation of the task is being requested, queued or executed. -/
def Pending (state : State T) (t : T) : Prop :=
  (state.task t).point.requesting = true ∨
    (∃ entry ∈ state.shared.opQueue, entry.isOperation = true ∧ entry.task = t) ∨
    ∃ entry ∈ state.shared.thread.current, entry.task = t

/-- A low-level read with data to read is only called while every task with a
pending operation keeps the flash locked, and during one no other operation is
called and no such lock is given up. -/
def ReadsGuarded (state : State T) : Label T → Prop
  | .task t (.call call _) =>
      ((call.entry : Point T).inRead = true →
        ∀ u, Pending state u → (state.task u).keepsLock = true) ∧
      ((call.entry : Point T).requesting = true → (state.task t).depth = 0 →
        ∀ u, (state.task u).point.inRead = false) ∧
      (call = .unlock → (state.task t).depth = 1 → Pending state t →
        ∀ u, (state.task u).point.inRead = false)
  | _ => True

/-- A setup is only called by a task that has the flash locked, or while no other
task uses the lock, and then no other task calls the lock before it returns. -/
def SetupsGuarded (state : State T) : Label T → Prop
  | .task t (.call call _) =>
      (call = .fastReadSetupLl → 0 < (state.task t).depth ∨
        ∀ u, u ≠ t → (state.task u).point.locking = false ∧ (state.task u).depth = 0) ∧
      (call = .lock → ∀ u, u ≠ t → (state.task u).point.settingUp = true →
        0 < (state.task u).depth)
  | _ => True

/-- What the callers of the driver have to see to. -/
@[mk_iff]
structure CallsGuarded (state : State T) (label : Label T) : Prop where
  reads : ReadsGuarded state label
  setups : SetupsGuarded state label
  sessions : SessionsApart state label

/-- While the thread executes an operation no low-level read transfers data, and
no session uses the pins, from its setup on; and no session is set up while
another task has the flash locked. -/
structure OneUser (state : State T) : Prop where
  read : ∀ t, (state.task t).point.transferring = true → state.shared.thread.current = none
  session : ∀ t, (state.task t).stage = .opened → state.shared.thread.current = none
  setup : ∀ t u, (state.task t).point.settingUp = true → u ≠ t → (state.task u).depth = 0

theorem Point.inRead_of_transferring {point : Point T} (transfers : point.transferring = true) :
    point.inRead = true := by
  unfold Point.inRead
  split
  · cases transfers
  · exact transfers

theorem Point.reading_of_transferring {point : Point T} (transfers : point.transferring = true) :
    point.reading = true := by
  unfold Point.transferring at transfers
  split at transfers
  · rfl
  · cases transfers

theorem TaskState.depth_of_keepsLock {own : TaskState T} (keeps : own.keepsLock = true) :
    0 < own.depth := by
  unfold TaskState.keepsLock at keeps
  split at keeps
  · exact Nat.lt_of_succ_lt (of_decide_eq_true keeps)
  · exact of_decide_eq_true keeps

theorem TaskState.keepsLock_of_point {own : TaskState T} (locked : 0 < own.depth)
    (notUnlocking : own.point ≠ .unlock .owner) : own.keepsLock = true := by
  unfold TaskState.keepsLock
  split
  · next point => exact absurd point notUnlocking
  · exact decide_eq_true locked

theorem LowLevelRead.len_of_iteration {config : Config} {function : LowLevelRead}
    {cursor rest : Cursor} {calls : List DeviceCall}
    (more : function.iteration config cursor = some (calls, rest)) : cursor.len ≠ 0 := by
  intro done
  rw [LowLevelRead.iteration, if_pos done] at more
  cases more

theorem Call.inRead_of_requesting {call : Call}
    (requests : (call.entry : Point T).requesting = true) :
    (call.entry : Point T).inRead = false := by
  cases call <;> first | rfl | cases requests

/-- The thread begins no operation that was not pending before. -/
theorem ThreadMove.pending {source : State T} {after : Flash T} {t : T}
    (move : ThreadMove source.shared after) (pending : Pending ⟨after, source.task⟩ t) :
    Pending source t := by
  rcases pending with requests | ⟨entry, queued, isOperation, isTask⟩ | ⟨entry, current, isTask⟩
  · exact .inl requests
  · refine .inr (.inl ⟨entry, ?_, isOperation, isTask⟩)
    cases move with
    | receiveOperation _ head | receiveSetup _ head =>
        rw [head]
        exact List.mem_cons_of_mem _ queued
    | _ => exact queued
  · cases move with
    | @receiveOperation received queue _ head isOperation =>
        cases current
        exact .inr (.inl ⟨_, by rw [head]; exact List.mem_cons_self, isOperation, isTask⟩)
    | work before isAfter =>
        rw [Option.mem_def, isAfter] at current
        exact .inr (.inr ⟨entry, before.trans current, isTask⟩)
    | _ => cases current

variable [DecidableEq T] {config : Config} {source : State T} {task : T} {event : Event}
  {effect : FlashEffect T}

/-! ## What a step of a task does to the users -/

theorem TaskMove.inRead
    (move : TaskMove config task source.shared (source.task task) event effect)
    (reads : effect.own.point.inRead = true) :
    (source.task task).point.inRead = true ∨
      ∃ call priority, event = .call call priority ∧ (call.entry : Point T).inRead = true := by
  cases move with
  | @call call priority _ point proper => exact .inr ⟨call, priority, rfl, reads⟩
  | readSpinlockGet point free =>
      left
      rw [point]
      rcases of_decide_eq_true reads with pending | len
      · exact absurd rfl pending
      · exact decide_eq_true len
  | readCall point =>
      left
      rw [point, Point.inRead, Point.transferring, decide_eq_true_eq]
      exact .inl (List.cons_ne_nil _ _)
      exact nofun
  | readIteration point more =>
      left
      rw [point, Point.inRead, Point.transferring, decide_eq_true_eq]
      exact .inr (LowLevelRead.len_of_iteration more)
      exact nofun
  | @mutexPut entry point =>
      rw [proceed] at reads
      cases isRead : entry.isRead <;> rw [isRead] at reads <;> cases reads
  | @lockMutexGet mutexOwned mutex point got => cases mutexOwned <;> cases reads
  | _ => cases reads

theorem TaskMove.requesting
    (move : TaskMove config task source.shared (source.task task) event effect)
    (requests : effect.own.point.requesting = true) :
    (source.task task).point.requesting = true ∨
      ∃ call priority, event = .call call priority ∧ (call.entry : Point T).requesting = true := by
  cases move with
  | @call call priority _ point proper => exact .inr ⟨call, priority, rfl, requests⟩
  | requestMutexGet point got | requestPriorityGet point =>
      left
      rw [point]
      rfl
  | @mutexPut entry point =>
      rw [proceed] at requests
      cases isRead : entry.isRead <;> rw [isRead] at requests <;> cases requests
  | @lockMutexGet mutexOwned mutex point got => cases mutexOwned <;> cases requests
  | _ => cases requests

theorem TaskMove.queued
    (move : TaskMove config task source.shared (source.task task) event effect) {entry : Entry T}
    (isOperation : entry.isOperation = true) (queued : entry ∈ effect.shared.opQueue) :
    entry ∈ source.shared.opQueue ∨
      (source.task task).point.requesting = true ∧ entry.task = task := by
  cases move with
  | requestQueueSend point room =>
      rcases List.mem_append.mp queued with before | new
      · exact .inl before
      · rw [List.mem_singleton.mp new, point]
        exact .inr ⟨rfl, rfl⟩
  | setupSend point room =>
      rcases List.mem_append.mp queued with before | new
      · exact .inl before
      · rw [List.mem_singleton.mp new] at isOperation
        cases isOperation
  | _ => exact .inl queued

theorem TaskMove.keepsLock
    (move : TaskMove config task source.shared (source.task task) event effect)
    (keeps : (source.task task).keepsLock = true) :
    effect.own.keepsLock = true ∨
      (∃ priority, event = .call .unlock priority) ∧ (source.task task).depth = 1 := by
  have locked := TaskState.depth_of_keepsLock keeps
  cases move with
  | @call call priority _ point proper =>
      by_cases last : call = .unlock ∧ (source.task task).depth = 1
      · obtain ⟨rfl, one⟩ := last
        exact .inr ⟨⟨priority, rfl⟩, one⟩
      · left
        cases call with
        | unlock =>
            have more : (source.task task).depth ≠ 1 := fun one => last ⟨rfl, one⟩
            exact decide_eq_true (Nat.lt_of_le_of_ne locked more.symm)
        | _ => exact decide_eq_true locked
  | unlockOwner point isOwner =>
      rw [TaskState.keepsLock, point] at keeps
      exact .inl (decide_eq_true (Nat.sub_pos_of_lt (of_decide_eq_true keeps)))
  | lockSpin | lockStore => exact .inl (decide_eq_true (Nat.succ_pos (source.task task).depth))
  | @mutexPut entry point =>
      refine .inl (TaskState.keepsLock_of_point locked ?_)
      rw [proceed]
      cases entry.isRead <;> simp
  | @lockMutexGet mutexOwned mutex point got =>
      refine .inl (TaskState.keepsLock_of_point locked ?_)
      rw [proceed]
      cases mutexOwned <;> simp
  | _ => exact .inl (TaskState.keepsLock_of_point locked (by rintro ⟨⟩))

theorem TaskMove.settingUp
    (move : TaskMove config task source.shared (source.task task) event effect)
    (sets : effect.own.point.settingUp = true) :
    effect.own.depth = (source.task task).depth ∧ ((source.task task).point.settingUp = true ∨
      ∃ priority, event = .call .fastReadSetupLl priority) := by
  cases move with
  | @call call priority _ point proper =>
      cases call with
      | fastReadSetupLl => exact ⟨rfl, .inr ⟨priority, rfl⟩⟩
      | _ => cases sets
  | setupFlag point | setupSend point | setupPoll point | setupResources point =>
      rw [point]
      exact ⟨rfl, .inl rfl⟩
  | @mutexPut entry point =>
      rw [proceed] at sets
      cases isRead : entry.isRead <;> rw [isRead] at sets <;> cases sets
  | @lockMutexGet mutexOwned mutex point got => cases mutexOwned <;> cases sets
  | _ => cases sets

theorem TaskMove.unlocked
    (move : TaskMove config task source.shared (source.task task) event effect)
    (notLocking : (source.task task).point.locking = false)
    (unlocked : (source.task task).depth = 0) :
    (effect.own.point.locking = false ∧ effect.own.depth = 0) ∨
      ∃ priority, event = .call .lock priority := by
  cases move with
  | @call call priority _ point proper =>
      cases call with
      | lock => exact .inr ⟨priority, rfl⟩
      | _ => exact .inl ⟨rfl, unlocked⟩
  | lockOwner point | lockMutexGet point | lockSpin point | lockLoad point | lockStore point =>
      rw [point] at notLocking
      cases notLocking
  | unlockOwner point isOwner =>
      left
      rw [unlocked]
      exact ⟨rfl, rfl⟩
  | @mutexPut entry point =>
      refine .inl ⟨?_, unlocked⟩
      rw [proceed]
      cases entry.isRead <;> rfl
  | _ => exact .inl ⟨rfl, unlocked⟩

/-! ## The invariant -/

/-- What the separation of the users rests on. -/
structure PinInv (state : State T) : Prop where
  locks : LockInv state
  order : OrderInv state
  sessions : SessionInv state
  reads : ∀ t u, (state.task t).point.inRead = true → Pending state u →
    (state.task u).keepsLock = true
  setups : ∀ t, (state.task t).point.settingUp = true → 0 < (state.task t).depth ∨
    ∀ u, u ≠ t → (state.task u).point.locking = false ∧ (state.task u).depth = 0

theorem PinInv.oneUser {state : State T} (inv : PinInv state) : OneUser state where
  read := by
    intro t transfers
    have unlocked := inv.locks.locked.readUnlocked t
    rw [Option.eq_none_iff_forall_ne_some]
    intro entry current
    have keeps := inv.reads t entry.task (Point.inRead_of_transferring transfers)
      (.inr (.inr ⟨entry, current, rfl⟩))
    have locked := TaskState.depth_of_keepsLock keeps
    rw [unlocked entry.task (Point.reading_of_transferring transfers)] at locked
    exact Nat.lt_irrefl 0 locked
  session := fun _ opened => inv.sessions.current_of_opened opened
  setup := by
    intro t u sets different
    rcases inv.setups t sets with locked | alone
    · by_contra other
      exact different (inv.locks.locked.oneHolder u t (Nat.pos_of_ne_zero other) locked)
    · exact (alone u different).2

theorem pinInv_start (config : Config) : PinInv (start config : State T) where
  locks := lockInv_start config
  order := orderInv_start config
  sessions := sessionInv_start config
  reads := nofun
  setups := nofun

/-- An operation is pending after a step of a task if it was before, or if the
task has just called it. -/
theorem TaskMove.pending {target : State T} {t : T}
    (move : TaskMove config task source.shared (source.task task) event effect)
    (shared : target.shared = effect.shared)
    (tasks : target.task = Function.update source.task task effect.own)
    (pending : Pending target t) : Pending source t ∨ t = task ∧
      ∃ call priority, event = .call call priority ∧ (call.entry : Point T).requesting = true := by
  rcases pending with requests | ⟨entry, queued, isOperation, rfl⟩ | ⟨entry, current, isTask⟩
  · rw [tasks] at requests
    by_cases isTask : t = task
    · subst isTask
      rw [Function.update_self] at requests
      rcases move.requesting requests with before | called
      · exact .inl (.inl before)
      · exact .inr ⟨rfl, called⟩
    · rw [Function.update_of_ne isTask] at requests
      exact .inl (.inl requests)
  · rw [shared] at queued
    rcases move.queued isOperation queued with before | ⟨requests, isTask⟩
    · exact .inl (.inr (.inl ⟨entry, before, isOperation, rfl⟩))
    · rw [isTask]
      exact .inl (.inl requests)
  · rw [shared, move.executed.2] at current
    exact .inl (.inr (.inr ⟨entry, current, isTask⟩))

theorem PinInv.reads_task {target : State T} (inv : PinInv source)
    (guarded : ReadsGuarded source (.task task event))
    (move : TaskMove config task source.shared (source.task task) event effect)
    (shared : target.shared = effect.shared)
    (tasks : target.task = Function.update source.task task effect.own) {t u : T}
    (reads : (target.task t).point.inRead = true) (pending : Pending target u) :
    (target.task u).keepsLock = true := by
  have readBefore : (source.task t).point.inRead = true ∨ t = task ∧
      ∃ call priority, event = .call call priority ∧ (call.entry : Point T).inRead = true := by
    rw [tasks] at reads
    by_cases isTask : t = task
    · subst isTask
      rw [Function.update_self] at reads
      exact (move.inRead reads).imp_right fun called => ⟨rfl, called⟩
    · rw [Function.update_of_ne isTask] at reads
      exact .inl reads
  -- The lock was kept before the step, and is not given up in it.
  have keptBefore : (source.task u).keepsLock = true ∧ ((∃ priority,
      event = .call .unlock priority) → u = task → (source.task u).depth ≠ 1) := by
    rcases move.pending shared tasks pending with before | ⟨rfl, call, priority, rfl, requests⟩
    · rcases readBefore with reads | ⟨rfl, call, priority, rfl, begins⟩
      · refine ⟨inv.reads t u reads before, ?_⟩
        rintro ⟨priority, rfl⟩ rfl one
        rw [guarded.2.2 rfl one before t] at reads
        cases reads
      · refine ⟨guarded.1 begins u before, ?_⟩
        rintro ⟨_, same⟩
        cases same
        cases begins
    · have locked : 0 < (source.task u).depth := by
        by_contra unlocked
        have quiet := guarded.2.1 requests (Nat.eq_zero_of_not_pos unlocked)
        rcases readBefore with reads | ⟨_, other, _, same, begins⟩
        · rw [quiet t] at reads
          cases reads
        · cases same
          rw [Call.inRead_of_requesting requests] at begins
          cases begins
      cases move with
      | call point proper =>
          refine ⟨TaskState.keepsLock_of_point locked (by rw [point]; nofun), ?_⟩
          rintro ⟨_, same⟩
          cases same
          cases requests
  rw [tasks]
  by_cases isTask : u = task
  · subst isTask
    rw [Function.update_self]
    rcases move.keepsLock keptBefore.1 with keeps | ⟨unlocks, one⟩
    · exact keeps
    · exact absurd one (keptBefore.2 unlocks rfl)
  · rw [Function.update_of_ne isTask]
    exact keptBefore.1

theorem PinInv.setups_task {target : State T} (inv : PinInv source)
    (guarded : SetupsGuarded source (.task task event))
    (move : TaskMove config task source.shared (source.task task) event effect)
    (tasks : target.task = Function.update source.task task effect.own) {t : T}
    (sets : (target.task t).point.settingUp = true) : 0 < (target.task t).depth ∨
      ∀ u, u ≠ t → (target.task u).point.locking = false ∧ (target.task u).depth = 0 := by
  rw [tasks] at sets ⊢
  by_cases isTask : t = task
  · subst isTask
    rw [Function.update_self] at sets ⊢
    obtain ⟨depth, began⟩ := move.settingUp sets
    have before : 0 < (source.task t).depth ∨
        ∀ u, u ≠ t → (source.task u).point.locking = false ∧ (source.task u).depth = 0 := by
      rcases began with before | ⟨priority, rfl⟩
      · exact inv.setups t before
      · exact guarded.1 rfl
    rw [depth]
    refine before.imp_right fun alone u different => ?_
    rw [Function.update_of_ne different]
    exact alone u different
  · rw [Function.update_of_ne isTask] at sets ⊢
    by_cases locked : 0 < (source.task t).depth
    · exact .inl locked
    · right
      have alone := (inv.setups t sets).resolve_left locked
      intro u different
      by_cases moved : u = task
      · subst moved
        rw [Function.update_self]
        obtain ⟨notLocking, unlocked⟩ := alone u different
        rcases move.unlocked notLocking unlocked with still | ⟨priority, rfl⟩
        · exact still
        · exact absurd (guarded.2 rfl t isTask sets) locked
      · rw [Function.update_of_ne moved]
        exact alone u different

theorem PinInv.next {target : State T} {label : Label T} (inv : PinInv source)
    (guarded : CallsGuarded source label)
    (step : QspiFlash.next config source label = some target) : PinInv target := by
  have locks := inv.locks.next step
  have order := inv.order.next inv.locks step
  have sessions := inv.sessions.next inv.order guarded.sessions step
  rcases next_cases step with ⟨task, event, effect, rfl, move, shared, tasks⟩ |
    ⟨event, rfl, move, tasks⟩
  · exact
      { locks := locks
        order := order
        sessions := sessions
        reads := fun _ _ => inv.reads_task guarded.reads move shared tasks
        setups := fun _ => inv.setups_task guarded.setups move tasks }
  · refine ⟨locks, order, sessions, fun t u reads pending => ?_, ?_⟩
    · rw [tasks] at reads ⊢
      refine inv.reads t u reads (move.pending ?_)
      rw [← tasks]
      exact pending
    · rw [tasks]
      exact inv.setups

/-- In every run whose calls are guarded the users of the pins stay apart, and no
session is set up while another task has the flash locked. -/
theorem oneUser_of_callsGuarded {schedule : List (Label T)}
    (guarded : StepsMeet (QspiFlash.next config) (start config) schedule CallsGuarded) :
    StatesSatisfy (QspiFlash.next config) (start config) schedule OneUser :=
  guarded.statesSatisfy (pinInv_start config) (fun _ _ _ inv met step => inv.next met step)
    fun _ inv => inv.oneUser

end

/-! ## Two tasks -/

section

variable {T : Type u} [DecidableEq T] [Fintype T] (state : State T)

instance (t : T) : Decidable (Pending state t) := inferInstanceAs (Decidable (_ ∨ _ ∨ _))

instance (label : Label T) : Decidable (ReadsGuarded state label) :=
  match label with
  | .task _ (.call _ _) => inferInstanceAs (Decidable (_ ∧ _ ∧ _))
  | .task _ .run | .system _ => .isTrue trivial

instance (label : Label T) : Decidable (SetupsGuarded state label) :=
  match label with
  | .task _ (.call _ _) => inferInstanceAs (Decidable (_ ∧ _))
  | .task _ .run | .system _ => .isTrue trivial

instance (label : Label T) : Decidable (CallsGuarded state label) :=
  decidable_of_iff _ (callsGuarded_iff state label).symm

end

/-- Task 0 queues a write of four bytes and returns. -/
def queueWrite : List (Label (Fin 2)) :=
  moves ((0, .call (.write 0 0x100 4) 1) :: List.replicate 4 (0, .run))

/-- Task 1 reads four bytes by a low-level read, up to the transfer. -/
def beginLowLevelRead : List (Label (Fin 2)) :=
  moves ((1, .call (.lowLevelRead .read 0 0x100 4) 1) :: List.replicate 2 (1, .run))

/-- A write is executed; then task 1 reads; then it opens a session under the
flash lock. -/
def oneAfterTheOther : List (Label (Fin 2)) :=
  queueWrite ++ List.replicate 14 (.system .run) ++
    beginLowLevelRead ++ moves (List.replicate 3 (1, .run)) ++
    moves ((1, .call .lock 1) :: List.replicate 3 (1, .run) ++
      (1, .call .fastReadSetupLl 1) :: List.replicate 2 (1, .run)) ++
    List.replicate 2 (.system .run) ++ moves (List.replicate 3 (1, .run))

theorem oneAfterTheOther_oneUser :
    (run (next smallFlash) (start smallFlash) oneAfterTheOther).map
        (fun state => (state.task 1).llOpen) = some true ∧
      StatesSatisfy (next smallFlash) (start smallFlash) oneAfterTheOther OneUser :=
  ⟨by decide, oneUser_of_callsGuarded (by decide)⟩

/-- The write has returned and the thread is about to program the page when task
1 gets the spinlock. -/
def readDuringWrite : List (Label (Fin 2)) :=
  queueWrite ++ List.replicate 7 (.system .run) ++ beginLowLevelRead

/-- The low-level read is about to transfer data while the write is executed. -/
theorem readDuringWrite_not_oneUser :
    ¬ ∀ state : State (Fin 2), Reachable (next smallFlash) (start smallFlash) state →
      OneUser state := by
  intro always
  obtain ⟨state, reachable, final⟩ := exists_reachable_of_run (next smallFlash) (start smallFlash)
    readDuringWrite (fun state => decide ((state.task 1).point.transferring = true ∧
      state.shared.thread.current.isSome = true)) (by decide)
  obtain ⟨transfers, executing⟩ := of_decide_eq_true final
  rw [(always state reachable).read 1 transfers] at executing
  cases executing

end FwkRtos.QspiFlash

import FwkRtos.QspiFlash.Steps

/-!
# The lock and the spinlock of the flash

The flash lock is a recursive mutex together with a spinlock that counts the
same recursion, so that a low-level read can tell whether the flash is locked.
The two are not changed together, and the operations take the mutex without the
spinlock; still each of them is a count that at most one task has a share in.
-/

namespace FwkRtos.QspiFlash

open FwkRtos.Osal
open FwkRtos.Transition

universe u

section

variable {T : Type u}

/-- The task has taken the mutex once more than it has the flash locked: within
a lock, an unlock or a request. -/
def Point.holdsMutex : Point T → Bool
  | .lock .spin => true
  | .lock .load => true
  | .lock (.store _) => true
  | .unlock .load => true
  | .unlock (.store _) => true
  | .unlock .mutexPut => true
  | .request .priorityGet _ => true
  | .request .queueSend _ => true
  | .mutexPut _ => true
  | _ => false

/-- The low-level read has the spinlock. -/
def Point.reading : Point T → Bool
  | .lowLevelRead _ (.loop _ _ _) => true
  | .lowLevelRead _ (.release _) => true
  | _ => false

/-- The body of a lock or an unlock that has the mutex. -/
def Point.inLockBody : Point T → Bool
  | .lock .spin => true
  | .lock .load => true
  | .lock (.store _) => true
  | .unlock .load => true
  | .unlock (.store _) => true
  | .unlock .mutexPut => true
  | _ => false

/-- How often the task has taken the mutex and not put it. -/
def TaskState.mutexShare (own : TaskState T) : Nat :=
  own.depth + own.point.holdsMutex.toNat

/-- What a task with the given depth has added to the spinlock: an unlock takes
its part away when the depth is already less, and a low-level read counts as
one. -/
def Point.spinShare (depth : Nat) : Point T → Nat
  | .unlock .load => depth + 1
  | .unlock (.store _) => depth + 1
  | .lowLevelRead _ (.loop _ _ _) => 1
  | .lowLevelRead _ (.release _) => 1
  | _ => depth

def TaskState.spinShare (own : TaskState T) : Nat :=
  own.point.spinShare own.depth

/-- What a task with the given depth has read earlier in its call is still so. -/
def Point.UpToDate (depth : Nat) : Point T → Prop
  | .lock (.mutexGet mutexOwned) => mutexOwned = decide (0 < depth)
  | .lock .spin => depth = 0
  | .lock .load => 0 < depth
  | .lock (.store value) => 0 < depth ∧ value = depth
  | .unlock (.store value) => value = (depth + 1 : Nat)
  | .lowLevelRead _ (.loop found _ _) => depth = 0 ∧ found = 0
  | .lowLevelRead _ (.release found) => depth = 0 ∧ found = 0
  | _ => True

/-- The mutex and the spinlock are each shared out to at most one task. -/
structure LockInv (state : State T) : Prop where
  mutex : Owned (fun t => (state.task t).mutexShare) state.shared.mutex.holder
    state.shared.mutex.count
  spinlock : ∃ owner value, state.shared.spinlock = (value : Nat) ∧
    Owned (fun t => (state.task t).spinShare) owner value
  upToDate : ∀ t, (state.task t).point.UpToDate (state.task t).depth

theorem lockInv_start (config : Config) : LockInv (start config : State T) where
  mutex := Owned.nobody
  spinlock := ⟨none, 0, rfl, Owned.nobody⟩
  upToDate := fun _ => trivial

theorem Call.holdsMutex_entry (call : Call) : (call.entry : Point T).holdsMutex = false := by
  cases call <;> rfl

theorem Call.spinShare_entry (call : Call) (depth : Nat) :
    (call.entry : Point T).spinShare depth = depth := by
  cases call <;> rfl

theorem Call.upToDate_entry (call : Call) (depth : Nat) :
    (call.entry : Point T).UpToDate depth := by
  cases call <;> trivial

/-! ## What holds of the spinlock -/

theorem LockInv.spinShare_of_free {state : State T} (inv : LockInv state)
    (free : state.shared.spinlock = 0) (t : T) : (state.task t).spinShare = 0 := by
  obtain ⟨owner, value, spinlock, owned⟩ := inv.spinlock
  have zero : value = 0 := by
    rw [spinlock] at free
    exact Int.ofNat_eq_zero.mp free
  exact owned.zero_of_value zero t

theorem LockInv.spinlock_eq {state : State T} (inv : LockInv state) {t : T}
    (positive : 0 < (state.task t).spinShare) :
    state.shared.spinlock = ((state.task t).spinShare : Nat) := by
  obtain ⟨owner, value, spinlock, owned⟩ := inv.spinlock
  rw [spinlock, ← owned.eq_of_pos positive]

theorem LockInv.holder_iff {state : State T} (inv : LockInv state) (t : T) :
    state.shared.mutex.holder = some t ↔ 0 < (state.task t).mutexShare :=
  (inv.mutex.pos_iff t).symm

variable [DecidableEq T] {config : Config} {source : State T} {task : T} {event : Event}
  {effect : FlashEffect T}

/-- The shares of a family of tasks after one of them has moved. -/
theorem share_update (share : TaskState T → Nat) (states : T → TaskState T) (task : T)
    (own : TaskState T) :
    (fun t => share (Function.update states task own t)) =
      Function.update (fun t => share (states t)) task (share own) := by
  funext t
  by_cases same : t = task
  · rw [same, Function.update_self, Function.update_self]
  · rw [Function.update_of_ne same, Function.update_of_ne same]

theorem LockInv.mutex_move (inv : LockInv source)
    (move : TaskMove config task source.shared (source.task task) event effect) :
    Owned (Function.update (fun t => (source.task t).mutexShare) task effect.own.mutexShare)
      effect.shared.mutex.holder effect.shared.mutex.count := by
  have holder := inv.holder_iff task
  have before : (source.task task).mutexShare =
      (source.task task).depth + (source.task task).point.holdsMutex.toNat := rfl
  -- The share stays, unless the step takes or puts the mutex.
  have stays : effect.own.mutexShare = (source.task task).mutexShare →
      Owned (Function.update (fun t => (source.task t).mutexShare) task effect.own.mutexShare)
        source.shared.mutex.holder source.shared.mutex.count :=
    fun same => inv.mutex.update_self same
  cases move with
  | @lockMutexGet mutexOwned mutex point got =>
      have taken := RecursiveMutex.owned_get inv.mutex got
      rw [before, point] at taken
      cases mutexOwned <;> exact taken
  | requestMutexGet point got =>
      have taken := RecursiveMutex.owned_get inv.mutex got
      rw [before, point] at taken
      exact taken
  | unlockOwner point isOwner =>
      apply stays
      rw [before, point] at holder
      rw [before, point]
      exact Nat.sub_add_cancel (holder.mp isOwner)
  | unlockMutexPut point =>
      rw [before, point] at holder
      have put := RecursiveMutex.owned_put inv.mutex (holder.mpr (Nat.succ_pos _))
      rw [before, point] at put
      exact put
  | @mutexPut entry point =>
      rw [before, point] at holder
      have put := RecursiveMutex.owned_put inv.mutex (holder.mpr (Nat.succ_pos _))
      rw [before, point] at put
      have outside : (if entry.isRead then Point.dataReady entry else .idle none).holdsMutex =
          false := by
        split <;> rfl
      rw [proceed, TaskState.mutexShare, outside]
      exact put
  | call point proper =>
      apply stays
      rw [before, point, TaskState.mutexShare, Call.holdsMutex_entry]
      rfl
  | lockOwner point | lockSpin point | lockLoad point | lockStore point | unlockNothing point
  | unlockLoad point | unlockStore point | requestPriorityGet point | requestQueueSend point
  | dataReady point | readSpinlockGet point | readUnavailable point | readCall point
  | readIteration point | readEnd point | readRelease point | setupFlag point | setupSend point
  | setupPoll point | setupResources point | setupCalibration point | shutdownLastOp point
  | shutdownPorts point | shutdownResume point =>
      apply stays
      rw [before, point]
      rfl

/-- A task that has a part of the spinlock, or any task while nobody has, may
set it. -/
theorem LockInv.spinlock_assign (inv : LockInv source)
    (allowed : source.shared.spinlock = 0 ∨ 0 < (source.task task).spinShare) (new : Nat) :
    ∃ owner value, ((new : Nat) : Int) = (value : Nat) ∧
      Owned (Function.update (fun t => (source.task t).spinShare) task new) owner value := by
  obtain ⟨owner, old, spinlock, owned⟩ := inv.spinlock
  have mayAssign : owner = none ∨ owner = some task := by
    rcases allowed with free | mine
    · rw [spinlock] at free
      exact .inl (owned.owned_iff.mpr (Int.ofNat_eq_zero.mp free))
    · exact .inr ((owned.pos_iff task).mp mine)
  obtain ⟨newOwner, assigned⟩ := owned.assign mayAssign new
  exact ⟨newOwner, new, rfl, assigned⟩

theorem LockInv.spinlock_move (inv : LockInv source)
    (move : TaskMove config task source.shared (source.task task) event effect) :
    ∃ owner value, effect.shared.spinlock = (value : Nat) ∧
      Owned (Function.update (fun t => (source.task t).spinShare) task effect.own.spinShare)
        owner value := by
  have upToDate := inv.upToDate task
  have before : (source.task task).spinShare =
      (source.task task).point.spinShare (source.task task).depth := rfl
  have stays : effect.own.spinShare = (source.task task).spinShare →
      ∃ owner value, source.shared.spinlock = (value : Nat) ∧
        Owned (Function.update (fun t => (source.task t).spinShare) task effect.own.spinShare)
          owner value := by
    intro same
    obtain ⟨owner, value, spinlock, owned⟩ := inv.spinlock
    exact ⟨owner, value, spinlock, owned.update_self same⟩
  cases move with
  | lockSpin point free =>
      rw [point] at upToDate
      have unlocked : (source.task task).depth = 0 := upToDate
      show ∃ owner value, (1 : Int) = (value : Nat) ∧
        Owned (Function.update _ task ((source.task task).depth + 1)) owner value
      rw [unlocked]
      exact inv.spinlock_assign (.inl free) 1
  | lockStore point =>
      rw [point] at upToDate before
      obtain ⟨positive, rfl⟩ := upToDate
      have mine : 0 < (source.task task).spinShare := by
        rw [before]
        exact positive
      exact inv.spinlock_assign (.inr mine) ((source.task task).depth + 1)
  | unlockOwner point isOwner =>
      apply stays
      have positive := (inv.holder_iff task).mp isOwner
      rw [TaskState.mutexShare, point] at positive
      rw [before, point]
      exact Nat.sub_add_cancel positive
  | unlockStore point =>
      rw [point] at upToDate before
      obtain rfl := upToDate
      have mine : 0 < (source.task task).spinShare := by
        rw [before]
        exact Nat.succ_pos _
      have decremented : (((source.task task).depth + 1 : Nat) : Int) - 1 =
          ((source.task task).depth : Nat) := by omega
      have assigned := inv.spinlock_assign (.inr mine) (source.task task).depth
      rw [← decremented] at assigned
      exact assigned
  | readSpinlockGet point free => exact inv.spinlock_assign (.inl free) 1
  | readRelease point =>
      rw [point] at before upToDate
      have mine : 0 < (source.task task).spinShare := by
        rw [before]
        exact Nat.one_pos
      show ∃ owner value, (0 : Int) = (value : Nat) ∧
        Owned (Function.update _ task (source.task task).depth) owner value
      rw [upToDate.1]
      exact inv.spinlock_assign (.inr mine) 0
  | @mutexPut entry point =>
      apply stays
      rw [before, point, proceed, TaskState.spinShare]
      cases entry.isRead <;> rfl
  | @lockMutexGet mutexOwned mutex point got =>
      apply stays
      rw [before, point]
      cases mutexOwned <;> rfl
  | call point proper =>
      apply stays
      rw [before, point]
      exact Call.spinShare_entry _ _
  | lockOwner point | lockLoad point | unlockNothing point | unlockLoad point
  | unlockMutexPut point | requestMutexGet point | requestPriorityGet point
  | requestQueueSend point | dataReady point | readUnavailable point | readCall point
  | readIteration point | readEnd point | setupFlag point | setupSend point
  | setupPoll point | setupResources point | setupCalibration point | shutdownLastOp point
  | shutdownPorts point | shutdownResume point =>
      apply stays
      rw [before, point]
      rfl

theorem LockInv.upToDate_move (inv : LockInv source)
    (move : TaskMove config task source.shared (source.task task) event effect) :
    effect.own.point.UpToDate effect.own.depth := by
  have upToDate := inv.upToDate task
  have share : (source.task task).spinShare =
      (source.task task).point.spinShare (source.task task).depth := rfl
  cases move with
  | lockOwner point =>
      have holder := inv.holder_iff task
      rw [TaskState.mutexShare, point] at holder
      exact decide_eq_decide.mpr holder
  | @lockMutexGet mutexOwned mutex point got =>
      rw [point] at upToDate
      cases mutexOwned with
      | true =>
          show 0 < (source.task task).depth
          exact of_decide_eq_true upToDate.symm
      | false =>
          show (source.task task).depth = 0
          exact Nat.eq_zero_of_not_pos (of_decide_eq_false upToDate.symm)
  | lockLoad point =>
      rw [point] at upToDate share
      have positive : 0 < (source.task task).spinShare := by
        rw [share]
        exact upToDate
      refine ⟨upToDate, ?_⟩
      rw [inv.spinlock_eq positive, share]
      rfl
  | unlockLoad point =>
      rw [point] at share
      have positive : 0 < (source.task task).spinShare := by
        rw [share]
        exact Nat.succ_pos _
      show source.shared.spinlock = _
      rw [inv.spinlock_eq positive, share]
      rfl
  | readSpinlockGet point free =>
      have nothing := inv.spinShare_of_free free task
      rw [share, point] at nothing
      exact ⟨nothing, free⟩
  | readCall point | readIteration point | readEnd point =>
      rw [point] at upToDate
      exact upToDate
  | @mutexPut entry point =>
      rw [proceed]
      cases entry.isRead <;> trivial
  | call point proper => exact Call.upToDate_entry _ _
  | lockSpin | lockStore | unlockOwner | unlockNothing | unlockStore | unlockMutexPut
  | requestMutexGet | requestPriorityGet | requestQueueSend | dataReady | readUnavailable
  | readRelease | setupFlag | setupSend | setupPoll | setupResources | setupCalibration
  | shutdownLastOp | shutdownPorts | shutdownResume => trivial

omit [DecidableEq T] in
theorem ThreadMove.locks {flash after : Flash T} (move : ThreadMove flash after) :
    after.mutex = flash.mutex ∧ after.spinlock = flash.spinlock := by
  cases move <;> exact ⟨rfl, rfl⟩

theorem LockInv.next {target : State T} {label : Label T} (inv : LockInv source)
    (step : next config source label = some target) : LockInv target := by
  rcases next_cases step with ⟨task, event, effect, _, move, shared, tasks⟩ |
    ⟨event, _, move, tasks⟩
  · constructor
    · rw [shared, tasks, share_update]
      exact inv.mutex_move move
    · rw [shared, tasks, share_update]
      exact inv.spinlock_move move
    · intro t
      rw [tasks]
      by_cases same : t = task
      · rw [same, Function.update_self]
        exact inv.upToDate_move move
      · rw [Function.update_of_ne same]
        exact inv.upToDate t
  · obtain ⟨mutex, spinlock⟩ := move.locks
    constructor
    · rw [tasks, mutex]
      exact inv.mutex
    · rw [tasks, spinlock]
      exact inv.spinlock
    · rw [tasks]
      exact inv.upToDate

theorem lockInv_of_reachable {state : State T}
    (reachable : Reachable (next config) (start config) state) :
    LockInv state :=
  reachable.invariant (lockInv_start config) fun _ _ _ inv _ step => inv.next step

/-! ## The lock as its callers see it -/

/-- The spinlock has the depth of the task that has the flash locked, 1 while a
low-level read runs, and 0 otherwise; no two of these users meet. -/
structure Locked (state : State T) : Prop where
  held : ∀ t, 0 < (state.task t).depth → (state.task t).point.inLockBody = false →
    state.shared.spinlock = ((state.task t).depth : Nat)
  read : ∀ t, (state.task t).point.reading = true → state.shared.spinlock = 1
  free : (∀ t, (state.task t).depth = 0 ∧ (state.task t).point.inLockBody = false ∧
    (state.task t).point.reading = false) → state.shared.spinlock = 0
  oneHolder : ∀ t u, 0 < (state.task t).depth → 0 < (state.task u).depth → t = u
  readUnlocked : ∀ t u, (state.task t).point.reading = true → (state.task u).depth = 0
  oneReader : ∀ t u, (state.task t).point.reading = true →
    (state.task u).point.reading = true → t = u

/-- A low-level read that ends in this step leaves the spinlock as it found it. -/
def LeavesSpinlock (source target : State T) : Prop :=
  ∀ t function,
    (∀ found, (source.task t).point = .lowLevelRead function (.release found) →
      (target.task t).point = .idle (some 0) → target.shared.spinlock = found) ∧
    ∀ cursor, (source.task t).point = .lowLevelRead function (.spinlockGet cursor) →
      (target.task t).point = .idle (some (-1)) → target.shared.spinlock = source.shared.spinlock

omit [DecidableEq T] in
theorem TaskState.spinShare_of_reading {own : TaskState T} (reading : own.point.reading = true) :
    own.spinShare = 1 := by
  rw [TaskState.spinShare]
  unfold Point.reading at reading
  split at reading
  · next point => rw [point]; rfl
  · next point => rw [point]; rfl
  · cases reading

omit [DecidableEq T] in
theorem TaskState.spinShare_of_outside {own : TaskState T} (outside : own.point.inLockBody = false)
    (notReading : own.point.reading = false) : own.spinShare = own.depth := by
  rw [TaskState.spinShare]
  unfold Point.spinShare
  split
  · next point => rw [point] at outside; cases outside
  · next point => rw [point] at outside; cases outside
  · next point => rw [point] at notReading; cases notReading
  · next point => rw [point] at notReading; cases notReading
  · rfl

omit [DecidableEq T] in
theorem LockInv.depth_of_reading {state : State T} (inv : LockInv state) {t : T}
    (reading : (state.task t).point.reading = true) : (state.task t).depth = 0 := by
  have upToDate := inv.upToDate t
  unfold Point.reading at reading
  split at reading
  · next point =>
      rw [point] at upToDate
      exact upToDate.1
  · next point =>
      rw [point] at upToDate
      exact upToDate.1
  · cases reading

omit [DecidableEq T] in
theorem TaskState.spinShare_pos {own : TaskState T} (locked : 0 < own.depth) :
    0 < own.spinShare := by
  rw [TaskState.spinShare]
  unfold Point.spinShare
  split
  · exact Nat.succ_pos _
  · exact Nat.succ_pos _
  · exact Nat.one_pos
  · exact Nat.one_pos
  · exact locked

omit [DecidableEq T] in
theorem LockInv.locked {state : State T} (inv : LockInv state) : Locked state := by
  obtain ⟨owner, value, spinlock, owned⟩ := inv.spinlock
  have reader : ∀ t, (state.task t).point.reading = true → 0 < (state.task t).spinShare := by
    intro t reading
    rw [TaskState.spinShare_of_reading reading]
    exact Nat.one_pos
  constructor
  · intro t locked outside
    have notReading : (state.task t).point.reading = false := by
      by_contra reading
      rw [inv.depth_of_reading (Bool.not_eq_false _ ▸ reading)] at locked
      exact absurd locked (Nat.lt_irrefl 0)
    rw [inv.spinlock_eq (TaskState.spinShare_pos locked),
      TaskState.spinShare_of_outside outside notReading]
  · intro t reading
    rw [inv.spinlock_eq (reader t reading), TaskState.spinShare_of_reading reading]
    rfl
  · intro nobody
    have shares : ∀ t, (state.task t).spinShare = 0 := by
      intro t
      obtain ⟨unlocked, outside, notReading⟩ := nobody t
      rw [TaskState.spinShare_of_outside outside notReading, unlocked]
    rw [spinlock, owned.value_eq_zero shares]
    rfl
  · intro t u first second
    exact owned.sole (TaskState.spinShare_pos first) (TaskState.spinShare_pos second)
  · intro t u reading
    by_contra locked
    have positive := TaskState.spinShare_pos (Nat.pos_of_ne_zero locked)
    obtain rfl := owned.sole (reader t reading) positive
    exact locked (inv.depth_of_reading reading)
  · intro t u first second
    exact owned.sole (reader t first) (reader u second)

theorem LockInv.leavesSpinlock {target : State T} {label : Label T} (inv : LockInv source)
    (step : QspiFlash.next config source label = some target) : LeavesSpinlock source target := by
  intro t function
  rcases next_cases step with ⟨task, event, effect, _, move, shared, tasks⟩ |
    ⟨event, _, move, tasks⟩
  · by_cases same : t = task
    · subst same
      rw [tasks, Function.update_self, shared]
      have upToDate := inv.upToDate t
      constructor
      · intro found point returned
        rw [point] at upToDate
        cases move with
        | readRelease => exact upToDate.2.symm
        | _ other => exact absurd (point.symm.trans other) nofun
      · intro cursor point returned
        cases move with
        | readSpinlockGet => cases returned
        | readUnavailable => rfl
        | _ other => exact absurd (point.symm.trans other) nofun
    · rw [tasks, Function.update_of_ne same]
      constructor
      · intro found point returned
        rw [point] at returned
        cases returned
      · intro cursor point returned
        rw [point] at returned
        cases returned
  · rw [tasks]
    constructor
    · intro found point returned
      rw [point] at returned
      cases returned
    · intro cursor point returned
      rw [point] at returned
      cases returned

/-- Any tasks, in any interleaving: in every reachable state the spinlock is what
the lock and the low-level reads say, and a read that ends leaves it as it found
it. -/
theorem locked_of_reachable {state : State T}
    (reachable : Reachable (next config) (start config) state) :
    Locked state ∧ ∀ label target, next config state label = some target →
      LeavesSpinlock state target :=
  ⟨(lockInv_of_reachable reachable).locked,
    fun _ _ step => (lockInv_of_reachable reachable).leavesSpinlock step⟩

end

/-- A flash of 64 KiB. -/
def smallFlash : Config where
  flashSize := 0x10000
  pageSize := 256
  opTaskPriority := 5

/-- Task 0 has the flash locked twice while task 1 tries a low-level read, and
unlocks it twice before task 1 tries again. -/
def readAfterLock : List (Label (Fin 2)) :=
  moves <|
    (0, .call .lock 1) :: List.replicate 3 (0, .run) ++
    (0, .call .lock 1) :: List.replicate 4 (0, .run) ++
    [(1, .call (.lowLevelRead .read 0 0x100 4) 1), (1, .run)] ++
    (0, .call .unlock 1) :: List.replicate 4 (0, .run) ++
    (0, .call .unlock 1) :: List.replicate 4 (0, .run) ++
    (1, .call (.lowLevelRead .read 0 0x100 4) 1) :: List.replicate 4 (1, .run)

theorem readAfterLock_locked :
    ∃ state : State (Fin 2), run (next smallFlash) (start smallFlash) readAfterLock = some state ∧
      (state.task 1).point = .lowLevelRead .read (.release 0) ∧ state.shared.spinlock = 1 ∧
      Locked state ∧ ∀ label target, next smallFlash state label = some target →
        LeavesSpinlock state target := by
  have final : (run (next smallFlash) (start smallFlash) readAfterLock).map (fun state => decide
      ((state.task 1).point = .lowLevelRead .read (.release 0) ∧ state.shared.spinlock = 1)) =
        some true := by
    decide
  obtain ⟨state, executed, holds⟩ := Option.map_eq_some_iff.mp final
  obtain ⟨point, spinlock⟩ := of_decide_eq_true holds
  exact ⟨state, executed, point, spinlock, locked_of_reachable (reachable_of_run executed)⟩

end FwkRtos.QspiFlash

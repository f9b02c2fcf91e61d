import FwkRtos.MrswLock.ReaderPreferred

/-!
# Correctness of the reader-preferred lock

The global semaphore is owned either by a writer or by the readers together;
the first reader takes it and the last one puts it, both under the readers'
mutex.  The invariant compares semaphore, mutex and counter with the program
points of all tasks; every step is first read off the program.
-/

namespace FwkRtos.MrswLock.ReaderPreferred

open FwkRtos.Osal
open FwkRtos.Transition

universe u

/-- The task holds the lock in this role.  A reader holds it from the moment
the semaphore is owned for it, so while it completes its grant, to the moment
it stops being counted; a writer until it puts the semaphore. -/
def Point.holds : Role → Point → Bool
  | .reader, .idle (some .reader) _ => true
  | .reader, .readerGet _ .unlock => true
  | .reader, .readerPut .lock => true
  | .reader, .readerPut .count => true
  | .writer, .idle (some .writer) _ => true
  | .writer, .writerPut => true
  | _, _ => false

/-- The first reader, about to take the semaphore for all readers. -/
def Point.takesGlobal : Point → Bool
  | .readerGet _ .takeGlobal => true
  | _ => false

/-- The last reader, completing its release. -/
def Point.putsGlobal : Point → Bool
  | .readerPut .putGlobal => true
  | _ => false

/-- The task is between taking and putting the readers' mutex. -/
def Point.owns : Point → Bool
  | .readerGet _ .lock => false
  | .readerGet _ _ => true
  | .readerPut .lock => false
  | .readerPut _ => true
  | _ => false

theorem Point.owns_of_takesGlobal {point : Point} (takes : point.takesGlobal = true) :
    point.owns = true := by
  unfold Point.takesGlobal at takes
  split at takes
  · rfl
  · cases takes

theorem Point.owns_of_putsGlobal {point : Point} (puts : point.putsGlobal = true) :
    point.owns = true := by
  unfold Point.putsGlobal at puts
  split at puts
  · rfl
  · cases puts

/-- A task is not counted both as a holder and as the first reader. -/
theorem Point.not_takesGlobal_of_holds (point : Point) (holds : point.holds .reader = true) :
    point.takesGlobal = false := by
  unfold Point.holds at holds
  split at holds <;> first | rfl | cases holds

/-- The return of a get: success exactly with a grant, else a timeout. -/
def Point.ReturnsRight : Point → Prop
  | .idle held (some (.get role, status)) =>
      held = some role ∧ status = .success ∨ held = none ∧ status = .timeout
  | _ => True

section Local

variable {T : Type u} {task : T} {lock : ReadPrefMrswLock T}
  {effect : LockEffect T} {event : Event} {point : Point}

/-- Everything a task can do in one step. -/
inductive LockStep (task : T) (lock : ReadPrefMrswLock T) :
    Point → ReadPrefMrswLock T → Point → Prop
  | call {held : Option Role} {last : Option (ApiFunction × RtosOsalStatus)} {call : Call}
      (proper : call.Proper held) :
      LockStep task lock (.idle held last) lock (Call.entry call)
  | timeOut (role : Role) {timeout : Timeout} :
      LockStep task lock (Call.entry (.get role timeout)) lock
        (.idle none (some (.get role, .timeout)))
  | getLock {timeout : Timeout} (free : lock.lockReaders.holder = none) :
      LockStep task lock (.readerGet timeout .lock) { lock with lockReaders := ⟨some task⟩ }
        (.readerGet timeout .count)
  | getFirst {timeout : Timeout} (first : lock.numReadersActive + 1 = 1) :
      LockStep task lock (.readerGet timeout .count)
        { lock with numReadersActive := lock.numReadersActive + 1 } (.readerGet timeout .takeGlobal)
  | getOther {timeout : Timeout} (other : lock.numReadersActive + 1 ≠ 1) :
      LockStep task lock (.readerGet timeout .count)
        { lock with numReadersActive := lock.numReadersActive + 1 } (.readerGet timeout .unlock)
  | takeGlobal {timeout : Timeout} (available : 0 < lock.lockGlobal.count) :
      LockStep task lock (.readerGet timeout .takeGlobal)
        { lock with lockGlobal := { lock.lockGlobal with count := lock.lockGlobal.count - 1 } }
        (.readerGet timeout .unlock)
  | getUnlock {timeout : Timeout} :
      LockStep task lock (.readerGet timeout .unlock)
        { lock with lockReaders := lock.lockReaders.put }
        (.idle (some .reader) (some (.get .reader, .success)))
  | putLock (free : lock.lockReaders.holder = none) :
      LockStep task lock (.readerPut .lock) { lock with lockReaders := ⟨some task⟩ }
        (.readerPut .count)
  | putLast (counted : 1 ≤ lock.numReadersActive) (last : lock.numReadersActive - 1 = 0) :
      LockStep task lock (.readerPut .count)
        { lock with numReadersActive := lock.numReadersActive - 1 } (.readerPut .putGlobal)
  | putOther (counted : 1 ≤ lock.numReadersActive) (other : lock.numReadersActive - 1 ≠ 0) :
      LockStep task lock (.readerPut .count)
        { lock with numReadersActive := lock.numReadersActive - 1 } (.readerPut .unlock)
  | assertionFails (uncounted : ¬ 1 ≤ lock.numReadersActive) :
      LockStep task lock (.readerPut .count) lock (.readerPut .assertionFailed)
  | putGlobal (room : lock.lockGlobal.count < lock.lockGlobal.maxCount) :
      LockStep task lock (.readerPut .putGlobal)
        { lock with lockGlobal := { lock.lockGlobal with count := lock.lockGlobal.count + 1 } }
        (.readerPut .unlock)
  | putGlobalFails (full : ¬ lock.lockGlobal.count < lock.lockGlobal.maxCount) :
      LockStep task lock (.readerPut .putGlobal) lock (.idle none (some (.put .reader, .error)))
  | putUnlock :
      LockStep task lock (.readerPut .unlock) { lock with lockReaders := lock.lockReaders.put }
        (.idle none (some (.put .reader, .success)))
  | writerTake {timeout : Timeout} (available : 0 < lock.lockGlobal.count) :
      LockStep task lock (.writerGet timeout)
        { lock with lockGlobal := { lock.lockGlobal with count := lock.lockGlobal.count - 1 } }
        (.idle (some .writer) (some (.get .writer, .success)))
  | writerPut (room : lock.lockGlobal.count < lock.lockGlobal.maxCount) :
      LockStep task lock .writerPut
        { lock with lockGlobal := { lock.lockGlobal with count := lock.lockGlobal.count + 1 } }
        (.idle none (some (.put .writer, .success)))
  | writerPutFails (full : ¬ lock.lockGlobal.count < lock.lockGlobal.maxCount) :
      LockStep task lock .writerPut lock (.idle none (some (.put .writer, .error)))

theorem lockStep_of_readerGet {timeout : Timeout} {readerGet : ReaderGetPoint}
    (step : mrswLockReaderGet task lock timeout readerGet = some effect) :
    LockStep task lock (.readerGet timeout readerGet) effect.shared effect.own ∧
      effect.others = id := by
  cases readerGet with
  | lock =>
      simp only [mrswLockReaderGet] at step
      split at step
      · rename_i mutex granted
        obtain ⟨free, rfl⟩ := Mutex.get?_eq_some_iff.mp granted
        cases step
        exact ⟨.getLock free, rfl⟩
      · simp only [Option.ite_none_right_eq_some, Option.some.injEq] at step
        obtain ⟨_, rfl⟩ := step
        exact ⟨.timeOut .reader, rfl⟩
  | count =>
      simp only [mrswLockReaderGet] at step
      split at step
      · rename_i first
        cases step
        exact ⟨.getFirst first, rfl⟩
      · rename_i other
        cases step
        exact ⟨.getOther other, rfl⟩
  | takeGlobal =>
      obtain ⟨semaphore, taken, rfl⟩ := Option.map_eq_some_iff.mp step
      obtain ⟨available, rfl⟩ := Semaphore.get?_eq_some_iff.mp taken
      exact ⟨.takeGlobal available, rfl⟩
  | unlock =>
      cases step
      exact ⟨.getUnlock, rfl⟩

theorem lockStep_of_readerPut {readerPut : ReaderPutPoint}
    (step : mrswLockReaderPut task lock readerPut = some effect) :
    LockStep task lock (.readerPut readerPut) effect.shared effect.own ∧
      effect.others = id := by
  cases readerPut with
  | lock =>
      obtain ⟨mutex, granted, rfl⟩ := Option.map_eq_some_iff.mp step
      obtain ⟨free, rfl⟩ := Mutex.get?_eq_some_iff.mp granted
      exact ⟨.putLock free, rfl⟩
  | count =>
      simp only [mrswLockReaderPut] at step
      split at step
      · rename_i counted
        split at step
        · rename_i last
          cases step
          exact ⟨.putLast counted last, rfl⟩
        · rename_i other
          cases step
          exact ⟨.putOther counted other, rfl⟩
      · rename_i uncounted
        cases step
        exact ⟨.assertionFails uncounted, rfl⟩
  | assertionFailed => cases step
  | putGlobal =>
      simp only [mrswLockReaderPut] at step
      split at step
      · rename_i semaphore put
        obtain ⟨room, rfl⟩ := Semaphore.put?_eq_some_iff.mp put
        cases step
        exact ⟨.putGlobal room, rfl⟩
      · rename_i failed
        cases step
        exact ⟨.putGlobalFails (by simpa [Semaphore.put?] using failed), rfl⟩
  | unlock =>
      cases step
      exact ⟨.putUnlock, rfl⟩

/-- A step is one of the steps of the program, and touches no other task. -/
theorem lockStep_of_taskStep (step : taskStep task event lock point = some effect) :
    LockStep task lock point effect.shared effect.own ∧ effect.others = id := by
  cases event with
  | call call =>
      cases point with
      | idle held last =>
          simp only [taskStep, Option.ite_none_right_eq_some, Option.some.injEq] at step
          obtain ⟨proper, rfl⟩ := step
          exact ⟨.call proper, rfl⟩
      | readerGet | readerPut | writerGet | writerPut => cases step
  | expire =>
      obtain ⟨role, expired, rfl⟩ := Option.map_eq_some_iff.mp step
      unfold Point.expire at expired
      split at expired
      · simp only [Option.ite_none_left_eq_some, Option.some.injEq] at expired
        obtain ⟨_, rfl⟩ := expired
        exact ⟨.timeOut .reader, rfl⟩
      · simp only [Option.ite_none_left_eq_some, Option.some.injEq] at expired
        obtain ⟨_, rfl⟩ := expired
        exact ⟨.timeOut .writer, rfl⟩
      · cases expired
  | run =>
      cases point with
      | idle => cases step
      | readerGet => exact lockStep_of_readerGet step
      | readerPut => exact lockStep_of_readerPut step
      | writerGet =>
          simp only [taskStep, mrswLockWriterGet] at step
          split at step
          · rename_i semaphore taken
            obtain ⟨available, rfl⟩ := Semaphore.get?_eq_some_iff.mp taken
            cases step
            exact ⟨.writerTake available, rfl⟩
          · simp only [Option.ite_none_right_eq_some, Option.some.injEq] at step
            obtain ⟨_, rfl⟩ := step
            exact ⟨.timeOut .writer, rfl⟩
      | writerPut =>
          simp only [taskStep, mrswLockWriterPut] at step
          split at step
          · rename_i semaphore put
            obtain ⟨room, rfl⟩ := Semaphore.put?_eq_some_iff.mp put
            cases step
            exact ⟨.writerPut room, rfl⟩
          · rename_i failed
            cases step
            exact ⟨.writerPutFails (by simpa [Semaphore.put?] using failed), rfl⟩

/-- What a step does to the readers' mutex, unless it fails to put the
semaphore. -/
theorem LockStep.mutex {after : ReadPrefMrswLock T} {own : Point}
    (step : LockStep task lock point after own)
    (room : point.putsGlobal = true → lock.lockGlobal.count < lock.lockGlobal.maxCount) :
    (after.lockReaders.holder = lock.lockReaders.holder ∧ own.owns = point.owns) ∨
      (lock.lockReaders.holder = none ∧ after.lockReaders.holder = some task ∧
        own.owns = true) ∨
      (point.owns = true ∧ after.lockReaders.holder = none ∧ own.owns = false) := by
  cases step with
  | @call held _ call proper =>
      rcases call with ⟨_ | _, _⟩ | ⟨_ | _⟩ <;> exact .inl ⟨rfl, rfl⟩
  | @timeOut role => cases role <;> exact .inl ⟨rfl, rfl⟩
  | getLock free | putLock free => exact .inr (.inl ⟨free, rfl, rfl⟩)
  | getUnlock | putUnlock => exact .inr (.inr ⟨rfl, rfl, rfl⟩)
  | putGlobalFails full => exact absurd (room rfl) full
  | getFirst | getOther | takeGlobal | putLast | putOther | assertionFails | putGlobal
  | writerTake | writerPut | writerPutFails => exact .inl ⟨rfl, rfl⟩

theorem LockStep.returnsRight {after : ReadPrefMrswLock T} {own : Point}
    (step : LockStep task lock point after own) : own.ReturnsRight := by
  cases step with
  | @call held _ call proper => rcases call with ⟨_ | _, _⟩ | ⟨_ | _⟩ <;> trivial
  | timeOut => exact .inr ⟨rfl, rfl⟩
  | getUnlock | writerTake => exact .inl ⟨rfl, rfl⟩
  | getLock | getFirst | getOther | takeGlobal | putLock | putLast | putOther | assertionFails
  | putGlobal | putGlobalFails | putUnlock | writerPut | writerPutFails => trivial

/-- The assertion of `reader_put` holds if readers are counted. -/
theorem LockStep.noFailure {after : ReadPrefMrswLock T} {own : Point}
    (step : LockStep task lock point after own)
    (counted : point.holds .reader = true → 1 ≤ lock.numReadersActive) :
    own ≠ .readerPut .assertionFailed := by
  intro failed
  cases step with
  | @call _ _ call => rcases call with ⟨_ | _, _⟩ | ⟨_ | _⟩ <;> cases failed
  | assertionFails uncounted => exact uncounted (counted rfl)
  | timeOut | getLock | getFirst | getOther | takeGlobal | getUnlock | putLock | putLast
  | putOther | putGlobal | putGlobalFails | putUnlock | writerTake | writerPut
  | writerPutFails => cases failed

/-- A step that leads to the entry of a call does not change the lock. -/
theorem LockStep.calls {after : ReadPrefMrswLock T} {own : Point} {call : Call}
    (step : LockStep task lock point after own) (entered : own = Call.entry call) :
    after = lock := by
  cases step with
  | call => rfl
  | timeOut => rfl
  | assertionFails | putGlobalFails | writerPutFails => rfl
  | getLock | getFirst | getOther | takeGlobal | getUnlock | putLock | putLast | putOther
  | putGlobal | putUnlock | writerTake | writerPut =>
      rcases call with ⟨_ | _, _⟩ | ⟨_ | _⟩ <;> cases entered

/-- A get returns without a grant only from its entry, and leaves the lock
unchanged. -/
theorem LockStep.failedGet {after : ReadPrefMrswLock T} {own : Point} {role : Role}
    {status : RtosOsalStatus} (step : LockStep task lock point after own)
    (failed : own = .idle none (some (.get role, status))) :
    (∃ timeout, point = Call.entry (.get role timeout)) ∧ after = lock := by
  cases step with
  | @call _ _ call => rcases call with ⟨_ | _, _⟩ | ⟨_ | _⟩ <;> cases failed
  | @timeOut _ timeout =>
      cases failed
      exact ⟨⟨timeout, rfl⟩, rfl⟩
  | getLock | getFirst | getOther | takeGlobal | getUnlock | putLock | putLast | putOther
  | assertionFails | putGlobal | putGlobalFails | putUnlock | writerTake | writerPut
  | writerPutFails => cases failed

/-! ## The numbers of tasks -/

/-- How semaphore and counter fit the numbers of readers and writers that hold
the lock, of first readers that take the semaphore, and of last ones that put
it. -/
@[mk_iff]
structure Balanced (lock : ReadPrefMrswLock T) (readers writers taking putting : Nat) : Prop where
  binary : lock.lockGlobal.maxCount = 1
  counted : lock.numReadersActive.toNat = readers + taking
  first : 0 < taking → readers = 0
  last : 0 < putting → readers = 0
  free : readers + putting = 0 → lock.lockGlobal.count + writers = 1
  taken : 0 < readers + putting → lock.lockGlobal.count = 0 ∧ writers = 0

/-- The three tests of `num_readers_active` in terms of its value. -/
theorem increments_to_one_iff {counter : UInt32} : counter + 1 = 1 ↔ counter.toNat = 0 := by
  have bound := counter.toNat_lt
  rw [← UInt32.toNat_inj, UInt32.toNat_add, UInt32.toNat_one]
  omega

theorem decrements_to_zero_iff {counter : UInt32} (counted : 1 ≤ counter) :
    counter - 1 = 0 ↔ counter.toNat = 1 := by
  have positive := UInt32.le_iff_toNat_le.mp counted
  rw [UInt32.toNat_one] at positive
  rw [← UInt32.toNat_inj, UInt32.toNat_sub_of_le _ _ counted, UInt32.toNat_one,
    UInt32.toNat_zero]
  omega

theorem one_le_counter_iff {counter : UInt32} : 1 ≤ counter ↔ 1 ≤ counter.toNat := by
  rw [UInt32.le_iff_toNat_le, UInt32.toNat_one]

/-- The numbers after a step, for any numbers that change by the stepping task
alone; `bound` excludes a wrap of the counter. -/
theorem Balanced.step {task : T} {lock after : ReadPrefMrswLock T} {point own : Point}
    {readers writers taking putting readers' writers' taking' putting' : Nat}
    (balanced : Balanced lock readers writers taking putting)
    (step : LockStep task lock point after own)
    (alone : point.owns = true → taking = point.takesGlobal.toNat ∧
      putting = point.putsGlobal.toNat)
    (readersMoved : readers' + (point.holds .reader).toNat = readers + (own.holds .reader).toNat)
    (writersMoved : writers' + (point.holds .writer).toNat = writers + (own.holds .writer).toNat)
    (takingMoved : taking' + point.takesGlobal.toNat = taking + own.takesGlobal.toNat)
    (puttingMoved : putting' + point.putsGlobal.toNat = putting + own.putsGlobal.toNat)
    (bound : readers' + taking' < 2 ^ 32) :
    Balanced after readers' writers' taking' putting' := by
  rw [balanced_iff] at balanced ⊢
  cases step with
  | @call held _ call proper =>
      rcases call with ⟨_ | _, _⟩ | ⟨_ | _⟩ <;> cases proper <;>
        simp only [Call.entry, Point.holds, Point.takesGlobal, Point.putsGlobal,
          Bool.toNat_false, Bool.toNat_true] at * <;>
        omega
  | @timeOut role =>
      cases role <;>
        simp only [Call.entry, Point.holds, Point.takesGlobal, Point.putsGlobal,
          Bool.toNat_false] at * <;>
        omega
  | getLock | putLock | getUnlock | putUnlock =>
      simp only [Point.holds, Point.takesGlobal, Point.putsGlobal,
        Bool.toNat_false, Bool.toNat_true] at *
      omega
  | getFirst isFirst =>
      -- The counter was 0, so nobody reads; the semaphore is not touched yet.
      have zero := increments_to_one_iff.mp isFirst
      simp only [Point.holds, Point.takesGlobal, Point.putsGlobal, isFirst, UInt32.toNat_one,
        Bool.toNat_false, Bool.toNat_true] at *
      omega
  | getOther other =>
      -- Somebody is counted and nobody else is taking, so the readers own the semaphore.
      rw [Ne, increments_to_one_iff] at other
      obtain ⟨noTaker, noPutter⟩ := alone rfl
      simp only [Point.holds, Point.takesGlobal, Point.putsGlobal, UInt32.toNat_add,
        UInt32.toNat_one, Bool.toNat_false, Bool.toNat_true] at *
      omega
  | takeGlobal available =>
      obtain ⟨oneTaker, noPutter⟩ := alone rfl
      simp only [Point.holds, Point.takesGlobal, Point.putsGlobal,
        Bool.toNat_false, Bool.toNat_true] at *
      omega
  | putLast positive isLast =>
      -- This task alone is counted.
      have one := (decrements_to_zero_iff positive).mp isLast
      obtain ⟨noTaker, noPutter⟩ := alone rfl
      simp only [Point.holds, Point.takesGlobal, Point.putsGlobal, isLast, UInt32.toNat_zero,
        Bool.toNat_false, Bool.toNat_true] at *
      omega
  | putOther positive other =>
      rw [Ne, decrements_to_zero_iff positive] at other
      obtain ⟨noTaker, noPutter⟩ := alone rfl
      have value := UInt32.toNat_sub_of_le _ _ positive
      simp only [Point.holds, Point.takesGlobal, Point.putsGlobal, UInt32.toNat_one,
        Bool.toNat_false, Bool.toNat_true, value] at *
      omega
  | assertionFails uncounted =>
      rw [one_le_counter_iff] at uncounted
      simp only [Point.holds, Point.takesGlobal, Point.putsGlobal,
        Bool.toNat_false, Bool.toNat_true] at *
      omega
  | putGlobal room | putGlobalFails full =>
      obtain ⟨noTaker, onePutter⟩ := alone rfl
      simp only [Point.holds, Point.takesGlobal, Point.putsGlobal,
        Bool.toNat_false, Bool.toNat_true] at *
      omega
  | writerTake available | writerPut room | writerPutFails full =>
      simp only [Point.holds, Point.takesGlobal, Point.putsGlobal,
        Bool.toNat_false, Bool.toNat_true] at *
      omega

end Local

section Global

variable {T : Type u} [TaskSet T]

theorem next_eq_some_iff {source target : State T} {label : Label T} :
    next source label = some target ↔
      ∃ task event effect, label = .task task event ∧
        taskStep task event source.shared (source.task task) = some effect ∧
        source.apply task effect = target := by
  cases label with
  | task task event =>
      rw [next, interleave_task_eq_some_iff]
      constructor
      · rintro ⟨effect, step, rfl⟩
        exact ⟨task, event, effect, rfl, step, rfl⟩
      · rintro ⟨_, _, effect, same, step, rfl⟩
        cases same
        exact ⟨effect, step, rfl⟩
  | system event => exact event.elim

/-- The number of tasks that hold the lock in this role. -/
def holders (role : Role) (state : State T) : Nat :=
  tally (Point.holds role) state.task

/-- The number of first readers that wait for the semaphore. -/
def takers (state : State T) : Nat :=
  tally Point.takesGlobal state.task

/-- The number of last readers that are about to put the semaphore. -/
def putters (state : State T) : Nat :=
  tally Point.putsGlobal state.task

/-- What ties the semaphore, the readers' mutex, the counter and the program
points together. -/
structure LockInv (state : State T) : Prop where
  owner : ∀ task, state.shared.lockReaders.holder = some task ↔ (state.task task).owns = true
  balanced : Balanced state.shared (holders .reader state) (holders .writer state)
    (takers state) (putters state)
  noFailure : ∀ task, state.task task ≠ .readerPut .assertionFailed
  returned : ∀ task, (state.task task).ReturnsRight

theorem lockInv_start : LockInv (start : State T) := by
  have readers : holders .reader (start : State T) = 0 := tally_const rfl
  have writers : holders .writer (start : State T) = 0 := tally_const rfl
  have noTaker : takers (start : State T) = 0 := tally_const rfl
  have noPutter : putters (start : State T) = 0 := tally_const rfl
  exact
    { owner := fun task => by simp [start, mrswLockCreate, Mutex.unlocked, Point.owns]
      balanced := by
        rw [readers, writers, noTaker, noPutter]
        exact ⟨rfl, rfl, by omega, by omega, fun _ => rfl, by omega⟩
      noFailure := fun _ => by simp [start]
      returned := fun _ => trivial }

/-- Only the task that owns the readers' mutex can take or put the semaphore
for the readers. -/
theorem LockInv.owned {state : State T} (inv : LockInv state) {task : T}
    (owns : (state.task task).owns = true) :
    takers state = (state.task task).takesGlobal.toNat ∧
      putters state = (state.task task).putsGlobal.toNat := by
  have alone : ∀ other, (state.task other).owns = true → other = task := by
    intro other ownsToo
    have holder := (inv.owner task).mpr owns
    rw [(inv.owner other).mpr ownsToo] at holder
    exact Option.some.inj holder
  exact ⟨tally_eq_of_alone fun other takes => alone other (Point.owns_of_takesGlobal takes),
    tally_eq_of_alone fun other puts => alone other (Point.owns_of_putsGlobal puts)⟩

/-- A last reader finds the semaphore taken, on behalf of the readers. -/
theorem LockInv.room {state : State T} (inv : LockInv state) {task : T}
    (puts : (state.task task).putsGlobal = true) : state.shared.lockGlobal.count = 0 := by
  have putting : 0 < putters state := tally_pos puts
  exact (inv.balanced.taken (by omega)).1

theorem LockInv.next {source target : State T} {label : Label T} (inv : LockInv source)
    (step : next source label = some target) : LockInv target := by
  obtain ⟨task, event, effect, rfl, local_, rfl⟩ := next_eq_some_iff.mp step
  obtain ⟨kind, quiet⟩ := lockStep_of_taskStep local_
  have unseen : ∀ (test : Point → Bool) (point : Point),
      test (effect.others point) = test point := by
    intro test point
    rw [quiet]
    rfl
  have others : ∀ other, other ≠ task →
      (source.apply task effect).task other = source.task other := by
    intro other different
    rw [Tasks.apply_task_of_ne source different, quiet]
    rfl
  refine ⟨?_, ?_, ?_, ?_⟩
  · intro any
    have before := inv.owner any
    have mutex := kind.mutex fun puts => by
      rw [inv.room puts, inv.balanced.binary]
      exact Nat.one_pos
    rw [Tasks.apply_shared]
    by_cases same : any = task
    · subst same
      rw [Tasks.apply_task_self]
      rcases mutex with ⟨holder, owns⟩ | ⟨_, holder, owns⟩ | ⟨_, holder, owns⟩
      · rw [holder, owns, before]
      · simp [holder, owns]
      · simp [holder, owns]
    · rw [others any same]
      rcases mutex with ⟨holder, _⟩ | ⟨free, holder, _⟩ | ⟨owned, holder, _⟩
      · rw [holder, before]
      · rw [holder, ← before, free]
        simpa using Ne.symm same
      · rw [holder, ← before, (inv.owner task).mpr owned]
        simpa using Ne.symm same
  · exact inv.balanced.step kind inv.owned (tally_apply source task (unseen _))
      (tally_apply source task (unseen _)) (tally_apply source task (unseen _))
      (tally_apply source task (unseen _))
      ((tally_add_le_card Point.not_takesGlobal_of_holds _).trans_lt (TaskSet.card_lt T))
  · refine Tasks.forall_apply (P := fun _ (point : Point) => point ≠ .readerPut .assertionFailed) ?_
      fun other _ => ?_
    · refine kind.noFailure fun holds => ?_
      have reading : 0 < holders .reader source := tally_pos holds
      rw [one_le_counter_iff, inv.balanced.counted]
      omega
    · rw [quiet]
      exact inv.noFailure other
  · refine Tasks.forall_apply (P := fun _ => Point.ReturnsRight) kind.returnsRight
      fun other _ => ?_
    rw [quiet]
    exact inv.returned other

theorem lockInv_of_reachable {state : State T} (reachable : Reachable next start state) :
    LockInv state :=
  reachable.invariant lockInv_start fun _ _ _ inv _ step => inv.next step

/-! ## The results -/

/-- What holds in every state of the lock. -/
structure Correct (state : State T) : Prop where
  oneWriter : ∀ first second, (state.task first).holds .writer = true →
    (state.task second).holds .writer = true → first = second
  noReader : ∀ writer reader, (state.task writer).holds .writer = true →
    (state.task reader).holds .reader = false
  counted : state.shared.lockReaders.holder = none →
    state.shared.numReadersActive.toNat = holders .reader state
  semaphore : state.shared.lockGlobal.count = 0 ↔
    (∃ writer, (state.task writer).holds .writer = true) ∨
      ∃ reader, (state.task reader).holds .reader = true ∨
        (state.task reader).putsGlobal = true
  putsTaken : ∀ task, state.task task = .writerPut ∨ state.task task = .readerPut .putGlobal →
    state.shared.lockGlobal.count = 0
  asserted : ∀ task, state.task task = .readerPut .count → 1 ≤ state.shared.numReadersActive
  noFailure : ∀ task, state.task task ≠ .readerPut .assertionFailed
  returned : ∀ task held role status, state.task task = .idle held (some (.get role, status)) →
    (status = .success ↔ held = some role) ∧ (status ≠ .success → held = none ∧ status = .timeout)

/-- A get that is not granted changes nothing: it returns from the very point
at which the call began, and neither the call nor the return changes the lock
or another task. -/
structure FailsCleanly (source target : State T) : Prop where
  calls : ∀ task call, target.task task = Call.entry call → source.task task ≠ target.task task →
    target.shared = source.shared ∧ ∀ other, other ≠ task → target.task other = source.task other
  returns : ∀ task role status, target.task task = .idle none (some (.get role, status)) →
    source.task task ≠ target.task task →
    (∃ timeout, source.task task = Call.entry (.get role timeout)) ∧
      target.shared = source.shared ∧ ∀ other, other ≠ task → target.task other = source.task other

theorem LockInv.correct {state : State T} (inv : LockInv state) : Correct state := by
  obtain ⟨owner, ⟨_, counted, first, last, free, taken⟩, noFailure, returned⟩ := inv
  have reads : ∀ task, (state.task task).holds .reader = true → 0 < holders .reader state :=
    fun _ holds => tally_pos holds
  have writes : ∀ task, (state.task task).holds .writer = true → 0 < holders .writer state :=
    fun _ holds => tally_pos holds
  have puts : ∀ task, (state.task task).putsGlobal = true → 0 < putters state :=
    fun _ puts => tally_pos puts
  refine ⟨?_, ?_, ?_, ?_, ?_, ?_, noFailure, ?_⟩
  · apply tally_le_one_iff.mp
    change holders .writer state ≤ 1
    omega
  · intro writer reader holds
    have written := writes writer holds
    by_contra holdsToo
    have read := reads reader (by simpa using holdsToo)
    omega
  · intro unlocked
    have noTaker : takers state = 0 := by
      apply tally_eq_zero_iff.mpr
      intro task
      by_contra takes
      rw [(owner task).mpr (Point.owns_of_takesGlobal (by simpa using takes))] at unlocked
      cases unlocked
    rw [counted, noTaker, Nat.add_zero]
  · constructor
    · intro empty
      by_cases written : 0 < holders .writer state
      · exact .inl (tally_pos_iff.mp written)
      · by_cases read : 0 < holders .reader state
        · obtain ⟨reader, holds⟩ := tally_pos_iff.mp read
          exact .inr ⟨reader, .inl holds⟩
        · have putting : 0 < putters state := by omega
          obtain ⟨reader, putsGlobal⟩ := tally_pos_iff.mp putting
          exact .inr ⟨reader, .inr putsGlobal⟩
    · rintro (⟨writer, holds⟩ | ⟨reader, holds | putsGlobal⟩)
      · have := writes writer holds
        omega
      · have := reads reader holds
        omega
      · have := puts reader putsGlobal
        omega
  · rintro task (point | point)
    · have := writes task (by rw [point]; rfl)
      omega
    · have := puts task (by rw [point]; rfl)
      omega
  · intro task point
    have := reads task (by rw [point]; rfl)
    rw [one_le_counter_iff]
    omega
  · intro task held role status point
    have right := returned task
    rw [point] at right
    rcases right with ⟨rfl, rfl⟩ | ⟨rfl, rfl⟩ <;> simp

theorem failsCleanly_of_next {source target : State T} {label : Label T}
    (step : next source label = some target) : FailsCleanly source target := by
  obtain ⟨stepping, event, effect, rfl, local_, rfl⟩ := next_eq_some_iff.mp step
  obtain ⟨kind, quiet⟩ := lockStep_of_taskStep local_
  have others : ∀ other, other ≠ stepping →
      (source.apply stepping effect).task other = source.task other := by
    intro other different
    rw [Tasks.apply_task_of_ne source different, quiet]
    rfl
  have same : ∀ {task}, source.task task ≠ (source.apply stepping effect).task task →
      task = stepping := by
    intro task moved
    by_contra different
    exact moved (others task different).symm
  constructor
  · intro task call entered moved
    obtain rfl := same moved
    rw [Tasks.apply_task_self] at entered
    exact ⟨kind.calls entered, others⟩
  · intro task role status failed moved
    obtain rfl := same moved
    rw [Tasks.apply_task_self] at failed
    obtain ⟨began, unchanged⟩ := kind.failedGet failed
    exact ⟨began, unchanged, others⟩

/-- Any tasks, with any timeouts and in any interleaving: every reachable state
of the lock is right, and from it no get that is not granted changes anything. -/
theorem correct_of_reachable {state : State T} (reachable : Reachable next start state) :
    Correct state ∧
      ∀ label target, next state label = some target → FailsCleanly state target :=
  ⟨(lockInv_of_reachable reachable).correct, fun _ _ step => failsCleanly_of_next step⟩

/-- Tasks 0 and 1 read together, task 2 asks for the lock as writer without
waiting and gives up, both readers put the lock, and task 2 is granted it. -/
def readersThenWriter : List (Label (Fin 3)) :=
  moves <|
    (0, .call (.get .reader rtosOsalPortWaitForever)) :: List.replicate 4 (0, .run) ++
    (1, .call (.get .reader rtosOsalPortWaitForever)) :: List.replicate 3 (1, .run) ++
    [(2, .call (.get .writer rtosOsalPortNoWait)), (2, .run)] ++
    (0, .call (.put .reader)) :: List.replicate 3 (0, .run) ++
    (1, .call (.put .reader)) :: List.replicate 4 (1, .run) ++
    [(2, .call (.get .writer rtosOsalPortNoWait)), (2, .run)]

theorem readersThenWriter_correct :
    ∃ state : State (Fin 3), run next start readersThenWriter = some state ∧
      state.task 2 = .idle (some .writer) (some (.get .writer, .success)) ∧
      Correct state ∧
      ∀ label target, next state label = some target → FailsCleanly state target := by
  have final : (run next start readersThenWriter).map (fun state => decide
      (state.task 2 = .idle (some .writer) (some (.get .writer, .success)))) = some true := by
    decide
  obtain ⟨state, executed, holds⟩ := Option.map_eq_some_iff.mp final
  exact ⟨state, executed, of_decide_eq_true holds, correct_of_reachable (reachable_of_run executed)⟩

end Global

end FwkRtos.MrswLock.ReaderPreferred

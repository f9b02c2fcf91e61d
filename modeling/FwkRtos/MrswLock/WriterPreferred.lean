import FwkRtos.MrswLock.Interface
import FwkRtos.Transition.Tasks

/-!
# The writer-preferred MRSW lock

The `MRSW_WRITER_PREFERRED` branches of `mrsw_lock.c`, cut at every call of a
mutex, critical-section or event-group function.  A critical section excludes
every other task, so its body is one step.  The local state of a task is its
program point; a task that is in no call remembers what it was granted and not
yet put, and what its last call returned.
-/

namespace FwkRtos.MrswLock

open FwkRtos.Osal
open FwkRtos.Transition

universe u

namespace WriterPreferred

variable {T : Type u} [DecidableEq T]

/-- `write_pref_mrsw_lock_t`. -/
structure WritePrefMrswLock (T : Type u) where
  lockGlobal : Mutex T
  cond : EventFlag T
  numReadersActive : UInt32
  numWritersWaiting : UInt32
  writerActive : UInt32
  deriving DecidableEq

/-- `mrsw_lock_create` with `MRSW_WRITER_PREFERRED`. -/
def mrswLockCreate : WritePrefMrswLock T where
  lockGlobal := Mutex.unlocked
  cond := EventFlag.clear
  numReadersActive := 0
  numWritersWaiting := 0
  writerActive := 0

/-- The condition under which `writer_get` has to wait. -/
def WritePrefMrswLock.Busy (lock : WritePrefMrswLock T) : Prop :=
  0 < lock.numReadersActive ∨ lock.writerActive ≠ 0

instance (lock : WritePrefMrswLock T) : Decidable lock.Busy :=
  inferInstanceAs (Decidable (_ ∨ _))

/-- Program points of `mrsw_lock_reader_get`. -/
inductive ReaderGetPoint
  | lock
  | check
  | grantedUnlock
  | unlock
  | wait
  | blocked
  | expired
  | giveUpLock
  | giveUp
  | giveUpUnlock
  deriving DecidableEq

/-- Program points of `mrsw_lock_reader_put`. -/
inductive ReaderPutPoint
  | lock
  | release
  | setBits
  | unlock
  deriving DecidableEq

/-- Program points of `mrsw_lock_writer_get`. -/
inductive WriterGetPoint
  | lock
  | check
  | grantedUnlock
  | unlock
  | wait
  | blocked
  | expired
  | takeLock
  | take
  | takeUnlock
  | giveUpLock
  | giveUp
  | giveUpUnlock
  deriving DecidableEq

/-- Program points of `mrsw_lock_writer_put`. -/
inductive WriterPutPoint
  | lock
  | release
  | setBits
  | unlock
  deriving DecidableEq

/-- Where a task is.  Outside the calls, `held` is what it was granted and has
not put, and `last` the last function it called with the status returned. -/
inductive Point
  | idle (held : Option Role) (last : Option (ApiFunction × RtosOsalStatus))
  | readerGet (timeout : Timeout) (point : ReaderGetPoint)
  | readerPut (point : ReaderPutPoint)
  | writerGet (timeout : Timeout) (point : WriterGetPoint)
  | writerPut (point : WriterPutPoint)
  deriving DecidableEq

/-- A released waiter continues: a reader at the top of its loop, a writer
with taking the lock. -/
def Point.wake : Point → Point
  | .readerGet timeout .blocked => .readerGet timeout .lock
  | .writerGet timeout .blocked => .writerGet timeout .takeLock
  | point => point

/-- What a step of a task does to the lock and to the tasks. -/
abbrev LockEffect (T : Type u) := Effect (WritePrefMrswLock T) Point

/-- `mrsw_lock_reader_get`.  Its `retval` is never assigned in this branch. -/
def mrswLockReaderGet (task : T) (lock : WritePrefMrswLock T) (timeout : Timeout) :
    ReaderGetPoint → Option (LockEffect T)
  | .lock =>
      (lock.lockGlobal.get? task).map fun mutex =>
        { shared := { lock with lockGlobal := mutex }, own := .readerGet timeout .check }
  | .check =>
      if lock.writerActive = 0 ∧ lock.numWritersWaiting = 0 then
        some { shared := { lock with numReadersActive := lock.numReadersActive + 1 }
               own := .readerGet timeout .grantedUnlock }
      else
        some { shared := lock, own := .readerGet timeout .unlock }
  | .grantedUnlock =>
      some { shared := { lock with lockGlobal := lock.lockGlobal.put }
             own := .idle (some .reader) (some (.get .reader, .success)) }
  | .unlock =>
      some { shared := { lock with lockGlobal := lock.lockGlobal.put }
             own := .readerGet timeout .wait }
  | .wait =>
      let (cond, outcome) := lock.cond.getBits task timeout
      some { shared := { lock with cond := cond }
             own := match outcome with
               | .blocked => .readerGet timeout .blocked
               | .status .timeout => .readerGet timeout .giveUpLock
               | .status _ => .readerGet timeout .lock }
  | .blocked => none
  | .expired =>
      let (cond, status) := lock.cond.afterExpiry
      some { shared := { lock with cond := cond }
             own := if status = .timeout then .readerGet timeout .giveUpLock
               else .readerGet timeout .lock }
  | .giveUpLock =>
      (lock.lockGlobal.get? task).map fun mutex =>
        { shared := { lock with lockGlobal := mutex }, own := .readerGet timeout .giveUp }
  | .giveUp =>
      some { shared := { lock with numReadersActive := lock.numReadersActive - 1 }
             own := .readerGet timeout .giveUpUnlock }
  | .giveUpUnlock =>
      some { shared := { lock with lockGlobal := lock.lockGlobal.put }
             own := .idle none (some (.get .reader, .success)) }

/-- `mrsw_lock_reader_put`. -/
def mrswLockReaderPut (task : T) (lock : WritePrefMrswLock T) :
    ReaderPutPoint → Option (LockEffect T)
  | .lock =>
      (lock.lockGlobal.get? task).map fun mutex =>
        { shared := { lock with lockGlobal := mutex }, own := .readerPut .release }
  | .release =>
      if lock.numReadersActive - 1 = 0 then
        some { shared := { lock with numReadersActive := lock.numReadersActive - 1 }
               own := .readerPut .setBits }
      else
        some { shared := { lock with numReadersActive := lock.numReadersActive - 1 }
               own := .readerPut .unlock }
  | .setBits =>
      some { shared := { lock with cond := lock.cond.setBits }
             own := .readerPut .unlock
             others := Point.wake }
  | .unlock =>
      some { shared := { lock with lockGlobal := lock.lockGlobal.put }
             own := .idle none (some (.put .reader, .success)) }

/-- `mrsw_lock_writer_get`.  Its `retval` is never assigned in this branch. -/
def mrswLockWriterGet (task : T) (lock : WritePrefMrswLock T) (timeout : Timeout) :
    WriterGetPoint → Option (LockEffect T)
  | .lock =>
      (lock.lockGlobal.get? task).map fun mutex =>
        { shared := { lock with lockGlobal := mutex }, own := .writerGet timeout .check }
  | .check =>
      if lock.Busy then
        some { shared := { lock with numWritersWaiting := lock.numWritersWaiting + 1 }
               own := .writerGet timeout .unlock }
      else
        some { shared := { lock with
                 numWritersWaiting := lock.numWritersWaiting + 1 - 1
                 writerActive := 1 }
               own := .writerGet timeout .grantedUnlock }
  | .grantedUnlock =>
      some { shared := { lock with lockGlobal := lock.lockGlobal.put }
             own := .idle (some .writer) (some (.get .writer, .success)) }
  | .unlock =>
      some { shared := { lock with lockGlobal := lock.lockGlobal.put }
             own := .writerGet timeout .wait }
  | .wait =>
      let (cond, outcome) := lock.cond.getBits task timeout
      some { shared := { lock with cond := cond }
             own := match outcome with
               | .blocked => .writerGet timeout .blocked
               | .status .success => .writerGet timeout .takeLock
               | .status _ => .writerGet timeout .giveUpLock }
  | .blocked => none
  | .expired =>
      let (cond, status) := lock.cond.afterExpiry
      some { shared := { lock with cond := cond }
             own := if status = .success then .writerGet timeout .takeLock
               else .writerGet timeout .giveUpLock }
  | .takeLock =>
      (lock.lockGlobal.get? task).map fun mutex =>
        { shared := { lock with lockGlobal := mutex }, own := .writerGet timeout .take }
  | .take =>
      -- The state of the lock is not examined again after the wait.
      some { shared := { lock with
               numWritersWaiting := lock.numWritersWaiting - 1
               writerActive := 1 }
             own := .writerGet timeout .takeUnlock }
  | .takeUnlock =>
      some { shared := { lock with lockGlobal := lock.lockGlobal.put }
             own := .idle (some .writer) (some (.get .writer, .success)) }
  | .giveUpLock =>
      (lock.lockGlobal.get? task).map fun mutex =>
        { shared := { lock with lockGlobal := mutex }, own := .writerGet timeout .giveUp }
  | .giveUp =>
      some { shared := { lock with numWritersWaiting := lock.numWritersWaiting - 1 }
             own := .writerGet timeout .giveUpUnlock }
  | .giveUpUnlock =>
      some { shared := { lock with lockGlobal := lock.lockGlobal.put }
             own := .idle none (some (.get .writer, .success)) }

/-- `mrsw_lock_writer_put`. -/
def mrswLockWriterPut (task : T) (lock : WritePrefMrswLock T) :
    WriterPutPoint → Option (LockEffect T)
  | .lock =>
      (lock.lockGlobal.get? task).map fun mutex =>
        { shared := { lock with lockGlobal := mutex }, own := .writerPut .release }
  | .release =>
      some { shared := { lock with writerActive := 0 }, own := .writerPut .setBits }
  | .setBits =>
      some { shared := { lock with cond := lock.cond.setBits }
             own := .writerPut .unlock
             others := Point.wake }
  | .unlock =>
      some { shared := { lock with lockGlobal := lock.lockGlobal.put }
             own := .idle none (some (.put .writer, .success)) }

/-- The point at which a call begins. -/
def Call.entry : Call → Point
  | .get .reader timeout => .readerGet timeout .lock
  | .get .writer timeout => .writerGet timeout .lock
  | .put .reader => .readerPut .lock
  | .put .writer => .writerPut .lock

/-- Only a bounded wait on the event group expires. -/
def Point.expire : Point → Option Point
  | .readerGet timeout .blocked =>
      if timeout = rtosOsalPortWaitForever then none else some (.readerGet timeout .expired)
  | .writerGet timeout .blocked =>
      if timeout = rtosOsalPortWaitForever then none else some (.writerGet timeout .expired)
  | _ => none

/-- One step of a task: its program, cut at the calls of the OS. -/
def taskStep (task : T) : Event → WritePrefMrswLock T → Point → Option (LockEffect T)
  | .call call, lock, .idle held _ =>
      if call.Proper held then some { shared := lock, own := Call.entry call } else none
  | .call _, _, _ => none
  | .expire, lock, point =>
      point.expire.map fun expired =>
        { shared := { lock with cond := lock.cond.expire task }, own := expired }
  | .run, _, .idle _ _ => none
  | .run, lock, .readerGet timeout point => mrswLockReaderGet task lock timeout point
  | .run, lock, .readerPut point => mrswLockReaderPut task lock point
  | .run, lock, .writerGet timeout point => mrswLockWriterGet task lock timeout point
  | .run, lock, .writerPut point => mrswLockWriterPut task lock point

/-- What a call does: it is proper, and begins at its entry. -/
theorem entry_eq_of_call_step {task : T} {call : Call}
    {lock : WritePrefMrswLock T} {point : Point} {effect : LockEffect T}
    (step : taskStep task (.call call) lock point = some effect) :
    ∃ held last, point = .idle held last ∧ call.Proper held ∧
      effect = { shared := lock, own := Call.entry call } := by
  cases point with
  | idle held last =>
      simp only [taskStep, Option.ite_none_right_eq_some, Option.some.injEq] at step
      exact ⟨held, last, rfl, step.1, step.2.symm⟩
  | readerGet | readerPut | writerGet | writerPut => cases step

/-- What an expiry does: the bounded wait of a get is over. -/
theorem cases_of_expire_step {task : T} {lock : WritePrefMrswLock T} {point : Point}
    {effect : LockEffect T} (step : taskStep task .expire lock point = some effect) :
    ∃ timeout expired, timeout ≠ rtosOsalPortWaitForever ∧
      effect = { shared := { lock with cond := lock.cond.expire task }, own := expired } ∧
        (point = .readerGet timeout .blocked ∧ expired = .readerGet timeout .expired ∨
          point = .writerGet timeout .blocked ∧ expired = .writerGet timeout .expired) := by
  obtain ⟨expired, after, rfl⟩ := Option.map_eq_some_iff.mp step
  unfold Point.expire at after
  split at after
  · next timeout =>
      simp only [Option.ite_none_left_eq_some, Option.some.injEq] at after
      exact ⟨timeout, expired, after.1, rfl, .inl ⟨rfl, after.2.symm⟩⟩
  · next timeout =>
      simp only [Option.ite_none_left_eq_some, Option.some.injEq] at after
      exact ⟨timeout, expired, after.1, rfl, .inr ⟨rfl, after.2.symm⟩⟩
  · cases after

/-- The lock with all its tasks. -/
abbrev State (T : Type u) := Tasks T (WritePrefMrswLock T) Point

/-- A label of the interleaving; no step belongs to the system. -/
abbrev Label (T : Type u) := Actor T Event Empty

/-- A new lock that no task has called yet. -/
def start : State T where
  shared := mrswLockCreate
  task := fun _ => .idle none none

/-- The interleaving of all tasks. -/
def next : LStep (State T) (Label T) :=
  interleave taskStep fun event _ => event.elim

end WriterPreferred

end FwkRtos.MrswLock

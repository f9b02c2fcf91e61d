import FwkRtos.MrswLock.Interface
import FwkRtos.Transition.Tasks

/-!
# The reader-preferred MRSW lock

The `MRSW_READER_PREFERRED` branches of `mrsw_lock.c`, cut at every call of a
mutex, critical-section or semaphore function.  A wait that gives up does so at
the moment it finds the mutex or semaphore taken.
-/

namespace FwkRtos.MrswLock.ReaderPreferred

open FwkRtos.Osal
open FwkRtos.Transition

universe u

variable {T : Type u} [DecidableEq T]

/-- `read_pref_mrsw_lock_t`. -/
structure ReadPrefMrswLock (T : Type u) where
  lockGlobal : Semaphore
  lockReaders : Mutex T
  numReadersActive : UInt32
  deriving DecidableEq

/-- `mrsw_lock_create` with `MRSW_READER_PREFERRED`. -/
def mrswLockCreate : ReadPrefMrswLock T where
  lockGlobal := { maxCount := 1, count := 1 }
  lockReaders := Mutex.unlocked
  numReadersActive := 0

/-- Program points of `mrsw_lock_reader_get`. -/
inductive ReaderGetPoint
  | lock
  | count
  | takeGlobal
  | unlock
  deriving DecidableEq

/-- Program points of `mrsw_lock_reader_put`; a failed assertion stops the
task. -/
inductive ReaderPutPoint
  | lock
  | count
  | assertionFailed
  | putGlobal
  | unlock
  deriving DecidableEq

/-- Where a task is.  Outside the calls, `held` is what it was granted and has
not put, and `last` the last function it called with the status returned. -/
inductive Point
  | idle (held : Option Role) (last : Option (ApiFunction × RtosOsalStatus))
  | readerGet (timeout : Timeout) (point : ReaderGetPoint)
  | readerPut (point : ReaderPutPoint)
  | writerGet (timeout : Timeout)
  | writerPut
  deriving DecidableEq

/-- What a step of a task does to the lock and to itself. -/
abbrev LockEffect (T : Type u) := Effect (ReadPrefMrswLock T) Point

/-- The return of a get whose wait is over without a grant. -/
def timedOut (lock : ReadPrefMrswLock T) (role : Role) : LockEffect T where
  shared := lock
  own := .idle none (some (.get role, .timeout))

/-- `mrsw_lock_reader_get`. -/
def mrswLockReaderGet (task : T) (lock : ReadPrefMrswLock T) (timeout : Timeout) :
    ReaderGetPoint → Option (LockEffect T)
  | .lock =>
      match lock.lockReaders.get? task with
      | some mutex =>
          some { shared := { lock with lockReaders := mutex }, own := .readerGet timeout .count }
      | none => if timeout = rtosOsalPortNoWait then some (timedOut lock .reader) else none
  | .count =>
      if lock.numReadersActive + 1 = 1 then
        some { shared := { lock with numReadersActive := lock.numReadersActive + 1 }
               own := .readerGet timeout .takeGlobal }
      else
        some { shared := { lock with numReadersActive := lock.numReadersActive + 1 }
               own := .readerGet timeout .unlock }
  | .takeGlobal =>
      -- This wait is unbounded, whatever the timeout of the call.
      lock.lockGlobal.get?.map fun semaphore =>
        { shared := { lock with lockGlobal := semaphore }, own := .readerGet timeout .unlock }
  | .unlock =>
      some { shared := { lock with lockReaders := lock.lockReaders.put }
             own := .idle (some .reader) (some (.get .reader, .success)) }

/-- `mrsw_lock_reader_put`. -/
def mrswLockReaderPut (task : T) (lock : ReadPrefMrswLock T) :
    ReaderPutPoint → Option (LockEffect T)
  | .lock =>
      (lock.lockReaders.get? task).map fun mutex =>
        { shared := { lock with lockReaders := mutex }, own := .readerPut .count }
  | .count =>
      if 1 ≤ lock.numReadersActive then
        if lock.numReadersActive - 1 = 0 then
          some { shared := { lock with numReadersActive := lock.numReadersActive - 1 }
                 own := .readerPut .putGlobal }
        else
          some { shared := { lock with numReadersActive := lock.numReadersActive - 1 }
                 own := .readerPut .unlock }
      else
        some { shared := lock, own := .readerPut .assertionFailed }
  | .assertionFailed => none
  | .putGlobal =>
      match lock.lockGlobal.put? with
      | some semaphore =>
          some { shared := { lock with lockGlobal := semaphore }, own := .readerPut .unlock }
      | none =>
          -- The readers' mutex is not put on this way out.
          some { shared := lock, own := .idle none (some (.put .reader, .error)) }
  | .unlock =>
      some { shared := { lock with lockReaders := lock.lockReaders.put }
             own := .idle none (some (.put .reader, .success)) }

/-- `mrsw_lock_writer_get`. -/
def mrswLockWriterGet (lock : ReadPrefMrswLock T) (timeout : Timeout) :
    Option (LockEffect T) :=
  match lock.lockGlobal.get? with
  | some semaphore =>
      some { shared := { lock with lockGlobal := semaphore }
             own := .idle (some .writer) (some (.get .writer, .success)) }
  | none => if timeout = rtosOsalPortNoWait then some (timedOut lock .writer) else none

/-- `mrsw_lock_writer_put`. -/
def mrswLockWriterPut (lock : ReadPrefMrswLock T) : Option (LockEffect T) :=
  match lock.lockGlobal.put? with
  | some semaphore =>
      some { shared := { lock with lockGlobal := semaphore }
             own := .idle none (some (.put .writer, .success)) }
  | none => some { shared := lock, own := .idle none (some (.put .writer, .error)) }

/-- The point at which a call begins. -/
def Call.entry : Call → Point
  | .get .reader timeout => .readerGet timeout .lock
  | .get .writer timeout => .writerGet timeout
  | .put .reader => .readerPut .lock
  | .put .writer => .writerPut

/-- The get that gives up when the ticks of a task's wait run out.  Only the
first wait of a get is bounded, and it ends so only while it is not granted. -/
def Point.expire (lock : ReadPrefMrswLock T) : Point → Option Role
  | .readerGet timeout .lock =>
      if timeout = rtosOsalPortWaitForever ∨ lock.lockReaders.holder = none then none
      else some .reader
  | .writerGet timeout =>
      if timeout = rtosOsalPortWaitForever ∨ 0 < lock.lockGlobal.count then none
      else some .writer
  | _ => none

/-- One step of a task: its program, cut at the calls of the OS. -/
def taskStep (task : T) : Event → ReadPrefMrswLock T → Point → Option (LockEffect T)
  | .call call, lock, .idle held _ =>
      if call.Proper held then some { shared := lock, own := Call.entry call } else none
  | .call _, _, _ => none
  | .expire, lock, point => (point.expire lock).map (timedOut lock)
  | .run, _, .idle _ _ => none
  | .run, lock, .readerGet timeout point => mrswLockReaderGet task lock timeout point
  | .run, lock, .readerPut point => mrswLockReaderPut task lock point
  | .run, lock, .writerGet timeout => mrswLockWriterGet lock timeout
  | .run, lock, .writerPut => mrswLockWriterPut lock

/-- The lock with all its tasks. -/
abbrev State (T : Type u) := Tasks T (ReadPrefMrswLock T) Point

/-- A label of the interleaving; no step belongs to the system. -/
abbrev Label (T : Type u) := Actor T Event Empty

/-- A new lock that no task has called yet. -/
def start : State T where
  shared := mrswLockCreate
  task := fun _ => .idle none none

/-- The interleaving of all tasks. -/
def next : LStep (State T) (Label T) :=
  interleave taskStep fun event _ => event.elim

end FwkRtos.MrswLock.ReaderPreferred

import FwkRtos.Transition.Ownership
import Mathlib.Data.Fintype.Card
import Mathlib.Data.Fintype.EquivFin
import Mathlib.Data.Fintype.Pi

/-!
# The OS abstraction layer

The kernel objects that the drivers and services use through `rtos_osal`, as
far as their callers can see them: what one non-blocking attempt at an
operation does.  Blocking, timeouts and the choice of the task that runs next
belong to the interleaving of the tasks, so an attempt that would block is
`none` here.
-/

namespace FwkRtos.Osal

open FwkRtos.Transition

universe u

/-- `rtos_osal_status_t`. -/
inductive RtosOsalStatus
  | success
  | error
  | timeout
  deriving DecidableEq, Repr

/-- A number of ticks to wait. -/
structure Timeout where
  ticks : UInt32
  deriving DecidableEq

/-- `RTOS_OSAL_PORT_NO_WAIT`. -/
def rtosOsalPortNoWait : Timeout := ⟨0⟩

/-- `RTOS_OSAL_PORT_WAIT_FOREVER`, the largest tick count. -/
def rtosOsalPortWaitForever : Timeout := ⟨0xffffffff⟩

/-! ## Tasks -/

/-- The kernel names a task by a 32-bit pointer that is not null. -/
abbrev TaskHandle := { pointer : BitVec 32 // pointer ≠ 0 }

/-- The tasks of a system: finitely many, each with a handle of its own. -/
class TaskSet (T : Type u) extends Fintype T where
  decEq : DecidableEq T
  handle : T ↪ TaskHandle

instance (priority := low) {T : Type u} [tasks : TaskSet T] : DecidableEq T :=
  tasks.decEq

/-- Pointers of 32 bits name fewer than `2 ^ 32` tasks, so a 32-bit counter of
tasks cannot wrap. -/
theorem TaskSet.card_lt (T : Type u) [tasks : TaskSet T] : Fintype.card T < 2 ^ 32 := by
  let total : T ↪ Fin (2 ^ 32) :=
    ⟨fun t => (tasks.handle t).val.toFin, fun t u equal =>
      tasks.handle.injective (Subtype.ext (BitVec.eq_of_toFin_eq equal))⟩
  have bound := Fintype.card_le_of_embedding total
  rw [Fintype.card_fin] at bound
  refine lt_of_le_of_ne bound fun full => ?_
  -- A system with `2 ^ 32` tasks would have one whose handle is null.
  have onto : Function.Surjective total :=
    ((Fintype.bijective_iff_injective_and_card total).mpr
      ⟨total.injective, full.trans (Fintype.card_fin _).symm⟩).surjective
  obtain ⟨t, isNull⟩ := onto 0
  exact (tasks.handle t).property (BitVec.eq_of_toFin_eq isNull)

/-- The first `n` non-null pointers. -/
@[reducible]
def TaskSet.ofFin (n : Nat) (bound : n < 2 ^ 32) : TaskSet (Fin n) where
  decEq := inferInstance
  handle :=
    ⟨fun t => ⟨BitVec.ofNat 32 (t + 1), by
        intro isNull
        have value : ((t : Nat) + 1) % 2 ^ 32 = 0 := by
          simpa using congrArg BitVec.toNat isNull
        omega⟩,
      fun t u equal => by
        have value : ((t : Nat) + 1) % 2 ^ 32 = ((u : Nat) + 1) % 2 ^ 32 := by
          simpa using congrArg (fun handle : TaskHandle => handle.val.toNat) equal
        exact Fin.ext (by omega)⟩

instance : TaskSet (Fin 2) := TaskSet.ofFin 2 (by decide)

instance : TaskSet (Fin 3) := TaskSet.ofFin 3 (by decide)

/-! ## Mutexes -/

variable {T : Type u} [DecidableEq T]

/-- A mutex created with `RTOS_OSAL_NOT_RECURSIVE`. -/
structure Mutex (T : Type u) where
  holder : Option T
  deriving DecidableEq

namespace Mutex

def unlocked : Mutex T := ⟨none⟩

/-- `rtos_osal_mutex_get`, when it need not wait. -/
def get? (mutex : Mutex T) (task : T) : Option (Mutex T) :=
  if mutex.holder = none then some ⟨some task⟩ else none

/-- `rtos_osal_mutex_put`. -/
def put (_ : Mutex T) : Mutex T := ⟨none⟩

omit [DecidableEq T] in
@[simp]
theorem put_holder (mutex : Mutex T) : mutex.put.holder = none :=
  rfl

omit [DecidableEq T] in
@[simp]
theorem get?_eq_some_iff {mutex next : Mutex T} {task : T} :
    mutex.get? task = some next ↔ mutex.holder = none ∧ ⟨some task⟩ = next := by
  simp [get?]

end Mutex

/-- A mutex created with `RTOS_OSAL_RECURSIVE`: its holder may take it again. -/
structure RecursiveMutex (T : Type u) where
  holder : Option T
  count : Nat
  deriving DecidableEq

namespace RecursiveMutex

def unlocked : RecursiveMutex T := ⟨none, 0⟩

/-- `rtos_osal_mutex_get`, when it need not wait. -/
def get? (mutex : RecursiveMutex T) (task : T) : Option (RecursiveMutex T) :=
  if mutex.holder = none then some ⟨some task, 1⟩
  else if mutex.holder = some task then some ⟨some task, mutex.count + 1⟩
  else none

/-- `rtos_osal_mutex_put`: only the holder's calls count, and the last of them
frees the mutex. -/
def put (mutex : RecursiveMutex T) (task : T) : RecursiveMutex T :=
  if mutex.holder = some task then
    if mutex.count = 1 then unlocked else ⟨some task, mutex.count - 1⟩
  else mutex

/-- A successful get adds one to the share of the task. -/
theorem owned_get {mutex next : RecursiveMutex T} {share : T → Nat} {task : T}
    (owned : Owned share mutex.holder mutex.count) (got : mutex.get? task = some next) :
    Owned (Function.update share task (share task + 1)) next.holder next.count := by
  simp only [get?] at got
  split at got
  · next free =>
      cases got
      rw [owned.others task (by rw [free]; exact nofun)]
      exact owned.set (.inl free) Nat.one_pos
  · split at got
    · next isOwner =>
        cases got
        rw [owned.mine task isOwner]
        exact owned.set (.inr isOwner) (Nat.succ_pos _)
    · cases got

/-- A put of the holder takes one from its share. -/
theorem owned_put {mutex : RecursiveMutex T} {share : T → Nat} {task : T}
    (owned : Owned share mutex.holder mutex.count) (isOwner : mutex.holder = some task) :
    Owned (Function.update share task (share task - 1)) (mutex.put task).holder
      (mutex.put task).count := by
  have positive : 0 < share task := (owned.pos_iff task).mpr isOwner
  rw [put, if_pos isOwner]
  rw [owned.mine task isOwner] at positive ⊢
  split
  · next last =>
      rw [last]
      exact owned.release isOwner
  · next more => exact owned.set (.inr isOwner) (Nat.sub_pos_of_lt (by omega))

end RecursiveMutex

/-! ## Semaphores -/

/-- A counting semaphore. -/
structure Semaphore where
  maxCount : Nat
  count : Nat
  deriving DecidableEq

namespace Semaphore

/-- `rtos_osal_semaphore_get`, when it need not wait. -/
def get? (semaphore : Semaphore) : Option Semaphore :=
  if 0 < semaphore.count then some { semaphore with count := semaphore.count - 1 } else none

/-- `rtos_osal_semaphore_put`; it fails on a full semaphore. -/
def put? (semaphore : Semaphore) : Option Semaphore :=
  if semaphore.count < semaphore.maxCount then
    some { semaphore with count := semaphore.count + 1 }
  else none

@[simp]
theorem get?_eq_some_iff {semaphore next : Semaphore} :
    semaphore.get? = some next ↔
      0 < semaphore.count ∧ { semaphore with count := semaphore.count - 1 } = next := by
  simp [get?]

@[simp]
theorem put?_eq_some_iff {semaphore next : Semaphore} :
    semaphore.put? = some next ↔
      semaphore.count < semaphore.maxCount ∧
        { semaphore with count := semaphore.count + 1 } = next := by
  simp [put?]

end Semaphore

/-! ## Event groups -/

/-- One flag of an event group, with the tasks that wait for it. -/
structure EventFlag (T : Type u) where
  isSet : Bool
  waiters : List T
  deriving DecidableEq

/-- How a call of `rtos_osal_event_group_get_bits` goes on after its first look
at the flag. -/
inductive BitsOutcome
  | status (value : RtosOsalStatus)
  | blocked
  deriving DecidableEq

namespace EventFlag

def clear : EventFlag T := ⟨false, []⟩

/-- `rtos_osal_event_group_get_bits` for this flag with `RTOS_OSAL_PORT_CLEAR`,
called from a task: a set flag is consumed, else the caller starts to wait
unless its timeout is `RTOS_OSAL_PORT_NO_WAIT`. -/
def getBits (flag : EventFlag T) (task : T) (timeout : Timeout) : EventFlag T × BitsOutcome :=
  if flag.isSet then ({ flag with isSet := false }, .status .success)
  else if timeout = rtosOsalPortNoWait then (flag, .status .timeout)
  else ({ flag with waiters := flag.waiters ++ [task] }, .blocked)

/-- The ticks of a waiting task ran out: the kernel takes it off the list. -/
def expire (flag : EventFlag T) (task : T) : EventFlag T :=
  { flag with waiters := flag.waiters.erase task }

/-- What a task whose ticks ran out finds when it runs again: a flag that was
set meanwhile still counts, and is consumed. -/
def afterExpiry (flag : EventFlag T) : EventFlag T × RtosOsalStatus :=
  if flag.isSet then ({ flag with isSet := false }, .success) else (flag, .timeout)

/-- `rtos_osal_event_group_set_bits` for this flag, whose waiters all wait with
`RTOS_OSAL_PORT_CLEAR`: if there are any, every one of them is released and
only then the flag is cleared; else it stays set. -/
def setBits (flag : EventFlag T) : EventFlag T :=
  { isSet := flag.waiters.isEmpty, waiters := [] }

end EventFlag

end FwkRtos.Osal

import FwkRtos.MrswLock.WriterPreferred.Accounting

/-!
# Writer preference

`num_writers_waiting` is the number of the registered writers in every state, whoever gives
up.  A reader is granted the lock only where it is zero, so that a registered writer keeps
all readers out that were not granted before.
-/

namespace FwkRtos.MrswLock.WriterPreferred

open FwkRtos.Osal
open FwkRtos.Transition

universe u

variable {T : Type u}

/-- What holds from a state on while writers are registered: in a run during which a writer
stays registered, no reader is granted the lock that had not been granted it before; a reader
that was granted it holds it until its own put releases it; and a writer is registered from
its increment of `num_writers_waiting` until it is granted the lock or gives up. -/
structure PrefersWriters [TaskSet T] (source : State T) : Prop where
  keepsOut : ∀ writer target,
    GuardedReachable next (fun state _ => (state.task writer).registered = true) source target →
      ∀ reader, (target.task reader).holds .reader = true →
        (source.task reader).holds .reader = true
  unaffected : ∀ label target, next source label = some target →
    ∀ reader, (source.task reader).holds .reader = true →
      (target.task reader).holds .reader = true ∨ source.task reader = .readerPut .release
  registers : ∀ label target, next source label = some target →
    ∀ writer, (source.task writer).registered = false →
      (target.task writer).registered = true →
        (∃ timeout, source.task writer = .writerGet timeout .check) ∧
          target.shared.numWritersWaiting = source.shared.numWritersWaiting + 1
  unregisters : ∀ label target, next source label = some target →
    ∀ writer, (source.task writer).registered = true →
      (target.task writer).registered = false →
        (target.task writer).holds .writer = true ∨
          ∃ timeout, source.task writer = .writerGet timeout .giveUp

/-! ## One step -/

section Local

variable {lock after : WritePrefMrswLock T} {point own : Point}

/-- A reader is granted the lock only where no writer is registered. -/
theorem CounterStep.reader_granted (step : CounterStep lock after point own)
    (holds : own.holds .reader = true) (fresh : point.holds .reader = false) :
    lock.numWritersWaiting = 0 := by
  cases step with
  | quiet _ held =>
      rw [held, fresh] at holds
      cases holds
  | readerGrant idle => exact idle.2
  | readerRelease lastReader =>
      rcases lastReader with ⟨_, rfl⟩ | ⟨_, rfl⟩ <;> cases holds
  | readerGiveUp | writerRegister | writerGrant | writerTake | writerGiveUp | writerRelease =>
      cases holds

/-- A reader loses the lock only by its own put. -/
theorem CounterStep.reader_released (step : CounterStep lock after point own)
    (held : point.holds .reader = true) (released : own.holds .reader = false) :
    point = .readerPut .release := by
  cases step with
  | quiet _ same =>
      rw [same, held] at released
      cases released
  | readerRelease => rfl
  | readerGrant | readerGiveUp | writerRegister | writerGrant | writerTake | writerGiveUp
  | writerRelease => cases held

theorem CounterStep.writer_registers (step : CounterStep lock after point own)
    (fresh : point.registered = false) (registered : own.registered = true) :
    (∃ timeout, point = .writerGet timeout .check) ∧
      after.numWritersWaiting = lock.numWritersWaiting + 1 := by
  cases step with
  | quiet _ _ same =>
      rw [same, fresh] at registered
      cases registered
  | @writerRegister timeout _ changed => exact ⟨⟨timeout, rfl⟩, by rw [changed]⟩
  | readerRelease lastReader =>
      rcases lastReader with ⟨_, rfl⟩ | ⟨_, rfl⟩ <;> cases registered
  | readerGrant | readerGiveUp | writerGrant | writerTake | writerGiveUp | writerRelease =>
      cases registered

theorem CounterStep.writer_unregisters (step : CounterStep lock after point own)
    (registered : point.registered = true) (gone : own.registered = false) :
    own.holds .writer = true ∨ ∃ timeout, point = .writerGet timeout .giveUp := by
  cases step with
  | quiet _ _ same =>
      rw [same, registered] at gone
      cases gone
  | writerTake => exact .inl rfl
  | @writerGiveUp timeout => exact .inr ⟨timeout, rfl⟩
  | readerGrant | readerRelease | readerGiveUp | writerRegister | writerGrant | writerRelease =>
      cases registered

end Local

/-! ## All steps -/

variable [TaskSet T] {source target : State T} {label : Label T}

/-- `num_writers_waiting` is the number of the registered writers in every state. -/
theorem waiting_counted {state : State T} (reachable : Reachable next start state) :
    state.shared.numWritersWaiting = UInt32.ofNat (registered state) := by
  induction reachable with
  | refl => exact accountingInv_start.writers
  | tail _ _ step counted =>
      rcases next_eq_some_iff.mp step with ⟨task, event, effect, _, local_, rfl⟩
      exact writers_counted local_ counted

/-- Another task sees nothing of what a step does to who holds the lock and who is
registered. -/
theorem others_unseen {task other : T} {event : Event} {effect : LockEffect T}
    (step : taskStep task event source.shared (source.task task) = some effect)
    (different : other ≠ task) (role : Role) :
    ((source.apply task effect).task other).holds role = (source.task other).holds role ∧
      ((source.apply task effect).task other).registered = (source.task other).registered := by
  rw [Tasks.apply_task_of_ne source different]
  have others := taskStep_others step
  exact ⟨unseen_of_others (Point.holds_wake role) others _,
    unseen_of_others Point.registered_wake others _⟩

/-- No step grants the lock to a reader while a writer is registered. -/
theorem notGranted_of_registered (reachable : Reachable next (start : State T) source)
    (step : next source label = some target) {writer reader : T}
    (isRegistered : (source.task writer).registered = true)
    (holds : (target.task reader).holds .reader = true) :
    (source.task reader).holds .reader = true := by
  have counted := waiting_counted reachable
  rcases next_eq_some_iff.mp step with ⟨task, event, effect, _, local_, rfl⟩
  by_contra fresh
  rw [Bool.not_eq_true] at fresh
  by_cases steps : reader = task
  · subst steps
    rw [Tasks.apply_task_self] at holds
    have noWriter := (taskStep_counters local_).reader_granted holds fresh
    have some_ : 0 < registered source := tally_pos isRegistered
    rw [counted, ← UInt32.toNat_inj, UInt32.toNat_ofNat_of_lt' (registered_lt source)] at noWriter
    exact some_.ne' noWriter
  · rw [(others_unseen local_ steps .reader).1, fresh] at holds
    cases holds

theorem holds_or_puts (step : next source label = some target) {reader : T}
    (holds : (source.task reader).holds .reader = true) :
    (target.task reader).holds .reader = true ∨ source.task reader = .readerPut .release := by
  rcases next_eq_some_iff.mp step with ⟨task, event, effect, _, local_, rfl⟩
  by_cases steps : reader = task
  · subst steps
    rw [Tasks.apply_task_self]
    cases still : effect.own.holds .reader with
    | true => exact .inl rfl
    | false => exact .inr ((taskStep_counters local_).reader_released holds still)
  · exact .inl ((others_unseen local_ steps .reader).1.trans holds)

theorem registers_at_check (step : next source label = some target) {writer : T}
    (fresh : (source.task writer).registered = false)
    (isRegistered : (target.task writer).registered = true) :
    (∃ timeout, source.task writer = .writerGet timeout .check) ∧
      target.shared.numWritersWaiting = source.shared.numWritersWaiting + 1 := by
  rcases next_eq_some_iff.mp step with ⟨task, event, effect, _, local_, rfl⟩
  by_cases steps : writer = task
  · subst steps
    rw [Tasks.apply_task_self] at isRegistered
    exact (taskStep_counters local_).writer_registers fresh isRegistered
  · rw [(others_unseen local_ steps .writer).2, fresh] at isRegistered
    cases isRegistered

theorem granted_or_givesUp (step : next source label = some target) {writer : T}
    (isRegistered : (source.task writer).registered = true)
    (gone : (target.task writer).registered = false) :
    (target.task writer).holds .writer = true ∨
      ∃ timeout, source.task writer = .writerGet timeout .giveUp := by
  rcases next_eq_some_iff.mp step with ⟨task, event, effect, _, local_, rfl⟩
  by_cases steps : writer = task
  · subst steps
    rw [Tasks.apply_task_self] at gone ⊢
    exact (taskStep_counters local_).writer_unregisters isRegistered gone
  · rw [(others_unseen local_ steps .writer).2, isRegistered] at gone
    cases gone

/-- For all tasks, timeouts and interleavings, the lock prefers the writers from every state
that it reaches. -/
theorem prefersWriters_of_reachable (reachable : Reachable next (start : State T) source) :
    PrefersWriters source := by
  constructor
  case keepsOut =>
    intro writer target run reader holds
    -- The run is taken back step by step; each of its states is reachable itself.
    induction run with
    | refl => exact holds
    | tail before isRegistered step ih =>
        exact ih (notGranted_of_registered (reachable.trans before.reachable) step
          isRegistered holds)
  case unaffected => exact fun _ _ step _ holds => holds_or_puts step holds
  case registers =>
    exact fun _ _ step _ fresh isRegistered => registers_at_check step fresh isRegistered
  case unregisters =>
    exact fun _ _ step _ isRegistered gone => granted_or_givesUp step isRegistered gone

/-- Task 0 reads, task 1 waits for the lock as writer, and task 2 has asked for it as
reader. -/
def readerMeetsWriter : List (Label (Fin 3)) :=
  moves <|
    (0, .call (.get .reader rtosOsalPortWaitForever)) :: List.replicate 3 (0, .run) ++
    (1, .call (.get .writer rtosOsalPortWaitForever)) :: List.replicate 4 (1, .run) ++
    [(2, .call (.get .reader rtosOsalPortWaitForever)), (2, .run)]

theorem readerMeetsWriter_prefersWriters :
    ∃ source target : State (Fin 3), (source.task 1).registered = true ∧
      source.task 2 = .readerGet rtosOsalPortWaitForever .check ∧
      next source (.task 2 .run) = some target ∧
      target.task 2 = .readerGet rtosOsalPortWaitForever .unlock ∧ PrefersWriters source := by
  rcases exists_reachable_of_run next start readerMeetsWriter
    (fun state => decide ((state.task 1).registered = true ∧
      state.task 2 = .readerGet rtosOsalPortWaitForever .check ∧
      (next state (.task 2 .run)).map (fun target => target.task 2) =
        some (.readerGet rtosOsalPortWaitForever .unlock))) (by decide) with
    ⟨source, reachable, final⟩
  rcases of_decide_eq_true final with ⟨isRegistered, before, after⟩
  rcases Option.map_eq_some_iff.mp after with ⟨target, step, point⟩
  exact ⟨source, target, isRegistered, before, step, point,
    prefersWriters_of_reachable reachable⟩

end FwkRtos.MrswLock.WriterPreferred

import FwkRtos.MrswLock.WriterPreferred.Accounting

/-!
# Wake-ups of the writer-preferred lock

The state check of a get and its wait on the event group are separate steps, so
a task can start to wait after the wake-up meant for it was used up by another.
With unbounded timeouts no wake-up is lost in a run in which a task starts to
wait only while something still owes it one.
-/

namespace FwkRtos.MrswLock.WriterPreferred

open FwkRtos.Osal
open FwkRtos.Transition

universe u

/-- The task is blocked on the event group. -/
def Point.blocked : Point → Bool
  | .readerGet _ .blocked => true
  | .writerGet _ .blocked => true
  | _ => false

/-- The task is about to ask the event group for the flag. -/
def Point.waits : Point → Bool
  | .readerGet _ .wait => true
  | .writerGet _ .wait => true
  | _ => false

/-- The task is in no call. -/
def Point.isIdle : Point → Bool
  | .idle _ _ => true
  | _ => false

/-- The task will set the flag, or will hold the lock, without waiting for the
flag itself: a put that has released the lock, a writer that has not looked at
the lock yet or was woken, and a reader about to look at a lock for which no
writer is registered. -/
def Point.owesWakeUp {T : Type u} (lock : WritePrefMrswLock T) : Point → Bool
  | .readerPut .setBits => true
  | .writerPut .setBits => true
  | .writerGet _ .lock => true
  | .writerGet _ .check => true
  | .writerGet _ .takeLock => true
  | .writerGet _ .take => true
  | .readerGet _ .lock => decide (lock.numWritersWaiting = 0)
  | .readerGet _ .check => decide (lock.numWritersWaiting = 0)
  | _ => false

/-- With unbounded timeouts these points are never left for giving up. -/
def Point.Patient : Point → Prop
  | .readerGet timeout point =>
      timeout = rtosOsalPortWaitForever ∧ point ≠ .expired ∧ point ≠ .giveUpLock ∧
        point ≠ .giveUp ∧ point ≠ .giveUpUnlock
  | .writerGet timeout point =>
      timeout = rtosOsalPortWaitForever ∧ point ≠ .expired ∧ point ≠ .giveUpLock ∧
        point ≠ .giveUp ∧ point ≠ .giveUpUnlock
  | _ => True

section Local

variable {T : Type u} [DecidableEq T] {task : T} {lock : WritePrefMrswLock T}
  {effect : LockEffect T} {event : Event} {point : Point}

theorem Point.Patient.wake {point : Point} (patient : point.Patient) : point.wake.Patient := by
  unfold Point.wake
  split
  · exact ⟨patient.1, by simp⟩
  · exact ⟨patient.1, by simp⟩
  · exact patient

/-- A call that waits forever never comes to give up. -/
theorem Point.Patient.own (patient : point.Patient)
    (forever : ∀ role timeout, event = .call (.get role timeout) →
      timeout = rtosOsalPortWaitForever)
    (step : taskStep task event lock point = some effect) : effect.own.Patient := by
  cases event with
  | call call =>
      obtain ⟨held, last, rfl, proper, rfl⟩ := entry_eq_of_call_step step
      rcases call with ⟨role, timeout⟩ | role
      · have unbounded := forever role timeout rfl
        cases role <;> exact ⟨unbounded, by simp⟩
      · cases role <;> trivial
  | expire =>
      obtain ⟨_, _, bounded, _, ⟨rfl, _⟩ | ⟨rfl, _⟩⟩ := cases_of_expire_step step
      · exact absurd patient.1 bounded
      · exact absurd patient.1 bounded
  | run =>
      have waits : ¬ rtosOsalPortWaitForever = rtosOsalPortNoWait := by decide
      rcases point with _ | ⟨timeout, point⟩ | point | ⟨timeout, point⟩ | point
      case idle => cases step
      case readerGet =>
        obtain ⟨rfl, notExpired, notLock, notGiveUp, notUnlock⟩ := patient
        cases point <;>
          simp only [taskStep, mrswLockReaderGet, EventFlag.getBits, waits, if_false,
            Option.map_eq_some_iff, reduceCtorEq, ne_eq, not_true_eq_false] at *
        all_goals first
          | (cases step; trivial)
          | (obtain ⟨_, _, rfl⟩ := step; exact ⟨rfl, by simp⟩)
          | (split at step <;> cases step <;> exact ⟨rfl, by simp⟩)
      case writerGet =>
        obtain ⟨rfl, notExpired, notLock, notGiveUp, notUnlock⟩ := patient
        cases point <;>
          simp only [taskStep, mrswLockWriterGet, EventFlag.getBits, waits, if_false,
            Option.map_eq_some_iff, reduceCtorEq, ne_eq, not_true_eq_false] at *
        all_goals first
          | (cases step; trivial)
          | (obtain ⟨_, _, rfl⟩ := step; exact ⟨rfl, by simp⟩)
          | (split at step <;> cases step <;> exact ⟨rfl, by simp⟩)
      all_goals
        cases point <;>
          simp only [taskStep, mrswLockReaderPut, mrswLockWriterPut,
            Option.map_eq_some_iff] at step
      all_goals first
        | (cases step; trivial)
        | (obtain ⟨_, _, rfl⟩ := step; trivial)
        | (split at step <;> cases step <;> trivial)

omit [DecidableEq T] in
/-- A busy lock stays busy, unless the step releases it and so owes a wake-up. -/
theorem CounterStep.busy {after : WritePrefMrswLock T} {own : Point}
    (kind : CounterStep lock after point own) (patient : point.Patient)
    (counted : own.holds .reader = true → after.numReadersActive ≠ 0) (busy : lock.Busy) :
    after.Busy ∨ own.owesWakeUp after = true := by
  cases kind with
  | quiet same =>
      left
      rw [WritePrefMrswLock.Busy, same.readers, same.active]
      exact busy
  | readerGrant => exact .inl (.inl (UInt32.pos_iff_ne_zero.mpr (counted rfl)))
  | readerRelease lastReader changed =>
      rcases lastReader with ⟨_, rfl⟩ | ⟨others, rfl⟩
      · exact .inr rfl
      · refine .inl (.inl ?_)
        rw [changed]
        exact UInt32.pos_iff_ne_zero.mpr others
  | readerGiveUp => exact absurd rfl patient.2.2.2.1
  | writerRegister _ changed =>
      rw [changed]
      exact .inl busy
  | writerGrant _ changed | writerTake changed =>
      rw [changed]
      exact .inl (.inr (by decide : (1 : UInt32) ≠ 0))
  | writerGiveUp => exact absurd rfl patient.2.2.2.1
  | writerRelease => exact .inr rfl

omit [DecidableEq T] in
/-- A task that owes a wake-up still owes it after a step of another task,
unless the lock is busy then. -/
theorem CounterStep.owes_other {after : WritePrefMrswLock T} {own other : Point}
    (kind : CounterStep lock after point own) (patient : point.Patient)
    (owes : other.owesWakeUp lock = true) : after.Busy ∨ other.owesWakeUp after = true := by
  have sameWaiting (same : after.numWritersWaiting = lock.numWritersWaiting) :
      other.owesWakeUp after = true := by
    unfold Point.owesWakeUp at owes ⊢
    rw [same]
    exact owes
  cases kind with
  | quiet same => exact .inr (sameWaiting same.waiting)
  | readerGrant _ changed | readerRelease _ changed | readerGiveUp changed
  | writerGrant _ changed | writerRelease changed =>
      exact .inr (sameWaiting (by rw [changed]))
  | writerRegister busy changed =>
      rw [changed]
      exact .inl busy
  | writerTake changed =>
      rw [changed]
      exact .inl (.inr (by decide : (1 : UInt32) ≠ 0))
  | writerGiveUp => exact absurd rfl patient.2.2.2.1

/-- The stepping task pays the wake-up it owes or goes on owing it, or the lock
is busy after its step. -/
theorem owes_own (step : taskStep task event lock point = some effect)
    (counted : effect.own.holds .reader = true → effect.shared.numReadersActive ≠ 0)
    (owes : point.owesWakeUp lock = true) :
    effect.others = Point.wake ∨ effect.shared.Busy ∨
      effect.own.owesWakeUp effect.shared = true := by
  cases event with
  | call call =>
      cases point with
      | idle => cases owes
      | readerGet | readerPut | writerGet | writerPut => cases step
  | expire =>
      obtain ⟨_, _, _, _, ⟨rfl, _⟩ | ⟨rfl, _⟩⟩ := cases_of_expire_step step
      · cases owes
      · cases owes
  | run =>
      unfold Point.owesWakeUp at owes
      split at owes
      case h_1 | h_2 =>
        cases step
        exact .inl rfl
      case h_3 | h_5 =>
        obtain ⟨_, _, rfl⟩ := Option.map_eq_some_iff.mp step
        exact .inr (.inr rfl)
      case h_4 =>
        simp only [taskStep, mrswLockWriterGet] at step
        split at step
        · rename_i busy
          cases step
          exact .inr (.inl busy)
        · cases step
          exact .inr (.inl (.inr (by decide : (1 : UInt32) ≠ 0)))
      case h_6 =>
        cases step
        exact .inr (.inl (.inr (by decide : (1 : UInt32) ≠ 0)))
      case h_7 =>
        obtain ⟨_, _, rfl⟩ := Option.map_eq_some_iff.mp step
        exact .inr (.inr owes)
      case h_8 =>
        simp only [taskStep, mrswLockReaderGet] at step
        split at step
        · cases step
          exact .inr (.inl (.inl (UInt32.pos_iff_ne_zero.mpr (counted rfl))))
        · -- The reader is refused although no writer is registered.
          rename_i refused
          cases step
          exact .inr (.inl (.inr fun inactive => refused ⟨inactive, of_decide_eq_true owes⟩))
      case h_9 => cases owes

/-- A task is blocked after its step only if it found the flag clear; such a
step wakes nobody. -/
theorem blocked_own (step : taskStep task event lock point = some effect)
    (blocked : effect.own.blocked = true) :
    event = .run ∧ point.waits = true ∧ lock.cond.isSet = false ∧ effect.others = id := by
  cases event with
  | call call =>
      obtain ⟨held, last, rfl, proper, rfl⟩ := entry_eq_of_call_step step
      rcases call with ⟨_ | _, timeout⟩ | ⟨_ | _⟩ <;> cases blocked
  | expire =>
      obtain ⟨_, _, _, rfl, ⟨_, rfl⟩ | ⟨_, rfl⟩⟩ := cases_of_expire_step step
      · cases blocked
      · cases blocked
  | run =>
      refine ⟨rfl, ?_⟩
      rcases point with _ | ⟨timeout, point⟩ | point | ⟨timeout, point⟩ | point
      case idle => cases step
      all_goals
        cases point <;>
          simp only [taskStep, mrswLockReaderGet, mrswLockReaderPut, mrswLockWriterGet,
            mrswLockWriterPut, EventFlag.getBits, EventFlag.afterExpiry,
            Option.map_eq_some_iff, reduceCtorEq] at step
      case readerGet.wait | writerGet.wait =>
        split at step
        · cases step
          cases blocked
        · rename_i unset
          split at step <;> cases step <;> exact ⟨rfl, by simpa using unset, rfl⟩
      all_goals first
        | (cases step; cases blocked)
        | (obtain ⟨_, _, rfl⟩ := step; cases blocked)
        | (split at step <;> cases step <;> cases blocked)

omit [DecidableEq T] in
theorem Point.blocked_wake (point : Point) : point.wake.blocked = false := by
  rcases point with _ | ⟨_, point⟩ | _ | ⟨_, point⟩ | _
  case readerGet => cases point <;> rfl
  case writerGet => cases point <;> rfl
  all_goals rfl

end Local

section Global

variable {T : Type u} [TaskSet T]

/-- Every get is called with `RTOS_OSAL_WAIT_FOREVER`. -/
def WaitsForever (_ : State T) : Label T → Prop
  | .task _ (.call (.get _ timeout)) => timeout = rtosOsalPortWaitForever
  | _ => True

instance (state : State T) : (label : Label T) → Decidable (WaitsForever state label)
  | .task _ (.call (.get _ timeout)) => decEq timeout rtosOsalPortWaitForever
  | .task _ (.call (.put _)) => .isTrue trivial
  | .task _ .run => .isTrue trivial
  | .task _ .expire => .isTrue trivial
  | .system event => event.elim

/-- Somebody holds the lock, by its counters, or owes a wake-up. -/
def WakeUpOwed (state : State T) : Prop :=
  state.shared.Busy ∨ ∃ task, (state.task task).owesWakeUp state.shared = true

/-- A task that starts to wait in this step does so while a wake-up is owed. -/
def BlocksInTime (state : State T) (label : Label T) : Prop :=
  ∀ task, label = .task task .run → (state.task task).waits = true →
    state.shared.cond.isSet = false → WakeUpOwed state

instance (state : State T) (label : Label T) : Decidable (BlocksInTime state label) :=
  have : Decidable (WakeUpOwed state) := inferInstanceAs (Decidable (_ ∨ _))
  inferInstanceAs (Decidable (∀ _ : T, _ → _ → _ → _))

/-- Nobody holds the lock and no task is between two steps of a get or put, but
a task is blocked on the event group and the flag is clear. -/
structure LostWakeUp (state : State T) : Prop where
  unheld : ∀ task role, (state.task task).holds role = false
  settled : ∀ task, (state.task task).isIdle = true ∨ (state.task task).blocked = true
  waiting : ∃ task, (state.task task).blocked = true
  flagClear : state.shared.cond.isSet = false

/-- What the absence of lost wake-ups rests on. -/
structure WakeUpInv (state : State T) : Prop where
  patient : ∀ task, (state.task task).Patient
  readers : state.shared.numReadersActive = UInt32.ofNat (holders .reader state)
  active : state.shared.writerActive ≠ 0 → 0 < holders .writer state
  owed : (∃ task, (state.task task).blocked = true) → WakeUpOwed state

theorem wakeUpInv_start : WakeUpInv (start : State T) where
  patient := fun _ => trivial
  readers := by rw [holders, tally_eq_zero_iff.mpr] <;> intros <;> rfl
  active := fun active => absurd rfl active
  owed := by
    rintro ⟨task, blocked⟩
    cases blocked

/-- `writer_active` is set only while some writer holds the lock. -/
theorem writerActive_held {state : State T} {task : T} {event : Event} {effect : LockEffect T}
    (step : taskStep task event state.shared (state.task task) = some effect)
    (held : state.shared.writerActive ≠ 0 → 0 < holders .writer state)
    (active : effect.shared.writerActive ≠ 0) :
    0 < holders .writer (state.apply task effect) := by
  have moved := holders_apply .writer state task (taskStep_others step)
  have kind := taskStep_counters step
  generalize state.task task = point at kind moved
  generalize effect.own = own at kind moved
  cases kind with
  | quiet same sameHeld =>
      rw [sameHeld] at moved
      rw [same.active] at active
      have := held active
      omega
  | readerRelease lastReader changed =>
      have unheld : own.holds .writer = false := by
        rcases lastReader with ⟨_, rfl⟩ | ⟨_, rfl⟩ <;> rfl
      rw [unheld] at moved
      simp only [Point.holds, Bool.toNat_false] at moved
      rw [changed] at active
      have := held active
      omega
  | readerGrant _ changed | readerGiveUp changed | writerRegister _ changed
  | writerGiveUp changed =>
      simp only [Point.holds, Bool.toNat_false] at moved
      rw [changed] at active
      have := held active
      omega
  | writerGrant | writerTake =>
      simp only [Point.holds, Bool.toNat_false, Bool.toNat_true] at moved
      omega
  | writerRelease changed =>
      rw [changed] at active
      exact absurd rfl active

/-- A wake-up that is owed stays owed until it is paid, which leaves nobody
blocked. -/
theorem WakeUpInv.owed_apply {state : State T} {task : T} {event : Event} {effect : LockEffect T}
    (inv : WakeUpInv state)
    (step : taskStep task event state.shared (state.task task) = some effect)
    (counted : effect.own.holds .reader = true → effect.shared.numReadersActive ≠ 0)
    (owed : WakeUpOwed state) (quiet : effect.others = id) :
    WakeUpOwed (state.apply task effect) := by
  have kind := taskStep_counters step
  have own : effect.shared.Busy ∨ effect.own.owesWakeUp effect.shared = true →
      WakeUpOwed (state.apply task effect) := by
    rintro (busy | owes)
    · exact .inl busy
    · exact .inr ⟨task, by rw [Tasks.apply_task_self]; exact owes⟩
  rcases owed with busy | ⟨other, owes⟩
  · exact own (kind.busy (inv.patient task) counted busy)
  · by_cases same : other = task
    · subst same
      rcases owes_own step counted owes with wakes | rest
      · -- The flag is set in this step; its wake-up function is not the identity.
        rw [quiet] at wakes
        have := congrFun wakes (.readerGet ⟨0⟩ .blocked)
        cases this
      · exact own rest
    · rcases kind.owes_other (inv.patient task) owes with busy | owes
      · exact .inl busy
      · refine .inr ⟨other, ?_⟩
        rw [Tasks.apply_task_of_ne state same, quiet]
        exact owes

theorem WakeUpInv.next {source target : State T} {label : Label T} (inv : WakeUpInv source)
    (forever : WaitsForever source label) (inTime : BlocksInTime source label)
    (step : next source label = some target) : WakeUpInv target := by
  obtain ⟨task, event, effect, rfl, local_, rfl⟩ := next_eq_some_iff.mp step
  have unbounded : ∀ role timeout, event = .call (.get role timeout) →
      timeout = rtosOsalPortWaitForever := by
    rintro role timeout rfl
    exact forever
  have stays : (source.task task).readerGivesUp = false := by
    by_contra decrements
    obtain ⟨timeout, here⟩ := Point.readerGivesUp_iff.mp (by simpa using decrements)
    have patient := inv.patient task
    rw [here] at patient
    exact patient.2.2.2.1 rfl
  have readers := readers_counted local_ stays inv.readers
  have counted : effect.own.holds .reader = true → effect.shared.numReadersActive ≠ 0 := by
    intro holds none_
    have positive : 0 < holders .reader (source.apply task effect) :=
      holders_pos task (by rw [Tasks.apply_task_self]; exact holds)
    have bound := holders_lt .reader (source.apply task effect)
    have value := congrArg UInt32.toNat readers
    rw [Tasks.apply_shared, none_, UInt32.toNat_ofNat_of_lt' bound, UInt32.toNat_zero] at value
    omega
  refine ⟨?_, readers, writerActive_held local_ inv.active, ?_⟩
  · refine Tasks.forall_apply (P := fun _ => Point.Patient)
      ((inv.patient task).own unbounded local_) fun other _ => ?_
    rcases taskStep_others local_ with quiet | wakes
    · rw [quiet]
      exact inv.patient other
    · rw [wakes]
      exact (inv.patient other).wake
  · rintro ⟨waiter, blocked⟩
    by_cases same : waiter = task
    · -- The stepping task starts to wait: the guard says a wake-up is owed.
      subst same
      rw [Tasks.apply_task_self] at blocked
      obtain ⟨rfl, waits, unset, quiet⟩ := blocked_own local_ blocked
      exact inv.owed_apply local_ counted (inTime waiter rfl waits unset) quiet
    · rw [Tasks.apply_task_of_ne source same] at blocked
      rcases taskStep_others local_ with quiet | wakes
      · rw [quiet] at blocked
        exact inv.owed_apply local_ counted (inv.owed ⟨waiter, blocked⟩) quiet
      · rw [wakes, Point.blocked_wake] at blocked
        cases blocked

theorem WakeUpInv.not_lostWakeUp {state : State T} (inv : WakeUpInv state) :
    ¬ LostWakeUp state := by
  rintro ⟨unheld, settled, waiting, _⟩
  have nobody : ∀ role, holders role state = 0 := fun role =>
    tally_eq_zero_iff.mpr fun task => unheld task role
  rcases inv.owed waiting with (readers | active) | ⟨task, owes⟩
  · rw [inv.readers, nobody] at readers
    exact absurd readers (by decide)
  · have := inv.active active
    rw [nobody] at this
    omega
  · unfold Point.owesWakeUp at owes
    rcases settled task with idle | blocked
    · split at owes <;> simp_all [Point.isIdle]
    · split at owes <;> simp_all [Point.blocked]

/-- With `RTOS_OSAL_WAIT_FOREVER` throughout, no state of a run has lost a
wake-up if each task that starts to wait does so while one is owed. -/
theorem not_lostWakeUp_of_blocksInTime {schedule : List (Label T)}
    (forever : StepsMeet next (start : State T) schedule WaitsForever)
    (inTime : StepsMeet next (start : State T) schedule BlocksInTime) :
    StatesSatisfy next (start : State T) schedule fun state => ¬ LostWakeUp state := by
  have both : StepsMeet next (start : State T) schedule fun state label =>
      WaitsForever state label ∧ BlocksInTime state label :=
    fun _ _ isPrefix _ _ executed step =>
      ⟨forever isPrefix executed step, inTime isPrefix executed step⟩
  exact both.statesSatisfy wakeUpInv_start
    (fun _ _ _ inv conditions step => inv.next conditions.1 conditions.2 step)
    fun _ inv => inv.not_lostWakeUp

/-- Task 0 takes the lock as writer, task 1 waits for it as reader, task 0 puts
it and task 1 is granted it. -/
def readerWaits : List (Label (Fin 2)) :=
  moves <|
    (0, .call (.get .writer rtosOsalPortWaitForever)) :: List.replicate 3 (0, .run) ++
    (1, .call (.get .reader rtosOsalPortWaitForever)) :: List.replicate 4 (1, .run) ++
    (0, .call (.put .writer)) :: List.replicate 4 (0, .run) ++ List.replicate 3 (1, .run)

theorem readerWaits_not_lostWakeUp :
    (run next start readerWaits).isSome = true ∧
      StatesSatisfy next start readerWaits fun state => ¬ LostWakeUp state :=
  ⟨by decide, not_lostWakeUp_of_blocksInTime (by decide) (by decide)⟩

/-- Task 0 holds the lock as writer and task 1 waits for it as reader.  Task 2
registers as writer, but before it waits task 0 puts the lock: the wake-up goes
to task 1, which is refused because a writer is registered and waits again. -/
def readerTakesWakeUp : List (Label (Fin 3)) :=
  moves <|
    (0, .call (.get .writer rtosOsalPortWaitForever)) :: List.replicate 3 (0, .run) ++
    (1, .call (.get .reader rtosOsalPortWaitForever)) :: List.replicate 4 (1, .run) ++
    (2, .call (.get .writer rtosOsalPortWaitForever)) :: List.replicate 3 (2, .run) ++
    (0, .call (.put .writer)) :: List.replicate 4 (0, .run) ++
    (2, .run) :: List.replicate 4 (1, .run)

/-- The lock is free, a reader and a writer wait for it, and nobody will ever
set the flag. -/
theorem readerTakesWakeUp_lostWakeUp :
    ¬ ∀ schedule : List (Label (Fin 3)), StepsMeet next start schedule WaitsForever →
      StatesSatisfy next start schedule fun state => ¬ LostWakeUp state := by
  intro never
  have final : (run next start readerTakesWakeUp).map (fun state => decide
      ((∀ task : Fin 3, ∀ role : Role, (state.task task).holds role = false) ∧
        (∀ task : Fin 3, (state.task task).isIdle = true ∨ (state.task task).blocked = true) ∧
        (∃ task : Fin 3, (state.task task).blocked = true) ∧
        state.shared.cond.isSet = false)) = some true := by decide
  obtain ⟨state, executed, holds⟩ := Option.map_eq_some_iff.mp final
  obtain ⟨unheld, settled, waiting, flagClear⟩ := of_decide_eq_true holds
  exact never readerTakesWakeUp (by decide) (List.prefix_refl _) executed
    ⟨unheld, settled, waiting, flagClear⟩

end Global

end FwkRtos.MrswLock.WriterPreferred

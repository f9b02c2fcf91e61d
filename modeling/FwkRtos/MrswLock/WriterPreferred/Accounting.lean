import FwkRtos.MrswLock.WriterPreferred

/-!
# Accounting of the writer-preferred lock

The counters of the lock are compared with the program points of the tasks.
Every step is one of nine kinds, by what it does to the counters; all results
about the lock are derived from this classification.  The counters and the
returned statuses are right in a run exactly when no call in it gives up.
-/

namespace FwkRtos.MrswLock.WriterPreferred

open FwkRtos.Osal
open FwkRtos.Transition

universe u

/-- The task holds the lock in this role: from the critical section that grants
it to the one that releases it. -/
def Point.holds : Role → Point → Bool
  | .reader, .idle (some .reader) _ => true
  | .reader, .readerGet _ .grantedUnlock => true
  | .reader, .readerPut .lock => true
  | .reader, .readerPut .release => true
  | .writer, .idle (some .writer) _ => true
  | .writer, .writerGet _ .grantedUnlock => true
  | .writer, .writerGet _ .takeUnlock => true
  | .writer, .writerPut .lock => true
  | .writer, .writerPut .release => true
  | _, _ => false

/-- The task is inside `writer_get`, has registered itself, and is neither
granted the lock nor has it given up. -/
def Point.registered : Point → Bool
  | .writerGet _ .unlock => true
  | .writerGet _ .wait => true
  | .writerGet _ .blocked => true
  | .writerGet _ .expired => true
  | .writerGet _ .takeLock => true
  | .writerGet _ .take => true
  | .writerGet _ .giveUpLock => true
  | .writerGet _ .giveUp => true
  | _ => false

@[simp]
theorem Point.holds_wake (role : Role) (point : Point) :
    point.wake.holds role = point.holds role := by
  rcases point with _ | ⟨_, point⟩ | _ | ⟨_, point⟩ | _
  case readerGet => cases point <;> cases role <;> rfl
  case writerGet => cases point <;> cases role <;> rfl
  all_goals rfl

@[simp]
theorem Point.registered_wake (point : Point) : point.wake.registered = point.registered := by
  rcases point with _ | ⟨_, point⟩ | _ | ⟨_, point⟩ | _
  case readerGet => cases point <;> rfl
  case writerGet => cases point <;> rfl
  all_goals rfl

/-! ## What a step does to the counters -/

variable {T : Type u}

/-- The three counters are the same in both locks. -/
structure SameCounters (lock after : WritePrefMrswLock T) : Prop where
  readers : after.numReadersActive = lock.numReadersActive
  waiting : after.numWritersWaiting = lock.numWritersWaiting
  active : after.writerActive = lock.writerActive

/-- The nine kinds of steps, by the counters they change. -/
inductive CounterStep (lock after : WritePrefMrswLock T) : Point → Point → Prop
  | quiet {point own : Point} (same : SameCounters lock after)
      (held : ∀ role, own.holds role = point.holds role)
      (registered : own.registered = point.registered) : CounterStep lock after point own
  | readerGrant {timeout : Timeout}
      (idle : lock.writerActive = 0 ∧ lock.numWritersWaiting = 0)
      (changed : after = { lock with numReadersActive := lock.numReadersActive + 1 }) :
      CounterStep lock after (.readerGet timeout .check) (.readerGet timeout .grantedUnlock)
  | readerRelease {own : Point}
      (lastReader : lock.numReadersActive - 1 = 0 ∧ own = .readerPut .setBits ∨
        lock.numReadersActive - 1 ≠ 0 ∧ own = .readerPut .unlock)
      (changed : after = { lock with numReadersActive := lock.numReadersActive - 1 }) :
      CounterStep lock after (.readerPut .release) own
  | readerGiveUp {timeout : Timeout}
      (changed : after = { lock with numReadersActive := lock.numReadersActive - 1 }) :
      CounterStep lock after (.readerGet timeout .giveUp) (.readerGet timeout .giveUpUnlock)
  | writerRegister {timeout : Timeout} (busy : lock.Busy)
      (changed : after = { lock with numWritersWaiting := lock.numWritersWaiting + 1 }) :
      CounterStep lock after (.writerGet timeout .check) (.writerGet timeout .unlock)
  | writerGrant {timeout : Timeout} (free : ¬ lock.Busy)
      (changed : after = { lock with writerActive := 1 }) :
      CounterStep lock after (.writerGet timeout .check) (.writerGet timeout .grantedUnlock)
  | writerTake {timeout : Timeout}
      (changed : after = { lock with
        numWritersWaiting := lock.numWritersWaiting - 1
        writerActive := 1 }) :
      CounterStep lock after (.writerGet timeout .take) (.writerGet timeout .takeUnlock)
  | writerGiveUp {timeout : Timeout}
      (changed : after = { lock with numWritersWaiting := lock.numWritersWaiting - 1 }) :
      CounterStep lock after (.writerGet timeout .giveUp) (.writerGet timeout .giveUpUnlock)
  | writerRelease
      (changed : after = { lock with writerActive := 0 }) :
      CounterStep lock after (.writerPut .release) (.writerPut .setBits)

section Local

variable {task : T} {lock : WritePrefMrswLock T} {timeout : Timeout} {effect : LockEffect T}

theorem mrswLockReaderGet_counters {point : ReaderGetPoint}
    (step : mrswLockReaderGet task lock timeout point = some effect) :
    CounterStep lock effect.shared (.readerGet timeout point) effect.own := by
  cases point with
  | check =>
      simp only [mrswLockReaderGet] at step
      split at step
      · rename_i idle
        cases step
        exact .readerGrant idle rfl
      · cases step
        exact .quiet ⟨rfl, rfl, rfl⟩ (fun role => by cases role <;> rfl) rfl
  | giveUp =>
      cases step
      exact .readerGiveUp rfl
  | wait =>
      simp only [mrswLockReaderGet, EventFlag.getBits] at step
      split at step <;> [skip; split at step] <;> cases step <;>
        exact .quiet ⟨rfl, rfl, rfl⟩ (fun role => by cases role <;> rfl) rfl
  | expired =>
      simp only [mrswLockReaderGet, EventFlag.afterExpiry] at step
      split at step <;> cases step <;>
        exact .quiet ⟨rfl, rfl, rfl⟩ (fun role => by cases role <;> rfl) rfl
  | lock | giveUpLock =>
      obtain ⟨mutex, _, rfl⟩ := Option.map_eq_some_iff.mp step
      exact .quiet ⟨rfl, rfl, rfl⟩ (fun role => by cases role <;> rfl) rfl
  | blocked => cases step
  | grantedUnlock | unlock | giveUpUnlock =>
      cases step
      exact .quiet ⟨rfl, rfl, rfl⟩ (fun role => by cases role <;> rfl) rfl

theorem mrswLockReaderPut_counters {point : ReaderPutPoint}
    (step : mrswLockReaderPut task lock point = some effect) :
    CounterStep lock effect.shared (.readerPut point) effect.own := by
  cases point with
  | release =>
      simp only [mrswLockReaderPut] at step
      split at step
      · rename_i last
        cases step
        exact .readerRelease (.inl ⟨last, rfl⟩) rfl
      · rename_i others
        cases step
        exact .readerRelease (.inr ⟨others, rfl⟩) rfl
  | lock =>
      obtain ⟨mutex, _, rfl⟩ := Option.map_eq_some_iff.mp step
      exact .quiet ⟨rfl, rfl, rfl⟩ (fun role => by cases role <;> rfl) rfl
  | setBits | unlock =>
      cases step
      exact .quiet ⟨rfl, rfl, rfl⟩ (fun role => by cases role <;> rfl) rfl

theorem mrswLockWriterGet_counters {point : WriterGetPoint}
    (step : mrswLockWriterGet task lock timeout point = some effect) :
    CounterStep lock effect.shared (.writerGet timeout point) effect.own := by
  cases point with
  | check =>
      simp only [mrswLockWriterGet] at step
      split at step
      · rename_i busy
        cases step
        exact .writerRegister busy rfl
      · rename_i free
        cases step
        exact .writerGrant free (by simp)
  | take =>
      cases step
      exact .writerTake rfl
  | giveUp =>
      cases step
      exact .writerGiveUp rfl
  | wait =>
      simp only [mrswLockWriterGet, EventFlag.getBits] at step
      split at step <;> [skip; split at step] <;> cases step <;>
        exact .quiet ⟨rfl, rfl, rfl⟩ (fun role => by cases role <;> rfl) rfl
  | expired =>
      simp only [mrswLockWriterGet, EventFlag.afterExpiry] at step
      split at step <;> cases step <;>
        exact .quiet ⟨rfl, rfl, rfl⟩ (fun role => by cases role <;> rfl) rfl
  | lock | takeLock | giveUpLock =>
      obtain ⟨mutex, _, rfl⟩ := Option.map_eq_some_iff.mp step
      exact .quiet ⟨rfl, rfl, rfl⟩ (fun role => by cases role <;> rfl) rfl
  | blocked => cases step
  | grantedUnlock | unlock | takeUnlock | giveUpUnlock =>
      cases step
      exact .quiet ⟨rfl, rfl, rfl⟩ (fun role => by cases role <;> rfl) rfl

theorem mrswLockWriterPut_counters {point : WriterPutPoint}
    (step : mrswLockWriterPut task lock point = some effect) :
    CounterStep lock effect.shared (.writerPut point) effect.own := by
  cases point with
  | release =>
      cases step
      exact .writerRelease rfl
  | lock =>
      obtain ⟨mutex, _, rfl⟩ := Option.map_eq_some_iff.mp step
      exact .quiet ⟨rfl, rfl, rfl⟩ (fun role => by cases role <;> rfl) rfl
  | setBits | unlock =>
      cases step
      exact .quiet ⟨rfl, rfl, rfl⟩ (fun role => by cases role <;> rfl) rfl

/-- Every step of a task is of one of the nine kinds. -/
theorem taskStep_counters [DecidableEq T] {event : Event} {point : Point}
    (step : taskStep task event lock point = some effect) :
    CounterStep lock effect.shared point effect.own := by
  cases event with
  | call call =>
      obtain ⟨held, last, rfl, proper, rfl⟩ := entry_eq_of_call_step step
      rcases call with ⟨_ | _, timeout⟩ | ⟨_ | _⟩ <;> cases proper <;>
        exact .quiet ⟨rfl, rfl, rfl⟩ (fun role => by cases role <;> rfl) rfl
  | expire =>
      obtain ⟨_, _, _, rfl, ⟨rfl, rfl⟩ | ⟨rfl, rfl⟩⟩ := cases_of_expire_step step
      · exact .quiet ⟨rfl, rfl, rfl⟩ (fun role => by cases role <;> rfl) rfl
      · exact .quiet ⟨rfl, rfl, rfl⟩ (fun role => by cases role <;> rfl) rfl
  | run =>
      cases point with
      | idle held last => cases step
      | readerGet timeout point => exact mrswLockReaderGet_counters step
      | readerPut point => exact mrswLockReaderPut_counters step
      | writerGet timeout point => exact mrswLockWriterGet_counters step
      | writerPut point => exact mrswLockWriterPut_counters step

/-- A task that is inside a call and does not wait can only run on. -/
theorem event_eq_run [DecidableEq T] {event : Event} {point : Point}
    (step : taskStep task event lock point = some effect)
    (inCall : ∀ held last, point ≠ .idle held last) (runs : point.expire = none) :
    event = .run := by
  cases event with
  | run => rfl
  | call call =>
      obtain ⟨held, last, rfl, _⟩ := entry_eq_of_call_step step
      exact absurd rfl (inCall held last)
  | expire => simp [taskStep, runs] at step

/-- A step leaves the other tasks alone or wakes all that wait. -/
theorem taskStep_others [DecidableEq T] {event : Event} {point : Point}
    (step : taskStep task event lock point = some effect) :
    effect.others = id ∨ effect.others = Point.wake := by
  cases event with
  | call call =>
      obtain ⟨_, _, _, _, rfl⟩ := entry_eq_of_call_step step
      exact .inl rfl
  | expire =>
      obtain ⟨_, _, rfl⟩ := Option.map_eq_some_iff.mp step
      exact .inl rfl
  | run =>
      rcases point with _ | ⟨_, point⟩ | point | ⟨_, point⟩ | point
      case idle => cases step
      all_goals
        cases point <;>
          simp only [taskStep, mrswLockReaderGet, mrswLockReaderPut, mrswLockWriterGet,
            mrswLockWriterPut, Option.map_eq_some_iff, reduceCtorEq] at step
      all_goals first
        | (cases step; first | exact .inl rfl | exact .inr rfl)
        | (obtain ⟨_, _, rfl⟩ := step; exact .inl rfl)
        | (split at step <;> cases step <;> exact .inl rfl)

end Local

section Global

variable [TaskSet T]

/-- A step of the interleaving is a step of one task. -/
theorem next_eq_some_iff {source target : State T} {label : Label T} :
    next source label = some target ↔
      ∃ task event effect, label = .task task event ∧
        taskStep task event source.shared (source.task task) = some effect ∧
        source.apply task effect = target := by
  cases label with
  | task task event =>
      rw [next, interleave_task_eq_some_iff]
      constructor
      · rintro ⟨effect, step, rfl⟩
        exact ⟨task, event, effect, rfl, step, rfl⟩
      · rintro ⟨_, _, effect, same, step, rfl⟩
        cases same
        exact ⟨effect, step, rfl⟩
  | system event => exact event.elim

/-- The number of tasks that hold the lock in this role. -/
def holders (role : Role) (state : State T) : Nat :=
  tally (Point.holds role) state.task

/-- The number of registered writers. -/
def registered (state : State T) : Nat :=
  tally Point.registered state.task

theorem holders_lt (role : Role) (state : State T) : holders role state < 2 ^ 32 :=
  (tally_le_card _ _).trans_lt (TaskSet.card_lt T)

theorem registered_lt (state : State T) : registered state < 2 ^ 32 :=
  (tally_le_card _ _).trans_lt (TaskSet.card_lt T)

theorem holders_pos {role : Role} {state : State T} (task : T)
    (holds : (state.task task).holds role = true) : 0 < holders role state :=
  tally_pos holds

omit [TaskSet T] in
theorem unseen_of_others {effect : LockEffect T} {test : Point → Bool}
    (unseen : ∀ point : Point, test point.wake = test point)
    (others : effect.others = id ∨ effect.others = Point.wake) (point : Point) :
    test (effect.others point) = test point := by
  rcases others with equal | equal <;> rw [equal]
  · rfl
  · exact unseen point

/-- A step changes the number of holders by the stepping task alone. -/
theorem holders_apply (role : Role) (state : State T) (task : T) {effect : LockEffect T}
    (others : effect.others = id ∨ effect.others = Point.wake) :
    holders role (state.apply task effect) + ((state.task task).holds role).toNat =
      holders role state + (effect.own.holds role).toNat :=
  tally_apply state task (unseen_of_others (Point.holds_wake role) others)

theorem registered_apply (state : State T) (task : T) {effect : LockEffect T}
    (others : effect.others = id ∨ effect.others = Point.wake) :
    registered (state.apply task effect) + (state.task task).registered.toNat =
      registered state + effect.own.registered.toNat :=
  tally_apply state task (unseen_of_others Point.registered_wake others)

/-! ## The two counted numbers -/

/-- The task is about to decrement `num_readers_active` without having been
granted the lock. -/
def Point.readerGivesUp : Point → Bool
  | .readerGet _ .giveUp => true
  | _ => false

omit [TaskSet T] in
theorem Point.readerGivesUp_iff {point : Point} :
    point.readerGivesUp = true ↔ ∃ timeout, point = .readerGet timeout .giveUp := by
  unfold Point.readerGivesUp
  split <;> simp_all

theorem readers_counted {state : State T} {task : T} {event : Event} {effect : LockEffect T}
    (step : taskStep task event state.shared (state.task task) = some effect)
    (granted : (state.task task).readerGivesUp = false)
    (counted : state.shared.numReadersActive = UInt32.ofNat (holders .reader state)) :
    (state.apply task effect).shared.numReadersActive =
      UInt32.ofNat (holders .reader (state.apply task effect)) := by
  have moved := holders_apply .reader state task (taskStep_others step)
  have kind := taskStep_counters step
  rw [Tasks.apply_shared]
  generalize state.task task = point at kind moved granted
  generalize effect.own = own at kind moved
  cases kind with
  | quiet same held =>
      rw [held] at moved
      rw [same.readers, counted]
      congr 1
      omega
  | readerGrant _ changed =>
      simp only [Point.holds, Bool.toNat_false, Bool.toNat_true] at moved
      rw [changed, ← Nat.add_zero (holders .reader (state.apply task effect)), moved,
        UInt32.ofNat_add, counted]
      rfl
  | readerRelease lastReader changed =>
      have unheld : own.holds .reader = false := by
        rcases lastReader with ⟨_, own⟩ | ⟨_, own⟩ <;> rw [own] <;> rfl
      rw [unheld] at moved
      simp only [Point.holds, Bool.toNat_false, Bool.toNat_true] at moved
      rw [changed]
      change state.shared.numReadersActive - 1 = _
      rw [counted, ← Nat.add_zero (holders .reader state), ← moved, UInt32.ofNat_add]
      exact UInt32.add_sub_cancel _ _
  | readerGiveUp => cases granted
  | writerRegister _ changed | writerGrant _ changed | writerTake changed
  | writerGiveUp changed | writerRelease changed =>
      simp only [Point.holds, Bool.toNat_false] at moved
      rw [changed]
      change state.shared.numReadersActive = _
      rw [counted]
      congr 1
      omega

theorem writers_counted {state : State T} {task : T} {event : Event} {effect : LockEffect T}
    (step : taskStep task event state.shared (state.task task) = some effect)
    (counted : state.shared.numWritersWaiting = UInt32.ofNat (registered state)) :
    (state.apply task effect).shared.numWritersWaiting =
      UInt32.ofNat (registered (state.apply task effect)) := by
  have moved := registered_apply state task (taskStep_others step)
  have kind := taskStep_counters step
  rw [Tasks.apply_shared]
  generalize state.task task = point at kind moved
  generalize effect.own = own at kind moved
  cases kind with
  | quiet same _ sameRegistered =>
      rw [sameRegistered] at moved
      rw [same.waiting, counted]
      congr 1
      omega
  | writerRegister _ changed =>
      simp only [Point.registered, Bool.toNat_false, Bool.toNat_true] at moved
      rw [changed, ← Nat.add_zero (registered (state.apply task effect)), moved,
        UInt32.ofNat_add, counted]
      rfl
  | writerTake changed | writerGiveUp changed =>
      simp only [Point.registered, Bool.toNat_false, Bool.toNat_true] at moved
      rw [changed]
      change state.shared.numWritersWaiting - 1 = _
      rw [counted, ← Nat.add_zero (registered state), ← moved, UInt32.ofNat_add]
      exact UInt32.add_sub_cancel _ _
  | readerRelease lastReader changed =>
      have unregistered : own.registered = false := by
        rcases lastReader with ⟨_, own⟩ | ⟨_, own⟩ <;> rw [own] <;> rfl
      rw [unregistered] at moved
      simp only [Point.registered, Bool.toNat_false] at moved
      rw [changed]
      change state.shared.numWritersWaiting = _
      rw [counted]
      congr 1
      omega
  | readerGrant _ changed | readerGiveUp changed | writerGrant _ changed
  | writerRelease changed =>
      simp only [Point.registered, Bool.toNat_false] at moved
      rw [changed]
      change state.shared.numWritersWaiting = _
      rw [counted]
      congr 1
      omega

/-! ## Counters and statuses over whole runs -/

/-- Both counters equal the numbers they stand for, and a get returned success
exactly to a caller that was granted the lock, and a timeout to one that was
not. -/
structure Accounted (state : State T) : Prop where
  readers : state.shared.numReadersActive.toNat = holders .reader state
  writers : state.shared.numWritersWaiting.toNat = registered state
  returned : ∀ task held role status, state.task task = .idle held (some (.get role, status)) →
    (status = .success ↔ held = some role) ∧ (held = none → status = .timeout)

/-- The last step of giving up that does not do what giving up should: the
reader's decrement, and the writer's return. -/
def Point.givesUp : Point → Bool
  | .readerGet _ .giveUp => true
  | .writerGet _ .giveUpUnlock => true
  | _ => false

omit [TaskSet T] in
theorem Point.givesUp_iff {point : Point} :
    point.givesUp = true ↔ (∃ timeout, point = .readerGet timeout .giveUp) ∨
      ∃ timeout, point = .writerGet timeout .giveUpUnlock := by
  unfold Point.givesUp
  split <;> simp_all

/-- No call gives up in this step. -/
def NoGiveUp (state : State T) (label : Label T) : Prop :=
  ∀ task, label = .task task .run → (state.task task).givesUp = false

/-- The status a call has returned, or is bound to return, fits its grant. -/
def Point.ReturnsRight : Point → Prop
  | .idle held (some (.get role, status)) => held = some role ∧ status = .success
  | .readerGet _ .giveUpUnlock => False
  | _ => True

omit [TaskSet T] in
theorem returnsRight_others {effect : LockEffect T}
    (others : effect.others = id ∨ effect.others = Point.wake) {point : Point}
    (right : point.ReturnsRight) : (effect.others point).ReturnsRight := by
  rcases others with equal | equal <;> rw [equal]
  · exact right
  · unfold Point.wake
    split
    · trivial
    · trivial
    · exact right

theorem returnsRight_own {task : T} {event : Event} {lock : WritePrefMrswLock T} {point : Point}
    {effect : LockEffect T} (step : taskStep task event lock point = some effect)
    (stays : event = .run → point.givesUp = false) (right : point.ReturnsRight) :
    effect.own.ReturnsRight := by
  cases event with
  | call call =>
      obtain ⟨held, last, rfl, proper, rfl⟩ := entry_eq_of_call_step step
      rcases call with ⟨_ | _, timeout⟩ | ⟨_ | _⟩ <;> trivial
  | expire =>
      obtain ⟨_, _, _, rfl, ⟨rfl, rfl⟩ | ⟨rfl, rfl⟩⟩ := cases_of_expire_step step
      · trivial
      · trivial
  | run =>
      replace stays := stays rfl
      rcases point with _ | ⟨timeout, point⟩ | point | ⟨timeout, point⟩ | point
      case idle => cases step
      all_goals
        cases point <;>
          simp only [taskStep, mrswLockReaderGet, mrswLockReaderPut, mrswLockWriterGet,
            mrswLockWriterPut, EventFlag.getBits, EventFlag.afterExpiry,
            Option.map_eq_some_iff, reduceCtorEq] at step
      -- The two steps of giving up are excluded, the first one by its guard
      -- and the reader's return because no such point is reached.
      case readerGet.giveUp => cases stays
      case readerGet.giveUpUnlock => exact right.elim
      case writerGet.giveUpUnlock => cases stays
      case readerGet.grantedUnlock | writerGet.grantedUnlock | writerGet.takeUnlock =>
        cases step
        exact ⟨rfl, rfl⟩
      all_goals first
        | (cases step; trivial)
        | (obtain ⟨_, _, rfl⟩ := step; trivial)
        | (split at step <;> [skip; split at step] <;> cases step <;> trivial)
        | (split at step <;> cases step <;> trivial)

/-- What the accounting of a whole run rests on. -/
structure AccountingInv (state : State T) : Prop where
  readers : state.shared.numReadersActive = UInt32.ofNat (holders .reader state)
  writers : state.shared.numWritersWaiting = UInt32.ofNat (registered state)
  points : ∀ task, (state.task task).ReturnsRight

theorem accountingInv_start : AccountingInv (start : State T) where
  readers := by rw [holders, tally_eq_zero_iff.mpr] <;> intros <;> rfl
  writers := by rw [registered, tally_eq_zero_iff.mpr] <;> intros <;> rfl
  points := fun _ => trivial

theorem AccountingInv.next {source target : State T} {label : Label T}
    (inv : AccountingInv source) (stays : NoGiveUp source label)
    (step : next source label = some target) : AccountingInv target := by
  obtain ⟨task, event, effect, rfl, local_, rfl⟩ := next_eq_some_iff.mp step
  have granted : event = .run → (source.task task).givesUp = false := by
    rintro rfl
    exact stays task rfl
  have counts : (source.task task).readerGivesUp = false := by
    by_contra decrements
    obtain ⟨timeout, point⟩ := Point.readerGivesUp_iff.mp (by simpa using decrements)
    have isRun := event_eq_run local_ (by simp [point]) (by rw [point]; rfl)
    have stays := granted isRun
    rw [point] at stays
    cases stays
  exact
    { readers := readers_counted local_ counts inv.readers
      writers := writers_counted local_ inv.writers
      points := Tasks.forall_apply (P := fun _ => Point.ReturnsRight)
        (returnsRight_own local_ granted (inv.points task))
        fun other _ => returnsRight_others (taskStep_others local_) (inv.points other) }

theorem AccountingInv.accounted {state : State T} (inv : AccountingInv state) :
    Accounted state where
  readers := by
    rw [inv.readers, UInt32.toNat_ofNat_of_lt' (holders_lt .reader state)]
  writers := by
    rw [inv.writers, UInt32.toNat_ofNat_of_lt' (registered_lt state)]
  returned := by
    intro task held role status point
    have right := inv.points task
    rw [point] at right
    obtain ⟨rfl, rfl⟩ := right
    simp

/-- Each of the two steps of giving up breaks the accounting at once. -/
theorem AccountingInv.not_accounted {source target : State T} {label : Label T}
    (inv : AccountingInv source) (givesUp : ¬ NoGiveUp source label)
    (step : WriterPreferred.next source label = some target) : ¬ Accounted target := by
  intro accounted
  simp only [NoGiveUp, not_forall, Bool.not_eq_false] at givesUp
  obtain ⟨task, rfl, givesUp⟩ := givesUp
  obtain ⟨_, _, effect, same, local_, rfl⟩ := next_eq_some_iff.mp step
  cases same
  rcases Point.givesUp_iff.mp givesUp with ⟨timeout, point⟩ | ⟨timeout, point⟩
  · -- The reader's decrement: the number of readers stays, the counter does not.
    have moved := holders_apply .reader source task (taskStep_others local_)
    have counter := accounted.readers
    rw [point] at local_ moved
    cases local_
    simp only [Point.holds, Bool.toNat_false, Nat.add_zero] at moved
    rw [moved, Tasks.apply_shared] at counter
    change (source.shared.numReadersActive - 1).toNat = _ at counter
    rw [inv.readers] at counter
    have back := congrArg UInt32.ofNat counter
    rw [UInt32.ofNat_toNat] at back
    have : (1 : UInt32) = 0 := by
      calc
        (1 : UInt32) = UInt32.ofNat (holders .reader source) -
            (UInt32.ofNat (holders .reader source) - 1) := by grind
        _ = 0 := by rw [back]; grind
    exact absurd this (by decide)
  · -- The writer's return: success for a caller that was granted nothing.
    have returned := accounted.returned task none .writer .success
    rw [point] at local_
    cases local_
    simp at returned

/-- In every run of any tasks, with any timeouts, the counters of the lock and
the statuses of the gets are right in every state exactly when no call gives
up. -/
theorem accounted_iff_noGiveUp (schedule : List (Label T)) :
    StatesSatisfy next (start : State T) schedule Accounted ↔
      StepsMeet next (start : State T) schedule NoGiveUp :=
  statesSatisfy_iff_stepsMeet accountingInv_start
    (fun _ _ _ inv stays step => inv.next stays step) (fun _ inv => inv.accounted)
    (fun _ _ _ inv givesUp step => inv.not_accounted givesUp step) schedule

/-- Task 0 takes the lock as writer; task 1 asks for it as reader without
waiting, and gives up. -/
def readerTimesOut : List (Label (Fin 2)) :=
  moves <|
    (0, .call (.get .writer rtosOsalPortWaitForever)) :: List.replicate 3 (0, .run) ++
    (1, .call (.get .reader rtosOsalPortNoWait)) :: List.replicate 7 (1, .run)

/-- A reader that times out is told that it has the lock, and the number of
active readers wraps below zero. -/
theorem readerTimesOut_not_accounted :
    ¬ ∀ state : State (Fin 2), Reachable next start state → Accounted state := by
  intro always
  obtain ⟨state, reachable, final⟩ := exists_reachable_of_run next start readerTimesOut
    (fun state => decide (state.shared.numReadersActive = 0xffffffff ∧
      state.task 1 = .idle none (some (.get .reader, .success)))) (by decide)
  obtain ⟨_, point⟩ := of_decide_eq_true final
  simpa using (always state reachable).returned 1 none .reader .success point

end Global

end FwkRtos.MrswLock.WriterPreferred

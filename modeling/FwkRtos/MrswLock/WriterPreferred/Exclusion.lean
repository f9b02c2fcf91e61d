import FwkRtos.MrswLock.WriterPreferred.Accounting

/-!
# Mutual exclusion of the writer-preferred lock

A writer that was woken takes the lock without examining it again.  Among the
runs in which no reader gives up (which would falsify the number of readers),
mutual exclusion holds exactly when every woken writer happens to find the lock
free.
-/

namespace FwkRtos.MrswLock.WriterPreferred

open FwkRtos.Osal
open FwkRtos.Transition

universe u

variable {T : Type u} [TaskSet T]

/-- At most one task holds the lock as writer, and then none as reader. -/
structure MutuallyExclusive (state : State T) : Prop where
  oneWriter : ∀ first second, (state.task first).holds .writer = true →
    (state.task second).holds .writer = true → first = second
  noReader : ∀ writer reader, (state.task writer).holds .writer = true →
    (state.task reader).holds .reader = false

/-- No reader gives up in this step. -/
def NoReaderGivesUp (state : State T) (label : Label T) : Prop :=
  ∀ task, label = .task task .run → (state.task task).readerGivesUp = false

instance (state : State T) (label : Label T) : Decidable (NoReaderGivesUp state label) :=
  inferInstanceAs (Decidable (∀ _ : T, _ → _))

/-- The task is a woken writer about to take the lock. -/
def Point.takes : Point → Bool
  | .writerGet _ .take => true
  | _ => false

omit [TaskSet T] in
theorem Point.takes_iff {point : Point} :
    point.takes = true ↔ ∃ timeout, point = .writerGet timeout .take := by
  unfold Point.takes
  split <;> simp_all

/-- A woken writer that takes the lock in this step finds it free, by the test
that a new writer makes. -/
def TakesWhenFree (state : State T) (label : Label T) : Prop :=
  ∀ task, label = .task task .run → (state.task task).takes = true → ¬ state.shared.Busy

instance (state : State T) (label : Label T) : Decidable (TakesWhenFree state label) :=
  inferInstanceAs (Decidable (∀ _ : T, _ → _))

theorem mutuallyExclusive_iff {state : State T} :
    MutuallyExclusive state ↔ holders .writer state ≤ 1 ∧
      (0 < holders .writer state → holders .reader state = 0) := by
  constructor
  · intro exclusive
    refine ⟨tally_le_one_iff.mpr exclusive.oneWriter, fun written => ?_⟩
    obtain ⟨writer, writes⟩ := tally_pos_iff.mp written
    exact tally_eq_zero_iff.mpr fun reader => exclusive.noReader writer reader writes
  · rintro ⟨one, alone⟩
    exact ⟨tally_le_one_iff.mp one, fun _ reader writes =>
      tally_eq_zero_iff.mp (alone (tally_pos writes)) reader⟩

/-- Exclusion together with what the two state variables mean. -/
structure ExclusionInv (state : State T) : Prop where
  readers : state.shared.numReadersActive = UInt32.ofNat (holders .reader state)
  active : state.shared.writerActive = 0 ↔ holders .writer state = 0
  oneWriter : holders .writer state ≤ 1
  alone : 0 < holders .writer state → holders .reader state = 0

theorem exclusionInv_start : ExclusionInv (start : State T) := by
  have none_ : ∀ role, holders role (start : State T) = 0 := by
    intro role
    apply tally_eq_zero_iff.mpr
    cases role <;> intro <;> rfl
  exact
    { readers := by rw [none_]; rfl
      active := by rw [none_]; simp [start, mrswLockCreate]
      oneWriter := by rw [none_]; omega
      alone := by rw [none_]; omega }

/-- The counters of a lock tell whether anybody holds it. -/
theorem ExclusionInv.busy_iff {state : State T} (inv : ExclusionInv state) :
    state.shared.Busy ↔ 0 < holders .reader state ∨ 0 < holders .writer state := by
  have bound := holders_lt .reader state
  have readers : 0 < state.shared.numReadersActive ↔ 0 < holders .reader state := by
    rw [inv.readers, UInt32.lt_iff_toNat_lt, UInt32.toNat_ofNat_of_lt' bound]
    rfl
  rw [WritePrefMrswLock.Busy, readers, Ne, inv.active, Nat.pos_iff_ne_zero]
  simp [Nat.pos_iff_ne_zero]

theorem ExclusionInv.next {source target : State T} {label : Label T}
    (inv : ExclusionInv source) (granted : NoReaderGivesUp source label)
    (free : TakesWhenFree source label) (step : next source label = some target) :
    ExclusionInv target := by
  have busy_iff := inv.busy_iff
  obtain ⟨task, event, effect, rfl, local_, rfl⟩ := next_eq_some_iff.mp step
  have counts : (source.task task).readerGivesUp = false := by
    by_contra decrements
    obtain ⟨timeout, here⟩ := Point.readerGivesUp_iff.mp (by simpa using decrements)
    obtain rfl := event_eq_run local_ (by simp [here]) (by rw [here]; rfl)
    exact decrements (granted task rfl)
  have readers := readers_counted local_ counts inv.readers
  have readersMoved := holders_apply .reader source task
    (taskStep_others local_)
  have writersMoved := holders_apply .writer source task
    (taskStep_others local_)
  have kind := taskStep_counters local_
  obtain ⟨_, active, oneWriter, alone⟩ := inv
  have takesFree : (source.task task).takes = true → ¬ source.shared.Busy := by
    intro takes
    obtain ⟨timeout, here⟩ := Point.takes_iff.mp takes
    obtain rfl := event_eq_run local_ (by simp [here]) (by rw [here]; rfl)
    exact free task rfl takes
  have set_ne : (1 : UInt32) ≠ 0 := by decide
  suffices rest : (effect.shared.writerActive = 0 ↔
        holders .writer (source.apply task effect) = 0) ∧
      holders .writer (source.apply task effect) ≤ 1 ∧
      (0 < holders .writer (source.apply task effect) →
        holders .reader (source.apply task effect) = 0) from
    ⟨readers, rest.1, rest.2.1, rest.2.2⟩
  generalize source.task task = point at kind readersMoved writersMoved takesFree
  generalize effect.own = own at kind readersMoved writersMoved
  cases kind with
  | quiet same held =>
      rw [held] at readersMoved writersMoved
      rw [same.active, active]
      omega
  | readerGrant idle changed =>
      simp only [Point.holds, Bool.toNat_false, Bool.toNat_true] at readersMoved writersMoved
      have noWriter := active.mp idle.1
      simp only [changed, idle.1, true_iff]
      omega
  | readerRelease lastReader changed =>
      have unheld : ∀ role, own.holds role = false := by
        intro role
        rcases lastReader with ⟨_, rfl⟩ | ⟨_, rfl⟩ <;> cases role <;> rfl
      rw [unheld] at readersMoved writersMoved
      simp only [Point.holds, Bool.toNat_false, Bool.toNat_true] at readersMoved writersMoved
      simp only [changed, active]
      omega
  | readerGiveUp changed =>
      simp only [Point.holds, Bool.toNat_false] at readersMoved writersMoved
      simp only [changed, active]
      omega
  | writerRegister _ changed | writerGiveUp changed =>
      simp only [Point.holds, Bool.toNat_false] at readersMoved writersMoved
      simp only [changed, active]
      omega
  | writerGrant isFree changed =>
      simp only [Point.holds, Bool.toNat_false, Bool.toNat_true] at readersMoved writersMoved
      rw [busy_iff] at isFree
      simp only [changed, set_ne, false_iff]
      omega
  | writerTake changed =>
      simp only [Point.holds, Bool.toNat_false, Bool.toNat_true] at readersMoved writersMoved
      have isFree := takesFree rfl
      rw [busy_iff] at isFree
      simp only [changed, set_ne, false_iff]
      omega
  | writerRelease changed =>
      simp only [Point.holds, Bool.toNat_false, Bool.toNat_true] at readersMoved writersMoved
      simp only [changed, true_iff]
      omega

/-- A writer that takes a lock somebody holds breaks mutual exclusion. -/
theorem ExclusionInv.not_mutuallyExclusive {source target : State T} {label : Label T}
    (inv : ExclusionInv source) (taken : ¬ TakesWhenFree source label)
    (step : WriterPreferred.next source label = some target) : ¬ MutuallyExclusive target := by
  simp only [TakesWhenFree, not_forall, not_not] at taken
  obtain ⟨task, rfl, takes, busy⟩ := taken
  obtain ⟨timeout, point⟩ := Point.takes_iff.mp takes
  obtain ⟨_, _, effect, same, local_, rfl⟩ := next_eq_some_iff.mp step
  cases same
  rw [inv.busy_iff] at busy
  have readersMoved := holders_apply .reader source task
    (taskStep_others local_)
  have writersMoved := holders_apply .writer source task
    (taskStep_others local_)
  rw [point] at local_ readersMoved writersMoved
  cases local_
  simp only [Point.holds, Bool.toNat_false, Bool.toNat_true] at readersMoved writersMoved
  rw [mutuallyExclusive_iff]
  omega

/-- In every run in which no reader gives up, mutual exclusion holds in every
state exactly when each woken writer finds the lock free as it takes it. -/
theorem mutuallyExclusive_iff_takesWhenFree {schedule : List (Label T)}
    (granted : StepsMeet next (start : State T) schedule NoReaderGivesUp) :
    StatesSatisfy next (start : State T) schedule MutuallyExclusive ↔
      StepsMeet next (start : State T) schedule TakesWhenFree :=
  statesSatisfy_iff_stepsMeet_of exclusionInv_start
    (fun _ _ _ inv granted free step => inv.next granted free step)
    (fun _ inv => mutuallyExclusive_iff.mpr ⟨inv.oneWriter, inv.alone⟩)
    (fun _ _ _ inv _ taken step => inv.not_mutuallyExclusive taken step) granted

/-- Task 0 takes the lock as writer, task 1 waits for it as writer, and task 0
puts the lock. -/
def writersInTurn : List (Label (Fin 2)) :=
  moves <|
    (0, .call (.get .writer rtosOsalPortWaitForever)) :: List.replicate 3 (0, .run) ++
    (1, .call (.get .writer rtosOsalPortWaitForever)) :: List.replicate 4 (1, .run) ++
    (0, .call (.put .writer)) :: List.replicate 4 (0, .run) ++ List.replicate 3 (1, .run)

theorem writersInTurn_iff :
    (run next start writersInTurn).isSome = true ∧
      StepsMeet next start writersInTurn NoReaderGivesUp ∧
      (StatesSatisfy next start writersInTurn MutuallyExclusive ↔
        StepsMeet next start writersInTurn TakesWhenFree) :=
  ⟨by decide, by decide, mutuallyExclusive_iff_takesWhenFree (by decide)⟩

/-- Task 0 reads and puts the lock, which leaves the flag set; task 1 takes the
lock as writer; task 0 asks for it as writer and finds the old flag. -/
def staleFlag : List (Label (Fin 2)) :=
  moves <|
    (0, .call (.get .reader rtosOsalPortWaitForever)) :: List.replicate 3 (0, .run) ++
    (0, .call (.put .reader)) :: List.replicate 4 (0, .run) ++
    (1, .call (.get .writer rtosOsalPortWaitForever)) :: List.replicate 3 (1, .run) ++
    (0, .call (.get .writer rtosOsalPortWaitForever)) :: List.replicate 7 (0, .run)

/-- Two writers end up with the lock, both told that they hold it. -/
theorem staleFlag_not_mutuallyExclusive :
    ¬ ∀ state : State (Fin 2), Reachable next start state → MutuallyExclusive state := by
  intro always
  obtain ⟨state, reachable, final⟩ := exists_reachable_of_run next start staleFlag
    (fun state => decide
      (state.task 0 = .idle (some .writer) (some (.get .writer, .success)) ∧
        state.task 1 = .idle (some .writer) (some (.get .writer, .success)))) (by decide)
  obtain ⟨first, second⟩ := of_decide_eq_true final
  have same := (always state reachable).oneWriter 0 1 (by rw [first]; rfl) (by rw [second]; rfl)
  exact absurd same (by decide)

end FwkRtos.MrswLock.WriterPreferred

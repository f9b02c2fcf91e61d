import FwkRtos.QspiFlash.Session

/-!
# The end of a low-level session

The shutdown of a low-level session resumes the operation thread.  The thread
clears the flag of the hand-shake before it suspends itself, and a resume does
nothing to a thread that is not suspended yet; so the thread goes on after the
session only if it had the time to suspend itself.
-/

namespace FwkRtos.QspiFlash

open FwkRtos.Osal
open FwkRtos.Transition

universe u

section

variable {T : Type u}

/-- The setup is waiting for its answer or has got it, and the shutdown has not
returned. -/
def SessionStage.begun : SessionStage → Bool
  | .poll => true
  | .opened => true
  | _ => false

/-- While a session is open the thread executes no operation, and outside the
sessions it is not suspended. -/
structure HandShaken (state : State T) : Prop where
  quiet : ∀ t, (state.task t).llOpen = true → state.shared.thread.current = none
  resumed : (∀ t, (state.task t).stage.begun = false) → state.shared.thread.parked = false

/-- A shutdown resumes the thread only once the thread is suspended. -/
def ResumesSuspended (state : State T) : Label T → Prop
  | .task t .run => (state.task t).point = .shutdown .resume → state.shared.thread = .suspended
  | .task _ (.call _ _) => True
  | .system _ => True

variable [DecidableEq T]

/-- What the end of a session rests on. -/
structure ResumeInv (state : State T) : Prop where
  locks : LockInv state
  order : OrderInv state
  sessions : SessionInv state
  resumed : (∀ t, (state.task t).stage.begun = false) →
    state.shared.thread.parked = false ∧ state.shared.pendingSetups = 0

theorem ResumeInv.handShaken {state : State T} (inv : ResumeInv state) : HandShaken state where
  quiet := fun _ llOpen => inv.sessions.current_of_opened (inv.sessions.stage_of_llOpen llOpen)
  resumed := fun notBegun => (inv.resumed notBegun).1

theorem resumeInv_start (config : Config) : ResumeInv (start config : State T) where
  locks := lockInv_start config
  order := orderInv_start config
  sessions := sessionInv_start config
  resumed := fun _ => ⟨rfl, rfl⟩

omit [DecidableEq T] in
/-- The thread parks itself only to answer a setup. -/
theorem ThreadMove.parked {flash after : Flash T} (move : ThreadMove flash after)
    (parks : after.thread.parked = true) :
    flash.thread.parked = true ∨ flash.pendingSetups ≠ 0 := by
  cases move with
  | llClear point =>
      right
      rw [Flash.pendingSetups, point]
      exact Nat.succ_ne_zero _
  | llSuspend point =>
      left
      rw [point]
      rfl
  | work before isAfter =>
      rw [(ThreadPoint.answering_of_current isAfter).2] at parks
      cases parks
  | _ => cases parks

omit [DecidableEq T] in
/-- A session that has not begun has no request in the queue. -/
theorem SessionInv.pendingSetups_of_not_begun {state : State T} (inv : SessionInv state)
    (notBegun : ∀ t, (state.task t).stage.begun = false) (t : T) :
    state.shared.pendingSetups = 0 := by
  have pending : ∀ u, (∀ v, v ≠ u → (state.task v).stage = .outside) →
      state.shared.pendingSetups = 0 := by
    intro u others
    have fits := inv.fits u others
    have before := notBegun u
    cases stage : (state.task u).stage with
    | outside | flag =>
        rw [stage] at fits
        exact fits
    | send =>
        rw [stage] at fits
        exact fits.1
    | poll | opened =>
        rw [stage] at before
        cases before
  by_cases nobody : ∀ v, (state.task v).stage = .outside
  · exact pending t fun v _ => nobody v
  · obtain ⟨u, inside⟩ := not_forall.mp nobody
    apply pending u
    intro v different
    by_contra other
    exact different (inv.single v u other inside)

variable {config : Config} {source : State T} {task : T} {event : Event} {effect : FlashEffect T}

/-- Only the last step of a shutdown touches the thread. -/
theorem TaskMove.thread
    (move : TaskMove config task source.shared (source.task task) event effect) :
    (event = .run ∧ (source.task task).point = .shutdown .resume) ∧
        effect.shared.thread = source.shared.thread.resume ∨
      ¬ (event = .run ∧ (source.task task).point = .shutdown .resume) ∧
        effect.shared.thread = source.shared.thread := by
  cases move with
  | shutdownResume point => exact .inl ⟨⟨rfl, point⟩, rfl⟩
  | call => exact .inr ⟨nofun, rfl⟩
  | _ point =>
      refine .inr ⟨fun ends => ?_, rfl⟩
      rw [point] at ends
      cases ends.2

/-- A session that has begun goes on, unless the step ends its shutdown. -/
theorem TaskMove.begun (move : TaskMove config task source.shared (source.task task) event effect)
    (before : (source.task task).stage.begun = true) :
    effect.own.stage.begun = true ∨
      event = .run ∧ (source.task task).point = .shutdown .resume := by
  -- Outside the hand-shake an open session stays open.
  have quiet : (source.task task).point.inHandshake = false →
      effect.own.point.inHandshake = false →
      effect.own.llOpen = (source.task task).llOpen → effect.own.stage.begun = true := by
    intro isBefore isAfter same
    rw [TaskState.stage_of_outside isAfter, same, ← TaskState.stage_of_outside isBefore]
    exact before
  cases move with
  | @call call priority result point proper =>
      left
      cases call with
      | fastReadSetupLl =>
          have isClosed : (source.task task).llOpen = false := proper
          rw [TaskState.stage_of_outside (by rw [point]; rfl), isClosed] at before
          cases before
      | fastReadShutdownLl => rfl
      | lock | unlock | read | readMode | readModeFast | readFastRaw | readFastNs | write | erase
      | lowLevelRead => exact quiet (by rw [point]; rfl) rfl (Bool.and_true _)
  | setupFlag point | setupSend point =>
      rw [TaskState.stage, point] at before
      cases before
  | setupPoll | setupResources | shutdownLastOp | shutdownPorts => exact .inl rfl
  | setupCalibration point => exact .inl rfl
  | shutdownResume point => exact .inr ⟨rfl, point⟩
  | @mutexPut entry point =>
      have outside : (if entry.isRead then Point.dataReady entry else .idle none).inHandshake =
          false := by
        split <;> rfl
      exact .inl (quiet (by rw [point]; rfl) outside rfl)
  | _ point => exact .inl (quiet (by rw [point]; rfl) rfl rfl)

theorem ResumeInv.next {target : State T} {label : Label T} (inv : ResumeInv source)
    (apart : SessionsApart source label) (resumes : ResumesSuspended source label)
    (step : QspiFlash.next config source label = some target) : ResumeInv target := by
  have sessions := inv.sessions.next inv.order apart step
  refine ⟨inv.locks.next step, inv.order.next inv.locks step, sessions, fun notBegun => ?_⟩
  rcases next_cases step with ⟨task, event, effect, rfl, move, shared, tasks⟩ |
    ⟨event, rfl, move, tasks⟩
  · refine ⟨?_, sessions.pendingSetups_of_not_begun notBegun task⟩
    rw [shared]
    rcases move.thread with ⟨⟨rfl, point⟩, resumed⟩ | ⟨notResume, same⟩
    · rw [resumed, resumes point]
      rfl
    · rw [same]
      refine (inv.resumed fun t => ?_).1
      by_contra begun
      have isBegun : (source.task t).stage.begun = true := Bool.not_eq_false _ ▸ begun
      have after := notBegun t
      rw [tasks] at after
      by_cases isTask : t = task
      · subst isTask
        rw [Function.update_self] at after
        rcases move.begun isBegun with still | ends
        · rw [after] at still
          cases still
        · exact notResume ends
      · rw [Function.update_of_ne isTask, isBegun] at after
        cases after
  · rw [tasks] at notBegun
    obtain ⟨notParked, noSetups⟩ := inv.resumed notBegun
    constructor
    · by_contra parks
      rcases move.parked (Bool.not_eq_false _ ▸ parks) with before | pending
      · rw [notParked] at before
        cases before
      · exact pending noSetups
    · rcases move.handshake with ⟨same, _⟩ | ⟨answered, _⟩
      · rw [same, noSetups]
      · rw [noSetups] at answered
        cases answered

/-- A shutdown that resumes the thread before it is suspended leaves it to
suspend itself. -/
theorem ResumeInv.leftSuspended {target : State T} {label : Label T} (inv : ResumeInv source)
    (early : ¬ ResumesSuspended source label)
    (step : QspiFlash.next config source label = some target) : ¬ HandShaken target := by
  intro shaken
  rcases next_cases step with ⟨task, event, effect, rfl, move, shared, tasks⟩ | ⟨event, rfl, _⟩
  · cases event with
    | call => exact early trivial
    | run =>
        obtain ⟨point, notSuspended⟩ := Classical.not_imp.mp early
        have opened : (source.task task).stage = .opened := by
          rw [TaskState.stage, point]
        have alone : ∀ u, u ≠ task → (source.task u).stage = .outside := by
          intro u different
          by_contra inside
          exact different (inv.sessions.single u task inside (by rw [opened]; rintro ⟨⟩))
        have ended : effect.own.stage = .outside := by
          have closed := inv.sessions.closed task (by rw [point]; rfl)
          cases move with
          | shutdownResume => rw [TaskState.stage_of_outside rfl, proceed, closed]; rfl
          | _ other =>
              rw [point] at other
              cases other
        have notBegun : ∀ t, (target.task t).stage.begun = false := by
          intro t
          rw [tasks]
          by_cases isTask : t = task
          · rw [isTask, Function.update_self, ended]
            rfl
          · rw [Function.update_of_ne isTask, alone t isTask]
            rfl
        have fits := inv.sessions.fits task alone
        rw [opened] at fits
        have parked : source.shared.thread.parked = true := fits.2
        have resumed := shaken.resumed notBegun
        rcases move.thread with ⟨_, thread⟩ | ⟨other, _⟩
        · rw [shared, thread] at resumed
          -- The thread is parked, but it is not suspended yet.
          cases threadPoint : source.shared.thread with
          | llSuspend =>
              rw [threadPoint] at resumed
              cases resumed
          | suspended => exact notSuspended threadPoint
          | _ =>
              rw [threadPoint] at parked
              cases parked
        · exact other ⟨rfl, point⟩
  · exact early trivial

/-- When sessions come one at a time, the hand-shake works in exactly the runs in
which every shutdown finds the thread suspended. -/
theorem handShaken_iff_resumesSuspended {schedule : List (Label T)}
    (apart : StepsMeet (QspiFlash.next config) (start config) schedule SessionsApart) :
    StatesSatisfy (QspiFlash.next config) (start config) schedule HandShaken ↔
      StepsMeet (QspiFlash.next config) (start config) schedule ResumesSuspended :=
  statesSatisfy_iff_stepsMeet_of (resumeInv_start config)
    (fun _ _ _ inv apart resumes step => inv.next apart resumes step)
    (fun _ inv => inv.handShaken) (fun _ _ _ inv _ early step => inv.leftSuspended early step) apart

instance (state : State T) (label : Label T) : Decidable (ResumesSuspended state label) :=
  match label with
  | .task _ .run => inferInstanceAs (Decidable (_ → _))
  | .task _ (.call _ _) => .isTrue trivial
  | .system _ => .isTrue trivial

end

/-- Task 0 opens a session once the thread has cleared the flag, reads four bytes
and calls the shutdown, up to its last step. -/
def sessionUpToResume : List (Label (Fin 2)) :=
  moves ((0, .call .fastReadSetupLl 1) :: List.replicate 2 (0, .run)) ++
    List.replicate 2 (.system .run) ++
    moves (List.replicate 3 (0, .run) ++
      (0, .call (.lowLevelRead .fastRead 0 0x100 4) 1) :: List.replicate 5 (0, .run) ++
      (0, .call .fastReadShutdownLl 1) :: List.replicate 2 (0, .run))

/-- The thread suspends itself before the session ends, and is resumed. -/
def resumedInTime : List (Label (Fin 2)) :=
  sessionUpToResume ++ [.system .run, .task 0 .run]

theorem resumedInTime_handShaken :
    (run (next smallFlash) (start smallFlash) resumedInTime).map
        (fun state => state.shared.thread) = some .receive ∧
      (StatesSatisfy (next smallFlash) (start smallFlash) resumedInTime HandShaken ↔
        StepsMeet (next smallFlash) (start smallFlash) resumedInTime ResumesSuspended) :=
  ⟨by decide, handShaken_iff_resumesSuspended (by decide)⟩

/-- The session ends before the thread has suspended itself. -/
def resumedTooEarly : List (Label (Fin 2)) :=
  sessionUpToResume ++ [.task 0 .run, .system .run]

/-- The thread suspends itself after the only session, and nobody resumes it. -/
theorem resumedTooEarly_not_handShaken :
    ¬ ∀ state : State (Fin 2), Reachable (next smallFlash) (start smallFlash) state →
      HandShaken state := by
  intro always
  obtain ⟨state, reachable, final⟩ := exists_reachable_of_run (next smallFlash) (start smallFlash)
    resumedTooEarly (fun state => decide ((∀ t, (state.task t).stage.begun = false) ∧
      state.shared.thread = .suspended)) (by decide)
  obtain ⟨outside, suspended⟩ := of_decide_eq_true final
  have resumed := (always state reachable).resumed outside
  rw [suspended] at resumed
  cases resumed

end FwkRtos.QspiFlash

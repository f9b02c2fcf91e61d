import FwkRtos.QspiFlash.Order

/-!
# The hand-shake of a low-level session

The setup of a low-level session queues a request for the operation thread, and
the thread answers by clearing a flag and suspending itself.  The flag does not
say whose request was answered, so the hand-shake is meant for one session at a
time; then the thread stays parked as long as the session lasts.
-/

namespace FwkRtos.QspiFlash

open FwkRtos.Osal
open FwkRtos.Transition

universe u

/-- How far the low-level session of a task has come, from the call of the setup
to the return of the shutdown. -/
inductive SessionStage
  | outside
  | flag
  | send
  | poll
  | opened
  deriving DecidableEq

section

variable {T : Type u}

def TaskState.stage (own : TaskState T) : SessionStage :=
  match own.point with
  | .setup .flag => .flag
  | .setup .send => .send
  | .setup .poll => .poll
  | .setup .resources => .opened
  | .setup .calibration => .opened
  | .shutdown _ => .opened
  | _ => if own.llOpen then .opened else .outside

/-- The task is within the setup or the shutdown. -/
def Point.inHandshake : Point T → Bool
  | .setup _ => true
  | .shutdown _ => true
  | _ => false

/-- The thread has taken the request of a setup and not answered it. -/
def ThreadPoint.answering : ThreadPoint T → Nat
  | .llClear => 1
  | _ => 0

/-- The thread is suspended, or is about to suspend itself. -/
def ThreadPoint.parked : ThreadPoint T → Bool
  | .llSuspend => true
  | .suspended => true
  | _ => false

/-- The requests of setups that are not answered yet. -/
def Flash.pendingSetups (flash : Flash T) : Nat :=
  (flash.opQueue.filter fun entry => !entry.isOperation).length + flash.thread.answering

/-- What the driver looks like at each stage of the only session. -/
def SessionStage.Fits (flash : Flash T) : SessionStage → Prop
  | .outside => flash.pendingSetups = 0
  | .flag => flash.pendingSetups = 0
  | .send => flash.pendingSetups = 0 ∧ flash.llReqFlag = true
  | .poll => flash.pendingSetups = 1 ∧ flash.llReqFlag = true ∨
      flash.pendingSetups = 0 ∧ flash.llReqFlag = false ∧ flash.thread.parked = true
  | .opened => flash.pendingSetups = 0 ∧ flash.thread.parked = true

/-- A setup is only called while no task has a session, from the call of its
setup to the return of its shutdown. -/
def SessionsApart (state : State T) : Label T → Prop
  | .task _ (.call .fastReadSetupLl _) => ∀ u, (state.task u).stage = .outside
  | _ => True

/-- What the hand-shake rests on. -/
structure SessionInv (state : State T) : Prop where
  single : ∀ t u, (state.task t).stage ≠ .outside → (state.task u).stage ≠ .outside → t = u
  fits : ∀ t, (∀ u, u ≠ t → (state.task u).stage = .outside) →
    (state.task t).stage.Fits state.shared
  closed : ∀ t, (state.task t).point.inHandshake = true → (state.task t).llOpen = false

theorem sessionInv_start (config : Config) : SessionInv (start config : State T) where
  single := fun _ _ notOutside => absurd rfl notOutside
  fits := fun _ _ => rfl
  closed := nofun

/-- While a session is open the thread is not executing an operation. -/
theorem ThreadPoint.current_of_parked {thread : ThreadPoint T} (parked : thread.parked = true) :
    thread.current = none := by
  cases thread <;> first | rfl | cases parked

theorem ThreadPoint.answering_of_current {thread : ThreadPoint T} {entry : Entry T}
    (current : thread.current = some entry) : thread.answering = 0 ∧ thread.parked = false := by
  cases thread <;> first | exact ⟨rfl, rfl⟩ | cases current

theorem ThreadPoint.answering_resume (thread : ThreadPoint T) :
    thread.resume.answering = thread.answering := by
  cases thread <;> rfl

/-- Outside the hand-shake the stage only says whether a session is open. -/
theorem TaskState.stage_of_outside {own : TaskState T} (outside : own.point.inHandshake = false) :
    own.stage = if own.llOpen then .opened else .outside := by
  rw [TaskState.stage]
  cases point : own.point <;> rw [point] at outside <;> first | rfl | cases outside

theorem SessionInv.stage_of_llOpen {state : State T} (inv : SessionInv state) {t : T}
    (llOpen : (state.task t).llOpen = true) : (state.task t).stage = .opened := by
  have outside : (state.task t).point.inHandshake = false := by
    by_contra inside
    rw [inv.closed t (Bool.not_eq_false _ ▸ inside)] at llOpen
    cases llOpen
  rw [TaskState.stage_of_outside outside, if_pos llOpen]

theorem pendingSetups_append (flash after : Flash T) (entry : Entry T)
    (opQueue : after.opQueue = flash.opQueue ++ [entry])
    (answering : after.thread.answering = flash.thread.answering) :
    after.pendingSetups = flash.pendingSetups + if entry.isOperation then 0 else 1 := by
  rw [Flash.pendingSetups, opQueue, answering, List.filter_append, List.length_append,
    List.filter_singleton, Flash.pendingSetups]
  cases entry.isOperation with
  | true => rfl
  | false => exact Nat.add_right_comm _ _ _

theorem SessionStage.Fits.congr {flash after : Flash T} {stage : SessionStage}
    (fits : stage.Fits flash) (pending : after.pendingSetups = flash.pendingSetups)
    (llReqFlag : after.llReqFlag = flash.llReqFlag) (thread : after.thread = flash.thread) :
    stage.Fits after := by
  cases stage <;> simp only [Fits, pending, llReqFlag, thread] at fits ⊢ <;> exact fits

/-- What a step of the thread does to the hand-shake: it answers a setup, or it
changes nothing that a session sees. -/
theorem ThreadMove.handshake {flash after : Flash T} (move : ThreadMove flash after) :
    (after.pendingSetups = flash.pendingSetups ∧ after.llReqFlag = flash.llReqFlag ∧
        (flash.thread.parked = true → after.thread.parked = true)) ∨
      (flash.pendingSetups = after.pendingSetups + 1 ∧ after.llReqFlag = false ∧
        after.thread.parked = true) := by
  have total : ∀ some_ : Flash T, some_.pendingSetups =
      (some_.opQueue.filter fun entry => !entry.isOperation).length + some_.thread.answering :=
    fun _ => rfl
  cases move with
  | receiveOperation point head isOperation =>
      left
      rw [total, total, point, head, List.filter_cons_of_neg (by rw [isOperation]; exact nofun)]
      exact ⟨rfl, rfl, nofun⟩
  | receiveSetup point head isSetup =>
      left
      rw [total, total, point, head, List.filter_cons_of_pos (by rw [isSetup]; rfl)]
      exact ⟨rfl, rfl, nofun⟩
  | llClear point =>
      right
      rw [total, total, point]
      exact ⟨rfl, rfl, rfl⟩
  | work before isAfter =>
      left
      obtain ⟨answering, parked⟩ := ThreadPoint.answering_of_current before
      rw [total, total, answering, parked]
      exact ⟨congrArg _ (ThreadPoint.answering_of_current isAfter).1, rfl, nofun⟩
  | llSuspend point | complete point | record point | priorityReset point =>
      left
      rw [total, total, point]
      exact ⟨rfl, rfl, fun parked => by first | rfl | cases parked⟩

theorem ThreadMove.fits {flash after : Flash T} (move : ThreadMove flash after)
    {stage : SessionStage} (fits : stage.Fits flash) : stage.Fits after := by
  rcases move.handshake with ⟨pending, llReqFlag, parked⟩ | ⟨pending, llReqFlag, parked⟩
  · cases stage with
    | outside | flag => exact pending.trans fits
    | send => exact ⟨pending.trans fits.1, llReqFlag.trans fits.2⟩
    | poll =>
        rcases fits with ⟨one, waiting⟩ | ⟨none_, answered, isParked⟩
        · exact .inl ⟨pending.trans one, llReqFlag.trans waiting⟩
        · exact .inr ⟨pending.trans none_, llReqFlag.trans answered, parked isParked⟩
    | opened => exact ⟨pending.trans fits.1, parked fits.2⟩
  · -- Only a setup that waits for the answer has a request to be answered.
    have unanswered : flash.pendingSetups ≠ 0 := by
      rw [pending]
      exact Nat.succ_ne_zero _
    cases stage with
    | outside | flag => exact absurd fits unanswered
    | send | opened => exact absurd fits.1 unanswered
    | poll =>
        rcases fits with ⟨one, _⟩ | ⟨none_, _⟩
        · exact .inr ⟨Nat.succ.inj (pending.symm.trans one), llReqFlag, parked⟩
        · exact absurd none_ unanswered

variable [DecidableEq T] {config : Config} {source : State T} {task : T} {event : Event}
  {effect : FlashEffect T}

/-- What a step of a task does to the hand-shake.  The session goes from one
stage to the next, or the step has nothing to do with sessions. -/
inductive SessionEffect (task : T) (flash : Flash T) (own : TaskState T) :
    Event → FlashEffect T → Prop
  | call {priority : UInt32} {effect : FlashEffect T} (shared : effect.shared = flash)
      (before : own.stage = .outside) (after : effect.own.stage = .flag) :
      SessionEffect task flash own (.call .fastReadSetupLl priority) effect
  | flag {event : Event} {effect : FlashEffect T}
      (shared : effect.shared = { flash with llReqFlag := true })
      (before : own.stage = .flag) (after : effect.own.stage = .send) :
      SessionEffect task flash own event effect
  | send {event : Event} {effect : FlashEffect T}
      (pending : effect.shared.pendingSetups = flash.pendingSetups + 1)
      (llReqFlag : effect.shared.llReqFlag = flash.llReqFlag)
      (before : own.stage = .send) (after : effect.own.stage = .poll) :
      SessionEffect task flash own event effect
  | poll {event : Event} {effect : FlashEffect T} (shared : effect.shared = flash)
      (answered : flash.llReqFlag = false) (before : own.stage = .poll)
      (after : effect.own.stage = .opened) :
      SessionEffect task flash own event effect
  | resume {event : Event} {effect : FlashEffect T}
      (pending : effect.shared.pendingSetups = flash.pendingSetups)
      (before : own.stage = .opened) (after : effect.own.stage = .outside) :
      SessionEffect task flash own event effect
  | keep {event : Event} {effect : FlashEffect T}
      (pending : effect.shared.pendingSetups = flash.pendingSetups)
      (llReqFlag : effect.shared.llReqFlag = flash.llReqFlag)
      (thread : effect.shared.thread = flash.thread) (stage : effect.own.stage = own.stage) :
      SessionEffect task flash own event effect

theorem TaskMove.sessionEffect
    (move : TaskMove config task source.shared (source.task task) event effect)
    (closed : (source.task task).point.inHandshake = true → (source.task task).llOpen = false)
    (operations : (source.task task).point.RequestsOperation) :
    SessionEffect task source.shared (source.task task) event effect ∧
      (effect.own.point.inHandshake = true → effect.own.llOpen = false) := by
  -- Steps from one point outside the hand-shake to another.
  have quiet : (source.task task).point.inHandshake = false →
      effect.own.point.inHandshake = false → effect.own.llOpen = (source.task task).llOpen →
      effect.own.stage = (source.task task).stage := by
    intro before after same
    rw [TaskState.stage_of_outside before, TaskState.stage_of_outside after, same]
  cases move with
  | @call call priority result point proper =>
      have before : (source.task task).stage =
          if (source.task task).llOpen then .opened else .outside :=
        TaskState.stage_of_outside (by rw [point]; rfl)
      cases call with
      | fastReadSetupLl =>
          have isClosed : (source.task task).llOpen = false := proper
          refine ⟨.call rfl (by rw [before, isClosed]; rfl) rfl, fun _ => ?_⟩
          show ((source.task task).llOpen && _) = false
          rw [isClosed, Bool.false_and]
      | fastReadShutdownLl =>
          have isOpen : (source.task task).llOpen = true := proper
          refine ⟨.keep rfl rfl rfl ?_, fun _ => Bool.and_false _⟩
          rw [before, isOpen]
          rfl
      | lock | unlock | read | readMode | readModeFast | readFastRaw | readFastNs | write | erase
      | lowLevelRead =>
          exact ⟨.keep rfl rfl rfl (quiet (by rw [point]; rfl) rfl (Bool.and_true _)), by rintro ⟨⟩⟩
  | @requestQueueSend op point room =>
      rw [point] at operations
      refine ⟨.keep ?_ rfl rfl (quiet (by rw [point]; rfl) rfl rfl), by rintro ⟨⟩⟩
      have isOperation : ((source.task task).entry task op).isOperation = true :=
        decide_eq_true operations
      have appended := pendingSetups_append source.shared
        { source.shared with
          opQueue := source.shared.opQueue ++ [(source.task task).entry task op] }
        ((source.task task).entry task op) rfl rfl
      rw [if_pos isOperation] at appended
      exact appended
  | setupFlag point =>
      exact ⟨.flag rfl (by rw [TaskState.stage, point]) rfl, fun _ => closed (by rw [point]; rfl)⟩
  | setupSend point room =>
      refine ⟨.send ?_ rfl (by rw [TaskState.stage, point]) rfl,
        fun _ => closed (by rw [point]; rfl)⟩
      exact pendingSetups_append source.shared _ ((source.task task).entry task llSetupRequest)
        rfl rfl
  | setupPoll point answered =>
      exact ⟨.poll rfl answered (by rw [TaskState.stage, point]) rfl,
        fun _ => closed (by rw [point]; rfl)⟩
  | setupResources point =>
      exact ⟨.keep rfl rfl rfl (by rw [TaskState.stage, TaskState.stage, point]; rfl),
        fun _ => closed (by rw [point]; rfl)⟩
  | setupCalibration point =>
      exact ⟨.keep rfl rfl rfl (by rw [TaskState.stage, TaskState.stage, point]; rfl), by rintro ⟨⟩⟩
  | shutdownLastOp point | shutdownPorts point =>
      exact ⟨.keep rfl rfl rfl (by rw [TaskState.stage, TaskState.stage, point]; rfl),
        fun _ => closed (by rw [point]; rfl)⟩
  | shutdownResume point =>
      have isClosed := closed (by rw [point]; rfl)
      refine ⟨.resume ?_ (by rw [TaskState.stage, point]) ?_, by rintro ⟨⟩⟩
      · show _ + source.shared.thread.resume.answering = _
        rw [ThreadPoint.answering_resume]
        rfl
      · rw [TaskState.stage_of_outside rfl, proceed, isClosed]
        rfl
  | @mutexPut entry point =>
      have outside : (if entry.isRead then Point.dataReady entry else .idle none).inHandshake =
          false := by
        split <;> rfl
      refine ⟨.keep rfl rfl rfl (quiet (by rw [point]; rfl) outside rfl), fun inside => ?_⟩
      rw [proceed, outside] at inside
      cases inside
  | _ point =>
      exact ⟨.keep rfl rfl rfl (quiet (by rw [point]; rfl) rfl rfl), by rintro ⟨⟩⟩

omit [DecidableEq T] in
/-- The session of a task goes on as it should. -/
theorem SessionEffect.fits
    (session : SessionEffect task source.shared (source.task task) event effect)
    (fits : (source.task task).stage.Fits source.shared) : effect.own.stage.Fits effect.shared := by
  cases session with
  | call shared before after =>
      rw [before] at fits
      rw [after, shared]
      exact fits
  | flag shared before after =>
      rw [before] at fits
      rw [after, shared]
      exact ⟨fits, rfl⟩
  | send pending llReqFlag before after =>
      rw [before] at fits
      rw [after]
      exact .inl ⟨by rw [pending, fits.1], by rw [llReqFlag, fits.2]⟩
  | poll shared answered before after =>
      rw [before] at fits
      rw [after, shared]
      rcases fits with ⟨_, waiting⟩ | ⟨pending, _, parked⟩
      · rw [answered] at waiting
        cases waiting
      · exact ⟨pending, parked⟩
  | resume pending before after =>
      rw [before] at fits
      rw [after]
      exact pending.trans fits.1
  | keep pending llReqFlag thread stage =>
      rw [stage]
      exact fits.congr pending llReqFlag thread

omit [DecidableEq T] in
/-- A task has a session after its step only if it had one before or nobody had. -/
theorem SessionEffect.inside
    (session : SessionEffect task source.shared (source.task task) event effect)
    (apart : SessionsApart source (.task task event)) (after : effect.own.stage ≠ .outside) :
    (source.task task).stage ≠ .outside ∨ ∀ u, (source.task u).stage = .outside := by
  cases session with
  | call => exact .inr apart
  | flag _ before | send _ _ before | poll _ _ before | resume _ before =>
      rw [before]
      exact .inl nofun
  | keep _ _ _ stage =>
      rw [← stage]
      exact .inl after

theorem SessionInv.apply (inv : SessionInv source) (apart : SessionsApart source (.task task event))
    {target : State T}
    (session : SessionEffect task source.shared (source.task task) event effect)
    (closed : effect.own.point.inHandshake = true → effect.own.llOpen = false)
    (shared : target.shared = effect.shared)
    (tasks : target.task = Function.update source.task task effect.own) : SessionInv target := by
  have self : target.task task = effect.own := by rw [tasks, Function.update_self]
  have taskOf : ∀ t, t ≠ task → target.task t = source.task t := by
    intro t different
    rw [tasks, Function.update_of_ne different]
  have elsewhere : (source.task task).stage ≠ .outside → ∀ t, t ≠ task →
      (source.task t).stage = .outside := by
    intro inside t different
    by_contra other
    exact different (inv.single t task other inside)
  -- After the step the other tasks are outside if this one is not.
  have alone : effect.own.stage ≠ .outside → ∀ t, t ≠ task → (source.task t).stage = .outside := by
    intro after
    rcases session.inside apart after with inside | nobody
    · exact elsewhere inside
    · exact fun t _ => nobody t
  constructor
  · intro t u first second
    by_cases isTask : t = task
    · subst isTask
      by_contra different
      rw [self] at first
      rw [taskOf u (Ne.symm different), alone first u (Ne.symm different)] at second
      exact second rfl
    · rw [taskOf t isTask] at first
      by_cases other : u = task
      · subst other
        rw [self] at second
        exact absurd (alone second t isTask) first
      · rw [taskOf u other] at second
        exact inv.single t u first second
  · intro t others
    rw [shared]
    by_cases isTask : t = task
    · subst isTask
      rw [self]
      apply session.fits
      apply inv.fits
      intro u different
      rw [← taskOf u different]
      exact others u different
    · rw [taskOf t isTask]
      have outside := others task (Ne.symm isTask)
      rw [self] at outside
      cases session with
      | call _ _ after | flag _ _ after | send _ _ _ after | poll _ _ _ after =>
          rw [after] at outside
          cases outside
      | resume pending before =>
          have inside : (source.task task).stage ≠ .outside := by
            rw [before]
            nofun
          have fits := inv.fits task (elsewhere inside)
          rw [before] at fits
          rw [elsewhere inside t isTask]
          exact pending.trans fits.1
      | keep pending llReqFlag thread stage =>
          apply SessionStage.Fits.congr _ pending llReqFlag thread
          apply inv.fits
          intro u different
          by_cases isTask' : u = task
          · rw [isTask', ← stage]
            exact outside
          · rw [← taskOf u isTask']
            exact others u different
  · intro t
    by_cases isTask : t = task
    · rw [isTask, self]
      exact closed
    · rw [taskOf t isTask]
      exact inv.closed t

theorem SessionInv.next {target : State T} {label : Label T} (inv : SessionInv source)
    (order : OrderInv source) (apart : SessionsApart source label)
    (step : QspiFlash.next config source label = some target) : SessionInv target := by
  rcases next_cases step with ⟨task, event, effect, rfl, move, shared, tasks⟩ |
    ⟨event, rfl, move, tasks⟩
  · obtain ⟨session, closed⟩ := move.sessionEffect (inv.closed task) (order.operations task)
    exact inv.apply apart session closed shared tasks
  · constructor
    · rw [tasks]
      exact inv.single
    · intro t others
      rw [tasks] at others ⊢
      exact move.fits (inv.fits t others)
    · rw [tasks]
      exact inv.closed

omit [DecidableEq T] in
/-- While a session is open the thread executes no operation. -/
theorem SessionInv.current_of_opened {state : State T} (inv : SessionInv state) {t : T}
    (opened : (state.task t).stage = .opened) : state.shared.thread.current = none := by
  have others : ∀ u, u ≠ t → (state.task u).stage = .outside := by
    intro u different
    by_contra inside
    exact different (inv.single u t inside (by rw [opened]; nofun))
  have fits := inv.fits t others
  rw [opened] at fits
  exact ThreadPoint.current_of_parked fits.2

instance [Fintype T] (state : State T) (label : Label T) : Decidable (SessionsApart state label) :=
  match label with
  | .task _ (.call .fastReadSetupLl _) =>
      inferInstanceAs (Decidable (∀ u, (state.task u).stage = .outside))
  | .task _ (.call .lock _) | .task _ (.call .unlock _) | .task _ (.call (.read _ _ _) _)
  | .task _ (.call (.readMode _ _ _ _) _) | .task _ (.call (.readModeFast _ _ _ _) _)
  | .task _ (.call (.readFastRaw _ _ _) _) | .task _ (.call (.readFastNs _ _ _) _)
  | .task _ (.call (.write _ _ _) _) | .task _ (.call (.erase _ _) _)
  | .task _ (.call (.lowLevelRead _ _ _ _) _) | .task _ (.call .fastReadShutdownLl _)
  | .task _ .run | .system _ => .isTrue trivial

end

end FwkRtos.QspiFlash

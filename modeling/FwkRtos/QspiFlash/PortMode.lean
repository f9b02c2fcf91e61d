import FwkRtos.QspiFlash.PortCalls
import FwkRtos.QspiFlash.Session
import FwkRtos.Transition.Observed

/-!
# The ports in every run

The set-up of a low-level session does not look at the last operation, and the
plain initialisation leaves the ports connected although it records no
operation.  So the ports are only set up right after a fast-read initialisation,
with sessions that come one at a time and start before any operation.
-/

namespace FwkRtos.QspiFlash

open FwkRtos.Osal
open FwkRtos.Transition

universe u

section

variable {T : Type u}

/-- The device calls of a step. -/
def callsSince (flash after : Flash T) : List DeviceCall :=
  (after.log.drop flash.log.length).map Prod.snd

/-- The ports after a step.  A `fl_connectToDevice` that fails sets up nothing. -/
def observePins (source : State T) (label : Label T) (target : State T) (pins : Pins) : Pins :=
  match label with
  | .system .connectFails => pins
  | _ => (callsSince source.shared target.shared).foldl Pins.after pins

theorem callsSince_of_same {flash after : Flash T} (log : after.log = flash.log) :
    callsSince flash after = [] := by
  rw [callsSince, log, List.drop_length]
  rfl

theorem callsSince_of_record {flash after : Flash T} {user : Option T} {call : DeviceCall}
    (log : after.log = flash.log ++ [(user, call)]) : callsSince flash after = [call] := by
  rw [callsSince, log, List.drop_left]
  rfl

/-- The operation whose data the thread is transferring. -/
def ThreadPoint.operated : ThreadPoint T → Option (Entry T)
  | .operate entry _ _ => some entry
  | _ => none

/-- Operations and sessions find the ports set up for them, and nothing is set up
twice or together with the other. -/
structure ModeRight (state : State T × Pins) : Prop where
  ordinary : ∀ entry, state.1.shared.thread.operated = some entry →
    entry.request.op.isFast = false → 0 < state.2.connections
  fast : ∀ entry, state.1.shared.thread.operated = some entry →
    entry.request.op.isFast = true → 0 < state.2.resources ∧ state.2.calibrated = true
  session : ∀ t, (state.1.task t).llOpen = true →
    0 < state.2.resources ∧ state.2.calibrated = true
  once : state.2.Sound

/-- The thread is about to look at the last operation. -/
def ThreadPoint.switching : ThreadPoint T → Bool
  | .switch _ => true
  | _ => false

/-- A session sets up the ports, and the thread switches them over, only after a
fast-read initialisation, and the session only while no operation is recorded. -/
def SetUpFromRecord (init : DriverInit) (state : State T) : Label T → Prop
  | .task t .run => (state.task t).point = .setup .resources →
      init = .fastRead ∧ state.shared.lastOp = .none
  | .task _ (.call _ _) => True
  | .system _ => state.shared.thread.switching = true → init = .fastRead

/-- What is recorded about the ports is true when they are set up. -/
@[mk_iff]
structure PortsKnown (init : DriverInit) (state : State T × Pins) (label : Label T) : Prop where
  sessions : SessionsApart state.1 label
  setUp : SetUpFromRecord init state.1 label

/-- How the ports are within a session, once it has set them up. -/
def TaskState.sessionPins (own : TaskState T) : Option Pins :=
  match own.point with
  | .setup .calibration => some ⟨0, 1, false⟩
  | .setup _ => none
  | .shutdown .resume => none
  | .shutdown _ => some .fastRead
  | _ => if own.llOpen then some .fastRead else none

/-- How the ports are outside the sessions. -/
def ThreadPoint.Fits (init : DriverInit) (lastOp : FlashOp) (pins : Pins) : ThreadPoint T → Prop
  | .ports entry pending =>
      entry.request.op.isRequest = true ∧ Pins.Leads entry.request.op.pins pins pending
  | .connectRetry entry _ pending =>
      entry.request.op.isRequest = true ∧
        Pins.Leads entry.request.op.pins pins (.connectToDevice :: pending)
  | .operate entry _ pending =>
      entry.request.op.isRequest = true ∧ pins = entry.request.op.pins ∧
        ∀ call ∈ pending, call.KeepsPorts
  | .complete entry => entry.request.op.isRequest = true ∧ pins = entry.request.op.pins
  | .record entry => entry.request.op.isRequest = true ∧ pins = entry.request.op.pins
  | .assertionFailed _ => pins.Sound
  | .prioritySet entry =>
      entry.request.op.isRequest = true ∧ lastOp ≠ .llSetup ∧ pins = restingPins init lastOp
  | .switch entry =>
      entry.request.op.isRequest = true ∧ lastOp ≠ .llSetup ∧ pins = restingPins init lastOp
  | _ => lastOp ≠ .llSetup ∧ pins = restingPins init lastOp

/-- What a task is about to do leaves the ports alone, and what it is about to
request is a request. -/
def Point.Fits : Point T → Prop
  | .request _ op => op.op.isRequest = true
  | .lowLevelRead _ (.loop _ _ pending) => ∀ call ∈ pending, call.KeepsPorts
  | _ => True

theorem Pins.Leads.sound {target : Pins} (isSound : target.Sound) :
    ∀ {pins : Pins} {calls : List DeviceCall}, Pins.Leads target pins calls → pins.Sound
  | _, [], leads => by
      rw [Pins.Leads] at leads
      rw [leads]
      exact isSound
  | _, _ :: _, leads => leads.1

theorem FlashOp.sound_pins (op : FlashOp) : op.pins.Sound := by
  cases op <;> decide

theorem sound_restingPins (init : DriverInit) (lastOp : FlashOp) :
    (restingPins init lastOp).Sound := by
  cases init <;> cases lastOp <;> decide

theorem ThreadPoint.Fits.sound {init : DriverInit} {lastOp : FlashOp} {pins : Pins}
    {thread : ThreadPoint T} (fits : thread.Fits init lastOp pins) : pins.Sound := by
  cases thread with
  | receive | llClear | llSuspend | suspended | priorityReset =>
      rw [fits.2]
      exact sound_restingPins init lastOp
  | prioritySet | switch =>
      rw [fits.2.2]
      exact sound_restingPins init lastOp
  | ports entry | connectRetry entry => exact fits.2.sound entry.request.op.sound_pins
  | operate entry =>
      rw [fits.2.1]
      exact entry.request.op.sound_pins
  | complete entry | record entry =>
      rw [fits.2]
      exact entry.request.op.sound_pins
  | assertionFailed => exact fits

theorem Call.fits_entry (call : Call) : (call.entry : Point T).Fits := by
  cases call with
  | readModeFast data address len mode =>
      show (qspiFlashLocalReadModeFast data address len mode).op.isRequest = true
      rw [qspiFlashLocalReadModeFast]
      split <;> rfl
  | lock | unlock | lowLevelRead | fastReadSetupLl | fastReadShutdownLl => trivial
  | read | readMode | readFastRaw | readFastNs | write | erase => rfl

/-- What a step of the thread does to the ports. -/
def threadPins (event : ThreadEvent) (flash after : Flash T) (pins : Pins) : Pins :=
  match event with
  | .connectFails => pins
  | .run => (callsSince flash after).foldl Pins.after pins

theorem threadPins_of_same {event : ThreadEvent} {flash after : Flash T}
    (log : after.log = flash.log)
    (pins : Pins) : threadPins event flash after pins = pins := by
  cases event with
  | run => rw [threadPins, callsSince_of_same log]; rfl
  | connectFails => rfl

theorem threadPins_of_record {flash after : Flash T} {user : Option T} {call : DeviceCall}
    (log : after.log = flash.log ++ [(user, call)]) (pins : Pins) :
    threadPins .run flash after pins = pins.after call := by
  rw [threadPins, callsSince_of_record log]
  rfl

variable {config : Config} {init : DriverInit}

theorem restingPins_of_isRequest (init : DriverInit) {op : FlashOp}
    (isRequest : op.isRequest = true) :
    restingPins init op = op.pins := by
  refine if_neg fun isNone => ?_
  rw [isNone] at isRequest
  cases isRequest

/-- A step of the thread keeps the ports as its point wants them. -/
theorem threadStep_fits {event : ThreadEvent} {flash after : Flash T} {pins : Pins}
    (step : qspiFlashOpThread config flash event flash.thread = some after)
    (fits : flash.thread.Fits init flash.lastOp pins)
    (switch : flash.thread.switching = true → init = .fastRead)
    (queued : ∀ entry ∈ flash.opQueue, entry.isOperation = true →
      entry.request.op.isRequest = true) :
    after.thread.Fits init after.lastOp (threadPins event flash after pins) := by
  have silent : after.log = flash.log → threadPins event flash after pins = pins :=
    fun log => threadPins_of_same log pins
  have recorded : ∀ {call}, event = .run → after.log = flash.log ++ [(none, call)] →
      threadPins event flash after pins = pins.after call := by
    rintro call rfl log
    exact threadPins_of_record log pins
  generalize point : flash.thread = thread at step fits switch
  unfold qspiFlashOpThread at step
  split at step
  · split at step
    · cases step
    · next entry queue head =>
        cases step
        rw [silent rfl]
        by_cases isSetup : entry.request.op = .llSetup
        · rw [if_pos isSetup]
          exact fits
        · rw [if_neg isSetup]
          have operation : entry.isOperation = true := decide_eq_true isSetup
          exact ⟨queued entry (by rw [head]; exact List.mem_cons_self) operation, fits⟩
  · cases step
    rw [silent rfl]
    exact fits
  · cases step
    rw [silent rfl]
    exact fits
  · cases step
  · cases step
    rw [silent rfl]
    exact fits
  · next entry =>
      cases step
      rw [silent rfl]
      obtain ⟨isRequest, notSetup, resting⟩ := fits
      rw [switch rfl] at resting
      refine ⟨isRequest, ?_⟩
      rw [resting]
      exact leads_portCalls notSetup isRequest
  · cases step
    rw [recorded rfl rfl]
    exact ⟨fits.1, fits.2.2⟩
  · cases step
    exact fits
  · cases step
    rw [recorded rfl rfl]
    exact ⟨fits.1, fits.2.2⟩
  · next entry cnt pending =>
      cases step
      show ThreadPoint.Fits init flash.lastOp pins (if _ then _ else _)
      split
      · exact fits.2.1
      · exact fits
  · next entry =>
      cases step
      rw [silent rfl]
      exact ⟨fits.1, fits.2, entry.request.keepsPorts_of_begin config⟩
  · next entry cursor call pending =>
      cases step
      obtain ⟨isRequest, isPins, keeps⟩ := fits
      rw [recorded rfl rfl, keeps call List.mem_cons_self]
      show ThreadPoint.Fits init flash.lastOp pins (if _ then _ else _)
      split
      · exact isPins ▸ entry.request.op.sound_pins
      · exact ⟨isRequest, isPins, fun other member => keeps other (List.mem_cons_of_mem _ member)⟩
  · next entry cursor =>
      cases step
      rw [silent rfl]
      cases more : entry.request.iteration config cursor with
      | some more_ => exact ⟨fits.1, fits.2.1, OpReq.keepsPorts_of_iteration more⟩
      | none => exact ⟨fits.1, fits.2.1⟩
  · cases step
    rw [silent rfl]
    exact fits
  · next entry =>
      cases step
      rw [silent rfl]
      obtain ⟨isRequest, isPins⟩ := fits
      refine ⟨fun isSetup => ?_, ?_⟩
      · rw [show entry.request.op = .llSetup from isSetup] at isRequest
        cases isRequest
      · rw [isPins, restingPins_of_isRequest init isRequest]
  · cases step
    rw [silent rfl]
    exact fits
  · cases step
  · cases step

/-- What a step of a task does to the ports: it sets them up for a session or
tears them down, or it leaves them alone. -/
inductive PortEffect (flash : Flash T) (own : TaskState T) (effect : FlashEffect T) : Prop
  | keep (calls : ∀ pins, (callsSince flash effect.shared).foldl Pins.after pins = pins)
      (lastOp : effect.shared.lastOp = flash.lastOp)
      (thread : effect.shared.thread = flash.thread ∨
        effect.shared.thread = flash.thread.resume)
      (held : effect.own.sessionPins = own.sessionPins)
  | setup (point : own.point = .setup .resources)
      (calls : callsSince flash effect.shared = [.fastReadSetupResources])
      (lastOp : effect.shared.lastOp = flash.lastOp)
      (held : effect.own.sessionPins = some ⟨0, 1, false⟩)
  | calibrate (before : own.sessionPins = some ⟨0, 1, false⟩)
      (calls : callsSince flash effect.shared = [.fastReadApplyCalibration])
      (lastOp : effect.shared.lastOp = flash.lastOp)
      (held : effect.own.sessionPins = some .fastRead)
  | clear (calls : callsSince flash effect.shared = []) (lastOp : effect.shared.lastOp = .none)
      (before : own.sessionPins = some .fastRead) (held : effect.own.sessionPins = some .fastRead)
  | tearDown (before : own.sessionPins = some .fastRead)
      (calls : callsSince flash effect.shared = [.fastReadShutdown])
      (lastOp : effect.shared.lastOp = flash.lastOp)
      (thread : effect.shared.thread = flash.thread)
      (held : effect.own.sessionPins = none)

/-- Outside the hand-shake the ports are set up as long as the session is open. -/
theorem TaskState.sessionPins_of_outside {own : TaskState T}
    (outside : own.point.inHandshake = false) :
    own.sessionPins = if own.llOpen then some .fastRead else none := by
  rw [TaskState.sessionPins]
  cases point : own.point <;> rw [point] at outside <;> first | rfl | cases outside

theorem TaskState.sound_of_sessionPins {own : TaskState T} {held : Pins}
    (has : own.sessionPins = some held) : held.Sound := by
  rw [TaskState.sessionPins] at has
  split at has
  · cases has
    decide
  · cases has
  · cases has
  · cases has
    decide
  · rw [Option.ite_none_right_eq_some, Option.some.injEq] at has
    rw [← has.2]
    decide

/-- Only an open session has the ports. -/
theorem TaskState.stage_of_sessionPins {own : TaskState T} {held : Pins}
    (has : own.sessionPins = some held) : own.stage = .opened := by
  cases inside : own.point.inHandshake with
  | false =>
      rw [TaskState.sessionPins_of_outside inside] at has
      rw [TaskState.stage_of_outside inside]
      cases isOpen : own.llOpen with
      | true => rfl
      | false =>
          rw [isOpen] at has
          cases has
  | true =>
      rw [TaskState.sessionPins] at has
      rw [TaskState.stage]
      cases point : own.point with
      | setup place =>
          rw [point] at has
          cases place <;> first | rfl | cases has
      | shutdown place => rfl
      | _ =>
          rw [point] at inside
          cases inside

variable [DecidableEq T] {source : State T} {task : T} {event : Event} {effect : FlashEffect T}

theorem TaskMove.portEffect
    (move : TaskMove config task source.shared (source.task task) event effect)
    (closed : (source.task task).point.inHandshake = true → (source.task task).llOpen = false)
    (fits : (source.task task).point.Fits) :
    PortEffect source.shared (source.task task) effect := by
  have silent : effect.shared.log = source.shared.log →
      ∀ pins, (callsSince source.shared effect.shared).foldl Pins.after pins = pins := by
    intro log pins
    rw [callsSince_of_same log]
    rfl
  -- A step outside the hand-shake that makes no device call.
  have quiet : effect.shared.log = source.shared.log →
      effect.shared.lastOp = source.shared.lastOp → effect.shared.thread = source.shared.thread →
      (source.task task).point.inHandshake = false → effect.own.point.inHandshake = false →
      effect.own.llOpen = (source.task task).llOpen →
      PortEffect source.shared (source.task task) effect := by
    intro log lastOp thread before after same
    refine .keep (silent log) lastOp (.inl thread) ?_
    rw [TaskState.sessionPins_of_outside before, TaskState.sessionPins_of_outside after, same]
  cases move with
  | @call call priority result point proper =>
      cases call with
      | fastReadSetupLl =>
          have isClosed : (source.task task).llOpen = false := proper
          refine .keep (silent rfl) rfl (.inl rfl) ?_
          have before := TaskState.sessionPins_of_outside
            (show (source.task task).point.inHandshake = false by rw [point]; rfl)
          rw [before, isClosed]
          rfl
      | fastReadShutdownLl =>
          have isOpen : (source.task task).llOpen = true := proper
          refine .keep (silent rfl) rfl (.inl rfl) ?_
          have before := TaskState.sessionPins_of_outside
            (show (source.task task).point.inHandshake = false by rw [point]; rfl)
          rw [before, isOpen]
          rfl
      | lock | unlock | read | readMode | readModeFast | readFastRaw | readFastNs | write | erase
      | lowLevelRead => exact quiet rfl rfl rfl (by rw [point]; rfl) rfl (Bool.and_true _)
  | @readCall function found cursor call pending point =>
      rw [point] at fits
      refine .keep (fun pins => ?_) rfl (.inl rfl) ?_
      · have recorded : callsSince source.shared
            (source.shared.record (some task) call) = [call] := callsSince_of_record rfl
        rw [proceed, recorded]
        exact fits call List.mem_cons_self pins
      · have before := TaskState.sessionPins_of_outside
          (show (source.task task).point.inHandshake = false by rw [point]; rfl)
        rw [before]
        exact TaskState.sessionPins_of_outside rfl
  | setupFlag point | setupSend point | setupPoll point =>
      refine .keep (silent rfl) rfl (.inl rfl) ?_
      rw [TaskState.sessionPins, TaskState.sessionPins, point]
      rfl
  | setupResources point => exact .setup point (callsSince_of_record rfl) rfl rfl
  | setupCalibration point =>
      exact .calibrate (by rw [TaskState.sessionPins, point]) (callsSince_of_record rfl) rfl rfl
  | shutdownLastOp point =>
      exact .clear (callsSince_of_same rfl) rfl (by rw [TaskState.sessionPins, point]) rfl
  | shutdownPorts point =>
      exact .tearDown (by rw [TaskState.sessionPins, point]) (callsSince_of_record rfl) rfl rfl rfl
  | shutdownResume point =>
      have isClosed := closed (by rw [point]; rfl)
      refine .keep (silent rfl) rfl (.inr rfl) ?_
      rw [TaskState.sessionPins_of_outside rfl, proceed, isClosed, TaskState.sessionPins, point]
      rfl
  | @mutexPut entry point =>
      have outside : (if entry.isRead then Point.dataReady entry else .idle none).inHandshake =
          false := by
        split <;> rfl
      exact quiet rfl rfl rfl (by rw [point]; rfl) outside rfl
  | _ point => exact quiet rfl rfl rfl (by rw [point]; rfl) rfl rfl

theorem TaskMove.fits (move : TaskMove config task source.shared (source.task task) event effect)
    (fits : (source.task task).point.Fits) : effect.own.point.Fits := by
  cases move with
  | call point proper => exact Call.fits_entry _
  | requestMutexGet point | requestPriorityGet point =>
      rw [point] at fits
      exact fits
  | readCall point =>
      rw [point] at fits
      exact fun other member => fits other (List.mem_cons_of_mem _ member)
  | readIteration point more => exact LowLevelRead.keepsPorts_of_iteration more
  | readSpinlockGet => exact nofun
  | @mutexPut entry point =>
      rw [proceed]
      cases entry.isRead <;> trivial
  | _ => trivial

theorem TaskMove.sent (move : TaskMove config task source.shared (source.task task) event effect)
    (fits : (source.task task).point.Fits) {entry : Entry T}
    (member : entry ∈ effect.shared.sent) :
    entry ∈ source.shared.sent ∨ entry.request.op.isRequest = true := by
  cases move with
  | requestQueueSend point =>
      rw [point] at fits
      rcases List.mem_append.mp member with old | new
      · exact .inl old
      · rw [List.mem_singleton.mp new]
        exact .inr fits
  | _ => exact .inl member

/-- The driver with its ports. -/
def nextPorts (config : Config) : LStep (State T × Pins) (Label T) :=
  observed (QspiFlash.next config) observePins

def startPorts (config : Config) (init : DriverInit) : State T × Pins :=
  (start config, init.pins)

/-- What the set-up of the ports rests on. -/
structure PortInv (init : DriverInit) (state : State T × Pins) : Prop where
  locks : LockInv state.1
  order : OrderInv state.1
  sessions : SessionInv state.1
  points : ∀ t, (state.1.task t).point.Fits
  requests : ∀ entry ∈ state.1.shared.sent, entry.request.op.isRequest = true
  resting : (∀ t, (state.1.task t).sessionPins = none) →
    state.1.shared.thread.Fits init state.1.shared.lastOp state.2
  session : ∀ t held, (state.1.task t).sessionPins = some held →
    state.2 = held ∧ state.1.shared.lastOp = .none ∧ init = .fastRead

theorem portInv_start (config : Config) (init : DriverInit) :
    PortInv init (startPorts config init : State T × Pins) where
  locks := lockInv_start config
  order := orderInv_start config
  sessions := sessionInv_start config
  points := fun _ => trivial
  requests := nofun
  resting := fun _ => ⟨nofun, rfl⟩
  session := nofun

omit [DecidableEq T] in
/-- While a task is in its session the thread is parked, and nobody else is in
one. -/
theorem SessionInv.alone {state : State T} (inv : SessionInv state) {t : T}
    (opened : (state.task t).stage = .opened) :
    state.shared.thread.parked = true ∧ ∀ u, u ≠ t → (state.task u).sessionPins = none := by
  have others : ∀ u, u ≠ t → (state.task u).stage = .outside := by
    intro u different
    by_contra inside
    exact different (inv.single u t inside (by rw [opened]; nofun))
  constructor
  · have fits := inv.fits t others
    rw [opened] at fits
    exact fits.2
  · intro u different
    by_contra has
    obtain ⟨held, has⟩ := Option.ne_none_iff_exists'.mp has
    have isOpened := TaskState.stage_of_sessionPins has
    rw [others u different] at isOpened
    cases isOpened

omit [DecidableEq T] in
theorem ThreadPoint.fits_of_parked {init : DriverInit} {lastOp : FlashOp} {pins : Pins}
    {thread : ThreadPoint T} (parked : thread.parked = true) :
    thread.Fits init lastOp pins ↔ lastOp ≠ .llSetup ∧ pins = restingPins init lastOp := by
  cases thread <;> first | exact Iff.rfl | cases parked

omit [DecidableEq T] in
theorem ThreadPoint.Fits.resume {init : DriverInit} {lastOp : FlashOp} {pins : Pins}
    {thread : ThreadPoint T} (fits : thread.Fits init lastOp pins) :
    thread.resume.Fits init lastOp pins := by
  cases thread <;> exact fits

/-- A step of a task keeps the ports as the sessions and the thread want them. -/
theorem PortInv.apply {pins : Pins} (inv : PortInv init (source, pins)) {target : State T}
    (known : (source.task task).point = .setup .resources →
      init = .fastRead ∧ source.shared.lastOp = .none)
    (effects : PortEffect source.shared (source.task task) effect)
    (shared : target.shared = effect.shared)
    (tasks : target.task = Function.update source.task task effect.own) :
    let after := (callsSince source.shared target.shared).foldl Pins.after pins
    ((∀ t, (target.task t).sessionPins = none) →
        target.shared.thread.Fits init target.shared.lastOp after) ∧
      ∀ t held, (target.task t).sessionPins = some held →
        after = held ∧ target.shared.lastOp = .none ∧ init = .fastRead := by
  intro after
  have self : target.task task = effect.own := by rw [tasks, Function.update_self]
  have taskOf : ∀ t, t ≠ task → target.task t = source.task t := by
    intro t different
    rw [tasks, Function.update_of_ne different]
  -- The task is in its session before and after the step.
  have within : ∀ held, (source.task task).stage = .opened → effect.own.sessionPins = some held →
      after = held → effect.shared.lastOp = .none → init = .fastRead →
      ((∀ t, (target.task t).sessionPins = none) →
        target.shared.thread.Fits init target.shared.lastOp after) ∧
      ∀ t held, (target.task t).sessionPins = some held →
        after = held ∧ target.shared.lastOp = .none ∧ init = .fastRead := by
    intro held opened has isHeld lastOp isFast
    obtain ⟨_, others⟩ := inv.sessions.alone opened
    constructor
    · intro nobody
      have none_ := nobody task
      rw [self, has] at none_
      cases none_
    · intro t other isOther
      by_cases isTask : t = task
      · rw [isTask, self, has] at isOther
        cases isOther
        exact ⟨isHeld, shared ▸ lastOp, isFast⟩
      · rw [taskOf t isTask, others t isTask] at isOther
        cases isOther
  have inSession : ∀ {held}, (source.task task).sessionPins = some held →
      (source.task task).stage = .opened ∧ pins = held ∧ source.shared.lastOp = .none ∧
        init = .fastRead :=
    fun has => ⟨TaskState.stage_of_sessionPins has, inv.session task _ has⟩
  cases effects with
  | keep calls lastOp thread held =>
      have same : ∀ t, (target.task t).sessionPins = (source.task t).sessionPins := by
        intro t
        by_cases isTask : t = task
        · rw [isTask, self, held]
        · rw [taskOf t isTask]
      have isAfter : after = pins := by
        rw [← calls pins, ← shared]
      simp only [same, isAfter, shared, lastOp]
      refine ⟨fun nobody => ?_, inv.session⟩
      have fits := inv.resting nobody
      rcases thread with unchanged | resumed
      · rw [unchanged]
        exact fits
      · rw [resumed]
        exact fits.resume
  | setup point calls lastOp held =>
      obtain ⟨isFast, isNone⟩ := known point
      have opened : (source.task task).stage = .opened := by
        rw [TaskState.stage, point]
      obtain ⟨parked, others⟩ := inv.sessions.alone opened
      have fits := inv.resting fun t => by
        by_cases isTask : t = task
        · rw [isTask, TaskState.sessionPins, point]
        · exact others t isTask
      have isResting : pins = restingPins init source.shared.lastOp :=
        ((ThreadPoint.fits_of_parked parked).mp fits).2
      apply within _ opened held _ (lastOp.trans isNone) isFast
      show (callsSince source.shared target.shared).foldl Pins.after pins = _
      rw [shared, calls, isResting, isFast, isNone]
      rfl
  | calibrate before calls lastOp held =>
      obtain ⟨opened, isHeld, isNone, isFast⟩ := inSession before
      apply within _ opened held _ (lastOp.trans isNone) isFast
      show (callsSince source.shared target.shared).foldl Pins.after pins = _
      rw [shared, calls, isHeld]
      rfl
  | clear calls lastOp before held =>
      obtain ⟨opened, isHeld, _, isFast⟩ := inSession before
      apply within _ opened held _ lastOp isFast
      show (callsSince source.shared target.shared).foldl Pins.after pins = _
      rw [shared, calls, isHeld]
      rfl
  | tearDown before calls lastOp thread held =>
      obtain ⟨opened, isHeld, isNone, isFast⟩ := inSession before
      obtain ⟨parked, others⟩ := inv.sessions.alone opened
      constructor
      · intro _
        rw [shared, thread, ThreadPoint.fits_of_parked parked, lastOp, isNone]
        refine ⟨by rintro ⟨⟩, ?_⟩
        show (callsSince source.shared target.shared).foldl Pins.after pins = _
        rw [shared, calls, isHeld, isFast]
        rfl
      · intro t other isOther
        by_cases isTask : t = task
        · rw [isTask, self, held] at isOther
          cases isOther
        · rw [taskOf t isTask, others t isTask] at isOther
          cases isOther

omit [DecidableEq T] in
/-- The thread is parked while a session has the ports, and does nothing to them. -/
theorem ThreadMove.parkedKeeps {flash after : Flash T} (move : ThreadMove flash after)
    (parked : flash.thread.parked = true) :
    after.log = flash.log ∧ after.lastOp = flash.lastOp := by
  cases move with
  | llSuspend => exact ⟨rfl, rfl⟩
  | work before =>
      rw [ThreadPoint.current_of_parked parked] at before
      cases before
  | receiveOperation point | receiveSetup point | llClear point | complete point | record point
  | priorityReset point =>
      rw [point] at parked
      cases parked

theorem PortInv.next {before after : State T × Pins} {label : Label T}
    (inv : PortInv init before) (known : PortsKnown init before label)
    (step : nextPorts config before label = some after) : PortInv init after := by
  obtain ⟨source, pins⟩ := before
  obtain ⟨target, pinsAfter⟩ := after
  obtain ⟨step, seen⟩ := observed_eq_some_iff.mp step
  have isAfter : pinsAfter = observePins source label target pins := seen.symm
  subst isAfter
  have locks := inv.locks.next step
  have order := inv.order.next inv.locks step
  have sessions := inv.sessions.next inv.order known.sessions step
  rcases next_cases step with ⟨task, event, effect, rfl, move, shared, tasks⟩ |
    ⟨event, rfl, move, tasks⟩
  · have setup : (source.task task).point = .setup .resources →
        init = .fastRead ∧ source.shared.lastOp = .none := by
      intro point
      cases event with
      | run => exact known.setUp point
      | call =>
          cases move with
          | call idle =>
              rw [point] at idle
              cases idle
    obtain ⟨resting, session⟩ := inv.apply setup
      (move.portEffect (inv.sessions.closed task) (inv.points task)) shared tasks
    refine ⟨locks, order, sessions, fun t => ?_, fun entry member => ?_, resting, session⟩
    · show (target.task t).point.Fits
      rw [tasks]
      by_cases isTask : t = task
      · rw [isTask, Function.update_self]
        exact move.fits (inv.points task)
      · rw [Function.update_of_ne isTask]
        exact inv.points t
    · have isSent : entry ∈ effect.shared.sent := shared ▸ member
      rcases move.sent (inv.points task) isSent with old | new
      · exact inv.requests entry old
      · exact new
  · have local_ : qspiFlashOpThread config source.shared event source.shared.thread =
        some target.shared := by
      obtain ⟨effect, system, rfl⟩ := interleave_system_eq_some_iff.mp step
      obtain ⟨after, local_, rfl⟩ := Option.map_eq_some_iff.mp system
      exact local_
    have isThreadPins : observePins source (.system event) target pins =
        threadPins event source.shared target.shared pins := by
      cases event <;> rfl
    have queued : ∀ entry ∈ source.shared.opQueue, entry.isOperation = true →
        entry.request.op.isRequest = true := by
      intro entry member operation
      apply inv.requests
      show entry ∈ source.shared.sent
      rw [inv.order.fifo]
      exact List.mem_append_right _ (List.mem_append_right _
        (List.mem_filter.mpr ⟨member, operation⟩))
    refine ⟨locks, order, sessions, ?_, ?_, fun nobody => ?_, fun t held has => ?_⟩
    · show ∀ t, (target.task t).point.Fits
      rw [tasks]
      exact inv.points
    · show ∀ entry ∈ target.shared.sent, _
      rw [move.fifo.1]
      exact inv.requests
    · show target.shared.thread.Fits init target.shared.lastOp (observePins source _ target pins)
      rw [isThreadPins]
      have nobodyBefore : ∀ t, (source.task t).sessionPins = none := by
        intro t
        rw [← tasks]
        exact nobody t
      exact threadStep_fits local_ (inv.resting nobodyBefore)
        known.setUp queued
    · -- The thread is parked, and leaves the ports of the session alone.
      have hasBefore : (source.task t).sessionPins = some held := by
        rw [← tasks]
        exact has
      obtain ⟨isHeld, isNone, isFast⟩ := inv.session t held hasBefore
      obtain ⟨parked, _⟩ := inv.sessions.alone (TaskState.stage_of_sessionPins hasBefore)
      obtain ⟨log, lastOp⟩ := move.parkedKeeps parked
      show observePins source _ target pins = held ∧ _
      rw [isThreadPins, threadPins_of_same log]
      exact ⟨isHeld, lastOp.trans isNone, isFast⟩

theorem PortInv.modeRight {state : State T × Pins} (inv : PortInv init state) :
    ModeRight state := by
  have held : ∀ t, (state.1.task t).llOpen = true →
      (state.1.task t).sessionPins = some .fastRead := by
    intro t llOpen
    have outside : (state.1.task t).point.inHandshake = false := by
      by_contra inside
      rw [inv.sessions.closed t (Bool.not_eq_false _ ▸ inside)] at llOpen
      cases llOpen
    rw [TaskState.sessionPins_of_outside outside, if_pos llOpen]
  have working : ∀ entry, state.1.shared.thread.operated = some entry →
      state.2 = entry.request.op.pins := by
    intro entry operated
    have current : state.1.shared.thread.current = some entry := by
      cases point : state.1.shared.thread <;> rw [point] at operated <;> cases operated
      rfl
    have fits := inv.resting fun t => by
      by_contra has
      obtain ⟨held, has⟩ := Option.ne_none_iff_exists'.mp has
      rw [inv.sessions.current_of_opened (TaskState.stage_of_sessionPins has)] at current
      cases current
    cases point : state.1.shared.thread <;> rw [point] at operated <;> cases operated
    rw [point] at fits
    exact fits.2.1
  constructor
  · intro entry operated ordinary
    rw [working entry operated, FlashOp.pins, ordinary]
    exact Nat.one_pos
  · intro entry operated fast
    rw [working entry operated, FlashOp.pins, fast]
    exact ⟨Nat.one_pos, rfl⟩
  · intro t llOpen
    rw [(inv.session t _ (held t llOpen)).1]
    exact ⟨Nat.one_pos, rfl⟩
  · by_cases nobody : ∀ t, (state.1.task t).sessionPins = none
    · exact (inv.resting nobody).sound
    · obtain ⟨t, has⟩ := not_forall.mp nobody
      obtain ⟨held, has⟩ := Option.ne_none_iff_exists'.mp has
      rw [(inv.session t held has).1]
      exact TaskState.sound_of_sessionPins has

/-- In every run in which what is recorded about the ports is true whenever they
are set up, operations and sessions find them set up as they need them. -/
theorem modeRight_of_portsKnown {schedule : List (Label T)}
    (known : StepsMeet (nextPorts config) (startPorts config init) schedule (PortsKnown init)) :
    StatesSatisfy (nextPorts config) (startPorts config init) schedule ModeRight :=
  known.statesSatisfy (portInv_start config init)
    (fun _ _ _ inv known step => inv.next known step) fun _ inv => inv.modeRight

end

section

variable {T : Type u} [DecidableEq T] (init : DriverInit)

instance (state : State T) (label : Label T) : Decidable (SetUpFromRecord init state label) :=
  match label with
  | .task _ .run => inferInstanceAs (Decidable (_ → _))
  | .task _ (.call _ _) => .isTrue trivial
  | .system _ => inferInstanceAs (Decidable (_ → _))

instance [Fintype T] (state : State T × Pins) (label : Label T) :
    Decidable (PortsKnown init state label) :=
  decidable_of_iff _ (portsKnown_iff init state label).symm

end

/-- Task 0 opens a low-level session, up to the return of the setup. -/
def openSession : List (Label (Fin 2)) :=
  moves ((0, .call .fastReadSetupLl 1) :: List.replicate 2 (0, .run)) ++
    List.replicate 3 (.system .run) ++ moves (List.replicate 3 (0, .run))

/-- Task 1 reads four bytes, by a fast read or not, and the thread executes it. -/
def executeRead (call : Call) (steps : Nat) : List (Label (Fin 2)) :=
  moves ((1, .call call 1) :: List.replicate 4 (1, .run)) ++
    List.replicate steps (.system .run) ++ moves [(1, .run)]

/-- A session of task 0; then a read and a fast read of task 1. -/
def sessionThenReads : List (Label (Fin 2)) :=
  openSession ++ moves ((0, .call .fastReadShutdownLl 1) :: List.replicate 3 (0, .run)) ++
    executeRead (.read 0 0x100 4) 11 ++ executeRead (.readFastRaw 0 0x100 4) 14

theorem sessionThenReads_modeRight :
    (run (nextPorts smallFlash) (startPorts smallFlash .fastRead) sessionThenReads).map
        (fun state => (state.1.shared.returned.length, state.2)) = some (2, .fastRead) ∧
      StatesSatisfy (nextPorts smallFlash) (startPorts smallFlash .fastRead) sessionThenReads
        ModeRight :=
  ⟨by decide, modeRight_of_portsKnown (by decide)⟩

/-- A read of task 1 is executed; then task 0 opens a session. -/
def readThenSession : List (Label (Fin 2)) :=
  executeRead (.read 0 0x100 4) 11 ++ openSession

/-- The session sets up the ports while they are still connected for the read. -/
theorem readThenSession_not_modeRight :
    ¬ ∀ state : State (Fin 2) × Pins,
      Reachable (nextPorts smallFlash) (startPorts smallFlash .fastRead) state →
        ModeRight state := by
  intro always
  obtain ⟨state, reachable, final⟩ := exists_reachable_of_run (nextPorts smallFlash)
    (startPorts smallFlash .fastRead) readThenSession
    (fun state => decide (state.2 = ⟨1, 1, true⟩)) (by decide)
  have once := (always state reachable).once
  rw [of_decide_eq_true final] at once
  exact absurd once (by decide)

end FwkRtos.QspiFlash

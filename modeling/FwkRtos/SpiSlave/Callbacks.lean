import FwkRtos.SpiSlave.Driver

/-!
# Callbacks of completed transfers

The interrupt handler notifies the thread of the driver once for every item that it
queues.  The thread takes all notifications at once and then calls the application
once, so that items are left behind whenever it finds more than one.
-/

namespace FwkRtos.SpiSlave

open FwkRtos.Transition

/-! ## Steps that the thread cannot see -/

/-- The thread of the interface leaves alone what follows a transaction. -/
structure HilFrame (source target : Driver) : Prop where
  xferDoneQueue : target.xferDoneQueue = source.xferDoneQueue
  notified : target.notified = source.notified
  isr : target.isr = source.isr
  app : target.app = source.app
  thread : target.thread = source.thread
  trigger : target.trigger = source.trigger
  prepared : target.prepared = source.prepared
  returned : target.returned = source.returned
  dropDefaultBuffers : target.dropDefaultBuffers = source.dropDefaultBuffers

theorem hilFrame_of_step {source target : Driver} {event : HilEvent}
    (step : spiSlaveHilThread source event = some target) : HilFrame source target := by
  cases event with
  | select =>
      simp only [spiSlaveHilThread] at step
      split at step <;> cases step
      constructor <;> rfl
  | deselect =>
      simp only [spiSlaveHilThread] at step
      split at step
      · split at step <;> cases step <;> constructor <;> rfl
      · cases step
  | run =>
      cases point : source.hil with
      | waitStart =>
          simp only [spiSlaveHilThread, point] at step
          split at step <;> cases step
          constructor <;> rfl
      | started =>
          simp only [spiSlaveHilThread, slaveTransactionStarted, point] at step
          split at step <;> cases step <;> constructor <;> rfl
      | fetch xfer field =>
          rcases xfer with ⟨_ | number, buffers⟩ <;> cases field <;>
            simp only [spiSlaveHilThread, slaveTransactionStarted, Field.nextFetched, point]
              at step <;>
            cases step <;> constructor <;> rfl
      | storeWritten code | storeRead code =>
          simp only [spiSlaveHilThread, slaveTransactionEnded, point] at step
          cases code <;> cases step <;> constructor <;> rfl
      | deselected | transfer =>
          simp only [spiSlaveHilThread, slaveTransactionEnded, point] at step
          cases step
      | clearReady | compareOut | compareIn | dropped | send =>
          simp only [spiSlaveHilThread, slaveTransactionStarted, slaveTransactionEnded, point]
            at step
          cases step
          constructor <;> rfl

/-- A call of `spi_slave_xfer_prepare` writes the buffers and the flag. -/
structure AppFrame (source target : Driver) : Prop where
  xferDoneQueue : target.xferDoneQueue = source.xferDoneQueue
  notified : target.notified = source.notified
  isr : target.isr = source.isr
  hil : target.hil = source.hil
  thread : target.thread = source.thread
  trigger : target.trigger = source.trigger
  startByte : target.startByte = source.startByte
  codes : target.codes = source.codes
  prepared : target.prepared = source.prepared
  began : target.began = source.began
  ended : target.ended = source.ended
  returned : target.returned = source.returned

theorem appFrame_of_step {source target : Driver}
    (step : spiSlaveXferPrepare source = some target) :
    AppFrame source target := by
  unfold spiSlaveXferPrepare at step
  split at step
  · cases step
  · next user _ _ _ =>
      cases user <;> cases step <;> constructor <;> rfl
  · cases step
    constructor <;> rfl

/-! ## Items and notifications -/

/-- An application whose `xfer_done` calls `spi_slave_xfer_complete` once, and that
does not call it elsewhere. -/
def TakesOnePerCallback (driver : Driver) : Label → Prop
  | .complete => driver.thread = .xferDone 0
  | .thread => ∀ calls, driver.thread = .xferDone calls → calls = 1
  | _ => True

/-- `ulTaskNotifyTake` takes one notification, never several. -/
def TakesOneNotification (driver : Driver) : Label → Prop
  | .thread => driver.thread = .notifyTake → driver.notified ≤ 1
  | _ => True

/-- How many items are still to be taken by the callback that runs, by those for the
pending notifications, and by the one that the interrupt handler is about to notify. -/
def Driver.announced (driver : Driver) : Nat :=
  driver.notified + (if driver.isr = .notifyGive then 1 else 0) +
    (if driver.thread = .xferDone 0 then 1 else 0)

/-- The items that no callback is to come for. -/
def Driver.stranded (driver : Driver) : Nat :=
  driver.xferDoneQueue.length - driver.announced

/-- Every callback to come finds an item. -/
def Covered (driver : Driver) : Prop :=
  driver.announced ≤ driver.xferDoneQueue.length

/-- The thread waits for a notification that nobody is about to give. -/
structure Blocked (driver : Driver) : Prop where
  thread : driver.thread = .notifyTake
  notified : driver.notified = 0
  isr : driver.isr = .idle

theorem Blocked.stranded_eq {driver : Driver} (blocked : Blocked driver) :
    driver.stranded = driver.xferDoneQueue.length := by
  simp [Driver.stranded, Driver.announced, blocked.thread, blocked.notified, blocked.isr]

/-- A step keeps the items covered, and strands one exactly when the thread takes
several notifications at once. -/
theorem Covered.next {config : Config} (called : config.xferDone = true) {source target : Driver}
    {label : Label} (covered : Covered source) (takesOne : TakesOnePerCallback source label)
    (step : next config source label = some target) :
    Covered target ∧ (TakesOneNotification source label → target.stranded = source.stranded) ∧
      (¬ TakesOneNotification source label → source.stranded < target.stranded) := by
  -- All steps but one kind change the items and what is announced alike.
  have settle : ∀ gone more, target.xferDoneQueue.length + gone =
        source.xferDoneQueue.length + more → target.announced + gone = source.announced + more →
      TakesOneNotification source label →
      Covered target ∧ (TakesOneNotification source label → target.stranded = source.stranded) ∧
        (¬ TakesOneNotification source label → source.stranded < target.stranded) := by
    intro gone more items announced met
    unfold Covered Driver.stranded at *
    exact ⟨by omega, fun _ => by omega, fun unmet => absurd met unmet⟩
  cases label with
  | hil event =>
      have frame := hilFrame_of_step step
      refine settle 0 0 (by rw [frame.xferDoneQueue]) ?_ trivial
      rw [Driver.announced, frame.notified, frame.isr, frame.thread]
      rfl
  | app =>
      have frame := appFrame_of_step step
      refine settle 0 0 (by rw [frame.xferDoneQueue]) ?_ trivial
      rw [Driver.announced, frame.notified, frame.isr, frame.thread]
      rfl
  | prepare buffers | prepareDefaultBuffers buffers =>
      simp only [SpiSlave.next] at step
      split at step <;> cases step
      exact settle 0 0 rfl rfl trivial
  | defaultBufXferEnded enable =>
      cases step
      exact settle 0 0 rfl rfl trivial
  | isr =>
      simp only [SpiSlave.next, rtosSpiSlaveIsr] at step
      cases point : source.isr with
      | idle =>
          simp only [point] at step
          split at step
          · split at step <;> cases step
            exact settle 0 0 rfl (by simp [Driver.announced, point]) trivial
          · cases step
      | queueSend report item =>
          simp only [point] at step
          split at step <;> cases step
          · exact settle 0 1 (by simp) (by simp [Driver.announced, point]; omega) trivial
          · exact settle 0 0 rfl (by simp [Driver.announced, point]) trivial
      | notifyGive =>
          simp only [point] at step
          cases step
          exact settle 0 0 rfl (by simp [Driver.announced, point]) trivial
      | outBuf | bytesWritten | inBuf | bytesRead =>
          simp only [point] at step
          cases step
          exact settle 0 0 rfl (by simp [Driver.announced, point]) trivial
  | complete =>
      have waits : source.thread = .xferDone 0 := takesOne
      have announced : source.announced = source.notified +
          (if source.isr = .notifyGive then 1 else 0) + 1 := by
        rw [Driver.announced, if_pos waits]
      cases step
      cases items : source.xferDoneQueue with
      | nil =>
          rw [Covered, items, announced] at covered
          exact absurd covered (Nat.not_succ_le_zero _)
      | cons entry queue =>
          refine settle 1 0 ?_ ?_ trivial
          · simp [spiSlaveXferComplete, items]
          · rw [announced]
            simp [spiSlaveXferComplete, items, Driver.announced, waits]
  | thread =>
      simp only [SpiSlave.next, spiSlaveAppThread] at step
      cases point : source.thread with
      | notifyTake =>
          simp only [point, called, if_true] at step
          split at step <;> cases step
          next pending =>
            have announced : source.announced = source.notified +
                (if source.isr = .notifyGive then 1 else 0) := by
              simp [Driver.announced, point]
            by_cases one : source.notified ≤ 1
            · refine settle 0 0 rfl ?_ (fun _ => one)
              rw [announced]
              simp [Driver.announced]
              omega
            · have unmet : ¬ TakesOneNotification source .thread := fun met => one (met point)
              refine ⟨?_, fun met => absurd met unmet, fun _ => ?_⟩
              · rw [Covered, announced] at covered
                simp [Covered, Driver.announced]
                omega
              · rw [Covered, announced] at covered
                simp [Driver.stranded, announced]
                simp [Driver.announced]
                omega
      | xferDone calls =>
          obtain rfl := takesOne calls point
          simp only [point] at step
          cases step
          exact settle 0 0 rfl (by simp [Driver.announced, point]) fun other => by
            rw [point] at other
            cases other
      | absent =>
          simp only [point] at step
          cases step
      | startCallback | enableTrigger | sendStart =>
          simp only [point] at step
          cases step
          exact settle 0 0 rfl (by simp [Driver.announced, point]) fun other => by
            rw [point] at other
            cases other

/-- Whenever the thread is blocked, no item is left in the queue if and only if the
thread took one notification at a time until then. -/
theorem noneLeft_iff_takesOneNotification {config : Config} {schedule : List Label}
    (called : config.xferDone = true)
    (takesOne : StepsMeet (next config) (start config) schedule TakesOnePerCallback)
    {driver : Driver} (executed : run (next config) (start config) schedule = some driver)
    (blocked : Blocked driver) :
    driver.xferDoneQueue = [] ↔
      StepsMeet (next config) (start config) schedule TakesOneNotification := by
  have covered : Covered (start config) := by
    simp [Covered, Driver.announced, start]
    split <;> simp
  have none_ : (start config).stranded = 0 := by simp [Driver.stranded, start]
  rw [← List.length_eq_zero_iff, ← blocked.stranded_eq]
  exact zero_iff_stepsMeet covered none_
    (fun _ _ _ _ isPrefix earlier covered step =>
      covered.next called (takesOne isPrefix earlier step) step)
    (List.prefix_refl schedule) executed

instance (driver : Driver) : DecidablePred (TakesOnePerCallback driver)
  | .complete => inferInstanceAs (Decidable (driver.thread = .xferDone 0))
  | .thread =>
      match point : driver.thread with
      | .xferDone calls => decidable_of_iff (calls = 1) (by simp [TakesOnePerCallback, point])
      | .absent | .startCallback | .enableTrigger | .sendStart | .notifyTake =>
          .isTrue (by simp [TakesOnePerCallback, point])
  | .hil _ | .isr | .prepare _ | .prepareDefaultBuffers _ | .app | .defaultBufXferEnded _ =>
      .isTrue trivial

instance (driver : Driver) : DecidablePred (TakesOneNotification driver)
  | .thread => inferInstanceAs (Decidable (_ → _))
  | .hil _ | .isr | .prepare _ | .prepareDefaultBuffers _ | .app | .defaultBufXferEnded _
  | .complete => .isTrue trivial

instance (driver : Driver) : Decidable (Blocked driver) :=
  decidable_of_iff (driver.thread = .notifyTake ∧ driver.notified = 0 ∧ driver.isr = .idle)
    ⟨fun ⟨thread, notified, isr⟩ => ⟨thread, notified, isr⟩,
      fun ⟨thread, notified, isr⟩ => ⟨thread, notified, isr⟩⟩

/-! ## Two transactions -/

/-- Both callbacks, and the queue of the sources. -/
def bothCallbacks : Config where
  start := true
  xferDone := true
  queueSize := 2

/-- The thread runs the start callback, enables the interrupt and lets the thread of the
interface go on. -/
def started : List Label :=
  [.thread, .thread, .thread, .hil .run]

/-- A transaction gets its buffers, moves bytes, and ends. -/
def transacted (bytesWritten bytesRead : UInt32) (stepsAfter : Nat) : List Label :=
  .hil .select :: List.replicate 5 (.hil .run) ++
    .hil (.deselect bytesWritten bytesRead) :: List.replicate stepsAfter (.hil .run)

/-- The interrupt handler queues an item and notifies the thread. -/
def queued : List Label :=
  List.replicate 7 .isr

/-- The thread calls `xfer_done`, which takes an item. -/
def calledBack : List Label :=
  [.thread, .complete, .thread]

def calledBackInTime : List Label :=
  started ++ transacted 4 4 6 ++ queued ++ calledBack ++ transacted 8 8 6 ++ queued ++ calledBack

theorem calledBackInTime_noneLeft :
    ∃ driver, run (next bothCallbacks) (start bothCallbacks) calledBackInTime = some driver ∧
      driver.returned.length = 2 ∧ driver.xferDoneQueue = [] := by
  have final : (run (next bothCallbacks) (start bothCallbacks) calledBackInTime).map
      (fun driver => decide (driver.returned.length = 2 ∧ Blocked driver)) = some true := by
    decide
  obtain ⟨driver, executed, checked⟩ := Option.map_eq_some_iff.mp final
  obtain ⟨returned, blocked⟩ := of_decide_eq_true checked
  refine ⟨driver, executed, returned, ?_⟩
  exact (noneLeft_iff_takesOneNotification rfl (by decide) executed blocked).mpr (by decide)

/-- Both transactions have ended before the thread runs. -/
def calledBackLate : List Label :=
  started ++ transacted 4 4 6 ++ queued ++ transacted 8 8 6 ++ queued ++ calledBack

/-- One of the items is left in the queue and the thread waits. -/
theorem calledBackLate_itemLeft :
    ¬ ∀ driver, StepsMeet (next bothCallbacks) (start bothCallbacks) calledBackLate
        TakesOnePerCallback →
      run (next bothCallbacks) (start bothCallbacks) calledBackLate = some driver →
        Blocked driver → driver.codes = [] → driver.xferDoneQueue = [] := by
  intro noneLeft
  have final : (run (next bothCallbacks) (start bothCallbacks) calledBackLate).map
      (fun driver => decide (driver.xferDoneQueue.length = 1 ∧ Blocked driver ∧
        driver.codes = [])) = some true := by
    decide
  obtain ⟨driver, executed, checked⟩ := Option.map_eq_some_iff.mp final
  obtain ⟨left, blocked, noCodes⟩ := of_decide_eq_true checked
  rw [noneLeft driver (by decide) executed blocked noCodes] at left
  cases left

end FwkRtos.SpiSlave

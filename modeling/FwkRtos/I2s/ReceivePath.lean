import FwkRtos.I2s.Receive
import FwkRtos.Transition.TwoRuns

/-!
# The receive path and the send filter

Of two runs with the same steps on the receive path, whatever the send sides are and do: the
calls of the receive filter and the words returned are the same exactly if the receive filter
is given the same data.  What it is given is the data of the send filter.
-/

namespace FwkRtos.I2s

open FwkRtos.Osal FwkRtos.SampleStream FwkRtos.Transition

universe u

variable {S : Type u}

/-- The steps on the receive path: a frame is received, the receive filter is called with its
data or `i2s_receive` goes on, a task calls `i2s_local_rx` or its call goes on or times out,
and the interrupt handler gives the semaphore. -/
inductive ReceiveEvent (S : Type u)
  | receive (frame : List Sample)
  | filter (appData : S)
  | hil
  | rx (frameCount : UInt32) (timeout : Timeout)
  | task
  | timeOut
  | wake
  deriving DecidableEq

/-- The step without the data of the filter. -/
def ReceiveEvent.withoutData : ReceiveEvent S → ReceiveEvent Unit
  | .receive frame => .receive frame
  | .filter _ => .filter ()
  | .hil => .hil
  | .rx frameCount timeout => .rx frameCount timeout
  | .task => .task
  | .timeOut => .timeOut
  | .wake => .wake

/-- The data that the receive filter is given, if the step calls it. -/
def ReceiveEvent.data? : ReceiveEvent S → Option S
  | .filter appData => some appData
  | .receive _ | .hil | .rx _ _ | .task | .timeOut | .wake => none

/-- Where in `i2s_receive` the library's thread is. -/
def HilPoint.receiving? : HilPoint → Option HilPoint
  | .idle => none
  | .store frame => some (.store frame)
  | .receiveFilter frame wordsFree => some (.receiveFilter frame wordsFree)
  | .addWritten stored => some (.addWritten stored)
  | .examine .recv => some (.examine .recv)
  | .compare .recv => some (.compare .recv)
  | .answer .recv => some (.answer .recv)
  | .signal .recv => some (.signal .recv)
  | .fetch | .sendFilter _ | .addRead _ _ | .examine .send | .compare .send | .answer .send
  | .signal .send => none

/-- What a step is on the receive path, if it is on it. -/
def receiveEvent (driver : Driver S) : Label S → Option (ReceiveEvent S)
  | .receive frame => some (.receive frame)
  | .hil =>
      match driver.hil.receiving? with
      | none => none
      | some (.receiveFilter _ _) => some (.filter driver.sendFilterAppData)
      | some _ => some .hil
  | .isr =>
      match driver.isr with
      | .resumeRecv action =>
          if action &&& Direction.recv.resumeBm ≠ 0 then some .wake else none
      | .idle | .resumeSend _ => none
  | .rx frameCount timeout => some (.rx frameCount timeout)
  | .task .recv => some .task
  | .timeOut .recv => some .timeOut
  | .sendFrame | .tx _ _ _ | .task .send | .timeOut .send | .share _ => none

/-- What the receive filter is called with, if the step calls it. -/
def filterCall (driver : Driver S) : Label S → Option (S × List Sample × UInt32)
  | .hil =>
      match driver.hil with
      | .receiveFilter frame wordsFree => some (driver.filterArguments frame wordsFree)
      | _ => none
  | _ => none

/-- The two configurations receive alike. -/
structure ReceiveAlike (first second : Config S) : Prop where
  numIn : first.numIn = second.numIn
  recvBufferSize : first.recvBufferSize = second.recvBufferSize
  receiveFilterCb : first.receiveFilterCb = second.receiveFilterCb
  memory : first.memory .recv = second.memory .recv

/-- The two drivers are alike on the receive path. -/
structure SameReceive (first second : Driver S) : Prop where
  recv : first.recv = second.recv
  point : first.hil.receiving? = second.hil.receiving?

/-! ## Silent steps -/

/-- A step that is not on the receive path leaves it alone. -/
theorem Move.silent {config : Config S} {source target : Driver S} {label : Label S}
    (move : Move config source label target) (silent : receiveEvent source label = none) :
    target.recv = source.recv ∧ target.hil.receiving? = source.hil.receiving? := by
  cases move with
  | accept | drop | offer | rx => cases silent
  | store point | receiveFilter point | addWritten point =>
      simp [receiveEvent, point, HilPoint.receiving?] at silent
  | enough point | underrun point | offerSend point =>
      refine ⟨rfl, ?_⟩
      rw [point]
      rfl
  | fetch point =>
      rw [Driver.fetched, Driver.sent, point]
      split <;> exact ⟨rfl, rfl⟩
  | sendFilter point =>
      simp only [Driver.sendFiltered, Driver.sent, point]
      split <;> exact ⟨rfl, rfl⟩
  | addRead point => exact ⟨rfl, by rw [point]; rfl⟩
  | @required direction point | @nothing direction point | @suffices_ direction point
  | @tooFew direction point | @signal direction point | @done direction point =>
      cases direction with
      | recv => simp [receiveEvent, point, HilPoint.receiving?] at silent
      | send => exact ⟨rfl, by rw [point]; rfl⟩
  | @answer direction point =>
      cases direction with
      | recv => simp [receiveEvent, point, HilPoint.receiving?] at silent
      | send => exact ⟨rfl, by rw [point]; rfl⟩
  | isrEnter | tx | share => exact ⟨rfl, rfl⟩
  | isrSend =>
      rw [Driver.resume]
      split <;> exact ⟨rfl, rfl⟩
  | @isrRecv action point =>
      have unset : ¬ action &&& Direction.recv.resumeBm ≠ 0 := by
        intro set_
        simp [receiveEvent, point, set_] at silent
      rw [Driver.resume, if_neg unset]
      exact ⟨rfl, rfl⟩
  | @task direction | @timeOut direction =>
      cases direction with
      | recv => cases silent
      | send => exact ⟨rfl, rfl⟩

/-- A step that is not on the receive path calls no receive filter. -/
theorem filterCall_of_silent {driver : Driver S} {label : Label S}
    (silent : receiveEvent driver label = none) : filterCall driver label = none := by
  cases label with
  | hil =>
      cases point : driver.hil with
      | receiveFilter frame wordsFree =>
          simp [receiveEvent, point, HilPoint.receiving?] at silent
      | _ => simp [filterCall, point]
  | _ => rfl

theorem data_of_event (driver : Driver S) (label : Label S) :
    (receiveEvent driver label).bind ReceiveEvent.data? =
      (filterCall driver label).bind fun arguments => some arguments.1 := by
  cases label with
  | hil =>
      cases point : driver.hil with
      | examine direction | compare direction | answer direction | signal direction =>
          cases direction <;> simp [receiveEvent, filterCall, point, HilPoint.receiving?,
            ReceiveEvent.data?]
      | _ =>
          simp [receiveEvent, filterCall, point, HilPoint.receiving?, ReceiveEvent.data?,
            Driver.filterArguments]
  | isr =>
      cases point : driver.isr with
      | resumeRecv action =>
          simp only [receiveEvent, point]
          split <;> rfl
      | idle | resumeSend => simp [receiveEvent, filterCall, point]
  | task direction | timeOut direction => cases direction <;> rfl
  | _ => rfl

/-! ## Steps on the receive path -/

/-- The label of an event, and where the driver is. -/
inductive OnPath (driver : Driver S) : Label S → ReceiveEvent S → Prop
  | receive {frame : List Sample} : OnPath driver (.receive frame) (.receive frame)
  | filter {frame : List Sample} {wordsFree : UInt32}
      (point : driver.hil = .receiveFilter frame wordsFree) :
      OnPath driver .hil (.filter driver.sendFilterAppData)
  | hil {point : HilPoint} (receiving : driver.hil.receiving? = some point)
      (noFilter : ∀ frame wordsFree, point ≠ .receiveFilter frame wordsFree) :
      OnPath driver .hil .hil
  | rx {frameCount : UInt32} {timeout : Timeout} :
      OnPath driver (.rx frameCount timeout) (.rx frameCount timeout)
  | task : OnPath driver (.task .recv) .task
  | timeOut : OnPath driver (.timeOut .recv) .timeOut
  | wake {action : UInt8} (point : driver.isr = .resumeRecv action)
      (set_ : action &&& Direction.recv.resumeBm ≠ 0) : OnPath driver .isr .wake

theorem eq_of_receiving {hil point : HilPoint} (receiving : hil.receiving? = some point) :
    hil = point := by
  cases hil with
  | examine direction | compare direction | answer direction | signal direction =>
      cases direction <;> cases receiving
      rfl
  | _ => cases receiving <;> rfl

theorem onPath_of_event {driver : Driver S} {label : Label S} {event : ReceiveEvent S}
    (isEvent : receiveEvent driver label = some event) : OnPath driver label event := by
  cases label with
  | receive | rx =>
      cases isEvent
      constructor
  | sendFrame | tx | share => cases isEvent
  | task direction | timeOut direction =>
      cases direction <;> cases isEvent
      constructor
  | isr =>
      cases point : driver.isr with
      | idle | resumeSend => simp [receiveEvent, point] at isEvent
      | resumeRecv action =>
          simp only [receiveEvent, point, Option.ite_none_right_eq_some, Option.some.injEq]
            at isEvent
          rcases isEvent with ⟨set_, rfl⟩
          exact .wake point set_
  | hil =>
      rw [receiveEvent] at isEvent
      split at isEvent
      · cases isEvent
      · next frame wordsFree receiving =>
          cases isEvent
          exact .filter (eq_of_receiving receiving)
      · next point noFilter receiving =>
          cases isEvent
          exact .hil receiving fun frame wordsFree equal => noFilter frame wordsFree equal

section Both

variable {first second : Config S} {driver driver' target target' : Driver S}

theorem ReceiveAlike.frameWords (alike : ReceiveAlike first second) :
    first.frameWords .recv = second.frameWords .recv :=
  congrArg (2 * ·) alike.numIn

/-- What is stored and what comes next depends on the receive path alone. -/
theorem SameReceive.received (same : SameReceive driver driver')
    (alike : ReceiveAlike first second) (stored : List Sample) (count : UInt32) :
    SameReceive (driver.received first stored count) (driver'.received second stored count) := by
  unfold Driver.received
  rw [alike.frameWords, same.recv]
  split <;> exact ⟨rfl, rfl⟩

/-- A frame is received in both runs. -/
theorem SameReceive.receive (same : SameReceive driver driver')
    (alike : ReceiveAlike first second) {frame : List Sample}
    (step : next first driver (.receive frame) = some target)
    (step' : next second driver' (.receive frame) = some target') : SameReceive target target' := by
  rw [next, Option.ite_none_right_eq_some] at step step'
  cases step.2
  cases step'.2
  unfold i2sReceive
  rw [alike.receiveFilterCb, alike.frameWords, same.recv]
  split
  · split <;> exact ⟨rfl, rfl⟩
  · exact ⟨rfl, rfl⟩

/-- `i2s_receive` goes on in both runs, with the same data if it calls a filter. -/
theorem SameReceive.hil (same : SameReceive driver driver') (alike : ReceiveAlike first second)
    {point : HilPoint} (receiving : driver.hil.receiving? = some point)
    (data : ∀ frame wordsFree, point = .receiveFilter frame wordsFree →
      driver.sendFilterAppData = driver'.sendFilterAppData)
    (step : next first driver .hil = some target)
    (step' : next second driver' .hil = some target') : SameReceive target target' := by
  have at_ := eq_of_receiving receiving
  have at' := eq_of_receiving (same.point ▸ receiving)
  rw [next, at_] at step
  rw [next, at'] at step'
  rw [at_] at receiving
  cases point with
  | idle | fetch | sendFilter | addRead => cases receiving
  | store frame =>
      cases step
      cases step'
      rw [alike.frameWords]
      exact same.received alike frame _
  | receiveFilter frame wordsFree =>
      rw [hilThread, alike.receiveFilterCb] at step
      rcases Option.map_eq_some_iff.mp step with ⟨cb, filter, rfl⟩
      rw [hilThread, filter] at step'
      cases step'
      simp only [Driver.receiveFiltered, data frame wordsFree rfl, same.recv]
      refine SameReceive.received ?_ alike _ _
      exact ⟨rfl, same.point⟩
  | addWritten stored =>
      cases step
      cases step'
      rw [alike.frameWords, same.recv]
      exact ⟨rfl, rfl⟩
  | examine direction | compare direction =>
      cases direction with
      | send => cases receiving
      | recv =>
          cases step
          cases step'
          change SameReceive { driver with hil := if _ then _ else _ }
            { driver' with hil := if _ then _ else _ }
          rw [Driver.stream, Driver.stream, same.recv]
          exact ⟨rfl, rfl⟩
  | answer direction =>
      cases direction with
      | send => cases receiving
      | recv =>
          cases step
          cases step'
          unfold Driver.answered Driver.stream
          rw [same.recv]
          exact ⟨rfl, rfl⟩
  | signal direction =>
      cases direction with
      | send => cases receiving
      | recv =>
          simp only [hilThread] at step step'
          split at step <;> split at step' <;> cases step <;> cases step' <;>
            exact ⟨same.recv, rfl⟩

/-- A step with the same event takes both runs on alike. -/
theorem SameReceive.both (same : SameReceive driver driver')
    (alike : ReceiveAlike first second) {label label' : Label S} {event : ReceiveEvent S}
    (isEvent : receiveEvent driver label = some event)
    (isEvent' : receiveEvent driver' label' = some event)
    (step : next first driver label = some target)
    (step' : next second driver' label' = some target') :
    SameReceive target target' ∧ filterCall driver label = filterCall driver' label' := by
  have onPath := onPath_of_event isEvent
  have onPath' := onPath_of_event isEvent'
  cases onPath with
  | receive =>
      cases onPath'
      exact ⟨same.receive alike step step', rfl⟩
  | @filter frame wordsFree point =>
      generalize shared : driver.sendFilterAppData = appData at onPath'
      cases onPath' with
      | @filter frame' wordsFree' point' =>
          have receiving : driver.hil.receiving? = some (.receiveFilter frame wordsFree) := by
            rw [point]
            rfl
          refine ⟨same.hil alike receiving (fun _ _ _ => shared) step step', ?_⟩
          rw [same.point, point'] at receiving
          cases receiving
          simp only [filterCall, point, point', Driver.filterArguments, shared, same.recv]
  | @hil at_ receiving noFilter =>
      cases onPath' with
      | hil receiving' =>
          refine ⟨same.hil alike receiving (fun _ _ isFilter => absurd isFilter (noFilter _ _))
            step step', ?_⟩
          have calls : ∀ {state : Driver S}, state.hil.receiving? = some at_ →
              filterCall state .hil = none := by
            intro state isAt
            rw [filterCall, eq_of_receiving isAt]
            split
            · exact absurd rfl (noFilter _ _)
            · rfl
          rw [calls receiving, calls (same.point ▸ receiving)]
  | rx =>
      cases onPath'
      rcases Option.map_eq_some_iff.mp step with ⟨stream, begins, rfl⟩
      rcases Option.map_eq_some_iff.mp step' with ⟨stream', begins', rfl⟩
      have request : ∀ frameCount timeout, i2sLocalRx first frameCount timeout =
          i2sLocalRx second frameCount timeout := by
        intro frameCount timeout
        rw [i2sLocalRx, i2sLocalRx, alike.numIn]
      rw [request, same.recv, begins'] at begins
      cases begins
      exact ⟨⟨rfl, same.point⟩, rfl⟩
  | task =>
      cases onPath'
      rcases Option.map_eq_some_iff.mp step with ⟨stream, runs, rfl⟩
      rcases Option.map_eq_some_iff.mp step' with ⟨stream', runs', rfl⟩
      rw [Driver.stream, same.recv] at runs
      cases runs.symm.trans runs'
      exact ⟨⟨rfl, same.point⟩, rfl⟩
  | timeOut =>
      cases onPath'
      rcases Option.map_eq_some_iff.mp step with ⟨stream, late, rfl⟩
      rcases Option.map_eq_some_iff.mp step' with ⟨stream', late', rfl⟩
      rw [Driver.stream, same.recv] at late
      cases late.symm.trans late'
      exact ⟨⟨rfl, same.point⟩, rfl⟩
  | wake point set_ =>
      cases onPath' with
      | wake point' set' =>
          rw [next, point, rtosI2sIsr, Driver.resume, if_pos set_] at step
          rw [next, point', rtosI2sIsr, Driver.resume, if_pos set'] at step'
          cases step
          cases step'
          refine ⟨⟨?_, same.point⟩, rfl⟩
          change (driver.recv).wakeUp = (driver'.recv).wakeUp
          rw [same.recv]

theorem unwinds_receive (alike : ReceiveAlike first second) :
    Unwinds (next first) (next second) receiveEvent receiveEvent filterCall filterCall
      SameReceive where
  silent same silent step :=
    have quiet := (move_of_next step).silent silent
    ⟨⟨quiet.1.trans same.recv, quiet.2.trans same.point⟩, filterCall_of_silent silent⟩
  silent' same silent step :=
    have quiet := (move_of_next step).silent silent
    ⟨⟨same.recv.trans quiet.1.symm, same.point.trans quiet.2.symm⟩, filterCall_of_silent silent⟩
  both same isEvent isEvent' step step' := same.both alike isEvent isEvent' step step'

end Both

/-! ## Runs -/

/-- The steps of a run on the receive path. -/
def receiveEvents (config : Config S) (schedule : List (Label S)) : List (ReceiveEvent S) :=
  seen (next config) receiveEvent (start config) schedule

/-- The calls of the receive filter in a run. -/
def filterCalls (config : Config S) (schedule : List (Label S)) :
    List (S × List Sample × UInt32) :=
  seen (next config) filterCall (start config) schedule

/-- The data of the send filter, as it is whenever the receive filter is called. -/
def dataAtCalls (config : Config S) (schedule : List (Label S)) : List S :=
  (receiveEvents config schedule).filterMap ReceiveEvent.data?

theorem map_filterCalls (config : Config S) (schedule : List (Label S)) :
    (filterCalls config schedule).map Prod.fst = dataAtCalls config schedule := by
  rw [dataAtCalls, receiveEvents, seen_map data_of_event, ← List.filterMap_eq_map]
  exact seen_map (fun _ _ => rfl) _ _

/-- Steps that are the same but for the data, and have the same data, are the same. -/
theorem events_eq {events events' : List (ReceiveEvent S)}
    (same : events.map ReceiveEvent.withoutData = events'.map ReceiveEvent.withoutData)
    (data : events.filterMap ReceiveEvent.data? = events'.filterMap ReceiveEvent.data?) :
    events = events' := by
  induction events generalizing events' with
  | nil => exact (List.map_eq_nil_iff.mp same.symm).symm
  | cons event events ih =>
      cases events' with
      | nil => cases same
      | cons event' events' =>
          rw [List.map_cons, List.map_cons, List.cons.injEq] at same
          rcases same with ⟨first, rest⟩
          cases event <;> cases event' <;> cases first <;>
            simp only [List.filterMap_cons, ReceiveEvent.data?, List.cons.injEq] at data
          case cons.cons.filter.filter.refl => rw [data.1, ih rest data.2]
          all_goals rw [ih rest data]

/-- What comes out of the receive path is the same in two runs: what the receive filter is
called with, and what `i2s_local_rx` returns. -/
structure ReceivesSame (first second : Config S) (schedule schedule' : List (Label S))
    (driver driver' : Driver S) : Prop where
  calls : filterCalls first schedule = filterCalls second schedule'
  read : driver.recv.read = driver'.recv.read
  result : driver.recv.result = driver'.recv.result

/-- Two runs with the same steps on the receive path, of drivers that may differ in all that
has to do with sending, receive the same exactly if the data of the send filter are the same
whenever the receive filter is called. -/
theorem receivesSame_iff {first second : Config S} (alike : ReceiveAlike first second)
    {schedule schedule' : List (Label S)} {driver driver' : Driver S}
    (executed : run (next first) (start first) schedule = some driver)
    (executed' : run (next second) (start second) schedule' = some driver')
    (steps : (receiveEvents first schedule).map ReceiveEvent.withoutData =
      (receiveEvents second schedule').map ReceiveEvent.withoutData) :
    ReceivesSame first second schedule schedule' driver driver' ↔
      dataAtCalls first schedule = dataAtCalls second schedule' := by
  constructor
  · intro same
    rw [← map_filterCalls, ← map_filterCalls, same.calls]
  · intro data
    have initial : SameReceive (start first) (start second) := by
      constructor
      case point => rfl
      case recv =>
        change Stream.create (first.memory .recv) (first.bufSize .recv) =
          Stream.create (second.memory .recv) (second.bufSize .recv)
        rw [alike.memory, Config.bufSize, Config.bufSize, alike.recvBufferSize, alike.numIn]
    rcases (unwinds_receive alike).run initial executed executed' (events_eq steps data) with
      ⟨same, calls⟩
    exact ⟨calls, congrArg Stream.read same.recv, congrArg Stream.result same.recv⟩

/-- A receive filter that adds its data to every word, and a send buffer and data of the send
filter. -/
def addsData (sendBufferSize : UInt32) (appData : Sample) : Config Sample where
  numIn := 1
  numOut := 0
  recvBufferSize := 2
  sendBufferSize := sendBufferSize
  sendFilterCb := none
  receiveFilterCb := some fun appData frame _ => (appData, frame.map (· + appData), 2)
  appData := appData
  memory _ _ := 0

/-- A frame is received and returned. -/
def oneFrame : List (Label Sample) :=
  .receive [1, 2] :: List.replicate 4 .hil ++
    .rx 1 rtosOsalPortWaitForever :: List.replicate 3 (.task .recv)

theorem addsData_alike (size size' : UInt32) (appData appData' : Sample) :
    ReceiveAlike (addsData size appData) (addsData size' appData') :=
  ⟨rfl, rfl, rfl, rfl⟩

theorem oneFrame_receivesSame :
    ∃ driver driver', ReceivesSame (addsData 0 5) (addsData 7 5) oneFrame
      (.share 5 :: oneFrame) driver driver' := by
  rcases executed : run (next (addsData 0 5)) (start (addsData 0 5)) oneFrame with _ | driver
  · exact absurd executed (by decide)
  rcases executed' : run (next (addsData 7 5))
    (start (addsData 7 5)) (.share 5 :: oneFrame) with _ | driver'
  · exact absurd executed' (by decide)
  exact ⟨driver, driver', (receivesSame_iff (addsData_alike 0 7 5 5) executed executed'
    (by decide)).mpr (by decide)⟩

/-- The data of the send filter are in the words received. -/
theorem oneFrame_not_receivesSame :
    ∃ driver driver', run (next (addsData 0 0)) (start (addsData 0 0)) oneFrame = some driver ∧
      run (next (addsData 0 10)) (start (addsData 0 10)) oneFrame = some driver' ∧
      ReceiveAlike (addsData 0 0) (addsData 0 10) ∧
      (receiveEvents (addsData 0 0) oneFrame).map ReceiveEvent.withoutData =
        (receiveEvents (addsData 0 10) oneFrame).map ReceiveEvent.withoutData ∧
      driver.recv.read = [1, 2] ∧ driver'.recv.read = [11, 12] ∧
      ¬ ReceivesSame (addsData 0 0) (addsData 0 10) oneFrame oneFrame driver driver' := by
  have reads : (run (next (addsData 0 0)) (start (addsData 0 0)) oneFrame).map
      (fun driver => driver.recv.read) = some [1, 2] := by decide
  have reads' : (run (next (addsData 0 10)) (start (addsData 0 10)) oneFrame).map
      (fun driver => driver.recv.read) = some [11, 12] := by decide
  rcases Option.map_eq_some_iff.mp reads with ⟨driver, executed, read⟩
  rcases Option.map_eq_some_iff.mp reads' with ⟨driver', executed', read'⟩
  refine ⟨driver, driver', executed, executed', addsData_alike 0 0 0 10, by decide, read,
    read', ?_⟩
  intro same
  have equal := same.read
  rw [read, read'] at equal
  exact absurd equal (by decide)

end FwkRtos.I2s

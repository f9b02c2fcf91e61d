import FwkRtos.SampleStream.HandShake

/-!
# A task and its peer

What a driver does to one of its streams, seen from the task at its one end: the
task's calls, and the steps of the peer at the other end, which claims words,
moves them, adds them to its counter and then looks at the required count.  The
drivers are shown to take only such steps, and what every step keeps is proved
here for all of them.
-/

namespace FwkRtos.SampleStream

open FwkRtos.Osal

def Side.other : Side → Side
  | .reader => .writer
  | .writer => .reader

/-- A stream, how far the peer of its task is, and the wake-ups on their way. -/
@[ext]
structure View where
  stream : Stream
  peer : Moving
  asking : Asking
  flight : Nat

/-- What the task does in a step; else the peer takes it, or nobody. -/
inductive Event
  | begin (request : Request)
  | run
  | timeOut
  | peer

/-- The steps of the protocol. -/
inductive Step (side : Side) (view : View) : Event → View → Prop
  | stutter : Step side view .peer view
  | begin {request : Request} {stream : Stream} (step : view.stream.begin request = some stream)
      (samples : side = .writer → request.samples.length = request.words.toNat) :
      Step side view (.begin request) { view with stream := stream }
  | run {stream : Stream} (runs : view.stream.Runs side stream)
      (covers : view.stream.GrantCovers side) : Step side view .run { view with stream := stream }
  | timeOut {stream : Stream} (step : view.stream.timeOut = some stream) :
      Step side view .timeOut { view with stream := stream }
  | claim {room : UInt32} (idle : view.peer = still)
      (fits : room ≤ side.other.room view.stream.buffer) :
      Step side view .peer { view with peer := ⟨[], room.toNat⟩ }
  | abandon (nothing : view.peer.moved = []) : Step side view .peer { view with peer := still }
  | move {samples : List Sample} {count : UInt32} {left : Nat}
      (claimed : count.toNat + left ≤ view.peer.left)
      (within : (side.other.index view.stream.buffer).toNat + count.toNat ≤
        view.stream.buffer.bufSize.toNat)
      (enough : side.other = .writer → count.toNat ≤ samples.length) :
      Step side view .peer { view with
        stream := { view.stream with
          buffer := (side.other.move view.stream.buffer samples count).1 }
        peer := ⟨view.peer.moved ++ (side.other.move view.stream.buffer samples count).2, left⟩ }
  | publish {count : UInt32} (counted : view.peer.moved.length = count.toNat) :
      Step side view .peer { view with
        stream := view.stream.publish side.other view.peer.moved count
        peer := still }
  | examine (point : view.asking = .nothing) (required : view.stream.buffer.required ≠ 0) :
      Step side view .peer { view with asking := .compare }
  | compare (point : view.asking = .compare) {after : Asking}
      (suffices_ : after = .answer →
        view.stream.buffer.required ≤ side.room view.stream.buffer) :
      Step side view .peer { view with asking := after }
  | answer (point : view.asking = .answer) :
      Step side view .peer { view with
        stream := { view.stream with buffer := view.stream.buffer.require 0 }
        asking := .nothing
        flight := view.flight + 1 }
  | wakeUp {flight : Nat} (point : view.flight = flight + 1) :
      Step side view .peer { view with stream := view.stream.wakeUp, flight := flight }

/-! ## The stream -/

/-- From the end of the peer. -/
theorem Side.Carries.swap {side : Side} {buffer : SampleBuffer} {written read : List Sample}
    {own peer : Moving} :
    side.other.Carries buffer written read peer own ↔
      side.Carries buffer written read own peer := by
  cases side <;> exact Iff.rfl

/-- An end may move fewer words than it has claimed. -/
theorem Side.Carries.less {side : Side} {buffer : SampleBuffer} {written read : List Sample}
    {own peer : Moving} {less : Nat} (carries : side.Carries buffer written read own peer)
    (order : less ≤ own.left) : side.Carries buffer written read ⟨own.moved, less⟩ peer := by
  cases side with
  | reader =>
      have carries : SampleBuffer.Carries .. := carries
      exact { carries with
        available := (Nat.add_le_add_left order _).trans carries.available }
  | writer =>
      have carries : SampleBuffer.Carries .. := carries
      exact { carries with free := (Nat.add_le_add_left order _).trans carries.free }

/-- The view of a stream that its buffer carries. -/
def View.Carried (side : Side) (view : View) : Prop :=
  view.stream.Carries side view.peer

theorem Step.carried {side : Side} {source target : View} {event : Event}
    (step : Step side source event target) (carried : source.Carried side) :
    target.Carried side := by
  cases step with
  | stutter => exact carried
  | begin step samples => exact Stream.Carries.begin carried samples step
  | run runs covers => exact Stream.Carries.run carried covers runs
  | timeOut step => exact Stream.Carries.timeOut carried step
  | claim idle fits =>
      have buffer := Side.Carries.swap.mpr carried.buffer
      rw [idle] at buffer
      exact ⟨Side.Carries.swap.mp (buffer.claim fits), carried.counted⟩
  | abandon nothing =>
      have buffer := (Side.Carries.swap.mpr carried.buffer).less (Nat.zero_le _)
      rw [nothing] at buffer
      exact ⟨Side.Carries.swap.mp buffer, carried.counted⟩
  | move claimed within enough =>
      have buffer := Side.Carries.swap.mpr carried.buffer
      have moved := buffer.move ((Nat.le_add_right _ _).trans claimed) within enough
      exact ⟨Side.Carries.swap.mp (moved.less (Nat.le_sub_of_add_le' claimed)), carried.counted⟩
  | publish counted =>
      have buffer := Side.Carries.swap.mpr carried.buffer
      exact ⟨Side.Carries.swap.mp (buffer.publish counted), carried.counted⟩
  | answer point => exact ⟨carried.buffer.require 0, carried.counted⟩
  | examine | compare | wakeUp => exact ⟨carried.buffer, carried.counted⟩

/-- No step changes the size of the buffer. -/
theorem Step.bufSize {side : Side} {source target : View} {event : Event}
    (step : Step side source event target) :
    target.stream.buffer.bufSize = source.stream.buffer.bufSize := by
  cases step with
  | begin step =>
      obtain ⟨_, ⟨_, rfl⟩ | ⟨_, ⟨_, rfl⟩ | ⟨_, rfl⟩⟩⟩ := Stream.begin_eq_some step <;> rfl
  | run runs => cases runs <;> cases side <;> rfl
  | timeOut step =>
      obtain ⟨_, _, _, _, rfl⟩ := Stream.timeOut_eq_some step
      rfl
  | move | publish => cases side <;> rfl
  | stutter | claim | abandon | examine | compare | answer | wakeUp => rfl

/-! ## The hand-shake -/

/-- The view of a stream whose hand-shake is in order. -/
def View.Shaken (view : View) : Prop :=
  view.stream.HandShake view.asking view.flight

theorem Step.shaken {side : Side} {source target : View} {event : Event}
    (step : Step side source event target) (shaken : source.Shaken) : target.Shaken := by
  cases step with
  | stutter => exact shaken
  | begin step => exact Stream.HandShake.begin shaken step
  | run runs => exact Stream.HandShake.run shaken runs
  | timeOut step => exact Stream.HandShake.timeOut shaken step
  | claim | abandon => exact shaken
  | move | publish => cases side <;> exact ⟨shaken.free, shaken.blocked, shaken.flag, shaken.binary⟩
  | examine point required =>
      have shaken : Stream.HandShake _ _ _ := shaken
      rw [point] at shaken
      exact shaken.examine required
  | compare point =>
      have shaken : Stream.HandShake _ _ _ := shaken
      rw [point] at shaken
      exact shaken.compared _
  | answer point =>
      have shaken : Stream.HandShake _ _ _ := shaken
      rw [point] at shaken
      exact shaken.answered
  | wakeUp point =>
      have shaken : Stream.HandShake _ _ _ := shaken
      rw [point] at shaken
      exact shaken.wokenUp

/-! ## Patient calls -/

/-- The view of a stream whose calls so far have all been patient. -/
def View.Patient (side : Side) (view : View) : Prop :=
  view.stream.Patient side view.asking

/-- The peer only adds to what the task may move. -/
theorem Side.Enough.publish {side : Side} {stream : Stream} {moved : List Sample}
    {count words : UInt32} (enough : side.Enough stream words) :
    side.Enough (stream.publish side.other moved count) words := by
  cases side with
  | reader =>
      show _ ≤ (stream.written ++ moved).length
      rw [List.length_append]
      exact Nat.le_add_right_of_le enough
  | writer =>
      show _ ≤ (stream.read ++ moved).length + stream.buffer.bufSize.toNat
      rw [List.length_append, Nat.add_right_comm]
      exact Nat.le_add_right_of_le enough

/-- As long as the calls that begin may wait for ever, all calls are patient. -/
theorem Step.patient {side : Side} {source target : View} {event : Event}
    (step : Step side source event target) (carried : source.Carried side)
    (shaken : source.Shaken) (patient : source.Patient side)
    (blocking : ∀ request, event = .begin request →
      request.timeout = rtosOsalPortWaitForever) : target.Patient side := by
  cases step with
  | stutter => exact patient
  | begin step => exact Stream.Patient.begin patient (blocking _ rfl) step
  | run runs => exact Stream.Patient.run patient shaken runs
  | timeOut step => exact absurd step (Stream.Patient.not_timeOut patient)
  | claim | abandon => exact patient
  | move =>
      cases side <;> exact Stream.Patient.grow patient rfl rfl rfl fun _ enough => enough
  | publish =>
      cases side <;> exact Stream.Patient.grow patient rfl rfl rfl fun _ => Side.Enough.publish
  | examine => exact Stream.Patient.asks patient nofun
  | compare point suffices_ =>
      exact Stream.Patient.asks patient fun answers =>
        carried.buffer.enough_iff.mpr (suffices_ answers)
  | answer point =>
      have patient : Stream.Patient _ _ _ := patient
      have shaken : Stream.HandShake _ _ _ := shaken
      rw [point] at patient shaken
      exact patient.answered shaken
  | wakeUp => exact ⟨patient.blocking, patient.waiting, patient.required, patient.granted⟩

/-! ## Waiting calls -/

/-- The call waits although its words are there. -/
structure View.Waits (side : Side) (request : Request) (view : View) : Prop where
  point : view.stream.call = .wait request
  enough : side.Enough view.stream request.words

theorem sem_le_wakeUp (stream : Stream) : stream.sem.count ≤ stream.wakeUp.sem.count := by
  rw [Stream.wakeUp]
  cases put : stream.sem.put? with
  | none => exact Nat.le_refl _
  | some sem =>
      obtain ⟨_, rfl⟩ := Semaphore.put?_eq_some_iff.mp put
      exact Nat.le_succ _

/-- A call that waits goes on waiting until it is given the semaphore. -/
theorem Step.stillWaits {side : Side} {source target : View} {event : Event} {request : Request}
    (step : Step side source event target) (patient : source.Patient side)
    (point : source.stream.call = .wait request) :
    (target.stream.call = .wait request ∧ source.stream.sem.count ≤ target.stream.sem.count ∧
        event ≠ .run) ∨
      0 < source.stream.sem.count ∧ target.stream.call = .copy request request.words [] := by
  cases step with
  | begin step =>
      have idle := (Stream.begin_eq_some step).1
      rw [point] at idle
      cases idle
  | run runs =>
      cases runs with
      | granted waits given =>
          rw [point] at waits
          cases waits
          exact .inr ⟨given, rfl⟩
      | enough other | short other | demand other | copy other | complete other =>
          rw [point] at other
          cases other
  | timeOut step => exact absurd step (Stream.Patient.not_timeOut patient)
  | publish | move => cases side <;> exact .inl ⟨point, Nat.le_refl _, nofun⟩
  | wakeUp => exact .inl ⟨point, sem_le_wakeUp _, nofun⟩
  | stutter | claim | abandon | examine | compare | answer =>
      exact .inl ⟨point, Nat.le_refl _, nofun⟩

/-- What the task may move grows until it goes on. -/
theorem Step.enough {side : Side} {source target : View} {event : Event} {words : UInt32}
    (step : Step side source event target) (notRun : event ≠ .run)
    (enough : side.Enough source.stream words) : side.Enough target.stream words := by
  cases step with
  | begin step =>
      obtain ⟨_, ⟨_, rfl⟩ | ⟨_, ⟨_, rfl⟩ | ⟨_, rfl⟩⟩⟩ := Stream.begin_eq_some step <;> exact enough
  | run => exact absurd rfl notRun
  | timeOut step =>
      obtain ⟨_, _, _, _, rfl⟩ := Stream.timeOut_eq_some step
      exact enough
  | publish => exact Side.Enough.publish enough
  | move => cases side <;> exact enough
  | stutter | claim | abandon | examine | compare | answer | wakeUp => exact enough

/-- A reader takes nothing out until it goes on. -/
theorem Step.read_eq {source target : View} {event : Event}
    (step : Step .reader source event target) (notRun : event ≠ .run) :
    target.stream.read = source.stream.read := by
  cases step with
  | begin step => exact (Stream.begin_streams step).2
  | run => exact absurd rfl notRun
  | timeOut step => exact (Stream.timeOut_streams step).2
  | stutter | claim | abandon | move | publish | examine | compare | answer | wakeUp => rfl

end FwkRtos.SampleStream

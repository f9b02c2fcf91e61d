import FwkRtos.SampleStream.Call

/-!
# The hand-shake of a blocking call

A call that has to wait leaves a required count behind.  The interrupt level
compares it with the counters after every frame; once they suffice it takes the
count back and sends one wake-up, which arrives at the semaphore.  So while a
call is blocked there is either its count or one wake-up, and never both.
-/

namespace FwkRtos.SampleStream

open FwkRtos.Osal

/-- Where the interrupt level is with the required count: it has not looked, it
has seen one, or it has found that the counters suffice. -/
inductive Asking
  | nothing
  | compare
  | answer
  deriving DecidableEq

/-- Nothing is required and no wake-up is on its way. -/
structure Quiet (required : UInt32) (asking : Asking) (wakeUps : Nat) : Prop where
  required : required = 0
  asking : asking = .nothing
  wakeUps : wakeUps = 0

/-- A count is required. -/
structure Pending (required : UInt32) (wakeUps : Nat) : Prop where
  required : required ≠ 0
  wakeUps : wakeUps = 0

/-- A wake-up is on its way or at the semaphore. -/
structure Granted (required : UInt32) (asking : Asking) (wakeUps : Nat) : Prop where
  required : required = 0
  asking : asking = .nothing
  wakeUps : wakeUps = 1

/-- What the point of a call says about the blocked flag. -/
def CallPoint.FlagMatches (blocked : Bool) : CallPoint → Prop
  | .idle => True
  | .check _ | .copy _ _ _ => blocked = false
  | .demand request => blocked = false ∧ request.words ≠ 0
  | .wait _ => blocked = true

namespace Stream

/-- The semaphore is given; a full one stays full. -/
def wakeUp (stream : Stream) : Stream :=
  { stream with sem := stream.sem.put?.getD stream.sem }

/-- The wake-ups that the stream has, when `flight` more are on their way to its
semaphore. -/
abbrev wakeUps (stream : Stream) (flight : Nat) : Nat :=
  flight + stream.sem.count

/-- The hand-shake of a stream whose `flight` wake-ups are on their way to the
semaphore. -/
structure HandShake (stream : Stream) (asking : Asking) (flight : Nat) : Prop where
  free : stream.blocked = false →
    Quiet stream.buffer.required asking (stream.wakeUps flight)
  blocked : stream.blocked = true →
    Pending stream.buffer.required (stream.wakeUps flight) ∨
      Granted stream.buffer.required asking (stream.wakeUps flight)
  flag : stream.call.FlagMatches stream.blocked
  binary : stream.sem.maxCount = 1

namespace HandShake

variable {side : Side} {source target : Stream} {asking : Asking} {flight : Nat}

theorem create (memory : Nat → Sample) (bufSize : UInt32) :
    (Stream.create memory bufSize).HandShake .nothing 0 where
  free _ := ⟨rfl, rfl, rfl⟩
  blocked := nofun
  flag := trivial
  binary := rfl

/-- A count that is required belongs to a blocked call. -/
theorem pending (shake : source.HandShake asking flight) (required : source.buffer.required ≠ 0) :
    source.blocked = true ∧ source.wakeUps flight = 0 := by
  cases blocked : source.blocked with
  | false => exact absurd (shake.free blocked).required required
  | true =>
      rcases shake.blocked blocked with pending | granted
      · exact ⟨rfl, pending.wakeUps⟩
      · exact absurd granted.required required

/-- While the interrupt level looks at a count there is one. -/
theorem required_of_asking (shake : source.HandShake asking flight) (asks : asking ≠ .nothing) :
    source.buffer.required ≠ 0 := by
  cases blocked : source.blocked with
  | false => exact absurd (shake.free blocked).asking asks
  | true =>
      rcases shake.blocked blocked with pending | granted
      · exact pending.required
      · exact absurd granted.asking asks

/-- A wake-up belongs to a blocked call whose count was taken back. -/
theorem granted (shake : source.HandShake asking flight) (wakes : 0 < source.wakeUps flight) :
    source.blocked = true ∧ Granted source.buffer.required asking (source.wakeUps flight) := by
  cases blocked : source.blocked with
  | false => exact absurd (shake.free blocked).wakeUps (Nat.ne_of_gt wakes)
  | true =>
      rcases shake.blocked blocked with pending | granted
      · exact absurd pending.wakeUps (Nat.ne_of_gt wakes)
      · exact ⟨rfl, granted⟩

/-! ### The steps of the task -/

theorem begin (shake : source.HandShake asking flight) {request : Request}
    (step : Stream.begin source request = some target) : target.HandShake asking flight := by
  obtain ⟨_, ⟨_, rfl⟩ | ⟨_, ⟨free, rfl⟩ | ⟨blocked, rfl⟩⟩⟩ := begin_eq_some step
  · exact ⟨shake.free, shake.blocked, shake.flag, shake.binary⟩
  · exact ⟨shake.free, shake.blocked, free, shake.binary⟩
  · exact ⟨shake.free, shake.blocked, blocked, shake.binary⟩

theorem timeOut (shake : source.HandShake asking flight)
    (step : Stream.timeOut source = some target) : target.HandShake asking flight := by
  obtain ⟨_, _, _, _, rfl⟩ := timeOut_eq_some step
  exact ⟨shake.free, shake.blocked, trivial, shake.binary⟩

theorem addTotal_required (side : Side) (buffer : SampleBuffer) (count : UInt32) :
    (side.addTotal buffer count).required = buffer.required := by
  cases side <;> rfl

theorem move_required (side : Side) (buffer : SampleBuffer) (samples : List Sample)
    (count : UInt32) : (side.move buffer samples count).1.required = buffer.required := by
  cases side <;> rfl

theorem run (shake : source.HandShake asking flight) (runs : Runs side source target) :
    target.HandShake asking flight := by
  have flag := shake.flag
  cases runs with
  | enough point =>
      rw [point] at flag
      exact ⟨shake.free, shake.blocked, flag, shake.binary⟩
  | short point room =>
      rw [point] at flag
      refine ⟨shake.free, shake.blocked, ⟨flag, fun zero => ?_⟩, shake.binary⟩
      rw [zero] at room
      exact UInt32.not_lt_zero room
  | demand point =>
      rw [point] at flag
      obtain ⟨free, positive⟩ := flag
      have quiet := shake.free free
      exact ⟨nofun, fun _ => .inl ⟨positive, quiet.wakeUps⟩, rfl, shake.binary⟩
  | granted point given =>
      obtain ⟨_, granted⟩ := shake.granted (Nat.add_pos_right flight given)
      have one : flight + source.sem.count = 1 := granted.wakeUps
      refine ⟨fun _ => ⟨granted.required, granted.asking, ?_⟩, nofun, rfl, shake.binary⟩
      show flight + (source.sem.count - 1) = 0
      omega
  | copy point =>
      rw [point] at flag
      have quiet := shake.free flag
      rw [← move_required side source.buffer] at quiet
      exact ⟨fun _ => quiet, fun blocked => absurd (flag.symm.trans blocked) nofun, flag,
        shake.binary⟩
  | @complete request _ point =>
      rw [point] at flag
      have quiet := shake.free flag
      rw [← addTotal_required side source.buffer request.words] at quiet
      exact ⟨fun _ => quiet, fun blocked => absurd (flag.symm.trans blocked) nofun, trivial,
        shake.binary⟩

/-! ### The steps of the interrupt level -/

/-- The interrupt level looks at the required count. -/
theorem examine (shake : source.HandShake .nothing flight)
    (required : source.buffer.required ≠ 0) : source.HandShake .compare flight where
  free free := absurd (shake.free free).required required
  blocked _ := .inl ⟨required, (shake.pending required).2⟩
  flag := shake.flag
  binary := shake.binary

/-- The interrupt level finds the counters sufficient, or gives up. -/
theorem compared (shake : source.HandShake .compare flight) (after : Asking) :
    source.HandShake after flight :=
  have required := shake.required_of_asking nofun
  { free := fun free => absurd (shake.free free).required required
    blocked := fun _ => .inl ⟨required, (shake.pending required).2⟩
    flag := shake.flag
    binary := shake.binary }

/-- The interrupt level takes the count back and sends a wake-up. -/
theorem answered (shake : source.HandShake .answer flight) :
    HandShake { source with buffer := source.buffer.require 0 } .nothing (flight + 1) :=
  have required := shake.required_of_asking nofun
  have pending := shake.pending required
  { free := fun free => absurd (pending.1.symm.trans free) nofun
    blocked := fun _ => .inr ⟨rfl, rfl, by
      show flight + 1 + source.sem.count = 1
      have none_ : flight + source.sem.count = 0 := pending.2
      omega⟩
    flag := shake.flag
    binary := shake.binary }

/-- A wake-up arrives at the semaphore. -/
theorem wokenUp (shake : source.HandShake asking (flight + 1)) :
    source.wakeUp.HandShake asking flight := by
  obtain ⟨blocked, granted⟩ := shake.granted (by rw [wakeUps]; omega)
  have one : flight + 1 + source.sem.count = 1 := granted.wakeUps
  have put : source.sem.put? = some { source.sem with count := source.sem.count + 1 } :=
    Semaphore.put?_eq_some_iff.mpr ⟨by rw [shake.binary]; omega, rfl⟩
  have woken : source.wakeUp =
      { source with sem := { source.sem with count := source.sem.count + 1 } } := by
    rw [wakeUp, put]
    rfl
  rw [woken]
  refine ⟨fun free => absurd (blocked.symm.trans free) nofun, fun _ => .inr
    ⟨granted.required, granted.asking, ?_⟩, shake.flag, shake.binary⟩
  show flight + (source.sem.count + 1) = 1
  omega

/-- The only wake-up on its way fills the semaphore. -/
theorem wokenUp_count (shake : source.HandShake asking 1) : 0 < source.wakeUp.sem.count := by
  obtain ⟨blocked, granted⟩ := shake.granted (Nat.add_pos_left Nat.one_pos _)
  rcases shake.wokenUp.blocked blocked with pending | arrived
  · exact absurd granted.required pending.required
  · have one : 0 + source.wakeUp.sem.count = 1 := arrived.wakeUps
    omega

end HandShake

end Stream

/-! ## Calls that wait as long as it takes -/

/-- The words that a call needs are in the buffer, or the cells are free. -/
def Side.Enough (side : Side) (stream : Stream) (words : UInt32) : Prop :=
  match side with
  | .reader => stream.read.length + words.toNat ≤ stream.written.length
  | .writer => stream.written.length + words.toNat ≤
      stream.read.length + stream.buffer.bufSize.toNat

/-- A buffer that carries the stream has room for the words exactly if its
counters say so. -/
theorem Side.Carries.enough_iff {side : Side} {stream : Stream} {own peer : Moving}
    (carries : side.Carries stream.buffer stream.written stream.read own peer) {words : UInt32} :
    side.Enough stream words ↔ words ≤ side.room stream.buffer := by
  rw [UInt32.le_iff_toNat_le]
  cases side with
  | reader =>
      have order := SampleBuffer.Carries.read_le carries
      rw [Side.room, SampleBuffer.Carries.toNat_wordsAvailable carries, Side.Enough]
      omega
  | writer =>
      have order := SampleBuffer.Carries.read_le carries
      have most := SampleBuffer.Carries.written_le carries
      rw [Side.room, SampleBuffer.Carries.toNat_wordsFree carries, Side.Enough]
      omega

/-- The call under way, if any, may wait for ever. -/
def CallPoint.Blocking : CallPoint → Prop
  | .idle => True
  | .check request | .demand request | .wait request | .copy request _ _ =>
      request.timeout = rtosOsalPortWaitForever

/-- Calls that do not time out: only a call that waits is blocked, the count that
is required is its own, and its wake-up is sent only when its words are there. -/
structure Stream.Patient (side : Side) (stream : Stream) (asking : Asking) : Prop where
  blocking : stream.call.Blocking
  waiting : stream.blocked = true → ∃ request, stream.call = .wait request
  required : ∀ ⦃request⦄, stream.call = .wait request → stream.buffer.required ≠ 0 →
    stream.buffer.required = request.words ∧ (asking = .answer → side.Enough stream request.words)
  granted : ∀ ⦃request⦄, stream.call = .wait request → stream.buffer.required = 0 →
    side.Enough stream request.words

namespace Stream.Patient

variable {side : Side} {source target : Stream} {asking : Asking} {flight : Nat}

theorem create (side : Side) (memory : Nat → Sample) (bufSize : UInt32) :
    (Stream.create memory bufSize).Patient side .nothing where
  blocking := trivial
  waiting := nofun
  required := nofun
  granted := nofun

/-- In the hand-shake of patient calls the semaphore is given only for words that
are there. -/
theorem grantCovers (patient : source.Patient side asking) (shake : source.HandShake asking flight)
    {peer : Moving} (carries : source.Carries side peer) : source.GrantCovers side := by
  unfold GrantCovers
  split
  · next request point =>
      intro given
      obtain ⟨_, granted⟩ := shake.granted (Nat.add_pos_right flight given)
      exact carries.buffer.enough_iff.mp (patient.granted point granted.required)
  · trivial

theorem begin (patient : source.Patient side asking) {request : Request}
    (blocking : request.timeout = rtosOsalPortWaitForever)
    (step : Stream.begin source request = some target) : target.Patient side asking := by
  obtain ⟨idle, ⟨_, rfl⟩ | ⟨_, ⟨free, rfl⟩ | ⟨blocked, rfl⟩⟩⟩ := begin_eq_some step
  · exact ⟨patient.blocking, patient.waiting, patient.required, patient.granted⟩
  · exact ⟨blocking, fun blocked => absurd (free.symm.trans blocked) nofun, nofun, nofun⟩
  · obtain ⟨_, point⟩ := patient.waiting blocked
    rw [idle] at point
    cases point

/-- A patient call does not time out. -/
theorem not_timeOut (patient : source.Patient side asking) :
    Stream.timeOut source ≠ some target := by
  intro step
  obtain ⟨request, point, finite, _, _⟩ := timeOut_eq_some step
  have blocking := patient.blocking
  rw [point] at blocking
  exact finite blocking

theorem run (patient : source.Patient side asking) (shake : source.HandShake asking flight)
    (runs : Runs side source target) : target.Patient side asking := by
  have flag := shake.flag
  have blocking := patient.blocking
  cases runs with
  | enough point =>
      rw [point] at flag blocking
      exact ⟨blocking, fun blocked => absurd (flag.symm.trans blocked) nofun, nofun, nofun⟩
  | short point =>
      rw [point] at flag blocking
      exact ⟨blocking, fun blocked => absurd (flag.symm.trans blocked) nofun, nofun, nofun⟩
  | @demand request point =>
      rw [point] at flag blocking
      have quiet := shake.free flag.1
      refine ⟨blocking, fun _ => ⟨request, rfl⟩, ?_, ?_⟩
      · rintro other waits _
        cases waits
        exact ⟨rfl, fun answers => absurd (quiet.asking.symm.trans answers) nofun⟩
      · rintro other _ nothing
        exact absurd nothing flag.2
  | granted point =>
      rw [point] at blocking
      exact ⟨blocking, nofun, nofun, nofun⟩
  | copy point =>
      rw [point] at flag blocking
      exact ⟨blocking, fun blocked => absurd (flag.symm.trans blocked) nofun, nofun, nofun⟩
  | complete point =>
      rw [point] at flag
      exact ⟨trivial, fun blocked => absurd (flag.symm.trans blocked) nofun, nofun, nofun⟩

/-- The peer of the task moves words. -/
theorem grow (patient : source.Patient side asking) (call : target.call = source.call)
    (blocked : target.blocked = source.blocked)
    (required : target.buffer.required = source.buffer.required)
    (grows : ∀ words, side.Enough source words → side.Enough target words) :
    target.Patient side asking where
  blocking := call ▸ patient.blocking
  waiting := by
    rw [call, blocked]
    exact patient.waiting
  required := by
    rw [call, required]
    intro request point positive
    obtain ⟨own, answered⟩ := patient.required point positive
    exact ⟨own, fun answers => grows _ (answered answers)⟩
  granted := by
    rw [call, required]
    exact fun request point nothing => grows _ (patient.granted point nothing)

/-- The interrupt level looks at the required count. -/
theorem asks (patient : source.Patient side asking) {after : Asking}
    (suffices_ : after = .answer → side.Enough source source.buffer.required) :
    source.Patient side after where
  blocking := patient.blocking
  waiting := patient.waiting
  required _ point positive := by
    have own := (patient.required point positive).1
    exact ⟨own, fun answers => own ▸ suffices_ answers⟩
  granted := patient.granted

/-- The interrupt level takes the count back. -/
theorem answered (patient : source.Patient side .answer) (shake : source.HandShake .answer flight) :
    Patient side { source with buffer := source.buffer.require 0 } .nothing where
  blocking := patient.blocking
  waiting := patient.waiting
  required _ _ positive := absurd rfl positive
  granted _ point _ :=
    (patient.required point (shake.required_of_asking nofun)).2 rfl

end Stream.Patient

end FwkRtos.SampleStream

import FwkRtos.Osal
import FwkRtos.SampleStream.Buffer

/-!
# Blocking calls on a sample buffer

The calls with which a task takes samples from a driver or gives samples to it
are all built in one way.  A call that finds too little sets a required count
and waits for a semaphore; then it moves its words in pieces that end where the
block ends, and last it adds them to its counter.  A step is one access to what
the call shares with the interrupt level, or one piece.
-/

namespace FwkRtos.SampleStream

open FwkRtos.Osal

/-- The end of the buffer at which the task is. -/
inductive Side
  | reader
  | writer
  deriving DecidableEq

/-- The arguments of a call, with the number of words that they come to.  A
writer's caller passes the samples. -/
structure Request where
  frameCount : UInt32
  words : UInt32
  samples : List Sample
  timeout : Timeout
  deriving DecidableEq

/-- Where a task is in its call: before the test of the counters, before it sets
the required count, in the semaphore, or in the copy loop with the words moved
so far. -/
inductive CallPoint
  | idle
  | check (request : Request)
  | demand (request : Request)
  | wait (request : Request)
  | copy (request : Request) (left : UInt32) (moved : List Sample)
  deriving DecidableEq

/-- A sample buffer with the hand-shake around it and the task that uses it. -/
structure Stream where
  buffer : SampleBuffer
  /-- `recv_blocked` or `send_blocked`. -/
  blocked : Bool
  sem : Semaphore
  call : CallPoint
  /-- What the last call has returned. -/
  result : Option UInt32
  /-- Ghost: the words that were put in the buffer and those that were taken out,
  as far as the counters count them. -/
  written : List Sample
  read : List Sample
  deriving DecidableEq

/-- A stream as the start of a driver leaves it. -/
def Stream.create (memory : Nat → Sample) (bufSize : UInt32) : Stream where
  buffer := .create memory bufSize
  blocked := false
  sem := ⟨1, 0⟩
  call := .idle
  result := none
  written := []
  read := []

/-! ## What differs at the two ends -/

/-- The words that the task may move now. -/
def Side.room : Side → SampleBuffer → UInt32
  | .reader, buffer => buffer.wordsAvailable
  | .writer, buffer => buffer.wordsFree

/-- The index of the task's end. -/
def Side.index : Side → SampleBuffer → UInt32
  | .reader, buffer => buffer.readIndex
  | .writer, buffer => buffer.writeIndex

/-- Move the next `count` words between the buffer and the memory of the caller. -/
def Side.move : Side → SampleBuffer → List Sample → UInt32 → SampleBuffer × List Sample
  | .reader, buffer, _, count => (buffer.skip count, buffer.fetch count)
  | .writer, buffer, samples, count =>
      (buffer.store (samples.take count.toNat) count, samples.take count.toNat)

/-- Add to the counter of the task's end. -/
def Side.addTotal : Side → SampleBuffer → UInt32 → SampleBuffer
  | .reader, buffer, count => buffer.addRead count
  | .writer, buffer, count => buffer.addWritten count

theorem Side.length_move {side : Side} {buffer : SampleBuffer} {samples : List Sample}
    {count : UInt32} (enough : side = .writer → count.toNat ≤ samples.length) :
    (side.move buffer samples count).2.length = count.toNat := by
  cases side with
  | reader => exact buffer.length_fetch count
  | writer => exact List.length_take_of_le (enough rfl)

/-- `MIN(left, buf_size - index)`. -/
def chunk (left index size : UInt32) : UInt32 :=
  if left < size - index then left else size - index

theorem chunk_le (left index size : UInt32) : chunk left index size ≤ left := by
  rw [chunk]
  split
  · exact UInt32.le_refl left
  · next notLess => exact UInt32.not_lt.mp notLess

theorem toNat_chunk {left index size : UInt32} (within : index.toNat < size.toNat) :
    (chunk left index size).toNat = min left.toNat (size.toNat - index.toNat) := by
  have rest : (size - index).toNat = size.toNat - index.toNat :=
    UInt32.toNat_sub_of_le _ _ (UInt32.le_iff_toNat_le.mpr within.le)
  rw [chunk]
  split
  · next less =>
      rw [UInt32.lt_iff_toNat_lt, rest] at less
      exact (Nat.min_eq_left less.le).symm
  · next notLess =>
      rw [UInt32.lt_iff_toNat_lt, rest] at notLess
      rw [rest, Nat.min_eq_right (Nat.le_of_not_lt notLess)]

/-! ## The steps of a call -/

namespace Stream

/-- A call starts.  One that asks for more than the whole buffer is refused. -/
def begin (stream : Stream) (request : Request) : Option Stream :=
  if stream.call ≠ .idle then none
  else if stream.buffer.bufSize < request.words then some { stream with result := some 0 }
  else some { stream with
    call := if stream.blocked then .wait request else .check request }

/-- An end adds the words that it has moved to its counter. -/
def publish (side : Side) (stream : Stream) (moved : List Sample) (count : UInt32) : Stream :=
  { stream with
    buffer := side.addTotal stream.buffer count
    written := match side with
      | .reader => stream.written
      | .writer => stream.written ++ moved
    read := match side with
      | .reader => stream.read ++ moved
      | .writer => stream.read }

/-- What a call has handed over: a reader the words that it has moved, a writer
the samples of its caller. -/
def handed : Side → Request → List Sample → List Sample
  | .reader, _, moved => moved
  | .writer, request, _ => request.samples

/-- The end of a call that has moved its words. -/
def complete (side : Side) (stream : Stream) (request : Request) (moved : List Sample) :
    Stream :=
  { stream.publish side (handed side request moved) request.words with
    call := .idle
    result := some request.frameCount }

/-- The call under way goes on. -/
def run (side : Side) (stream : Stream) : Option Stream :=
  match stream.call with
  | .idle => none
  | .check request =>
      some { stream with
        call := if side.room stream.buffer < request.words then .demand request
          else .copy request request.words [] }
  | .demand request =>
      some { stream with
        buffer := stream.buffer.require request.words
        blocked := true
        call := .wait request }
  | .wait request =>
      stream.sem.get?.map fun sem =>
        { stream with sem := sem, blocked := false, call := .copy request request.words [] }
  | .copy request left moved =>
      if left = 0 then some (stream.complete side request moved)
      else
        let count := chunk left (side.index stream.buffer) stream.buffer.bufSize
        let piece := side.move stream.buffer (request.samples.drop moved.length) count
        some { stream with
          buffer := piece.1
          call := .copy request (left - count) (moved ++ piece.2) }

/-- The semaphore is not given in time. -/
def timeOut (stream : Stream) : Option Stream :=
  match stream.call with
  | .wait request =>
      if request.timeout ≠ rtosOsalPortWaitForever ∧ stream.sem.count = 0 then
        some { stream with call := .idle, result := some 0 }
      else none
  | _ => none

/-- The steps of a call after its start, each with its condition and its
effect. -/
inductive Runs (side : Side) (stream : Stream) : Stream → Prop
  | enough {request : Request} (point : stream.call = .check request)
      (room : request.words ≤ side.room stream.buffer) :
      Runs side stream { stream with call := .copy request request.words [] }
  | short {request : Request} (point : stream.call = .check request)
      (room : side.room stream.buffer < request.words) :
      Runs side stream { stream with call := .demand request }
  | demand {request : Request} (point : stream.call = .demand request) :
      Runs side stream { stream with
        buffer := stream.buffer.require request.words
        blocked := true
        call := .wait request }
  | granted {request : Request} (point : stream.call = .wait request)
      (given : 0 < stream.sem.count) :
      Runs side stream { stream with
        sem := { stream.sem with count := stream.sem.count - 1 }
        blocked := false
        call := .copy request request.words [] }
  | copy {request : Request} {left : UInt32} {moved : List Sample}
      (point : stream.call = .copy request left moved) (more : left ≠ 0) {count : UInt32}
      (isChunk : count = chunk left (side.index stream.buffer) stream.buffer.bufSize) :
      Runs side stream { stream with
        buffer := (side.move stream.buffer (request.samples.drop moved.length) count).1
        call := .copy request (left - count)
          (moved ++ (side.move stream.buffer (request.samples.drop moved.length) count).2) }
  | complete {request : Request} {moved : List Sample}
      (point : stream.call = .copy request 0 moved) :
      Runs side stream (stream.complete side request moved)

/-- Every step is listed. -/
theorem runs_of_run {side : Side} {source target : Stream} (step : run side source = some target) :
    Runs side source target := by
  cases point : source.call with
  | idle =>
      rw [run, point] at step
      cases step
  | check request =>
      rw [run, point] at step
      cases step
      split
      · next room => exact .short point room
      · next room => exact .enough point (UInt32.not_lt.mp room)
  | demand request =>
      rw [run, point] at step
      cases step
      exact .demand point
  | wait request =>
      rw [run, point] at step
      obtain ⟨sem, got, rfl⟩ := Option.map_eq_some_iff.mp step
      obtain ⟨given, rfl⟩ := Semaphore.get?_eq_some_iff.mp got
      exact .granted point given
  | copy request left moved =>
      simp only [run, point] at step
      split at step
      · next done =>
          cases step
          subst done
          exact .complete point
      · next more =>
          cases step
          exact .copy point more rfl

theorem timeOut_eq_some {source target : Stream} (step : timeOut source = some target) :
    ∃ request, source.call = .wait request ∧ request.timeout ≠ rtosOsalPortWaitForever ∧
      source.sem.count = 0 ∧ target = { source with call := .idle, result := some 0 } := by
  unfold timeOut at step
  split at step
  · next request point =>
      rw [Option.ite_none_right_eq_some, Option.some.injEq] at step
      exact ⟨request, point, step.1.1, step.1.2, step.2.symm⟩
  · cases step

/-- A call that is refused changes nothing, one that is accepted begins with
its test or waits for what an earlier call has asked for. -/
theorem begin_eq_some {source target : Stream} {request : Request}
    (step : begin source request = some target) :
    source.call = .idle ∧
      (source.buffer.bufSize < request.words ∧ target = { source with result := some 0 } ∨
        request.words ≤ source.buffer.bufSize ∧
          (source.blocked = false ∧ target = { source with call := .check request } ∨
            source.blocked = true ∧ target = { source with call := .wait request })) := by
  unfold begin at step
  split at step
  · cases step
  · next idle =>
      refine ⟨not_not.mp idle, ?_⟩
      split at step
      · next refused =>
          cases step
          exact .inl ⟨refused, rfl⟩
      · next accepted =>
          cases step
          refine .inr ⟨UInt32.not_lt.mp accepted, ?_⟩
          cases blocked : source.blocked with
          | false => exact .inl ⟨rfl, rfl⟩
          | true => exact .inr ⟨rfl, rfl⟩

/-- A call that begins or times out has handed nothing over. -/
theorem begin_streams {source target : Stream} {request : Request}
    (step : begin source request = some target) :
    target.written = source.written ∧ target.read = source.read := by
  obtain ⟨_, ⟨_, rfl⟩ | ⟨_, ⟨_, rfl⟩ | ⟨_, rfl⟩⟩⟩ := begin_eq_some step <;> exact ⟨rfl, rfl⟩

theorem timeOut_streams {source target : Stream} (step : timeOut source = some target) :
    target.written = source.written ∧ target.read = source.read := by
  obtain ⟨_, _, _, _, rfl⟩ := timeOut_eq_some step
  exact ⟨rfl, rfl⟩

/-- A reader writes nothing. -/
theorem Runs.written {source target : Stream} (runs : Runs .reader source target) :
    target.written = source.written := by
  cases runs <;> rfl

/-- A writer reads nothing. -/
theorem Runs.read {source target : Stream} (runs : Runs .writer source target) :
    target.read = source.read := by
  cases runs <;> rfl

end Stream

/-! ## The stream that a call sees -/

/-- The words that a call has moved and those that it is about to move. -/
def CallPoint.moving : CallPoint → Moving
  | .copy _ left moved => ⟨moved, left.toNat⟩
  | _ => still

/-- The copy loop moves as many words as were asked for, and a writer's words
are its caller's. -/
def CallPoint.Counted (side : Side) : CallPoint → Prop
  | .copy request left moved =>
      moved.length + left.toNat = request.words.toNat ∧
        (side = .writer → request.samples.length = request.words.toNat ∧
          moved = request.samples.take moved.length)
  | .check request | .demand request | .wait request =>
      side = .writer → request.samples.length = request.words.toNat
  | .idle => True

/-- The buffer carries the stream, with the task at one end and its peer at the
other. -/
def Side.Carries (side : Side) (buffer : SampleBuffer) (written read : List Sample)
    (own peer : Moving) : Prop :=
  match side with
  | .reader => buffer.Carries written peer read own
  | .writer => buffer.Carries written own read peer

namespace Side.Carries

variable {side : Side} {buffer : SampleBuffer} {written read : List Sample} {own peer : Moving}

/-- The task starts to move words that it may move. -/
theorem claim (carries : side.Carries buffer written read still peer) {count : UInt32}
    (room : count ≤ side.room buffer) :
    side.Carries buffer written read ⟨[], count.toNat⟩ peer := by
  cases side with
  | reader => exact SampleBuffer.Carries.claim carries room
  | writer => exact SampleBuffer.Carries.reserve carries room

theorem index_lt (carries : side.Carries buffer written read own peer) (more : 0 < own.left) :
    (side.index buffer).toNat < buffer.bufSize.toNat := by
  cases side with
  | reader => exact SampleBuffer.Carries.readIndex_lt carries more
  | writer => exact SampleBuffer.Carries.writeIndex_lt carries more

/-- The task moves a piece that it has claimed. -/
theorem move (carries : side.Carries buffer written read own peer) {samples : List Sample}
    {count : UInt32} (claimed : count.toNat ≤ own.left)
    (within : (side.index buffer).toNat + count.toNat ≤ buffer.bufSize.toNat)
    (enough : side = .writer → count.toNat ≤ samples.length) :
    side.Carries (side.move buffer samples count).1 written read
      ⟨own.moved ++ (side.move buffer samples count).2, own.left - count.toNat⟩ peer := by
  cases side with
  | reader => exact SampleBuffer.Carries.skip carries claimed within
  | writer =>
      have counted : (samples.take count.toNat).length = count.toNat :=
        List.length_take_of_le (enough rfl)
      have stored := SampleBuffer.Carries.store carries counted (by rwa [counted])
        (by rwa [counted])
      rw [counted] at stored
      exact stored

/-- The task adds what it has moved to its counter. -/
theorem publish {stream : Stream}
    (carries : side.Carries stream.buffer stream.written stream.read own peer) {count : UInt32}
    (counted : own.moved.length = count.toNat) :
    side.Carries (stream.publish side own.moved count).buffer
      (stream.publish side own.moved count).written (stream.publish side own.moved count).read
      still peer := by
  cases side with
  | reader => exact SampleBuffer.Carries.addRead carries counted
  | writer => exact SampleBuffer.Carries.addWritten carries counted

theorem require (carries : side.Carries buffer written read own peer) (count : UInt32) :
    side.Carries (buffer.require count) written read own peer := by
  cases side with
  | reader => exact SampleBuffer.Carries.require carries count
  | writer => exact SampleBuffer.Carries.require carries count

end Side.Carries

/-- The stream is carried by its buffer, while the peer of the task is as far as
given. -/
structure Stream.Carries (side : Side) (stream : Stream) (peer : Moving) : Prop where
  buffer : side.Carries stream.buffer stream.written stream.read stream.call.moving peer
  counted : stream.call.Counted side

/-- A call that is given the semaphore finds its words. -/
def Stream.GrantCovers (side : Side) (stream : Stream) : Prop :=
  match stream.call with
  | .wait request => 0 < stream.sem.count → request.words ≤ side.room stream.buffer
  | _ => True

instance (side : Side) (stream : Stream) : Decidable (stream.GrantCovers side) :=
  match point : stream.call with
  | .wait request =>
      decidable_of_iff (0 < stream.sem.count → request.words ≤ side.room stream.buffer)
        (by rw [Stream.GrantCovers, point])
  | .idle | .check _ | .demand _ | .copy _ _ _ =>
      .isTrue (by rw [Stream.GrantCovers, point]; trivial)

namespace Stream.Carries

variable {side : Side} {source target : Stream} {peer : Moving}

theorem create (side : Side) (memory : Nat → Sample) {bufSize : UInt32}
    (small : bufSize.toNat < 2 ^ 30) :
    (Stream.create memory bufSize).Carries side still where
  buffer := by
    cases side with
    | reader => exact SampleBuffer.carries_create memory small
    | writer => exact SampleBuffer.carries_create memory small
  counted := trivial

/-- A call moves words that it may move, if the semaphore is given only for words
that are there. -/
theorem run (carries : source.Carries side peer) (covers : source.GrantCovers side)
    (runs : Runs side source target) : target.Carries side peer := by
  obtain ⟨buffer, counted⟩ := carries
  cases runs with
  | enough point room =>
      rw [point] at buffer counted
      exact ⟨buffer.claim room, Nat.zero_add _, fun writer => ⟨counted writer, rfl⟩⟩
  | short point room =>
      rw [point] at buffer counted
      exact ⟨buffer, counted⟩
  | demand point =>
      rw [point] at buffer counted
      exact ⟨buffer.require _, counted⟩
  | granted point given =>
      rw [GrantCovers, point] at covers
      rw [point] at buffer counted
      exact ⟨buffer.claim (covers given), Nat.zero_add _, fun writer => ⟨counted writer, rfl⟩⟩
  | @copy request left moved point more count isChunk =>
      rw [point] at buffer counted
      obtain ⟨whole, ofCaller⟩ := counted
      have index := buffer.index_lt (Nat.pos_of_ne_zero fun zero => more (UInt32.toNat.inj zero))
      have length : count.toNat =
          min left.toNat (source.buffer.bufSize.toNat - (side.index source.buffer).toNat) := by
        rw [isChunk, toNat_chunk index]
      have claimed : count.toNat ≤ left.toNat := length ▸ Nat.min_le_left _ _
      have rest : (left - count).toNat = left.toNat - count.toNat :=
        UInt32.toNat_sub_of_le _ _ (UInt32.le_iff_toNat_le.mpr claimed)
      have enough : side = .writer → count.toNat ≤ (request.samples.drop moved.length).length := by
        intro writer
        rw [List.length_drop, (ofCaller writer).1]
        omega
      have pieceLength :
          (side.move source.buffer (request.samples.drop moved.length) count).2.length =
            count.toNat := Side.length_move enough
      constructor
      · rw [CallPoint.moving, rest]
        exact buffer.move claimed (by omega) enough
      · refine ⟨by rw [List.length_append, pieceLength, rest]; omega, fun writer => ?_⟩
        obtain ⟨samples, prefix_⟩ := ofCaller writer
        refine ⟨samples, ?_⟩
        rw [List.length_append, pieceLength, List.take_add, ← prefix_]
        subst writer
        rfl
  | @complete request moved point =>
      rw [point] at buffer counted
      obtain ⟨whole, ofCaller⟩ := counted
      have all : moved.length = request.words.toNat := by simpa using whole
      refine ⟨?_, trivial⟩
      have handed : Stream.handed side request moved = moved := by
        cases side with
        | reader => rfl
        | writer =>
            obtain ⟨samples, prefix_⟩ := ofCaller rfl
            rw [all, ← samples, List.take_length] at prefix_
            exact prefix_.symm
      rw [Stream.complete, handed]
      exact buffer.publish all

/-- A call that starts, with as many samples as its words if it is a writer's,
has moved nothing yet. -/
theorem begin (carries : source.Carries side peer) {request : Request}
    (samples : side = .writer → request.samples.length = request.words.toNat)
    (step : Stream.begin source request = some target) : target.Carries side peer := by
  obtain ⟨idle, ⟨_, rfl⟩ | ⟨_, ⟨_, rfl⟩ | ⟨_, rfl⟩⟩⟩ := begin_eq_some step
  · exact ⟨carries.buffer, carries.counted⟩
  all_goals
    have buffer := carries.buffer
    rw [idle] at buffer
    exact ⟨buffer, samples⟩

/-- A call that times out has moved nothing. -/
theorem timeOut (carries : source.Carries side peer) (step : Stream.timeOut source = some target) :
    target.Carries side peer := by
  obtain ⟨request, point, _, _, rfl⟩ := timeOut_eq_some step
  have buffer := carries.buffer
  rw [point] at buffer
  exact ⟨buffer, trivial⟩

end Stream.Carries

end FwkRtos.SampleStream

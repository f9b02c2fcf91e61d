import FwkRtos.I2s.Driver

/-!
# What one call of `i2s_local_rx` returns

The call is followed through any steps of the library, the interrupt handler and the tasks.
It returns its frame count with as many words as were asked for, or it times out and returns
nothing.
-/

namespace FwkRtos.I2s

open FwkRtos.Osal FwkRtos.SampleStream FwkRtos.Transition

universe u

variable {S : Type u} {config : Config S}

/-- What `i2s_local_rx` has done when it returns: its result, and the words that it has
copied to its caller's buffer. -/
structure Returned where
  result : UInt32
  samples : List Sample
  deriving DecidableEq

/-- A task calls `i2s_local_rx` for frames that the ring can hold, others take their steps in
between, and the call returns. -/
structure LocalRx (config : Config S) (frameCount : UInt32) (timeout : Timeout)
    (source : Driver S) (schedule : List (Label S)) (target : Driver S)
    (returned : Returned) : Prop where
  accepted : (i2sLocalRx config frameCount timeout).words ≤ source.recv.buffer.bufSize
  executed : run (next config) source (.rx frameCount timeout :: schedule) = some target
  oneCall : ∀ frameCount timeout, .rx frameCount timeout ∉ schedule
  ended : target.recv.call = .idle
  result : target.recv.result = some returned.result
  samples : target.recv.read = source.recv.read ++ returned.samples

/-- How far a call has come, and whether it has timed out; `read` is what the calls before it
have taken out of the ring. -/
inductive CallStage (request : Request) (read : List Sample) (stream : Stream) : Bool → Prop
  | waiting (point : stream.call = .check request ∨ stream.call = .demand request ∨
        stream.call = .wait request)
      (same : stream.read = read) : CallStage request read stream false
  | copying {left : UInt32} {moved : List Sample} (point : stream.call = .copy request left moved)
      (counted : moved.length + left.toNat = request.words.toNat)
      (same : stream.read = read) : CallStage request read stream false
  | complete {moved : List Sample} (point : stream.call = .idle)
      (result : stream.result = some request.frameCount)
      (counted : moved.length = request.words.toNat)
      (taken : stream.read = read ++ moved) : CallStage request read stream false
  | timedOut (point : stream.call = .idle) (result : stream.result = some 0)
      (same : stream.read = read) : CallStage request read stream true

/-- A label that is no step of the task of the receive stream. -/
def Label.NotReader : Label S → Prop
  | .rx _ _ | .task .recv | .timeOut .recv => False
  | _ => True

/-- The other steps leave the call alone. -/
theorem Move.keepsCall {source target : Driver S} {label : Label S}
    (move : Move config source label target) (notReader : label.NotReader) :
    target.recv.call = source.recv.call ∧ target.recv.result = source.recv.result ∧
      target.recv.read = source.recv.read := by
  cases move with
  | rx => exact notReader.elim
  | @task direction | @timeOut direction =>
      cases direction with
      | recv => exact notReader.elim
      | send => exact ⟨rfl, rfl, rfl⟩
  | store =>
      rw [Driver.received]
      split <;> exact ⟨rfl, rfl, rfl⟩
  | receiveFilter =>
      simp only [Driver.receiveFiltered, Driver.received]
      split <;> exact ⟨rfl, rfl, rfl⟩
  | fetch =>
      rw [Driver.fetched, Driver.sent]
      split <;> exact ⟨rfl, rfl, rfl⟩
  | sendFilter =>
      simp only [Driver.sendFiltered, Driver.sent]
      split <;> exact ⟨rfl, rfl, rfl⟩
  | @answer direction => cases direction <;> exact ⟨rfl, rfl, rfl⟩
  | isrSend | isrRecv =>
      rw [Driver.resume]
      split <;> exact ⟨rfl, rfl, rfl⟩
  | _ => exact ⟨rfl, rfl, rfl⟩

theorem CallStage.congr {request : Request} {read : List Sample} {source target : Stream}
    {late : Bool} (stage : CallStage request read source late)
    (same : target.call = source.call ∧ target.result = source.result ∧
      target.read = source.read) : CallStage request read target late := by
  rcases same with ⟨call, result, taken⟩
  cases stage with
  | waiting point same => exact .waiting (by rwa [call]) (by rw [taken, same])
  | copying point counted same =>
      exact .copying (by rw [call, point]) counted (by rw [taken, same])
  | complete point isResult counted all =>
      exact .complete (by rw [call, point]) (by rw [result, isResult]) counted (by rw [taken, all])
  | timedOut point isResult same =>
      exact .timedOut (by rw [call, point]) (by rw [result, isResult]) (by rw [taken, same])

/-- The task goes on with its call. -/
theorem CallStage.runs {request : Request} {read : List Sample} {source target : Stream}
    {late : Bool} (stage : CallStage request read source late)
    (runs : source.Runs .reader target) : CallStage request read target late := by
  cases runs with
  | enough point =>
      cases stage with
      | waiting isAt same =>
          rcases isAt with at_ | at_ | at_ <;> rw [point] at at_ <;> cases at_
          exact .copying rfl (Nat.zero_add _) same
      | copying at_ | complete at_ | timedOut at_ =>
          rw [point] at at_
          cases at_
  | short point =>
      cases stage with
      | waiting isAt same =>
          rcases isAt with at_ | at_ | at_ <;> rw [point] at at_ <;> cases at_
          exact .waiting (.inr (.inl rfl)) same
      | copying at_ | complete at_ | timedOut at_ =>
          rw [point] at at_
          cases at_
  | demand point =>
      cases stage with
      | waiting isAt same =>
          rcases isAt with at_ | at_ | at_ <;> rw [point] at at_ <;> cases at_
          exact .waiting (.inr (.inr rfl)) same
      | copying at_ | complete at_ | timedOut at_ =>
          rw [point] at at_
          cases at_
  | granted point =>
      cases stage with
      | waiting isAt same =>
          rcases isAt with at_ | at_ | at_ <;> rw [point] at at_ <;> cases at_
          exact .copying rfl (Nat.zero_add _) same
      | copying at_ | complete at_ | timedOut at_ =>
          rw [point] at at_
          cases at_
  | @copy _ left moved point more count isChunk =>
      cases stage with
      | copying at_ counted same =>
          rw [point] at at_
          cases at_
          have claimed : count.toNat ≤ left.toNat := by
            rw [isChunk]
            exact UInt32.le_iff_toNat_le.mp (chunk_le _ _ _)
          have rest : (left - count).toNat = left.toNat - count.toNat :=
            UInt32.toNat_sub_of_le _ _ (UInt32.le_iff_toNat_le.mpr claimed)
          refine .copying rfl ?_ same
          have piece := @Side.length_move .reader source.buffer
            (request.samples.drop moved.length) count nofun
          rw [List.length_append, piece, rest]
          omega
      | waiting isAt =>
          rcases isAt with at_ | at_ | at_ <;> rw [point] at at_ <;> cases at_
      | complete at_ | timedOut at_ =>
          rw [point] at at_
          cases at_
  | complete point =>
      cases stage with
      | copying at_ counted same =>
          rw [point] at at_
          cases at_
          exact .complete rfl rfl counted (congrArg (· ++ _) same)
      | waiting isAt =>
          rcases isAt with at_ | at_ | at_ <;> rw [point] at at_ <;> cases at_
      | complete at_ | timedOut at_ =>
          rw [point] at at_
          cases at_

/-- The semaphore is not given in time. -/
theorem CallStage.late {request : Request} {read : List Sample} {source target : Stream}
    {late : Bool} (stage : CallStage request read source late)
    (step : source.timeOut = some target) : CallStage request read target true := by
  rcases Stream.timeOut_eq_some step with ⟨_, point, _, _, rfl⟩
  cases stage with
  | waiting _ same => exact .timedOut rfl rfl same
  | copying at_ | complete at_ | timedOut at_ =>
      rw [point] at at_
      cases at_

/-- A call that is accepted begins. -/
theorem CallStage.begins {request : Request} {source target : Stream}
    (step : source.begin request = some target)
    (accepted : request.words ≤ source.buffer.bufSize) :
    CallStage request source.read target false := by
  rcases Stream.begin_eq_some step with ⟨_, ⟨refused, _⟩ | ⟨_, ⟨_, rfl⟩ | ⟨_, rfl⟩⟩⟩
  · exact absurd refused (UInt32.not_lt.mpr accepted)
  · exact .waiting (.inl rfl) rfl
  · exact .waiting (.inr (.inr rfl)) rfl

/-- One step of the driver, whoever takes it. -/
theorem CallStage.next {request : Request} {read : List Sample} {source target : Driver S}
    {label : Label S} {late : Bool} (stage : CallStage request read source.recv late)
    (notRx : ∀ frameCount timeout, label ≠ .rx frameCount timeout)
    (step : I2s.next config source label = some target) :
    ∃ after, CallStage request read target.recv after ∧
      (after = true ↔ late = true ∨ label = .timeOut .recv) := by
  have move := move_of_next step
  have others : label.NotReader → ∃ after, CallStage request read target.recv after ∧
      (after = true ↔ late = true ∨ label = .timeOut .recv) := by
    intro notReader
    refine ⟨late, stage.congr (move.keepsCall notReader), ?_⟩
    constructor
    · exact .inl
    · rintro (already | rfl)
      · exact already
      · exact notReader.elim
  cases label with
  | rx frameCount timeout => exact absurd rfl (notRx frameCount timeout)
  | task direction =>
      cases direction with
      | send => exact others trivial
      | recv =>
          cases move with
          | task runs => exact ⟨late, stage.runs runs, by simp⟩
  | timeOut direction =>
      cases direction with
      | send => exact others trivial
      | recv =>
          cases move with
          | timeOut late => exact ⟨true, stage.late late, by simp⟩
  | receive | sendFrame | hil | isr | tx | share => exact others trivial

theorem CallStage.run {request : Request} {read : List Sample} {source target : Driver S}
    {schedule : List (Label S)} {late : Bool} (stage : CallStage request read source.recv late)
    (oneCall : ∀ frameCount timeout, .rx frameCount timeout ∉ schedule)
    (executed : Transition.run (I2s.next config) source schedule = some target) :
    ∃ after, CallStage request read target.recv after ∧
      (after = true ↔ late = true ∨ .timeOut .recv ∈ schedule) := by
  induction schedule generalizing source late with
  | nil =>
      cases executed
      exact ⟨late, stage, by simp⟩
  | cons label rest ih =>
      rcases Option.bind_eq_some_iff.mp executed with ⟨middle, step, executed⟩
      rcases stage.next (fun frameCount timeout isRx => oneCall frameCount timeout
        (isRx ▸ List.mem_cons_self)) step with ⟨between, stage, first⟩
      rcases ih stage (fun frameCount timeout isIn => oneCall frameCount timeout
        (List.mem_cons_of_mem _ isIn)) executed with ⟨after, stage, second⟩
      refine ⟨after, stage, ?_⟩
      rw [second, first, List.mem_cons, or_assoc, eq_comm (a := label)]

/-- A call that does not time out returns its frame count and all its words; one that times
out returns nothing. -/
theorem LocalRx.returns {frameCount : UInt32} {timeout : Timeout} {source target : Driver S}
    {schedule : List (Label S)} {returned : Returned}
    (call : LocalRx config frameCount timeout source schedule target returned) :
    (.timeOut .recv ∉ schedule → returned.result = frameCount ∧
        returned.samples.length = (frameCount * (2 * config.numIn)).toNat) ∧
      (.timeOut .recv ∈ schedule → returned = ⟨0, []⟩) := by
  rcases Option.bind_eq_some_iff.mp call.executed with ⟨first, step, executed⟩
  cases move_of_next step with
  | rx begins =>
      rcases (CallStage.begins begins call.accepted).run call.oneCall executed with
        ⟨late, stage, isLate⟩
      have result := call.result
      have samples := call.samples
      cases stage with
      | waiting isAt =>
          rcases isAt with at_ | at_ | at_ <;> rw [call.ended] at at_ <;> cases at_
      | copying at_ =>
          rw [call.ended] at at_
          cases at_
      | complete _ isResult counted taken =>
          rw [isResult] at result
          rw [taken, List.append_cancel_left_eq] at samples
          constructor
          · intro _
            exact ⟨(Option.some.inj result).symm, samples ▸ counted⟩
          · intro isIn
            exact absurd (isLate.mpr (.inr isIn)) (by decide)
      | timedOut _ isResult same =>
          rw [isResult] at result
          rw [same, List.self_eq_append_right] at samples
          constructor
          · intro notIn
            rcases isLate.mp rfl with already | isIn
            · cases already
            · exact absurd isIn notIn
          · intro _
            rcases returned with ⟨isResult, isSamples⟩
            rw [Returned.mk.injEq]
            exact ⟨(Option.some.inj result).symm, samples⟩

end FwkRtos.I2s

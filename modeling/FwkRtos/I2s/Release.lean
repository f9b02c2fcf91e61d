import FwkRtos.I2s.Words
import FwkRtos.Transition.Fairness

/-!
# The release of waiting I2S calls

Once the words that a waiting call needs are there, the next call of the driver
from the library finds its required count, the wake-up is noted, sent at the end
of the next call that may send it, taken out of the channel by the interrupt
handler behind those that were sent before, and given to the semaphore, which
the task takes.
-/

namespace FwkRtos.I2s

open FwkRtos.Osal FwkRtos.SampleStream FwkRtos.Transition

universe u

variable {S : Type u}

/-! ## Blocking calls -/

/-- The calls of the direction that begin may wait for ever. -/
def Direction.Blocking : Direction → Label S → Prop
  | .recv, .rx _ timeout => timeout = rtosOsalPortWaitForever
  | .send, .tx _ _ timeout => timeout = rtosOsalPortWaitForever
  | _, _ => True

instance (direction : Direction) : DecidablePred (direction.Blocking (S := S))
  | .rx _ timeout =>
      match direction with
      | .recv => decEq timeout rtosOsalPortWaitForever
      | .send => .isTrue trivial
  | .tx _ _ timeout =>
      match direction with
      | .recv => .isTrue trivial
      | .send => decEq timeout rtosOsalPortWaitForever
  | .receive _ | .sendFrame | .hil | .isr | .task _ | .timeOut _ | .share _ =>
      .isTrue (by cases direction <;> trivial)

theorem Direction.Blocking.request {config : Config S} {direction : Direction} {label : Label S}
    (blocking : direction.Blocking label) {request : Request}
    (begins : label.event config direction = .begin request) :
    request.timeout = rtosOsalPortWaitForever := by
  cases direction with
  | recv =>
      cases label with
      | rx =>
          cases begins
          exact blocking
      | task other | timeOut other => cases other <;> cases begins
      | _ => cases begins
  | send =>
      cases label with
      | tx =>
          cases begins
          exact blocking
      | task other | timeOut other => cases other <;> cases begins
      | _ => cases begins

/-- In the hand-shake of patient calls, a task that is given the semaphore finds its
words. -/
theorem grantCovers {config : Config S} (direction : Direction) {driver : Driver S}
    (carried : (driver.view config direction).Carried direction.side)
    (shaken : (driver.view config direction).Shaken)
    (patient : (driver.view config direction).Patient direction.side) (label : Label S) :
    direction.GrantCovers driver label := by
  cases label with
  | task other =>
      rintro rfl
      exact Stream.Patient.grantCovers patient shaken carried
  | _ => trivial

/-! ## The calls of the library -/

/-- The call of the library in which its thread is. -/
def HilPoint.inCall : HilPoint → Option Direction
  | .idle => none
  | .store _ | .receiveFilter _ _ | .addWritten _ => some .recv
  | .fetch | .sendFilter _ | .addRead _ _ => some .send
  | .examine direction | .compare direction | .answer direction | .signal direction =>
      some direction

/-- The library calls `i2s_receive` or `i2s_send`. -/
def Direction.Calls : Direction → Label S → Prop
  | .recv, .receive _ => True
  | .send, .sendFrame => True
  | _, _ => False

/-- The calls at whose end the wake-ups of a direction are sent. -/
def Config.signaller (config : Config S) : Direction → Direction
  | .recv => if config.numOut = 0 then .recv else .send
  | .send => .send

/-- A call of the library begins outside of the driver and changes no stream. -/
theorem calls {config : Config S} {source target : Driver S} {label : Label S}
    {direction : Direction} (move : Move config source label target)
    (isCall : direction.Calls label) :
    source.hil.inCall = none ∧ target.hil.inCall = some direction ∧
      target.hil ≠ .signal direction ∧ target.isrCmd = source.isrCmd ∧
        target.stream direction = source.stream direction := by
  cases direction with
  | recv =>
      cases move with
      | accept point | drop point | offer point =>
          rw [point]
          exact ⟨rfl, rfl, nofun, rfl, rfl⟩
      | _ => exact False.elim isCall
  | send =>
      cases move with
      | enough point | underrun point | offerSend point =>
          rw [point]
          exact ⟨rfl, rfl, nofun, rfl, rfl⟩
      | _ => exact False.elim isCall

/-! ## The required count is found -/

/-- A call of the library that has not come to its end takes the required count
back before its end, if the counters suffice. -/
theorem asks_next {config : Config S} {source target : Driver S} {label : Label S}
    {direction : Direction} (move : Move config source label target)
    (inCall : source.hil.inCall = some direction) (before : source.hil ≠ .signal direction)
    (required : (source.stream direction).buffer.required ≠ 0)
    (suffices_ : (source.stream direction).buffer.required ≤
      direction.side.room (source.stream direction).buffer) :
    target.hil.inCall = some direction ∧ target.hil ≠ .signal direction ∨
      (target.stream direction).buffer.required = 0 := by
  cases move with
  | accept point | drop point | offer point | enough point | underrun point | offerSend point =>
      rw [point] at inCall
      cases inCall
  | store point | receiveFilter point =>
      rw [point] at inCall
      cases inCall
      simp only [Driver.receiveFiltered, Driver.received]
      split <;> exact .inl ⟨rfl, by rintro ⟨⟩⟩
  | addWritten point | addRead point =>
      rw [point] at inCall
      cases inCall
      exact .inl ⟨rfl, by rintro ⟨⟩⟩
  | fetch point | sendFilter point =>
      rw [point] at inCall
      cases inCall
      simp only [Driver.fetched, Driver.sendFiltered, Driver.sent]
      split <;> exact .inl ⟨rfl, by rintro ⟨⟩⟩
  | required point =>
      rw [point] at inCall
      exact .inl ⟨inCall, by rintro ⟨⟩⟩
  | suffices_ point =>
      rw [point] at inCall
      exact .inl ⟨inCall, by rintro ⟨⟩⟩
  | nothing point nothing =>
      rw [point] at inCall
      cases inCall
      exact absurd nothing required
  | tooFew point tooFew =>
      rw [point] at inCall
      cases inCall
      exact absurd suffices_ (UInt32.not_le.mpr tooFew)
  | answer point =>
      rw [point] at inCall
      cases inCall
      cases direction <;> exact .inr rfl
  | signal point | done point =>
      rw [point] at inCall before
      cases inCall
      exact absurd rfl before
  | isrEnter | rx | tx | share => exact .inl ⟨inCall, before⟩
  | isrSend | isrRecv =>
      rw [Driver.resume]
      split <;> exact .inl ⟨inCall, before⟩
  | @task other | @timeOut other => cases other <;> exact .inl ⟨inCall, before⟩

/-! ## The wake-up is sent -/

/-- A wake-up of the direction is in the channel or in the handler. -/
def Direction.Sent (direction : Direction) (channel : List UInt8) (isr : IsrPoint) : Prop :=
  0 < channel.countP direction.wakes + (isr.wakes direction).toNat

/-- A wake-up that is noted stays noted until it is sent, and it is sent at the
end of the next call that may send it. -/
theorem noted_next {config : Config S} {source target : Driver S} {label : Label S}
    {direction : Direction} (move : Move config source label target)
    (noted : direction.wakes source.isrCmd = true) :
    direction.wakes target.isrCmd = true ∧
        (source.hil.inCall = some (config.signaller direction) →
          target.hil.inCall = some (config.signaller direction)) ∨
      direction.Sent target.channel target.isr := by
  cases move with
  | accept point | drop point | offer point | enough point | underrun point | offerSend point =>
      rw [point]
      exact .inl ⟨noted, nofun⟩
  | store point | receiveFilter point =>
      rw [point]
      simp only [Driver.receiveFiltered, Driver.received]
      split <;> exact .inl ⟨noted, id⟩
  | fetch point | sendFilter point =>
      rw [point]
      simp only [Driver.fetched, Driver.sendFiltered, Driver.sent]
      split <;> exact .inl ⟨noted, id⟩
  | addWritten point | addRead point | required point | nothing point | suffices_ point
    | tooFew point =>
      rw [point]
      exact .inl ⟨noted, id⟩
  | @answer other point =>
      rw [point]
      cases other <;> exact .inl ⟨wakes_or_of_wakes noted _, id⟩
  | signal =>
      refine .inr ?_
      simp only [Direction.Sent, List.countP_append, List.countP_singleton, noted, if_true]
      omega
  | @done other point silent =>
      refine .inl ⟨noted, fun inCall => ?_⟩
      have nonzero : source.isrCmd ≠ 0 := by
        intro zero
        rw [zero, wakes_zero] at noted
        cases noted
      have later : ¬ (other = .recv → config.numOut = 0) := fun now => silent ⟨nonzero, now⟩
      obtain ⟨isRecv, output⟩ := Classical.not_imp.mp later
      rw [point, isRecv] at inCall
      cases direction with
      | recv =>
          rw [Config.signaller, if_neg output] at inCall
          cases inCall
      | send => cases inCall
  | isrEnter | rx | tx | share => exact .inl ⟨noted, id⟩
  | isrSend | isrRecv =>
      rw [Driver.resume]
      split <;> exact .inl ⟨noted, id⟩
  | @task other | @timeOut other => cases other <;> exact .inl ⟨noted, id⟩

/-! ## The interrupt handler -/

/-- How far the handler is from its end. -/
def IsrPoint.rank : IsrPoint → Nat
  | .idle => 0
  | .resumeSend _ => 2
  | .resumeRecv _ => 1

/-- The steps of the handler until it gives the semaphore of the direction. -/
def Direction.wakeRank (direction : Direction) (channel : List UInt8) (isr : IsrPoint) : Nat :=
  if isr.wakes direction then isr.rank
  else 3 * (channel.findIdx direction.wakes + 1) + isr.rank

theorem Direction.wakeRank_inside {direction : Direction} {channel : List UInt8} {isr : IsrPoint}
    (wakes : isr.wakes direction = true) : direction.wakeRank channel isr = isr.rank := by
  rw [wakeRank, if_pos wakes]

theorem after_recv (direction : Direction) {action : UInt8}
    (wakes : direction.wakes action = false) :
    (IsrPoint.resumeRecv action).wakes direction = false := by
  rw [IsrPoint.wakes, wakes, Bool.and_false]

namespace Direction.Sent

variable {direction : Direction} {action : UInt8} {channel : List UInt8} {isr : IsrPoint}

theorem of_wakes (wakes : isr.wakes direction = true) : direction.Sent channel isr := by
  rw [Sent, wakes]
  exact Nat.succ_pos _

/-- A wake-up that is not in the handler is somewhere in the channel. -/
theorem inChannel (sent : direction.Sent channel isr) (outside : isr.wakes direction = false) :
    0 < channel.countP direction.wakes := by
  rw [Sent, outside] at sent
  exact sent

theorem append (sent : direction.Sent channel isr) (more : List UInt8) :
    direction.Sent (channel ++ more) isr := by
  rw [Sent] at sent ⊢
  rw [List.countP_append]
  omega

/-- What is sent later does not come first. -/
theorem wakeRank_append (sent : direction.Sent channel isr) (more : List UInt8) :
    direction.wakeRank (channel ++ more) isr = direction.wakeRank channel isr := by
  rw [wakeRank, wakeRank]
  split
  · rfl
  · next outside =>
      have place := List.findIdx_lt_length_of_exists
        (List.countP_pos_iff.mp (sent.inChannel (Bool.eq_false_iff.mpr outside)))
      rw [List.findIdx_append, if_pos place]

/-- The handler takes the next action out of the channel. -/
theorem enter (sent : direction.Sent (action :: channel) .idle) :
    direction.Sent channel (.resumeSend action) ∧
      direction.wakeRank channel (.resumeSend action) <
        direction.wakeRank (action :: channel) .idle := by
  have first : direction.wakeRank (action :: channel) .idle =
      3 * ((action :: channel).findIdx direction.wakes + 1) := rfl
  rw [first, List.findIdx_cons, wakeRank, IsrPoint.wakes, IsrPoint.rank]
  cases wakes : direction.wakes action with
  | true => exact ⟨of_wakes wakes, by simp⟩
  | false =>
      have later := sent.inChannel rfl
      rw [List.countP_cons_of_neg (by rw [wakes]; rintro ⟨⟩)] at later
      refine ⟨Nat.add_pos_left later _, ?_⟩
      simp only [cond_false, Bool.false_eq_true, if_false]
      omega

/-- The handler goes on, while the wake-up is still in the channel. -/
theorem goOn (sent : direction.Sent channel isr) (after : IsrPoint)
    (outside : isr.wakes direction = false) (stillOutside : after.wakes direction = false)
    (lower : after.rank < isr.rank) :
    direction.Sent channel after ∧
      direction.wakeRank channel after < direction.wakeRank channel isr := by
  refine ⟨Nat.add_pos_left (sent.inChannel outside) _, ?_⟩
  rw [wakeRank, wakeRank, outside, stillOutside]
  exact Nat.add_lt_add_left lower _

end Direction.Sent

theorem resume_channel (driver : Driver S) (direction : Direction) (action : UInt8) :
    (driver.resume direction action).channel = driver.channel := by
  rw [Driver.resume]
  split
  · cases direction <;> rfl
  · rfl

/-- The handler gives an empty semaphore. -/
theorem resume_given {driver : Driver S} {direction : Direction} {action : UInt8}
    (wakes : direction.wakes action = true)
    (binary : (driver.stream direction).sem.maxCount = 1)
    (notGiven : (driver.stream direction).sem.count = 0) :
    0 < ((driver.resume direction action).stream direction).sem.count := by
  have put : (driver.stream direction).sem.put? = some { (driver.stream direction).sem with
      count := (driver.stream direction).sem.count + 1 } :=
    Semaphore.put?_eq_some_iff.mpr ⟨by omega, rfl⟩
  have stream : (driver.resume direction action).stream direction =
      (driver.stream direction).wakeUp := by
    rw [Driver.resume, if_pos (of_decide_eq_true wakes)]
    cases direction <;> rfl
  rw [stream, Stream.wakeUp, put]
  exact Nat.succ_pos _

/-- The wake-up that was sent comes nearer with each step of the handler. -/
theorem sent_next {config : Config S} {source target : Driver S} {label : Label S}
    {direction : Direction} (move : Move config source label target)
    (sent : direction.Sent source.channel source.isr)
    (binary : (source.stream direction).sem.maxCount = 1)
    (notGiven : (source.stream direction).sem.count = 0) :
    direction.Sent target.channel target.isr ∧
        (direction.wakeRank target.channel target.isr <
            direction.wakeRank source.channel source.isr ∨
          direction.wakeRank target.channel target.isr =
              direction.wakeRank source.channel source.isr ∧ label ≠ .isr) ∨
      0 < (target.stream direction).sem.count := by
  cases move with
  | signal => exact .inl ⟨sent.append _, .inr ⟨sent.wakeRank_append _, by rintro ⟨⟩⟩⟩
  | isrEnter point head =>
      rw [point, head] at sent
      rw [point, head]
      exact .inl ⟨sent.enter.1, .inl sent.enter.2⟩
  | @isrSend action point =>
      rw [point] at sent
      simp only [resume_channel, point]
      cases direction with
      | send =>
          cases wakes : Direction.send.wakes action with
          | true => exact .inr (resume_given wakes binary notGiven)
          | false =>
              have nearer := sent.goOn _ wakes (after_recv .send wakes) Nat.one_lt_two
              exact .inl ⟨nearer.1, .inl nearer.2⟩
      | recv =>
          cases wakes : Direction.recv.wakes action with
          | true =>
              have before : (IsrPoint.resumeSend action).wakes .recv = true := wakes
              have after : (IsrPoint.resumeRecv action).wakes .recv = true := wakes
              refine .inl ⟨.of_wakes after, .inl ?_⟩
              rw [Direction.wakeRank_inside before, Direction.wakeRank_inside after]
              exact Nat.one_lt_two
          | false =>
              have nearer := sent.goOn _ wakes (after_recv .recv wakes) Nat.one_lt_two
              exact .inl ⟨nearer.1, .inl nearer.2⟩
  | @isrRecv action point =>
      rw [point] at sent
      simp only [resume_channel, point]
      cases wakes : (IsrPoint.resumeRecv action).wakes direction with
      | true =>
          cases direction with
          | recv => exact .inr (resume_given wakes binary notGiven)
          | send => cases wakes
      | false =>
          have nearer := sent.goOn .idle wakes rfl Nat.one_pos
          exact .inl ⟨nearer.1, .inl nearer.2⟩
  | store | receiveFilter =>
      simp only [Driver.receiveFiltered, Driver.received]
      split <;> exact .inl ⟨sent, .inr ⟨rfl, by rintro ⟨⟩⟩⟩
  | fetch | sendFilter =>
      simp only [Driver.fetched, Driver.sendFiltered, Driver.sent]
      split <;> exact .inl ⟨sent, .inr ⟨rfl, by rintro ⟨⟩⟩⟩
  | @answer other | @task other | @timeOut other =>
      cases other <;> exact .inl ⟨sent, .inr ⟨rfl, by rintro ⟨⟩⟩⟩
  | _ => exact .inl ⟨sent, .inr ⟨rfl, by rintro ⟨⟩⟩⟩

/-! ## Executions -/

/-- The library goes on calling the driver, the interrupt handler runs when there
is something in the channel, and the task of the direction runs when it can. -/
structure Fair (config : Config S) (direction : Direction)
    (execution : Execution (next config) (start config)) : Prop where
  calls : execution.Recurs direction.Calls
  signals : execution.Recurs (config.signaller direction).Calls
  isr : execution.WeaklyFair (fun driver => driver.isr ≠ .idle ∨ driver.channel ≠ []) (· = .isr)
  task : execution.WeaklyFair
    (fun driver => ((driver.stream direction).run direction.side).isSome) (· = .task direction)

/-- The direction follows the protocol, with calls that may wait for ever. -/
structure Follows (config : Config S) (direction : Direction)
    (execution : Execution (next config) (start config)) : Prop where
  carried : ∀ n, ((execution.state n).view config direction).Carried direction.side
  shaken : ∀ n, ((execution.state n).view config direction).Shaken
  patient : ∀ n, ((execution.state n).view config direction).Patient direction.side
  step : ∀ n, Step direction.side ((execution.state n).view config direction)
    ((execution.label n).event config direction) ((execution.state (n + 1)).view config direction)

/-- A call of the direction waits although its words are there. -/
abbrev Waits (config : Config S) (direction : Direction) (request : Request)
    (driver : Driver S) : Prop :=
  (driver.view config direction).Waits direction.side request

namespace Follows

variable {config : Config S} {direction : Direction}
  {execution : Execution (next config) (start config)} {request : Request}

theorem move (_ : Follows config direction execution) (n : Nat) :
    Move config (execution.state n) (execution.label n) (execution.state (n + 1)) :=
  move_of_next (execution.step n)

/-- A call goes on waiting while its semaphore is empty. -/
theorem stillWaits (follows : Follows config direction execution) {n : Nat}
    (point : ((execution.state n).stream direction).call = .wait request)
    (empty : ((execution.state n).stream direction).sem.count = 0) :
    ((execution.state (n + 1)).stream direction).call = .wait request ∧
      (execution.label n).event config direction ≠ .run := by
  rcases (follows.step n).stillWaits (follows.patient n) point with ⟨again, _, notRun⟩ | ⟨given, _⟩
  · exact ⟨again, notRun⟩
  · exact absurd empty (Nat.ne_of_gt given)

theorem waits (follows : Follows config direction execution) {n : Nat}
    (waits : Waits config direction request (execution.state n))
    (empty : ((execution.state n).stream direction).sem.count = 0) :
    Waits config direction request (execution.state (n + 1)) := by
  obtain ⟨again, notRun⟩ := follows.stillWaits waits.point empty
  exact ⟨again, (follows.step n).enough notRun waits.enough⟩

/-- The semaphore is empty while a count is required, or a wake-up is on its way. -/
theorem sem_empty_of_required (follows : Follows config direction execution) {n : Nat}
    (required : ((execution.state n).stream direction).buffer.required ≠ 0) :
    ((execution.state n).stream direction).sem.count = 0 := by
  have none_ : _ + _ = 0 := ((follows.shaken n).pending required).2
  exact (Nat.add_eq_zero_iff.mp none_).2

theorem sem_empty_of_flight (follows : Follows config direction execution) {n : Nat}
    (flying : 0 < (execution.state n).flight direction) :
    ((execution.state n).stream direction).sem.count = 0 := by
  have one : (execution.state n).flight direction + _ = 1 :=
    ((follows.shaken n).granted (Nat.add_pos_left flying _)).2.wakeUps
  show ((execution.state n).view config direction).stream.sem.count = 0
  omega

/-- What a waiting call requires is there. -/
theorem suffices_ (follows : Follows config direction execution) {n : Nat}
    (waits : Waits config direction request (execution.state n))
    (required : ((execution.state n).stream direction).buffer.required ≠ 0) :
    ((execution.state n).stream direction).buffer.required ≤
      direction.side.room ((execution.state n).stream direction).buffer := by
  have own := ((follows.patient n).required waits.point required).1
  exact (follows.carried n).buffer.enough_iff.mp (own ▸ waits.enough)

/-- The required count is found by the next call of the library. -/
theorem leadsTo_answered (follows : Follows config direction execution)
    (fair : Fair config direction execution) (request : Request) :
    execution.LeadsTo
      (fun driver => Waits config direction request driver ∧
        (driver.stream direction).buffer.required ≠ 0)
      (fun driver => Waits config direction request driver ∧
        (driver.stream direction).buffer.required = 0) := by
  have keep : ∀ n, Waits config direction request (execution.state n) →
      ((execution.state n).stream direction).buffer.required ≠ 0 →
      Waits config direction request (execution.state (n + 1)) :=
    fun n waits required => follows.waits waits (follows.sem_empty_of_required required)
  -- First the library calls the driver, then its thread comes to the required count.
  have called : execution.LeadsTo
      (fun driver => Waits config direction request driver ∧
        (driver.stream direction).buffer.required ≠ 0)
      (fun driver => (Waits config direction request driver ∧
          (driver.stream direction).buffer.required ≠ 0 ∧
          driver.hil.inCall = some direction ∧ driver.hil ≠ .signal direction) ∨
        Waits config direction request driver ∧
          (driver.stream direction).buffer.required = 0) := by
    apply Execution.LeadsTo.of_step (fair.calls.weaklyFair _)
    rintro n ⟨waits, required⟩
    have again := keep n waits required
    by_cases isCall : direction.Calls (execution.label n)
    · obtain ⟨_, inCall, inside, _, stream⟩ := I2s.calls (follows.move n) isCall
      exact .inr (.inl ⟨again, stream ▸ required, inCall, inside⟩)
    · by_cases answered : ((execution.state (n + 1)).stream direction).buffer.required = 0
      · exact .inr (.inr ⟨again, answered⟩)
      · exact .inl ⟨⟨again, answered⟩, isCall⟩
  have asked : execution.LeadsTo
      (fun driver => Waits config direction request driver ∧
        (driver.stream direction).buffer.required ≠ 0 ∧
        driver.hil.inCall = some direction ∧ driver.hil ≠ .signal direction)
      (fun driver => Waits config direction request driver ∧
        (driver.stream direction).buffer.required = 0) := by
    apply Execution.LeadsTo.of_unless
    · rintro n ⟨waits, required, inCall, inside⟩
      have again := keep n waits required
      by_cases answered : ((execution.state (n + 1)).stream direction).buffer.required = 0
      · exact .inr ⟨again, answered⟩
      · have next := asks_next (follows.move n) inCall inside required
          (follows.suffices_ waits required)
        exact .inl ⟨again, answered, next.resolve_right answered⟩
    · intro n always
      obtain ⟨m, later, isCall⟩ := fair.calls n
      have outside := (I2s.calls (follows.move m) isCall).1
      rw [(always m later).2.2.1] at outside
      cases outside
  exact called.trans (asked.or (.of_imp fun _ answered => answered))

/-- A wake-up that is noted is sent at the end of a call of the library. -/
theorem leadsTo_sent (follows : Follows config direction execution)
    (fair : Fair config direction execution) (request : Request) :
    execution.LeadsTo
      (fun driver => Waits config direction request driver ∧
        direction.wakes driver.isrCmd = true)
      (fun driver => Waits config direction request driver ∧
        direction.Sent driver.channel driver.isr) := by
  have keep : ∀ n, Waits config direction request (execution.state n) →
      direction.wakes (execution.state n).isrCmd = true →
      Waits config direction request (execution.state (n + 1)) := by
    intro n waits noted
    apply follows.waits waits (follows.sem_empty_of_flight _)
    rw [Driver.flight, noted]
    show 0 < 1 + _ + _
    omega
  have called : execution.LeadsTo
      (fun driver => Waits config direction request driver ∧
        direction.wakes driver.isrCmd = true)
      (fun driver => (Waits config direction request driver ∧
          direction.wakes driver.isrCmd = true ∧
          driver.hil.inCall = some (config.signaller direction)) ∨
        Waits config direction request driver ∧
          direction.Sent driver.channel driver.isr) := by
    apply Execution.LeadsTo.of_step (fair.signals.weaklyFair _)
    rintro n ⟨waits, noted⟩
    have again := keep n waits noted
    by_cases isCall : (config.signaller direction).Calls (execution.label n)
    · obtain ⟨_, inCall, _, isrCmd, _⟩ := I2s.calls (follows.move n) isCall
      exact .inr (.inl ⟨again, isrCmd ▸ noted, inCall⟩)
    · rcases noted_next (follows.move n) noted with ⟨stays, _⟩ | sent
      · exact .inl ⟨⟨again, stays⟩, isCall⟩
      · exact .inr (.inr ⟨again, sent⟩)
  have ended : execution.LeadsTo
      (fun driver => Waits config direction request driver ∧
        direction.wakes driver.isrCmd = true ∧
        driver.hil.inCall = some (config.signaller direction))
      (fun driver => Waits config direction request driver ∧
        direction.Sent driver.channel driver.isr) := by
    apply Execution.LeadsTo.of_unless
    · rintro n ⟨waits, noted, inCall⟩
      have again := keep n waits noted
      rcases noted_next (follows.move n) noted with ⟨stays, inside⟩ | sent
      · exact .inl ⟨again, stays, inside inCall⟩
      · exact .inr ⟨again, sent⟩
    · intro n always
      obtain ⟨m, later, isCall⟩ := fair.signals n
      have outside := (I2s.calls (follows.move m) isCall).1
      rw [(always m later).2.2] at outside
      cases outside
  exact called.trans (ended.or (.of_imp fun _ sent => sent))

/-- A wake-up that is sent reaches the semaphore. -/
theorem leadsTo_given (follows : Follows config direction execution)
    (fair : Fair config direction execution) (request : Request) :
    execution.LeadsTo
      (fun driver => Waits config direction request driver ∧
        direction.Sent driver.channel driver.isr)
      (fun driver => Waits config direction request driver ∧
        0 < (driver.stream direction).sem.count) := by
  have enabled : execution.WeaklyFair (fun driver => Waits config direction request driver ∧
      direction.Sent driver.channel driver.isr) (· = .isr) := by
    apply fair.isr.mono
    rintro driver ⟨_, sent⟩
    by_contra idle
    rw [not_or, not_not, not_not] at idle
    rw [idle.1, idle.2] at sent
    exact Nat.lt_irrefl 0 sent
  apply Execution.LeadsTo.of_rank
    (fun driver => direction.wakeRank driver.channel driver.isr) enabled
  rintro n ⟨waits, sent⟩
  have empty : ((execution.state n).stream direction).sem.count = 0 := by
    apply follows.sem_empty_of_flight
    rw [Direction.Sent] at sent
    rw [Driver.flight]
    omega
  have again := follows.waits waits empty
  rcases sent_next (follows.move n) sent (follows.shaken n).binary empty with
    ⟨stays, nearer⟩ | given
  · exact .inl ⟨⟨again, stays⟩, nearer⟩
  · exact .inr ⟨again, given⟩

/-- A task that is given the semaphore goes on. -/
theorem leadsTo_taken (follows : Follows config direction execution)
    (fair : Fair config direction execution) (request : Request) :
    execution.LeadsTo
      (fun driver => Waits config direction request driver ∧
        0 < (driver.stream direction).sem.count)
      (fun driver => (driver.stream direction).call = .copy request request.words []) := by
  have enabled : execution.WeaklyFair (fun driver => Waits config direction request driver ∧
      0 < (driver.stream direction).sem.count) (· = .task direction) := by
    apply fair.task.mono
    rintro driver ⟨waits, given⟩
    have point : (driver.stream direction).call = .wait request := waits.point
    simp [Stream.run, point, Semaphore.get?, given]
  apply Execution.LeadsTo.of_step enabled
  rintro n ⟨waits, given⟩
  rcases (follows.step n).stillWaits (follows.patient n) waits.point with
    ⟨again, keeps, notRun⟩ | taken
  · have still_ := (follows.step n).enough notRun waits.enough
    refine .inl ⟨⟨⟨again, still_⟩, given.trans_le keeps⟩, fun isTask => notRun ?_⟩
    rw [isTask]
    cases direction <;> rfl
  · exact .inr taken.2

/-- A call that waits for nothing more has a wake-up on its way. -/
theorem granted (follows : Follows config direction execution) {n : Nat}
    (waits : Waits config direction request (execution.state n))
    (answered : ((execution.state n).stream direction).buffer.required = 0) :
    direction.wakes (execution.state n).isrCmd = true ∨
      direction.Sent (execution.state n).channel (execution.state n).isr ∨
        0 < ((execution.state n).stream direction).sem.count := by
  have shaken := follows.shaken n
  have blocked := shaken.flag
  rw [waits.point] at blocked
  rcases shaken.blocked blocked with pending | granted
  · exact absurd answered pending.required
  · have one : (execution.state n).flight direction +
        ((execution.state n).stream direction).sem.count = 1 := granted.wakeUps
    rw [Driver.flight] at one
    cases noted : direction.wakes (execution.state n).isrCmd with
    | true => exact .inl rfl
    | false =>
        rw [noted] at one
        rw [Direction.Sent]
        simp only [Bool.toNat_false] at one
        right
        omega

/-- A waiting call whose words are there is released. -/
theorem released (follows : Follows config direction execution)
    (fair : Fair config direction execution) (request : Request) :
    execution.LeadsTo (Waits config direction request)
      (fun driver => (driver.stream direction).call = .copy request request.words []) := by
  have given := (follows.leadsTo_given fair request).trans (follows.leadsTo_taken fair request)
  have sent := (follows.leadsTo_sent fair request).trans given
  have granted : execution.LeadsTo
      (fun driver => Waits config direction request driver ∧
        (driver.stream direction).buffer.required = 0)
      (fun driver => (driver.stream direction).call = .copy request request.words []) := by
    rintro n ⟨waits, answered⟩
    rcases follows.granted waits answered with noted | onItsWay | atSemaphore
    · exact sent n ⟨waits, noted⟩
    · exact given n ⟨waits, onItsWay⟩
    · exact follows.leadsTo_taken fair request n ⟨waits, atSemaphore⟩
  intro n waits
  by_cases answered : ((execution.state n).stream direction).buffer.required = 0
  · exact granted n ⟨waits, answered⟩
  · exact ((follows.leadsTo_answered fair request).trans granted) n ⟨waits, answered⟩

end Follows

end FwkRtos.I2s

import FwkRtos.I2s.Release

/-!
# The I2S send stream as a queue

What `i2s_send` takes out of the buffer is what blocking calls of `i2s_local_tx`
have queued, in order, whatever a filter takes at a time; nothing is overwritten
before it is sent, and a call that waits is released once there are cells for its
words.
-/

namespace FwkRtos.I2s

open FwkRtos.Osal FwkRtos.SampleStream FwkRtos.Transition

universe u

variable {S : Type u}

/-- The stream to send is in its buffer, and its calls are patient. -/
structure Driver.SendsPatiently (config : Config S) (driver : Driver S) : Prop where
  sends : driver.Sends config
  patient : (driver.view config .send).Patient .writer

theorem sendsPatiently_start {config : Config S} (fits : config.SendFits) :
    (start config).SendsPatiently config where
  sends := sends_start fits
  patient := Stream.Patient.create .writer _ _

theorem Driver.SendsPatiently.step {config : Config S} {source target : Driver S}
    {label : Label S} (inv : source.SendsPatiently config) (fits : config.SendFits)
    (step : I2s.next config source label = some target) :
    Step .writer (source.view config .send) (label.event config .send)
      (target.view config .send) :=
  have sends := inv.sends
  (move_of_next step).step_send fits sends
    (grantCovers .send sends.carried sends.shaken inv.patient label)

theorem Driver.SendsPatiently.next {config : Config S} {source target : Driver S}
    {label : Label S} (inv : source.SendsPatiently config) (fits : config.SendFits)
    (blocking : Direction.send.Blocking label) (step : I2s.next config source label = some target) :
    target.SendsPatiently config :=
  have sends := inv.sends
  { sends := sends.next fits (grantCovers .send sends.carried sends.shaken inv.patient label) step
    patient := (inv.step fits step).patient sends.carried sends.shaken inv.patient
      fun _ begins => blocking.request begins }

/-- What `i2s_send` has taken is what `i2s_local_tx` has queued, in order, and what
it has not taken is in its cells. -/
structure SendsInOrder (driver : Driver S) : Prop where
  taken : driver.send.read <+: driver.send.written
  unsent : Ring.Holds driver.send.buffer.buf driver.send.buffer.bufSize.toNat
    driver.send.written driver.send.read.length

theorem Driver.Sends.sendsInOrder {config : Config S} {driver : Driver S}
    (sends : driver.Sends config) : SendsInOrder driver where
  taken := (List.prefix_append _ _).trans sends.carries.inOrder
  unsent := sends.carries.content.of_append

theorem sendsPatiently_of_blocking {config : Config S}
    {execution : Execution (next config) (start config)} (fits : config.SendFits)
    (blocking : ∀ n, Direction.send.Blocking (execution.label n)) (n : Nat) :
    (execution.state n).SendsPatiently config :=
  Execution.invariant (sendsPatiently_start fits)
    (fun n inv => inv.next fits (blocking n) (execution.step n)) n

theorem follows_send {config : Config S} {execution : Execution (next config) (start config)}
    (fits : config.SendFits) (patiently : ∀ n, (execution.state n).SendsPatiently config) :
    Follows config .send execution where
  carried n := (patiently n).sends.carried
  shaken n := (patiently n).sends.shaken
  patient n := (patiently n).patient
  step n := (patiently n).step fits (execution.step n)

/-- The send stream is a queue: with a buffer that holds whole frames, or a filter
that takes at most what it is offered, what is sent is what was queued, in order,
nothing unsent is overwritten, and a call is released once enough words have been
taken. -/
theorem sendStream_fifo {config : Config S} (fits : config.SendFits) :
    (∀ schedule, StepsMeet (next config) (start config) schedule
        (fun _ => Direction.send.Blocking) →
      StatesSatisfy (next config) (start config) schedule SendsInOrder) ∧
      ∀ execution : Execution (next config) (start config),
        (∀ n, Direction.send.Blocking (execution.label n)) → Fair config .send execution →
          ∀ request, execution.LeadsTo
            (fun driver => driver.send.call = .wait request ∧
              driver.send.written.length + request.words.toNat ≤
                driver.send.read.length + (config.bufSize .send).toNat)
            (fun driver => driver.send.call = .copy request request.words []) := by
  constructor
  · intro schedule blocking
    refine blocking.statesSatisfy (sendsPatiently_start fits) ?_ ?_
    · intro source target label inv blocks step
      exact inv.next fits blocks step
    · intro driver inv
      exact inv.sends.sendsInOrder
  · intro execution blocking fair request n waits
    have patiently := sendsPatiently_of_blocking fits blocking
    refine (follows_send fits patiently).released fair request n ⟨waits.1, ?_⟩
    show _ ≤ _ + (execution.state n).send.buffer.bufSize.toNat
    rw [(patiently n).sends.size]
    exact waits.2

/-- One output line, a send buffer of two frames, and a filter that takes one word
at a time and sends it twice. -/
def oneWordOut : Config Unit where
  numIn := 0
  numOut := 1
  recvBufferSize := 0
  sendBufferSize := 2
  sendFilterCb := some fun _ _ offered =>
    match offered with
    | [] => ((), [0, 0], 0)
    | word :: _ => ((), [word, word], 1)
  receiveFilterCb := none
  appData := ()
  memory _ _ := 0

theorem oneWordOut_sendFits : oneWordOut.SendFits where
  small := by decide
  frames := nofun
  filter cb isFilter _ _ offered := by
    cases isFilter
    cases offered with
    | nil => exact Nat.le_refl 0
    | cons => exact Nat.succ_le_succ (Nat.zero_le _)

/-- A call that has room for its frames. -/
def txAll (frameCount : UInt32) (samples : List Sample) (steps : Nat) : List (Label Unit) :=
  .tx frameCount samples rtosOsalPortWaitForever :: List.replicate steps (.task .send)

/-- `i2s_send` is called and comes to its end. -/
def sendAll : List (Label Unit) :=
  .sendFrame :: List.replicate 4 .hil

/-- Two frames are queued and three words are sent. -/
def wordByWord : List (Label Unit) :=
  txAll 2 [1, 2, 3, 4] 3 ++ sendAll ++ sendAll ++ sendAll

theorem wordByWord_fifo :
    (run (next oneWordOut) (start oneWordOut) wordByWord).map
        (fun driver => (driver.send.read, driver.send.written, driver.i2sSampleBuf)) =
      some ([1, 2, 3], [1, 2, 3, 4], [3, 3]) ∧
    StatesSatisfy (next oneWordOut) (start oneWordOut) wordByWord SendsInOrder :=
  ⟨by decide, (sendStream_fifo oneWordOut_sendFits).1 wordByWord (by decide)⟩

/-- Three output lines, and so many frames that the size of the buffer wraps to
eight words. -/
def wrappedOut : Config Unit where
  numIn := 0
  numOut := 3
  recvBufferSize := 0
  sendBufferSize := 715827884
  sendFilterCb := none
  receiveFilterCb := none
  appData := ()
  memory _ _ := 0

/-- Three frames are queued and sent, one after the other. -/
def pastTheEnd : List (Label Unit) :=
  txAll 1 [1, 2, 3, 4, 5, 6] 3 ++ sendAll ++ txAll 1 [7, 8, 9, 10, 11, 12] 4 ++ sendAll ++
    txAll 1 [13, 14, 15, 16, 17, 18] 4 ++ sendAll

/-- The second frame is read past the end of the buffer, and the third at the
wrong place. -/
theorem pastTheEnd_not_inOrder :
    StepsMeet (next wrappedOut) (start wrappedOut) pastTheEnd (fun _ => Direction.send.Blocking) ∧
      ¬ StatesSatisfy (next wrappedOut) (start wrappedOut) pastTheEnd SendsInOrder := by
  refine ⟨by decide, fun inOrder => ?_⟩
  have executed : (run (next wrappedOut) (start wrappedOut) pastTheEnd).map
      (fun driver => decide (driver.send.read <+: driver.send.written)) = some false := by
    decide
  obtain ⟨driver, final, mixed⟩ := Option.map_eq_some_iff.mp executed
  exact of_decide_eq_false mixed (inOrder (List.prefix_refl _) final).taken

end FwkRtos.I2s

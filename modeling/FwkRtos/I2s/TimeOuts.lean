import FwkRtos.I2s.Words

/-!
# Calls of the I2S driver that time out

A call that times out leaves its required count and the blocked flag behind, and
the wake-up that answers the count goes to whichever call waits then.  So the
streams stay intact as long as a wake-up is taken only by a call whose words are
there.
-/

namespace FwkRtos.I2s

open FwkRtos.Osal FwkRtos.SampleStream FwkRtos.Transition

universe u

variable {S : Type u}

/-- A call that is given the semaphore finds its words: the condition on a step
of a task. -/
def GrantsCover (driver : Driver S) : Label S → Prop
  | .task direction => (driver.stream direction).GrantCovers direction.side
  | _ => True

instance (driver : Driver S) : DecidablePred (GrantsCover driver)
  | .task direction =>
      inferInstanceAs (Decidable ((driver.stream direction).GrantCovers direction.side))
  | .receive _ | .sendFrame | .hil | .isr | .rx _ _ | .tx _ _ _ | .timeOut _ | .share _ =>
      .isTrue trivial

theorem GrantsCover.of_direction {driver : Driver S} {label : Label S}
    (covers : GrantsCover driver label) (direction : Direction) :
    direction.GrantCovers driver label := by
  cases label with
  | task => exact fun _ => covers
  | _ => trivial

/-- What is in the buffers is what was put in and not yet taken out, what was
returned was received, once and in order, and what was queued waits in its cells
to be sent. -/
structure StreamsIntact (driver : Driver S) : Prop where
  available : ∀ direction, (driver.stream direction).buffer.wordsAvailable ≤
    (driver.stream direction).buffer.bufSize
  returned : driver.recv.read <+: driver.accepted.flatten
  unsent : Ring.Holds driver.send.buffer.buf driver.send.buffer.bufSize.toNat
    driver.send.written driver.send.read.length

/-- Both buffers carry their streams. -/
structure Driver.Sound (config : Config S) (driver : Driver S) : Prop where
  receives : driver.Receives config
  sends : driver.Sends config

theorem Driver.Sound.streamsIntact {config : Config S} {driver : Driver S}
    (sound : driver.Sound config) : StreamsIntact driver where
  available direction := by
    cases direction with
    | recv => exact sound.receives.carries.wordsAvailable_le
    | send => exact sound.sends.carries.wordsAvailable_le
  returned := sound.receives.inOrder
  unsent := sound.sends.carries.content.of_append

/-- A call that times out returns no frame and changes nothing else. -/
def TimeOutsHarmless (config : Config S) : Prop :=
  ∀ source target direction, next config source (.timeOut direction) = some target →
    target = source.setStream direction
      { source.stream direction with call := .idle, result := some 0 }

/-- In every run in which a wake-up is taken only by calls whose words are there,
the streams stay intact, whatever calls time out. -/
theorem streamsIntact_of_grantsCover {config : Config S} (recvFits : config.RecvFits)
    (sendFits : config.SendFits) {schedule : List (Label S)}
    (covers : StepsMeet (next config) (start config) schedule GrantsCover) :
    StatesSatisfy (next config) (start config) schedule StreamsIntact ∧
      TimeOutsHarmless config := by
  constructor
  · have initial : (start config).Sound config :=
      ⟨receives_start recvFits.recvSafe, sends_start sendFits⟩
    refine covers.statesSatisfy initial ?_ ?_
    · intro source target label sound covers step
      exact ⟨sound.receives.next recvFits.recvSafe (recvFits.reportsFrame source label)
          (covers.of_direction .recv) step,
        sound.sends.next sendFits (covers.of_direction .send) step⟩
    · intro driver sound
      exact sound.streamsIntact
  · intro source target direction step
    obtain ⟨stream, late, rfl⟩ := Option.map_eq_some_iff.mp step
    obtain ⟨_, _, _, _, rfl⟩ := Stream.timeOut_eq_some late
    rfl

/-- One input line and no output, and a receive buffer of four frames. -/
def fourFrames : Config Unit where
  numIn := 1
  numOut := 0
  recvBufferSize := 4
  sendBufferSize := 0
  sendFilterCb := none
  receiveFilterCb := none
  appData := ()
  memory _ _ := 0

theorem fourFrames_recvFits : fourFrames.RecvFits where
  small := by decide
  frames _ := .inl (by decide)
  filter := nofun

theorem fourFrames_sendFits : fourFrames.SendFits where
  small := by decide
  frames _ := .inl (by decide)
  filter := nofun

/-- A call for one frame begins to wait, times out, and a frame arrives with its
wake-up. -/
def oneFrameTooLate : List (Label Unit) :=
  [.rx 1 ⟨10⟩, .task .recv, .task .recv, .timeOut .recv, .receive [1, 2]] ++
    List.replicate 6 .hil ++ List.replicate 3 .isr

/-- The next call is for the same frame. -/
def sameFrameLater : List (Label Unit) :=
  oneFrameTooLate ++ .rx 1 ⟨10⟩ :: List.replicate 3 (.task .recv)

/-- The next call is for four frames. -/
def moreFramesLater : List (Label Unit) :=
  oneFrameTooLate ++ .rx 4 ⟨10⟩ :: List.replicate 3 (.task .recv)

/-- The call that finds its frame returns it, and the streams are intact. -/
theorem sameFrameLater_streamsIntact :
    (run (next fourFrames) (start fourFrames) sameFrameLater).map
        (fun driver => (driver.recv.result, driver.recv.read)) = some (some 1, [1, 2]) ∧
      StatesSatisfy (next fourFrames) (start fourFrames) sameFrameLater StreamsIntact ∧
        TimeOutsHarmless fourFrames :=
  ⟨by decide, streamsIntact_of_grantsCover fourFrames_recvFits fourFrames_sendFits (by decide)⟩

/-- The call takes more words than there are, and the counters no longer agree. -/
theorem moreFramesLater_not_streamsIntact :
    ¬ ∀ driver : Driver Unit, Reachable (next fourFrames) (start fourFrames) driver →
      StreamsIntact driver := by
  intro always
  obtain ⟨driver, reachable, overdrawn⟩ := exists_reachable_of_run (next fourFrames)
    (start fourFrames) moreFramesLater
    (fun driver => decide (driver.recv.buffer.bufSize < driver.recv.buffer.wordsAvailable))
    (by decide)
  exact absurd ((always driver reachable).available .recv)
    (UInt32.not_le.mpr (of_decide_eq_true overdrawn))

end FwkRtos.I2s

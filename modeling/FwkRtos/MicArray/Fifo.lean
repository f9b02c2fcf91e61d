import FwkRtos.MicArray.Words

/-!
# The microphone array's buffer as a queue

Blocking calls return the words of the accepted frames in order, whatever the
sizes of the frames, of the calls and of the buffer are to each other.
-/

namespace FwkRtos.MicArray

open FwkRtos.Osal FwkRtos.SampleStream FwkRtos.Transition

/-- The calls that begin may wait for ever. -/
def Blocking : Label → Prop
  | .rx _ timeout => timeout = rtosOsalPortWaitForever
  | _ => True

instance : DecidablePred Blocking
  | .rx _ timeout => inferInstanceAs (Decidable (timeout = _))
  | .frame _ | .isr | .task | .timeOut => .isTrue trivial

theorem Blocking.request {config : Config} {label : Label} (blocking : Blocking label)
    {request : Request} (begins : label.event config = .begin request) :
    request.timeout = rtosOsalPortWaitForever := by
  cases label with
  | rx =>
      cases begins
      exact blocking
  | frame | isr | task | timeOut => cases begins

/-- The received stream is in its buffer, and its calls are patient. -/
structure Driver.ReceivesPatiently (config : Config) (driver : Driver) : Prop where
  receives : driver.Receives config
  patient : driver.view.Patient .reader

theorem receivesPatiently_start {config : Config} (small : config.bufSize.toNat < 2 ^ 30) :
    (start config).ReceivesPatiently config where
  receives := receives_start small
  patient := Stream.Patient.create .reader _ _

/-- A patient call that is given the semaphore finds its words. -/
theorem Driver.ReceivesPatiently.grantsCover {config : Config} {driver : Driver}
    (inv : driver.ReceivesPatiently config) (label : Label) : GrantsCover driver label := by
  cases label with
  | task => exact Stream.Patient.grantCovers inv.patient inv.receives.shaken inv.receives.carried
  | frame | isr | rx | timeOut => trivial

theorem Driver.ReceivesPatiently.next {config : Config} {source target : Driver} {label : Label}
    (inv : source.ReceivesPatiently config) (blocking : Blocking label)
    (step : MicArray.next config source label = some target) :
    target.ReceivesPatiently config := by
  have receives := inv.receives
  have covers := inv.grantsCover label
  have simulated := (move_of_next step).step receives covers
  constructor
  · exact receives.next covers step
  · exact simulated.patient receives.carried receives.shaken inv.patient
      fun _ begins => blocking.request begins

/-- What the calls have returned is what the interrupt handler has accepted, in
order, and both indices are inside the buffer. -/
structure ReturnsInOrder (driver : Driver) : Prop where
  returned : driver.recv.read <+: driver.accepted.flatten
  writeIndex : driver.recv.buffer.writeIndex < driver.recv.buffer.bufSize
  readIndex : driver.recv.buffer.readIndex < driver.recv.buffer.bufSize

theorem Driver.Receives.inOrder {config : Config} {driver : Driver}
    (receives : driver.Receives config) (nonempty : 0 < config.bufSize) :
    ReturnsInOrder driver where
  returned := by
    rw [receives.accepted]
    have beginning := (List.prefix_append _ _).trans receives.carries.inOrder
    exact beginning.trans (List.prefix_append _ _)
  writeIndex := by
    rw [← receives.size] at nonempty
    rw [UInt32.lt_iff_toNat_lt, receives.carries.writeIndex]
    exact Nat.mod_lt _ nonempty
  readIndex := by
    rw [← receives.size] at nonempty
    rw [UInt32.lt_iff_toNat_lt, receives.carries.readIndex]
    exact Nat.mod_lt _ nonempty

/-- A frame is accepted as a whole, or dropped as a whole because it does not fit
beside the words that have not been returned; nothing else is accepted. -/
def DropsOnlyWhenFull (config : Config) (source : Driver) (label : Label) : Prop :=
  ∀ target, next config source label = some target →
    match label with
    | .frame block =>
        target.accepted = source.accepted ++ [block] ∨
          target.accepted = source.accepted ∧
            config.bufSize.toNat <
              source.accepted.flatten.length - source.recv.read.length + block.length
    | _ => target.accepted = source.accepted

theorem Driver.Receives.dropsOnlyWhenFull {config : Config} {driver : Driver}
    (receives : driver.Receives config) (label : Label) :
    DropsOnlyWhenFull config driver label := by
  intro target step
  cases move_of_next step with
  | accept => exact .inl rfl
  | drop point size full =>
      refine .inr ⟨rfl, ?_⟩
      have most := receives.carries.written_le
      rw [UInt32.lt_iff_toNat_lt, receives.carries.toNat_wordsFree] at full
      have counted : driver.accepted.flatten.length = driver.recv.written.length := by
        rw [receives.accepted, point]
        exact congrArg List.length (List.append_nil _)
      rw [counted, size, ← receives.size]
      omega
  | store | addWritten | required | nothing | suffices_ | tooFew | answer | put | rx | task
    | timeOut => rfl

/-- The microphone ring is a queue: with a buffer whose size in words and in bytes
does not overflow, what blocking calls return is what was accepted, in order, the
indices stay inside the buffer, and a frame is dropped only as a whole and only
when it does not fit. -/
theorem microphones_fifo {config : Config} (nonempty : 0 < config.bufSize)
    (small : config.bufSize.toNat < 2 ^ 30) {schedule : List Label}
    (blocking : StepsMeet (next config) (start config) schedule (fun _ => Blocking)) :
    StatesSatisfy (next config) (start config) schedule ReturnsInOrder ∧
      StepsMeet (next config) (start config) schedule (DropsOnlyWhenFull config) := by
  have reached : ∀ before, before <+: schedule → ∀ driver,
      run (next config) (start config) before = some driver →
        driver.ReceivesPatiently config := by
    intro before isPrefix driver executed
    exact (blocking.guardedReachable isPrefix executed).invariant (receivesPatiently_start small)
      fun _ _ _ inv blocks step => inv.next blocks step
  constructor
  · intro before isPrefix driver executed
    exact (reached before isPrefix driver executed).receives.inOrder nonempty
  · intro before label isPrefix source _ executed _
    have shorter := (List.prefix_append before [label]).trans isPrefix
    exact (reached before shorter source executed).receives.dropsOnlyWhenFull label

/-- Two microphones, frames of two samples, and a buffer of six words. -/
def sixWords : Config where
  samplesPerFrame := 2
  micCount := 2
  format := .sampleChannel
  bufferSize := 3
  frameFits := by decide
  memory _ := 0

/-- A frame arrives, and the interrupt handler returns after so many steps. -/
def frameArrives (block : List Sample) (steps : Nat) : List Label :=
  .frame block :: List.replicate steps .isr

/-- A blocking call that goes on for so many steps. -/
def rxGoesOn (frameCount : UInt32) (steps : Nat) : List Label :=
  .rx frameCount rtosOsalPortWaitForever :: List.replicate steps .task

/-- Both sides go across the end of the buffer in the middle of their words, and a
frame is dropped. -/
def acrossTheEnd : List Label :=
  frameArrives [1, 2, 3, 4] 3 ++ rxGoesOn 1 3 ++ frameArrives [5, 6, 7, 8] 4 ++
    frameArrives [9, 10, 11, 12] 1 ++ rxGoesOn 3 4

theorem acrossTheEnd_fifo :
    (run (next sixWords) (start sixWords) acrossTheEnd).map
        (fun driver => (driver.recv.read, driver.accepted)) =
      some ([1, 2, 3, 4, 5, 6, 7, 8], [[1, 2, 3, 4], [5, 6, 7, 8]]) ∧
    StatesSatisfy (next sixWords) (start sixWords) acrossTheEnd ReturnsInOrder :=
  ⟨by decide, (microphones_fifo (by decide) (by decide) (by decide)).1⟩

/-- Two microphones, frames of one sample, and a buffer of `2 ^ 30 + 2` words, whose
size in bytes wraps to eight. -/
def wrappedBytes : Config where
  samplesPerFrame := 1
  micCount := 2
  format := .sampleChannel
  bufferSize := 0x20000001
  frameFits := by decide
  memory _ := 0

/-- Two frames are received and returned, one after the other. -/
def frameByFrame : List Label :=
  frameArrives [1, 2] 3 ++ rxGoesOn 1 3 ++ frameArrives [3, 4] 3 ++ rxGoesOn 1 3

/-- The second frame is stored outside of the memory that was allocated, and other
words are returned in its place. -/
theorem frameByFrame_not_inOrder :
    StepsMeet (next wrappedBytes) (start wrappedBytes) frameByFrame (fun _ => Blocking) ∧
      ¬ StatesSatisfy (next wrappedBytes) (start wrappedBytes) frameByFrame ReturnsInOrder := by
  refine ⟨by decide, fun inOrder => ?_⟩
  have executed : (run (next wrappedBytes) (start wrappedBytes) frameByFrame).map
      (fun driver => decide (driver.recv.read <+: driver.accepted.flatten)) = some false := by
    decide
  obtain ⟨driver, final, mixed⟩ := Option.map_eq_some_iff.mp executed
  exact of_decide_eq_false mixed (inOrder (List.prefix_refl _) final).returned

end FwkRtos.MicArray

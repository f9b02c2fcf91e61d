import FwkRtos.I2s.Release

/-!
# The I2S receive stream as a queue

What blocking calls of `i2s_local_rx` return is what `i2s_receive` has accepted,
in order, and a call that waits is released once its words have been accepted.
This takes a buffer that holds whole frames, because a frame is copied in one
piece wherever the index is.
-/

namespace FwkRtos.I2s

open FwkRtos.Osal FwkRtos.SampleStream FwkRtos.Transition

universe u

variable {S : Type u}

/-- The received stream is in its buffer, and its calls are patient. -/
structure Driver.ReceivesPatiently (config : Config S) (driver : Driver S) : Prop where
  receives : driver.Receives config
  patient : (driver.view config .recv).Patient .reader

theorem receivesPatiently_start {config : Config S} (fits : config.RecvFits) :
    (start config).ReceivesPatiently config where
  receives := receives_start fits.recvSafe
  patient := Stream.Patient.create .reader _ _

theorem Driver.ReceivesPatiently.step {config : Config S} {source target : Driver S}
    {label : Label S} (inv : source.ReceivesPatiently config) (fits : config.RecvFits)
    (step : I2s.next config source label = some target) :
    Step .reader (source.view config .recv) (label.event config .recv)
      (target.view config .recv) :=
  have receives := inv.receives
  (move_of_next step).step_recv fits.recvSafe (fits.reportsFrame source label) receives
    (grantCovers .recv receives.carried receives.shaken inv.patient label)

theorem Driver.ReceivesPatiently.next {config : Config S} {source target : Driver S}
    {label : Label S} (inv : source.ReceivesPatiently config) (fits : config.RecvFits)
    (blocking : Direction.recv.Blocking label) (step : I2s.next config source label = some target) :
    target.ReceivesPatiently config :=
  have receives := inv.receives
  { receives := receives.next fits.recvSafe (fits.reportsFrame source label)
      (grantCovers .recv receives.carried receives.shaken inv.patient label) step
    patient := (inv.step fits step).patient receives.carried receives.shaken inv.patient
      fun _ begins => blocking.request begins }

/-- What `i2s_local_rx` has returned is what `i2s_receive` has accepted, in order. -/
def ReturnsInOrder (driver : Driver S) : Prop :=
  driver.recv.read <+: driver.accepted.flatten

/-- A frame is accepted as a whole, or dropped as a whole because fewer words are
free than it has; nothing else is accepted. -/
def DropsOnlyWhenFull (config : Config S) (source : Driver S) (label : Label S) : Prop :=
  ∀ target, next config source label = some target →
    match label with
    | .receive frame =>
        target.accepted = source.accepted ++ [frame] ∨
          target.accepted = source.accepted ∧
            (config.bufSize .recv).toNat <
              source.accepted.flatten.length - source.recv.read.length +
                (config.frameWords .recv).toNat
    | _ => target.accepted = source.accepted

theorem Driver.Receives.dropsOnlyWhenFull {config : Config S} {driver : Driver S}
    (receives : driver.Receives config) (noFilter : config.receiveFilterCb = none)
    (label : Label S) : DropsOnlyWhenFull config driver label := by
  intro target step
  cases move_of_next step with
  | accept => exact .inl rfl
  | drop point size _ full =>
      refine .inr ⟨rfl, ?_⟩
      have most := receives.carries.written_le
      rw [UInt32.lt_iff_toNat_lt, receives.carries.toNat_wordsFree] at full
      have counted : driver.accepted.flatten.length = driver.recv.written.length := by
        rw [receives.accepted, point]
        exact congrArg List.length (List.append_nil _)
      rw [counted, ← receives.size]
      omega
  | offer _ _ filter =>
      rw [noFilter] at filter
      cases filter
  | receiveFilter _ filter =>
      rw [noFilter] at filter
      cases filter
  | store =>
      show (Driver.received _ _ _ _).accepted = driver.accepted
      rw [Driver.received]
      split <;> rfl
  | fetch =>
      show (Driver.fetched _ _).accepted = driver.accepted
      rw [Driver.fetched, Driver.sent]
      split <;> rfl
  | sendFilter =>
      show (Driver.sendFiltered _ _ _ _).accepted = driver.accepted
      simp only [Driver.sendFiltered, Driver.sent]
      split <;> rfl
  | isrSend | isrRecv =>
      show (Driver.resume _ _ _).accepted = driver.accepted
      rw [Driver.resume]
      split <;> rfl
  | @answer other | @task other | @timeOut other => cases other <;> rfl
  | _ => rfl

/-- What is accepted stays accepted. -/
theorem DropsOnlyWhenFull.stays {config : Config S} {source target : Driver S}
    {label : Label S} (drops : DropsOnlyWhenFull config source label)
    (step : next config source label = some target) : source.accepted <+: target.accepted := by
  have accepted := drops target step
  cases label with
  | receive frame =>
      rcases accepted with whole | ⟨same, _⟩
      · rw [whole]
        exact List.prefix_append _ _
      · rw [same]
  | _ => rw [show target.accepted = source.accepted from accepted]

/-- Outside of the library's calls every accepted word is counted. -/
theorem Driver.Receives.counted {config : Config S} {driver : Driver S}
    (receives : driver.Receives config) (outside : driver.hil.inCall = none) :
    driver.accepted.flatten = driver.recv.written := by
  have nothing : driver.hil.storing = [] := by
    cases point : driver.hil with
    | store | addWritten =>
        rw [point] at outside
        cases outside
    | _ => rfl
  rw [receives.accepted, nothing, List.append_nil]

section Executions

variable {config : Config S} {execution : Execution (next config) (start config)}

theorem receivesPatiently_of_blocking (fits : config.RecvFits)
    (blocking : ∀ n, Direction.recv.Blocking (execution.label n)) (n : Nat) :
    (execution.state n).ReceivesPatiently config :=
  Execution.invariant (receivesPatiently_start fits)
    (fun n inv => inv.next fits (blocking n) (execution.step n)) n

theorem follows_recv (fits : config.RecvFits)
    (patiently : ∀ n, (execution.state n).ReceivesPatiently config) :
    Follows config .recv execution where
  carried n := (patiently n).receives.carried
  shaken n := (patiently n).receives.shaken
  patient n := (patiently n).patient
  step n := (patiently n).step fits (execution.step n)

/-- What is accepted will be counted, while a call waits for it. -/
theorem leadsTo_counted (fits : config.RecvFits) (noFilter : config.receiveFilterCb = none)
    (patiently : ∀ n, (execution.state n).ReceivesPatiently config)
    (fair : Fair config .recv execution) (request : Request) :
    execution.LeadsTo
      (fun driver => driver.recv.call = .wait request ∧
        driver.recv.read.length + request.words.toNat ≤ driver.accepted.flatten.length)
      (Waits config .recv request) := by
  have follows := follows_recv fits patiently
  have short : execution.LeadsTo
      (fun driver => driver.recv.call = .wait request ∧
        driver.recv.read.length + request.words.toNat ≤ driver.accepted.flatten.length ∧
        ¬ Side.reader.Enough driver.recv request.words)
      (Waits config .recv request) := by
    apply Execution.LeadsTo.of_unless
    · rintro n ⟨point, accepted, short⟩
      have required : (execution.state n).recv.buffer.required ≠ 0 :=
        fun answered => short ((patiently n).patient.granted point answered)
      obtain ⟨again, notRun⟩ := follows.stillWaits point (follows.sem_empty_of_required required)
      by_cases enough : Side.reader.Enough (execution.state (n + 1)).recv request.words
      · exact .inr ⟨again, enough⟩
      · refine .inl ⟨again, ?_, enough⟩
        have read : (execution.state (n + 1)).recv.read = _ := (follows.step n).read_eq notRun
        have more := ((patiently n).receives.dropsOnlyWhenFull noFilter _).stays
          (execution.step n)
        rw [read]
        exact accepted.trans more.flatten.length_le
    · intro n always
      obtain ⟨m, later, isCall⟩ := fair.calls n
      obtain ⟨_, accepted, short⟩ := always m later
      have outside := (I2s.calls (follows.move m) isCall).1
      rw [(patiently m).receives.counted outside] at accepted
      exact short accepted
  rintro n ⟨point, accepted⟩
  by_cases enough : Side.reader.Enough (execution.state n).recv request.words
  · exact ⟨n, Nat.le_refl n, point, enough⟩
  · exact short n ⟨point, accepted, enough⟩

end Executions

/-- The receive stream is a queue: with no filter, and a buffer that holds whole
frames, what blocking calls return is what was accepted, in order, a frame is
dropped only for want of room, and a call is released once its words have been
accepted. -/
theorem receiveStream_fifo {config : Config S} (noFilter : config.receiveFilterCb = none)
    (small : (config.bufSize .recv).toNat < 2 ^ 30)
    (frames : FramesFit (config.frameWords .recv) (config.bufSize .recv)) :
    (∀ schedule, StepsMeet (next config) (start config) schedule
        (fun _ => Direction.recv.Blocking) →
      StatesSatisfy (next config) (start config) schedule ReturnsInOrder ∧
        StepsMeet (next config) (start config) schedule (DropsOnlyWhenFull config)) ∧
      ∀ execution : Execution (next config) (start config),
        (∀ n, Direction.recv.Blocking (execution.label n)) → Fair config .recv execution →
          ∀ request, execution.LeadsTo
            (fun driver => driver.recv.call = .wait request ∧
              driver.recv.read.length + request.words.toNat ≤ driver.accepted.flatten.length)
            (fun driver => driver.recv.call = .copy request request.words []) := by
  have fits : config.RecvFits := ⟨small, fun _ => frames, fun cb filter => by
    rw [noFilter] at filter
    cases filter⟩
  constructor
  · intro schedule blocking
    have reached : ∀ before, before <+: schedule → ∀ driver,
        run (next config) (start config) before = some driver →
          driver.ReceivesPatiently config := by
      intro before isPrefix driver executed
      exact (blocking.guardedReachable isPrefix executed).invariant (receivesPatiently_start fits)
        fun _ _ _ inv blocks step => inv.next fits blocks step
    constructor
    · intro before isPrefix driver executed
      exact (reached before isPrefix driver executed).receives.inOrder
    · intro before label isPrefix source _ executed _
      have shorter := (List.prefix_append before [label]).trans isPrefix
      exact (reached before shorter source executed).receives.dropsOnlyWhenFull noFilter label
  · intro execution blocking fair request
    have patiently := receivesPatiently_of_blocking fits blocking
    exact (leadsTo_counted fits noFilter patiently fair request).trans
      ((follows_recv fits patiently).released fair request)

/-- One input line and no output, and a receive buffer of two frames. -/
def twoFramesIn : Config Unit where
  numIn := 1
  numOut := 0
  recvBufferSize := 2
  sendBufferSize := 0
  sendFilterCb := none
  receiveFilterCb := none
  appData := ()
  memory _ _ := 0

/-- `i2s_receive` is called with a frame and comes to its end. -/
def receiveAll (frame : List Sample) : List (Label Unit) :=
  .receive frame :: List.replicate 4 .hil

/-- A call for frames that are there. -/
def rxAll (frameCount : UInt32) (steps : Nat) : List (Label Unit) :=
  .rx frameCount rtosOsalPortWaitForever :: List.replicate steps (.task .recv)

/-- Frames are received and returned one after the other, across the end of the
buffer, and one is dropped. -/
def frameByFrame : List (Label Unit) :=
  receiveAll [1, 2] ++ rxAll 1 3 ++ receiveAll [3, 4] ++ receiveAll [5, 6] ++
    .receive [7, 8] :: List.replicate 2 .hil ++ rxAll 2 4

theorem frameByFrame_fifo :
    (run (next twoFramesIn) (start twoFramesIn) frameByFrame).map
        (fun driver => (driver.recv.read, driver.accepted)) =
      some ([1, 2, 3, 4, 5, 6], [[1, 2], [3, 4], [5, 6]]) ∧
    StatesSatisfy (next twoFramesIn) (start twoFramesIn) frameByFrame ReturnsInOrder :=
  ⟨by decide, ((receiveStream_fifo rfl (by decide) (.inl (by decide))).1 frameByFrame
    (by decide)).1⟩

/-- Three input lines, and so many frames that the size of the buffer wraps to
eight words. -/
def wrappedIn : Config Unit where
  numIn := 3
  numOut := 0
  recvBufferSize := 715827884
  sendBufferSize := 0
  sendFilterCb := none
  receiveFilterCb := none
  appData := ()
  memory _ _ := 0

/-- Two frames are received and returned, one after the other. -/
def acrossTheEnd : List (Label Unit) :=
  receiveAll [1, 2, 3, 4, 5, 6] ++ rxAll 1 3 ++ receiveAll [7, 8, 9, 10, 11, 12] ++ rxAll 1 4

/-- The second frame is copied past the end of the buffer, and words of the first
are returned in its place. -/
theorem acrossTheEnd_not_inOrder :
    StepsMeet (next wrappedIn) (start wrappedIn) acrossTheEnd (fun _ => Direction.recv.Blocking) ∧
      ¬ StatesSatisfy (next wrappedIn) (start wrappedIn) acrossTheEnd ReturnsInOrder := by
  refine ⟨by decide, fun inOrder => ?_⟩
  have executed : (run (next wrappedIn) (start wrappedIn) acrossTheEnd).map
      (fun driver => decide (driver.recv.read <+: driver.accepted.flatten)) = some false := by
    decide
  obtain ⟨driver, final, mixed⟩ := Option.map_eq_some_iff.mp executed
  exact of_decide_eq_false mixed (inOrder (List.prefix_refl _) final)

end FwkRtos.I2s

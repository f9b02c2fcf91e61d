import FwkRtos.MicArray.Driver

/-!
# The words of the microphone array driver

Both sides copy in pieces that end where the buffer ends, so the buffer carries
its stream for every size of frames and buffer, unless the size in bytes that
`rtos_mic_array_start` asks for overflows.
-/

namespace FwkRtos.MicArray

open FwkRtos.Osal FwkRtos.SampleStream FwkRtos.Transition

/-! ## The view of the task -/

/-- How far the handler is with the words of a block. -/
def IsrPoint.moving : IsrPoint → Moving
  | .copy _ left stored => ⟨stored, left.toNat⟩
  | _ => still

/-- Where the handler is with the required count. -/
def IsrPoint.asking : IsrPoint → Asking
  | .compare => .compare
  | .answer => .answer
  | _ => .nothing

/-- The wake-up that the handler is about to give. -/
def IsrPoint.flight : IsrPoint → Nat
  | .put => 1
  | _ => 0

/-- The driver as its task sees it. -/
def Driver.view (driver : Driver) : View where
  stream := driver.recv
  peer := driver.isr.moving
  asking := driver.isr.asking
  flight := driver.isr.flight

/-- What the task does in a step of the driver. -/
def Label.event (config : Config) : Label → Event
  | .frame _ | .isr => .peer
  | .rx frameCount timeout => .begin (micArrayLocalRx config frameCount timeout)
  | .task => .run
  | .timeOut => .timeOut

/-- A call that is given the semaphore finds its words: the condition on a step of
the task. -/
def GrantsCover (driver : Driver) : Label → Prop
  | .task => driver.recv.GrantCovers .reader
  | _ => True

/-! ## The stream -/

/-- What the handler has stored of a block is its beginning. -/
def IsrPoint.Sized (config : Config) : IsrPoint → Prop
  | .copy block left stored =>
      block.length = config.frameWords.toNat ∧ stored = block.take stored.length ∧
        stored.length + left.toNat = block.length
  | _ => True

/-- The words of an accepted frame that are not counted yet. -/
def IsrPoint.storing : IsrPoint → List Sample
  | .copy block _ _ => block
  | _ => []

/-- The buffer carries the received stream, which consists of the frames that were
accepted. -/
structure Driver.Receives (config : Config) (driver : Driver) : Prop where
  size : driver.recv.buffer.bufSize = config.bufSize
  carried : driver.view.Carried .reader
  shaken : driver.view.Shaken
  sized : driver.isr.Sized config
  accepted : driver.accepted.flatten = driver.recv.written ++ driver.isr.storing

theorem Driver.Receives.carries {config : Config} {driver : Driver}
    (receives : driver.Receives config) :
    driver.recv.buffer.Carries driver.recv.written driver.isr.moving driver.recv.read
      driver.recv.call.moving :=
  receives.carried.buffer

/-- The piece that the handler copies next. -/
theorem Driver.Receives.piece {config : Config} {driver : Driver} {block stored : List Sample}
    {left : UInt32} (receives : driver.Receives config)
    (point : driver.isr = .copy block left stored) (more : left ≠ 0) :
    driver.recv.buffer.writeIndex.toNat +
          (chunk left driver.recv.buffer.writeIndex driver.recv.buffer.bufSize).toNat ≤
        driver.recv.buffer.bufSize.toNat ∧
      (chunk left driver.recv.buffer.writeIndex driver.recv.buffer.bufSize).toNat ≤ left.toNat ∧
      (chunk left driver.recv.buffer.writeIndex driver.recv.buffer.bufSize).toNat ≤
        (block.drop stored.length).length := by
  have carries := receives.carries
  have sized := receives.sized
  rw [point] at carries sized
  have inBlock := carries.writeIndex_lt
      (Nat.pos_of_ne_zero fun zero => more (UInt32.toNat.inj zero))
  have whole := sized.2.2
  rw [toNat_chunk inBlock, List.length_drop]
  omega

/-- The driver takes only the steps of the protocol. -/
theorem Move.step {config : Config} {source target : Driver} {label : Label}
    (move : Move config source label target) (receives : source.Receives config)
    (covers : GrantsCover source label) :
    Step .reader source.view (label.event config) target.view := by
  cases move with
  | accept point _ room =>
      obtain ⟨recv, isr, accepted⟩ := source
      cases point
      exact .claim rfl room
  | drop point =>
      obtain ⟨recv, isr, accepted⟩ := source
      cases point
      exact .stutter
  | @store block stored left point more =>
      obtain ⟨within, below, enough⟩ := receives.piece point more
      obtain ⟨recv, isr, accepted⟩ := source
      cases point
      have rest : (left - chunk left recv.buffer.writeIndex recv.buffer.bufSize).toNat =
          left.toNat - (chunk left recv.buffer.writeIndex recv.buffer.bufSize).toNat :=
        UInt32.toNat_sub_of_le _ _ (chunk_le _ _ _)
      have claimed : (chunk left recv.buffer.writeIndex recv.buffer.bufSize).toNat +
          (left - chunk left recv.buffer.writeIndex recv.buffer.bufSize).toNat ≤ left.toNat := by
        rw [rest, Nat.add_sub_of_le below]
      exact .move claimed within fun _ => enough
  | addWritten point =>
      have sized := receives.sized
      rw [point] at sized
      obtain ⟨recv, isr, accepted⟩ := source
      cases point
      exact .publish (sized.2.2.trans sized.1)
  | required point required =>
      obtain ⟨recv, isr, accepted⟩ := source
      cases point
      exact .examine rfl required
  | nothing point =>
      obtain ⟨recv, isr, accepted⟩ := source
      cases point
      exact .stutter
  | suffices_ point suffices_ =>
      obtain ⟨recv, isr, accepted⟩ := source
      cases point
      exact .compare rfl fun _ => suffices_
  | tooFew point =>
      obtain ⟨recv, isr, accepted⟩ := source
      cases point
      exact .compare rfl nofun
  | answer point =>
      obtain ⟨recv, isr, accepted⟩ := source
      cases point
      exact .answer rfl
  | put point =>
      obtain ⟨recv, isr, accepted⟩ := source
      cases point
      exact .wakeUp rfl
  | rx step => exact .begin step nofun
  | task runs => exact .run runs covers
  | timeOut step => exact .timeOut step

/-- What the handler has in hand is a part of its block, and every accepted frame
is counted as a whole. -/
theorem Move.frames {config : Config} {source target : Driver} {label : Label}
    (move : Move config source label target) (receives : source.Receives config) :
    target.isr.Sized config ∧
      target.accepted.flatten = target.recv.written ++ target.isr.storing := by
  have sized := receives.sized
  have accepted := receives.accepted
  cases move with
  | accept point size =>
      rw [point] at accepted
      refine ⟨⟨size, rfl, ?_⟩, ?_⟩
      · rw [size]
        exact Nat.zero_add _
      · rw [List.flatten_append, accepted]
        simp [IsrPoint.storing]
  | @store block stored left point more =>
      obtain ⟨_, below, enough⟩ := receives.piece point more
      rw [point] at sized accepted
      obtain ⟨size, beginning, whole⟩ := sized
      have length := List.length_take_of_le enough
      refine ⟨⟨size, ?_, ?_⟩, accepted⟩
      · rw [List.length_append, length, List.take_add, ← beginning]
      · rw [List.length_append, length, UInt32.toNat_sub_of_le _ _ (chunk_le _ _ _)]
        omega
  | @addWritten block stored point =>
      rw [point] at sized accepted
      obtain ⟨_, beginning, whole⟩ := sized
      have all : stored = block := by
        rw [beginning, show stored.length = block.length from whole, List.take_length]
      refine ⟨trivial, ?_⟩
      show _ = source.recv.written ++ stored ++ []
      rw [List.append_nil, all]
      exact accepted
  | drop point | required point | nothing point | suffices_ point | tooFew point | answer point
    | put point =>
      rw [point] at accepted
      exact ⟨trivial, accepted⟩
  | rx step =>
      rw [← (Stream.begin_streams step).1] at accepted
      exact ⟨sized, accepted⟩
  | task runs =>
      rw [← runs.written] at accepted
      exact ⟨sized, accepted⟩
  | timeOut step =>
      rw [← (Stream.timeOut_streams step).1] at accepted
      exact ⟨sized, accepted⟩

theorem receives_start {config : Config} (small : config.bufSize.toNat < 2 ^ 30) :
    (start config).Receives config where
  size := rfl
  carried := Stream.Carries.create .reader _ small
  shaken := Stream.HandShake.create _ _
  sized := trivial
  accepted := rfl

/-- The received stream stays in its buffer, as long as no call is given the
semaphore for words that are not there. -/
theorem Driver.Receives.next {config : Config} {source target : Driver} {label : Label}
    (receives : source.Receives config) (covers : GrantsCover source label)
    (step : MicArray.next config source label = some target) : target.Receives config :=
  have move := move_of_next step
  have simulated := move.step receives covers
  have frames := move.frames receives
  { size := simulated.bufSize.trans receives.size
    carried := simulated.carried receives.carried
    shaken := simulated.shaken receives.shaken
    sized := frames.1
    accepted := frames.2 }

end FwkRtos.MicArray

import FwkRtos.MicArray.Fifo

/-!
# The release of waiting microphone calls

A call that waits takes nothing out of the buffer, so the words that it finds
there stay, and only whole frames come to them.  Whether its required count is
ever reached depends on the words that are there, the size of a frame and the
size of the buffer.
-/

namespace FwkRtos.MicArray

open FwkRtos.Osal FwkRtos.SampleStream FwkRtos.Transition

/-! ## The words that can come -/

/-- The words that are counted once the interrupt handler is outside again. -/
def Driver.counted (config : Config) (driver : Driver) : UInt32 :=
  match driver.isr with
  | .copy _ _ _ => driver.recv.buffer.wordsAvailable + config.frameWords
  | _ => driver.recv.buffer.wordsAvailable

/-- The most words there can be: to those counted come as many whole frames as fit
in the rest of the buffer. -/
def Config.most (config : Config) (counted : UInt32) : Nat :=
  counted.toNat +
    config.frameWords.toNat * ((config.bufSize.toNat - counted.toNat) / config.frameWords.toNat)

/-- A frame that fits beside the counted words leaves the most there can be as it
is. -/
theorem Config.most_add {config : Config} {counted : UInt32} (within : counted ≤ config.bufSize)
    (room : config.frameWords ≤ config.bufSize - counted) :
    counted + config.frameWords ≤ config.bufSize ∧
      (counted + config.frameWords).toNat = counted.toNat + config.frameWords.toNat ∧
        config.most (counted + config.frameWords) = config.most counted := by
  rw [UInt32.le_iff_toNat_le, UInt32.toNat_sub_of_le _ _ within] at room
  rw [UInt32.le_iff_toNat_le] at within
  have bound := config.bufSize.toNat_lt
  have sum : (counted + config.frameWords).toNat =
      counted.toNat + config.frameWords.toNat := by
    rw [UInt32.toNat_add]
    exact Nat.mod_eq_of_lt (by omega)
  refine ⟨?_, sum, ?_⟩
  · rw [UInt32.le_iff_toNat_le, sum]
    omega
  · rw [most, most, sum]
    by_cases empty : config.frameWords.toNat = 0
    · rw [empty, Nat.add_zero]
    · have frames : (config.bufSize.toNat - counted.toNat) / config.frameWords.toNat =
          (config.bufSize.toNat - (counted.toNat + config.frameWords.toNat)) /
            config.frameWords.toNat + 1 := by
        rw [← Nat.add_div_right _ (Nat.pos_of_ne_zero empty)]
        congr 1
        omega
      rw [frames, Nat.mul_add_one]
      omega

/-- Without room for another frame there is no more to come. -/
theorem Config.most_of_full {config : Config} {counted : UInt32}
    (within : counted ≤ config.bufSize)
    (full : config.bufSize - counted < config.frameWords) :
    config.most counted = counted.toNat := by
  rw [UInt32.lt_iff_toNat_lt, UInt32.toNat_sub_of_le _ _ within] at full
  rw [most, Nat.div_eq_of_lt full, Nat.mul_zero, Nat.add_zero]

/-! ## Waiting for frames -/

/-- The steps without the task: frames arrive and the handler goes on. -/
def Label.Arrives : Label → Prop
  | .frame _ | .isr => True
  | _ => False

instance : DecidablePred Label.Arrives
  | .frame _ | .isr => .isTrue trivial
  | .rx _ _ | .task | .timeOut => .isFalse id

def Label.isFrame : Label → Bool
  | .frame _ => true
  | _ => false

/-- A call that waits is released once so many further frames have arrived. -/
def ReleasedByFrames (config : Config) (driver : Driver) : Prop :=
  ∀ request, driver.recv.call = .wait request →
    ∃ frames, ∀ arriving : List Label, (∀ label ∈ arriving, label.Arrives) →
      frames ≤ arriving.countP Label.isFrame →
        ∀ target, run (next config) driver arriving = some target → 0 < target.recv.sem.count

/-- The words for which the next step of the task begins to wait. -/
def Driver.demanded (driver : Driver) : Label → Option UInt32
  | .task =>
      match driver.recv.call with
      | .demand request => some request.words
      | _ => none
  | _ => none

theorem demanded_eq_some {driver : Driver} {label : Label} {words : UInt32}
    (demanded : words ∈ driver.demanded label) :
    label = .task ∧ ∃ request, driver.recv.call = .demand request ∧ request.words = words := by
  unfold Driver.demanded at demanded
  split at demanded
  · split at demanded
    · next request point => exact ⟨rfl, request, point, Option.some.inj demanded⟩
    · cases demanded
  · cases demanded

/-- A call that begins to wait will be reached by whole frames. -/
def FramesSuffice (config : Config) (driver : Driver) (label : Label) : Prop :=
  ∀ words ∈ driver.demanded label, words.toNat ≤ config.most (driver.counted config)

/-- A call that begins to wait finds no more words than the buffer has. -/
def CountersInOrder (config : Config) (driver : Driver) (label : Label) : Prop :=
  ∀ _words ∈ driver.demanded label, driver.counted config ≤ config.bufSize

instance (config : Config) (driver : Driver) : DecidablePred (FramesSuffice config driver) :=
  fun label => Option.decidableForallMem (driver.demanded label)

instance (config : Config) (driver : Driver) : DecidablePred (CountersInOrder config driver) :=
  fun label => Option.decidableForallMem (driver.demanded label)

/-! ## Every run -/

/-- A call that has not begun to wait was not refused. -/
def AtMost (bufSize : UInt32) : CallPoint → Prop
  | .check request | .demand request => request.words ≤ bufSize
  | _ => True

/-- What every run keeps, also when calls time out and their wake-ups go to calls
for more words. -/
structure Driver.Orderly (config : Config) (driver : Driver) : Prop where
  size : driver.recv.buffer.bufSize = config.bufSize
  index : 0 < config.bufSize → driver.recv.buffer.writeIndex < config.bufSize
  shaken : driver.view.Shaken
  atMost : AtMost config.bufSize driver.recv.call

theorem orderly_start (config : Config) : (start config).Orderly config where
  size := rfl
  index := id
  shaken := Stream.HandShake.create _ _
  atMost := trivial

theorem stepIndex_lt {index count size : UInt32} (nonempty : 0 < size) :
    stepIndex index count size < size := by
  rw [stepIndex]
  split
  · exact nonempty
  · next inside => exact UInt32.not_le.mp inside

/-- The hand-shake does not depend on what is in the buffer. -/
theorem Move.shaken {config : Config} {source target : Driver} {label : Label}
    (move : Move config source label target) (shaken : source.view.Shaken) :
    target.view.Shaken := by
  have shaken : Stream.HandShake _ _ _ := shaken
  obtain ⟨recv, isr, accepted⟩ := source
  cases move with
  | accept point | drop point | nothing point =>
      cases point
      exact ⟨shaken.free, shaken.blocked, shaken.flag, shaken.binary⟩
  | store point | addWritten point =>
      cases point
      exact ⟨shaken.free, shaken.blocked, shaken.flag, shaken.binary⟩
  | required point required =>
      cases point
      exact shaken.examine required
  | suffices_ point | tooFew point =>
      cases point
      exact shaken.compared _
  | answer point =>
      cases point
      exact shaken.answered
  | put point =>
      cases point
      exact shaken.wokenUp
  | rx step => exact shaken.begin step
  | task runs => exact shaken.run runs
  | timeOut step => exact shaken.timeOut step

theorem Driver.Orderly.next {config : Config} {source target : Driver} {label : Label}
    (orderly : source.Orderly config) (step : MicArray.next config source label = some target) :
    target.Orderly config := by
  have shaken := (move_of_next step).shaken orderly.shaken
  obtain ⟨size, index, _, atMost⟩ := orderly
  cases move_of_next step with
  | store =>
      refine ⟨size, fun nonempty => ?_, shaken, atMost⟩
      show stepIndex _ _ source.recv.buffer.bufSize < config.bufSize
      rw [size]
      exact stepIndex_lt nonempty
  | rx begins =>
      obtain ⟨_, ⟨_, rfl⟩ | ⟨accepted, ⟨_, rfl⟩ | ⟨_, rfl⟩⟩⟩ := Stream.begin_eq_some begins
      · exact ⟨size, index, shaken, atMost⟩
      · exact ⟨size, index, shaken, size ▸ accepted⟩
      · exact ⟨size, index, shaken, trivial⟩
  | task runs =>
      cases runs with
      | short point =>
          rw [point] at atMost
          exact ⟨size, index, shaken, atMost⟩
      | enough | demand | granted | copy | complete => exact ⟨size, index, shaken, trivial⟩
  | timeOut late =>
      obtain ⟨_, _, _, _, rfl⟩ := Stream.timeOut_eq_some late
      exact ⟨size, index, shaken, trivial⟩
  | accept | drop | addWritten | required | nothing | suffices_ | tooFew | answer | put =>
      exact ⟨size, index, shaken, atMost⟩

/-- Nothing is required while no call is blocked. -/
theorem Driver.Orderly.quiet {config : Config} {driver : Driver} (orderly : driver.Orderly config)
    (free : driver.recv.blocked = false) :
    driver.recv.buffer.required = 0 ∧ driver.isr ≠ .answer := by
  have quiet := orderly.shaken.free free
  refine ⟨quiet.required, fun point => ?_⟩
  have asking : driver.isr.asking = .nothing := quiet.asking
  rw [point] at asking
  cases asking

/-! ## What frames change -/

/-- Only a frame that is accepted adds to the counted words, and adds the whole
frame. -/
theorem Move.counted {config : Config} {source target : Driver} {label : Label}
    (move : Move config source label target) (arrives : label.Arrives) :
    target.counted config = source.counted config ∨
      source.isr = .idle ∧ config.frameWords ≤ source.recv.buffer.wordsFree ∧
        target.counted config = source.counted config + config.frameWords := by
  cases move with
  | accept point _ room =>
      refine .inr ⟨point, room, ?_⟩
      rw [Driver.counted, Driver.counted, point]
  | drop point | required point | nothing point | suffices_ point | tooFew point =>
      refine .inl ?_
      rw [Driver.counted, Driver.counted, point]
  | store point | answer point | put point =>
      refine .inl ?_
      rw [Driver.counted, Driver.counted, point]
      rfl
  | addWritten point =>
      refine .inl ?_
      rw [Driver.counted, Driver.counted, point]
      exact add_sub_right_comm _ _ _
  | rx | task | timeOut => exact arrives.elim

/-- Without the task a call stays blocked. -/
theorem Move.blocked {config : Config} {source target : Driver} {label : Label}
    (move : Move config source label target) (arrives : label.Arrives) :
    target.recv.blocked = source.recv.blocked ∧
      target.recv.buffer.bufSize = source.recv.buffer.bufSize := by
  cases move with
  | rx | task | timeOut => exact arrives.elim
  | _ => exact ⟨rfl, rfl⟩

/-- Frames will bring the required count. -/
def Config.Reaches (config : Config) (counted required : UInt32) : Prop :=
  counted ≤ config.bufSize ∧ required.toNat ≤ config.most counted

/-- Whatever is required will be there, and is there when the handler says so. -/
structure Driver.Expects (config : Config) (driver : Driver) : Prop where
  orderly : driver.Orderly config
  reaches : driver.recv.buffer.required ≠ 0 →
    config.Reaches (driver.counted config) driver.recv.buffer.required
  answer : driver.isr = .answer →
    driver.recv.buffer.required ≤ driver.recv.buffer.wordsAvailable

theorem expects_start (config : Config) : (start config).Expects config where
  orderly := orderly_start config
  reaches := absurd rfl
  answer := nofun

/-- Frames do not change what they will bring. -/
theorem Move.reaches {config : Config} {source target : Driver} {label : Label}
    (move : Move config source label target) (arrives : label.Arrives)
    (size : source.recv.buffer.bufSize = config.bufSize)
    (within : source.counted config ≤ config.bufSize) :
    target.counted config ≤ config.bufSize ∧
      config.most (target.counted config) = config.most (source.counted config) := by
  rcases move.counted arrives with same | ⟨idle, room, more⟩
  · rw [same]
    exact ⟨within, rfl⟩
  · have free : source.recv.buffer.wordsFree = config.bufSize - source.counted config := by
      rw [SampleBuffer.wordsFree, size, Driver.counted, idle]
    rw [free] at room
    obtain ⟨fits, _, most⟩ := Config.most_add within room
    rw [more]
    exact ⟨fits, most⟩

/-- Without the task, what is required stays required until it is answered. -/
theorem Move.staysRequired {config : Config} {source target : Driver} {label : Label}
    (move : Move config source label target) (arrives : label.Arrives) :
    target.recv.buffer.required = source.recv.buffer.required ∧ source.isr ≠ .answer ∨
      source.isr = .answer ∧ target.recv.buffer.required = 0 := by
  cases move with
  | accept point | drop point | store point | addWritten point | required point | nothing point
    | suffices_ point | tooFew point | put point =>
      refine .inl ⟨rfl, ?_⟩
      rw [point]
      exact nofun
  | answer point => exact .inr ⟨point, rfl⟩
  | rx | task | timeOut => exact arrives.elim

theorem Driver.Expects.arrives {config : Config} {source target : Driver} {label : Label}
    (expects : source.Expects config) (arrives : label.Arrives)
    (step : MicArray.next config source label = some target) : target.Expects config := by
  have move := move_of_next step
  refine ⟨expects.orderly.next step, ?_, ?_⟩
  · rcases move.staysRequired arrives with ⟨same, _⟩ | ⟨_, answered⟩
    · rw [same]
      intro required
      obtain ⟨within, reached⟩ := expects.reaches required
      obtain ⟨fits, most⟩ := move.reaches arrives expects.orderly.size within
      exact ⟨fits, most ▸ reached⟩
    · exact absurd answered
  · cases move with
    | suffices_ _ suffices_ => exact fun _ => suffices_
    | rx | task | timeOut => exact arrives.elim
    | accept | drop | store | addWritten | required | nothing | tooFew | answer | put => exact nofun

theorem Driver.Expects.next {config : Config} {source target : Driver} {label : Label}
    (expects : source.Expects config) (counters : CountersInOrder config source label)
    (suffice : FramesSuffice config source label)
    (step : MicArray.next config source label = some target) : target.Expects config := by
  have orderly := expects.orderly.next step
  cases move_of_next step with
  | rx begins =>
      obtain ⟨_, ⟨_, rfl⟩ | ⟨_, ⟨_, rfl⟩ | ⟨_, rfl⟩⟩⟩ := Stream.begin_eq_some begins <;>
        exact ⟨orderly, expects.reaches, expects.answer⟩
  | timeOut late =>
      obtain ⟨_, _, _, _, rfl⟩ := Stream.timeOut_eq_some late
      exact ⟨orderly, expects.reaches, expects.answer⟩
  | task runs =>
      have flag := expects.orderly.shaken.flag
      cases runs with
      | enough | short | granted => exact ⟨orderly, expects.reaches, expects.answer⟩
      | @demand request point =>
          rw [Driver.view, point] at flag
          have demanded : request.words ∈ source.demanded .task := by
            rw [Driver.demanded, point]
            rfl
          refine ⟨orderly, fun _ => ⟨counters _ demanded, suffice _ demanded⟩, fun answer => ?_⟩
          exact absurd answer (expects.orderly.quiet flag.1).2
      | copy point | complete point =>
          -- A call that moves its words is not blocked.
          rw [Driver.view, point] at flag
          obtain ⟨nothing, outside⟩ := expects.orderly.quiet flag
          exact ⟨orderly, absurd nothing, fun answer => absurd answer outside⟩
  | _ => exact expects.arrives (by trivial) step

/-! ## Enough frames -/

/-- How many frames it takes at most until the semaphore is given. -/
def Driver.need (config : Config) (driver : Driver) : Nat :=
  if 0 < driver.recv.sem.count then 0
  else if driver.recv.buffer.required = 0 then 1
  else if driver.isr ≠ .idle ∧ driver.recv.buffer.required ≤ driver.counted config then 1
  else driver.recv.buffer.required.toNat - (driver.counted config).toNat + 2

theorem Driver.sem_of_need {config : Config} {driver : Driver} (nothing : driver.need config = 0) :
    0 < driver.recv.sem.count := by
  unfold Driver.need at nothing
  split_ifs at nothing
  assumption

/-- While no wake-up has been given to a blocked call, the handler has one in hand or
the call's count is still required. -/
theorem Driver.Orderly.required_of_empty {config : Config} {driver : Driver}
    (orderly : driver.Orderly config) (blocked : driver.recv.blocked = true)
    (empty : ¬ 0 < driver.recv.sem.count) (outside : driver.isr ≠ .put) :
    driver.recv.buffer.required ≠ 0 := by
  intro nothing
  rcases orderly.shaken.blocked blocked with pending | granted
  · exact pending.required nothing
  · have one : driver.isr.flight + driver.recv.sem.count = 1 := granted.wakeUps
    cases point : driver.isr with
    | put => exact outside point
    | idle | copy | examine | compare | answer =>
        rw [point] at one
        have : 0 + driver.recv.sem.count = 1 := one
        omega

theorem Driver.need_of_given {config : Config} {driver : Driver}
    (given : 0 < driver.recv.sem.count) : driver.need config = 0 :=
  if_pos given

theorem Driver.need_pos {config : Config} {driver : Driver}
    (empty : ¬ 0 < driver.recv.sem.count) : 1 ≤ driver.need config := by
  rw [need, if_neg empty]
  split_ifs
  · exact Nat.le_refl 1
  · exact Nat.le_refl 1
  · exact Nat.succ_le_succ (Nat.zero_le _)

theorem Driver.need_of_enough {config : Config} {driver : Driver} (inside : driver.isr ≠ .idle)
    (enough : driver.recv.buffer.required ≤ driver.counted config) : driver.need config ≤ 1 := by
  unfold need
  split_ifs with _ _ late
  · exact Nat.zero_le _
  · exact Nat.le_refl _
  · exact Nat.le_refl _
  · exact absurd ⟨inside, enough⟩ late

theorem Driver.need_of_short {config : Config} {driver : Driver}
    (empty : ¬ 0 < driver.recv.sem.count) (required : driver.recv.buffer.required ≠ 0)
    (short : ¬ (driver.isr ≠ .idle ∧ driver.recv.buffer.required ≤ driver.counted config)) :
    driver.need config =
      driver.recv.buffer.required.toNat - (driver.counted config).toNat + 2 := by
  rw [need, if_neg empty, if_neg required, if_neg short]

theorem Driver.need_congr {config : Config} {source target : Driver}
    (sem : target.recv.sem = source.recv.sem)
    (required : target.recv.buffer.required = source.recv.buffer.required)
    (counted : target.counted config = source.counted config) (inside : source.isr ≠ .idle)
    (stays : target.isr ≠ .idle) : target.need config = source.need config := by
  have both : target.isr ≠ .idle ↔ source.isr ≠ .idle := iff_of_true stays inside
  simp only [need, sem, required, counted, both]

/-- As long as frames do not bring enough they bring something. -/
theorem Move.counted_lt {config : Config} {source target : Driver} {block : List Sample}
    {required : UInt32} (move : Move config source (.frame block) target)
    (size : source.recv.buffer.bufSize = config.bufSize)
    (within : source.counted config ≤ config.bufSize)
    (reached : required.toNat ≤ config.most (source.counted config))
    (short : ¬ required.toNat ≤ (target.counted config).toNat) :
    (source.counted config).toNat < (target.counted config).toNat := by
  have idle : source.isr = .idle := by cases move <;> assumption
  have available : source.counted config = source.recv.buffer.wordsAvailable := by
    rw [Driver.counted, idle]
  have free : source.recv.buffer.wordsFree = config.bufSize - source.counted config := by
    rw [SampleBuffer.wordsFree, size, available]
  cases move with
  | accept _ _ room =>
      rw [free] at room
      obtain ⟨_, sum, _⟩ := Config.most_add within room
      have more : Driver.counted config { source with
          isr := .copy block config.frameWords []
          accepted := source.accepted ++ [block] } = source.counted config + config.frameWords :=
        congrArg (· + config.frameWords) available.symm
      rw [more, sum] at short ⊢
      by_contra noMore
      have nothing : config.frameWords.toNat = 0 := by omega
      rw [Config.most, nothing, Nat.zero_mul] at reached
      omega
  | drop _ _ full =>
      rw [free] at full
      rw [Config.most_of_full within full, available] at reached
      exact absurd reached short

/-- A frame brings the wake-up of a blocked call nearer. -/
theorem Move.need_frame {config : Config} {source target : Driver} {block : List Sample}
    (move : Move config source (.frame block) target) (expects : source.Expects config)
    (blocked : source.recv.blocked = true) : target.need config ≤ source.need config - 1 := by
  have idle : source.isr = .idle := by cases move <;> assumption
  have inside : target.isr ≠ .idle := by cases move <;> exact nofun
  have sem : target.recv.sem = source.recv.sem := by cases move <;> rfl
  have same : target.recv.buffer.required = source.recv.buffer.required := by cases move <;> rfl
  by_cases given : 0 < source.recv.sem.count
  · rw [Driver.need_of_given (sem ▸ given)]
    exact Nat.zero_le _
  · have required := expects.orderly.required_of_empty blocked given (by rw [idle]; exact nofun)
    obtain ⟨within, reached⟩ := expects.reaches required
    rw [Driver.need_of_short given required fun short => short.1 idle]
    by_cases enough : target.recv.buffer.required ≤ target.counted config
    · have := Driver.need_of_enough inside enough
      omega
    · rw [Driver.need_of_short (sem ▸ given) (same ▸ required) fun short => enough short.2, same]
      rw [same, UInt32.le_iff_toNat_le] at enough
      have := move.counted_lt expects.orderly.size within reached enough
      omega

/-- The handler does not take it back. -/
theorem Move.need_isr {config : Config} {source target : Driver}
    (move : Move config source .isr target) (expects : source.Expects config)
    (blocked : source.recv.blocked = true) : target.need config ≤ source.need config := by
  have grows : source.recv.sem.count ≤ target.recv.sem.count := by
    cases move with
    | put => exact sem_le_wakeUp _
    | _ => exact Nat.le_refl _
  by_cases given : 0 < target.recv.sem.count
  · rw [Driver.need_of_given given]
    exact Nat.zero_le _
  · have counted := move.counted trivial
    have empty : ¬ 0 < source.recv.sem.count := fun positive => given (positive.trans_le grows)
    have same : source.isr ≠ .idle → target.counted config = source.counted config := by
      intro inside
      rcases counted with same | ⟨idle, _⟩
      · exact same
      · exact absurd idle inside
    cases move with
    | store point | addWritten point | required point | suffices_ point =>
        have inside : source.isr ≠ .idle := by
          rw [point]
          exact nofun
        apply Nat.le_of_eq
        exact Driver.need_congr rfl rfl (same inside) inside nofun
    | nothing point nothing =>
        refine absurd nothing (expects.orderly.required_of_empty blocked empty ?_)
        rw [point]
        exact nofun
    | tooFew point tooFew =>
        have inside : source.isr ≠ .idle := by
          rw [point]
          exact nofun
        have required := expects.orderly.required_of_empty blocked empty (by
          rw [point]
          exact nofun)
        have short : ¬ source.recv.buffer.required ≤ source.counted config := by
          rw [Driver.counted, point]
          exact UInt32.not_le.mpr tooFew
        rw [Driver.need_of_short empty required fun enough => short enough.2,
          Driver.need_of_short given required fun enough => absurd rfl enough.1, same inside]
    | answer =>
        exact Nat.le_trans (Driver.need_of_enough nofun UInt32.zero_le) (Driver.need_pos empty)
    | put point =>
        have shaken : source.recv.HandShake source.isr.asking source.isr.flight :=
          expects.orderly.shaken
        rw [point] at shaken
        exact absurd shaken.wokenUp_count given

/-- Frames that arrive bring the wake-up of a blocked call. -/
theorem Driver.Expects.need_run {config : Config} {arriving : List Label}
    (arrives : ∀ label ∈ arriving, label.Arrives) {source target : Driver}
    (expects : source.Expects config) (blocked : source.recv.blocked = true)
    (executed : run (MicArray.next config) source arriving = some target) :
    target.need config ≤ source.need config - arriving.countP Label.isFrame := by
  induction arriving generalizing source with
  | nil =>
      cases executed
      exact Nat.le_refl _
  | cons label rest ih =>
      obtain ⟨middle, step, executed⟩ := Option.bind_eq_some_iff.mp executed
      have first := arrives label List.mem_cons_self
      have move := move_of_next step
      have later := ih (fun other member => arrives other (List.mem_cons_of_mem _ member))
        (expects.arrives first step) ((move.blocked first).1.trans blocked) executed
      cases label with
      | frame block =>
          have nearer := move.need_frame expects blocked
          rw [List.countP_cons_of_pos rfl]
          omega
      | isr =>
          have kept := move.need_isr expects blocked
          rw [List.countP_cons_of_neg Bool.false_ne_true]
          omega
      | rx | task | timeOut => exact first.elim

theorem Driver.Expects.released {config : Config} {driver : Driver}
    (expects : driver.Expects config) : ReleasedByFrames config driver := by
  intro request point
  have blocked := expects.orderly.shaken.flag
  rw [Driver.view, point] at blocked
  refine ⟨driver.need config, fun arriving arrives frames target executed => ?_⟩
  have need := expects.need_run arrives blocked executed
  rw [Nat.sub_eq_zero_of_le frames] at need
  exact Driver.sem_of_need (Nat.le_zero.mp need)

/-! ## Too few frames -/

/-- No frame will bring the required count. -/
structure Driver.Stuck (config : Config) (driver : Driver) : Prop where
  sem : driver.recv.sem.count = 0
  within : driver.counted config ≤ config.bufSize
  beyond : config.most (driver.counted config) < driver.recv.buffer.required.toNat
  outside : driver.isr ≠ .answer ∧ driver.isr ≠ .put

theorem Driver.Stuck.arrives {config : Config} {source target : Driver} {label : Label}
    (stuck : source.Stuck config) (size : source.recv.buffer.bufSize = config.bufSize)
    (arrives : label.Arrives) (step : MicArray.next config source label = some target) :
    target.Stuck config := by
  have move := move_of_next step
  obtain ⟨sem, within, beyond, answer, put⟩ := stuck
  obtain ⟨fits, most⟩ := move.reaches arrives size within
  have required : target.recv.buffer.required = source.recv.buffer.required := by
    rcases move.staysRequired arrives with ⟨same, _⟩ | ⟨point, _⟩
    · exact same
    · exact absurd point answer
  rw [← most, ← required] at beyond
  cases move with
  | suffices_ point suffices_ =>
      -- The handler would have found more words than there can be.
      rw [UInt32.le_iff_toNat_le] at suffices_
      exact absurd beyond (Nat.not_lt.mpr (suffices_.trans (Nat.le_add_right _ _)))
  | answer point => exact absurd point answer
  | put point => exact absurd point put
  | rx | task | timeOut => exact arrives.elim
  | accept | drop | store | addWritten | required | nothing | tooFew =>
      exact ⟨sem, fits, beyond, nofun, nofun⟩

theorem Driver.Stuck.run {config : Config} {arriving : List Label}
    (arrives : ∀ label ∈ arriving, label.Arrives) {source target : Driver}
    (stuck : source.Stuck config) (orderly : source.Orderly config)
    (executed : Transition.run (MicArray.next config) source arriving = some target) :
    target.Stuck config := by
  induction arriving generalizing source with
  | nil =>
      cases executed
      exact stuck
  | cons label rest ih =>
      obtain ⟨middle, step, executed⟩ := Option.bind_eq_some_iff.mp executed
      obtain ⟨first, later⟩ := List.forall_mem_cons.mp arrives
      exact ih later (stuck.arrives orderly.size first step) (orderly.next step) executed

/-- The steps that the handler takes at most before it is outside. -/
def IsrPoint.rest : IsrPoint → Nat
  | .idle => 0
  | .put => 1
  | .answer => 2
  | .compare => 3
  | .examine => 4
  | .copy _ left _ => left.toNat + 5

/-- The handler goes on until it is outside. -/
theorem Driver.Orderly.isr_next {config : Config} {driver : Driver}
    (orderly : driver.Orderly config) (nonempty : 0 < config.bufSize)
    (inside : driver.isr ≠ .idle) :
    ∃ target, MicArray.next config driver .isr = some target ∧
      target.isr.rest < driver.isr.rest := by
  cases point : driver.isr with
  | idle => exact absurd point inside
  | copy block left stored =>
      simp only [MicArray.next, point, rtosMicArrayIsr]
      split
      · exact ⟨_, rfl, Nat.lt_of_lt_of_le (Nat.lt_succ_self 4) (Nat.le_add_left 5 _)⟩
      · next more =>
          refine ⟨_, rfl, Nat.add_lt_add_right ?_ 5⟩
          have index := orderly.index nonempty
          rw [← orderly.size, UInt32.lt_iff_toNat_lt] at index
          have positive : left.toNat ≠ 0 := fun zero => more (UInt32.toNat.inj zero)
          rw [UInt32.toNat_sub_of_le _ _ (chunk_le _ _ _), toNat_chunk index]
          omega
  | examine | compare =>
      refine ⟨_, by rw [MicArray.next, point]; rfl, ?_⟩
      show IsrPoint.rest (if _ then _ else _) < _
      split <;> decide
  | answer | put => exact ⟨_, by rw [MicArray.next, point]; rfl, Nat.lt_succ_self _⟩

/-- The handler comes back, and no frame arrives meanwhile. -/
theorem Driver.Orderly.exists_outside {config : Config} {driver : Driver}
    (orderly : driver.Orderly config) (nonempty : 0 < config.bufSize) :
    ∃ arriving : List Label, (∀ label ∈ arriving, label.Arrives) ∧ ∃ target,
      run (MicArray.next config) driver arriving = some target ∧ target.isr = .idle := by
  induction rest : driver.isr.rest using Nat.strongRecOn generalizing driver with
  | ind count ih =>
      by_cases outside : driver.isr = .idle
      · exact ⟨[], nofun, driver, rfl, outside⟩
      · obtain ⟨middle, step, less⟩ := orderly.isr_next nonempty outside
        obtain ⟨arriving, arrives, target, executed, idle⟩ :=
          ih _ (rest ▸ less) (orderly.next step) rfl
        refine ⟨.isr :: arriving, List.forall_mem_cons.mpr ⟨trivial, arrives⟩, target, ?_, idle⟩
        rw [run, step]
        exact executed

theorem run_orderly {config : Config} {source target : Driver} {labels : List Label}
    (orderly : source.Orderly config) (executed : run (next config) source labels = some target) :
    target.Orderly config :=
  (reachable_of_run executed).invariant orderly fun _ _ _ inv _ step => inv.next step

/-- Frames can always go on to arrive. -/
theorem Driver.Orderly.exists_frames {config : Config} {driver : Driver}
    (orderly : driver.Orderly config) (nonempty : 0 < config.bufSize) (frames : Nat) :
    ∃ arriving : List Label, (∀ label ∈ arriving, label.Arrives) ∧
      frames ≤ arriving.countP Label.isFrame ∧
        ∃ target, run (MicArray.next config) driver arriving = some target := by
  induction frames with
  | zero => exact ⟨[], nofun, Nat.le_refl 0, driver, rfl⟩
  | succ frames ih =>
      obtain ⟨before, early, many, middle, executed⟩ := ih
      obtain ⟨inside, late, outside, executed', idle⟩ :=
        (run_orderly orderly executed).exists_outside nonempty
      let block := List.replicate config.frameWords.toNat (0 : Sample)
      have step : MicArray.next config outside (.frame block) = some (outside.enter config block) :=
        if_pos ⟨idle, List.length_replicate⟩
      refine ⟨before ++ inside ++ [.frame block], ?_, ?_, outside.enter config block, ?_⟩
      · intro label member
        simp only [List.mem_append, List.mem_singleton] at member
        rcases member with (member | member) | rfl
        · exact early label member
        · exact late label member
        · trivial
      · rw [List.countP_append, List.countP_append]
        have : [Label.frame block].countP Label.isFrame = 1 := rfl
        omega
      · rw [run_concat_eq_some_iff]
        refine ⟨outside, ?_, step⟩
        rw [run_append, executed]
        exact executed'

/-- A call that no frame can reach waits for ever. -/
theorem Driver.Stuck.not_released {config : Config} {driver : Driver} {request : Request}
    (stuck : driver.Stuck config) (orderly : driver.Orderly config)
    (nonempty : 0 < config.bufSize) (point : driver.recv.call = .wait request) :
    ¬ ReleasedByFrames config driver := by
  intro released
  obtain ⟨frames, reached⟩ := released request point
  obtain ⟨arriving, arrives, many, target, executed⟩ := orderly.exists_frames nonempty frames
  have given := reached arriving arrives many target executed
  rw [(stuck.run arrives orderly executed).sem] at given
  exact Nat.lt_irrefl 0 given

/-- A step of the task that begins to wait for words that frames will not bring gets
the handler stuck. -/
theorem Driver.Expects.stuck {config : Config} {source target : Driver} {label : Label}
    (expects : source.Expects config) (counters : CountersInOrder config source label)
    (tooFew : ¬ FramesSuffice config source label)
    (step : MicArray.next config source label = some target) :
    target.Stuck config ∧ 0 < config.bufSize ∧
      ∃ request, target.recv.call = .wait request := by
  simp only [FramesSuffice, not_forall, Nat.not_le] at tooFew
  obtain ⟨words, demanded, tooFew⟩ := tooFew
  have within := counters words demanded
  obtain ⟨rfl, request, point, rfl⟩ := demanded_eq_some demanded
  have orderly := expects.orderly
  have flag := orderly.shaken.flag
  have atMost := orderly.atMost
  rw [Driver.view, point] at flag
  rw [point] at atMost
  have nothing : source.isr.flight + source.recv.sem.count = 0 :=
    (orderly.shaken.free flag.1).wakeUps
  have target_eq : target = { source with recv := { source.recv with
      buffer := source.recv.buffer.require request.words
      blocked := true
      call := .wait request } } := by
    rw [MicArray.next, Stream.run, point] at step
    exact (Option.some.inj step).symm
  subst target_eq
  refine ⟨⟨Nat.eq_zero_of_add_eq_zero_left nothing, within, tooFew, ?_, ?_⟩, ?_, request, rfl⟩
  · exact (orderly.quiet flag.1).2
  · intro put
    rw [show source.isr = .put from put] at nothing
    have : 1 + source.recv.sem.count = 0 := nothing
    omega
  · rw [UInt32.lt_iff_toNat_lt]
    exact (Nat.zero_le _).trans_lt (tooFew.trans_le (UInt32.le_iff_toNat_le.mp atMost))

/-- The words of the stream, with those of a frame in hand, are within the buffer. -/
theorem Driver.Receives.counted_le {config : Config} {driver : Driver}
    (receives : driver.Receives config) : driver.counted config ≤ config.bufSize := by
  have carries := receives.carries
  have sized := receives.sized
  rw [← receives.size]
  unfold Driver.counted
  split
  · next block left stored point =>
      rw [point] at carries sized
      obtain ⟨size, _, whole⟩ := sized
      have free : _ + stored.length + left.toNat ≤ _ := carries.free
      have order := carries.read_le
      have bound := driver.recv.buffer.bufSize.toNat_lt
      rw [UInt32.le_iff_toNat_le, UInt32.toNat_add, carries.toNat_wordsAvailable]
      refine (Nat.mod_le _ _).trans ?_
      omega
  · exact carries.wordsAvailable_le

/-- The counters are in order as long as no call is given the semaphore for words
that are not there. -/
theorem countersInOrder_of_grantsCover {config : Config} {schedule : List Label}
    (small : config.bufSize.toNat < 2 ^ 30)
    (covers : StepsMeet (next config) (start config) schedule GrantsCover) :
    StepsMeet (next config) (start config) schedule (CountersInOrder config) := by
  intro before label isPrefix source _ executed _ _ _
  have shorter := (List.prefix_append before [label]).trans isPrefix
  have receives : source.Receives config :=
    (covers.guardedReachable shorter executed).invariant (receives_start small)
      fun _ _ _ inv covers step => inv.next covers step
  exact receives.counted_le

/-- A call that waits is always released by further frames, if and only if every
call that begins to wait will be reached by whole frames: by the words that are
there, and as many frames as fit in the rest of the buffer. -/
theorem released_iff_framesSuffice {config : Config} {schedule : List Label}
    (counters : StepsMeet (next config) (start config) schedule (CountersInOrder config)) :
    StatesSatisfy (next config) (start config) schedule (ReleasedByFrames config) ↔
      StepsMeet (next config) (start config) schedule (FramesSuffice config) := by
  refine statesSatisfy_iff_stepsMeet_of (expects_start config) ?_ ?_ ?_ counters
  · intro source target label expects counters suffice step
    exact expects.next counters suffice step
  · intro driver expects
    exact expects.released
  · intro source target label expects counters tooFew step
    obtain ⟨stuck, nonempty, _, point⟩ := expects.stuck counters tooFew step
    exact stuck.not_released (expects.orderly.next step) nonempty point

/-- One microphone, frames of two samples, and a buffer of two frames. -/
def twoFrames : Config where
  samplesPerFrame := 2
  micCount := 1
  format := .sampleChannel
  bufferSize := 4
  frameFits := by decide
  memory _ := 0

/-- A call for a frame comes before it. -/
def frameAwaited : List Label :=
  rxGoesOn 2 2 ++ frameArrives [1, 2] 6

theorem frameAwaited_released :
    (run (next twoFrames) (start twoFrames) frameAwaited).map
        (fun driver => driver.recv.sem.count) = some 1 ∧
      StatesSatisfy (next twoFrames) (start twoFrames) frameAwaited
        (ReleasedByFrames twoFrames) :=
  ⟨by decide, (released_iff_framesSuffice (by decide)).mpr (by decide)⟩

/-- One word of a frame is taken, and then the whole buffer is asked for. -/
def wordLeftOver : List Label :=
  frameArrives [1, 2] 3 ++ rxGoesOn 1 3 ++ rxGoesOn 4 2

/-- Beside the word that is left over one more frame fits, and three words are there
for a call that waits for four. -/
theorem wordLeftOver_not_released :
    StepsMeet (next twoFrames) (start twoFrames) wordLeftOver (fun _ => Blocking) ∧
      ¬ StatesSatisfy (next twoFrames) (start twoFrames) wordLeftOver
        (ReleasedByFrames twoFrames) := by
  refine ⟨by decide, fun released => ?_⟩
  have executed : (run (next twoFrames) (start twoFrames) wordLeftOver).map (fun driver =>
      decide (driver.recv.sem.count = 0 ∧ driver.counted twoFrames ≤ twoFrames.bufSize ∧
        twoFrames.most (driver.counted twoFrames) < driver.recv.buffer.required.toNat ∧
          driver.isr = .idle ∧
            driver.recv.call = .wait (micArrayLocalRx twoFrames 4 rtosOsalPortWaitForever))) =
      some true := by
    decide
  obtain ⟨driver, final, waits⟩ := Option.map_eq_some_iff.mp executed
  obtain ⟨sem, within, beyond, idle, point⟩ := of_decide_eq_true waits
  have stuck : driver.Stuck twoFrames :=
    ⟨sem, within, beyond, by rw [idle]; exact ⟨nofun, nofun⟩⟩
  have orderly := run_orderly (orderly_start twoFrames) final
  exact stuck.not_released orderly (by decide) point (released (List.prefix_refl _) final)

end FwkRtos.MicArray

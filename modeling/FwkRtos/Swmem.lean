import FwkRtos.Transition.Labelled

/-!
# Software memory

A cache miss interrupts a core for a line to be filled, and an eviction for one to be
written.  The interrupt handlers ask the application; what it cannot serve there they leave to
a thread, which asks it again.  A line has to be filled on the core that was interrupted.
-/

namespace FwkRtos.Swmem

open FwkRtos.Transition

universe u

/-- The logical cores of a tile. -/
abbrev Core := Fin 8

/-- A line that is evicted. -/
structure Eviction where
  slot : UInt32
  dirtyMask : UInt32
  words : List UInt32
  deriving DecidableEq

/-- The functions that the application may provide, on its own state.  Those for a buffer get
what is in it. -/
structure App (σ : Type u) where
  readRequestIsr : Option (σ → UInt32 → List UInt32 → Bool × List UInt32 × σ)
  readRequest : Option (σ → UInt32 → List UInt32 → List UInt32 × σ)
  writeRequestIsr : Option (σ → UInt32 → UInt32 → List UInt32 → Bool × σ)
  writeRequest : Option (σ → UInt32 → UInt32 → List UInt32 → σ)

/-- Where an interrupt handler is. -/
inductive IsrPoint
  | idle
  /-- Before it asks the application. -/
  | ask
  /-- Before `swmem_fill_populate_from_buffer`. -/
  | populate
  /-- Before `triggerable_disable_trigger`. -/
  | disableTrigger
  /-- Before `rtos_osal_event_group_set_bits`. -/
  | setBits
  deriving DecidableEq

/-- Where `rtos_swmem_thread` is, with `flags & RTOS_SWMEM_WRITE_FLAG`. -/
inductive ThreadPoint
  | getBits
  | readRequest (write : Bool)
  | excludeOthers (write : Bool)
  | populate (write : Bool)
  | excludeNone (write : Bool)
  | enableFill (write : Bool)
  | writeRequest
  | enableEvict
  deriving DecidableEq

/-- A line that was filled, on which core, and with what. -/
structure Filled where
  core : Core
  slot : UInt32
  words : List UInt32
  deriving DecidableEq

/-- `swmem_fill_res`, its handler with the core that it runs on, and the variables for it.
Ghost: the cores on which misses were taken, what the application answered, and the lines that
were filled. -/
structure Fill where
  trigger : Bool
  isr : IsrPoint
  core : Core
  slot : UInt32
  buf : List UInt32
  coreExcludeMap : BitVec 32
  takenOn : List Core
  answered : List (UInt32 × List UInt32)
  filled : List Filled
  deriving DecidableEq

/-- `swmem_evict_res`, its handler and the variables for it.  Ghost: the evictions that the
application has taken. -/
structure Evict where
  trigger : Bool
  isr : IsrPoint
  current : Eviction
  written : List Eviction
  deriving DecidableEq

structure Thread where
  point : ThreadPoint
  coreExcludeMap : BitVec 32
  deriving DecidableEq

/-- The driver, with what waits at its resources.  Ghost: all misses and evictions. -/
structure Driver (σ : Type u) where
  app : σ
  misses : List UInt32
  missed : List UInt32
  evictions : List Eviction
  evicted : List Eviction
  fill : Fill
  evict : Evict
  /-- `RTOS_SWMEM_READ_FLAG` and `RTOS_SWMEM_WRITE_FLAG` of the event group. -/
  readFlag : Bool
  writeFlag : Bool
  thread : Thread
  assertionFailed : Bool
  deriving DecidableEq

/-- Other cores than this one. -/
def otherCores (core : Core) : BitVec 32 :=
  ~~~(1#32 <<< (core : Nat))

/-- A thread may run on a core. -/
def mayRun (coreExcludeMap : BitVec 32) (core : Core) : Bool :=
  !coreExcludeMap.getLsbD core

theorem mayRun_otherCores : ∀ core other : Core,
    mayRun (otherCores core) other = decide (other = core) := by
  decide

theorem mayRun_none (core : Core) : mayRun 0#32 core = true := by
  rw [mayRun, BitVec.getLsbD_zero]
  rfl

section

variable {σ : Type u} (app : App σ) (base : UInt32)

/-- `handled`, after the application was asked in the handler, if it is to be. -/
def App.askRead (state : σ) (offset : UInt32) (buf : List UInt32) : Bool × List UInt32 × σ :=
  match app.readRequestIsr with
  | some readRequestIsr => readRequestIsr state offset buf
  | none => (false, buf, state)

def App.askWrite (state : σ) (offset dirtyMask : UInt32) (buf : List UInt32) : Bool × σ :=
  match app.writeRequestIsr with
  | some writeRequestIsr => writeRequestIsr state offset dirtyMask buf
  | none => (false, state)

/-- A step of `sw_mem_fill_isr` on a core, which is its `rtos_core_id_get()`.  The base is
`XS1_SWMEM_BASE` less `__swmem_address`. -/
def swMemFillIsr (core : Core) (swmem : Driver σ) : Option (Driver σ) :=
  let fill := swmem.fill
  match fill.isr with
  | .idle =>
      match swmem.misses with
      | [] => none
      | slot :: misses =>
          if fill.trigger then
            some { swmem with
              misses := misses
              fill := { fill with
                core := core
                slot := slot
                takenOn := fill.takenOn ++ [core]
                isr := .ask } }
          else none
  | .ask =>
      let (handled, buf, state) := app.askRead swmem.app (fill.slot - base) fill.buf
      if handled then
        some { swmem with
          app := state
          fill := { fill with
            buf := buf
            answered := fill.answered ++ [(fill.slot, buf)]
            isr := .populate } }
      else if app.readRequest.isSome then
        some { swmem with
          app := state
          fill := { fill with
            buf := buf
            coreExcludeMap := otherCores core
            isr := .disableTrigger } }
      else
        some { swmem with
          app := state
          fill := { fill with buf := buf, isr := .idle }
          assertionFailed := true }
  | .populate =>
      some { swmem with fill := { fill with
        filled := fill.filled ++ [Filled.mk core fill.slot fill.buf]
        isr := .idle } }
  | .disableTrigger => some { swmem with fill := { fill with trigger := false, isr := .setBits } }
  | .setBits => some { swmem with fill := { fill with isr := .idle }, readFlag := true }

/-- A step of `sw_mem_evict_isr`. -/
def swMemEvictIsr (swmem : Driver σ) : Option (Driver σ) :=
  let evict := swmem.evict
  match evict.isr with
  | .idle =>
      match swmem.evictions with
      | [] => none
      | current :: evictions =>
          if evict.trigger then
            some { swmem with
              evictions := evictions
              evict := { evict with current := current, isr := .ask } }
          else none
  | .ask =>
      let current := evict.current
      let (handled, state) :=
        app.askWrite swmem.app (current.slot - base) current.dirtyMask current.words
      if handled then
        some { swmem with
          app := state
          evict := { evict with written := evict.written ++ [current], isr := .idle } }
      else if app.writeRequest.isSome then
        some { swmem with app := state, evict := { evict with isr := .disableTrigger } }
      else
        some { swmem with
          app := state
          evict := { evict with isr := .idle }
          assertionFailed := true }
  | .populate => none
  | .disableTrigger =>
      some { swmem with evict := { evict with trigger := false, isr := .setBits } }
  | .setBits => some { swmem with evict := { evict with isr := .idle }, writeFlag := true }

def Driver.goTo (swmem : Driver σ) (point : ThreadPoint) : Driver σ :=
  { swmem with thread := { swmem.thread with point := point } }

/-- The point of the thread behind the part for a read. -/
def afterRead (write : Bool) : ThreadPoint :=
  if write then .writeRequest else .getBits

/-- A step of `rtos_swmem_thread` on a core. -/
def rtosSwmemThread (core : Core) (swmem : Driver σ) : Option (Driver σ) :=
  let fill := swmem.fill
  let evict := swmem.evict
  match swmem.thread.point with
  | .getBits =>
      if swmem.readFlag || swmem.writeFlag then
        some ({ swmem with readFlag := false, writeFlag := false }.goTo
          (if swmem.readFlag then .readRequest swmem.writeFlag else .writeRequest))
      else none
  | .readRequest write =>
      match app.readRequest with
      | some readRequest =>
          let (buf, state) := readRequest swmem.app (fill.slot - base) fill.buf
          some ({ swmem with
            app := state
            fill := { fill with
              buf := buf
              answered := fill.answered ++ [(fill.slot, buf)] } }.goTo (.excludeOthers write))
      | none => none
  | .excludeOthers write =>
      some ({ swmem with
        thread := { swmem.thread with coreExcludeMap := fill.coreExcludeMap } }.goTo
          (.populate write))
  | .populate write =>
      some ({ swmem with fill := { fill with
        filled := fill.filled ++ [Filled.mk core fill.slot fill.buf] } }.goTo (.excludeNone write))
  | .excludeNone write =>
      some ({ swmem with thread := { swmem.thread with coreExcludeMap := 0#32 } }.goTo
        (.enableFill write))
  | .enableFill write =>
      some ({ swmem with fill := { fill with trigger := true } }.goTo (afterRead write))
  | .writeRequest =>
      match app.writeRequest with
      | some writeRequest =>
          some ({ swmem with
            app := writeRequest swmem.app (evict.current.slot - base) evict.current.dirtyMask
              evict.current.words
            evict := { evict with written := evict.written ++ [evict.current] } }.goTo
              .enableEvict)
      | none => none
  | .enableEvict =>
      some ({ swmem with evict := { evict with trigger := true } }.goTo .getBits)

/-- A handler that has begun on a core goes on there; one that begins may do so on any. -/
def Fill.mayRun (fill : Fill) (core : Core) : Bool :=
  fill.isr = .idle || core = fill.core

/-- The hardware misses or evicts a line, or the driver goes on. -/
inductive Label
  | miss (slot : UInt32)
  | evict (eviction : Eviction)
  | fillIsr (core : Core)
  | evictIsr
  | thread (core : Core)

def next : LStep (Driver σ) Label
  | swmem, .miss slot =>
      some { swmem with misses := swmem.misses ++ [slot], missed := swmem.missed ++ [slot] }
  | swmem, .evict eviction =>
      some { swmem with
        evictions := swmem.evictions ++ [eviction]
        evicted := swmem.evicted ++ [eviction] }
  | swmem, .fillIsr core =>
      if swmem.fill.mayRun core then swMemFillIsr app base core swmem else none
  | swmem, .evictIsr => swMemEvictIsr app base swmem
  | swmem, .thread core =>
      if mayRun swmem.thread.coreExcludeMap core then rtosSwmemThread app base core swmem
      else none

/-- After `rtos_swmem_start`. -/
def start (state : σ) : Driver σ where
  app := state
  misses := []
  missed := []
  evictions := []
  evicted := []
  fill :=
    { trigger := true
      isr := .idle
      core := 0
      slot := 0
      buf := []
      coreExcludeMap := 0#32
      takenOn := []
      answered := []
      filled := [] }
  evict :=
    { trigger := true
      isr := .idle
      current := ⟨0, 0, []⟩
      written := [] }
  readFlag := false
  writeFlag := false
  thread := ⟨.getBits, 0#32⟩
  assertionFailed := false

end

/-! ## Where a request is -/

/-- What the thread is doing for a read. -/
def ThreadPoint.readPart : ThreadPoint → ThreadPoint
  | .readRequest _ => .readRequest false
  | .excludeOthers _ => .excludeOthers false
  | .populate _ => .populate false
  | .excludeNone _ => .excludeNone false
  | .enableFill _ => .enableFill false
  | .getBits | .writeRequest | .enableEvict => .getBits

/-- What it is doing, or has still to do, for a write. -/
def ThreadPoint.writePart : ThreadPoint → ThreadPoint
  | .readRequest write | .excludeOthers write | .populate write | .excludeNone write
  | .enableFill write => afterRead write
  | .writeRequest => .writeRequest
  | .enableEvict => .enableEvict
  | .getBits => .getBits

@[simp]
theorem readPart_afterRead (write : Bool) : (afterRead write).readPart = .getBits := by
  cases write <;> rfl

@[simp]
theorem writePart_afterRead (write : Bool) : (afterRead write).writePart = afterRead write := by
  cases write <;> rfl

/-- What was filled, as the application answers. -/
def Fill.answers (fill : Fill) : List (UInt32 × List UInt32) :=
  fill.filled.map fun filled => (filled.slot, filled.words)

section

variable {σ : Type u}

/-- The application serves every request, in the handler or later. -/
structure App.Serves (app : App σ) : Prop where
  read : ∀ state offset buf, (app.askRead state offset buf).1 = true ∨ app.readRequest.isSome
  write : ∀ state offset mask buf,
    (app.askWrite state offset mask buf).1 = true ∨ app.writeRequest.isSome

/-- Who has the miss that was taken from the resource, if any. -/
inductive FillStage (app : App σ) (fill : Fill) (readFlag : Bool)
    (part : ThreadPoint) (threadMap : BitVec 32) (taken : List UInt32) : Prop
  | ready (isr : fill.isr = .idle) (trigger : fill.trigger = true) (flag : readFlag = false)
      (part_ : part = .getBits) (answered : fill.answered = fill.answers) (taken_ : taken = [])
  | asking (isr : fill.isr = .ask) (trigger : fill.trigger = true) (flag : readFlag = false)
      (part_ : part = .getBits) (answered : fill.answered = fill.answers)
      (taken_ : taken = [fill.slot])
  | populating (isr : fill.isr = .populate) (trigger : fill.trigger = true)
      (flag : readFlag = false) (part_ : part = .getBits)
      (answered : fill.answered = fill.answers ++ [(fill.slot, fill.buf)])
      (taken_ : taken = [fill.slot])
  | deferring (asks : app.readRequest.isSome)
      (isr : fill.isr = .disableTrigger ∨ fill.isr = .setBits ∧ fill.trigger = false)
      (flag : readFlag = false) (part_ : part = .getBits)
      (coreMap : fill.coreExcludeMap = otherCores fill.core)
      (answered : fill.answered = fill.answers) (taken_ : taken = [fill.slot])
  | flagged (asks : app.readRequest.isSome) (isr : fill.isr = .idle)
      (trigger : fill.trigger = false) (flag : readFlag = true) (part_ : part = .getBits)
      (coreMap : fill.coreExcludeMap = otherCores fill.core)
      (answered : fill.answered = fill.answers) (taken_ : taken = [fill.slot])
  | reading (asks : app.readRequest.isSome) (isr : fill.isr = .idle)
      (trigger : fill.trigger = false) (flag : readFlag = false)
      (part_ : part = .readRequest false) (coreMap : fill.coreExcludeMap = otherCores fill.core)
      (answered : fill.answered = fill.answers) (taken_ : taken = [fill.slot])
  | read (isr : fill.isr = .idle) (trigger : fill.trigger = false) (flag : readFlag = false)
      (part_ : part = .excludeOthers false ∨
        part = .populate false ∧ threadMap = otherCores fill.core)
      (coreMap : fill.coreExcludeMap = otherCores fill.core)
      (answered : fill.answered = fill.answers ++ [(fill.slot, fill.buf)])
      (taken_ : taken = [fill.slot])
  | filled (isr : fill.isr = .idle) (trigger : fill.trigger = false) (flag : readFlag = false)
      (part_ : part = .excludeNone false ∨ part = .enableFill false)
      (answered : fill.answered = fill.answers) (taken_ : taken = [])

/-- Who has the eviction that was taken from the resource, if any. -/
inductive EvictStage (app : App σ) (evict : Evict) (writeFlag : Bool) (part : ThreadPoint)
    (taken : List Eviction) : Prop
  | ready (isr : evict.isr = .idle) (trigger : evict.trigger = true) (flag : writeFlag = false)
      (part_ : part = .getBits) (taken_ : taken = [])
  | asking (isr : evict.isr = .ask) (trigger : evict.trigger = true) (flag : writeFlag = false)
      (part_ : part = .getBits) (taken_ : taken = [evict.current])
  | deferring (asks : app.writeRequest.isSome)
      (isr : evict.isr = .disableTrigger ∨ evict.isr = .setBits ∧ evict.trigger = false)
      (flag : writeFlag = false) (part_ : part = .getBits) (taken_ : taken = [evict.current])
  | flagged (asks : app.writeRequest.isSome) (isr : evict.isr = .idle)
      (trigger : evict.trigger = false) (flag : writeFlag = true) (part_ : part = .getBits)
      (taken_ : taken = [evict.current])
  | writing (asks : app.writeRequest.isSome) (isr : evict.isr = .idle)
      (trigger : evict.trigger = false) (flag : writeFlag = false) (part_ : part = .writeRequest)
      (taken_ : taken = [evict.current])
  | written (isr : evict.isr = .idle) (trigger : evict.trigger = false) (flag : writeFlag = false)
      (part_ : part = .enableEvict) (taken_ : taken = [])

/-- What is kept of the driver, with the miss and the eviction that are under way. -/
structure Inv (app : App σ) (swmem : Driver σ) (miss : List UInt32)
    (eviction : List Eviction) : Prop where
  fill : FillStage app swmem.fill swmem.readFlag swmem.thread.point.readPart
    swmem.thread.coreExcludeMap miss
  missed : swmem.missed = swmem.fill.filled.map Filled.slot ++ miss ++ swmem.misses
  onCore : swmem.fill.takenOn =
    swmem.fill.filled.map Filled.core ++ miss.map fun _ => swmem.fill.core
  evict : EvictStage app swmem.evict swmem.writeFlag swmem.thread.point.writePart eviction
  evicted : swmem.evicted = swmem.evict.written ++ eviction ++ swmem.evictions
  threadMap : swmem.thread.coreExcludeMap = 0#32 ∨
    ∃ core, swmem.thread.coreExcludeMap = otherCores core
  noAssertion : swmem.assertionFailed = false

variable {app : App σ} {base : UInt32} {swmem target : Driver σ}
variable {miss : List UInt32} {eviction : List Eviction}

theorem inv_start (app : App σ) (state : σ) : Inv app (start state) [] [] where
  fill := .ready rfl rfl rfl rfl rfl rfl
  missed := rfl
  onCore := rfl
  evict := .ready rfl rfl rfl rfl rfl
  evicted := rfl
  threadMap := .inl rfl
  noAssertion := rfl

/-! ## The steps of the handlers -/

/-- The application is asked for a line. -/
theorem Inv.asksRead (inv : Inv app swmem miss eviction) (serves : app.Serves)
    (isr : swmem.fill.isr = .ask)
    (stepped : swMemFillIsr app base swmem.fill.core swmem = some target) :
    Inv app target miss eviction := by
  obtain ⟨trigger, flag, part, answered, rfl⟩ : swmem.fill.trigger = true ∧
      swmem.readFlag = false ∧ swmem.thread.point.readPart = .getBits ∧
      swmem.fill.answered = swmem.fill.answers ∧ miss = [swmem.fill.slot] := by
    cases inv.fill with
    | asking _ trigger flag part answered taken => exact ⟨trigger, flag, part, answered, taken⟩
    | deferring _ other =>
        rcases other with other | ⟨other, _⟩ <;> rw [isr] at other <;> cases other
    | ready other | populating other | flagged _ other | reading _ other | read other
    | filled other =>
        rw [isr] at other
        cases other
  simp only [swMemFillIsr, isr] at stepped
  split at stepped
  · cases stepped
    exact { inv with
      fill := .populating rfl trigger flag part (congrArg (· ++ _) answered) rfl }
  · next notHandled =>
      have asks : app.readRequest.isSome :=
        (serves.read _ _ _).resolve_left notHandled
      rw [if_pos asks] at stepped
      cases stepped
      exact { inv with fill := .deferring asks (.inl rfl) flag part rfl answered rfl }

/-- The line of a miss is filled with what the application answered. -/
theorem Inv.fills (inv : Inv app swmem [swmem.fill.slot] eviction)
    (answered : swmem.fill.answered = swmem.fill.answers ++ [(swmem.fill.slot, swmem.fill.buf)]) :
    let filled := swmem.fill.filled ++
      [Filled.mk swmem.fill.core swmem.fill.slot swmem.fill.buf]
    swmem.fill.answered = filled.map (fun line => (line.slot, line.words)) ∧
      swmem.missed = filled.map Filled.slot ++ [] ++ swmem.misses ∧
      swmem.fill.takenOn = filled.map Filled.core ++ [] := by
  refine ⟨?_, ?_, ?_⟩
  · rw [answered, List.map_append]
    rfl
  · rw [inv.missed, List.map_append, List.append_nil]
    rfl
  · rw [inv.onCore, List.map_append, List.append_nil]
    rfl

/-- A step of the handler for misses. -/
theorem Inv.fillIsr (inv : Inv app swmem miss eviction) (serves : app.Serves) {core : Core}
    (allowed : swmem.fill.mayRun core = true)
    (stepped : swMemFillIsr app base core swmem = some target) :
    ∃ miss, Inv app target miss eviction := by
  have same : swmem.fill.isr ≠ .idle → core = swmem.fill.core := by
    intro begun
    simpa [Fill.mayRun, begun] using allowed
  cases inv.fill with
  | ready isr trigger flag part answered taken =>
      subst taken
      simp only [swMemFillIsr, isr] at stepped
      split at stepped
      · cases stepped
      · next slot misses waiting =>
          rw [if_pos trigger] at stepped
          cases stepped
          have missed := inv.missed
          rw [waiting, List.append_nil, List.append_cons] at missed
          have onCore := congrArg (· ++ [core]) inv.onCore
          rw [List.map_nil, List.append_nil] at onCore
          exact ⟨[slot], { inv with
            fill := .asking rfl trigger flag part answered rfl
            missed := missed
            onCore := onCore }⟩
  | asking isr =>
      obtain rfl := same (by rw [isr]; decide)
      exact ⟨miss, inv.asksRead serves isr stepped⟩
  | populating isr trigger flag part answered taken =>
      obtain rfl := same (by rw [isr]; decide)
      subst taken
      simp only [swMemFillIsr, isr] at stepped
      cases stepped
      obtain ⟨filled, missed, onCore⟩ := inv.fills answered
      exact ⟨[], { inv with
        fill := .ready rfl trigger flag part filled rfl
        missed := missed
        onCore := onCore }⟩
  | deferring asks isr flag part coreMap answered taken =>
      rcases isr with isr | ⟨isr, trigger⟩
      · simp only [swMemFillIsr, isr] at stepped
        cases stepped
        exact ⟨miss, { inv with
          fill := .deferring asks (.inr ⟨rfl, rfl⟩) flag part coreMap answered taken }⟩
      · simp only [swMemFillIsr, isr] at stepped
        cases stepped
        exact ⟨miss, { inv with fill := .flagged asks rfl trigger rfl part coreMap answered taken }⟩
  | flagged _ isr trigger | reading _ isr trigger | read isr trigger | filled isr trigger =>
      simp only [swMemFillIsr, isr, trigger] at stepped
      split at stepped <;> cases stepped

/-- The application is asked to take a line. -/
theorem Inv.asksWrite (inv : Inv app swmem miss eviction) (serves : app.Serves)
    (isr : swmem.evict.isr = .ask) (stepped : swMemEvictIsr app base swmem = some target) :
    ∃ eviction, Inv app target miss eviction := by
  obtain ⟨trigger, flag, part, rfl⟩ : swmem.evict.trigger = true ∧ swmem.writeFlag = false ∧
      swmem.thread.point.writePart = .getBits ∧ eviction = [swmem.evict.current] := by
    cases inv.evict with
    | asking _ trigger flag part taken => exact ⟨trigger, flag, part, taken⟩
    | deferring _ other =>
        rcases other with other | ⟨other, _⟩ <;> rw [isr] at other <;> cases other
    | ready other | flagged _ other | writing _ other | written other =>
        rw [isr] at other
        cases other
  simp only [swMemEvictIsr, isr] at stepped
  split at stepped
  · cases stepped
    have evicted := inv.evicted
    rw [← List.append_nil (_ ++ [_])] at evicted
    exact ⟨[], { inv with evict := .ready rfl trigger flag part rfl, evicted := evicted }⟩
  · next notHandled =>
      have asks : app.writeRequest.isSome := (serves.write _ _ _ _).resolve_left notHandled
      rw [if_pos asks] at stepped
      cases stepped
      exact ⟨_, { inv with evict := .deferring asks (.inl rfl) flag part rfl }⟩

/-- A step of the handler for evictions. -/
theorem Inv.evictIsr (inv : Inv app swmem miss eviction) (serves : app.Serves)
    (stepped : swMemEvictIsr app base swmem = some target) :
    ∃ eviction, Inv app target miss eviction := by
  cases inv.evict with
  | ready isr trigger flag part taken =>
      subst taken
      simp only [swMemEvictIsr, isr] at stepped
      split at stepped
      · cases stepped
      · next current evictions waiting =>
          rw [if_pos trigger] at stepped
          cases stepped
          have evicted := inv.evicted
          rw [waiting, List.append_nil, List.append_cons] at evicted
          exact ⟨[current], { inv with
            evict := .asking rfl trigger flag part rfl
            evicted := evicted }⟩
  | asking isr => exact inv.asksWrite serves isr stepped
  | deferring asks isr flag part taken =>
      rcases isr with isr | ⟨isr, trigger⟩
      · simp only [swMemEvictIsr, isr] at stepped
        cases stepped
        exact ⟨eviction, { inv with evict := .deferring asks (.inr ⟨rfl, rfl⟩) flag part taken }⟩
      · simp only [swMemEvictIsr, isr] at stepped
        cases stepped
        exact ⟨eviction, { inv with evict := .flagged asks rfl trigger rfl part taken }⟩
  | flagged _ isr trigger | writing _ isr trigger | written isr trigger =>
      simp only [swMemEvictIsr, isr, trigger] at stepped
      split at stepped <;> cases stepped

/-! ## The steps of the thread -/

/-- What the thread relies on while it serves a miss: the handler waits for its trigger. -/
theorem FillStage.relies {fill : Fill} {readFlag : Bool} {part : ThreadPoint}
    {threadMap : BitVec 32} (stage : FillStage app fill readFlag part threadMap miss)
    (isRead : part ≠ .getBits) :
    fill.isr = .idle ∧ fill.trigger = false ∧ readFlag = false ∧
      (part = .readRequest false ∧ app.readRequest.isSome ∧
          fill.coreExcludeMap = otherCores fill.core ∧ fill.answered = fill.answers ∧
          miss = [fill.slot] ∨
        (part = .excludeOthers false ∨ part = .populate false ∧ threadMap = otherCores fill.core) ∧
          fill.coreExcludeMap = otherCores fill.core ∧
          fill.answered = fill.answers ++ [(fill.slot, fill.buf)] ∧ miss = [fill.slot] ∨
        (part = .excludeNone false ∨ part = .enableFill false) ∧
          fill.answered = fill.answers ∧ miss = []) := by
  cases stage with
  | ready _ _ _ part | asking _ _ _ part | populating _ _ _ part | deferring _ _ _ part
  | flagged _ _ _ _ part => exact absurd part isRead
  | reading asks isr trigger flag part coreMap answered taken =>
      exact ⟨isr, trigger, flag, .inl ⟨part, asks, coreMap, answered, taken⟩⟩
  | read isr trigger flag part coreMap answered taken =>
      exact ⟨isr, trigger, flag, .inr (.inl ⟨part, coreMap, answered, taken⟩)⟩
  | filled isr trigger flag part answered taken =>
      exact ⟨isr, trigger, flag, .inr (.inr ⟨part, answered, taken⟩)⟩

/-- A step of the thread for a read leaves the eviction alone. -/
theorem Inv.reads (inv : Inv app swmem miss eviction) {core : Core}
    (allowed : mayRun swmem.thread.coreExcludeMap core = true)
    (isRead : swmem.thread.point.readPart ≠ .getBits)
    (stepped : rtosSwmemThread app base core swmem = some target) :
    ∃ miss, Inv app target miss eviction := by
  have evict := inv.evict
  obtain ⟨isr, trigger, flag, stage⟩ := inv.fill.relies isRead
  cases point : swmem.thread.point with
  | getBits | writeRequest | enableEvict =>
      rw [point] at isRead
      exact absurd rfl isRead
  | readRequest write =>
      rw [point] at stage evict
      simp only [ThreadPoint.readPart, reduceCtorEq, false_and, or_false, true_and]
        at stage
      obtain ⟨asks, coreMap, answered, rfl⟩ := stage
      obtain ⟨readRequest, isSome⟩ := Option.isSome_iff_exists.mp asks
      simp only [rtosSwmemThread, point, isSome] at stepped
      cases stepped
      exact ⟨_, { inv with
        fill := .read isr trigger flag (.inl rfl) coreMap (congrArg (· ++ _) answered) rfl
        evict := evict }⟩
  | excludeOthers write =>
      rw [point] at stage evict
      simp only [ThreadPoint.readPart, reduceCtorEq, false_and, or_false, false_or, true_and]
        at stage
      obtain ⟨coreMap, answered, taken⟩ := stage
      simp only [rtosSwmemThread, point] at stepped
      cases stepped
      exact ⟨miss, { inv with
        fill := .read isr trigger flag (.inr ⟨rfl, coreMap⟩) coreMap answered taken
        evict := evict
        threadMap := .inr ⟨_, coreMap⟩ }⟩
  | populate write =>
      rw [point] at stage evict
      simp only [ThreadPoint.readPart, reduceCtorEq, false_and, or_false, false_or, true_and]
        at stage
      obtain ⟨threadMap, coreMap, answered, rfl⟩ := stage
      simp only [rtosSwmemThread, point] at stepped
      cases stepped
      obtain rfl : core = swmem.fill.core := by
        rw [threadMap, mayRun_otherCores] at allowed
        exact of_decide_eq_true allowed
      obtain ⟨filled, missed, onCore⟩ := inv.fills answered
      exact ⟨[], { inv with
        fill := .filled isr trigger flag (.inl rfl) filled rfl
        missed := missed
        onCore := onCore
        evict := evict }⟩
  | excludeNone write =>
      rw [point] at stage evict
      simp only [ThreadPoint.readPart, reduceCtorEq, false_and, or_false, false_or, true_and]
        at stage
      simp only [rtosSwmemThread, point] at stepped
      cases stepped
      exact ⟨miss, { inv with
        fill := .filled isr trigger flag (.inr rfl) stage.1 stage.2
        evict := evict
        threadMap := .inl rfl }⟩
  | enableFill write =>
      rw [point] at stage evict
      simp only [ThreadPoint.readPart, reduceCtorEq, false_and, or_false, false_or, true_and,
        or_true] at stage
      simp only [rtosSwmemThread, point] at stepped
      cases stepped
      rw [ThreadPoint.writePart, ← writePart_afterRead] at evict
      exact ⟨miss, { inv with
        fill := .ready isr rfl flag (readPart_afterRead write) stage.1 stage.2
        evict := evict }⟩

/-- A miss that is flagged is the thread's now. -/
theorem FillStage.taken {fill : Fill} {readFlag : Bool} {threadMap : BitVec 32}
    (stage : FillStage app fill readFlag .getBits threadMap miss) :
    FillStage app fill false (if readFlag then .readRequest false else .getBits) threadMap
      miss := by
  cases readFlag with
  | true =>
      cases stage with
      | flagged asks isr trigger flag part coreMap answered taken =>
          exact .reading asks isr trigger rfl rfl coreMap answered taken
      | ready _ _ flag | asking _ _ flag | populating _ _ flag | deferring _ _ flag
      | reading _ _ _ flag | read _ _ flag | filled _ _ flag => cases flag
  | false => exact stage

/-- So is an eviction. -/
theorem EvictStage.taken {evict : Evict} {writeFlag : Bool}
    (stage : EvictStage app evict writeFlag .getBits eviction) :
    EvictStage app evict false (afterRead writeFlag) eviction := by
  cases writeFlag with
  | true =>
      cases stage with
      | flagged asks isr trigger flag part taken =>
          exact .writing asks isr trigger rfl rfl taken
      | ready _ _ flag | asking _ _ flag | deferring _ _ flag | writing _ _ _ flag
      | written _ _ flag => cases flag
  | false => exact stage

/-- The thread is told what to do. -/
theorem Inv.getBits (inv : Inv app swmem miss eviction)
    (point : swmem.thread.point = .getBits)
    (someFlag : (swmem.readFlag || swmem.writeFlag) = true) :
    Inv app ({ swmem with readFlag := false, writeFlag := false }.goTo
      (if swmem.readFlag then .readRequest swmem.writeFlag else .writeRequest)) miss eviction := by
  have fill := inv.fill
  have evict := inv.evict
  rw [point] at fill evict
  have fillTaken := fill.taken
  have evictTaken := evict.taken
  cases flag : swmem.readFlag with
  | true =>
      rw [flag] at fillTaken
      exact { inv with fill := fillTaken, evict := evictTaken }
  | false =>
      rw [flag] at fillTaken
      have isWrite : swmem.writeFlag = true := by simpa [flag] using someFlag
      rw [isWrite] at evictTaken
      exact { inv with fill := fillTaken, evict := evictTaken }

/-- A step of the thread. -/
theorem Inv.thread (inv : Inv app swmem miss eviction) {core : Core}
    (allowed : mayRun swmem.thread.coreExcludeMap core = true)
    (stepped : rtosSwmemThread app base core swmem = some target) :
    ∃ miss eviction, Inv app target miss eviction := by
  cases point : swmem.thread.point with
  | getBits =>
      simp only [rtosSwmemThread, point] at stepped
      split at stepped
      · next someFlag =>
          cases stepped
          exact ⟨miss, eviction, inv.getBits point someFlag⟩
      · cases stepped
  | writeRequest =>
      have fill := inv.fill
      have evict := inv.evict
      rw [point] at fill evict
      cases evict with
      | writing asks isr trigger flag part taken =>
          subst taken
          obtain ⟨writeRequest, isSome⟩ := Option.isSome_iff_exists.mp asks
          simp only [rtosSwmemThread, point, isSome] at stepped
          cases stepped
          have evicted := inv.evicted
          rw [← List.append_nil (_ ++ [_])] at evicted
          exact ⟨miss, [], { inv with
            fill := fill
            evict := .written isr trigger flag rfl rfl
            evicted := evicted }⟩
      | ready _ _ _ part | asking _ _ _ part | deferring _ _ _ part | flagged _ _ _ _ part
      | written _ _ _ part => cases part
  | enableEvict =>
      have fill := inv.fill
      have evict := inv.evict
      rw [point] at fill evict
      cases evict with
      | written isr trigger flag part taken =>
          simp only [rtosSwmemThread, point] at stepped
          cases stepped
          exact ⟨miss, eviction, { inv with
            fill := fill
            evict := .ready isr rfl flag rfl taken }⟩
      | ready _ _ _ part | asking _ _ _ part | deferring _ _ _ part | flagged _ _ _ _ part
      | writing _ _ _ _ part => cases part
  | readRequest write | excludeOthers write | populate write | excludeNone write
  | enableFill write =>
      have isRead : swmem.thread.point.readPart ≠ .getBits := by
        rw [point]
        simp [ThreadPoint.readPart]
      obtain ⟨miss, after⟩ := inv.reads allowed isRead stepped
      exact ⟨miss, eviction, after⟩

theorem Inv.next {label : Label} (inv : Inv app swmem miss eviction)
    (serves : app.Serves) (stepped : next app base swmem label = some target) :
    ∃ miss eviction, Inv app target miss eviction := by
  cases label with
  | miss slot =>
      cases stepped
      have missed := congrArg (· ++ [slot]) inv.missed
      rw [List.append_assoc] at missed
      exact ⟨miss, eviction, { inv with missed := missed }⟩
  | evict line =>
      cases stepped
      have evicted := congrArg (· ++ [line]) inv.evicted
      rw [List.append_assoc] at evicted
      exact ⟨miss, eviction, { inv with evicted := evicted }⟩
  | fillIsr core =>
      rw [Swmem.next] at stepped
      split at stepped
      · next allowed =>
          obtain ⟨miss, after⟩ := inv.fillIsr serves allowed stepped
          exact ⟨miss, eviction, after⟩
      · cases stepped
  | evictIsr =>
      obtain ⟨eviction, after⟩ := inv.evictIsr serves stepped
      exact ⟨miss, eviction, after⟩
  | thread core =>
      rw [Swmem.next] at stepped
      split at stepped
      · next allowed => exact inv.thread allowed stepped
      · cases stepped

/-! ## Runs -/

/-- The driver serves one request of each kind after the other. -/
structure Served (swmem : Driver σ) (miss : List UInt32) (eviction : List Eviction) :
    Prop where
  /-- Each miss is filled once, in its turn. -/
  missed : swmem.missed = swmem.fill.filled.map Filled.slot ++ miss ++ swmem.misses
  oneMiss : miss.length ≤ 1
  /-- A line gets what the application gave for it. -/
  answered : swmem.fill.answers <+: swmem.fill.answered
  /-- A line is filled on the core whose handler took the miss. -/
  onCore : swmem.fill.takenOn =
    swmem.fill.filled.map Filled.core ++ miss.map fun _ => swmem.fill.core
  /-- The application takes each eviction once, in its turn. -/
  evicted : swmem.evicted = swmem.evict.written ++ eviction ++ swmem.evictions
  oneEviction : eviction.length ≤ 1
  noAssertion : swmem.assertionFailed = false

theorem Inv.served (inv : Inv app swmem miss eviction) :
    Served swmem miss eviction where
  missed := inv.missed
  oneMiss := by
    cases inv.fill with
    | ready _ _ _ _ _ taken | filled _ _ _ _ _ taken | asking _ _ _ _ _ taken
    | populating _ _ _ _ _ taken | deferring _ _ _ _ _ _ taken | flagged _ _ _ _ _ _ _ taken
    | reading _ _ _ _ _ _ _ taken | read _ _ _ _ _ _ taken =>
        rw [taken]
        simp
  answered := by
    cases inv.fill with
    | ready _ _ _ _ answered | filled _ _ _ _ answered | asking _ _ _ _ answered
    | deferring _ _ _ _ _ answered | flagged _ _ _ _ _ _ answered
    | reading _ _ _ _ _ _ answered =>
        rw [answered]
    | populating _ _ _ _ answered | read _ _ _ _ _ answered =>
        rw [answered]
        exact List.prefix_append _ _
  onCore := inv.onCore
  evicted := inv.evicted
  oneEviction := by
    cases inv.evict with
    | ready _ _ _ _ taken | written _ _ _ _ taken | asking _ _ _ _ taken
    | deferring _ _ _ _ taken | flagged _ _ _ _ _ taken | writing _ _ _ _ _ taken =>
        rw [taken]
        simp
  noAssertion := inv.noAssertion

theorem inv_of_reachable (serves : app.Serves) {state : σ}
    (reachable : Reachable (next app base) (start state) swmem) :
    ∃ miss eviction, Inv app swmem miss eviction := by
  apply reachable.invariant ⟨[], [], inv_start app state⟩
  rintro source target label ⟨miss, eviction, inv⟩ _ stepped
  exact inv.next serves stepped

/-- No miss and no eviction is lost, served twice or mixed up with another one. -/
theorem served_of_reachable (serves : app.Serves) {state : σ}
    (reachable : Reachable (next app base) (start state) swmem) :
    ∃ miss eviction, Served swmem miss eviction := by
  obtain ⟨miss, eviction, inv⟩ := inv_of_reachable serves reachable
  exact ⟨miss, eviction, inv.served⟩

/-- Neither the handlers nor the thread, on any core, can go on. -/
def Driver.Stuck (app : App σ) (base : UInt32) (swmem : Driver σ) : Prop :=
  (∀ core, next app base swmem (.fillIsr core) = none) ∧
    next app base swmem .evictIsr = none ∧ ∀ core, next app base swmem (.thread core) = none

/-- The thread waits for a flag only. -/
theorem Inv.waits (inv : Inv app swmem miss eviction)
    (stuck : swmem.Stuck app base) :
    swmem.thread.point = .getBits ∧ swmem.readFlag = false ∧ swmem.writeFlag = false := by
  obtain ⟨core, allowed⟩ : ∃ core, mayRun swmem.thread.coreExcludeMap core = true := by
    rcases inv.threadMap with isMap | ⟨core, isMap⟩
    · exact ⟨0, by rw [isMap, mayRun_none]⟩
    · refine ⟨core, ?_⟩
      rw [isMap, mayRun_otherCores]
      exact decide_eq_true rfl
  have stopped := stuck.2.2 core
  rw [Swmem.next, if_pos allowed] at stopped
  cases point : swmem.thread.point with
  | getBits =>
      simp only [rtosSwmemThread, point] at stopped
      split at stopped
      · cases stopped
      · next noFlag => simpa using noFlag
  | excludeOthers | populate | excludeNone | enableFill | enableEvict =>
      simp only [rtosSwmemThread, point] at stopped
      cases stopped
  | readRequest write =>
      have isRead : swmem.thread.point.readPart ≠ .getBits := by
        rw [point]
        simp [ThreadPoint.readPart]
      obtain ⟨_, _, _, stage⟩ := inv.fill.relies isRead
      rw [point] at stage
      simp only [ThreadPoint.readPart, reduceCtorEq, false_and, or_false, true_and]
        at stage
      obtain ⟨readRequest, isSome⟩ := Option.isSome_iff_exists.mp stage.1
      simp only [rtosSwmemThread, point, isSome] at stopped
      cases stopped
  | writeRequest =>
      have evict := inv.evict
      rw [point] at evict
      cases evict with
      | writing asks isr trigger flag part taken =>
          obtain ⟨writeRequest, isSome⟩ := Option.isSome_iff_exists.mp asks
          simp only [rtosSwmemThread, point, isSome] at stopped
          cases stopped
      | ready _ _ _ part | asking _ _ _ part | deferring _ _ _ part | flagged _ _ _ _ part
      | written _ _ _ part => cases part

/-- A handler that cannot go on has nothing to do, unless the thread has its request. -/
theorem Inv.fill_of_stuck (inv : Inv app swmem miss eviction)
    (stuck : swmem.Stuck app base) :
    miss = [] ∧ swmem.misses = [] ∧ swmem.fill.answered = swmem.fill.answers := by
  obtain ⟨point, readFlag, _⟩ := inv.waits stuck
  have stopped : swMemFillIsr app base swmem.fill.core swmem = none := by
    have onItsCore := stuck.1 swmem.fill.core
    rwa [Swmem.next, if_pos (by simp [Fill.mayRun])] at onItsCore
  have stage := inv.fill
  rw [point, readFlag] at stage
  cases stage with
  | ready isr trigger flag part answered taken =>
      simp only [swMemFillIsr, isr, trigger] at stopped
      split at stopped
      · next none => exact ⟨taken, none, answered⟩
      · cases stopped
  | asking isr =>
      simp only [swMemFillIsr, isr] at stopped
      split at stopped
      · cases stopped
      · split at stopped <;> cases stopped
  | populating isr =>
      simp only [swMemFillIsr, isr] at stopped
      cases stopped
  | deferring _ isr =>
      rcases isr with isr | ⟨isr, _⟩
      · simp only [swMemFillIsr, isr] at stopped
        cases stopped
      · simp only [swMemFillIsr, isr] at stopped
        cases stopped
  | flagged _ _ _ flag => cases flag
  | reading _ _ _ _ part => cases part
  | read _ _ _ part => rcases part with part | ⟨part, _⟩ <;> cases part
  | filled _ _ _ part => rcases part with part | part <;> cases part

theorem Inv.evict_of_stuck (inv : Inv app swmem miss eviction)
    (stuck : swmem.Stuck app base) : eviction = [] ∧ swmem.evictions = [] := by
  obtain ⟨point, _, writeFlag⟩ := inv.waits stuck
  have stopped : swMemEvictIsr app base swmem = none := stuck.2.1
  have stage := inv.evict
  rw [point, writeFlag] at stage
  cases stage with
  | ready isr trigger flag part taken =>
      simp only [swMemEvictIsr, isr, trigger] at stopped
      split at stopped
      · next none => exact ⟨taken, none⟩
      · cases stopped
  | asking isr =>
      simp only [swMemEvictIsr, isr] at stopped
      split at stopped
      · cases stopped
      · split at stopped <;> cases stopped
  | deferring _ isr =>
      rcases isr with isr | ⟨isr, _⟩
      · simp only [swMemEvictIsr, isr] at stopped
        cases stopped
      · simp only [swMemEvictIsr, isr] at stopped
        cases stopped
  | flagged _ _ _ flag => cases flag
  | writing _ _ _ _ part | written _ _ _ part => cases part

/-- When nothing can go on, every miss has been filled and every eviction written. -/
theorem allServed_of_stuck (serves : app.Serves) {state : σ}
    (reachable : Reachable (next app base) (start state) swmem)
    (stuck : swmem.Stuck app base) :
    swmem.fill.filled.map Filled.slot = swmem.missed ∧
      swmem.fill.answers = swmem.fill.answered ∧ swmem.evict.written = swmem.evicted := by
  obtain ⟨miss, eviction, inv⟩ := inv_of_reachable serves reachable
  obtain ⟨rfl, noMiss, answered⟩ := inv.fill_of_stuck stuck
  obtain ⟨rfl, noEviction⟩ := inv.evict_of_stuck stuck
  have missed := inv.missed
  have evicted := inv.evicted
  rw [noMiss, List.append_nil, List.append_nil] at missed
  rw [noEviction, List.append_nil, List.append_nil] at evicted
  exact ⟨missed.symm, answered.symm, evicted.symm⟩

end

/-- An application that reads lines in the thread, and takes evictions in the handler unless
they are of the first line. -/
def twoLevels : App Nat where
  readRequestIsr := none
  readRequest := some fun reads offset _ => ([offset, 7], reads + 1)
  writeRequestIsr := some fun reads offset _ _ => (offset != 0, reads)
  writeRequest := some fun reads _ _ _ => reads

theorem twoLevels_serves : twoLevels.Serves where
  read _ _ _ := .inr rfl
  write _ _ _ _ := .inr rfl

/-- The core of the handler for the first miss, and that of the one for the second. -/
def handlerCore : Core := ⟨5, by decide⟩

def otherCore : Core := ⟨2, by decide⟩

/-- Two misses and two evictions; one of each is left to the thread. -/
def requests : List Label :=
  [.miss 0x40, .evict ⟨0, 0xf, [3]⟩, .fillIsr handlerCore, .evictIsr, .miss 0x60, .evictIsr,
    .fillIsr handlerCore, .evictIsr, .evictIsr, .fillIsr handlerCore, .fillIsr handlerCore] ++
  [.thread otherCore, .evict ⟨0x20, 0xff, [4]⟩, .thread otherCore, .thread otherCore,
    .thread handlerCore, .thread handlerCore] ++ List.replicate 3 (.thread otherCore) ++
  [.evictIsr, .fillIsr otherCore, .evictIsr] ++ List.replicate 3 (.fillIsr otherCore) ++
  List.replicate 3 (.thread handlerCore) ++ List.replicate 3 (.thread otherCore)

theorem served_of_reachable_requests :
    ∃ swmem miss eviction, run (next twoLevels 0) (start 0) requests = some swmem ∧
      swmem.fill.answers = [(0x40, [0x40, 7]), (0x60, [0x60, 7])] ∧
      swmem.fill.takenOn = [handlerCore, otherCore] ∧ Served swmem miss eviction := by
  have final : (run (next twoLevels 0) (start 0) requests).map (fun swmem =>
      decide (swmem.fill.answers = [(0x40, [0x40, 7]), (0x60, [0x60, 7])] ∧
        swmem.fill.takenOn = [handlerCore, otherCore])) = some true := by
    decide +kernel
  obtain ⟨swmem, executed, holds⟩ := Option.map_eq_some_iff.mp final
  obtain ⟨miss, eviction, served⟩ :=
    served_of_reachable twoLevels_serves (reachable_of_run executed)
  obtain ⟨answers, cores⟩ := of_decide_eq_true holds
  exact ⟨swmem, miss, eviction, executed, answers, cores, served⟩

theorem allServed_of_stuck_requests :
    ∃ swmem, run (next twoLevels 0) (start 0) requests = some swmem ∧
      swmem.fill.filled.map Filled.slot = [0x40, 0x60] ∧
      swmem.evict.written.map Eviction.words = [[3], [4]] := by
  have final : (run (next twoLevels 0) (start 0) requests).map (fun swmem =>
      decide ((∀ core, (next twoLevels 0 swmem (.fillIsr core)).isNone) ∧
        (next twoLevels 0 swmem .evictIsr).isNone ∧
        (∀ core, (next twoLevels 0 swmem (.thread core)).isNone) ∧
        swmem.missed = [0x40, 0x60] ∧ swmem.evicted.map Eviction.words = [[3], [4]])) =
          some true := by
    decide +kernel
  obtain ⟨swmem, executed, holds⟩ := Option.map_eq_some_iff.mp final
  obtain ⟨fillIsr, evictIsr, thread, missed, evicted⟩ := of_decide_eq_true holds
  have stuck : swmem.Stuck twoLevels 0 :=
    ⟨fun core => Option.isNone_iff_eq_none.mp (fillIsr core),
      Option.isNone_iff_eq_none.mp evictIsr, fun core => Option.isNone_iff_eq_none.mp (thread core)⟩
  obtain ⟨filled, _, written⟩ :=
    allServed_of_stuck twoLevels_serves (reachable_of_run executed) stuck
  refine ⟨swmem, executed, filled.trans missed, ?_⟩
  rw [written]
  exact evicted

end FwkRtos.Swmem

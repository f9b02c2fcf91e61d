import FwkRtos.Transition.TwoRuns
import FwkRtos.UartRx.Driver

/-!
# The loop that drains the small buffer

The loop of the driver's thread ends when it finds the small buffer empty, whatever the
interrupt handler pushes in the meantime, and moves what it finds to an array.  What it has
popped and what is still in the buffer are what was there at first and what was pushed.
-/

namespace FwkRtos.UartRx

open FwkRtos.Transition

/-- The loop is about to pop a byte into `bytes[bytes_read]`, below the end of the array. -/
def IndexInBounds (config : Config) (uart : Uart) : Prop :=
  ∀ bytes, uart.app = .pop bytes → bytes.length < config.bufLen

/-- The driver's thread is in the loop. -/
def Uart.inLoop (uart : Uart) : Bool :=
  match uart.app with
  | .pop _ => true
  | _ => false

/-- The byte that the interrupt handler pushes in a step. -/
def pushed? (config : Config) (uart : Uart) : Label → Option UInt8
  | .isr =>
      match uart.isr with
      | .push byte => if uart.isrToAppFifo.length < config.fifoSize then some byte else none
      | _ => none
  | _ => none

/-- The bytes that are pushed in a run. -/
def pushed (config : Config) (source : Uart) (schedule : List Label) : List UInt8 :=
  seen (next config) (pushed? config) source schedule

/-- One activation of the loop, from any contents of the small buffer, with any steps of the
others in between; it is under way before each of the steps. -/
structure Activation (config : Config) (source : Uart) (schedule : List Label)
    (target : Uart) : Prop where
  begins : source.app = .pop []
  executed : run (next config) source schedule = some target
  underWay : StepsMeet (next config) source schedule fun uart _ => uart.inLoop

/-- The loop has ended, or it cannot go on because it would write past the end of the array. -/
def Over (config : Config) (uart : Uart) : Prop :=
  (∀ bytes, uart.app ≠ .pop bytes) ∨ next config uart .app = none

variable {config : Config}

theorem inLoop_iff {uart : Uart} : uart.inLoop = true ↔ ∃ bytes, uart.app = .pop bytes := by
  rw [Uart.inLoop]
  cases uart.app <;> simp

/-! ## What the loop has popped -/

/-- One step of the loop, or of the others while it is under way. -/
theorem pops_step {source target : Uart} {label : Label} {bytes : List UInt8}
    (point : source.app = .pop bytes) (step : next config source label = some target) :
    (∃ after, target.app = .pop after ∧
        after ++ target.isrToAppFifo =
          bytes ++ (source.isrToAppFifo ++ (pushed? config source label).toList)) ∨
      (∀ after, target.app ≠ .pop after) ∧ source.isrToAppFifo = [] ∧
        pushed? config source label = none := by
  cases move_of_next step with
  | pop isAt head =>
      rw [point] at isAt
      cases isAt
      refine .inl ⟨_, rfl, ?_⟩
      rw [head]
      simp [pushed?]
  | drained isAt empty =>
      rw [point] at isAt
      cases isAt
      refine .inr ⟨?_, empty, rfl⟩
      intro after isPop
      dsimp only at isPop
      split at isPop <;> cases isPop
  | take isAt | send isAt | flagLoad isAt | flagStore isAt | check isAt | report isAt | clear isAt
    | complete isAt =>
      rw [point] at isAt
      cases isAt
  | isrPush isAt room => exact .inl ⟨bytes, point, by simp [pushed?, isAt, room]⟩
  | isrOverrun isAt full =>
      exact .inl ⟨bytes, point, by simp [pushed?, isAt, Nat.not_lt.mpr full]⟩
  | isrEnter isAt | isrNotify isAt | isrFlagLoad isAt | isrFlagStore isAt =>
      exact .inl ⟨bytes, point, by simp [pushed?, isAt]⟩
  | hilByte | hilError | hilStore => exact .inl ⟨bytes, point, by simp [pushed?]⟩
  | read event => cases event <;> exact .inl ⟨bytes, point, by simp [pushed?, Uart.read]⟩

/-- A run of the loop that began with some bytes in the array: it is still under way, or its
last step has found the small buffer empty. -/
theorem pops_run {source target : Uart} {schedule : List Label} {bytes : List UInt8}
    (point : source.app = .pop bytes) (executed : run (next config) source schedule = some target)
    (underWay : StepsMeet (next config) source schedule fun uart _ => uart.inLoop) :
    (∃ after, target.app = .pop after ∧
        after ++ target.isrToAppFifo =
          bytes ++ (source.isrToAppFifo ++ pushed config source schedule)) ∨
      (∀ after, target.app ≠ .pop after) ∧
        ∃ before uart, before <+: schedule ∧ run (next config) source before = some uart ∧
          uart.app = .pop (bytes ++ (source.isrToAppFifo ++ pushed config source schedule)) := by
  induction schedule generalizing source bytes with
  | nil =>
      cases executed
      refine .inl ⟨bytes, point, ?_⟩
      rw [pushed, seen, List.append_nil]
  | cons label rest ih =>
      rcases run_cons_eq_some_iff.mp executed with ⟨middle, step, executed⟩
      have later := (stepsMeet_cons_iff.mp underWay middle step).2
      rw [pushed, seen_cons step, ← pushed, ← List.append_assoc source.isrToAppFifo]
      rcases pops_step point step with ⟨between, isAt, same⟩ | ⟨ended, empty, nothing⟩
      · rw [← List.append_assoc bytes, ← same, List.append_assoc]
        rcases ih isAt executed later with goesOn | ⟨ended, before, uart, isPrefix, reached, last⟩
        · exact .inl goesOn
        · exact .inr ⟨ended, label :: before, uart, List.cons_prefix_cons.mpr ⟨rfl, isPrefix⟩,
            run_cons_eq_some_iff.mpr ⟨middle, step, reached⟩, last⟩
      · cases rest with
        | nil =>
            cases executed
            refine .inr ⟨ended, [], source, List.nil_prefix, rfl, ?_⟩
            rw [empty, nothing, point]
            simp [pushed, seen]
        | cons other rest =>
            rcases run_cons_eq_some_iff.mp executed with ⟨after, goesOn, _⟩
            rcases inLoop_iff.mp (stepsMeet_cons_iff.mp later after goesOn).1 with ⟨bytes, isPop⟩
            exact absurd isPop (ended bytes)

section Loop

variable {source target : Uart} {schedule : List Label}

/-- If the array has room for all bytes that were in the small buffer at first and that are
pushed in the meantime, and for one more, every index is in bounds. -/
theorem Activation.inBounds (activation : Activation config source schedule target)
    (fits : source.isrToAppFifo.length + (pushed config source schedule).length <
      config.bufLen) :
    StatesSatisfy (next config) source schedule (IndexInBounds config) := by
  rintro before ⟨rest, rfl⟩ uart executed bytes isPop
  have underWay := activation.underWay.of_prefix (List.prefix_append before rest)
  rw [pushed, seen_append executed, List.length_append, ← pushed] at fits
  rcases pops_run activation.begins executed underWay with ⟨after, isAt, same⟩ | ⟨ended, _⟩
  · rw [isPop] at isAt
    cases isAt
    have counted := congrArg List.length same
    simp only [List.length_append, List.nil_append] at counted
    omega
  · exact absurd isPop (ended bytes)

/-- The last index of a loop is the number of bytes that were in the small buffer at first and
that were pushed in the meantime. -/
theorem Activation.fits (activation : Activation config source schedule target)
    (ended : Over config target)
    (inBounds : StatesSatisfy (next config) source schedule (IndexInBounds config)) :
    source.isrToAppFifo.length + (pushed config source schedule).length < config.bufLen := by
  rcases pops_run activation.begins activation.executed activation.underWay with
    ⟨after, isAt, _⟩ | ⟨_, before, uart, isPrefix, reached, last⟩
  · -- A loop that cannot go on has used up the array.
    have within := inBounds (List.prefix_refl schedule) activation.executed after isAt
    rcases ended with outside | stuck
    · exact absurd isAt (outside after)
    · rw [next, isAt, uartRxAppThread] at stuck
      split at stuck
      · cases stuck
      · rw [if_pos within] at stuck
        cases stuck
  · have within := inBounds isPrefix reached _ last
    rwa [List.nil_append, List.length_append] at within

/-- The indices of the loop are in bounds exactly if the bytes in the small buffer at first and
those pushed while it runs are together fewer than the array has: if they are, in every run,
and only then in a run up to the end of the loop. -/
theorem indexInBounds_iff (activation : Activation config source schedule target) :
    (source.isrToAppFifo.length + (pushed config source schedule).length < config.bufLen →
        StatesSatisfy (next config) source schedule (IndexInBounds config)) ∧
      (Over config target →
        (StatesSatisfy (next config) source schedule (IndexInBounds config) ↔
          source.isrToAppFifo.length + (pushed config source schedule).length <
            config.bufLen)) := by
  constructor
  · exact activation.inBounds
  · intro fits
    exact ⟨activation.fits fits, activation.inBounds⟩

end Loop

/-- `RTOS_UART_RX_BUF_LEN` as it is by default. -/
def defaultConfig : Config where
  bufLen := 64 + 1
  appRxBuffSize := 64
  rxErrorCb := false

/-- The thread begins to drain the small buffer, and the handler is about to push a byte. -/
def draining (isrToAppFifo : List UInt8) : Uart :=
  { start with isrToAppFifo := isrToAppFifo, app := .pop [], isr := .push 1 }

/-- A byte is popped, one is pushed, and so many are popped. -/
def pushBetween (count : Nat) : List Label :=
  .app :: .isr :: List.replicate count .app

theorem Activation.of_run {source : Uart} {schedule : List Label} (begins : source.app = .pop [])
    (executed : (run (next config) source schedule).isSome)
    (underWay : StepsMeet (next config) source schedule fun uart _ => uart.inLoop) :
    ∃ target, Activation config source schedule target := by
  rcases Option.isSome_iff_exists.mp executed with ⟨target, executed⟩
  exact ⟨target, begins, executed, underWay⟩

/-- Two bytes are in the small buffer, and one is pushed: the loop ends at its fourth pop. -/
theorem twoBytes_inBounds :
    StatesSatisfy (next defaultConfig) (draining [7, 8]) (pushBetween 3)
      (IndexInBounds defaultConfig) := by
  have isActivation : ∃ target, Activation defaultConfig (draining [7, 8]) (pushBetween 3)
      target := Activation.of_run rfl (by decide) (by decide)
  rcases isActivation with ⟨target, activation⟩
  exact (indexInBounds_iff activation).1 (by decide)

/-- The small buffer is full, and one byte is pushed as soon as one is popped: the loop comes to
the index behind the array. -/
theorem fullBuffer_not_inBounds :
    (∃ target, Activation defaultConfig (draining (List.replicate 64 0)) (pushBetween 64)
        target) ∧
      ¬ StatesSatisfy (next defaultConfig) (draining (List.replicate 64 0)) (pushBetween 64)
        (IndexInBounds defaultConfig) := by
  constructor
  · exact Activation.of_run rfl (by decide +kernel) (by decide +kernel)
  · intro inBounds
    have executed : (run (next defaultConfig) (draining (List.replicate 64 0))
        (pushBetween 64)).map Uart.app = some (.pop (List.replicate 64 0 ++ [1])) := by
      decide +kernel
    rcases Option.map_eq_some_iff.mp executed with ⟨uart, executed, point⟩
    exact absurd (inBounds (List.prefix_refl _) executed _ point) (by decide)

end FwkRtos.UartRx

import FwkRtos.UartRx.Driver
import Mathlib.Data.List.Sublists

/-!
# Lost bytes

Bytes are lost where the small buffer or the stream buffer is full, and both
places set the overrun flag.  The error callback is only given the flags of
`RX_ERROR_FLAGS`, and the overrun flag is not among them; so no loss is ever
reported, and what arrives is what was received with the lost bytes left out.
-/

namespace FwkRtos.UartRx

open FwkRtos.Transition

/-- What is delivered is a part of what was received, in the same order. -/
def InOrder (uart : Uart) : Prop :=
  uart.delivered.Sublist uart.received

/-- The step loses bytes: the small buffer is full, or the stream buffer accepts
fewer bytes than are sent. -/
def drops (config : Config) (uart : Uart) : Label → Bool
  | .isr =>
      match uart.isr with
      | .push _ => decide (config.fifoSize ≤ uart.isrToAppFifo.length)
      | _ => false
  | .app =>
      match uart.app with
      | .send bytes => decide ((uart.streamBufferSend config bytes).length ≠ bytes.length)
      | _ => false
  | _ => false

/-- The run can be continued in such a way that a later call of the error callback
is given the overrun flag. -/
def CanBeReported (config : Config) (uart : Uart) : Prop :=
  ∃ final, Reachable (next config) uart final ∧
    ∃ flags ∈ final.reports.drop uart.reports.length, flags &&& overrunErrCbFlag ≠ 0

/-- A step that loses bytes is followed by a report. -/
def ReportsDrops (config : Config) (uart : Uart) (label : Label) : Prop :=
  drops config uart label = true →
    ∀ target, next config uart label = some target → CanBeReported config target

/-- The step loses nothing. -/
def DropsNothing (config : Config) (uart : Uart) (label : Label) : Prop :=
  drops config uart label = false

/-! ## The order of the bytes -/

/-- The byte that the handler has and has not pushed. -/
def IsrPoint.bytes : IsrPoint → List UInt8
  | .notify byte => [byte]
  | .push byte => [byte]
  | _ => []

/-- The bytes that the thread has and has not sent. -/
def AppPoint.bytes : AppPoint → List UInt8
  | .pop bytes => bytes
  | .send bytes => bytes
  | _ => []

/-- The bytes on their way, from the first delivered to the last received. -/
def Uart.bytes (uart : Uart) : List UInt8 :=
  uart.delivered ++ (uart.app.bytes ++ (uart.isrToAppFifo ++ (uart.isr.bytes ++ uart.channel)))

/-- A step of the driver adds no byte but the one received, and changes the order
of none. -/
theorem Move.bytes {config : Config} {source target : Uart} {label : Label}
    (move : Move config source label target) :
    ∃ new, target.received = source.received ++ new ∧
      target.bytes.Sublist (source.bytes ++ new) := by
  have quiet : target.received = source.received → target.bytes.Sublist source.bytes →
      ∃ new, target.received = source.received ++ new ∧
        target.bytes.Sublist (source.bytes ++ new) := by
    intro received bytes
    refine ⟨[], ?_, ?_⟩
    · rw [received, List.append_nil]
    · rw [List.append_nil]
      exact bytes
  cases move with
  | hilByte byte point =>
      refine ⟨[byte], rfl, ?_⟩
      simp only [Uart.bytes, List.append_assoc]
      exact .refl _
  | hilError | hilStore => exact quiet rfl (.refl _)
  | isrEnter point head =>
      apply quiet rfl
      simp [Uart.bytes, IsrPoint.bytes, point, head]
  | isrNotify point =>
      apply quiet rfl
      simp [Uart.bytes, IsrPoint.bytes, point]
  | isrPush point room =>
      apply quiet rfl
      simp [Uart.bytes, IsrPoint.bytes, point]
  | isrOverrun point full =>
      apply quiet rfl
      simp [Uart.bytes, IsrPoint.bytes, point]
  | isrFlagLoad point | isrFlagStore point =>
      apply quiet rfl
      simp [Uart.bytes, IsrPoint.bytes, point]
  | pop point head =>
      apply quiet rfl
      simp [Uart.bytes, AppPoint.bytes, point, head]
  | @drained bytes point empty =>
      apply quiet rfl
      by_cases nothing : bytes = [] <;> simp [Uart.bytes, AppPoint.bytes, point, nothing]
  | @send bytes point =>
      apply quiet rfl
      have none_ : ∀ condition : Prop, [Decidable condition] →
          (if condition then AppPoint.flagLoad else .check).bytes = [] := by
        intro condition _
        split <;> rfl
      rw [Uart.bytes, Uart.bytes, point, none_, List.nil_append, List.append_assoc]
      refine (List.Sublist.refl _).append ?_
      exact (List.take_sublist _ _).append_right _
  | check point =>
      apply quiet rfl
      have none_ : ∀ condition : Prop, [Decidable condition] →
          (if condition then AppPoint.report else .complete).bytes = [] := by
        intro condition _
        split <;> rfl
      rw [Uart.bytes, Uart.bytes, point, none_]
      exact .refl _
  | read event =>
      cases event <;> exact quiet rfl (.refl _)
  | _ point =>
      apply quiet rfl
      simp [Uart.bytes, AppPoint.bytes, point]

/-- What is on its way is a part of what was received, in the same order. -/
theorem bytes_sublist_of_reachable {config : Config} {uart : Uart}
    (reachable : Reachable (next config) start uart) : uart.bytes.Sublist uart.received := by
  induction reachable with
  | refl => exact .refl []
  | tail _ _ step inv =>
      obtain ⟨new, received, bytes⟩ := (move_of_next step).bytes
      rw [received]
      exact bytes.trans (inv.append_right new)

theorem deliveredInOrder_of_reachable {config : Config} {uart : Uart}
    (reachable : Reachable (next config) start uart) : InOrder uart :=
  (List.sublist_append_left _ _).trans (bytes_sublist_of_reachable reachable)

/-! ## The reports -/

/-- The error callback is not given the overrun flag. -/
theorem overrun_masked (flags : UInt8) : flags &&& rxErrorFlags &&& overrunErrCbFlag = 0 := by
  rw [UInt8.and_assoc, show rxErrorFlags &&& overrunErrCbFlag = 0 by decide, UInt8.and_zero]

/-- A step adds only reports without the overrun flag. -/
theorem Move.reports {config : Config} {source target : Uart} {label : Label}
    (move : Move config source label target) :
    ∃ new, target.reports = source.reports ++ new ∧
      ∀ flags ∈ new, flags &&& overrunErrCbFlag = 0 := by
  cases move with
  | report point =>
      refine ⟨[source.cbFlags &&& rxErrorFlags], rfl, ?_⟩
      intro flags member
      rw [List.mem_singleton.mp member]
      exact overrun_masked source.cbFlags
  | read event =>
      refine ⟨[], ?_, nofun⟩
      rw [List.append_nil]
      cases event <;> rfl
  | _ => exact ⟨[], (List.append_nil _).symm, nofun⟩

/-- However a run goes on, no loss is reported. -/
theorem not_canBeReported (config : Config) (uart : Uart) : ¬ CanBeReported config uart := by
  rintro ⟨final, reachable, flags, member, reported⟩
  have unreported : ∃ new, final.reports = uart.reports ++ new ∧
      ∀ flags ∈ new, flags &&& overrunErrCbFlag = 0 := by
    clear member reported
    induction reachable with
    | refl => exact ⟨[], (List.append_nil _).symm, nofun⟩
    | tail _ _ step inv =>
        obtain ⟨before, isBefore, masked⟩ := inv
        obtain ⟨new, isAfter, alsoMasked⟩ := (move_of_next step).reports
        refine ⟨before ++ new, by rw [isAfter, isBefore, List.append_assoc], fun flags member => ?_⟩
        rcases List.mem_append.mp member with old | fresh
        · exact masked flags old
        · exact alsoMasked flags fresh
  obtain ⟨new, isFinal, masked⟩ := unreported
  rw [isFinal, List.drop_left] at member
  exact reported (masked flags member)

/-- What is delivered is in order in every run, and exactly the runs that lose
nothing report every loss. -/
theorem lossesReported_iff_dropsNothing (config : Config) (schedule : List Label) :
    StatesSatisfy (next config) start schedule InOrder ∧
        StepsMeet (next config) start schedule (ReportsDrops config) ↔
      StepsMeet (next config) start schedule (DropsNothing config) := by
  constructor
  · rintro ⟨_, reports⟩ before label isPrefix source target executed step
    cases loses : drops config source label with
    | false => exact loses
    | true =>
        exact absurd (reports isPrefix executed step loses target step)
          (not_canBeReported config target)
  · intro nothing
    constructor
    · intro before isPrefix uart executed
      exact deliveredInOrder_of_reachable (reachable_of_run executed)
    · intro before label isPrefix source target executed step loses
      rw [show drops config source label = false from nothing isPrefix executed step] at loses
      cases loses

/-- A stream buffer of one byte, and an error callback. -/
def tinyStreamBuffer : Config where
  bufLen := 65
  appRxBuffSize := 1
  rxErrorCb := true

/-- Two bytes are received and pushed before the thread takes its notifications
and sends both. -/
def twoBytesAtOnce : List Label :=
  [.hil (.byte 0x55), .hil (.byte 0xaa)] ++ List.replicate 6 .isr ++ List.replicate 5 .app

/-- The stream buffer accepts only the first byte, and the loss is never reported. -/
theorem twoBytesAtOnce_not_reported :
    ¬ StepsMeet (next tinyStreamBuffer) start twoBytesAtOnce (ReportsDrops tinyStreamBuffer) := by
  intro reports
  have executed : (run (next tinyStreamBuffer) start (twoBytesAtOnce.take 12)).map (fun uart =>
      (drops tinyStreamBuffer uart .app, (next tinyStreamBuffer uart .app).isSome)) =
        some (true, true) := by
    decide
  obtain ⟨source, before, isDrop⟩ := Option.map_eq_some_iff.mp executed
  obtain ⟨loses, steps⟩ := Prod.mk.inj isDrop
  obtain ⟨target, step⟩ := Option.isSome_iff_exists.mp steps
  have isPrefix : twoBytesAtOnce.take 12 ++ [.app] <+: twoBytesAtOnce := by decide
  exact not_canBeReported tinyStreamBuffer target (reports isPrefix before step loses target step)

end FwkRtos.UartRx

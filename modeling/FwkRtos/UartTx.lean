import FwkRtos.Osal.Sections

/-!
# UART transmission

A call takes the recursive mutex of the line and sends its bytes one by one.  The tasks of
other tiles have RPC threads, which call the same function.
-/

namespace FwkRtos.UartTx

open FwkRtos.Osal
open FwkRtos.Osal.Sections
open FwkRtos.Transition

abbrev Function := Prog UInt8 Unit Unit

/-- The loop of `uart_tx_local_write`, with the put behind it. -/
def sendBytes : List UInt8 → Function
  | [] => .put (.ret ())
  | byte :: rest => .act byte fun _ => sendBytes rest

/-- `uart_tx_local_write`. -/
def uartTxLocalWrite (buff : List UInt8) : Function :=
  .get (sendBytes buff)

/-- `uart_tx`: a byte goes to the line. -/
def line : Object (List UInt8) UInt8 Unit := fun sent byte => ((), sent ++ [byte])

theorem sendBytes_inside (buff : List UInt8) : (sendBytes buff).Inside 1 := by
  induction buff with
  | nil => trivial
  | cons byte rest ih => exact fun _ => ih

theorem uartTxLocalWrite_bracketed (buff : List UInt8) : (uartTxLocalWrite buff).Bracketed :=
  sendBytes_inside buff

theorem alone_sendBytes (sent buff : List UInt8) :
    (sendBytes buff).alone line sent = ((), sent ++ buff) := by
  induction buff generalizing sent with
  | nil => exact congrArg (Prod.mk ()) (List.append_nil sent).symm
  | cons byte rest ih =>
      show (sendBytes rest).alone line (sent ++ [byte]) = _
      rw [ih, List.append_assoc]
      rfl

/-- A call appends its bytes. -/
theorem calls_eq (sent buff : List UInt8) :
    calls line uartTxLocalWrite sent buff = ((), sent ++ buff) :=
  alone_sendBytes sent buff

/-- One call after the other. -/
theorem replay_calls (start : List UInt8) (buffs : List (List UInt8)) :
    ((calls line uartTxLocalWrite).replay start buffs).2 = start ++ buffs.flatten := by
  induction buffs generalizing start with
  | nil => exact (List.append_nil start).symm
  | cons buff buffs ih =>
      rw [Object.replay, ih, calls_eq, List.flatten_cons, List.append_assoc]

/-- Where a call is that is under way: it has sent a part of its bytes. -/
theorem point_of_reaches {buff sent now : List UInt8} {rest : Function}
    (reaches : (uartTxLocalWrite buff).Reaches line sent rest now) :
    (rest = uartTxLocalWrite buff ∧ now = sent) ∨
      (∃ part left, rest = sendBytes left ∧ part ++ left = buff ∧ now = sent ++ part) ∨
      (rest = .ret () ∧ now = sent ++ buff) := by
  induction reaches with
  | refl => exact .inl ⟨rfl, rfl⟩
  | get _ ih =>
      rcases ih with ⟨isRest, isNow⟩ | ⟨part, left, isRest, _⟩ | ⟨isRest, _⟩
      · refine .inr (.inl ⟨[], buff, Prog.get.inj isRest, rfl, ?_⟩)
        rw [isNow, List.append_nil]
      · cases left <;> cases isRest
      · cases isRest
  | put _ ih =>
      rcases ih with ⟨isRest, _⟩ | ⟨part, left, isRest, whole, isNow⟩ | ⟨isRest, _⟩
      · cases isRest
      · cases left with
        | nil =>
            refine .inr (.inr ⟨Prog.put.inj isRest, ?_⟩)
            rw [isNow, ← whole, List.append_nil]
        | cons byte left => cases isRest
      · cases isRest
  | act _ ih =>
      rcases ih with ⟨isRest, _⟩ | ⟨part, left, isRest, whole, isNow⟩ | ⟨isRest, _⟩
      · cases isRest
      · cases left with
        | nil => cases isRest
        | cons byte left =>
            obtain ⟨isByte, rfl⟩ := Prog.act.inj isRest
            refine .inr (.inl ⟨part ++ [byte], left, rfl, ?_, ?_⟩)
            · rw [← whole, List.append_assoc]
              rfl
            · rw [isNow, isByte]
              exact List.append_assoc _ _ _
      · cases isRest

/-- What it has sent. -/
theorem sent_of_reaches {buff sent now : List UInt8} {rest : Function}
    (reaches : (uartTxLocalWrite buff).Reaches line sent rest now) :
    ∃ part, now = sent ++ part ∧ part <+: buff := by
  rcases point_of_reaches reaches with ⟨_, isNow⟩ | ⟨part, left, _, whole, isNow⟩ | ⟨_, isNow⟩
  · exact ⟨[], by rw [isNow, List.append_nil], List.nil_prefix⟩
  · exact ⟨part, isNow, ⟨left, whole⟩⟩
  · exact ⟨buff, isNow, List.prefix_refl _⟩

section

variable {T : Type*} [DecidableEq T] {shared : Shared T (List UInt8) (List UInt8) UInt8 Unit Unit}

/-- The line carries whole calls, and a part of the one that has the mutex; each task's calls
are sent in its order, and none waits for good. -/
theorem line_of_reachable
    (reachable : Reachable (nextShared line uartTxLocalWrite) (startShared []) shared) :
    ∃ part, shared.device = (shared.log.map CallEffect.call).flatten ++ part ∧
      (shared.lock.holder = none → part = []) ∧
      (∀ task, shared.lock.holder = some task → ∃ buff rest,
        shared.running task = some (buff, rest) ∧ part <+: buff) ∧
      (∀ task, ∃ before : Option (List UInt8),
        shared.called task = (effectsOf task shared.log).map CallEffect.call ++ before.toList ∧
          (shared.running task = none → before = none)) ∧
      ∀ task, shared.running task ≠ none →
        ∃ other, (nextShared line uartTxLocalWrite shared (.run other)).isSome := by
  obtain ⟨state, atomic⟩ := atomic_of_reachable uartTxLocalWrite_bracketed reachable
  have isState : state = (shared.log.map CallEffect.call).flatten := by
    rw [← atomic.sequential.state, replay_calls, List.nil_append]
  have calls : ∀ task, ∃ before : Option (List UInt8),
      shared.called task = (effectsOf task shared.log).map CallEffect.call ++ before.toList ∧
        (shared.running task = none → before = none) := by
    intro task
    obtain ⟨before, after, accounted, settled⟩ := atomic.accounted task
    exact ⟨before, accounted.called, fun free => (settled free).1⟩
  have runs : ∀ task, shared.running task ≠ none →
      ∃ other, (nextShared line uartTxLocalWrite shared (.run other)).isSome := by
    intro task isRunning
    exact runs_of_running uartTxLocalWrite_bracketed reachable isRunning
  cases holder : shared.lock.holder with
  | none =>
      refine ⟨[], ?_, fun _ => rfl, by rintro task ⟨⟩, calls, runs⟩
      rw [atomic.free holder, isState, List.append_nil]
  | some task =>
      obtain ⟨buff, rest, running, reaches⟩ := atomic.held task holder
      obtain ⟨part, isNow, isPart⟩ := sent_of_reaches reaches
      refine ⟨part, ?_, by rintro ⟨⟩, ?_, calls, runs⟩
      · rw [isNow, isState]
      · rintro other ⟨⟩
        exact ⟨buff, rest, running, isPart⟩

/-- One task is still sending while another waits. -/
def twoWrites : List (Label (Fin 2) (List UInt8)) :=
  [.call 0 [6, 2, 3], .run 0, .call 1 [9], .run 0] ++ List.replicate 4 (.run 0) ++
    [.call 0 [4, 5], .run 1, .run 1]

theorem line_of_reachable_twoWrites :
    ∃ shared part, run (nextShared line uartTxLocalWrite) (startShared []) twoWrites = some shared ∧
      shared.device = [6, 2, 3, 9] ∧
      shared.device = (shared.log.map CallEffect.call).flatten ++ part := by
  have final : (run (nextShared line uartTxLocalWrite) (startShared []) twoWrites).map
      (fun shared => decide (shared.device = [6, 2, 3, 9])) = some true := by
    decide
  obtain ⟨shared, executed, holds⟩ := Option.map_eq_some_iff.mp final
  obtain ⟨part, isDevice, -⟩ := line_of_reachable (reachable_of_run executed)
  exact ⟨shared, part, executed, of_decide_eq_true holds, isDevice⟩

end

end FwkRtos.UartTx

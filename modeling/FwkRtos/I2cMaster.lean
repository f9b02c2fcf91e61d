import FwkRtos.Osal.Sections

/-!
# I2C master

Every function takes the recursive mutex of the bus; reading a register takes it around a
write and a read, which take it again.  The tasks of other tiles have RPC threads, which call
the same functions.
-/

namespace FwkRtos.I2cMaster

open FwkRtos.Osal
open FwkRtos.Osal.Sections
open FwkRtos.Transition

universe u

/-- `i2c_res_t`. -/
inductive I2cRes
  | nack
  | ack
  deriving DecidableEq

/-- `i2c_regop_res_t`. -/
inductive I2cRegopRes
  | success
  | deviceNack
  | incomplete
  deriving DecidableEq

/-- What the driver has the I2C library do. -/
inductive BusOp
  | write (deviceAddr : UInt8) (buf : List UInt8) (sendStopBit : Bool)
  | read (deviceAddr : UInt8) (n : Nat) (sendStopBit : Bool)
  | stopBitSend
  deriving DecidableEq

/-- What it gets back, as far as the operation has it. -/
structure BusResp where
  res : I2cRes
  numBytesSent : Nat
  buf : List UInt8
  deriving DecidableEq

inductive Call
  | write (deviceAddr : UInt8) (buf : List UInt8) (sendStopBit : Bool)
  | read (deviceAddr : UInt8) (n : Nat) (sendStopBit : Bool)
  | stopBitSend
  | regWrite (deviceAddr regAddr data : UInt8)
  | regRead (deviceAddr regAddr : UInt8)
  deriving DecidableEq

/-- What a function returns, with what it puts through its pointers. -/
inductive Result
  | sent (res : I2cRes) (numBytesSent : Nat)
  | received (res : I2cRes) (buf : List UInt8)
  | none
  | regWritten (res : I2cRegopRes)
  | regRead (res : I2cRegopRes) (data : List UInt8)
  deriving DecidableEq

abbrev Function := Prog BusOp BusResp Result

/-- `i2c_master_local_write`, with what its caller does behind it. -/
def i2cMasterLocalWrite (deviceAddr : UInt8) (buf : List UInt8) (sendStopBit : Bool)
    (next : I2cRes → Nat → Function) : Function :=
  .get (.act (.write deviceAddr buf sendStopBit) fun resp =>
    .put (next resp.res resp.numBytesSent))

/-- `i2c_master_local_read`, with what its caller does behind it. -/
def i2cMasterLocalRead (deviceAddr : UInt8) (n : Nat) (sendStopBit : Bool)
    (next : I2cRes → List UInt8 → Function) : Function :=
  .get (.act (.read deviceAddr n sendStopBit) fun resp => .put (next resp.res resp.buf))

/-- `i2c_master_local_stop_bit_send`. -/
def i2cMasterLocalStopBitSend : Function :=
  .get (.act .stopBitSend fun _ => .put (.ret .none))

/-- `reg_res` behind the write of a register. -/
def writtenRes (res : I2cRes) (numBytesSent : Nat) : I2cRegopRes :=
  match res with
  | .ack =>
      if numBytesSent = 0 then .deviceNack
      else if numBytesSent < 2 then .incomplete
      else .success
  | .nack => .deviceNack

/-- `reg_res` behind the write of the address of a register. -/
def addressedRes (res : I2cRes) (numBytesSent : Nat) : I2cRegopRes :=
  match res with
  | .ack => if numBytesSent = 0 then .deviceNack else .success
  | .nack => .deviceNack

/-- `reg_res` behind the read of a register. -/
def readRes : I2cRes → I2cRegopRes
  | .ack => .success
  | .nack => .deviceNack

/-- `i2c_master_local_reg_write`. -/
def i2cMasterLocalRegWrite (deviceAddr regAddr data : UInt8) : Function :=
  i2cMasterLocalWrite deviceAddr [regAddr, data] true fun res numBytesSent =>
    .ret (.regWritten (writtenRes res numBytesSent))

/-- `i2c_master_local_reg_read`. -/
def i2cMasterLocalRegRead (deviceAddr regAddr : UInt8) : Function :=
  .get (i2cMasterLocalWrite deviceAddr [regAddr] false fun res numBytesSent =>
    if addressedRes res numBytesSent = .success then
      i2cMasterLocalRead deviceAddr 1 true fun res buf => .put (.ret (.regRead (readRes res) buf))
    else .put (.ret (.regRead (addressedRes res numBytesSent) [])))

def function : Call → Function
  | .write deviceAddr buf sendStopBit =>
      i2cMasterLocalWrite deviceAddr buf sendStopBit fun res numBytesSent =>
        .ret (.sent res numBytesSent)
  | .read deviceAddr n sendStopBit =>
      i2cMasterLocalRead deviceAddr n sendStopBit fun res buf => .ret (.received res buf)
  | .stopBitSend => i2cMasterLocalStopBitSend
  | .regWrite deviceAddr regAddr data => i2cMasterLocalRegWrite deviceAddr regAddr data
  | .regRead deviceAddr regAddr => i2cMasterLocalRegRead deviceAddr regAddr

/-- The mutex is around everything that a function does with the bus. -/
theorem function_bracketed (call : Call) : (function call).Bracketed := by
  cases call with
  | write | read => exact fun _ => trivial
  | stopBitSend => exact fun _ => trivial
  | regWrite => exact fun _ => trivial
  | regRead deviceAddr regAddr =>
      intro resp
      show Prog.Inside 1 (if addressedRes resp.res resp.numBytesSent = .success then _ else _)
      split
      · exact fun _ => trivial
      · trivial

/-! ## What the functions are for -/

/-- A register is written in one transfer. -/
def regWriteRes (res : I2cRes) (numBytesSent : Nat) : I2cRegopRes :=
  match res, numBytesSent with
  | .nack, _ | .ack, 0 => .deviceNack
  | .ack, 1 => .incomplete
  | .ack, _ => .success

section

variable {B : Type u} (bus : Object B BusOp BusResp)

/-- The functions on a bus that nobody else uses. -/
def onBus : Object B Call Result := fun state call =>
  match call with
  | .write deviceAddr buf sendStopBit =>
      let done := bus state (.write deviceAddr buf sendStopBit)
      (.sent done.1.res done.1.numBytesSent, done.2)
  | .read deviceAddr n sendStopBit =>
      let done := bus state (.read deviceAddr n sendStopBit)
      (.received done.1.res done.1.buf, done.2)
  | .stopBitSend => (.none, (bus state .stopBitSend).2)
  | .regWrite deviceAddr regAddr data =>
      let done := bus state (.write deviceAddr [regAddr, data] true)
      (.regWritten (regWriteRes done.1.res done.1.numBytesSent), done.2)
  | .regRead deviceAddr regAddr =>
      let addressed := bus state (.write deviceAddr [regAddr] false)
      if addressed.1.res = .ack ∧ addressed.1.numBytesSent ≠ 0 then
        let done := bus addressed.2 (.read deviceAddr 1 true)
        (.regRead (if done.1.res = .ack then .success else .deviceNack) done.1.buf, done.2)
      else (.regRead .deviceNack [], addressed.2)

theorem writtenRes_eq (res : I2cRes) (numBytesSent : Nat) :
    writtenRes res numBytesSent = regWriteRes res numBytesSent := by
  cases res with
  | nack => rfl
  | ack =>
      match numBytesSent with
      | 0 => rfl
      | 1 => rfl
      | sent + 2 =>
          rw [writtenRes, if_neg (Nat.succ_ne_zero _), if_neg (by omega)]
          rfl

theorem addressedRes_eq (res : I2cRes) (numBytesSent : Nat) :
    addressedRes res numBytesSent =
      if res = .ack ∧ numBytesSent ≠ 0 then .success else .deviceNack := by
  cases res with
  | nack => rfl
  | ack => by_cases none : numBytesSent = 0 <;> simp [addressedRes, none]

theorem readRes_eq (res : I2cRes) :
    readRes res = if res = .ack then .success else .deviceNack := by
  cases res <;> rfl

theorem alone_function (state : B) (call : Call) :
    (function call).alone bus state = onBus bus state call := by
  cases call with
  | write | read | stopBitSend => rfl
  | regWrite deviceAddr regAddr data =>
      show (Result.regWritten (writtenRes _ _), _) = _
      rw [writtenRes_eq]
      rfl
  | regRead deviceAddr regAddr =>
      show Prog.alone bus (if addressedRes _ _ = .success then _ else _) _ = _
      rw [addressedRes_eq, onBus]
      by_cases addressed : (bus state (.write deviceAddr [regAddr] false)).1.res = .ack ∧
          (bus state (.write deviceAddr [regAddr] false)).1.numBytesSent ≠ 0
      · rw [if_pos addressed, if_pos rfl, if_pos addressed]
        show (Result.regRead (readRes _) _, _) = _
        rw [readRes_eq]
      · rw [if_neg addressed, if_neg (by simp), if_neg addressed]
        rfl

variable {T : Type*} [DecidableEq T] {initial : B}
variable {shared : Shared T B Call BusOp BusResp Result}

/-- The calls of all tasks are those of one task that has the bus for itself: nothing comes
between the write and the read of a register, and no call waits for good. -/
theorem onBus_of_reachable
    (reachable : Reachable (nextShared bus function) (startShared initial) shared) :
    ∃ state, Sequential (onBus bus) initial shared.log state ∧
      (shared.lock.holder = none → shared.device = state) ∧
      (∀ task, shared.lock.holder = some task → ∃ made rest,
        shared.running task = some (made, rest) ∧
          (function made).Reaches bus state rest shared.device) ∧
      (∀ task, ∃ before after,
        Accounted shared.log task (shared.called task) before after (shared.returned task) ∧
          (shared.running task = none → before = none ∧ after = none)) ∧
      ∀ task, shared.running task ≠ none →
        ∃ other, (nextShared bus function shared (.run other)).isSome := by
  have same : calls bus function = onBus bus := by
    funext state call
    exact alone_function bus state call
  obtain ⟨state, atomic⟩ := atomic_of_reachable function_bracketed reachable
  refine ⟨state, ?_, atomic.free, atomic.held, atomic.accounted, ?_⟩
  · rw [← same]
    exact atomic.sequential
  · intro task isRunning
    exact runs_of_running function_bracketed reachable isRunning

end

/-- A device that remembers the register that was addressed, and reads its number. -/
def echoBus : Object UInt8 BusOp BusResp
  | _, .write _ buf _ => (⟨.ack, buf.length, []⟩, buf.headD 0)
  | register, .read _ n _ => (⟨.ack, 0, List.replicate n register⟩, register)
  | register, .stopBitSend => (⟨.ack, 0, []⟩, register)

/-- Two tasks read a register at the same time. -/
def twoReads : List (Label (Fin 2) Call) :=
  [.call 0 (.regRead 0x50 7), .call 1 (.regRead 0x50 9), .run 0, .run 0, .run 0, .run 0] ++
    List.replicate 5 (.run 0) ++ List.replicate 6 (.run 1)

theorem onBus_of_reachable_twoReads :
    ∃ shared state, run (nextShared echoBus function) (startShared 0) twoReads = some shared ∧
      shared.returned 0 = [.regRead .success [7]] ∧
      Sequential (onBus echoBus) 0 shared.log state := by
  have final : (run (nextShared echoBus function) (startShared 0) twoReads).map (fun shared =>
      decide (shared.returned 0 = [.regRead .success [7]])) = some true := by
    decide
  obtain ⟨shared, executed, holds⟩ := Option.map_eq_some_iff.mp final
  obtain ⟨state, sequential, -⟩ := onBus_of_reachable echoBus (reachable_of_run executed)
  exact ⟨shared, state, executed, of_decide_eq_true holds, sequential⟩

end FwkRtos.I2cMaster

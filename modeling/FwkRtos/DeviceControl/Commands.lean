import FwkRtos.DeviceControl.Core
import Mathlib.Data.Vector.Basic

/-!
# Commands

A command is handed to the servicer of its resource through the servicer's queue or,
where the servicer is on another tile, over the link to that tile and through a thread
there.  The answer comes back through the gateway queue or over the same link.  Both ways
come to one call of the servicer's callback.
-/

namespace FwkRtos.DeviceControl

variable {Queue Link App : Type}

/-- How the code ends when it does not return: an assertion fails, memory outside of a
buffer is accessed, a pointer that was never written is followed, or a queue that stays
empty is waited for. -/
inductive Fault
  | assertion
  | overrun
  | unwritten
  | waitsForever
  deriving DecidableEq, Repr

/-- The callbacks of a servicer, with its application data.  A read callback answers with
as many bytes as are requested. -/
structure Callbacks (App : Type) where
  readCmdCb : ControlResid → ControlCmd → (payloadLen : Nat) → App →
    ControlRet × List.Vector UInt8 payloadLen × App
  writeCmdCb : ControlResid → ControlCmd → List UInt8 → App → ControlRet × App

/-- One call of a callback, with what it was given and what it returned. -/
inductive Call (Queue Link : Type)
  | read (servicer : Slot Queue Link) (resid : ControlResid) (cmd : ControlCmd)
      (payloadLen : Nat) (ret : ControlRet) (answer : List UInt8)
  | write (servicer : Slot Queue Link) (resid : ControlResid) (cmd : ControlCmd)
      (payload : List UInt8) (ret : ControlRet)
  deriving DecidableEq

/-- A device control instance with its gateway queue, which holds one status, and the
application data of the servicers.  Ghost: the calls of the callbacks so far. -/
structure Device (Queue Link App : Type) where
  ctx : Context Queue Link
  gatewayQueue : Option ControlRet
  app : Slot Queue Link → App
  calls : List (Call Queue Link)

/-- What a function that is given a payload buffer leaves: its status, the buffer, how many
bytes of the buffer it accessed, and the device. -/
structure Outcome (Queue Link App : Type) where
  ret : ControlRet
  payload : List UInt8
  extent : Nat
  device : Device Queue Link App

/-! ## The two ways -/

/-- `cmd_to_servicer_t`, with the memory that its payload pointer points to. -/
structure CmdToServicer (Queue : Type) where
  queue : Queue
  payloadLen : Nat
  resid : ControlResid
  cmd : ControlCmd
  payload : List UInt8

/-- A command on its way to another tile: the structure, whose payload pointer means
nothing there, and the bytes that follow it. -/
structure CmdMessage (Queue : Type) where
  queue : Queue
  payloadLen : Nat
  resid : ControlResid
  cmd : ControlCmd
  data : List UInt8

/-- An answer on its way back: the status and the bytes that follow it. -/
structure RetMessage where
  ret : ControlRet
  data : List UInt8

/-- `sizeof(cmd_to_servicer_t)`. -/
def sizeofCmdToServicer : Nat := 20

/-- `sizeof(control_ret_t)`. -/
def sizeofControlRet : Nat := 4

def CmdMessage.length (message : CmdMessage Queue) : Nat :=
  sizeofCmdToServicer + message.data.length

def RetMessage.length (message : RetMessage) : Nat :=
  sizeofControlRet + message.data.length

/-- One round of `device_control_client_thread`: the command that it puts into the queue.
The new buffer for the answer of a read command holds anything; here it holds zeros. -/
def deviceControlClientThread (message : CmdMessage Queue) : Except Fault (CmdToServicer Queue) :=
  if isControlCmdRead message.cmd then
    if message.length = sizeofCmdToServicer ∧ 0 < message.payloadLen then
      .ok ⟨message.queue, message.payloadLen, message.resid, message.cmd,
        List.replicate message.payloadLen 0⟩
    else .error .assertion
  else if sizeofCmdToServicer ≤ message.length ∧
      message.payloadLen = message.length - sizeofCmdToServicer then
    .ok ⟨message.queue, message.payloadLen, message.resid, message.cmd, message.data⟩
  else .error .assertion

section
variable [DecidableEq Queue] [DecidableEq Link]
  (callbacks : Slot Queue Link → Callbacks App) (servicer : Slot Queue Link)

/-- The application data and the calls after a call of the read callback. -/
def Device.afterRead (device : Device Queue Link App) (resid : ControlResid) (cmd : ControlCmd)
    (payloadLen : Nat) : Device Queue Link App :=
  let result := (callbacks servicer).readCmdCb resid cmd payloadLen (device.app servicer)
  { device with
    app := Function.update device.app servicer result.2.2
    calls := device.calls ++
      [.read servicer resid cmd payloadLen result.1 result.2.1.toList] }

/-- The application data and the calls after a call of the write callback. -/
def Device.afterWrite (device : Device Queue Link App) (resid : ControlResid) (cmd : ControlCmd)
    (payload : List UInt8) : Device Queue Link App :=
  let result := (callbacks servicer).writeCmdCb resid cmd payload (device.app servicer)
  { device with
    app := Function.update device.app servicer result.2
    calls := device.calls ++ [.write servicer resid cmd payload result.1] }

/-- The first half of `device_control_servicer_cmd_recv`, where a callback is called on the
command's own buffer. -/
def callCallback (device : Device Queue Link App) (c : CmdToServicer Queue) :
    Except Fault (Outcome Queue Link App) :=
  if c.payload.length < c.payloadLen then .error .overrun
  else if isControlCmdRead c.cmd then
    let result := (callbacks servicer).readCmdCb c.resid c.cmd c.payloadLen (device.app servicer)
    .ok ⟨result.1, result.2.1.toList ++ c.payload.drop c.payloadLen, c.payloadLen,
      device.afterRead callbacks servicer c.resid c.cmd c.payloadLen⟩
  else
    let payload := c.payload.take c.payloadLen
    let result := (callbacks servicer).writeCmdCb c.resid c.cmd payload (device.app servicer)
    .ok ⟨result.1, c.payload, c.payloadLen,
      device.afterWrite callbacks servicer c.resid c.cmd payload⟩

/-- `device_control_servicer_cmd_recv` on the tile of the transport layer. -/
def servicerCmdRecvOnTile (device : Device Queue Link App) (c : CmdToServicer Queue) :
    Except Fault (Outcome Queue Link App) := do
  let outcome ← callCallback callbacks servicer device c
  if outcome.device.gatewayQueue = none then
    .ok { outcome with device := { outcome.device with gatewayQueue := some outcome.ret } }
  else .error .assertion

/-- `device_control_servicer_cmd_recv` on another tile: the answer that it sends. -/
def servicerCmdRecvOffTile (device : Device Queue Link App) (c : CmdToServicer Queue) :
    Except Fault (RetMessage × Device Queue Link App) := do
  let outcome ← callCallback callbacks servicer device c
  let data := if isControlCmdRead c.cmd then outcome.payload.take c.payloadLen else []
  .ok (⟨outcome.ret, data⟩, outcome.device)

/-- The branch of `do_command` for a servicer on the same tile. -/
def doCommandOnTile (device : Device Queue Link App) (resid : ControlResid) (cmd : ControlCmd)
    (payload : List UInt8) (payloadLen : Nat) : Except Fault (Outcome Queue Link App) := do
  let outcome ← servicerCmdRecvOnTile callbacks servicer device
    ⟨servicer.queue, payloadLen, resid, cmd, payload⟩
  match outcome.device.gatewayQueue with
  | none => .error .waitsForever
  | some ret =>
      .ok { outcome with ret := ret, device := { outcome.device with gatewayQueue := none } }

/-- What the branch of `do_command` for a servicer on another tile sends. -/
def sendCommand (resid : ControlResid) (cmd : ControlCmd) (payload : List UInt8)
    (payloadLen : Nat) : Except Fault (CmdMessage Queue) :=
  if isControlCmdRead cmd then .ok ⟨servicer.queue, payloadLen, resid, cmd, []⟩
  else if payload.length < payloadLen then .error .overrun
  else .ok ⟨servicer.queue, payloadLen, resid, cmd, payload.take payloadLen⟩

/-- What it does with the answer, which has the bytes of a status at least, so that the
branch for a shorter one is not taken. -/
def receiveAnswer (device : Device Queue Link App) (cmd : ControlCmd) (payload : List UInt8)
    (payloadLen : Nat) (message : RetMessage) : Except Fault (Outcome Queue Link App) :=
  if isControlCmdRead cmd then
    if payloadLen ≠ message.length - sizeofControlRet then .error .assertion
    else if payload.length < payloadLen then .error .overrun
    else .ok ⟨message.ret, message.data ++ payload.drop payloadLen, payloadLen, device⟩
  else if message.length ≠ sizeofControlRet then .error .assertion
  else .ok ⟨message.ret, payload, payloadLen, device⟩

/-- The branch of `do_command` for a servicer on another tile. -/
def doCommandOffTile (device : Device Queue Link App) (resid : ControlResid) (cmd : ControlCmd)
    (payload : List UInt8) (payloadLen : Nat) : Except Fault (Outcome Queue Link App) := do
  let message ← sendCommand servicer resid cmd payload payloadLen
  let c ← deviceControlClientThread message
  let (answer, device) ← servicerCmdRecvOffTile callbacks servicer device c
  receiveAnswer device cmd payload payloadLen answer

end

/-! ## One command -/

/-- `CONTROL_VERSION`. -/
def controlVersion : UInt8 := 0x10

/-- `CONTROL_GET_VERSION`. -/
def controlGetVersion : ControlCmd := 0x80

/-- `CONTROL_GET_LAST_COMMAND_STATUS`. -/
def controlGetLastCommandStatus : ControlCmd := 0x81

/-- One byte is stored at the beginning of a buffer. -/
def storeByte (byte : UInt8) : List UInt8 → Except Fault (List UInt8)
  | [] => .error .overrun
  | _ :: rest => .ok (byte :: rest)

/-- The byte that `special_read_command` stores, if it stores one. -/
def specialByte (ctx : Context Queue Link) (cmd : ControlCmd) (payloadLen : Nat) : Option UInt8 :=
  if cmd = controlGetVersion then
    if payloadLen ≠ 1 then none else some controlVersion
  else if cmd = controlGetLastCommandStatus then
    if payloadLen ≠ 1 then none else some ctx.lastStatus
  else none

/-- `special_read_command`. -/
def specialReadCommand (device : Device Queue Link App) (cmd : ControlCmd)
    (payload : List UInt8) (payloadLen : Nat) : Except Fault (Outcome Queue Link App) :=
  match specialByte device.ctx cmd payloadLen with
  | none => .ok ⟨.badCommand, payload, 0, device⟩
  | some byte => do
      let payload ← storeByte byte payload
      .ok ⟨.success, payload, 1, device⟩

section
variable [DecidableEq Queue] [DecidableEq Link] (callbacks : Slot Queue Link → Callbacks App)

/-- `do_command`. -/
def doCommand (device : Device Queue Link App) (servicer : UInt8) (resid : ControlResid)
    (cmd : ControlCmd) (payload : List UInt8) (payloadLen : Nat) :
    Except Fault (Outcome Queue Link App) :=
  if resid = controlSpecialResid then
    if isControlCmdRead cmd then specialReadCommand device cmd payload payloadLen
    else .ok ⟨.badCommand, payload, 0, device⟩
  else
    match device.ctx.servicerTable servicer.toNat with
    | none => .error .unwritten
    | some slot =>
        match slot.intertileCtx with
        | none => doCommandOnTile callbacks slot device resid cmd payload payloadLen
        | some _ => doCommandOffTile callbacks slot device resid cmd payload payloadLen

/-- `device_control_request`: the status and the instance. -/
def deviceControlRequest (ctx : Context Queue Link) (resid : ControlResid) (cmd : ControlCmd)
    (payloadLen : Nat) : ControlRet × Context Queue Link :=
  if (resourceTableSearch ctx.resourceTable resid).1 = 0 then
    (.success,
      { ctx with requestedResid := resid, requestedCmd := cmd, requestedPayloadLen := payloadLen })
  else (.badCommand, { ctx with requestedResid := resid })

/-- `control_direction_t`. -/
inductive ControlDirection
  | hostToDevice
  | deviceToHost
  deriving DecidableEq, Repr

/-- `last_status` is written. -/
def Device.setLastStatus (device : Device Queue Link App) (status : ControlRet) :
    Device Queue Link App :=
  { device with ctx := { device.ctx with lastStatus := status.toUInt8 } }

/-- The status of the last command is stored in the payload. -/
def Device.answerLastStatus (device : Device Queue Link App) (payload : List UInt8) :
    Except Fault (Outcome Queue Link App) := do
  let payload ← storeByte device.ctx.lastStatus payload
  .ok ⟨.success, payload, 1, device⟩

/-- `device_control_payload_transfer`.  It returns `CONTROL_SUCCESS` always, and never
writes the size of the buffer back. -/
def deviceControlPayloadTransfer (device : Device Queue Link App) (payloadBuf : List UInt8)
    (bufSize : Nat) (direction : ControlDirection) : Except Fault (Outcome Queue Link App) :=
  let payloadLen := device.ctx.requestedPayloadLen
  let resid := device.ctx.requestedResid
  let cmd := device.ctx.requestedCmd
  let (found, servicer) := resourceTableSearch device.ctx.resourceTable resid
  if found = 0 then
    match direction with
    | .hostToDevice =>
        if isControlCmdRead cmd then
          .ok ⟨.success, payloadBuf, 0, device.setLastStatus .success⟩
        else if payloadLen ≤ bufSize then do
          let outcome ← doCommand callbacks device servicer resid cmd payloadBuf payloadLen
          .ok { outcome with
            ret := .success, device := outcome.device.setLastStatus outcome.ret }
        else .ok ⟨.success, payloadBuf, 0, device.setLastStatus .dataLengthError⟩
    | .deviceToHost =>
        if isControlCmdRead cmd then do
          let outcome ← doCommand callbacks device servicer resid cmd payloadBuf payloadLen
          .ok { outcome with ret := .success }
        else device.answerLastStatus payloadBuf
  else
    match direction with
    | .hostToDevice => .ok ⟨.success, payloadBuf, 0, device.setLastStatus .badResource⟩
    | .deviceToHost => (device.setLastStatus .badResource).answerLastStatus payloadBuf

end

/-! ## Both ways come to one call -/

section
variable [DecidableEq Queue] [DecidableEq Link] (callbacks : Slot Queue Link → Callbacks App)
  (servicer : Slot Queue Link) (device : Device Queue Link App) (resid : ControlResid)
  (cmd : ControlCmd) (payload : List UInt8) (payloadLen : Nat)

/-- The callback called directly on the buffer. -/
def directCall : Outcome Queue Link App :=
  if isControlCmdRead cmd then
    let result := (callbacks servicer).readCmdCb resid cmd payloadLen (device.app servicer)
    ⟨result.1, result.2.1.toList ++ payload.drop payloadLen, payloadLen,
      device.afterRead callbacks servicer resid cmd payloadLen⟩
  else
    let result := (callbacks servicer).writeCmdCb resid cmd (payload.take payloadLen)
      (device.app servicer)
    ⟨result.1, payload, payloadLen,
      device.afterWrite callbacks servicer resid cmd (payload.take payloadLen)⟩

/-- The thread on the servicer's tile has no buffer for a read command that asks for
nothing. -/
def Slot.Accepts (slot : Slot Queue Link) (cmd : ControlCmd) (payloadLen : Nat) : Prop :=
  slot.intertileCtx.isSome → isControlCmdRead cmd → 0 < payloadLen

instance : Decidable (servicer.Accepts cmd payloadLen) :=
  inferInstanceAs (Decidable (_ → _ → _))

variable {callbacks servicer device resid cmd payload payloadLen}

theorem callCallback_eq {c : CmdToServicer Queue} (fits : c.payloadLen ≤ c.payload.length) :
    callCallback callbacks servicer device c =
      .ok (directCall callbacks servicer device c.resid c.cmd c.payload c.payloadLen) := by
  unfold callCallback directCall
  rw [if_neg (Nat.not_lt.mpr fits)]
  by_cases isRead : isControlCmdRead c.cmd = true <;> simp [isRead]

@[simp]
theorem directCall_ctx :
    (directCall callbacks servicer device resid cmd payload payloadLen).device.ctx =
      device.ctx := by
  unfold directCall
  split <;> rfl

@[simp]
theorem directCall_gatewayQueue :
    (directCall callbacks servicer device resid cmd payload payloadLen).device.gatewayQueue =
      device.gatewayQueue := by
  unfold directCall
  split <;> rfl

@[simp]
theorem directCall_extent :
    (directCall callbacks servicer device resid cmd payload payloadLen).extent = payloadLen := by
  unfold directCall
  split <;> rfl

theorem doCommandOnTile_eq (empty : device.gatewayQueue = none)
    (fits : payloadLen ≤ payload.length) :
    doCommandOnTile callbacks servicer device resid cmd payload payloadLen =
      .ok (directCall callbacks servicer device resid cmd payload payloadLen) := by
  have recv : servicerCmdRecvOnTile callbacks servicer device
      ⟨servicer.queue, payloadLen, resid, cmd, payload⟩ =
        .ok { directCall callbacks servicer device resid cmd payload payloadLen with
          device :=
            { (directCall callbacks servicer device resid cmd payload payloadLen).device with
              gatewayQueue := some
                (directCall callbacks servicer device resid cmd payload payloadLen).ret } } := by
    unfold servicerCmdRecvOnTile
    rw [callCallback_eq fits]
    exact if_pos (directCall_gatewayQueue.trans empty)
  have again : { (directCall callbacks servicer device resid cmd payload payloadLen).device with
      gatewayQueue := none } =
        (directCall callbacks servicer device resid cmd payload payloadLen).device := by
    rw [← directCall_gatewayQueue.trans empty]
  unfold doCommandOnTile
  rw [recv]
  exact congrArg (fun rest => Except.ok { directCall callbacks servicer device resid cmd payload
    payloadLen with device := rest }) again

/-- A read command arrives without payload, and is answered with a whole one. -/
theorem doCommandOffTile_read (isRead : isControlCmdRead cmd = true) (positive : 0 < payloadLen)
    (fits : payloadLen ≤ payload.length) :
    doCommandOffTile callbacks servicer device resid cmd payload payloadLen =
      .ok (directCall callbacks servicer device resid cmd payload payloadLen) := by
  have received : deviceControlClientThread
      (⟨servicer.queue, payloadLen, resid, cmd, []⟩ : CmdMessage Queue) =
        .ok ⟨servicer.queue, payloadLen, resid, cmd, List.replicate payloadLen 0⟩ := by
    simp [deviceControlClientThread, isRead, positive, CmdMessage.length]
  have called := @callCallback_eq _ _ _ _ _ callbacks servicer device
    ⟨servicer.queue, payloadLen, resid, cmd, List.replicate payloadLen 0⟩ (by simp)
  unfold doCommandOffTile sendCommand servicerCmdRecvOffTile receiveAnswer
  simp [received, called, directCall, isRead, RetMessage.length, Nat.not_lt.mpr fits, bind,
    Except.bind]

/-- A write command arrives with its payload, and is answered with a status. -/
theorem doCommandOffTile_write (isWrite : isControlCmdRead cmd = false)
    (fits : payloadLen ≤ payload.length) :
    doCommandOffTile callbacks servicer device resid cmd payload payloadLen =
      .ok (directCall callbacks servicer device resid cmd payload payloadLen) := by
  have received : deviceControlClientThread
      (⟨servicer.queue, payloadLen, resid, cmd, payload.take payloadLen⟩ : CmdMessage Queue) =
        .ok ⟨servicer.queue, payloadLen, resid, cmd, payload.take payloadLen⟩ := by
    simp [deviceControlClientThread, isWrite, CmdMessage.length, Nat.min_eq_left fits]
  have called := @callCallback_eq _ _ _ _ _ callbacks servicer device
    ⟨servicer.queue, payloadLen, resid, cmd, payload.take payloadLen⟩ (by simp [fits])
  unfold doCommandOffTile sendCommand servicerCmdRecvOffTile receiveAnswer
  simp [received, called, directCall, isWrite, RetMessage.length, Nat.not_lt.mpr fits, bind,
    Except.bind, List.take_take]

/-- The thread on the other tile checks that a read command asks for something. -/
theorem doCommandOffTile_nothing (isRead : isControlCmdRead cmd = true) :
    doCommandOffTile callbacks servicer device resid cmd payload 0 = .error .assertion := by
  unfold doCommandOffTile sendCommand
  simp [isRead, deviceControlClientThread, bind, Except.bind]

/-- A command for a registered resource comes to one call of its servicer's callback. -/
theorem doCommand_eq {number : UInt8} (ordinary : resid ≠ controlSpecialResid)
    (routed : device.ctx.servicerTable number.toNat = some servicer)
    (empty : device.gatewayQueue = none) (fits : payloadLen ≤ payload.length)
    (accepts : servicer.Accepts cmd payloadLen) :
    doCommand callbacks device number resid cmd payload payloadLen =
      .ok (directCall callbacks servicer device resid cmd payload payloadLen) := by
  unfold doCommand
  rw [if_neg ordinary, routed]
  cases link : servicer.intertileCtx with
  | none =>
      simp only [link]
      exact doCommandOnTile_eq empty fits
  | some tile =>
      simp only [link]
      cases isRead : isControlCmdRead cmd with
      | false => exact doCommandOffTile_write isRead fits
      | true => exact doCommandOffTile_read isRead (accepts (by simp [link]) isRead) fits

/-- An answer that is longer than the buffer overruns it, on either way. -/
theorem doCommand_overrun {number : UInt8} (ordinary : resid ≠ controlSpecialResid)
    (routed : device.ctx.servicerTable number.toNat = some servicer)
    (isRead : isControlCmdRead cmd = true) (long : payload.length < payloadLen) :
    doCommand callbacks device number resid cmd payload payloadLen = .error .overrun := by
  unfold doCommand
  rw [if_neg ordinary, routed]
  cases link : servicer.intertileCtx with
  | none =>
      simp [link, doCommandOnTile, servicerCmdRecvOnTile, callCallback, long, bind, Except.bind]
  | some tile =>
      have received : deviceControlClientThread
          (⟨servicer.queue, payloadLen, resid, cmd, []⟩ : CmdMessage Queue) =
            .ok ⟨servicer.queue, payloadLen, resid, cmd, List.replicate payloadLen 0⟩ := by
        simp [deviceControlClientThread, isRead, Nat.zero_lt_of_lt long, CmdMessage.length]
      have called := @callCallback_eq _ _ _ _ _ callbacks servicer device
        ⟨servicer.queue, payloadLen, resid, cmd, List.replicate payloadLen 0⟩ (by simp)
      simp only [link]
      unfold doCommandOffTile sendCommand servicerCmdRecvOffTile receiveAnswer
      simp [received, called, directCall, isRead, RetMessage.length, long, bind, Except.bind]

/-- The one command that a registered resource does not take. -/
theorem doCommand_not_accepted {number : UInt8} (ordinary : resid ≠ controlSpecialResid)
    (routed : device.ctx.servicerTable number.toNat = some servicer)
    (refuses : ¬ servicer.Accepts cmd payloadLen) :
    doCommand callbacks device number resid cmd payload payloadLen = .error .assertion := by
  simp only [Slot.Accepts, Classical.not_imp, Nat.not_lt, Nat.le_zero] at refuses
  rcases refuses with ⟨isOffTile, isRead, rfl⟩
  rcases Option.isSome_iff_exists.mp isOffTile with ⟨tile, link⟩
  unfold doCommand
  rw [if_neg ordinary, routed]
  simp only [link]
  exact doCommandOffTile_nothing isRead

end

end FwkRtos.DeviceControl

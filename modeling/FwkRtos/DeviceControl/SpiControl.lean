import FwkRtos.DeviceControl.I2cControl
import FwkRtos.Transition.Labelled

/-!
# Control over SPI

Every transfer goes both ways.  While the device has not yet handled the last transfer, the
host meets the default buffers, whose first byte tells it that its transfer was ignored, and
it repeats the transfer until it meets the other ones: first with the command, then with
zeros, for the status or the answer.
-/

namespace FwkRtos.DeviceControl

open FwkRtos.Transition

variable {Queue Link App : Type}

/-! ## The device -/

/-- `SPI_XFER_RX_SIZE` and `SPI_XFER_TX_SIZE`. -/
def spiXferSize : Nat := 256

/-- `spi_xfer_rx_buf` and `spi_xfer_tx_buf`; whether they are prepared for the next transfer;
the length of a transfer that is not yet handled; and the device control instance. -/
structure SpiDevice (Queue Link App : Type) where
  rxBuf : List UInt8
  txBuf : List UInt8
  userDataReady : Bool
  xferDone : Option Nat
  device : Device Queue Link App

/-- What the host gets from the default buffers: `CONTROL_COMMAND_IGNORED_IN_DEVICE`, and
zeros. -/
def spiXferTxDefaultBuf : List UInt8 :=
  ControlRet.commandIgnoredInDevice.toUInt8 :: List.replicate (spiXferSize - 1) 0

/-- One transfer: what the host gets, and the device.  What goes to the default buffers is
not reported.  An empty transfer is not reported either, but if the host selects the device
for it, the prepared buffers are gone. -/
def SpiDevice.transfer (spi : SpiDevice Queue Link App) (selected : Bool) (bytes : List UInt8) :
    List UInt8 × SpiDevice Queue Link App :=
  if bytes = [] then
    ([], if selected then { spi with userDataReady := false } else spi)
  else if spi.userDataReady then
    (spi.txBuf.take bytes.length,
      { spi with
        rxBuf := bytes ++ spi.rxBuf.drop bytes.length
        userDataReady := false
        xferDone := some bytes.length })
  else (spiXferTxDefaultBuf.take bytes.length, spi)

section
variable [DecidableEq Queue] [DecidableEq Link] (callbacks : Slot Queue Link → Callbacks App)

/-- `device_control_payload_transfer_bidir`; the payload of the outcome is `tx_buf`. -/
def deviceControlPayloadTransferBidir (device : Device Queue Link App)
    (rxBuf : List UInt8) (rxSize : Nat) (txBuf : List UInt8) :
    Except Fault (Outcome Queue Link App) :=
  let payloadLen := device.ctx.requestedPayloadLen
  let resid := device.ctx.requestedResid
  let cmd := device.ctx.requestedCmd
  let (found, servicer) := resourceTableSearch device.ctx.resourceTable resid
  if found = 0 then
    if isControlCmdRead cmd then do
      let outcome ← doCommand callbacks device servicer resid cmd txBuf payloadLen
      .ok { outcome with device := outcome.device.setLastStatus outcome.ret }
    else if rxSize < payloadLen then do
      let txBuf ← storeByte ControlRet.dataLengthError.toUInt8 txBuf
      .ok ⟨.dataLengthError, txBuf, 1, device.setLastStatus .dataLengthError⟩
    else do
      let outcome ← doCommand callbacks device servicer resid cmd rxBuf payloadLen
      let txBuf ← storeByte outcome.ret.toUInt8 txBuf
      .ok ⟨outcome.ret, txBuf, 1, outcome.device.setLastStatus outcome.ret⟩
  else do
    let txBuf ← storeByte ControlRet.badResource.toUInt8 txBuf
    .ok ⟨.badResource, txBuf, 1, device.setLastStatus .badResource⟩

/-- `device_control_spi_xfer_done_cb` for a transfer in the prepared buffers.  Bytes after
those that were received are those of earlier transfers. -/
def deviceControlSpiXferDoneCb (spi : SpiDevice Queue Link App) (rxLen : Nat) :
    Except Fault (SpiDevice Queue Link App) := do
  let txBuf ←
    if rxLen < 3 then storeByte ControlRet.malformedPacket.toUInt8 spi.txBuf else .ok spi.txBuf
  match spi.rxBuf with
  | resid :: cmd :: payloadLen :: payload =>
      if (resid = 0 ∧ cmd = 0 ∧ payloadLen = 0) ∨ rxLen < 3 then
        .ok { spi with txBuf := txBuf, userDataReady := true, xferDone := none }
      else do
        let ctx := (deviceControlRequest spi.device.ctx resid cmd payloadLen.toNat).2
        let outcome ← deviceControlPayloadTransferBidir callbacks
          { spi.device with ctx := ctx } payload (rxLen - 3) txBuf
        .ok { spi with
          txBuf := outcome.payload, userDataReady := true, xferDone := none,
          device := outcome.device }
  | _ => .error .overrun

end

/-! ## The host -/

/-- `control_build_spi_data`. -/
def controlBuildSpiData : HostCommand → List UInt8
  | .write resid cmd payload | .read resid cmd payload =>
      resid :: cmd :: UInt8.ofNat payload.length ::
        if isControlCmdRead cmd then List.replicate 5 0 else payload

/-- `payload_len`. -/
def HostCommand.payloadLen : HostCommand → Nat
  | .write _ _ payload => payload.length
  | .read _ _ payload => payload.length

/-- The two loops of `control_write_command` and `control_read_command`. -/
inductive HostPoint
  | sending
  | polling
  deriving DecidableEq

/-- The host and the device.  The host has commands to do, the first of which it is at, and
what the others returned: a status, or a payload. -/
structure SpiSystem (Queue Link App : Type) where
  point : HostPoint
  todo : List HostCommand
  replies : List (List UInt8)
  spi : SpiDevice Queue Link App

/-- What a command returns when these bytes are received in its second loop. -/
def HostCommand.reply (received : List UInt8) : HostCommand → List UInt8
  | .write _ _ _ => [received.headD 0]
  | .read _ _ _ => received

/-- The host makes its next transfer, or the device handles the last one. -/
inductive SpiLabel
  | transfer (selected : Bool)
  | process
  deriving DecidableEq

/-- The next transfer of the first command, and what the host makes of the first byte. -/
def SpiSystem.transfer (system : SpiSystem Queue Link App) (selected : Bool)
    (command : HostCommand) (rest : List HostCommand) : SpiSystem Queue Link App :=
  match system.point with
  | .sending =>
      let (received, spi) := system.spi.transfer selected (controlBuildSpiData command)
      if received.headD 0 = ControlRet.commandIgnoredInDevice.toUInt8 then
        { system with spi := spi }
      else { system with point := .polling, spi := spi }
  | .polling =>
      let (received, spi) := system.spi.transfer selected (List.replicate command.payloadLen 0)
      if received.headD 0 = ControlRet.commandIgnoredInDevice.toUInt8 then
        { system with spi := spi }
      else
        { point := .sending, todo := rest, replies := system.replies ++ [command.reply received],
          spi := spi }

section
variable [DecidableEq Queue] [DecidableEq Link] (callbacks : Slot Queue Link → Callbacks App)

/-- One step. -/
def spiNext : LStep (SpiSystem Queue Link App) SpiLabel
  | system, .transfer selected =>
      match system.todo with
      | [] => none
      | command :: rest => some (system.transfer selected command rest)
  | system, .process =>
      match system.spi.xferDone with
      | none => none
      | some rxLen =>
          match deviceControlSpiXferDoneCb callbacks system.spi rxLen with
          | .error _ => none
          | .ok spi => some { system with spi := spi }

/-- After `device_control_spi_start_cb`. -/
def spiStart (device : Device Queue Link App) (commands : List HostCommand) :
    SpiSystem Queue Link App where
  point := .sending
  todo := commands
  replies := []
  spi :=
    { rxBuf := List.replicate spiXferSize 0
      txBuf := List.replicate spiXferSize 0
      userDataReady := true
      xferDone := none
      device := device }

/-! ## What the commands have to come to -/

/-- One command by itself: the call of its servicer's callback, what the host returns, and
the application data. -/
def HostCommand.serve (ctx : Context Queue Link) (app : Slot Queue Link → App)
    (command : HostCommand) :
    List (Call Queue Link) × List UInt8 × (Slot Queue Link → App) :=
  match ctx.servicerOf command.resid with
  | none => ([], [ControlRet.badResource.toUInt8], app)
  | some servicer =>
      match command with
      | .write resid cmd payload =>
          let result := (callbacks servicer).writeCmdCb resid cmd payload (app servicer)
          ([.write servicer resid cmd payload result.1], [result.1.toUInt8],
            Function.update app servicer result.2)
      | .read resid cmd payload =>
          let result := (callbacks servicer).readCmdCb resid cmd payload.length (app servicer)
          ([.read servicer resid cmd payload.length result.1 result.2.1.toList],
            result.2.1.toList, Function.update app servicer result.2.2)

/-- The commands one by one: all calls, all that the host returns, and the application
data. -/
def serveAll (ctx : Context Queue Link) :
    List HostCommand → (Slot Queue Link → App) →
      List (Call Queue Link) × List (List UInt8) × (Slot Queue Link → App)
  | [], app => ([], [], app)
  | command :: rest, app =>
      let (calls, reply, app) := command.serve callbacks ctx app
      let (restCalls, replies, app) := serveAll ctx rest app
      (calls ++ restCalls, reply :: replies, app)

/-- The commands that the host is done with were executed once each, in order, and returned
their own status or payload; the one that it is at was executed once or not yet. -/
def ExecutedInOrder (ctx : Context Queue Link) (app : Slot Queue Link → App)
    (commands : List HostCommand) (system : SpiSystem Queue Link App) : Prop :=
  ∃ completed, commands = completed ++ system.todo ∧
    system.replies = (serveAll callbacks ctx completed app).2.1 ∧
    (system.spi.device.calls = (serveAll callbacks ctx completed app).1 ∨
      ∃ current rest, system.todo = current :: rest ∧
        system.spi.device.calls = (serveAll callbacks ctx (completed ++ [current]) app).1)

/-- The host calls are for commands of their own kind, for ordinary resources, and with
payloads that fit a packet; a read command is for a registered resource, and its answer does
not begin with the byte that marks an ignored transfer. -/
def HostCommand.SpiProper (ctx : Context Queue Link) (app : Slot Queue Link → App)
    (command : HostCommand) : Prop :=
  command.resid ≠ controlSpecialResid ∧ command.payloadLen ≤ 253 ∧
    match command with
    | .write _ cmd _ => isControlCmdRead cmd = false
    | .read resid cmd payload => isControlCmdRead cmd = true ∧
        (ctx.servicerOf resid).isSome = true ∧
        (payload ≠ [] → ((HostCommand.read resid cmd payload).serve callbacks ctx app).2.1.headD 0 ≠
          ControlRet.commandIgnoredInDevice.toUInt8)

/-- The second loop makes a transfer, and the status of a write command does not say that
the transfer was ignored. -/
def HostCommand.SpiSound (ctx : Context Queue Link) (app : Slot Queue Link → App)
    (command : HostCommand) : Prop :=
  0 < command.payloadLen ∧
    match command with
    | .write _ _ _ => (command.serve callbacks ctx app).2.1 ≠
        [ControlRet.commandIgnoredInDevice.toUInt8]
    | .read _ _ _ => True

/-- Every command has the property where it is executed. -/
def EachCommand (ctx : Context Queue Link)
    (holds : (Slot Queue Link → App) → HostCommand → Prop) :
    List HostCommand → (Slot Queue Link → App) → Prop
  | [], _ => True
  | command :: rest, app =>
      holds app command ∧ EachCommand ctx holds rest (command.serve callbacks ctx app).2.2

/-- Where a command is, and where it is when the next transfer takes it on. -/
def SpiSystem.next (system : SpiSystem Queue Link App) : HostPoint × List HostCommand :=
  match system.point with
  | .sending => (.polling, system.todo)
  | .polling => (.sending, system.todo.tail)

/-- The last transfer can be handled if it is not handled yet, and then the device is
prepared; when it is, the next transfer takes the host on. -/
def GoesOn (system : SpiSystem Queue Link App) : Prop :=
  (system.spi.userDataReady = false → ∃ target, spiNext callbacks system .process = some target ∧
    target.spi.userDataReady = true) ∧
  (system.spi.userDataReady = true → ∀ selected target,
    spiNext callbacks system (.transfer selected) = some target →
      (target.point, target.todo) = system.next)

/-! ## The commands one by one -/

variable {callbacks} {state : Registering Queue Link} {ctx : Context Queue Link}
  {app : Slot Queue Link → App}

theorem serveAll_concat (completed : List HostCommand) (command : HostCommand) :
    serveAll callbacks ctx (completed ++ [command]) app =
      let before := serveAll callbacks ctx completed app
      let last := command.serve callbacks ctx before.2.2
      (before.1 ++ last.1, before.2.1 ++ [last.2.1], last.2.2) := by
  induction completed generalizing app with
  | nil => simp [serveAll]
  | cons first rest ih => simp [serveAll, ih]

/-- A property of each command holds of one of them where the ones before it lead. -/
theorem EachCommand.at {holds : (Slot Queue Link → App) → HostCommand → Prop}
    {completed rest : List HostCommand} {command : HostCommand}
    (each : EachCommand callbacks ctx holds (completed ++ command :: rest) app) :
    holds (serveAll callbacks ctx completed app).2.2 command := by
  induction completed generalizing app with
  | nil => exact each.1
  | cons first earlier ih => exact ih each.2

theorem EachCommand.and {first second : (Slot Queue Link → App) → HostCommand → Prop}
    {commands : List HostCommand} (each : EachCommand callbacks ctx first commands app)
    (other : EachCommand callbacks ctx second commands app) :
    EachCommand callbacks ctx (fun app command => first app command ∧ second app command)
      commands app := by
  induction commands generalizing app with
  | nil => trivial
  | cons command rest ih => exact ⟨⟨each.1, other.1⟩, ih each.2 other.2⟩

/-! ## The device handles a transfer -/

/-- The tables are as the registration left them, and the buffers have their sizes. -/
structure SpiDevice.Stands (spi : SpiDevice Queue Link App) (state : Registering Queue Link) :
    Prop where
  follows : spi.device.Follows state
  rxLength : spi.rxBuf.length = spiXferSize
  txLength : spi.txBuf.length = spiXferSize

omit [DecidableEq Queue] [DecidableEq Link] in
theorem SpiDevice.Stands.txBuf_eq {spi : SpiDevice Queue Link App} (stands : spi.Stands state) :
    ∃ first rest, spi.txBuf = first :: rest := by
  cases buffer : spi.txBuf with
  | nil =>
      have length := stands.txLength
      rw [buffer] at length
      cases length
  | cons first rest => exact ⟨first, rest, rfl⟩

omit [DecidableEq Queue] [DecidableEq Link] in
theorem SpiDevice.Stands.rxBuf_eq {spi : SpiDevice Queue Link App} (stands : spi.Stands state) :
    ∃ resid cmd payloadLen payload, spi.rxBuf = resid :: cmd :: payloadLen :: payload := by
  have length := stands.rxLength
  rcases buffer : spi.rxBuf with _ | ⟨resid, _ | ⟨cmd, _ | ⟨payloadLen, payload⟩⟩⟩
  case cons.cons.cons => exact ⟨resid, cmd, payloadLen, payload, rfl⟩
  all_goals simp [buffer, spiXferSize] at length

variable {spi : SpiDevice Queue Link App} {device : Device Queue Link App}
  {command : HostCommand} {servicer : Slot Queue Link} {rxBuf txBuf : List UInt8}
  {rxSize : Nat}

/-- A write command that arrived with its whole payload is executed. -/
theorem bidir_write (follows : device.Follows state) (all : AllRegistered state)
    (lists : state.Lists servicer device.ctx.requestedResid)
    (isWrite : isControlCmdRead device.ctx.requestedCmd = false)
    (whole : device.ctx.requestedPayloadLen ≤ rxSize) (inside : rxSize ≤ rxBuf.length)
    (first : UInt8) (rest : List UInt8) :
    let called := directCall callbacks servicer device device.ctx.requestedResid
      device.ctx.requestedCmd rxBuf device.ctx.requestedPayloadLen
    deviceControlPayloadTransferBidir callbacks device rxBuf rxSize (first :: rest) =
      .ok ⟨called.ret, called.ret.toUInt8 :: rest, 1, called.device.setLastStatus called.ret⟩ := by
  intro called
  rcases follows.routed all lists with ⟨ordinary, found, stored⟩
  have executed : doCommand callbacks device
      (state.ctx.resourceTable device.ctx.requestedResid) device.ctx.requestedResid
      device.ctx.requestedCmd rxBuf device.ctx.requestedPayloadLen = .ok called :=
    doCommand_eq ordinary stored follows.gatewayQueue (whole.trans inside)
      (fun _ isRead => by simp [isWrite] at isRead)
  simp only [deviceControlPayloadTransferBidir, found, if_true, isWrite, Bool.false_eq_true,
    if_false, if_neg (Nat.not_lt.mpr whole), executed]
  rfl

/-- A read command is executed on the buffer for the answer. -/
theorem bidir_read (follows : device.Follows state) (all : AllRegistered state)
    (lists : state.Lists servicer device.ctx.requestedResid)
    (isRead : isControlCmdRead device.ctx.requestedCmd = true)
    (fits : device.ctx.requestedPayloadLen ≤ txBuf.length)
    (positive : 0 < device.ctx.requestedPayloadLen) :
    let called := directCall callbacks servicer device device.ctx.requestedResid
      device.ctx.requestedCmd txBuf device.ctx.requestedPayloadLen
    deviceControlPayloadTransferBidir callbacks device rxBuf rxSize txBuf =
      .ok { called with device := called.device.setLastStatus called.ret } := by
  intro called
  rcases follows.routed all lists with ⟨ordinary, found, stored⟩
  have executed : doCommand callbacks device
      (state.ctx.resourceTable device.ctx.requestedResid) device.ctx.requestedResid
      device.ctx.requestedCmd txBuf device.ctx.requestedPayloadLen = .ok called :=
    doCommand_eq ordinary stored follows.gatewayQueue fits fun _ _ => positive
  simp only [deviceControlPayloadTransferBidir, found, if_true, isRead, executed]
  rfl

/-- A command for a free ID is rejected. -/
theorem bidir_unknown (follows : device.Follows state)
    (ordinary : device.ctx.requestedResid ≠ controlSpecialResid)
    (free : state.ctx.resourceTable device.ctx.requestedResid = noServicer)
    (first : UInt8) (rest : List UInt8) :
    deviceControlPayloadTransferBidir callbacks device rxBuf rxSize (first :: rest) =
      .ok ⟨.badResource, ControlRet.badResource.toUInt8 :: rest, 1,
        device.setLastStatus .badResource⟩ := by
  simp only [deviceControlPayloadTransferBidir, follows.notFound ordinary free, Nat.one_ne_zero,
    if_false]
  rfl

/-- The device after a command: it is prepared, the command is executed, and the buffer holds
what the command returns. -/
structure SpiDevice.After (after spi : SpiDevice Queue Link App)
    (callbacks : Slot Queue Link → Callbacks App) (state : Registering Queue Link)
    (command : HostCommand) : Prop where
  stands : after.Stands state
  ready : after.userDataReady = true
  handled : after.xferDone = none
  calls : after.device.calls =
    spi.device.calls ++ (command.serve callbacks state.ctx spi.device.app).1
  app : after.device.app = (command.serve callbacks state.ctx spi.device.app).2.2
  reply : command.reply (after.txBuf.take command.payloadLen) =
    (command.serve callbacks state.ctx spi.device.app).2.1

/-- A packet of three bytes or more that does not begin with three zeros is handed to the
device control instance. -/
theorem xferDone_packet {rxLen : Nat} {resid : ControlResid} {cmd : ControlCmd}
    {payloadLen : UInt8} {payload : List UInt8}
    (received : spi.rxBuf = resid :: cmd :: payloadLen :: payload)
    (ordinary : resid ≠ controlSpecialResid) (long : 3 ≤ rxLen)
    {outcome : Outcome Queue Link App}
    (transferred : deviceControlPayloadTransferBidir callbacks
      { spi.device with
        ctx := (deviceControlRequest spi.device.ctx resid cmd payloadLen.toNat).2 }
      payload (rxLen - 3) spi.txBuf = .ok outcome) :
    deviceControlSpiXferDoneCb callbacks spi rxLen =
      .ok { spi with
        txBuf := outcome.payload, userDataReady := true, xferDone := none,
        device := outcome.device } := by
  have notNop : ¬ ((resid = 0 ∧ cmd = 0 ∧ payloadLen = 0) ∨ rxLen < 3) := by
    rintro (zeros | short)
    · exact ordinary zeros.1
    · exact absurd long (Nat.not_le.mpr short)
  unfold deviceControlSpiXferDoneCb
  simp only [received, if_neg (Nat.not_lt.mpr long), if_neg notNop, bind, Except.bind, transferred]

/-- A packet that is too short or begins with three zeros changes no more than the first byte
of the other buffer. -/
theorem xferDone_nop {rxLen : Nat} {resid cmd payloadLen : UInt8} {payload : List UInt8}
    (received : spi.rxBuf = resid :: cmd :: payloadLen :: payload)
    (harmless : (resid = 0 ∧ cmd = 0 ∧ payloadLen = 0) ∨ rxLen < 3) {first : UInt8}
    {rest : List UInt8} (buffer : spi.txBuf = first :: rest) :
    ∃ byte, (byte = first ∨ byte = ControlRet.malformedPacket.toUInt8) ∧
      deviceControlSpiXferDoneCb callbacks spi rxLen =
        .ok { spi with txBuf := byte :: rest, userDataReady := true, xferDone := none } := by
  unfold deviceControlSpiXferDoneCb
  simp only [received, if_pos harmless, buffer]
  by_cases short : rxLen < 3
  · exact ⟨_, .inr rfl, by rw [if_pos short]; rfl⟩
  · exact ⟨_, .inl rfl, by rw [if_neg short]; rfl⟩

/-- A write command that a servicer lists is handled. -/
theorem handle_write (stands : spi.Stands state) (all : AllRegistered state)
    {resid : ControlResid} {cmd : ControlCmd} {payload free : List UInt8}
    (proper : (HostCommand.write resid cmd payload).SpiProper callbacks state.ctx spi.device.app)
    (positive : 0 < payload.length) (lists : state.Lists servicer resid)
    (received : spi.rxBuf = resid :: cmd :: UInt8.ofNat payload.length :: (payload ++ free)) :
    ∃ after, deviceControlSpiXferDoneCb callbacks spi (payload.length + 3) = .ok after ∧
      after.After spi callbacks state (.write resid cmd payload) := by
  rcases proper with ⟨ordinary, short, isWrite⟩
  rcases stands.txBuf_eq with ⟨first, rest, buffer⟩
  have stored : (UInt8.ofNat payload.length).toNat = payload.length := by
    simp only [HostCommand.payloadLen] at short
    rw [UInt8.toNat_ofNat']
    omega
  have known := deviceControlRequest_found (stands.follows.found all lists) cmd payload.length
  have executed := @bidir_write _ _ _ _ _ callbacks state
    (spi.device.requested resid cmd payload.length) servicer (payload ++ free) payload.length
    (stands.follows.requested _) all lists isWrite le_rfl (by simp) first rest
  have handled := @xferDone_packet _ _ _ _ _ callbacks spi (payload.length + 3) resid cmd _ _
    received ordinary (by omega) _ (by rw [stored, known, buffer]; exact executed)
  refine ⟨_, handled, ?_⟩
  have served : (HostCommand.write resid cmd payload).serve callbacks state.ctx spi.device.app =
      let result := (callbacks servicer).writeCmdCb resid cmd payload (spi.device.app servicer)
      ([.write servicer resid cmd payload result.1], [result.1.toUInt8],
        Function.update spi.device.app servicer result.2) := by
    simp [HostCommand.serve, HostCommand.resid, all.servicerOf_eq_some_iff.mpr lists]
  have txLength := stands.txLength
  rw [buffer] at txLength
  constructor
  case ready => rfl
  case handled => rfl
  case stands =>
    exact ⟨(Device.Follows.directCall (stands.follows.requested _)).setLastStatus _,
      stands.rxLength, txLength⟩
  case calls =>
    rw [served]
    simp [directCall, Device.requested, isWrite, Device.afterWrite, Device.setLastStatus]
  case app =>
    rw [served]
    simp [directCall, Device.requested, isWrite, Device.afterWrite, Device.setLastStatus]
  case reply =>
    rw [served]
    cases payload with
    | nil => simp at positive
    | cons byte bytes =>
        simp [directCall, Device.requested, isWrite, HostCommand.reply, HostCommand.payloadLen]

/-- A write command for a free ID is rejected. -/
theorem handle_unknown (stands : spi.Stands state) (all : AllRegistered state)
    {resid : ControlResid} {cmd : ControlCmd} {payload free : List UInt8}
    (ordinary : resid ≠ controlSpecialResid)
    (positive : 0 < payload.length) (unlisted : ∀ servicer, ¬ state.Lists servicer resid)
    (received : spi.rxBuf = resid :: cmd :: UInt8.ofNat payload.length :: (payload ++ free)) :
    ∃ after, deviceControlSpiXferDoneCb callbacks spi (payload.length + 3) = .ok after ∧
      after.After spi callbacks state (.write resid cmd payload) := by
  rcases stands.txBuf_eq with ⟨first, rest, buffer⟩
  have rejected := deviceControlRequest_free stands.follows ordinary (all.free unlisted) cmd
    (UInt8.ofNat payload.length).toNat
  have follows : Device.Follows { spi.device with
      ctx := { spi.device.ctx with requestedResid := resid } } state :=
    ⟨stands.follows.resourceTable, stands.follows.servicerTable, stands.follows.gatewayQueue⟩
  have executed := @bidir_unknown _ _ _ _ _ callbacks state _ (payload ++ free) payload.length
    follows ordinary (all.free unlisted) first rest
  have handled := @xferDone_packet _ _ _ _ _ callbacks spi (payload.length + 3) resid cmd _ _
    received ordinary (by omega) _ (by rw [rejected, buffer]; exact executed)
  refine ⟨_, handled, ?_⟩
  have served : (HostCommand.write resid cmd payload).serve callbacks state.ctx spi.device.app =
      ([], [ControlRet.badResource.toUInt8], spi.device.app) := by
    have nowhere : state.ctx.servicerOf resid = none := by
      rw [Option.eq_none_iff_forall_ne_some]
      exact fun servicer found => unlisted servicer (all.servicerOf_eq_some_iff.mp found)
    simp [HostCommand.serve, HostCommand.resid, nowhere]
  have txLength := stands.txLength
  rw [buffer] at txLength
  constructor
  case ready => rfl
  case handled => rfl
  case stands => exact ⟨follows.setLastStatus _, stands.rxLength, txLength⟩
  case calls => simp [served, Device.setLastStatus]
  case app => simp [served, Device.setLastStatus]
  case reply =>
    rw [served]
    cases payload with
    | nil => simp at positive
    | cons byte bytes => simp [HostCommand.reply, HostCommand.payloadLen]

/-- A read command is handled. -/
theorem handle_read (stands : spi.Stands state) (all : AllRegistered state)
    {resid : ControlResid} {cmd : ControlCmd} {payload padding : List UInt8}
    (proper : (HostCommand.read resid cmd payload).SpiProper callbacks state.ctx spi.device.app)
    (positive : 0 < payload.length)
    (received : spi.rxBuf = resid :: cmd :: UInt8.ofNat payload.length :: padding) {rxLen : Nat}
    (long : 3 ≤ rxLen) :
    ∃ after, deviceControlSpiXferDoneCb callbacks spi rxLen = .ok after ∧
      after.After spi callbacks state (.read resid cmd payload) := by
  rcases proper with ⟨ordinary, short, isRead, registered, _⟩
  rcases Option.isSome_iff_exists.mp registered with ⟨servicer, found⟩
  have lists := all.servicerOf_eq_some_iff.mp found
  have stored : (UInt8.ofNat payload.length).toNat = payload.length := by
    simp only [HostCommand.payloadLen] at short
    rw [UInt8.toNat_ofNat']
    omega
  have fits : payload.length ≤ spi.txBuf.length := by
    simp only [HostCommand.payloadLen] at short
    rw [stands.txLength, spiXferSize]
    omega
  have known := deviceControlRequest_found (stands.follows.found all lists) cmd payload.length
  have executed := @bidir_read _ _ _ _ _ callbacks state
    (spi.device.requested resid cmd payload.length) servicer padding spi.txBuf (rxLen - 3)
    (stands.follows.requested _) all lists isRead fits positive
  have handled := @xferDone_packet _ _ _ _ _ callbacks spi rxLen resid cmd _ _ received ordinary
    long _ (by rw [stored, known]; exact executed)
  refine ⟨_, handled, ?_⟩
  have served : (HostCommand.read resid cmd payload).serve callbacks state.ctx spi.device.app =
      let result := (callbacks servicer).readCmdCb resid cmd payload.length
        (spi.device.app servicer)
      ([.read servicer resid cmd payload.length result.1 result.2.1.toList],
        result.2.1.toList, Function.update spi.device.app servicer result.2.2) := by
    simp [HostCommand.serve, HostCommand.resid, found]
  have kept := @directCall_keeps _ _ _ state (spi.device.requested resid cmd payload.length)
    servicer spi.txBuf _ _ callbacks (stands.follows.requested _) resid cmd payload.length fits
  constructor
  case ready => rfl
  case handled => rfl
  case stands =>
    exact ⟨kept.follows.setLastStatus _, stands.rxLength, kept.length.trans stands.txLength⟩
  case calls =>
    rw [served]
    simp [directCall, Device.requested, isRead, Device.afterRead, Device.setLastStatus]
  case app =>
    rw [served]
    simp [directCall, Device.requested, isRead, Device.afterRead, Device.setLastStatus]
  case reply =>
    rw [served]
    simp [directCall, Device.requested, isRead, HostCommand.reply, HostCommand.payloadLen]

/-- A command that arrived is handled. -/
theorem handle_command (stands : spi.Stands state) (all : AllRegistered state)
    (proper : command.SpiProper callbacks state.ctx spi.device.app)
    (positive : 0 < command.payloadLen) {free : List UInt8}
    (received : spi.rxBuf = controlBuildSpiData command ++ free) :
    ∃ after, deviceControlSpiXferDoneCb callbacks spi (controlBuildSpiData command).length =
      .ok after ∧ after.After spi callbacks state command := by
  cases command with
  | write resid cmd payload =>
      have bytes : controlBuildSpiData (.write resid cmd payload) =
          resid :: cmd :: UInt8.ofNat payload.length :: payload := by
        simp [controlBuildSpiData, show isControlCmdRead cmd = false from proper.2.2]
      rw [bytes] at received ⊢
      by_cases listed : ∃ servicer, state.Lists servicer resid
      · rcases listed with ⟨servicer, lists⟩
        exact handle_write stands all proper positive lists received
      · exact handle_unknown stands all proper.1 positive (not_exists.mp listed) received
  | read resid cmd payload =>
      have bytes : controlBuildSpiData (.read resid cmd payload) =
          resid :: cmd :: UInt8.ofNat payload.length :: List.replicate 5 0 := by
        simp [controlBuildSpiData, show isControlCmdRead cmd = true from proper.2.2.1]
      rw [bytes] at received ⊢
      exact handle_read stands all proper positive received (by simp)

/-! ## All timings -/

/-- The device has executed these commands and no others. -/
def SpiDevice.Executed (spi : SpiDevice Queue Link App)
    (callbacks : Slot Queue Link → Callbacks App) (ctx : Context Queue Link)
    (app : Slot Queue Link → App) (done : List HostCommand) : Prop :=
  spi.device.calls = (serveAll callbacks ctx done app).1 ∧
    spi.device.app = (serveAll callbacks ctx done app).2.2

/-- The last transfer is handled, and the buffers are prepared. -/
def SpiDevice.Prepared (spi : SpiDevice Queue Link App) : Prop :=
  spi.userDataReady = true ∧ spi.xferDone = none

/-- The last transfer is not handled yet. -/
def SpiDevice.Busy (spi : SpiDevice Queue Link App) (rxLen : Nat) : Prop :=
  spi.userDataReady = false ∧ spi.xferDone = some rxLen

/-- Where the device can be, given what the host is at: between two commands, with the
command received, or with the command executed. -/
inductive SpiDevice.Phase (spi : SpiDevice Queue Link App)
    (callbacks : Slot Queue Link → Callbacks App) (ctx : Context Queue Link)
    (app : Slot Queue Link → App) (completed : List HostCommand) :
    HostPoint → List HostCommand → Prop
  | prepared (todo : List HostCommand) (executed : spi.Executed callbacks ctx app completed)
      (clear : spi.txBuf.headD 0 ≠ ControlRet.commandIgnoredInDevice.toUInt8)
      (prepared : spi.Prepared) : Phase spi callbacks ctx app completed .sending todo
  | zeros (todo : List HostCommand) (executed : spi.Executed callbacks ctx app completed)
      (clear : spi.txBuf.headD 0 ≠ ControlRet.commandIgnoredInDevice.toUInt8) (rxLen : Nat)
      (busy : spi.Busy rxLen)
      (harmless : rxLen < 3 ∨ ∃ payload, spi.rxBuf = 0 :: 0 :: 0 :: payload) :
      Phase spi callbacks ctx app completed .sending todo
  | received (command : HostCommand) (rest : List HostCommand)
      (executed : spi.Executed callbacks ctx app completed)
      (busy : spi.Busy (controlBuildSpiData command).length) (free : List UInt8)
      (buffer : spi.rxBuf = controlBuildSpiData command ++ free) :
      Phase spi callbacks ctx app completed .polling (command :: rest)
  | answered (command : HostCommand) (rest : List HostCommand)
      (executed : spi.Executed callbacks ctx app (completed ++ [command]))
      (prepared : spi.Prepared)
      (reply : command.reply (spi.txBuf.take command.payloadLen) =
        (command.serve callbacks ctx (serveAll callbacks ctx completed app).2.2).2.1) :
      Phase spi callbacks ctx app completed .polling (command :: rest)

/-- What holds at all times. -/
structure SpiInv (callbacks : Slot Queue Link → Callbacks App) (state : Registering Queue Link)
    (app : Slot Queue Link → App) (commands : List HostCommand)
    (system : SpiSystem Queue Link App) (completed : List HostCommand) : Prop where
  commands : commands = completed ++ system.todo
  replies : system.replies = (serveAll callbacks state.ctx completed app).2.1
  stands : system.spi.Stands state
  phase : system.spi.Phase callbacks state.ctx app completed system.point system.todo

variable {commands completed : List HostCommand} {system target : SpiSystem Queue Link App}

omit [DecidableEq Queue] [DecidableEq Link] in
/-- An ignored transfer changes nothing, and the host repeats it. -/
theorem transfer_ignored {bytes : List UInt8} (nonempty : bytes ≠ [])
    (busy : spi.userDataReady = false) (selected : Bool) :
    ∃ received, spi.transfer selected bytes = (received, spi) ∧
      received.headD 0 = ControlRet.commandIgnoredInDevice.toUInt8 := by
  unfold SpiDevice.transfer
  rw [if_neg nonempty, if_neg (by simp [busy])]
  refine ⟨_, rfl, ?_⟩
  cases bytes with
  | nil => exact absurd rfl nonempty
  | cons byte rest => simp [spiXferTxDefaultBuf]

omit [DecidableEq Queue] [DecidableEq Link] in
/-- A transfer in the prepared buffers. -/
theorem transfer_prepared {bytes : List UInt8} (nonempty : bytes ≠ [])
    (ready : spi.userDataReady = true) (selected : Bool) :
    spi.transfer selected bytes = (spi.txBuf.take bytes.length,
      { spi with
        rxBuf := bytes ++ spi.rxBuf.drop bytes.length
        userDataReady := false
        xferDone := some bytes.length }) := by
  unfold SpiDevice.transfer
  rw [if_neg nonempty, if_pos ready]

omit [DecidableEq Queue] [DecidableEq Link] in
theorem SpiDevice.Stands.received (stands : spi.Stands state) {bytes : List UInt8}
    (fits : bytes.length ≤ spiXferSize) :
    SpiDevice.Stands { spi with
      rxBuf := bytes ++ spi.rxBuf.drop bytes.length
      userDataReady := false
      xferDone := some bytes.length } state := by
  constructor
  case follows => exact stands.follows
  case txLength => exact stands.txLength
  case rxLength =>
    have length := stands.rxLength
    simp only [List.length_append, List.length_drop, length]
    omega

theorem controlBuildSpiData_ne_nil (command : HostCommand) : controlBuildSpiData command ≠ [] := by
  cases command <;> simp [controlBuildSpiData]

theorem controlBuildSpiData_length (short : command.payloadLen ≤ 253) :
    (controlBuildSpiData command).length ≤ spiXferSize := by
  cases command <;>
    (simp only [HostCommand.payloadLen] at short
     simp only [controlBuildSpiData, List.length_cons, spiXferSize]
     split
     · simp
     · omega)

theorem headD_take {α : Type} (list : List α) {count : Nat} (positive : 0 < count) (default : α) :
    (list.take count).headD default = list.headD default := by
  cases list with
  | nil => simp
  | cons first rest =>
      rcases Nat.exists_eq_succ_of_ne_zero positive.ne' with ⟨fewer, rfl⟩
      rfl

omit [DecidableEq Queue] [DecidableEq Link] in
/-- While the device is busy, the host does not get on. -/
theorem transfer_busy (busy : system.spi.userDataReady = false)
    (positive : 0 < command.payloadLen) (selected : Bool) (rest : List HostCommand) :
    system.transfer selected command rest = system := by
  cases point : system.point with
  | sending =>
      rcases transfer_ignored (controlBuildSpiData_ne_nil command) busy selected with
        ⟨received, transferred, ignored⟩
      simp only [SpiSystem.transfer, point, transferred, ignored, if_true]
      rw [← point]
  | polling =>
      have nonempty : List.replicate command.payloadLen (0 : UInt8) ≠ [] := by
        simp [List.replicate_eq_nil_iff, positive.ne']
      rcases transfer_ignored nonempty busy selected with ⟨received, transferred, ignored⟩
      simp only [SpiSystem.transfer, point, transferred, ignored, if_true]
      rw [← point]

omit [DecidableEq Queue] [DecidableEq Link] in
/-- The command is sent. -/
theorem transfer_send (point : system.point = .sending) (ready : system.spi.userDataReady = true)
    (clear : system.spi.txBuf.headD 0 ≠ ControlRet.commandIgnoredInDevice.toUInt8)
    (selected : Bool) (rest : List HostCommand) :
    system.transfer selected command rest = { system with
      point := .polling
      spi := { system.spi with
        rxBuf := controlBuildSpiData command ++
          system.spi.rxBuf.drop (controlBuildSpiData command).length
        userDataReady := false
        xferDone := some (controlBuildSpiData command).length } } := by
  have positive := List.length_pos_of_ne_nil (controlBuildSpiData_ne_nil command)
  have answered : (system.spi.txBuf.take (controlBuildSpiData command).length).headD 0 ≠
      ControlRet.commandIgnoredInDevice.toUInt8 := by
    rwa [headD_take _ positive]
  simp only [SpiSystem.transfer, point,
    transfer_prepared (controlBuildSpiData_ne_nil command) ready, if_neg answered]

omit [DecidableEq Queue] [DecidableEq Link] in
/-- The command returns. -/
theorem transfer_return (point : system.point = .polling)
    (ready : system.spi.userDataReady = true)
    (clear : system.spi.txBuf.headD 0 ≠ ControlRet.commandIgnoredInDevice.toUInt8)
    (positive : 0 < command.payloadLen) (selected : Bool) (rest : List HostCommand) :
    system.transfer selected command rest =
      { point := .sending
        todo := rest
        replies := system.replies ++ [command.reply (system.spi.txBuf.take command.payloadLen)]
        spi := { system.spi with
          rxBuf := List.replicate command.payloadLen 0 ++
            system.spi.rxBuf.drop command.payloadLen
          userDataReady := false
          xferDone := some command.payloadLen } } := by
  have nonempty : List.replicate command.payloadLen (0 : UInt8) ≠ [] := by
    simp [List.replicate_eq_nil_iff, positive.ne']
  have answered : (system.spi.txBuf.take command.payloadLen).headD 0 ≠
      ControlRet.commandIgnoredInDevice.toUInt8 := by
    rwa [headD_take _ positive]
  simp only [SpiSystem.transfer, point, transfer_prepared nonempty ready,
    List.length_replicate, if_neg answered]

/-- What a sound command returns is not taken for an ignored transfer. -/
theorem reply_clear {app : Slot Queue Link → App}
    (proper : command.SpiProper callbacks ctx app) (sound : command.SpiSound callbacks ctx app)
    {txBuf : List UInt8}
    (reply : command.reply (txBuf.take command.payloadLen) =
      (command.serve callbacks ctx app).2.1) :
    txBuf.headD 0 ≠ ControlRet.commandIgnoredInDevice.toUInt8 := by
  intro ignored
  rw [← headD_take txBuf sound.1] at ignored
  cases command with
  | write resid cmd payload =>
      have notIgnored := sound.2
      rw [← reply] at notIgnored
      exact notIgnored (congrArg (fun byte => [byte]) ignored)
  | read resid cmd payload =>
      have notIgnored := proper.2.2.2.2 (List.length_pos_iff.mp sound.1)
      rw [← reply] at notIgnored
      exact notIgnored ignored

/-- What the commands have to meet. -/
def HostCommand.SpiGood (callbacks : Slot Queue Link → Callbacks App) (ctx : Context Queue Link)
    (app : Slot Queue Link → App) (command : HostCommand) : Prop :=
  command.SpiProper callbacks ctx app ∧ command.SpiSound callbacks ctx app

theorem spiInv_transfer (inv : SpiInv callbacks state app commands system completed)
    (each : EachCommand callbacks state.ctx (HostCommand.SpiGood callbacks state.ctx) commands app)
    {selected : Bool} (step : spiNext callbacks system (.transfer selected) = some target) :
    (∃ completed, SpiInv callbacks state app commands target completed) ∧
      (system.spi.userDataReady = true → (target.point, target.todo) = system.next) := by
  cases todo : system.todo with
  | nil => simp [spiNext, todo] at step
  | cons command rest =>
      have isTarget : system.transfer selected command rest = target := by
        simpa [spiNext, todo] using step
      have split := inv.commands
      rw [todo] at split
      rw [split] at each
      rcases each.at with ⟨proper, sound⟩
      have phase := inv.phase
      by_cases ready : system.spi.userDataReady = true
      case neg =>
        rw [transfer_busy (Bool.eq_false_of_not_eq_true ready) sound.1] at isTarget
        subst isTarget
        exact ⟨⟨completed, inv⟩, fun isReady => absurd isReady ready⟩
      case pos =>
        cases point : system.point with
        | sending =>
            rw [point] at phase
            rcases phase with ⟨_, executed, clear, _⟩ | ⟨_, _, _, _, busy, _⟩
            case zeros => exact absurd (ready.symm.trans busy.1) (by simp)
            case prepared =>
              rw [transfer_send point ready clear] at isTarget
              subst isTarget
              constructor
              · refine ⟨completed, inv.commands, inv.replies,
                  inv.stands.received (controlBuildSpiData_length proper.2.1), ?_⟩
                simp only [todo]
                exact .received command rest executed ⟨rfl, rfl⟩ _ rfl
              · intro _
                simp [SpiSystem.next, point]
        | polling =>
            rw [point, todo] at phase
            cases phase with
            | received _ _ _ busy => exact absurd (ready.symm.trans busy.1) (by simp)
            | answered _ _ executed prepared reply =>
                have clear := reply_clear proper sound reply
                rw [transfer_return point ready clear sound.1] at isTarget
                subst isTarget
                constructor
                · refine ⟨completed ++ [command], ?_, ?_, ?_, ?_⟩
                  · rw [split]
                    simp
                  · simp only [serveAll_concat, inv.replies, reply]
                  · have fits : (List.replicate command.payloadLen (0 : UInt8)).length ≤
                        spiXferSize := by
                      rw [List.length_replicate]
                      exact proper.2.1.trans (by decide)
                    simpa using inv.stands.received fits
                  · refine .zeros rest executed clear command.payloadLen ⟨rfl, rfl⟩ ?_
                    by_cases short : command.payloadLen < 3
                    · exact .inl short
                    · rcases Nat.exists_eq_add_of_le (Nat.not_lt.mp short) with ⟨more, length⟩
                      refine .inr ⟨List.replicate more 0 ++
                        system.spi.rxBuf.drop command.payloadLen, ?_⟩
                      simp only [length, List.replicate_add]
                      rfl
                · intro _
                  simp [SpiSystem.next, point, todo]

/-- The device can handle a transfer that is not yet handled, and is then prepared. -/
theorem SpiDevice.Phase.handle {point : HostPoint} {todo : List HostCommand}
    (phase : spi.Phase callbacks state.ctx app completed point todo) (stands : spi.Stands state)
    (all : AllRegistered state)
    (each : EachCommand callbacks state.ctx (HostCommand.SpiGood callbacks state.ctx)
      (completed ++ todo) app)
    (busy : spi.userDataReady = false) :
    ∃ rxLen after, spi.xferDone = some rxLen ∧
      deviceControlSpiXferDoneCb callbacks spi rxLen = .ok after ∧ after.userDataReady = true ∧
        after.Stands state ∧ after.Phase callbacks state.ctx app completed point todo := by
  cases phase with
  | prepared _ _ _ prepared => exact absurd (busy.symm.trans prepared.1) (by simp)
  | answered _ _ _ prepared => exact absurd (busy.symm.trans prepared.1) (by simp)
  | zeros _ executed clear rxLen isBusy harmless =>
      rcases stands.txBuf_eq with ⟨first, rest, buffer⟩
      rcases stands.rxBuf_eq with ⟨resid, cmd, payloadLen, payload, received⟩
      have isNop : (resid = 0 ∧ cmd = 0 ∧ payloadLen = 0) ∨ rxLen < 3 := by
        rcases harmless with short | ⟨other, zeros⟩
        · exact .inr short
        · rw [received] at zeros
          cases zeros
          exact .inl ⟨rfl, rfl, rfl⟩
      rcases @xferDone_nop _ _ _ _ _ callbacks _ rxLen _ _ _ _ received isNop first rest buffer
        with ⟨byte, isByte, handled⟩
      have txLength := stands.txLength
      rw [buffer] at txLength clear
      refine ⟨rxLen, _, isBusy.2, handled, rfl, ⟨stands.follows, stands.rxLength, txLength⟩, ?_⟩
      refine .prepared _ executed ?_ ⟨rfl, rfl⟩
      rcases isByte with rfl | rfl
      · exact clear
      · intro ignored
        cases ignored
  | received command rest executed isBusy free buffer =>
      have good := each.at
      rw [← executed.2] at good
      rcases handle_command stands all good.1 good.2.1 buffer with ⟨after, handled, isAfter⟩
      refine ⟨_, after, isBusy.2, handled, isAfter.ready, isAfter.stands, ?_⟩
      refine .answered command rest ⟨?_, ?_⟩ ⟨isAfter.ready, isAfter.handled⟩ ?_
      · rw [isAfter.calls, serveAll_concat, executed.1, executed.2]
      · rw [isAfter.app, serveAll_concat, executed.2]
      · rw [isAfter.reply, executed.2]

theorem SpiDevice.Phase.prepared_of_ready {point : HostPoint} {todo : List HostCommand}
    (phase : spi.Phase callbacks ctx app completed point todo)
    (ready : spi.userDataReady = true) : spi.xferDone = none := by
  cases phase with
  | prepared _ _ _ prepared => exact prepared.2
  | answered _ _ _ prepared => exact prepared.2
  | zeros _ _ _ _ busy => exact absurd (ready.symm.trans busy.1) (by simp)
  | received _ _ _ busy => exact absurd (ready.symm.trans busy.1) (by simp)

theorem SpiDevice.Phase.calls {point : HostPoint} {todo : List HostCommand}
    (phase : spi.Phase callbacks ctx app completed point todo) :
    spi.device.calls = (serveAll callbacks ctx completed app).1 ∨
      ∃ current rest, todo = current :: rest ∧
        spi.device.calls = (serveAll callbacks ctx (completed ++ [current]) app).1 := by
  cases phase with
  | prepared _ executed => exact .inl executed.1
  | zeros _ executed => exact .inl executed.1
  | received _ _ executed => exact .inl executed.1
  | answered command rest executed => exact .inr ⟨command, rest, rfl, executed.1⟩

theorem spiInv_handle (inv : SpiInv callbacks state app commands system completed)
    (all : AllRegistered state)
    (each : EachCommand callbacks state.ctx (HostCommand.SpiGood callbacks state.ctx) commands app)
    (busy : system.spi.userDataReady = false) :
    ∃ target, spiNext callbacks system .process = some target ∧
      target.spi.userDataReady = true ∧
      SpiInv callbacks state app commands target completed := by
  rw [inv.commands] at each
  rcases inv.phase.handle inv.stands all each busy with
    ⟨rxLen, after, waits, handled, ready, stands, phase⟩
  exact ⟨{ system with spi := after }, by simp only [spiNext, waits, handled], ready,
    inv.commands, inv.replies, stands, phase⟩

theorem spiInv_step (all : AllRegistered state)
    (each : EachCommand callbacks state.ctx (HostCommand.SpiGood callbacks state.ctx) commands app)
    {label : SpiLabel} (inv : ∃ completed, SpiInv callbacks state app commands system completed)
    (step : spiNext callbacks system label = some target) :
    ∃ completed, SpiInv callbacks state app commands target completed := by
  rcases inv with ⟨completed, inv⟩
  cases label with
  | transfer selected => exact (spiInv_transfer inv each step).1
  | process =>
      cases ready : system.spi.userDataReady with
      | false =>
          rcases spiInv_handle inv all each ready with ⟨after, handled, _, kept⟩
          rw [handled, Option.some_inj] at step
          subst step
          exact ⟨completed, kept⟩
      | true => simp [spiNext, inv.phase.prepared_of_ready ready] at step

theorem spiInv_start :
    SpiInv callbacks state app commands (spiStart (state.device app) commands) [] := by
  refine ⟨rfl, rfl, ⟨Registering.device_follows app, List.length_replicate,
    List.length_replicate⟩, ?_⟩
  exact .prepared _ ⟨rfl, rfl⟩ (fun ignored => by cases ignored) ⟨rfl, rfl⟩

theorem SpiInv.goesOn (inv : SpiInv callbacks state app commands system completed)
    (all : AllRegistered state)
    (each : EachCommand callbacks state.ctx (HostCommand.SpiGood callbacks state.ctx) commands
      app) : GoesOn callbacks system := by
  constructor
  · intro busy
    rcases spiInv_handle inv all each busy with ⟨after, handled, ready, _⟩
    exact ⟨_, handled, ready⟩
  · intro ready selected target step
    exact (spiInv_transfer inv each step).2 ready

end

/-- After a successful registration, commands that are sound are executed in order at all
timings, and the host is never held up. -/
theorem spi_executedInOrder [DecidableEq Queue] [DecidableEq Link]
    (callbacks : Slot Queue Link → Callbacks App) (servicerCount : Nat) (links : List Link)
    (rounds : List (Round Queue))
    (success : (deviceControlResourcesRegister (.host servicerCount links) rounds).1 = .success)
    (app : Slot Queue Link → App) (commands : List HostCommand)
    (proper : EachCommand callbacks
      (deviceControlResourcesRegister (.host servicerCount links) rounds).2.ctx
      (HostCommand.SpiProper callbacks
        (deviceControlResourcesRegister (.host servicerCount links) rounds).2.ctx) commands app)
    (sound : EachCommand callbacks
      (deviceControlResourcesRegister (.host servicerCount links) rounds).2.ctx
      (HostCommand.SpiSound callbacks
        (deviceControlResourcesRegister (.host servicerCount links) rounds).2.ctx) commands app)
    (system : SpiSystem Queue Link App)
    (reachable : Reachable (spiNext callbacks) (spiStart
      ((deviceControlResourcesRegister (.host servicerCount links) rounds).2.device app)
      commands) system) :
    ExecutedInOrder callbacks
        (deviceControlResourcesRegister (.host servicerCount links) rounds).2.ctx app commands
        system ∧
      GoesOn callbacks system := by
  have all := allRegistered_of_success success
  have each := proper.and sound
  have kept : ∃ completed, SpiInv callbacks
      (deviceControlResourcesRegister (.host servicerCount links) rounds).2 app commands system
      completed :=
    reachable.invariant ⟨[], spiInv_start⟩ fun _ _ _ inv _ step => spiInv_step all each inv step
  rcases kept with ⟨completed, inv⟩
  exact ⟨⟨completed, inv.commands, inv.replies, inv.phase.calls⟩, inv.goesOn all each⟩

/-- A write command with one byte, and a read command for one byte. -/
def writeThenReadSpi : List HostCommand := [.write 1 0 [7], .read 1 0x80 [0]]

theorem writeThenReadSpi_executedInOrder :
    ∃ system, system.replies = [[0], [0]] ∧
      ExecutedInOrder (fun _ => zeroes) oneOffTile.ctx (fun _ => ()) writeThenReadSpi system ∧
        GoesOn (fun _ => zeroes) system := by
  rcases exists_reachable_of_run (spiNext fun _ => zeroes)
    (spiStart (oneOffTile.device fun _ => ()) writeThenReadSpi)
    [.transfer true, .transfer true, .process, .transfer true, .process, .transfer true,
      .process, .transfer true]
    (fun system => decide (system.replies = [[0], [0]])) (by decide +kernel) with
    ⟨system, reachable, returned⟩
  have served : ∀ command ∈ writeThenReadSpi,
      (HostCommand.SpiProper (fun _ => zeroes) oneOffTile.ctx (fun _ => ()) command ∧
        HostCommand.SpiSound (fun _ => zeroes) oneOffTile.ctx (fun _ => ()) command) := by
    intro command isCommand
    rcases List.mem_pair.mp isCommand with rfl | rfl
    · exact ⟨⟨by decide, by decide, by decide⟩, by decide, by decide⟩
    · exact ⟨⟨by decide, by decide, by decide, by decide, fun _ => by decide⟩, by decide, trivial⟩
  exact ⟨system, of_decide_eq_true returned,
    spi_executedInOrder (fun _ => zeroes) 1 [()] [⟨none, fun _ => some ⟨(), [1]⟩⟩] (by decide)
      (fun _ => ()) writeThenReadSpi
      ⟨(served _ (by simp [writeThenReadSpi])).1, (served _ (by simp [writeThenReadSpi])).1,
        trivial⟩
      ⟨(served _ (by simp [writeThenReadSpi])).2, (served _ (by simp [writeThenReadSpi])).2,
        trivial⟩ system reachable⟩

/-- A servicer that takes no command. -/
def queueFull : Callbacks Unit where
  readCmdCb := fun _ _ payloadLen _ =>
    (.servicerQueueFull, List.Vector.replicate payloadLen 0, ())
  writeCmdCb := fun _ _ _ _ => (.servicerQueueFull, ())

/-- The status of a write command without payload is not fetched: the host returns
`CONTROL_SUCCESS`. -/
theorem writeNothing_not_executedInOrder :
    EachCommand (fun _ => queueFull) oneOffTile.ctx
        (HostCommand.SpiProper (fun _ => queueFull) oneOffTile.ctx) [.write 1 0 []]
        (fun _ => ()) ∧
      ¬ ∀ system, Reachable (spiNext fun _ => queueFull)
          (spiStart (oneOffTile.device fun _ => ()) [.write 1 0 []]) system →
        ExecutedInOrder (fun _ => queueFull) oneOffTile.ctx (fun _ => ()) [.write 1 0 []]
          system := by
  constructor
  · exact ⟨⟨by decide, by decide, by decide⟩, trivial⟩
  · intro executes
    rcases exists_reachable_of_run (spiNext fun _ => queueFull)
      (spiStart (oneOffTile.device fun _ => ()) [.write 1 0 []])
      [.transfer true, .process, .transfer true]
      (fun system => decide (system.replies = [[0]] ∧ system.todo = [])) (by decide +kernel) with
      ⟨system, reachable, returned⟩
    rcases of_decide_eq_true returned with ⟨replies, todo⟩
    rcases executes system reachable with ⟨completed, whole, isReplies, _⟩
    rw [todo, List.append_nil] at whole
    subst whole
    rw [replies] at isReplies
    exact absurd isReplies (by decide)

end FwkRtos.DeviceControl

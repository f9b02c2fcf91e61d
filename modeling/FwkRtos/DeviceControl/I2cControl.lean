import FwkRtos.DeviceControl.PayloadTransfer

/-!
# Control over I2C

The host writes a command in one transfer, and reads its status or its answer in a second
one.  What connects the two is the request and the status that the device keeps between
them.
-/

namespace FwkRtos.DeviceControl

variable {Queue Link App : Type}

/-! ## The device -/

/-- The I2C slave driver between two transfers: its data buffer, which has
`RTOS_I2C_SLAVE_BUF_LEN` bytes, and the device control instance. -/
structure I2cSlave (Queue Link App : Type) where
  dataBuf : List UInt8
  device : Device Queue Link App

/-- `data_buf` and `rx_data_i`. -/
abbrev I2cRx := List UInt8 × Nat

/-- `i2c_master_sent_data`: a byte that the buffer does not hold is dropped. -/
def i2cMasterSentData (rx : I2cRx) (data : UInt8) : I2cRx :=
  if rx.2 < rx.1.length then (rx.1.set rx.2 data, rx.2 + 1) else rx

/-- `i2c_master_req_data` for as many bytes as the master reads, from `tx_data_i` on. -/
def i2cMasterReqData (txData : List UInt8) : Nat → Nat → List UInt8
  | _, 0 => []
  | txDataI, count + 1 =>
      txData[txDataI]?.getD 0xFF ::
        i2cMasterReqData txData (if txDataI + 1 = txData.length then 0 else txDataI + 1) count

section
variable [DecidableEq Queue] [DecidableEq Link] (callbacks : Slot Queue Link → Callbacks App)

/-- `device_control_i2c_rx_cb`: the buffer, whose bytes after the header are the payload
buffer, and the device. -/
def deviceControlI2cRxCb (device : Device Queue Link App) (data : List UInt8) (len : Nat) :
    Except Fault (I2cSlave Queue Link App) :=
  if 3 ≤ len then
    match data with
    | resid :: cmd :: payloadLen :: payload => do
        let ctx := (deviceControlRequest device.ctx resid cmd payloadLen.toNat).2
        let outcome ← deviceControlPayloadTransfer callbacks { device with ctx := ctx } payload
          (len - 3) .hostToDevice
        .ok ⟨resid :: cmd :: payloadLen :: outcome.payload, outcome.device⟩
    | _ => .error .overrun
  else .ok ⟨data, device.setLastStatus .malformedPacket⟩

/-- `device_control_i2c_tx_start_cb`: the buffer that the driver sends from, and the
device. -/
def deviceControlI2cTxStartCb (device : Device Queue Link App) (data : List UInt8) :
    Except Fault (I2cSlave Queue Link App) := do
  let outcome ← deviceControlPayloadTransfer callbacks device data data.length .deviceToHost
  .ok ⟨outcome.payload, outcome.device⟩

/-- A write of the master that reaches the end; one without bytes is not reported. -/
def I2cSlave.write (slave : I2cSlave Queue Link App) (bytes : List UInt8) :
    Except Fault (I2cSlave Queue Link App) :=
  let rx := bytes.foldl i2cMasterSentData (slave.dataBuf, 0)
  if 0 < rx.2 then deviceControlI2cRxCb callbacks slave.device rx.1 rx.2
  else .ok { slave with dataBuf := rx.1 }

/-- A read of the master: the bytes that it gets. -/
def I2cSlave.read (slave : I2cSlave Queue Link App) (count : Nat) :
    Except Fault (List UInt8 × I2cSlave Queue Link App) := do
  let slave ← deviceControlI2cTxStartCb callbacks slave.device slave.dataBuf
  .ok (i2cMasterReqData slave.dataBuf 0 count, slave)

end

/-! ## The host -/

/-- `control_build_i2c_data`. -/
def controlBuildI2cData (resid : ControlResid) (cmd : ControlCmd) (payload : List UInt8)
    (payloadLen : Nat) : List UInt8 :=
  resid :: cmd :: UInt8.ofNat payloadLen ::
    if isControlCmdRead cmd then [] else payload.take payloadLen

/-- How the bus carries one command: how many bytes of the write reach the slave, whether
the read reaches it, and what the system calls return for the write, for the read, and for
both together. -/
structure Carriage where
  sent : Nat
  readRequested : Bool
  written : Int
  read : Int
  ioctl : Int

section
variable [DecidableEq Queue] [DecidableEq Link] (callbacks : Slot Queue Link → Callbacks App)

/-- The read of a command, when it reaches the slave. -/
def Carriage.carryRead (carriage : Carriage) (slave : I2cSlave Queue Link App) (count : Nat) :
    Except Fault (List UInt8 × I2cSlave Queue Link App) :=
  if carriage.readRequested then slave.read callbacks count else .ok ([], slave)

/-- `control_write_command`: the status. -/
def controlWriteCommand (carriage : Carriage) (slave : I2cSlave Queue Link App)
    (resid : ControlResid) (cmd : ControlCmd) (payload : List UInt8) :
    Except Fault (UInt8 × I2cSlave Queue Link App) := do
  let bytes := controlBuildI2cData resid cmd payload payload.length
  let slave ← slave.write callbacks (bytes.take carriage.sent)
  if carriage.written < 0 then .ok (ControlRet.error.toUInt8, slave)
  else do
    let (commandStatus, slave) ← carriage.carryRead callbacks slave 1
    if carriage.read < 0 then .ok (ControlRet.error.toUInt8, slave)
    else .ok (commandStatus.headD 0, slave)

/-- `control_read_command`: the status and the payload. -/
def controlReadCommand (carriage : Carriage) (slave : I2cSlave Queue Link App)
    (resid : ControlResid) (cmd : ControlCmd) (payload : List UInt8) :
    Except Fault ((UInt8 × List UInt8) × I2cSlave Queue Link App) := do
  let bytes := controlBuildI2cData resid cmd payload payload.length
  if bytes.length ≠ 3 then .ok ((ControlRet.error.toUInt8, payload), slave)
  else do
    let slave ← slave.write callbacks (bytes.take carriage.sent)
    let (received, slave) ← carriage.carryRead callbacks slave payload.length
    if carriage.ioctl < 0 then .ok ((ControlRet.error.toUInt8, received), slave)
    else .ok ((ControlRet.success.toUInt8, received), slave)

end

/-- One command of the host; a read command comes with the buffer for its payload. -/
inductive HostCommand
  | write (resid : ControlResid) (cmd : ControlCmd) (payload : List UInt8)
  | read (resid : ControlResid) (cmd : ControlCmd) (payload : List UInt8)

def HostCommand.resid : HostCommand → ControlResid
  | .write resid _ _ => resid
  | .read resid _ _ => resid

/-- The commands that the host calls are for: of their own kind, for an ordinary resource,
and with a payload that the host's packet or the device's buffer holds. -/
def HostCommand.Proper (bufLen : Nat) : HostCommand → Prop
  | .write resid cmd payload =>
      resid ≠ controlSpecialResid ∧ isControlCmdRead cmd = false ∧ payload.length ≤ 253
  | .read resid cmd payload =>
      resid ≠ controlSpecialResid ∧ isControlCmdRead cmd = true ∧ 1 ≤ payload.length ∧
        payload.length ≤ min 255 bufLen

/-- What the host writes for a command. -/
def HostCommand.bytes : HostCommand → List UInt8
  | .write resid cmd payload => controlBuildI2cData resid cmd payload payload.length
  | .read resid cmd payload => controlBuildI2cData resid cmd payload payload.length

/-- The bytes that the slave can hold and the read reach it, and no system call fails. -/
structure Carriage.Delivers (carriage : Carriage) (bufLen : Nat) (command : HostCommand) :
    Prop where
  sent : min command.bytes.length bufLen ≤ carriage.sent
  readRequested : carriage.readRequested = true
  written : 0 ≤ carriage.written
  read : 0 ≤ carriage.read
  ioctl : 0 ≤ carriage.ioctl

section
variable [DecidableEq Queue] [DecidableEq Link] (callbacks : Slot Queue Link → Callbacks App)

/-- One command: the status and the payload that the host has afterwards, and the slave. -/
def HostCommand.perform (carriage : Carriage) (slave : I2cSlave Queue Link App) :
    HostCommand → Except Fault ((UInt8 × List UInt8) × I2cSlave Queue Link App)
  | .write resid cmd payload => do
      let (status, slave) ← controlWriteCommand callbacks carriage slave resid cmd payload
      .ok ((status, payload), slave)
  | .read resid cmd payload => controlReadCommand callbacks carriage slave resid cmd payload

/-- One command after the other. -/
def performAll : List (HostCommand × Carriage) → I2cSlave Queue Link App →
    Except Fault (I2cSlave Queue Link App)
  | [], slave => .ok slave
  | (command, carriage) :: rest, slave => do
      let (_, slave) ← command.perform callbacks carriage slave
      performAll rest slave

/-- What a command has to come to, given the slave before it, and the host's results and
the slave after it. -/
def HostCommand.Served (state : Registering Queue Link) (before : I2cSlave Queue Link App)
    (status : UInt8) (received : List UInt8) (after : I2cSlave Queue Link App) :
    HostCommand → Prop
  | .write resid cmd payload =>
      (∀ servicer, state.Lists servicer resid → 3 + payload.length ≤ before.dataBuf.length →
        let result := (callbacks servicer).writeCmdCb resid cmd payload
          (before.device.app servicer)
        after.device.calls =
            before.device.calls ++ [.write servicer resid cmd payload result.1] ∧
          status = result.1.toUInt8) ∧
      (∀ servicer, state.Lists servicer resid → before.dataBuf.length < 3 + payload.length →
        after.device.calls = before.device.calls ∧
          status = ControlRet.dataLengthError.toUInt8) ∧
      ((∀ servicer, ¬ state.Lists servicer resid) →
        after.device.calls = before.device.calls ∧ status = ControlRet.badResource.toUInt8)
  | .read resid cmd payload =>
      (∀ servicer, state.Lists servicer resid →
        let result := (callbacks servicer).readCmdCb resid cmd payload.length
          (before.device.app servicer)
        after.device.calls = before.device.calls ++
            [.read servicer resid cmd payload.length result.1 result.2.1.toList] ∧
          received = result.2.1.toList) ∧
      ((∀ servicer, ¬ state.Lists servicer resid) →
        after.device.calls = before.device.calls)

/-- Every command of the history is executed as it has to be. -/
def ExecutesOnce (state : Registering Queue Link) (start : I2cSlave Queue Link App)
    (history : List (HostCommand × Carriage)) : Prop :=
  ∀ earlier command carriage, earlier ++ [(command, carriage)] <+: history →
    ∃ before status received after, performAll callbacks earlier start = .ok before ∧
      command.perform callbacks carriage before = .ok ((status, received), after) ∧
        command.Served callbacks state before status received after

end

/-! ## One transfer -/

/-- The bytes follow those that are in the buffer, as far as it holds them. -/
theorem foldl_i2cMasterSentData (bytes stored free : List UInt8) :
    bytes.foldl i2cMasterSentData (stored ++ free, stored.length) =
      (stored ++ (bytes.take free.length ++ free.drop bytes.length),
        stored.length + min bytes.length free.length) := by
  induction bytes generalizing stored free with
  | nil => simp
  | cons byte rest ih =>
      rw [List.foldl_cons]
      cases free with
      | nil =>
          have dropped : i2cMasterSentData (stored ++ [], stored.length) byte =
              (stored ++ [], stored.length) := if_neg (by simp)
          rw [dropped, ih stored []]
          simp
      | cons old free =>
          have entered : i2cMasterSentData (stored ++ old :: free, stored.length) byte =
              ((stored ++ [byte]) ++ free, (stored ++ [byte]).length) := by
            unfold i2cMasterSentData
            rw [if_pos (by simp)]
            simp
          rw [entered, ih (stored ++ [byte]) free]
          simp only [List.length_append, List.length_cons, List.length_nil, List.take_succ_cons,
            List.drop_succ_cons, List.append_assoc, List.cons_append, List.nil_append,
            Prod.mk.injEq, true_and]
          omega

/-- A read within the buffer gets its bytes in order. -/
theorem i2cMasterReqData_eq (txData : List UInt8) (i count : Nat)
    (inside : i + count ≤ txData.length) :
    i2cMasterReqData txData i count = (txData.drop i).take count := by
  induction count generalizing i with
  | zero => simp [i2cMasterReqData]
  | succ count ih =>
      have present : i < txData.length := by omega
      rw [i2cMasterReqData, List.drop_eq_getElem_cons present, List.take_succ_cons,
        List.getElem?_eq_getElem present, Option.getD_some]
      congr 1
      by_cases last : i + 1 = txData.length
      · have noMore : count = 0 := by omega
        subst noMore
        simp [i2cMasterReqData]
      · rw [if_neg last]
        exact ih (i + 1) (by omega)

section
variable [DecidableEq Queue] [DecidableEq Link] {callbacks : Slot Queue Link → Callbacks App}
  {slave : I2cSlave Queue Link App} {resid : ControlResid} {cmd : ControlCmd}

/-- The bytes that the buffer cannot hold make no difference. -/
theorem write_take {bytes : List UInt8} {sent : Nat}
    (enough : min bytes.length slave.dataBuf.length ≤ sent) :
    slave.write callbacks (bytes.take sent) = slave.write callbacks bytes := by
  have received : (bytes.take sent).foldl i2cMasterSentData (slave.dataBuf, 0) =
      bytes.foldl i2cMasterSentData (slave.dataBuf, 0) := by
    have cut := foldl_i2cMasterSentData (bytes.take sent) [] slave.dataBuf
    have whole := foldl_i2cMasterSentData bytes [] slave.dataBuf
    simp only [List.nil_append, List.length_nil, Nat.zero_add] at cut whole
    rw [cut, whole]
    by_cases all : bytes.length ≤ sent
    · rw [List.take_of_length_le all]
    · have full : slave.dataBuf.length ≤ sent := by omega
      rw [List.take_take, Nat.min_eq_left full, List.length_take,
        Nat.min_eq_left (Nat.not_le.mp all).le, List.drop_eq_nil_of_le full,
        List.drop_eq_nil_of_le (full.trans (Nat.not_le.mp all).le), Nat.min_eq_right full,
        Nat.min_eq_right (full.trans (Nat.not_le.mp all).le)]
  unfold I2cSlave.write
  rw [received]

/-- What a packet with a whole header comes to: the request, and the transfer of the part
of its payload that the buffer holds. -/
theorem write_packet (header : 3 ≤ slave.dataBuf.length) (payloadLen : UInt8)
    (payload : List UInt8) :
    slave.write callbacks (resid :: cmd :: payloadLen :: payload) = (do
      let outcome ← deviceControlPayloadTransfer callbacks
        { slave.device with
          ctx := (deviceControlRequest slave.device.ctx resid cmd payloadLen.toNat).2 }
        (payload.take (slave.dataBuf.length - 3) ++ slave.dataBuf.drop (payload.length + 3))
        (min payload.length (slave.dataBuf.length - 3)) .hostToDevice
      .ok ⟨resid :: cmd :: payloadLen :: outcome.payload, outcome.device⟩) := by
  have received := foldl_i2cMasterSentData (resid :: cmd :: payloadLen :: payload) []
    slave.dataBuf
  rcases Nat.exists_eq_add_of_le' header with ⟨room, length⟩
  simp only [List.nil_append, List.length_nil, Nat.zero_add, List.length_cons, length,
    List.take_succ_cons, List.cons_append] at received
  have more : min (payload.length + 1 + 1 + 1) (room + 3) = min payload.length room + 3 := by
    omega
  unfold I2cSlave.write
  simp only [received, more, Nat.zero_lt_succ, if_true, deviceControlI2cRxCb, Nat.le_add_left,
    Nat.add_sub_cancel, length]

/-! ## Both transfers of a command -/

variable {state : Registering Queue Link} {servicer : Slot Queue Link} {payload : List UInt8}

/-- The slave between two commands. -/
structure I2cSlave.Stands (slave : I2cSlave Queue Link App) (state : Registering Queue Link)
    (bufLen : Nat) : Prop where
  follows : slave.device.Follows state
  length : slave.dataBuf.length = bufLen

/-- A packet for a known resource. -/
theorem write_found
    (found : (resourceTableSearch slave.device.ctx.resourceTable resid).1 = 0)
    (header : 3 ≤ slave.dataBuf.length)
    (payloadLen : UInt8) (payload : List UInt8) :
    slave.write callbacks (resid :: cmd :: payloadLen :: payload) = (do
      let outcome ← deviceControlPayloadTransfer callbacks
        (slave.device.requested resid cmd payloadLen.toNat)
        (payload.take (slave.dataBuf.length - 3) ++ slave.dataBuf.drop (payload.length + 3))
        (min payload.length (slave.dataBuf.length - 3)) .hostToDevice
      .ok ⟨resid :: cmd :: payloadLen :: outcome.payload, outcome.device⟩) := by
  rw [write_packet header, deviceControlRequest_found found]
  rfl

theorem read_status
    (found : (resourceTableSearch slave.device.ctx.resourceTable
      slave.device.ctx.requestedResid).1 = 0)
    (isWrite : isControlCmdRead slave.device.ctx.requestedCmd = false)
    {first : UInt8} {rest : List UInt8} (buffer : slave.dataBuf = first :: rest) (count : Nat) :
    slave.read callbacks count =
      .ok (i2cMasterReqData (slave.device.ctx.lastStatus :: rest) 0 count,
        ⟨slave.device.ctx.lastStatus :: rest, slave.device⟩) := by
  unfold I2cSlave.read deviceControlI2cTxStartCb
  rw [payloadTransfer_status found isWrite, buffer]
  simp [Device.answerLastStatus, storeByte, bind, Except.bind]

theorem read_statusByte
    (found : (resourceTableSearch slave.device.ctx.resourceTable
      slave.device.ctx.requestedResid).1 = 0)
    (isWrite : isControlCmdRead slave.device.ctx.requestedCmd = false)
    {first : UInt8} {rest : List UInt8} (buffer : slave.dataBuf = first :: rest) :
    slave.read callbacks 1 = .ok ([slave.device.ctx.lastStatus],
      ⟨slave.device.ctx.lastStatus :: rest, slave.device⟩) :=
  (read_status found isWrite buffer 1).trans (by simp [i2cMasterReqData])

theorem read_unknown (follows : slave.device.Follows state)
    (ordinary : slave.device.ctx.requestedResid ≠ controlSpecialResid)
    (free : state.ctx.resourceTable slave.device.ctx.requestedResid = noServicer)
    {first : UInt8} {rest : List UInt8} (buffer : slave.dataBuf = first :: rest) (count : Nat) :
    slave.read callbacks count =
      .ok (i2cMasterReqData (ControlRet.badResource.toUInt8 :: rest) 0 count,
        ⟨ControlRet.badResource.toUInt8 :: rest, slave.device.setLastStatus .badResource⟩) := by
  unfold I2cSlave.read deviceControlI2cTxStartCb
  rw [payloadTransfer_unknown follows ordinary free, buffer]
  simp [Device.answerLastStatus, storeByte, Device.setLastStatus, bind, Except.bind]

theorem controlWriteCommand_eq {carriage : Carriage} {middle after : I2cSlave Queue Link App}
    {status : UInt8}
    (delivers : carriage.Delivers slave.dataBuf.length (.write resid cmd payload))
    (written : slave.write callbacks
      (controlBuildI2cData resid cmd payload payload.length) = .ok middle)
    (readBack : middle.read callbacks 1 = .ok ([status], after)) :
    controlWriteCommand callbacks carriage slave resid cmd payload = .ok (status, after) := by
  have carried := (@write_take _ _ _ _ _ callbacks _ _ _ delivers.sent).trans written
  simp only [HostCommand.bytes] at carried
  simp [controlWriteCommand, carried, Carriage.carryRead, delivers.readRequested, readBack,
    Int.not_lt.mpr delivers.written, Int.not_lt.mpr delivers.read, bind, Except.bind]

theorem controlReadCommand_eq {carriage : Carriage} {middle after : I2cSlave Queue Link App}
    {received : List UInt8} (isRead : isControlCmdRead cmd = true)
    (delivers : carriage.Delivers slave.dataBuf.length (.read resid cmd payload))
    (written : slave.write callbacks
      (controlBuildI2cData resid cmd payload payload.length) = .ok middle)
    (answered : middle.read callbacks payload.length = .ok (received, after)) :
    controlReadCommand callbacks carriage slave resid cmd payload =
      .ok ((ControlRet.success.toUInt8, received), after) := by
  have carried := (@write_take _ _ _ _ _ callbacks _ _ _ delivers.sent).trans written
  have header : (controlBuildI2cData resid cmd payload payload.length).length = 3 := by
    simp [controlBuildI2cData, isRead]
  simp only [HostCommand.bytes] at carried
  simp [controlReadCommand, header, carried, Carriage.carryRead, delivers.readRequested,
    answered, Int.not_lt.mpr delivers.ioctl, bind, Except.bind]

omit [DecidableEq Queue] [DecidableEq Link] in
theorem controlBuildI2cData_write (isWrite : isControlCmdRead cmd = false) :
    controlBuildI2cData resid cmd payload payload.length =
      resid :: cmd :: UInt8.ofNat payload.length :: payload := by
  simp [controlBuildI2cData, isWrite]

theorem toNat_ofNat_length (short : payload.length ≤ 255) :
    (UInt8.ofNat payload.length).toNat = payload.length := by
  rw [UInt8.toNat_ofNat']
  exact Nat.mod_eq_of_lt (Nat.lt_succ_of_le short)

/-- A write command that the buffer holds is executed, and its status is read back. -/
theorem write_fits (stands : slave.Stands state slave.dataBuf.length)
    (all : AllRegistered state) (lists : state.Lists servicer resid)
    (isWrite : isControlCmdRead cmd = false) (short : payload.length ≤ 255)
    (fits : 3 + payload.length ≤ slave.dataBuf.length) {carriage : Carriage}
    (delivers : carriage.Delivers slave.dataBuf.length (.write resid cmd payload)) :
    ∃ after, controlWriteCommand callbacks carriage slave resid cmd payload =
        .ok (((callbacks servicer).writeCmdCb resid cmd payload
          (slave.device.app servicer)).1.toUInt8, after) ∧
      after.Stands state slave.dataBuf.length ∧
      after.device.calls = slave.device.calls ++ [.write servicer resid cmd payload
        ((callbacks servicer).writeCmdCb resid cmd payload (slave.device.app servicer)).1] := by
  have follows : (slave.device.requested resid cmd payload.length).Follows state :=
    stands.follows.requested payload.length
  have inside : payload.length ≤ (payload ++ slave.dataBuf.drop (payload.length + 3)).length := by
    rw [List.length_append]
    exact Nat.le_add_right _ _
  have called : directCall callbacks servicer (slave.device.requested resid cmd payload.length)
      resid cmd (payload ++ slave.dataBuf.drop (payload.length + 3)) payload.length =
        ⟨((callbacks servicer).writeCmdCb resid cmd payload (slave.device.app servicer)).1,
          payload ++ slave.dataBuf.drop (payload.length + 3), payload.length,
          (slave.device.requested resid cmd payload.length).afterWrite callbacks servicer resid
            cmd payload⟩ := by
    simp [directCall, isWrite, Device.requested]
  have transferred := (@payloadTransfer_execute _ _ _ _ _ _ _ payload.length _ _ callbacks
    follows all lists isWrite le_rfl inside).trans
      (congrArg (fun outcome => Except.ok outcome.store) called)
  have written := @write_found _ _ _ _ _ callbacks slave resid cmd
    (stands.follows.found all lists) (by omega) (UInt8.ofNat payload.length) payload
  rw [toNat_ofNat_length short, List.take_of_length_le (by omega : payload.length ≤ _),
    Nat.min_eq_left (by omega : payload.length ≤ _), transferred,
    ← controlBuildI2cData_write isWrite] at written
  have kept : (((slave.device.requested resid cmd payload.length).afterWrite callbacks servicer
      resid cmd payload).setLastStatus ((callbacks servicer).writeCmdCb resid cmd payload
        (slave.device.app servicer)).1).Follows state :=
    ⟨follows.resourceTable, follows.servicerTable, follows.gatewayQueue⟩
  refine ⟨_, controlWriteCommand_eq delivers written
    (read_statusByte ?_ isWrite rfl), ⟨kept, ?_⟩, rfl⟩
  · exact kept.found all lists
  simp only [Outcome.store, List.length_cons, List.length_append, List.length_drop]
  omega

/-- A write command that the buffer does not hold is rejected. -/
theorem write_tooLong (stands : slave.Stands state slave.dataBuf.length)
    (all : AllRegistered state) (lists : state.Lists servicer resid)
    (isWrite : isControlCmdRead cmd = false) (short : payload.length ≤ 255)
    (header : 3 ≤ slave.dataBuf.length) (long : slave.dataBuf.length < 3 + payload.length)
    {carriage : Carriage}
    (delivers : carriage.Delivers slave.dataBuf.length (.write resid cmd payload)) :
    ∃ after, controlWriteCommand callbacks carriage slave resid cmd payload =
        .ok (ControlRet.dataLengthError.toUInt8, after) ∧
      after.Stands state slave.dataBuf.length ∧ after.device.calls = slave.device.calls := by
  have follows : (slave.device.requested resid cmd payload.length).Follows state :=
    stands.follows.requested payload.length
  have written := @write_found _ _ _ _ _ callbacks slave resid cmd
    (stands.follows.found all lists) header (UInt8.ofNat payload.length) payload
  rw [toNat_ofNat_length short, payloadTransfer_tooLong (follows.found all lists) isWrite
    (by simp only [Device.requested]; omega), ← controlBuildI2cData_write isWrite] at written
  have kept := follows.setLastStatus .dataLengthError
  refine ⟨_, controlWriteCommand_eq delivers written
    (read_statusByte ?_ isWrite rfl), ⟨kept, ?_⟩, rfl⟩
  · exact kept.found all lists
  simp only [List.length_cons, List.length_append, List.length_take, List.length_drop]
  omega

/-- A packet for a free resource. -/
theorem write_unlisted (follows : slave.device.Follows state)
    (ordinary : resid ≠ controlSpecialResid)
    (free : state.ctx.resourceTable resid = noServicer) (header : 3 ≤ slave.dataBuf.length)
    (payloadLen : UInt8) (payload : List UInt8) :
    ∃ rest, rest.length + 1 = slave.dataBuf.length ∧
      slave.write callbacks (resid :: cmd :: payloadLen :: payload) =
        .ok ⟨resid :: rest, { slave.device with
          ctx := { slave.device.ctx with
            requestedResid := resid, lastStatus := ControlRet.badResource.toUInt8 } }⟩ := by
  have requested : Device.Follows { slave.device with
      ctx := { slave.device.ctx with requestedResid := resid } } state :=
    ⟨follows.resourceTable, follows.servicerTable, follows.gatewayQueue⟩
  rw [write_packet header, deviceControlRequest_free follows ordinary free,
    payloadTransfer_unknown requested ordinary free]
  refine ⟨_, ?_, rfl⟩
  simp only [List.length_cons, List.length_append, List.length_take, List.length_drop]
  omega

/-- A write command for a free resource is rejected. -/
theorem write_badResource (stands : slave.Stands state slave.dataBuf.length)
    (ordinary : resid ≠ controlSpecialResid)
    (free : state.ctx.resourceTable resid = noServicer) (isWrite : isControlCmdRead cmd = false)
    (header : 3 ≤ slave.dataBuf.length) {carriage : Carriage}
    (delivers : carriage.Delivers slave.dataBuf.length (.write resid cmd payload)) :
    ∃ after, controlWriteCommand callbacks carriage slave resid cmd payload =
        .ok (ControlRet.badResource.toUInt8, after) ∧
      after.Stands state slave.dataBuf.length ∧ after.device.calls = slave.device.calls := by
  rcases @write_unlisted _ _ _ _ _ callbacks slave resid cmd state stands.follows ordinary free
    header (UInt8.ofNat payload.length) payload with ⟨rest, length, written⟩
  rw [← controlBuildI2cData_write isWrite] at written
  have kept : Device.Follows { slave.device with
      ctx := { slave.device.ctx with
        requestedResid := resid, lastStatus := ControlRet.badResource.toUInt8 } } state :=
    ⟨stands.follows.resourceTable, stands.follows.servicerTable, stands.follows.gatewayQueue⟩
  exact ⟨_, controlWriteCommand_eq delivers written (read_unknown kept ordinary free rfl 1),
    ⟨kept.setLastStatus .badResource, length⟩, rfl⟩

omit [DecidableEq Queue] [DecidableEq Link] in
theorem controlBuildI2cData_read (isRead : isControlCmdRead cmd = true) :
    controlBuildI2cData resid cmd payload payload.length =
      [resid, cmd, UInt8.ofNat payload.length] := by
  simp [controlBuildI2cData, isRead]

/-- A read command for a free resource runs no callback. -/
theorem read_badResource (stands : slave.Stands state slave.dataBuf.length)
    (ordinary : resid ≠ controlSpecialResid)
    (free : state.ctx.resourceTable resid = noServicer) (isRead : isControlCmdRead cmd = true)
    (header : 3 ≤ slave.dataBuf.length) {carriage : Carriage}
    (delivers : carriage.Delivers slave.dataBuf.length (.read resid cmd payload)) :
    ∃ reply after, controlReadCommand callbacks carriage slave resid cmd payload =
        .ok (reply, after) ∧
      after.Stands state slave.dataBuf.length ∧ after.device.calls = slave.device.calls := by
  rcases @write_unlisted _ _ _ _ _ callbacks slave resid cmd state stands.follows ordinary free
    header (UInt8.ofNat payload.length) [] with ⟨rest, length, written⟩
  rw [← controlBuildI2cData_read isRead] at written
  have kept : Device.Follows { slave.device with
      ctx := { slave.device.ctx with
        requestedResid := resid, lastStatus := ControlRet.badResource.toUInt8 } } state :=
    ⟨stands.follows.resourceTable, stands.follows.servicerTable, stands.follows.gatewayQueue⟩
  exact ⟨_, _, controlReadCommand_eq isRead delivers written
    (read_unknown kept ordinary free rfl payload.length),
    ⟨kept.setLastStatus .badResource, length⟩, rfl⟩

/-- The answer of a read command is read. -/
theorem read_answer (follows : slave.device.Follows state) (all : AllRegistered state)
    (lists : state.Lists servicer slave.device.ctx.requestedResid)
    (isRead : isControlCmdRead slave.device.ctx.requestedCmd = true)
    (positive : 0 < slave.device.ctx.requestedPayloadLen)
    (inside : slave.device.ctx.requestedPayloadLen ≤ slave.dataBuf.length) :
    slave.read callbacks slave.device.ctx.requestedPayloadLen =
      .ok (((callbacks servicer).readCmdCb slave.device.ctx.requestedResid
          slave.device.ctx.requestedCmd slave.device.ctx.requestedPayloadLen
          (slave.device.app servicer)).2.1.toList,
        ⟨((callbacks servicer).readCmdCb slave.device.ctx.requestedResid
          slave.device.ctx.requestedCmd slave.device.ctx.requestedPayloadLen
          (slave.device.app servicer)).2.1.toList ++
            slave.dataBuf.drop slave.device.ctx.requestedPayloadLen,
          slave.device.afterRead callbacks servicer slave.device.ctx.requestedResid
            slave.device.ctx.requestedCmd slave.device.ctx.requestedPayloadLen⟩) := by
  unfold I2cSlave.read deviceControlI2cTxStartCb
  rw [payloadTransfer_answer follows all lists isRead inside (fun _ _ => positive)]
  simp only [bind, Except.bind, directCall, isRead, if_true, Except.ok.injEq, Prod.mk.injEq,
    and_true]
  rw [i2cMasterReqData_eq _ _ _ (by simp)]
  simp

/-- A read command is executed when its answer is read. -/
theorem read_fits (stands : slave.Stands state slave.dataBuf.length)
    (all : AllRegistered state) (lists : state.Lists servicer resid)
    (isRead : isControlCmdRead cmd = true) (header : 3 ≤ slave.dataBuf.length)
    (positive : 1 ≤ payload.length) (fits : payload.length ≤ min 255 slave.dataBuf.length)
    {carriage : Carriage}
    (delivers : carriage.Delivers slave.dataBuf.length (.read resid cmd payload)) :
    ∃ after, controlReadCommand callbacks carriage slave resid cmd payload =
        .ok ((ControlRet.success.toUInt8, ((callbacks servicer).readCmdCb resid cmd
          payload.length (slave.device.app servicer)).2.1.toList), after) ∧
      after.Stands state slave.dataBuf.length ∧
      after.device.calls = slave.device.calls ++ [.read servicer resid cmd payload.length
        ((callbacks servicer).readCmdCb resid cmd payload.length (slave.device.app servicer)).1
        ((callbacks servicer).readCmdCb resid cmd payload.length
          (slave.device.app servicer)).2.1.toList] := by
  have short := fits.trans (Nat.min_le_left 255 _)
  have inside := fits.trans (Nat.min_le_right 255 _)
  have follows : ((slave.device.requested resid cmd payload.length).setLastStatus
      .success).Follows state :=
    (stands.follows.requested payload.length).setLastStatus .success
  have written := @write_found _ _ _ _ _ callbacks slave resid cmd
    (stands.follows.found all lists) header (UInt8.ofNat payload.length) []
  rw [toNat_ofNat_length short,
    payloadTransfer_announce ((stands.follows.requested payload.length).found all lists) isRead,
    ← controlBuildI2cData_read isRead, List.take_nil, List.nil_append] at written
  have length : (resid :: cmd :: UInt8.ofNat payload.length ::
      slave.dataBuf.drop 3).length = slave.dataBuf.length := by
    simp only [List.length_cons, List.length_drop]
    omega
  have answered := @read_answer _ _ _ _ _ callbacks
    ⟨resid :: cmd :: UInt8.ofNat payload.length :: slave.dataBuf.drop 3,
      (slave.device.requested resid cmd payload.length).setLastStatus .success⟩ state servicer
    follows all lists isRead positive (inside.trans_eq length.symm)
  refine ⟨_, controlReadCommand_eq isRead delivers written answered, ?_, rfl⟩
  constructor
  case follows => exact ⟨follows.resourceTable, follows.servicerTable, follows.gatewayQueue⟩
  case length =>
    have inBuffer : payload.length ≤
        (resid :: cmd :: UInt8.ofNat payload.length :: slave.dataBuf.drop 3).length :=
      inside.trans_eq length.symm
    rw [List.length_append, List.length_drop, List.Vector.toList_length, ← length]
    exact Nat.add_sub_cancel' inBuffer

/-! ## A history of commands -/

theorem perform_write {carriage : Carriage} {status : UInt8} {after : I2cSlave Queue Link App}
    (executed : controlWriteCommand callbacks carriage slave resid cmd payload =
      .ok (status, after)) :
    (HostCommand.write resid cmd payload).perform callbacks carriage slave =
      .ok ((status, payload), after) := by
  simp [HostCommand.perform, executed, bind, Except.bind]

/-- One command is executed as it has to be, and leaves the slave ready for the next one. -/
theorem perform_served {command : HostCommand} {carriage : Carriage} {bufLen : Nat}
    (stands : slave.Stands state bufLen) (all : AllRegistered state) (header : 3 ≤ bufLen)
    (proper : command.Proper bufLen) (delivers : carriage.Delivers bufLen command) :
    ∃ status received after,
      command.perform callbacks carriage slave = .ok ((status, received), after) ∧
        after.Stands state bufLen ∧
        command.Served callbacks state slave status received after := by
  rcases stands with ⟨follows, rfl⟩
  have stands : slave.Stands state slave.dataBuf.length := ⟨follows, rfl⟩
  by_cases listed : ∃ servicer, state.Lists servicer command.resid
  case pos =>
    rcases listed with ⟨servicer, lists⟩
    have notFree : ¬ ∀ other, ¬ state.Lists other command.resid :=
      fun unlisted => unlisted servicer lists
    cases command with
    | write resid cmd payload =>
        rcases proper with ⟨_, isWrite, short⟩
        by_cases fits : 3 + payload.length ≤ slave.dataBuf.length
        · rcases @write_fits _ _ _ _ _ callbacks slave resid cmd state servicer payload stands all
            lists isWrite (by omega) fits _ delivers with ⟨after, executed, kept, calls⟩
          refine ⟨_, payload, after, perform_write executed,
            kept, ?_, ?_, fun unlisted => absurd unlisted notFree⟩
          · rintro other otherLists _
            rw [all.lists_unique lists otherLists]
            exact ⟨calls, rfl⟩
          · rintro other _ long
            exact absurd fits (Nat.not_le.mpr long)
        · rcases @write_tooLong _ _ _ _ _ callbacks slave resid cmd state servicer payload stands
            all lists isWrite (by omega) header (Nat.not_le.mp fits) _ delivers with
            ⟨after, executed, kept, calls⟩
          refine ⟨_, payload, after, perform_write executed,
            kept, ?_, fun _ _ _ => ⟨calls, rfl⟩, fun unlisted => absurd unlisted notFree⟩
          rintro other _ inside
          exact absurd inside fits
    | read resid cmd payload =>
        rcases proper with ⟨_, isRead, positive, fits⟩
        rcases @read_fits _ _ _ _ _ callbacks slave resid cmd state servicer payload stands all
          lists isRead header positive fits _ delivers with ⟨after, executed, kept, calls⟩
        refine ⟨_, _, after, executed, kept, ?_, fun unlisted => absurd unlisted notFree⟩
        rintro other otherLists
        rw [all.lists_unique lists otherLists]
        exact ⟨calls, rfl⟩
  case neg =>
    have free := all.free (not_exists.mp listed)
    have absent : ∀ other, ¬ state.Lists other command.resid := not_exists.mp listed
    cases command with
    | write resid cmd payload =>
        rcases proper with ⟨ordinary, isWrite, _⟩
        rcases @write_badResource _ _ _ _ _ callbacks slave resid cmd state payload stands ordinary
          free isWrite header _ delivers with ⟨after, executed, kept, calls⟩
        exact ⟨_, payload, after, perform_write executed, kept,
          fun other lists => absurd lists (absent other),
          fun other lists => absurd lists (absent other), fun _ => ⟨calls, rfl⟩⟩
    | read resid cmd payload =>
        rcases proper with ⟨ordinary, isRead, _, _⟩
        rcases @read_badResource _ _ _ _ _ callbacks slave resid cmd state payload stands ordinary
          free isRead header _ delivers with ⟨⟨status, received⟩, after, executed, kept, calls⟩
        exact ⟨status, received, after, executed, kept,
          fun other lists => absurd lists (absent other), fun _ => calls⟩

/-- A history is executed command by command. -/
theorem performAll_stands {bufLen : Nat} (all : AllRegistered state) (header : 3 ≤ bufLen)
    {history : List (HostCommand × Carriage)}
    (proper : ∀ entry ∈ history, entry.1.Proper bufLen ∧ entry.2.Delivers bufLen entry.1)
    (stands : slave.Stands state bufLen) :
    ∃ after, performAll callbacks history slave = .ok after ∧ after.Stands state bufLen := by
  induction history generalizing slave with
  | nil => exact ⟨slave, rfl, stands⟩
  | cons entry rest ih =>
      rcases entry with ⟨command, carriage⟩
      rcases proper _ List.mem_cons_self with ⟨commandProper, delivers⟩
      rcases @perform_served _ _ _ _ _ callbacks slave state command carriage bufLen stands all
        header commandProper delivers with ⟨status, received, middle, executed, kept, _⟩
      rcases ih (fun other inRest => proper other (List.mem_cons_of_mem _ inRest)) kept with
        ⟨after, rest_, afterStands⟩
      refine ⟨after, ?_, afterStands⟩
      unfold performAll
      rw [executed]
      exact rest_

end

section
variable [DecidableEq Queue] [DecidableEq Link]

/-- With a buffer that holds the header of a packet: after a successful registration, every
command of every history is executed once, or rejected with its status, and the host gets
the status or the payload of its own run. -/
theorem i2c_executesOnce (callbacks : Slot Queue Link → Callbacks App)
    (servicerCount : Nat) (links : List Link) (rounds : List (Round Queue))
    (success : (deviceControlResourcesRegister (.host servicerCount links) rounds).1 = .success)
    (app : Slot Queue Link → App) (dataBuf : List UInt8) (header : 3 ≤ dataBuf.length)
    (history : List (HostCommand × Carriage))
    (proper : ∀ entry ∈ history,
      entry.1.Proper dataBuf.length ∧ entry.2.Delivers dataBuf.length entry.1) :
    ExecutesOnce callbacks
      (deviceControlResourcesRegister (.host servicerCount links) rounds).2
      ⟨dataBuf, (deviceControlResourcesRegister (.host servicerCount links) rounds).2.device app⟩
      history := by
  have all := allRegistered_of_success success
  rintro earlier command carriage ⟨later, rfl⟩
  have isEntry : ∀ entry ∈ earlier ++ [(command, carriage)],
      entry ∈ earlier ++ [(command, carriage)] ++ later :=
    fun _ inPrefix => List.mem_append_left _ inPrefix
  have stands : I2cSlave.Stands ⟨dataBuf, (deviceControlResourcesRegister
      (.host servicerCount links) rounds).2.device app⟩ _ dataBuf.length :=
    ⟨Registering.device_follows app, rfl⟩
  rcases @performAll_stands _ _ _ _ _ callbacks _ _ _ all header earlier
    (fun entry inEarlier => proper entry (isEntry entry (List.mem_append_left _ inEarlier)))
    stands with ⟨before, executed, beforeStands⟩
  rcases proper (command, carriage) (isEntry _ (List.mem_append_right _ List.mem_cons_self))
    with ⟨commandProper, delivers⟩
  rcases @perform_served _ _ _ _ _ callbacks before _ command carriage _ beforeStands all header
    commandProper delivers with ⟨status, received, after, performed, _, served⟩
  exact ⟨before, status, received, after, executed, performed, served⟩

end

/-- A bus that carries up to four bytes without an error. -/
def fourBytes : Carriage := ⟨4, true, 4, 1, 0⟩

theorem writeThenRead_executesOnce :
    ExecutesOnce (fun _ => zeroes) oneOffTile ⟨[0, 0, 0, 0], oneOffTile.device fun _ => ()⟩
      [(.write 1 0 [7], fourBytes), (.read 1 0x80 [0], fourBytes)] := by
  apply i2c_executesOnce (fun _ => zeroes) 1 [()] [⟨none, fun _ => some ⟨(), [1]⟩⟩] (by decide)
    (fun _ => ()) [0, 0, 0, 0] (by decide)
  intro entry isEntry
  rcases List.mem_pair.mp isEntry with rfl | rfl
  · exact ⟨⟨by decide, by decide, by decide⟩, ⟨by decide, rfl, by decide, by decide, by decide⟩⟩
  · exact ⟨⟨by decide, by decide, by decide, by decide⟩,
      ⟨by decide, rfl, by decide, by decide, by decide⟩⟩

/-- In a buffer of two bytes a command arrives as a malformed packet. -/
theorem twoBytes_not_executesOnce :
    oneOffTile.Lists ⟨some (), ()⟩ 1 ∧ (HostCommand.write 1 0 []).Proper 2 ∧
      fourBytes.Delivers 2 (.write 1 0 []) ∧
      ¬ ExecutesOnce (fun _ => zeroes) oneOffTile ⟨[0, 0], oneOffTile.device fun _ => ()⟩
        [(.write 1 0 [], fourBytes)] := by
  refine ⟨oneOffTile_lists, ⟨by decide, by decide, by decide⟩,
    ⟨by decide, rfl, by decide, by decide, by decide⟩, ?_⟩
  intro executes
  rcases executes [] (.write 1 0 []) fourBytes (List.prefix_refl _) with
    ⟨before, status, received, after, executed, performed, _, rejected, _⟩
  cases executed
  cases performed
  exact absurd (rejected _ oneOffTile_lists (by decide)).2 (by decide)

end FwkRtos.DeviceControl

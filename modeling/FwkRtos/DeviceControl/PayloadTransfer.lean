import FwkRtos.DeviceControl.Routing

/-!
# Payload transfers

What `device_control_payload_transfer` comes to, branch by branch, once the servicers are
registered: it depends on whether the requested resource is known, on the kind of the
requested command, and on the direction of the transfer.
-/

namespace FwkRtos.DeviceControl

section
variable {Queue Link App : Type} {state : Registering Queue Link}
  {device : Device Queue Link App} {servicer : Slot Queue Link} {payloadBuf : List UInt8}
  {bufSize : Nat}

/-- An ID that no registered servicer lists is free. -/
theorem AllRegistered.free (all : AllRegistered state) {resid : ControlResid}
    (unlisted : ∀ servicer, ¬ state.Lists servicer resid) :
    state.ctx.resourceTable resid = noServicer := by
  by_contra registered
  rcases all.inv.routes resid registered with ⟨initCmd, link, isRegistered, listed, _⟩
  exact unlisted ⟨link, initCmd.queue⟩
    ⟨initCmd, List.mem_of_getElem? isRegistered, listed, rfl⟩

/-- The search for a free ID fails. -/
theorem Device.Follows.notFound (follows : device.Follows state) {resid : ControlResid}
    (ordinary : resid ≠ controlSpecialResid)
    (free : state.ctx.resourceTable resid = noServicer) :
    resourceTableSearch device.ctx.resourceTable resid = (1, noServicer) := by
  unfold resourceTableSearch
  rw [follows.resourceTable, free, if_neg (by simp [ordinary])]

@[simp]
theorem resourceTableSearch_special (table : ResourceTable) :
    (resourceTableSearch table controlSpecialResid).1 = 0 :=
  congrArg Prod.fst (if_pos (.inl rfl))

/-- The search for an ID that a registered servicer lists succeeds. -/
theorem Device.Follows.found (follows : device.Follows state) (all : AllRegistered state)
    {resid : ControlResid} (lists : state.Lists servicer resid) :
    (resourceTableSearch device.ctx.resourceTable resid).1 = 0 :=
  congrArg Prod.fst (follows.routed all lists).2.1

theorem deviceControlRequest_found {ctx : Context Queue Link} {resid : ControlResid}
    (found : (resourceTableSearch ctx.resourceTable resid).1 = 0) (cmd : ControlCmd)
    (payloadLen : Nat) :
    (deviceControlRequest ctx resid cmd payloadLen).2 =
      { ctx with
        requestedResid := resid, requestedCmd := cmd, requestedPayloadLen := payloadLen } := by
  unfold deviceControlRequest
  rw [if_pos found]

theorem deviceControlRequest_free (follows : device.Follows state) {resid : ControlResid}
    (ordinary : resid ≠ controlSpecialResid)
    (free : state.ctx.resourceTable resid = noServicer) (cmd : ControlCmd) (payloadLen : Nat) :
    (deviceControlRequest device.ctx resid cmd payloadLen).2 =
      { device.ctx with requestedResid := resid } := by
  unfold deviceControlRequest
  rw [follows.notFound ordinary free]
  rfl

/-- The device after the request that a command begins with. -/
def Device.requested (device : Device Queue Link App) (resid : ControlResid) (cmd : ControlCmd)
    (payloadLen : Nat) : Device Queue Link App :=
  { device with
    ctx := { device.ctx with
      requestedResid := resid, requestedCmd := cmd, requestedPayloadLen := payloadLen } }

theorem Device.Follows.requested {resid : ControlResid} {cmd : ControlCmd}
    (follows : device.Follows state) (payloadLen : Nat) :
    (device.requested resid cmd payloadLen).Follows state :=
  ⟨follows.resourceTable, follows.servicerTable, follows.gatewayQueue⟩

theorem Device.Follows.request (follows : device.Follows state) (resid : ControlResid)
    (cmd : ControlCmd) (payloadLen : Nat) :
    Device.Follows { device with
      ctx := (deviceControlRequest device.ctx resid cmd payloadLen).2 } state := by
  unfold deviceControlRequest
  split <;> exact ⟨follows.resourceTable, follows.servicerTable, follows.gatewayQueue⟩

@[simp]
theorem setLastStatus_gatewayQueue (status : ControlRet) :
    (device.setLastStatus status).gatewayQueue = device.gatewayQueue :=
  rfl

/-- The status becomes that of the last command. -/
def Outcome.store (outcome : Outcome Queue Link App) : Outcome Queue Link App :=
  { outcome with ret := .success, device := outcome.device.setLastStatus outcome.ret }

theorem Device.Follows.setLastStatus (follows : device.Follows state) (status : ControlRet) :
    (device.setLastStatus status).Follows state :=
  ⟨follows.resourceTable, follows.servicerTable, follows.gatewayQueue⟩

variable [DecidableEq Queue] [DecidableEq Link] {callbacks : Slot Queue Link → Callbacks App}

/-- What the transfer of a write command's payload comes to. -/
theorem payloadTransfer_execute (follows : device.Follows state) (all : AllRegistered state)
    (lists : state.Lists servicer device.ctx.requestedResid)
    (isWrite : isControlCmdRead device.ctx.requestedCmd = false)
    (offered : device.ctx.requestedPayloadLen ≤ bufSize) (inside : bufSize ≤ payloadBuf.length) :
    deviceControlPayloadTransfer callbacks device payloadBuf bufSize .hostToDevice =
      .ok (directCall callbacks servicer device device.ctx.requestedResid
        device.ctx.requestedCmd payloadBuf device.ctx.requestedPayloadLen).store := by
  rcases follows.routed all lists with ⟨ordinary, found, stored⟩
  have executed := @doCommand_eq _ _ _ _ _ callbacks servicer device device.ctx.requestedResid
    device.ctx.requestedCmd payloadBuf device.ctx.requestedPayloadLen _ ordinary stored
    follows.gatewayQueue (offered.trans inside) (fun _ isRead => by simp [isWrite] at isRead)
  simp only [deviceControlPayloadTransfer, found, if_true, isWrite, Bool.false_eq_true, if_false,
    if_pos offered, executed]
  rfl

theorem payloadTransfer_tooLong
    (found : (resourceTableSearch device.ctx.resourceTable device.ctx.requestedResid).1 = 0)
    (isWrite : isControlCmdRead device.ctx.requestedCmd = false)
    (short : bufSize < device.ctx.requestedPayloadLen) :
    deviceControlPayloadTransfer callbacks device payloadBuf bufSize .hostToDevice =
      .ok ⟨.success, payloadBuf, 0, device.setLastStatus .dataLengthError⟩ := by
  simp only [deviceControlPayloadTransfer, found, if_true, isWrite, Bool.false_eq_true, if_false,
    if_neg (Nat.not_le.mpr short)]

/-- A read command is only announced when it is written. -/
theorem payloadTransfer_announce
    (found : (resourceTableSearch device.ctx.resourceTable device.ctx.requestedResid).1 = 0)
    (isRead : isControlCmdRead device.ctx.requestedCmd = true) :
    deviceControlPayloadTransfer callbacks device payloadBuf bufSize .hostToDevice =
      .ok ⟨.success, payloadBuf, 0, device.setLastStatus .success⟩ := by
  simp only [deviceControlPayloadTransfer, found, if_true, isRead]

/-- The status of a write command is read back. -/
theorem payloadTransfer_status
    (found : (resourceTableSearch device.ctx.resourceTable device.ctx.requestedResid).1 = 0)
    (isWrite : isControlCmdRead device.ctx.requestedCmd = false) :
    deviceControlPayloadTransfer callbacks device payloadBuf bufSize .deviceToHost =
      device.answerLastStatus payloadBuf := by
  simp only [deviceControlPayloadTransfer, found, if_true, isWrite, Bool.false_eq_true, if_false]

/-- A read command is executed when its answer is read. -/
theorem payloadTransfer_answer (follows : device.Follows state) (all : AllRegistered state)
    (lists : state.Lists servicer device.ctx.requestedResid)
    (isRead : isControlCmdRead device.ctx.requestedCmd = true)
    (fits : device.ctx.requestedPayloadLen ≤ payloadBuf.length)
    (accepts : servicer.Accepts device.ctx.requestedCmd device.ctx.requestedPayloadLen) :
    deviceControlPayloadTransfer callbacks device payloadBuf bufSize .deviceToHost =
      .ok { directCall callbacks servicer device device.ctx.requestedResid
        device.ctx.requestedCmd payloadBuf device.ctx.requestedPayloadLen with
          ret := .success } := by
  rcases follows.routed all lists with ⟨ordinary, found, stored⟩
  have executed := @doCommand_eq _ _ _ _ _ callbacks servicer device device.ctx.requestedResid
    device.ctx.requestedCmd payloadBuf device.ctx.requestedPayloadLen _ ordinary stored
    follows.gatewayQueue fits accepts
  simp only [deviceControlPayloadTransfer, found, if_true, isRead, executed]
  rfl

theorem payloadTransfer_unknown (follows : device.Follows state)
    (ordinary : device.ctx.requestedResid ≠ controlSpecialResid)
    (free : state.ctx.resourceTable device.ctx.requestedResid = noServicer)
    (direction : ControlDirection) :
    deviceControlPayloadTransfer callbacks device payloadBuf bufSize direction =
      match direction with
      | .hostToDevice => .ok ⟨.success, payloadBuf, 0, device.setLastStatus .badResource⟩
      | .deviceToHost => (device.setLastStatus .badResource).answerLastStatus payloadBuf := by
  cases direction <;> simp [deviceControlPayloadTransfer, follows.notFound ordinary free]

/-! ## Which transfers return -/

omit [DecidableEq Queue] [DecidableEq Link] in
/-- The search succeeds for the special ID and for those that a servicer lists. -/
theorem Device.Follows.found_iff (follows : device.Follows state) (all : AllRegistered state)
    {resid : ControlResid} :
    (resourceTableSearch device.ctx.resourceTable resid).1 = 0 ↔
      resid = controlSpecialResid ∨ ∃ servicer, state.Lists servicer resid := by
  constructor
  · intro found
    by_contra unknown
    rcases not_or.mp unknown with ⟨ordinary, unlisted⟩
    rw [follows.notFound ordinary (all.free (not_exists.mp unlisted))] at found
    cases found
  · rintro (rfl | ⟨servicer, lists⟩)
    · exact resourceTableSearch_special _
    · exact follows.found all lists

/-- What a transfer keeps: the tables, the requested length and the size of the buffer. -/
structure Outcome.Keeps (outcome : Outcome Queue Link App) (state : Registering Queue Link)
    (device : Device Queue Link App) (payloadBuf : List UInt8) : Prop where
  follows : outcome.device.Follows state
  length : outcome.payload.length = payloadBuf.length
  requested : outcome.device.ctx.requestedPayloadLen = device.ctx.requestedPayloadLen

theorem directCall_keeps (follows : device.Follows state) {resid : ControlResid}
    {cmd : ControlCmd} {payloadLen : Nat} (fits : payloadLen ≤ payloadBuf.length) :
    (directCall callbacks servicer device resid cmd payloadBuf payloadLen).Keeps state device
      payloadBuf := by
  constructor
  case follows => exact follows.directCall
  case requested => rw [directCall_ctx]
  case length =>
    unfold directCall
    split
    · simp only [List.length_append, List.Vector.toList_length, List.length_drop]
      exact Nat.add_sub_cancel' fits
    · rfl

/-- A transfer that runs no callback, and accesses no more than some bytes of the buffer. -/
structure Outcome.Idle (outcome : Outcome Queue Link App) (state : Registering Queue Link)
    (device : Device Queue Link App) (payloadBuf : List UInt8) (most : Nat) : Prop
    extends outcome.Keeps state device payloadBuf where
  ret : outcome.ret = .success
  calls : outcome.device.calls = device.calls
  extent : outcome.extent ≤ most

/-- A transfer to the device runs a callback only for a write command that a servicer
lists; any other one returns. -/
theorem payloadTransfer_hostToDevice_idle (follows : device.Follows state)
    (all : AllRegistered state)
    (idle : isControlCmdRead device.ctx.requestedCmd = true ∨
      (∀ servicer, ¬ state.Lists servicer device.ctx.requestedResid) ∨
        bufSize < device.ctx.requestedPayloadLen) :
    ∃ outcome, deviceControlPayloadTransfer callbacks device payloadBuf bufSize .hostToDevice =
        .ok outcome ∧ outcome.Idle state device payloadBuf 0 := by
  have same : ∀ status, Outcome.Idle
      ⟨.success, payloadBuf, 0, device.setLastStatus status⟩ state device payloadBuf 0 :=
    fun status => ⟨⟨follows.setLastStatus status, rfl, rfl⟩, rfl, rfl, le_rfl⟩
  by_cases found :
      (resourceTableSearch device.ctx.resourceTable device.ctx.requestedResid).1 = 0
  case neg =>
    rcases not_or.mp (mt (follows.found_iff all).mpr found) with ⟨ordinary, unlisted⟩
    exact ⟨_, payloadTransfer_unknown follows ordinary (all.free (not_exists.mp unlisted)) _,
      same _⟩
  case pos =>
    cases isRead : isControlCmdRead device.ctx.requestedCmd with
    | true => exact ⟨_, payloadTransfer_announce found isRead, same _⟩
    | false =>
        by_cases offered : device.ctx.requestedPayloadLen ≤ bufSize
        case neg => exact ⟨_, payloadTransfer_tooLong found isRead (Nat.not_le.mp offered), same _⟩
        case pos =>
          rcases (follows.found_iff all).mp found with special | ⟨servicer, lists⟩
          · refine ⟨⟨.success, payloadBuf, 0, device.setLastStatus .badCommand⟩, ?_, same _⟩
            simp [deviceControlPayloadTransfer, isRead, offered, doCommand, special, bind,
              Except.bind]
          · rcases idle with isRead_ | unlisted | short
            · exact absurd (isRead.symm.trans isRead_) (by simp)
            · exact absurd lists (unlisted servicer)
            · exact absurd offered (Nat.not_le.mpr short)

/-- A transfer to the device returns. -/
theorem payloadTransfer_hostToDevice (follows : device.Follows state)
    (all : AllRegistered state) (inside : bufSize ≤ payloadBuf.length) :
    ∃ outcome, deviceControlPayloadTransfer callbacks device payloadBuf bufSize .hostToDevice =
        .ok outcome ∧ outcome.Keeps state device payloadBuf := by
  by_cases idle : isControlCmdRead device.ctx.requestedCmd = true ∨
      (∀ servicer, ¬ state.Lists servicer device.ctx.requestedResid) ∨
        bufSize < device.ctx.requestedPayloadLen
  case pos =>
    rcases @payloadTransfer_hostToDevice_idle _ _ _ state device payloadBuf bufSize _ _ callbacks
      follows all idle with ⟨outcome, executed, isIdle⟩
    exact ⟨outcome, executed, isIdle.toKeeps⟩
  case neg =>
    rcases not_or.mp idle with ⟨notRead, rest⟩
    rcases not_or.mp rest with ⟨listed, notShort⟩
    rcases not_forall_not.mp listed with ⟨servicer, lists⟩
    have offered := Nat.not_lt.mp notShort
    have kept := @directCall_keeps _ _ _ state device servicer payloadBuf _ _ callbacks
      follows device.ctx.requestedResid device.ctx.requestedCmd
      device.ctx.requestedPayloadLen (offered.trans inside)
    exact ⟨_, payloadTransfer_execute follows all lists (Bool.eq_false_of_not_eq_true notRead)
      offered inside, kept.follows.setLastStatus _, kept.length, kept.requested⟩

/-- The requested read does not ask a servicer on another tile for nothing. -/
def Device.Answerable (device : Device Queue Link App) (state : Registering Queue Link) : Prop :=
  ∀ servicer, state.Lists servicer device.ctx.requestedResid →
    servicer.Accepts device.ctx.requestedCmd device.ctx.requestedPayloadLen

omit [DecidableEq Queue] [DecidableEq Link] in
theorem answerLastStatus_keeps (follows : device.Follows state) {first : UInt8}
    {rest : List UInt8} (buffer : payloadBuf = first :: rest) :
    ∃ outcome, device.answerLastStatus payloadBuf = .ok outcome ∧
      outcome.Idle state device payloadBuf 1 := by
  subst buffer
  exact ⟨_, rfl, ⟨follows, rfl, rfl⟩, rfl, rfl, le_rfl⟩

omit [DecidableEq Queue] [DecidableEq Link] in
/-- The bytes that `special_read_command` returns fit a buffer that is not empty. -/
theorem specialReadCommand_keeps (follows : device.Follows state) {first : UInt8}
    {rest : List UInt8} (buffer : payloadBuf = first :: rest) (cmd : ControlCmd)
    (payloadLen : Nat) :
    ∃ outcome, specialReadCommand device cmd payloadBuf payloadLen = .ok outcome ∧
      { outcome with ret := .success : Outcome Queue Link App }.Idle state device
        payloadBuf 1 := by
  subst buffer
  unfold specialReadCommand
  cases specialByte device.ctx cmd payloadLen with
  | none => exact ⟨_, rfl, ⟨follows, rfl, rfl⟩, rfl, rfl, Nat.zero_le 1⟩
  | some byte => exact ⟨_, rfl, ⟨follows, rfl, rfl⟩, rfl, rfl, le_rfl⟩

/-- A transfer to the host runs a callback only for a read command that a servicer lists;
any other one returns. -/
theorem payloadTransfer_deviceToHost_idle (follows : device.Follows state)
    (all : AllRegistered state) {first : UInt8} {rest : List UInt8}
    (buffer : payloadBuf = first :: rest)
    (idle : isControlCmdRead device.ctx.requestedCmd = false ∨
      ∀ servicer, ¬ state.Lists servicer device.ctx.requestedResid) :
    ∃ outcome, deviceControlPayloadTransfer callbacks device payloadBuf bufSize .deviceToHost =
        .ok outcome ∧ outcome.Idle state device payloadBuf 1 := by
  by_cases found :
      (resourceTableSearch device.ctx.resourceTable device.ctx.requestedResid).1 = 0
  case neg =>
    rcases not_or.mp (mt (follows.found_iff all).mpr found) with ⟨ordinary, unlisted⟩
    rcases answerLastStatus_keeps (follows.setLastStatus .badResource) buffer with
      ⟨outcome, stored, kept⟩
    exact ⟨outcome, (payloadTransfer_unknown follows ordinary (all.free (not_exists.mp unlisted))
      .deviceToHost).trans stored, ⟨kept.follows, kept.length, kept.requested⟩, kept.ret,
      kept.calls, kept.extent⟩
  case pos =>
    cases isRead : isControlCmdRead device.ctx.requestedCmd with
    | false =>
        rw [payloadTransfer_status found isRead]
        exact answerLastStatus_keeps follows buffer
    | true =>
        rcases (follows.found_iff all).mp found with special | ⟨servicer, lists⟩
        · rcases specialReadCommand_keeps follows buffer device.ctx.requestedCmd
            device.ctx.requestedPayloadLen with ⟨outcome, executed, kept⟩
          refine ⟨{ outcome with ret := .success }, ?_, kept⟩
          simp [deviceControlPayloadTransfer, isRead, doCommand, special, executed, bind,
            Except.bind]
        · rcases idle with isWrite | unlisted
          · exact absurd (isRead.symm.trans isWrite) (by simp)
          · exact absurd lists (unlisted servicer)

/-- A read command that asks a servicer on another tile for nothing fails. -/
theorem payloadTransfer_not_accepted (follows : device.Follows state)
    (all : AllRegistered state) (lists : state.Lists servicer device.ctx.requestedResid)
    (refuses : ¬ servicer.Accepts device.ctx.requestedCmd device.ctx.requestedPayloadLen) :
    deviceControlPayloadTransfer callbacks device payloadBuf bufSize .deviceToHost =
      .error .assertion := by
  have isRead : isControlCmdRead device.ctx.requestedCmd = true := by
    by_contra isWrite
    exact refuses fun _ isRead => absurd isRead isWrite
  rcases follows.routed all lists with ⟨ordinary, search, stored⟩
  have failed := @doCommand_not_accepted _ _ _ _ _ callbacks servicer device
    device.ctx.requestedResid device.ctx.requestedCmd payloadBuf
    device.ctx.requestedPayloadLen _ ordinary stored refuses
  simp [deviceControlPayloadTransfer, search, isRead, failed, bind, Except.bind]

/-- A transfer to the host returns exactly when the requested read is answerable. -/
theorem payloadTransfer_deviceToHost (follows : device.Follows state)
    (all : AllRegistered state) (fits : device.ctx.requestedPayloadLen ≤ payloadBuf.length)
    {first : UInt8} {rest : List UInt8} (buffer : payloadBuf = first :: rest) :
    (device.Answerable state → ∃ outcome,
        deviceControlPayloadTransfer callbacks device payloadBuf bufSize .deviceToHost =
          .ok outcome ∧ outcome.Keeps state device payloadBuf) ∧
      (¬ device.Answerable state →
        deviceControlPayloadTransfer callbacks device payloadBuf bufSize .deviceToHost =
          .error .assertion) := by
  constructor
  · intro answerable
    by_cases idle : isControlCmdRead device.ctx.requestedCmd = false ∨
        ∀ servicer, ¬ state.Lists servicer device.ctx.requestedResid
    case pos =>
      rcases @payloadTransfer_deviceToHost_idle _ _ _ state device payloadBuf bufSize _ _
        callbacks follows all _ _ buffer idle with ⟨outcome, executed, kept⟩
      exact ⟨outcome, executed, kept.toKeeps⟩
    case neg =>
      rcases not_or.mp idle with ⟨notWrite, listed⟩
      rcases not_forall_not.mp listed with ⟨servicer, lists⟩
      have kept := @directCall_keeps _ _ _ state device servicer payloadBuf _ _ callbacks
        follows device.ctx.requestedResid device.ctx.requestedCmd
        device.ctx.requestedPayloadLen fits
      exact ⟨_, payloadTransfer_answer follows all lists (Bool.eq_true_of_not_eq_false notWrite)
        fits (answerable _ lists), kept.follows, kept.length, kept.requested⟩
  · intro refuses
    rcases not_forall.mp refuses with ⟨servicer, notAccepts⟩
    rcases Classical.not_imp.mp notAccepts with ⟨lists, refused⟩
    exact payloadTransfer_not_accepted follows all lists refused

/-- An answer that is longer than the buffer overruns it. -/
theorem payloadTransfer_overrun (follows : device.Follows state) (all : AllRegistered state)
    (lists : state.Lists servicer device.ctx.requestedResid)
    (isRead : isControlCmdRead device.ctx.requestedCmd = true)
    (long : payloadBuf.length < device.ctx.requestedPayloadLen) :
    deviceControlPayloadTransfer callbacks device payloadBuf bufSize .deviceToHost =
      .error .overrun := by
  rcases follows.routed all lists with ⟨ordinary, search, stored⟩
  have failed := @doCommand_overrun _ _ _ _ _ callbacks servicer device
    device.ctx.requestedResid device.ctx.requestedCmd payloadBuf
    device.ctx.requestedPayloadLen _ ordinary stored isRead long
  simp [deviceControlPayloadTransfer, search, isRead, failed, bind, Except.bind]

end

end FwkRtos.DeviceControl

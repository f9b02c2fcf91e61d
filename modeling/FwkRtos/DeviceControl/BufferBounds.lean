import FwkRtos.DeviceControl.LastStatus
import FwkRtos.DeviceControl.UsbControl

/-!
# The bounds of the transports' buffers

The transport tells `device_control_payload_transfer` how large its buffer is.  The size is
only looked at when a write command is received: nothing is stored in it, and the answer of
a read command is as long as the host announced.
-/

namespace FwkRtos.DeviceControl

variable {Queue Link App : Type}

section
variable [DecidableEq Queue] [DecidableEq Link] (callbacks : Slot Queue Link → Callbacks App)

/-- `device_control_payload_transfer` with the value that it leaves in `*buf_size`, which no
branch assigns. -/
def payloadTransferSized (device : Device Queue Link App) (payloadBuf : List UInt8)
    (bufSize : Nat) (direction : ControlDirection) :
    Except Fault (Outcome Queue Link App × Nat) := do
  let outcome ← deviceControlPayloadTransfer callbacks device payloadBuf bufSize direction
  .ok (outcome, bufSize)

/-- The call returns, accesses at most as many bytes as the buffer has and, when they are for
the host, says how many they are. -/
def TransferBounded (device : Device Queue Link App) (payloadBuf : List UInt8) (bufSize : Nat)
    (direction : ControlDirection) : Prop :=
  ∃ outcome size, payloadTransferSized callbacks device payloadBuf bufSize direction =
      .ok (outcome, size) ∧
    outcome.extent ≤ bufSize ∧ (direction = .deviceToHost → size = outcome.extent)

/-- The calls that a transfer over I2C makes are bounded. -/
def Transfer.KeepsBounds (slave : I2cSlave Queue Link App) : Transfer → Prop
  | .write bytes =>
      ∀ resid cmd payloadLen payload len,
        bytes.foldl i2cMasterSentData (slave.dataBuf, 0) =
            (resid :: cmd :: payloadLen :: payload, len) → 3 ≤ len →
          TransferBounded callbacks
            { slave.device with
              ctx := (deviceControlRequest slave.device.ctx resid cmd payloadLen.toNat).2 }
            payload (len - 3) .hostToDevice
  | .read _ => TransferBounded callbacks slave.device slave.dataBuf slave.dataBuf.length
      .deviceToHost

/-- The buffer is offered to the USB stack for no more bytes than it has, and the calls that
a request over USB makes are bounded. -/
def UsbCommand.KeepsBounds (driver : UsbDriver Queue Link App) (command : UsbCommand) : Prop :=
  let requested := deviceControlRequest driver.device.ctx command.request.resid
    command.request.cmd command.request.wLength.toNat
  let device := { driver.device with ctx := requested.2 }
  (∀ setup, deviceControlUsbXfer callbacks command.queued driver .setup command.request =
      .ok setup → ∀ offered ∈ setup.offered, offered ≤ cfgTudEndpoint0Size) ∧
  (requested.1 = .success → command.request.bmRequestType = reqTypeOut →
    ∀ received : List UInt8, command.request.wLength.toNat ≤ received.length →
      TransferBounded callbacks device received command.request.wLength.toNat .hostToDevice) ∧
  (requested.1 = .success → command.request.bmRequestType = reqTypeIn →
    TransferBounded callbacks device driver.requestData cfgTudEndpoint0Size .deviceToHost)

end

/-- The requests over USB that keep the bounds: in the direction of the device, those that
the endpoint holds; in the direction of the host, only reads of registered resources that
fill it. -/
def UsbCommand.Bounded (state : Registering Queue Link) (command : UsbCommand) : Prop :=
  command.request.resid = controlSpecialResid ∨
      (∃ servicer, state.Lists servicer command.request.resid) →
    (command.request.bmRequestType = reqTypeOut →
      command.request.wLength.toNat ≤ cfgTudEndpoint0Size) ∧
    (command.request.bmRequestType = reqTypeIn →
      isControlCmdRead command.request.cmd = true ∧
        (∃ servicer, state.Lists servicer command.request.resid) ∧
          command.request.wLength.toNat = cfgTudEndpoint0Size)

section
variable [DecidableEq Queue] [DecidableEq Link] {callbacks : Slot Queue Link → Callbacks App}
  {state : Registering Queue Link} {device : Device Queue Link App} {payloadBuf : List UInt8}
  {bufSize : Nat}

/-! ## How much a call accesses -/

theorem transferBounded_of_executed {direction : ControlDirection}
    {outcome : Outcome Queue Link App}
    (executed : deviceControlPayloadTransfer callbacks device payloadBuf bufSize direction =
      .ok outcome) :
    TransferBounded callbacks device payloadBuf bufSize direction ↔
      outcome.extent ≤ bufSize ∧ (direction = .deviceToHost → bufSize = outcome.extent) := by
  have sized : payloadTransferSized callbacks device payloadBuf bufSize direction =
      .ok (outcome, bufSize) := by
    simp [payloadTransferSized, executed, bind, Except.bind]
  constructor
  · rintro ⟨other, size, again, bounded⟩
    rw [sized, Except.ok.injEq, Prod.mk.injEq] at again
    rcases again with ⟨rfl, rfl⟩
    exact bounded
  · intro bounded
    exact ⟨outcome, bufSize, sized, bounded⟩

theorem not_transferBounded_of_failed {direction : ControlDirection} {fault : Fault}
    (failed : deviceControlPayloadTransfer callbacks device payloadBuf bufSize direction =
      .error fault) :
    ¬ TransferBounded callbacks device payloadBuf bufSize direction := by
  rintro ⟨outcome, size, executed, _⟩
  simp [payloadTransferSized, failed, bind, Except.bind] at executed

/-- What is received is read within its bounds. -/
theorem transferBounded_hostToDevice (follows : device.Follows state)
    (all : AllRegistered state) (inside : bufSize ≤ payloadBuf.length) :
    TransferBounded callbacks device payloadBuf bufSize .hostToDevice := by
  by_cases idle : isControlCmdRead device.ctx.requestedCmd = true ∨
      (∀ servicer, ¬ state.Lists servicer device.ctx.requestedResid) ∨
        bufSize < device.ctx.requestedPayloadLen
  case pos =>
    rcases @payloadTransfer_hostToDevice_idle _ _ _ state device payloadBuf bufSize _ _ callbacks
      follows all idle with ⟨outcome, executed, isIdle⟩
    refine (transferBounded_of_executed executed).mpr ⟨?_, nofun⟩
    exact isIdle.extent.trans (Nat.zero_le _)
  case neg =>
    rcases not_or.mp idle with ⟨notRead, rest⟩
    rcases not_or.mp rest with ⟨listed, notShort⟩
    rcases not_forall_not.mp listed with ⟨servicer, lists⟩
    have offered := Nat.not_lt.mp notShort
    refine (transferBounded_of_executed (payloadTransfer_execute follows all lists
      (Bool.eq_false_of_not_eq_true notRead) offered inside)).mpr ⟨?_, nofun⟩
    exact directCall_extent.trans_le offered

/-- What is sent is as long as the buffer only when a servicer answers with so much. -/
theorem transferBounded_deviceToHost_iff (follows : device.Follows state)
    (all : AllRegistered state) (length : payloadBuf.length = bufSize) (large : 1 < bufSize) :
    TransferBounded callbacks device payloadBuf bufSize .deviceToHost ↔
      isControlCmdRead device.ctx.requestedCmd = true ∧
        (∃ servicer, state.Lists servicer device.ctx.requestedResid) ∧
          device.ctx.requestedPayloadLen = bufSize := by
  by_cases idle : isControlCmdRead device.ctx.requestedCmd = false ∨
      ∀ servicer, ¬ state.Lists servicer device.ctx.requestedResid
  case pos =>
    cases buffer : payloadBuf with
    | nil =>
        rw [buffer] at length
        rw [← length] at large
        cases large
    | cons first rest =>
        rcases @payloadTransfer_deviceToHost_idle _ _ _ state device payloadBuf bufSize _ _
          callbacks follows all _ _ buffer idle with ⟨outcome, executed, isIdle⟩
        rw [← buffer, transferBounded_of_executed executed]
        constructor
        · rintro ⟨_, isAll⟩
          exact absurd (isIdle.extent.trans_lt large) (by rw [← isAll rfl]; exact lt_irrefl _)
        · rintro ⟨isRead, ⟨servicer, lists⟩, _⟩
          rcases idle with isWrite | unlisted
          · exact absurd (isRead.symm.trans isWrite) (by simp)
          · exact absurd lists (unlisted servicer)
  case neg =>
    rcases not_or.mp idle with ⟨notWrite, listed⟩
    rcases not_forall_not.mp listed with ⟨servicer, lists⟩
    have isRead := Bool.eq_true_of_not_eq_false notWrite
    by_cases long : payloadBuf.length < device.ctx.requestedPayloadLen
    · have overrun := not_transferBounded_of_failed (@payloadTransfer_overrun _ _ _ _ _ _
        payloadBuf bufSize _ _ callbacks follows all lists isRead long)
      constructor
      · exact fun bounded => absurd bounded overrun
      · rintro ⟨_, _, isAll⟩
        rw [isAll, length] at long
        exact absurd long (lt_irrefl _)
    · by_cases accepts : servicer.Accepts device.ctx.requestedCmd device.ctx.requestedPayloadLen
      · rw [transferBounded_of_executed (payloadTransfer_answer follows all lists isRead
          (Nat.not_lt.mp long) accepts)]
        simp only [directCall_extent]
        constructor
        · rintro ⟨_, isAll⟩
          exact ⟨isRead, ⟨servicer, lists⟩, (isAll trivial).symm⟩
        · rintro ⟨_, _, isAll⟩
          exact ⟨isAll.le, fun _ => isAll.symm⟩
      · have failed := not_transferBounded_of_failed (@payloadTransfer_not_accepted _ _ _ _ _ _
          payloadBuf bufSize _ _ callbacks follows all lists accepts)
        constructor
        · exact fun bounded => absurd bounded failed
        · rintro ⟨_, _, isAll⟩
          refine absurd (fun _ _ => ?_) accepts
          rw [isAll]
          exact (Nat.zero_lt_one.trans large)

/-! ## Every request -/

/-- Over I2C, writes keep the bounds and reads never do. -/
theorem i2c_keepsBounds_iff {slave : I2cSlave Queue Link App} (waits : slave.Waits state)
    (all : AllRegistered state) (transfer : Transfer) :
    transfer.KeepsBounds callbacks slave ↔ ∃ bytes, transfer = .write bytes := by
  cases transfer with
  | write bytes =>
      refine ⟨fun _ => ⟨bytes, rfl⟩, ?_⟩
      rintro _ resid cmd payloadLen payload len received header
      apply transferBounded_hostToDevice (waits.follows.request resid cmd payloadLen.toNat) all
      have stored := foldl_i2cMasterSentData bytes [] slave.dataBuf
      simp only [List.nil_append, List.length_nil, Nat.zero_add] at stored
      rw [stored, Prod.mk.injEq] at received
      have length := congrArg List.length received.1
      simp only [List.length_append, List.length_take, List.length_drop, List.length_cons]
        at length
      omega
  | read count =>
      constructor
      · intro bounded
        have isAll := ((transferBounded_deviceToHost_iff waits.follows all rfl
          (by rw [waits.length]; decide)).mp bounded).2.2
        have short := waits.requested
        rw [isAll, waits.length] at short
        exact absurd short (by decide)
      · rintro ⟨bytes, isWrite⟩
        cases isWrite

/-- A request in the direction of the host offers the endpoint's size, if it offers
anything. -/
theorem usbXferIn_offered {queued : Bool} {driver : UsbDriver Queue Link App}
    {setup : XferResult Queue Link App}
    (executed : usbXferIn callbacks queued driver .setup = .ok setup) :
    ∀ offered ∈ setup.offered, offered ≤ cfgTudEndpoint0Size := by
  unfold usbXferIn at executed
  cases transferred : deviceControlPayloadTransfer callbacks driver.device driver.requestData
      cfgTudEndpoint0Size .deviceToHost with
  | error fault =>
      rw [transferred] at executed
      cases executed
  | ok outcome =>
      simp only [transferred, bind, Except.bind] at executed
      rintro offered isOffered
      split at executed
      · cases executed
        cases isOffered
        exact le_rfl
      · cases executed
        cases isOffered

/-- Over USB, the requests that keep the bounds. -/
theorem usb_keepsBounds_iff {driver : UsbDriver Queue Link App} (stands : driver.Stands state)
    (all : AllRegistered state) (command : UsbCommand) :
    command.KeepsBounds callbacks driver ↔ command.Bounded state := by
  by_cases known : (resourceTableSearch driver.device.ctx.resourceTable
      command.request.resid).1 = 0
  case neg =>
    have unknown := mt (stands.follows.found_iff all).mpr known
    rcases @setup_unknown _ _ _ _ _ callbacks state driver command stands known with
      ⟨after, setup, _, _⟩
    have rejected : (deviceControlRequest driver.device.ctx command.request.resid
        command.request.cmd command.request.wLength.toNat).1 = .badCommand :=
      congrArg Prod.fst (if_neg known)
    constructor
    · exact fun _ isKnown => absurd isKnown unknown
    · refine fun _ => ⟨?_, ?_, ?_⟩
      · rintro result again offered isOffered
        rw [setup, Except.ok.injEq] at again
        rw [← again] at isOffered
        cases isOffered
      · intro accepted
        rw [rejected] at accepted
        cases accepted
      · intro accepted
        rw [rejected] at accepted
        cases accepted
  case pos =>
    have isKnown := (stands.follows.found_iff all).mp known
    have requested : deviceControlRequest driver.device.ctx command.request.resid
        command.request.cmd command.request.wLength.toNat =
          (.success, (driver.requested command.request).device.ctx) := if_pos known
    have follows := (stands.requested command.request).follows
    have setup := @setup_known _ _ _ _ _ callbacks driver command known
    have answer := @transferBounded_deviceToHost_iff _ _ _ _ _ callbacks state
      (driver.requested command.request).device driver.requestData cfgTudEndpoint0Size follows all
      stands.length (by decide)
    unfold UsbCommand.KeepsBounds UsbCommand.Bounded
    simp only [requested, isKnown, forall_const]
    constructor
    · rintro ⟨offers, _, sends⟩
      constructor
      · intro isOut
        rw [if_pos isOut] at setup
        exact offers _ setup _ rfl
      · exact fun isIn => answer.mp (sends isIn)
    · rintro ⟨fits, fills⟩
      refine ⟨?_, ?_, fun isIn => answer.mpr (fills isIn)⟩
      · rintro result executed offered isOffered
        rw [setup] at executed
        split at executed
        case isTrue isOut =>
          cases executed
          cases isOffered
          exact fits isOut
        case isFalse notOut =>
          split at executed
          · exact usbXferIn_offered executed offered isOffered
          · cases executed
            cases isOffered
      · exact fun _ received inside => transferBounded_hostToDevice follows all inside

/-- After a successful registration: a request over I2C, after any history, keeps the bounds
exactly when it is a write, and a request over USB exactly when it is bounded. -/
theorem keepsBounds_iff (callbacks : Slot Queue Link → Callbacks App) (servicerCount : Nat)
    (links : List Link) (rounds : List (Round Queue))
    (success : (deviceControlResourcesRegister (.host servicerCount links) rounds).1 = .success)
    (app : Slot Queue Link → App) :
    (∀ dataBuf : List UInt8, dataBuf.length = rtosI2cSlaveBufLen →
      ∀ earlier tracked, transfers callbacks earlier ⟨⟨dataBuf,
          (deviceControlResourcesRegister (.host servicerCount links) rounds).2.device app⟩,
          none⟩ = .ok tracked →
        ∀ transfer : Transfer, transfer.KeepsBounds callbacks tracked.slave ↔
          ∃ bytes, transfer = .write bytes) ∧
    (∀ requestData : List UInt8, requestData.length = cfgTudEndpoint0Size →
      ∀ earlier driver, performUsb callbacks earlier ⟨requestData,
          (deviceControlResourcesRegister (.host servicerCount links) rounds).2.device app⟩ =
            .ok driver →
        ∀ command : UsbCommand, command.KeepsBounds callbacks driver ↔
          command.Bounded
            (deviceControlResourcesRegister (.host servicerCount links) rounds).2) := by
  have all := allRegistered_of_success success
  constructor
  · intro dataBuf length earlier tracked executed transfer
    exact i2c_keepsBounds_iff (@transfers_waits _ _ _ _ _ callbacks _ ⟨_, none⟩ _
      ⟨Registering.device_follows app, length, all.fresh.trans_le (Nat.zero_le 255)⟩ all _
      executed) all transfer
  · intro requestData length earlier driver executed command
    exact usb_keepsBounds_iff
      (performUsb_stands all ⟨Registering.device_follows app, length⟩ executed) all command

end

/-- A read of a whole endpoint is answered within the bounds. -/
def readWhole : UsbCommand :=
  ⟨⟨reqTypeIn, 0x80, 1, 64⟩, List.replicate 64 0, by decide, true⟩

theorem readWhole_keepsBounds :
    readWhole.KeepsBounds (fun _ => zeroes)
      ⟨List.replicate cfgTudEndpoint0Size 0, oneOffTile.device fun _ => ()⟩ := by
  apply ((keepsBounds_iff (fun _ => zeroes) 1 [()] [⟨none, fun _ => some ⟨(), [1]⟩⟩] (by decide)
    fun _ => ()).2 (List.replicate cfgTudEndpoint0Size 0) List.length_replicate [] _ rfl
    readWhole).mpr
  intro _
  exact ⟨fun isOut => absurd isOut (by decide), fun _ => ⟨by decide, ⟨_, oneOffTile_lists⟩, rfl⟩⟩

/-- A write of 65 bytes, one more than the endpoint holds. -/
def writeTooMuch : UsbCommand :=
  ⟨⟨reqTypeOut, 0, 1, 65⟩, List.replicate 65 0, by decide, true⟩

theorem writeTooMuch_not_keepsBounds :
    ¬ writeTooMuch.KeepsBounds (fun _ => zeroes)
      ⟨List.replicate cfgTudEndpoint0Size 0, oneOffTile.device fun _ => ()⟩ := by
  rintro ⟨offers, _⟩
  have known : (resourceTableSearch oneOffTile.ctx.resourceTable writeTooMuch.request.resid).1 =
      0 := by decide
  exact absurd (offers _ (setup_out known rfl) 65 rfl) (by decide)

end FwkRtos.DeviceControl

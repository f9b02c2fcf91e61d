import FwkRtos.DeviceControl.PayloadTransfer

/-!
# Control over USB

A command is one vendor request on the control endpoint.  The USB stack calls
`device_control_usb_xfer` for the setup, for the data if there are any, and for the
acknowledgement.
-/

namespace FwkRtos.DeviceControl

variable {Queue Link App : Type}

/-- `CFG_TUD_ENDPOINT0_SIZE`. -/
def cfgTudEndpoint0Size : Nat := 64

/-- The stages of a control transfer. -/
inductive ControlStage
  | setup
  | data
  | ack
  deriving DecidableEq, Repr

/-- `REQ_TYPE` for a vendor request to the device, in the direction of the device. -/
def reqTypeOut : UInt8 := 0x40

/-- `REQ_TYPE` for a vendor request to the device, in the direction of the host. -/
def reqTypeIn : UInt8 := 0xC0

/-- `tusb_control_request_t`. -/
structure UsbControlRequest where
  bmRequestType : UInt8
  wValue : UInt16
  wIndex : UInt16
  wLength : UInt16
  deriving DecidableEq

def UsbControlRequest.resid (request : UsbControlRequest) : ControlResid :=
  request.wIndex.toUInt8

def UsbControlRequest.cmd (request : UsbControlRequest) : ControlCmd :=
  request.wValue.toUInt8

/-- The driver: `request_data`, and the device control instance. -/
structure UsbDriver (Queue Link App : Type) where
  requestData : List UInt8
  device : Device Queue Link App

/-- What a call of `device_control_usb_xfer` comes to: what it returns, for how many bytes it
offered `request_data` to the USB stack, and the driver. -/
structure XferResult (Queue Link App : Type) where
  accepted : Bool
  offered : Option Nat
  driver : UsbDriver Queue Link App

section
variable [DecidableEq Queue] [DecidableEq Link] (callbacks : Slot Queue Link → Callbacks App)

/-- The branch for requests in the direction of the device. -/
def usbXferOut (queued : Bool) (driver : UsbDriver Queue Link App) (stage : ControlStage)
    (request : UsbControlRequest) : Except Fault (XferResult Queue Link App) :=
  match stage with
  | .setup => .ok ⟨queued, some request.wLength.toNat, driver⟩
  | .data => do
      let outcome ← deviceControlPayloadTransfer callbacks driver.device driver.requestData
        request.wLength.toNat .hostToDevice
      .ok ⟨outcome.ret = .success, none, ⟨outcome.payload, outcome.device⟩⟩
  | .ack => .ok ⟨true, none, driver⟩

/-- The branch for requests in the direction of the host. -/
def usbXferIn (queued : Bool) (driver : UsbDriver Queue Link App) (stage : ControlStage) :
    Except Fault (XferResult Queue Link App) :=
  match stage with
  | .setup => do
      let outcome ← deviceControlPayloadTransfer callbacks driver.device driver.requestData
        cfgTudEndpoint0Size .deviceToHost
      let driver := ⟨outcome.payload, outcome.device⟩
      if outcome.ret = .success then .ok ⟨queued, some cfgTudEndpoint0Size, driver⟩
      else .ok ⟨false, none, driver⟩
  | _ => .ok ⟨true, none, driver⟩

/-- `device_control_usb_xfer`; `queued` is what `tud_control_xfer` returns. -/
def deviceControlUsbXfer (queued : Bool) (driver : UsbDriver Queue Link App)
    (stage : ControlStage) (request : UsbControlRequest) :
    Except Fault (XferResult Queue Link App) :=
  let requested := deviceControlRequest driver.device.ctx request.resid request.cmd
    request.wLength.toNat
  let started : UsbDriver Queue Link App :=
    if stage = .setup then
      { driver with device := { driver.device with ctx := requested.2 } }
    else driver
  if stage = .setup ∧ requested.1 ≠ .success then .ok ⟨false, none, started⟩
  else if request.bmRequestType = reqTypeOut then
    usbXferOut callbacks queued started stage request
  else if request.bmRequestType = reqTypeIn then usbXferIn callbacks queued started stage
  else .ok ⟨false, none, started⟩

/-! ## The USB stack -/

/-- A request of the host, with the bytes that it sends for one in the direction of the
device, and with what `tud_control_xfer` returns in the setup stage. -/
structure UsbCommand where
  request : UsbControlRequest
  payload : List UInt8
  announced : payload.length = request.wLength.toNat
  queued : Bool

/-- The USB stack stores what it received for as many bytes as it was offered. -/
def UsbDriver.receive (driver : UsbDriver Queue Link App) (payload : List UInt8) :
    Except Fault (UsbDriver Queue Link App) :=
  if driver.requestData.length < payload.length then .error .overrun
  else .ok { driver with requestData := payload ++ driver.requestData.drop payload.length }

/-- The stages of a request: those after the setup take place if it was accepted, and the
data stage if there are data. -/
def UsbCommand.perform (command : UsbCommand) (driver : UsbDriver Queue Link App) :
    Except Fault (UsbDriver Queue Link App) := do
  let setup ← deviceControlUsbXfer callbacks command.queued driver .setup command.request
  if setup.accepted = false then .ok setup.driver
  else if command.request.wLength = 0 then do
    let ack ← deviceControlUsbXfer callbacks command.queued setup.driver .ack command.request
    .ok ack.driver
  else do
    let received ← if command.request.bmRequestType = reqTypeOut then
        setup.driver.receive command.payload
      else .ok setup.driver
    let data ← deviceControlUsbXfer callbacks command.queued received .data command.request
    let ack ← deviceControlUsbXfer callbacks command.queued data.driver .ack command.request
    .ok ack.driver

/-- One request after the other. -/
def performUsb : List UsbCommand → UsbDriver Queue Link App →
    Except Fault (UsbDriver Queue Link App)
  | [], driver => .ok driver
  | command :: rest, driver => do
      let driver ← command.perform callbacks driver
      performUsb rest driver

/-- The length that a callback was called with. -/
def Call.length : Call Queue Link → Nat
  | .read _ _ _ payloadLen _ _ => payloadLen
  | .write _ _ _ payload _ => payload.length

/-- The request is accepted in the setup stage. -/
def UsbCommand.Accepted (command : UsbCommand) (driver : UsbDriver Queue Link App) : Prop :=
  ∃ setup, deviceControlUsbXfer callbacks command.queued driver .setup command.request =
    .ok setup ∧ setup.accepted = true

/-- What a request has to come to: an accepted write command, or an accepted read command,
for a registered resource to one call of its servicer's callback, and any request to no call
with another length than its own. -/
def UsbCommand.Served (state : Registering Queue Link) (before after : UsbDriver Queue Link App)
    (command : UsbCommand) : Prop :=
  ∃ calls, after.device.calls = before.device.calls ++ calls ∧
    (∀ call ∈ calls, call.length = command.request.wLength.toNat) ∧
    (command.Accepted callbacks before → command.request.bmRequestType = reqTypeOut →
      isControlCmdRead command.request.cmd = false →
      ∀ servicer, state.Lists servicer command.request.resid →
        calls = [.write servicer command.request.resid command.request.cmd command.payload
          ((callbacks servicer).writeCmdCb command.request.resid command.request.cmd
            command.payload (before.device.app servicer)).1]) ∧
    (command.Accepted callbacks before → command.request.bmRequestType = reqTypeIn →
      isControlCmdRead command.request.cmd = true →
      ∀ servicer, state.Lists servicer command.request.resid →
        let result := (callbacks servicer).readCmdCb command.request.resid command.request.cmd
          command.request.wLength.toNat (before.device.app servicer)
        calls = [.read servicer command.request.resid command.request.cmd
          command.request.wLength.toNat result.1 result.2.1.toList])

/-- Every request of the history returns and is executed as it has to be. -/
def ExecutesUsbOnce (state : Registering Queue Link) (start : UsbDriver Queue Link App)
    (history : List UsbCommand) : Prop :=
  ∀ earlier command later, history = earlier ++ command :: later →
    ∃ before after, performUsb callbacks earlier start = .ok before ∧
      command.perform callbacks before = .ok after ∧
        command.Served callbacks state before after

end

/-- A request that is executed as it has to be.  One in the direction of the device whose
setup is accepted has a length that the endpoint holds, and is not empty if it is a write
command; a read command in the direction of the host has a length that the endpoint holds,
and does not ask a servicer on another tile for nothing. -/
def UsbCommand.Sound (state : Registering Queue Link) (command : UsbCommand) : Prop :=
  (command.request.bmRequestType = reqTypeOut → command.queued = true →
    (command.request.resid = controlSpecialResid ∨
      ∃ servicer, state.Lists servicer command.request.resid) →
    command.request.wLength.toNat ≤ cfgTudEndpoint0Size) ∧
  (command.request.bmRequestType = reqTypeOut → command.queued = true →
    isControlCmdRead command.request.cmd = false →
    (∃ servicer, state.Lists servicer command.request.resid) → command.request.wLength ≠ 0) ∧
  (command.request.bmRequestType = reqTypeIn → isControlCmdRead command.request.cmd = true →
    ∀ servicer, state.Lists servicer command.request.resid →
      command.request.wLength.toNat ≤ cfgTudEndpoint0Size ∧
        servicer.Accepts command.request.cmd command.request.wLength.toNat)

section
variable [DecidableEq Queue] [DecidableEq Link] {callbacks : Slot Queue Link → Callbacks App}
  {state : Registering Queue Link} {driver after : UsbDriver Queue Link App}
  {command : UsbCommand}

/-- The driver between two requests. -/
structure UsbDriver.Stands (driver : UsbDriver Queue Link App) (state : Registering Queue Link) :
    Prop where
  follows : driver.device.Follows state
  length : driver.requestData.length = cfgTudEndpoint0Size

/-- The driver after the request that a setup begins with. -/
def UsbDriver.requested (driver : UsbDriver Queue Link App) (request : UsbControlRequest) :
    UsbDriver Queue Link App :=
  ⟨driver.requestData,
    driver.device.requested request.resid request.cmd request.wLength.toNat⟩

omit [DecidableEq Queue] [DecidableEq Link] in
theorem UsbDriver.Stands.requested (stands : driver.Stands state) (request : UsbControlRequest) :
    (driver.requested request).Stands state :=
  ⟨stands.follows.requested _, stands.length⟩

/-! ## The setup stage -/

theorem setup_unknown (stands : driver.Stands state)
    (unknown : (resourceTableSearch driver.device.ctx.resourceTable
      command.request.resid).1 ≠ 0) :
    ∃ after, deviceControlUsbXfer callbacks command.queued driver .setup command.request =
        .ok ⟨false, none, after⟩ ∧ after.Stands state ∧
      after.device.calls = driver.device.calls := by
  have rejected : deviceControlRequest driver.device.ctx command.request.resid
      command.request.cmd command.request.wLength.toNat =
        (.badCommand, { driver.device.ctx with requestedResid := command.request.resid }) :=
    if_neg unknown
  refine ⟨⟨driver.requestData, { driver.device with
    ctx := { driver.device.ctx with requestedResid := command.request.resid } }⟩, ?_, ?_, rfl⟩
  · unfold deviceControlUsbXfer
    simp only [rejected, if_true]
    exact if_pos ⟨trivial, by decide⟩
  · exact ⟨⟨stands.follows.resourceTable, stands.follows.servicerTable,
      stands.follows.gatewayQueue⟩, stands.length⟩

/-- The setup of a request for a known resource. -/
theorem setup_known
    (known : (resourceTableSearch driver.device.ctx.resourceTable
      command.request.resid).1 = 0) :
    deviceControlUsbXfer callbacks command.queued driver .setup command.request =
      if command.request.bmRequestType = reqTypeOut then
        .ok ⟨command.queued, some command.request.wLength.toNat,
          driver.requested command.request⟩
      else if command.request.bmRequestType = reqTypeIn then
        usbXferIn callbacks command.queued (driver.requested command.request) .setup
      else .ok ⟨false, none, driver.requested command.request⟩ := by
  have accepted : deviceControlRequest driver.device.ctx command.request.resid
      command.request.cmd command.request.wLength.toNat =
        (.success, { driver.device.ctx with
          requestedResid := command.request.resid, requestedCmd := command.request.cmd,
          requestedPayloadLen := command.request.wLength.toNat }) :=
    if_pos known
  unfold deviceControlUsbXfer
  simp only [accepted, if_true, ne_eq, not_true_eq_false, and_false, if_false]
  rfl

/-- The stages after the setup of a request. -/
theorem later_ack (known : command.request.bmRequestType = reqTypeOut ∨
      command.request.bmRequestType = reqTypeIn) :
    deviceControlUsbXfer callbacks command.queued driver .ack command.request =
      .ok ⟨true, none, driver⟩ := by
  unfold deviceControlUsbXfer
  rcases known with isOut | isIn
  · simp [isOut, usbXferOut]
  · simp [isIn, usbXferIn, reqTypeIn, reqTypeOut]

/-- A request that is rejected in the setup stage has no other stage. -/
theorem perform_rejected {offered : Option Nat}
    (setup : deviceControlUsbXfer callbacks command.queued driver .setup command.request =
      .ok ⟨false, offered, after⟩) :
    command.perform callbacks driver = .ok after := by
  simp [UsbCommand.perform, setup, bind, Except.bind]

theorem served_rejected {offered : Option Nat}
    (setup : deviceControlUsbXfer callbacks command.queued driver .setup command.request =
      .ok ⟨false, offered, after⟩) (calls : after.device.calls = driver.device.calls) :
    command.Served callbacks state driver after := by
  have rejected : ¬ command.Accepted callbacks driver := by
    rintro ⟨result, again, accepted⟩
    rw [setup, Except.ok.injEq] at again
    rw [← again] at accepted
    cases accepted
  exact ⟨[], by simp [calls], by simp, fun accepted => absurd accepted rejected,
    fun accepted => absurd accepted rejected⟩

/-! ## The stages after the setup -/

section
variable (known : (resourceTableSearch driver.device.ctx.resourceTable
    command.request.resid).1 = 0)
include known

theorem setup_out (isOut : command.request.bmRequestType = reqTypeOut) :
    deviceControlUsbXfer callbacks command.queued driver .setup command.request =
      .ok ⟨command.queued, some command.request.wLength.toNat,
        driver.requested command.request⟩ := by
  rw [setup_known known, if_pos isOut]

theorem setup_queued (isOut : command.request.bmRequestType = reqTypeOut)
    (queued : command.queued = true) :
    deviceControlUsbXfer callbacks true driver .setup command.request =
      .ok ⟨true, some command.request.wLength.toNat, driver.requested command.request⟩ := by
  have setup := @setup_out _ _ _ _ _ callbacks driver command known isOut
  rwa [queued] at setup

/-- A request without data has no data stage. -/
theorem perform_out_empty (isOut : command.request.bmRequestType = reqTypeOut)
    (queued : command.queued = true) (empty : command.request.wLength = 0) :
    command.perform callbacks driver = .ok (driver.requested command.request) := by
  have ack := @later_ack _ _ _ _ _ callbacks (driver.requested command.request) command (.inl isOut)
  rw [queued] at ack
  simp [UsbCommand.perform, queued, setup_queued known isOut queued, empty, ack, bind, Except.bind]

/-- Data that the endpoint does not hold overrun `request_data`. -/
theorem perform_out_long (isOut : command.request.bmRequestType = reqTypeOut)
    (queued : command.queued = true)
    (long : driver.requestData.length < command.request.wLength.toNat) :
    command.perform callbacks driver = .error .overrun := by
  have notEmpty : command.request.wLength ≠ 0 := by
    intro empty
    rw [empty] at long
    cases long
  have overrun : (driver.requested command.request).receive command.payload = .error .overrun :=
    if_pos (by rwa [command.announced])
  simp [UsbCommand.perform, queued, setup_queued known isOut queued, notEmpty, isOut, overrun, bind,
    Except.bind]

/-- The data that are received are transferred. -/
theorem perform_out_data (isOut : command.request.bmRequestType = reqTypeOut)
    (queued : command.queued = true) (notEmpty : command.request.wLength ≠ 0)
    (fits : command.request.wLength.toNat ≤ driver.requestData.length)
    {outcome : Outcome Queue Link App}
    (transferred : deviceControlPayloadTransfer callbacks (driver.requested command.request).device
      (command.payload ++ driver.requestData.drop command.payload.length)
      command.request.wLength.toNat .hostToDevice = .ok outcome) :
    command.perform callbacks driver = .ok ⟨outcome.payload, outcome.device⟩ := by
  have received : (driver.requested command.request).receive command.payload =
      .ok ⟨command.payload ++ driver.requestData.drop command.payload.length,
        (driver.requested command.request).device⟩ :=
    if_neg (by rw [command.announced]; exact Nat.not_lt.mpr fits)
  have data : deviceControlUsbXfer callbacks true
      ⟨command.payload ++ driver.requestData.drop command.payload.length,
        (driver.requested command.request).device⟩ .data command.request =
        .ok ⟨outcome.ret = .success, none, ⟨outcome.payload, outcome.device⟩⟩ := by
    unfold deviceControlUsbXfer usbXferOut
    simp only [reduceCtorEq, if_false, false_and, isOut, if_true, transferred, bind, Except.bind]
  have ack := @later_ack _ _ _ _ _ callbacks ⟨outcome.payload, outcome.device⟩ command (.inl isOut)
  rw [queued] at ack
  simp [UsbCommand.perform, queued, setup_queued known isOut queued, notEmpty, isOut, received,
    data, ack, bind, Except.bind]

/-- A request in the direction of the host is over with its setup. -/
theorem perform_in (isIn : command.request.bmRequestType = reqTypeIn) :
    command.perform callbacks driver = (do
      let outcome ← deviceControlPayloadTransfer callbacks
        (driver.requested command.request).device driver.requestData cfgTudEndpoint0Size
        .deviceToHost
      .ok ⟨outcome.payload, outcome.device⟩) := by
  have notOut : command.request.bmRequestType ≠ reqTypeOut := by
    rw [isIn]
    decide
  have setup := @setup_known _ _ _ _ _ callbacks driver command known
  rw [if_neg notOut, if_pos isIn] at setup
  have ack : ∀ later, deviceControlUsbXfer callbacks command.queued later .ack command.request =
      .ok ⟨true, none, later⟩ := fun later => later_ack (.inr isIn)
  have data : ∀ later, deviceControlUsbXfer callbacks command.queued later .data command.request =
      .ok ⟨true, none, later⟩ := by
    intro later
    unfold deviceControlUsbXfer
    simp only [reduceCtorEq, if_false, false_and, if_neg notOut, if_pos isIn, usbXferIn]
  unfold UsbCommand.perform
  rw [setup]
  unfold usbXferIn
  cases transferred : deviceControlPayloadTransfer callbacks
      (driver.requested command.request).device (driver.requested command.request).requestData
      cfgTudEndpoint0Size .deviceToHost with
  | error fault =>
      have same : deviceControlPayloadTransfer callbacks (driver.requested command.request).device
        driver.requestData cfgTudEndpoint0Size .deviceToHost = .error fault := transferred
      simp [same, bind, Except.bind]
  | ok outcome =>
      have same : deviceControlPayloadTransfer callbacks (driver.requested command.request).device
        driver.requestData cfgTudEndpoint0Size .deviceToHost = .ok outcome := transferred
      simp only [same, bind, Except.bind]
      by_cases success : outcome.ret = .success
      · cases queued : command.queued with
        | false => simp [success]
        | true =>
            rw [queued] at ack data
            by_cases empty : command.request.wLength = 0
            · simp [success, empty, ack]
            · simp [success, empty, ack, data, notOut]
      · simp [success]

end

/-! ## What a request comes to -/

/-- A request that runs no callback, and does not have to. -/
theorem served_idle (calls : after.device.calls = driver.device.calls)
    (noWrite : command.request.bmRequestType = reqTypeOut →
      isControlCmdRead command.request.cmd = false →
      ∀ servicer, ¬ state.Lists servicer command.request.resid)
    (noRead : command.request.bmRequestType = reqTypeIn →
      isControlCmdRead command.request.cmd = true →
      ∀ servicer, ¬ state.Lists servicer command.request.resid) :
    command.Served callbacks state driver after :=
  ⟨[], by simp [calls], by simp,
    fun _ isOut isWrite servicer lists => absurd lists (noWrite isOut isWrite servicer),
    fun _ isIn isRead servicer lists => absurd lists (noRead isIn isRead servicer)⟩

theorem reqTypeIn_ne_reqTypeOut : reqTypeIn ≠ reqTypeOut := by
  decide

/-- A write command with data that the endpoint holds is executed once. -/
theorem perform_write_served (stands : driver.Stands state) (all : AllRegistered state)
    {servicer : Slot Queue Link} (lists : state.Lists servicer command.request.resid)
    (isOut : command.request.bmRequestType = reqTypeOut) (queued : command.queued = true)
    (isWrite : isControlCmdRead command.request.cmd = false)
    (notEmpty : command.request.wLength ≠ 0)
    (fits : command.request.wLength.toNat ≤ cfgTudEndpoint0Size) :
    ∃ after, command.perform callbacks driver = .ok after ∧ after.Stands state ∧
      command.Served callbacks state driver after := by
  have follows := (stands.requested command.request).follows
  have known := stands.follows.found all lists
  have inside : command.request.wLength.toNat ≤
      (command.payload ++ driver.requestData.drop command.payload.length).length := by
    rw [List.length_append, command.announced]
    exact Nat.le_add_right _ _
  have executed := @payloadTransfer_execute _ _ _ _ _ _ _ command.request.wLength.toNat _ _
    callbacks follows all lists isWrite le_rfl inside
  have kept := @directCall_keeps _ _ _ state _ servicer
    (command.payload ++ driver.requestData.drop command.payload.length) _ _ callbacks follows
    command.request.resid command.request.cmd command.request.wLength.toNat inside
  refine ⟨_, perform_out_data known isOut queued notEmpty (by rwa [stands.length]) executed,
    ⟨kept.follows.setLastStatus _, ?_⟩, ?_⟩
  · have length := stands.length
    refine kept.length.trans ?_
    rw [List.length_append, List.length_drop, command.announced]
    omega
  · have called : (directCall callbacks servicer (driver.requested command.request).device
        command.request.resid command.request.cmd
        (command.payload ++ driver.requestData.drop command.payload.length)
        command.request.wLength.toNat).device.calls = driver.device.calls ++
          [.write servicer command.request.resid command.request.cmd command.payload
            ((callbacks servicer).writeCmdCb command.request.resid command.request.cmd
              command.payload (driver.device.app servicer)).1] := by
      rw [← command.announced]
      simp [directCall, isWrite, Device.afterWrite, UsbDriver.requested, Device.requested]
    refine ⟨_, called, ?_, ?_, ?_⟩
    · simp [Call.length, command.announced]
    · intro _ _ _ other otherLists
      rw [all.lists_unique lists otherLists]
    · intro _ isIn
      exact absurd (isIn.symm.trans isOut) reqTypeIn_ne_reqTypeOut

/-- A read command for what the endpoint holds is executed once. -/
theorem perform_read_served (stands : driver.Stands state) (all : AllRegistered state)
    {servicer : Slot Queue Link} (lists : state.Lists servicer command.request.resid)
    (isIn : command.request.bmRequestType = reqTypeIn)
    (isRead : isControlCmdRead command.request.cmd = true)
    (fits : command.request.wLength.toNat ≤ cfgTudEndpoint0Size)
    (accepts : servicer.Accepts command.request.cmd command.request.wLength.toNat) :
    ∃ after, command.perform callbacks driver = .ok after ∧ after.Stands state ∧
      command.Served callbacks state driver after := by
  have follows := (stands.requested command.request).follows
  have known := stands.follows.found all lists
  have inside : command.request.wLength.toNat ≤ driver.requestData.length := by
    rwa [stands.length]
  have executed := @payloadTransfer_answer _ _ _ _ _ _ driver.requestData cfgTudEndpoint0Size _ _
    callbacks follows all lists isRead inside accepts
  have kept := @directCall_keeps _ _ _ state _ servicer driver.requestData _ _ callbacks follows
    command.request.resid command.request.cmd command.request.wLength.toNat inside
  have performed := @perform_in _ _ _ _ _ callbacks driver command known isIn
  rw [executed] at performed
  refine ⟨_, performed, ⟨kept.follows, kept.length.trans stands.length⟩, ?_⟩
  have called : (directCall callbacks servicer (driver.requested command.request).device
      command.request.resid command.request.cmd driver.requestData
      command.request.wLength.toNat).device.calls = driver.device.calls ++
        [.read servicer command.request.resid command.request.cmd command.request.wLength.toNat
          ((callbacks servicer).readCmdCb command.request.resid command.request.cmd
            command.request.wLength.toNat (driver.device.app servicer)).1
          ((callbacks servicer).readCmdCb command.request.resid command.request.cmd
            command.request.wLength.toNat (driver.device.app servicer)).2.1.toList] := by
    simp [directCall, isRead, Device.afterRead, UsbDriver.requested, Device.requested]
  refine ⟨_, called, ?_, ?_, ?_⟩
  · simp [Call.length]
  · intro _ isOut
    exact absurd (isIn.symm.trans isOut) reqTypeIn_ne_reqTypeOut
  · intro _ _ _ other otherLists
    rw [all.lists_unique lists otherLists]

/-- A request in the direction of the device whose setup is accepted. -/
theorem perform_out_iff (stands : driver.Stands state) (all : AllRegistered state)
    (known : (resourceTableSearch driver.device.ctx.resourceTable
      command.request.resid).1 = 0)
    (isOut : command.request.bmRequestType = reqTypeOut) (queued : command.queued = true) :
    (command.Sound state → ∃ after, command.perform callbacks driver = .ok after ∧
        after.Stands state ∧ command.Served callbacks state driver after) ∧
      (¬ command.Sound state → ∀ after, command.perform callbacks driver = .ok after →
        after.Stands state ∧ ¬ command.Served callbacks state driver after) := by
  have noRead : command.request.bmRequestType = reqTypeIn → False :=
    fun isIn => reqTypeIn_ne_reqTypeOut (isIn.symm.trans isOut)
  have sound_iff : command.Sound state ↔
      command.request.wLength.toNat ≤ cfgTudEndpoint0Size ∧
        (isControlCmdRead command.request.cmd = false →
          (∃ servicer, state.Lists servicer command.request.resid) →
            command.request.wLength ≠ 0) := by
    constructor
    · rintro ⟨fits, notEmpty, _⟩
      exact ⟨fits isOut queued ((stands.follows.found_iff all).mp known),
        notEmpty isOut queued⟩
    · rintro ⟨fits, notEmpty⟩
      exact ⟨fun _ _ _ => fits, fun _ _ => notEmpty, fun isIn => (noRead isIn).elim⟩
  by_cases fits : command.request.wLength.toNat ≤ cfgTudEndpoint0Size
  case neg =>
    have overrun := @perform_out_long _ _ _ _ _ callbacks driver command known isOut queued
      (by rw [stands.length]; exact Nat.not_le.mp fits)
    constructor
    · intro sound
      exact absurd (sound_iff.mp sound).1 fits
    · intro _ after executed
      rw [overrun] at executed
      cases executed
  case pos =>
    by_cases write : isControlCmdRead command.request.cmd = false ∧
        ∃ servicer, state.Lists servicer command.request.resid
    case pos =>
      rcases write with ⟨isWrite, servicer, lists⟩
      by_cases empty : command.request.wLength = 0
      · constructor
        · intro sound
          exact absurd empty ((sound_iff.mp sound).2 isWrite ⟨servicer, lists⟩)
        · intro _ after executed
          have unchanged := @perform_out_empty _ _ _ _ _ callbacks driver command known isOut
            queued empty
          rw [unchanged, Except.ok.injEq] at executed
          subst executed
          refine ⟨stands.requested _, ?_⟩
          rintro ⟨calls, appended, _, written, _⟩
          have isCall := written
            ⟨_, setup_out known isOut, queued⟩ isOut isWrite servicer lists
          rw [isCall] at appended
          exact absurd (congrArg List.length appended)
            (by simp [UsbDriver.requested, Device.requested])
      · constructor
        · intro _
          exact perform_write_served stands all lists isOut queued isWrite empty fits
        · intro unsound
          exact absurd (sound_iff.mpr ⟨fits, fun _ _ => empty⟩) unsound
    case neg =>
      have noWrite : isControlCmdRead command.request.cmd = false →
          ∀ servicer, ¬ state.Lists servicer command.request.resid :=
        fun isWrite servicer lists => write ⟨isWrite, servicer, lists⟩
      have sound : command.Sound state :=
        sound_iff.mpr ⟨fits, fun isWrite listed => absurd ⟨isWrite, listed⟩ write⟩
      refine ⟨fun _ => ?_, fun unsound => absurd sound unsound⟩
      by_cases empty : command.request.wLength = 0
      · exact ⟨_, perform_out_empty known isOut queued empty, stands.requested _,
          served_idle rfl (fun _ => noWrite) fun isIn => (noRead isIn).elim⟩
      · have idle : isControlCmdRead command.request.cmd = true ∨
            (∀ servicer, ¬ state.Lists servicer command.request.resid) ∨
              command.request.wLength.toNat < command.request.wLength.toNat := by
          cases isRead : isControlCmdRead command.request.cmd with
          | true => exact .inl rfl
          | false => exact .inr (.inl (noWrite isRead))
        rcases @payloadTransfer_hostToDevice_idle _ _ _ state
          (driver.requested command.request).device
          (command.payload ++ driver.requestData.drop command.payload.length)
          command.request.wLength.toNat _ _ callbacks (stands.requested _).follows all idle with
          ⟨outcome, executed, kept⟩
        refine ⟨_, perform_out_data known isOut queued empty (by rwa [stands.length]) executed,
          ⟨kept.follows, ?_⟩, served_idle kept.calls (fun _ => noWrite)
            fun isIn => (noRead isIn).elim⟩
        have length := stands.length
        refine kept.length.trans ?_
        rw [List.length_append, List.length_drop, command.announced]
        omega

/-- A request in the direction of the host. -/
theorem perform_in_iff (stands : driver.Stands state) (all : AllRegistered state)
    (known : (resourceTableSearch driver.device.ctx.resourceTable
      command.request.resid).1 = 0)
    (isIn : command.request.bmRequestType = reqTypeIn) :
    (command.Sound state → ∃ after, command.perform callbacks driver = .ok after ∧
        after.Stands state ∧ command.Served callbacks state driver after) ∧
      (¬ command.Sound state → ∀ after, command.perform callbacks driver = .ok after →
        after.Stands state ∧ ¬ command.Served callbacks state driver after) := by
  have noWrite : command.request.bmRequestType = reqTypeOut → False :=
    fun isOut => reqTypeIn_ne_reqTypeOut (isIn.symm.trans isOut)
  have sound_iff : command.Sound state ↔ (isControlCmdRead command.request.cmd = true →
      ∀ servicer, state.Lists servicer command.request.resid →
        command.request.wLength.toNat ≤ cfgTudEndpoint0Size ∧
          servicer.Accepts command.request.cmd command.request.wLength.toNat) := by
    constructor
    · rintro ⟨_, _, fits⟩
      exact fits isIn
    · intro fits
      exact ⟨fun isOut => (noWrite isOut).elim, fun isOut => (noWrite isOut).elim, fun _ => fits⟩
  have follows := (stands.requested command.request).follows
  have performed := @perform_in _ _ _ _ _ callbacks driver command known isIn
  by_cases read : isControlCmdRead command.request.cmd = true ∧
      ∃ servicer, state.Lists servicer command.request.resid
  case pos =>
    rcases read with ⟨isRead, servicer, lists⟩
    by_cases right : command.request.wLength.toNat ≤ cfgTudEndpoint0Size ∧
        servicer.Accepts command.request.cmd command.request.wLength.toNat
    · refine ⟨fun _ => perform_read_served stands all lists isIn isRead right.1 right.2, ?_⟩
      intro unsound
      refine absurd (sound_iff.mpr ?_) unsound
      intro _ other otherLists
      rwa [all.lists_unique lists otherLists]
    · constructor
      · intro sound
        exact absurd (sound_iff.mp sound isRead servicer lists) right
      · intro _ after executed
        by_cases accepts : servicer.Accepts command.request.cmd command.request.wLength.toNat
        · have overrun := @payloadTransfer_overrun _ _ _ _ _ _ driver.requestData
            cfgTudEndpoint0Size _ _ callbacks follows all lists isRead (by
              rw [stands.length]
              exact Nat.not_le.mp fun fits => right ⟨fits, accepts⟩)
          rw [performed, overrun] at executed
          cases executed
        · have failed := @payloadTransfer_not_accepted _ _ _ _ _ _ driver.requestData
            cfgTudEndpoint0Size _ _ callbacks follows all lists accepts
          rw [performed, failed] at executed
          cases executed
  case neg =>
    have idle : isControlCmdRead command.request.cmd = false ∨
        ∀ servicer, ¬ state.Lists servicer command.request.resid := by
      cases isRead : isControlCmdRead command.request.cmd with
      | false => exact .inl rfl
      | true => exact .inr fun servicer lists => read ⟨isRead, servicer, lists⟩
    have sound : command.Sound state := by
      refine sound_iff.mpr fun isRead servicer lists => ?_
      exact absurd ⟨isRead, servicer, lists⟩ read
    refine ⟨fun _ => ?_, fun unsound => absurd sound unsound⟩
    cases buffer : driver.requestData with
    | nil =>
        have length := stands.length
        rw [buffer] at length
        cases length
    | cons first rest =>
        rcases @payloadTransfer_deviceToHost_idle _ _ _ state
          (driver.requested command.request).device driver.requestData cfgTudEndpoint0Size _ _
          callbacks follows all _ _ buffer idle with ⟨outcome, executed, kept⟩
        rw [executed] at performed
        exact ⟨_, performed, ⟨kept.follows, kept.length.trans stands.length⟩,
          served_idle kept.calls (fun isOut => (noWrite isOut).elim)
            fun _ isRead servicer lists => read ⟨isRead, servicer, lists⟩⟩

/-- One request is executed as it has to be exactly when it is sound. -/
theorem perform_usb_iff (stands : driver.Stands state) (all : AllRegistered state) :
    (command.Sound state → ∃ after, command.perform callbacks driver = .ok after ∧
        after.Stands state ∧ command.Served callbacks state driver after) ∧
      (¬ command.Sound state → ∀ after, command.perform callbacks driver = .ok after →
        after.Stands state ∧ ¬ command.Served callbacks state driver after) := by
  by_cases known : (resourceTableSearch driver.device.ctx.resourceTable
      command.request.resid).1 = 0
  case neg =>
    rcases not_or.mp (mt (stands.follows.found_iff all).mpr known) with ⟨ordinary, unlisted⟩
    have sound : command.Sound state :=
      ⟨fun _ _ isKnown => absurd isKnown (not_or.mpr ⟨ordinary, unlisted⟩),
        fun _ _ _ listed => absurd listed unlisted,
        fun _ _ servicer lists => absurd ⟨servicer, lists⟩ unlisted⟩
    rcases @setup_unknown _ _ _ _ _ callbacks state driver command stands known with
      ⟨after, setup, kept, calls⟩
    exact ⟨fun _ => ⟨after, perform_rejected setup, kept, served_rejected setup calls⟩,
      fun unsound => absurd sound unsound⟩
  case pos =>
    by_cases isOut : command.request.bmRequestType = reqTypeOut
    · cases queued : command.queued with
      | true => exact perform_out_iff stands all known isOut queued
      | false =>
          have setup : deviceControlUsbXfer callbacks command.queued driver .setup
              command.request = .ok ⟨false, some command.request.wLength.toNat,
                driver.requested command.request⟩ :=
            (setup_out known isOut).trans (by rw [queued])
          have sound : command.Sound state :=
            ⟨fun _ isQueued => absurd (queued.symm.trans isQueued) (by simp),
              fun _ isQueued => absurd (queued.symm.trans isQueued) (by simp),
              fun isIn => absurd (isIn.symm.trans isOut) reqTypeIn_ne_reqTypeOut⟩
          exact ⟨fun _ => ⟨_, perform_rejected setup, stands.requested _,
            served_rejected setup rfl⟩, fun unsound => absurd sound unsound⟩
    · by_cases isIn : command.request.bmRequestType = reqTypeIn
      · exact perform_in_iff stands all known isIn
      · have setup := @setup_known _ _ _ _ _ callbacks driver command known
        rw [if_neg isOut, if_neg isIn] at setup
        have sound : command.Sound state :=
          ⟨fun out => absurd out isOut, fun out => absurd out isOut, fun in_ => absurd in_ isIn⟩
        exact ⟨fun _ => ⟨_, perform_rejected setup, stands.requested _,
          served_rejected setup rfl⟩, fun unsound => absurd sound unsound⟩

/-- A history that returns leaves the driver ready for the next request. -/
theorem performUsb_stands (all : AllRegistered state) (stands : driver.Stands state)
    {history : List UsbCommand} (executed : performUsb callbacks history driver = .ok after) :
    after.Stands state := by
  induction history generalizing driver with
  | nil =>
      cases executed
      exact stands
  | cons first rest ih =>
      rcases @perform_usb_iff _ _ _ _ _ callbacks state driver first stands all with
        ⟨right, wrong⟩
      cases performed : first.perform callbacks driver with
      | error fault =>
          rw [performUsb, performed] at executed
          cases executed
      | ok next =>
          rw [performUsb, performed] at executed
          have kept : next.Stands state := by
            by_cases sound : first.Sound state
            · rcases right sound with ⟨same, again, kept, _⟩
              rw [performed, Except.ok.injEq] at again
              rwa [again]
            · exact (wrong sound next performed).1
          exact ih kept executed

/-- A history is executed as it has to be exactly when all its requests are sound. -/
theorem executesUsbOnce_iff_sound (all : AllRegistered state) (stands : driver.Stands state)
    (history : List UsbCommand) :
    ExecutesUsbOnce callbacks state driver history ↔ ∀ command ∈ history, command.Sound state := by
  induction history generalizing driver with
  | nil =>
      constructor
      · rintro _ command isMember
        cases isMember
      · rintro _ earlier command later split
        simp at split
  | cons first rest ih =>
      rcases @perform_usb_iff _ _ _ _ _ callbacks state driver first stands all with
        ⟨right, wrong⟩
      constructor
      · intro executes
        rcases executes [] first rest rfl with ⟨before, after, reached, performed, served⟩
        cases reached
        have sound : first.Sound state := by
          by_contra unsound
          exact (wrong unsound after performed).2 served
        rcases right sound with ⟨same, again, kept, _⟩
        rw [performed, Except.ok.injEq] at again
        subst again
        have restSound := (ih kept).mp fun earlier command later split => by
          rcases executes (first :: earlier) command later (by rw [split]; rfl) with
            ⟨before, last, reached, rest_⟩
          rw [performUsb, performed] at reached
          exact ⟨before, last, reached, rest_⟩
        exact List.forall_mem_cons.mpr ⟨sound, restSound⟩
      · rintro sound earlier command later split
        rcases List.forall_mem_cons.mp sound with ⟨firstSound, restSound⟩
        rcases right firstSound with ⟨after, performed, kept, served⟩
        cases earlier with
        | nil =>
            cases split
            exact ⟨driver, after, rfl, performed, served⟩
        | cons head tail =>
            cases split
            rcases (ih kept).mpr restSound tail command later rfl with
              ⟨before, last, reached, rest_⟩
            refine ⟨before, last, ?_, rest_⟩
            rw [performUsb, performed]
            exact reached

end

/-- After a successful registration, every accepted request runs its callback once, and no
request runs one with another length than its own, exactly when the requests are sound. -/
theorem usb_executesOnce_iff [DecidableEq Queue] [DecidableEq Link]
    (callbacks : Slot Queue Link → Callbacks App) (servicerCount : Nat) (links : List Link)
    (rounds : List (Round Queue))
    (success : (deviceControlResourcesRegister (.host servicerCount links) rounds).1 = .success)
    (app : Slot Queue Link → App) (requestData : List UInt8)
    (length : requestData.length = cfgTudEndpoint0Size) (history : List UsbCommand) :
    ExecutesUsbOnce callbacks
        (deviceControlResourcesRegister (.host servicerCount links) rounds).2 ⟨requestData,
        (deviceControlResourcesRegister (.host servicerCount links) rounds).2.device app⟩
        history ↔
      ∀ command ∈ history, command.Sound
        (deviceControlResourcesRegister (.host servicerCount links) rounds).2 := by
  have all := allRegistered_of_success success
  exact executesUsbOnce_iff_sound all ⟨Registering.device_follows app, length⟩ history

/-- A write command with one byte, and a read command for one byte. -/
def writeThenRead : List UsbCommand :=
  [⟨⟨reqTypeOut, 0, 1, 1⟩, [7], rfl, true⟩, ⟨⟨reqTypeIn, 0x80, 1, 1⟩, [0], rfl, true⟩]

theorem writeThenRead_executesUsbOnce :
    ExecutesUsbOnce (fun _ => zeroes) oneOffTile
      ⟨List.replicate cfgTudEndpoint0Size 0, oneOffTile.device fun _ => ()⟩ writeThenRead := by
  apply (usb_executesOnce_iff (fun _ => zeroes) 1 [()] [⟨none, fun _ => some ⟨(), [1]⟩⟩]
    (by decide) (fun _ => ()) (List.replicate cfgTudEndpoint0Size 0) List.length_replicate _).mpr
  intro command isCommand
  rcases List.mem_pair.mp isCommand with rfl | rfl
  · exact ⟨fun _ _ _ => by decide, fun _ _ _ _ => by decide, fun isIn => absurd isIn (by decide)⟩
  · exact ⟨fun isOut => absurd isOut (by decide), fun isOut => absurd isOut (by decide),
      fun _ _ _ _ => ⟨by decide, fun _ _ => by decide⟩⟩

/-- A write command without data, which is accepted and never executed. -/
def writeNothing : UsbCommand := ⟨⟨reqTypeOut, 0, 1, 0⟩, [], rfl, true⟩

theorem writeNothing_not_executesUsbOnce :
    ¬ ExecutesUsbOnce (fun _ => zeroes) oneOffTile
      ⟨List.replicate cfgTudEndpoint0Size 0, oneOffTile.device fun _ => ()⟩ [writeNothing] := by
  intro executes
  rcases executes [] writeNothing [] rfl with ⟨before, after, reached, performed, calls, appended,
    _, written, _⟩
  cases reached
  have known : (resourceTableSearch oneOffTile.ctx.resourceTable writeNothing.request.resid).1 =
      0 := by decide
  have unchanged := @perform_out_empty _ _ _ _ _ (fun _ => zeroes)
    ⟨List.replicate cfgTudEndpoint0Size 0, oneOffTile.device fun _ => ()⟩ writeNothing known rfl rfl
    rfl
  rw [performed, Except.ok.injEq] at unchanged
  have isCall := written ⟨_, setup_out known rfl, rfl⟩ rfl (by decide) _ oneOffTile_lists
  rw [unchanged, isCall] at appended
  exact absurd (congrArg List.length appended) (by decide)

end FwkRtos.DeviceControl

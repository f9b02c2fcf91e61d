import FwkRtos.Bytes.Memory
import FwkRtos.DeviceControl.SpiControl

/-!
# The packets of the host

The host's builders store a command in an array of 256 bytes, and the device decodes what it
receives of it.  Over I2C every packet is a request; over SPI a packet of zeros only is none.
A write command carries its payload, and is executed if its resource is registered.
-/

namespace FwkRtos.DeviceControl

open FwkRtos.Bytes

variable {Queue Link App : Type}

/-! ## The builders -/

/-- `I2C_TRANSACTION_MAX_BYTES` and `SPI_TRANSACTION_MAX_BYTES`. -/
def transactionMaxBytes : Nat := 256

/-- Bytes are stored one after the other, from an index on; there is no result where a byte
would be stored outside of the array. -/
def storeBytes (data : List UInt8) (i : Nat) : List UInt8 → Option (List UInt8)
  | [] => some data
  | byte :: bytes =>
      if i < data.length then storeBytes (data.set i byte) (i + 1) bytes else none

/-- `control_build_i2c_data`, with the array that it stores to and the length that it
returns. -/
def buildI2cData (data : List UInt8) (resid : ControlResid) (cmd : ControlCmd)
    (payload : List UInt8) : Option (List UInt8 × Nat) := do
  let data ← storeBytes data 0 [resid, cmd, UInt8.ofNat payload.length]
  if isControlCmdRead cmd then return (data, 3)
  let data ← storeBytes data 3 payload
  return (data, 3 + payload.length)

/-- `control_build_spi_data`, with the array that it stores to and the length that it
returns. -/
def buildSpiData (data : List UInt8) (resid : ControlResid) (cmd : ControlCmd)
    (payload : List UInt8) : Option (List UInt8 × Nat) := do
  let data ← storeBytes data 0 [resid, cmd, UInt8.ofNat payload.length]
  let data ← storeBytes data 3 (List.replicate 5 0)
  if isControlCmdRead cmd then return (data, 8)
  let data ← storeBytes data 3 payload
  return (data, 3 + payload.length)

/-- The builder stays in its array and leaves the packet at its beginning. -/
def BuildsInside
    (build : List UInt8 → ControlResid → ControlCmd → List UInt8 → Option (List UInt8 × Nat))
    (packet : List UInt8) (resid : ControlResid) (cmd : ControlCmd) (payload : List UInt8) :
    Prop :=
  ∀ data, data.length = transactionMaxBytes → ∃ rest,
    build data resid cmd payload = some (packet ++ rest, packet.length) ∧
      (packet ++ rest).length = transactionMaxBytes

theorem storeBytes_eq {data : List UInt8} {i : Nat} {bytes : List UInt8}
    (inside : i + bytes.length ≤ data.length) :
    storeBytes data i bytes = some (splice data i bytes) := by
  induction bytes generalizing data i with
  | nil => simp [storeBytes, splice]
  | cons byte bytes ih =>
      rw [List.length_cons] at inside
      have here : i < data.length := by omega
      rw [storeBytes, if_pos here, ih (by rw [List.length_set]; omega)]
      congr 1
      rw [splice, splice, List.take_add_one, List.take_set_of_le (le_refl i),
        List.getElem?_set_self here, List.drop_set_of_lt (by omega), List.length_cons]
      simp [Nat.add_assoc, Nat.add_comm 1]

/-- What is stored at the place behind a part that stays. -/
theorem splice_behind {before after part : List UInt8} {offset : Nat}
    (offsetEq : before.length = offset) :
    splice (before ++ after) offset part = before ++ (part ++ after.drop part.length) := by
  subst offsetEq
  rw [splice, List.take_left, List.drop_append, List.drop_eq_nil_of_le (Nat.le_add_right _ _),
    Nat.add_sub_cancel_left, List.nil_append, List.append_assoc]

theorem storeBytes_header {data header : List UInt8} (length : header.length = 3)
    (room : 3 ≤ data.length) : storeBytes data 0 header = some (header ++ data.drop 3) := by
  rw [storeBytes_eq (by omega), splice, length]
  rfl

section
variable {resid : ControlResid} {cmd : ControlCmd} {payload : List UInt8}

theorem buildI2cData_inside (short : payload.length ≤ 253) :
    BuildsInside buildI2cData (controlBuildI2cData resid cmd payload payload.length)
      resid cmd payload := by
  intro data size
  rw [transactionMaxBytes] at size
  generalize isHeader : [resid, cmd, UInt8.ofNat payload.length] = header
  have length : header.length = 3 := by
    rw [← isHeader]
    rfl
  have first := storeBytes_header length (by omega : 3 ≤ data.length)
  have packet : controlBuildI2cData resid cmd payload payload.length =
      header ++ if isControlCmdRead cmd then [] else payload := by
    rw [controlBuildI2cData, List.take_length, ← isHeader]
    rfl
  rw [buildI2cData, isHeader, first, Option.bind_eq_bind, Option.bind_some, packet]
  cases isRead : isControlCmdRead cmd with
  | true =>
      refine ⟨data.drop 3, ?_, ?_⟩
      · simp [length]
      · simp [length, size, transactionMaxBytes]
  | false =>
      have second : storeBytes (header ++ data.drop 3) 3 payload =
          some (header ++ (payload ++ (data.drop 3).drop payload.length)) := by
        rw [storeBytes_eq (by simp only [List.length_append, List.length_drop]; omega),
          splice_behind length]
      refine ⟨(data.drop 3).drop payload.length, ?_, ?_⟩
      · simp [second, length]
      · simp only [Bool.false_eq_true, if_false, List.length_append, List.length_drop, length,
          transactionMaxBytes]
        omega

theorem buildSpiData_inside (short : payload.length ≤ 253) :
    BuildsInside buildSpiData (controlBuildSpiData (.write resid cmd payload))
      resid cmd payload := by
  intro data size
  rw [transactionMaxBytes] at size
  generalize isHeader : [resid, cmd, UInt8.ofNat payload.length] = header
  have length : header.length = 3 := by
    rw [← isHeader]
    rfl
  have first := storeBytes_header length (by omega : 3 ≤ data.length)
  have packet : controlBuildSpiData (.write resid cmd payload) =
      header ++ if isControlCmdRead cmd then List.replicate 5 0 else payload := by
    rw [controlBuildSpiData, ← isHeader]
    rfl
  have padded : storeBytes (header ++ data.drop 3) 3 (List.replicate 5 0) =
      some (header ++ (List.replicate 5 0 ++ (data.drop 3).drop 5)) := by
    rw [storeBytes_eq (by simp only [List.length_append, List.length_drop, List.length_replicate]
                          omega), splice_behind length, List.length_replicate]
  rw [buildSpiData, isHeader, first, Option.bind_eq_bind, Option.bind_some, padded,
    Option.bind_some, packet]
  cases isRead : isControlCmdRead cmd with
  | true =>
      refine ⟨(data.drop 3).drop 5, ?_, ?_⟩
      · simp [length]
      · simp [length, size, transactionMaxBytes]
  | false =>
      generalize isPadded : List.replicate 5 0 ++ (data.drop 3).drop 5 = rest
      have room : rest.length = 253 := by
        rw [← isPadded]
        simp [size]
      have second : storeBytes (header ++ rest) 3 payload =
          some (header ++ (payload ++ rest.drop payload.length)) := by
        rw [storeBytes_eq (by simp only [List.length_append]; omega), splice_behind length]
      refine ⟨rest.drop payload.length, ?_, ?_⟩
      · simp [second, length]
      · simp only [Bool.false_eq_true, if_false, List.length_append, List.length_drop, length,
          transactionMaxBytes]
        omega

end

/-! ## What the device makes of them -/

/-- The device has executed a write command: one call of the servicer's callback, with exactly
this payload, if the resource is registered; none if it is the special resource, which takes no
write commands, or if it is unknown.  The status says so. -/
structure Executed (callbacks : Slot Queue Link → Callbacks App) (state : Registering Queue Link)
    (before : Device Queue Link App) (resid : ControlResid) (cmd : ControlCmd)
    (payload : List UInt8) (after : Device Queue Link App) : Prop where
  registered : ∀ servicer, state.Lists servicer resid →
    let result := (callbacks servicer).writeCmdCb resid cmd payload (before.app servicer)
    after.calls = before.calls ++ [.write servicer resid cmd payload result.1] ∧
      after.ctx.lastStatus = result.1.toUInt8
  special : resid = controlSpecialResid →
    after.calls = before.calls ∧ after.ctx.lastStatus = ControlRet.badCommand.toUInt8
  unknown : resid ≠ controlSpecialResid → (∀ servicer, ¬ state.Lists servicer resid) →
    after.calls = before.calls ∧ after.ctx.lastStatus = ControlRet.badResource.toUInt8

section
variable [DecidableEq Queue] [DecidableEq Link] (callbacks : Slot Queue Link → Callbacks App)

/-- The device after `device_control_request`. -/
def Device.issue (device : Device Queue Link App) (resid : ControlResid) (cmd : ControlCmd)
    (payloadLen : Nat) : Device Queue Link App :=
  { device with ctx := (deviceControlRequest device.ctx resid cmd payloadLen).2 }

/-- The packet in the buffer of `device_control_i2c_rx_cb`, before stale bytes, makes the device
issue the request and transfer what the packet has behind its header; a write command is
executed. -/
structure I2cDecodes (state : Registering Queue Link) (device : Device Queue Link App)
    (packet : List UInt8) (resid : ControlResid) (cmd : ControlCmd) (payload : List UInt8) :
    Prop where
  request : ∀ stale, deviceControlI2cRxCb callbacks device (packet ++ stale) packet.length = do
    let outcome ← deviceControlPayloadTransfer callbacks
      (device.issue resid cmd payload.length) (packet.drop 3 ++ stale) (packet.length - 3)
        .hostToDevice
    .ok ⟨packet.take 3 ++ outcome.payload, outcome.device⟩
  execution : device.Follows state → isControlCmdRead cmd = false → ∀ stale, ∃ after,
    deviceControlI2cRxCb callbacks device (packet ++ stale) packet.length = .ok after ∧
      Executed callbacks state device resid cmd payload after.device

/-- The same for `device_control_spi_xfer_done_cb`, except that a packet for the special
resource, with the command 0 and without payload, is no request and changes nothing but that
the buffers are prepared again. -/
structure SpiDecodes (state : Registering Queue Link) (spi : SpiDevice Queue Link App)
    (packet : List UInt8) (resid : ControlResid) (cmd : ControlCmd) (payload : List UInt8) :
    Prop where
  nop : resid = 0 ∧ cmd = 0 ∧ payload = [] → ∀ stale,
    deviceControlSpiXferDoneCb callbacks { spi with rxBuf := packet ++ stale } packet.length =
      .ok { spi with rxBuf := packet ++ stale, userDataReady := true, xferDone := none }
  request : ¬ (resid = 0 ∧ cmd = 0 ∧ payload = []) → ∀ stale,
    deviceControlSpiXferDoneCb callbacks { spi with rxBuf := packet ++ stale } packet.length = do
      let outcome ← deviceControlPayloadTransferBidir callbacks
        (spi.device.issue resid cmd payload.length) (packet.drop 3 ++ stale) (packet.length - 3)
          spi.txBuf
      .ok { spi with
        rxBuf := packet ++ stale, txBuf := outcome.payload, userDataReady := true,
        xferDone := none, device := outcome.device }
  execution : spi.Stands state → isControlCmdRead cmd = false →
    ¬ (resid = 0 ∧ cmd = 0 ∧ payload = []) → ∀ stale, ∃ after,
      deviceControlSpiXferDoneCb callbacks { spi with rxBuf := packet ++ stale } packet.length =
        .ok after ∧ Executed callbacks state spi.device resid cmd payload after.device

variable {callbacks} {state : Registering Queue Link} {device : Device Queue Link App}
  {spi : SpiDevice Queue Link App} {resid : ControlResid} {cmd : ControlCmd}
  {payload : List UInt8}

/-- What `do_command` does with a write command for a known resource, whatever follows its
payload in the buffer. -/
theorem doCommand_write (follows : device.Follows state) (all : AllRegistered state)
    (known : resid = controlSpecialResid ∨ ∃ servicer, state.Lists servicer resid)
    (isWrite : isControlCmdRead cmd = false) (stale : List UInt8) :
    ∃ outcome, doCommand callbacks (device.requested resid cmd payload.length)
        (resourceTableSearch device.ctx.resourceTable resid).2 resid cmd (payload ++ stale)
          payload.length = .ok outcome ∧
      Executed callbacks state device resid cmd payload
        (outcome.device.setLastStatus outcome.ret) := by
  by_cases special : resid = controlSpecialResid
  case pos =>
    refine ⟨⟨.badCommand, payload ++ stale, 0, device.requested resid cmd payload.length⟩, ?_, ?_⟩
    · rw [doCommand, if_pos special, isWrite]
      rfl
    · constructor
      case registered =>
        intro servicer lists
        exact absurd special (follows.routed all lists).1
      case special => exact fun _ => ⟨rfl, rfl⟩
      case unknown => exact fun ordinary => absurd special ordinary
  case neg =>
    rcases known.resolve_left special with ⟨servicer, lists⟩
    rcases follows.routed all lists with ⟨ordinary, found, stored⟩
    have executed := @doCommand_eq _ _ _ _ _ callbacks servicer
      (device.requested resid cmd payload.length) resid cmd (payload ++ stale) payload.length _
      ordinary stored follows.gatewayQueue
      (by rw [List.length_append]; exact Nat.le_add_right _ _)
      (fun _ isRead => by simp [isWrite] at isRead)
    rw [found]
    refine ⟨_, executed, ?_⟩
    constructor
    case registered =>
      intro other otherLists
      rw [all.lists_unique otherLists lists]
      simp [directCall, Device.requested, isWrite, Device.afterWrite, Device.setLastStatus]
    case special => exact fun isSpecial => absurd isSpecial ordinary
    case unknown => exact fun _ nowhere => absurd lists (nowhere servicer)

omit [DecidableEq Queue] [DecidableEq Link] in
/-- A write command for a resource that no servicer lists. -/
theorem executed_unknown (all : AllRegistered state) (ordinary : resid ≠ controlSpecialResid)
    (free : state.ctx.resourceTable resid = noServicer)
    {after : Device Queue Link App} (calls : after.calls = device.calls)
    (status : after.ctx.lastStatus = ControlRet.badResource.toUInt8) :
    Executed callbacks state device resid cmd payload after := by
  constructor
  case registered =>
    intro servicer lists
    have found := all.servicerOf_eq_some_iff.mpr lists
    simp [Context.servicerOf, free] at found
  case special => exact fun special => absurd special ordinary
  case unknown => exact fun _ _ => ⟨calls, status⟩

omit [DecidableEq Queue] [DecidableEq Link] in
/-- The resource is known to the device, or free and not the special one. -/
theorem Device.Follows.known_or_free (follows : device.Follows state) (all : AllRegistered state)
    (resid : ControlResid) :
    ((resid = controlSpecialResid ∨ ∃ servicer, state.Lists servicer resid) ∧
        (resourceTableSearch device.ctx.resourceTable resid).1 = 0) ∨
      resid ≠ controlSpecialResid ∧ state.ctx.resourceTable resid = noServicer := by
  by_cases found : (resourceTableSearch device.ctx.resourceTable resid).1 = 0
  case pos => exact .inl ⟨(follows.found_iff all).mp found, found⟩
  case neg =>
    rcases not_or.mp (mt (follows.found_iff all).mpr found) with ⟨ordinary, nowhere⟩
    exact .inr ⟨ordinary, all.free (not_exists.mp nowhere)⟩

omit [DecidableEq Queue] [DecidableEq Link] in
theorem Device.issue_known
    (found : (resourceTableSearch device.ctx.resourceTable resid).1 = 0) (payloadLen : Nat) :
    device.issue resid cmd payloadLen = device.requested resid cmd payloadLen := by
  rw [Device.issue, deviceControlRequest_found found]
  rfl

/-! ## Over I2C -/

/-- Any packet with a whole header is a request. -/
theorem i2cRxCb_packet (short : payload.length ≤ 253) (body stale : List UInt8) :
    deviceControlI2cRxCb callbacks device
        ((resid :: cmd :: UInt8.ofNat payload.length :: body) ++ stale) (body.length + 3) = (do
      let outcome ← deviceControlPayloadTransfer callbacks
        (device.issue resid cmd payload.length) (body ++ stale) body.length .hostToDevice
      .ok ⟨[resid, cmd, UInt8.ofNat payload.length] ++ outcome.payload, outcome.device⟩) := by
  have stored := toNat_ofNat_length (short.trans (by decide : 253 ≤ 255))
  unfold deviceControlI2cRxCb
  simp only [List.cons_append, if_pos (Nat.le_add_left 3 body.length), stored,
    Nat.add_sub_cancel]
  rfl

theorem i2cDecodes (all : AllRegistered state) (short : payload.length ≤ 253) :
    I2cDecodes callbacks state device (controlBuildI2cData resid cmd payload payload.length)
      resid cmd payload := by
  constructor
  case request =>
    intro stale
    exact i2cRxCb_packet short _ stale
  case execution =>
    intro follows isWrite stale
    rw [controlBuildI2cData_write isWrite]
    have received := @i2cRxCb_packet _ _ _ _ _ callbacks device resid cmd payload short payload
      stale
    rw [List.length_cons, List.length_cons, List.length_cons, received]
    rcases follows.known_or_free all resid with ⟨known, found⟩ | ⟨ordinary, free⟩
    · rcases @doCommand_write _ _ _ _ _ callbacks state device resid cmd payload follows all known
        isWrite stale with ⟨outcome, executed, correct⟩
      rw [Device.issue_known found]
      have transferred : deviceControlPayloadTransfer callbacks
          (device.requested resid cmd payload.length) (payload ++ stale) payload.length
            .hostToDevice = .ok outcome.store := by
        simp only [deviceControlPayloadTransfer, Device.requested, found, if_true, isWrite,
          Bool.false_eq_true, if_false, le_refl]
        rw [Device.requested] at executed
        rw [executed]
        rfl
      rw [transferred]
      exact ⟨_, rfl, correct⟩
    · have request := deviceControlRequest_free follows ordinary free cmd payload.length
      have issued : (device.issue resid cmd payload.length).Follows state :=
        follows.request resid cmd payload.length
      have resid_ : (device.issue resid cmd payload.length).ctx.requestedResid = resid := by
        rw [Device.issue, request]
      rw [payloadTransfer_unknown issued (by rwa [resid_]) (by rwa [resid_])]
      exact ⟨_, rfl, executed_unknown all ordinary free rfl rfl⟩

/-! ## Over SPI -/

/-- Any packet with a whole header that is not zero is a request. -/
theorem spiXferDoneCb_packet (short : payload.length ≤ 253)
    (notNop : ¬ (resid = 0 ∧ cmd = 0 ∧ payload = [])) (body stale : List UInt8) :
    deviceControlSpiXferDoneCb callbacks
        { spi with rxBuf := (resid :: cmd :: UInt8.ofNat payload.length :: body) ++ stale }
        (body.length + 3) = (do
      let outcome ← deviceControlPayloadTransferBidir callbacks
        (spi.device.issue resid cmd payload.length) (body ++ stale) body.length spi.txBuf
      .ok { spi with
        rxBuf := (resid :: cmd :: UInt8.ofNat payload.length :: body) ++ stale
        txBuf := outcome.payload, userDataReady := true, xferDone := none,
        device := outcome.device }) := by
  have stored := toNat_ofNat_length (short.trans (by decide : 253 ≤ 255))
  have handled : ¬ ((resid = 0 ∧ cmd = 0 ∧ UInt8.ofNat payload.length = 0) ∨
      body.length + 3 < 3) := by
    rintro (⟨first, second, third⟩ | tooShort)
    · rw [third] at stored
      exact notNop ⟨first, second, List.eq_nil_of_length_eq_zero stored.symm⟩
    · omega
  have whole : ¬ body.length + 3 < 3 := by omega
  unfold deviceControlSpiXferDoneCb
  simp only [List.cons_append, if_neg handled, if_neg whole, stored, Nat.add_sub_cancel]
  rfl

theorem spiDecodes (all : AllRegistered state) (short : payload.length ≤ 253) :
    SpiDecodes callbacks state spi (controlBuildSpiData (.write resid cmd payload))
      resid cmd payload := by
  constructor
  case nop =>
    rintro ⟨rfl, rfl, rfl⟩ stale
    rfl
  case request =>
    intro notNop stale
    exact spiXferDoneCb_packet short notNop _ stale
  case execution =>
    intro stands isWrite notNop stale
    have packet : controlBuildSpiData (.write resid cmd payload) =
        resid :: cmd :: UInt8.ofNat payload.length :: payload := by
      simp [controlBuildSpiData, isWrite]
    have received := @spiXferDoneCb_packet _ _ _ _ _ callbacks spi resid cmd payload short notNop
      payload stale
    rw [packet, List.length_cons, List.length_cons, List.length_cons, received]
    have follows := stands.follows
    rcases stands.txBuf_eq with ⟨first, rest, buffer⟩
    rw [buffer]
    rcases follows.known_or_free all resid with ⟨known, found⟩ | ⟨ordinary, free⟩
    · rcases @doCommand_write _ _ _ _ _ callbacks state spi.device resid cmd payload follows all
        known isWrite stale with ⟨outcome, executed, correct⟩
      rw [Device.issue_known found]
      have transferred : deviceControlPayloadTransferBidir callbacks
          (spi.device.requested resid cmd payload.length) (payload ++ stale) payload.length
            (first :: rest) = .ok ⟨outcome.ret, outcome.ret.toUInt8 :: rest, 1,
              outcome.device.setLastStatus outcome.ret⟩ := by
        simp only [deviceControlPayloadTransferBidir, Device.requested, found, if_true, isWrite,
          Bool.false_eq_true, if_false, lt_irrefl]
        rw [Device.requested] at executed
        rw [executed]
        rfl
      rw [transferred]
      exact ⟨_, rfl, correct⟩
    · have request := deviceControlRequest_free follows ordinary free cmd payload.length
      have issued : (spi.device.issue resid cmd payload.length).Follows state :=
        follows.request resid cmd payload.length
      have resid_ : (spi.device.issue resid cmd payload.length).ctx.requestedResid = resid := by
        rw [Device.issue, request]
      rw [bidir_unknown issued (by rwa [resid_]) (by rwa [resid_])]
      exact ⟨_, rfl, executed_unknown all ordinary free rfl rfl⟩

/-- The builders stay in their arrays; over I2C every packet makes the device issue its request,
over SPI every packet but the one of zeros only does; and a write command is executed with its
payload if its resource is registered. -/
theorem hostPackets_decode (all : AllRegistered state) (resid : ControlResid) (cmd : ControlCmd)
    {payload : List UInt8} (short : payload.length ≤ 253) :
    (BuildsInside buildI2cData (controlBuildI2cData resid cmd payload payload.length)
        resid cmd payload ∧
      BuildsInside buildSpiData (controlBuildSpiData (.write resid cmd payload))
        resid cmd payload) ∧
    (∀ device : Device Queue Link App, I2cDecodes callbacks state device
      (controlBuildI2cData resid cmd payload payload.length) resid cmd payload) ∧
    ∀ spi : SpiDevice Queue Link App, SpiDecodes callbacks state spi
      (controlBuildSpiData (.write resid cmd payload)) resid cmd payload := by
  constructor
  · exact ⟨buildI2cData_inside short, buildSpiData_inside short⟩
  · exact ⟨fun _ => i2cDecodes all short, fun _ => spiDecodes all short⟩

end

/-- A write command for the servicer on the other tile is executed with its two bytes, on both
ways. -/
theorem twoBytes_decode :
    (∃ after, deviceControlI2cRxCb (fun _ => zeroes) (oneOffTile.device fun _ => ())
        [1, 2, 2, 7, 8] 5 = .ok after ∧
      after.device.calls = [.write ⟨some (), ()⟩ 1 2 [7, 8] .success]) ∧
    ∃ after, deviceControlSpiXferDoneCb (fun _ => zeroes)
        { (spiStart (oneOffTile.device fun _ => ()) []).spi with rxBuf := [1, 2, 2, 7, 8] } 5 =
          .ok after ∧
      after.device.calls = [.write ⟨some (), ()⟩ 1 2 [7, 8] .success] := by
  rcases @hostPackets_decode Unit Unit Unit _ _ (fun _ => zeroes) oneOffTile
    oneOffTile_allRegistered 1 2 [7, 8] (by decide) with ⟨_, i2c, spi⟩
  constructor
  · rcases (i2c (oneOffTile.device fun _ => ())).execution (Registering.device_follows _) rfl []
      with ⟨after, executed, correct⟩
    exact ⟨after, executed, (correct.registered _ oneOffTile_lists).1⟩
  · rcases (spi (spiStart (oneOffTile.device fun _ => ()) []).spi).execution
      ⟨Registering.device_follows _, List.length_replicate, List.length_replicate⟩ rfl
      (by decide) [] with ⟨after, executed, correct⟩
    exact ⟨after, executed, (correct.registered _ oneOffTile_lists).1⟩

/-- A device whose last request was for the resource 1. -/
def requestedOne : SpiDevice Unit Unit Unit :=
  (spiStart ((oneOffTile.device fun _ => ()).issue 1 2 0) []).spi

/-- The packet for the resource 0, with the command 0 and no payload, is no request over SPI: the
requested resource is still 1.  A write command for a resource that is not registered is not
executed. -/
theorem zeros_not_requested :
    (¬ ∃ after, deviceControlSpiXferDoneCb (fun _ => zeroes)
          { requestedOne with rxBuf := controlBuildSpiData (.write 0 0 []) } 3 = .ok after ∧
        after.device.ctx.requestedResid = 0) ∧
      ¬ ∃ after servicer ret, deviceControlI2cRxCb (fun _ => zeroes)
          (oneOffTile.device fun _ => ()) (controlBuildI2cData 9 2 [7] 1) 4 = .ok after ∧
        after.device.calls = [.write servicer 9 2 [7] ret] := by
  constructor
  · rintro ⟨after, executed, requested⟩
    cases executed
    cases requested
  · rintro ⟨after, servicer, ret, executed, calls⟩
    cases executed
    cases calls

end FwkRtos.DeviceControl

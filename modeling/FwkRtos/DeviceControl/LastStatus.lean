import FwkRtos.DeviceControl.I2cControl

/-!
# The status of the last command

The host reads the status of the last command as it reads anything else: it writes the read
command first.  The device stores `CONTROL_SUCCESS` when a read command is written, so that
this is what the host reads.
-/

namespace FwkRtos.DeviceControl

variable {Queue Link App : Type}

/-- `RTOS_I2C_SLAVE_BUF_LEN`. -/
def rtosI2cSlaveBufLen : Nat := 256

/-- One transfer of the master. -/
inductive Transfer
  | write (bytes : List UInt8)
  | read (count : Nat)
  deriving DecidableEq

/-- The slave.  Ghost: the status of the most recent command, if there was one. -/
structure Tracked (Queue Link App : Type) where
  slave : I2cSlave Queue Link App
  lastCommand : Option UInt8

def Call.ret : Call Queue Link → ControlRet
  | .read _ _ _ _ ret _ => ret
  | .write _ _ _ _ ret => ret

/-- What the callback that was called last returned. -/
def Device.lastRet (device : Device Queue Link App) : Option UInt8 :=
  device.calls.getLast?.map fun call => call.ret.toUInt8

/-- The status of the command that a packet brings: that of its servicer if it is executed.
A packet that announces a read command brings none yet. -/
def packetStatus (table : ResourceTable) (after : Device Queue Link App) :
    List UInt8 → Option UInt8
  | [] => none
  | resid :: cmd :: payloadLen :: payload =>
      if (resourceTableSearch table resid).1 ≠ 0 then some ControlRet.badResource.toUInt8
      else if isControlCmdRead cmd then none
      else if payload.length < payloadLen.toNat then some ControlRet.dataLengthError.toUInt8
      else if resid = controlSpecialResid then some ControlRet.badCommand.toUInt8
      else after.lastRet
  | _ => some ControlRet.malformedPacket.toUInt8

/-- The status of the command that a read executes, if it executes one. -/
def answerStatus (before after : Device Queue Link App) : Option UInt8 :=
  if (resourceTableSearch before.ctx.resourceTable before.ctx.requestedResid).1 ≠ 0 then none
  else if ¬ isControlCmdRead before.ctx.requestedCmd then none
  else if before.ctx.requestedResid = controlSpecialResid then
    if (before.ctx.requestedCmd = controlGetVersion ∨
        before.ctx.requestedCmd = controlGetLastCommandStatus) ∧
      before.ctx.requestedPayloadLen = 1 then some ControlRet.success.toUInt8
    else some ControlRet.badCommand.toUInt8
  else after.lastRet

section
variable [DecidableEq Queue] [DecidableEq Link] (callbacks : Slot Queue Link → Callbacks App)

/-- One transfer: the bytes that are read, and the slave. -/
def Transfer.perform (tracked : Tracked Queue Link App) :
    Transfer → Except Fault (List UInt8 × Tracked Queue Link App)
  | .write bytes => do
      let slave ← tracked.slave.write callbacks bytes
      let status := packetStatus tracked.slave.device.ctx.resourceTable slave.device
        (bytes.take rtosI2cSlaveBufLen)
      .ok ([], ⟨slave, status <|> tracked.lastCommand⟩)
  | .read count => do
      let (received, slave) ← tracked.slave.read callbacks count
      let status := answerStatus tracked.slave.device slave.device
      .ok (received, ⟨slave, status <|> tracked.lastCommand⟩)

/-- One transfer after the other. -/
def transfers : List Transfer → Tracked Queue Link App → Except Fault (Tracked Queue Link App)
  | [], tracked => .ok tracked
  | transfer :: rest, tracked => do
      let (_, tracked) ← transfer.perform callbacks tracked
      transfers rest tracked

/-- What the host writes to read the status of the last command. -/
def statusRequest : List UInt8 := [controlSpecialResid, controlGetLastCommandStatus, 1]

/-- Every read of the status of the last command returns, and gives the status of the most
recent command that precedes it. -/
def ReportsLastStatus (start : Tracked Queue Link App) (history : List Transfer) : Prop :=
  ∀ earlier later, history = earlier ++ .write statusRequest :: .read 1 :: later →
    ∃ before requested after status, transfers callbacks earlier start = .ok before ∧
      (Transfer.write statusRequest).perform callbacks before = .ok ([], requested) ∧
        (Transfer.read 1).perform callbacks requested = .ok ([status], after) ∧
          ∀ last ∈ before.lastCommand, status = last

/-- The transfer does not read the answer of a read command that asks a servicer on another
tile for nothing. -/
def Transfer.Answerable (state : Registering Queue Link) (tracked : Tracked Queue Link App) :
    Transfer → Prop
  | .write _ => True
  | .read _ => tracked.slave.device.Answerable state

/-- Every read of the status of the last command comes after transfers that are answerable,
and its most recent command succeeded. -/
def SucceedsBefore (state : Registering Queue Link) (start : Tracked Queue Link App)
    (history : List Transfer) : Prop :=
  ∀ earlier later, history = earlier ++ .write statusRequest :: .read 1 :: later →
    (∀ first transfer between, earlier = first ++ transfer :: between →
      ∀ middle, transfers callbacks first start = .ok middle →
        transfer.Answerable state middle) ∧
    ∀ before, transfers callbacks earlier start = .ok before →
      ∀ last ∈ before.lastCommand, last = ControlRet.success.toUInt8

end

section
variable [DecidableEq Queue] [DecidableEq Link] {callbacks : Slot Queue Link → Callbacks App}
  {state : Registering Queue Link} {slave : I2cSlave Queue Link App}
  {tracked : Tracked Queue Link App}

/-- The slave between two transfers. -/
structure I2cSlave.Waits (slave : I2cSlave Queue Link App) (state : Registering Queue Link) :
    Prop where
  follows : slave.device.Follows state
  length : slave.dataBuf.length = rtosI2cSlaveBufLen
  requested : slave.device.ctx.requestedPayloadLen ≤ 255

/-- A write that is too short for a header is a malformed packet. -/
theorem write_short {bytes : List UInt8} (length : slave.dataBuf.length = rtosI2cSlaveBufLen)
    (written : bytes ≠ []) (short : bytes.length < 3) :
    slave.write callbacks bytes = .ok ⟨bytes ++ slave.dataBuf.drop bytes.length,
      slave.device.setLastStatus .malformedPacket⟩ := by
  have received := foldl_i2cMasterSentData bytes [] slave.dataBuf
  have inside : bytes.length ≤ slave.dataBuf.length := by
    rw [length]
    exact short.le.trans (by decide)
  simp only [List.nil_append, List.length_nil, Nat.zero_add, List.take_of_length_le inside,
    Nat.min_eq_left inside] at received
  unfold I2cSlave.write
  simp only [received, List.length_pos_iff.mpr written, if_true, deviceControlI2cRxCb,
    if_neg (Nat.not_le.mpr short)]

/-- A write returns, whatever the bytes are. -/
theorem I2cSlave.Waits.write (waits : slave.Waits state) (all : AllRegistered state)
    (bytes : List UInt8) :
    ∃ after, slave.write callbacks bytes = .ok after ∧ after.Waits state := by
  rcases bytes with _ | ⟨resid, _ | ⟨cmd, _ | ⟨payloadLen, payload⟩⟩⟩
  case nil => exact ⟨slave, by simp [I2cSlave.write], waits⟩
  case cons.nil =>
    refine ⟨_, write_short waits.length (by simp) (by simp),
      waits.follows.setLastStatus _, ?_, waits.requested⟩
    simp [waits.length, rtosI2cSlaveBufLen]
  case cons.cons.nil =>
    refine ⟨_, write_short waits.length (by simp) (by simp),
      waits.follows.setLastStatus _, ?_, waits.requested⟩
    simp [waits.length, rtosI2cSlaveBufLen]
  case cons.cons.cons =>
    have follows := waits.follows.request resid cmd payloadLen.toNat
    have requested : (deviceControlRequest slave.device.ctx resid cmd
        payloadLen.toNat).2.requestedPayloadLen ≤ 255 := by
      unfold deviceControlRequest
      split
      · exact Nat.le_of_lt_succ (UInt8.toNat_lt payloadLen)
      · exact waits.requested
    rw [write_packet (by rw [waits.length]; decide)]
    rcases @payloadTransfer_hostToDevice _ _ _ state _
      (payload.take (slave.dataBuf.length - 3) ++ slave.dataBuf.drop (payload.length + 3))
      (min payload.length (slave.dataBuf.length - 3)) _ _ callbacks follows all
      (by simp only [List.length_append, List.length_take]; omega) with ⟨outcome, executed, kept⟩
    rw [executed]
    refine ⟨_, rfl, kept.follows, ?_, kept.requested.trans_le requested⟩
    have length := kept.length
    have isBuf := waits.length
    simp only [List.length_append, List.length_take, List.length_drop, List.length_cons] at length ⊢
    unfold rtosI2cSlaveBufLen at isBuf ⊢
    omega

/-- A read returns exactly when it is answerable. -/
theorem I2cSlave.Waits.read (waits : slave.Waits state) (all : AllRegistered state)
    (count : Nat) :
    (slave.device.Answerable state → ∃ received after,
        slave.read callbacks count = .ok (received, after) ∧ after.Waits state) ∧
      (¬ slave.device.Answerable state → slave.read callbacks count = .error .assertion) := by
  have fits : slave.device.ctx.requestedPayloadLen ≤ slave.dataBuf.length := by
    rw [waits.length]
    exact waits.requested.trans (by decide)
  cases buffer : slave.dataBuf with
  | nil =>
      have length := waits.length
      rw [buffer] at length
      cases length
  | cons first rest =>
      rw [buffer] at fits
      rcases @payloadTransfer_deviceToHost _ _ _ state slave.device (first :: rest)
        (first :: rest).length _ _ callbacks waits.follows all fits _ _ rfl with ⟨returns, fails⟩
      unfold I2cSlave.read deviceControlI2cTxStartCb
      rw [buffer]
      constructor
      · intro answerable
        rcases returns answerable with ⟨outcome, executed, kept⟩
        rw [executed]
        refine ⟨_, _, rfl, kept.follows, ?_, kept.requested.trans_le waits.requested⟩
        rw [kept.length, ← buffer, waits.length]
      · intro refuses
        rw [fails refuses]
        rfl

theorem Transfer.perform_write {bytes : List UInt8} {after : I2cSlave Queue Link App}
    (executed : tracked.slave.write callbacks bytes = .ok after) :
    (Transfer.write bytes).perform callbacks tracked =
      .ok ([], ⟨after, packetStatus tracked.slave.device.ctx.resourceTable after.device
        (bytes.take rtosI2cSlaveBufLen) <|> tracked.lastCommand⟩) := by
  simp only [Transfer.perform, executed, bind, Except.bind]

theorem Transfer.perform_read {count : Nat} {received : List UInt8}
    {after : I2cSlave Queue Link App}
    (executed : tracked.slave.read callbacks count = .ok (received, after)) :
    (Transfer.read count).perform callbacks tracked =
      .ok (received, ⟨after, answerStatus tracked.slave.device after.device <|>
        tracked.lastCommand⟩) := by
  simp only [Transfer.perform, executed, bind, Except.bind]

/-- One transfer returns exactly when it is answerable. -/
theorem perform_iff (waits : tracked.slave.Waits state) (all : AllRegistered state)
    (transfer : Transfer) :
    (transfer.Answerable state tracked → ∃ received after,
        transfer.perform callbacks tracked = .ok (received, after) ∧ after.slave.Waits state) ∧
      (¬ transfer.Answerable state tracked →
        transfer.perform callbacks tracked = .error .assertion) := by
  cases transfer with
  | write bytes =>
      constructor
      · intro _
        rcases @I2cSlave.Waits.write _ _ _ _ _ callbacks _ _ waits all bytes with
          ⟨after, executed, kept⟩
        exact ⟨_, _, Transfer.perform_write executed, kept⟩
      · intro refuses
        exact absurd trivial refuses
  | read count =>
      rcases @I2cSlave.Waits.read _ _ _ _ _ callbacks _ _ waits all count with ⟨returns, fails⟩
      constructor
      · intro answerable
        rcases returns answerable with ⟨received, after, executed, kept⟩
        exact ⟨received, _, Transfer.perform_read executed, kept⟩
      · intro refuses
        simp only [Transfer.perform, fails refuses, bind, Except.bind]

/-- A history returns exactly when each of its transfers is answerable where it is made. -/
theorem transfers_iff (waits : tracked.slave.Waits state) (all : AllRegistered state)
    (history : List Transfer) :
    (∃ after, transfers callbacks history tracked = .ok after) ↔
      ∀ first transfer between, history = first ++ transfer :: between →
        ∀ middle, transfers callbacks first tracked = .ok middle →
          transfer.Answerable state middle := by
  induction history generalizing tracked with
  | nil =>
      constructor
      · rintro _ first transfer between isEmpty
        simp at isEmpty
      · exact fun _ => ⟨tracked, rfl⟩
  | cons transfer rest ih =>
      rcases @perform_iff _ _ _ _ _ callbacks state tracked waits all transfer with
        ⟨returns, fails⟩
      constructor
      · rintro ⟨after, executed⟩ first other between split middle reached
        have answerable : transfer.Answerable state tracked := by
          by_contra refuses
          rw [transfers, fails refuses] at executed
          cases executed
        rcases returns answerable with ⟨received, next, performed, nextWaits⟩
        cases first with
        | nil =>
            cases split
            cases reached
            exact answerable
        | cons head tail =>
            cases split
            rw [transfers, performed] at executed reached
            exact (ih nextWaits).mp ⟨after, executed⟩ tail other between rfl middle reached
      · intro answerable
        rcases returns (answerable [] transfer rest rfl tracked rfl) with
          ⟨received, next, performed, nextWaits⟩
        have restReturns := (ih nextWaits).mpr fun first other between split middle reached =>
          answerable (transfer :: first) other between (by rw [split]; rfl) middle (by
            rw [transfers, performed]
            exact reached)
        rcases restReturns with ⟨after, executed⟩
        refine ⟨after, ?_⟩
        rw [transfers, performed]
        exact executed

theorem transfers_waits {after : Tracked Queue Link App} (waits : tracked.slave.Waits state)
    (all : AllRegistered state) {history : List Transfer}
    (executed : transfers callbacks history tracked = .ok after) : after.slave.Waits state := by
  induction history generalizing tracked with
  | nil =>
      cases executed
      exact waits
  | cons transfer rest ih =>
      rcases @perform_iff _ _ _ _ _ callbacks state tracked waits all transfer with
        ⟨returns, fails⟩
      by_cases answerable : transfer.Answerable state tracked
      · rcases returns answerable with ⟨received, next, performed, nextWaits⟩
        rw [transfers, performed] at executed
        exact ih nextWaits executed
      · rw [transfers, fails answerable] at executed
        cases executed

/-- The status that is read is `CONTROL_SUCCESS`. -/
theorem statusRead_eq (waits : tracked.slave.Waits state) :
    ∃ requested after,
      (Transfer.write statusRequest).perform callbacks tracked = .ok ([], requested) ∧
        (Transfer.read 1).perform callbacks requested =
          .ok ([ControlRet.success.toUInt8], after) := by
  have header : 3 ≤ tracked.slave.dataBuf.length := by
    rw [waits.length]
    decide
  have isRead : isControlCmdRead controlGetLastCommandStatus = true := by decide
  have written := @write_found _ _ _ _ _ callbacks tracked.slave controlSpecialResid
    controlGetLastCommandStatus (resourceTableSearch_special _) header 1 []
  rw [payloadTransfer_announce (resourceTableSearch_special _) isRead] at written
  have answered : I2cSlave.read callbacks ⟨controlSpecialResid :: controlGetLastCommandStatus ::
      1 :: (List.take (tracked.slave.dataBuf.length - 3) [] ++ tracked.slave.dataBuf.drop 3),
      (tracked.slave.device.requested controlSpecialResid controlGetLastCommandStatus
        (UInt8.toNat 1)).setLastStatus .success⟩ 1 =
        .ok ([ControlRet.success.toUInt8], ⟨ControlRet.success.toUInt8 ::
          controlGetLastCommandStatus :: 1 ::
            (List.take (tracked.slave.dataBuf.length - 3) [] ++ tracked.slave.dataBuf.drop 3),
          (tracked.slave.device.requested controlSpecialResid controlGetLastCommandStatus
            (UInt8.toNat 1)).setLastStatus .success⟩) := by
    unfold I2cSlave.read deviceControlI2cTxStartCb deviceControlPayloadTransfer
    simp only [Device.setLastStatus, Device.requested, resourceTableSearch_special, if_true,
      isRead, doCommand, specialReadCommand, specialByte, storeByte, bind, Except.bind]
    rfl
  exact ⟨_, _, Transfer.perform_write written, Transfer.perform_read answered⟩

/-- Every read of the status of the last command gives the status of the most recent
command that precedes it exactly when that command succeeded, and the history gets there. -/
theorem reportsLastStatus_iff (callbacks : Slot Queue Link → Callbacks App)
    (servicerCount : Nat) (links : List Link) (rounds : List (Round Queue))
    (success : (deviceControlResourcesRegister (.host servicerCount links) rounds).1 = .success)
    (app : Slot Queue Link → App) (dataBuf : List UInt8)
    (length : dataBuf.length = rtosI2cSlaveBufLen) (history : List Transfer) :
    ReportsLastStatus callbacks ⟨⟨dataBuf,
        (deviceControlResourcesRegister (.host servicerCount links) rounds).2.device app⟩, none⟩
        history ↔
      SucceedsBefore callbacks
        (deviceControlResourcesRegister (.host servicerCount links) rounds).2 ⟨⟨dataBuf,
        (deviceControlResourcesRegister (.host servicerCount links) rounds).2.device app⟩, none⟩
        history := by
  have all := allRegistered_of_success success
  have waits : I2cSlave.Waits ⟨dataBuf, (deviceControlResourcesRegister
      (.host servicerCount links) rounds).2.device app⟩
      (deviceControlResourcesRegister (.host servicerCount links) rounds).2 :=
    ⟨Registering.device_follows app, length, all.fresh.trans_le (Nat.zero_le 255)⟩
  constructor
  · intro reports earlier later split
    rcases reports earlier later split with
      ⟨before, requested, after, status, executed, written, answered, right⟩
    constructor
    · exact (@transfers_iff _ _ _ _ _ callbacks _ ⟨_, none⟩ waits all earlier).mp
        ⟨before, executed⟩
    · intro other again last isLast
      rw [executed, Except.ok.injEq] at again
      subst again
      rcases @statusRead_eq _ _ _ _ _ callbacks _ before
        (@transfers_waits _ _ _ _ _ callbacks _ ⟨_, none⟩ _ waits all _ executed) with
        ⟨sameRequested, sameAfter, writtenAgain, answeredAgain⟩
      rw [written, Except.ok.injEq, Prod.mk.injEq] at writtenAgain
      rw [← writtenAgain.2, answered, Except.ok.injEq, Prod.mk.injEq, List.cons.injEq]
        at answeredAgain
      exact (right last isLast).symm.trans answeredAgain.1.1
  · intro succeeds earlier later split
    rcases succeeds earlier later split with ⟨answerable, succeeded⟩
    rcases (@transfers_iff _ _ _ _ _ callbacks _ ⟨_, none⟩ waits all earlier).mpr answerable with
      ⟨before, executed⟩
    rcases @statusRead_eq _ _ _ _ _ callbacks _ before
      (@transfers_waits _ _ _ _ _ callbacks _ ⟨_, none⟩ _ waits all _ executed) with
      ⟨requested, after, written, answered⟩
    exact ⟨before, requested, after, _, executed, written, answered, fun last isLast =>
      (succeeded before executed last isLast).symm⟩

end

/-- The slave with an empty buffer, and one servicer on another tile. -/
def freshSlave : I2cSlave Unit Unit Unit :=
  ⟨List.replicate rtosI2cSlaveBufLen 0, oneOffTile.device fun _ => ()⟩

theorem freshSlave_waits : freshSlave.Waits oneOffTile :=
  ⟨Registering.device_follows _, List.length_replicate,
    oneOffTile_allRegistered.fresh.trans_le (Nat.zero_le 255)⟩

/-- A history whose only read of the status follows one other transfer. -/
theorem split_statusRead {first : Transfer} {earlier later : List Transfer}
    (other : first ≠ .write statusRequest)
    (split : [first, .write statusRequest, .read 1] =
      earlier ++ .write statusRequest :: .read 1 :: later) : earlier = [first] := by
  rcases earlier with _ | ⟨head, _ | ⟨second, _ | ⟨third, rest⟩⟩⟩
  · exact absurd (List.cons.inj split).1 other
  · rw [(List.cons.inj split).1]
  · cases split
  · exact absurd (congrArg List.length split) (by simp)

theorem writeSucceeds_reportsLastStatus :
    ReportsLastStatus (fun _ => zeroes) ⟨freshSlave, none⟩
      [.write [1, 0, 1, 7], .write statusRequest, .read 1] := by
  apply (reportsLastStatus_iff (fun _ => zeroes) 1 [()] [⟨none, fun _ => some ⟨(), [1]⟩⟩]
    (by decide) (fun _ => ()) (List.replicate rtosI2cSlaveBufLen 0) List.length_replicate _).mpr
  rintro earlier later split
  have only := split_statusRead (by decide) split
  subst only
  constructor
  · intro first transfer between isOne middle reached
    rcases List.append_eq_singleton_iff.mp isOne.symm with ⟨_, isWrite⟩ | ⟨_, isNil⟩
    · rw [(List.cons.inj isWrite).1]
      exact trivial
    · cases isNil
  · intro before executed last isLast
    have follows : (freshSlave.device.requested 1 0 (UInt8.toNat 1)).Follows oneOffTile :=
      ⟨rfl, rfl, rfl⟩
    have header : 3 ≤ freshSlave.dataBuf.length := by
      rw [freshSlave_waits.length]
      decide
    have written := @write_found _ _ _ _ _ (fun _ => zeroes) freshSlave 1 0
      (freshSlave_waits.follows.found oneOffTile_allRegistered oneOffTile_lists) header 1 [7]
    have offered : (UInt8.toNat 1) ≤ min [(7 : UInt8)].length (freshSlave.dataBuf.length - 3) := by
      rw [freshSlave_waits.length]
      decide
    rw [payloadTransfer_execute follows oneOffTile_allRegistered oneOffTile_lists (by decide)
      offered (by simp only [List.length_append, List.length_take]; omega)] at written
    have performed := @Transfer.perform_write _ _ _ _ _ _ ⟨freshSlave, none⟩ _ _ written
    have isBefore := (congrArg (fun result => result.bind fun pair => Except.ok pair.2)
      performed).symm.trans executed
    cases isBefore
    cases isLast
    rfl

/-- A command for an unregistered resource is rejected, and the status read after it is
that of a success. -/
theorem badResource_not_reportsLastStatus :
    ¬ ReportsLastStatus (fun _ => zeroes) ⟨freshSlave, none⟩
      [.write [9, 0, 0], .write statusRequest, .read 1] := by
  intro reports
  rcases reports [.write [9, 0, 0]] [] rfl with
    ⟨before, requested, after, status, executed, written, answered, right⟩
  rcases @I2cSlave.Waits.write _ _ _ _ _ (fun _ => zeroes) _ _ freshSlave_waits
    oneOffTile_allRegistered [9, 0, 0] with ⟨slave, rejected, waits⟩
  rw [transfers, @Transfer.perform_write _ _ _ _ _ _ ⟨freshSlave, none⟩ _ _ rejected] at executed
  cases executed
  rcases @statusRead_eq _ _ _ _ _ (fun _ => zeroes) _ ⟨slave, _⟩ waits with
    ⟨sameRequested, sameAfter, writtenAgain, answeredAgain⟩
  rw [written, Except.ok.injEq, Prod.mk.injEq] at writtenAgain
  rw [← writtenAgain.2, answered, Except.ok.injEq, Prod.mk.injEq, List.cons.injEq]
    at answeredAgain
  have isBadResource := right ControlRet.badResource.toUInt8 rfl
  rw [answeredAgain.1.1] at isBadResource
  exact absurd isBadResource (by decide)

end FwkRtos.DeviceControl

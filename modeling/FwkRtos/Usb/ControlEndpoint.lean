import Mathlib.Data.List.Basic

/-!
# Control endpoint 0

The device controller driver arms EP0 OUT for the next SETUP packet by itself: its
interrupt handler decides from the endpoint and the length of a packet whether a
control transfer is over.  The stack arms the same endpoint for data and status
packets.
-/

namespace FwkRtos.Usb

/-- `CFG_TUD_ENDPOINT0_SIZE`. -/
structure Config where
  endpoint0Size : Nat
  endpoint0Size_pos : 0 < endpoint0Size

/-- The directions of endpoint 0. -/
inductive Ep0Addr
  /-- `0x00` -/
  | out
  /-- `0x80` -/
  | in_
  deriving DecidableEq

inductive XudResult
  | okay
  | rst
  | err
  deriving DecidableEq

/-- A transfer that EP0 OUT was armed for. -/
inductive Arm
  /-- By `prepare_setup`. -/
  | setup
  /-- By `dcd_edpt_xfer`. -/
  | data
  deriving DecidableEq

/-- The driver as far as EP0 is concerned. -/
structure Dcd where
  /-- The transfers that EP0 OUT was armed for and that have not completed. -/
  outstanding : List Arm
  /-- `ep_xfer_info` of EP0 OUT. -/
  xferLen : Nat
  waitingForSetup : Bool
  /-- `dest_ctrl_buffer` is not NULL. -/
  destCtrlBuffer : Bool
  /-- How often `prepare_setup` was called. -/
  setupsPrepared : Nat
  assertionFailed : Bool
  deriving DecidableEq

/-- What reaches the driver. -/
inductive Event
  /-- A SETUP packet of 8 bytes. -/
  | setupPacket
  /-- `dcd_edpt_xfer`, with a buffer or not. -/
  | edptXfer (epAddr : Ep0Addr) (buffer : Bool) (totalBytes : Nat)
  /-- A data packet is complete. -/
  | dataPacket (epAddr : Ep0Addr) (xferLen : Nat) (res : XudResult)
  /-- `dcd_edpt_stall` -/
  | edptStall (epAddr : Ep0Addr)
  deriving DecidableEq

namespace Dcd

variable (config : Config)

def assert (dcd : Dcd) (holds : Bool) : Dcd :=
  { dcd with assertionFailed := dcd.assertionFailed || !holds }

/-- `rtos_usb_endpoint_transfer_start` on EP0 OUT. -/
def endpointTransferStart (dcd : Dcd) (arm : Arm) (len : Nat) : Dcd :=
  { dcd with outstanding := dcd.outstanding ++ [arm], xferLen := len }

/-- The setup packet has room for an OUT packet. -/
def prepareSetup (dcd : Dcd) : Dcd :=
  { dcd.endpointTransferStart .setup (max 8 config.endpoint0Size) with
    waitingForSetup := true
    setupsPrepared := dcd.setupsPrepared + 1 }

/-- `ep_transfer_complete` on EP0 OUT. -/
def epTransferComplete (dcd : Dcd) (len : Nat) : Dcd :=
  { dcd with outstanding := dcd.outstanding.tail, xferLen := len }.assert (len ≤ dcd.xferLen)

/-- `dcd_xcore_int_handler` for a data packet on endpoint 0. -/
def dcdXcoreIntHandler (dcd : Dcd) (epAddr : Ep0Addr) (xferLen : Nat) (res : XudResult) : Dcd :=
  match res with
  | .rst => dcd.prepareSetup config
  | .err => dcd
  | .okay =>
      match epAddr with
      | .in_ => if xferLen = 0 then dcd.prepareSetup config else dcd
      | .out =>
          if xferLen = 0 then
            dcd.prepareSetup config
          else if dcd.waitingForSetup = true then
            dcd.prepareSetup config
          else
            { dcd.assert dcd.destCtrlBuffer with destCtrlBuffer := false }

/-- `dcd_edpt_xfer` on endpoint 0.  A packet without a buffer gets a dummy word. -/
def dcdEdptXfer (dcd : Dcd) (epAddr : Ep0Addr) (buffer : Bool) (totalBytes : Nat) : Dcd :=
  match epAddr with
  | .in_ => dcd.assert (buffer || totalBytes = 0)
  | .out =>
      { dcd with destCtrlBuffer := buffer || totalBytes = 0 }.endpointTransferStart .data totalBytes

def dcdEdptStall (dcd : Dcd) (epAddr : Ep0Addr) : Dcd :=
  if epAddr = .out ∧ dcd.waitingForSetup = false then dcd.prepareSetup config else dcd

/-- What an event does.  Nothing arrives on EP0 OUT while it is not armed. -/
def handle (dcd : Dcd) : Event → Dcd
  | .setupPacket =>
      if dcd.outstanding = [] then dcd else
        { dcd.epTransferComplete 8 with waitingForSetup := false }
  | .edptXfer epAddr buffer totalBytes => dcd.dcdEdptXfer epAddr buffer totalBytes
  | .dataPacket .out xferLen res =>
      if dcd.outstanding = [] then dcd else
        (dcd.epTransferComplete xferLen).dcdXcoreIntHandler config .out xferLen res
  | .dataPacket .in_ xferLen res => dcd.dcdXcoreIntHandler config .in_ xferLen res
  | .edptStall epAddr => dcd.dcdEdptStall config epAddr

def handleAll (dcd : Dcd) (events : List Event) : Dcd :=
  events.foldl (handle config) dcd

/-- One transfer at most is outstanding, `waiting_for_setup` says whether it was armed by
`prepare_setup`, and no assertion failed. -/
structure Good (dcd : Dcd) : Prop where
  atMostOne : dcd.outstanding.length ≤ 1
  waiting : dcd.waitingForSetup = true ↔ dcd.outstanding = [.setup]
  noFailure : dcd.assertionFailed = false

/-- Every state on the way is good. -/
def GoodThrough (dcd : Dcd) : List Event → Prop
  | [] => dcd.Good
  | event :: events => dcd.Good ∧ GoodThrough (dcd.handle config event) events

end Dcd

/-! ## Control transfers -/

/-- How a control transfer ends. -/
inductive Ending
  | status
  /-- Both directions are stalled instead of the data stage. -/
  | stallAtSetup
  /-- Both directions are stalled instead of the status stage. -/
  | stallAtStatus
  deriving DecidableEq

/-- A control transfer; the stack replies to a request of the direction IN. -/
structure ControlTransfer where
  directionIn : Bool
  wLength : Nat
  reply : Nat
  reply_le : reply ≤ wLength
  ending : Ending

namespace ControlTransfer

variable (config : Config) (transfer : ControlTransfer)

/-- The lengths of the packets into which so many bytes are split. -/
def packets (length : Nat) : List Nat :=
  List.replicate (length / config.endpoint0Size) config.endpoint0Size ++
    if length % config.endpoint0Size = 0 then [] else [length % config.endpoint0Size]

/-- The reply is shorter than what was asked for and fills its packets. -/
def needsZeroLengthPacket : Bool :=
  transfer.reply < transfer.wLength && transfer.reply % config.endpoint0Size = 0

/-- The data stage. -/
def dataStage : List Event :=
  if transfer.wLength = 0 then
    []
  else if transfer.directionIn then
    (packets config transfer.reply ++
        if transfer.needsZeroLengthPacket config then [0] else []).flatMap
      fun length => [.edptXfer .in_ true length, .dataPacket .in_ length .okay]
  else
    (packets config transfer.wLength).flatMap
      fun length => [.edptXfer .out true length, .dataPacket .out length .okay]

/-- The status stage, opposite to the data stage. -/
def statusStage : List Event :=
  if transfer.wLength ≠ 0 ∧ transfer.directionIn = true then
    [.edptXfer .out false 0, .dataPacket .out 0 .okay]
  else
    [.edptXfer .in_ false 0, .dataPacket .in_ 0 .okay]

def stall : List Event :=
  [.edptStall .out, .edptStall .in_]

/-- What follows the SETUP packet. -/
def stages : List Event :=
  match transfer.ending with
  | .status => transfer.dataStage config ++ transfer.statusStage
  | .stallAtSetup => stall
  | .stallAtStatus => transfer.dataStage config ++ stall

def events : List Event :=
  [.setupPacket] ++ transfer.stages config

/-- The data stage ends with a zero-length packet. -/
def EndsWithZeroLength : Prop :=
  transfer.wLength ≠ 0 ∧ transfer.directionIn = true ∧
    transfer.needsZeroLengthPacket config = true

/-- The data stage of the transfer ends with a zero-length packet and its status stage
follows. -/
def StatusBehindZeroLength : Prop :=
  transfer.EndsWithZeroLength config ∧ transfer.ending = .status

end ControlTransfer

namespace Dcd

variable {config : Config} {dcd : Dcd}

/-- Through every transfer all states are good, and the driver prepares for one SETUP
packet. -/
def ArmedOnce (config : Config) (dcd : Dcd) : List ControlTransfer → Prop
  | [] => dcd.Good
  | transfer :: transfers =>
      GoodThrough config dcd (transfer.events config) ∧
        (dcd.handleAll config (transfer.events config)).setupsPrepared = dcd.setupsPrepared + 1 ∧
        ArmedOnce config (dcd.handleAll config (transfer.events config)) transfers

/-- The driver when it was reset and has prepared for a SETUP packet. -/
def ready (config : Config) : Dcd :=
  ({ outstanding := [], xferLen := 0, waitingForSetup := false, destCtrlBuffer := false,
     setupsPrepared := 0, assertionFailed := false } : Dcd).prepareSetup config

/-- EP0 OUT is armed for the next SETUP packet. -/
structure Ready (config : Config) (dcd : Dcd) : Prop where
  outstanding : dcd.outstanding = [.setup]
  xferLen : dcd.xferLen = max 8 config.endpoint0Size
  waiting : dcd.waitingForSetup = true
  noFailure : dcd.assertionFailed = false

/-- A control transfer is under way, and EP0 OUT is not armed. -/
structure Busy (dcd : Dcd) : Prop where
  outstanding : dcd.outstanding = []
  waiting : dcd.waitingForSetup = false
  noFailure : dcd.assertionFailed = false

/-- Events that leave the transfer under way and do not arm EP0 OUT for a SETUP packet. -/
def StaysBusy (config : Config) (dcd : Dcd) (events : List Event) : Prop :=
  GoodThrough config dcd events ∧ (dcd.handleAll config events).Busy ∧
    (dcd.handleAll config events).setupsPrepared = dcd.setupsPrepared

/-- Events that end the transfer and arm EP0 OUT once for the next SETUP packet. -/
def Rearms (config : Config) (dcd : Dcd) (events : List Event) : Prop :=
  GoodThrough config dcd events ∧ (dcd.handleAll config events).Ready config ∧
    (dcd.handleAll config events).setupsPrepared = dcd.setupsPrepared + 1

theorem Ready.good (isReady : dcd.Ready config) : dcd.Good where
  atMostOne := by simp [isReady.outstanding]
  waiting := iff_of_true isReady.waiting isReady.outstanding
  noFailure := isReady.noFailure

theorem Busy.good (busy : dcd.Busy) : dcd.Good where
  atMostOne := by simp [busy.outstanding]
  waiting := by simp [busy.waiting, busy.outstanding]
  noFailure := busy.noFailure

theorem goodThrough_append {first second : List Event} :
    GoodThrough config dcd (first ++ second) ↔
      GoodThrough config dcd first ∧ GoodThrough config (dcd.handleAll config first) second := by
  induction first generalizing dcd with
  | nil =>
      refine ⟨fun through => ⟨?_, through⟩, And.right⟩
      cases second with
      | nil => exact through
      | cons event events => exact through.1
  | cons event events ih =>
      show dcd.Good ∧ GoodThrough config (dcd.handle config event) (events ++ second) ↔ _
      rw [ih, ← and_assoc]
      rfl

theorem handleAll_append (first second : List Event) :
    dcd.handleAll config (first ++ second) =
      (dcd.handleAll config first).handleAll config second :=
  List.foldl_append

/-- EP0 OUT is armed behind a transfer that left it alone. -/
theorem Busy.prepareSetup (busy : dcd.Busy) : (dcd.prepareSetup config).Ready config where
  outstanding := by simp [Dcd.prepareSetup, endpointTransferStart, busy.outstanding]
  xferLen := rfl
  waiting := rfl
  noFailure := busy.noFailure

theorem Ready.setupPacket (isReady : dcd.Ready config) :
    (dcd.handle config .setupPacket).Busy ∧
      (dcd.handle config .setupPacket).setupsPrepared = dcd.setupsPrepared := by
  have armed : dcd.outstanding ≠ [] := by simp [isReady.outstanding]
  have fits : 8 ≤ dcd.xferLen := by
    rw [isReady.xferLen]
    exact Nat.le_max_left _ _
  simp only [handle, if_neg armed]
  refine ⟨⟨?_, rfl, ?_⟩, rfl⟩
  · simp [epTransferComplete, assert, isReady.outstanding]
  · simp [epTransferComplete, assert, isReady.noFailure, fits]

/-! ## The data stage -/

/-- A data packet that is not empty leaves EP0 OUT as it was. -/
theorem Busy.inPacket {length : Nat} (busy : dcd.Busy) (positive : 0 < length) :
    StaysBusy config dcd [.edptXfer .in_ true length, .dataPacket .in_ length .okay] := by
  have same : dcd.dcdEdptXfer .in_ true length = dcd := by
    simp [dcdEdptXfer, assert]
  have kept : dcd.dcdXcoreIntHandler config .in_ length .okay = dcd := by
    simp [dcdXcoreIntHandler, Nat.ne_of_gt positive]
  simp only [StaysBusy, GoodThrough, handleAll, List.foldl, handle, same, kept]
  exact ⟨⟨busy.good, busy.good, busy.good⟩, busy, trivial⟩

theorem Busy.outPacket {length : Nat} (busy : dcd.Busy) (positive : 0 < length) :
    StaysBusy config dcd [.edptXfer .out true length, .dataPacket .out length .okay] := by
  have armed : (dcd.dcdEdptXfer .out true length).Good := by
    constructor
    case atMostOne => simp [dcdEdptXfer, endpointTransferStart, busy.outstanding]
    case waiting => simp [dcdEdptXfer, endpointTransferStart, busy.outstanding, busy.waiting]
    case noFailure => exact busy.noFailure
  have copied : Busy ((dcd.dcdEdptXfer .out true length).handle config
      (.dataPacket .out length .okay)) := by
    constructor
    case outstanding =>
      simp [handle, dcdEdptXfer, endpointTransferStart, epTransferComplete, assert,
        dcdXcoreIntHandler, busy.outstanding, busy.waiting, Nat.ne_of_gt positive]
    case waiting =>
      simp [handle, dcdEdptXfer, endpointTransferStart, epTransferComplete, assert,
        dcdXcoreIntHandler, busy.outstanding, busy.waiting, Nat.ne_of_gt positive]
    case noFailure =>
      simp [handle, dcdEdptXfer, endpointTransferStart, epTransferComplete, assert,
        dcdXcoreIntHandler, busy.outstanding, busy.waiting, busy.noFailure, Nat.ne_of_gt positive]
  refine ⟨⟨busy.good, armed, copied.good⟩, copied, ?_⟩
  simp [handleAll, handle, dcdEdptXfer, endpointTransferStart, epTransferComplete, assert,
    dcdXcoreIntHandler, busy.outstanding, busy.waiting, Nat.ne_of_gt positive]

/-- A data stage without an empty packet. -/
theorem Busy.dataPackets (packet : Nat → List Event)
    (one : ∀ (before : Dcd) (length : Nat), before.Busy → 0 < length →
      StaysBusy config before (packet length))
    {lengths : List Nat} (positive : ∀ length ∈ lengths, 0 < length) (busy : dcd.Busy) :
    StaysBusy config dcd (lengths.flatMap packet) := by
  induction lengths generalizing dcd with
  | nil => exact ⟨busy.good, busy, rfl⟩
  | cons length lengths ih =>
      rcases one dcd length busy (positive length List.mem_cons_self) with ⟨through, after, same⟩
      rcases ih (fun other isMember => positive other (List.mem_cons_of_mem _ isMember)) after
        with ⟨rest, last, still⟩
      rw [List.flatMap_cons]
      refine ⟨goodThrough_append.mpr ⟨through, rest⟩, ?_, ?_⟩
      · rw [handleAll_append]
        exact last
      · rw [handleAll_append]
        exact still.trans same

theorem packets_pos (config : Config) (length : Nat) :
    ∀ packet ∈ ControlTransfer.packets config length, 0 < packet := by
  intro packet isMember
  rcases List.mem_append.mp isMember with full | rest
  · rw [List.eq_of_mem_replicate full]
    exact config.endpoint0Size_pos
  · split at rest
    · cases rest
    · rename_i isLeft
      rw [List.mem_singleton.mp rest]
      exact Nat.pos_of_ne_zero isLeft

/-! ## What ends a transfer -/

theorem Busy.zeroLengthIn (busy : dcd.Busy) (buffer : Bool) :
    Rearms config dcd [.edptXfer .in_ buffer 0, .dataPacket .in_ 0 .okay] := by
  have same : dcd.dcdEdptXfer .in_ buffer 0 = dcd := by
    simp [dcdEdptXfer, assert]
  have armed : dcd.dcdXcoreIntHandler config .in_ 0 .okay = dcd.prepareSetup config := rfl
  simp only [Rearms, GoodThrough, handleAll, List.foldl, handle, same, armed]
  exact ⟨⟨busy.good, busy.good, busy.prepareSetup.good⟩, busy.prepareSetup, rfl⟩

theorem Busy.zeroLengthOut (busy : dcd.Busy) :
    Rearms config dcd [.edptXfer .out false 0, .dataPacket .out 0 .okay] := by
  have armed : (dcd.dcdEdptXfer .out false 0).Good := by
    constructor
    case atMostOne => simp [dcdEdptXfer, endpointTransferStart, busy.outstanding]
    case waiting => simp [dcdEdptXfer, endpointTransferStart, busy.outstanding, busy.waiting]
    case noFailure => exact busy.noFailure
  have received : ((dcd.dcdEdptXfer .out false 0).epTransferComplete 0).Busy := by
    constructor
    case outstanding =>
      simp [dcdEdptXfer, endpointTransferStart, epTransferComplete, assert, busy.outstanding]
    case waiting => exact busy.waiting
    case noFailure =>
      simp [dcdEdptXfer, endpointTransferStart, epTransferComplete, assert, busy.noFailure]
  have last : (dcd.dcdEdptXfer .out false 0).handle config (.dataPacket .out 0 .okay) =
      ((dcd.dcdEdptXfer .out false 0).epTransferComplete 0).prepareSetup config := by
    simp [handle, dcdEdptXfer, endpointTransferStart, dcdXcoreIntHandler]
  have rearmed :
      (((dcd.dcdEdptXfer .out false 0).epTransferComplete 0).prepareSetup config).Ready config :=
    received.prepareSetup
  rw [← last] at rearmed
  refine ⟨⟨busy.good, armed, rearmed.good⟩, rearmed, ?_⟩
  show ((dcd.dcdEdptXfer .out false 0).handle config (.dataPacket .out 0 .okay)).setupsPrepared = _
  rw [last]
  rfl

/-- The status packet finds EP0 OUT armed for the next SETUP packet. -/
theorem Ready.not_goodThrough_zeroLengthOut (isReady : dcd.Ready config) :
    ¬ GoodThrough config dcd [.edptXfer .out false 0, .dataPacket .out 0 .okay] := by
  rintro ⟨-, second, -⟩
  have length := second.atMostOne
  simp [handle, dcdEdptXfer, endpointTransferStart, isReady.outstanding] at length

theorem Busy.stall (busy : dcd.Busy) : Rearms config dcd ControlTransfer.stall := by
  have armed : dcd.dcdEdptStall config .out = dcd.prepareSetup config := by
    simp [dcdEdptStall, busy.waiting]
  have same : (dcd.prepareSetup config).dcdEdptStall config .in_ = dcd.prepareSetup config := rfl
  simp only [ControlTransfer.stall, Rearms, GoodThrough, handleAll, List.foldl, handle, armed,
    same]
  exact ⟨⟨busy.good, busy.prepareSetup.good, busy.prepareSetup.good⟩, busy.prepareSetup, rfl⟩

/-- A stall leaves EP0 OUT armed as it is. -/
theorem Ready.stall (isReady : dcd.Ready config) :
    GoodThrough config dcd ControlTransfer.stall ∧
      dcd.handleAll config ControlTransfer.stall = dcd := by
  have out : dcd.dcdEdptStall config .out = dcd := by
    simp [dcdEdptStall, isReady.waiting]
  have in_ : dcd.dcdEdptStall config .in_ = dcd := rfl
  simp only [ControlTransfer.stall, GoodThrough, handleAll, List.foldl, handle, out, in_]
  exact ⟨⟨isReady.good, isReady.good, isReady.good⟩, trivial⟩

/-! ## A control transfer -/

theorem StaysBusy.rearms {first second : List Event} (stays : StaysBusy config dcd first)
    (rearms : Rearms config (dcd.handleAll config first) second) :
    Rearms config dcd (first ++ second) := by
  rcases stays with ⟨through, -, same⟩
  rcases rearms with ⟨rest, isReady, again⟩
  refine ⟨goodThrough_append.mpr ⟨through, rest⟩, ?_, ?_⟩
  · rw [handleAll_append]
    exact isReady
  · rw [handleAll_append, again, same]

/-- The SETUP packet starts the transfer. -/
theorem Ready.staysBusy_setupPacket (isReady : dcd.Ready config) :
    StaysBusy config dcd [.setupPacket] :=
  ⟨⟨isReady.good, isReady.setupPacket.1.good⟩, isReady.setupPacket⟩

variable {transfer : ControlTransfer}

theorem Busy.dataStage (busy : dcd.Busy) (noZero : ¬ transfer.EndsWithZeroLength config) :
    StaysBusy config dcd (transfer.dataStage config) := by
  unfold ControlTransfer.dataStage
  split
  case isTrue => exact ⟨busy.good, busy, rfl⟩
  case isFalse hasData =>
    split
    case isTrue isIn =>
      have short : ¬ transfer.needsZeroLengthPacket config = true :=
        fun needs => noZero ⟨hasData, isIn, needs⟩
      rw [if_neg short, List.append_nil]
      exact busy.dataPackets _ (fun _ _ => Busy.inPacket) (packets_pos config _)
    case isFalse =>
      exact busy.dataPackets _ (fun _ _ => Busy.outPacket) (packets_pos config _)

/-- The interrupt handler takes the zero-length packet for a status packet. -/
theorem Busy.dataStage_zeroLength (busy : dcd.Busy) (zero : transfer.EndsWithZeroLength config) :
    Rearms config dcd (transfer.dataStage config) := by
  rcases zero with ⟨hasData, isIn, needs⟩
  have stays : StaysBusy config dcd ((ControlTransfer.packets config transfer.reply).flatMap
      fun length => [.edptXfer .in_ true length, .dataPacket .in_ length .okay]) :=
    busy.dataPackets _ (fun _ _ => Busy.inPacket) (packets_pos config _)
  rw [ControlTransfer.dataStage, if_neg hasData, if_pos isIn, if_pos needs, List.flatMap_append]
  exact StaysBusy.rearms stays (stays.2.1.zeroLengthIn true)

theorem Busy.statusStage (busy : dcd.Busy) : Rearms config dcd transfer.statusStage := by
  unfold ControlTransfer.statusStage
  split
  case isTrue => exact busy.zeroLengthOut
  case isFalse => exact busy.zeroLengthIn false

theorem Rearms.stall {events : List Event} (rearms : Rearms config dcd events) :
    Rearms config dcd (events ++ ControlTransfer.stall) := by
  rcases rearms with ⟨through, again, once⟩
  rcases again.stall with ⟨rest, same⟩
  refine ⟨goodThrough_append.mpr ⟨through, rest⟩, ?_, ?_⟩
  · rw [handleAll_append, same]
    exact again
  · rw [handleAll_append, same, once]

/-- What follows the SETUP packet. -/
theorem Busy.stages (busy : dcd.Busy) (notBehind : ¬ transfer.StatusBehindZeroLength config) :
    Rearms config dcd (transfer.stages config) := by
  unfold ControlTransfer.stages
  split
  case h_1 ending =>
    have noZero : ¬ transfer.EndsWithZeroLength config := fun zero => notBehind ⟨zero, ending⟩
    have stays := busy.dataStage noZero
    exact stays.rearms stays.2.1.statusStage
  case h_2 => exact busy.stall
  case h_3 =>
    by_cases zero : transfer.EndsWithZeroLength config
    case pos => exact (busy.dataStage_zeroLength zero).stall
    case neg =>
      have stays := busy.dataStage zero
      exact stays.rearms stays.2.1.stall

theorem Ready.events (isReady : dcd.Ready config)
    (notBehind : ¬ transfer.StatusBehindZeroLength config) :
    Rearms config dcd (transfer.events config) := by
  have started := isReady.staysBusy_setupPacket
  exact started.rearms (started.2.1.stages notBehind)

theorem Ready.not_goodThrough_events (isReady : dcd.Ready config)
    (behind : transfer.StatusBehindZeroLength config) :
    ¬ GoodThrough config dcd (transfer.events config) := by
  rcases behind with ⟨zero, ending⟩
  have started := isReady.staysBusy_setupPacket
  have shape : transfer.events config =
      [.setupPacket] ++ (transfer.dataStage config ++ transfer.statusStage) := by
    simp [ControlTransfer.events, ControlTransfer.stages, ending]
  have isOut : transfer.statusStage = [.edptXfer .out false 0, .dataPacket .out 0 .okay] :=
    if_pos ⟨zero.1, zero.2.1⟩
  rw [shape, goodThrough_append, goodThrough_append, isOut]
  rintro ⟨-, -, last⟩
  exact (started.2.1.dataStage_zeroLength zero).2.1.not_goodThrough_zeroLengthOut last

theorem Ready.armedOnce_transfers (isReady : dcd.Ready config) (transfers : List ControlTransfer) :
    ArmedOnce config dcd transfers ↔
      ∀ transfer ∈ transfers, ¬ transfer.StatusBehindZeroLength config := by
  induction transfers generalizing dcd with
  | nil => simp [ArmedOnce, isReady.good]
  | cons transfer transfers ih =>
      rw [List.forall_mem_cons]
      constructor
      · rintro ⟨through, -, rest⟩
        have notBehind : ¬ transfer.StatusBehindZeroLength config :=
          fun behind => isReady.not_goodThrough_events behind through
        exact ⟨notBehind, (ih (isReady.events notBehind).2.1).mp rest⟩
      · rintro ⟨notBehind, others⟩
        rcases isReady.events notBehind with ⟨through, again, once⟩
        exact ⟨through, once, (ih again).mpr others⟩

theorem ready_ready (config : Config) : (ready config).Ready config :=
  Busy.prepareSetup ⟨rfl, rfl, rfl⟩

/-- EP0 is armed once at a time exactly through the sequences of control transfers in which
no status stage follows a zero-length IN packet. -/
theorem armedOnce_iff (config : Config) (transfers : List ControlTransfer) :
    ArmedOnce config (ready config) transfers ↔
      ∀ transfer ∈ transfers, ¬ transfer.StatusBehindZeroLength config :=
  (ready_ready config).armedOnce_transfers transfers

/-- A descriptor of 64 bytes for a host that asked for 128: with the zero-length packet EP0
OUT is armed for a SETUP packet, and armed again for the status packet. -/
theorem fullLastPacket_not_armedOnce :
    ¬ ArmedOnce ⟨64, by decide⟩ (ready ⟨64, by decide⟩)
      [{ directionIn := true, wLength := 128, reply := 64, reply_le := by decide,
         ending := .status }] := by
  rintro ⟨⟨-, -, -, -, -, -, twice, -⟩, -, -⟩
  exact absurd twice.atMostOne (by decide)

end Dcd

end FwkRtos.Usb

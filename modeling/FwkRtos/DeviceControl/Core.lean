import FwkRtos.DeviceControl.ResourceTable

/-!
# Device control instances

The state of a device control instance on the tile that runs the transport
layer, and the codes that its operations return.
-/

namespace FwkRtos.DeviceControl

universe u v

/-- `control_ret_t`. -/
inductive ControlRet
  | success
  | registrationFailed
  | badCommand
  | dataLengthError
  | otherTransportError
  | badResource
  | malformedPacket
  | commandIgnoredInDevice
  | error
  | servicerCommandRetry
  | servicerWrongCommandId
  | servicerWrongCommandLen
  | servicerWrongPayload
  | servicerQueueFull
  | servicerSpecialCommandAlreadyOngoing
  | servicerSpecialCommandBufferOverflow
  | servicerResourceError
  | servicerSpecialCommandWrongOrder
  | servicerSpecialCommandBufSizeError
  deriving DecidableEq, Repr

/-- The value of a code, as it is stored in one byte. -/
def ControlRet.toUInt8 : ControlRet → UInt8
  | .success => 0
  | .registrationFailed => 1
  | .badCommand => 2
  | .dataLengthError => 3
  | .otherTransportError => 4
  | .badResource => 5
  | .malformedPacket => 6
  | .commandIgnoredInDevice => 7
  | .error => 8
  | .servicerCommandRetry => 64
  | .servicerWrongCommandId => 65
  | .servicerWrongCommandLen => 66
  | .servicerWrongPayload => 67
  | .servicerQueueFull => 68
  | .servicerSpecialCommandAlreadyOngoing => 69
  | .servicerSpecialCommandBufferOverflow => 70
  | .servicerResourceError => 71
  | .servicerSpecialCommandWrongOrder => 72
  | .servicerSpecialCommandBufSizeError => 73

/-- `control_cmd_t`. -/
abbrev ControlCmd := UInt8

/-- `IS_CONTROL_CMD_READ`. -/
def isControlCmdRead (cmd : ControlCmd) : Bool :=
  cmd &&& 0x80 ≠ 0

/-- An entry of `servicer_table`: the servicer's queue, and the link to its tile,
which a servicer on the same tile does not have. -/
structure Slot (Queue : Type u) (Link : Type v) where
  intertileCtx : Option Link
  queue : Queue
  deriving DecidableEq

/-- `device_control_t` in host mode.  `servicerTable` is `none` where the table is
not written. -/
structure Context (Queue : Type u) (Link : Type v) where
  resourceTable : ResourceTable
  clientIntertile : List Link
  servicerCount : Nat
  servicerTable : Nat → Option (Slot Queue Link)
  requestedPayloadLen : Nat
  requestedResid : ControlResid
  requestedCmd : ControlCmd
  lastStatus : UInt8

variable {Queue : Type u} {Link : Type v}

/-- The instance that `device_control_init` leaves in host mode. -/
def Context.host (servicerCount : Nat) (intertileCtx : List Link) : Context Queue Link where
  resourceTable := resourceTableInit
  clientIntertile := intertileCtx
  servicerCount := servicerCount
  servicerTable := fun _ => none
  requestedPayloadLen := 0
  requestedResid := 0
  requestedCmd := 0
  lastStatus := 0

end FwkRtos.DeviceControl

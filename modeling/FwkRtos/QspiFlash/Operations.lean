import FwkRtos.Osal

/-!
# Flash operations

The operations of the QSPI flash driver and the loops that carry them out, one
iteration at a time.  An iteration issues calls of the flash libraries, which
are not part of the driver, and moves a cursor; all its arithmetic is that of
the 32-bit `unsigned` and `size_t`.
-/

namespace FwkRtos.QspiFlash

/-- The `FLASH_OP` constants. -/
inductive FlashOp
  | none
  | read
  | write
  | erase
  | readFastRaw
  | readFastNibbleSwap
  | llSetup
  deriving DecidableEq, Repr

/-- The operations whose caller waits for the data. -/
def FlashOp.isRead : FlashOp → Bool
  | .read => true
  | .readFastRaw => true
  | .readFastNibbleSwap => true
  | _ => false

/-- `qspi_fast_flash_read_transfer_mode_t`. -/
inductive TransferMode
  | raw
  | nibbleSwap
  deriving DecidableEq, Repr

/-- `qspi_flash_op_req_t`.  The buffer is named by its address, also the one
that a write allocates for its copy of the data. -/
structure OpReq where
  op : FlashOp
  data : UInt32
  address : UInt32
  len : UInt32
  priority : UInt32
  deriving DecidableEq

/-- What `rtos_qspi_flash_init` and `rtos_qspi_flash_start` leave in the driver
for good, and the page size of the flash. -/
structure Config where
  flashSize : UInt32
  pageSize : UInt32
  opTaskPriority : UInt32

/-- `RTOS_QSPI_FLASH_READ_CHUNK_SIZE`. -/
def readChunkSize : UInt32 := 24 * 1024

/-- `QSPI_ERASE_TYPE_SIZE_LOG2`. -/
def eraseTypeSizeLog2 : UInt32 := 12

/-- `QSPI_FL_RETRY_ATTEMPT_CNT`. -/
def flRetryAttemptCnt : Nat := 5

/-- The commands that consist of a single byte. -/
inductive SingleByteCommand
  | writeEnable
  | writeDisable
  | eraseChip
  deriving DecidableEq, Repr

/-- What the driver does to the flash, its ports and the buffers: calls of the
flash libraries, the fill of a buffer beyond the end of the flash, and the
assertion of an erase. -/
inductive DeviceCall
  | connectToDevice
  | disconnect
  | fastReadSetupResources
  | fastReadApplyCalibration
  | fastReadShutdown
  | fastReadModeSet (mode : TransferMode)
  | intRead (address data len : UInt32)
  | fastRead (address data len : UInt32)
  | fill (data len : UInt32)
  | sendSingleByteCommand (command : SingleByteCommand)
  | intWrite (address data len : UInt32)
  | eraseSector (address : UInt32)
  | whileBusy
  | assert (condition : Bool)
  deriving DecidableEq

/-- What is left of an operation. -/
structure Cursor where
  data : UInt32
  address : UInt32
  len : UInt32
  deriving DecidableEq

def OpReq.cursor (op : OpReq) : Cursor where
  data := op.data
  address := op.address
  len := op.len

/-- An iteration that reads a chunk, in all five reading loops. -/
def readIteration (config : Config) (transfer : UInt32 → UInt32 → UInt32 → List DeviceCall)
    (cursor : Cursor) : List DeviceCall × Cursor :=
  let readLen := min cursor.len readChunkSize
  -- The address is capped at the size of the flash.
  let address := if cursor.address ≥ config.flashSize then config.flashSize else cursor.address
  let inFlash :=
    if address + readLen > config.flashSize then config.flashSize - address else readLen
  let fill := if address + readLen > config.flashSize then
      [DeviceCall.fill (cursor.data + inFlash) (readLen - inFlash)]
    else []
  (fill ++ transfer address cursor.data inFlash,
    { data := cursor.data + inFlash
      address := address + inFlash
      len := cursor.len - inFlash })

/-- A command that changes the flash: it is enabled before, and the driver waits
until it is done. -/
def modify (command : DeviceCall) : List DeviceCall :=
  [.sendSingleByteCommand .writeEnable, command, .whileBusy, .sendSingleByteCommand .writeDisable]

/-- An iteration of `write_op`, unless the rest is past the end of the flash. -/
def writeIteration (config : Config) (cursor : Cursor) : Option (List DeviceCall × Cursor) :=
  let maxBytesToWrite := config.pageSize - (cursor.address &&& (config.pageSize - 1))
  let bytesToWrite := if cursor.len ≤ maxBytesToWrite then cursor.len else maxBytesToWrite
  if cursor.address ≥ config.flashSize then none
  else
    some (modify (.intWrite cursor.address cursor.data bytesToWrite),
      { data := cursor.data + bytesToWrite
        address := cursor.address + bytesToWrite
        len := cursor.len - bytesToWrite })

/-- The address of the sector that an address is in. -/
def sectorAddress (address : UInt32) : UInt32 :=
  (address >>> eraseTypeSizeLog2) <<< eraseTypeSizeLog2

/-- What `erase_op` does before its loop: an erase of the whole chip has no loop,
and any other begins at a sector. -/
def eraseStart (config : Config) (cursor : Cursor) : List DeviceCall × Cursor :=
  if cursor.address = 0 ∧ cursor.len ≥ config.flashSize then
    (modify (.sendSingleByteCommand .eraseChip), { cursor with len := 0 })
  else if sectorAddress cursor.address ≠ cursor.address then
    ([], { cursor with
      address := sectorAddress cursor.address
      len := cursor.len + (cursor.address - sectorAddress cursor.address) })
  else ([], cursor)

/-- An iteration of `erase_op`, unless the rest is past the end of the flash. -/
def eraseIteration (config : Config) (cursor : Cursor) : Option (List DeviceCall × Cursor) :=
  let eraseLength : UInt32 := 1 <<< eraseTypeSizeLog2
  if cursor.address ≥ config.flashSize then none
  else
    some (.assert (cursor.address = sectorAddress cursor.address) ::
        modify (.eraseSector cursor.address),
      { cursor with
        address := cursor.address + eraseLength
        len := cursor.len - (if eraseLength < cursor.len then eraseLength else cursor.len) })

/-- What the operation thread does for an operation before its loop. -/
def OpReq.begin (config : Config) (op : OpReq) : List DeviceCall × Cursor :=
  match op.op with
  | .readFastRaw => ([.fastReadModeSet .raw], op.cursor)
  | .readFastNibbleSwap => ([.fastReadModeSet .nibbleSwap], op.cursor)
  | .erase => eraseStart config op.cursor
  | .none | .read | .write | .llSetup => ([], op.cursor)

/-- How `read_op` and `rtos_qspi_flash_read_ll` transfer a chunk. -/
def intTransfer (address data len : UInt32) : List DeviceCall :=
  [.intRead address data len]

/-- How `read_fast_op` and `rtos_qspi_flash_fast_read_ll` transfer a chunk. -/
def fastTransfer (address data len : UInt32) : List DeviceCall :=
  [.fastRead address data len]

/-- The next iteration of the loop of an operation. -/
def OpReq.iteration (config : Config) (op : OpReq) (cursor : Cursor) :
    Option (List DeviceCall × Cursor) :=
  if cursor.len = 0 then none
  else
    match op.op with
    | .read => some (readIteration config intTransfer cursor)
    | .readFastRaw | .readFastNibbleSwap => some (readIteration config fastTransfer cursor)
    | .write => writeIteration config cursor
    | .erase => eraseIteration config cursor
    | .none | .llSetup => none

/-- How the operation thread prepares the ports for an operation, by the
operation before it. -/
def portCalls (lastOp op : FlashOp) : List DeviceCall :=
  let fastSetup := [.fastReadSetupResources, .fastReadApplyCalibration]
  match lastOp, op with
  | .none, .readFastRaw | .none, .readFastNibbleSwap => fastSetup
  | .none, _ => [.connectToDevice]
  | .read, .readFastRaw | .read, .readFastNibbleSwap
  | .write, .readFastRaw | .write, .readFastNibbleSwap
  | .erase, .readFastRaw | .erase, .readFastNibbleSwap => .disconnect :: fastSetup
  | .readFastRaw, .read | .readFastRaw, .write | .readFastRaw, .erase
  | .readFastNibbleSwap, .read | .readFastNibbleSwap, .write | .readFastNibbleSwap, .erase =>
      [.fastReadShutdown, .connectToDevice]
  | _, _ => []

/-! ## Low-level reads -/

/-- The functions that read the flash without the operation thread. -/
inductive LowLevelRead
  | read
  | fastRead
  | fastReadMode (mode : TransferMode)
  deriving DecidableEq

/-- How a low-level read transfers a chunk. -/
def LowLevelRead.transfer : LowLevelRead → UInt32 → UInt32 → UInt32 → List DeviceCall
  | .read => intTransfer
  | .fastRead => fastTransfer
  | .fastReadMode mode => fun address data len =>
      .fastReadModeSet mode :: fastTransfer address data len

/-- The next iteration of the loop of a low-level read. -/
def LowLevelRead.iteration (config : Config) (function : LowLevelRead) (cursor : Cursor) :
    Option (List DeviceCall × Cursor) :=
  if cursor.len = 0 then none else some (readIteration config function.transfer cursor)

/-! ## Whole loops -/

/-- The calls of a loop, if it ends within so many iterations. -/
def loopCalls (iteration : Cursor → Option (List DeviceCall × Cursor)) :
    Nat → Cursor → Option (List DeviceCall)
  | 0, _ => none
  | fuel + 1, cursor =>
      match iteration cursor with
      | none => some []
      | some (calls, rest) => (loopCalls iteration fuel rest).map (calls ++ ·)

theorem loopCalls_of_none {iteration : Cursor → Option (List DeviceCall × Cursor)}
    {cursor : Cursor} (ends : iteration cursor = none) (fuel : Nat) :
    loopCalls iteration (fuel + 1) cursor = some [] := by
  rw [loopCalls, ends]

theorem loopCalls_of_some {iteration : Cursor → Option (List DeviceCall × Cursor)}
    {cursor rest : Cursor} {calls : List DeviceCall}
    (turn : iteration cursor = some (calls, rest)) (fuel : Nat) :
    loopCalls iteration (fuel + 1) cursor = (loopCalls iteration fuel rest).map (calls ++ ·) := by
  rw [loopCalls, turn]

/-- The calls by which the operation thread carries out an operation. -/
def OpReq.calls (config : Config) (op : OpReq) (fuel : Nat) : Option (List DeviceCall) :=
  (loopCalls (op.iteration config) fuel (op.begin config).2).map ((op.begin config).1 ++ ·)

end FwkRtos.QspiFlash

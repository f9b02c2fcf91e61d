import FwkRtos.QspiFlash.Execution

/-!
# The FatFs disk on the QSPI flash

The disk functions shift sector numbers by the start address of the file system and
turn them into operations of the flash driver, which executes them in the order in
which they were requested.
-/

namespace FwkRtos.Fatfs

open FwkRtos.QspiFlash

/-- `QSPI_FLASH_FILESYSTEM_START_ADDRESS`. -/
def filesystemStartAddress : UInt32 := 0x100000

/-- `QSPI_FLASH_SECTOR_SIZE`. -/
def sectorSize : UInt32 := 4096

/-- `DRESULT`. -/
inductive DResult
  | ok
  | error
  | wrprt
  | notrdy
  | parerr
  deriving DecidableEq, Repr

/-- `STA_NOINIT`. -/
def staNoinit : UInt8 := 0x01

/-- `STA_PROTECT`. -/
def staProtect : UInt8 := 0x04

/-- The drive, of which there is one, and the flash. -/
structure Disk where
  driveStatus : UInt8
  image : Image

/-- The request for some sectors. -/
def sectorRequest (op : FlashOp) (sector count : UInt32) : OpReq where
  op := op
  data := 0
  address := filesystemStartAddress + sector * sectorSize
  len := count * sectorSize
  priority := 0

section

variable {config : Config} (chip : Chip config) (fuel : Nat)

/-- `disk_read`, with what it leaves in the buffer. -/
def diskRead (disk : Disk) (pdrv : UInt8) (buff : Nat → UInt8) (sector count : UInt32) :
    Option (DResult × (Nat → UInt8)) :=
  if pdrv = 0 then
    if disk.driveStatus &&& ~~~staProtect = 0 then
      ((sectorRequest .read sector count).execute chip fuel ⟨disk.image, buff⟩).map
        fun device => (.ok, device.buffer)
    else if disk.driveStatus &&& staNoinit ≠ 0 then
      some (.notrdy, buff)
    else
      some (.error, buff)
  else
    some (.parerr, buff)

/-- `disk_write`: an erase, and then a write. -/
def diskWrite (disk : Disk) (pdrv : UInt8) (buff : Nat → UInt8) (sector count : UInt32) :
    Option (DResult × Disk) :=
  if pdrv = 0 then
    if disk.driveStatus = 0 then
      ((sectorRequest .erase sector count).execute chip fuel ⟨disk.image, buff⟩).bind
        fun erased =>
          ((sectorRequest .write sector count).execute chip fuel ⟨erased.image, buff⟩).map
            fun written => (.ok, { disk with image := written.image })
    else if disk.driveStatus &&& staNoinit ≠ 0 then
      some (.notrdy, disk)
    else if disk.driveStatus &&& staProtect ≠ 0 then
      some (.wrprt, disk)
    else
      some (.error, disk)
  else
    some (.parerr, disk)

/-- The commands of `disk_ioctl`. -/
inductive IoctlCommand
  | ctrlSync
  | getSectorCount
  | getSectorSize
  | getBlockSize
  | ctrlTrim
  | other
  deriving DecidableEq

/-- What a command writes to its buffer. -/
def ioctlValue (config : Config) : IoctlCommand → Option UInt32
  | .getSectorCount => some (config.flashSize / sectorSize)
  | .getSectorSize => some sectorSize
  | .getBlockSize => some 1
  | .ctrlSync | .ctrlTrim | .other => none

/-- `disk_ioctl`.  The result of each command is overwritten. -/
def diskIoctl (config : Config) (disk : Disk) (pdrv : UInt8) (command : IoctlCommand) :
    DResult × Option UInt32 :=
  if pdrv = 0 then
    if disk.driveStatus &&& ~~~staProtect = 0 then
      (.ok, ioctlValue config command)
    else if disk.driveStatus &&& staNoinit ≠ 0 then
      (.notrdy, none)
    else
      (.error, none)
  else
    (.parerr, none)

/-! ## Sequences of calls -/

/-- A call of drive 0, with the buffer that it is given. -/
inductive DiskCall
  | read (sector count : UInt32) (buff : Nat → UInt8)
  | write (sector count : UInt32) (buff : Nat → UInt8)

def DiskCall.sector : DiskCall → UInt32
  | .read sector _ _ => sector
  | .write sector _ _ => sector

def DiskCall.count : DiskCall → UInt32
  | .read _ count _ => count
  | .write _ count _ => count

/-- What the caller gets: the result, and the bytes of the sectors that it read. -/
structure Reply where
  result : DResult
  data : List UInt8
  deriving DecidableEq

/-- One call. -/
def DiskCall.run (disk : Disk) : DiskCall → Option (Reply × Disk)
  | .read sector count buff =>
      (diskRead chip fuel disk 0 buff sector count).map fun outcome =>
        (⟨outcome.1, (List.range (count.toNat * 4096)).map outcome.2⟩, disk)
  | .write sector count buff =>
      (diskWrite chip fuel disk 0 buff sector count).map fun outcome =>
        (⟨outcome.1, []⟩, outcome.2)

/-- One call after the other. -/
def runAll : Disk → List DiskCall → Option (List Reply × Disk)
  | disk, [] => some ([], disk)
  | disk, call :: calls =>
      (call.run chip fuel disk).bind fun (reply, after) =>
        (runAll after calls).map fun (replies, last) => (reply :: replies, last)

end

/-! ## A store of sectors -/

/-- What a disk is for: bytes by sector and offset. -/
abbrev SectorStore := Nat → Nat → UInt8

namespace SectorStore

def read (store : SectorStore) (sector count : Nat) : List UInt8 :=
  (List.range (count * 4096)).map fun i => store (sector + i / 4096) (i % 4096)

def write (store : SectorStore) (sector count : Nat) (data : Nat → UInt8) : SectorStore :=
  fun other offset =>
    if sector ≤ other ∧ other < sector + count then data ((other - sector) * 4096 + offset)
    else store other offset

def call (store : SectorStore) : DiskCall → Reply × SectorStore
  | .read sector count _ => (⟨.ok, store.read sector.toNat count.toNat⟩, store)
  | .write sector count buff => (⟨.ok, []⟩, store.write sector.toNat count.toNat buff)

def calls (store : SectorStore) : List DiskCall → List Reply × SectorStore
  | [] => ([], store)
  | first :: rest =>
      ((store.call first).1 :: (calls (store.call first).2 rest).1,
        (calls (store.call first).2 rest).2)

end SectorStore

/-- The sectors that are in the flash. -/
def contents (image : Image) : SectorStore := fun sector offset =>
  image (UInt32.ofNat (filesystemStartAddress.toNat + sector * 4096 + offset))

/-- The sector ends inside the flash. -/
def InFlash (config : Config) (sector : Nat) : Prop :=
  filesystemStartAddress.toNat + (sector + 1) * 4096 ≤ config.flashSize.toNat

/-- All calls return what a store of sectors returns, the sectors are then those of the
store, and the flash below the file system is as it was. -/
def Faithful {config : Config} (chip : Chip config) (disk : Disk) (calls : List DiskCall) : Prop :=
  ∃ fuel replies after, runAll chip fuel disk calls = some (replies, after) ∧
    replies = ((contents disk.image).calls calls).1 ∧
    (∀ sector, InFlash config sector → ∀ offset < 4096,
      contents after.image sector offset = ((contents disk.image).calls calls).2 sector offset) ∧
    ∀ a, a < filesystemStartAddress → after.image a = disk.image a

/-- `sector + count` does not exceed what `GET_SECTOR_COUNT` reports. -/
def DiskCall.Advertised (config : Config) (disk : Disk) (call : DiskCall) : Prop :=
  ∃ sectors, diskIoctl config disk 0 .getSectorCount = (.ok, some sectors) ∧
    call.sector.toNat + call.count.toNat ≤ sectors.toNat

/-- The sectors of the call are all inside the flash. -/
def DiskCall.Inside (config : Config) (call : DiskCall) : Prop :=
  call.count = 0 ∨
    filesystemStartAddress.toNat + (call.sector.toNat + call.count.toNat) * 4096 ≤
      config.flashSize.toNat

end FwkRtos.Fatfs

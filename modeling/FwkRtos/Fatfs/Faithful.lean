import FwkRtos.Fatfs.DiskIo

/-!
# The disk as a store of sectors

Inside the flash the disk functions refine the store.  The number of sectors that
`disk_ioctl` reports is that of the whole flash, so the last of them are not in it: a read
there never returns.
-/

namespace FwkRtos.Fatfs

open FwkRtos.QspiFlash

variable {config : Config} (chip : Chip config)

theorem toNat_filesystemStartAddress : filesystemStartAddress.toNat = 1048576 :=
  rfl

/-! ## The request for some sectors -/

/-- The sectors are inside the flash. -/
def SectorsInFlash (config : Config) (sector count : UInt32) : Prop :=
  filesystemStartAddress.toNat + (sector.toNat + count.toNat) * 4096 ≤ config.flashSize.toNat

theorem SectorsInFlash.toNat_address {sector count : UInt32}
    (inside : SectorsInFlash config sector count) (op : FlashOp) :
    (sectorRequest op sector count).address.toNat = 1048576 + sector.toNat * 4096 := by
  have bound := config.flashSize.toNat_lt
  unfold SectorsInFlash at inside
  rw [toNat_filesystemStartAddress] at inside
  show (filesystemStartAddress + sector * sectorSize).toNat = _
  rw [UInt32.toNat_add, UInt32.toNat_mul, toNat_filesystemStartAddress]
  show (1048576 + sector.toNat * 4096 % 2 ^ 32) % 2 ^ 32 = _
  omega

theorem SectorsInFlash.toNat_len {sector count : UInt32}
    (inside : SectorsInFlash config sector count) (op : FlashOp) :
    (sectorRequest op sector count).len.toNat = count.toNat * 4096 := by
  have bound := config.flashSize.toNat_lt
  unfold SectorsInFlash at inside
  show (count * sectorSize).toNat = _
  rw [UInt32.toNat_mul]
  show count.toNat * 4096 % 2 ^ 32 = _
  omega

theorem SectorsInFlash.inFlash {sector count : UInt32}
    (inside : SectorsInFlash config sector count) (op : FlashOp) :
    (sectorRequest op sector count).InFlash config := by
  rw [OpReq.InFlash, inside.toNat_address, inside.toNat_len]
  unfold SectorsInFlash at inside
  rw [toNat_filesystemStartAddress] at inside
  omega

theorem SectorsInFlash.sector {sector count : UInt32} (inside : SectorsInFlash config sector count)
    {i : Nat} (below : i < count.toNat * 4096) : InFlash config (sector.toNat + i / 4096) := by
  have isSector : i / 4096 < count.toNat := Nat.div_lt_of_lt_mul (by rwa [Nat.mul_comm])
  have upTo : sector.toNat + i / 4096 + 1 ≤ sector.toNat + count.toNat :=
    Nat.add_le_add_left isSector _
  exact le_trans (Nat.add_le_add_left (Nat.mul_le_mul_right 4096 upTo) _) inside

/-- A byte of the request is a byte of a sector. -/
theorem SectorsInFlash.contents_eq {sector count : UInt32}
    (inside : SectorsInFlash config sector count) (op : FlashOp) (image : Image) {i : Nat}
    (_ : i < count.toNat * 4096) :
    image ((sectorRequest op sector count).address + UInt32.ofNat i) =
      contents image (sector.toNat + i / 4096) (i % 4096) := by
  have atAddress := inside.toNat_address op
  have bound := config.flashSize.toNat_lt
  unfold SectorsInFlash at inside
  rw [contents, toNat_filesystemStartAddress] at *
  congr 1
  rw [← UInt32.toNat_inj, UInt32.toNat_add, UInt32.toNat_ofNat', UInt32.toNat_ofNat', atAddress]
  omega

/-- The place of a byte of a sector inside the flash. -/
theorem toNat_ofNat_contents {sector offset : Nat} (inside : InFlash config sector)
    (below : offset < 4096) :
    (UInt32.ofNat (filesystemStartAddress.toNat + sector * 4096 + offset)).toNat =
      1048576 + sector * 4096 + offset := by
  have bound := config.flashSize.toNat_lt
  unfold InFlash at inside
  rw [toNat_filesystemStartAddress] at *
  rw [UInt32.toNat_ofNat']
  omega

/-! ## One call -/

/-- An operation on nothing does nothing. -/
theorem execute_empty (larger : filesystemStartAddress < config.flashSize) {op : FlashOp}
    (isOp : op = .read ∨ op = .write ∨ op = .erase) (sector : UInt32) {fuel : Nat}
    (enough : 0 < fuel) (device : Device) :
    (sectorRequest op sector 0).execute chip fuel device = some device := by
  have empty : (sectorRequest op sector 0).len = 0 := by
    show 0 * sectorSize = 0
    exact UInt32.zero_mul
  have started : (sectorRequest op sector 0).begin config =
      ([], (sectorRequest op sector 0).cursor) := by
    rcases isOp with rfl | rfl | rfl
    · rfl
    · rfl
    · have isSector : 4096 ∣ (sectorRequest .erase sector 0).address.toNat := by
        show 4096 ∣ (filesystemStartAddress + sector * sectorSize).toNat
        rw [UInt32.toNat_add, UInt32.toNat_mul, toNat_filesystemStartAddress]
        show 4096 ∣ (1048576 + sector.toNat * 4096 % 2 ^ 32) % 2 ^ 32
        omega
      have aligned : ¬ sectorAddress (sectorRequest .erase sector 0).address ≠
          (sectorRequest .erase sector 0).address := by
        rw [not_not, sectorAddress_eq_iff isSector]
        omega
      have begins : ¬ ((sectorRequest .erase sector 0).cursor.address = 0 ∧
          (sectorRequest .erase sector 0).cursor.len ≥ config.flashSize) := by
        rintro ⟨-, whole⟩
        rw [ge_iff_le, show (sectorRequest .erase sector 0).cursor.len = 0 from empty,
          UInt32.le_iff_toNat_le] at whole
        rw [UInt32.lt_iff_toNat_lt] at larger
        exact absurd (lt_of_lt_of_le larger whole) (Nat.not_lt_zero _)
      show eraseStart config _ = _
      rw [eraseStart, if_neg begins]
      exact if_neg aligned
  rcases Nat.exists_eq_succ_of_ne_zero (Nat.ne_of_gt enough) with ⟨fuel, rfl⟩
  have ends : (sectorRequest op sector 0).iteration config (sectorRequest op sector 0).cursor =
      none :=
    if_pos empty
  rw [OpReq.execute, started]
  show OpReq.loop chip _ (fuel + 1) (sectorRequest op sector 0).cursor device = _
  rw [OpReq.loop, ends]

/-- A write of sectors inside the flash puts its data there. -/
theorem diskWrite_inFlash {disk : Disk} (initialised : disk.driveStatus = 0)
    {sector count : UInt32} (inside : SectorsInFlash config sector count) (buff : Nat → UInt8)
    {fuel : Nat} (enough : 2 ^ 32 ≤ fuel) :
    diskWrite chip fuel disk 0 buff sector count =
      some (.ok, { disk with
        image := overlay disk.image
          (1048576 + sector.toNat * 4096) (count.toNat * 4096) buff }) := by
  have isSector : 4096 ∣ (sectorRequest .erase sector count).address.toNat := by
    rw [inside.toNat_address]
    omega
  have behind : (sectorRequest .erase sector count).address ≠ 0 := by
    intro zero
    have place := inside.toNat_address .erase
    rw [zero, UInt32.toNat_zero] at place
    omega
  have erases := execute_erase chip rfl (inside.inFlash .erase) isSector behind
    (inside.toNat_len .erase) ⟨disk.image, buff⟩ (lt_of_lt_of_le count.toNat_lt enough)
  rw [inside.toNat_address, inside.toNat_len] at erases
  have erased : ∀ i < (sectorRequest .write sector count).len.toNat,
      overlay disk.image (1048576 + sector.toNat * 4096) (count.toNat * 4096) (fun _ => 0xff)
        ((sectorRequest .write sector count).address + UInt32.ofNat i) = 0xff := by
    intro i below
    have inFlash : (sectorRequest .write sector count).InFlash config := inside.inFlash .write
    have bound := config.flashSize.toNat_lt
    rw [OpReq.InFlash, inside.toNat_address] at inFlash
    rw [inside.toNat_len] at below inFlash
    refine if_pos ?_
    rw [UInt32.toNat_add, UInt32.toNat_ofNat', inside.toNat_address]
    omega
  have writes := execute_write chip rfl (inside.inFlash .write)
    ⟨overlay disk.image (1048576 + sector.toNat * 4096) (count.toNat * 4096) (fun _ => 0xff), buff⟩
    erased (lt_of_lt_of_le (UInt32.toNat_lt _) enough)
  rw [inside.toNat_address, inside.toNat_len, overlay_overlay] at writes
  rw [diskWrite, if_pos rfl, if_pos initialised, erases, Option.bind_some, writes]
  rfl

theorem diskRead_inFlash {disk : Disk} (initialised : disk.driveStatus = 0)
    {sector count : UInt32} (inside : SectorsInFlash config sector count) (buff : Nat → UInt8)
    {fuel : Nat} (enough : 2 ^ 32 ≤ fuel) :
    ∃ read, diskRead chip fuel disk 0 buff sector count = some (.ok, read) ∧
      ∀ i < count.toNat * 4096,
        read i = contents disk.image (sector.toNat + i / 4096) (i % 4096) := by
  have isInitialised : disk.driveStatus &&& ~~~staProtect = 0 := by
    rw [initialised]
    rfl
  rcases execute_read chip rfl (inside.inFlash .read) ⟨disk.image, buff⟩
    (lt_of_lt_of_le (UInt32.toNat_lt _) enough) with ⟨after, reads, -, bytes⟩
  rw [inside.toNat_len] at bytes
  refine ⟨after.buffer, ?_, ?_⟩
  · rw [diskRead, if_pos rfl, if_pos isInitialised, reads]
    rfl
  · intro i below
    rw [bytes i below]
    exact inside.contents_eq .read disk.image below

/-! ## Sequences of calls -/

/-- The two stores agree on every sector inside the flash. -/
def Agree (config : Config) (first second : SectorStore) : Prop :=
  ∀ sector, InFlash config sector → ∀ offset < 4096, first sector offset = second sector offset

/-- The sectors behind a write are those of the store behind the write. -/
theorem contents_overlay {image : Image} {store : SectorStore}
    (agree : Agree config (contents image) store) (sector count : Nat) (buff : Nat → UInt8) :
    Agree config (contents (overlay image (1048576 + sector * 4096) (count * 4096) buff))
      (store.write sector count buff) := by
  intro other inside offset below
  have place := toNat_ofNat_contents inside below
  simp only [contents, overlay, SectorStore.write, place]
  by_cases isIn : sector ≤ other ∧ other < sector + count
  · rw [if_pos isIn, if_pos (by omega)]
    congr 1
    omega
  · rw [if_neg isIn, if_neg (by omega)]
    exact agree other inside offset below

/-- What one call returns and leaves. -/
theorem run_agree (larger : filesystemStartAddress < config.flashSize) {disk : Disk}
    (initialised : disk.driveStatus = 0) {store : SectorStore}
    (agree : Agree config (contents disk.image) store) {call : DiskCall}
    (inside : call.Inside config) {fuel : Nat} (enough : 2 ^ 32 ≤ fuel) :
    ∃ after, call.run chip fuel disk = some ((store.call call).1, after) ∧
      after.driveStatus = 0 ∧ Agree config (contents after.image) (store.call call).2 ∧
      ∀ a, a < filesystemStartAddress → after.image a = disk.image a := by
  have some_ : 0 < fuel := lt_of_lt_of_le (by decide) enough
  cases call with
  | read sector count buff =>
      rcases inside with none_ | inside
      · have empty : count = 0 := none_
        subst empty
        have isInitialised : disk.driveStatus &&& ~~~staProtect = 0 := by
          rw [initialised]
          rfl
        refine ⟨disk, ?_, initialised, agree, fun _ _ => rfl⟩
        rw [DiskCall.run, diskRead, if_pos rfl, if_pos isInitialised,
          execute_empty chip larger (.inl rfl) sector some_]
        rfl
      · have inFlash : SectorsInFlash config sector count := inside
        rcases diskRead_inFlash chip initialised inFlash buff enough with ⟨read, reads, bytes⟩
        refine ⟨disk, ?_, initialised, agree, fun _ _ => rfl⟩
        rw [DiskCall.run, reads]
        have same : (List.range (count.toNat * 4096)).map read =
            store.read sector.toNat count.toNat := by
          refine List.map_congr_left ?_
          intro i isIn
          have below := List.mem_range.mp isIn
          rw [bytes i below]
          exact agree _ (inFlash.sector below) _ (Nat.mod_lt _ (by decide))
        simp only [Option.map_some, same, SectorStore.call]
  | write sector count buff =>
      rcases inside with none_ | inside
      · have empty : count = 0 := none_
        subst empty
        refine ⟨disk, ?_, initialised, ?_, fun _ _ => rfl⟩
        · rw [DiskCall.run, diskWrite, if_pos rfl, if_pos initialised,
            execute_empty chip larger (.inr (.inr rfl)) sector some_, Option.bind_some,
            execute_empty chip larger (.inr (.inl rfl)) sector some_]
          rfl
        · intro other isIn offset below
          rw [agree other isIn offset below]
          refine (if_neg ?_).symm
          rw [UInt32.toNat_zero]
          omega
      · have inFlash : SectorsInFlash config sector count := inside
        have writes := diskWrite_inFlash chip initialised inFlash buff enough
        refine ⟨⟨disk.driveStatus,
            overlay disk.image (1048576 + sector.toNat * 4096) (count.toNat * 4096) buff⟩,
          ?_, initialised, contents_overlay agree sector.toNat count.toNat buff, ?_⟩
        · rw [DiskCall.run, writes]
          rfl
        · intro a isBelow
          rw [UInt32.lt_iff_toNat_lt, toNat_filesystemStartAddress] at isBelow
          exact overlay_of_outside (by omega)

theorem runAll_agree (larger : filesystemStartAddress < config.flashSize) {disk : Disk}
    (initialised : disk.driveStatus = 0) {store : SectorStore}
    (agree : Agree config (contents disk.image) store) {calls : List DiskCall}
    (inside : ∀ call ∈ calls, call.Inside config) {fuel : Nat} (enough : 2 ^ 32 ≤ fuel) :
    ∃ after, runAll chip fuel disk calls = some ((store.calls calls).1, after) ∧
      Agree config (contents after.image) (store.calls calls).2 ∧
      ∀ a, a < filesystemStartAddress → after.image a = disk.image a := by
  induction calls generalizing disk store with
  | nil => exact ⟨disk, rfl, agree, fun _ _ => rfl⟩
  | cons call calls ih =>
      rcases run_agree chip larger initialised agree (inside call List.mem_cons_self) enough with
        ⟨middle, runs, stays, agreeThere, sameThere⟩
      rcases ih stays agreeThere fun other isIn => inside other (List.mem_cons_of_mem _ isIn) with
        ⟨after, runsAll, agreeLast, sameLast⟩
      refine ⟨after, ?_, agreeLast, ?_⟩
      · rw [runAll, runs, Option.bind_some]
        simp only [runsAll, Option.map_some]
        rfl
      · intro a isBelow
        rw [sameLast a isBelow, sameThere a isBelow]

/-- On a flash larger than the start address of the file system, calls of the initialised
drive whose sectors are inside the flash are those of a faithful store of sectors. -/
theorem faithful_of_inside (larger : filesystemStartAddress < config.flashSize) {disk : Disk}
    (initialised : disk.driveStatus = 0) {calls : List DiskCall}
    (inside : ∀ call ∈ calls, call.Inside config) : Faithful chip disk calls := by
  have same : Agree config (contents disk.image) (contents disk.image) := fun _ _ _ _ => rfl
  rcases runAll_agree chip larger initialised same inside (le_refl (2 ^ 32)) with
    ⟨after, runs, agree, low⟩
  exact ⟨2 ^ 32, _, after, runs, rfl, agree, low⟩

/-! ## A flash of 2 MiB -/

def smallFlash : Config where
  flashSize := 0x200000
  pageSize := 256
  opTaskPriority := 0

/-- A program clears the bits that are clear in its data. -/
def norChip : Chip smallFlash where
  eraseSector sector image a := if sectorAddress a = sector then 0xff else image a
  programPage address bytes image a :=
    match bytes[(a - address).toNat]? with
    | some byte => image a &&& byte
    | none => image a
  eraseChip _ _ := 0xff
  pageSize_ne := by decide
  eraseSector_of_mem _ isIn := if_pos isIn
  eraseSector_of_not_mem _ notIn := if_neg notIn
  programPage_of_erased := by
    intro address bytes image i inside fits erased
    have small : i < 2 ^ 32 := by
      have bound := (smallFlash.pageSize - (address &&& (smallFlash.pageSize - 1))).toNat_lt
      omega
    have place : (address + UInt32.ofNat i - address).toNat = i := by
      rw [add_sub_cancel_left, UInt32.toNat_ofNat', Nat.mod_eq_of_lt small]
    simp only [place, List.getElem?_eq_getElem inside, erased]
    exact UInt8.neg_one_and
  programPage_of_outside := by
    intro address bytes a image outside
    have behind : bytes[(a - address).toNat]? = none := by
      rw [List.getElem?_eq_none_iff]
      by_contra inside
      refine outside _ (Nat.lt_of_not_le inside) ?_
      rw [UInt32.ofNat_toNat, add_sub_cancel]
    simp only [behind]

/-- The drive with an erased flash. -/
def blankDisk : Disk where
  driveStatus := 0
  image _ := 0xff

theorem firstSector_faithful :
    Faithful norChip blankDisk
      [.write 0 1 fun i => UInt8.ofNat i, .write 255 1 fun _ => 7, .read 0 2 fun _ => 0] := by
  refine faithful_of_inside norChip (by decide) rfl ?_
  intro call isIn
  simp only [List.mem_cons, List.not_mem_nil, or_false] at isIn
  rcases isIn with rfl | rfl | rfl
  · exact .inr (by decide)
  · exact .inr (by decide)
  · exact .inr (by decide)

/-- Sector 256 is advertised, and begins where the flash ends. -/
theorem lastSector_not_faithful :
    ∃ calls : List DiskCall, (∀ call ∈ calls, call.Advertised smallFlash blankDisk) ∧
      ¬ Faithful norChip blankDisk calls := by
  refine ⟨[.read 256 1 fun _ => 0], ?_, ?_⟩
  · intro call isIn
    rw [List.mem_singleton.mp isIn]
    exact ⟨512, by decide, by decide⟩
  · rintro ⟨fuel, replies, after, runs, -⟩
    have stuck : (sectorRequest .read 256 1).execute norChip fuel
        ⟨blankDisk.image, fun _ => 0⟩ = none := by
      rw [OpReq.execute, OpReq.begin_read smallFlash rfl]
      exact loop_read_behind norChip rfl (by decide) (by decide) (by decide) fuel _
    have isInitialised : blankDisk.driveStatus &&& ~~~staProtect = 0 := by decide
    rw [runAll, DiskCall.run, diskRead, if_pos rfl, if_pos isInitialised, stuck] at runs
    cases runs

end FwkRtos.Fatfs

import FwkRtos.QspiFlash.Contents

/-!
# What one operation does to the flash

The loops of the operation thread over the bytes of a flash that is erased by sectors
and programmed by pages.  An operation that stays inside the flash changes exactly the
bytes that it was asked to change.
-/

namespace FwkRtos.QspiFlash

/-- A flash memory: an erase sets the bytes of a sector, and a program stores bytes into
the erased cells of one page. -/
structure Chip (config : Config) where
  eraseSector : UInt32 → Image → Image
  programPage : UInt32 → List UInt8 → Image → Image
  eraseChip : Image → Image
  pageSize_ne : config.pageSize ≠ 0
  eraseSector_of_mem : ∀ {sector : UInt32} {a : UInt32} (image : Image),
    sectorAddress a = sector → eraseSector sector image a = 0xff
  eraseSector_of_not_mem : ∀ {sector : UInt32} {a : UInt32} (image : Image),
    sectorAddress a ≠ sector → eraseSector sector image a = image a
  programPage_of_erased : ∀ {address : UInt32} (bytes : List UInt8) {image : Image} {i : Nat}
    (inside : i < bytes.length),
    bytes.length ≤ (config.pageSize - (address &&& (config.pageSize - 1))).toNat →
    image (address + UInt32.ofNat i) = 0xff →
    programPage address bytes image (address + UInt32.ofNat i) = bytes[i]
  programPage_of_outside : ∀ {address : UInt32} {bytes : List UInt8} {a : UInt32}
    (image : Image), (∀ i < bytes.length, a ≠ address + UInt32.ofNat i) →
    programPage address bytes image a = image a

/-- The flash, and the buffer of the operation that is executed. -/
structure Device where
  image : Image
  buffer : Nat → UInt8

section

variable {config : Config} (chip : Chip config) (op : OpReq)

/-- Bytes are put in the buffer of the operation. -/
def Device.transfer (device : Device) (data len : UInt32) (bytes : Nat → UInt8) : Device :=
  let offset := (data - op.data).toNat
  { device with
    buffer := fun i =>
      if offset ≤ i ∧ i < offset + len.toNat then bytes (i - offset) else device.buffer i }

/-- A call of the operation thread. -/
def Device.perform (device : Device) : DeviceCall → Device
  | .intRead address data len =>
      device.transfer op data len fun i => device.image (address + UInt32.ofNat i)
  | .fill data len => device.transfer op data len fun _ => 0xff
  | .intWrite address data len =>
      let offset := (data - op.data).toNat
      let bytes := (List.range len.toNat).map fun i => device.buffer (offset + i)
      { device with image := chip.programPage address bytes device.image }
  | .eraseSector address => { device with image := chip.eraseSector address device.image }
  | .sendSingleByteCommand .eraseChip => { device with image := chip.eraseChip device.image }
  | .sendSingleByteCommand .writeEnable | .sendSingleByteCommand .writeDisable
  | .connectToDevice | .disconnect | .fastReadSetupResources | .fastReadApplyCalibration
  | .fastReadShutdown | .fastReadModeSet _ | .fastRead _ _ _ | .whileBusy | .assert _ => device

/-- The loop of an operation, for so many iterations. -/
def OpReq.loop : Nat → Cursor → Device → Option Device
  | 0, _, _ => none
  | fuel + 1, cursor, device =>
      match op.iteration config cursor with
      | none => some device
      | some (calls, rest) => loop fuel rest (calls.foldl (Device.perform chip op) device)

/-- The operation thread executes an operation. -/
def OpReq.execute (fuel : Nat) (device : Device) : Option Device :=
  let start := op.begin config
  op.loop chip fuel start.2 (start.1.foldl (Device.perform chip op) device)

end

/-! ## Parts of the flash -/

/-- An image with other bytes from an address on. -/
def overlay (image : Image) (address len : Nat) (bytes : Nat → UInt8) : Image := fun a =>
  if address ≤ a.toNat ∧ a.toNat < address + len then bytes (a.toNat - address) else image a

theorem overlay_of_outside {image : Image} {address len : Nat} {bytes : Nat → UInt8} {a : UInt32}
    (outside : a.toNat < address ∨ address + len ≤ a.toNat) :
    overlay image address len bytes a = image a := by
  refine if_neg ?_
  omega

theorem overlay_zero (image : Image) (address : Nat) (bytes : Nat → UInt8) :
    overlay image address 0 bytes = image := by
  funext a
  exact overlay_of_outside (by omega)

/-- What is put over the same part last counts. -/
theorem overlay_overlay (image : Image) (address len : Nat) (first second : Nat → UInt8) :
    overlay (overlay image address len first) address len second =
      overlay image address len second := by
  funext a
  simp only [overlay]
  split <;> rfl

/-- Two adjacent parts with the same byte everywhere. -/
theorem overlay_append (image : Image) (address first second : Nat) (byte : UInt8) :
    overlay (overlay image address first fun _ => byte) (address + first) second
        (fun _ => byte) =
      overlay image address (first + second) fun _ => byte := by
  funext a
  simp only [overlay]
  split
  · rw [if_pos (by omega)]
  · split
    · rw [if_pos (by omega)]
    · rw [if_neg (by omega)]

variable {config : Config} (chip : Chip config) {op : OpReq}

theorem AtOffset.offset_le {cursor : Cursor} {offset : Nat} (place : AtOffset op cursor offset) :
    offset ≤ op.len.toNat := by
  have length := place.len
  omega

/-- The place in the buffer of the bytes behind those that were gone over. -/
theorem AtOffset.data_sub {cursor : Cursor} {offset : Nat} (place : AtOffset op cursor offset) :
    (cursor.data - op.data).toNat = offset := by
  have small := place.offset_le
  have bound := op.len.toNat_lt
  rw [place.data, add_sub_cancel_left, UInt32.toNat_ofNat']
  omega

theorem AtOffset.toNat_address {cursor : Cursor} {offset : Nat}
    (place : AtOffset op cursor offset) (inFlash : op.InFlash config) :
    cursor.address.toNat = op.address.toNat + offset := by
  have small := place.offset_le
  have bound := config.flashSize.toNat_lt
  unfold OpReq.InFlash at inFlash
  rw [place.address, UInt32.toNat_add, UInt32.toNat_ofNat']
  omega

/-! ## Read -/

theorem loop_read (isRead : op.op = .read) (inFlash : op.InFlash config) {fuel offset : Nat}
    {cursor : Cursor} {device : Device} (place : AtOffset op cursor offset)
    (has : ∀ i < offset, device.buffer i = device.image (op.address + UInt32.ofNat i))
    (enough : cursor.len.toNat < fuel) :
    ∃ after, op.loop chip fuel cursor device = some after ∧ after.image = device.image ∧
      ∀ i < op.len.toNat, after.buffer i = device.image (op.address + UInt32.ofNat i) := by
  induction fuel generalizing offset cursor device with
  | zero => exact absurd enough (Nat.not_lt_zero _)
  | succ fuel ih =>
      by_cases done : cursor.len = 0
      · have length := place.len
        rw [done] at length
        have all : offset = op.len.toNat := by simpa using length
        refine ⟨device, ?_, rfl, all ▸ has⟩
        rw [OpReq.loop, OpReq.iteration, if_pos done]
      · rcases readIteration_inFlash intTransfer inFlash place done with ⟨rest, iteration, after⟩
        have positive : 0 < cursor.len.toNat :=
          Nat.pos_of_ne_zero fun zero => done (UInt32.toNat.inj zero)
        have chunk : 0 < (min cursor.len readChunkSize).toNat := by
          show 0 < (if cursor.len ≤ readChunkSize then cursor.len else readChunkSize).toNat
          split
          · exact positive
          · decide
        have turned : op.iteration config cursor =
            some (intTransfer (op.address + UInt32.ofNat offset) (op.data + UInt32.ofNat offset)
              (min cursor.len readChunkSize), rest) := by
          rw [OpReq.iteration, if_neg done, isRead]
          exact congrArg some iteration
        have less : rest.len.toNat < fuel := by
          have before := place.len
          have now := after.len
          omega
        have transferred : ∀ i < offset + (min cursor.len readChunkSize).toNat,
            (device.perform chip op (.intRead (op.address + UInt32.ofNat offset)
              (op.data + UInt32.ofNat offset) (min cursor.len readChunkSize))).buffer i =
            device.image (op.address + UInt32.ofNat i) := by
          intro i below
          have start : (op.data + UInt32.ofNat offset - op.data).toNat = offset := by
            rw [← place.data]
            exact place.data_sub
          simp only [Device.perform, Device.transfer, start]
          split
          · rename_i covered
            rw [add_assoc, ← UInt32.ofNat_add, Nat.add_sub_cancel' covered.1]
          · rename_i outside
            exact has i (by omega)
        rcases ih after transferred less with ⟨last, looped, same, read⟩
        refine ⟨last, ?_, same, read⟩
        rw [OpReq.loop, turned]
        exact looped

/-- A read inside the flash returns what is there. -/
theorem execute_read (isRead : op.op = .read) (inFlash : op.InFlash config) {fuel : Nat}
    (device : Device) (enough : op.len.toNat < fuel) :
    ∃ after, op.execute chip fuel device = some after ∧ after.image = device.image ∧
      ∀ i < op.len.toNat, after.buffer i = device.image (op.address + UInt32.ofNat i) := by
  rw [OpReq.execute, OpReq.begin_read config isRead]
  exact loop_read chip isRead inFlash (atOffset_zero op)
    (fun i below => absurd below (Nat.not_lt_zero i))
    enough

/-! ## Erase -/

/-- The address of a sector as a number. -/
theorem toNat_sectorAddress (a : UInt32) : (sectorAddress a).toNat = a.toNat / 4096 * 4096 := by
  have bound := a.toNat_lt
  rw [sectorAddress, UInt32.toNat_shiftLeft, UInt32.toNat_shiftRight]
  show (a.toNat >>> 12) <<< 12 % 2 ^ 32 = _
  rw [Nat.shiftRight_eq_div_pow, Nat.shiftLeft_eq]
  exact Nat.mod_eq_of_lt (by omega)

theorem sectorAddress_eq_iff {a sector : UInt32} (isSector : 4096 ∣ sector.toNat) :
    sectorAddress a = sector ↔ sector.toNat ≤ a.toNat ∧ a.toNat < sector.toNat + 4096 := by
  rw [← UInt32.toNat_inj, toNat_sectorAddress]
  omega

/-- Erasing a sector sets its bytes and no others. -/
theorem eraseSector_eq_overlay (image : Image) {sector : UInt32} (isSector : 4096 ∣ sector.toNat) :
    chip.eraseSector sector image = overlay image sector.toNat 4096 fun _ => 0xff := by
  funext a
  by_cases isIn : sectorAddress a = sector
  · rw [chip.eraseSector_of_mem image isIn]
    exact (if_pos ((sectorAddress_eq_iff isSector).mp isIn)).symm
  · rw [chip.eraseSector_of_not_mem image isIn]
    exact (if_neg (fun inside => isIn ((sectorAddress_eq_iff isSector).mpr inside))).symm

theorem loop_erase (isErase : op.op = .erase) {sectors fuel : Nat} {cursor : Cursor}
    {device : Device} (isSector : 4096 ∣ cursor.address.toNat)
    (length : cursor.len.toNat = sectors * 4096)
    (inFlash : cursor.address.toNat + sectors * 4096 ≤ config.flashSize.toNat)
    (enough : sectors < fuel) :
    op.loop chip fuel cursor device =
      some { device with
        image := overlay device.image cursor.address.toNat (sectors * 4096) fun _ => 0xff } := by
  induction sectors generalizing fuel cursor device with
  | zero =>
      rcases Nat.exists_eq_succ_of_ne_zero (Nat.ne_of_gt enough) with ⟨fuel, rfl⟩
      have done : cursor.len = 0 := UInt32.toNat.inj (by simpa using length)
      rw [OpReq.loop, OpReq.iteration, if_pos done, Nat.zero_mul, overlay_zero]
  | succ sectors ih =>
      rcases Nat.exists_eq_succ_of_ne_zero (Nat.ne_of_gt (Nat.zero_lt_of_lt enough)) with
        ⟨fuel, rfl⟩
      have bound := config.flashSize.toNat_lt
      have eraseLength : (1 <<< eraseTypeSizeLog2 : UInt32) = 4096 := by decide
      have more : cursor.len ≠ 0 := by
        intro zero
        rw [zero] at length
        simp at length
      have inside : ¬ cursor.address ≥ config.flashSize := by
        rw [ge_iff_le, UInt32.le_iff_toNat_le]
        omega
      have nextAddress : (cursor.address + 4096).toNat = cursor.address.toNat + 4096 := by
        rw [UInt32.toNat_add]
        exact Nat.mod_eq_of_lt (by show _ + 4096 < _; omega)
      have left : (cursor.len - if (4096 : UInt32) < cursor.len then 4096 else cursor.len).toNat =
          sectors * 4096 := by
        split
        · rename_i isLess
          rw [UInt32.toNat_sub_of_le _ _ (UInt32.le_of_lt isLess), length]
          show _ - 4096 = _
          omega
        · rename_i notLess
          rw [UInt32.sub_self]
          rw [UInt32.lt_iff_toNat_lt, length] at notLess
          have small : ¬ 4096 < (sectors + 1) * 4096 := notLess
          show 0 = _
          omega
      have erased : ([DeviceCall.assert (cursor.address = sectorAddress cursor.address)] ++
            modify (.eraseSector cursor.address)).foldl (Device.perform chip op) device =
          { device with
            image := overlay device.image cursor.address.toNat 4096 fun _ => 0xff } := by
        rw [← eraseSector_eq_overlay chip device.image isSector]
        rfl
      have turned : op.iteration config cursor =
          some ([DeviceCall.assert (cursor.address = sectorAddress cursor.address)] ++
              modify (.eraseSector cursor.address),
            { cursor with
              address := cursor.address + 4096
              len := cursor.len - if (4096 : UInt32) < cursor.len then 4096 else cursor.len }) := by
        rw [OpReq.iteration, if_neg more, isErase]
        simp only [eraseIteration, if_neg inside, eraseLength]
        rfl
      rw [OpReq.loop, turned]
      dsimp only
      rw [erased, ih ?_ left ?_ (Nat.lt_of_succ_lt_succ enough)]
      · dsimp only
        rw [nextAddress, overlay_append, Nat.succ_mul, Nat.add_comm (sectors * 4096)]
      · rw [nextAddress]
        omega
      · dsimp only
        rw [nextAddress]
        omega

/-- An erase of whole sectors inside the flash sets their bytes and no others. -/
theorem execute_erase (isErase : op.op = .erase) (inFlash : op.InFlash config) {sectors : Nat}
    (isSector : 4096 ∣ op.address.toNat) (behind : op.address ≠ 0)
    (length : op.len.toNat = sectors * 4096) {fuel : Nat} (device : Device)
    (enough : sectors < fuel) :
    op.execute chip fuel device =
      some { device with
        image := overlay device.image op.address.toNat op.len.toNat fun _ => 0xff } := by
  have started : op.begin config = ([], op.cursor) := by
    have aligned : ¬ sectorAddress op.address ≠ op.address := by
      rw [not_not, sectorAddress_eq_iff isSector]
      omega
    have begins : ¬ (op.cursor.address = 0 ∧ op.cursor.len ≥ config.flashSize) :=
      fun whole => behind whole.1
    rw [OpReq.begin, isErase]
    simp only [eraseStart]
    rw [if_neg begins]
    exact if_neg aligned
  unfold OpReq.InFlash at inFlash
  rw [OpReq.execute, started, length]
  exact loop_erase chip isErase isSector length (by show op.address.toNat + _ ≤ _; omega) enough

/-! ## Write -/

/-- The bytes that go to the current page. -/
def bytesToWrite (config : Config) (cursor : Cursor) : UInt32 :=
  let maxBytesToWrite := config.pageSize - (cursor.address &&& (config.pageSize - 1))
  if cursor.len ≤ maxBytesToWrite then cursor.len else maxBytesToWrite

include chip in
theorem maxBytesToWrite_pos (address : UInt32) :
    0 < (config.pageSize - (address &&& (config.pageSize - 1))).toNat := by
  have positive : 0 < config.pageSize.toNat :=
    Nat.pos_of_ne_zero fun zero => chip.pageSize_ne (UInt32.toNat.inj zero)
  have one : (1 : UInt32) ≤ config.pageSize := UInt32.le_iff_toNat_le.mpr positive
  have masked : (address &&& (config.pageSize - 1)).toNat ≤ config.pageSize.toNat - 1 := by
    rw [UInt32.toNat_and, UInt32.toNat_sub_of_le _ _ one]
    exact Nat.and_le_right
  rw [UInt32.toNat_sub_of_le _ _ (UInt32.le_iff_toNat_le.mpr (by omega))]
  omega

include chip in
theorem bytesToWrite_bounds {cursor : Cursor} (more : cursor.len ≠ 0) :
    0 < (bytesToWrite config cursor).toNat ∧
      (bytesToWrite config cursor).toNat ≤ cursor.len.toNat ∧
      (bytesToWrite config cursor).toNat ≤
        (config.pageSize - (cursor.address &&& (config.pageSize - 1))).toNat := by
  have positive : 0 < cursor.len.toNat :=
    Nat.pos_of_ne_zero fun zero => more (UInt32.toNat.inj zero)
  have room := maxBytesToWrite_pos chip cursor.address
  unfold bytesToWrite
  dsimp only
  split
  · rename_i fits
    exact ⟨positive, le_refl _, UInt32.le_iff_toNat_le.mp fits⟩
  · rename_i full
    rw [UInt32.le_iff_toNat_le] at full
    exact ⟨room, by omega, le_refl _⟩

theorem AtOffset.write {cursor : Cursor} {offset : Nat} (place : AtOffset op cursor offset)
    {bytes : UInt32} (some_ : bytes.toNat ≤ cursor.len.toNat) :
    AtOffset op
      { data := cursor.data + bytes
        address := cursor.address + bytes
        len := cursor.len - bytes } (offset + bytes.toNat) where
  data := by rw [place.data, UInt32.ofNat_add, UInt32.ofNat_toNat, add_assoc]
  address := by rw [place.address, UInt32.ofNat_add, UInt32.ofNat_toNat, add_assoc]
  len := by
    have length := place.len
    show (cursor.len - bytes).toNat + _ = _
    rw [UInt32.toNat_sub_of_le _ _ (UInt32.le_iff_toNat_le.mpr some_)]
    omega

/-- The bytes of the next page are put behind those that were written. -/
theorem programPage_overlay (inFlash : op.InFlash config) {cursor : Cursor} {offset : Nat}
    (place : AtOffset op cursor offset) {image : Image}
    (erased : ∀ i < op.len.toNat, image (op.address + UInt32.ofNat i) = 0xff)
    (buffer : Nat → UInt8) {count : Nat} (some_ : count ≤ cursor.len.toNat)
    (fits : count ≤ (config.pageSize - (cursor.address &&& (config.pageSize - 1))).toNat) :
    chip.programPage cursor.address ((List.range count).map fun i => buffer (offset + i))
        (overlay image op.address.toNat offset buffer) =
      overlay image op.address.toNat (offset + count) buffer := by
  have atAddress := place.toNat_address inFlash
  have length := place.len
  have bound := config.flashSize.toNat_lt
  unfold OpReq.InFlash at inFlash
  have toNat_add : ∀ i < count,
      (cursor.address + UInt32.ofNat i).toNat = op.address.toNat + offset + i := by
    intro i below
    rw [UInt32.toNat_add, UInt32.toNat_ofNat', atAddress]
    omega
  funext a
  by_cases isIn : op.address.toNat + offset ≤ a.toNat ∧ a.toNat < op.address.toNat + offset + count
  · have below : a.toNat - (op.address.toNat + offset) < count := by omega
    have isAt : a = cursor.address + UInt32.ofNat (a.toNat - (op.address.toNat + offset)) := by
      rw [← UInt32.toNat_inj, toNat_add _ below]
      omega
    have cell : overlay image op.address.toNat offset buffer a = 0xff := by
      rw [overlay_of_outside (by omega)]
      have place' : a = op.address + UInt32.ofNat (a.toNat - op.address.toNat) := by
        rw [← UInt32.toNat_inj, UInt32.toNat_add, UInt32.toNat_ofNat']
        omega
      rw [place']
      exact erased _ (by omega)
    rw [isAt] at cell
    have written := chip.programPage_of_erased
      ((List.range count).map fun i => buffer (offset + i)) (by simpa using below)
      (by simpa using fits) cell
    rw [← isAt] at written
    rw [written, overlay, if_pos (by omega), List.getElem_map, List.getElem_range]
    congr 1
    omega
  · rw [chip.programPage_of_outside]
    · simp only [overlay]
      by_cases before : op.address.toNat ≤ a.toNat ∧ a.toNat < op.address.toNat + offset
      · rw [if_pos before, if_pos (by omega)]
      · rw [if_neg before, if_neg (by omega)]
    · intro i below equal
      rw [List.length_map, List.length_range] at below
      rw [equal, toNat_add i below] at isIn
      omega

theorem loop_write (isWrite : op.op = .write) (inFlash : op.InFlash config) {image : Image}
    (erased : ∀ i < op.len.toNat, image (op.address + UInt32.ofNat i) = 0xff)
    (buffer : Nat → UInt8) {fuel offset : Nat} {cursor : Cursor}
    (place : AtOffset op cursor offset) (enough : cursor.len.toNat < fuel) :
    op.loop chip fuel cursor ⟨overlay image op.address.toNat offset buffer, buffer⟩ =
      some ⟨overlay image op.address.toNat op.len.toNat buffer, buffer⟩ := by
  induction fuel generalizing offset cursor with
  | zero => exact absurd enough (Nat.not_lt_zero _)
  | succ fuel ih =>
      by_cases done : cursor.len = 0
      · have length := place.len
        rw [done] at length
        have all : offset = op.len.toNat := by simpa using length
        rw [OpReq.loop, OpReq.iteration, if_pos done, all]
      · rcases bytesToWrite_bounds chip done with ⟨positive, some_, fits⟩
        have atAddress := place.toNat_address inFlash
        have length := place.len
        have inside : ¬ cursor.address ≥ config.flashSize := by
          unfold OpReq.InFlash at inFlash
          rw [ge_iff_le, UInt32.le_iff_toNat_le]
          omega
        have turned : op.iteration config cursor =
            some (modify (.intWrite cursor.address cursor.data (bytesToWrite config cursor)),
              { data := cursor.data + bytesToWrite config cursor
                address := cursor.address + bytesToWrite config cursor
                len := cursor.len - bytesToWrite config cursor }) := by
          rw [OpReq.iteration, if_neg done, isWrite]
          simp only [writeIteration, if_neg inside]
          rfl
        have written : (modify
              (.intWrite cursor.address cursor.data (bytesToWrite config cursor))).foldl
              (Device.perform chip op) ⟨overlay image op.address.toNat offset buffer, buffer⟩ =
            ⟨overlay image op.address.toNat (offset + (bytesToWrite config cursor).toNat) buffer,
              buffer⟩ := by
          rw [← programPage_overlay chip inFlash place erased buffer some_ fits]
          simp only [modify, List.foldl, Device.perform, place.data_sub]
        rw [OpReq.loop, turned]
        dsimp only
        rw [written]
        refine ih (place.write some_) ?_
        have after := (place.write some_).len
        dsimp only at after ⊢
        omega

/-- A write inside the flash to erased cells puts the bytes there and changes no others. -/
theorem execute_write (isWrite : op.op = .write) (inFlash : op.InFlash config) (device : Device)
    (erased : ∀ i < op.len.toNat, device.image (op.address + UInt32.ofNat i) = 0xff) {fuel : Nat}
    (enough : op.len.toNat < fuel) :
    op.execute chip fuel device =
      some { device with
        image := overlay device.image op.address.toNat op.len.toNat device.buffer } := by
  have started : op.begin config = ([], op.cursor) := by
    rw [OpReq.begin, isWrite]
  have looped := loop_write chip isWrite inFlash erased device.buffer (atOffset_zero op) enough
  rw [overlay_zero] at looped
  rw [OpReq.execute, started]
  exact looped

/-! ## Reads behind the end of the flash -/

/-- A read that has come to the end of the flash goes on for ever: it transfers nothing. -/
theorem loop_read_behind (isRead : op.op = .read)
    (noWrap : config.flashSize.toNat + readChunkSize.toNat < 2 ^ 32) {cursor : Cursor}
    (more : cursor.len ≠ 0) (behind : config.flashSize ≤ cursor.address) (fuel : Nat)
    (device : Device) : op.loop chip fuel cursor device = none := by
  induction fuel generalizing cursor device with
  | zero => rfl
  | succ fuel ih =>
      have positive : 0 < cursor.len.toNat :=
        Nat.pos_of_ne_zero fun zero => more (UInt32.toNat.inj zero)
      have chunk : 0 < (min cursor.len readChunkSize).toNat ∧
          (min cursor.len readChunkSize).toNat ≤ readChunkSize.toNat := by
        show 0 < (if cursor.len ≤ readChunkSize then cursor.len else readChunkSize).toNat ∧
          (if cursor.len ≤ readChunkSize then cursor.len else readChunkSize).toNat ≤ _
        split
        · rename_i small
          exact ⟨positive, UInt32.le_iff_toNat_le.mp small⟩
        · exact ⟨by decide, le_refl _⟩
      have past : config.flashSize + min cursor.len readChunkSize > config.flashSize := by
        rw [gt_iff_lt, UInt32.lt_iff_toNat_lt, UInt32.toNat_add]
        omega
      have iteration : ∃ calls, op.iteration config cursor =
          some (calls, { cursor with address := config.flashSize }) := by
        rw [OpReq.iteration, if_neg more, isRead]
        refine ⟨_, congrArg some (Prod.ext rfl ?_)⟩
        simp only [readIteration, ge_iff_le, if_pos behind, if_pos past, UInt32.sub_self,
          UInt32.add_zero, UInt32.sub_zero]
      rcases iteration with ⟨calls, iteration⟩
      have again : ∀ later : Device,
          op.loop chip fuel { cursor with address := config.flashSize } later = none :=
        fun later => ih (by exact more) (UInt32.le_refl _) later
      rw [OpReq.loop, iteration]
      exact again _

end FwkRtos.QspiFlash

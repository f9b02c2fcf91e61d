import FwkRtos.QspiFlash.Execution

/-!
# Which sectors an erase erases

An erase goes over whole sectors from the sector of its address on.  It erases the sectors
that the address range touches, unless the range is empty and begins inside a sector, or its
length and the part of the sector before its address together leave 32 bits.
-/

namespace FwkRtos.QspiFlash

/-- The call erases the sector at this address. -/
def DeviceCall.Erases (config : Config) (sector : Nat) : DeviceCall → Prop
  | .eraseSector address => (sectorAddress address).toNat = sector
  | .sendSingleByteCommand .eraseChip => 4096 ∣ sector ∧ sector < config.flashSize.toNat
  | .sendSingleByteCommand .writeEnable | .sendSingleByteCommand .writeDisable
  | .connectToDevice | .disconnect | .fastReadSetupResources | .fastReadApplyCalibration
  | .fastReadShutdown | .fastReadModeSet _ | .intRead _ _ _ | .fastRead _ _ _ | .fill _ _
  | .intWrite _ _ _ | .whileBusy | .assert _ => False

/-- Some call erases the sector. -/
def Erased (config : Config) (calls : List DeviceCall) (sector : Nat) : Prop :=
  ∃ call ∈ calls, call.Erases config sector

/-- The sector is one of those that an erase is to erase: it is below the end of the flash,
and contains an address of the range, which is taken without wrap. -/
def OpReq.Touches (config : Config) (op : OpReq) (sector : Nat) : Prop :=
  4096 ∣ sector ∧ sector < config.flashSize.toNat ∧
    ∃ a, op.address.toNat ≤ a ∧ a < op.address.toNat + op.len.toNat ∧
      sector ≤ a ∧ a < sector + 4096

/-- What the calls of an erase are to do. -/
structure ErasesRight (config : Config) (op : OpReq) (calls : List DeviceCall) : Prop where
  exactly : ∀ sector, Erased config calls sector ↔ op.Touches config sector
  asserted : ∀ condition, DeviceCall.assert condition ∈ calls → condition = true

/-- The erase ends, with the calls that it is to make. -/
def OpReq.Erases (config : Config) (op : OpReq) : Prop :=
  ∃ fuel calls, op.calls config fuel = some calls ∧ ErasesRight config op calls

@[simp]
theorem erased_nil (config : Config) (sector : Nat) : ¬ Erased config [] sector := by
  rintro ⟨call, isIn, _⟩
  cases isIn

@[simp]
theorem erased_append (config : Config) (first second : List DeviceCall) (sector : Nat) :
    Erased config (first ++ second) sector ↔
      Erased config first sector ∨ Erased config second sector := by
  unfold Erased
  constructor
  · rintro ⟨call, isIn, erases⟩
    rcases List.mem_append.mp isIn with isIn | isIn
    · exact .inl ⟨call, isIn, erases⟩
    · exact .inr ⟨call, isIn, erases⟩
  · rintro (⟨call, isIn, erases⟩ | ⟨call, isIn, erases⟩)
    · exact ⟨call, List.mem_append.mpr (.inl isIn), erases⟩
    · exact ⟨call, List.mem_append.mpr (.inr isIn), erases⟩

/-- A command erases what it names; what is sent around it erases nothing. -/
@[simp]
theorem erased_modify (config : Config) (command : DeviceCall) (sector : Nat) :
    Erased config (modify command) sector ↔ command.Erases config sector := by
  simp [Erased, modify, DeviceCall.Erases]

/-! ## The loop -/

/-- The calls of so many iterations from a sector on. -/
def sectorErases : Nat → UInt32 → List DeviceCall
  | 0, _ => []
  | count + 1, address =>
      .assert true :: modify (.eraseSector address) ++ sectorErases count (address + 4096)

/-- How many iterations there are: as many as the length asks for, but none past the end of
the flash. -/
def Cursor.sectors (config : Config) (cursor : Cursor) : Nat :=
  min ((cursor.len.toNat + 4095) / 4096)
    ((config.flashSize.toNat - cursor.address.toNat) / 4096)

variable {config : Config} {op : OpReq}

/-- What is left after a sector is erased. -/
def Cursor.nextSector (cursor : Cursor) : Cursor :=
  { cursor with
    address := cursor.address + 4096
    len := cursor.len - (if (4096 : UInt32) < cursor.len then 4096 else cursor.len) }

theorem Cursor.toNat_nextSector_len (cursor : Cursor) :
    cursor.nextSector.len.toNat = cursor.len.toNat - 4096 := by
  unfold nextSector
  split
  · next isLess => exact UInt32.toNat_sub_of_le _ _ (UInt32.le_of_lt isLess)
  · next notLess =>
      rw [UInt32.lt_iff_toNat_lt] at notLess
      have small : ¬ 4096 < cursor.len.toNat := notLess
      rw [UInt32.sub_self]
      change 0 = _
      omega

theorem eraseIteration_inside {cursor : Cursor} (aligned : 4096 ∣ cursor.address.toNat)
    (inside : cursor.address < config.flashSize) :
    eraseIteration config cursor =
      some (.assert true :: modify (.eraseSector cursor.address), cursor.nextSector) := by
  have isSector : cursor.address = sectorAddress cursor.address := by
    rw [eq_comm, sectorAddress_eq_iff aligned]
    omega
  rw [eraseIteration, if_neg (UInt32.not_le.mpr inside), decide_eq_true isSector]
  rfl

theorem toNat_nextSector {address : UInt32} (inside : address.toNat + 4096 < 2 ^ 32) :
    (address + 4096).toNat = address.toNat + 4096 := by
  rw [UInt32.toNat_add]
  exact Nat.mod_eq_of_lt inside

/-- A sector of the flash ends in it. -/
theorem sectorEnd_le {address size : Nat} (whole : 4096 ∣ size) (aligned : 4096 ∣ address)
    (inside : address < size) : address + 4096 ≤ size := by
  omega

/-- Each sector is one iteration. -/
theorem sectors_succ {address len size : Nat} (some_ : 0 < len) (ends : address + 4096 ≤ size) :
    min ((len + 4095) / 4096) ((size - address) / 4096) =
      min ((len - 4096 + 4095) / 4096) ((size - (address + 4096)) / 4096) + 1 := by
  have lens : (len + 4095) / 4096 = (len - 4096 + 4095) / 4096 + 1 := by omega
  have sizes : (size - address) / 4096 = (size - (address + 4096)) / 4096 + 1 := by omega
  rw [lens, sizes, Nat.add_min_add_right]

/-- The loop ends as soon as it has gone over all its sectors. -/
theorem loopCalls_erase (isErase : op.op = .erase) (whole : 4096 ∣ config.flashSize.toNat)
    (fuel : Nat) {cursor : Cursor} (aligned : 4096 ∣ cursor.address.toNat) :
    loopCalls (op.iteration config) fuel cursor =
      if cursor.sectors config < fuel then
        some (sectorErases (cursor.sectors config) cursor.address)
      else none := by
  induction fuel generalizing cursor with
  | zero => exact (if_neg (Nat.not_lt_zero _)).symm
  | succ fuel ih =>
      have bound := config.flashSize.toNat_lt
      by_cases ends : cursor.len = 0 ∨ config.flashSize ≤ cursor.address
      · have none_ : op.iteration config cursor = none := by
          rw [OpReq.iteration, isErase]
          rcases ends with done | behind
          · exact if_pos done
          · by_cases done : cursor.len = 0
            · exact if_pos done
            · rw [if_neg done]
              exact if_pos behind
        have count : cursor.sectors config = 0 := by
          unfold Cursor.sectors
          rcases ends with done | behind
          · rw [done]
            exact Nat.min_eq_left (Nat.zero_le _)
          · rw [Nat.sub_eq_zero_of_le (UInt32.le_iff_toNat_le.mp behind)]
            exact Nat.min_eq_right (Nat.zero_le _)
        rw [loopCalls_of_none none_, count, if_pos (Nat.succ_pos fuel)]
        rfl
      · rw [not_or, UInt32.not_le] at ends
        rcases ends with ⟨more, inside⟩
        have turn : op.iteration config cursor =
            some (.assert true :: modify (.eraseSector cursor.address), cursor.nextSector) := by
          rw [OpReq.iteration, isErase, if_neg more]
          exact eraseIteration_inside aligned inside
        have some_ : 0 < cursor.len.toNat :=
          Nat.pos_of_ne_zero fun zero => more (UInt32.toNat.inj zero)
        have sectorEnd := sectorEnd_le whole aligned (UInt32.lt_iff_toNat_lt.mp inside)
        have moved : cursor.nextSector.address.toNat = cursor.address.toNat + 4096 :=
          toNat_nextSector (sectorEnd.trans_lt bound)
        have count : cursor.sectors config = cursor.nextSector.sectors config + 1 := by
          unfold Cursor.sectors
          rw [cursor.toNat_nextSector_len, moved]
          exact sectors_succ some_ sectorEnd
        have nextAligned : 4096 ∣ cursor.nextSector.address.toNat := by
          rw [moved]
          exact Nat.dvd_add_self_right.mpr aligned
        rw [loopCalls_of_some turn, ih nextAligned, count]
        by_cases enough : cursor.nextSector.sectors config < fuel
        · rw [if_pos enough, if_pos (Nat.succ_lt_succ enough)]
          rfl
        · rw [if_neg enough, if_neg (fun more => enough (Nat.lt_of_succ_lt_succ more))]
          rfl

/-- The sectors of so many iterations and one more. -/
theorem sector_split {count address sector : Nat} (aligned : 4096 ∣ address) :
    (4096 ∣ sector ∧ address ≤ sector ∧ sector < address + 4096 * (count + 1)) ↔
      sector = address ∨
        4096 ∣ sector ∧ address + 4096 ≤ sector ∧ sector < address + 4096 + 4096 * count := by
  omega

/-- The iterations erase the sectors that they go over. -/
theorem erased_sectorErases {count : Nat} {address : UInt32} (aligned : 4096 ∣ address.toNat)
    (inside : address.toNat + 4096 * count < 2 ^ 32) (sector : Nat) :
    Erased config (sectorErases count address) sector ↔
      4096 ∣ sector ∧ address.toNat ≤ sector ∧ sector < address.toNat + 4096 * count := by
  induction count generalizing address with
  | zero =>
      simp only [sectorErases, erased_nil, false_iff]
      omega
  | succ count ih =>
      have isSector := (sectorAddress_eq_iff aligned).mpr
        ⟨le_refl _, Nat.lt_add_of_pos_right (by decide)⟩
      have step : address.toNat + 4096 * (count + 1) = address.toNat + 4096 + 4096 * count := by
        rw [Nat.mul_succ, Nat.add_assoc, Nat.add_comm 4096]
      have moved : (address + 4096).toNat = address.toNat + 4096 :=
        toNat_nextSector (((Nat.le_add_right _ _).trans_eq step.symm).trans_lt inside)
      have asserts : Erased config [.assert true] sector ↔ False := by
        simp [Erased, DeviceCall.Erases]
      rw [sectorErases, List.cons_append, ← List.singleton_append, erased_append, erased_append,
        asserts, erased_modify, DeviceCall.Erases, isSector,
        ih (by rw [moved]; exact Nat.dvd_add_self_right.mpr aligned)
          (by rw [moved, ← step]; exact inside), moved, false_or, sector_split aligned, eq_comm]

theorem asserted_sectorErases {count : Nat} {address : UInt32} {condition : Bool}
    (isIn : DeviceCall.assert condition ∈ sectorErases count address) : condition = true := by
  induction count generalizing address with
  | zero => cases isIn
  | succ count ih =>
      rw [sectorErases, List.cons_append, List.mem_cons, List.mem_append] at isIn
      rcases isIn with first | between | later
      · cases first
        rfl
      · simp [modify] at between
      · exact ih later

/-! ## The whole erase -/

/-- Where the loop begins: at the sector of the address, with the part of the sector before
the address added to the length. -/
def OpReq.firstSector (op : OpReq) : Cursor where
  data := op.data
  address := sectorAddress op.address
  len := op.len + (op.address - sectorAddress op.address)

/-- The erase is that of the whole chip. -/
def OpReq.ErasesChip (config : Config) (op : OpReq) : Prop :=
  op.address = 0 ∧ op.len ≥ config.flashSize

theorem begin_erase (isErase : op.op = .erase) (noChip : ¬ op.ErasesChip config) :
    op.begin config = ([], op.firstSector) := by
  have noChip : ¬ (op.cursor.address = 0 ∧ op.cursor.len ≥ config.flashSize) := noChip
  have start : eraseStart config op.cursor = ([], op.firstSector) := by
    rw [eraseStart, if_neg noChip]
    split
    · rfl
    · next aligned =>
        rw [not_not] at aligned
        rw [OpReq.firstSector]
        change sectorAddress op.address = op.address at aligned
        rw [aligned, sub_self, add_zero]
        rfl
  rw [OpReq.begin, isErase]
  exact start

theorem calls_eraseChip (isErase : op.op = .erase) (chip : op.ErasesChip config) (fuel : Nat) :
    op.calls config (fuel + 1) = some (modify (.sendSingleByteCommand .eraseChip)) := by
  have start : op.begin config =
      (modify (.sendSingleByteCommand .eraseChip), { op.cursor with len := 0 }) := by
    rw [OpReq.begin, isErase]
    exact if_pos chip
  have ends : op.iteration config { op.cursor with len := 0 } = none := if_pos rfl
  rw [OpReq.calls, start, loopCalls_of_none ends]
  rfl

/-- An erase that is not that of the whole chip makes the calls of its sectors. -/
theorem calls_erase (isErase : op.op = .erase) (whole : 4096 ∣ config.flashSize.toNat)
    (noChip : ¬ op.ErasesChip config) (fuel : Nat) :
    op.calls config fuel =
      if op.firstSector.sectors config < fuel then
        some (sectorErases (op.firstSector.sectors config) (sectorAddress op.address))
      else none := by
  have aligned : 4096 ∣ op.firstSector.address.toNat := by
    change 4096 ∣ (sectorAddress op.address).toNat
    rw [toNat_sectorAddress]
    exact Nat.dvd_mul_left 4096 _
  rw [OpReq.calls, begin_erase isErase noChip, loopCalls_erase isErase whole fuel aligned]
  split <;> rfl

/-- The length from the first sector on, in 32 bits. -/
theorem toNat_firstSector_len (op : OpReq) :
    op.firstSector.len.toNat = (op.len.toNat + op.address.toNat % 4096) % 2 ^ 32 := by
  have bound := op.address.toNat_lt
  have sector := toNat_sectorAddress op.address
  change (op.len + (op.address - sectorAddress op.address)).toNat = _
  rw [UInt32.toNat_add, UInt32.toNat_sub, sector]
  omega

/-- The sectors that the loop erases. -/
theorem erased_loop (whole : 4096 ∣ config.flashSize.toNat) (sector : Nat) :
    Erased config (sectorErases (op.firstSector.sectors config) (sectorAddress op.address))
        sector ↔
      4096 ∣ sector ∧ op.address.toNat / 4096 * 4096 ≤ sector ∧
        sector < op.address.toNat / 4096 * 4096 +
          (op.len.toNat + op.address.toNat % 4096) % 2 ^ 32 ∧
        sector < config.flashSize.toNat := by
  have bound := config.flashSize.toNat_lt
  have below := op.address.toNat_lt
  have first := toNat_sectorAddress op.address
  have count : op.firstSector.sectors config =
      min (((op.len.toNat + op.address.toNat % 4096) % 2 ^ 32 + 4095) / 4096)
        ((config.flashSize.toNat - op.address.toNat / 4096 * 4096) / 4096) := by
    rw [Cursor.sectors, toNat_firstSector_len, ← first]
    rfl
  rw [erased_sectorErases (by rw [first]; exact Nat.dvd_mul_left 4096 _)
    (by rw [count, first]; omega), count, first]
  omega

/-- The range touches a sector if it is not empty and overlaps it. -/
theorem touches_iff (sector : Nat) :
    op.Touches config sector ↔
      4096 ∣ sector ∧ sector < config.flashSize.toNat ∧ 0 < op.len.toNat ∧
        op.address.toNat / 4096 * 4096 ≤ sector ∧
        sector < op.address.toNat + op.len.toNat := by
  unfold OpReq.Touches
  constructor
  · rintro ⟨isSector, inside, a, first, last, isIn, isIn'⟩
    omega
  · rintro ⟨isSector, inside, some_, first, last⟩
    exact ⟨isSector, inside, max sector op.address.toNat, by omega, by omega, by omega, by omega⟩

/-- The condition on the arguments: the range begins at a sector, or behind the end of the
flash; or it is not empty and its length from the first sector on stays within 32 bits; or it
does not, but leaves a remainder and the flash ends with the first sector. -/
def OpReq.ErasesInRange (config : Config) (op : OpReq) : Prop :=
  op.address.toNat % 4096 = 0 ∨
  config.flashSize.toNat ≤ op.address.toNat ∨
  0 < op.len.toNat ∧ op.len.toNat + op.address.toNat % 4096 < 2 ^ 32 ∨
  2 ^ 32 < op.len.toNat + op.address.toNat % 4096 ∧
    config.flashSize.toNat ≤ op.address.toNat / 4096 * 4096 + 4096

/-- An erase ends without a failed assertion for all arguments. -/
theorem calls_erase_ends (isErase : op.op = .erase) (whole : 4096 ∣ config.flashSize.toNat) :
    ∃ fuel calls, op.calls config fuel = some calls ∧
      ∀ condition, DeviceCall.assert condition ∈ calls → condition = true := by
  by_cases chip : op.ErasesChip config
  · refine ⟨1, _, calls_eraseChip isErase chip 0, ?_⟩
    intro condition isIn
    simp [modify] at isIn
  · refine ⟨op.firstSector.sectors config + 1, _,
      (calls_erase isErase whole chip _).trans (if_pos (Nat.lt_succ_self _)), ?_⟩
    exact fun _ isIn => asserted_sectorErases isIn

/-- What the sectors erased have to be, for an erase that is not that of the whole chip. -/
theorem erases_iff_sectors (isErase : op.op = .erase) (whole : 4096 ∣ config.flashSize.toNat)
    (noChip : ¬ op.ErasesChip config) :
    op.Erases config ↔ ∀ sector,
      Erased config (sectorErases (op.firstSector.sectors config) (sectorAddress op.address))
        sector ↔ op.Touches config sector := by
  constructor
  · rintro ⟨fuel, calls, ends, right⟩
    rw [calls_erase isErase whole noChip, Option.ite_none_right_eq_some] at ends
    cases ends.2
    exact right.exactly
  · intro exactly
    exact ⟨_, _, (calls_erase isErase whole noChip _).trans (if_pos (Nat.lt_succ_self _)),
      exactly, fun _ isIn => asserted_sectorErases isIn⟩

/-- An erase ends, asserts nothing wrong and erases exactly the sectors that its range
touches, exactly under the condition on its arguments. -/
theorem erases_iff_inRange (isErase : op.op = .erase) (whole : 4096 ∣ config.flashSize.toNat) :
    op.Erases config ↔ op.ErasesInRange config := by
  have bound := config.flashSize.toNat_lt
  have below := op.address.toNat_lt
  have small := op.len.toNat_lt
  by_cases chip : op.ErasesChip config
  · have address : op.address.toNat = 0 := by
      rw [chip.1]
      rfl
    have length := UInt32.le_iff_toNat_le.mp chip.2
    constructor
    · exact fun _ => .inl (by rw [address])
    · intro _
      refine ⟨1, _, calls_eraseChip isErase chip 0, ?_, fun condition isIn => ?_⟩
      · intro sector
        rw [erased_modify, touches_iff, address, DeviceCall.Erases]
        omega
      · simp [modify] at isIn
  · rw [erases_iff_sectors isErase whole chip]
    simp only [erased_loop whole, touches_iff]
    unfold OpReq.ErasesInRange
    constructor
    · intro exactly
      -- The first two sectors tell the lengths apart.
      have first := exactly (op.address.toNat / 4096 * 4096)
      have second := exactly (op.address.toNat / 4096 * 4096 + 4096)
      omega
    · intro inRange sector
      omega

/-- On a flash of two sectors: a range from inside the first sector to the end of the
addresses, whose length from the first sector on leaves 32 bits, and an empty range inside the
first sector. -/
theorem insideSector_not_erases :
    ∃ config : Config, config.flashSize = 0x2000 ∧
      ¬ OpReq.Erases config { op := .erase, data := 0, address := 1, len := 0xffffffff,
                              priority := 0 } ∧
      ¬ OpReq.Erases config { op := .erase, data := 0, address := 1, len := 0, priority := 0 } := by
  refine ⟨{ flashSize := 0x2000, pageSize := 256, opTaskPriority := 0 }, rfl, ?_, ?_⟩
  · rw [erases_iff_sectors rfl (by decide) (by unfold OpReq.ErasesChip; decide)]
    intro exactly
    have first := exactly 0
    rw [erased_loop (by decide), touches_iff] at first
    exact absurd (first.mpr (by decide)) (by decide)
  · rw [erases_iff_sectors rfl (by decide) (by unfold OpReq.ErasesChip; decide)]
    intro exactly
    have first := exactly 0
    rw [erased_loop (by decide), touches_iff] at first
    exact absurd (first.mp (by decide)) (by decide)

/-- A range from inside the first sector to the end of the second. -/
theorem twoSectors_erases :
    ∃ (config : Config) (op : OpReq), op.address = 0xfff ∧ op.len = 2 ∧ op.Erases config :=
  ⟨{ flashSize := 0x4000, pageSize := 256, opTaskPriority := 0 },
    { op := .erase, data := 0, address := 0xfff, len := 2, priority := 0 }, rfl, rfl,
    (erases_iff_inRange rfl (by decide)).mpr
      (.inr (.inr (.inl ⟨by decide, by decide⟩)))⟩

end FwkRtos.QspiFlash

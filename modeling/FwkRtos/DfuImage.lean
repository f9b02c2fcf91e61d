import Mathlib.Data.List.Pairwise
import Mathlib.Order.Basic
import Mathlib.Algebra.Group.Nat.Defs

/-!
# Where an upgrade image goes

Without an upgrade image the next one is to go to the first sector behind the factory image.
The search passes over a sector that begins where the factory image ends, and what it begins
with is left where it finds no sector, which need not be the beginning of one.
-/

namespace FwkRtos.DfuImage

/-! ## The initialization -/

/-- `fl_BootImageInfo`. -/
structure BootImageInfo where
  startAddress : UInt32
  size : UInt32
  version : UInt32
  deriving DecidableEq

/-- `rtos_dfu_image_t`. -/
structure RtosDfuImage where
  factoryImageCtx : BootImageInfo
  upgradeImageCtx : BootImageInfo
  dataPartitionBaseAddr : UInt32
  deriving DecidableEq

/-- What the functions of the flash library return, and what those that look for an image leave
behind their argument. -/
structure FlashLibrary where
  connectToDevice : Int
  getDataPartitionBase : UInt32
  getFactoryImage : BootImageInfo → Int × BootImageInfo
  getNextBootImage : BootImageInfo → Int × BootImageInfo
  sectorAddresses : List UInt32

/-- The loop over the sectors, which ends with the first address above `lastAddr`. -/
def nextSector (lastAddr : UInt32) : List UInt32 → UInt32
  | [] => lastAddr
  | address :: rest => if lastAddr < address then address else nextSector lastAddr rest

/-- The start address for an upgrade image behind the factory image. -/
def upgradeStart (library : FlashLibrary) (factory : BootImageInfo) (base : UInt32) : UInt32 :=
  let lastAddr := nextSector (factory.startAddress + factory.size) library.sectorAddresses
  if lastAddr < base then lastAddr else 0

/-- `rtos_dfu_image_init`, unless its assertion fails. -/
def rtosDfuImageInit (library : FlashLibrary) : Option RtosDfuImage :=
  let cleared : BootImageInfo := ⟨0, 0, 0⟩
  if library.connectToDevice = 0 then
    let base := library.getDataPartitionBase
    let factory := library.getFactoryImage cleared
    if factory.1 = 0 then
      let next := library.getNextBootImage factory.2
      if next.1 = 0 then some ⟨factory.2, next.2, base⟩
      else
        some ⟨factory.2, { cleared with startAddress := upgradeStart library factory.2 base }, base⟩
    else some ⟨factory.2, cleared, base⟩
  else none

/-! ## Where the upgrade image has to go -/

/-- The end of an image. -/
def BootImageInfo.stop (image : BootImageInfo) : Nat :=
  image.startAddress.toNat + image.size.toNat

/-- The smallest sector address at or after `stop`. -/
structure FirstSector (sectors : List UInt32) (stop : Nat) (address : UInt32) : Prop where
  isSector : address ∈ sectors
  behind : stop ≤ address.toNat
  least : ∀ other ∈ sectors, stop ≤ other.toNat → address ≤ other

/-- The slot is the first sector behind the image if there is one below the data partition, and
0 otherwise; so one that is not 0 is a sector between the two. -/
structure RightSlot (sectors : List UInt32) (stop : Nat) (base slot : UInt32) : Prop where
  first : ∀ address, FirstSector sectors stop address → address < base → slot = address
  zero : (∀ address, FirstSector sectors stop address → ¬ address < base) → slot = 0
  between : slot ≠ 0 → slot ∈ sectors ∧ stop ≤ slot.toNat ∧ slot < base

/-- The initialization leaves the right slot. -/
def FindsSlot (library : FlashLibrary) (factory : BootImageInfo) : Prop :=
  ∃ image, rtosDfuImageInit library = some image ∧
    RightSlot library.sectorAddresses factory.stop library.getDataPartitionBase
      image.upgradeImageCtx.startAddress

/-- Either the data partition begins at or before the end of the image, or the end is a sector
address just when no sector is above it, or the end is 0 and no other sector is below the data
partition.  Where the sum of address and size has more than 32 bits, no sector is between what is
left of it and the data partition, and what is left is 0, or in the data partition, or has a
sector above it. -/
def Separated (sectors : List UInt32) (factory : BootImageInfo) (base : UInt32) : Prop :=
  let lastAddr := factory.startAddress + factory.size
  if factory.stop < 2 ^ 32 then
    base ≤ lastAddr ∨ (lastAddr ∈ sectors ↔ ∀ address ∈ sectors, address ≤ lastAddr) ∨
      (lastAddr = 0 ∧ ∀ address ∈ sectors, address = 0 ∨ base ≤ address)
  else
    (∀ address ∈ sectors, lastAddr < address → base ≤ address) ∧
      (lastAddr = 0 ∨ base ≤ lastAddr ∨ ∃ address ∈ sectors, lastAddr < address)

/-! ## The search -/

section
variable {sectors : List UInt32} {lastAddr : UInt32}

/-- Where no sector is above it, the address is left as it is. -/
theorem nextSector_eq_self (none : ∀ address ∈ sectors, address ≤ lastAddr) :
    nextSector lastAddr sectors = lastAddr := by
  induction sectors with
  | nil => rfl
  | cons address rest ih =>
      rcases List.forall_mem_cons.mp none with ⟨first, others⟩
      rw [nextSector, if_neg (UInt32.not_lt.mpr first)]
      exact ih others

/-- Otherwise the least sector above it is found. -/
theorem nextSector_least (ascending : sectors.Pairwise (· < ·))
    (some : ∃ address ∈ sectors, lastAddr < address) :
    nextSector lastAddr sectors ∈ sectors ∧ lastAddr < nextSector lastAddr sectors ∧
      ∀ other ∈ sectors, lastAddr < other → nextSector lastAddr sectors ≤ other := by
  induction sectors with
  | nil =>
      rcases some with ⟨address, isMember, _⟩
      cases isMember
  | cons address rest ih =>
      rcases List.pairwise_cons.mp ascending with ⟨below, restAscending⟩
      rw [nextSector]
      by_cases above : lastAddr < address
      · rw [if_pos above]
        refine ⟨List.mem_cons_self, above, fun other isMember _ => ?_⟩
        rcases List.mem_cons.mp isMember with rfl | inRest
        · exact UInt32.le_refl _
        · exact UInt32.le_of_lt (below other inRest)
      · rw [if_neg above]
        have later : ∃ other ∈ rest, lastAddr < other := by
          rcases some with ⟨other, isMember, isAbove⟩
          rcases List.mem_cons.mp isMember with rfl | inRest
          · exact absurd isAbove above
          · exact ⟨other, inRest, isAbove⟩
        rcases ih restAscending later with ⟨isSector, isAbove, least⟩
        refine ⟨List.mem_cons_of_mem _ isSector, isAbove, fun other isMember otherAbove => ?_⟩
        rcases List.mem_cons.mp isMember with rfl | inRest
        · exact absurd otherAbove above
        · exact least other inRest otherAbove

end

/-! ## The slot -/

section
variable {sectors : List UInt32} {stop : Nat} {address base slot : UInt32}

theorem FirstSector.unique {other : UInt32} (isFirst : FirstSector sectors stop address)
    (isOther : FirstSector sectors stop other) : address = other :=
  UInt32.le_antisymm (isFirst.least other isOther.isSector isOther.behind)
    (isOther.least address isFirst.isSector isFirst.behind)

theorem rightSlot_iff_of_first (isFirst : FirstSector sectors stop address) :
    RightSlot sectors stop base slot ↔ slot = if address < base then address else 0 := by
  by_cases below : address < base
  · rw [if_pos below]
    constructor
    · intro right
      exact right.first address isFirst below
    · rintro rfl
      constructor
      · intro other isOther _
        exact isFirst.unique isOther
      · intro notBelow
        exact absurd below (notBelow slot isFirst)
      · intro _
        exact ⟨isFirst.isSector, isFirst.behind, below⟩
  · rw [if_neg below]
    constructor
    · intro right
      apply right.zero
      intro other isOther
      rw [← isFirst.unique isOther]
      exact below
    · rintro rfl
      constructor
      · intro other isOther otherBelow
        rw [← isFirst.unique isOther] at otherBelow
        exact absurd otherBelow below
      · intro _
        rfl
      · intro notZero
        exact absurd rfl notZero

theorem rightSlot_iff_of_none (none : ∀ address ∈ sectors, ¬ stop ≤ address.toNat) :
    RightSlot sectors stop base slot ↔ slot = 0 := by
  have noFirst : ∀ address, ¬ FirstSector sectors stop address :=
    fun address isFirst => none address isFirst.isSector isFirst.behind
  constructor
  · intro right
    exact right.zero fun address isFirst => absurd isFirst (noFirst address)
  · rintro rfl
    constructor
    · intro address isFirst
      exact absurd isFirst (noFirst address)
    · intro _
      rfl
    · intro notZero
      exact absurd rfl notZero

end

section
variable {library : FlashLibrary} {factory : BootImageInfo} {base : UInt32}

/-- The end of the image where it has 32 bits. -/
theorem toNat_lastAddr (small : factory.stop < 2 ^ 32) :
    (factory.startAddress + factory.size).toNat = factory.stop := by
  rw [UInt32.toNat_add]
  exact Nat.mod_eq_of_lt small

/-- A sector begins where the image ends. -/
theorem rightSlot_iff_of_sector (ascending : library.sectorAddresses.Pairwise (· < ·))
    (small : factory.stop < 2 ^ 32)
    (isSector : factory.startAddress + factory.size ∈ library.sectorAddresses) :
    RightSlot library.sectorAddresses factory.stop base (upgradeStart library factory base) ↔
      base ≤ factory.startAddress + factory.size ∨
        (∀ address ∈ library.sectorAddresses, address ≤ factory.startAddress + factory.size) ∨
        (factory.startAddress + factory.size = 0 ∧
          ∀ address ∈ library.sectorAddresses, address = 0 ∨ base ≤ address) := by
  have stop := toNat_lastAddr small
  rw [upgradeStart]
  generalize factory.startAddress + factory.size = lastAddr at *
  have isFirst : FirstSector library.sectorAddresses factory.stop lastAddr := by
    refine ⟨isSector, Nat.le_of_eq stop.symm, fun other _ behind => ?_⟩
    rw [UInt32.le_iff_toNat_le, stop]
    exact behind
  rw [rightSlot_iff_of_first isFirst]
  by_cases later : ∃ address ∈ library.sectorAddresses, lastAddr < address
  · rcases nextSector_least ascending later with ⟨nextIsSector, above, least⟩
    generalize nextSector lastAddr library.sectorAddresses = next at *
    have notLast : ¬ ∀ address ∈ library.sectorAddresses, address ≤ lastAddr := by
      intro last
      exact UInt32.not_lt.mpr (last next nextIsSector) above
    by_cases inPartition : base ≤ lastAddr
    · have nextInPartition : ¬ next < base := by
        intro below
        exact UInt32.not_lt.mpr inPartition (UInt32.lt_trans above below)
      rw [if_neg nextInPartition, if_neg (UInt32.not_lt.mpr inPartition)]
      exact ⟨fun _ => .inl inPartition, fun _ => rfl⟩
    · have below : lastAddr < base := UInt32.not_le.mp inPartition
      rw [if_pos below]
      by_cases nextBelow : next < base
      · rw [if_pos nextBelow]
        constructor
        · rintro rfl
          exact absurd above (UInt32.lt_irrefl _)
        · rintro (partition | last | ⟨rfl, others⟩)
          · exact absurd partition inPartition
          · exact absurd last notLast
          · rcases others next nextIsSector with rfl | partition
            · rfl
            · exact absurd nextBelow (UInt32.not_lt.mpr partition)
      · rw [if_neg nextBelow]
        constructor
        · rintro rfl
          refine .inr (.inr ⟨rfl, fun address isMember => ?_⟩)
          by_cases isZero : address = 0
          · exact .inl isZero
          · have positive : 0 < address := UInt32.pos_iff_ne_zero.mpr isZero
            exact .inr (UInt32.le_trans (UInt32.not_lt.mp nextBelow)
              (least address isMember positive))
        · rintro (partition | last | ⟨rfl, _⟩)
          · exact absurd partition inPartition
          · exact absurd last notLast
          · rfl
  · have last : ∀ address ∈ library.sectorAddresses, address ≤ lastAddr := by
      intro address isMember
      exact UInt32.not_lt.mp fun above => later ⟨address, isMember, above⟩
    rw [nextSector_eq_self last]
    exact ⟨fun _ => .inr (.inl last), fun _ => rfl⟩

/-- No sector begins where the image ends. -/
theorem rightSlot_iff_of_not_sector (ascending : library.sectorAddresses.Pairwise (· < ·))
    (small : factory.stop < 2 ^ 32)
    (noSector : factory.startAddress + factory.size ∉ library.sectorAddresses) :
    RightSlot library.sectorAddresses factory.stop base (upgradeStart library factory base) ↔
      base ≤ factory.startAddress + factory.size ∨
        (∃ address ∈ library.sectorAddresses, factory.startAddress + factory.size < address) ∨
        factory.startAddress + factory.size = 0 := by
  have stop := toNat_lastAddr small
  rw [upgradeStart]
  generalize factory.startAddress + factory.size = lastAddr at *
  have behind : ∀ address ∈ library.sectorAddresses, factory.stop ≤ address.toNat →
      lastAddr < address := by
    intro address isMember isBehind
    rw [← stop, ← UInt32.le_iff_toNat_le] at isBehind
    refine UInt32.lt_of_le_of_ne isBehind ?_
    rintro rfl
    exact noSector isMember
  by_cases later : ∃ address ∈ library.sectorAddresses, lastAddr < address
  · rcases nextSector_least ascending later with ⟨nextIsSector, above, least⟩
    have isFirst : FirstSector library.sectorAddresses factory.stop
        (nextSector lastAddr library.sectorAddresses) := by
      refine ⟨nextIsSector, ?_, fun other isMember isBehind => ?_⟩
      · rw [← stop]
        exact Nat.le_of_lt (UInt32.lt_iff_toNat_lt.mp above)
      · exact least other isMember (behind other isMember isBehind)
    rw [rightSlot_iff_of_first isFirst]
    exact ⟨fun _ => .inr (.inl later), fun _ => rfl⟩
  · have last : ∀ address ∈ library.sectorAddresses, address ≤ lastAddr := by
      intro address isMember
      exact UInt32.not_lt.mp fun above => later ⟨address, isMember, above⟩
    have none : ∀ address ∈ library.sectorAddresses, ¬ factory.stop ≤ address.toNat := by
      intro address isMember isBehind
      exact later ⟨address, isMember, behind address isMember isBehind⟩
    rw [rightSlot_iff_of_none none, nextSector_eq_self last]
    by_cases below : lastAddr < base
    · rw [if_pos below]
      constructor
      · intro isZero
        exact .inr (.inr isZero)
      · rintro (partition | more | isZero)
        · exact absurd below (UInt32.not_lt.mpr partition)
        · exact absurd more later
        · exact isZero
    · rw [if_neg below]
      exact ⟨fun _ => .inl (UInt32.not_lt.mp below), fun _ => rfl⟩

/-- The sum of address and size has more than 32 bits. -/
theorem rightSlot_iff_of_overflow (ascending : library.sectorAddresses.Pairwise (· < ·))
    (large : 2 ^ 32 ≤ factory.stop) :
    RightSlot library.sectorAddresses factory.stop base (upgradeStart library factory base) ↔
      (∀ address ∈ library.sectorAddresses,
          factory.startAddress + factory.size < address → base ≤ address) ∧
        (factory.startAddress + factory.size = 0 ∨ base ≤ factory.startAddress + factory.size ∨
          ∃ address ∈ library.sectorAddresses, factory.startAddress + factory.size < address) := by
  have none : ∀ address ∈ library.sectorAddresses, ¬ factory.stop ≤ address.toNat := by
    intro address _ behind
    exact Nat.not_lt_of_le (Nat.le_trans large behind) address.toNat_lt
  rw [upgradeStart, rightSlot_iff_of_none none]
  generalize factory.startAddress + factory.size = lastAddr at *
  by_cases later : ∃ address ∈ library.sectorAddresses, lastAddr < address
  · rcases nextSector_least ascending later with ⟨nextIsSector, above, least⟩
    generalize nextSector lastAddr library.sectorAddresses = next at *
    by_cases below : next < base
    · rw [if_pos below]
      constructor
      · rintro rfl
        exact absurd above UInt32.not_lt_zero
      · rintro ⟨none, _⟩
        exact absurd below (UInt32.not_lt.mpr (none next nextIsSector above))
    · rw [if_neg below]
      refine ⟨fun _ => ⟨fun address isMember isAbove => ?_, .inr (.inr later)⟩, fun _ => rfl⟩
      exact UInt32.le_trans (UInt32.not_lt.mp below) (least address isMember isAbove)
  · have last : ∀ address ∈ library.sectorAddresses, address ≤ lastAddr := by
      intro address isMember
      exact UInt32.not_lt.mp fun above => later ⟨address, isMember, above⟩
    rw [nextSector_eq_self last]
    by_cases below : lastAddr < base
    · rw [if_pos below]
      constructor
      · intro isZero
        refine ⟨fun address isMember above => ?_, .inl isZero⟩
        exact absurd ⟨address, isMember, above⟩ later
      · rintro ⟨_, isZero | partition | more⟩
        · exact isZero
        · exact absurd below (UInt32.not_lt.mpr partition)
        · exact absurd more later
    · rw [if_neg below]
      refine ⟨fun _ => ⟨fun address isMember above => ?_, ?_⟩, fun _ => rfl⟩
      · exact absurd ⟨address, isMember, above⟩ later
      · exact .inr (.inl (UInt32.not_lt.mp below))

theorem rightSlot_iff_separated (ascending : library.sectorAddresses.Pairwise (· < ·)) :
    RightSlot library.sectorAddresses factory.stop base (upgradeStart library factory base) ↔
      Separated library.sectorAddresses factory base := by
  rw [Separated]
  by_cases small : factory.stop < 2 ^ 32
  · rw [if_pos small]
    by_cases isSector : factory.startAddress + factory.size ∈ library.sectorAddresses
    · rw [rightSlot_iff_of_sector ascending small isSector, iff_true_left isSector]
    · have notLast : (¬ ∀ address ∈ library.sectorAddresses,
          address ≤ factory.startAddress + factory.size) ↔
            ∃ address ∈ library.sectorAddresses,
              factory.startAddress + factory.size < address := by
        simp only [not_forall, UInt32.not_le, exists_prop]
      rw [rightSlot_iff_of_not_sector ascending small isSector, iff_false_left isSector, notLast]
      constructor
      · rintro (partition | later | isZero)
        · exact .inl partition
        · exact .inr (.inl later)
        · by_cases later : ∃ address ∈ library.sectorAddresses,
              factory.startAddress + factory.size < address
          · exact .inr (.inl later)
          · refine .inr (.inr ⟨isZero, fun address isMember => ?_⟩)
            by_cases zero : address = 0
            · exact .inl zero
            · refine absurd ⟨address, isMember, ?_⟩ later
              rw [isZero]
              exact UInt32.pos_iff_ne_zero.mpr zero
      · rintro (partition | later | ⟨isZero, _⟩)
        · exact .inl partition
        · exact .inr (.inl later)
        · exact .inr (.inr isZero)
  · rw [if_neg small]
    exact rightSlot_iff_of_overflow ascending (Nat.le_of_not_lt small)

end

/-! ## The whole initialization -/

/-- With a factory image and no upgrade image, the upgrade is to start at `upgradeStart`. -/
theorem rtosDfuImageInit_eq {library : FlashLibrary} {factory : BootImageInfo}
    (connects : library.connectToDevice = 0)
    (found : library.getFactoryImage ⟨0, 0, 0⟩ = (0, factory))
    (notFound : (library.getNextBootImage factory).1 ≠ 0) :
    rtosDfuImageInit library =
      some ⟨factory, ⟨upgradeStart library factory library.getDataPartitionBase, 0, 0⟩,
        library.getDataPartitionBase⟩ := by
  simp only [rtosDfuImageInit, if_pos connects, found, if_neg notFound, if_true]

/-- The initialization leaves the right slot just when the factory image is separated from the
sectors and the data partition. -/
theorem findsSlot_iff (library : FlashLibrary) (factory : BootImageInfo)
    (connects : library.connectToDevice = 0)
    (found : library.getFactoryImage ⟨0, 0, 0⟩ = (0, factory))
    (notFound : (library.getNextBootImage factory).1 ≠ 0)
    (ascending : library.sectorAddresses.Pairwise (· < ·)) :
    FindsSlot library factory ↔
      Separated library.sectorAddresses factory library.getDataPartitionBase := by
  rw [← rightSlot_iff_separated ascending, FindsSlot,
    rtosDfuImageInit_eq connects found notFound]
  constructor
  · rintro ⟨image, same, right⟩
    cases same
    exact right
  · intro right
    exact ⟨_, rfl, right⟩

/-- Three sectors, of which the second one begins at `0x1000` and the third one at `0x3000`, with
a factory image of the given size. -/
def threeSectors (size : UInt32) : FlashLibrary where
  connectToDevice := 0
  getDataPartitionBase := 0x4000
  getFactoryImage := fun _ => (0, ⟨0, size, 1⟩)
  getNextBootImage := fun image => (1, image)
  sectorAddresses := [0, 0x1000, 0x3000]

theorem threeSectors_ascending (size : UInt32) :
    (threeSectors size).sectorAddresses.Pairwise (· < ·) := by
  simp [threeSectors]

theorem threeSectors_findsSlot_iff :
    FindsSlot (threeSectors 0x800) ⟨0, 0x800, 1⟩ ↔
      Separated (threeSectors 0x800).sectorAddresses ⟨0, 0x800, 1⟩ 0x4000 :=
  findsSlot_iff (threeSectors 0x800) ⟨0, 0x800, 1⟩ rfl rfl (by decide)
    (threeSectors_ascending 0x800)

/-- A sector that begins where the image ends is passed over, and an end in the last sector is
taken for a sector. -/
theorem threeSectors_not_findsSlot :
    (threeSectors 0x1000).sectorAddresses.Pairwise (· < ·) ∧
      ¬ FindsSlot (threeSectors 0x1000) ⟨0, 0x1000, 1⟩ ∧
      ¬ FindsSlot (threeSectors 0x3800) ⟨0, 0x3800, 1⟩ := by
  refine ⟨threeSectors_ascending 0x1000, ?_, ?_⟩
  · rintro ⟨image, same, right⟩
    cases same
    have isFirst : FirstSector (threeSectors 0x1000).sectorAddresses
        (BootImageInfo.stop ⟨0, 0x1000, 1⟩) 0x1000 :=
      ⟨by decide, by decide, by simp [threeSectors, BootImageInfo.stop]⟩
    exact absurd (right.first 0x1000 isFirst (by decide)) (by decide)
  · rintro ⟨image, same, right⟩
    cases same
    exact absurd (right.between (by decide)).1 (by decide)

end FwkRtos.DfuImage

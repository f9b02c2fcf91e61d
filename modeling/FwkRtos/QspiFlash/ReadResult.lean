import FwkRtos.QspiFlash.Contents

/-!
# What a read puts in its buffer

The five reading loops against the memory of the processor.  A read that stays inside the
flash ends with the bytes of the flash in its buffer.  One that goes beyond its end never
ends, or takes the bytes behind the end from the library: the loop shortens a chunk at the
end of the flash, and counts only the shortened chunk as read.
-/

namespace FwkRtos.QspiFlash

/-- The memory of the processor, by address. -/
abbrev Memory := UInt32 → UInt8

/-- Bytes are stored in a part of the memory. -/
def Memory.store (memory : Memory) (data len : UInt32) (bytes : UInt32 → UInt8) : Memory :=
  fun p => if p - data < len then bytes (p - data) else memory p

/-- What a read of the flash libraries transfers: by the address and the length of the read,
and the place of the byte in it. -/
abbrev Transferred := UInt32 → UInt32 → UInt32 → UInt8

/-- `fl_int_read` and `qspi_flash_fast_read` copy the bytes that are requested, if the flash
has them. -/
def Copies (config : Config) (flash : Image) (transferred : Transferred) : Prop :=
  ∀ address len i : UInt32, address.toNat + len.toNat ≤ config.flashSize.toNat → i < len →
    transferred address len i = flash (address + i)

/-- What a call does to the memory. -/
def Memory.perform (transferred : Transferred) (memory : Memory) : DeviceCall → Memory
  | .intRead address data len => memory.store data len (transferred address len)
  | .fastRead address data len => memory.store data len (transferred address len)
  | .fill data len => memory.store data len fun _ => 0xff
  | .connectToDevice | .disconnect | .fastReadSetupResources | .fastReadApplyCalibration
  | .fastReadShutdown | .fastReadModeSet _ | .sendSingleByteCommand _ | .intWrite _ _ _
  | .eraseSector _ | .whileBusy | .assert _ => memory

/-- The functions with a reading loop; of the low-level ones, the loop that runs once the
spinlock is acquired. -/
inductive ReadFunction
  | readOp
  | readFastOp
  | lowLevel (function : LowLevelRead)
  deriving DecidableEq

/-- How a function transfers a chunk. -/
def ReadFunction.transfer : ReadFunction → UInt32 → UInt32 → UInt32 → List DeviceCall
  | .readOp => intTransfer
  | .readFastOp => fastTransfer
  | .lowLevel function => function.transfer

/-- The next iteration of the loop of a function. -/
def ReadFunction.iteration (config : Config) (function : ReadFunction) (cursor : Cursor) :
    Option (List DeviceCall × Cursor) :=
  if cursor.len = 0 then none else some (readIteration config function.transfer cursor)

/-- The memory after a call of a function with these arguments, if its loop ends within so
many iterations. -/
def ReadFunction.read (config : Config) (function : ReadFunction) (transferred : Transferred)
    (fuel : Nat) (arguments : Cursor) (memory : Memory) : Option Memory :=
  (loopCalls (function.iteration config) fuel arguments).map
    (List.foldl (Memory.perform transferred) memory)

/-- The loop of the operation thread for a read is that of `read_op`. -/
theorem OpReq.iteration_readOp (config : Config) {op : OpReq} (isRead : op.op = .read) :
    op.iteration config = ReadFunction.readOp.iteration config := by
  funext cursor
  rw [OpReq.iteration, isRead]
  rfl

/-- The loop of the operation thread for a fast read is that of `read_fast_op`. -/
theorem OpReq.iteration_readFastOp (config : Config) {op : OpReq}
    (isFast : op.op = .readFastRaw ∨ op.op = .readFastNibbleSwap) :
    op.iteration config = ReadFunction.readFastOp.iteration config := by
  funext cursor
  rcases isFast with isFast | isFast <;> rw [OpReq.iteration, isFast] <;> rfl

theorem LowLevelRead.iteration_eq (config : Config) (function : LowLevelRead) :
    function.iteration config = (ReadFunction.lowLevel function).iteration config :=
  rfl

/-- The result that a read is to have: the bytes of the flash, `0xff` beyond its end, and
nothing stored outside the buffer. -/
structure ReadRight (config : Config) (flash : Image) (arguments : Cursor)
    (before after : Memory) : Prop where
  inside : ∀ i < arguments.len, after (arguments.data + i) =
    if arguments.address.toNat + i.toNat < config.flashSize.toNat then
      flash (arguments.address + i) else 0xff
  outside : ∀ p, ¬ p - arguments.data < arguments.len → after p = before p

/-- The function ends, with the result that it is to have. -/
def ReadFunction.ReadsRight (config : Config) (function : ReadFunction) (flash : Image)
    (transferred : Transferred) (arguments : Cursor) (memory : Memory) : Prop :=
  ∃ fuel after, function.read config transferred fuel arguments memory = some after ∧
    ReadRight config flash arguments memory after

/-! ## One iteration -/

section

variable {config : Config} {function : ReadFunction} {transferred : Transferred}
  {cursor rest : Cursor} {memory : Memory}

theorem Memory.store_of_inside {data len p : UInt32} {bytes : UInt32 → UInt8}
    (inside : p - data < len) : memory.store data len bytes p = bytes (p - data) :=
  if_pos inside

theorem Memory.store_of_outside {data len p : UInt32} {bytes : UInt32 → UInt8}
    (outside : ¬ p - data < len) : memory.store data len bytes p = memory p :=
  if_neg outside

/-- All functions transfer a chunk alike. -/
theorem ReadFunction.perform_transfer (function : ReadFunction) (address data len : UInt32) :
    (function.transfer address data len).foldl (Memory.perform transferred) memory =
      memory.store data len (transferred address len) := by
  rcases function with _ | _ | (_ | _ | _) <;> rfl

theorem ReadFunction.read_of_done (done : cursor.len = 0) (fuel : Nat) :
    function.read config transferred (fuel + 1) cursor memory = some memory := by
  have ends : function.iteration config cursor = none := if_pos done
  rw [read, loopCalls_of_none ends]
  rfl

theorem ReadFunction.read_of_more {calls : List DeviceCall} (more : cursor.len ≠ 0)
    (turn : readIteration config function.transfer cursor = (calls, rest)) (fuel : Nat) :
    function.read config transferred (fuel + 1) cursor memory =
      function.read config transferred fuel rest
        (calls.foldl (Memory.perform transferred) memory) := by
  have turns : function.iteration config cursor = some (calls, rest) := by
    rw [iteration, if_neg more, turn]
  rw [read, read, loopCalls_of_some turns, Option.map_map]
  congr 1
  funext later
  exact List.foldl_append

/-- The address of an iteration, capped at the size of the flash. -/
def cappedAddress (config : Config) (cursor : Cursor) : UInt32 :=
  if cursor.address ≥ config.flashSize then config.flashSize else cursor.address

theorem toNat_cappedAddress (config : Config) (cursor : Cursor) :
    (cappedAddress config cursor).toNat = min cursor.address.toNat config.flashSize.toNat := by
  unfold cappedAddress
  split
  · next behind => exact (Nat.min_eq_right (UInt32.le_iff_toNat_le.mp behind)).symm
  · next inside =>
      exact (Nat.min_eq_left (UInt32.lt_iff_toNat_lt.mp (UInt32.not_le.mp inside)).le).symm

/-- A chunk that the code takes to be inside the flash is transferred as it is. -/
theorem readIteration_whole (transfer : UInt32 → UInt32 → UInt32 → List DeviceCall)
    (whole : ¬ cappedAddress config cursor + min cursor.len readChunkSize > config.flashSize) :
    readIteration config transfer cursor =
      (transfer (cappedAddress config cursor) cursor.data (min cursor.len readChunkSize),
        { data := cursor.data + min cursor.len readChunkSize
          address := cappedAddress config cursor + min cursor.len readChunkSize
          len := cursor.len - min cursor.len readChunkSize }) := by
  unfold cappedAddress at whole ⊢
  simp only [readIteration, if_neg whole, List.nil_append]

/-- A chunk that the code takes to go beyond the end of the flash is shortened. -/
theorem readIteration_shortened (transfer : UInt32 → UInt32 → UInt32 → List DeviceCall)
    (beyond : cappedAddress config cursor + min cursor.len readChunkSize > config.flashSize) :
    readIteration config transfer cursor =
      (.fill (cursor.data + (config.flashSize - cappedAddress config cursor))
          (min cursor.len readChunkSize - (config.flashSize - cappedAddress config cursor)) ::
        transfer (cappedAddress config cursor) cursor.data
          (config.flashSize - cappedAddress config cursor),
        { data := cursor.data + (config.flashSize - cappedAddress config cursor)
          address := cappedAddress config cursor +
            (config.flashSize - cappedAddress config cursor)
          len := cursor.len - (config.flashSize - cappedAddress config cursor) }) := by
  unfold cappedAddress at beyond ⊢
  simp only [readIteration, if_pos beyond, List.cons_append, List.nil_append]

/-- Whether a place lies in a chunk that begins behind so many bytes. -/
theorem sub_lt_iff {place len : UInt32} {offset : Nat} (small : offset + len.toNat < 2 ^ 32) :
    place - UInt32.ofNat offset < len ↔
      offset ≤ place.toNat ∧ place.toNat < offset + len.toNat := by
  have bound := place.toNat_lt
  rw [UInt32.lt_iff_toNat_lt, UInt32.toNat_sub, UInt32.toNat_ofNat']
  omega

theorem chunk_bounds {len : UInt32} (more : len ≠ 0) :
    0 < (min len readChunkSize).toNat ∧ (min len readChunkSize).toNat ≤ len.toNat := by
  have positive : 0 < len.toNat := Nat.pos_of_ne_zero fun zero => more (UInt32.toNat.inj zero)
  constructor
  · change 0 < (if len ≤ readChunkSize then len else readChunkSize).toNat
    split
    · exact positive
    · decide
  · exact UInt32.le_iff_toNat_le.mp (min_readChunkSize_le len)

/-! ## Inside the flash -/

variable (function memory) in
/-- From a place on, a read inside the flash transfers the rest and nothing else. -/
theorem ReadFunction.read_inFlash {flash : Image} (copies : Copies config flash transferred)
    {op : OpReq} (inFlash : op.InFlash config) {fuel offset : Nat}
    (place : AtOffset op cursor offset) (enough : cursor.len.toNat < fuel) :
    ∃ after, function.read config transferred fuel cursor memory = some after ∧
      (∀ i < op.len, offset ≤ i.toNat → after (op.data + i) = flash (op.address + i)) ∧
      ∀ p, (p - op.data).toNat < offset ∨ ¬ p - op.data < op.len → after p = memory p := by
  induction fuel generalizing offset cursor memory with
  | zero => exact absurd enough (Nat.not_lt_zero _)
  | succ fuel ih =>
      have length := place.len
      have bound := op.len.toNat_lt
      by_cases done : cursor.len = 0
      · rw [done] at length
        have all : offset = op.len.toNat := by simpa using length
        rw [read_of_done done]
        refine ⟨memory, rfl, fun i inside behind => ?_, fun _ _ => rfl⟩
        exact absurd (UInt32.lt_iff_toNat_lt.mp inside) (Nat.not_lt.mpr (all ▸ behind))
      · rcases readIteration_inFlash function.transfer inFlash place done with
          ⟨rest, turn, next⟩
        rcases chunk_bounds done with ⟨positive, chunk⟩
        have nextLength := next.len
        generalize min cursor.len readChunkSize = count at turn next nextLength chunk positive
        have fits : offset + count.toNat < 2 ^ 32 := by omega
        rcases ih (memory.store (op.data + UInt32.ofNat offset) count
            (transferred (op.address + UInt32.ofNat offset) count)) next (by omega) with
          ⟨after, ends, right, same⟩
        rw [read_of_more done turn, perform_transfer]
        refine ⟨after, ends, fun i inside behind => ?_, fun p other => ?_⟩
        · by_cases later : offset + count.toNat ≤ i.toNat
          · exact right i inside later
          · have place' : op.data + i - (op.data + UInt32.ofNat offset) =
                i - UInt32.ofNat offset :=
              add_sub_add_left_eq_sub _ _ _
            have covered : i - UInt32.ofNat offset < count :=
              (sub_lt_iff fits).mpr ⟨behind, by omega⟩
            have atAddress : (op.address + UInt32.ofNat offset).toNat + count.toNat ≤
                config.flashSize.toNat := by
              have below := config.flashSize.toNat_lt
              unfold OpReq.InFlash at inFlash
              rw [UInt32.toNat_add, UInt32.toNat_ofNat']
              omega
            rw [same _ (.inl (by rw [add_sub_cancel_left]; omega)),
              Memory.store_of_inside (by rw [place']; exact covered), place',
              copies _ _ _ atAddress covered, add_assoc, add_sub_cancel]
        · have outside : ¬ p - (op.data + UInt32.ofNat offset) < count := by
            rw [← sub_sub, sub_lt_iff fits]
            rw [UInt32.lt_iff_toNat_lt] at other
            omega
          rw [same p (other.imp_left fun before => by omega), Memory.store_of_outside outside]

/-- The operation that a call of a reading function amounts to. -/
def Cursor.request (arguments : Cursor) : OpReq where
  op := .read
  data := arguments.data
  address := arguments.address
  len := arguments.len
  priority := 0

/-- A read that stays inside the flash has the right result. -/
theorem ReadFunction.readsRight_of_inFlash {flash : Image} {arguments : Cursor}
    (copies : Copies config flash transferred)
    (inFlash : arguments.len = 0 ∨
      arguments.address.toNat + arguments.len.toNat ≤ config.flashSize.toNat) :
    function.ReadsRight config flash transferred arguments memory := by
  rcases inFlash with empty | inFlash
  · refine ⟨1, memory, read_of_done empty 0, ?_⟩
    constructor
    case inside =>
      intro i inside
      rw [empty] at inside
      exact absurd inside (Nat.not_lt_zero _)
    case outside => exact fun _ _ => rfl
  · have request : arguments.request.InFlash config := inFlash
    rcases read_inFlash function memory copies request (atOffset_zero arguments.request)
      (Nat.lt_succ_self arguments.len.toNat) with ⟨after, ends, right, same⟩
    refine ⟨_, after, ends, ?_⟩
    constructor
    case inside =>
      intro i inside
      have below := UInt32.lt_iff_toNat_lt.mp inside
      rw [if_pos (by omega)]
      exact right i inside (Nat.zero_le _)
    case outside => exact fun p outside => same p (.inr outside)

/-! ## Beyond the end of the flash -/

/-- A library that has zeros behind the end of the flash. -/
def zerosBehind (config : Config) (flash : Image) : Transferred := fun address _ i =>
  if address.toNat + i.toNat < config.flashSize.toNat then flash (address + i) else 0

theorem copies_zerosBehind (config : Config) (flash : Image) :
    Copies config flash (zerosBehind config flash) := by
  intro address len i inFlash inside
  have below := UInt32.lt_iff_toNat_lt.mp inside
  exact if_pos (by omega)

/-- A byte of the buffer that lies behind the end of the flash is zero. -/
def ReadsZero (config : Config) (arguments : Cursor) (offset : Nat) (memory : Memory) : Prop :=
  ∃ k < offset, config.flashSize.toNat ≤ arguments.address.toNat + k ∧
    memory (arguments.data + UInt32.ofNat k) = 0

/-- How a read that goes beyond the end of the flash goes wrong: before the end, it has more
to read than the flash has; behind the end, it has more to read and does not get further, or
has read a byte that the flash does not have. -/
inductive GoesWrong (config : Config) (arguments cursor : Cursor) (offset : Nat)
    (memory : Memory) : Prop
  | before (address : cursor.address.toNat = arguments.address.toNat + offset)
      (inside : cursor.address < config.flashSize)
      (beyond : config.flashSize.toNat < arguments.address.toNat + arguments.len.toNat)
  | behind (address : config.flashSize ≤ cursor.address)
      (behind : config.flashSize.toNat ≤ arguments.address.toNat + offset)
      (more : cursor.len ≠ 0)
  | zero (reads : ReadsZero config arguments offset memory)

/-- A cursor that has gone over some bytes of the buffer. -/
structure InBuffer (arguments cursor : Cursor) (offset : Nat) : Prop where
  data : cursor.data = arguments.data + UInt32.ofNat offset
  len : cursor.len.toNat + offset = arguments.len.toNat

theorem InBuffer.move {arguments : Cursor} {offset : Nat} (place : InBuffer arguments cursor offset)
    {taken : UInt32} (some_ : taken ≤ cursor.len)
    (data : rest.data = cursor.data + taken) (len : rest.len = cursor.len - taken) :
    InBuffer arguments rest (offset + taken.toNat) := by
  have length := place.len
  constructor
  case data => rw [data, place.data, UInt32.ofNat_add, UInt32.ofNat_toNat, add_assoc]
  case len =>
    rw [len, UInt32.toNat_sub_of_le _ _ some_]
    rw [UInt32.le_iff_toNat_le] at some_
    omega

/-- What is stored from the place of the cursor on leaves a zero before it alone. -/
theorem ReadsZero.store {arguments : Cursor} {offset start : Nat}
    (reads : ReadsZero config arguments offset memory) (len : UInt32) (behind : offset ≤ start)
    (fits : start + len.toNat ≤ arguments.len.toNat) (bytes : UInt32 → UInt8) :
    ReadsZero config arguments offset
      (memory.store (arguments.data + UInt32.ofNat start) len bytes) := by
  rcases reads with ⟨k, before, beyond, zero⟩
  have bound := arguments.len.toNat_lt
  refine ⟨k, before, beyond, ?_⟩
  rw [Memory.store_of_outside, zero]
  rw [add_sub_add_left_eq_sub, sub_lt_iff (by omega), UInt32.toNat_ofNat']
  omega

/-- A chunk that the code takes to be inside the flash goes wrong further on, or stores a
zero. -/
theorem GoesWrong.whole {arguments : Cursor} {flash : Image} {offset : Nat}
    (wrong : GoesWrong config arguments cursor offset memory)
    (place : InBuffer arguments cursor offset) (more : cursor.len ≠ 0)
    (whole : ¬ cappedAddress config cursor + min cursor.len readChunkSize > config.flashSize) :
    GoesWrong config arguments
      { data := cursor.data + min cursor.len readChunkSize
        address := cappedAddress config cursor + min cursor.len readChunkSize
        len := cursor.len - min cursor.len readChunkSize }
      (offset + (min cursor.len readChunkSize).toNat)
      (memory.store cursor.data (min cursor.len readChunkSize)
        (zerosBehind config flash (cappedAddress config cursor)
          (min cursor.len readChunkSize))) := by
  have capped := toNat_cappedAddress config cursor
  rcases chunk_bounds more with ⟨positive, chunk⟩
  have length := place.len
  have bound := arguments.len.toNat_lt
  have size := config.flashSize.toNat_lt
  rw [gt_iff_lt, UInt32.lt_iff_toNat_lt, UInt32.toNat_add] at whole
  generalize min cursor.len readChunkSize = count at *
  generalize cappedAddress config cursor = address at *
  have fits : offset + count.toNat < 2 ^ 32 := by omega
  -- A byte of the chunk that the flash does not have is a zero from now on.
  have stores : ∀ i < count.toNat, config.flashSize.toNat ≤ address.toNat + i →
      config.flashSize.toNat ≤ arguments.address.toNat + (offset + i) →
      GoesWrong config arguments
        { data := cursor.data + count, address := address + count, len := cursor.len - count }
        (offset + count.toNat)
        (memory.store cursor.data count (zerosBehind config flash address count)) := by
    intro i inChunk noFlash beyond
    refine .zero ⟨offset + i, by omega, beyond, ?_⟩
    have at_ : arguments.data + UInt32.ofNat (offset + i) - cursor.data = UInt32.ofNat i := by
      rw [place.data, UInt32.ofNat_add, add_sub_add_left_eq_sub, add_sub_cancel_left]
    have small : (UInt32.ofNat i).toNat = i := by
      rw [UInt32.toNat_ofNat']
      omega
    rw [Memory.store_of_inside (by rw [at_, UInt32.lt_iff_toNat_lt, small]; exact inChunk), at_]
    exact if_neg (by rw [small]; omega)
  cases wrong with
  | before at_ inside beyond =>
      rw [UInt32.lt_iff_toNat_lt] at inside
      by_cases wraps : 2 ^ 32 ≤ address.toNat + count.toNat
      · exact stores (config.flashSize.toNat - address.toNat) (by omega) (by omega) (by omega)
      · have moved : (address + count).toNat = address.toNat + count.toNat := by
          rw [UInt32.toNat_add]
          omega
        by_cases reached : address.toNat + count.toNat < config.flashSize.toNat
        · refine .before ?_ ?_ beyond
          · dsimp only
            omega
          · rw [UInt32.lt_iff_toNat_lt]
            dsimp only
            omega
        · refine .behind ?_ (by omega) ?_
          · rw [UInt32.le_iff_toNat_le]
            dsimp only
            omega
          · intro done
            have left : (cursor.len - count).toNat = 0 := by
              dsimp only at done
              rw [done]
              rfl
            rw [UInt32.toNat_sub_of_le _ _ (UInt32.le_iff_toNat_le.mpr chunk)] at left
            omega
  | behind at_ beyond _ =>
      rw [UInt32.le_iff_toNat_le] at at_
      exact stores 0 positive (by omega) (by omega)
  | zero reads =>
      rcases reads with ⟨k, before, beyond, zero⟩
      have kept := ReadsZero.store ⟨k, before, beyond, zero⟩ count (le_refl offset)
        (by omega) (zerosBehind config flash address count)
      rw [← place.data] at kept
      rcases kept with ⟨k, before, beyond, zero⟩
      exact .zero ⟨k, by omega, beyond, zero⟩

/-- A chunk that the code shortens takes the read to the end of the flash, and not further. -/
theorem GoesWrong.shortened {arguments : Cursor} {flash : Image} {offset : Nat}
    (wrong : GoesWrong config arguments cursor offset memory)
    (place : InBuffer arguments cursor offset) (more : cursor.len ≠ 0) {left : UInt32}
    (toEnd : left.toNat + min cursor.address.toNat config.flashSize.toNat = config.flashSize.toNat)
    (beyond : left.toNat < (min cursor.len readChunkSize).toNat) :
    GoesWrong config arguments
      { data := cursor.data + left
        address := cappedAddress config cursor + left
        len := cursor.len - left }
      (offset + left.toNat)
      ((memory.store (cursor.data + left) (min cursor.len readChunkSize - left) fun _ => 0xff).store
        cursor.data left (zerosBehind config flash (cappedAddress config cursor) left)) := by
  have capped := toNat_cappedAddress config cursor
  rcases chunk_bounds more with ⟨positive, chunk⟩
  have length := place.len
  have bound := arguments.len.toNat_lt
  have size := config.flashSize.toNat_lt
  generalize min cursor.len readChunkSize = count at *
  generalize cappedAddress config cursor = address at *
  have atEnd : (address + left).toNat = config.flashSize.toNat := by
    rw [UInt32.toNat_add]
    omega
  have unfinished : cursor.len - left ≠ 0 := by
    intro done
    have none_ : (cursor.len - left).toNat = 0 := by
      rw [done]
      rfl
    rw [UInt32.toNat_sub_of_le _ _ (UInt32.le_iff_toNat_le.mpr (by omega))] at none_
    omega
  cases wrong with
  | before at_ inside _ =>
      rw [UInt32.lt_iff_toNat_lt] at inside
      exact .behind (UInt32.le_iff_toNat_le.mpr atEnd.ge) (by omega) unfinished
  | behind at_ beyond' _ =>
      exact .behind (UInt32.le_iff_toNat_le.mpr atEnd.ge) (by omega) unfinished
  | zero reads =>
      have fill : (count - left).toNat = count.toNat - left.toNat :=
        UInt32.toNat_sub_of_le _ _ (UInt32.le_iff_toNat_le.mpr beyond.le)
      have filled := reads.store (count - left) (Nat.le_add_right offset left.toNat)
        (by omega) fun _ => 0xff
      have kept := filled.store left (le_refl offset) (by omega)
        (zerosBehind config flash address left)
      rw [UInt32.ofNat_add, UInt32.ofNat_toNat, ← add_assoc, ← place.data] at kept
      rcases kept with ⟨k, before, beyond, zero⟩
      exact .zero ⟨k, by omega, beyond, zero⟩

/-- What goes wrong goes on to go wrong. -/
theorem GoesWrong.turn {arguments : Cursor} {flash : Image} {offset : Nat}
    (wrong : GoesWrong config arguments cursor offset memory)
    (place : InBuffer arguments cursor offset) (more : cursor.len ≠ 0) {calls : List DeviceCall}
    (turn : readIteration config function.transfer cursor = (calls, rest)) :
    ∃ next, InBuffer arguments rest next ∧ GoesWrong config arguments rest next
      (calls.foldl (Memory.perform (zerosBehind config flash)) memory) := by
  have capped := toNat_cappedAddress config cursor
  by_cases whole :
      ¬ cappedAddress config cursor + min cursor.len readChunkSize > config.flashSize
  · rw [readIteration_whole function.transfer whole] at turn
    rcases Prod.mk.inj turn with ⟨rfl, rfl⟩
    refine ⟨_, place.move (min_readChunkSize_le _) rfl rfl, ?_⟩
    rw [ReadFunction.perform_transfer]
    exact wrong.whole place more whole
  · rw [not_not] at whole
    have beyond := UInt32.lt_iff_toNat_lt.mp whole
    rw [readIteration_shortened function.transfer whole] at turn
    rcases Prod.mk.inj turn with ⟨rfl, rfl⟩
    have atMost : cappedAddress config cursor ≤ config.flashSize :=
      UInt32.le_iff_toNat_le.mpr (by omega)
    have left := UInt32.toNat_sub_of_le _ _ atMost
    rcases chunk_bounds more with ⟨_, chunk⟩
    have bound := config.flashSize.toNat_lt
    rw [UInt32.toNat_add] at beyond
    refine ⟨_, place.move (UInt32.le_iff_toNat_le.mpr (by omega)) rfl rfl, ?_⟩
    rw [List.foldl_cons, ReadFunction.perform_transfer]
    exact wrong.shortened place more (by omega) (by omega)

/-- A read that goes wrong does not end, or has stored a zero that is not in the flash. -/
theorem GoesWrong.read {arguments : Cursor} {flash : Image} {offset fuel : Nat} {after : Memory}
    (wrong : GoesWrong config arguments cursor offset memory)
    (place : InBuffer arguments cursor offset)
    (ends : function.read config (zerosBehind config flash) fuel cursor memory = some after) :
    ReadsZero config arguments arguments.len.toNat after := by
  induction fuel generalizing cursor memory offset with
  | zero => cases ends
  | succ fuel ih =>
      by_cases done : cursor.len = 0
      · rw [ReadFunction.read_of_done done] at ends
        cases ends
        have length := place.len
        rw [done] at length
        have all : offset = arguments.len.toNat := by simpa using length
        cases wrong with
        | before at_ inside beyond =>
            rw [UInt32.lt_iff_toNat_lt] at inside
            omega
        | behind _ _ more => exact absurd done more
        | zero reads => exact all ▸ reads
      · rcases turn : readIteration config function.transfer cursor with ⟨calls, rest⟩
        rw [ReadFunction.read_of_more done turn] at ends
        rcases wrong.turn place done turn with ⟨next, nextPlace, nextWrong⟩
        exact ih nextWrong nextPlace ends

/-- A read that goes beyond the end of the flash has no right result from a library that has
zeros there. -/
theorem ReadFunction.not_readsRight_of_beyond {flash : Image} {arguments : Cursor}
    (more : arguments.len ≠ 0)
    (beyond : config.flashSize.toNat < arguments.address.toNat + arguments.len.toNat) :
    ¬ function.ReadsRight config flash (zerosBehind config flash) arguments memory := by
  rintro ⟨fuel, after, ends, right⟩
  have place : InBuffer arguments arguments 0 := ⟨(add_zero _).symm, rfl⟩
  have wrong : GoesWrong config arguments arguments 0 memory := by
    by_cases inside : arguments.address < config.flashSize
    · exact .before rfl inside beyond
    · rw [UInt32.not_lt] at inside
      exact .behind inside (UInt32.le_iff_toNat_le.mp inside) more
  rcases wrong.read place ends with ⟨k, inBuffer, behind, zero⟩
  have bound := arguments.len.toNat_lt
  have small : (UInt32.ofNat k).toNat = k := by
    rw [UInt32.toNat_ofNat']
    omega
  have inside : UInt32.ofNat k < arguments.len := by
    rw [UInt32.lt_iff_toNat_lt, small]
    exact inBuffer
  have filled := right.inside (UInt32.ofNat k) inside
  rw [if_neg (by omega), zero] at filled
  exact absurd filled (by decide)

/-- A read of all five functions has the right result, whatever the library has behind the
end of the flash, exactly if it reads nothing or stays inside the flash. -/
theorem readsRight_iff (config : Config) (function : ReadFunction) (flash : Image)
    (arguments : Cursor) (memory : Memory) :
    (∀ transferred, Copies config flash transferred →
      function.ReadsRight config flash transferred arguments memory) ↔
      arguments.len = 0 ∨
        arguments.address.toNat + arguments.len.toNat ≤ config.flashSize.toNat := by
  constructor
  · intro always
    by_contra beyond
    rw [not_or, not_le] at beyond
    exact ReadFunction.not_readsRight_of_beyond beyond.1 beyond.2
      (always _ (copies_zerosBehind config flash))
  · exact fun inFlash transferred copies => ReadFunction.readsRight_of_inFlash copies inFlash

/-- Two bytes from the last address of a small flash. -/
theorem lastAddress_not_readsRight :
    ∃ (config : Config) (flash : Image) (transferred : Transferred) (memory : Memory),
      config.flashSize = 0x1000 ∧ Copies config flash transferred ∧
      ¬ ReadFunction.readOp.ReadsRight config flash transferred
        { data := 0, address := 0xfff, len := 2 } memory :=
  ⟨{ flashSize := 0x1000, pageSize := 256, opTaskPriority := 0 }, fun _ => 0, _, fun _ => 0, rfl,
    copies_zerosBehind _ _, ReadFunction.not_readsRight_of_beyond (by decide) (by decide)⟩

end

end FwkRtos.QspiFlash

import FwkRtos.QspiFlash.Execution

/-!
# What a write programs

A write goes from page to page.  The pieces that it programs are the bytes of its range below
the end of the flash, each once and in order.
-/

namespace FwkRtos.QspiFlash

/-- What a page program stores: bytes of the buffer, by their addresses. -/
structure PageWrite where
  address : UInt32
  data : UInt32
  len : UInt32
  deriving DecidableEq

/-- The calls that program a piece. -/
def PageWrite.program (piece : PageWrite) : List DeviceCall :=
  [.sendSingleByteCommand .writeEnable, .intWrite piece.address piece.data piece.len, .whileBusy,
    .sendSingleByteCommand .writeDisable]

/-- So many bytes, each by its address in the flash and its place in the memory. -/
def bytesFrom (address data : UInt32) (count : Nat) : List (Nat × UInt32) :=
  (List.range count).map fun i => (address.toNat + i, data + UInt32.ofNat i)

/-- The piece programs a part of one page, and more than nothing. -/
def PageWrite.InPage (config : Config) (piece : PageWrite) : Prop :=
  0 < piece.len.toNat ∧
    piece.address.toNat % config.pageSize.toNat + piece.len.toNat ≤ config.pageSize.toNat

/-- The calls program pieces of pages that add up to the bytes of a write that are below the
end of the flash. -/
structure WritesRight (config : Config) (write : Cursor) (calls : List DeviceCall)
    (pieces : List PageWrite) : Prop where
  programs : calls = pieces.flatMap PageWrite.program
  inPage : ∀ piece ∈ pieces, piece.InPage config
  exactly : (pieces.flatMap fun piece =>
      bytesFrom piece.address piece.data piece.len.toNat) =
    bytesFrom write.address write.data
      (min (write.address.toNat + write.len.toNat) config.flashSize.toNat -
        write.address.toNat)

/-- A page size that is a power of two, and a flash of whole pages. -/
structure WholePages (config : Config) : Prop where
  isPowerOfTwo : ∃ log, config.pageSize.toNat = 2 ^ log
  whole : config.pageSize.toNat ∣ config.flashSize.toNat

variable {config : Config} {op : OpReq}

theorem bytesFrom_add (address data : UInt32) {first : UInt32} (rest : Nat)
    (noWrap : address.toNat + first.toNat < 2 ^ 32) :
    bytesFrom address data (first.toNat + rest) =
      bytesFrom address data first.toNat ++ bytesFrom (address + first) (data + first) rest := by
  have moved : (address + first).toNat = address.toNat + first.toNat := by
    rw [UInt32.toNat_add]
    exact Nat.mod_eq_of_lt noWrap
  rw [bytesFrom, bytesFrom, bytesFrom, List.range_add, List.map_append, List.map_map, moved]
  congr 1
  apply List.map_congr_left
  intro i _
  rw [Function.comp_apply, UInt32.ofNat_add, UInt32.ofNat_toNat, Nat.add_assoc, add_assoc]

/-! ## One iteration -/

/-- The bytes that an iteration takes: what is left of the page, or of the operation. -/
theorem toNat_bytesToWrite (pages : WholePages config) (cursor : Cursor) :
    (bytesToWrite config cursor).toNat =
      min cursor.len.toNat
        (config.pageSize.toNat - cursor.address.toNat % config.pageSize.toNat) := by
  rcases pages.isPowerOfTwo with ⟨log, power⟩
  have positive : 0 < config.pageSize.toNat := by
    rw [power]
    exact Nat.two_pow_pos log
  have one : 1 ≤ config.pageSize := UInt32.le_iff_toNat_le.mpr positive
  have offset : (cursor.address &&& (config.pageSize - 1)).toNat =
      cursor.address.toNat % config.pageSize.toNat := by
    rw [UInt32.toNat_and, UInt32.toNat_sub_of_le _ _ one, power]
    exact Nat.and_two_pow_sub_one_eq_mod _ log
  have below := Nat.mod_lt cursor.address.toNat positive
  have most : (config.pageSize - (cursor.address &&& (config.pageSize - 1))).toNat =
      config.pageSize.toNat - cursor.address.toNat % config.pageSize.toNat := by
    rw [UInt32.toNat_sub_of_le _ _ (UInt32.le_iff_toNat_le.mpr (by rw [offset]; exact below.le)),
      offset]
  unfold bytesToWrite
  dsimp only
  split
  · next fits =>
      rw [UInt32.le_iff_toNat_le, most] at fits
      exact (Nat.min_eq_left fits).symm
  · next more =>
      rw [UInt32.le_iff_toNat_le, most, not_le] at more
      rw [most]
      exact (Nat.min_eq_right more.le).symm

/-- An iteration below the end of the flash programs a piece and moves on behind it. -/
theorem iteration_write (isWrite : op.op = .write) {cursor : Cursor} (more : cursor.len ≠ 0)
    (inside : cursor.address < config.flashSize) :
    op.iteration config cursor =
      some (PageWrite.program ⟨cursor.address, cursor.data, bytesToWrite config cursor⟩,
        { data := cursor.data + bytesToWrite config cursor
          address := cursor.address + bytesToWrite config cursor
          len := cursor.len - bytesToWrite config cursor }) := by
  rw [OpReq.iteration, if_neg more, isWrite]
  exact if_neg (UInt32.not_le.mpr inside)

theorem iteration_write_ends (isWrite : op.op = .write) {cursor : Cursor}
    (ends : cursor.len = 0 ∨ config.flashSize ≤ cursor.address) :
    op.iteration config cursor = none := by
  rw [OpReq.iteration, isWrite]
  by_cases done : cursor.len = 0
  · exact if_pos done
  · rw [if_neg done]
    exact if_pos (ends.resolve_left done)

/-- From a page boundary on there is no page that the end of the flash cuts. -/
theorem pageEnd_le {page size address : Nat} (whole : page ∣ size) (inside : address < size) :
    address + (page - address % page) ≤ size := by
  rcases whole with ⟨count, rfl⟩
  have positive : 0 < page := Nat.pos_of_mul_pos_right (Nat.zero_lt_of_lt inside)
  have split_ := Nat.div_add_mod address page
  have below := Nat.mod_lt address positive
  have quotient : address / page + 1 ≤ count := Nat.div_lt_of_lt_mul inside
  calc address + (page - address % page) = page * (address / page + 1) := by
        rw [Nat.mul_add, Nat.mul_one]
        omega
    _ ≤ page * count := Nat.mul_le_mul_left page quotient

/-- The bytes of an iteration are some, in one page, in the operation and in the flash. -/
theorem bytesToWrite_fits (pages : WholePages config) {cursor : Cursor} (more : cursor.len ≠ 0)
    (inside : cursor.address < config.flashSize) :
    0 < (bytesToWrite config cursor).toNat ∧
      cursor.address.toNat % config.pageSize.toNat + (bytesToWrite config cursor).toNat ≤
        config.pageSize.toNat ∧
      (bytesToWrite config cursor).toNat ≤ cursor.len.toNat ∧
      cursor.address.toNat + (bytesToWrite config cursor).toNat ≤ config.flashSize.toNat := by
  have positive : 0 < config.pageSize.toNat := by
    rcases pages.isPowerOfTwo with ⟨log, power⟩
    rw [power]
    exact Nat.two_pow_pos log
  have some_ : 0 < cursor.len.toNat :=
    Nat.pos_of_ne_zero fun zero => more (UInt32.toNat.inj zero)
  have below := Nat.mod_lt cursor.address.toNat positive
  have pageEnd := pageEnd_le pages.whole (UInt32.lt_iff_toNat_lt.mp inside)
  rw [toNat_bytesToWrite pages]
  refine ⟨lt_min some_ (Nat.sub_pos_of_lt below), ?_, Nat.min_le_left _ _, ?_⟩
  · exact (Nat.add_le_add_left (Nat.min_le_right _ _) _).trans (Nat.add_sub_cancel' below.le).le
  · exact (Nat.add_le_add_left (Nat.min_le_right _ _) _).trans pageEnd

/-- The bytes below the end of the flash are the first ones and those behind them. -/
theorem count_split {address len taken size : Nat} (fits : taken ≤ len)
    (inFlash : address + taken ≤ size) :
    min (address + len) size - address =
      taken + (min (address + taken + (len - taken)) size - (address + taken)) := by
  omega

/-! ## The loop -/

/-- The loop programs what is left of the operation. -/
theorem loopCalls_write (isWrite : op.op = .write) (pages : WholePages config) {fuel : Nat}
    {cursor : Cursor} (noWrap : cursor.address.toNat + cursor.len.toNat < 2 ^ 32)
    (enough : cursor.len.toNat < fuel) :
    ∃ calls pieces, loopCalls (op.iteration config) fuel cursor = some calls ∧
      WritesRight config cursor calls pieces := by
  induction fuel generalizing cursor with
  | zero => exact absurd enough (Nat.not_lt_zero _)
  | succ fuel ih =>
      by_cases ends : cursor.len = 0 ∨ config.flashSize ≤ cursor.address
      · have nothing : min (cursor.address.toNat + cursor.len.toNat) config.flashSize.toNat -
            cursor.address.toNat = 0 := by
          rcases ends with done | behind
          · rw [done]
            exact Nat.sub_eq_zero_of_le (Nat.min_le_left _ _)
          · exact Nat.sub_eq_zero_of_le
              ((Nat.min_le_right _ _).trans (UInt32.le_iff_toNat_le.mp behind))
        refine ⟨[], [], loopCalls_of_none (iteration_write_ends isWrite ends) fuel, ?_⟩
        constructor
        case programs => rfl
        case inPage =>
          intro piece isIn
          cases isIn
        case exactly =>
          rw [nothing]
          rfl
      · rw [not_or, UInt32.not_le] at ends
        rcases ends with ⟨more, inside⟩
        have turn : op.iteration config cursor = _ := iteration_write isWrite more inside
        rcases bytesToWrite_fits pages more inside with ⟨positive, inPage, fits, inFlash⟩
        generalize bytesToWrite config cursor = taken at *
        have reaches : cursor.address.toNat + taken.toNat < 2 ^ 32 :=
          (Nat.add_le_add_left fits _).trans_lt noWrap
        have moved : (cursor.address + taken).toNat = cursor.address.toNat + taken.toNat := by
          rw [UInt32.toNat_add]
          exact Nat.mod_eq_of_lt reaches
        have left : (cursor.len - taken).toNat = cursor.len.toNat - taken.toNat :=
          UInt32.toNat_sub_of_le _ _ (UInt32.le_iff_toNat_le.mpr fits)
        have stillNoWrap :
            (cursor.address + taken).toNat + (cursor.len - taken).toNat < 2 ^ 32 := by
          rw [moved, left, Nat.add_assoc, Nat.add_sub_cancel' fits]
          exact noWrap
        have fewer : (cursor.len - taken).toNat < fuel := by
          rw [left]
          exact (Nat.sub_lt (positive.trans_le fits) positive).trans_le (Nat.le_of_lt_succ enough)
        rcases @ih ⟨cursor.data + taken, cursor.address + taken, cursor.len - taken⟩
          stillNoWrap fewer with ⟨calls, pieces, rest, right⟩
        refine ⟨_, ⟨cursor.address, cursor.data, taken⟩ :: pieces,
          (loopCalls_of_some turn fuel).trans (by rw [rest]; rfl), ?_⟩
        constructor
        case programs => rw [right.programs, List.flatMap_cons]
        case inPage =>
          intro piece isIn
          rcases List.mem_cons.mp isIn with rfl | isIn
          · exact ⟨positive, inPage⟩
          · exact right.inPage piece isIn
        case exactly =>
          rw [List.flatMap_cons, right.exactly]
          dsimp only
          rw [← bytesFrom_add _ _ _ reaches, moved, left, ← count_split fits inFlash]

/-- A write whose range does not wrap ends, and programs its bytes below the end of the flash
page by page. -/
theorem write_right (isWrite : op.op = .write) (pages : WholePages config)
    (noWrap : op.address.toNat + op.len.toNat < 2 ^ 32) :
    ∃ fuel calls pieces, op.calls config fuel = some calls ∧
      WritesRight config op.cursor calls pieces := by
  have start : op.begin config = ([], op.cursor) := by
    rw [OpReq.begin, isWrite]
  rcases @loopCalls_write _ _ isWrite pages _ op.cursor noWrap (Nat.lt_succ_self _) with
    ⟨calls, pieces, ends, right⟩
  refine ⟨op.len.toNat + 1, calls, pieces, ?_, right⟩
  rw [OpReq.calls, start]
  exact congrArg (Option.map ([] ++ ·)) ends

/-- A write over a page boundary to the end of a small flash. -/
theorem twoPages_written :
    ∃ (config : Config) (op : OpReq), op.address = 0xff8 ∧ op.len = 0x200 ∧
      config.flashSize = 0x1100 ∧ config.pageSize = 0x100 ∧
      ∃ fuel calls pieces, op.calls config fuel = some calls ∧
        WritesRight config op.cursor calls pieces :=
  ⟨{ flashSize := 0x1100, pageSize := 0x100, opTaskPriority := 0 },
    { op := .write, data := 0, address := 0xff8, len := 0x200, priority := 0 }, rfl, rfl, rfl, rfl,
    write_right rfl ⟨⟨8, rfl⟩, by decide⟩ (by decide)⟩

end FwkRtos.QspiFlash

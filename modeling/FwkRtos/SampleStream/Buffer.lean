import FwkRtos.Ring.Content

/-!
# Sample buffers

The buffer between an interrupt-level producer or consumer of samples and the
task at its other end, as the I2S and the microphone array drivers have it: a
block of memory used as a ring, an index for each end, and two counters of 32
bits that only grow.
-/

namespace FwkRtos.SampleStream

open FwkRtos.Ring

/-- A sample, `int32_t`. -/
abbrev Sample := Int32

/-- `recv_buffer` or `send_buffer` of a driver. -/
structure SampleBuffer where
  buf : List Sample
  bufSize : UInt32
  writeIndex : UInt32
  readIndex : UInt32
  totalWritten : UInt32
  totalRead : UInt32
  /-- `required_available_count` of a `recv_buffer`, `required_free_count` of a
  `send_buffer`. -/
  required : UInt32
  deriving DecidableEq

/-- An index after `count` words. -/
def stepIndex (index count size : UInt32) : UInt32 :=
  if size ≤ index + count then 0 else index + count

theorem toNat_stepIndex {index count size : UInt32}
    (small : index.toNat + count.toNat < 2 ^ 32) :
    (stepIndex index count size).toNat = advance index.toNat count.toNat size.toNat := by
  have sum : (index + count).toNat = index.toNat + count.toNat := by
    rw [UInt32.toNat_add, Nat.mod_eq_of_lt small]
  simp only [stepIndex, advance, UInt32.le_iff_toNat_le, sum]
  split
  · rfl
  · exact sum

namespace SampleBuffer

/-- A buffer of `bufSize` words, in memory of which nothing is known.  The
allocator is asked for `buf_size * sizeof(int32_t)` bytes. -/
def create (memory : Nat → Sample) (bufSize : UInt32) : SampleBuffer where
  buf := (List.range ((bufSize * 4).toNat / 4)).map memory
  bufSize := bufSize
  writeIndex := 0
  readIndex := 0
  totalWritten := 0
  totalRead := 0
  required := 0

variable (buffer : SampleBuffer)

/-- `total_written - total_read`. -/
def wordsAvailable : UInt32 :=
  buffer.totalWritten - buffer.totalRead

/-- `buf_size - (total_written - total_read)`. -/
def wordsFree : UInt32 :=
  buffer.bufSize - buffer.wordsAvailable

/-- Copy words to the write index and move the index on. -/
def store (words : List Sample) (count : UInt32) : SampleBuffer :=
  { buffer with
    buf := write buffer.buf buffer.writeIndex.toNat words
    writeIndex := stepIndex buffer.writeIndex count buffer.bufSize }

/-- The words from the read index on. -/
def fetch (count : UInt32) : List Sample :=
  read buffer.buf buffer.readIndex.toNat count.toNat

/-- Move the read index on. -/
def skip (count : UInt32) : SampleBuffer :=
  { buffer with readIndex := stepIndex buffer.readIndex count buffer.bufSize }

/-- `total_written += count`. -/
def addWritten (count : UInt32) : SampleBuffer :=
  { buffer with totalWritten := buffer.totalWritten + count }

/-- `total_read += count`. -/
def addRead (count : UInt32) : SampleBuffer :=
  { buffer with totalRead := buffer.totalRead + count }

/-- Set the required count. -/
def require (count : UInt32) : SampleBuffer :=
  { buffer with required := count }

@[simp]
theorem length_fetch (count : UInt32) : (buffer.fetch count).length = count.toNat := by
  simp [fetch]

end SampleBuffer

/-! ## The stream in a buffer -/

/-- How far one end of the buffer is: the words it has moved but not yet added to
its counter, and how many more it may move. -/
structure Moving where
  moved : List Sample
  left : Nat

/-- An end that moves nothing. -/
def still : Moving := ⟨[], 0⟩

/-- The buffer carries the stream: `written` and `read` are all words that the
counters count, `writing` and `reading` say how far the two ends are beyond
them. -/
structure SampleBuffer.Carries (buffer : SampleBuffer) (written : List Sample) (writing : Moving)
    (read : List Sample) (reading : Moving) : Prop where
  small : buffer.bufSize.toNat < 2 ^ 30
  block : buffer.buf.length = buffer.bufSize.toNat
  writeIndex : buffer.writeIndex.toNat =
    (written.length + writing.moved.length) % buffer.bufSize.toNat
  readIndex : buffer.readIndex.toNat = (read.length + reading.moved.length) % buffer.bufSize.toNat
  totalWritten : buffer.totalWritten = UInt32.ofNat written.length
  totalRead : buffer.totalRead = UInt32.ofNat read.length
  inOrder : read ++ reading.moved <+: written
  available : read.length + reading.moved.length + reading.left ≤ written.length
  free : written.length + writing.moved.length + writing.left ≤
    read.length + buffer.bufSize.toNat
  content : Holds buffer.buf buffer.bufSize.toNat (written ++ writing.moved) read.length

namespace SampleBuffer

/-- A new buffer whose block has room for its words carries the empty stream. -/
theorem carries_create (memory : Nat → Sample) {bufSize : UInt32}
    (small : bufSize.toNat < 2 ^ 30) :
    (create memory bufSize).Carries [] still [] still where
  small := small
  block := by
    have bytes : (bufSize * 4).toNat = bufSize.toNat * 4 := by
      rw [UInt32.toNat_mul]
      exact Nat.mod_eq_of_lt (by rw [show (4 : UInt32).toNat = 4 from rfl]; omega)
    simp [create, bytes]
  writeIndex := (Nat.zero_mod _).symm
  readIndex := (Nat.zero_mod _).symm
  totalWritten := rfl
  totalRead := rfl
  inOrder := List.prefix_refl []
  available := Nat.le_refl 0
  free := Nat.zero_le _
  content := holds_of_length_le (Nat.le_refl 0)

namespace Carries

variable {buffer : SampleBuffer} {written read : List Sample} {writing reading : Moving}

theorem read_le (carries : buffer.Carries written writing read reading) :
    read.length ≤ written.length := by
  have := carries.available
  omega

theorem written_le (carries : buffer.Carries written writing read reading) :
    written.length ≤ read.length + buffer.bufSize.toNat := by
  have := carries.free
  omega

theorem toNat_wordsAvailable (carries : buffer.Carries written writing read reading) :
    buffer.wordsAvailable.toNat = written.length - read.length := by
  have small := carries.small
  have most := carries.written_le
  rw [wordsAvailable, carries.totalWritten, carries.totalRead]
  exact toNat_ofNat_sub_ofNat carries.read_le (by omega)

theorem toNat_wordsFree (carries : buffer.Carries written writing read reading) :
    buffer.wordsFree.toNat = buffer.bufSize.toNat - (written.length - read.length) := by
  have most := carries.written_le
  have fits : buffer.wordsAvailable ≤ buffer.bufSize := by
    rw [UInt32.le_iff_toNat_le, carries.toNat_wordsAvailable]
    omega
  rw [wordsFree, UInt32.toNat_sub_of_le _ _ fits, carries.toNat_wordsAvailable]

theorem wordsAvailable_le (carries : buffer.Carries written writing read reading) :
    buffer.wordsAvailable ≤ buffer.bufSize := by
  have most := carries.written_le
  rw [UInt32.le_iff_toNat_le, carries.toNat_wordsAvailable]
  omega

/-- A writer with room left is at a cell of the block. -/
theorem writeIndex_lt (carries : buffer.Carries written writing read reading)
    (room : 0 < writing.left) : buffer.writeIndex.toNat < buffer.bufSize.toNat := by
  have order := carries.read_le
  have free := carries.free
  rw [carries.writeIndex]
  exact Nat.mod_lt _ (by omega)

/-- A reader with words left to take is at a cell of the block. -/
theorem readIndex_lt (carries : buffer.Carries written writing read reading)
    (claimed : 0 < reading.left) : buffer.readIndex.toNat < buffer.bufSize.toNat := by
  have available := carries.available
  have most := carries.written_le
  rw [carries.readIndex]
  exact Nat.mod_lt _ (by omega)

/-- The writer starts to fill words that are free. -/
theorem reserve (carries : buffer.Carries written still read reading) {room : UInt32}
    (free : room ≤ buffer.wordsFree) :
    buffer.Carries written ⟨[], room.toNat⟩ read reading :=
  { carries with
    free := by
      have fits := UInt32.le_iff_toNat_le.mp free
      rw [carries.toNat_wordsFree] at fits
      have most := carries.written_le
      show written.length + 0 + room.toNat ≤ _
      omega }

/-- The reader starts to take words that are available. -/
theorem claim (carries : buffer.Carries written writing read still) {count : UInt32}
    (available : count ≤ buffer.wordsAvailable) :
    buffer.Carries written writing read ⟨[], count.toNat⟩ :=
  { carries with
    available := by
      have fits := UInt32.le_iff_toNat_le.mp available
      rw [carries.toNat_wordsAvailable] at fits
      have order := carries.read_le
      show read.length + 0 + count.toNat ≤ _
      omega }

/-- The writer copies a piece into the room that it has. -/
theorem store (carries : buffer.Carries written writing read reading) {words : List Sample}
    {count : UInt32} (counted : words.length = count.toNat) (room : words.length ≤ writing.left)
    (within : buffer.writeIndex.toNat + words.length ≤ buffer.bufSize.toNat) :
    (buffer.store words count).Carries written
      ⟨writing.moved ++ words, writing.left - words.length⟩ read reading :=
  have small := carries.small
  have free := carries.free
  { carries with
    block := by simp [SampleBuffer.store, carries.block]
    writeIndex := by
      rw [carries.writeIndex] at within
      rw [SampleBuffer.store, toNat_stepIndex (by rw [carries.writeIndex]; omega),
        carries.writeIndex, ← counted, advance_mod within, List.length_append, Nat.add_assoc]
    free := by
      show written.length + (writing.moved ++ words).length + (writing.left - words.length) ≤
        read.length + buffer.bufSize.toNat
      rw [List.length_append]
      omega
    content := by
      have content := carries.content
      show Holds (write buffer.buf buffer.writeIndex.toNat words) buffer.bufSize.toNat
        (written ++ (writing.moved ++ words)) read.length
      rw [carries.writeIndex, ← List.length_append, ← carries.block] at within
      rw [carries.writeIndex, ← List.length_append, ← List.append_assoc]
      rw [← carries.block] at content free ⊢
      exact content.write (by rw [List.length_append]; omega) within }

/-- The words that the writer has stored become available. -/
theorem addWritten (carries : buffer.Carries written writing read reading) {count : UInt32}
    (counted : writing.moved.length = count.toNat) :
    (buffer.addWritten count).Carries (written ++ writing.moved) still read reading :=
  { carries with
    writeIndex := by
      rw [List.length_append]
      exact carries.writeIndex
    totalWritten := by
      rw [SampleBuffer.addWritten, carries.totalWritten, ofNat_add_ofNat_toNat, List.length_append,
        counted]
    inOrder := carries.inOrder.trans (List.prefix_append _ _)
    available := by
      have available := carries.available
      rw [List.length_append]
      omega
    free := by
      have free := carries.free
      show (written ++ writing.moved).length + 0 + 0 ≤ read.length + buffer.bufSize.toNat
      rw [List.length_append]
      omega
    content := by
      show Holds buffer.buf buffer.bufSize.toNat (written ++ writing.moved ++ []) read.length
      rw [List.append_nil]
      exact carries.content }

/-- What the reader finds at its index are the next words of the stream. -/
theorem fetch_eq (carries : buffer.Carries written writing read reading) {count : UInt32}
    (claimed : count.toNat ≤ reading.left)
    (within : buffer.readIndex.toNat + count.toNat ≤ buffer.bufSize.toNat) :
    buffer.fetch count =
      (written.drop (read.length + reading.moved.length)).take count.toNat := by
  have available := carries.available
  rw [carries.readIndex] at within
  rw [fetch, carries.readIndex, carries.content.read (Nat.le_add_right _ _)
    (by rw [List.length_append]; omega) within, List.drop_append_of_le_length (by omega),
    List.take_append_of_le_length (by rw [List.length_drop]; omega)]

/-- The reader copies a piece of what it has claimed. -/
theorem skip (carries : buffer.Carries written writing read reading) {count : UInt32}
    (claimed : count.toNat ≤ reading.left)
    (within : buffer.readIndex.toNat + count.toNat ≤ buffer.bufSize.toNat) :
    (buffer.skip count).Carries written writing read
      ⟨reading.moved ++ buffer.fetch count, reading.left - count.toNat⟩ :=
  have available := carries.available
  have small := carries.small
  { carries with
    readIndex := by
      rw [carries.readIndex] at within
      rw [SampleBuffer.skip, toNat_stepIndex (by rw [carries.readIndex]; omega),
        carries.readIndex, advance_mod within, List.length_append, length_fetch, Nat.add_assoc]
    inOrder := by
      obtain ⟨rest, whole⟩ := carries.inOrder
      have next : (written.drop (read.length + reading.moved.length)) = rest := by
        rw [← whole, ← List.length_append, List.drop_left]
      show read ++ (reading.moved ++ buffer.fetch count) <+: written
      rw [carries.fetch_eq claimed within, next, ← List.append_assoc]
      conv_rhs => rw [← whole]
      exact (List.prefix_append_right_inj _).mpr (List.take_prefix _ _)
    available := by
      show read.length + (reading.moved ++ buffer.fetch count).length +
        (reading.left - count.toNat) ≤ written.length
      rw [List.length_append, length_fetch]
      omega }

/-- The cells that the reader has copied become free. -/
theorem addRead (carries : buffer.Carries written writing read reading) {count : UInt32}
    (counted : reading.moved.length = count.toNat) :
    (buffer.addRead count).Carries written writing (read ++ reading.moved) still :=
  { carries with
    readIndex := by
      rw [List.length_append]
      exact carries.readIndex
    totalRead := by
      rw [SampleBuffer.addRead, carries.totalRead, ofNat_add_ofNat_toNat, List.length_append,
        counted]
    inOrder := by
      show read ++ reading.moved ++ [] <+: written
      rw [List.append_nil]
      exact carries.inOrder
    available := by
      have available := carries.available
      show (read ++ reading.moved).length + 0 + 0 ≤ written.length
      rw [List.length_append]
      omega
    free := by
      have free := carries.free
      show written.length + writing.moved.length + writing.left ≤
        (read ++ reading.moved).length + buffer.bufSize.toNat
      rw [List.length_append]
      omega
    content := carries.content.later (by rw [List.length_append]; omega) }

/-- The required count has no part in the stream. -/
theorem require (carries : buffer.Carries written writing read reading) (count : UInt32) :
    (buffer.require count).Carries written writing read reading :=
  { carries with }

end Carries

end SampleBuffer

end FwkRtos.SampleStream

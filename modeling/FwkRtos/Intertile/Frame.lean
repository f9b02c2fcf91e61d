import FwkRtos.Bytes.LittleEndian

/-!
# Messages on an intertile link

A message is a port number, a word with its length, and its bytes.  A word goes over the
channel with its most significant byte first.
-/

namespace FwkRtos.Intertile

open FwkRtos.Bytes

/-- What `s_chan_out_word` puts on the channel. -/
def wordBytes (word : UInt32) : List UInt8 :=
  (leBytes 4 word.toNat).reverse

/-- What `s_chan_in_word` makes of four bytes. -/
def wordOfBytes (bytes : List UInt8) : UInt32 :=
  UInt32.ofNat (leValue bytes.reverse)

@[simp]
theorem length_wordBytes (word : UInt32) : (wordBytes word).length = 4 := by
  simp [wordBytes]

@[simp]
theorem wordOfBytes_wordBytes (word : UInt32) : wordOfBytes (wordBytes word) = word := by
  rw [wordOfBytes, wordBytes, List.reverse_reverse, leValue_leBytes word.toNat_lt,
    UInt32.ofNat_toNat]

/-- A message for the listener of a port; its length is a `size_t`. -/
structure Message where
  port : UInt8
  bytes : List UInt8
  fits : bytes.length < 2 ^ 32
  deriving DecidableEq

/-- The length as the driver has it. -/
def Message.len (message : Message) : UInt32 :=
  UInt32.ofNat message.bytes.length

theorem Message.toNat_len (message : Message) : message.len.toNat = message.bytes.length := by
  rw [Message.len, UInt32.toNat_ofNat', Nat.mod_eq_of_lt message.fits]

/-- A whole message on the channel. -/
def Message.frame (message : Message) : List UInt8 :=
  message.port :: (wordBytes message.len ++ message.bytes)

end FwkRtos.Intertile

import Mathlib.Data.Nat.Digits.Lemmas

/-!
# Little-endian bytes

Numbers as byte strings of a fixed width, least significant byte first.
-/

namespace FwkRtos.Bytes

/-- The value of a byte string. -/
def leValue (bytes : List UInt8) : Nat :=
  Nat.ofDigits 256 (bytes.map UInt8.toNat)

/-- The lowest `width` bytes of a value. -/
def leBytes : Nat → Nat → List UInt8
  | 0, _ => []
  | width + 1, value => UInt8.ofNat value :: leBytes width (value / 256)

@[simp]
theorem leValue_nil : leValue [] = 0 :=
  rfl

@[simp]
theorem leValue_cons (byte : UInt8) (bytes : List UInt8) :
    leValue (byte :: bytes) = byte.toNat + 256 * leValue bytes := by
  simp [leValue, Nat.ofDigits_cons]

@[simp]
theorem length_leBytes (width value : Nat) : (leBytes width value).length = width := by
  induction width generalizing value with
  | zero => rfl
  | succ width ih => simp [leBytes, ih]

theorem leValue_lt (bytes : List UInt8) : leValue bytes < 256 ^ bytes.length := by
  have digits : ∀ digit ∈ bytes.map UInt8.toNat, digit < 256 := by
    intro digit member
    obtain ⟨byte, _, rfl⟩ := List.mem_map.mp member
    exact byte.toNat_lt
  simpa [leValue] using Nat.ofDigits_lt_base_pow_length (by decide) digits

/-- A value that fits its width is read back. -/
theorem leValue_leBytes {width value : Nat} (fits : value < 256 ^ width) :
    leValue (leBytes width value) = value := by
  induction width generalizing value with
  | zero =>
      have : value = 0 := by simpa using fits
      simp [leBytes, this]
  | succ width ih =>
      have quotient : value / 256 < 256 ^ width := by
        rw [Nat.pow_succ] at fits
        exact Nat.div_lt_of_lt_mul (by rwa [Nat.mul_comm])
      rw [leBytes, leValue_cons, ih quotient, UInt8.toNat_ofNat']
      exact Nat.mod_add_div value 256

/-- A byte string is the encoding of its own value. -/
theorem leBytes_leValue (bytes : List UInt8) : leBytes bytes.length (leValue bytes) = bytes := by
  induction bytes with
  | nil => rfl
  | cons byte bytes ih =>
      have low : UInt8.ofNat (byte.toNat + 256 * leValue bytes) = byte := by
        apply UInt8.toNat_inj.mp
        rw [UInt8.toNat_ofNat', Nat.add_mul_mod_self_left]
        exact Nat.mod_eq_of_lt byte.toNat_lt
      have high : (byte.toNat + 256 * leValue bytes) / 256 = leValue bytes := by
        rw [Nat.add_mul_div_left _ _ (by decide), Nat.div_eq_of_lt byte.toNat_lt, Nat.zero_add]
      rw [leValue_cons, List.length_cons, leBytes, low, high, ih]

end FwkRtos.Bytes

import Mathlib.Data.List.Induction
import Mathlib.Tactic.Ring

/-!
# Fixed-width big-endian numerals

A natural number is written as its low `width` base-256 digits, most significant
first, and a byte string is read back as a base-256 numeral. Writing truncates:
the numeral of a larger number keeps only its low digits, as a slice of the
trailing bytes of a machine word does. Both directions are exact on the numbers
and byte strings of the width, which is what a codec needs.
-/

namespace BigEndian

open List

/-- The low `width` base-256 digits of a number, most significant digit first. -/
def encode : Nat → Nat → List UInt8
  | 0, _ => []
  | width + 1, number => encode width (number / 256) ++ [UInt8.ofNat (number % 256)]

/-- Read a byte string as a base-256 numeral. -/
def decode (bytes : List UInt8) : Nat :=
  bytes.foldl (fun value byte => value * 256 + byte.toNat) 0

variable (width : Nat) (bytes : List UInt8) (number : Nat)

/-- A numeral occupies exactly its width, whatever the number. -/
@[simp] theorem encode_length : (encode width number).length = width := by
  induction width generalizing number with
  | zero => rfl
  | succ width ih => simp [encode, ih]

@[simp] theorem decode_nil : decode [] = 0 := rfl

/-- Appending a least significant digit. -/
theorem decode_append_singleton (byte : UInt8) :
    decode (bytes ++ [byte]) = decode bytes * 256 + byte.toNat := by
  simp [decode]

/-- Reading a written numeral returns the number modulo the width's range. -/
theorem decode_encode : decode (encode width number) = number % 256 ^ width := by
  induction width generalizing number with
  | zero => simp [encode, Nat.mod_one]
  | succ width ih =>
    rw [encode, decode_append_singleton, ih]
    have digit : (UInt8.ofNat (number % 256)).toNat = number % 256 := by
      simp [UInt8.toNat_ofNat']
    rw [digit, pow_succ, Nat.mul_comm (256 ^ width) 256, Nat.mod_mul]
    ring

/-- A number inside the width's range survives the round trip. -/
theorem decode_encode_of_lt (bounded : number < 256 ^ width) :
    decode (encode width number) = number := by
  rw [decode_encode, Nat.mod_eq_of_lt bounded]

/-- The value of a byte string lies in the range of its length. -/
theorem decode_lt : decode bytes < 256 ^ bytes.length := by
  induction bytes using List.reverseRecOn with
  | nil => simp
  | append_singleton bytes byte ih =>
    rw [decode_append_singleton, length_append, length_singleton, pow_succ]
    have digit : byte.toNat < 256 := byte.toNat_lt
    omega

/-- Writing a byte string's value at its own width restores the byte string. -/
theorem encode_decode : encode bytes.length (decode bytes) = bytes := by
  induction bytes using List.reverseRecOn with
  | nil => rfl
  | append_singleton bytes byte ih =>
    have digit : byte.toNat < 256 := byte.toNat_lt
    rw [length_append, length_singleton, encode, decode_append_singleton]
    have quotient : (decode bytes * 256 + byte.toNat) / 256 = decode bytes := by omega
    have remainder : (decode bytes * 256 + byte.toNat) % 256 = byte.toNat := by omega
    rw [quotient, remainder, ih]
    simp

/-- Distinct numbers of the range have distinct numerals. -/
theorem encode_injective (first second : Nat) (firstBounded : first < 256 ^ width)
    (secondBounded : second < 256 ^ width) (same : encode width first = encode width second) :
    first = second := by
  rw [← decode_encode_of_lt width first firstBounded, same,
    decode_encode_of_lt width second secondBounded]

end BigEndian

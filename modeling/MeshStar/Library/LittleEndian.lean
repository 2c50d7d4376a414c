import MeshStar.Library.BigEndian

/-!
# Fixed-width little-endian numerals

The big-endian numerals read from the other end: the least significant digit comes first.
-/

namespace LittleEndian

open List

/-- The low `width` base-256 digits of a number, least significant digit first. -/
def encode (width number : Nat) : List UInt8 := (BigEndian.encode width number).reverse

/-- Read a byte string as a base-256 numeral, least significant digit first. -/
def decode (bytes : List UInt8) : Nat := BigEndian.decode bytes.reverse

@[simp] theorem encode_length (width number : Nat) : (encode width number).length = width := by
  simp [encode]

/-- A number inside the width's range survives the round trip. -/
theorem decode_encode_of_lt (width number : Nat) (bounded : number < 256 ^ width) :
    decode (encode width number) = number := by
  rw [decode, encode, reverse_reverse, BigEndian.decode_encode_of_lt width number bounded]

/-- The value of a byte string lies in the range of its length. -/
theorem decode_lt (bytes : List UInt8) : decode bytes < 256 ^ bytes.length := by
  have bound := BigEndian.decode_lt bytes.reverse
  rwa [length_reverse] at bound

/-- Writing a byte string's value at its own width restores the byte string. -/
theorem encode_decode (bytes : List UInt8) : encode bytes.length (decode bytes) = bytes := by
  have restored := BigEndian.encode_decode bytes.reverse
  rw [length_reverse] at restored
  rw [encode, decode, restored, reverse_reverse]

end LittleEndian

import Mathlib.Data.List.Basic

/-!
# Texts and their UTF-8 bytes

A text is its list of characters; a byte string holds a text when it is the encoding of
one. Encoding and decoding are those of the core library, read as lists. A text is cut at a
number of bytes by dropping every character that does not fit before it. Of a damaged byte
string the characters in front of the damage can be read.

Splitting looks for the first occurrence of a separator.
-/

namespace Utf8

/-- The bytes of a text. -/
def encode (text : List Char) : List UInt8 := text.flatMap String.utf8EncodeChar

/-- The text of a byte string that is the encoding of one. -/
def decode (bytes : List UInt8) : Option (List Char) :=
  bytes.toByteArray.utf8Decode?.map Array.toList

theorem toByteArray_encode (text : List Char) : (encode text).toByteArray = text.utf8Encode := rfl

/-- Decoding what was encoded returns it. -/
@[simp] theorem decode_encode (text : List Char) : decode (encode text) = some text := by
  rw [decode, toByteArray_encode, List.utf8Decode?_utf8Encode]
  rfl

/-- Two texts with the same bytes are the same. -/
theorem encode_injective {first second : List Char} (same : encode first = encode second) :
    first = second := by
  have decoded := congrArg decode same
  rw [decode_encode, decode_encode] at decoded
  exact Option.some.inj decoded

/-- The leading characters that fit in a number of bytes. -/
def takeBytes : Nat → List Char → List Char
  | _, [] => []
  | room, char :: rest =>
    if char.utf8Size ≤ room then char :: takeBytes (room - char.utf8Size) rest else []

/-- What was taken fits. -/
theorem takeBytes_length_le (room : Nat) (text : List Char) :
    (encode (takeBytes room text)).length ≤ room := by
  induction text generalizing room with
  | nil => simp [takeBytes, encode]
  | cons char rest ih =>
    rw [takeBytes]
    split
    · rename_i fits
      have tail := ih (room - char.utf8Size)
      rw [encode, List.flatMap_cons, List.length_append, String.length_utf8EncodeChar]
      unfold encode at tail
      omega
    · exact Nat.zero_le _

/-- The characters of a byte string up to the first that is damaged. -/
def decodeFront : Nat → List UInt8 → List Char
  | 0, _ => []
  | fuel + 1, bytes =>
    match bytes.toByteArray.utf8DecodeChar? 0 with
    | some char => char :: decodeFront fuel (bytes.drop char.utf8Size)
    | none => []

/-- The longest text at the front of a byte string. -/
def longestText (bytes : List UInt8) : List Char :=
  match decode bytes with
  | some text => text
  | none => decodeFront bytes.length bytes

theorem longestText_encode (text : List Char) : longestText (encode text) = text := by
  rw [longestText, decode_encode]

/-- The parts before and after the first occurrence of a separator. -/
def splitOnce (separator : List Char) : List Char → Option (List Char × List Char)
  | [] => if separator.isEmpty then some ([], []) else none
  | char :: rest =>
    if separator.isPrefixOf (char :: rest) then some ([], (char :: rest).drop separator.length)
    else (splitOnce separator rest).map (fun parts => (char :: parts.1, parts.2))

/-- A text without a separator of two different characters ends where the separator
starts. -/
theorem splitOnce_pair {first second : Char} (differ : first ≠ second) {front : List Char}
    (clean : splitOnce [first, second] front = none) (rest : List Char) :
    splitOnce [first, second] (front ++ first :: second :: rest) = some (front, rest) := by
  induction front with
  | nil => simp [splitOnce, List.isPrefixOf]
  | cons char tail ih =>
    rw [splitOnce] at clean
    split at clean
    · cases clean
    · rename_i unlike
      have parts := ih (Option.map_eq_none_iff.mp clean)
      have later : ¬[first, second].isPrefixOf (char :: (tail ++ first :: second :: rest)) := by
        cases tail with
        | nil => simp [List.isPrefixOf, differ.symm]
        | cons next others => simpa [List.isPrefixOf] using unlike
      rw [List.cons_append, splitOnce, if_neg later, parts]
      rfl

end Utf8

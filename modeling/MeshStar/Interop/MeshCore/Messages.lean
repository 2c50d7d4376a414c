import MeshStar.Interop.MeshCore.Crypto
import MeshStar.Interop.MeshCore.Packet
import MeshStar.Interop.Model

/-!
# MeshCore messages

The plaintexts and the datagrams of the payload types that carry messages. A text stands
behind a timestamp and a byte of flags and ends at the first zero, which the padding of the
cipher supplies when the sender does not. On a channel the sender's name is the part in
front of the first colon and space.
-/

namespace MeshStar.MeshCore

open List

variable [Primitives] [BlockCipher]

def maxTextLen : Nat := 160
def maxGroupDataLength : Nat := 165
def datagramHeaderLen : Nat := 4
def groupHeaderLen : Nat := 3
def txtTypePlain : UInt8 := 0
def txtTypeCliData : UInt8 := 1
def txtTypeSignedPlain : UInt8 := 2

/-- A decoded text plaintext. -/
structure TextPlain where
  timestamp : UInt32
  txtType : UInt8
  attempt : UInt8
  authorPrefix : Option Bytes
  text : Text
  ackCovered : Bytes
  deriving DecidableEq

/-- The bytes before the first zero. -/
def beforeNul (bytes : Bytes) : Bytes := bytes.takeWhile (· != 0)

/-- Parse a decrypted text; a signed one names its author in four bytes. -/
def parseTextPlain (plain : Bytes) : Option TextPlain :=
  let flags := plain.getD 4 0
  let signed := flags >>> 2 = txtTypeSignedPlain
  let body := plain.drop 5
  let skipped := if signed then 4 else 0
  let bytes := beforeNul (body.drop skipped)
  if plain.length < 5 then none
  else if signed ∧ body.length < 4 then none
  else some
    { timestamp := UInt32.ofNat (LittleEndian.decode (plain.take 4))
      txtType := flags >>> 2
      attempt := flags &&& 3
      authorPrefix := if signed then some (body.take 4) else none
      text := Utf8.longestText bytes
      ackCovered := plain.take (5 + skipped + bytes.length) }

/-- Compose a text; the sender includes the zero behind it. -/
def composeTextPlain (timestamp : UInt32) (txtType attempt : UInt8) (text : Text) : Option Bytes :=
  if (Utf8.encode text).length > maxTextLen ∨ 0 ∈ Utf8.encode text then none
  else some (LittleEndian.encode 4 timestamp.toNat ++
    ((txtType &&& 0x3F) <<< 2 ||| (attempt &&& 3)) :: (Utf8.encode text ++ [0]))

def buildDatagram (secret : Secret) (destHash srcHash : UInt8) (plaintext : Bytes) :
    Option Bytes :=
  if plaintext.length > maxPlaintextFor (maxPacketPayload - datagramHeaderLen) then none
  else some (destHash :: srcHash :: encryptThenMac secret plaintext)

def splitDatagram (payload : Bytes) : Option (UInt8 × UInt8 × Bytes) :=
  if payload.length ≤ datagramHeaderLen then none
  else some (payload.getD 0 0, payload.getD 1 0, payload.drop 2)

def buildGroupDatagram (secret : Secret) (plaintext : Bytes) : Option Bytes :=
  if plaintext.length > maxPlaintextFor (maxPacketPayload - groupHeaderLen) then none
  else some (channelHash secret.val :: encryptThenMac secret plaintext)

def splitGroupDatagram (payload : Bytes) : Option (UInt8 × Bytes) :=
  if payload.length ≤ groupHeaderLen then none else some (payload.getD 0 0, payload.drop 1)

/-- A decoded channel text. -/
structure GroupText where
  timestamp : UInt32
  senderName : Option Text
  text : Text
  deriving DecidableEq

/-- The separator between the sender's name and the text. -/
def nameSeparator : Text := [':', ' ']

def parseGroupText (plain : Bytes) : Option GroupText :=
  match parseTextPlain plain with
  | none => none
  | some content =>
    if content.txtType ≠ txtTypePlain then none
    else
      match Utf8.splitOnce nameSeparator content.text with
      | some (name, text) => some ⟨content.timestamp, some name, text⟩
      | none => some ⟨content.timestamp, none, content.text⟩

def composeGroupText (timestamp : UInt32) (senderName text : Text) : Option Bytes :=
  let name := Utf8.encode senderName
  if name.length + 2 + (Utf8.encode text).length > maxTextLen ∨ 0 ∈ name ∨ 0 ∈ Utf8.encode text then
    none
  else some (LittleEndian.encode 4 timestamp.toNat ++
    txtTypePlain :: Utf8.encode (senderName ++ nameSeparator ++ text))

/-- Channel data: a type, a length and the bytes. -/
def parseGroupData (plain : Bytes) : Option (UInt16 × Bytes) :=
  let length := (plain.getD 2 0).toNat
  if plain.length < 3 ∨ (plain.drop 3).length < length then none
  else some (UInt16.ofNat (LittleEndian.decode (plain.take 2)), (plain.drop 3).take length)

def composeGroupData (dataType : UInt16) (data : Bytes) : Option Bytes :=
  if data.length > maxGroupDataLength ∨ data.length > 255 then none
  else some (word16 dataType ++ UInt8.ofNat data.length :: data)

def isAckLen (length : Nat) : Bool := length = 4 ∨ length = 6

/-! ## Reading a composed text -/

section

omit [Primitives] [BlockCipher]

/-- Padding ends a text without zeros. -/
theorem beforeNul_padded {bytes : Bytes} (clean : 0 ∉ bytes) (count : Nat) :
    beforeNul (bytes ++ List.replicate count 0) = bytes := by
  have kept : ∀ byte ∈ bytes, (byte != 0) = true := by
    intro byte member
    simp only [bne_iff_ne, ne_eq]
    rintro rfl
    exact clean member
  rw [beforeNul, takeWhile_append_of_pos kept]
  cases count with
  | zero => simp
  | succ count => simp [replicate_succ]

/-- A text behind its timestamp and flags is read back, whatever zeros follow it. -/
theorem parseTextPlain_composed (timestamp : UInt32) {flags : UInt8} {text : Text} {count : Nat}
    (clean : 0 ∉ Utf8.encode text) (unsigned : flags >>> 2 ≠ txtTypeSignedPlain) :
    parseTextPlain (LittleEndian.encode 4 timestamp.toNat ++ flags ::
        (Utf8.encode text ++ List.replicate count 0)) =
      some ⟨timestamp, flags >>> 2, flags &&& 3, none, text,
        LittleEndian.encode 4 timestamp.toNat ++ flags :: Utf8.encode text⟩ := by
  generalize isStamp : LittleEndian.encode 4 timestamp.toNat = stamp
  have length : stamp.length = 4 := by
    rw [← isStamp]
    exact LittleEndian.encode_length 4 _
  have stamped : UInt32.ofNat (LittleEndian.decode stamp) = timestamp := by
    have small : timestamp.toNat < 256 ^ 4 := timestamp.toNat_lt
    rw [← isStamp, LittleEndian.decode_encode_of_lt 4 _ small, UInt32.ofNat_toNat]
  obtain ⟨first, second, third, fourth, rfl⟩ : ∃ first second third fourth,
      stamp = [first, second, third, fourth] := by
    match stamp, length with
    | [first, second, third, fourth], _ => exact ⟨first, second, third, fourth, rfl⟩
  rw [parseTextPlain]
  simp only [cons_append, nil_append, getD_cons_succ, getD_cons_zero, unsigned,
    if_false, drop_succ_cons, drop_zero, false_and, beforeNul_padded clean,
    Utf8.longestText_encode, take_succ_cons, take_zero, stamped]
  rw [if_neg (by simp)]
  have covered : 5 + 0 + (Utf8.encode text).length = (Utf8.encode text).length + 5 := by omega
  rw [covered]
  simp only [take_succ_cons, take_left]

end

end MeshStar.MeshCore

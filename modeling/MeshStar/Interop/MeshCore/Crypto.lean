import MeshStar.Identity
import MeshStar.Library.BlockMode

/-!
# The MeshCore ciphers

Messages are encrypted block by block without a nonce, the last block filled with zeros,
and carry two bytes of a MAC over the ciphertext in front. Nothing records the length of
the plaintext: what is opened is the plaintext with the zeros behind it.
-/

namespace MeshStar

open List FixedBytes

/-- A block cipher with blocks and keys of 16 bytes. -/
class BlockCipher where
  encryptBlock : FixedBytes 16 → FixedBytes 16 → FixedBytes 16
  decryptBlock : FixedBytes 16 → FixedBytes 16 → FixedBytes 16

/-- Decryption of a block inverts its encryption. -/
def BlockCipher.Inverts [BlockCipher] : Prop :=
  ∀ key block : FixedBytes 16, decryptBlock key (encryptBlock key block) = block

namespace MeshCore

variable [Primitives] [BlockCipher]

def cipherBlockSize : Nat := 16
def cipherMacSize : Nat := 2

/-- A 32-byte secret: a key agreement or a zero-extended channel key. -/
abbrev Secret := Bytes32

/-- Key agreement between an Ed25519 key and the key of a peer. -/
def sharedSecret (key : MeshStar.Identity) (peer : Bytes32) : Secret :=
  Primitives.x25519 (Primitives.ed25519ScalarBytes key.seed) (Primitives.ed25519ToMontgomery peer)

/-- The secret of a channel key of 16 or 32 bytes. -/
def groupSecret (psk : Bytes) : Option Secret :=
  if psk.length ≠ 16 ∧ psk.length ≠ 32 then none else some (FixedBytes.ofSlice 32 psk)

/-- The hash byte of a channel; zeros in the upper half are not hashed. -/
def channelHash (secret : Bytes) : UInt8 :=
  let padded := (FixedBytes.ofSlice 32 secret).val
  let length := if (padded.drop 16).all (· == 0) then 16 else 32
  (Primitives.sha256 (padded.take length)).val.headD 0

/-- One block of the cipher, with the leading half of the secret as key. -/
def cipherBlock (cipher : FixedBytes 16 → FixedBytes 16 → FixedBytes 16) (secret : Secret)
    (block : Bytes) : Bytes :=
  (cipher (FixedBytes.ofSlice 16 secret.val) (FixedBytes.ofSlice 16 block)).val

def aesEcbEncrypt (secret : Secret) (plaintext : Bytes) : Bytes :=
  BlockMode.mapBlocks cipherBlockSize (cipherBlock BlockCipher.encryptBlock secret)
    (BlockMode.blockCount cipherBlockSize plaintext.length)
    (BlockMode.padBlocks cipherBlockSize 0 plaintext)

/-- Decrypt whole blocks; the zeros behind the plaintext stay. -/
def aesEcbDecrypt (secret : Secret) (ciphertext : Bytes) : Option Bytes :=
  if ciphertext = [] ∨ ciphertext.length % cipherBlockSize ≠ 0 then none
  else some (BlockMode.mapBlocks cipherBlockSize (cipherBlock BlockCipher.decryptBlock secret)
    (ciphertext.length / cipherBlockSize) ciphertext)

/-- The truncated MAC; the key is filled up to a block of the hash. -/
def mac (secret : Secret) (ciphertext : Bytes) : Bytes :=
  (Primitives.hmacSha256 (secret.val ++ List.replicate 32 0) ciphertext).val.take cipherMacSize

def encryptThenMac (secret : Secret) (plaintext : Bytes) : Bytes :=
  mac secret (aesEcbEncrypt secret plaintext) ++ aesEcbEncrypt secret plaintext

/-- Verify the leading MAC and decrypt. -/
def macThenDecrypt (secret : Secret) (blob : Bytes) : Option Bytes :=
  let ciphertext := blob.drop cipherMacSize
  if blob.length ≤ cipherMacSize then none
  else if ciphertext.length % cipherBlockSize ≠ 0 then none
  else if mac secret ciphertext ≠ blob.take cipherMacSize then none
  else aesEcbDecrypt secret ciphertext

/-- Whether the MAC of a blob verifies. -/
def macMatches (secret : Secret) (blob : Bytes) : Bool :=
  let ciphertext := blob.drop cipherMacSize
  blob.length > cipherMacSize && ciphertext.length % cipherBlockSize = 0 &&
    mac secret ciphertext = blob.take cipherMacSize

/-- What acknowledges a text: a hash of the covered bytes and the author's key. -/
def ackCode (covered : Bytes) (author : Bytes32) : Bytes :=
  (Primitives.sha256 (covered ++ author.val)).val.take 4

/-- The largest plaintext whose blob fits a number of bytes. -/
def maxPlaintextFor (budget : Nat) : Nat :=
  (budget - cipherMacSize) / cipherBlockSize * cipherBlockSize

/-! ## Opening what was sealed -/

section

omit [Primitives] [BlockCipher]

theorem ofSlice_whole {size : Nat} {bytes : Bytes} (whole : bytes.length = size) :
    FixedBytes.ofSlice size bytes = ⟨bytes, whole⟩ := by
  have same := ofSlice_append (⟨bytes, whole⟩ : FixedBytes size) []
  rwa [append_nil] at same

theorem cipherBlock_length {cipher : FixedBytes 16 → FixedBytes 16 → FixedBytes 16}
    (secret : Secret) (block : Bytes) : (cipherBlock cipher secret block).length = 16 := length_val

end

omit [Primitives] in
theorem aesEcbEncrypt_length (secret : Secret) (plaintext : Bytes) :
    (aesEcbEncrypt secret plaintext).length =
      BlockMode.blockCount cipherBlockSize plaintext.length * cipherBlockSize :=
  BlockMode.mapBlocks_length (fun block _ => cipherBlock_length secret block) _
    (BlockMode.padBlocks_length (by decide) 0 plaintext)

omit [Primitives] in
/-- The cipher gives the padded plaintext back. -/
theorem aesEcbDecrypt_encrypt (inverts : BlockCipher.Inverts) (secret : Secret) {plaintext : Bytes}
    (someByte : plaintext ≠ []) : aesEcbDecrypt secret (aesEcbEncrypt secret plaintext) =
      some (BlockMode.padBlocks cipherBlockSize 0 plaintext) := by
  have length := aesEcbEncrypt_length secret plaintext
  have long : 0 < plaintext.length := length_pos_iff.mpr someByte
  have positive : 0 < BlockMode.blockCount cipherBlockSize plaintext.length := by
    unfold BlockMode.blockCount cipherBlockSize
    omega
  have filled : aesEcbEncrypt secret plaintext ≠ [] := by
    intro empty
    rw [empty, length_nil] at length
    unfold cipherBlockSize at length positive
    omega
  have aligned : ¬(aesEcbEncrypt secret plaintext = [] ∨
      (aesEcbEncrypt secret plaintext).length % cipherBlockSize ≠ 0) := by
    rw [length, Nat.mul_mod_left]
    simp [filled]
  rw [aesEcbDecrypt, if_neg aligned, length, Nat.mul_div_cancel _ (by decide)]
  congr 1
  apply BlockMode.mapBlocks_inverse (fun block _ => cipherBlock_length secret block)
  · intro block whole
    rw [cipherBlock, cipherBlock, ofSlice_whole length_val, ofSlice_whole whole]
    exact congrArg Subtype.val (inverts _ _)
  · exact BlockMode.padBlocks_length (by decide) 0 plaintext

omit [BlockCipher] in
theorem mac_length {secret : Secret} {ciphertext : Bytes} :
    (mac secret ciphertext).length = cipherMacSize := by
  rw [mac, length_take, length_val]
  rfl

theorem encryptThenMac_length (secret : Secret) (plaintext : Bytes) :
    (encryptThenMac secret plaintext).length = cipherMacSize +
      BlockMode.blockCount cipherBlockSize plaintext.length * cipherBlockSize := by
  rw [encryptThenMac, length_append, mac_length, aesEcbEncrypt_length]

/-- What was sealed opens, with zeros behind it. -/
theorem macThenDecrypt_encryptThenMac (inverts : BlockCipher.Inverts) (secret : Secret)
    {plaintext : Bytes} (someByte : plaintext ≠ []) :
    macThenDecrypt secret (encryptThenMac secret plaintext) =
      some (BlockMode.padBlocks cipherBlockSize 0 plaintext) := by
  have length := encryptThenMac_length secret plaintext
  have long : 0 < plaintext.length := length_pos_iff.mpr someByte
  have present : ¬(encryptThenMac secret plaintext).length ≤ cipherMacSize := by
    rw [length]
    unfold BlockMode.blockCount cipherBlockSize
    omega
  have cipher : (encryptThenMac secret plaintext).drop cipherMacSize =
      aesEcbEncrypt secret plaintext := drop_left' mac_length
  have front : (encryptThenMac secret plaintext).take cipherMacSize =
      mac secret (aesEcbEncrypt secret plaintext) := take_left' mac_length
  have aligned : ¬(aesEcbEncrypt secret plaintext).length % cipherBlockSize ≠ 0 := by
    rw [aesEcbEncrypt_length, Nat.mul_mod_left]
    simp
  simp only [macThenDecrypt, cipher, front]
  rw [if_neg present, if_neg aligned, if_neg (not_not.mpr rfl)]
  exact aesEcbDecrypt_encrypt inverts secret someByte

/-- A blob whose MAC does not verify is not opened. -/
theorem macThenDecrypt_unmatched {secret : Secret} {blob : Bytes}
    (unmatched : macMatches secret blob = false) : macThenDecrypt secret blob = none := by
  simp only [macMatches, Bool.and_eq_false_iff, decide_eq_false_iff_not] at unmatched
  simp only [macThenDecrypt]
  rcases unmatched with (short | unaligned) | forged
  · rw [if_pos (Nat.le_of_not_lt short)]
  · rw [if_pos unaligned, ite_self]
  · rw [if_pos forged, ite_self, ite_self]

end MeshCore

end MeshStar

import MeshStar.Noise
import MeshStar.Packet

/-!
# A transparent instance of the external primitives

Concrete executions need concrete primitives. This suite hides nothing: the AEAD
leaves the text in the clear and appends a digest of everything it authenticates, a
key exchange adds the two secrets, and a public key equals its seed. It obeys the
documented laws of the real primitives (the AEAD round trip, rejection of an altered
tag, the commutation of the key exchange, verification of one's own signature), and
every execution over it can be evaluated.
-/

namespace MeshStar.Transparent

/-- A 256-bit digest: a base-257 numeral of the bytes. -/
def digest (bytes : Bytes) : Bytes32 :=
  ⟨BigEndian.encode 32
    (bytes.foldl (fun value byte => (value * 257 + byte.toNat + 1) % 2 ^ 256) 0), by simp⟩

/-- The tag authenticates key, nonce, associated data and text. -/
def tag (key : Bytes32) (nonce associated text : Bytes) : Tag :=
  FixedBytes.ofSlice 16 (digest (key.val ++ nonce ++ associated ++ text)).val

/-- Bytewise sum of two secrets. -/
def combine (left right : Bytes32) : Bytes32 :=
  ⟨List.zipWith (· + ·) left.val right.val, by simp [left.property, right.property]⟩

def signature (seed : Bytes32) (message : Bytes) : Signature :=
  FixedBytes.ofSlice 64 ((digest (seed.val ++ message)).val ++ (digest (message ++ seed.val)).val)

/-- The suite. -/
@[reducible] def primitives : Primitives where
  sha256 := digest
  hmacSha256 key message := digest (key ++ message)
  aeadEncrypt key nonce associated plaintext := (plaintext, tag key nonce associated plaintext)
  aeadDecrypt key nonce associated ciphertext authenticator :=
    if authenticator = tag key nonce associated ciphertext then some ciphertext else none
  x25519Public secret := secret
  x25519 := combine
  wasContributory _ := true
  ed25519IsCanonical _ := true
  ed25519IsWeak _ := false
  ed25519ToMontgomery publicKey := publicKey
  ed25519Public seed := seed
  ed25519ScalarBytes seed := seed
  ed25519Sign := signature
  ed25519VerifyStrict publicKey message signed := signed = signature publicKey message

/-- The suite's AEAD opens what it sealed. -/
theorem roundTrip : @CipherState.AeadRoundTrip primitives := by
  intro key nonce associated plaintext
  exact if_pos rfl

/-- A generator that counts in odd numbers, hence never draws zero. -/
def generator : Rng where
  words position := UInt32.ofNat (2 * position + 1)
  position := 0
  gap := 1
  nonzero := by
    intro start
    refine ⟨0, Nat.one_pos, ?_⟩
    intro zero
    have value := congrArg UInt32.toNat zero
    rw [UInt32.toNat_ofNat'] at value
    change _ % 2 ^ 32 = 0 at value
    omega

/-- An identity whose seed repeats one byte. -/
def identity (byte : UInt8) : Identity := ⟨⟨List.replicate 32 byte, List.length_replicate⟩⟩

/-- The frame of a packet without network key. -/
def frame (packet : Packet) : Bytes :=
  match @Packet.encode primitives packet none with
  | .ok bytes => bytes
  | .error _ => []

/-- Reception at a time over a good link. -/
def heardAt (time : Nat) : RxMeta := ⟨-80, 5, time⟩

end MeshStar.Transparent

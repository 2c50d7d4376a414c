import MeshStar.Protocol

/-!
# Cryptographic primitives and identities

The hash, the AEAD, the Diffie-Hellman function and the signature scheme are code
outside the repository. They are parameters: the model calls them exactly where the
source does and nothing is assumed of them unless a theorem names the assumption.

An identity is an Ed25519 public key. The source caches the address and the X25519
image beside the key; both are functions of the key, fixed by the only constructor,
hence they are recomputed here and cannot disagree with it.
-/

namespace MeshStar

abbrev Bytes32 := FixedBytes 32
abbrev Tag := FixedBytes 16
abbrev Signature := FixedBytes 64

/-- The external primitives. `aeadDecrypt` returns no plaintext when the tag does not
authenticate, `wasContributory` is the low-order check on a shared secret. -/
class Primitives where
  sha256 : Bytes → Bytes32
  hmacSha256 : Bytes → Bytes → Bytes32
  aeadEncrypt : Bytes32 → Bytes → Bytes → Bytes → Bytes × Tag
  aeadDecrypt : Bytes32 → Bytes → Bytes → Bytes → Tag → Option Bytes
  x25519Public : Bytes32 → Bytes32
  x25519 : Bytes32 → Bytes32 → Bytes32
  wasContributory : Bytes32 → Bool
  ed25519IsCanonical : Bytes32 → Bool
  ed25519IsWeak : Bytes32 → Bool
  ed25519ToMontgomery : Bytes32 → Bytes32
  ed25519Public : Bytes32 → Bytes32
  ed25519ScalarBytes : Bytes32 → Bytes32
  ed25519Sign : Bytes32 → Bytes → Signature
  ed25519VerifyStrict : Bytes32 → Bytes → Signature → Bool

variable [Primitives]

/-- The ASCII bytes of a text. -/
def ascii (text : String) : Bytes := text.toList.map (fun char => UInt8.ofNat char.toNat)

/-- Domain separation string for address derivation. -/
def addrDomain : Bytes := ascii "MeshStar/addr/v1"

/-- The address of a public key: the leading eight bytes of a domain-separated hash. -/
def Address.fromPublicKey (publicKey : Bytes32) : Address :=
  ⟨UInt64.ofNat (BigEndian.decode
    ((Primitives.sha256 (addrDomain ++ publicKey.val)).val.take addressLen))⟩

/-- The public half of an identity. -/
structure PublicIdentity where
  publicKey : Bytes32
  deriving DecidableEq

namespace PublicIdentity

/-- Parse a public key; malformed and weak keys are rejected. -/
def fromBytes (publicKey : Bytes32) : Except Error PublicIdentity :=
  if !Primitives.ed25519IsCanonical publicKey then .error .badField
  else if Primitives.ed25519IsWeak publicKey then .error .badField
  else .ok ⟨publicKey⟩

def address (identity : PublicIdentity) : Address := Address.fromPublicKey identity.publicKey

/-- The X25519 key used as Noise static key of this identity. -/
def noiseStaticPublic (identity : PublicIdentity) : Bytes32 :=
  Primitives.ed25519ToMontgomery identity.publicKey

def verify (identity : PublicIdentity) (message : Bytes) (signature : Signature) :
    Except Error Unit :=
  if Primitives.ed25519VerifyStrict identity.publicKey message signature then .ok ()
  else .error .authFailed

end PublicIdentity

/-- A full identity, determined by its 32-byte seed. -/
structure Identity where
  seed : Bytes32
  deriving DecidableEq

namespace Identity

def publicIdentity (identity : Identity) : PublicIdentity :=
  ⟨Primitives.ed25519Public identity.seed⟩

def address (identity : Identity) : Address := identity.publicIdentity.address

def noiseStaticSecret (identity : Identity) : Bytes32 :=
  Primitives.ed25519ScalarBytes identity.seed

def sign (identity : Identity) (message : Bytes) : Signature :=
  Primitives.ed25519Sign identity.seed message

end Identity

end MeshStar

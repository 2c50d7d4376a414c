import MeshStar.Interop.Model
import MeshStar.Library.LittleEndian

/-!
# MeshCore identities and adverts

An identity is an Ed25519 key pair. An advert carries the public key, a timestamp, a
signature over both and the application data, and at most 32 bytes of that data: the name
is cut to the characters that still fit.
-/

namespace MeshStar.MeshCore

open List

variable [Primitives]

def advLatlonMask : UInt8 := 0x10
def advFeat1Mask : UInt8 := 0x20
def advFeat2Mask : UInt8 := 0x40
def advNameMask : UInt8 := 0x80

def maxAdvertDataSize : Nat := 32
def advertMinLen : Nat := 100

inductive IdentityError where
  | tooShort
  | badPublicKey
  | badSignature
  | appDataTooLong
  | badSeed
  deriving DecidableEq, Repr

/-- The name printed for an error. -/
def IdentityError.debug : IdentityError → String
  | tooShort => "TooShort"
  | badPublicKey => "BadPublicKey"
  | badSignature => "BadSignature"
  | appDataTooLong => "AppDataTooLong"
  | badSeed => "BadSeed"

/-- The signing key of a seed; longer secrets use their first 32 bytes. -/
def signingKeyFromSecret (secret : Bytes) : Except IdentityError MeshStar.Identity :=
  if secret.length < 32 then .error .badSeed else .ok ⟨FixedBytes.ofSlice 32 secret⟩

structure AdvertData where
  nodeType : UInt8
  latE6 : Option Int
  lonE6 : Option Int
  feature1 : Option UInt16
  feature2 : Option UInt16
  name : Option Text
  deriving DecidableEq

/-- The bytes of a signed 32-bit number. -/
def signed32 (number : Int) : Bytes := LittleEndian.encode 4 (number % 2 ^ 32).toNat

namespace AdvertData

/-- The location, when both coordinates are known. -/
def location (data : AdvertData) : Option Bytes :=
  match data.latE6, data.lonE6 with
  | some lat, some lon => some (signed32 lat ++ signed32 lon)
  | _, _ => none

/-- A flag for a part that is present. -/
def flagOf {α : Type} (part : Option α) (mask : UInt8) : UInt8 := if part.isSome then mask else 0

def encode (data : AdvertData) : Except IdentityError Bytes :=
  let word (feature : UInt16) : Bytes := LittleEndian.encode 2 feature.toNat
  let fields := data.location.getD [] ++ (data.feature1.map word).getD [] ++
    (data.feature2.map word).getD []
  let flags := (data.nodeType &&& 0x0F) ||| flagOf data.location advLatlonMask |||
    flagOf data.feature1 advFeat1Mask ||| flagOf data.feature2 advFeat2Mask |||
    flagOf data.name advNameMask
  if fields.length + 1 > maxAdvertDataSize then .error .appDataTooLong
  else .ok (flags :: (fields ++
    Utf8.encode (Utf8.takeBytes (maxAdvertDataSize - (fields.length + 1)) (data.name.getD []))))

end AdvertData

structure Advert where
  publicKey : Bytes32
  timestamp : UInt32
  signature : Signature
  appData : Bytes
  deriving DecidableEq

namespace Advert

/-- Parse the payload of an advert; application data beyond 32 bytes is dropped. -/
def parse (payload : Bytes) : Except IdentityError Advert :=
  if payload.length < advertMinLen then .error .tooShort
  else .ok
    { publicKey := FixedBytes.ofSlice 32 payload
      timestamp := UInt32.ofNat (LittleEndian.decode ((payload.drop 32).take 4))
      signature := FixedBytes.ofSlice 64 (payload.drop 36)
      appData := (payload.drop advertMinLen).take maxAdvertDataSize }

def signedMessage (advert : Advert) : Bytes :=
  advert.publicKey.val ++ LittleEndian.encode 4 advert.timestamp.toNat ++ advert.appData

/-- Build and sign an advert. -/
def build (key : MeshStar.Identity) (timestamp : UInt32) (data : AdvertData) :
    Except IdentityError Advert := do
  let appData ← data.encode
  let advert : Advert :=
    { publicKey := key.publicIdentity.publicKey
      timestamp := timestamp
      signature := FixedBytes.ofSlice 64 []
      appData := appData }
  return { advert with signature := key.sign advert.signedMessage }

def encode (advert : Advert) : Bytes :=
  advert.publicKey.val ++ LittleEndian.encode 4 advert.timestamp.toNat ++
    advert.signature.val ++ advert.appData

omit [Primitives] in
theorem encode_length (advert : Advert) :
    advert.encode.length = advertMinLen + advert.appData.length := by
  simp only [encode, length_append, advert.publicKey.property, advert.signature.property,
    LittleEndian.encode_length, advertMinLen]

omit [Primitives] in
/-- An encoded advert keeps its timestamp. -/
theorem timestamp_parse (advert : Advert) :
    (parse advert.encode).toOption.map Advert.timestamp = some advert.timestamp := by
  have long : ¬advert.encode.length < advertMinLen := by
    rw [encode_length]
    omega
  have small : advert.timestamp.toNat < 256 ^ 4 := advert.timestamp.toNat_lt
  have stamp : (advert.encode.drop 32).take 4 = LittleEndian.encode 4 advert.timestamp.toNat := by
    unfold encode
    rw [append_assoc, append_assoc, FixedBytes.drop_append, take_left']
    exact LittleEndian.encode_length 4 _
  rw [parse, if_neg long, stamp, LittleEndian.decode_encode_of_lt 4 _ small, UInt32.ofNat_toNat]
  rfl

end Advert

omit [Primitives] in
/-- Application data fits its limit. -/
theorem AdvertData.encode_length_le {data : AdvertData} {bytes : Bytes}
    (encoded : data.encode = .ok bytes) : bytes.length ≤ maxAdvertDataSize := by
  unfold AdvertData.encode at encoded
  dsimp only at encoded
  split at encoded
  · cases encoded
  · rename_i fits
    cases encoded
    rw [length_cons, length_append]
    have name := fun room => Utf8.takeBytes_length_le room (data.name.getD [])
    have cut := name (maxAdvertDataSize - ((data.location.getD [] ++
      (data.feature1.map (fun feature => LittleEndian.encode 2 feature.toNat)).getD [] ++
      (data.feature2.map (fun feature => LittleEndian.encode 2 feature.toNat)).getD []).length + 1))
    omega

end MeshStar.MeshCore

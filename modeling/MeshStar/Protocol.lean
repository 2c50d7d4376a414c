import MeshStar.Library.BigEndian
import MeshStar.Library.OrderedMap

/-!
# Protocol constants, enumerations and addresses

Everything that appears on the air is named here. A frame, a payload and a key are
byte strings; a fixed-size array carries the proof of its size. An address is the
64-bit value of its eight big-endian bytes, hence the numeric order of addresses is
the byte order by which the source's tables are sorted.
-/

namespace MeshStar

open List

abbrev Bytes := List UInt8

/-- A byte array of a fixed size. -/
abbrev FixedBytes (size : Nat) := { bytes : Bytes // bytes.length = size }

/-- The leading bytes of a slice as a fixed array. The source checks the length
before it copies; the zero padding only makes the operation total. -/
def FixedBytes.ofSlice (size : Nat) (bytes : Bytes) : FixedBytes size :=
  ⟨(bytes ++ List.replicate size 0).take size, by simp⟩

/-- The leading fixed array of a message that starts with it. -/
theorem FixedBytes.ofSlice_append {size : Nat} (leading : FixedBytes size) (rest : Bytes) :
    FixedBytes.ofSlice size (leading.val ++ rest) = leading := by
  apply Subtype.ext
  have length := leading.property
  simp only [FixedBytes.ofSlice, append_assoc]
  rw [take_append_of_le_length (by omega), take_of_length_le (by omega)]

theorem FixedBytes.length_val {size : Nat} {bytes : FixedBytes size} : bytes.val.length = size :=
  bytes.property

theorem FixedBytes.drop_append {size : Nat} (leading : FixedBytes size) (rest : Bytes) :
    (leading.val ++ rest).drop size = rest := by
  have dropped : (leading.val ++ rest).drop leading.val.length = rest := drop_left
  rwa [leading.property] at dropped

/-- The byte at an offset the caller has checked. -/
def byteAt (bytes : Bytes) (index : Nat) : UInt8 := bytes.getD index 0

/-- The bytes from `start` up to `stop`. -/
def slice (bytes : Bytes) (start stop : Nat) : Bytes := (bytes.take stop).drop start

def protocolVersion : UInt8 := 1
def maxFrame : Nat := 255
def maxTtl : UInt8 := 255
def defaultTtl : UInt8 := 32
def discoveryTtlSteps : List UInt8 := [4, 12, 32]
def addressLen : Nat := 8
def tagLen : Nat := 16
def netTagLen : Nat := 4

/-- The largest machine time, which the source uses as "never". -/
def timeMax : Nat := 2 ^ 64 - 1

/-- Packet types, in the order of their header nibble. -/
inductive PacketType where
  | beacon
  | data
  | ack
  | routeRequest
  | routeReply
  | routeError
  | store
  | fetch
  | handshake
  | control
  deriving DecidableEq, Repr

namespace PacketType

/-- The nibble written in the first header byte. -/
def toU8 : PacketType → UInt8
  | beacon => 0
  | data => 1
  | ack => 2
  | routeRequest => 3
  | routeReply => 4
  | routeError => 5
  | store => 6
  | fetch => 7
  | handshake => 8
  | control => 9

/-- Read the low nibble of the first header byte. -/
def fromU8 (value : UInt8) : Option PacketType :=
  match (value &&& 0x0F).toNat with
  | 0 => some beacon
  | 1 => some data
  | 2 => some ack
  | 3 => some routeRequest
  | 4 => some routeReply
  | 5 => some routeError
  | 6 => some store
  | 7 => some fetch
  | 8 => some handshake
  | 9 => some control
  | _ => none

/-- Types sent as one-hop broadcasts and never relayed. -/
def isLinkLocal : PacketType → Bool
  | beacon => true
  | _ => false

end PacketType

namespace Flags

def ackRequest : UInt8 := 1
def fragmented : UInt8 := 2
def encrypted : UInt8 := 4
def envelope : UInt8 := 8
def storeForward : UInt8 := 16
def leafSource : UInt8 := 32
def groupEncrypted : UInt8 := 64
def netAuth : UInt8 := 128

end Flags

/-- Node roles. -/
inductive Role where
  | normal
  | leaf
  | anchor
  deriving DecidableEq, Repr

namespace Role

def toU8 : Role → UInt8
  | normal => 0
  | leaf => 1
  | anchor => 2

def fromU8 (value : UInt8) : Option Role :=
  match value.toNat with
  | 0 => some normal
  | 1 => some leaf
  | 2 => some anchor
  | _ => none

/-- Every role but the sleeping one relays. -/
def relays : Role → Bool
  | leaf => false
  | _ => true

end Role

/-- Delivery class requested by the application. -/
inductive Reliability where
  | unreliable
  | acknowledged
  | storeAndForward
  deriving DecidableEq, Repr

namespace Control

def sessionClose : UInt8 := 1
def storeAccepted : UInt8 := 3
def storeRejected : UInt8 := 4
def ping : UInt8 := 5
def pong : UInt8 := 6
def mailboxAck : UInt8 := 7
def linkAck : UInt8 := 8
def noSession : UInt8 := 9
def traceReq : UInt8 := 10
def traceRep : UInt8 := 11
def traceMaxHops : Nat := 24

end Control

/-- Errors produced by the protocol stack. -/
inductive Error where
  | truncated
  | badVersion
  | badType
  | badField
  | badTtl
  | duplicate
  | authFailed
  | replay
  | noSession
  | handshakeState
  | tooLarge
  | noRoute
  | full
  | roleViolation
  | expired
  | notFound
  deriving DecidableEq, Repr

/-- A sequence that succeeds has passed every one of its parts. -/
theorem Error.of_bind {α β : Type} {first : Except Error α} {next : α → Except Error β}
    {result : β} (succeeded : (first >>= next) = .ok result) :
    ∃ value, first = .ok value ∧ next value = .ok result := by
  cases first with
  | error error => cases succeeded
  | ok value => exact ⟨value, rfl, succeeded⟩

/-- A 64-bit open address, as the value of its eight big-endian bytes. -/
structure Address where
  value : UInt64
  deriving DecidableEq, Repr

namespace Address

def broadcast : Address := ⟨0xFFFFFFFFFFFFFFFF⟩

def null : Address := ⟨0⟩

/-- The eight bytes of the address. -/
def asBytes (address : Address) : Bytes := BigEndian.encode addressLen address.value.toNat

/-- Read an address from the start of a byte string. -/
def fromBytes (bytes : Bytes) : Except Error Address :=
  if bytes.length < addressLen then .error .truncated
  else .ok ⟨UInt64.ofNat (BigEndian.decode (bytes.take addressLen))⟩

def isBroadcast (address : Address) : Bool := address == broadcast

def isNull (address : Address) : Bool := address == null

/-- The low 16 bits, used as next-hop hint and relay identifier. -/
def short (address : Address) : UInt16 := address.value.toUInt16

instance : KeyRank Address where
  rank address := address.value.toNat
  rank_injective left right same := by
    cases left
    cases right
    exact congrArg Address.mk (UInt64.toNat_inj.mp same)

end Address

/-- Network-wide packet identifier: source and packet id. -/
structure PacketKey where
  src : Address
  id : UInt32
  deriving DecidableEq, Repr

instance : KeyRank PacketKey where
  rank key := key.src.value.toNat * 2 ^ 32 + key.id.toNat
  rank_injective left right same := by
    have leftBound : left.id.toNat < 2 ^ 32 := left.id.toNat_lt
    have rightBound : right.id.toNat < 2 ^ 32 := right.id.toNat_lt
    simp only at same
    have sameId : left.id = right.id := UInt32.toNat_inj.mp (by omega)
    have sameSrc : left.src = right.src :=
      KeyRank.rank_injective (κ := Address) (by simp only [KeyRank.rank]; omega)
    cases left
    cases right
    simp only at sameId sameSrc
    rw [sameId, sameSrc]

instance : KeyRank UInt32 where
  rank value := value.toNat
  rank_injective _ _ same := UInt32.toNat_inj.mp same

instance : KeyRank UInt16 where
  rank value := value.toNat
  rank_injective _ _ same := UInt16.toNat_inj.mp same

end MeshStar

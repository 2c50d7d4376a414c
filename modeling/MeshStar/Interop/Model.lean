import MeshStar.Identity
import MeshStar.Library.Utf8

/-!
# The unified message

Every protocol adapter decodes its frames into one message type and encodes from it. An
identity is qualified by its protocol; a security label says how the message was
protected on the air, and a bridge path records the gateways it crossed. The signal and
hop observations that the source also carries are read by no modelled function and are
left out.
-/

namespace MeshStar

/-- A string, as its characters. -/
abbrev Text := List Char

/-- The rank of a text: the numeral of its bytes behind a leading one. -/
instance : KeyRank Text where
  rank text := BigEndian.decode (1 :: Utf8.encode text)
  rank_injective left right same := by
    have value : ∀ bytes : Bytes,
        BigEndian.decode (1 :: bytes) = 256 ^ bytes.length + BigEndian.decode bytes := by
      intro bytes
      induction bytes using List.reverseRecOn with
      | nil => rfl
      | append_singleton bytes byte ih =>
        rw [← List.cons_append, BigEndian.decode_append_singleton, ih,
          BigEndian.decode_append_singleton, List.length_append, List.length_singleton, pow_succ]
        omega
    have numerals : 256 ^ (Utf8.encode left).length + BigEndian.decode (Utf8.encode left) =
        256 ^ (Utf8.encode right).length + BigEndian.decode (Utf8.encode right) := by
      rw [← value, ← value]
      exact same
    have leftBound := BigEndian.decode_lt (Utf8.encode left)
    have rightBound := BigEndian.decode_lt (Utf8.encode right)
    -- The leading one fixes the number of bytes: a longer string is worth more.
    have lengths : (Utf8.encode left).length = (Utf8.encode right).length := by
      rcases Nat.lt_trichotomy (Utf8.encode left).length (Utf8.encode right).length with
        less | equal | more
      · have power := Nat.pow_le_pow_right (n := 256) (by omega) (Nat.succ_le_of_lt less)
        rw [Nat.succ_eq_add_one, pow_succ] at power
        omega
      · exact equal
      · have power := Nat.pow_le_pow_right (n := 256) (by omega) (Nat.succ_le_of_lt more)
        rw [Nat.succ_eq_add_one, pow_succ] at power
        omega
    apply Utf8.encode_injective
    rw [← BigEndian.encode_decode (Utf8.encode left), ← BigEndian.encode_decode (Utf8.encode right),
      lengths]
    rw [lengths] at numerals
    rw [Nat.add_left_cancel numerals]

/-- The rank of a fixed-size array: its value. -/
instance {size : Nat} : KeyRank (FixedBytes size) where
  rank bytes := BigEndian.decode bytes.val
  rank_injective left right same := by
    apply Subtype.ext
    rw [← BigEndian.encode_decode left.val, ← BigEndian.encode_decode right.val, left.property,
      right.property]
    exact congrArg _ same

/-- The decimal digits of a number. -/
def decimal (number : Nat) : Text := Nat.toDigits 10 number

/-- The lower-case hexadecimal digits of a number, padded to a width. -/
def hexPadded (width number : Nat) : Text :=
  List.replicate (width - (Nat.toDigits 16 number).length) '0' ++ Nat.toDigits 16 number

/-- Two digits for each byte. -/
def hexEncode (bytes : Bytes) : Text := bytes.flatMap (fun byte => hexPadded 2 byte.toNat)

/-- Supported radio protocols. -/
inductive ProtocolId where
  | meshStar
  | meshtastic
  | meshCore
  | unknown
  deriving DecidableEq, Repr

def ProtocolId.name : ProtocolId → Text
  | meshStar => "MeshStar".toList
  | meshtastic => "Meshtastic".toList
  | meshCore => "MeshCore".toList
  | unknown => "Unknown".toList

/-- A MeshCore public key, or the leading bytes of one. -/
inductive MeshCoreId where
  | publicKey (key : Bytes32)
  | hashPrefix (bytes : Bytes)
  deriving DecidableEq

/-- A protocol-qualified identity. -/
inductive IdentityRef where
  | meshStar (address : Address)
  | meshtastic (node : UInt32)
  | meshCore (id : MeshCoreId)
  | broadcast (protocol : ProtocolId)
  deriving DecidableEq

/-- The textual form of an address. -/
def Address.display (address : Address) : Text :=
  if address.isBroadcast then "MS-BROADCAST".toList else "MS-".toList ++ hexEncode address.asBytes

namespace IdentityRef

def isBroadcast : IdentityRef → Bool
  | broadcast _ => true
  | _ => false

/-- Canonical textual form. -/
def canonical : IdentityRef → Text
  | meshStar address => "meshstar:".toList ++ address.display
  | meshtastic node => "meshtastic:!".toList ++ hexPadded 8 node.toNat
  | meshCore (.publicKey key) => "meshcore:".toList ++ hexEncode key.val
  | meshCore (.hashPrefix bytes) => "meshcore:~".toList ++ hexEncode bytes
  | broadcast protocol => protocol.name.map Char.toLower ++ ":broadcast".toList

end IdentityRef

/-- What the payload contains. -/
inductive ContentType where
  | text
  | binary
  | position
  | nodeInfo
  | telemetry
  | ack
  | routeControl
  | advert
  | opaqueContent
  | other (code : UInt16)
  deriving DecidableEq, Repr

namespace ContentType

def code : ContentType → UInt16
  | text => 1
  | binary => 2
  | position => 3
  | nodeInfo => 4
  | telemetry => 5
  | ack => 6
  | routeControl => 7
  | advert => 8
  | opaqueContent => 9
  | other number => 0x100 + number

/-- The name printed for a content type. -/
def debug : ContentType → Text
  | text => "Text".toList
  | binary => "Binary".toList
  | position => "Position".toList
  | nodeInfo => "NodeInfo".toList
  | telemetry => "Telemetry".toList
  | ack => "Ack".toList
  | routeControl => "RouteControl".toList
  | advert => "Advert".toList
  | opaqueContent => "Opaque".toList
  | other number => "Other(".toList ++ decimal number.toNat ++ ")".toList

end ContentType

/-- Security label attached to every unified message. -/
inductive SecurityLevel where
  | meshStarE2E
  | meshStarEnvelope
  | meshStarGroup
  | plaintext
  | foreignSharedKey (protocol : ProtocolId) (channel : Text)
  | foreignDirect (protocol : ProtocolId) (authenticated : Bool)
  | undecryptable (protocol : ProtocolId)
  | bridged (via : ProtocolId) (gateway : Text) (original : SecurityLevel)
  deriving DecidableEq, Repr

/-- True only for MeshStar native end-to-end protected traffic. -/
def SecurityLevel.isMeshStarE2E : SecurityLevel → Bool
  | meshStarE2E => true
  | meshStarEnvelope => true
  | _ => false

/-- Record of one bridge crossing. -/
structure BridgeHop where
  gateway : Text
  fromProtocol : ProtocolId
  toProtocol : ProtocolId
  crossedAt : Nat
  deriving DecidableEq, Repr

/-- The protocol independent message. -/
structure UnifiedMessage where
  source : IdentityRef
  destination : IdentityRef
  protocol : ProtocolId
  channel : Option Text
  messageId : Text
  replyTo : Option Text
  timestamp : Option UInt32
  contentType : ContentType
  payload : Bytes
  encrypted : Bool
  security : SecurityLevel
  wantsAck : Bool
  bridgePath : List BridgeHop
  bridgeOrigin : Option Text
  protocolMetadata : List (Text × Text)
  deriving DecidableEq

/-- Replace the first value of a key, or add one at the end. -/
def setEntry (key value : Text) : List (Text × Text) → List (Text × Text)
  | [] => [(key, value)]
  | entry :: rest => if entry.1 = key then (key, value) :: rest
    else entry :: setEntry key value rest

/-- The digests of the deduplicator. -/
abbrev Digest := FixedBytes 16

namespace UnifiedMessage

/-- A native text message without further data. -/
def ofText (source destination : IdentityRef) (protocol : ProtocolId) (text : Text) :
    UnifiedMessage where
  source := source
  destination := destination
  protocol := protocol
  channel := none
  messageId := []
  replyTo := none
  timestamp := none
  contentType := .text
  payload := Utf8.encode text
  encrypted := false
  security := .plaintext
  wantsAck := false
  bridgePath := []
  bridgeOrigin := none
  protocolMetadata := []

def textPayload (message : UnifiedMessage) : Option Text :=
  if message.contentType = .text then Utf8.decode message.payload else none

/-- The value of a metadata key. -/
def metaValue (message : UnifiedMessage) (key : Text) : Option Text :=
  (message.protocolMetadata.find? (fun entry => entry.1 = key)).map Prod.snd

def setMeta (message : UnifiedMessage) (key value : Text) : UnifiedMessage :=
  { message with protocolMetadata := setEntry key value message.protocolMetadata }

variable [Primitives]

/-- The bytes under the canonical digest. A timestamp counts by the minute. -/
def canonicalInput (message : UnifiedMessage) : Bytes :=
  ascii "MeshStar/canon/v1" ++ Utf8.encode message.source.canonical ++ [0] ++
    Utf8.encode message.destination.canonical ++ [0] ++
    BigEndian.encode 2 message.contentType.code.toNat ++ message.payload ++
    match message.timestamp with
    | some time => BigEndian.encode 4 (time.toNat / 60)
    | none => []

/-- Protocol independent digest used by the cross-network deduplicator. -/
def canonicalDigest (message : UnifiedMessage) : Digest :=
  FixedBytes.ofSlice 16 (Primitives.sha256 message.canonicalInput).val

end UnifiedMessage

/-- Errors from adapters. -/
inductive AdapterError where
  | notThisProtocol (why : Text)
  | noKey
  | authFailed
  | unsupported (why : Text)
  | tooLarge
  | missingContext (what : Text)
  | core (error : Error)
  deriving DecidableEq, Repr

end MeshStar

import MeshStar.Identity

/-!
# The packet format

A frame is a 31-byte header, the payload and an optional network access tag. Time to
live, hop count, next hop and relay are the only fields a relay rewrites; every other
header byte is bound by the associated data. Decoding validates every field before a
packet reaches the rest of the stack.
-/

namespace MeshStar

variable [Primitives]

def headerLen : Nat := 31
def fragHeaderLen : Nat := 4
def nextHopAny : UInt16 := 0xFFFF

/-- Largest payload that fits in one frame. -/
def maxPayload (netAuth : Bool) : Nat := maxFrame - headerLen - if netAuth then netTagLen else 0

/-- Fixed packet header. -/
structure Header where
  ptype : PacketType
  flags : UInt8
  ttl : UInt8
  hops : UInt8
  src : Address
  dst : Address
  packetId : UInt32
  seq : UInt16
  nextHop : UInt16
  relay : UInt16
  deriving DecidableEq, Repr

namespace Header

def new (ptype : PacketType) (src dst : Address) (packetId : UInt32) (seq : UInt16)
    (ttl : UInt8) : Header :=
  { ptype := ptype
    flags := 0
    ttl := ttl
    hops := 0
    src := src
    dst := dst
    packetId := packetId
    seq := seq
    nextHop := nextHopAny
    relay := src.short }

def has (header : Header) (flag : UInt8) : Bool := header.flags &&& flag ≠ 0

/-- Switch a flag on or off. -/
def set (header : Header) (flag : UInt8) (on : Bool) : Header :=
  { header with flags := if on then header.flags ||| flag else header.flags &&& ~~~flag }

section

omit [Primitives]

/-- A new header has no flag. -/
theorem new_has {ptype : PacketType} {src dst : Address} {packetId : UInt32} {seq : UInt16}
    {ttl flag : UInt8} : (new ptype src dst packetId seq ttl).has flag = false := by
  simp [has, new]

/-- Switching a flag leaves the others as they are. -/
theorem has_set_of_disjoint {header : Header} {flag other : UInt8} {on : Bool}
    (disjoint : flag &&& other = 0) : (header.set flag on).has other = header.has other := by
  have bits := congrArg UInt8.toBitVec disjoint
  have same : (if on then header.flags ||| flag else header.flags &&& ~~~flag) &&& other =
      header.flags &&& other := by
    apply UInt8.toBitVec_inj.mp
    ext position bounded
    have bit := congrArg (fun word : BitVec 8 => word.getLsbD position) bits
    cases on
    all_goals
      simp only [if_true, Bool.false_eq_true, if_false, UInt8.toBitVec_and, UInt8.toBitVec_or,
        UInt8.toBitVec_not, BitVec.getLsbD_and, ← BitVec.getLsbD_eq_getElem, BitVec.getLsbD_or,
        BitVec.getLsbD_not, UInt8.toBitVec_zero, BitVec.getLsbD_zero] at bit ⊢
      grind
  rw [has, has, set, same]

/-- A flag that was switched on is on. -/
theorem has_set_self (header : Header) {flag : UInt8} (some_ : flag ≠ 0) :
    (header.set flag true).has flag = true := by
  have same : (header.flags ||| flag) &&& flag = flag := by
    apply UInt8.toBitVec_inj.mp
    ext position bounded
    simp only [UInt8.toBitVec_and, UInt8.toBitVec_or, BitVec.getElem_and, BitVec.getElem_or]
    grind
  simp only [has, set, if_true, same, decide_eq_true_eq]
  exact some_

end

/-- Unique id of the packet in the whole network. -/
def key (header : Header) : PacketKey := ⟨header.src, header.packetId⟩

/-- The 31 header bytes with the payload length at the end. -/
def write (header : Header) (payloadLen : UInt8) : Bytes :=
  [(protocolVersion <<< 4) ||| header.ptype.toU8, header.flags, header.ttl, header.hops] ++
    header.src.asBytes ++ header.dst.asBytes ++ BigEndian.encode 4 header.packetId.toNat ++
    BigEndian.encode 2 header.seq.toNat ++ BigEndian.encode 2 header.nextHop.toNat ++
    BigEndian.encode 2 header.relay.toNat ++ [payloadLen]

/-- Bytes bound by the AEAD and the network tag: the header with the fields a relay
rewrites zeroed. -/
def aad (header : Header) (payloadLen : UInt8) : Bytes :=
  write { header with ttl := 0, hops := 0, nextHop := 0, relay := 0 } payloadLen

/-- Read and validate the fixed header; the payload length comes with it. -/
def parse (bytes : Bytes) (maxTtlAllowed : UInt8) : Except Error (Header × Nat) := do
  if bytes.length < headerLen then throw .truncated
  if byteAt bytes 0 >>> 4 ≠ protocolVersion then throw .badVersion
  let some ptype := PacketType.fromU8 (byteAt bytes 0) | throw .badType
  let ttl := byteAt bytes 2
  let hops := byteAt bytes 3
  if ttl = 0 ∨ ttl > maxTtlAllowed then throw .badTtl
  if hops.toNat + ttl.toNat > maxTtl.toNat then throw .badTtl
  let src ← Address.fromBytes (slice bytes 4 12)
  let dst ← Address.fromBytes (slice bytes 12 20)
  if src.isNull || src.isBroadcast || dst.isNull then throw .badField
  return ({ ptype := ptype
            flags := byteAt bytes 1
            ttl := ttl
            hops := hops
            src := src
            dst := dst
            packetId := UInt32.ofNat (BigEndian.decode (slice bytes 20 24))
            seq := UInt16.ofNat (BigEndian.decode (slice bytes 24 26))
            nextHop := UInt16.ofNat (BigEndian.decode (slice bytes 26 28))
            relay := UInt16.ofNat (BigEndian.decode (slice bytes 28 30)) },
    (byteAt bytes 30).toNat)

omit [Primitives] in
/-- A parsed header travels within the hop limit of the protocol. -/
theorem parse_hops {bytes : Bytes} {maxTtlAllowed : UInt8} {header : Header} {length : Nat}
    (parsed : parse bytes maxTtlAllowed = .ok (header, length)) :
    header.hops.toNat + header.ttl.toNat ≤ maxTtl.toNat := by
  simp only [parse, bind, Except.bind, throw, throwThe, MonadExceptOf.throw, pure,
    Except.pure] at parsed
  repeat' split at parsed
  all_goals cases parsed
  exact Nat.le_of_not_lt (by assumption)

end Header

/-- Fragment sub-header. -/
structure FragHeader where
  fragId : UInt16
  index : UInt8
  total : UInt8
  deriving DecidableEq, Repr

namespace FragHeader

def write (header : FragHeader) : Bytes :=
  BigEndian.encode 2 header.fragId.toNat ++ [header.index, header.total]

def parse (bytes : Bytes) : Except Error FragHeader :=
  if bytes.length < fragHeaderLen then .error .truncated
  else
    let header : FragHeader :=
      ⟨UInt16.ofNat (BigEndian.decode (slice bytes 0 2)), byteAt bytes 2, byteAt bytes 3⟩
    if header.total = 0 ∨ header.index ≥ header.total then .error .badField else .ok header

end FragHeader

/-- Shared secret protecting a private mesh from foreign control traffic. -/
structure NetworkKey where
  key : Bytes32
  deriving DecidableEq

namespace NetworkKey

/-- The truncated authentication tag of a frame. -/
def tag (network : NetworkKey) (aad payload : Bytes) : Bytes :=
  (Primitives.hmacSha256 network.key.val (aad ++ payload)).val.take netTagLen

/-- Key of the broadcast payload encryption, derived from the network key. -/
def groupKey (network : NetworkKey) : Bytes32 :=
  Primitives.sha256 (ascii "MeshStar/groupkey/v1" ++ network.key.val)

end NetworkKey

/-- A decoded packet: header and payload. -/
structure Packet where
  header : Header
  payload : Bytes
  deriving DecidableEq, Repr

namespace Packet

def wireLen (packet : Packet) : Nat :=
  headerLen + packet.payload.length + if packet.header.has Flags.netAuth then netTagLen else 0

/-- Encode to a frame. Fails if the payload does not fit. -/
def encode (packet : Packet) (network : Option NetworkKey) : Except Error Bytes :=
  let netAuth := packet.header.has Flags.netAuth
  if netAuth && network.isNone then .error .badField
  else if packet.payload.length > maxPayload netAuth then .error .tooLarge
  else
    let payloadLen := UInt8.ofNat packet.payload.length
    let tag := match netAuth, network with
      | true, some key => key.tag (packet.header.aad payloadLen) packet.payload
      | _, _ => []
    .ok (packet.header.write payloadLen ++ packet.payload ++ tag)

/-- Decode and validate a received frame. A node with a network key rejects frames
without a valid tag; a node without one ignores the tag. -/
def decode (frame : Bytes) (network : Option NetworkKey) (maxTtlAllowed : UInt8) :
    Except Error Packet := do
  if frame.length > maxFrame then throw .tooLarge
  let (header, payloadLen) ← Header.parse frame maxTtlAllowed
  let netAuth := header.has Flags.netAuth
  let expected := headerLen + payloadLen + if netAuth then netTagLen else 0
  if frame.length ≠ expected then throw .truncated
  let payload := slice frame headerLen (headerLen + payloadLen)
  match network with
  | none => pure ()
  | some key =>
    if !netAuth then throw .authFailed
    if key.tag (header.aad (UInt8.ofNat payloadLen)) payload ≠ frame.drop (headerLen + payloadLen)
      then throw .authFailed
  if header.has Flags.fragmented then
    let _ ← FragHeader.parse payload
  if header.ptype.isLinkLocal && !header.dst.isBroadcast then throw .badField
  return ⟨header, payload⟩

/-- The header of a decoded packet is the parsed one. -/
theorem decode_parse {frame : Bytes} {network : Option NetworkKey} {maxTtlAllowed : UInt8}
    {packet : Packet} (decoded : decode frame network maxTtlAllowed = .ok packet) :
    ∃ length, Header.parse frame maxTtlAllowed = .ok (packet.header, length) := by
  unfold decode at decoded
  cases parsed : Header.parse frame maxTtlAllowed with
  | error _ =>
    rw [parsed] at decoded
    simp only [bind, Except.bind, throw, throwThe, MonadExceptOf.throw] at decoded
    split at decoded
    · cases decoded
    · cases decoded
  | ok result =>
    rw [parsed] at decoded
    simp only [bind, Except.bind, throw, throwThe, MonadExceptOf.throw, pure,
      Except.pure] at decoded
    refine ⟨result.2, ?_⟩
    repeat' split at decoded
    all_goals cases decoded
    all_goals rfl

/-- Fragment sub-header, if present. -/
def fragHeader (packet : Packet) : Option FragHeader :=
  if packet.header.has Flags.fragmented then (FragHeader.parse packet.payload).toOption else none

/-- Payload after the fragment sub-header, or the whole payload. -/
def body (packet : Packet) : Bytes :=
  if packet.header.has Flags.fragmented then packet.payload.drop fragHeaderLen
  else packet.payload

end Packet

end MeshStar

import MeshStar.Protocol
import MeshStar.Library.LittleEndian

/-!
# The MeshCore packet

A frame is a header byte, four bytes of transport codes on the two transport routes, a
byte that packs the hop count with the size of a hop hash, the path and the payload. The
codec is a bijection between the packets of `Packet.Valid` and the frames that are
accepted: `Packet.wire` is the one form a valid packet has on the air.
-/

namespace MeshStar.MeshCore

open List

def maxTransUnit : Nat := 255
def maxPacketPayload : Nat := 184
def maxPathSize : Nat := 64
def maxHopCount : UInt8 := 63
def pathHashSize : UInt8 := 1
def payloadVer1 : UInt8 := 0

/-- Route type, the two low header bits. -/
inductive RouteType where
  | transportFlood
  | flood
  | direct
  | transportDirect
  deriving DecidableEq, Repr

namespace RouteType

def asU8 : RouteType → UInt8
  | transportFlood => 0
  | flood => 1
  | direct => 2
  | transportDirect => 3

def fromBits (bits : UInt8) : RouteType :=
  match bits &&& 0x03 with
  | 0 => transportFlood
  | 1 => flood
  | 2 => direct
  | _ => transportDirect

def hasTransportCodes : RouteType → Bool
  | transportFlood | transportDirect => true
  | flood | direct => false

end RouteType

/-- Payload type, header bits 2 to 5. The values from 0x0C to 0x0E are reserved. -/
inductive PayloadType where
  | req
  | response
  | txtMsg
  | ack
  | advert
  | grpTxt
  | grpData
  | anonReq
  | path
  | trace
  | multipart
  | control
  | rawCustom
  deriving DecidableEq, Repr

namespace PayloadType

def asU8 : PayloadType → UInt8
  | req => 0x00
  | response => 0x01
  | txtMsg => 0x02
  | ack => 0x03
  | advert => 0x04
  | grpTxt => 0x05
  | grpData => 0x06
  | anonReq => 0x07
  | path => 0x08
  | trace => 0x09
  | multipart => 0x0A
  | control => 0x0B
  | rawCustom => 0x0F

def fromU8 (value : UInt8) : Option PayloadType :=
  match value &&& 0x0F with
  | 0x00 => some req
  | 0x01 => some response
  | 0x02 => some txtMsg
  | 0x03 => some ack
  | 0x04 => some advert
  | 0x05 => some grpTxt
  | 0x06 => some grpData
  | 0x07 => some anonReq
  | 0x08 => some path
  | 0x09 => some trace
  | 0x0A => some multipart
  | 0x0B => some control
  | 0x0F => some rawCustom
  | _ => none

end PayloadType

inductive PacketError where
  | tooShort
  | tooLong
  | badVersion
  | reservedPayloadType
  | reservedHashSize
  | pathTooLong
  | badPathLength
  | truncated
  | payloadTooLarge
  | emptyPayload
  deriving DecidableEq, Repr

/-- The name printed for an error. -/
def PacketError.debug : PacketError → String
  | tooShort => "TooShort"
  | tooLong => "TooLong"
  | badVersion => "BadVersion"
  | reservedPayloadType => "ReservedPayloadType"
  | reservedHashSize => "ReservedHashSize"
  | pathTooLong => "PathTooLong"
  | badPathLength => "BadPathLength"
  | truncated => "Truncated"
  | payloadTooLarge => "PayloadTooLarge"
  | emptyPayload => "EmptyPayload"

def headerByte (route : RouteType) (ptype : PayloadType) : UInt8 :=
  route.asU8 ||| (ptype.asU8 <<< 2)

/-- Split a header byte; nonzero version bits and reserved types are refused. -/
def parseHeader (byte : UInt8) : Except PacketError (RouteType × PayloadType) :=
  if byte >>> 6 ≠ payloadVer1 then .error .badVersion
  else
    match PayloadType.fromU8 ((byte >>> 2) &&& 0x0F) with
    | none => .error .reservedPayloadType
    | some ptype => .ok (RouteType.fromBits byte, ptype)

def encodePathLen (hopCount hashSize : UInt8) : Except PacketError UInt8 :=
  if hopCount > maxHopCount then .error .pathTooLong
  else if ¬(1 ≤ hashSize ∧ hashSize ≤ 3) then .error .reservedHashSize
  else if hopCount.toNat * hashSize.toNat > maxPathSize then .error .pathTooLong
  else .ok (hopCount ||| ((hashSize - 1) <<< 6))

/-- The hop count and the hash size of a path length byte. -/
def decodePathLen (byte : UInt8) : Except PacketError (UInt8 × UInt8) :=
  let sizeCode := byte >>> 6
  if sizeCode = 3 then .error .reservedHashSize
  else
    let count := byte &&& 0x3F
    let size := sizeCode + 1
    if count.toNat * size.toNat > maxPathSize then .error .pathTooLong
    else .ok (count, size)

structure Packet where
  route : RouteType
  ptype : PayloadType
  transportCodes : UInt16 × UInt16
  hashSize : UInt8
  path : Bytes
  payload : Bytes
  deriving DecidableEq

/-- A word as its two bytes on the air. -/
def word16 (word : UInt16) : Bytes := LittleEndian.encode 2 word.toNat

/-- The transport codes that follow the header, and the rest of the frame. -/
def readTransportCodes (route : RouteType) (frame : Bytes) :
    Except PacketError ((UInt16 × UInt16) × Bytes) :=
  if route.hasTransportCodes then
    match frame with
    | first :: second :: third :: fourth :: rest =>
      .ok ((UInt16.ofNat (LittleEndian.decode [first, second]),
        UInt16.ofNat (LittleEndian.decode [third, fourth])), rest)
    | _ => .error .tooShort
  else .ok ((0, 0), frame)

namespace Packet

/-- A packet with an empty path and one-byte hashes. -/
def new (route : RouteType) (ptype : PayloadType) (payload : Bytes) : Packet :=
  ⟨route, ptype, (0, 0), pathHashSize, [], payload⟩

def transportBytes (packet : Packet) : Bytes :=
  if packet.route.hasTransportCodes then
    word16 packet.transportCodes.1 ++ word16 packet.transportCodes.2
  else []

def rawLen (packet : Packet) : Nat :=
  2 + packet.path.length + packet.payload.length +
    (if packet.route.hasTransportCodes then 4 else 0)

/-- What follows the transport codes. -/
def parseBody (route : RouteType) (ptype : PayloadType) (codes : UInt16 × UInt16) :
    Bytes → Except PacketError Packet
  | [] => .error .tooShort
  | pathLen :: rest => do
    let (count, hashSize) ← decodePathLen pathLen
    let pathBytes := count.toNat * hashSize.toNat
    if pathBytes ≥ rest.length then .error .truncated
    else if (rest.drop pathBytes).length > maxPacketPayload then .error .payloadTooLarge
    else .ok ⟨route, ptype, codes, hashSize, rest.take pathBytes, rest.drop pathBytes⟩

/-- Parse a raw frame. -/
def parse (frame : Bytes) : Except PacketError Packet :=
  if frame.length > maxTransUnit then .error .tooLong
  else if frame.length < 3 then .error .tooShort
  else do
    let (route, ptype) ← parseHeader (frame.headD 0)
    let (codes, rest) ← readTransportCodes route frame.tail
    parseBody route ptype codes rest

/-- Serialise for the air. -/
def encode (packet : Packet) : Except PacketError Bytes :=
  if packet.payload = [] then .error .emptyPayload
  else if packet.payload.length > maxPacketPayload then .error .payloadTooLarge
  else if ¬(1 ≤ packet.hashSize ∧ packet.hashSize ≤ 3) then .error .reservedHashSize
  else if packet.path.length % packet.hashSize.toNat ≠ 0 then .error .badPathLength
  else if packet.path.length > maxPathSize then .error .pathTooLong
  else do
    let count := UInt8.ofNat (packet.path.length / packet.hashSize.toNat)
    let pathLen ← encodePathLen count packet.hashSize
    if packet.rawLen > maxTransUnit then .error .tooLong
    else .ok (headerByte packet.route packet.ptype ::
      (packet.transportBytes ++ pathLen :: (packet.path ++ packet.payload)))

/-- The packets of the format. -/
structure Valid (packet : Packet) : Prop where
  someByte : packet.payload ≠ []
  payloadFits : packet.payload.length ≤ maxPacketPayload
  hashed : 1 ≤ packet.hashSize ∧ packet.hashSize ≤ 3
  wholeHops : packet.path.length % packet.hashSize.toNat = 0
  countFits : packet.path.length / packet.hashSize.toNat ≤ 63
  pathFits : packet.path.length ≤ maxPathSize
  plain : packet.route.hasTransportCodes = false → packet.transportCodes = (0, 0)

/-- The path length byte of a packet. -/
def pathLen (packet : Packet) : UInt8 :=
  UInt8.ofNat (packet.path.length / packet.hashSize.toNat) ||| ((packet.hashSize - 1) <<< 6)

/-- The one form a valid packet has on the air. -/
def wire (packet : Packet) : Bytes :=
  headerByte packet.route packet.ptype ::
    (packet.transportBytes ++ packet.pathLen :: (packet.path ++ packet.payload))

end Packet

/-! ## The packed bytes -/

theorem parseHeader_headerByte (route : RouteType) (ptype : PayloadType) :
    parseHeader (headerByte route ptype) = .ok (route, ptype) := by
  cases route <;> cases ptype <;> rfl

variable {byte : UInt8} {route : RouteType}

/-- An accepted header byte is the one its parts are written as. -/
theorem headerByte_parseHeader {ptype : PayloadType}
    (read : parseHeader byte = .ok (route, ptype)) : headerByte route ptype = byte := by
  have exhaustive : ∀ value < 256, (parseHeader (UInt8.ofNat value)).toOption.all
      (fun parts => headerByte parts.1 parts.2 = UInt8.ofNat value) = true := by
    decide +kernel
  have here := exhaustive byte.toNat byte.toNat_lt
  rw [UInt8.ofNat_toNat, read] at here
  simpa [Except.toOption] using here

/-- A path length byte in range is read back. -/
theorem decodePathLen_encodePathLen {hopCount hashSize : UInt8}
    (written : encodePathLen hopCount hashSize = .ok byte) :
    decodePathLen byte = .ok (hopCount, hashSize) := by
  have exhaustive : ∀ hops < 64, ∀ size < 4,
      (encodePathLen (UInt8.ofNat hops) (UInt8.ofNat size)).toOption.all
        (fun byte => decodePathLen byte = .ok (UInt8.ofNat hops, UInt8.ofNat size)) = true := by
    decide +kernel
  have hops : hopCount.toNat < 64 := by
    by_contra outside
    have refused : hopCount > maxHopCount := by
      rw [gt_iff_lt, UInt8.lt_iff_toNat_lt]
      exact Nat.not_lt.mp outside
    rw [encodePathLen, if_pos refused] at written
    cases written
  have size : hashSize.toNat < 4 := by
    by_contra outside
    have refused : ¬(1 ≤ hashSize ∧ hashSize ≤ 3) := by
      rintro ⟨_, small⟩
      exact outside (Nat.lt_succ_of_le (UInt8.le_iff_toNat_le.mp small))
    rw [encodePathLen, if_pos refused] at written
    split at written <;> cases written
  have here := exhaustive hopCount.toNat hops hashSize.toNat size
  rw [UInt8.ofNat_toNat, UInt8.ofNat_toNat, written] at here
  simpa [Except.toOption] using here

/-- What is read from a path length byte, and that writing it gives the byte. -/
theorem decodePathLen_reads {count size : UInt8} (read : decodePathLen byte = .ok (count, size)) :
    (1 ≤ size ∧ size ≤ 3) ∧ count.toNat ≤ 63 ∧ count.toNat * size.toNat ≤ maxPathSize ∧
      count ||| ((size - 1) <<< 6) = byte := by
  have exhaustive : ∀ value < 256, (decodePathLen (UInt8.ofNat value)).toOption.all
      (fun parts : UInt8 × UInt8 => (1 ≤ parts.2 ∧ parts.2 ≤ 3) ∧ parts.1.toNat ≤ 63 ∧
        parts.1.toNat * parts.2.toNat ≤ maxPathSize ∧
        parts.1 ||| ((parts.2 - 1) <<< 6) = UInt8.ofNat value) = true := by
    decide +kernel
  have here := exhaustive byte.toNat byte.toNat_lt
  rw [UInt8.ofNat_toNat, read] at here
  simpa [Except.toOption] using here

/-- A word is read back from its bytes. -/
theorem ofNat_word16 (word : UInt16) : UInt16.ofNat (LittleEndian.decode (word16 word)) = word := by
  rw [word16, LittleEndian.decode_encode_of_lt 2 word.toNat word.toNat_lt, UInt16.ofNat_toNat]

theorem word16_ofNat (first second : UInt8) :
    word16 (UInt16.ofNat (LittleEndian.decode [first, second])) = [first, second] := by
  have small : LittleEndian.decode [first, second] < 2 ^ 16 := by
    simpa using LittleEndian.decode_lt [first, second]
  rw [word16, UInt16.toNat_ofNat_of_lt' small]
  exact LittleEndian.encode_decode [first, second]

namespace Packet

/-! ## Round trips -/

variable {packet : Packet}

/-- The transport codes are read back and nothing after them is touched. -/
theorem readTransportCodes_bytes (valid : packet.Valid) (rest : Bytes) :
    readTransportCodes packet.route (packet.transportBytes ++ rest) =
      .ok (packet.transportCodes, rest) := by
  unfold readTransportCodes transportBytes
  cases carried : packet.route.hasTransportCodes with
  | false => simp [valid.plain carried]
  | true =>
    have pair (word : UInt16) : ∃ low high, word16 word = [low, high] := by
      simp [word16, LittleEndian.encode, BigEndian.encode]
    obtain ⟨first, second, firstBytes⟩ := pair packet.transportCodes.1
    obtain ⟨third, fourth, secondBytes⟩ := pair packet.transportCodes.2
    have firstRead := ofNat_word16 packet.transportCodes.1
    have secondRead := ofNat_word16 packet.transportCodes.2
    rw [firstBytes] at firstRead
    rw [secondBytes] at secondRead
    simp only [firstBytes, secondBytes, ↓reduceIte, cons_append, nil_append, firstRead, secondRead]

/-- Transport codes that were read are written as they stood. -/
theorem transportBytes_read {frame rest : Bytes}
    (read : readTransportCodes packet.route frame = .ok (packet.transportCodes, rest)) :
    packet.transportBytes ++ rest = frame ∧
      (packet.route.hasTransportCodes = false → packet.transportCodes = (0, 0)) := by
  unfold readTransportCodes at read
  unfold transportBytes
  cases carried : packet.route.hasTransportCodes with
  | false =>
    rw [carried] at read
    simp only [Bool.false_eq_true, ↓reduceIte, Except.ok.injEq, Prod.mk.injEq] at read
    exact ⟨by simp [read.2], fun _ => read.1.symm⟩
  | true =>
    rw [carried, if_pos rfl] at read
    refine ⟨?_, nofun⟩
    split at read
    · simp only [Except.ok.injEq, Prod.mk.injEq] at read
      obtain ⟨codes, tail⟩ := read
      simp [← codes, word16_ofNat, tail]
    · cases read

theorem Valid.counted (valid : packet.Valid) :
    (UInt8.ofNat (packet.path.length / packet.hashSize.toNat)).toNat =
      packet.path.length / packet.hashSize.toNat :=
  UInt8.toNat_ofNat_of_lt' (Nat.lt_of_le_of_lt valid.countFits (by decide))

/-- Whole hops take the bytes of the path. -/
theorem Valid.hops_bytes (valid : packet.Valid) :
    packet.path.length / packet.hashSize.toNat * packet.hashSize.toNat = packet.path.length :=
  Nat.div_mul_cancel (Nat.dvd_of_mod_eq_zero valid.wholeHops)

theorem Valid.encodePathLen (valid : packet.Valid) :
    encodePathLen (UInt8.ofNat (packet.path.length / packet.hashSize.toNat)) packet.hashSize =
      .ok packet.pathLen := by
  have few : ¬UInt8.ofNat (packet.path.length / packet.hashSize.toNat) > maxHopCount := by
    rw [gt_iff_lt, UInt8.lt_iff_toNat_lt, valid.counted]
    exact Nat.not_lt.mpr valid.countFits
  rw [MeshCore.encodePathLen, if_neg few, if_neg (not_not.mpr valid.hashed), valid.counted,
    valid.hops_bytes, if_neg (Nat.not_lt.mpr valid.pathFits)]
  rfl

theorem transportBytes_length (packet : Packet) : packet.transportBytes.length =
    if packet.route.hasTransportCodes then 4 else 0 := by
  unfold transportBytes
  split
  · simp [word16]
  · rfl

theorem wire_length (packet : Packet) : packet.wire.length = packet.rawLen := by
  simp only [wire, rawLen, length_cons, length_append, transportBytes_length]
  omega

/-- The four limits leave every valid packet inside a frame. -/
theorem Valid.rawLen_le (valid : packet.Valid) : packet.rawLen ≤ maxTransUnit := by
  have path : packet.path.length ≤ 64 := valid.pathFits
  have payload : packet.payload.length ≤ 184 := valid.payloadFits
  unfold rawLen maxTransUnit
  split <;> omega

theorem Valid.encode (valid : packet.Valid) : packet.encode = .ok packet.wire := by
  have fits : ¬packet.rawLen > maxTransUnit := Nat.not_lt.mpr valid.rawLen_le
  rw [Packet.encode, if_neg valid.someByte, if_neg (Nat.not_lt.mpr valid.payloadFits),
    if_neg (not_not.mpr valid.hashed), if_neg (not_not.mpr valid.wholeHops),
    if_neg (Nat.not_lt.mpr valid.pathFits)]
  dsimp only
  rw [valid.encodePathLen]
  exact if_neg fits

theorem Valid.parseBody (valid : packet.Valid) :
    parseBody packet.route packet.ptype packet.transportCodes
      (packet.pathLen :: (packet.path ++ packet.payload)) = .ok packet := by
  have payload : 0 < packet.payload.length := length_pos_iff.mpr valid.someByte
  have room : ¬packet.path.length ≥ (packet.path ++ packet.payload).length := by
    rw [length_append]
    omega
  unfold Packet.parseBody
  dsimp only
  rw [decodePathLen_encodePathLen valid.encodePathLen]
  dsimp only [bind, Except.bind]
  rw [valid.counted, valid.hops_bytes, if_neg room, drop_left,
    if_neg (Nat.not_lt.mpr valid.payloadFits), take_left]

/-- A valid packet's frame parses back to the packet. -/
theorem Valid.parse_wire (valid : packet.Valid) : parse packet.wire = .ok packet := by
  have payload : 0 < packet.payload.length := length_pos_iff.mpr valid.someByte
  have long : ¬packet.wire.length > maxTransUnit := by
    rw [wire_length]
    exact Nat.not_lt.mpr valid.rawLen_le
  have short : ¬packet.wire.length < 3 := by
    rw [wire_length, rawLen]
    omega
  rw [parse, if_neg long, if_neg short]
  simp only [wire, headD_cons, tail_cons, parseHeader_headerByte, bind, Except.bind,
    readTransportCodes_bytes valid, valid.parseBody]

/-- A new packet on a route without transport codes. -/
theorem new_valid {payload : Bytes} (ptype : PayloadType) (someByte : payload ≠ [])
    (fits : payload.length ≤ maxPacketPayload) : (new route ptype payload).Valid where
  someByte := someByte
  payloadFits := fits
  hashed := show 1 ≤ pathHashSize ∧ pathHashSize ≤ 3 by decide
  wholeHops := rfl
  countFits := show 0 / pathHashSize.toNat ≤ 63 by decide
  pathFits := Nat.zero_le _
  plain := fun _ => rfl

/-- What a body that is accepted says of the packet. -/
theorem of_parseBody {ptype : PayloadType} {codes : UInt16 × UInt16}
    {body : Bytes} (read : parseBody route ptype codes body = .ok packet)
    (plain : route.hasTransportCodes = false → codes = (0, 0)) :
    packet.Valid ∧ packet.route = route ∧ packet.ptype = ptype ∧
      packet.transportCodes = codes ∧ packet.pathLen :: (packet.path ++ packet.payload) = body := by
  cases body with
  | nil => cases read
  | cons byte rest =>
    unfold parseBody at read
    dsimp only at read
    cases decoded : decodePathLen byte with
    | error fault =>
      rw [decoded] at read
      cases read
    | ok parts =>
      obtain ⟨count, size⟩ := parts
      rw [decoded] at read
      dsimp only [bind, Except.bind] at read
      obtain ⟨hashed, few, inside, written⟩ := decodePathLen_reads decoded
      split at read
      · cases read
      · rename_i room
        split at read
        · cases read
        · rename_i payloadFits
          cases read
          have taken : (rest.take (count.toNat * size.toNat)).length =
              count.toNat * size.toNat := by
            rw [length_take]
            omega
          have positive : 0 < size.toNat := UInt8.le_iff_toNat_le.mp hashed.1
          have hops : count.toNat * size.toNat / size.toNat = count.toNat :=
            Nat.mul_div_cancel _ positive
          refine ⟨⟨?_, Nat.not_lt.mp payloadFits, hashed, ?_, ?_, ?_, plain⟩, rfl, rfl, rfl, ?_⟩
          · intro empty
            have none := drop_eq_nil_iff.mp empty
            omega
          · rw [taken, Nat.mul_mod_left]
          · rw [taken, hops]
            exact few
          · rw [taken]
            exact inside
          · rw [pathLen]
            dsimp only
            rw [taken, hops, UInt8.ofNat_toNat, written, take_append_drop]

/-- An accepted frame is the form of a valid packet. -/
theorem accepted {frame : Bytes} (read : parse frame = .ok packet) :
    packet.Valid ∧ packet.wire = frame := by
  unfold parse at read
  split at read
  · cases read
  · split at read
    · cases read
    · rename_i long
      cases frame with
      | nil => exact absurd (by decide) long
      | cons first tail =>
        rw [headD_cons, tail_cons] at read
        cases header : parseHeader first with
        | error fault =>
          rw [header] at read
          cases read
        | ok parts =>
          obtain ⟨route, ptype⟩ := parts
          rw [header] at read
          dsimp only [bind, Except.bind] at read
          cases transport : readTransportCodes route tail with
          | error fault =>
            rw [transport] at read
            cases read
          | ok parts =>
            obtain ⟨codes, rest⟩ := parts
            rw [transport] at read
            dsimp only at read
            have bytes := @transportBytes_read ⟨route, ptype, codes, 0, [], []⟩ tail rest transport
            obtain ⟨valid, rfl, rfl, rfl, body⟩ := of_parseBody read bytes.2
            refine ⟨valid, ?_⟩
            rw [wire, body, headerByte_parseHeader header]
            exact congrArg (first :: ·) bytes.1

/-- The codec is a bijection between valid packets and accepted frames. -/
theorem codec_bijection : (∀ packet : Packet, packet.Valid →
      ∃ frame, packet.encode = .ok frame ∧ parse frame = .ok packet) ∧
    (∀ (frame : Bytes) (packet : Packet), parse frame = .ok packet →
      packet.encode = .ok frame) := by
  constructor
  · intro packet valid
    exact ⟨packet.wire, valid.encode, valid.parse_wire⟩
  · intro frame packet read
    obtain ⟨valid, rfl⟩ := accepted read
    exact valid.encode

/-- A packet of twenty-one three-byte hops with transport codes, both ways. -/
theorem codec_bijection_longPath :
    let packet : Packet :=
      ⟨.transportDirect, .rawCustom, (0xBEEF, 7), 3, List.replicate 63 9, [1, 2]⟩
    (∃ frame, packet.encode = .ok frame ∧ parse frame = .ok packet) ∧
      ∀ frame, parse frame = .ok packet → packet.encode = .ok frame :=
  ⟨codec_bijection.1 _ ⟨by decide, by decide, by decide, by decide, by decide, by decide, nofun⟩,
    fun frame => codec_bijection.2 frame _⟩

end Packet

end MeshStar.MeshCore

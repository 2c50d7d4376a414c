import MeshStar.Transparent

/-!
# The packet codec in both directions

Encoding then decoding returns the packet, for every packet the format can carry, and
decoding then encoding returns the frame, for every frame whose tag was checked or that
has none: the decoder accepts no second spelling of a packet.

The header is a row of fixed-width fields. Reading a written header is evaluation of the
reader at fixed offsets; writing a read header puts the slices of the frame back in
their place. The tag input is the header with the fields a relay rewrites zeroed,
followed by the payload; since the header part has a fixed length, it determines every
other field and the payload.
-/

namespace MeshStar

open List

@[simp] theorem Address.asBytes_length (address : Address) : address.asBytes.length = 8 :=
  BigEndian.encode_length _ _

variable {start : Nat} {bytes : Bytes}

section Slices

variable {stop : Nat}

/-- Neighbouring slices join. -/
theorem slice_append_slice (bytes : Bytes) {middle : Nat} (ordered : start ≤ middle)
    (inside : middle ≤ stop) :
    slice bytes start middle ++ slice bytes middle stop = slice bytes start stop := by
  have kept : (bytes.take stop).take middle = bytes.take middle := by
    rw [take_take, Nat.min_eq_left inside]
  have joined := take_append_drop (middle - start) ((bytes.take stop).drop start)
  rw [take_drop, Nat.add_sub_cancel' ordered, kept, drop_drop,
    Nat.add_sub_cancel' ordered] at joined
  exact joined

/-- A slice inside a byte string has the length of its range. -/
theorem slice_length (inside : stop ≤ bytes.length) :
    (slice bytes start stop).length = stop - start := by
  rw [slice, length_drop, length_take, Nat.min_eq_left inside]

/-- A slice of one byte. -/
theorem slice_byteAt {index : Nat} (inside : index < bytes.length) :
    slice bytes index (index + 1) = [byteAt bytes index] := by
  rw [slice, take_add_one, drop_append_of_le_length (by rw [length_take]; omega),
    drop_of_length_le (by rw [length_take]; omega), byteAt, List.getD,
    List.getElem?_eq_getElem inside]
  rfl

/-- A slice behind the leading bytes is a slice of the rest. -/
theorem slice_skip {leading rest : Bytes} (after : leading.length ≤ start) :
    slice (leading ++ rest) start stop =
      slice rest (start - leading.length) (stop - leading.length) := by
  have short : (leading.take stop).length ≤ start := Nat.le_trans (length_take_le' _ _) after
  rw [slice, slice, take_append, drop_append, drop_of_length_le short, nil_append, length_take]
  rcases Nat.le_total leading.length stop with longer | shorter
  · rw [Nat.min_eq_right longer]
  · rw [Nat.sub_eq_zero_of_le shorter, take_zero, drop_nil, drop_nil]

/-- A slice of the leading bytes is the leading bytes. -/
theorem slice_whole {leading rest : Bytes} (whole : leading.length = stop) :
    slice (leading ++ rest) 0 stop = leading := by
  rw [slice, ← whole, take_left, drop_zero]

/-- A byte string is a slice of it and the rest. -/
theorem slice_zero_append_drop (bytes : Bytes) (stop : Nat) :
    slice bytes 0 stop ++ bytes.drop stop = bytes := by
  rw [slice, drop_zero, take_append_drop]

end Slices

namespace Header

section Written

variable (header : Header) (payloadLen : UInt8) (rest : Bytes)

/-- The fields of a written header, from left to right. -/
theorem write_fields : header.write payloadLen ++ rest =
    [(protocolVersion <<< 4) ||| header.ptype.toU8, header.flags, header.ttl, header.hops] ++
      (header.src.asBytes ++ (header.dst.asBytes ++ (BigEndian.encode 4 header.packetId.toNat ++
        (BigEndian.encode 2 header.seq.toNat ++ (BigEndian.encode 2 header.nextHop.toNat ++
          (BigEndian.encode 2 header.relay.toNat ++ ([payloadLen] ++ rest))))))) := by
  simp only [write, append_assoc]

theorem write_length : (header.write payloadLen).length = headerLen := by
  simp [write, headerLen]

/-- Every field of a written header is read back at its offset. -/
theorem write_slices {wire : Bytes} (written : header.write payloadLen ++ rest = wire) :
    slice wire 4 12 = header.src.asBytes ∧ slice wire 12 20 = header.dst.asBytes ∧
      slice wire 20 24 = BigEndian.encode 4 header.packetId.toNat ∧
      slice wire 24 26 = BigEndian.encode 2 header.seq.toNat ∧
      slice wire 26 28 = BigEndian.encode 2 header.nextHop.toNat ∧
      slice wire 28 30 = BigEndian.encode 2 header.relay.toNat ∧
      slice wire 30 31 = [payloadLen] := by
  subst written
  refine ⟨?_, ?_, ?_, ?_, ?_, ?_, ?_⟩
  all_goals
    rw [write_fields]
    simp (disch := simp) only [slice_skip, length_cons, length_nil, Address.asBytes_length,
      BigEndian.encode_length, Nat.reduceAdd, Nat.reduceSub]
    exact slice_whole (by simp)

/-- The bytes of a written header before its addresses, and its last one. -/
theorem write_bytes {wire : Bytes} (written : header.write payloadLen ++ rest = wire) :
    byteAt wire 0 = (protocolVersion <<< 4) ||| header.ptype.toU8 ∧
      byteAt wire 1 = header.flags ∧ byteAt wire 2 = header.ttl ∧ byteAt wire 3 = header.hops ∧
      byteAt wire 30 = payloadLen := by
  subst written
  have last := (header.write_slices payloadLen rest rfl).2.2.2.2.2.2
  rw [slice_byteAt (by rw [length_append, write_length, headerLen]; omega)] at last
  refine ⟨?_, ?_, ?_, ?_, head_eq_of_cons_eq last⟩
  all_goals
    rw [write_fields]
    rfl

end Written

/-- The fields a header may have on the air, under a hop limit. -/
structure Valid (header : Header) (maxTtlAllowed : UInt8) : Prop where
  alive : 1 ≤ header.ttl
  allowed : header.ttl ≤ maxTtlAllowed
  limited : header.ttl.toNat + header.hops.toNat ≤ 255
  srcNull : header.src ≠ Address.null
  srcBroadcast : header.src ≠ Address.broadcast
  dstNull : header.dst ≠ Address.null

/-- The version and type nibbles survive their byte. -/
theorem first_byte (ptype : PacketType) :
    ((protocolVersion <<< 4) ||| ptype.toU8) >>> 4 = protocolVersion ∧
      PacketType.fromU8 ((protocolVersion <<< 4) ||| ptype.toU8) = some ptype := by
  cases ptype <;> decide

/-- An address is read back from its bytes. -/
theorem fromBytes_asBytes (address : Address) : Address.fromBytes address.asBytes =
    .ok address := by
  have bounded : address.value.toNat < 256 ^ addressLen := address.value.toNat_lt
  have whole : address.asBytes.take addressLen = address.asBytes :=
    take_of_length_le (Nat.le_of_eq address.asBytes_length)
  have long : ¬address.asBytes.length < addressLen := by
    rw [Address.asBytes_length]
    decide
  rw [Address.fromBytes, if_neg long, whole, Address.asBytes,
    BigEndian.decode_encode_of_lt _ _ bounded, UInt64.ofNat_toNat]

/-- An address is determined by its bytes. -/
theorem asBytes_injective {first second : Address} (same : first.asBytes = second.asBytes) :
    first = second := by
  have read := fromBytes_asBytes first
  rw [same, fromBytes_asBytes] at read
  cases read
  rfl

/-- The fields of a written header that its bytes determine, whatever follows them. -/
theorem write_injective {first second : Header} {firstLen secondLen : UInt8}
    {firstRest secondRest : Bytes}
    (same : first.write firstLen ++ firstRest = second.write secondLen ++ secondRest) :
    first = second ∧ firstRest = secondRest := by
  obtain ⟨firstByte, flags, ttl, hops, _⟩ := first.write_bytes firstLen firstRest rfl
  obtain ⟨src, dst, packetId, seq, nextHop, relay, _⟩ := first.write_slices firstLen firstRest rfl
  obtain ⟨firstByte', flags', ttl', hops', _⟩ := second.write_bytes secondLen secondRest rfl
  obtain ⟨src', dst', packetId', seq', nextHop', relay', _⟩ :=
    second.write_slices secondLen secondRest rfl
  rw [same] at firstByte flags ttl hops src dst packetId seq nextHop relay
  have ptype : first.ptype = second.ptype := by
    have read := (first_byte first.ptype).2
    rw [← firstByte, firstByte', (first_byte second.ptype).2] at read
    exact (Option.some.inj read).symm
  have half {left right : UInt16}
      (written : BigEndian.encode 2 left.toNat = BigEndian.encode 2 right.toNat) : left = right :=
    UInt16.toNat_inj.mp (BigEndian.encode_injective 2 _ _ left.toNat_lt right.toNat_lt written)
  have word : first.packetId = second.packetId :=
    UInt32.toNat_inj.mp (BigEndian.encode_injective 4 _ _ first.packetId.toNat_lt
      second.packetId.toNat_lt (packetId.symm.trans packetId'))
  refine ⟨?_, (append_inj same (by rw [write_length, write_length])).2⟩
  obtain ⟨_, _, _, _, _, _, _, _, _, _⟩ := first
  obtain ⟨_, _, _, _, _, _, _, _, _, _⟩ := second
  simp only [Header.mk.injEq]
  exact ⟨ptype, flags.symm.trans flags', ttl.symm.trans ttl', hops.symm.trans hops',
    asBytes_injective (src.symm.trans src'), asBytes_injective (dst.symm.trans dst'), word,
    half (seq.symm.trans seq'), half (nextHop.symm.trans nextHop'),
    half (relay.symm.trans relay')⟩

/-- Reading a written header returns the header and the payload length. -/
theorem parse_write {header : Header} {maxTtlAllowed : UInt8} (valid : header.Valid maxTtlAllowed)
    (payloadLen : UInt8) (rest : Bytes) :
    parse (header.write payloadLen ++ rest) maxTtlAllowed = .ok (header, payloadLen.toNat) := by
  obtain ⟨first, flags, ttl, hops, last⟩ := header.write_bytes payloadLen rest rfl
  obtain ⟨src, dst, packetId, seq, nextHop, relay, _⟩ := header.write_slices payloadLen rest rfl
  obtain ⟨version, ptype⟩ := first_byte header.ptype
  have long : ¬(header.write payloadLen ++ rest).length < headerLen := by
    rw [length_append, write_length]
    omega
  have ttlRange : ¬(header.ttl = 0 ∨ header.ttl > maxTtlAllowed) := by
    rintro (zero | above)
    · exact absurd valid.alive (by rw [zero]; decide)
    · exact absurd valid.allowed (UInt8.not_le.mpr above)
  have hopLimit : ¬header.hops.toNat + header.ttl.toNat > maxTtl.toNat := by
    have limited := valid.limited
    change ¬header.hops.toNat + header.ttl.toNat > 255
    omega
  have addresses : (header.src.isNull || header.src.isBroadcast || header.dst.isNull) = false := by
    simp [Address.isNull, Address.isBroadcast, valid.srcNull, valid.srcBroadcast, valid.dstNull]
  have id : header.packetId.toNat < 256 ^ 4 := header.packetId.toNat_lt
  have number : header.seq.toNat < 256 ^ 2 := header.seq.toNat_lt
  have hint : header.nextHop.toNat < 256 ^ 2 := header.nextHop.toNat_lt
  have transmitter : header.relay.toNat < 256 ^ 2 := header.relay.toNat_lt
  simp only [parse, long, ↓reduceIte, first, version, ptype, ttl, hops, src, dst, packetId, seq,
    nextHop, relay, last, flags, ttlRange, hopLimit, fromBytes_asBytes, addresses, ne_eq,
    not_true_eq_false, bind, Except.bind, pure, Except.pure, Bool.false_eq_true,
    BigEndian.decode_encode_of_lt _ _ id, BigEndian.decode_encode_of_lt _ _ number,
    BigEndian.decode_encode_of_lt _ _ hint, BigEndian.decode_encode_of_lt _ _ transmitter,
    UInt32.ofNat_toNat, UInt16.ofNat_toNat]

/-- A byte with the protocol's version nibble and a known type is the byte written for
that type. -/
theorem first_byte_exact {byte : UInt8} {ptype : PacketType}
    (version : byte >>> 4 = protocolVersion)
    (known : PacketType.fromU8 byte = some ptype) :
    (protocolVersion <<< 4) ||| ptype.toU8 = byte := by
  have exhaustive : ∀ value < 256, UInt8.ofNat value >>> 4 = protocolVersion →
      (PacketType.fromU8 (UInt8.ofNat value)).all
        (fun known => (protocolVersion <<< 4) ||| known.toU8 = UInt8.ofNat value) = true := by
    decide +kernel
  have here := exhaustive byte.toNat byte.toNat_lt
  rw [UInt8.ofNat_toNat, known] at here
  exact of_decide_eq_true (here version)

/-- A read half-word is written back as the bytes it was read from. -/
theorem encode_slice {width : Nat} (inside : start + width ≤ bytes.length) :
    BigEndian.decode (slice bytes start (start + width)) < 256 ^ width ∧
      BigEndian.encode width (BigEndian.decode (slice bytes start (start + width))) =
        slice bytes start (start + width) := by
  have size : (slice bytes start (start + width)).length = width := by
    rw [slice_length inside, Nat.add_sub_cancel_left]
  have bounded := BigEndian.decode_lt (slice bytes start (start + width))
  have restored := BigEndian.encode_decode (slice bytes start (start + width))
  rw [size] at bounded restored
  exact ⟨bounded, restored⟩

theorem encode_half (start : Nat) (inside : start + 2 ≤ bytes.length) :
    BigEndian.encode 2 (UInt16.ofNat (BigEndian.decode (slice bytes start (start + 2)))).toNat =
      slice bytes start (start + 2) := by
  rw [UInt16.toNat_ofNat_of_lt' (encode_slice inside).1, (encode_slice inside).2]

theorem encode_word (start : Nat) (inside : start + 4 ≤ bytes.length) :
    BigEndian.encode 4 (UInt32.ofNat (BigEndian.decode (slice bytes start (start + 4)))).toNat =
      slice bytes start (start + 4) := by
  rw [UInt32.toNat_ofNat_of_lt' (encode_slice inside).1, (encode_slice inside).2]

/-- Writing a read address returns the bytes it was read from. -/
theorem asBytes_fromBytes {address : Address} (length : bytes.length = addressLen)
    (read : Address.fromBytes bytes = .ok address) : address.asBytes = bytes := by
  have whole : bytes.take addressLen = bytes := take_of_length_le (Nat.le_of_eq length)
  have value : BigEndian.decode bytes < 2 ^ 64 := by
    have bounded := BigEndian.decode_lt bytes
    rwa [length] at bounded
  rw [Address.fromBytes, if_neg (Nat.not_lt.mpr (Nat.le_of_eq length.symm)), whole] at read
  cases read
  rw [Address.asBytes, UInt64.toNat_ofNat_of_lt' value, ← length, BigEndian.encode_decode]

/-- A header that is read is valid, and writing it returns the bytes it was read from. -/
theorem write_parse {maxTtlAllowed : UInt8} {header : Header} {payloadLen : Nat}
    (parsed : parse bytes maxTtlAllowed = .ok (header, payloadLen)) :
    headerLen ≤ bytes.length ∧ payloadLen = (byteAt bytes 30).toNat ∧
      header.write (byteAt bytes 30) = slice bytes 0 headerLen := by
  simp only [parse, bind, Except.bind, throw, throwThe, MonadExceptOf.throw, pure,
    Except.pure] at parsed
  repeat' split at parsed
  all_goals cases parsed
  rename_i long version _ ptype known ttlRange hopLimit _ src readSrc _ dst readDst addresses
  rw [headerLen, Nat.not_lt] at long
  rw [ne_eq, not_not] at version
  have srcBytes : src.asBytes = slice bytes 4 12 :=
    asBytes_fromBytes (slice_length (Nat.le_trans (by decide) long)) readSrc
  have dstBytes : dst.asBytes = slice bytes 12 20 :=
    asBytes_fromBytes (slice_length (Nat.le_trans (by decide) long)) readDst
  have idBytes := encode_word 20 (Nat.le_trans (by decide : 20 + 4 ≤ 31) long)
  have seqBytes := encode_half 24 (Nat.le_trans (by decide : 24 + 2 ≤ 31) long)
  have hopBytes := encode_half 26 (Nat.le_trans (by decide : 26 + 2 ≤ 31) long)
  have relayBytes := encode_half 28 (Nat.le_trans (by decide : 28 + 2 ≤ 31) long)
  simp only [Nat.reduceAdd] at idBytes seqBytes hopBytes relayBytes
  have single {index : Nat} (inside : index < 31) :
      [byteAt bytes index] = slice bytes index (index + 1) :=
    (slice_byteAt (Nat.lt_of_lt_of_le inside long)).symm
  have leading : [byteAt bytes 0, byteAt bytes 1, byteAt bytes 2, byteAt bytes 3] =
      slice bytes 0 4 := by
    calc [byteAt bytes 0, byteAt bytes 1, byteAt bytes 2, byteAt bytes 3]
        = [byteAt bytes 0] ++ [byteAt bytes 1] ++ [byteAt bytes 2] ++ [byteAt bytes 3] := rfl
      _ = slice bytes 0 4 := by
        rw [single (by decide), single (by decide), single (by decide), single (by decide),
          slice_append_slice _ (by decide) (by decide), slice_append_slice _ (by decide)
            (by decide),
          slice_append_slice _ (by decide) (by decide)]
  refine ⟨long, rfl, ?_⟩
  simp only [write, first_byte_exact version known, leading, srcBytes, dstBytes, idBytes, seqBytes,
    hopBytes, relayBytes, single (by decide : 30 < 31)]
  simp only [slice_append_slice bytes (by decide : 0 ≤ 4) (by decide : 4 ≤ 12),
    slice_append_slice bytes (by decide : 0 ≤ 12) (by decide : 12 ≤ 20),
    slice_append_slice bytes (by decide : 0 ≤ 20) (by decide : 20 ≤ 24),
    slice_append_slice bytes (by decide : 0 ≤ 24) (by decide : 24 ≤ 26),
    slice_append_slice bytes (by decide : 0 ≤ 26) (by decide : 26 ≤ 28),
    slice_append_slice bytes (by decide : 0 ≤ 28) (by decide : 28 ≤ 30),
    slice_append_slice bytes (by decide : 0 ≤ 30) (by decide : 30 ≤ 31), headerLen]

end Header

variable [Primitives]

/-- A tag has its fixed size. -/
theorem NetworkKey.tag_length (network : NetworkKey) {aad payload : Bytes} :
    (network.tag aad payload).length = netTagLen := by
  rw [NetworkKey.tag, length_take,
    (Primitives.hmacSha256 network.key.val (aad ++ payload)).property]
  rfl

namespace Packet

variable {frame : Bytes} {network : Option NetworkKey} {maxTtlAllowed : UInt8} {packet : Packet}

/-- The packets the format carries under a hop limit. -/
structure Valid (packet : Packet) (maxTtlAllowed : UInt8) : Prop where
  header : packet.header.Valid maxTtlAllowed
  linkLocal : packet.header.ptype.isLinkLocal → packet.header.dst = Address.broadcast
  fragment : packet.header.has Flags.fragmented →
    ∃ fragment, FragHeader.parse packet.payload = .ok fragment
  fits : packet.payload.length ≤ maxPayload (packet.header.has Flags.netAuth)

/-- The tag a packet carries under a network key. -/
def tagOf (packet : Packet) : Option NetworkKey → Bytes
  | none => []
  | some network =>
    network.tag (packet.header.aad (UInt8.ofNat packet.payload.length)) packet.payload

/-- The frame of a packet whose tag flag agrees with the key. -/
theorem encode_eq {network : Option NetworkKey}
    (fits : packet.payload.length ≤ maxPayload (packet.header.has Flags.netAuth))
    (agrees : packet.header.has Flags.netAuth = network.isSome) :
    packet.encode network = .ok (packet.header.write (UInt8.ofNat packet.payload.length) ++
      (packet.payload ++ packet.tagOf network)) := by
  rw [agrees] at fits
  cases network with
  | none => simpa [encode, agrees, tagOf] using fits
  | some network => simpa [encode, agrees, tagOf] using fits

/-- A tag is present exactly under a key. -/
theorem tagOf_length (packet : Packet) (network : Option NetworkKey) :
    (packet.tagOf network).length = if network.isSome then netTagLen else 0 := by
  cases network with
  | none => rfl
  | some network => exact network.tag_length

/-- Everything the decoder checks of a frame it turns into a packet. -/
structure Accepted (frame : Bytes) (network : Option NetworkKey) (maxTtlAllowed : UInt8)
    (packet : Packet) (payloadLen : Nat) : Prop where
  short : frame.length ≤ maxFrame
  parsed : Header.parse frame maxTtlAllowed = .ok (packet.header, payloadLen)
  whole : frame.length =
    headerLen + payloadLen + if packet.header.has Flags.netAuth then netTagLen else 0
  payload : slice frame headerLen (headerLen + payloadLen) = packet.payload
  authentic : ∀ key, network = some key → packet.header.has Flags.netAuth = true ∧
    key.tag (packet.header.aad (UInt8.ofNat payloadLen)) packet.payload =
      frame.drop (headerLen + payloadLen)
  fragment : packet.header.has Flags.fragmented = true →
    ∃ fragment, FragHeader.parse packet.payload = .ok fragment
  linkLocal : packet.header.ptype.isLinkLocal = true → packet.header.dst.isBroadcast = true

/-- A frame that passes every check is decoded. -/
theorem Accepted.decode {payloadLen : Nat}
    (accepted : Accepted frame network maxTtlAllowed packet payloadLen) :
    decode frame network maxTtlAllowed = .ok packet := by
  obtain ⟨header, payload⟩ := packet
  obtain ⟨short, parsed, whole, rfl, authentic, fragment, linkLocal⟩ := accepted
  simp only at parsed whole authentic fragment linkLocal
  have notLong : (frame.length > maxFrame) = False := eq_false (Nat.not_lt.mpr short)
  have exactly : (frame.length ≠
      headerLen + payloadLen + if header.has Flags.netAuth then netTagLen else 0) = False :=
    eq_false (not_not.mpr whole)
  have last : (header.ptype.isLinkLocal && !header.dst.isBroadcast) = false := by
    cases isLocal : header.ptype.isLinkLocal with
    | false => rfl
    | true => rw [linkLocal isLocal]; rfl
  cases network with
  | none =>
    cases fragmented : header.has Flags.fragmented with
    | false =>
      simp only [Packet.decode, notLong, ↓reduceIte, parsed, bind, Except.bind, exactly, pure,
        Except.pure, fragmented, Bool.false_eq_true, last]
    | true =>
      obtain ⟨found, read⟩ := fragment fragmented
      simp only [Packet.decode, notLong, ↓reduceIte, parsed, bind, Except.bind, exactly, pure,
        Except.pure, fragmented, read, Bool.false_eq_true, last]
  | some key =>
    obtain ⟨tagged, same⟩ := authentic key rfl
    rw [tagged, if_pos rfl] at whole
    have taggedLength : (frame.length = headerLen + payloadLen + netTagLen) = True := eq_true whole
    cases fragmented : header.has Flags.fragmented with
    | false =>
      simp only [Packet.decode, notLong, ↓reduceIte, parsed, bind, Except.bind, taggedLength, pure,
        Except.pure, tagged, same, Bool.not_true, ne_eq, not_true_eq_false, fragmented,
        Bool.false_eq_true, last]
    | true =>
      obtain ⟨found, read⟩ := fragment fragmented
      simp only [Packet.decode, notLong, ↓reduceIte, parsed, bind, Except.bind, taggedLength, pure,
        Except.pure, tagged, same, Bool.not_true, ne_eq, not_true_eq_false, fragmented, read,
        Bool.false_eq_true, last]

/-- A decoded frame has passed every check. -/
theorem accepted_of_decode (decoded : decode frame network maxTtlAllowed = .ok packet) :
    ∃ payloadLen, Accepted frame network maxTtlAllowed packet payloadLen := by
  simp only [Packet.decode, bind, Except.bind, throw, throwThe, MonadExceptOf.throw, pure,
    Except.pure] at decoded
  repeat' split at decoded
  all_goals cases decoded
  -- The branches that return a packet: tagged or not, under a key or not, fragment or not.
  all_goals
    refine ⟨_, Nat.le_of_not_lt (by assumption), by assumption, ?_, rfl, ?_, ?_, ?_⟩
  all_goals simp_all

/-- Decoding the frame of a valid packet returns the packet. -/
theorem decode_encode {network : Option NetworkKey} {maxTtlAllowed : UInt8}
    (valid : packet.Valid maxTtlAllowed)
    (agrees : packet.header.has Flags.netAuth = network.isSome) :
    ∃ frame, packet.encode network = .ok frame ∧ decode frame network maxTtlAllowed =
      .ok packet := by
  refine ⟨_, encode_eq valid.fits agrees, ?_⟩
  apply Accepted.decode
  have fits : packet.payload.length ≤ 255 - 31 - if network.isSome then netTagLen else 0 :=
    agrees ▸ valid.fits
  have tagLength := packet.tagOf_length network
  have small : packet.payload.length < 256 := by omega
  have sameLength : (UInt8.ofNat packet.payload.length).toNat = packet.payload.length :=
    UInt8.toNat_ofNat_of_lt' small
  have parsed := Header.parse_write valid.header (UInt8.ofNat packet.payload.length)
    (packet.payload ++ packet.tagOf network)
  rw [sameLength] at parsed
  have headerLength := packet.header.write_length (UInt8.ofNat packet.payload.length)
  generalize packet.header.write (UInt8.ofNat packet.payload.length) = leading
    at parsed headerLength
  have frameLength : (leading ++ (packet.payload ++ packet.tagOf network)).length =
      headerLen + packet.payload.length + if network.isSome then netTagLen else 0 := by
    rw [length_append, length_append, headerLength, tagLength, Nat.add_assoc]
  have tagPart : (leading ++ (packet.payload ++ packet.tagOf network)).drop
      (headerLen + packet.payload.length) = packet.tagOf network := by
    rw [← headerLength, ← drop_drop, drop_left, drop_left]
  refine ⟨?_, parsed, agrees ▸ frameLength, ?_, ?_, valid.fragment, ?_⟩
  · rw [frameLength]
    change 31 + packet.payload.length + _ ≤ 255
    cases network <;> simp only [Option.isSome, ↓reduceIte, Bool.false_eq_true, netTagLen]
      at fits ⊢ <;>
      omega
  · rw [slice_skip (Nat.le_of_eq headerLength), headerLength, Nat.sub_self, Nat.add_sub_cancel_left,
      slice_whole rfl]
  · rintro key rfl
    exact ⟨agrees, tagPart.symm⟩
  · intro isLocal
    rw [valid.linkLocal isLocal]
    rfl

/-- Encoding a decoded packet returns the frame, unless a tag was left unchecked. -/
theorem encode_decode (decoded : decode frame network maxTtlAllowed = .ok packet)
    (checked : network = none → packet.header.has Flags.netAuth = false) :
    packet.encode network = .ok frame := by
  obtain ⟨payloadLen, accepted⟩ := accepted_of_decode decoded
  obtain ⟨long, lengthByte, leading⟩ := Header.write_parse accepted.parsed
  have agrees : packet.header.has Flags.netAuth = network.isSome := by
    cases network with
    | none => exact checked rfl
    | some key => exact (accepted.authentic key rfl).1
  have whole := accepted.whole
  have short := accepted.short
  have payloadLength : packet.payload.length = payloadLen := by
    rw [← accepted.payload, slice_length (by omega), Nat.add_sub_cancel_left]
  have lengthField : UInt8.ofNat packet.payload.length = byteAt frame 30 := by
    rw [payloadLength, lengthByte, UInt8.ofNat_toNat]
  have fits : packet.payload.length ≤ maxPayload (packet.header.has Flags.netAuth) := by
    rw [whole] at short
    change 31 + payloadLen + _ ≤ 255 at short
    change _ ≤ 255 - 31 - _
    omega
  have tag : packet.tagOf network = frame.drop (headerLen + payloadLen) := by
    cases network with
    | none =>
      rw [agrees] at whole
      have ends : frame.length ≤ headerLen + payloadLen := Nat.le_of_eq whole
      rw [drop_of_length_le ends]
      rfl
    | some key =>
      rw [tagOf, payloadLength]
      exact (accepted.authentic key rfl).2
  rw [encode_eq fits agrees, lengthField, leading, tag, ← accepted.payload]
  congr 1
  rw [← append_assoc, slice_append_slice _ (Nat.zero_le _) (Nat.le_add_right _ _),
    slice_zero_append_drop]

/-- The bytes a network tag authenticates. -/
def tagInput (packet : Packet) : Bytes :=
  packet.header.aad (UInt8.ofNat packet.payload.length) ++ packet.payload

/-- Two packets that a relay could have turned into one another: they differ at most in
time to live, hop count, next hop and relay. -/
structure SameMessage (first second : Packet) : Prop where
  ptype : first.header.ptype = second.header.ptype
  flags : first.header.flags = second.header.flags
  src : first.header.src = second.header.src
  dst : first.header.dst = second.header.dst
  packetId : first.header.packetId = second.header.packetId
  seq : first.header.seq = second.header.seq
  payload : first.payload = second.payload

section

omit [Primitives]

theorem SameMessage.symm {first second : Packet} (same : SameMessage first second) :
    SameMessage second first :=
  ⟨same.ptype.symm, same.flags.symm, same.src.symm, same.dst.symm, same.packetId.symm,
    same.seq.symm, same.payload.symm⟩

theorem SameMessage.trans {first second third : Packet} (former : SameMessage first second)
    (latter : SameMessage second third) : SameMessage first third :=
  ⟨former.ptype.trans latter.ptype, former.flags.trans latter.flags, former.src.trans latter.src,
    former.dst.trans latter.dst, former.packetId.trans latter.packetId,
    former.seq.trans latter.seq, former.payload.trans latter.payload⟩

/-- The tag input is blind to what a relay rewrites, and to nothing else. -/
theorem tagInput_eq_iff (first second : Packet) :
    first.tagInput = second.tagInput ↔ SameMessage first second := by
  constructor
  · intro same
    obtain ⟨headers, payloads⟩ := Header.write_injective same
    simp only [Header.mk.injEq] at headers
    obtain ⟨ptype, flags, _, _, src, dst, packetId, seq, _, _⟩ := headers
    exact ⟨ptype, flags, src, dst, packetId, seq, payloads⟩
  · rintro ⟨ptype, flags, src, dst, packetId, seq, payload⟩
    rw [tagInput, tagInput, Header.aad, Header.aad, ptype, flags, src, dst, packetId, seq, payload]

end

/-- The codec loses nothing and accepts nothing twice. A valid packet whose tag flag
agrees with the key comes back from its frame. A frame accepted under a key, or accepted
without one and untagged, is the frame of the packet it decodes to. The tag is a function
of the tag input, which two packets share exactly when they differ at most in the fields
a relay rewrites. -/
theorem packet_codec (network : Option NetworkKey) (maxTtlAllowed : UInt8) :
    (∀ packet : Packet, packet.Valid maxTtlAllowed →
      packet.header.has Flags.netAuth = network.isSome →
      ∃ frame, packet.encode network = .ok frame ∧
        decode frame network maxTtlAllowed = .ok packet) ∧
    (∀ (frame : Bytes) (packet : Packet), decode frame network maxTtlAllowed = .ok packet →
      network.isSome ∨ packet.header.has Flags.netAuth = false →
      packet.encode network = .ok frame) ∧
    (∀ (packet : Packet) (key : NetworkKey), packet.tagOf (some key) =
      (Primitives.hmacSha256 key.key.val packet.tagInput).val.take netTagLen) ∧
    ∀ first second : Packet, first.tagInput = second.tagInput ↔ SameMessage first second := by
  refine ⟨fun packet => decode_encode, ?_, fun _ _ => rfl, tagInput_eq_iff⟩
  intro frame packet decoded checked
  refine encode_decode decoded ?_
  rintro rfl
  exact checked.resolve_left Bool.false_ne_true

end Packet

end MeshStar

namespace MeshStar.Transparent

local instance codecSuite : Primitives := primitives

/-- A tagged packet of the transparent suite. -/
def taggedPacket : Packet :=
  ⟨(Header.new .data ⟨1⟩ ⟨2⟩ 9 4 32).set Flags.netAuth true, [3, 1, 4]⟩

def sharedKey : NetworkKey := ⟨(identity 5).seed⟩

/-- The tagged packet is valid and survives the codec. -/
theorem packet_codec_tagged : taggedPacket.Valid 64 ∧
    ∃ frame, taggedPacket.encode (some sharedKey) = .ok frame ∧
      Packet.decode frame (some sharedKey) 64 = .ok taggedPacket := by
  have valid : taggedPacket.Valid 64 := by
    refine ⟨⟨?_, ?_, ?_, ?_, ?_, ?_⟩, ?_, fun fragmented => absurd fragmented ?_, ?_⟩ <;> decide
  exact ⟨valid, (Packet.packet_codec (some sharedKey) 64).1 taggedPacket valid rfl⟩

end MeshStar.Transparent

import MeshStar.Discovery
import MeshStar.Interop.Adapter
import MeshStar.Neighbor
import MeshStar.PacketCodec
import MeshStar.Session

/-!
# The native adapter

The gateway's view of MeshStar itself. It classifies frames, exposes what can be seen from
outside a session and encodes broadcasts; session traffic stays opaque to it.

`encode_ok_iff` says which messages it can send: broadcasts of text or bytes that fit one
frame after the network key's tags have taken their share.
-/

namespace MeshStar

def PacketType.name : PacketType → Text
  | beacon => "BEACON".toList
  | data => "DATA".toList
  | ack => "ACK".toList
  | routeRequest => "ROUTE_REQUEST".toList
  | routeReply => "ROUTE_REPLY".toList
  | routeError => "ROUTE_ERROR".toList
  | store => "STORE".toList
  | fetch => "FETCH".toList
  | handshake => "HANDSHAKE".toList
  | control => "CONTROL".toList

def Role.name : Role → Text
  | normal => "NORMAL".toList
  | leaf => "LEAF".toList
  | anchor => "ANCHOR".toList

/-- The name printed for an error. -/
def Error.display : Error → Text
  | truncated => "Truncated".toList
  | badVersion => "BadVersion".toList
  | badType => "BadType".toList
  | badField => "BadField".toList
  | badTtl => "BadTtl".toList
  | duplicate => "Duplicate".toList
  | authFailed => "AuthFailed".toList
  | replay => "Replay".toList
  | noSession => "NoSession".toList
  | handshakeState => "HandshakeState".toList
  | tooLarge => "TooLarge".toList
  | noRoute => "NoRoute".toList
  | full => "Full".toList
  | roleViolation => "RoleViolation".toList
  | expired => "Expired".toList
  | notFound => "NotFound".toList

/-- Native adapter: the network key of a private mesh and the address broadcasts are sent
from. -/
structure MeshStarAdapter where
  networkKey : Option NetworkKey
  localAddress : Option Address
  deriving DecidableEq

/-- The security a header promises, and whether the payload is encrypted. -/
def securityOf (header : Header) : SecurityLevel × Bool :=
  if header.has Flags.envelope then (.meshStarEnvelope, true)
  else if header.has Flags.encrypted then (.meshStarE2E, true)
  else if header.has Flags.groupEncrypted then (.meshStarGroup, true)
  else (.plaintext, false)

namespace MeshStarAdapter

def capabilities : ProtocolCapabilities where
  text := true
  binary := true
  replies := true
  channels := true
  storeForward := true
  e2eIdentity := true
  forwardSecrecy := true
  position := true
  acknowledgements := true
  maxTextBytes := 2048
  maxBinaryBytes := 2048
  maxHops := maxTtl

/-- Whether a payload can belong to its packet type and flags. -/
def isPlausible (packet : Packet) : Bool :=
  let header := packet.header
  let length := packet.payload.length
  match header.ptype with
  | .beacon => (Beacon.decode packet.payload).isOk
  | .data =>
    if header.has Flags.envelope then length ≥ 4 + envelopeOverhead
    else if header.has Flags.encrypted then
      length ≥ transportOverhead && !header.dst.isBroadcast
    else if header.has Flags.groupEncrypted then length ≥ tagLen && header.dst.isBroadcast
    else true
  | .ack => length = 3 + transportOverhead ||
      (header.has Flags.envelope && length ≥ 4 + envelopeOverhead)
  | .routeRequest => header.dst.isBroadcast && (RouteRequest.decode packet.payload).isOk
  | .routeReply => !header.dst.isBroadcast && (RouteReply.decode packet.payload).isOk
  | .routeError => (RouteError.decode packet.payload).isOk
  | .handshake => length > 32 && !header.dst.isBroadcast
  | .store => header.has Flags.encrypted && length ≥ transportOverhead
  | .fetch => header.has Flags.encrypted && length ≥ transportOverhead
  | .control => length ≥ 1 && !header.dst.isBroadcast

variable [Primitives]

/-- What a network access tag adds to the score; a tag that fails our key rejects. -/
def tagScore (adapter : MeshStarAdapter) (frame : Bytes) (packet : Packet)
    (score : DetectionScore) : Option DetectionScore :=
  if packet.header.has Flags.netAuth then
    match adapter.networkKey with
    | some key =>
      if (Packet.decode frame (some key) maxTtl).isOk then some (score.add 55) else none
    | none => some (score.add 20)
  else some score

def detect (adapter : MeshStarAdapter) (frame : Bytes) (_rx : RxMeta)
    (context : ProtocolContext) : DetectionScore :=
  let score := DetectionScore.none .meshStar
  if frame.length < headerLen then score.reject
  else
    match Packet.decode frame none maxTtl with
    | .error _ => score.reject
    | .ok packet =>
      if !isPlausible packet then score.reject
      else
        match adapter.tagScore frame packet (score.add 65) with
        | none => score.reject
        | some tagged =>
          (tagged.addIf (packet.header.ptype = .beacon && (Beacon.decode packet.payload).isOk)
            40).addIf (context.profile.syncWord = meshStarSyncWord) 10

/-- The content seen from outside a session. -/
def content (adapter : MeshStarAdapter) (packet : Packet) (encrypted : Bool) :
    Except AdapterError (ContentType × Bytes) :=
  let header := packet.header
  match header.ptype with
  | .data =>
    if header.dst.isBroadcast && !encrypted then .ok (.text, packet.payload)
    else if header.dst.isBroadcast then
      match adapter.networkKey with
      | some key =>
        match groupDecrypt key.groupKey header.src header.packetId (header.aad 0)
            packet.payload with
        | .ok plaintext => .ok (.text, plaintext)
        | .error _ => .error .authFailed
      | none => .ok (.opaqueContent, [])
    else .ok (.opaqueContent, [])
  | .beacon => .ok (.advert, [])
  | .ack => .ok (.ack, [])
  | .routeRequest => .ok (.routeControl, [])
  | .routeReply => .ok (.routeControl, [])
  | .routeError => .ok (.routeControl, [])
  | other => .ok (.other other.toU8.toUInt16, [])

/-- What a beacon says about its sender. -/
def describeBeacon (message : UnifiedMessage) (packet : Packet) : UnifiedMessage :=
  if packet.header.ptype = .beacon then
    match Beacon.decode packet.payload with
    | .error _ => message
    | .ok beacon =>
      let described := (message.setMeta "role".toList beacon.role.name).setMeta
        "neighbors".toList (decimal beacon.neighborCount.toNat)
      match beacon.full with
      | some full => described.setMeta "public_key".toList (hexEncode full.publicKey.val)
      | none => described
  else message

def decode (adapter : MeshStarAdapter) (frame : Bytes) (_rx : RxMeta)
    (_context : ProtocolContext) : Except AdapterError UnifiedMessage :=
  match Packet.decode frame adapter.networkKey maxTtl with
  | .error .authFailed => .error .authFailed
  | .error other => .error (.notThisProtocol other.display)
  | .ok packet =>
    let header := packet.header
    let (security, encrypted) := securityOf header
    match adapter.content packet encrypted with
    | .error error => .error error
    | .ok (seen, payload) =>
      let message : UnifiedMessage :=
        { source := .meshStar header.src
          destination := if header.dst.isBroadcast then .broadcast .meshStar
            else .meshStar header.dst
          protocol := .meshStar
          channel := none
          messageId := hexPadded 8 header.packetId.toNat
          replyTo := none
          timestamp := none
          contentType := if seen = .text && (Utf8.decode payload).isNone then .binary else seen
          payload := payload
          encrypted := encrypted
          security := if encrypted then security else .plaintext
          wantsAck := header.has Flags.ackRequest
          bridgePath := []
          bridgeOrigin := none
          protocolMetadata := [] }
      let described := (message.setMeta "packet_type".toList header.ptype.name).setMeta
        "seq".toList (decimal header.seq.toNat)
      .ok (describeBeacon described packet)

/-- The header and body of a broadcast from an address. -/
def broadcastPacket (adapter : MeshStarAdapter) (src : Address) (payload : Bytes)
    (context : ProtocolContext) : Packet :=
  let id := max (UInt32.ofNat (BigEndian.decode (context.random.val.take 4))) 1
  let header := Header.new .data src Address.broadcast id 0 defaultTtl
  match adapter.networkKey with
  | some key =>
    let marked := (header.set Flags.netAuth true).set Flags.groupEncrypted true
    ⟨marked, groupEncrypt key.groupKey src id (marked.aad 0) payload⟩
  | none => ⟨header, payload⟩

/-- Encode a broadcast. Unicast needs a session, which only a node has. -/
def encode (adapter : MeshStarAdapter) (message : UnifiedMessage) (context : ProtocolContext) :
    Except AdapterError OutboundFrame :=
  if !message.destination.isBroadcast then
    .error (.unsupported
      "unicast MeshStar traffic is sent through a Node session, not the adapter".toList)
  else if message.contentType ≠ .text && message.contentType ≠ .binary then
    .error (.unsupported message.contentType.debug)
  else
    match adapter.localAddress with
    | none => .error (.missingContext "local MeshStar address".toList)
    | some src =>
      let packet := adapter.broadcastPacket src message.payload context
      if packet.payload.length > maxPayload (packet.header.has Flags.netAuth) then
        .error .tooLarge
      else
        match packet.encode adapter.networkKey with
        | .error error => .error (.core error)
        | .ok bytes => .ok ⟨.meshStar, bytes, context.profile⟩

/-- The cipher keeps the length of what it encrypts. -/
def KeepsLength : Prop := ∀ (key : Bytes32) (nonce associated plaintext : Bytes),
  (Primitives.aeadEncrypt key nonce associated plaintext).1.length = plaintext.length

/-- Bytes of content that fit one broadcast frame. -/
def room (adapter : MeshStarAdapter) : Nat :=
  if adapter.networkKey.isSome then maxPayload true - tagLen else maxPayload false

/-- A broadcast is tagged exactly under a network key. -/
theorem broadcastPacket_netAuth (adapter : MeshStarAdapter) (src : Address) (payload : Bytes)
    (context : ProtocolContext) :
    (adapter.broadcastPacket src payload context).header.has Flags.netAuth =
      adapter.networkKey.isSome := by
  unfold broadcastPacket
  cases adapter.networkKey with
  | none => exact Header.new_has
  | some key =>
    dsimp only
    rw [Header.has_set_of_disjoint (by decide), Header.has_set_self _ (by decide)]
    rfl

/-- A broadcast fits its frame exactly when the content fits the room there is. -/
theorem broadcastPacket_fits (keepsLength : KeepsLength) (adapter : MeshStarAdapter)
    (src : Address) (payload : Bytes) (context : ProtocolContext) :
    (adapter.broadcastPacket src payload context).payload.length ≤
        maxPayload adapter.networkKey.isSome ↔ payload.length ≤ adapter.room := by
  unfold broadcastPacket room
  cases adapter.networkKey with
  | none => rfl
  | some key =>
    simp only [groupEncrypt, List.length_append, keepsLength _ _ _ _, FixedBytes.length_val,
      Option.isSome_some, if_true, maxPayload, maxFrame, headerLen, netTagLen, tagLen]
    omega

/-- What the adapter can send: broadcasts of text or bytes that fit one frame. -/
theorem encode_ok_iff (keepsLength : KeepsLength) (adapter : MeshStarAdapter)
    (message : UnifiedMessage) (context : ProtocolContext) :
    (adapter.encode message context).isOk = true ↔ message.destination.isBroadcast = true ∧
      (message.contentType = .text ∨ message.contentType = .binary) ∧
      adapter.localAddress.isSome = true ∧ message.payload.length ≤ adapter.room := by
  unfold encode
  by_cases spread : message.destination.isBroadcast = true
  case neg =>
    rw [if_pos (by rw [Bool.not_eq_true _ |>.mp spread]; rfl)]
    exact ⟨fun sent => Bool.noConfusion sent, fun required => absurd required.1 spread⟩
  rw [if_neg (by rw [spread]; decide)]
  by_cases carried : message.contentType = .text ∨ message.contentType = .binary
  case neg =>
    have refused : (message.contentType ≠ .text && message.contentType ≠ .binary) = true := by
      simpa only [Bool.and_eq_true, decide_eq_true_eq, ne_eq, not_or] using carried
    rw [if_pos refused]
    exact ⟨fun sent => Bool.noConfusion sent, fun required => absurd required.2.1 carried⟩
  have passes : ¬(message.contentType ≠ .text && message.contentType ≠ .binary) = true := by
    simp only [Bool.and_eq_true, decide_eq_true_eq, ne_eq, ← not_or, not_not]
    exact carried
  rw [if_neg passes]
  cases adapter.localAddress with
  | none => exact ⟨fun sent => Bool.noConfusion sent, fun required => required.2.2.1⟩
  | some src =>
    have fits := broadcastPacket_fits keepsLength adapter src message.payload context
    have tagged := adapter.broadcastPacket_netAuth src message.payload context
    dsimp only
    by_cases small : message.payload.length ≤ adapter.room
    · have enough := fits.mpr small
      rw [if_neg (by rw [tagged]; omega), Packet.encode_eq (by rw [tagged]; exact enough) tagged]
      exact ⟨fun _ => ⟨spread, carried, rfl, small⟩, fun _ => rfl⟩
    · have large := Nat.lt_of_not_le (mt fits.mp small)
      rw [if_pos (by rw [tagged]; exact large)]
      exact ⟨fun sent => Bool.noConfusion sent, fun required => absurd required.2.2.2 small⟩

/-- The adapter as the gateway holds it. -/
def protocol (adapter : MeshStarAdapter) : RadioProtocol where
  id := .meshStar
  capabilities := capabilities
  detect := adapter.detect
  decode := adapter.decode
  encode := adapter.encode

end MeshStarAdapter

end MeshStar

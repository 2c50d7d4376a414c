import MeshStar.Interop.MeshCore.Adapter
import MeshStar.Interop.MeshCore.Messages

/-!
# MeshCore frames and unified messages

The adapter turns messages into packets and packets into messages. A channel message is
tried against every channel whose hash byte fits, a direct one against every known key with
the right first byte; what no key opens is reported as opaque. The sender of a channel
message is not known: its source is a prefix of no bytes.
-/

namespace MeshStar

variable [Primitives] [BlockCipher]

namespace MeshCore

def publicChannelName : Text := "Public".toList

/-- Metadata keys of the adapter. -/
def Meta.payloadType : Text := "payload_type".toList
def Meta.route : Text := "route".toList
def Meta.hashSize : Text := "hash_size".toList
def Meta.transportCodes : Text := "transport_codes".toList
def Meta.senderName : Text := "sender_name".toList
def Meta.channelHash : Text := "channel_hash".toList
def Meta.ackCode : Text := "ack_code".toList
def Meta.txtType : Text := "txt_type".toList
def Meta.attempt : Text := "attempt".toList
def Meta.authorPrefix : Text := "author_prefix".toList
def Meta.name : Text := "name".toList
def Meta.nodeType : Text := "node_type".toList
def Meta.pubkey : Text := "pubkey".toList
def Meta.dataType : Text := "data_type".toList
def Meta.path : Text := "path".toList
def Meta.opaqueReason : Text := "opaque_reason".toList

def identityRef (publicKey : Bytes32) : IdentityRef := .meshCore (.publicKey publicKey)

def prefixRef (bytes : Bytes) : IdentityRef := .meshCore (.hashPrefix bytes)

/-- A key that decompresses. -/
def verifyingKey (bytes : Bytes) : Option Bytes32 :=
  if bytes.length = 32 then
    (some (FixedBytes.ofSlice 32 bytes)).filter Primitives.ed25519IsCanonical
  else none

/-- The public key a destination stands for: itself, or the one known key with its prefix. -/
def resolvePeer (destination : IdentityRef) (context : ProtocolContext) :
    Except AdapterError Bytes32 :=
  match destination with
  | .meshCore (.publicKey key) => .ok key
  | .meshCore (.hashPrefix bytes) =>
    if bytes = [] then .error (.missingContext "destination has no public key".toList)
    else
      match context.peerKeys.filter (fun peer =>
        peer.2.length = 32 && bytes.isPrefixOf peer.2) with
      | [] => .error (.missingContext ("no peer key with prefix ".toList ++ hexEncode bytes))
      | [peer] => .ok (FixedBytes.ofSlice 32 peer.2)
      | _ => .error (.missingContext ("ambiguous peer prefix ".toList ++ hexEncode bytes))
  | other => .error (.unsupported ("destination ".toList ++ other.canonical ++
      " is not a MeshCore identity".toList))

/-- Route and path of a direct send. -/
def routeAndPath (message : UnifiedMessage) : Except AdapterError (RouteType × Bytes) :=
  match message.metaValue Meta.path with
  | some text =>
    match TextParse.hexDecode text with
    | none => .error (.unsupported "path metadata must be hex".toList)
    | some path => if path.length > maxPathSize then .error .tooLarge else .ok (.direct, path)
  | none =>
    if message.metaValue Meta.zeroHop = some "true".toList then .ok (.direct, [])
    else .ok (.flood, [])

def RouteType.name : RouteType → Text
  | transportFlood => "TRANSPORT_FLOOD".toList
  | flood => "FLOOD".toList
  | direct => "DIRECT".toList
  | transportDirect => "TRANSPORT_DIRECT".toList

def PayloadType.name : PayloadType → Text
  | req => "REQ".toList
  | response => "RESPONSE".toList
  | txtMsg => "TXT_MSG".toList
  | ack => "ACK".toList
  | advert => "ADVERT".toList
  | grpTxt => "GRP_TXT".toList
  | grpData => "GRP_DATA".toList
  | anonReq => "ANON_REQ".toList
  | path => "PATH".toList
  | trace => "TRACE".toList
  | multipart => "MULTIPART".toList
  | control => "CONTROL".toList
  | rawCustom => "RAW_CUSTOM".toList

/-- The hash that tells duplicates; only a trace counts its path. -/
def Packet.packetHash (packet : Packet) : Bytes :=
  let count := UInt8.ofNat (packet.path.length / packet.hashSize.toNat)
  let pathLen := match encodePathLen count packet.hashSize with
    | .ok byte => byte
    | .error _ => count
  let traced := if packet.ptype = .trace then LittleEndian.encode 2 pathLen.toNat else []
  (Primitives.sha256 (packet.ptype.asU8 :: (traced ++ packet.payload))).val.take 8

/-- The message skeleton of a parsed packet. -/
def baseMessage (packet : Packet) : UnifiedMessage :=
  let message : UnifiedMessage :=
    { source := prefixRef []
      destination := .broadcast .meshCore
      protocol := .meshCore
      channel := none
      messageId := hexEncode packet.packetHash
      replyTo := none
      timestamp := none
      contentType := .opaqueContent
      payload := []
      encrypted := false
      security := .plaintext
      wantsAck := false
      bridgePath := []
      bridgeOrigin := none
      protocolMetadata := [] }
  let described := ((message.setMeta Meta.payloadType packet.ptype.name).setMeta Meta.route
    packet.route.name).setMeta Meta.hashSize (decimal packet.hashSize.toNat)
  if packet.route.hasTransportCodes then
    described.setMeta Meta.transportCodes (hexPadded 4 packet.transportCodes.1.toNat ++ [','] ++
      hexPadded 4 packet.transportCodes.2.toNat)
  else described

def opaqueKeepType (message : UnifiedMessage) (reason : Text) : UnifiedMessage :=
  { message with encrypted := true, security := .undecryptable .meshCore }.setMeta
    Meta.opaqueReason reason

/-- Report a message that was not read. -/
def opaqueMessage (message : UnifiedMessage) (reason : Text) : UnifiedMessage :=
  opaqueKeepType { message with contentType := .opaqueContent } reason

/-- Degrees from millionths. -/
def formatE6 (value : Int) : Text :=
  let digits := decimal (value.natAbs % 1000000)
  (if value < 0 then ['-'] else []) ++ decimal (value.natAbs / 1000000) ++ ['.'] ++
    List.replicate (6 - digits.length) '0' ++ digits

def nodeTypeName (nodeType : UInt8) : Text :=
  match nodeType &&& 0x0F with
  | 0 => "none".toList
  | 1 => "chat".toList
  | 2 => "repeater".toList
  | 3 => "room_server".toList
  | 4 => "sensor".toList
  | _ => "future".toList

/-- A signed 32-bit number from its bytes. -/
def readSigned32 (bytes : Bytes) : Int :=
  let value := LittleEndian.decode bytes
  if value < 2 ^ 31 then value else value - 2 ^ 32

/-- A field of the application data: present when its flag is set, missing bytes fail. -/
def takeField (flagged : Bool) (size : Nat) (bytes : Bytes) : Option (Option Bytes × Bytes) :=
  if !flagged then some (none, bytes)
  else if bytes.length < size then none
  else some (some (bytes.take size), bytes.drop size)

def AdvertData.parse : Bytes → Option AdvertData
  | [] => none
  | flags :: fields => do
    let word (bytes : Bytes) : UInt16 := UInt16.ofNat (LittleEndian.decode bytes)
    let (location, rest) ← takeField (flags &&& advLatlonMask != 0) 8 fields
    let (feature1, rest) ← takeField (flags &&& advFeat1Mask != 0) 2 rest
    let (feature2, rest) ← takeField (flags &&& advFeat2Mask != 0) 2 rest
    return ⟨flags &&& 0x0F, location.map (fun bytes => readSigned32 (bytes.take 4)),
      location.map (fun bytes => readSigned32 (bytes.drop 4)), feature1.map word, feature2.map word,
      if flags &&& advNameMask != 0 then some (Utf8.longestText (beforeNul rest)) else none⟩

def Advert.verify (advert : Advert) : Bool :=
  Primitives.ed25519IsCanonical advert.publicKey &&
    Primitives.ed25519VerifyStrict advert.publicKey advert.signedMessage advert.signature

/-! ## Decoding -/

def decodeAdvert (packet : Packet) (message : UnifiedMessage) :
    Except AdapterError UnifiedMessage :=
  match Advert.parse packet.payload with
  | .error error => .error (.notThisProtocol ("advert: ".toList ++ error.debug.toList))
  | .ok advert =>
    if !advert.verify then .error .authFailed
    else
      let read := { message with
        contentType := .advert
        source := identityRef advert.publicKey
        timestamp := some advert.timestamp
        payload := advert.appData
        security := .plaintext }.setMeta Meta.pubkey (hexEncode advert.publicKey.val)
      match AdvertData.parse advert.appData with
      | none => .ok read
      | some data =>
        let typed := read.setMeta Meta.nodeType (nodeTypeName data.nodeType)
        let named := match data.name with
          | some name => typed.setMeta Meta.name name
          | none => typed
        match data.latE6, data.lonE6 with
        | some lat, some lon =>
          .ok ((named.setMeta Meta.lat (formatE6 lat)).setMeta Meta.lon (formatE6 lon))
        | _, _ => .ok named

/-- What a channel opens of a group payload. -/
def openChannel (hash : UInt8) (blob : Bytes) (channel : ChannelKey) : Option Bytes :=
  match groupSecret channel.key with
  | none => none
  | some secret =>
    if channelHash secret.val ≠ hash then none else macThenDecrypt secret blob

/-- The message of an opened group payload. -/
def readGroup (ptype : PayloadType) (message : UnifiedMessage) (plain : Bytes) : UnifiedMessage :=
  let unread := { message with contentType := .opaqueContent, payload := plain }
  if ptype = .grpTxt then
    match parseGroupText plain with
    | some text =>
      let read := { message with
        contentType := .text, timestamp := some text.timestamp, payload := Utf8.encode text.text }
      match text.senderName with
      | some name => read.setMeta Meta.senderName name
      | none => read
    | none => unread.setMeta Meta.opaqueReason "group text flags not TXT_TYPE_PLAIN".toList
  else
    match parseGroupData plain with
    | some (dataType, data) => { message with contentType := .binary, payload := data }.setMeta
        Meta.dataType (hexPadded 4 dataType.toNat)
    | none => unread.setMeta Meta.opaqueReason "malformed group data".toList

def decodeGroup (packet : Packet) (message : UnifiedMessage) (context : ProtocolContext) :
    Except AdapterError UnifiedMessage :=
  match splitGroupDatagram packet.payload with
  | none => .error (.notThisProtocol "group payload too short".toList)
  | some (hash, blob) =>
    if (blob.length - cipherMacSize) % cipherBlockSize ≠ 0 then
      .error (.notThisProtocol "group ciphertext not block aligned".toList)
    else
      let noted := { message.setMeta Meta.channelHash (hexEncode [hash]) with encrypted := true }
      -- The first channel that opens the payload decides.
      match context.channels.findSome? (fun channel =>
        (openChannel hash blob channel).map (fun plain => (channel.name, plain))) with
      | none => .ok (opaqueMessage noted "no matching channel key".toList)
      | some (name, plain) => .ok (readGroup packet.ptype { noted with
          channel := some name, security := .foreignSharedKey .meshCore name } plain)

/-- The plaintext a peer's key opens of a datagram. -/
def openPeer (key : MeshStar.Identity) (src : UInt8) (blob : Bytes)
    (peer : IdentityRef × Bytes) : Option (Bytes32 × Bytes) :=
  if peer.2.length = 32 ∧ peer.2.headD 0 = src then
    match verifyingKey peer.2 with
    | none => none
    | some publicKey =>
      (macThenDecrypt (sharedSecret key publicKey) blob).map (fun plain => (publicKey, plain))
  else none

/-- The kind of a text and the key its acknowledgement names: for a signed post the
receiver's. -/
def textKind (txtType : UInt8) (peer receiver : Bytes32) : Text × Bytes32 :=
  if txtType = txtTypePlain then ("plain".toList, peer)
  else if txtType = txtTypeCliData then ("cli".toList, peer)
  else if txtType = txtTypeSignedPlain then ("signed".toList, receiver)
  else ("unknown".toList, peer)

/-- The message of an opened direct text. -/
def readText (message : UnifiedMessage) (peer receiver : Bytes32) (text : TextPlain) :
    UnifiedMessage :=
  let kind := textKind text.txtType peer receiver
  let read := ({ message with
    source := identityRef peer
    destination := identityRef receiver
    contentType := .text
    timestamp := some text.timestamp
    security := .foreignDirect .meshCore true }.setMeta Meta.attempt
      (decimal text.attempt.toNat)).setMeta Meta.txtType kind.1
  let authored := match text.authorPrefix with
    | some bytes => read.setMeta Meta.authorPrefix (hexEncode bytes)
    | none => read
  { authored.setMeta Meta.ackCode (hexEncode (ackCode text.ackCovered kind.2)) with
    payload := Utf8.encode text.text }

def decodeTxt (packet : Packet) (message : UnifiedMessage) (context : ProtocolContext) :
    Except AdapterError UnifiedMessage :=
  match splitDatagram packet.payload with
  | none => .error (.notThisProtocol "datagram too short".toList)
  | some (dest, src, blob) =>
    if (blob.length - cipherMacSize) % cipherBlockSize ≠ 0 then
      .error (.notThisProtocol "ciphertext not block aligned".toList)
    else
      let noted := { message with
        source := prefixRef [src], destination := prefixRef [dest], encrypted := true
        wantsAck := true }
      match context.localIdentity with
      | none => .ok (opaqueMessage noted "no local identity".toList)
      | some identity =>
        match signingKeyFromSecret identity.secret with
        | .error _ => .ok (opaqueMessage noted "local secret unusable".toList)
        | .ok key =>
          let receiver := key.publicIdentity.publicKey
          if receiver.val.headD 0 ≠ dest then .ok (opaqueMessage noted "not addressed to us".toList)
          else
            -- The first key that opens the payload decides, even when the text is malformed.
            match context.peerKeys.findSome? (openPeer key src blob) with
            | none => .ok (opaqueMessage noted "no matching peer key".toList)
            | some (peer, plain) =>
              match parseTextPlain plain with
              | none => .ok (opaqueMessage noted "decrypted but malformed text".toList)
              | some text => .ok (readText noted peer receiver text)

def decodeAck (packet : Packet) (message : UnifiedMessage) : Except AdapterError UnifiedMessage :=
  if !isAckLen packet.payload.length then
    .error (.notThisProtocol "ack payload must be 4 or 6 bytes".toList)
  else
    let code := hexEncode (packet.payload.take 4)
    .ok { { message with
      contentType := .ack, payload := packet.payload, replyTo := some code }.setMeta
        Meta.ackCode code with security := .plaintext }

def decodeOther (packet : Packet) (message : UnifiedMessage) : UnifiedMessage :=
  let carried := { message with payload := packet.payload }
  let numbered : ContentType := .other packet.ptype.asU8.toUInt16
  let addressed := match splitDatagram packet.payload with
    | some (dest, src, _) =>
      { carried with source := prefixRef [src], destination := prefixRef [dest] }
    | none => carried
  match packet.ptype with
  | .req | .response =>
    opaqueKeepType { addressed with contentType := numbered } "encrypted for another peer".toList
  | .path => opaqueKeepType { addressed with contentType := .routeControl }
      "encrypted for another peer".toList
  | .anonReq =>
    let sender := if packet.payload.length ≥ 36 then
        { carried with
          destination := prefixRef (packet.payload.take 1)
          source := identityRef (FixedBytes.ofSlice 32 (packet.payload.drop 1)) }
      else carried
    opaqueKeepType { sender with contentType := numbered } "anonymous request for another peer".toList
  | .grpTxt | .grpData =>
    opaqueKeepType { carried with contentType := .opaqueContent } "group payload".toList
  | .trace | .control => { carried with contentType := .routeControl, security := .plaintext }
  | _ => { carried with contentType := numbered, security := .plaintext }

end MeshCore

open MeshCore

namespace MeshCoreAdapter

def decode (frame : Bytes) (context : ProtocolContext) : Except AdapterError UnifiedMessage :=
  match MeshCore.Packet.parse frame with
  | .error error => .error (.notThisProtocol ("framing: ".toList ++ error.debug.toList))
  | .ok packet =>
    let message := baseMessage packet
    match packet.ptype with
    | .advert => decodeAdvert packet message
    | .grpTxt | .grpData => decodeGroup packet message context
    | .txtMsg => decodeTxt packet message context
    | .ack => decodeAck packet message
    | _ => .ok (decodeOther packet message)

/-! ## Encoding -/

/-- The hexadecimal type of channel data, with or without its marker. -/
def dataTypeOf (message : UnifiedMessage) : UInt16 :=
  let rec unmarked : Text → Text
    | '0' :: 'x' :: rest => unmarked rest
    | text => text
  (((message.metaValue Meta.dataType).bind (fun text =>
    TextParse.parseUnsigned 16 (2 ^ 16) (unmarked text))).map UInt16.ofNat).getD 0xFF00

/-- The payload type and plaintext of a channel message. -/
def groupPlain (message : UnifiedMessage) (context : ProtocolContext) (timestamp : UInt32) :
    Except AdapterError (PayloadType × Bytes) :=
  match message.contentType with
  | .text =>
    match context.localIdentity with
    | none => .error (.missingContext "local display name".toList)
    | some identity =>
      match message.textPayload with
      | none => .error (.unsupported "text payload is not UTF-8".toList)
      | some text =>
        let size := (Utf8.encode identity.displayName).length + 2 + (Utf8.encode text).length
        if size > maxTextLen then .error .tooLarge
        else
          match composeGroupText timestamp identity.displayName text with
          | none => .error .tooLarge
          | some plain => .ok (.grpTxt, plain)
  | .binary =>
    if message.payload.length > maxGroupDataLength then .error .tooLarge
    else
      match composeGroupData (dataTypeOf message) message.payload with
      | none => .error .tooLarge
      | some plain => .ok (.grpData, plain)
  | other => .error (.unsupported (other.debug ++ " on a channel".toList))

def encodeGroup (message : UnifiedMessage) (context : ProtocolContext) :
    Except AdapterError MeshCore.Packet :=
  let name := message.channel.getD publicChannelName
  match context.channels.find? (fun channel => channel.name = name) with
  | none => .error (.missingContext ("channel key for '".toList ++ name ++ ['\'']))
  | some channel =>
    match groupSecret channel.key with
    | none => .error (.missingContext
        ("channel '".toList ++ name ++ "' key must be 16 or 32 bytes".toList))
    | some secret =>
      match groupPlain message context (message.timestamp.getD context.unixTimeS) with
      | .error error => .error error
      | .ok (ptype, plain) =>
        match buildGroupDatagram secret plain with
        | none => .error .tooLarge
        | some payload =>
          .ok (MeshCore.Packet.new (if message.metaValue Meta.zeroHop = some "true".toList
            then .direct else .flood) ptype payload)

/-- The attempt a message names. -/
def attemptOf (message : UnifiedMessage) : UInt8 :=
  UInt8.ofNat (((message.metaValue Meta.attempt).bind (TextParse.parseUnsigned 10 256)).getD 0)

def encodeDirectText (message : UnifiedMessage) (context : ProtocolContext) :
    Except AdapterError MeshCore.Packet := do
  let key ← localKey context
  let peerKey ← resolvePeer message.destination context
  match verifyingKey peerKey.val with
  | none => .error (.missingContext "peer public key is not a valid Ed25519 key".toList)
  | some peer =>
    match message.textPayload with
    | none => .error (.unsupported "text payload is not UTF-8".toList)
    | some text =>
      if (Utf8.encode text).length > maxTextLen then .error .tooLarge
      else
        match composeTextPlain (message.timestamp.getD context.unixTimeS) txtTypePlain
          (attemptOf message) text with
        | none => .error .tooLarge
        | some plain =>
          match buildDatagram (sharedSecret key peer) (peerKey.val.headD 0)
            (key.publicIdentity.publicKey.val.headD 0) plain with
          | none => .error .tooLarge
          | some payload => do
            let (route, path) ← routeAndPath message
            return { MeshCore.Packet.new route .txtMsg payload with path := path }

def encodeAck (message : UnifiedMessage) : Except AdapterError MeshCore.Packet := do
  let code ← if isAckLen message.payload.length then .ok message.payload
    else
      match (message.metaValue Meta.ackCode).or message.replyTo with
      | none => .error (.missingContext "ack code (4 bytes payload or ack_code metadata)".toList)
      | some text =>
        match TextParse.hexDecode text with
        | none => .error (.missingContext "ack_code must be hex".toList)
        | some bytes =>
          if !isAckLen bytes.length then
            .error (.missingContext "ack code must be 4 or 6 bytes".toList)
          else .ok bytes
  let (route, path) ← routeAndPath message
  return { MeshCore.Packet.new route .ack code with path := path }

def encode (adapter : MeshCoreAdapter) (message : UnifiedMessage) (context : ProtocolContext) :
    Except AdapterError OutboundFrame :=
  match message.contentType with
  | .text =>
    match message.destination with
    | .meshCore _ => (encodeDirectText message context).bind (finish · context)
    | .broadcast _ => (encodeGroup message context).bind (finish · context)
    | other => .error (.unsupported ("destination ".toList ++ other.canonical ++
        " is not a MeshCore identity".toList))
  | .binary =>
    if !message.destination.isBroadcast then
      .error (.unsupported "binary is only carried as GRP_DATA on a channel".toList)
    else (encodeGroup message context).bind (finish · context)
  | .advert | .position => adapter.encodeAdvertMsg message context
  | .ack => (encodeAck message).bind (finish · context)
  | other => .error (.unsupported (other.debug ++ " cannot be carried by MeshCore".toList))

end MeshCoreAdapter

end MeshStar

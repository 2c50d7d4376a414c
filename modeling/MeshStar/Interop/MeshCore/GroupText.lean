import MeshStar.Interop.MeshCore.Codec
import MeshStar.Transparent

/-!
# Texts on a channel

A text that one node sends on a channel reaches every node that knows the channel, with the
sender's name, the timestamp and the name of the channel. Nothing on the air says how long
the text is: the padding of the cipher ends it, so neither the name nor the text may hold a
zero, and the first separator divides them, so the name may not hold one.
-/

namespace MeshStar

variable [Primitives] [BlockCipher]

open MeshCore List

omit [Primitives] [BlockCipher] in
/-- A metadata value that was just set is found. -/
theorem UnifiedMessage.metaValue_setMeta {message : UnifiedMessage} {key value : Text} :
    (message.setMeta key value).metaValue key = some value := by
  unfold metaValue setMeta
  dsimp only
  induction message.protocolMetadata with
  | nil => simp [setEntry]
  | cons entry rest ih =>
    rw [setEntry]
    split
    · simp
    · rename_i other
      rw [List.find?_cons_of_neg (by simpa using other)]
      exact ih

namespace MeshCore

/-- Whether a channel other than the right one takes a group payload for its own: its hash
byte is equal and its MAC matches. -/
def mistakes (payload : Bytes) (other : ChannelKey) : Bool :=
  match groupSecret other.key with
  | none => false
  | some secret =>
    channelHash secret.val = payload.headD 0 && macMatches secret (payload.drop 1)

/-- What a sender and a receiver have to share for a text on a channel. -/
structure ChannelText (message : UnifiedMessage) (sender receiver : ProtocolContext)
    (identity : LocalProtocolIdentity) (channel : ChannelKey) (text : Text) : Prop where
  isText : message.contentType = .text
  carried : message.payload = Utf8.encode text
  spread : message.destination.isBroadcast = true
  speaker : sender.localIdentity = some identity
  configured : sender.channels.find? (fun other =>
    other.name = message.channel.getD publicChannelName) = some channel
  keyed : channel.key.length = 16 ∨ channel.key.length = 32
  nameClean : 0 ∉ Utf8.encode identity.displayName
  separable : Utf8.splitOnce nameSeparator identity.displayName = none
  textClean : 0 ∉ Utf8.encode text
  fits : (Utf8.encode identity.displayName).length + 2 + (Utf8.encode text).length ≤ maxTextLen
  known : ∃ earlier later, receiver.channels = earlier ++ channel :: later ∧
    ∀ packet, MeshCoreAdapter.encodeGroup message sender = .ok packet →
      ∀ other ∈ earlier, mistakes packet.payload other = false

/-- The plaintext of a text on a channel. -/
def groupTextPlain (timestamp : UInt32) (name text : Text) : Bytes :=
  LittleEndian.encode 4 timestamp.toNat ++ txtTypePlain ::
    Utf8.encode (name ++ nameSeparator ++ text)

section

omit [Primitives] [BlockCipher]

theorem encode_named (name text : Text) : Utf8.encode (name ++ nameSeparator ++ text) =
    Utf8.encode name ++ Utf8.encode nameSeparator ++ Utf8.encode text := by
  rw [Utf8.encode, flatMap_append, flatMap_append]
  rfl

theorem groupTextPlain_length (timestamp : UInt32) (name text : Text) :
    (groupTextPlain timestamp name text).length =
      5 + ((Utf8.encode name).length + 2 + (Utf8.encode text).length) := by
  have separator : (Utf8.encode nameSeparator).length = 2 := by decide
  rw [groupTextPlain, encode_named, length_append, length_cons, length_append,
    length_append, LittleEndian.encode_length, separator]
  omega

/-- A composed text is read back from its padded plaintext. -/
theorem parseGroupText_padded {timestamp : UInt32} {name text : Text}
    (nameClean : 0 ∉ Utf8.encode name) (textClean : 0 ∉ Utf8.encode text)
    (separable : Utf8.splitOnce nameSeparator name = none) :
    parseGroupText (BlockMode.padBlocks cipherBlockSize 0 (groupTextPlain timestamp name text)) =
      some ⟨timestamp, some name, text⟩ := by
  have clean : 0 ∉ Utf8.encode (name ++ nameSeparator ++ text) := by
    have separator : (0 : UInt8) ∉ Utf8.encode nameSeparator := by decide
    rw [encode_named]
    simp [nameClean, separator, textClean]
  have parts : Utf8.splitOnce nameSeparator (name ++ nameSeparator ++ text) =
      some (name, text) := by
    rw [append_assoc]
    exact Utf8.splitOnce_pair (by decide) separable text
  rw [BlockMode.padBlocks, groupTextPlain, append_assoc, cons_append, parseGroupText,
    parseTextPlain_composed timestamp clean (by decide)]
  simp only [parts]
  rfl

end

variable {message : UnifiedMessage} {sender receiver : ProtocolContext}
  {identity : LocalProtocolIdentity} {channel : ChannelKey} {text : Text}

/-- A channel that does not take a payload for its own does not open it. -/
theorem openChannel_unmistaken {payload : Bytes} {other : ChannelKey}
    (right : mistakes payload other = false) :
    openChannel (payload.headD 0) (payload.drop 1) other = none := by
  unfold openChannel
  unfold mistakes at right
  cases secret : groupSecret other.key with
  | none => rfl
  | some secret =>
    rw [secret] at right
    dsimp only at right ⊢
    split
    · rfl
    · rename_i equal
      rw [decide_eq_true (not_not.mp equal), Bool.true_and] at right
      exact macThenDecrypt_unmatched right

/-- The first channel that opens a sealed payload decides how it is read. -/
theorem decode_sealed (inverts : BlockCipher.Inverts) (route : RouteType) {secret : Secret}
    {plain : Bytes} {earlier later : List ChannelKey} (someByte : plain ≠ [])
    (small : plain.length ≤ 176)
    (channels : receiver.channels = earlier ++ channel :: later)
    (keyed : groupSecret channel.key = some secret)
    (right : ∀ other ∈ earlier,
      mistakes (channelHash secret.val :: encryptThenMac secret plain) other = false) :
    let packet := Packet.new route .grpTxt (channelHash secret.val :: encryptThenMac secret plain)
    packet.Valid ∧ MeshCoreAdapter.decode packet.wire receiver = .ok (readGroup .grpTxt
      { (baseMessage packet).setMeta Meta.channelHash (hexEncode [channelHash secret.val]) with
        encrypted := true
        channel := some channel.name
        security := .foreignSharedKey .meshCore channel.name }
      (BlockMode.padBlocks cipherBlockSize 0 plain)) := by
  intro packet
  have long : 0 < plain.length := length_pos_iff.mpr someByte
  have length := encryptThenMac_length secret plain
  have valid : packet.Valid := by
    refine Packet.new_valid .grpTxt (cons_ne_nil _ _) ?_
    rw [length_cons, length]
    simp only [BlockMode.blockCount, cipherBlockSize, cipherMacSize, maxPacketPayload]
    omega
  have opened : receiver.channels.findSome? (fun other => (openChannel (channelHash secret.val)
      (encryptThenMac secret plain) other).map (fun plain => (other.name, plain))) =
        some (channel.name, BlockMode.padBlocks cipherBlockSize 0 plain) := by
    have passed : earlier.findSome? (fun other => (openChannel (channelHash secret.val)
        (encryptThenMac secret plain) other).map (fun plain => (other.name, plain))) = none := by
      rw [List.findSome?_eq_none_iff]
      intro other member
      rw [Option.map_eq_none_iff]
      exact openChannel_unmistaken (right other member)
    rw [channels, List.findSome?_append, passed, Option.none_or, List.findSome?_cons, openChannel,
      keyed]
    simp only [ne_eq, not_true_eq_false, if_false, macThenDecrypt_encryptThenMac inverts
      secret someByte]
    rfl
  refine ⟨valid, ?_⟩
  have split : splitGroupDatagram packet.payload =
      some (channelHash secret.val, encryptThenMac secret plain) := by
    change splitGroupDatagram (channelHash secret.val :: encryptThenMac secret plain) = _
    rw [splitGroupDatagram, if_neg]
    · rfl
    · rw [length_cons, length]
      simp only [BlockMode.blockCount, cipherBlockSize, cipherMacSize, groupHeaderLen]
      omega
  have aligned : ¬((encryptThenMac secret plain).length - cipherMacSize) % cipherBlockSize ≠ 0 := by
    rw [length, Nat.add_sub_cancel_left, Nat.mul_mod_left]
    exact not_not.mpr rfl
  rw [MeshCoreAdapter.decode, valid.parse_wire]
  change decodeGroup packet (baseMessage packet) receiver = _
  simp only [decodeGroup, split, if_neg aligned, opened]
  rfl

namespace ChannelText

variable (talk : ChannelText message sender receiver identity channel text)

include talk

theorem groupSecret :
    MeshCore.groupSecret channel.key = some (FixedBytes.ofSlice 32 channel.key) := by
  rw [MeshCore.groupSecret, if_neg]
  rcases talk.keyed with short | long
  · exact fun refused => refused.1 short
  · exact fun refused => refused.2 long

/-- The packet of a text on a channel: a flood, or a direct packet to the neighbours. -/
theorem encodes {secret : Secret} (keyed : MeshCore.groupSecret channel.key = some secret) :
    ∃ route : RouteType, route.hasTransportCodes = false ∧
      MeshCoreAdapter.encodeGroup message sender = .ok (Packet.new route .grpTxt
        (channelHash secret.val :: encryptThenMac secret (groupTextPlain
          (message.timestamp.getD sender.unixTimeS) identity.displayName text))) := by
  have read : message.textPayload = some text := by
    rw [UnifiedMessage.textPayload, if_pos talk.isText, talk.carried, Utf8.decode_encode]
  have composed (timestamp : UInt32) : composeGroupText timestamp identity.displayName text =
      some (groupTextPlain timestamp identity.displayName text) := by
    rw [composeGroupText, if_neg]
    · rfl
    · rintro (long | nul | nul)
      · exact Nat.not_lt.mpr talk.fits long
      · exact talk.nameClean nul
      · exact talk.textClean nul
  have plain (timestamp : UInt32) : MeshCoreAdapter.groupPlain message sender timestamp =
      .ok (.grpTxt, groupTextPlain timestamp identity.displayName text) := by
    simp only [MeshCoreAdapter.groupPlain, talk.isText, talk.speaker, read]
    rw [if_neg (Nat.not_lt.mpr talk.fits), composed]
  have built (timestamp : UInt32) : buildGroupDatagram secret (groupTextPlain timestamp
      identity.displayName text) = some (channelHash secret.val ::
        encryptThenMac secret (groupTextPlain timestamp identity.displayName text)) := by
    have fits := talk.fits
    rw [buildGroupDatagram, if_neg]
    rw [groupTextPlain_length]
    simp only [maxTextLen] at fits
    simp only [maxPlaintextFor, maxPacketPayload, groupHeaderLen, cipherMacSize, cipherBlockSize]
    omega
  simp only [MeshCoreAdapter.encodeGroup, talk.configured, keyed, plain, built]
  split
  · exact ⟨.direct, rfl, rfl⟩
  · exact ⟨.flood, rfl, rfl⟩

end ChannelText

end MeshCore

/-- A text on a channel arrives: encoding it succeeds, and a receiver that knows the channel
decodes the frame to the same text, sender name, timestamp and channel. -/
theorem group_text_round_trip (inverts : BlockCipher.Inverts) (adapter : MeshCoreAdapter)
    {message : UnifiedMessage} {sender receiver : ProtocolContext}
    {identity : LocalProtocolIdentity} {channel : ChannelKey} {text : Text}
    (talk : ChannelText message sender receiver identity channel text) :
    ∃ frame decoded, adapter.encode message sender = .ok frame ∧
      MeshCoreAdapter.decode frame.bytes receiver = .ok decoded ∧
      decoded.contentType = .text ∧ decoded.payload = Utf8.encode text ∧
      decoded.metaValue Meta.senderName = some identity.displayName ∧
      decoded.timestamp = some (message.timestamp.getD sender.unixTimeS) ∧
      decoded.channel = some channel.name := by
  obtain ⟨route, _, encoded⟩ := talk.encodes talk.groupSecret
  obtain ⟨earlier, later, channels, unmistaken⟩ := talk.known
  have small : (groupTextPlain (message.timestamp.getD sender.unixTimeS) identity.displayName
      text).length ≤ 176 := by
    have fits := talk.fits
    simp only [maxTextLen] at fits
    rw [groupTextPlain_length]
    omega
  have someByte : groupTextPlain (message.timestamp.getD sender.unixTimeS) identity.displayName
      text ≠ [] := by
    simp [groupTextPlain]
  obtain ⟨valid, decoded⟩ := decode_sealed inverts route someByte small channels
    talk.groupSecret (unmistaken _ encoded)
  obtain ⟨protocol, broadcast⟩ : ∃ protocol, message.destination = .broadcast protocol := by
    have spread := talk.spread
    cases destination : message.destination with
    | broadcast protocol => exact ⟨protocol, rfl⟩
    | _ => simp [destination, IdentityRef.isBroadcast] at spread
  refine ⟨⟨.meshCore, _, sender.profile⟩, _, ?_, decoded, ?_⟩
  · simp only [MeshCoreAdapter.encode, talk.isText, broadcast, encoded, Except.bind, finish,
      valid.encode]
    rfl
  · simp only [readGroup, parseGroupText_padded talk.nameClean talk.textClean talk.separable,
      if_true]
    exact ⟨rfl, rfl, UnifiedMessage.metaValue_setMeta, rfl, rfl⟩

end MeshStar

namespace MeshStar.Chat

local instance chatSuite : Primitives := Transparent.primitives

/-- A block masked with a key. -/
def mask (key block : FixedBytes 16) : FixedBytes 16 :=
  ⟨List.zipWith (· ^^^ ·) key.val block.val, by simp [key.property, block.property]⟩

theorem mask_mask (key block : FixedBytes 16) : mask key (mask key block) = block := by
  have undone : ∀ keys bytes : Bytes, keys.length = bytes.length →
      List.zipWith (· ^^^ ·) keys (List.zipWith (· ^^^ ·) keys bytes) = bytes := by
    intro keys
    induction keys with
    | nil =>
      intro bytes same
      rw [List.length_eq_zero_iff.mp same.symm]
      rfl
    | cons key rest ih =>
      intro bytes same
      cases bytes with
      | nil => cases same
      | cons byte later =>
        rw [List.zipWith_cons_cons, List.zipWith_cons_cons, ih later (Nat.succ.inj same),
          ← UInt8.xor_assoc, UInt8.xor_self, UInt8.zero_xor]
  exact Subtype.ext (undone _ _ (key.property.trans block.property.symm))

/-- The cipher masks each block with the key. -/
local instance chatCipher : BlockCipher := ⟨mask, mask⟩

def channel : ChannelKey := ⟨"Public".toList, List.replicate 16 9⟩

/-- Another channel of the receiver, which is tried first. -/
def harbour : ChannelKey := ⟨"Harbour".toList, List.replicate 16 5⟩

def person : LocalProtocolIdentity :=
  ⟨.meshCore, .broadcast .meshCore, "Ana:".toList, "Ana".toList, List.replicate 32 7⟩

def context : ProtocolContext :=
  { nowMs := 1000
    unixTimeS := 1700000000
    profile := ⟨.meshstarEu868, 869618000, 0x12⟩
    localIdentity := some person
    channels := [harbour, channel]
    peerKeys := []
    random := FixedBytes.ofSlice 32 [] }

/-- A text of several blocks. -/
def text : Text := "Meet me at noon: behind the bridge, not on it".toList

def greeting : UnifiedMessage :=
  UnifiedMessage.ofText (.broadcast .meshCore) (.broadcast .meshCore) .meshCore text

/-- A name that ends in a colon and a text with a separator of its own arrive. -/
theorem group_text_round_trip_colons : ∃ frame decoded,
    MeshCoreAdapter.new.encode greeting context = .ok frame ∧
      MeshCoreAdapter.decode frame.bytes context = .ok decoded ∧
      decoded.contentType = .text ∧ decoded.payload = Utf8.encode text ∧
      decoded.metaValue MeshCore.Meta.senderName = some "Ana:".toList ∧
      decoded.timestamp = some 1700000000 ∧ decoded.channel = some "Public".toList := by
  have unmistaken : ((MeshCoreAdapter.encodeGroup greeting context).toOption.all (fun packet =>
      !MeshCore.mistakes packet.payload harbour)) = true := by decide +kernel
  have talk : MeshCore.ChannelText greeting context context person channel text :=
    { isText := rfl
      carried := rfl
      spread := rfl
      speaker := rfl
      configured := by decide
      keyed := Or.inl rfl
      nameClean := by decide
      separable := by decide
      textClean := by decide
      fits := by decide
      known := by
        refine ⟨[harbour], [], rfl, fun packet encoded other member => ?_⟩
        rw [List.mem_singleton.mp member]
        rw [encoded] at unmistaken
        simpa [Except.toOption] using unmistaken }
  exact group_text_round_trip mask_mask MeshCoreAdapter.new talk

end MeshStar.Chat

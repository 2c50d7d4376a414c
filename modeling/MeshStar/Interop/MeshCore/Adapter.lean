import MeshStar.Interop.Adapter
import MeshStar.Interop.MeshCore.Identity
import MeshStar.Interop.MeshCore.Packet
import MeshStar.Library.BinaryFloat
import MeshStar.Library.TextParse

/-!
# The MeshCore adapter

The adapter holds the schedule of its adverts and nothing else. An advert leaves on one of
two ways: `periodic` sends one when the interval has passed and records its timestamp,
`encode` turns a message into one and records nothing.
-/

namespace MeshStar

variable [Primitives]

namespace MeshCore

/-- Metadata keys of the adapter. -/
def Meta.lat : Text := "lat".toList
def Meta.lon : Text := "lon".toList
def Meta.zeroHop : Text := "zero_hop".toList

/-- Degrees as text, in millionths. The number is rounded to a double twice, when it is
read and when it is scaled, and then cut off. -/
def parseE6 (text : Text) : Option Int :=
  let double (value : ℚ) : ℚ := BinaryFloat.round 53 (-1022) value
  match TextParse.parseDecimal (TextParse.trim text) with
  | none => none
  | some value =>
    if -360 ≤ double value ∧ double value ≤ 360 then
      let scaled := double (double value * 1000000)
      some (if scaled < 0 then -(-scaled).floor else scaled.floor)
    else none

/-- The location a message names. -/
def locationFromMeta (message : UnifiedMessage) : Option (Int × Int) :=
  match message.metaValue "lat_e6".toList, message.metaValue "lon_e6".toList with
  | some lat, some lon => do
    let lat ← TextParse.parseSigned (2 ^ 31) lat
    let lon ← TextParse.parseSigned (2 ^ 31) lon
    return (lat, lon)
  | _, _ => do
    let lat ← parseE6 (← message.metaValue Meta.lat)
    let lon ← parseE6 (← message.metaValue Meta.lon)
    return (lat, lon)

/-- The frame of a packet. -/
def finish (packet : Packet) (context : ProtocolContext) : Except AdapterError OutboundFrame :=
  match packet.encode with
  | .ok bytes => .ok ⟨.meshCore, bytes, context.profile⟩
  | .error .payloadTooLarge | .error .tooLong | .error .pathTooLong => .error .tooLarge
  | .error other => .error (.unsupported ("packet: ".toList ++ other.debug.toList))

end MeshCore

open MeshCore

/-- The adapter's settings and its advert schedule. -/
structure MeshCoreAdapter where
  advertIntervalMs : Nat
  nodeType : UInt8
  locationE6 : Option (Int × Int)
  lastAdvertMs : Option Nat
  lastAdvertTs : UInt32

namespace MeshCoreAdapter

def new : MeshCoreAdapter := ⟨47 * 3600000, 1, none, none, 0⟩

/-- Signing key from the context's local identity. -/
def localKey (context : ProtocolContext) : Except AdapterError MeshStar.Identity :=
  match context.localIdentity with
  | none => .error (.missingContext "local MeshCore identity".toList)
  | some identity =>
    match signingKeyFromSecret identity.secret with
    | .ok key => .ok key
    | .error _ => .error (.missingContext "local secret must be a 32-byte Ed25519 seed".toList)

/-- Build an advert frame. -/
def buildAdvert (adapter : MeshCoreAdapter) (context : ProtocolContext) (timestamp : UInt32)
    (locationE6 : Option (Int × Int)) (zeroHop : Bool) : Except AdapterError OutboundFrame := do
  let key ← localKey context
  let name := (context.localIdentity.map LocalProtocolIdentity.displayName).getD []
  let location := locationE6.or adapter.locationE6
  let data : AdvertData :=
    ⟨adapter.nodeType, location.map Prod.fst, location.map Prod.snd, none, none, some name⟩
  match Advert.build key timestamp data with
  | .error error => .error (.unsupported ("advert: ".toList ++ error.debug.toList))
  | .ok advert =>
    finish (Packet.new (if zeroHop then .direct else .flood) .advert advert.encode) context

def encodeAdvertMsg (adapter : MeshCoreAdapter) (message : UnifiedMessage)
    (context : ProtocolContext) : Except AdapterError OutboundFrame :=
  let location := locationFromMeta message
  if message.contentType = .position ∧ location = none then
    .error (.missingContext "position needs lat/lon (or lat_e6/lon_e6) metadata".toList)
  else
    adapter.buildAdvert context (message.timestamp.getD context.unixTimeS) location
      (message.metaValue Meta.zeroHop = some "true".toList)

/-- Whether the next periodic advert is due. -/
def advertDue (adapter : MeshCoreAdapter) (context : ProtocolContext) : Bool :=
  match adapter.lastAdvertMs with
  | none => true
  | some last => context.nowMs - last ≥ adapter.advertIntervalMs

/-- The timestamp of the next periodic advert: the clock, or one more than the last. -/
def nextAdvertTs (adapter : MeshCoreAdapter) (context : ProtocolContext) : UInt32 :=
  UInt32.ofNat (max context.unixTimeS.toNat (min (adapter.lastAdvertTs.toNat + 1) (2 ^ 32 - 1)))

/-- Frames the protocol sends on its own. -/
def periodic (adapter : MeshCoreAdapter) (context : ProtocolContext) :
    MeshCoreAdapter × List OutboundFrame :=
  match localKey context with
  | .error _ => (adapter, [])
  | .ok _ =>
    if !adapter.advertDue context then (adapter, [])
    else
      let timestamp := adapter.nextAdvertTs context
      match adapter.buildAdvert context timestamp none false with
      | .ok frame =>
        ({ adapter with lastAdvertMs := some context.nowMs, lastAdvertTs := timestamp }, [frame])
      | .error _ => (adapter, [])

end MeshCoreAdapter

end MeshStar

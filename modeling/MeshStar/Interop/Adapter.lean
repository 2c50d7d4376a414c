import MeshStar.Interop.Model
import MeshStar.Library.Selection
import MeshStar.Platform

/-!
# Adapters and detection

An adapter classifies, decodes and encodes the frames of one protocol. Every adapter
scores a frame; the detector takes the best score above its threshold and calls the frame
unknown when a second protocol is too close. Only the adapter that was chosen decodes.

The explanations the source collects with a score, and the counters of the detector, are
shown to a user and read by no modelled function.
-/

namespace MeshStar

/-- A modem profile with what tells networks apart on the air. -/
structure TunedProfile extends LoRaProfile where
  frequencyHz : Nat
  syncWord : UInt8
  deriving DecidableEq, Repr

/-- Sync word of the native protocol. -/
def meshStarSyncWord : UInt8 := 0x1A

/-- What an adapter can and cannot do. -/
structure ProtocolCapabilities where
  text : Bool
  binary : Bool
  replies : Bool
  channels : Bool
  storeForward : Bool
  e2eIdentity : Bool
  forwardSecrecy : Bool
  position : Bool
  acknowledgements : Bool
  maxTextBytes : Nat
  maxBinaryBytes : Nat
  maxHops : UInt8
  deriving DecidableEq, Repr

/-- A channel or group key known to an adapter. -/
structure ChannelKey where
  name : Text
  key : Bytes
  deriving DecidableEq, Repr

/-- Identity of this node in one protocol. -/
structure LocalProtocolIdentity where
  protocol : ProtocolId
  id : IdentityRef
  displayName : Text
  shortName : Text
  secret : Bytes
  deriving DecidableEq

/-- Everything an adapter needs besides the frame. -/
structure ProtocolContext where
  nowMs : Nat
  unixTimeS : UInt32
  profile : TunedProfile
  localIdentity : Option LocalProtocolIdentity
  channels : List ChannelKey
  peerKeys : List (IdentityRef × Bytes)
  random : Bytes32
  deriving DecidableEq

/-- One encoded frame and the profile it needs. -/
structure OutboundFrame where
  protocol : ProtocolId
  bytes : Bytes
  profile : TunedProfile
  deriving DecidableEq

/-- The score of a detection pass, 0 to 100. -/
structure DetectionScore where
  protocol : ProtocolId
  score : UInt8
  deriving DecidableEq, Repr

namespace DetectionScore

def none (protocol : ProtocolId) : DetectionScore := ⟨protocol, 0⟩

/-- Add points, up to 100. -/
def add (score : DetectionScore) (points : UInt8) : DetectionScore :=
  { score with score := UInt8.ofNat (min (score.score.toNat + points.toNat) 100) }

/-- Add points under a condition. -/
def addIf (score : DetectionScore) (condition : Bool) (points : UInt8) : DetectionScore :=
  if condition then score.add points else score

def reject (score : DetectionScore) : DetectionScore := { score with score := 0 }

end DetectionScore

/-- The interface every protocol implements. -/
structure RadioProtocol where
  id : ProtocolId
  capabilities : ProtocolCapabilities
  detect : Bytes → RxMeta → ProtocolContext → DetectionScore
  decode : Bytes → RxMeta → ProtocolContext → Except AdapterError UnifiedMessage
  encode : UnifiedMessage → ProtocolContext → Except AdapterError OutboundFrame

/-- Result of classifying one frame. -/
structure Detection where
  protocol : ProtocolId
  score : UInt8
  scores : List DetectionScore
  probable : Option ProtocolId
  deriving DecidableEq, Repr

structure DetectorConfig where
  threshold : UInt8
  probableThreshold : UInt8
  ambiguityMargin : UInt8
  deriving DecidableEq, Repr

def DetectorConfig.default : DetectorConfig := ⟨55, 35, 15⟩

/-- Holds the adapters and classifies frames. -/
structure Detector where
  adapters : List RadioProtocol
  cfg : DetectorConfig

namespace Detector

def new (adapters : List RadioProtocol) : Detector := ⟨adapters, .default⟩

/-- The first adapter of a protocol. -/
def adapter (detector : Detector) (id : ProtocolId) : Option RadioProtocol :=
  detector.adapters.find? (fun candidate => candidate.id = id)

/-- Classify a frame. -/
def detect (detector : Detector) (frame : Bytes) (rx : RxMeta) (context : ProtocolContext) :
    Detection :=
  let scores := detector.adapters.map (fun candidate => candidate.detect frame rx context)
  let sorted := Selection.sortByKey (fun score : DetectionScore => 255 - score.score.toNat) scores
  let probable := match sorted with
    | best :: _ =>
      if best.score ≥ detector.cfg.probableThreshold ∧ best.score < detector.cfg.threshold then
        some best.protocol
      else none
    | [] => none
  match sorted with
  | [] => ⟨.unknown, 0, scores, probable⟩
  | best :: others =>
    if best.score ≥ detector.cfg.threshold then
      let runner := match others with
        | second :: _ => second.score
        | [] => 0
      if runner ≥ detector.cfg.threshold ∧ best.score - runner < detector.cfg.ambiguityMargin then
        ⟨.unknown, best.score, scores, probable⟩
      else ⟨best.protocol, best.score, scores, probable⟩
    else ⟨.unknown, best.score, scores, probable⟩

/-- Detect and, if a protocol is identified, decode. -/
def classify (detector : Detector) (frame : Bytes) (rx : RxMeta) (context : ProtocolContext) :
    Detection × Option (Except AdapterError UnifiedMessage) :=
  let detection := detector.detect frame rx context
  if detection.protocol = .unknown then (detection, none)
  else (detection, (detector.adapter detection.protocol).map
    (fun chosen => chosen.decode frame rx context))

end Detector

end MeshStar

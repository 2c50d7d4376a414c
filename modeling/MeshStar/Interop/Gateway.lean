import MeshStar.Interop.Adapter
import MeshStar.Interop.Deduplicator
import MeshStar.Library.BinaryFloat

/-!
# The gateway

A frame is classified and decoded, deduplicated, and, in bridge mode, handed to every
other protocol: the policy decides, the loop guard checks the path travelled so far, the
translator reduces the message to what the far side can express, a token bucket limits the
rate, and the far adapter encodes it.

The records the gateway keeps for its user (recent messages, networks and identities seen)
and the counters of the loop guard feed nothing back and are left out.
-/

namespace MeshStar

open List

/-! ## Policy -/

inductive RuleAction where
  | allow
  | deny
  deriving DecidableEq, Repr

inductive ContentTypeMatch where
  | text
  | position
  | binary
  | any
  deriving DecidableEq, Repr

inductive SecurityMatch where
  | publicOnly
  | notMeshStarE2E
  | any
  deriving DecidableEq, Repr

/-- One rule. An absent condition matches anything. -/
structure Rule where
  fromProtocol : Option ProtocolId
  toProtocol : Option ProtocolId
  channel : Option Text
  content : Option ContentTypeMatch
  identity : Option Text
  security : Option SecurityMatch
  action : RuleAction
  name : Text
  deriving DecidableEq, Repr

def ContentTypeMatch.accepts : ContentTypeMatch → ContentType → Bool
  | text, content => content = .text
  | position, content => content = .position
  | binary, content => content = .binary
  | any, _ => true

def SecurityMatch.accepts : SecurityMatch → SecurityLevel → Bool
  | any, _ => true
  | notMeshStarE2E, level => !level.isMeshStarE2E
  | publicOnly, .plaintext => true
  | publicOnly, .foreignSharedKey _ _ => true
  | publicOnly, .meshStarGroup => true
  | publicOnly, _ => false

/-- An identity pattern is exact, or matches a beginning when it ends in a star. -/
def identityAccepts (pattern canonical : Text) : Bool :=
  if pattern.getLast? = some '*' then pattern.dropLast.isPrefixOf canonical
  else canonical = pattern

namespace Rule

/-- A condition that is absent, or holds. -/
def accepts {α : Type} (condition : Option α) (test : α → Bool) : Bool :=
  match condition with
  | some value => test value
  | none => true

def matchesMessage (rule : Rule) (message : UnifiedMessage) (target : ProtocolId) : Bool :=
  accepts rule.fromProtocol (fun source => message.protocol = source) &&
  accepts rule.toProtocol (fun wanted => target = wanted) &&
  accepts rule.channel (fun name => name = "*".toList || message.channel = some name) &&
  accepts rule.content (fun content => content.accepts message.contentType) &&
  accepts rule.identity (fun pattern => identityAccepts pattern message.source.canonical) &&
  accepts rule.security (fun level => level.accepts message.security)

end Rule

structure PolicyDecision where
  allowed : Bool
  rule : Option Text
  deriving DecidableEq, Repr

/-- Ordered rules, first match wins, default deny. -/
structure Policy where
  rules : List Rule
  deriving DecidableEq, Repr

namespace Policy

def denyAll : Policy := ⟨[]⟩

/-- A rule without conditions. -/
def anyRule (action : RuleAction) (name : Text) : Rule :=
  ⟨none, none, none, none, none, none, action, name⟩

/-- Public text and positions may cross in any direction; nothing else does. -/
def publicTextBridging : Policy :=
  ⟨[{ anyRule .allow "allow public text".toList with
      content := some .text, security := some .publicOnly },
    { anyRule .allow "allow public position".toList with
      content := some .position, security := some .publicOnly },
    anyRule .deny "deny everything else (encrypted-private, binary)".toList]⟩

def evaluate (policy : Policy) (message : UnifiedMessage) (target : ProtocolId) : PolicyDecision :=
  match policy.rules.find? (fun rule => rule.matchesMessage message target) with
  | some rule => ⟨rule.action = .allow, some rule.name⟩
  | none => ⟨false, none⟩

end Policy

/-! ## Loop prevention -/

inductive LoopVerdict where
  | ok
  | revisit
  | sameGateway
  | exhausted
  deriving DecidableEq, Repr

structure LoopGuard where
  gatewayId : Text
  maxCrossings : Nat
  deriving DecidableEq, Repr

namespace LoopGuard

def new (gatewayId : Text) : LoopGuard := ⟨gatewayId, 2⟩

def check (guard : LoopGuard) (message : UnifiedMessage) (target : ProtocolId) : LoopVerdict :=
  if message.bridgePath.length ≥ guard.maxCrossings then .exhausted
  else if message.bridgePath.any (fun hop => hop.gateway = guard.gatewayId) then .sameGateway
  else if target = message.protocol ||
      message.bridgePath.any (fun hop => hop.fromProtocol = target ||
        hop.toProtocol = target) then .revisit
  else .ok

/-- What the loop guard accepts. -/
theorem check_ok_iff {guard : LoopGuard} {message : UnifiedMessage} {target : ProtocolId} :
    guard.check message target = .ok ↔ message.bridgePath.length < guard.maxCrossings ∧
      (∀ hop ∈ message.bridgePath, hop.gateway ≠ guard.gatewayId) ∧
      target ≠ message.protocol ∧
      ∀ hop ∈ message.bridgePath, hop.fromProtocol ≠ target ∧ hop.toProtocol ≠ target := by
  unfold check
  split
  · next long => simp only [reduceCtorEq, false_iff]; omega
  · next short =>
    split
    · next same =>
      simp only [any_eq_true, decide_eq_true_eq] at same
      obtain ⟨hop, member, sameGateway⟩ := same
      simp only [reduceCtorEq, false_iff]
      rintro ⟨_, others, _⟩
      exact others hop member sameGateway
    · next others =>
      simp only [any_eq_true, decide_eq_true_eq, not_exists, not_and] at others
      split
      · next revisit =>
        simp only [Bool.or_eq_true, decide_eq_true_eq, any_eq_true] at revisit
        simp only [reduceCtorEq, false_iff]
        rintro ⟨_, _, elsewhere, unvisited⟩
        rcases revisit with here | ⟨hop, member, left | entered⟩
        · exact elsewhere here
        · exact (unvisited hop member).1 left
        · exact (unvisited hop member).2 entered
      · next fresh =>
        simp only [Bool.or_eq_true, decide_eq_true_eq, any_eq_true, not_or, not_exists,
          not_and] at fresh
        simp only [true_iff]
        exact ⟨by omega, others, fresh.1, fresh.2⟩

/-- Record the crossing on the outgoing message. -/
def stamp (guard : LoopGuard) (message : UnifiedMessage) (target : ProtocolId) (now : Nat) :
    UnifiedMessage :=
  { message with
    bridgeOrigin := match message.bridgeOrigin with
      | none => some guard.gatewayId
      | some origin => some origin
    bridgePath := message.bridgePath ++ [⟨guard.gatewayId, message.protocol, target, now⟩] }

end LoopGuard

/-! ## Translation -/

inductive TranslationOutcome where
  | exact
  | degraded (losses : List Text)
  | unsupported (why : Text)
  deriving DecidableEq, Repr

/-- The canonical identity, shortened. -/
def shortIdentity (id : IdentityRef) : Text :=
  if (Utf8.encode id.canonical).length > 24 then id.canonical.take 24 ++ ['…'] else id.canonical

/-- The name under which the far network hears the speaker. -/
def speaker (message : UnifiedMessage) : Text :=
  ((message.metaValue "sender_name".toList).or ((message.metaValue "long_name".toList).or
    (message.metaValue "short_name".toList))).getD (shortIdentity message.source)

/-- The text with its origin in front, before it is cut to size. -/
def prefixedText (message : UnifiedMessage) (senderPrefix : Bool) : Text :=
  (if senderPrefix then "[".toList ++ speaker message ++ "] ".toList else []) ++
    message.textPayload.getD []

/-- A text cut to a number of bytes, with a marker at the cut. -/
def cutText (limit : Nat) (text : Text) : Text :=
  if (Utf8.encode text).length > limit then Utf8.takeBytes (limit - 3) text ++ "...".toList else text

/-- The payload the far side carries, with what is lost, or why it cannot. -/
def translateContent (message : UnifiedMessage) (caps : ProtocolCapabilities)
    (senderPrefix : Bool) : Except Text (Bytes × List Text) :=
  match message.contentType with
  | .text =>
    if !caps.text then .error "text".toList
    else
      let text := prefixedText message senderPrefix
      .ok (Utf8.encode (cutText caps.maxTextBytes text),
        if (Utf8.encode text).length > caps.maxTextBytes then
          ["text truncated to ".toList ++ decimal caps.maxTextBytes ++ " bytes".toList]
        else [])
  | .position =>
    if !caps.position then .error "position".toList
    else if (message.metaValue "lat".toList).isNone then
      .error "position without lat/lon metadata".toList
    else .ok (message.payload, [])
  | .binary =>
    if caps.maxBinaryBytes = 0 then .error "binary".toList
    else if message.payload.length > caps.maxBinaryBytes then
      .error ("binary payload ".toList ++ decimal message.payload.length ++ " > ".toList ++
        decimal caps.maxBinaryBytes)
    else .ok (message.payload, [])
  | .ack => .error "acknowledgements are per network".toList
  | other => .error other.debug

/-- The outgoing message for a payload. -/
def outgoing (message : UnifiedMessage) (target : ProtocolId) (caps : ProtocolCapabilities)
    (gateway : Text) (now : Nat) (payload : Bytes) : UnifiedMessage :=
  let out := { message with
    payload := payload
    replyTo := if message.replyTo.isSome && !caps.replies then none else message.replyTo
    wantsAck := if message.wantsAck && !caps.acknowledgements then false else message.wantsAck
    destination := .broadcast target
    protocol := target
    encrypted := false
    security := .bridged message.protocol gateway message.security }
  { ((out.setMeta "bridged_from".toList message.protocol.name).setMeta "bridged_source".toList
      message.source.canonical).setMeta "bridged_at".toList (decimal now) with messageId := [] }

/-- Translate a message for transmission on another protocol, and say how faithful the
translation is. -/
def translate (message : UnifiedMessage) (target : ProtocolId) (caps : ProtocolCapabilities)
    (gateway : Text) (now : Nat) (senderPrefix : Bool) :
    Option UnifiedMessage × TranslationOutcome :=
  match translateContent message caps senderPrefix with
  | .error why => (none, .unsupported why)
  | .ok (payload, cut) =>
    let losses := cut ++
      (if message.replyTo.isSome && !caps.replies then ["reply link dropped".toList] else []) ++
      (if message.wantsAck && !caps.acknowledgements then ["ack request dropped".toList] else []) ++
      (if !message.destination.isBroadcast then
        ["unicast destination replaced by broadcast (no identity mapping)".toList] else [])
    (some (outgoing message target caps gateway now payload),
      if losses.isEmpty then .exact else .degraded losses)

/-- A translation gives a message exactly when the content can be carried: without one it
is unsupported, and with one it is exact or has lost something. -/
theorem translate_cases (message : UnifiedMessage) (target : ProtocolId)
    (caps : ProtocolCapabilities) (gateway : Text) (now : Nat) (senderPrefix : Bool) :
    (∃ why, translateContent message caps senderPrefix = .error why ∧
      translate message target caps gateway now senderPrefix = (none, .unsupported why)) ∨
    ∃ payload cut outcome, translateContent message caps senderPrefix = .ok (payload, cut) ∧
      translate message target caps gateway now senderPrefix =
        (some (outgoing message target caps gateway now payload), outcome) ∧
      (outcome = .exact ∨ ∃ losses, outcome = .degraded losses) := by
  unfold translate
  cases content : translateContent message caps senderPrefix with
  | error why => exact .inl ⟨why, rfl, rfl⟩
  | ok result =>
    refine .inr ⟨result.1, result.2, _, rfl, rfl, ?_⟩
    generalize result.2 ++ _ ++ _ ++ _ = losses
    by_cases faithful : losses.isEmpty = true
    · exact .inl (if_pos faithful)
    · exact .inr ⟨losses, if_neg faithful⟩

/-! ## Rate limiting -/

/-- The nearest single-precision number. Values too large for the format, which only an
unusable configuration reaches, are left as they are. -/
def single (value : ℚ) : ℚ := BinaryFloat.round 24 (-126) value

/-- Token bucket of one destination protocol. -/
structure Bucket where
  tokens : ℚ
  perSecond : ℚ
  max : ℚ
  last : Nat
  deriving DecidableEq

def Bucket.take (bucket : Bucket) (now : Nat) : Bucket × Bool :=
  let elapsed := single (single (now - bucket.last : Nat) / 1000)
  let tokens := min (single (bucket.tokens + single (elapsed * bucket.perSecond))) bucket.max
  if tokens ≥ 1 then ({ bucket with tokens := single (tokens - 1), last := now }, true)
  else ({ bucket with tokens := tokens, last := now }, false)

/-- Take from the first bucket of a protocol. -/
def takeToken (target : ProtocolId) (now : Nat) :
    List (ProtocolId × Bucket) → Option (List (ProtocolId × Bucket) × Bool)
  | [] => none
  | (protocol, bucket) :: rest =>
    if protocol = target then some ((protocol, (bucket.take now).1) :: rest, (bucket.take now).2)
    else (takeToken target now rest).map (fun taken => ((protocol, bucket) :: taken.1, taken.2))

/-! ## The gateway -/

inductive GatewayMode where
  | native
  | compatibility
  | bridge
  deriving DecidableEq, Repr

structure GatewayStats where
  framesIn : Nat
  decoded : Nat
  undecodable : Nat
  unknownProtocol : Nat
  duplicates : Nat
  policyDenied : Nat
  loopsPrevented : Nat
  translated : Nat
  degraded : Nat
  unsupported : Nat
  rateLimited : Nat
  framesOut : Nat
  airtimeOutMs : Nat
  deriving DecidableEq, Repr

def GatewayStats.zero : GatewayStats := ⟨0, 0, 0, 0, 0, 0, 0, 0, 0, 0, 0, 0, 0⟩

structure Gateway where
  id : Text
  mode : GatewayMode
  detector : Detector
  policy : Policy
  dedup : Deduplicator
  loops : LoopGuard
  stats : GatewayStats
  senderPrefix : Bool
  buckets : List (ProtocolId × Bucket)

namespace Gateway

def new (id : Text) (detector : Detector) : Gateway where
  id := id
  mode := .native
  detector := detector
  policy := .denyAll
  dedup := .new 512 (10 * 60 * 1000)
  loops := .new id
  stats := .zero
  senderPrefix := true
  buckets := []

def setRateLimit (gateway : Gateway) (target : ProtocolId) (perMinute : ℚ)
    (burst : Nat) : Gateway :=
  { gateway with
    buckets := gateway.buckets.filter (fun entry => entry.1 ≠ target) ++
      [(target, ⟨single burst, single (perMinute / 60), single burst, 0⟩)] }

/-- Whether a message may go out to a protocol now; a protocol without a limit gets the
default one. -/
def bucket (gateway : Gateway) (target : ProtocolId) (now : Nat) : Gateway × Bool :=
  match takeToken target now gateway.buckets with
  | some (buckets, granted) => ({ gateway with buckets := buckets }, granted)
  | none =>
    let limited := gateway.setRateLimit target 6 3
    match takeToken target now limited.buckets with
    | some (buckets, granted) => ({ limited with buckets := buckets }, granted)
    | none => (limited, false)

variable [Primitives]

/-- Rate limit, stamp, encode and account for a translated message. -/
def emit (gateway : Gateway) (adapter : RadioProtocol) (translated : UnifiedMessage)
    (target : ProtocolId) (context : ProtocolContext) : Gateway × Option OutboundFrame :=
  let limited := gateway.bucket target context.nowMs
  let limitedGateway := limited.1
  if !limited.2 then
    ({ limitedGateway with
      stats.rateLimited := limitedGateway.stats.rateLimited + 1 }, none)
  else
    let stamped := limitedGateway.loops.stamp translated target context.nowMs
    match adapter.encode stamped context with
    | .error _ => (limitedGateway, none)
    | .ok frame =>
      ({ limitedGateway with
        dedup := match Deduplicator.textDigest stamped with
          | some digest => limitedGateway.dedup.rememberDigest digest context.nowMs
          | none => limitedGateway.dedup
        stats.translated := limitedGateway.stats.translated + 1
        stats.framesOut := limitedGateway.stats.framesOut + 1
        stats.airtimeOutMs := limitedGateway.stats.airtimeOutMs +
          frame.profile.airtimeMs frame.bytes.length }, some frame)

def bridgeOne (gateway : Gateway) (message : UnifiedMessage) (target : ProtocolId)
    (context : ProtocolContext) : Gateway × Option OutboundFrame :=
  if !(gateway.policy.evaluate message target).allowed then
    ({ gateway with stats.policyDenied := gateway.stats.policyDenied + 1 }, none)
  else if gateway.loops.check message target ≠ .ok then
    ({ gateway with stats.loopsPrevented := gateway.stats.loopsPrevented + 1 }, none)
  else
    match gateway.detector.adapter target with
    | none => (gateway, none)
    | some adapter =>
      match translate message target adapter.capabilities gateway.id context.nowMs
          gateway.senderPrefix with
      | (_, .unsupported _) =>
        ({ gateway with stats.unsupported := gateway.stats.unsupported + 1 }, none)
      | (none, .exact) => (gateway, none)
      | (some translated, .exact) => gateway.emit adapter translated target context
      | (none, .degraded _) =>
        ({ gateway with stats.degraded := gateway.stats.degraded + 1 }, none)
      | (some translated, .degraded _) =>
        Gateway.emit { gateway with stats.degraded := gateway.stats.degraded + 1 } adapter
          translated target context

/-- Bridge to one target after the other. -/
def bridgeEach (message : UnifiedMessage) (context : ProtocolContext) :
    Gateway → List ProtocolId → Gateway × List OutboundFrame
  | gateway, [] => (gateway, [])
  | gateway, target :: rest =>
    let one := gateway.bridgeOne message target context
    let others := bridgeEach message context one.1 rest
    (others.1, one.2.toList ++ others.2)

/-- The protocols a message is bridged to. -/
def targets (gateway : Gateway) (message : UnifiedMessage) : List ProtocolId :=
  (gateway.detector.adapters.map RadioProtocol.id).filter (fun id => id ≠ message.protocol)

/-- Translate a message for every other protocol (bridge mode only). -/
def bridgeAll (gateway : Gateway) (message : UnifiedMessage) (context : ProtocolContext) :
    Gateway × List OutboundFrame :=
  if gateway.mode ≠ .bridge then (gateway, [])
  else bridgeEach message context gateway (gateway.targets message)

/-- Bridge a message that was decoded elsewhere. -/
def bridgeMessage (gateway : Gateway) (message : UnifiedMessage) (context : ProtocolContext) :
    Gateway × List OutboundFrame :=
  let observed := gateway.dedup.observe message context.nowMs
  let seen := { gateway with dedup := observed.1 }
  if !observed.2 then ({ seen with stats.duplicates := seen.stats.duplicates + 1 }, [])
  else seen.bridgeAll message context

/-- What came of a received frame. -/
structure Reception where
  detection : Detection
  message : Option UnifiedMessage
  frames : List OutboundFrame

/-- Feed a received frame: the decoded message, if any, and the frames to transmit on
other networks. -/
def onFrame (gateway : Gateway) (frame : Bytes) (rx : RxMeta) (context : ProtocolContext) :
    Gateway × Reception :=
  let heard := { gateway with stats.framesIn := gateway.stats.framesIn + 1 }
  let classified := heard.detector.classify frame rx context
  match classified.2 with
  | none =>
    ({ heard with stats.unknownProtocol := heard.stats.unknownProtocol + 1 },
      ⟨classified.1, none, []⟩)
  | some (.error _) =>
    ({ heard with stats.undecodable := heard.stats.undecodable + 1 }, ⟨classified.1, none, []⟩)
  | some (.ok message) =>
    let decoded := { heard with stats.decoded := heard.stats.decoded + 1 }
    let observed := decoded.dedup.observe message context.nowMs
    let seen := { decoded with dedup := observed.1 }
    if !observed.2 then
      ({ seen with stats.duplicates := seen.stats.duplicates + 1 }, ⟨classified.1, none, []⟩)
    else
      let bridged := seen.bridgeAll message context
      (bridged.1, ⟨classified.1, some message, bridged.2⟩)

end Gateway

end MeshStar

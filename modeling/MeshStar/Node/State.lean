import MeshStar.Discovery
import MeshStar.Fragmentation
import MeshStar.Mailbox
import MeshStar.Power
import MeshStar.Session
import MeshStar.Storm
import MeshStar.Transport
import MeshStar.Zone

/-!
# The state of a node

A node is a state machine over every protocol component. Its state is one record with
the source's fields; counters that no decision reads are left out. The record also
carries a `History`: what the node has queued for transmission, the foreign packets it
has accepted from the radio and the deposits it has asked for. No modelled function
reads the history. It lets a property relate a step to what happened before it.
-/

namespace MeshStar

variable [Primitives]

/-- Which forwarding strategy the node runs. -/
inductive RoutingMode where
  | zrp
  | flood
  deriving DecidableEq, Repr

structure NodeConfig where
  role : Role
  routingMode : RoutingMode
  profile : LoRaProfile
  maxTtl : UInt8
  defaultTtl : UInt8
  networkKey : Option NetworkKey
  neighbor : NeighborConfig
  routing : RoutingConfig
  zrp : ZrpConfig
  storm : StormConfig
  transport : TransportConfig
  mailbox : MailboxConfig
  power : PowerConfig
  session : SessionLimits
  reassembly : ReassemblyConfig
  handshakeTimeoutMs : Nat
  maxTxQueue : Nat
  envelopeTtlS : UInt32
  unicastForwardJitterMs : Nat
  hopAckTimeoutMs : Nat
  hopRetries : Nat

def NodeConfig.default : NodeConfig :=
  { role := .normal
    routingMode := .zrp
    profile := LoRaProfile.meshstarEu868
    maxTtl := 64
    defaultTtl := MeshStar.defaultTtl
    networkKey := none
    neighbor := NeighborConfig.default
    routing := RoutingConfig.default
    zrp := ZrpConfig.default
    storm := StormConfig.default
    transport := TransportConfig.default
    mailbox := MailboxConfig.default
    power := PowerConfig.default
    session := SessionLimits.default
    reassembly := ReassemblyConfig.default
    handshakeTimeoutMs := 120000
    maxTxQueue := 32
    envelopeTtlS := 24 * 3600
    unicastForwardJitterMs := 60
    hopAckTimeoutMs := 1500
    hopRetries := 2 }

/-- How a received message was protected. -/
inductive Protection where
  | session
  | envelope
  | group
  | plaintext
  deriving DecidableEq, Repr

/-- Why a message failed. -/
inductive FailReason where
  | noRoute
  | noAck
  | noSession
  | noKey
  | queueFull
  | tooLarge
  | rejected
  deriving DecidableEq, Repr

/-- Events for the application. -/
inductive NodeEvent where
  | messageReceived (sender : Address) (seq : UInt16) (payload : Bytes) (protection : Protection)
      (hops : UInt8) (rssiDbm : Int) (snrDb : Float32) (relay : Option Address)
  | delivered (handle : UInt32) (recipient : Address) (rttMs : Nat)
  | stored (handle : UInt32) (anchor : Address)
  | failed (handle : UInt32) (recipient : Address) (reason : FailReason)
  | neighborUp (addr : Address)
  | neighborDown (addr : Address)
  | sessionEstablished (peer : Address)
  | sessionClosed (peer : Address)
  | routeFound (dst : Address) (hops : UInt8) (cost : Nat)
  | routeLost (dst : Address)
  | powerState (awake : Bool)
  | mailboxDelivered (recipient : Address) (envelopeId : UInt32)
  | traceResult (dst : Address) (reached : Bool) (hops : List UInt16) (rttMs : Nat)

/-- A frame waiting for the radio. -/
structure TxItem where
  frame : Bytes
  notBefore : Nat
  ptype : PacketType
  priority : Nat
  isRelay : Bool
  dst : Address
  deriving DecidableEq, Repr

/-- Handle marker of a queued control payload. -/
def queuedControl : UInt32 := 0xFFFFFFFE

/-- Handle marker of a queued deposit. -/
def queuedStore : UInt32 := 0xFFFFFFFF

/-- Application send queued until a session exists. -/
structure QueuedSend where
  dst : Address
  payload : Bytes
  reliability : Reliability
  handle : UInt32
  queuedAt : Nat
  deriving DecidableEq, Repr

/-- A handshake in flight. -/
structure PendingHandshake where
  hs : HandshakeXX
  startedAt : Nat
  epoch : UInt8
  queued : List QueuedSend
  attempts : Nat
  m1 : Bytes
  re : Bytes32
  m2 : Bytes

/-- Envelope send waiting for the destination's public key. -/
structure PendingEnvelope where
  dst : Address
  payload : Bytes
  handle : UInt32
  queuedAt : Nat
  deriving DecidableEq, Repr

/-- A transmitted unicast packet waiting for its next hop to confirm. -/
structure HopPending where
  key : PacketKey
  nextHop : Address
  packet : Packet
  attempts : Nat
  due : Nat
  isRelay : Bool
  rerouted : Bool
  deriving DecidableEq, Repr

/-- A packet held for a sleeping neighbour. -/
structure HeldPacket where
  leaf : Address
  packet : Packet
  expires : Nat
  deriving DecidableEq, Repr

/-- A deposit this node asked a host to keep. -/
structure Deposit where
  host : Address
  dst : Address
  envelopeId : UInt32
  deriving DecidableEq, Repr

/-- What happened so far, read by no modelled function. -/
structure History where
  queued : List Packet
  received : List Packet
  deposits : List Deposit
  deriving DecidableEq, Repr

/-- The engine. -/
structure Node where
  cfg : NodeConfig
  id : Identity
  rng : Rng
  now : Nat
  neighbors : NeighborTable
  zone : ZoneTable
  routes : RouteCache
  ierp : Ierp
  rrepPending : PendingReplies
  seen : SeenCache
  sched : RebroadcastScheduler
  transport : Transport
  mailbox : Option Mailbox
  power : PowerManager
  reassembler : Reassembler
  sessions : OrderedMap Address Session
  handshakes : OrderedMap Address PendingHandshake
  keyDir : OrderedMap Address PublicIdentity
  pendingEnvelopes : List PendingEnvelope
  txQueue : List TxItem
  events : List NodeEvent
  beaconSeq : UInt16
  nextBeacon : Nat
  beaconsSent : UInt32
  lastBeaconAt : Nat
  lastNeighborCount : Nat
  nextHandle : UInt32
  fragId : UInt16
  rxForUs : Nat
  openedEnvelopes : List PacketKey
  attachedAnchor : Option Address
  rxAirtimeMs : Nat
  lastHousekeeping : Nat
  lastWake : Nat
  sleptAt : Nat
  pendingFetch : Option (Address × Nat × Nat)
  pendingTraces : List (Address × Nat)
  heldForSleeping : List HeldPacket
  hopPending : List HopPending
  history : History

namespace Node

/-- Mailbox limits of a node that is no anchor: an eighth of the configured space. -/
def smallMailbox (cfg : MailboxConfig) : MailboxConfig :=
  { cfg with
    maxEntries := cfg.maxEntries / 8
    maxBytes := cfg.maxBytes / 8
    maxPerDestination := max 2 (cfg.maxPerDestination / 4) }

/-- The configuration as a node keeps it: time to live in range, the demodulation floor
of the modem profile. -/
def normalize (cfg : NodeConfig) : NodeConfig :=
  let maxTtl := max cfg.maxTtl 1
  { cfg with
    maxTtl := maxTtl
    defaultTtl := if cfg.defaultTtl < 1 then 1 else if cfg.defaultTtl > maxTtl then maxTtl
      else cfg.defaultTtl
    neighbor := { cfg.neighbor with snrFloorDb := cfg.profile.demodSnrDb } }

def new (config : NodeConfig) (id : Identity) (rng : Rng) (now : Nat) : Node :=
  let mailbox := match config.role with
    | .anchor => some (Mailbox.new config.mailbox)
    | .normal => some (Mailbox.new (smallMailbox config.mailbox))
    | .leaf => none
  let firstSeq := rng.nextU32
  let cfg := normalize config
  let jitter := firstSeq.1.nextU64
  let beaconSeq := jitter.1.nextU32
  let fragId := beaconSeq.1.nextU32
  { cfg := cfg
    id := id
    rng := fragId.1
    now := now
    neighbors := NeighborTable.new cfg.neighbor
    zone := ZoneTable.new cfg.zrp.zoneRadius cfg.zrp.maxZoneEntries
      (cfg.neighbor.beaconIntervalMs * cfg.neighbor.timeoutIntervals * 2)
    routes := RouteCache.new cfg.routing
    ierp := Ierp.new cfg.zrp
    rrepPending := ⟨[]⟩
    seen := SeenCache.new cfg.storm.seenCacheSize cfg.storm.seenTtlMs
    sched := RebroadcastScheduler.new
    transport := Transport.new cfg.transport (firstSeq.2.toUInt16 ||| 1)
    mailbox := mailbox
    power := PowerManager.new cfg.power now
    reassembler := Reassembler.new cfg.reassembly
    sessions := OrderedMap.empty
    handshakes := OrderedMap.empty
    keyDir := OrderedMap.empty
    pendingEnvelopes := []
    txQueue := []
    events := []
    beaconSeq := beaconSeq.2.toUInt16
    nextBeacon := now + 500 + jitter.2 % max cfg.neighbor.beaconJitterMs 1
    beaconsSent := 0
    lastBeaconAt := 0
    lastNeighborCount := 0
    nextHandle := 1
    fragId := fragId.2.toUInt16
    rxForUs := 0
    openedEnvelopes := []
    attachedAnchor := none
    rxAirtimeMs := 0
    lastHousekeeping := now
    lastWake := now
    sleptAt := now
    pendingFetch := none
    pendingTraces := []
    heldForSleeping := []
    hopPending := []
    history := ⟨[], [], []⟩ }

def address (node : Node) : Address := node.id.address

/-- Queue an event for the application; a full queue drops it. -/
def emit (node : Node) (event : NodeEvent) : Node :=
  if node.events.length < 256 then { node with events := node.events ++ [event] } else node

/-- A fresh nonzero packet id. -/
def newPacketId (node : Node) : Node × UInt32 :=
  let drawn := Rng.drawNonzero node.rng.gap node.rng
  ({ node with rng := drawn.1 }, drawn.2)

def newHandle (node : Node) : Node × UInt32 :=
  ({ node with nextHandle := max (node.nextHandle + 1) 1 }, node.nextHandle)

/-- Local channel congestion estimate from the airtime sent and heard. -/
def congestion (node : Node) : Node × UInt8 :=
  let used := node.power.airtimePermille node.now
  let heard := node.rxAirtimeMs * 1000 / max node.cfg.power.airtimeWindowMs 1
  ({ node with power := used.1 }, UInt8.ofNat (min ((used.2 + heard) * 255 / 250) 255))

/-- Addition that stops at the largest byte. -/
def saturatingAdd (left right : UInt8) : UInt8 := UInt8.ofNat (min (left.toNat + right.toNat) 255)

/-- Time to live for a destination, from what is known of its distance. -/
def ttlFor (node : Node) (dst : Address) : UInt8 :=
  if node.neighbors.contains dst then min 2 node.cfg.maxTtl
  else
    match node.zone.get dst with
    | some known => min (known.distance + 2) node.cfg.maxTtl
    | none =>
      match node.routes.lookup dst node.now with
      | some route => min (saturatingAdd route.hops 4) node.cfg.maxTtl
      | none => node.cfg.defaultTtl

/-- Keep the cheaper of two candidates; the earlier one wins a tie. -/
def consider (best : Option (Nat × Address)) (cost : Nat) (hop : Address) :
    Option (Nat × Address) :=
  match best with
  | some (least, _) => if cost < least then some (cost, hop) else best
  | none => some (cost, hop)

/-- Candidate through the direct link. -/
def directHop (node : Node) (dst : Address) (now : Nat) (best : Option (Nat × Address)) :
    Option (Nat × Address) :=
  match node.neighbors.get dst with
  | some neighbor =>
    if !neighbor.isSleeping now || node.cfg.role == .anchor then
      consider best (linkCost neighbor.linkQuality 0) dst
    else best
  | none => best

/-- Candidate through the zone table. -/
def zoneHop (node : Node) (dst : Address) (best : Option (Nat × Address)) :
    Option (Nat × Address) :=
  match node.zone.get dst with
  | some known =>
    match node.neighbors.get known.nextHop with
    | some neighbor =>
      consider best (linkCost (min known.quality neighbor.linkQuality) 0 * known.distance.toNat)
        known.nextHop
    | none => best
  | none => best

/-- Candidate through the route cache. -/
def cachedHop (node : Node) (dst : Address) (now : Nat) (best : Option (Nat × Address)) :
    Option (Nat × Address) :=
  match node.routes.lookup dst now with
  | some route =>
    match node.neighbors.get route.nextHop with
    | some neighbor =>
      consider best (max (route.effectiveCost now) (linkCost neighbor.linkQuality 0)) route.nextHop
    | none => if route.hops ≤ 1 then consider best (route.effectiveCost now) route.nextHop else best
  | none => best

/-- Next hop: the cheapest of the direct link, the zone table and the route cache. A
sleeping-role node without any sends through its host or its best relay. -/
def nextHopFor (node : Node) (dst : Address) (now : Nat) : Option Address :=
  match node.cachedHop dst now (node.zoneHop dst (node.directHop dst now none)) with
  | some (_, hop) => some hop
  | none =>
    if node.cfg.role = .leaf then
      match node.attachedAnchor.filter node.neighbors.contains with
      | some anchor => some anchor
      | none => node.neighbors.bestRelay.map Neighbor.addr
    else none

/-- A header of our own with a fresh packet id. -/
def baseHeader (node : Node) (ptype : PacketType) (dst : Address) (ttl : UInt8) : Node × Header :=
  let drawn := node.newPacketId
  let clamped := if ttl < 1 then 1 else if ttl > node.cfg.maxTtl then node.cfg.maxTtl else ttl
  let header := Header.new ptype node.address dst drawn.2 0 clamped
  (drawn.1, if node.cfg.networkKey.isSome then header.set Flags.netAuth true else header)

/-- A fresh header has the network flag at most. -/
theorem baseHeader_has (node : Node) (ptype : PacketType) (dst : Address) (ttl : UInt8)
    {flag : UInt8} (other : Flags.netAuth &&& flag = 0) :
    (node.baseHeader ptype dst ttl).2.has flag = false := by
  simp only [baseHeader]
  split
  · rw [Header.has_set_of_disjoint other, Header.new_has]
  · rw [Header.new_has]

/-- A fresh header names its sender, its destination and its type. -/
theorem baseHeader_fields (node : Node) (ptype : PacketType) (dst : Address) (ttl : UInt8) :
    (node.baseHeader ptype dst ttl).2.src = node.address ∧
      (node.baseHeader ptype dst ttl).2.dst = dst ∧
      (node.baseHeader ptype dst ttl).2.ptype = ptype := by
  simp only [baseHeader]
  split <;> exact ⟨rfl, rfl, rfl⟩

/-- A fresh header is marked for the network tag exactly when there is a network key. -/
theorem baseHeader_netAuth (node : Node) (ptype : PacketType) (dst : Address) (ttl : UInt8) :
    (node.baseHeader ptype dst ttl).2.has Flags.netAuth = node.cfg.networkKey.isSome := by
  simp only [baseHeader]
  cases node.cfg.networkKey with
  | none => exact Header.new_has
  | some key => exact Header.has_set_self _ (by decide)

/-- Time to wait for a hop confirmation. -/
def hopTimeout (node : Node) (wireLen : Nat) : Nat :=
  3 * node.cfg.profile.airtimeMs wireLen + node.cfg.unicastForwardJitterMs +
    node.cfg.hopAckTimeoutMs

/-- Learn or refresh a route from observed traffic. -/
def learnRoute (node : Node) (dst nextHop : Address) (hops : UInt8) (cost : Nat)
    (source : RouteSource) (viaAnchor : Option Address) (now : Nat) : Node :=
  if dst = node.address ∨ dst.isBroadcast ∨ nextHop = node.address then node
  else { node with
    routes := node.routes.insert ⟨dst, nextHop, hops, cost, now, 0, now, 0, source, viaAnchor⟩ now }

/-- Cost of the link to a neighbour, or a pessimistic default. -/
def linkCostTo (node : Node) (addr : Address) : Node × Nat :=
  let quality := match node.neighbors.get addr with
    | some neighbor => neighbor.linkQuality
    | none => 96
  let measured := node.congestion
  (measured.1, linkCost quality measured.2)

end Node

end MeshStar

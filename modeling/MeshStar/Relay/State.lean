import MeshStar.Node.Timers

/-!
# The state of a relay and its transmit path

A relay is the forwarding half of a node for small boards: the same tables and frame
formats, no sessions, no mailbox, no transport. The tables are those of a node; what
follows is the relay's own state and the functions by which it picks next hops, tracks
them and queues frames. Counters that no decision reads are left out. As for a node, the
record carries the packets queued for transmission so far, which no function reads.
-/

namespace MeshStar

variable [Primitives]

/-- How a relay presents itself in beacons: an address, and what a full beacon carries. -/
structure RelayIdentity where
  address : Address
  signBeacon : Beacon → UInt32 → Beacon

/-- Full identity: full beacons are signed. -/
def signedIdentity (id : Identity) : RelayIdentity :=
  ⟨id.address, fun beacon timestamp => beacon.sign id timestamp⟩

structure RelayConfig where
  profile : LoRaProfile
  networkKey : Option NetworkKey
  maxTtl : UInt8
  neighbor : NeighborConfig
  zrp : ZrpConfig
  routing : RoutingConfig
  storm : StormConfig
  hopRetries : Nat
  hopAckTimeoutMs : Nat
  unicastForwardJitterMs : Nat
  maxTxQueue : Nat
  maxHeld : Nat
  maxHopPending : Nat

/-- Defaults sized for little memory. -/
def RelayConfig.default : RelayConfig :=
  { profile := LoRaProfile.meshstarEu868
    networkKey := none
    maxTtl := 32
    neighbor := { NeighborConfig.default with
      maxNeighbors := 12
      snrFloorDb := LoRaProfile.meshstarEu868.demodSnrDb }
    zrp := { ZrpConfig.default with
      maxZoneEntries := 24
      maxAdvertisedEntries := 6
      maxPendingDiscoveries := 2
      maxQueuedPerDiscovery := 2 }
    routing := { RoutingConfig.default with maxDestinations := 16, alternatives := 1 }
    storm := { StormConfig.default with seenCacheSize := 48, maxPending := 3 }
    hopRetries := 2
    hopAckTimeoutMs := 1500
    unicastForwardJitterMs := 60
    maxTxQueue := 4
    maxHeld := 2
    maxHopPending := 4 }

/-- A forwarded packet waiting for its next hop to confirm. -/
structure RelayHop where
  key : PacketKey
  nextHop : Address
  packet : Packet
  attempts : Nat
  due : Nat
  rerouted : Bool
  deriving DecidableEq, Repr

structure Relay where
  cfg : RelayConfig
  id : RelayIdentity
  rng : Rng
  now : Nat
  neighbors : NeighborTable
  zone : ZoneTable
  routes : RouteCache
  ierp : Ierp
  sched : RebroadcastScheduler
  seen : SeenCache
  hopPending : List RelayHop
  txQueue : List TxItem
  held : List HeldPacket
  nextBeacon : Nat
  lastBeaconAt : Nat
  beaconSeq : UInt16
  beaconsSent : UInt32
  lastNeighborCount : Nat
  packetIds : UInt32
  lastHousekeeping : Nat
  airtimeMs : Nat
  queued : List Packet

namespace Relay

def withIdentity (cfg : RelayConfig) (id : RelayIdentity) (rng : Rng) (now : Nat) : Relay :=
  let jitter := rng.nextU64
  let beaconSeq := jitter.1.nextU32
  let packetIds := beaconSeq.1.nextU32
  { cfg := cfg
    id := id
    rng := packetIds.1
    now := now
    neighbors := NeighborTable.new cfg.neighbor
    zone := ZoneTable.new cfg.zrp.zoneRadius cfg.zrp.maxZoneEntries
      (cfg.neighbor.beaconIntervalMs * cfg.neighbor.timeoutIntervals * 2)
    routes := RouteCache.new cfg.routing
    ierp := Ierp.new cfg.zrp
    sched := RebroadcastScheduler.new
    seen := SeenCache.new cfg.storm.seenCacheSize cfg.storm.seenTtlMs
    hopPending := []
    txQueue := []
    held := []
    nextBeacon := now + 500 + jitter.2 % 5000
    lastBeaconAt := 0
    beaconSeq := beaconSeq.2.toUInt16
    beaconsSent := 0
    lastNeighborCount := 0
    packetIds := packetIds.2
    lastHousekeeping := now
    airtimeMs := 0
    queued := [] }

def address (relay : Relay) : Address := relay.id.address

/-- The next packet id of a multiplicative sequence; it wraps around. -/
def newPacketId (relay : Relay) : Relay × UInt32 :=
  let next := (relay.packetIds + 1) * 2654435761
  ({ relay with packetIds := next }, next)

/-- Channel congestion from the airtime of about the last minute. -/
def congestion (relay : Relay) : UInt8 :=
  UInt8.ofNat (min (relay.airtimeMs * 1000 / 64000 * 255 / 250) 255)

/-- Cost of the link to a neighbour, or a pessimistic default. -/
def linkCostTo (relay : Relay) (addr : Address) : Nat :=
  let quality := match relay.neighbors.get addr with
    | some neighbor => neighbor.linkQuality
    | none => 96
  linkCost quality relay.congestion

/-- A header of our own with a fresh packet id. The source's clamp panics for a largest
time to live of zero, where the largest is taken here. -/
def baseHeader (relay : Relay) (ptype : PacketType) (dst : Address) (ttl : UInt8) :
    Relay × Header :=
  let drawn := relay.newPacketId
  let maxTtl := relay.cfg.maxTtl
  let clamped := if ttl < 1 then 1 else if ttl > maxTtl then maxTtl else ttl
  let header := { Header.new ptype relay.address dst drawn.2 0 clamped with
    relay := relay.address.short }
  (drawn.1, if relay.cfg.networkKey.isSome then header.set Flags.netAuth true else header)

/-- Make room in a full transmit queue by dropping the last relay of lowest urgency.
`none` when the queue is full and holds no relay. -/
def makeTxRoom (relay : Relay) : Option (List TxItem) :=
  if relay.txQueue.length ≥ relay.cfg.maxTxQueue then
    match Selection.lastMaxBy (fun entry : TxItem × Nat => entry.1.priority)
        (relay.txQueue.zipIdx.filter (fun entry => entry.1.isRelay)) with
    | some victim => some (relay.txQueue.eraseIdx victim.2)
    | none => none
  else some relay.txQueue

/-- Encode and queue a packet for transmission. -/
def enqueue (relay : Relay) (packet : Packet) (notBefore priority : Nat) (isRelay : Bool) :
    Relay × Bool :=
  match packet.encode relay.cfg.networkKey with
  | .error _ => (relay, false)
  | .ok frame =>
    match relay.makeTxRoom with
    | none => (relay, false)
    | some queue =>
      let item : TxItem :=
        ⟨frame, notBefore, packet.header.ptype, priority, isRelay, packet.header.dst⟩
      ({ relay with txQueue := queue ++ [item], queued := relay.queued ++ [packet] }, true)

/-- Candidate through the direct link. -/
def directHop (relay : Relay) (dst : Address) (now : Nat) (best : Option (Nat × Address)) :
    Option (Nat × Address) :=
  match relay.neighbors.get dst with
  | some neighbor =>
    if !neighbor.isSleeping now then Node.consider best (linkCost neighbor.linkQuality 0) dst
    else best
  | none => best

/-- Candidate through the zone table. -/
def zoneHop (relay : Relay) (dst : Address) (best : Option (Nat × Address)) :
    Option (Nat × Address) :=
  match relay.zone.get dst with
  | some known =>
    match relay.neighbors.get known.nextHop with
    | some neighbor =>
      let perHop := linkCost (min known.quality neighbor.linkQuality) 0
      Node.consider best (perHop * known.distance.toNat) known.nextHop
    | none => best
  | none => best

/-- Candidate through the route cache. -/
def cachedHop (relay : Relay) (dst : Address) (now : Nat) (best : Option (Nat × Address)) :
    Option (Nat × Address) :=
  match relay.routes.lookup dst now with
  | some route =>
    match relay.neighbors.get route.nextHop with
    | some neighbor =>
      let first := linkCost neighbor.linkQuality 0
      Node.consider best (max (route.effectiveCost now) first) route.nextHop
    | none =>
      if route.hops ≤ 1 then Node.consider best (route.effectiveCost now) route.nextHop else best
  | none => best

/-- Next hop: the cheapest of the direct link, the zone table and the route cache. -/
def nextHopFor (relay : Relay) (dst : Address) (now : Nat) : Option Address :=
  (relay.cachedHop dst now (relay.zoneHop dst (relay.directHop dst now none))).map Prod.snd

/-- Learn or refresh a route from observed traffic. -/
def learnRoute (relay : Relay) (dst nextHop : Address) (hops : UInt8) (cost : Nat)
    (source : RouteSource) (viaAnchor : Option Address) (now : Nat) : Relay :=
  if dst = relay.address ∨ dst.isBroadcast ∨ nextHop = relay.address then relay
  else { relay with
    routes := relay.routes.insert ⟨dst, nextHop, hops, cost, now, 0, now, 0, source, viaAnchor⟩
      now }

/-- Time to live for a destination, from what is known of its distance. -/
def ttlFor (relay : Relay) (dst : Address) : UInt8 :=
  if relay.neighbors.contains dst then min 2 relay.cfg.maxTtl
  else
    match relay.zone.get dst with
    | some known => min (known.distance + 2) relay.cfg.maxTtl
    | none =>
      match relay.routes.lookup dst relay.now with
      | some route => min (Node.saturatingAdd route.hops 4) relay.cfg.maxTtl
      | none => min 8 relay.cfg.maxTtl

/-- Time to wait for a hop confirmation. -/
def hopTimeout (relay : Relay) (wireLen : Nat) : Nat :=
  3 * relay.cfg.profile.airtimeMs wireLen + relay.cfg.unicastForwardJitterMs +
    relay.cfg.hopAckTimeoutMs

/-- Remember a unicast transmission until the next hop confirms it. -/
def trackHop (relay : Relay) (packet : Packet) (nextHop : Address) (now : Nat) : Relay :=
  if relay.cfg.hopRetries = 0 ∨ relay.hopPending.length ≥ relay.cfg.maxHopPending then relay
  else
    let drawn := relay.rng.nextU64
    let due := now + relay.hopTimeout packet.wireLen + drawn.2 % 200
    let kept := relay.hopPending.filter (fun hop => hop.key != packet.header.key)
    { relay with
      rng := drawn.1
      neighbors := relay.neighbors.modify nextHop Neighbor.recordTxAttempt
      hopPending := kept ++ [⟨packet.header.key, nextHop, packet, 1, due, false⟩] }

/-- The next hop confirmed reception of a packet. -/
def hopConfirmed (relay : Relay) (key : PacketKey) (sender : Address) : Relay :=
  let kept := relay.hopPending.filter (fun hop => !(hop.key == key && hop.nextHop == sender))
  if kept.length ≠ relay.hopPending.length then
    { relay with
      hopPending := kept
      neighbors := (relay.neighbors.recordSuccess sender).modify sender
        Neighbor.recordTxConfirmed }
  else { relay with hopPending := kept }

/-- Route a packet we generate or repaired. Without a next hop it is dropped. -/
def routeUnicast (relay : Relay) (packet : Packet) (now : Nat) : Relay × Bool :=
  let dst := packet.header.dst
  match relay.nextHopFor dst now with
  | none => (relay, false)
  | some hop =>
    let directed := { packet with header := { packet.header with
      nextHop := hop.short
      relay := relay.address.short } }
    let touched := { relay with routes := relay.routes.touch dst hop now }
    let priority := if packet.header.ptype = .data then Priority.data else Priority.control
    (touched.trackHop directed hop now).enqueue directed now priority true

/-- Flood a route request on behalf of a source. -/
def sendRouteRequest (relay : Relay) (target : Address) (reqId : UInt32) (ttl : UInt8)
    (now : Nat) : Relay :=
  let based := relay.baseHeader .routeRequest Address.broadcast ttl
  let request : RouteRequest := ⟨target, 0, RreqFlags.proxyOk, []⟩
  (based.1.enqueue ⟨{ based.2 with packetId := reqId }, request.encode⟩ now Priority.beacon
    false).1

def sendRouteError (relay : Relay) (recipient unreachable : Address) (now : Nat) : Relay :=
  if recipient = relay.address ∨ (relay.nextHopFor recipient now).isNone then relay
  else
    let based := relay.baseHeader .routeError recipient (relay.ttlFor recipient)
    (based.1.routeUnicast ⟨based.2, (RouteError.mk [unreachable]).encode⟩ now).1

/-- Plaintext, single hop: only suppresses a retransmission. -/
def sendLinkAck (relay : Relay) (recipient : Address) (packetId : UInt32) (now : Nat) : Relay :=
  let based := relay.baseHeader .control recipient 1
  let body := Control.linkAck :: BigEndian.encode 4 packetId.toNat
  (based.1.enqueue ⟨{ based.2 with nextHop := recipient.short }, body⟩ now Priority.control
    false).1

end Relay

end MeshStar

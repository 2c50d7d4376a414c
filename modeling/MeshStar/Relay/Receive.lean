import MeshStar.Relay.State

/-!
# The receive path of a relay

A relay handles what keeps its tables current and passes everything else on. A frame is
first taken as an acknowledgement of an earlier transmission, then the packet meets the
duplicate filter and is dispatched by type.
-/

namespace MeshStar

variable [Primitives]

namespace Relay

/-- Hand a copy of a flooded packet to the relay scheduler. -/
def scheduleRelay (relay : Relay) (key : PacketKey) (packet : Packet) (rxMeta : RxMeta)
    (now : Nat) : Relay :=
  let drawn := forwardDelayMs relay.rng relay.cfg.storm rxMeta.snrDb
  { relay with
    rng := drawn.1
    sched := relay.sched.schedule key packet (now + drawn.2) relay.cfg.storm.maxPending }

/-- Whether the transmitter already reaches every relaying neighbour of ours. -/
def covered (relay : Relay) (prev : Option Address) : Bool :=
  match prev with
  | some transmitter => relay.zone.coveredBy transmitter relay.neighbors
  | none => false

/-- Storm-protected relay of a flooded packet. -/
def maybeRelayFlood (relay : Relay) (packet : Packet) (prev : Option Address) (rxMeta : RxMeta)
    (now : Nat) : Relay :=
  if packet.header.ttl ≤ 1 ∨ relay.covered prev then relay
  else
    let rolled := rollPercent relay.rng (forwardPercent relay.cfg.storm relay.neighbors.size)
    if !rolled.2 then { relay with rng := rolled.1 }
    else
      { relay with rng := rolled.1 }.scheduleRelay packet.header.key
        (packet.nextCopy nextHopAny) rxMeta now

/-- The sleeping neighbour we host behind a destination address. -/
def sleepingHosted (relay : Relay) (dst : Address) (now : Nat) : Option Neighbor :=
  match relay.neighbors.get dst with
  | some neighbor => if neighbor.isSleeping now && neighbor.hostedByUs then some neighbor else none
  | none => none

/-- Keep a packet for a sleeping neighbour until it beacons. -/
def holdForSleeping (relay : Relay) (packet : Packet) (neighbor : Neighbor) (now : Nat) : Relay :=
  let holdMs := max (neighbor.sleepIntervalS.toNat * 1000) 10000
  if relay.held.length < relay.cfg.maxHeld then
    { relay with held := relay.held ++ [HeldPacket.mk packet.header.dst packet (now + holdMs)] }
  else relay

/-- The route points back where the packet came from: drop the route and tell the source. -/
def breakLoop (relay : Relay) (packet : Packet) (hop : Address) (now : Nat) : Relay :=
  let dst := packet.header.dst
  let failed := (((relay.routes.markFailure dst hop).1.markFailure dst hop).1.markFailure dst hop).1
  { relay with routes := failed }.sendRouteError packet.header.src dst now

/-- Pass a unicast packet to its next hop. -/
def relayUnicast (relay : Relay) (packet : Packet) (hop : Address) (now : Nat) : Relay :=
  let copy := traceStamp ((packet.nextCopy hop.short).relayedBy relay.address) relay.address
  let drawn := relay.rng.nextU32
  let jitter := drawn.2.toNat % max relay.cfg.unicastForwardJitterMs 1
  let touched := { relay with
    routes := relay.routes.touch packet.header.dst hop now
    rng := drawn.1 }
  ((touched.trackHop copy hop (now + jitter)).enqueue copy (now + jitter) Priority.data true).1

/-- Route repair on behalf of the source, within the discovery limits. -/
def repairRoute (relay : Relay) (packet : Packet) (now : Nat) : Relay :=
  let dst := packet.header.dst
  if relay.ierp.isPending dst then { relay with ierp := (relay.ierp.queue dst packet).1 }
  else if relay.ierp.mayStart dst now then
    let drawn := relay.newPacketId
    let started := drawn.1.ierp.start dst drawn.2 now
    { drawn.1 with ierp := (started.1.queue dst packet).1 }.sendRouteRequest dst drawn.2 started.2
      now
  else relay.sendRouteError packet.header.src dst now

/-- Whether a unicast packet is ours to forward: it names us or nobody as next hop, and it
may live one hop longer. -/
def mayForward (relay : Relay) (packet : Packet) : Bool :=
  (packet.header.nextHop == nextHopAny || packet.header.nextHop == relay.address.short) &&
    packet.header.ttl > 1

def forwardUnicast (relay : Relay) (packet : Packet) (prev : Option Address) (now : Nat) : Relay :=
  if !relay.mayForward packet then relay
  else
    match relay.sleepingHosted packet.header.dst now with
    | some neighbor => relay.holdForSleeping packet neighbor now
    | none =>
      match relay.nextHopFor packet.header.dst now with
      | some hop =>
        if some hop = prev then relay.breakLoop packet hop now
        else relay.relayUnicast packet hop now
      | none => relay.repairRoute packet now

/-- Learn a route through the transmitter of a packet, when it is known. -/
def learnThrough (relay : Relay) (prev : Option Address) (dst : Address) (hops : UInt8)
    (cost : Nat) (now : Nat) : Relay :=
  match prev with
  | some transmitter => relay.learnRoute dst transmitter hops cost .reverse none now
  | none => relay

/-- Relay a route request with storm protection and coverage pruning. -/
def relayRequest (relay : Relay) (packet : Packet) (request : RouteRequest) (cost : Nat)
    (prev : Option Address) (rxMeta : RxMeta) (now : Nat) : Relay :=
  if packet.header.ttl ≤ 1 ∨ relay.covered prev then relay
  else
    let rolled := rollPercent relay.rng (forwardPercent relay.cfg.storm relay.neighbors.size)
    if !rolled.2 then { relay with rng := rolled.1 }
    else
      let copy := { packet.nextCopy nextHopAny with
        payload := { request with cost := UInt16.ofNat cost }.encode }
      let key := packet.header.key
      let cancelled := { relay with rng := rolled.1, sched := relay.sched.cancel key }
      cancelled.scheduleRelay key copy rxMeta now

/-- A relay never replies from its tables: a request is relayed or dropped. -/
def handleRouteRequest (relay : Relay) (packet : Packet) (prev : Option Address) (rxMeta : RxMeta)
    (now : Nat) : Relay :=
  match RouteRequest.decode packet.payload with
  | .error _ => relay
  | .ok request =>
    let origin := packet.header.src
    let link := match prev with
      | some transmitter => relay.linkCostTo transmitter
      | none => 400
    let cost := min (request.cost.toNat + link) 65535
    let observed := relay.ierp.observeRequest origin packet.header.packetId cost now
    let recorded := { relay with ierp := observed.1 }
    if !observed.2 then { recorded with sched := recorded.sched.heard packet.header.key }
    else
      let hops := Node.saturatingAdd packet.header.hops 1
      let learned := recorded.learnThrough prev origin hops cost now
      if request.target = origin ∨ request.target = learned.address then learned
      else learned.relayRequest packet request cost prev rxMeta now

def forwardRouteReply (relay : Relay) (packet : Packet) (prev : Option Address) (now : Nat) :
    Relay :=
  match RouteReply.decode packet.payload with
  | .error _ => relay
  | .ok reply =>
    let via := prev.getD packet.header.src
    let cost := min (reply.cost.toNat + relay.linkCostTo via) 65535
    let viaAnchor := if reply.flags &&& RrepFlags.proxy ≠ 0 then some packet.header.src else none
    let learned := relay.learnRoute reply.target via (Node.replyHops packet reply) cost .discovery
      viaAnchor now
    let updated := { packet with payload := { reply with cost := UInt16.ofNat cost }.encode }
    learned.forwardUnicast updated prev now

/-- Drop the route to an unreachable destination. -/
def loseRoute (via : Address) (relay : Relay) (dst : Address) : Relay :=
  { relay with
    routes := (Node.failRoute dst via (max relay.cfg.routing.maxFailures 1) relay.routes).1 }

def handleRouteError (relay : Relay) (packet : Packet) (prev : Option Address) : Relay :=
  match RouteError.decode packet.payload with
  | .error _ => relay
  | .ok error => error.unreachable.foldl (loseRoute (prev.getD packet.header.src)) relay

/-- A trace aimed at the relay itself: answer with the path so far. -/
def answerTrace (relay : Relay) (packet : Packet) (now : Nat) : Relay :=
  let src := packet.header.src
  let based := relay.baseHeader .control src (relay.ttlFor src)
  (based.1.routeUnicast ⟨based.2, Control.traceRep :: packet.payload.drop 1⟩ now).1

/-- Dispatch a packet that passed the duplicate filter. -/
def dispatch (relay : Relay) (packet : Packet) (prev : Option Address) (rxMeta : RxMeta)
    (now : Nat) : Relay :=
  let forMe : Bool := packet.header.dst == relay.address
  let bcast := packet.header.dst.isBroadcast
  match packet.header.ptype with
  | .beacon => relay
  | .routeRequest => if bcast then relay.handleRouteRequest packet prev rxMeta now else relay
  | .routeReply => if !forMe && !bcast then relay.forwardRouteReply packet prev now else relay
  | .routeError =>
    if forMe then relay.handleRouteError packet prev
    else if !bcast then relay.forwardUnicast packet prev now
    else relay
  | .data =>
    if bcast then relay.maybeRelayFlood packet prev rxMeta now
    else if !forMe then relay.forwardUnicast packet prev now
    else relay
  | ptype =>
    if ptype = .control ∧ forMe ∧ packet.payload.head? = some Control.traceReq then
      relay.answerTrace packet now
    else if !forMe && !bcast then relay.forwardUnicast packet prev now
    else relay

/-- Learn the reverse route to the source when we have none. -/
def learnReverse (relay : Relay) (packet : Packet) (prev : Option Address) (now : Nat) : Relay :=
  match prev with
  | some transmitter =>
    let src := packet.header.src
    if (relay.routes.lookup src now).isNone && !relay.neighbors.contains src then
      let hops := Node.saturatingAdd packet.header.hops 1
      let cost := min (hops.toNat * relay.linkCostTo transmitter) 65535
      relay.learnRoute src transmitter hops cost .reverse none now
    else relay
  | none => relay

/-- A copy of a packet seen before: count it, and confirm it if we forwarded it. -/
def onDuplicate (relay : Relay) (packet : Packet) (prev : Option Address) (now : Nat) : Relay :=
  let header := packet.header
  let counted := { relay with sched := relay.sched.heard header.key }
  match prev with
  | some transmitter =>
    if header.nextHop = relay.address.short ∧ !header.dst.isBroadcast then
      counted.sendLinkAck transmitter header.packetId now
    else counted
  | none => counted

/-- Answer the beacon of a sleeping-role neighbour with an earlier beacon of ours. -/
def hastenBeacon (relay : Relay) (beacon : Beacon) (now : Nat) : Relay :=
  if beacon.role = .leaf ∧ (beacon.attached.isEmpty ∨ beacon.attached.contains relay.address) ∧
      now - relay.lastBeaconAt > 10000 then
    let drawn := relay.rng.nextU64
    { relay with
      rng := drawn.1
      nextBeacon := min relay.nextBeacon (now + (150 + drawn.2 % 900)) }
  else relay

/-- Transmit a packet that was held while its destination slept. Unlike a node, a relay
tracks it. -/
def releaseOne (leaf : Address) (now : Nat) (relay : Relay) (held : HeldPacket) : Relay :=
  let directed := { held.packet with header := { held.packet.header with
    nextHop := leaf.short
    relay := relay.address.short } }
  ((relay.trackHop directed leaf now).enqueue directed now Priority.data true).1

/-- Release the packets held for a neighbour that is awake. -/
def serveLeaf (relay : Relay) (leaf : Address) (now : Nat) : Relay :=
  (relay.held.filter (fun held => held.leaf == leaf)).foldl (releaseOne leaf now)
    { relay with held := relay.held.filter (fun held => held.leaf != leaf) }

def handleBeacon (relay : Relay) (packet : Packet) (rxMeta : RxMeta) (now : Nat) : Relay :=
  let src := packet.header.src
  match Beacon.decode packet.payload with
  | .error _ => relay
  | .ok beacon =>
    let observed := relay.neighbors.observeBeaconAs now src beacon rxMeta (some relay.address)
    let seen := { relay with neighbors := observed.1 }
    if observed.2.identityRejected then seen
    else
      let zone := seen.zone.updateFromBeacon now seen.address seen.neighbors src beacon.zone
        beacon.attached
      let updated := { seen with zone := zone }
      let learned := updated.learnRoute src src 1 (updated.linkCostTo src) .zone none now
      let hastened := learned.hastenBeacon beacon now
      if beacon.role = .leaf then hastened.serveLeaf src now else hastened

/-- Who transmitted a frame. -/
def transmitterOf (relay : Relay) (packet : Packet) : Option Address :=
  if packet.header.hops = 0 then some packet.header.src
  else (relay.neighbors.resolveShort packet.header.relay).map Neighbor.addr

/-- Note that a neighbour was heard. -/
def hear (relay : Relay) (prev : Option Address) (rxMeta : RxMeta) (now : Nat) : Relay :=
  match prev with
  | some transmitter =>
    { relay with neighbors := relay.neighbors.observePacket now transmitter rxMeta }
  | none => relay

/-- A plaintext link acknowledgement addressed to us. -/
def isLinkAck (relay : Relay) (packet : Packet) : Bool :=
  packet.header.ptype == .control && packet.header.dst == relay.address &&
    packet.payload.length == 5 && packet.payload.head? == some Control.linkAck

def handleLinkAck (relay : Relay) (packet : Packet) (prev : Option Address) : Relay :=
  match prev with
  | none => relay
  | some transmitter =>
    let packetId := UInt32.ofNat (BigEndian.decode (packet.payload.drop 1))
    ((relay.hopPending.filter (fun hop =>
      hop.key.id == packetId && hop.nextHop == transmitter)).map RelayHop.key).foldl
        (fun confirmed key => confirmed.hopConfirmed key transmitter) relay

/-- A relayed copy of our packet acknowledges the hop. -/
def implicitAck (relay : Relay) (packet : Packet) (prev : Option Address) : Relay :=
  match prev with
  | some transmitter =>
    if packet.header.hops > 0 then relay.hopConfirmed packet.header.key transmitter else relay
  | none => relay

/-- The acknowledgement a packet is, or stands for. -/
def acknowledge (relay : Relay) (packet : Packet) (prev : Option Address) : Relay :=
  if relay.isLinkAck packet then relay.handleLinkAck packet prev
  else relay.implicitAck packet prev

/-- Route requests are arbitrated by the request table; everything else passes once. -/
def passesOnce (relay : Relay) (packet : Packet) (now : Nat) : Relay × Bool :=
  if packet.header.ptype = .routeRequest then (relay, true)
  else
    let observed := relay.seen.observe packet.header.key now
    ({ relay with seen := observed.1 }, observed.2)

/-- What follows once a packet was taken as an acknowledgement. -/
def proceed (relay : Relay) (packet : Packet) (prev : Option Address) (rxMeta : RxMeta)
    (now : Nat) : Relay :=
  if relay.isLinkAck packet then relay
  else
    let passed := relay.passesOnce packet now
    if passed.2 then (passed.1.learnReverse packet prev now).dispatch packet prev rxMeta now
    else passed.1.onDuplicate packet prev now

/-- A decoded foreign packet. -/
def onPacket (relay : Relay) (packet : Packet) (rxMeta : RxMeta) (now : Nat) : Relay :=
  let prev := relay.transmitterOf packet
  let heard := relay.hear prev rxMeta now
  if packet.header.ptype = .beacon then heard.handleBeacon packet rxMeta now
  else (heard.acknowledge packet prev).proceed packet prev rxMeta now

/-- The time advances and a frame's airtime is accounted for. -/
def hearFrame (relay : Relay) (frame : Bytes) (rxMeta : RxMeta) : Relay :=
  { relay with
    now := max relay.now rxMeta.timestampMs
    airtimeMs := relay.airtimeMs + relay.cfg.profile.airtimeMs frame.length }

/-- Feed a received frame. -/
def onRadioRx (relay : Relay) (frame : Bytes) (rxMeta : RxMeta) : Relay :=
  let accounted := relay.hearFrame frame rxMeta
  match Packet.decode frame accounted.cfg.networkKey accounted.cfg.maxTtl with
  | .error _ => accounted
  | .ok packet =>
    if packet.header.src = accounted.address then accounted
    else accounted.onPacket packet rxMeta accounted.now

end Relay

end MeshStar

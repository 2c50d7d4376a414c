import MeshStar.Node.State

/-!
# The transmit path

Everything a node does to get a packet on the air: the transmit queue, next-hop
selection with hop tracking, route discovery on demand, beacons and route control.
The functions below change the radio side of the state only; sessions, handshakes,
keys, events and tracked messages are untouched.
-/

namespace MeshStar

variable [Primitives]

namespace Priority

def control : Nat := 0
def data : Nat := 1
def beacon : Nat := 2
def relay : Nat := 3

end Priority

/-- Associated data of a session payload: the header without the fragment flag, and the
fragment id in place of the packet id when the message is fragmented. -/
def transportAad (header : Header) (fragment : Option UInt16) : Bytes :=
  let whole := { header with flags := header.flags &&& ~~~Flags.fragmented }
  match fragment with
  | some fragId => { whole with packetId := fragId.toUInt32 }.aad 0
  | none => whole.aad 0

namespace Node

/-- Make room in a full transmit queue by dropping the last relay of lowest urgency.
`none` when the queue is full and holds no relay. -/
def makeTxRoom (node : Node) : Option (List TxItem) :=
  if node.txQueue.length ≥ node.cfg.maxTxQueue then
    match Selection.lastMaxBy (fun entry : TxItem × Nat => entry.1.priority)
        (node.txQueue.zipIdx.filter (fun entry => entry.1.isRelay)) with
    | some victim => some (node.txQueue.eraseIdx victim.2)
    | none => none
  else some node.txQueue

/-- Encode and queue a packet for transmission. -/
def enqueuePacket (node : Node) (packet : Packet) (notBefore priority : Nat) (isRelay : Bool) :
    Node × Bool :=
  match packet.encode node.cfg.networkKey with
  | .error _ => (node, false)
  | .ok frame =>
    match node.makeTxRoom with
    | none => (node, false)
    | some queue =>
      let item : TxItem :=
        ⟨frame, notBefore, packet.header.ptype, priority, isRelay, packet.header.dst⟩
      ({ node with
          txQueue := queue ++ [item]
          history := { node.history with queued := node.history.queued ++ [packet] } }, true)

/-- Remember a unicast transmission until the next hop confirms it. -/
def trackHop (node : Node) (packet : Packet) (nextHop : Address) (now : Nat) (isRelay : Bool) :
    Node :=
  if node.cfg.hopRetries = 0 ∨ node.hopPending.length ≥ 24 then node
  else
    let drawn := node.rng.nextU64
    let due := now + node.hopTimeout packet.wireLen + drawn.2 % 200
    let kept := node.hopPending.filter (fun hop => hop.key != packet.header.key)
    { node with
      rng := drawn.1
      neighbors := node.neighbors.modify nextHop Neighbor.recordTxAttempt
      hopPending := kept ++ [⟨packet.header.key, nextHop, packet, 1, due, isRelay, false⟩] }

/-- The next hop confirmed reception of a packet. -/
def hopConfirmed (node : Node) (key : PacketKey) (sender : Address) : Node :=
  let kept := node.hopPending.filter (fun hop => !(hop.key == key && hop.nextHop == sender))
  if kept.length ≠ node.hopPending.length then
    { node with
      hopPending := kept
      neighbors := (node.neighbors.recordSuccess sender).modify sender
        Neighbor.recordTxConfirmed }
  else { node with hopPending := kept }

/-- Flood a route request, carrying the first handshake message when we are about to
open a session with the target. -/
def sendRouteRequest (node : Node) (target : Address) (reqId : UInt32) (ttl : UInt8) (now : Nat) :
    Node :=
  let based := node.baseHeader .routeRequest Address.broadcast ttl
  let wantsKey := node.pendingEnvelopes.any (fun pending => pending.dst == target) ||
    !node.keyDir.contains target
  let flags := if wantsKey then RreqFlags.proxyOk ||| RreqFlags.wantKey else RreqFlags.proxyOk
  let handshake := match node.handshakes.get target with
    | some pending => if pending.hs.role = .initiator then pending.m1 else []
    | none => []
  let request : RouteRequest := ⟨target, 0, flags, handshake⟩
  (based.1.enqueuePacket ⟨{ based.2 with packetId := reqId }, request.encode⟩ now
    Priority.beacon false).1

/-- Start a discovery for a target and flood its first request. -/
def startDiscovery (node : Node) (target : Address) (park : Option Packet) (now : Nat) : Node :=
  let drawn := node.newPacketId
  let started := drawn.1.ierp.start target drawn.2 now
  let ierp := match park with
    | some packet => (started.1.queue target packet).1
    | none => started.1
  { drawn.1 with ierp := ierp }.sendRouteRequest target drawn.2 started.2 now

/-- Pick the next hop for a unicast packet and queue it, or start a route discovery and
park the packet. -/
def routeUnicast (node : Node) (packet : Packet) (now : Nat) : Node × Except Error Unit :=
  let dst := packet.header.dst
  if node.cfg.routingMode = .flood then
    let flooded := { packet with header := { packet.header with nextHop := nextHopAny } }
    ((node.enqueuePacket flooded now Priority.data false).1, .ok ())
  else
    match node.nextHopFor dst now with
    | some hop =>
      let directed := { packet with header := { packet.header with nextHop := hop.short } }
      let touched := { node with routes := node.routes.touch dst hop now }
      let priority := if packet.header.ptype = .data then Priority.data else Priority.control
      let tracked := touched.trackHop directed hop now false
      ((tracked.enqueuePacket directed now priority false).1, .ok ())
    | none =>
      if node.ierp.isPending dst then
        let queued := node.ierp.queue dst packet
        ({ node with ierp := queued.1 }, if queued.2 then .ok () else .error .full)
      else if !node.ierp.mayStart dst now then (node, .error .noRoute)
      else (node.startDiscovery dst (some packet) now, .ok ())

/-- Shorten the zone part of a beacon until it fits, then the attached part. -/
def fitZone (budget : Nat) (beacon : Beacon) : Nat → List ZoneEntry → Beacon
  | 0, entries => { beacon with zone := entries }
  | fuel + 1, entries =>
    let candidate := { beacon with zone := entries }
    if candidate.encodedLen > budget ∧ ¬entries.isEmpty then
      fitZone budget beacon fuel entries.dropLast
    else candidate

def fitAttached (budget : Nat) : Nat → Beacon → Beacon
  | 0, beacon => beacon
  | fuel + 1, beacon =>
    if beacon.encodedLen > budget ∧ ¬beacon.attached.isEmpty then
      fitAttached budget fuel { beacon with attached := beacon.attached.dropLast }
    else beacon

/-- When the next beacon is due: the adaptive interval with jitter, or the plain interval
for a sleeping-role node. -/
def scheduleBeacon (node : Node) (now : Nat) : Node :=
  let count := node.neighbors.size
  let slowed := node.power.beaconMultiplier (count != node.lastNeighborCount)
  let drawn := node.rng.nextU64
  { node with
    lastNeighborCount := count
    power := slowed.1
    rng := drawn.1
    nextBeacon := if node.cfg.role = .leaf then now + node.cfg.neighbor.beaconIntervalMs
      else now + node.cfg.neighbor.beaconIntervalMs * slowed.2 +
        drawn.2 % max node.cfg.neighbor.beaconJitterMs 1
    lastBeaconAt := now
    beaconSeq := node.beaconSeq + 1
    beaconsSent := node.beaconsSent + 1 }

/-- The beacon of a node whose schedule has just been advanced. -/
def beaconContent (node : Node) (full : Bool) (now : Nat) : Beacon :=
  let plain := Beacon.shortBeacon node.cfg.role node.beaconSeq node.zone.radius
    (UInt8.ofNat (min node.neighbors.size 255))
  let signed := if full then plain.sign node.id (UInt32.ofNat (now / 1000)) else plain
  let announced := { signed with
    sleepIntervalS := UInt16.ofNat (min ((node.nextBeacon - now + 999) / 1000) 65535) }
  let scheduled := match node.cfg.power.mode with
    | .leaf wakeIntervalS awakeWindowMs =>
      let remaining := min (node.power.awakeUntil - now) 65535
      { announced with
        sleepIntervalS := wakeIntervalS
        awakeWindowMs := UInt16.ofNat (max remaining (min awakeWindowMs.toNat (max remaining 1)))
        attached := announced.attached ++ node.attachedAnchor.toList }
    | _ => announced
  let hosting := if node.cfg.role.relays then
      { scheduled with
        mailboxAvailable := match node.mailbox with
          | some mailbox => mailbox.hasSpace
          | none => false
        attached := (node.neighbors.hostedLeaves.map Neighbor.addr).take 8 }
    else scheduled
  let budget := maxPayload node.cfg.networkKey.isSome
  let zoned := if node.cfg.role ≠ .leaf then
      let entries := node.zone.advertisement node.cfg.zrp.maxAdvertisedEntries
        node.beaconsSent.toNat
      fitZone budget hosting entries.length entries
    else hosting
  fitAttached budget zoned.attached.length zoned

def sendBeacon (node : Node) (now : Nat) : Node :=
  let full := node.beaconsSent.toNat % max node.cfg.neighbor.fullBeaconEvery.toNat 1 = 0 ∨
    node.cfg.role = .leaf
  let scheduled := node.scheduleBeacon now
  let beacon := scheduled.beaconContent (decide full) now
  let based := scheduled.baseHeader .beacon Address.broadcast 1
  let priority := if node.cfg.role = .leaf then Priority.control else Priority.beacon
  (based.1.enqueuePacket ⟨based.2, beacon.encode⟩ now priority false).1

/-- Schedule a route reply, staggered by its cost. -/
def sendRouteReply (node : Node) (origin : Address) (reply : RouteReply) (now : Nat) : Node :=
  if (node.nextHopFor origin now).isNone ∧ node.cfg.routingMode ≠ .flood then node
  else
    let marked := node.ierp.markReplied origin reply.reqId
    if !marked.2 then { node with ierp := marked.1 }
    else
      let answered := { node with ierp := marked.1 }
      let based := answered.baseHeader .routeReply origin (answered.ttlFor origin)
      let drawn := based.1.rng.nextU64
      let due := now + (node.cfg.storm.maxDelayMs + 50 + min reply.cost.toNat 1500 + drawn.2 % 400)
      { based.1 with
        rng := drawn.1
        rrepPending := based.1.rrepPending.schedule
          ⟨origin, reply.reqId, reply.cost, due, ⟨based.2, reply.encode⟩⟩ }

def sendRouteError (node : Node) (recipient unreachable : Address) (now : Nat) : Node :=
  if recipient = node.address then node
  else
    let based := node.baseHeader .routeError recipient (node.ttlFor recipient)
    if (based.1.nextHopFor recipient now).isSome then
      (based.1.routeUnicast ⟨based.2, (RouteError.mk [unreachable]).encode⟩ now).1
    else based.1

/-- Plaintext, single hop: only suppresses a retransmission. -/
def sendLinkAck (node : Node) (recipient : Address) (packetId : UInt32) (now : Nat) : Node :=
  let based := node.baseHeader .control recipient 1
  let body := Control.linkAck :: BigEndian.encode 4 packetId.toNat
  (based.1.enqueuePacket ⟨{ based.2 with nextHop := recipient.short }, body⟩ now
    Priority.control false).1

def sendHandshakePacket (node : Node) (peer : Address) (number : HandshakeMessage) (message : Bytes)
    (now : Nat) : Node :=
  let based := node.baseHeader .handshake peer (node.ttlFor peer)
  (based.1.routeUnicast ⟨based.2, number.toU8 :: message⟩ now).1

/-- Send the fragments of an envelope; a fragment that cannot be routed is skipped. -/
def sendEnvelopeFragments (header : Header) (now : Nat) :
    List (FragHeader × Bytes) → Bool → Node → Node
  | [], _, node => node
  | part :: rest, first, node =>
    let drawn := if first then (node, header.packetId) else node.newPacketId
    let packet : Packet := ⟨{ header with packetId := drawn.2 }, frameFragment part.1 part.2⟩
    sendEnvelopeFragments header now rest false (drawn.1.routeUnicast packet now).1

/-- Send an envelope directly to its destination. -/
def sendEnvelopeData (node : Node) (dst : Address) (envelopeId : UInt32) (envelope : Bytes)
    (now : Nat) : Node :=
  let based := node.baseHeader .data dst (node.ttlFor dst)
  let marked := (based.2.set Flags.envelope true).set Flags.storeForward true
  let sequenced := based.1.transport.nextSeq
  let numbered := { based.1 with transport := sequenced.1 }
  let header := { marked with seq := sequenced.2 }
  let body := frameEnvelope envelopeId envelope
  let singleMax := maxPayload (header.has Flags.netAuth)
  if body.length ≤ singleMax then (numbered.routeUnicast ⟨header, body⟩ now).1
  else
    let fragId := numbered.fragId + 1
    let counted := { numbered with fragId := fragId }
    match split fragId body (singleMax - fragHeaderLen) with
    | some parts => sendEnvelopeFragments (header.set Flags.fragmented true) now parts true counted
    | none => counted

end Node

end MeshStar

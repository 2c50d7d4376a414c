import MeshStar.Node.Handshake

/-!
# Relaying and route control on the receive side

How a node passes foreign packets on: storm-protected flooding, hop-by-hop unicast
forwarding with traffic held for a sleeping neighbour and packets parked for a route
repair, and the requests, replies and errors of the discovery protocol.
-/

namespace MeshStar

variable [Primitives]

/-- A relay forwarding a trace request appends its short id, up to a bound. -/
def traceStamp (packet : Packet) (me : Address) : Packet :=
  if packet.header.ptype = .control ∧ packet.payload.head? = some Control.traceReq ∧
      packet.payload.length < 1 + 2 * Control.traceMaxHops then
    { packet with payload := packet.payload ++ BigEndian.encode 2 me.short.toNat }
  else packet

/-- A packet one hop further: one less to live, one more hop counted. -/
def Packet.nextCopy (packet : Packet) (nextHop : UInt16) : Packet :=
  { packet with header := { packet.header with
      ttl := packet.header.ttl - 1
      hops := Node.saturatingAdd packet.header.hops 1
      nextHop := nextHop } }

/-- The copy a relay transmits under its own name. -/
def Packet.relayedBy (packet : Packet) (me : Address) : Packet :=
  { packet with header := { packet.header with relay := me.short } }

namespace Node

/-- Hand a copy of a flooded packet to the relay scheduler. -/
def scheduleRelay (node : Node) (key : PacketKey) (packet : Packet) (rxMeta : RxMeta) (now : Nat) :
    Node :=
  let drawn := forwardDelayMs node.rng node.cfg.storm rxMeta.snrDb
  { node with
    rng := drawn.1
    sched := node.sched.schedule key packet (now + drawn.2) node.cfg.storm.maxPending }

/-- Whether the transmitter already reaches every relaying neighbour of ours. -/
def covered (node : Node) (prev : Option Address) : Bool :=
  match prev with
  | some transmitter => node.zone.coveredBy transmitter node.neighbors
  | none => false

/-- Storm-protected relay of a flooded packet. -/
def maybeRelayFlood (node : Node) (packet : Packet) (prev : Option Address) (rxMeta : RxMeta)
    (now : Nat) : Node :=
  if !node.cfg.role.relays ∨ packet.header.ttl ≤ 1 then node
  else if node.cfg.routingMode = .zrp ∧ node.covered prev then node
  else
    let rolled := rollPercent node.rng (forwardPercent node.cfg.storm node.neighbors.size)
    if !rolled.2 then { node with rng := rolled.1 }
    else
      { node with rng := rolled.1 }.scheduleRelay packet.header.key (packet.nextCopy nextHopAny)
        rxMeta now

/-- The sleeping neighbour we host behind a destination address. -/
def sleepingHosted (node : Node) (dst : Address) (now : Nat) : Option Neighbor :=
  match node.neighbors.get dst with
  | some neighbor => if neighbor.isSleeping now && neighbor.hostedByUs then some neighbor else none
  | none => none

/-- Put a passing envelope for a hosted neighbour in the mailbox. The result tells whether
the mailbox has it now. -/
def depositPassing (node : Node) (packet : Packet) (now : Nat) : Node × Bool :=
  if packet.header.has Flags.envelope && packet.header.has Flags.storeForward &&
      !packet.header.has Flags.fragmented then
    match parseEnvelopeFrame packet.payload, node.mailbox with
    | .ok (envelopeId, envelope), some mailbox =>
      let request : StoreRequest :=
        ⟨packet.header.dst, envelopeId, node.cfg.envelopeTtlS, envelope⟩
      match mailbox.store now packet.header.src request with
      | (stored, .ok ()) => ({ node with mailbox := some stored }, true)
      | (_, .error reason) => (node, reason == RejectReason.duplicate)
    | _, _ => (node, false)
  else (node, false)

/-- Keep a packet for a sleeping neighbour, as mail or as it is. -/
def holdForSleeping (node : Node) (packet : Packet) (neighbor : Neighbor) (now : Nat) : Node :=
  let deposited := node.depositPassing packet now
  if deposited.2 then deposited.1
  else
    let holdMs := max (neighbor.sleepIntervalS.toNat * 1000) 10000
    if deposited.1.heldForSleeping.length < 16 then
      { deposited.1 with heldForSleeping := deposited.1.heldForSleeping ++
          [HeldPacket.mk packet.header.dst packet (now + holdMs)] }
    else deposited.1

/-- The route points back where the packet came from: drop the route and tell the source. -/
def breakLoop (node : Node) (packet : Packet) (hop : Address) (now : Nat) : Node :=
  let dst := packet.header.dst
  let failed := (((node.routes.markFailure dst hop).1.markFailure dst hop).1.markFailure dst hop).1
  { node with routes := failed }.sendRouteError packet.header.src dst now

/-- Pass a unicast packet to its next hop. -/
def relayUnicast (node : Node) (packet : Packet) (hop : Address) (now : Nat) : Node :=
  let copy := traceStamp ((packet.nextCopy hop.short).relayedBy node.address) node.address
  let drawn := node.rng.nextU32
  let jitter := drawn.2.toNat % max node.cfg.unicastForwardJitterMs 1
  let touched := { node with
    routes := node.routes.touch packet.header.dst hop now
    rng := drawn.1 }
  let tracked := touched.trackHop copy hop (now + jitter) true
  (tracked.enqueuePacket copy (now + jitter) Priority.data true).1

/-- Route repair on behalf of the source, within the discovery limits. -/
def repairRoute (node : Node) (packet : Packet) (now : Nat) : Node :=
  let dst := packet.header.dst
  if node.ierp.isPending dst then { node with ierp := (node.ierp.queue dst packet).1 }
  else if node.ierp.mayStart dst now then node.startDiscovery dst (some packet) now
  else node.sendRouteError packet.header.src dst now

/-- Whether a unicast packet is ours to forward: we relay, it names us or nobody as next
hop, and it may live one hop longer. -/
def mayForward (node : Node) (packet : Packet) : Bool :=
  node.cfg.role.relays && (packet.header.nextHop == nextHopAny ||
    packet.header.nextHop == node.address.short) && packet.header.ttl > 1

def forwardUnicast (node : Node) (packet : Packet) (prev : Option Address) (rxMeta : RxMeta)
    (now : Nat) : Node :=
  if !node.cfg.role.relays then node
  else if node.cfg.routingMode = .flood then node.maybeRelayFlood packet prev rxMeta now
  else if !node.mayForward packet then node
  else
    match node.sleepingHosted packet.header.dst now with
    | some neighbor => node.holdForSleeping packet neighbor now
    | none =>
      match node.nextHopFor packet.header.dst now with
      | some hop =>
        if some hop = prev then node.breakLoop packet hop now
        else node.relayUnicast packet hop now
      | none => node.repairRoute packet now

/-- Reply of a host, or of an anchor that could host, for a sleeping-role neighbour. -/
def proxyReply (node : Node) (request : RouteRequest) (reqId : UInt32) (knownKey : Option Bytes32)
    (wantKey : Bool) : Option RouteReply :=
  if node.cfg.role.relays && request.flags &&& RreqFlags.proxyOk != 0 then
    match node.neighbors.get request.target with
    | some neighbor =>
      let isHost := neighbor.hostedByUs
      let canHost := neighbor.isLeaf && node.cfg.role == .anchor && node.mailbox.isSome &&
        wantKey && knownKey.isSome
      if isHost || canHost then
        some ⟨request.target, reqId, 1, UInt16.ofNat (linkCost neighbor.linkQuality 0),
          RrepFlags.proxy ||| RrepFlags.targetLeaf, if wantKey then knownKey else none, []⟩
      else none
    | none => none
  else none

/-- Reply on behalf of the host of a sleeping node in our zone. -/
def zoneReply (node : Node) (request : RouteRequest) (reqId : UInt32) (knownKey : Option Bytes32)
    (wantKey : Bool) : Option RouteReply :=
  match node.zone.get request.target, node.zone.anchorFor request.target with
  | some known, some _ =>
    if !wantKey || knownKey.isSome then
      some ⟨request.target, reqId, known.distance,
        UInt16.ofNat (min (known.distance.toNat * linkCost known.quality 0) 65535),
        RrepFlags.proxy ||| RrepFlags.targetLeaf, if wantKey then knownKey else none, []⟩
    else none
  | _, _ => none

/-- Reply from a fresh route of an earlier discovery. -/
def cachedReply (node : Node) (request : RouteRequest) (reqId : UInt32) (knownKey : Option Bytes32)
    (wantKey : Bool) (now : Nat) : Option RouteReply :=
  match node.routes.lookup request.target now with
  | some route =>
    let fresh := now - route.learnedAt < node.cfg.routing.routeTtlMs / 4 ∧ route.failures = 0
    if fresh ∧ route.source = .discovery ∧ (!wantKey ∨ knownKey.isSome) then
      some ⟨request.target, reqId, route.hops, UInt16.ofNat route.cost,
        if route.viaAnchor.isSome then RrepFlags.proxy else 0,
        if wantKey then knownKey else none, []⟩
    else none
  | none => none

/-- We are the target: answer, with the second handshake message when the request
carried the first. -/
def answerAsTarget (node : Node) (packet : Packet) (request : RouteRequest) (wantKey : Bool)
    (now : Nat) : Node :=
  let origin := packet.header.src
  let flags := if node.cfg.role = .leaf then RrepFlags.targetLeaf else 0
  let answered := if !request.handshake.isEmpty && !node.sessions.contains origin then
      let started := node.responderStart origin request.handshake now
      (started.1, started.2.getD [])
    else (node, [])
  let key := if wantKey && answered.2.isEmpty then some node.id.publicIdentity.publicKey else none
  answered.1.sendRouteReply origin
    ⟨node.address, packet.header.packetId, 0, 0, flags, key, answered.2⟩ now

/-- Relay a route request with storm protection and coverage pruning. -/
def relayRequest (node : Node) (packet : Packet) (request : RouteRequest) (cost : Nat)
    (prev : Option Address) (rxMeta : RxMeta) (now : Nat) : Node :=
  if !node.cfg.role.relays ∨ packet.header.ttl ≤ 1 then node
  else if node.covered prev then node
  else
    let rolled := rollPercent node.rng (forwardPercent node.cfg.storm node.neighbors.size)
    if !rolled.2 then { node with rng := rolled.1 }
    else
      let copy := { packet.nextCopy nextHopAny with
        payload := { request with cost := UInt16.ofNat cost }.encode }
      let key := packet.header.key
      let cancelled := { node with rng := rolled.1, sched := node.sched.cancel key }
      cancelled.scheduleRelay key copy rxMeta now

/-- Cost of the link to the transmitter of a request, or a pessimistic default. -/
def linkCostFrom (node : Node) (prev : Option Address) : Node × Nat :=
  match prev with
  | some transmitter => node.linkCostTo transmitter
  | none => (node, 400)

/-- Learn a route through the transmitter of a packet, when it is known. -/
def learnThrough (node : Node) (prev : Option Address) (dst : Address) (hops : UInt8) (cost : Nat)
    (now : Nat) : Node :=
  match prev with
  | some transmitter => node.learnRoute dst transmitter hops cost .reverse none now
  | none => node

def handleRouteRequest (node : Node) (packet : Packet) (prev : Option Address) (rxMeta : RxMeta)
    (now : Nat) : Node :=
  match RouteRequest.decode packet.payload with
  | .error _ => node
  | .ok request =>
    let origin := packet.header.src
    let reqId := packet.header.packetId
    let link := node.linkCostFrom prev
    let cost := min (request.cost.toNat + link.2) 65535
    let observed := link.1.ierp.observeRequest origin reqId cost now
    let recorded := { link.1 with ierp := observed.1 }
    if !observed.2 then { recorded with sched := recorded.sched.heard packet.header.key }
    else
      let learned := recorded.learnThrough prev origin (saturatingAdd packet.header.hops 1) cost now
      let wantKey := request.flags &&& RreqFlags.wantKey != 0
      let knownKey := (learned.keyDir.get request.target).map PublicIdentity.publicKey
      if request.target = origin then learned
      else if request.target = learned.address then
        learned.answerAsTarget packet request wantKey now
      else
        match learned.proxyReply request reqId knownKey wantKey <|>
            learned.zoneReply request reqId knownKey wantKey <|>
            learned.cachedReply request reqId knownKey wantKey now with
        | some reply => learned.sendRouteReply origin reply now
        | none => learned.relayRequest packet request cost prev rxMeta now

/-- Hops to the target of a reply, counted from here. -/
def replyHops (packet : Packet) (reply : RouteReply) : UInt8 :=
  saturatingAdd (saturatingAdd reply.hopsToTarget packet.header.hops) 1

/-- Take the key of a reply when it hashes to the reply's target. -/
def absorbKey (node : Node) (reply : RouteReply) (now : Nat) : Node :=
  match reply.targetKey with
  | none => node
  | some key =>
    match PublicIdentity.fromBytes key with
    | .error _ => node
    | .ok identity =>
      if identity.address = reply.target then
        { node with keyDir := node.keyDir.insert reply.target identity }.tryPendingEnvelopes
          reply.target now
      else node

/-- Learn the forward route carried by a reply and return the updated cost. -/
def absorbRouteReply (node : Node) (packet : Packet) (reply : RouteReply) (prev : Option Address)
    (now : Nat) : Node × Nat :=
  let via := prev.getD packet.header.src
  let link := node.linkCostTo via
  let cost := min (reply.cost.toNat + link.2) 65535
  let viaAnchor := if reply.flags &&& RrepFlags.proxy ≠ 0 then some packet.header.src else none
  let learned := link.1.learnRoute reply.target via (replyHops packet reply) cost .discovery
    viaAnchor now
  (learned.absorbKey reply now, cost)

/-- Route the packets that waited for a route. -/
def routeParked (now : Nat) (node : Node) (packet : Packet) : Node :=
  (node.routeUnicast packet now).1

/-- Absorb a reply, finish the discovery it answers and report the route. Returns the
packets that waited for it. -/
def foundRoute (node : Node) (packet : Packet) (reply : RouteReply) (prev : Option Address)
    (now : Nat) : Node × List Packet :=
  let absorbed := node.absorbRouteReply packet reply prev now
  let found := absorbed.1.ierp.succeed reply.target now
  ({ absorbed.1 with ierp := found.1 }.emit
    (.routeFound reply.target (replyHops packet reply) absorbed.2), found.2)

def handleRouteReply (node : Node) (packet : Packet) (prev : Option Address) (now : Nat) : Node :=
  match RouteReply.decode packet.payload with
  | .error _ => node
  | .ok reply =>
    let found := node.foundRoute packet reply prev now
    let continued := if !reply.handshake.isEmpty && packet.header.src == reply.target then
        found.1.initiatorContinue reply.target reply.handshake now
      else (found.1, false)
    let queued := if continued.2 then
        found.2.filter (fun waiting => waiting.header.ptype != .handshake)
      else found.2
    queued.foldl (routeParked now) continued.1

def forwardRouteReply (node : Node) (packet : Packet) (prev : Option Address) (rxMeta : RxMeta)
    (now : Nat) : Node :=
  match RouteReply.decode packet.payload with
  | .error _ => node
  | .ok reply =>
    let absorbed := node.absorbRouteReply packet reply prev now
    let updated := { packet with
      payload := { reply with cost := UInt16.ofNat absorbed.2 }.encode }
    absorbed.1.forwardUnicast updated prev rxMeta now

/-- Fail a route until it is removed, at most `count` times. -/
def failRoute (dst via : Address) : Nat → RouteCache → RouteCache × Bool
  | 0, routes => (routes, false)
  | count + 1, routes =>
    let marked := routes.markFailure dst via
    if marked.2 then (marked.1, true) else failRoute dst via count marked.1

/-- Drop the route to an unreachable destination. -/
def loseRoute (via : Address) (node : Node) (dst : Address) : Node :=
  let failed := failRoute dst via (max node.cfg.routing.maxFailures 1) node.routes
  let dropped := { node with routes := failed.1 }
  if failed.2 then dropped.emit (.routeLost dst) else dropped

def handleRouteError (node : Node) (packet : Packet) (prev : Option Address) : Node :=
  match RouteError.decode packet.payload with
  | .error _ => node
  | .ok error => error.unreachable.foldl (loseRoute (prev.getD packet.header.src)) node

end Node

end MeshStar

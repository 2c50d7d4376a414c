import MeshStar.Node.Forward

/-!
# The receive path

A decoded frame passes the transmitter's bookkeeping, the link-level notices, the
duplicate filter and the reverse-route learning before it is dispatched by type. The
handlers of packets addressed to this node follow.
-/

namespace MeshStar

variable [Primitives]

namespace Node

/-- Rewrite the mailbox, when there is one. -/
def withMailbox (node : Node) (mailbox : Mailbox) : Node := { node with mailbox := some mailbox }

/-- The neighbour that relayed a packet to us, when it travelled more than one hop. -/
def lastRelayOf (node : Node) (packet : Packet) : Option Address :=
  if packet.header.hops = 0 then none
  else (node.neighbors.resolveShort packet.header.relay).map Neighbor.addr

/-- Who transmitted a frame. -/
def transmitterOf (node : Node) (packet : Packet) : Option Address :=
  if packet.header.hops = 0 then some packet.header.src
  else (node.neighbors.resolveShort packet.header.relay).map Neighbor.addr

/-- Take the verified identity of a beacon's sender. -/
def absorbBeaconKey (node : Node) (src : Address) (now : Nat) : Node :=
  match (node.neighbors.get src).bind Neighbor.identity with
  | some identity =>
    { node with keyDir := node.keyDir.insert src identity }.tryPendingEnvelopes src now
  | none => node

/-- Answer the beacon of a sleeping-role neighbour with an earlier beacon of ours. -/
def hastenBeacon (node : Node) (beacon : Beacon) (now : Nat) : Node :=
  if beacon.role = .leaf ∧ node.cfg.role.relays ∧
      (beacon.attached.isEmpty ∨ beacon.attached.contains node.address) ∧
      now - node.lastBeaconAt > 10000 then
    let drawn := node.rng.nextU64
    { node with
      rng := drawn.1
      nextBeacon := min node.nextBeacon (now + (150 + drawn.2 % 900)) }
  else node

/-- Transmit a packet that was held while its destination slept. -/
def releaseOne (leaf : Address) (now : Nat) (node : Node) (held : HeldPacket) : Node :=
  let directed := { held.packet with header := { held.packet.header with
    nextHop := leaf.short
    relay := node.address.short } }
  (node.enqueuePacket directed now Priority.data true).1

/-- The neighbour is awake: flush its mailbox and release its held packets. -/
def serveLeaf (node : Node) (leaf : Address) (now : Nat) : Node :=
  let flushed := node.flushMailboxTo leaf now
  (flushed.heldForSleeping.filter (fun held => held.leaf == leaf)).foldl (releaseOne leaf now)
    { flushed with heldForSleeping := flushed.heldForSleeping.filter (fun held =>
        held.leaf != leaf) }

/-- Attach to the best host we can hear; switch only for a clear gain. -/
def chooseHost (node : Node) (now : Nat) : Node :=
  let current := (node.attachedAnchor.bind node.neighbors.get).map NeighborTable.hostScore
  match node.neighbors.bestHost with
  | none => node
  | some best =>
    let better : Bool := match current with
      | some score => decide (NeighborTable.hostScore best > score + 30)
      | none => true
    if better ∧ node.attachedAnchor ≠ some best.addr then
      { node with attachedAnchor := some best.addr }.sendFetch best.addr now
    else node

/-- Report a new neighbour and take its identity when the beacon proved it. -/
def welcome (node : Node) (src : Address) (observation : BeaconObservation) (now : Nat) : Node :=
  let announced := if observation.isNew then node.emit (.neighborUp src) else node
  if observation.identityVerified then announced.absorbBeaconKey src now else announced

/-- Update the zone and the route to a neighbour, and hasten our own beacon. -/
def noteBeacon (node : Node) (src : Address) (beacon : Beacon) (now : Nat) : Node :=
  let zone := node.zone.updateFromBeacon now node.address node.neighbors src beacon.zone
    beacon.attached
  let link := { node with zone := zone }.linkCostTo src
  (link.1.learnRoute src src 1 link.2 .zone none now).hastenBeacon beacon now

/-- Serve a sleeping-role neighbour that is awake, or choose a host. -/
def reactToBeacon (node : Node) (src : Address) (beacon : Beacon) (now : Nat) : Node :=
  if node.cfg.role.relays && beacon.role == .leaf then node.serveLeaf src now
  else if node.cfg.role == .leaf && beacon.role.relays then node.chooseHost now
  else node

def handleBeacon (node : Node) (packet : Packet) (rxMeta : RxMeta) (now : Nat) : Node :=
  let src := packet.header.src
  match Beacon.decode packet.payload with
  | .error _ => node
  | .ok beacon =>
    let observed := node.neighbors.observeBeaconAs now src beacon rxMeta (some node.address)
    let seen := { node with neighbors := observed.1 }
    if observed.2.identityRejected then seen
    else
      ((seen.welcome src observed.2 now).noteBeacon src beacon now).reactToBeacon src beacon now

def handleBroadcastData (node : Node) (packet : Packet) (rxMeta : RxMeta) : Node :=
  let header := packet.header
  let report (payload : Bytes) (protection : Protection) : Node :=
    node.emit (.messageReceived header.src header.seq payload protection header.hops
      rxMeta.rssiDbm rxMeta.snrDb (node.lastRelayOf packet))
  if header.has Flags.groupEncrypted then
    match node.cfg.networkKey with
    | none => node
    | some network =>
      match groupDecrypt network.groupKey header.src header.packetId (header.aad 0)
          packet.payload with
      | .ok plaintext => report plaintext .group
      | .error _ => node
  else report packet.payload .plaintext

/-- The full body after reassembly, with the fragment id. -/
def reassemble (node : Node) (packet : Packet) (now : Nat) :
    Node × Option (Bytes × Option UInt16) :=
  match packet.fragHeader with
  | none => (node, some (packet.payload, none))
  | some header =>
    let pushed := node.reassembler.push now packet.header.src header packet.body
    ({ node with reassembler := pushed.1 },
      match pushed.2 with
      | .ok (some full) => some (full, some header.fragId)
      | _ => none)

/-- A responder that waits for the third message tells the peer, a few times. -/
def noticeNoSession (node : Node) (peer : Address) (now : Nat) : Node :=
  match node.handshakes.get peer with
  | none => node
  | some pending =>
    if pending.hs.role = .responder ∧ pending.attempts < 4 then
      let noticed := { pending with attempts := pending.attempts + 1 }
      let counted := { node with handshakes := node.handshakes.insert peer noticed }
      let based := counted.baseHeader .control peer (counted.ttlFor peer)
      (based.1.routeUnicast ⟨based.2, [Control.noSession]⟩ now).1
    else node

/-- Reassemble and decrypt a session payload addressed to us. -/
def openSessionPayload (node : Node) (packet : Packet) (now : Nat) : Node × Option Bytes :=
  let src := packet.header.src
  match node.reassemble packet now with
  | (collected, none) => (collected, none)
  | (collected, some (ciphertext, fragment)) =>
    match collected.sessions.get src with
    | none => (collected.noticeNoSession src now, none)
    | some session =>
      let opened := session.decrypt now (transportAad packet.header fragment) ciphertext
      ({ collected with sessions := collected.sessions.insert src opened.1 }, opened.2.toOption)

/-- Remember an opened envelope; the oldest of more than 64 is forgotten. -/
def rememberEnvelope (node : Node) (key : PacketKey) : Node :=
  let grown := node.openedEnvelopes ++ [key]
  { node with openedEnvelopes := if grown.length > 64 then grown.tail else grown }

/-- Deliver the content of an opened envelope once. -/
def deliverOpened (node : Node) (packet : Packet) (rxMeta : RxMeta) (sender : Address)
    (envelopeId : UInt32) (plaintext : Bytes) : Node :=
  if node.openedEnvelopes.contains ⟨sender, envelopeId⟩ then node
  else
    let header := packet.header
    (node.rememberEnvelope ⟨sender, envelopeId⟩).emit (.messageReceived sender header.seq plaintext
      .envelope header.hops rxMeta.rssiDbm rxMeta.snrDb (node.lastRelayOf packet))

/-- Tell the mailbox holder, inside a session, that its copy was delivered. -/
def ackMailbox (node : Node) (host : Address) (envelopeId : UInt32) (now : Nat) : Node :=
  let body := BigEndian.encode 4 envelopeId.toNat
  if node.sessions.contains host then node.sendControl host Control.mailboxAck body now
  else
    (node.startHandshake host now).pushQueued host
      ⟨host, Control.mailboxAck :: body, .unreliable, queuedControl, now⟩

/-- Acknowledge an envelope to its sender with an envelope of our own. -/
def ackEnvelope (node : Node) (packet : Packet) (sender : PublicIdentity) (envelopeId : UInt32)
    (now : Nat) : Node :=
  let sealed := sealEnvelope node.id sender envelopeId (ascii "D") node.rng
  let drained := { node with rng := sealed.1 }
  match sealed.2 with
  | .error _ => drained
  | .ok envelope =>
    let based := drained.baseHeader .ack sender.address (drained.ttlFor sender.address)
    let header := { based.2.set Flags.envelope true with seq := packet.header.seq }
    (based.1.routeUnicast ⟨header, frameEnvelope envelopeId envelope⟩ now).1

/-- An envelope addressed to us. -/
def handleEnvelope (node : Node) (packet : Packet) (rxMeta : RxMeta) (now : Nat) : Node :=
  match node.reassemble packet now with
  | (collected, none) => collected
  | (collected, some (body, _)) =>
    match parseEnvelopeFrame body with
    | .error _ => collected
    | .ok (envelopeId, envelope) =>
      match openEnvelope collected.id envelopeId envelope with
      | .error _ => collected
      | .ok (sender, plaintext) =>
        let keyed := { collected with keyDir := collected.keyDir.insert sender.address sender }
        let delivered := keyed.deliverOpened packet rxMeta sender.address envelopeId plaintext
        let acked := if packet.header.src ≠ sender.address then
            delivered.ackMailbox packet.header.src envelopeId now
          else delivered
        acked.ackEnvelope packet sender envelopeId now

def handleUnicastData (node : Node) (packet : Packet) (rxMeta : RxMeta) (now : Nat) : Node :=
  let header := packet.header
  if header.has Flags.envelope then node.handleEnvelope packet rxMeta now
  else if !header.has Flags.encrypted then node
  else
    match node.openSessionPayload packet now with
    | (opened, none) => opened
    | (opened, some body) =>
      let accepted := opened.transport.acceptIncoming header.src header.seq now
      let recorded := { opened with transport := accepted.1 }
      let acked := if header.has Flags.ackRequest then
          recorded.sendAck header.src header.seq AckStatus.delivered now
        else recorded
      if !accepted.2 then acked
      else acked.emit (.messageReceived header.src header.seq body .session header.hops
        rxMeta.rssiDbm rxMeta.snrDb (acked.lastRelayOf packet))

/-- Open an envelope acknowledgement: the envelope it is about and who sealed it. -/
def openEnvelopeAck (node : Node) (packet : Packet) (now : Nat) :
    Node × Option (UInt32 × Address) :=
  match node.reassemble packet now with
  | (collected, none) => (collected, none)
  | (collected, some (body, _)) =>
    match parseEnvelopeFrame body with
    | .error _ => (collected, none)
    | .ok (envelopeId, envelope) =>
      match openEnvelope collected.id envelopeId envelope with
      | .error _ => (collected, none)
      | .ok (sender, _) => (collected, some (envelopeId, sender.address))

/-- An envelope was acknowledged: the message is removed first, then the sender of the
acknowledgement is compared with the message's destination. -/
def onEnvelopeAck (node : Node) (sender : Address) (envelopeId : UInt32) (now : Nat) : Node :=
  let removed := node.transport.onEnvelopeDelivered envelopeId
  let cleared := { node with transport := removed.1 }
  match removed.2 with
  | some message =>
    if message.dst = sender then
      cleared.emit (.delivered message.handle message.dst (now - message.startedAt))
    else cleared
  | none => cleared

def handleEnvelopeAck (node : Node) (packet : Packet) (now : Nat) : Node :=
  match node.openEnvelopeAck packet now with
  | (collected, none) => collected
  | (collected, some (envelopeId, sender)) => collected.onEnvelopeAck sender envelopeId now

/-- A successful delivery confirms the route it used. -/
def confirmRoute (node : Node) (dst : Address) (now : Nat) : Node :=
  match node.routes.lookup dst now with
  | some route =>
    { node with
      routes := node.routes.markSuccess dst route.nextHop now
      neighbors := node.neighbors.recordSuccess route.nextHop }
  | none => node

/-- Report what a session acknowledgement did. -/
def reportAck (node : Node) (src : Address) (ack : Ack) (completed : Option Outstanding)
    (now : Nat) : Node :=
  match completed with
  | some message =>
    let confirmed := node.confirmRoute src now
    if ack.status = AckStatus.delivered then
      confirmed.emit (.delivered message.handle message.dst (now - message.startedAt))
    else confirmed.emit (.failed message.handle message.dst .rejected)
  | none =>
    if ack.status = AckStatus.stored then
      match node.transport.outstanding.find? (Transport.acknowledges src ack) with
      | some message => node.emit (.stored message.handle src)
      | none => node
    else node

/-- Open a session acknowledgement. -/
def openAck (node : Node) (packet : Packet) (now : Nat) : Node × Option Ack :=
  match node.openSessionPayload packet now with
  | (opened, none) => (opened, none)
  | (opened, some body) =>
    match Ack.decode body with
    | .error _ => (opened, none)
    | .ok ack => (opened, some ack)

/-- A session peer acknowledged a message. -/
def onAck (node : Node) (src : Address) (ack : Ack) (now : Nat) : Node :=
  let completed := node.transport.onAck src ack
  { node with transport := completed.1 }.reportAck src ack completed.2 now

def handleAck (node : Node) (packet : Packet) (now : Nat) : Node :=
  if packet.header.has Flags.envelope then node.handleEnvelopeAck packet now
  else
    match node.openAck packet now with
    | (opened, none) => opened
    | (opened, some ack) => opened.onAck packet.header.src ack now

/-- Whether a neighbour is known to be awake. -/
def isAwakeNeighbor (node : Node) (addr : Address) (now : Nat) : Bool :=
  match node.neighbors.get addr with
  | some neighbor => !neighbor.isSleeping now
  | none => false

/-- Keep a deposit, when there is a mailbox. -/
def storeDeposit (node : Node) (src : Address) (request : StoreRequest) (now : Nat) :
    Node × Except UInt8 Unit :=
  match node.mailbox with
  | some mailbox =>
    let stored := mailbox.store now src request
    (node.withMailbox stored.1, stored.2)
  | none => (node, .error RejectReason.notAnchor)

/-- The answer to a deposit. A duplicate is taken for a retried deposit and accepted. -/
def storeAnswer (envelopeId : UInt32) : Except UInt8 Unit → UInt8 × Bytes
  | .ok () => (Control.storeAccepted, encodeStoreResult envelopeId none)
  | .error reason =>
    if reason = RejectReason.duplicate then
      (Control.storeAccepted, encodeStoreResult envelopeId none)
    else (Control.storeRejected, encodeStoreResult envelopeId (some reason))

/-- The control answer a deposit gets. -/
def depositAnswer (node : Node) (src : Address) (request : StoreRequest) (now : Nat) :
    UInt8 × Bytes :=
  storeAnswer request.envelopeId (node.storeDeposit src request now).2

/-- Keep a deposit if possible, answer it, and pass it on if its destination is awake. -/
def handleDeposit (node : Node) (src : Address) (request : StoreRequest) (now : Nat) : Node :=
  let stored := node.storeDeposit src request now
  let answer := node.depositAnswer src request now
  let answered := stored.1.sendControl src answer.1 answer.2 now
  match stored.2 with
  | .ok () =>
    if answered.isAwakeNeighbor request.dst now then answered.flushMailboxTo request.dst now
    else answered
  | .error _ => answered

def handleStore (node : Node) (packet : Packet) (now : Nat) : Node :=
  match node.openSessionPayload packet now with
  | (opened, none) => opened
  | (opened, some body) =>
    match StoreRequest.decode body with
    | .error _ => opened
    | .ok request => opened.handleDeposit packet.header.src request now

def handleFetch (node : Node) (packet : Packet) (now : Nat) : Node :=
  let src := packet.header.src
  match node.openSessionPayload packet now with
  | (opened, none) => opened
  | (opened, some _) =>
    if opened.mailbox.isNone then opened
    else
      { opened with neighbors := opened.neighbors.modify src (fun neighbor =>
          { neighbor with awakeUntil := some (now + 5000) }) }.flushMailboxTo src now

/-- The short ids recorded by a trace. -/
def traceHops : Bytes → List UInt16
  | high :: low :: rest => UInt16.ofNat (BigEndian.decode [high, low]) :: traceHops rest
  | _ => []

/-- Answer a trace request, or finish our own trace with a reply. -/
def handleTrace (node : Node) (packet : Packet) (now : Nat) : Node :=
  let src := packet.header.src
  match packet.payload with
  | [] => node
  | kind :: rest =>
    if kind = Control.traceReq then
      let based := node.baseHeader .control src (node.ttlFor src)
      (based.1.routeUnicast ⟨based.2, Control.traceRep :: rest⟩ now).1
    else if kind = Control.traceRep then
      match node.pendingTraces.find? (fun trace => trace.1 == src) with
      | some trace =>
        { node with pendingTraces := node.pendingTraces.eraseP (fun other =>
            other.1 == src) }.emit (.traceResult src true (traceHops rest) (now - trace.2))
      | none => node
    else node

/-- A host accepted a deposit: the message waits for its delivery, or mail we handed to
the host is deleted here. -/
def onStoreAccepted (node : Node) (src : Address) (envelopeId : UInt32) : Node :=
  let marked := node.transport.onStoreAccepted envelopeId
  if marked.2 then
    let kept := { node with transport := marked.1 }
    match kept.transport.outstanding.find? (Transport.inEnvelope envelopeId) with
    | some message => kept.emit (.stored message.handle src)
    | none => kept
  else
    match node.mailbox with
    | none => node
    | some mailbox =>
      match mailbox.entries.find? (fun entry => entry.envelopeId == envelopeId) with
      | some entry => node.withMailbox (mailbox.delivered entry.dst envelopeId).1
      | none => node

/-- A host rejected a deposit. -/
def onStoreRejected (node : Node) (envelopeId : UInt32) : Node :=
  let removed := node.transport.onEnvelopeDelivered envelopeId
  let cleared := { node with transport := removed.1 }
  match removed.2 with
  | some message => cleared.emit (.failed message.handle message.dst .rejected)
  | none => cleared

/-- The destination of mail we keep has received it. -/
def onMailboxAck (node : Node) (src : Address) (envelopeId : UInt32) : Node :=
  match node.mailbox with
  | none => node
  | some mailbox =>
    let deleted := mailbox.delivered src envelopeId
    let kept := node.withMailbox deleted.1
    if deleted.2 then kept.emit (.mailboxDelivered src envelopeId) else kept

/-- Dispatch a decrypted control body. -/
def onControl (node : Node) (src : Address) (sub : UInt8) (rest : Bytes) (now : Nat) : Node :=
  if sub = Control.storeAccepted then
    match decodeStoreResult rest with
    | .ok (envelopeId, _) => node.onStoreAccepted src envelopeId
    | .error _ => node
  else if sub = Control.storeRejected then
    match decodeStoreResult rest with
    | .ok (envelopeId, _) => node.onStoreRejected envelopeId
    | .error _ => node
  else if sub = Control.sessionClose then node.dropSession src
  else if sub = Control.ping then node.sendControl src Control.pong rest now
  else if sub = Control.pong then node
  else if sub = Control.mailboxAck then
    if rest.length = 4 then
      node.onMailboxAck src (UInt32.ofNat (BigEndian.decode rest))
    else node
  else node

def handleControl (node : Node) (packet : Packet) (now : Nat) : Node :=
  match node.openSessionPayload packet now with
  | (opened, none) => opened
  | (opened, some []) => opened
  | (opened, some (sub :: rest)) => opened.onControl packet.header.src sub rest now

/-- Whether a control payload is a plaintext trace. -/
def isTrace (packet : Packet) : Bool :=
  packet.payload.head? == some Control.traceReq || packet.payload.head? == some Control.traceRep

/-- A packet addressed to us, by type. -/
def handleForMe (node : Node) (packet : Packet) (prev : Option Address) (rxMeta : RxMeta)
    (now : Nat) : Node :=
  let active := { node with power := node.power.onActivity now }
  match packet.header.ptype with
  | .beacon => node
  | .routeRequest => node
  | .routeReply => node.handleRouteReply packet prev now
  | .routeError => node.handleRouteError packet prev
  | .handshake => active.handleHandshake packet now
  | .data => active.handleUnicastData packet rxMeta now
  | .ack => active.handleAck packet now
  | .store => active.handleStore packet now
  | .fetch => active.handleFetch packet now
  | .control => if isTrace packet then active.handleTrace packet now
    else active.handleControl packet now

/-- A flooded packet, by type. -/
def handleFlooded (node : Node) (packet : Packet) (prev : Option Address) (rxMeta : RxMeta)
    (now : Nat) : Node :=
  match packet.header.ptype with
  | .routeRequest => node.handleRouteRequest packet prev rxMeta now
  | .data => (node.handleBroadcastData packet rxMeta).maybeRelayFlood packet prev rxMeta now
  | _ => node

/-- A packet addressed to another node, by type. -/
def handleTransit (node : Node) (packet : Packet) (prev : Option Address) (rxMeta : RxMeta)
    (now : Nat) : Node :=
  match packet.header.ptype with
  | .beacon => node
  | .routeRequest => node
  | .routeReply => node.forwardRouteReply packet prev rxMeta now
  | _ => node.forwardUnicast packet prev rxMeta now

/-- An overheard reply may cancel ours. -/
def overhearReply (node : Node) (packet : Packet) : Node :=
  if packet.header.ptype = .routeReply then
    match RouteReply.decode packet.payload with
    | .ok reply =>
      { node with rrepPending := node.rrepPending.heard packet.header.dst reply.reqId reply.cost }
    | .error _ => node
  else node

/-- Whether a packet is flooded: broadcast data and route requests. -/
def isFlooded (packet : Packet) : Bool :=
  packet.header.dst.isBroadcast &&
    (packet.header.ptype == .routeRequest || packet.header.ptype == .data)

/-- Dispatch a packet that passed the duplicate filter. -/
def dispatch (node : Node) (packet : Packet) (prev : Option Address) (rxMeta : RxMeta)
    (now : Nat) : Node :=
  let overheard := node.overhearReply packet
  if isFlooded packet then overheard.handleFlooded packet prev rxMeta now
  else if packet.header.dst = node.address then overheard.handleForMe packet prev rxMeta now
  else if packet.header.dst.isBroadcast then overheard
  else overheard.handleTransit packet prev rxMeta now

/-- Confirm a packet for us to the previous hop. -/
def confirmFinalHop (node : Node) (packet : Packet) (prev : Option Address) (now : Nat) : Node :=
  match prev with
  | some transmitter =>
    if packet.header.dst = node.address ∧ !packet.header.ptype.isLinkLocal then
      node.sendLinkAck transmitter packet.header.packetId now
    else node
  | none => node

/-- Learn the reverse route to the source when we have none. -/
def learnReverse (node : Node) (packet : Packet) (prev : Option Address) (now : Nat) : Node :=
  match prev with
  | some transmitter =>
    let src := packet.header.src
    if (node.routes.lookup src now).isNone && !node.neighbors.contains src then
      let hops := saturatingAdd packet.header.hops 1
      let link := node.linkCostTo transmitter
      link.1.learnRoute src transmitter hops (min (hops.toNat * link.2) 65535) .reverse none now
    else node
  | none => node

/-- The state in which a packet that passed the duplicate filter is dispatched. -/
def prepare (node : Node) (packet : Packet) (prev : Option Address) (now : Nat) : Node :=
  let learned := (node.confirmFinalHop packet prev now).learnReverse packet prev now
  if packet.header.dst = node.address then { learned with rxForUs := learned.rxForUs + 1 }
  else learned

/-- A copy of a packet seen before: count it, and confirm it if it was ours to handle. -/
def onDuplicate (node : Node) (packet : Packet) (prev : Option Address) (now : Nat) : Node :=
  let header := packet.header
  let counted := { node with sched := node.sched.heard header.key }
  match prev with
  | some transmitter =>
    if (header.dst = node.address ∨ header.nextHop = node.address.short) ∧
        !header.dst.isBroadcast then
      counted.sendLinkAck transmitter header.packetId now
    else counted
  | none => counted

/-- A plaintext link acknowledgement addressed to us. -/
def isLinkAck (node : Node) (packet : Packet) : Bool :=
  packet.header.ptype == .control && packet.header.dst == node.address &&
    packet.payload.length == 5 && packet.payload.head? == some Control.linkAck

/-- A plaintext notice, addressed to us, that the peer has no session. -/
def isNoSessionNotice (node : Node) (packet : Packet) : Bool :=
  packet.header.ptype == .control && packet.header.dst == node.address &&
    packet.payload == [Control.noSession]

def handleLinkAck (node : Node) (packet : Packet) (prev : Option Address) : Node :=
  match prev with
  | none => node
  | some transmitter =>
    let packetId := UInt32.ofNat (BigEndian.decode (packet.payload.drop 1))
    ((node.hopPending.filter (fun hop =>
      hop.key.id == packetId && hop.nextHop == transmitter)).map HopPending.key).foldl
        (fun confirmed key => confirmed.hopConfirmed key transmitter) node

/-- A relayed copy of our packet acknowledges the hop. -/
def implicitAck (node : Node) (packet : Packet) (prev : Option Address) : Node :=
  match prev with
  | some transmitter =>
    if packet.header.hops > 0 then node.hopConfirmed packet.header.key transmitter else node
  | none => node

/-- Route requests are arbitrated by the request table; everything else passes once. -/
def passesOnce (node : Node) (packet : Packet) (now : Nat) : Node × Bool :=
  if packet.header.ptype = .routeRequest then (node, true)
  else
    let observed := node.seen.observe packet.header.key now
    ({ node with seen := observed.1 }, observed.2)

/-- Note that a neighbour was heard. -/
def hear (node : Node) (prev : Option Address) (rxMeta : RxMeta) (now : Nat) : Node :=
  match prev with
  | some transmitter =>
    { node with neighbors := node.neighbors.observePacket now transmitter rxMeta }
  | none => node

/-- A decoded foreign packet. -/
def onPacket (node : Node) (packet : Packet) (rxMeta : RxMeta) (now : Nat) : Node :=
  let prev := node.transmitterOf packet
  let heard := node.hear prev rxMeta now
  if packet.header.ptype = .beacon then heard.handleBeacon packet rxMeta now
  else
    let active := if packet.header.dst = heard.address then
        { heard with power := heard.power.onActivity now }
      else heard
    if active.isLinkAck packet then active.handleLinkAck packet prev
    else if active.isNoSessionNotice packet then active.onNoSessionNotice packet.header.src now
    else
      let passed := (active.implicitAck packet prev).passesOnce packet now
      if passed.2 then (passed.1.prepare packet prev now).dispatch packet prev rxMeta now
      else passed.1.onDuplicate packet prev now

/-- Account for a frame on the air. -/
def hearFrame (node : Node) (frame : Bytes) : Node :=
  { node with rxAirtimeMs := node.rxAirtimeMs + node.cfg.profile.airtimeMs frame.length }

/-- Note a foreign packet in the history. -/
def recordReceived (node : Node) (packet : Packet) : Node :=
  { node with history := { node.history with received := node.history.received ++ [packet] } }

/-- The clock of a node that receives a frame. -/
abbrev clock (node : Node) (rxMeta : RxMeta) : Nat := max node.now rxMeta.timestampMs

/-- Feed a received frame. -/
def onRadioRx (node : Node) (frame : Bytes) (rxMeta : RxMeta) : Node :=
  let timed := { node with now := max node.now rxMeta.timestampMs }
  if !timed.power.awake then timed
  else
    let accounted := timed.hearFrame frame
    match Packet.decode frame accounted.cfg.networkKey accounted.cfg.maxTtl with
    | .error _ => accounted
    | .ok packet =>
      if packet.header.src = accounted.address then accounted
      else (accounted.recordReceived packet).onPacket packet rxMeta accounted.now

end Node

end MeshStar

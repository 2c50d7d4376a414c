import MeshStar.Node.Transmit

/-!
# Sessions and envelopes on the transmit side

Sending inside a session, queueing behind a handshake, depositing and sealing
envelopes, retrying tracked messages and giving up on a destination.
-/

namespace MeshStar

variable [Primitives]

/-- The handshake prologue binds both addresses. -/
def prologue (initiator responder : Address) : Bytes :=
  ascii "MeshStar/xx/v1" ++ initiator.asBytes ++ responder.asBytes

namespace Node

/-- Append a send to the queue of a pending handshake, when there is one. -/
def pushQueued (node : Node) (peer : Address) (send : QueuedSend) : Node :=
  { node with handshakes := node.handshakes.modify peer (fun pending =>
      { pending with queued := pending.queued ++ [send] }) }

/-- The epoch of the next session with a peer. -/
def nextEpoch (node : Node) (peer : Address) : UInt8 :=
  match node.sessions.get peer with
  | some session => session.epoch + 1
  | none => 0

/-- A fresh handshake as initiator, when its first message can be written. -/
def openHandshake (node : Node) (peer : Address) (now : Nat) : Rng × Option PendingHandshake :=
  let created := HandshakeXX.new .initiator node.id (prologue node.address peer) node.rng
  let epoch := node.nextEpoch peer
  (created.1,
    match HandshakeXX.run (HandshakeXX.writeMessage1 [node.cfg.role.toU8, epoch]) created.2 with
    | (_, .error _) => none
    | (hs, .ok m1) => some ⟨hs, now, epoch, [], 1, m1, FixedBytes.ofSlice 32 [], []⟩)

/-- Begin a handshake with a peer; nothing happens if one is in flight. -/
def startHandshake (node : Node) (peer : Address) (now : Nat) : Node :=
  if node.handshakes.contains peer ∨ peer = node.address then node
  else
    let opened := node.openHandshake peer now
    let drawn := { node with rng := opened.1 }
    match opened.2 with
    | none => drawn
    | some pending =>
      { drawn with handshakes := drawn.handshakes.insert peer pending }.sendHandshakePacket peer
        .one pending.m1 now

/-- Send the fragments of a session payload, stopping at the first that fails. -/
def sendFragments (header : Header) (now : Nat) :
    List (FragHeader × Bytes) → Bool → Node → Node × Except Error Unit
  | [], _, node => (node, .ok ())
  | part :: rest, first, node =>
    let drawn := if first then (node, header.packetId) else node.newPacketId
    let packet : Packet := ⟨{ header with packetId := drawn.2 }, frameFragment part.1 part.2⟩
    match drawn.1.routeUnicast packet now with
    | (routed, .error error) => (routed, .error error)
    | (routed, .ok ()) => sendFragments header now rest false routed

/-- The header of a session packet, without the fragment flag. -/
def sessionHeader (node : Node) (header : Header) (seq : UInt16) (ackRequest : Bool) : Header :=
  let marked := ({ header with seq := seq }.set Flags.encrypted true).set
    Flags.ackRequest ackRequest
  if node.cfg.role = .leaf then marked.set Flags.leafSource true else marked

/-- Encrypt a body in the session with a peer and route it, fragmenting if needed. -/
def sendSessionPacket (node : Node) (dst : Address) (ptype : PacketType) (body : Bytes)
    (seq : UInt16) (ackRequest : Bool) (now : Nat) : Node × Except Error Unit :=
  let based := node.baseHeader ptype dst (node.ttlFor dst)
  let whole := based.1.sessionHeader based.2 seq ackRequest
  let singleMax := maxPayload (whole.has Flags.netAuth)
  let fragmented := body.length + transportOverhead > singleMax
  let counted := if fragmented then { based.1 with fragId := based.1.fragId + 1 } else based.1
  let fragId := if fragmented then some counted.fragId else none
  let header := if fragmented then whole.set Flags.fragmented true else whole
  match counted.sessions.get dst with
  | none => (counted, .error .noSession)
  | some session =>
    match session.encrypt now (transportAad header fragId) body with
    | (kept, .error error) =>
      ({ counted with sessions := counted.sessions.insert dst kept }, .error error)
    | (advanced, .ok ciphertext) =>
      let encrypted := { counted with sessions := counted.sessions.insert dst advanced }
      match fragId with
      | none => encrypted.routeUnicast ⟨header, ciphertext⟩ now
      | some fragment =>
        match split fragment ciphertext (singleMax - fragHeaderLen) with
        | none => (encrypted, .error .tooLarge)
        | some parts => sendFragments header now parts true encrypted

/-- Draw a sequence number and send inside a session, ignoring a failure. -/
def sendSequenced (node : Node) (dst : Address) (ptype : PacketType) (body : Bytes) (now : Nat) :
    Node :=
  let sequenced := node.transport.nextSeq
  ({ node with transport := sequenced.1 }.sendSessionPacket dst ptype body sequenced.2 false now).1

/-- Session acknowledgement; without a session there is none. -/
def sendAck (node : Node) (recipient : Address) (seq : UInt16) (status : UInt8) (now : Nat) :
    Node :=
  if node.sessions.contains recipient then
    node.sendSequenced recipient .ack (Ack.mk seq status).encode now
  else node

def sendControl (node : Node) (recipient : Address) (sub : UInt8) (body : Bytes) (now : Nat) :
    Node :=
  if node.sessions.contains recipient then node.sendSequenced recipient .control (sub :: body) now
  else node

/-- Track a message, reporting a full table. -/
def trackOrFail (node : Node) (message : Outstanding) (now : Nat) : Node × Bool :=
  let tracked := node.transport.track message now
  if tracked.2 then ({ node with transport := tracked.1 }, true)
  else (node.emit (.failed message.handle message.dst .queueFull), false)

/-- Encrypt and send a data message inside the session with its destination. -/
def sendDataInSession (node : Node) (send : QueuedSend) (now : Nat) : Node :=
  let sequenced := node.transport.nextSeq
  let numbered := { node with transport := sequenced.1 }
  let ack := send.reliability == .acknowledged
  match numbered.sendSessionPacket send.dst .data send.payload sequenced.2 ack now with
  | (sent, .ok ()) =>
    if ack then
      (sent.trackOrFail ⟨send.dst, sequenced.2, send.handle, send.reliability, send.payload, 0, 0,
        now, none, false⟩ now).1
    else sent
  | (sent, .error .tooLarge) => sent.emit (.failed send.handle send.dst .tooLarge)
  | (sent, .error .noRoute) => sent.emit (.failed send.handle send.dst .noRoute)
  | (sent, .error _) => sent.emit (.failed send.handle send.dst .noSession)

/-- Send through an existing session, or start a handshake and queue. -/
def sendOrQueue (node : Node) (send : QueuedSend) (now : Nat) : Node :=
  if node.sessions.contains send.dst then node.sendDataInSession send now
  else
    match node.handshakes.get send.dst with
    | some pending =>
      if pending.queued.length < 8 then node.pushQueued send.dst send
      else node.emit (.failed send.handle send.dst .queueFull)
    | none =>
      let started := node.startHandshake send.dst now
      if started.handshakes.contains send.dst then started.pushQueued send.dst send
      else started.emit (.failed send.handle send.dst .noSession)

/-- Ask a host for our mail, opening a session first if there is none. -/
def sendFetch (node : Node) (anchor : Address) (now : Nat) : Node :=
  let refused := match node.neighbors.get anchor with
    | some neighbor => !neighbor.role.relays
    | none => false
  if refused then node
  else if node.sessions.contains anchor then node.sendSequenced anchor .fetch [8] now
  else (node.startHandshake anchor now).pushQueued anchor ⟨anchor, [], .unreliable, 0, now⟩

/-- Deposit an envelope at a host, opening a session first if there is none. -/
def sendStore (node : Node) (anchor dst : Address) (envelopeId : UInt32) (envelope : Bytes)
    (now : Nat) : Node :=
  let payload := (StoreRequest.mk dst envelopeId node.cfg.envelopeTtlS envelope).encode
  let recorded := { node with history := { node.history with
    deposits := node.history.deposits ++ [Deposit.mk anchor dst envelopeId] } }
  if recorded.sessions.contains anchor then recorded.sendSequenced anchor .store payload now
  else
    (recorded.startHandshake anchor now).pushQueued anchor
      ⟨anchor, payload, .unreliable, queuedStore, now⟩

/-- Push pending envelopes to an awake destination. -/
def flushMailboxTo (node : Node) (dst : Address) (now : Nat) : Node :=
  match node.mailbox with
  | none => node
  | some mailbox =>
    let taken := mailbox.takeDeliverable dst now 4
    taken.2.foldl (fun sent item => sent.sendEnvelopeData dst item.1 item.2 now)
      { node with mailbox := some taken.1 }

/-- Keep an envelope for a sleeping-role neighbour we host. The result tells whether the
mailbox accepted it. -/
def depositForHosted (node : Node) (dst : Address) (envelopeId : UInt32) (envelope : Bytes)
    (now : Nat) : Node × Bool :=
  match node.neighbors.get dst, node.mailbox with
  | some neighbor, some mailbox =>
    if node.cfg.role.relays && neighbor.hostedByUs then
      match mailbox.store now node.address ⟨dst, envelopeId, node.cfg.envelopeTtlS, envelope⟩ with
      | (stored, .ok ()) =>
        let accepted := { node with
          mailbox := some stored
          transport := (node.transport.onStoreAccepted envelopeId).1 }
        (if !neighbor.isSleeping now then accepted.flushMailboxTo dst now else accepted, true)
      | (_, .error _) => (node, false)
    else (node, false)
  | _, _ => (node, false)

/-- Send an envelope along a route, or park it behind a discovery. -/
def routeUnicastEnvelope (node : Node) (dst : Address) (envelopeId : UInt32) (envelope : Bytes)
    (now : Nat) : Node × Except Error Unit :=
  if (node.nextHopFor dst now).isNone ∧ node.cfg.routingMode = .zrp then
    let based := node.baseHeader .data dst node.cfg.defaultTtl
    let header := (based.2.set Flags.envelope true).set Flags.storeForward true
    let body := frameEnvelope envelopeId envelope
    if body.length > maxPayload (header.has Flags.netAuth) then (based.1, .error .tooLarge)
    else based.1.routeUnicast ⟨header, body⟩ now
  else (node.sendEnvelopeData dst envelopeId envelope now, .ok ())

/-- The host known for a destination, from the zone or from a proxied route. -/
def knownAnchor (node : Node) (dst : Address) (now : Nat) : Option Address :=
  match node.zone.anchorFor dst with
  | some anchor => some anchor
  | none => (node.routes.lookup dst now).bind RouteEntry.viaAnchor

/-- Choose between direct delivery and a deposit. -/
def deliverEnvelope (node : Node) (dst : Address) (envelopeId : UInt32) (envelope : Bytes)
    (now : Nat) : Node :=
  let hosted := node.depositForHosted dst envelopeId envelope now
  if hosted.2 then hosted.1
  else
    match node.knownAnchor dst now with
    | some anchor => node.sendStore anchor dst envelopeId envelope now
    | none =>
      match node.routeUnicastEnvelope dst envelopeId envelope now with
      | (sent, .ok ()) => sent
      | (sent, .error _) =>
        match sent.neighbors.bestAnchor with
        | some anchor => sent.sendStore anchor.addr dst envelopeId envelope now
        | none => sent

/-- Seal a payload to a known key, track it and send it. -/
def sealAndSendEnvelope (node : Node) (dst : Address) (payload : Bytes) (handle : UInt32)
    (now : Nat) : Node :=
  match node.keyDir.get dst with
  | none => node.emit (.failed handle dst .noKey)
  | some recipient =>
    let drawn := node.newPacketId
    let envelopeId := drawn.2
    let sealed := sealEnvelope node.id recipient envelopeId payload drawn.1.rng
    let drained := { drawn.1 with rng := sealed.1 }
    match sealed.2 with
    | .error _ => drained.emit (.failed handle dst .noKey)
    | .ok envelope =>
      if envelope.length + 4 > 1500 then drained.emit (.failed handle dst .tooLarge)
      else
        let tracked := drained.trackOrFail ⟨dst, 0, handle, .storeAndForward, envelope, 0, 0, now,
          some envelopeId, false⟩ now
        if tracked.2 then tracked.1.deliverEnvelope dst envelopeId envelope now else tracked.1

/-- Store-and-forward send: seal now if the key is known, else discover. -/
def queueEnvelope (node : Node) (dst : Address) (payload : Bytes) (handle : UInt32) (now : Nat) :
    Node :=
  if node.keyDir.contains dst then node.sealAndSendEnvelope dst payload handle now
  else if node.pendingEnvelopes.length ≥ 16 then node.emit (.failed handle dst .queueFull)
  else
    let waiting := { node with
      pendingEnvelopes := node.pendingEnvelopes ++ [PendingEnvelope.mk dst payload handle now] }
    if waiting.ierp.mayStart dst now then waiting.startDiscovery dst none now else waiting

/-- A key became known: seal and send the envelopes waiting for it. -/
def tryPendingEnvelopes (node : Node) (dst : Address) (now : Nat) : Node :=
  let waiting := node.pendingEnvelopes.filter (fun pending => pending.dst == dst)
  waiting.foldl
    (fun sent pending => sent.sealAndSendEnvelope dst pending.payload pending.handle now)
    { node with pendingEnvelopes := node.pendingEnvelopes.filter (fun pending =>
        pending.dst != dst) }

/-- Lose confidence in the route of a message that was retried twice already. -/
def doubtRoute (node : Node) (message : Outstanding) (now : Nat) : Node :=
  if message.attempts ≥ 3 then
    match node.routes.lookup message.dst now with
    | some route =>
      let marked := node.routes.markFailure message.dst route.nextHop
      let doubted := { node with routes := marked.1 }
      if message.reliability = .storeAndForward then doubted
      else
        let reported := if marked.2 then doubted.emit (.routeLost message.dst) else doubted
        { reported with neighbors := (reported.neighbors.recordFailure route.nextHop).1 }
    | none => node
  else node

/-- Reliability retry: a fresh packet with the same sequence number. -/
def retryOutstanding (node : Node) (message : Outstanding) (now : Nat) : Node :=
  match message.reliability with
  | .storeAndForward =>
    match message.envelopeId with
    | some envelopeId =>
      (node.doubtRoute message now).deliverEnvelope message.dst envelopeId message.body now
    | none => node
  | _ =>
    let doubted := node.doubtRoute message now
    if !doubted.sessions.contains message.dst then
      -- The session vanished: everything to this destination is dropped and only this
      -- message is queued behind a new handshake.
      let cleared := { doubted with transport := (doubted.transport.failAllTo message.dst).1 }
      cleared.sendOrQueue ⟨message.dst, message.body, message.reliability, message.handle, now⟩ now
    else
      (doubted.sendSessionPacket message.dst .data message.body message.seq true now).1

/-- A packet parked behind a discovery that failed: an envelope is deposited at an
anchor, or its message is reported as failed. -/
def failParked (target : Address) (anchor : Option Address) (now : Nat) (node : Node)
    (packet : Packet) : Node :=
  if packet.header.has Flags.envelope && packet.header.has Flags.storeForward then
    match anchor, parseEnvelopeFrame packet.payload with
    | some host, .ok (envelopeId, envelope) => node.sendStore host target envelopeId envelope now
    | none, .ok (envelopeId, _) =>
      let removed := node.transport.onEnvelopeDelivered envelopeId
      match removed.2 with
      | some message =>
        { node with transport := removed.1 }.emit (.failed message.handle target .noRoute)
      | none => { node with transport := removed.1 }
    | _, .error _ => node
  else node

/-- The handshake waiting for a route is dropped and its sends are reported. -/
def failHandshake (node : Node) (target : Address) : Node :=
  match node.handshakes.get target with
  | none => node
  | some pending =>
    ((pending.queued.filter (fun send => send.handle != 0 && send.handle != queuedStore)).map
      (fun send => NodeEvent.failed send.handle send.dst .noRoute)).foldl emit
        { node with handshakes := node.handshakes.remove target }

/-- Every message to an unreachable destination that no host keeps is given up. -/
def failTracked (node : Node) (target : Address) : Node :=
  let given := node.transport.failAllTo target
  (given.2.map (fun message => NodeEvent.failed message.handle target .noRoute)).foldl emit
    { node with transport := given.1 }

/-- Envelopes that wait for the key of an unreachable destination are given up. -/
def failEnvelopes (node : Node) (target : Address) : Node :=
  ((node.pendingEnvelopes.filter (fun pending => pending.dst == target)).map (fun pending =>
    NodeEvent.failed pending.handle pending.dst .noKey)).foldl emit
    { node with pendingEnvelopes := node.pendingEnvelopes.filter (fun pending =>
        pending.dst != target) }

/-- Discovery gave up: deposit envelopes at an anchor, fail the rest. -/
def onDiscoveryFailed (node : Node) (target : Address) (queued : List Packet) (now : Nat) : Node :=
  let anchor := (node.neighbors.bestAnchor.map Neighbor.addr).filter
    (fun addr => addr != node.address)
  let parked := queued.foldl (failParked target anchor now) node
  ((parked.failHandshake target).failTracked target).failEnvelopes target

end Node

end MeshStar

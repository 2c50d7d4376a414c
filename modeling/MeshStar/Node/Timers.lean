import MeshStar.Node.Receive

/-!
# Timers, application calls and runs

`poll` advances every timer in the order of the source, one named stage after the
other; a housekeeping pass runs at most once a second. A run is any sequence of
received frames, polls and application calls.
-/

namespace MeshStar

variable [Primitives]

namespace Node

/-- Time spent asleep does not count against protocol timers. -/
def shiftTimers (node : Node) (slept : Nat) : Node :=
  if slept = 0 then node
  else
    let later (time : Nat) : Nat := min (time + slept) timeMax
    { node with
      handshakes := node.handshakes.mapValues (fun _ pending =>
        { pending with startedAt := later pending.startedAt })
      ierp := { node.ierp with pending := node.ierp.pending.mapValues (fun _ discovery =>
        { discovery with
          deadline := later discovery.deadline
          startedAt := later discovery.startedAt }) }
      transport := node.transport.shiftTimers slept
      pendingEnvelopes := node.pendingEnvelopes.map (fun pending =>
        { pending with queuedAt := later pending.queuedAt }) }

/-- A sleeping-role node just woke up: beacon first, and fetch a little later if nothing
arrived. -/
def onWake (node : Node) (now : Nat) : Node :=
  let due := { node with nextBeacon := now }
  if node.cfg.role = .leaf then
    let usable (addr : Address) : Bool := match node.neighbors.get addr with
      | some neighbor => neighbor.role.relays
      | none => true
    match node.attachedAnchor.filter usable <|> node.neighbors.bestHost.map Neighbor.addr with
    | some anchor =>
      { due with
        attachedAnchor := some anchor
        pendingFetch := some (anchor, now + node.cfg.profile.airtimeMs 160 + 1500, node.rxForUs) }
    | none => due
  else due

def wakeUp (node : Node) (now : Nat) : Node :=
  (({ node with lastWake := now }.shiftTimers (now - node.sleptAt)).emit
    (.powerState true)).onWake now

/-- A sleeping-role node spreads its next wake-up over a fifth of the interval. -/
def spreadWake (node : Node) : Node :=
  match node.cfg.power.mode with
  | .leaf wakeIntervalS _ =>
    let drawn := node.rng.nextU64
    { node with
      rng := drawn.1
      power := node.power.delayWake (drawn.2 % max (wakeIntervalS.toNat * 1000 / 5) 1) }
  | _ => node

/-- Only the most urgent frames survive the sleep. -/
def fallAsleep (node : Node) (now : Nat) : Node :=
  let reported := { node with sleptAt := now }.spreadWake.emit (.powerState false)
  { reported with txQueue := reported.txQueue.filter (fun item => item.priority == 0) }

/-- Wake up or fall asleep. -/
def pollPower (node : Node) (now : Nat) : Node :=
  let ticked := node.power.tick now
  let advanced := { node with power := ticked.1 }
  match ticked.2 with
  | none => advanced
  | some true => advanced.wakeUp now
  | some false => advanced.fallAsleep now

def pollBeacon (node : Node) (now : Nat) : Node :=
  if now ≥ node.nextBeacon then node.sendBeacon now else node

/-- Fetch our mail if the host did not react to the wake-up beacon. -/
def pollFetch (node : Node) (now : Nat) : Node :=
  match node.pendingFetch with
  | none => node
  | some (host, due, received) =>
    if now ≥ due then
      let cleared := { node with pendingFetch := none }
      if node.rxForUs = received then cleared.sendFetch host now else cleared
    else node

/-- Transmit a relay whose slot arrived. -/
def relayDue (now : Nat) (node : Node) (due : PacketKey × Packet) : Node :=
  ({ node with seen := node.seen.markForwarded due.1 }.enqueuePacket
    (due.2.relayedBy node.address) now Priority.relay true).1

def pollRelays (node : Node) (now : Nat) : Node :=
  let due := node.sched.due now node.cfg.storm.counterThreshold
  due.2.foldl (relayDue now) { node with sched := due.1 }

/-- Mark the pending hop of a packet as rerouted. -/
def markRerouted (key : PacketKey) : List HopPending → List HopPending
  | [] => []
  | hop :: rest =>
    if hop.key = key then { hop with rerouted := true } :: rest
    else hop :: markRerouted key rest

/-- Try a failed hop once through a different neighbour. -/
def rerouteHop (node : Node) (hop : HopPending) (now : Nat) : Node :=
  if hop.rerouted then node
  else
    match (node.nextHopFor hop.packet.header.dst now).filter (fun alt => alt != hop.nextHop) with
    | none => node
    | some alt =>
      let packet := { hop.packet with header := { hop.packet.header with nextHop := alt.short } }
      let tracked := node.trackHop packet alt now hop.isRelay
      let marked := { tracked with hopPending := markRerouted packet.header.key tracked.hopPending }
      (marked.enqueuePacket packet now Priority.data hop.isRelay).1

/-- A hop was not confirmed in time: doubt the link or the route, then reroute. -/
def failHop (node : Node) (index : Nat) (hop : HopPending) (now : Nat) : Node :=
  let removed := { node with hopPending := node.hopPending.eraseIdx index }
  let failed := removed.neighbors.recordFailure hop.nextHop
  let counted := { removed with neighbors := failed.1 }
  let doubted := if failed.2 then
      let lost := counted.routes.invalidateVia hop.nextHop
      (lost.2.map NodeEvent.routeLost).foldl emit { counted with routes := lost.1 }
    else
      { counted with
        routes := (counted.routes.markFailure hop.packet.header.dst hop.nextHop).1 }
  doubted.rerouteHop hop now

/-- Retransmit a packet to its next hop. -/
def retransmitHop (node : Node) (index : Nat) (hop : HopPending) (now : Nat) : Node :=
  let drawn := node.rng.nextU64
  let jitter := drawn.2 % 300
  let due := now + node.hopTimeout hop.packet.wireLen + jitter
  let repeated := { hop with attempts := hop.attempts + 1, due := due }
  ({ node with
      rng := drawn.1
      neighbors := node.neighbors.modify hop.nextHop Neighbor.recordTxAttempt
      hopPending := node.hopPending.set index repeated }.enqueuePacket hop.packet (now + jitter)
    Priority.data hop.isRelay).1

/-- Walk the pending hops. A failed hop may append its rerouted copy, which is visited
too and never rerouted again, hence twice the number of hops bounds the walk. -/
def hopLoop (now : Nat) : Nat → Nat → Node → Node
  | 0, _, node => node
  | fuel + 1, index, node =>
    match node.hopPending[index]? with
    | none => node
    | some hop =>
      if hop.due > now then hopLoop now fuel (index + 1) node
      else if hop.attempts > node.cfg.hopRetries then
        hopLoop now fuel index (node.failHop index hop now)
      else hopLoop now fuel (index + 1) (node.retransmitHop index hop now)

def pollHops (node : Node) (now : Nat) : Node :=
  hopLoop now (2 * node.hopPending.length + 1) 0 node

def pollReplies (node : Node) (now : Nat) : Node :=
  let due := node.rrepPending.due now
  due.2.foldl (routeParked now) { node with rrepPending := due.1 }

def repeatRequest (now : Nat) (node : Node) (retry : Address × UInt32 × UInt8) : Node :=
  node.sendRouteRequest retry.1 retry.2.1 retry.2.2 now

def giveUpDiscovery (now : Nat) (node : Node) (failure : Address × List Packet) : Node :=
  node.onDiscoveryFailed failure.1 failure.2 now

def pollDiscovery (node : Node) (now : Nat) : Node :=
  let ticked := node.ierp.tick now node.rng
  let repeated := ticked.retries.foldl (repeatRequest now)
    { node with ierp := ticked.ierp, rng := ticked.rng }
  ticked.failures.foldl (giveUpDiscovery now) repeated

def retryOne (now : Nat) (node : Node) (message : Outstanding) : Node :=
  node.retryOutstanding message now

/-- Report a message whose attempts are exhausted; a stored one was reported before. -/
def reportExhausted (node : Node) (message : Outstanding) : Node :=
  if message.stored then node
  else
    { node with routes := (node.routes.markFailure message.dst message.dst).1 }.emit
      (.failed message.handle message.dst .noAck)

def pollTransport (node : Node) (now : Nat) : Node :=
  let ticked := node.transport.tick now node.rng
  let retried := ticked.2.retry.foldl (retryOne now)
    { node with transport := ticked.1, rng := ticked.2.rng }
  ticked.2.failed.foldl reportExhausted retried

/-- Whether the first handshake message is due again. -/
def resendsHandshake (node : Node) (now : Nat) (entry : Address × PendingHandshake) : Bool :=
  !entry.2.m1.isEmpty && entry.2.attempts < 3 && !node.ierp.isPending entry.1 &&
    now - entry.2.startedAt > node.cfg.handshakeTimeoutMs / 3 * entry.2.attempts

def resendHandshake (now : Nat) (node : Node) (entry : Address × Bytes) : Node :=
  { node with handshakes := node.handshakes.modify entry.1 (fun pending =>
      { pending with attempts := pending.attempts + 1 }) }.sendHandshakePacket entry.1 .one
    entry.2 now

def pollHandshakeResend (node : Node) (now : Nat) : Node :=
  ((node.handshakes.entries.filter (node.resendsHandshake now)).map (fun entry =>
    (entry.1, entry.2.m1))).foldl (resendHandshake now) node

/-- How long a handshake may take: longer with a sleeping peer, twice as long for a
responder. -/
def handshakeBudget (node : Node) (entry : Address × PendingHandshake) : Nat :=
  let timeout := node.cfg.handshakeTimeoutMs
  let base := match node.neighbors.get entry.1 with
    | some neighbor =>
      if neighbor.isLeaf && neighbor.sleepIntervalS > 0 then
        neighbor.sleepIntervalS.toNat * 1000 * 2 + timeout
      else timeout
    | none => timeout
  base * if entry.2.hs.role = .responder then 2 else 1

def handshakeExpired (node : Node) (now : Nat) (entry : Address × PendingHandshake) : Bool :=
  now - entry.2.startedAt > node.handshakeBudget entry

/-- Drop a handshake that took too long and report its sends. -/
def expireHandshake (node : Node) (peer : Address) : Node :=
  match node.handshakes.get peer with
  | none => node
  | some pending =>
    (pending.queued.map (fun send => NodeEvent.failed send.handle send.dst .noSession)).foldl emit
      { node with handshakes := node.handshakes.remove peer }

def pollHandshakeExpire (node : Node) (now : Nat) : Node :=
  ((node.handshakes.entries.filter (node.handshakeExpired now)).map Prod.fst).foldl
    expireHandshake node

def expireTrace (node : Node) (dst : Address) : Node :=
  { node with pendingTraces := node.pendingTraces.filter (fun trace => trace.1 != dst) }.emit
    (.traceResult dst false [] 0)

def pollTraces (node : Node) (now : Nat) : Node :=
  ((node.pendingTraces.filter (fun trace => now - trace.2 > 30000)).map Prod.fst).foldl
    expireTrace node

def onNeighborLost (node : Node) (addr : Address) : Node :=
  let announced := node.emit (.neighborDown addr)
  let unlinked := { announced with zone := announced.zone.removeVia addr }
  let lost := unlinked.routes.invalidateVia addr
  let reported := (lost.2.map NodeEvent.routeLost).foldl emit { unlinked with routes := lost.1 }
  if reported.attachedAnchor = some addr then { reported with attachedAnchor := none }
  else reported

/-- Drop what is too old in the caches. -/
def expireCaches (node : Node) (now : Nat) : Node :=
  { node with
    lastHousekeeping := now
    seen := node.seen.expire now
    ierp := node.ierp.expire now
    routes := node.routes.expire now
    zone := node.zone.expire now
    reassembler := node.reassembler.expire now }

/-- Drop silent neighbours, unless we just woke up and could not hear anybody. -/
def expireNeighbors (node : Node) (now : Nat) : Node :=
  if node.cfg.role = .leaf ∧ now - node.lastWake < node.neighbors.timeoutMs then node
  else
    let expired := node.neighbors.expire now
    expired.2.foldl onNeighborLost { node with neighbors := expired.1 }

def expireSessions (node : Node) (now : Nat) : Node :=
  ((node.sessions.entries.filter (fun entry => entry.2.isExpired now node.cfg.session)).map
    Prod.fst).foldl dropSession node

/-- Begin to replace the keys of a session. -/
def rekeySession (now : Nat) (node : Node) (peer : Address) : Node :=
  { node with sessions := node.sessions.modify peer (fun session =>
      { session with rekeyInProgress := true }) }.startHandshake peer now

def rekeySessions (node : Node) (now : Nat) : Node :=
  ((node.sessions.entries.filter (fun entry => entry.2.needsRekey now node.cfg.session)).map
    Prod.fst).foldl (rekeySession now) node

/-- The destinations of envelopes that still wait for a key, each once. -/
def wantedKeys (node : Node) : List Address :=
  node.pendingEnvelopes.foldl (fun wanted pending =>
    if !node.keyDir.contains pending.dst && !wanted.contains pending.dst then
      wanted ++ [pending.dst]
    else wanted) []

def discoverKey (now : Nat) (node : Node) (dst : Address) : Node :=
  if node.ierp.mayStart dst now then node.startDiscovery dst none now else node

/-- Ask again for the keys that envelopes wait for. -/
def discoverKeys (node : Node) (now : Nat) : Node := node.wantedKeys.foldl (discoverKey now) node

/-- Give up on envelopes that waited too long for a key. -/
def expireEnvelopes (node : Node) (now : Nat) : Node :=
  ((node.pendingEnvelopes.filter (fun pending => now - pending.queuedAt > 180000)).map
    (fun pending => NodeEvent.failed pending.handle pending.dst .noKey)).foldl emit
    { node with pendingEnvelopes := node.pendingEnvelopes.filter (fun pending =>
        now - pending.queuedAt ≤ 180000) }

/-- Hand the mail of a node that moved to its current host. -/
def handOver (node : Node) (host dst : Address) (now : Nat) : Node :=
  match node.mailbox with
  | none => node
  | some mailbox =>
    let taken := mailbox.takeDeliverable dst now 2
    taken.2.foldl (fun sent item => sent.sendStore host dst item.1 item.2 now)
      (node.withMailbox taken.1)

/-- Deliver or hand over the mail of one destination. -/
def serveDestination (now : Nat) (node : Node) (dst : Address) : Node :=
  if node.isAwakeNeighbor dst now then node.flushMailboxTo dst now
  else if node.neighbors.contains dst then node
  else
    match (node.zone.anchorFor dst).filter (fun host => host != node.address) with
    | some host => node.handOver host dst now
    | none => node

def serveMailbox (node : Node) (now : Nat) : Node :=
  match node.mailbox with
  | none => node
  | some mailbox =>
    let collected := mailbox.gc now
    collected.destinations.foldl (serveDestination now) (node.withMailbox collected)

/-- Decay the airtime heard and drop held packets and frames that waited too long. -/
def expireQueues (node : Node) (now : Nat) : Node :=
  { node with
    rxAirtimeMs := node.rxAirtimeMs - (node.rxAirtimeMs / 64 + 1)
    heldForSleeping := node.heldForSleeping.filter (fun held => held.expires > now)
    txQueue := node.txQueue.filter (fun item => now - item.notBefore < 60000) }

/-- The part of a housekeeping pass up to and including the rekeying of sessions. -/
def housekeepingSessions (node : Node) (now : Nat) : Node :=
  ((((node.expireCaches now).expireNeighbors now).expireSessions now).rekeySessions now)

/-- The part of a housekeeping pass before the mail is served. -/
def housekeepingEarly (node : Node) (now : Nat) : Node :=
  ((node.housekeepingSessions now).discoverKeys now).expireEnvelopes now

def housekeeping (node : Node) (now : Nat) : Node :=
  ((node.housekeepingEarly now).serveMailbox now).expireQueues now

/-- The timers that run before the reliability timers. -/
def pollRadio (node : Node) (now : Nat) : Node :=
  ((((node.pollBeacon now).pollFetch now).pollRelays now).pollHops now).pollReplies now

/-- The handshake and trace timers. -/
def pollLate (node : Node) (now : Nat) : Node :=
  ((node.pollHandshakeResend now).pollHandshakeExpire now).pollTraces now

/-- The timers of a node that is awake, without housekeeping. -/
def pollTimers (node : Node) (now : Nat) : Node :=
  (((node.pollRadio now).pollDiscovery now).pollTransport now).pollLate now

/-- The timers of a node that is awake; housekeeping runs at most once a second. -/
def pollAwake (node : Node) (now : Nat) : Node :=
  let timed := node.pollTimers now
  if now - timed.lastHousekeeping ≥ 1000 then timed.housekeeping now else timed

/-- The node after the time advanced and it woke up or fell asleep. -/
def powered (node : Node) (time : Nat) : Node :=
  { node with now := max node.now time }.pollPower (max node.now time)

/-- Advance all timers. -/
def poll (node : Node) (time : Nat) : Node :=
  let powered := node.powered time
  if !powered.power.awake then powered else powered.pollAwake (max node.now time)

/-- Broadcast to the whole mesh, group encrypted if a network key is set. -/
def sendBroadcast (node : Node) (payload : Bytes) : Node × Except Error UInt32 :=
  let handled := node.newHandle
  let based := handled.1.baseHeader .data Address.broadcast handled.1.cfg.defaultTtl
  let sequenced := based.1.transport.nextSeq
  let numbered := { based.1 with transport := sequenced.1 }
  let header := { based.2 with seq := sequenced.2 }
  let prepared := match numbered.cfg.networkKey with
    | some network =>
      let marked := header.set Flags.groupEncrypted true
      (marked, groupEncrypt network.groupKey numbered.address marked.packetId (marked.aad 0)
        payload)
    | none => (header, payload)
  if prepared.2.length > maxPayload (prepared.1.has Flags.netAuth) then
    (numbered, .error .tooLarge)
  else
    ((numbered.enqueuePacket ⟨prepared.1, prepared.2⟩ numbered.now Priority.data false).1,
      .ok handled.2)

/-- Send a payload. Returns the handle used in later events. -/
def sendMessage (node : Node) (dst : Address) (payload : Bytes) (reliability : Reliability) :
    Node × Except Error UInt32 :=
  if dst.isNull || dst == node.address then (node, .error .badField)
  else if payload.length > 2048 then (node, .error .tooLarge)
  else if dst.isBroadcast then node.sendBroadcast payload
  else
    let handled := node.newHandle
    let now := node.now
    match reliability with
    | .storeAndForward => (handled.1.queueEnvelope dst payload handled.2 now, .ok handled.2)
    | _ => (handled.1.sendOrQueue ⟨dst, payload, reliability, handled.2, now⟩ now, .ok handled.2)

/-- Start a route trace. -/
def trace (node : Node) (dst : Address) : Node × Except Error Unit :=
  if dst = node.address ∨ dst.isBroadcast then (node, .error .badField)
  else if node.pendingTraces.length ≥ 4 then (node, .error .full)
  else
    let based := node.baseHeader .control dst (node.ttlFor dst)
    let others := based.1.pendingTraces.filter (fun other => other.1 != dst)
    let started := { based.1 with pendingTraces := others ++ [(dst, node.now)] }
    started.routeUnicast ⟨based.2, [Control.traceReq]⟩ node.now

/-- Register a public identity out of band. -/
def addKnownIdentity (node : Node) (identity : PublicIdentity) : Node :=
  { node with keyDir := node.keyDir.insert identity.address identity }

/-- Next application event. -/
def nextEvent (node : Node) : Node × Option NodeEvent :=
  ({ node with events := node.events.tail }, node.events.head?)

/-- Whether a frame is more urgent than another. -/
def moreUrgent (item other : TxItem) : Bool :=
  item.priority < other.priority ||
    (item.priority == other.priority && item.notBefore < other.notBefore)

/-- The position of the most urgent eligible frame; the first of equals. -/
def bestTx (queue : List TxItem) (now : Nat) : Option (TxItem × Nat) :=
  (queue.zipIdx.filter (fun entry => entry.1.notBefore ≤ now)).foldl
    (fun best entry => match best with
      | none => some entry
      | some current => if moreUrgent entry.1 current.1 then some entry else some current) none

/-- Next frame ready for the radio, within the duty cycle. -/
def nextTx (node : Node) (now : Nat) : Node × Option TxItem :=
  let timed := { node with now := max node.now now }
  if !timed.power.awake then (timed, none)
  else
    match bestTx timed.txQueue now with
    | none => (timed, none)
    | some (item, index) =>
      let airtime := timed.cfg.profile.airtimeMs item.frame.length
      let allowed := timed.power.canTransmit now airtime
      if !allowed.2 then ({ timed with power := allowed.1 }, none)
      else
        ({ timed with
            txQueue := timed.txQueue.eraseIdx index
            power := allowed.1.recordTx now airtime }, some item)

/-- What the environment may do to a node. -/
inductive Operation where
  | receive (frame : Bytes) (rxMeta : RxMeta)
  | poll (now : Nat)
  | sendMessage (dst : Address) (payload : Bytes) (reliability : Reliability)
  | sendBroadcast (payload : Bytes)
  | trace (dst : Address)
  | closeSession (peer : Address)
  | addKnownIdentity (identity : PublicIdentity)
  | editRoutes (routes : RouteCache)
  | diagnostics
  | nextTx (now : Nat)
  | nextEvent

/-- The state after an operation. -/
def step (node : Node) : Operation → Node
  | .receive frame rxMeta => node.onRadioRx frame rxMeta
  | .poll now => node.poll now
  | .sendMessage dst payload reliability => (node.sendMessage dst payload reliability).1
  | .sendBroadcast payload => (node.sendBroadcast payload).1
  | .trace dst => (node.trace dst).1
  | .closeSession peer => node.closeSession peer
  | .addKnownIdentity identity => node.addKnownIdentity identity
  | .editRoutes routes => { node with routes := routes }
  | .diagnostics => node.congestion.1
  | .nextTx now => (node.nextTx now).1
  | .nextEvent => node.nextEvent.1

/-- A run whose every step meets a condition on the state before it. -/
inductive Run (allowed : Node → Operation → Prop) (start : Node) : Node → Prop where
  | refl : Run allowed start start
  | step {node : Node} (operation : Operation) (earlier : Run allowed start node)
      (permitted : allowed node operation) : Run allowed start (node.step operation)

/-- Any sequence of operations. -/
def Unrestricted (_ : Node) (_ : Operation) : Prop := True

/-- A property that holds at the start and is kept by every permitted step holds in every
state of a run. -/
theorem Run.invariant {allowed : Node → Operation → Prop} {start node : Node}
    (property : Node → Prop) (run : Run allowed start node) (initially : property start)
    (kept : ∀ before operation, allowed before operation → property before →
      property (before.step operation)) : property node := by
  induction run with
  | refl => exact initially
  | step operation earlier permitted ih =>
    exact kept _ operation permitted ih

/-- A condition holds at every step of a sequence of operations. -/
def Throughout (condition : Node → Operation → Prop) : Node → List Operation → Prop
  | _, [] => True
  | node, operation :: rest =>
    condition node operation ∧ Throughout condition (node.step operation) rest

/-- What follows from a condition at one step follows at every step of a sequence. -/
theorem Throughout.imp {condition conclusion : Node → Operation → Prop}
    (each : ∀ node operation, condition node operation → conclusion node operation) {node : Node}
    {operations : List Operation} (holds : Throughout condition node operations) :
    Throughout conclusion node operations := by
  induction operations generalizing node with
  | nil => trivial
  | cons operation rest ih =>
    exact ⟨each node operation holds.1, ih holds.2⟩

end Node

end MeshStar

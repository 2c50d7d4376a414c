import MeshStar.Node.Secure

/-!
# Session establishment

The three handshake messages on both sides, the installation of a session and the
sends that were waiting for it, and the reset of a session the peer does not know.
-/

namespace MeshStar

variable [Primitives]

namespace Node

/-- Install a verified session. -/
def installSession (node : Node) (peer : Address) (epoch : UInt8) (keys : TransportKeys)
    (remote : PublicIdentity) (now : Nat) : Node :=
  let installed := { node with
    keyDir := node.keyDir.insert peer remote
    sessions := node.sessions.insert peer (Session.new remote epoch keys now) }
  let sent := (installed.emit (.sessionEstablished peer)).tryPendingEnvelopes peer now
  let hosts : Bool := match sent.neighbors.get peer with
    | some neighbor => neighbor.role.relays
    | none => false
  if sent.cfg.role = .leaf ∧ sent.attachedAnchor.isNone ∧ hosts then
    { sent with attachedAnchor := some peer }
  else sent

/-- Issue one send that was waiting for a session. -/
def drainOne (peer : Address) (now : Nat) (node : Node) (send : QueuedSend) : Node :=
  if send.handle = 0 ∧ send.payload.isEmpty then node.sendSequenced peer .fetch [8] now
  else if send.handle = queuedStore then node.sendSequenced peer .store send.payload now
  else if send.handle = queuedControl then
    match send.payload with
    | sub :: body => node.sendControl peer sub body now
    | [] => node
  else if send.reliability = .storeAndForward then
    node.queueEnvelope send.dst send.payload send.handle now
  else node.sendDataInSession send now

def drainQueued (node : Node) (peer : Address) (queued : List QueuedSend) (now : Nat) : Node :=
  queued.foldl (drainOne peer now) node

/-- Replace whatever handshake is pending with a peer by a fresh one as responder, keeping
the sends behind it. The old one is gone even if the message cannot be answered. -/
def restartHandshake (node : Node) (peer : Address) (message : Bytes) (queued : List QueuedSend)
    (now : Nat) : Node × Option Bytes :=
  let created := HandshakeXX.new .responder node.id (prologue peer node.address) node.rng
  let cleared := { node with
    rng := created.1
    handshakes := node.handshakes.remove peer }
  match HandshakeXX.run (HandshakeXX.readMessage1 message) created.2 with
  | (_, .error _) => (cleared, none)
  | (read, .ok payload) =>
    match HandshakeXX.run (HandshakeXX.writeMessage2 [node.cfg.role.toU8]) read with
    | (_, .error _) => (cleared, none)
    | (hs, .ok m2) =>
      let pending : PendingHandshake :=
        ⟨hs, now, byteAt payload 1, queued, 1, [], FixedBytes.ofSlice 32 message, m2⟩
      ({ cleared with handshakes := cleared.handshakes.insert peer pending }, some m2)

/-- Responder side of the first message. Returns the second message to send back. -/
def responderStart (node : Node) (peer : Address) (message : Bytes) (now : Nat) :
    Node × Option Bytes :=
  if message.length < 32 then (node, none)
  else
    match node.handshakes.get peer with
    | none => node.restartHandshake peer message [] now
    | some pending =>
      if pending.hs.role = .initiator then
        -- Simultaneous open: the lower address keeps its handshake.
        if node.address.value < peer.value then (node, none)
        else node.restartHandshake peer message pending.queued now
      else if pending.re = FixedBytes.ofSlice 32 message then (node, some pending.m2)
      else node.restartHandshake peer message pending.queued now

/-- Complete a handshake whose remote identity has been checked, and send what waited. -/
def finishHandshake (node : Node) (peer : Address) (pending : PendingHandshake) (m3 : Option Bytes)
    (now : Nat) : Node × Bool :=
  let removed := { node with handshakes := node.handshakes.remove peer }
  match pending.hs.finish with
  | .error _ => (removed, false)
  | .ok (keys, remote) =>
    let announced := match m3 with
      | some message => removed.sendHandshakePacket peer .three message now
      | none => removed
    let installed := announced.installSession peer pending.epoch keys remote now
    let kept := match m3 with
      | some message =>
        { installed with sessions := installed.sessions.modify peer (fun session =>
            { session with m3 := some message }) }
      | none => installed
    (kept.drainQueued peer pending.queued now, true)

/-- Initiator side of the second message: sends the third and installs the session. -/
def initiatorContinue (node : Node) (peer : Address) (message : Bytes) (now : Nat) : Node × Bool :=
  match node.handshakes.get peer with
  | none => (node, false)
  | some pending =>
    if pending.hs.role ≠ .initiator then (node, false)
    else
      match HandshakeXX.run (HandshakeXX.readMessage2 message) pending.hs with
      | (hs, .error _) =>
        ({ node with handshakes := node.handshakes.insert peer { pending with hs := hs } }, false)
      | (read, .ok _) =>
        if read.remote.map PublicIdentity.address ≠ some peer then
          ({ node with handshakes := node.handshakes.remove peer }, false)
        else
          match HandshakeXX.run (HandshakeXX.writeMessage3 [node.cfg.role.toU8]) read with
          | (hs, .error _) =>
            ({ node with handshakes := node.handshakes.insert peer { pending with hs := hs } },
              false)
          | (hs, .ok m3) => node.finishHandshake peer { pending with hs := hs } (some m3) now

/-- Responder side of the third message. -/
def responderFinish (node : Node) (peer : Address) (message : Bytes) (now : Nat) : Node :=
  match node.handshakes.get peer with
  | none => node
  | some pending =>
    if pending.hs.role ≠ .responder then node
    else
      match HandshakeXX.run (HandshakeXX.readMessage3 message) pending.hs with
      | (hs, .error _) =>
        { node with handshakes := node.handshakes.insert peer { pending with hs := hs } }
      | (hs, .ok _) =>
        if hs.remote.map PublicIdentity.address ≠ some peer then
          { node with handshakes := node.handshakes.remove peer }
        else (node.finishHandshake peer { pending with hs := hs } none now).1

def handleHandshake (node : Node) (packet : Packet) (now : Nat) : Node :=
  let peer := packet.header.src
  match packet.payload with
  | [] => node
  | number :: message =>
    match HandshakeMessage.fromU8 number with
    | none => node
    | some .one =>
      match node.responderStart peer message now with
      | (started, some m2) => started.sendHandshakePacket peer .two m2 now
      | (started, none) => started
    | some .two => (node.initiatorContinue peer message now).1
    | some .three => node.responderFinish peer message now

/-- Drop a session and forget the peer's receive window. -/
def dropSession (node : Node) (peer : Address) : Node :=
  { node with
    sessions := node.sessions.remove peer
    transport := node.transport.resetPeer peer }.emit (.sessionClosed peer)

/-- Queue a message again that was in flight in a dropped session. -/
def requeue (peer : Address) (now : Nat) (node : Node) (message : Outstanding) : Node :=
  if message.reliability = .storeAndForward then node
  else node.sendOrQueue ⟨peer, message.body, message.reliability, message.handle, now⟩ now

/-- Start over with a peer that will never accept the session. -/
def resetSession (node : Node) (peer : Address) (now : Nat) : Node :=
  let dropped := node.dropSession peer
  let given := dropped.transport.failAllTo peer
  given.2.foldl (requeue peer now) { dropped with transport := given.1 }

/-- The peer says it has no session with us: repeat the third message of a young session,
or drop the session and queue what was in flight behind a new handshake. -/
def onNoSessionNotice (node : Node) (peer : Address) (now : Nat) : Node :=
  match node.sessions.get peer with
  | none => node
  | some session =>
    let canResend := session.m3Resends < 3 ∧
      now - session.establishedAt ≤ node.cfg.handshakeTimeoutMs
    match session.m3 with
    | some m3 =>
      if canResend then
        let counted := { session with m3Resends := session.m3Resends + 1 }
        { node with sessions := node.sessions.insert peer counted }.sendHandshakePacket peer .three
          m3 now
      else node.resetSession peer now
    | none => node.resetSession peer now

/-- Close a session explicitly, telling the peer. -/
def closeSession (node : Node) (peer : Address) : Node :=
  if node.sessions.contains peer then
    (node.sendControl peer Control.sessionClose [] node.now).dropSession peer
  else node

end Node

end MeshStar

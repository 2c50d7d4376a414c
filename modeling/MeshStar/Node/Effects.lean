import MeshStar.Library.Trail
import MeshStar.Node.Bearings

/-!
# What a node can do to its state

The state of a node is described in two parts. The `Core` holds what the protocol
promises are about: sessions, handshakes, keys, tracked messages, mail, events. The
`Radio` part holds what is queued for transmission or waits for it. Every function of
the engine is a trail of effects, each of which either leaves the core alone and keeps
the forwarding law on the radio side, or changes the core in one named way and leaves
the radio side alone. Two effects are named for what they do to the node's surroundings;
every other effect leaves the bearings alone. The named ways are all there are; every
invariant of the node is proved effect by effect.
-/

namespace MeshStar

variable [Primitives]

/-- The part of the state the protocol's promises are about. -/
structure Core where
  address : Address
  sessions : OrderedMap Address Session
  handshakes : OrderedMap Address PendingHandshake
  keyDir : OrderedMap Address PublicIdentity
  pendingEnvelopes : List PendingEnvelope
  events : List NodeEvent
  outstanding : List Outstanding
  mailbox : Option Mailbox
  deposits : List Deposit

/-- The part of the state a packet passes on its way to the radio. -/
structure Radio where
  queued : List Packet
  received : List Packet
  txQueue : List TxItem
  hopPending : List HopPending
  scheduled : List PendingRelay
  parked : OrderedMap Address Discovery
  held : List HeldPacket
  replies : List PendingReply

namespace Node

def core (node : Node) : Core :=
  { address := node.address
    sessions := node.sessions
    handshakes := node.handshakes
    keyDir := node.keyDir
    pendingEnvelopes := node.pendingEnvelopes
    events := node.events
    outstanding := node.transport.outstanding
    mailbox := node.mailbox
    deposits := node.history.deposits }

def radio (node : Node) : Radio :=
  { queued := node.history.queued
    received := node.history.received
    txQueue := node.txQueue
    hopPending := node.hopPending
    scheduled := node.sched.pending
    parked := node.ierp.pending
    held := node.heldForSleeping
    replies := node.rrepPending.items }

end Node

/-- A header one hop further than a received one: one less to live, one more hop, every
field but next hop and relay unchanged. -/
structure Header.OneHopOn (received sent : Header) : Prop where
  ptype : sent.ptype = received.ptype
  flags : sent.flags = received.flags
  ttl : sent.ttl.toNat + 1 = received.ttl.toNat
  hops : sent.hops.toNat = received.hops.toNat + 1
  src : sent.src = received.src
  dst : sent.dst = received.dst
  packetId : sent.packetId = received.packetId
  seq : sent.seq = received.seq

/-- A packet on its way through a node: one it received, one hop further. -/
def Passing (received : List Packet) (header : Header) : Prop :=
  ∃ packet ∈ received, packet.header.OneHopOn header

/-- A packet a node may transmit: its own, or a passing one under its own relay id. -/
def MaySend (received : List Packet) (me : Address) (header : Header) : Prop :=
  header.src = me ∨ Passing received header ∧ header.relay = me.short

/-- The forwarding law of a node in zone routing mode that holds nothing for a sleeping
neighbour and parks no foreign packet. -/
structure Radio.Lawful (radio : Radio) (cfg : NodeConfig) (me : Address) : Prop where
  mode : cfg.routingMode = .zrp
  received : ∀ packet ∈ radio.received,
    packet.header.src ≠ me ∧ packet.header.hops.toNat + packet.header.ttl.toNat ≤ 255
  queued : ∀ packet ∈ radio.queued, MaySend radio.received me packet.header
  transmitted : ∀ item ∈ radio.txQueue, ∃ packet ∈ radio.queued,
    packet.encode cfg.networkKey = .ok item.frame
  hops : ∀ hop ∈ radio.hopPending, MaySend radio.received me hop.packet.header
  scheduled : ∀ relay ∈ radio.scheduled, Passing radio.received relay.packet.header
  parked : ∀ packet, Ierp.Parks radio.parked packet → packet.header.src = me
  held : radio.held = []
  replies : ∀ reply ∈ radio.replies, reply.packet.header.src = me

/-- The forwarding law holds for a node. -/
def Node.Lawful (node : Node) : Prop := node.radio.Lawful node.cfg node.address

/-- What the forwarding law is about. -/
def Node.setting (node : Node) : NodeConfig × Identity × Radio := (node.cfg, node.id, node.radio)

theorem Node.setting_parts {before after : Node} (same : after.setting = before.setting) :
    after.cfg = before.cfg ∧ after.id = before.id ∧
      after.history.received = before.history.received ∧ (before.Lawful → after.Lawful) := by
  obtain ⟨cfg, rest⟩ := Prod.mk.inj same
  obtain ⟨id, radio⟩ := Prod.mk.inj rest
  refine ⟨cfg, id, congrArg Radio.received radio, fun lawful => ?_⟩
  unfold Node.Lawful
  rw [radio, cfg, Node.address, id]
  exact lawful

/-- The names of the effects. -/
inductive Effect where
  | silent
  | report
  | advance
  | close
  | install
  | rekey
  | contact
  | answer
  | adjust
  | enlist
  | abandon
  | dismiss
  | learn
  | envelopes
  | track
  | shelter
  | confirm
  | settle
  | lose
  | retime
  | deposit
  | attempt
  | collect
  | discard
  | record
  | consume
  | reroute
  | survey
  deriving DecidableEq, Repr

namespace Core

/-- The event queue after an event. -/
def pushEvent (events : List NodeEvent) (event : NodeEvent) : List NodeEvent :=
  if events.length < 256 then events ++ [event] else events

/-- The sends waiting behind the handshake with a peer. -/
def queueOf (core : Core) (peer : Address) : List QueuedSend :=
  match core.handshakes.get peer with
  | some pending => pending.queued
  | none => []

end Core

/-- Whether an event tells the application what became of a message. -/
def NodeEvent.concludes (handle : UInt32) : NodeEvent → Bool
  | .delivered other _ _ => other == handle
  | .failed other _ _ => other == handle
  | _ => false

/-- The same message, up to its timers and to whether a host keeps it. -/
structure Outstanding.SameMessage (one other : Outstanding) : Prop where
  dst : one.dst = other.dst
  seq : one.seq = other.seq
  handle : one.handle = other.handle
  reliability : one.reliability = other.reliability
  body : one.body = other.body
  envelopeId : one.envelopeId = other.envelopeId

/-- The reports of the sends behind a handshake that took too long. -/
def PendingHandshake.reports (pending : PendingHandshake) : List NodeEvent :=
  pending.queued.map (fun send => .failed send.handle send.dst .noSession)

/-- What each effect may change in the core. -/
inductive CoreStep : Effect → Core → Core → Prop where
  | silent (core : Core) : CoreStep .silent core core
  | report (core : Core) (event : NodeEvent) :
      CoreStep .report core { core with events := Core.pushEvent core.events event }
  | advance (core : Core) (peer : Address) (session advanced : Session)
      (present : core.sessions.get peer = some session) (samePeer : advanced.peer = session.peer)
      (sameFlag : advanced.rekeyInProgress = session.rekeyInProgress) :
      CoreStep .advance core { core with sessions := core.sessions.insert peer advanced }
  | close (core : Core) (peer : Address) :
      CoreStep .close core { core with sessions := core.sessions.remove peer }
  | install (core : Core) (peer : Address) (remote : PublicIdentity) (epoch : UInt8)
      (keys : TransportKeys) (now : Nat) (bound : remote.address = peer)
      (foreign : peer ≠ core.address) :
      CoreStep .install core { core with
        sessions := core.sessions.insert peer (Session.new remote epoch keys now)
        keyDir := core.keyDir.insert peer remote
        handshakes := core.handshakes.remove peer }
  | rekey (core : Core) (peer : Address) (handshakes : OrderedMap Address PendingHandshake)
      (started : (handshakes = core.handshakes ∧
          (core.handshakes.contains peer = true ∨ peer = core.address)) ∨
        ∃ pending, pending.queued = [] ∧ core.handshakes.get peer = none ∧
          handshakes = core.handshakes.insert peer pending) :
      CoreStep .rekey core { core with
        sessions := core.sessions.modify peer (fun session =>
          { session with rekeyInProgress := true })
        handshakes := handshakes }
  | contact (core : Core) (peer : Address) (pending : PendingHandshake)
      (absent : core.handshakes.get peer = none) (emptyQueue : pending.queued = []) :
      CoreStep .contact core { core with handshakes := core.handshakes.insert peer pending }
  | answer (core : Core) (peer : Address) (pending : PendingHandshake)
      (sameQueue : pending.queued = core.queueOf peer) :
      CoreStep .answer core { core with handshakes := core.handshakes.insert peer pending }
  | adjust (core : Core) (change : Address → PendingHandshake → PendingHandshake)
      (sameQueue : ∀ peer pending, (change peer pending).queued = pending.queued) :
      CoreStep .adjust core { core with handshakes := core.handshakes.mapValues change }
  | enlist (core : Core) (peer : Address) (send : QueuedSend) :
      CoreStep .enlist core { core with handshakes := core.handshakes.modify peer (fun pending =>
        { pending with queued := pending.queued ++ [send] }) }
  | abandon (core : Core) (peer : Address) :
      CoreStep .abandon core { core with handshakes := core.handshakes.remove peer }
  | dismiss (core : Core) (peer : Address) (pending : PendingHandshake)
      (present : core.handshakes.get peer = some pending) :
      CoreStep .dismiss core { core with
        handshakes := core.handshakes.remove peer
        events := pending.reports.foldl Core.pushEvent core.events }
  | learn (core : Core) (addr : Address) (identity : PublicIdentity)
      (bound : identity.address = addr) :
      CoreStep .learn core { core with keyDir := core.keyDir.insert addr identity }
  | envelopes (core : Core) (waiting : List PendingEnvelope) :
      CoreStep .envelopes core { core with pendingEnvelopes := waiting }
  | track (core : Core) (message : Outstanding) :
      CoreStep .track core { core with outstanding := core.outstanding ++ [message] }
  | shelter (core : Core) (mailbox stored : Mailbox) (now : Nat) (depositor : Address)
      (request : StoreRequest) (present : core.mailbox = some mailbox)
      (accepted : mailbox.store now depositor request = (stored, .ok ())) :
      CoreStep .shelter core { core with
        mailbox := some stored
        outstanding := Transport.updateFirst (Transport.inEnvelope request.envelopeId)
          core.outstanding }
  | confirm (core : Core) (test : Outstanding → Bool) :
      CoreStep .confirm core { core with
        outstanding := Transport.updateFirst test core.outstanding }
  | settle (core : Core) (kept : List Outstanding) (events : List NodeEvent)
      (fewer : kept.Sublist core.outstanding)
      (concluded : ∀ message ∈ core.outstanding, message ∈ kept ∨
        ∃ event ∈ events, event.concludes message.handle = true) :
      CoreStep .settle core { core with
        outstanding := kept
        events := events.foldl Core.pushEvent core.events }
  | lose (core : Core) (kept : List Outstanding) :
      CoreStep .lose core { core with outstanding := kept }
  | retime (core : Core) (change : Outstanding → Outstanding)
      (same : ∀ message, (change message).SameMessage message)
      (sameStored : ∀ message, (change message).stored = message.stored) :
      CoreStep .retime core { core with outstanding := core.outstanding.map change }
  | deposit (core : Core) (mailbox stored : Mailbox) (now : Nat) (depositor : Address)
      (request : StoreRequest) (present : core.mailbox = some mailbox)
      (accepted : mailbox.store now depositor request = (stored, .ok ())) :
      CoreStep .deposit core { core with mailbox := some stored }
  | attempt (core : Core) (mailbox : Mailbox) (dst : Address) (now maximum : Nat)
      (present : core.mailbox = some mailbox) :
      CoreStep .attempt core { core with
        mailbox := some (mailbox.takeDeliverable dst now maximum).1 }
  | collect (core : Core) (mailbox : Mailbox) (now : Nat)
      (present : core.mailbox = some mailbox) :
      CoreStep .collect core { core with mailbox := some (mailbox.gc now) }
  | discard (core : Core) (mailbox : Mailbox) (dst : Address) (envelopeId : UInt32)
      (present : core.mailbox = some mailbox) :
      CoreStep .discard core { core with mailbox := some (mailbox.delivered dst envelopeId).1 }
  | record (core : Core) (deposit : Deposit) :
      CoreStep .record core { core with deposits := core.deposits ++ [deposit] }
  | consume (core : Core) : CoreStep .consume core { core with events := core.events.tail }
  | reroute (core : Core) : CoreStep .reroute core core
  | survey (core : Core) : CoreStep .survey core core

namespace Node

/-- What an effect leaves of the node's surroundings: everything, unless it is one of the two
that change where routes lead or who is around. -/
def KeepsView (before after : Node) : Effect → Prop
  | .survey => True
  | .reroute => after.terrain = before.terrain
  | _ => after.bearings = before.bearings

/-- One effect on a node. `law` is the condition under which it keeps the forwarding law. -/
structure Move (law : Prop) (effect : Effect) (before after : Node) : Prop where
  core : CoreStep effect before.core after.core
  cfg : after.cfg = before.cfg
  id : after.id = before.id
  received : after.history.received = before.history.received
  view : KeepsView before after effect
  lawful : law → before.Lawful → after.Lawful

/-- The node moves through a sequence of effects. -/
abbrev Moves (law : Prop) (effects : List Effect) (before after : Node) : Prop :=
  Trail (Move law) effects before after

/-- A change that leaves the core and the bearings alone and keeps the forwarding law. -/
structure Quiet (law : Prop) (before after : Node) : Prop where
  core : after.core = before.core
  cfg : after.cfg = before.cfg
  id : after.id = before.id
  received : after.history.received = before.history.received
  bearings : after.bearings = before.bearings
  lawful : law → before.Lawful → after.Lawful

namespace Quiet

variable {law : Prop} {before middle after : Node}

theorem refl (node : Node) : Quiet law node node :=
  ⟨rfl, rfl, rfl, rfl, rfl, fun _ lawful => lawful⟩

theorem trans (first : Quiet law before middle) (second : Quiet law middle after) :
    Quiet law before after :=
  { core := second.core.trans first.core
    cfg := second.cfg.trans first.cfg
    id := second.id.trans first.id
    received := second.received.trans first.received
    bearings := second.bearings.trans first.bearings
    lawful := fun holds lawful => second.lawful holds (first.lawful holds lawful) }

/-- A change outside the core and the radio part. -/
theorem outside (core : after.core = before.core) (same : after.setting = before.setting)
    (bearings : after.bearings = before.bearings) : Quiet law before after := by
  obtain ⟨cfg, id, received, lawful⟩ := setting_parts same
  exact ⟨core, cfg, id, received, bearings, fun _ => lawful⟩

/-- A quiet change is a trail of any effects that include the silent one. -/
theorem moves {effects : List Effect} (quiet : Quiet law before after)
    (permitted : Effect.silent ∈ effects) : Moves law effects before after := by
  have move : Move law .silent before after := by
    refine ⟨?_, quiet.cfg, quiet.id, quiet.received, quiet.bearings, quiet.lawful⟩
    rw [quiet.core]
    exact .silent _
  exact .single move permitted

theorem address (quiet : Quiet law before after) : after.address = before.address := by
  rw [Node.address, quiet.id]
  rfl

end Quiet

/-- A loop whose body is quiet wherever the loop quietly got to is quiet. -/
theorem Quiet.foldl {law : Prop} {α : Type} {body : Node → α → Node} (items : List α) (first : Node)
    (each : ∀ node, ∀ item ∈ items, Quiet law first node → Quiet law node (body node item)) :
    Quiet law first (items.foldl body first) := Trail.loop (Quiet law) .refl .trans items first each

/-- A change of the core that leaves the radio part alone. -/
theorem Move.ofCore {law : Prop} {effect : Effect} {before after : Node}
    (core : CoreStep effect before.core after.core) (same : after.setting = before.setting)
    (view : KeepsView before after effect) : Move law effect before after := by
  obtain ⟨cfg, id, received, lawful⟩ := setting_parts same
  exact ⟨core, cfg, id, received, view, fun _ => lawful⟩

namespace Moves

variable {law : Prop} {effects : List Effect} {before after : Node}

theorem ofCore {effect : Effect} (core : CoreStep effect before.core after.core)
    (same : after.setting = before.setting) (view : KeepsView before after effect)
    (permitted : effect ∈ effects) : Moves law effects before after :=
  .single (.ofCore core same view) permitted

variable (moves : Moves law effects before after)

include moves

theorem cfg : after.cfg = before.cfg := moves.unchanged Node.cfg (fun _ _ _ _ move => move.cfg)

theorem id : after.id = before.id := moves.unchanged Node.id (fun _ _ _ _ move => move.id)

theorem address : after.address = before.address := by
  rw [Node.address, moves.id]
  rfl

theorem received : after.history.received = before.history.received :=
  moves.unchanged (fun node => node.history.received) (fun _ _ _ _ move => move.received)

/-- Without its two effects the bearings stay. -/
theorem bearings (spared : Effect.reroute ∉ effects ∧ Effect.survey ∉ effects) :
    after.bearings = before.bearings := by
  apply moves.unchanged Node.bearings
  intro effect member before after move
  have view := move.view
  cases effect with
  | reroute => exact absurd member spared.1
  | survey => exact absurd member spared.2
  | _ => exact view

/-- Rerouting leaves the terrain alone. -/
theorem terrain (spared : Effect.survey ∉ effects) : after.terrain = before.terrain := by
  apply moves.unchanged Node.terrain
  intro effect member before after move
  have view := move.view
  cases effect with
  | survey => exact absurd member spared
  | reroute => exact view
  | _ => exact terrain_of_bearings view

theorem lawful (holds : law) (lawful : before.Lawful) :
    after.Lawful := moves.invariant Node.Lawful lawful (fun _ _ _ _ move => move.lawful holds)

end Moves

/-- A quiet change, except that it may change where routes lead. -/
abbrev Reroutes (law : Prop) (before after : Node) : Prop :=
  Moves law [.silent, .reroute] before after

variable {law : Prop} {before after : Node}

/-- Neither of the two effects touches the core. -/
theorem CoreStep.idle {effect : Effect} {before after : Core}
    (step : CoreStep effect before after) (idle : effect = .silent ∨ effect = .reroute) :
    after = before := by
  cases step with
  | silent | reroute => rfl
  | _ => simp at idle

theorem Reroutes.core (reroutes : Reroutes law before after) : after.core = before.core :=
  reroutes.unchanged Node.core (fun _ member _ _ move =>
    CoreStep.idle move.core (by simpa using member))

theorem Quiet.reroutes (quiet : Quiet law before after) : Reroutes law before after :=
  quiet.moves (by decide)

theorem Reroutes.moves {effects : List Effect} (reroutes : Reroutes law before after)
    (permitted : [Effect.silent, .reroute] ⊆ effects) : Moves law effects before after :=
  reroutes.mono permitted

theorem Reroutes.trans {middle : Node} (first : Reroutes law before middle)
    (second : Quiet law middle after) : Reroutes law before after :=
  Trail.trans first second.reroutes

/-- A change of the routes and what stands beside the core. -/
theorem Reroutes.ofRoutes (core : after.core = before.core)
    (same : after.setting = before.setting) (terrain : after.terrain = before.terrain) :
    Reroutes law before after := by
  have move : Move law .reroute before after := by
    refine Move.ofCore ?_ same terrain
    rw [core]
    exact .reroute _
  exact .single move (by decide)

end Node

end MeshStar

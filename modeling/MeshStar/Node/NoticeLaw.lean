import MeshStar.Node.Accounting

/-!
# What a notice of a missing session can do

The notice is not authenticated. Within the handshake timeout the initiator of a session
answers it with the third handshake message, three times at most; that leaves the session
and the tracked messages alone. Otherwise the session is dropped at the word of anyone,
and what was in flight goes behind a new handshake.
-/

namespace MeshStar

open List

variable [Primitives]

/-- The session after one more repetition of its third handshake message. -/
def Session.resent (session : Session) : Session :=
  { session with m3Resends := session.m3Resends + 1 }

variable {peer : Address}

/-- No effect of queueing messages again brings a session back. -/
theorem CoreStep.session_absent {effect : Effect} {before after : Core}
    (step : CoreStep effect before after) (permitted : effect ∈ Effects.messaging)
    (absent : before.sessions.get peer = none) : after.sessions.get peer = none := by
  cases step with
  | advance _ other session advanced present _ _ =>
    by_cases same : peer = other
    · rw [same, present] at absent
      cases absent
    · exact (OrderedMap.get_insert_of_ne _ advanced same).trans absent
  | close | install | rekey => exact absurd permitted (by decide)
  | _ => exact absent

namespace Node

/-- Whether a packet offered to the transmit queue is taken. -/
def queuesPacket (node : Node) (packet : Packet) : Bool :=
  (packet.encode node.cfg.networkKey).isOk && node.makeTxRoom.isSome

theorem enqueuePacket_queued (node : Node) (packet : Packet) (notBefore priority : Nat)
    (isRelay : Bool) :
    (node.enqueuePacket packet notBefore priority isRelay).1.history.queued =
      node.history.queued ++ if node.queuesPacket packet then [packet] else [] := by
  unfold enqueuePacket queuesPacket
  cases packet.encode node.cfg.networkKey with
  | error _ => exact (append_nil _).symm
  | ok frame =>
    cases node.makeTxRoom with
    | none => exact (append_nil _).symm
    | some queue => rfl

/-- The request that a discovery floods. -/
def requestFor (node : Node) (target : Address) : RouteRequest :=
  let wantsKey := node.pendingEnvelopes.any (fun pending => pending.dst == target) ||
    !node.keyDir.contains target
  let flags := if wantsKey then RreqFlags.proxyOk ||| RreqFlags.wantKey else RreqFlags.proxyOk
  let handshake := match node.handshakes.get target with
    | some pending => if pending.hs.role = .initiator then pending.m1 else []
    | none => []
  ⟨target, 0, flags, handshake⟩

/-- Whether a unicast packet to a destination floods a route request: no next hop is known,
no discovery is running or resting, and the request finds its place in the queue. -/
def floodsRequest (node : Node) (dst : Address) (now : Nat) : Bool :=
  decide (node.cfg.routingMode ≠ .flood) && (node.nextHopFor dst now).isNone &&
    !node.ierp.isPending dst && node.ierp.mayStart dst now && node.makeTxRoom.isSome &&
    decide ((node.requestFor dst).encode.length ≤ maxPayload node.cfg.networkKey.isSome)

variable {packet : Packet} {node : Node} {now : Nat}

/-- A packet whose mark agrees with the network key is encoded when it fits. -/
theorem encode_isOk {network : Option NetworkKey}
    (agrees : packet.header.has Flags.netAuth = network.isSome) :
    (packet.encode network).isOk =
      decide (packet.payload.length ≤ maxPayload network.isSome) := by
  have known : (packet.header.has Flags.netAuth && network.isNone) = false := by
    rw [agrees]
    cases network <;> rfl
  simp only [Packet.encode, known, Bool.false_eq_true, if_false]
  rw [agrees]
  by_cases fits : packet.payload.length ≤ maxPayload network.isSome
  · rw [if_neg (Nat.not_lt.mpr fits), decide_eq_true fits]
    rfl
  · rw [if_pos (Nat.lt_of_not_le fits), decide_eq_false fits]
    rfl

/-- The packet of a route request that a node floods. -/
def requestPacket (node : Node) (target : Address) (reqId : UInt32) (ttl : UInt8) : Packet :=
  ⟨{ (node.baseHeader .routeRequest Address.broadcast ttl).2 with packetId := reqId },
    (node.requestFor target).encode⟩

/-- A route request goes to the queue if it finds a place there. -/
theorem sendRouteRequest_queued {node : Node} (target : Address) {reqId : UInt32} {ttl : UInt8}
    (now : Nat) :
    (node.sendRouteRequest target reqId ttl now).history.queued = node.history.queued ++
      if node.makeTxRoom.isSome && decide ((node.requestFor target).encode.length ≤
          maxPayload node.cfg.networkKey.isSome)
        then [node.requestPacket target reqId ttl] else [] := by
  let based := node.baseHeader .routeRequest Address.broadcast ttl
  have queued := based.1.enqueuePacket_queued (node.requestPacket target reqId ttl) now
    Priority.beacon false
  have encoded : ((node.requestPacket target reqId ttl).encode node.cfg.networkKey).isOk =
      decide ((node.requestFor target).encode.length ≤ maxPayload node.cfg.networkKey.isSome) :=
    encode_isOk (node.baseHeader_netAuth .routeRequest Address.broadcast ttl)
  have taken : based.1.queuesPacket (node.requestPacket target reqId ttl) =
      (node.makeTxRoom.isSome && decide ((node.requestFor target).encode.length ≤
          maxPayload node.cfg.networkKey.isSome)) := by
    rw [Bool.and_comm, ← encoded]
    rfl
  rw [taken] at queued
  exact queued

/-- A discovery floods one route request, if it finds a place in the queue. -/
theorem startDiscovery_queued (node : Node) (target : Address) (park : Option Packet) (now : Nat) :
    ∃ request : Packet, request.header.ptype = .routeRequest ∧
      (node.startDiscovery target park now).history.queued = node.history.queued ++
        if node.makeTxRoom.isSome && decide ((node.requestFor target).encode.length ≤
          maxPayload node.cfg.networkKey.isSome) then [request] else [] := by
  simp only [startDiscovery]
  refine ⟨_, ?_, sendRouteRequest_queued target now⟩
  exact (baseHeader_fields _ .routeRequest Address.broadcast _).2.2

omit [Primitives] in
theorem trackHop_history (node : Node) (packet : Packet) (nextHop : Address) (now : Nat)
    (isRelay : Bool) : (node.trackHop packet nextHop now isRelay).history = node.history := by
  unfold trackHop
  split <;> rfl

/-- A packet offered to the queue is taken or not. -/
theorem enqueuePacket_added (node : Node) (packet : Packet) (notBefore priority : Nat)
    (isRelay : Bool) :
    ∃ added : List Packet, (node.enqueuePacket packet notBefore priority isRelay).1.history.queued =
      node.history.queued ++ added ∧ (added = [] ∨ added = [packet]) := by
  refine ⟨_, node.enqueuePacket_queued packet notBefore priority isRelay, ?_⟩
  split
  · exact .inr rfl
  · exact .inl rfl

/-- What routing a packet adds to the queue: the packet with its next hop filled in, or the
request of the discovery it waits for. -/
theorem routeUnicast_queued (node : Node) (packet : Packet) (now : Nat) : ∃ added : List Packet,
      (node.routeUnicast packet now).1.history.queued = node.history.queued ++ added ∧
      if node.floodsRequest packet.header.dst now then
        ∃ request : Packet, request.header.ptype = .routeRequest ∧ added = [request]
      else added = [] ∨ ∃ nextHop : UInt16,
        added = [{ packet with header := { packet.header with nextHop := nextHop } }] := by
  simp only [routeUnicast]
  by_cases flooding : node.cfg.routingMode = .flood
  · rw [if_pos flooding]
    obtain ⟨added, queued, choice⟩ := node.enqueuePacket_added { packet with
      header := { packet.header with nextHop := nextHopAny } } now Priority.data false
    refine ⟨added, queued, ?_⟩
    have calm : node.floodsRequest packet.header.dst now = false := by
      simp [floodsRequest, flooding]
    rw [calm, if_neg Bool.false_ne_true]
    exact choice.imp_right (fun same => ⟨nextHopAny, same⟩)
  · rw [if_neg flooding]
    cases known : node.nextHopFor packet.header.dst now with
    | some hop =>
      obtain ⟨added, queued, choice⟩ := enqueuePacket_added
        (trackHop { node with routes := node.routes.touch packet.header.dst hop now }
          { packet with header := { packet.header with nextHop := hop.short } } hop now false)
        { packet with header := { packet.header with nextHop := hop.short } } now
        (if packet.header.ptype = .data then Priority.data else Priority.control) false
      rw [trackHop_history] at queued
      refine ⟨added, queued, ?_⟩
      have calm : node.floodsRequest packet.header.dst now = false := by
        simp [floodsRequest, known]
      rw [calm, if_neg Bool.false_ne_true]
      exact choice.imp_right (fun same => ⟨hop.short, same⟩)
    | none =>
      by_cases pending : node.ierp.isPending packet.header.dst = true
      · simp only [pending, if_true]
        refine ⟨[], (append_nil _).symm, ?_⟩
        have calm : node.floodsRequest packet.header.dst now = false := by
          simp [floodsRequest, pending]
        rw [calm, if_neg Bool.false_ne_true]
        exact .inl rfl
      · by_cases rested : node.ierp.mayStart packet.header.dst now = true
        · simp only [pending, rested, Bool.not_true, Bool.false_eq_true, if_false]
          obtain ⟨request, kind, queued⟩ :=
            node.startDiscovery_queued packet.header.dst (some packet) now
          refine ⟨_, queued, ?_⟩
          have floods : node.floodsRequest packet.header.dst now = (node.makeTxRoom.isSome &&
              decide ((node.requestFor packet.header.dst).encode.length ≤
                maxPayload node.cfg.networkKey.isSome)) := by
            simp [floodsRequest, known, pending, rested, flooding]
          rw [floods]
          split
          · exact ⟨request, kind, rfl⟩
          · exact .inl rfl
        · simp only [pending, rested, Bool.not_false, Bool.false_eq_true, if_false, if_true]
          refine ⟨[], (append_nil _).symm, ?_⟩
          have calm : node.floodsRequest packet.header.dst now = false := by
            simp [floodsRequest, rested]
          rw [calm, if_neg Bool.false_ne_true]
          exact .inl rfl

/-- A packet that repeats the third handshake message of a session. -/
def Repeats (session : Session) (peer : Address) (packet : Packet) : Prop :=
  packet.header.ptype = .handshake ∧ packet.header.dst = peer ∧
    ∃ m3, session.m3 = some m3 ∧ packet.payload = HandshakeMessage.three.toU8 :: m3

/-- A notice from a peer did no harm: the session stays with its keys, the tracked messages
stay as they are, and at most the third handshake message is queued once more. -/
structure Harmless (before after : Node) (peer : Address) (session : Session) : Prop where
  installed : ∃ kept, after.sessions.get peer = some kept ∧ kept.epoch = session.epoch ∧
    kept.sendKey = session.sendKey ∧ kept.recvKey = session.recvKey
  tracked : after.transport.outstanding = before.transport.outstanding
  repeated : ∃ added, after.history.queued = before.history.queued ++ added ∧ added.length ≤ 1 ∧
    ∀ packet ∈ added, Repeats session peer packet

/-- A session that is not there does not come back while messages are queued again. -/
theorem Moves.session_absent {before after : Node}
    (moves : Moves False Effects.messaging before after)
      (absent : before.sessions.get peer = none) :
    after.sessions.get peer = none :=
  moves.invariant (fun node => node.core.sessions.get peer = none) absent
    (fun _ permitted _ _ move => move.core.session_absent permitted)

/-- A notice that resets the session leaves none. -/
theorem resetSession_absent (node : Node) (peer : Address) (now : Nat) :
    (node.resetSession peer now).sessions.get peer = none := by
  have dropped : (node.dropSession peer).sessions.get peer = none := by
    simp only [dropSession, emit]
    split <;> exact OrderedMap.get_remove_self _
  exact Moves.session_absent (Trail.foldl _ _ (fun state message _ =>
    requeue_moves peer now state message)) dropped

/-- What sending a handshake message adds to the queue: its packet, or the request of the
discovery it waits for. -/
theorem sendHandshakePacket_queued (node : Node) (peer : Address) (number : HandshakeMessage)
    (message : Bytes) (now : Nat) :
    ∃ added : List Packet, (node.sendHandshakePacket peer number message now).history.queued =
        node.history.queued ++ added ∧
      if node.floodsRequest peer now then
        ∃ request : Packet, request.header.ptype = .routeRequest ∧ added = [request]
      else added = [] ∨ ∃ packet : Packet, added = [packet] ∧ packet.header.ptype = .handshake ∧
        packet.header.src = node.address ∧ packet.header.dst = peer ∧
        packet.payload = number.toU8 :: message := by
  let based := node.baseHeader .handshake peer (node.ttlFor peer)
  obtain ⟨src, dst, kind⟩ := node.baseHeader_fields .handshake peer (node.ttlFor peer)
  obtain ⟨added, queued, choice⟩ := based.1.routeUnicast_queued
    ⟨based.2, number.toU8 :: message⟩ now
  refine ⟨added, queued, ?_⟩
  have same : based.1.floodsRequest based.2.dst now = node.floodsRequest peer now := by
    rw [show based.2.dst = peer from dst]
    rfl
  rw [same] at choice
  split
  · rename_i floods
    rwa [if_pos floods] at choice
  · rename_i calm
    rw [if_neg calm] at choice
    refine choice.imp_right ?_
    rintro ⟨nextHop, rfl⟩
    exact ⟨_, rfl, kind, src, dst, rfl⟩

/-- The answer to a notice about a session that can have its third message repeated. -/
theorem onNoSessionNotice_repeats {session : Session}
    (found : node.sessions.get peer = some session) (spared : node.resetsSession peer now = false) :
    ∃ m3, session.m3 = some m3 ∧ node.onNoSessionNotice peer now =
      { node with sessions := node.sessions.insert peer session.resent }.sendHandshakePacket peer
        .three m3 now := by
  simp only [resetsSession, found, Bool.not_eq_false', Bool.and_eq_true,
    decide_eq_true_eq] at spared
  obtain ⟨⟨third, few⟩, young⟩ := spared
  obtain ⟨m3, third⟩ := Option.isSome_iff_exists.mp third
  refine ⟨m3, third, ?_⟩
  simp only [onNoSessionNotice, Session.resent, found, third]
  rw [if_pos ⟨few, young⟩]

/-- The answer to any other notice about a session is to drop it. -/
theorem onNoSessionNotice_resets (resets : node.resetsSession peer now = true) :
    node.onNoSessionNotice peer now = node.resetSession peer now := by
  unfold resetsSession at resets
  cases found : node.sessions.get peer with
  | none =>
    rw [found] at resets
    cases resets
  | some session =>
    simp only [found, Bool.not_eq_true', Bool.and_eq_false_iff, decide_eq_false_iff_not] at resets
    simp only [onNoSessionNotice, found]
    cases third : session.m3 with
    | none => rfl
    | some m3 =>
      refine if_neg ?_
      rintro ⟨few, young⟩
      rw [third] at resets
      rcases resets with (missing | many) | old
      · cases missing
      · exact many few
      · exact old young

/-- Handling a notice is harmless exactly when the session can have its third message
repeated and this floods no route request. -/
theorem onNoSessionNotice_harmless {session : Session}
    (found : node.sessions.get peer = some session) :
    Harmless node (node.onNoSessionNotice peer now) peer session ↔
      node.resetsSession peer now = false ∧ node.floodsRequest peer now = false := by
  cases resets : node.resetsSession peer now with
  | true =>
    rw [onNoSessionNotice_resets resets]
    constructor
    · intro harmless
      obtain ⟨kept, present, _⟩ := harmless.installed
      rw [resetSession_absent] at present
      cases present
    · rintro ⟨spared, _⟩
      cases spared
  | false =>
    obtain ⟨m3, third, answered⟩ := onNoSessionNotice_repeats found resets
    rw [answered]
    let counted := { node with sessions := node.sessions.insert peer session.resent }
    have quiet : Quiet False counted (counted.sendHandshakePacket peer .three m3 now) :=
      sendHandshakePacket_quiet _ peer .three m3 now
    obtain ⟨added, queued, choice⟩ := counted.sendHandshakePacket_queued peer .three m3 now
    rw [show counted.floodsRequest peer now = node.floodsRequest peer now from rfl] at choice
    have sessions : (counted.sendHandshakePacket peer .three m3 now).sessions.get peer =
        some session.resent := by
      rw [show (counted.sendHandshakePacket peer .three m3 now).sessions = counted.sessions from
        congrArg Core.sessions quiet.core]
      exact OrderedMap.get_insert_self _ _ _
    have tracked : (counted.sendHandshakePacket peer .three m3 now).transport.outstanding =
        node.transport.outstanding := congrArg Core.outstanding quiet.core
    cases floods : node.floodsRequest peer now with
    | true =>
      rw [floods, if_pos rfl] at choice
      obtain ⟨request, kind, rfl⟩ := choice
      constructor
      · intro harmless
        obtain ⟨others, same, _, repeats⟩ := harmless.repeated
        have only : [request] = others := append_cancel_left (queued.symm.trans same)
        have handshake := (repeats request (only ▸ mem_cons_self)).1
        rw [kind] at handshake
        cases handshake
      · rintro ⟨_, calm⟩
        cases calm
    | false =>
      rw [floods, if_neg Bool.false_ne_true] at choice
      refine iff_of_true ⟨⟨_, sessions, rfl, rfl, rfl⟩, tracked, added, queued, ?_⟩ ⟨rfl, rfl⟩
      rcases choice with rfl | ⟨packet, rfl, kind, _, dst, payload⟩
      · exact ⟨Nat.zero_le 1, fun _ member => nomatch member⟩
      · refine ⟨Nat.le_refl 1, fun other member => ?_⟩
        rw [mem_singleton.mp member]
        exact ⟨kind, dst, m3, third, payload⟩

/-- A node attends to a packet addressed to it by staying awake. -/
theorem attend_mine (rxMeta : RxMeta) (now : Nat) (mine : packet.header.dst = node.address) :
    node.attend packet rxMeta now = { node.hear (node.transmitterOf packet) rxMeta now with
      power := (node.hear (node.transmitterOf packet) rxMeta now).power.onActivity now } := by
  have heard : (node.hear (node.transmitterOf packet) rxMeta now).address = node.address := by
    simp only [hear]
    split <;> rfl
  simp only [attend]
  rw [if_pos (mine.trans heard.symm)]

/-- Noting who transmitted a packet touches neither the queue nor what decides about it. -/
theorem attend_noted (frame : Bytes) (rxMeta : RxMeta) (now : Nat)
    (peer : Address) (mine : packet.header.dst = node.address) :
    ((node.noted frame rxMeta packet).attend packet rxMeta now).history.queued =
        node.history.queued ∧
      ((node.noted frame rxMeta packet).attend packet rxMeta now).floodsRequest peer now =
        (node.attend packet rxMeta now).floodsRequest peer now := by
  rw [attend_mine rxMeta now mine, attend_mine rxMeta now
    (show packet.header.dst = (node.noted frame rxMeta packet).address from mine)]
  have transmitter : (node.noted frame rxMeta packet).transmitterOf packet =
      node.transmitterOf packet := rfl
  rw [transmitter]
  cases node.transmitterOf packet with
  | none => exact ⟨rfl, rfl⟩
  | some addr => exact ⟨rfl, rfl⟩

/-- A notice is handled as soon as its transmitter was noted. -/
theorem onPacket_notice {rxMeta : RxMeta} (notice : node.isNoSessionNotice packet = true) :
    node.onPacket packet rxMeta now =
      (node.attend packet rxMeta now).onNoSessionNotice packet.header.src now := by
  have address : (node.attend packet rxMeta now).address = node.address :=
    (show Quiet False node _ from node.attend_quiet packet rxMeta now).address
  have noticed : (node.attend packet rxMeta now).isNoSessionNotice packet = true := by
    rw [isNoSessionNotice, address]
    exact notice
  simp only [isNoSessionNotice, Bool.and_eq_true, beq_iff_eq] at notice
  obtain ⟨⟨kind, _⟩, payload⟩ := notice
  have unlinked : (node.attend packet rxMeta now).isLinkAck packet = false := by
    simp [isLinkAck, payload]
  have unbeaconed : packet.header.ptype ≠ .beacon := by
    rw [kind]
    decide
  simp only [onPacket_attend _ _ _ _ unbeaconed, unlinked, noticed, Bool.false_eq_true, if_false,
    if_true]

/-- A notice of a missing session, from whoever transmits it, is harmless exactly when the
session can still have its third handshake message repeated and the repetition floods no
route request. -/
theorem notice_harmless_iff (node : Node) (frame : Bytes) (rxMeta : RxMeta) (packet : Packet)
    (session : Session) (received : node.incoming frame = some packet)
    (notice : node.isNoSessionNotice packet = true)
    (established : node.sessions.get packet.header.src = some session) :
    Harmless node (node.onRadioRx frame rxMeta) packet.header.src session ↔
      node.resetsSession packet.header.src (max node.now rxMeta.timestampMs) = false ∧
        (node.attend packet rxMeta (max node.now rxMeta.timestampMs)).floodsRequest
          packet.header.src (max node.now rxMeta.timestampMs) = false := by
  have mine : packet.header.dst = node.address := by
    simp only [isNoSessionNotice, Bool.and_eq_true, beq_iff_eq] at notice
    exact notice.1.2
  have noticed : (node.noted frame rxMeta packet).isNoSessionNotice packet = true := notice
  rw [onRadioRx_incoming received, onPacket_notice noticed, clock]
  generalize max node.now rxMeta.timestampMs = now
  obtain ⟨queued, floods⟩ := attend_noted frame rxMeta now packet.header.src mine
  have attended : Quiet False (node.noted frame rxMeta packet) _ :=
    (node.noted frame rxMeta packet).attend_quiet packet rxMeta now
  rw [← floods]
  generalize (node.noted frame rxMeta packet).attend packet rxMeta now = active at *
  have core : active.core = node.core := attended.core
  have found : active.sessions.get packet.header.src = some session := by
    rw [show active.sessions = node.sessions from congrArg Core.sessions core]
    exact established
  have resets : active.resetsSession packet.header.src now =
      node.resetsSession packet.header.src now := by
    simp only [resetsSession, show active.sessions = node.sessions from congrArg Core.sessions core,
      show active.cfg = node.cfg from attended.cfg]
  rw [← resets, ← onNoSessionNotice_harmless found]
  have tracked : active.transport.outstanding = node.transport.outstanding :=
    congrArg Core.outstanding core
  constructor
  · intro harmless
    exact ⟨harmless.installed, harmless.tracked.trans tracked.symm, queued ▸ harmless.repeated⟩
  · intro harmless
    exact ⟨harmless.installed, harmless.tracked.trans tracked, queued ▸ harmless.repeated⟩

end Node

end MeshStar

namespace MeshStar.Forgery

local instance forgerySuite : Primitives := Transparent.primitives

open Transparent

def host : Node := Node.new NodeConfig.default (identity 1) generator 0

def peer : Address := (identity 2).address

/-- The host has answered the peer's handshake. -/
def met : Node := (Partner.meet (identity 2) host 10).2

/-- A notice under the peer's name, which needs no key. -/
def notice : Packet := ⟨Header.new .control peer host.address 77 0 2, [Control.noSession]⟩

def forged : Bytes := frame notice

/-- One forged notice closes a session. -/
theorem forged_notice_closes : ∃ session, met.sessions.get peer = some session ∧
    met.incoming forged = some notice ∧ met.isNoSessionNotice notice = true ∧
      ¬Node.Harmless met (met.onRadioRx forged (heardAt 20)) peer session := by
  have established : (met.sessions.get peer).isSome = true := by decide +kernel
  obtain ⟨session, found⟩ := Option.isSome_iff_exists.mp established
  refine ⟨session, found, by decide +kernel, by decide +kernel, ?_⟩
  rintro ⟨⟨kept, present, _⟩, _, _⟩
  have closed : ((met.onRadioRx forged (heardAt 20)).sessions.get peer).isSome =
      false := by decide +kernel
  rw [present] at closed
  cases closed

/-- A session whose third handshake message can be repeated. -/
def young : Session :=
  let keys : TransportKeys := ⟨(identity 3).seed, (identity 4).seed,
    (identity 5).seed⟩
  { Session.new (identity 2).publicIdentity 0 keys 0 with m3 := some [1, 2, 3] }

/-- The initiator of the session, in a network that floods. -/
def initiator : Node :=
  let flooding : NodeConfig := { NodeConfig.default with routingMode := .flood }
  let node := Node.new flooding (identity 1) generator 0
  { node with sessions := node.sessions.insert peer young }

/-- A forged notice while the third message can be repeated costs the initiator nothing. -/
theorem notice_harmless_repeated :
    Node.Harmless initiator (initiator.onRadioRx forged (heardAt 20)) peer young :=
  (Node.notice_harmless_iff initiator forged (heardAt 20) notice young
    (by decide +kernel) (by decide +kernel) (OrderedMap.get_insert_self _ _ _)).mpr
    ⟨by decide +kernel, by decide +kernel⟩

end MeshStar.Forgery

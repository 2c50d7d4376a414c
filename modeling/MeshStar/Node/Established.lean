import MeshStar.Node.NoticeLaw

/-!
# What sending does to an established session

Once a session with a peer is installed, the sends that waited for it are issued: data,
control bodies, deposits and envelopes. None of them opens another handshake with that
peer, none touches the keys of the session, and none queues a handshake packet for the
peer. The lemmas below follow the sending functions one by one.
-/

namespace MeshStar

open List OrderedMap

variable [Primitives]

/-- Whether a packet carries a handshake message for a peer. -/
def Packet.greets (packet : Packet) (peer : Address) : Bool :=
  packet.header.ptype == .handshake && packet.header.dst == peer

namespace Node

variable (node : Node) (dst : Address) (envelopeId : UInt32) (recipient : Address)
  (envelope : Bytes) {packet : Packet} (now : Nat)

/-- A change that leaves sessions and handshakes alone and queues no handshake packet for
the peer. -/
structure Unheard (peer : Address) (before after : Node) : Prop where
  sessions : after.sessions = before.sessions
  handshakes : after.handshakes = before.handshakes
  queued : ∃ added, after.history.queued = before.history.queued ++ added ∧
    ∀ packet ∈ added, packet.greets peer = false

variable {peer : Address} {before middle after : Node}

section

omit [Primitives]

theorem Unheard.ofSame (same : (after.sessions, after.handshakes, after.history.queued) =
    (before.sessions, before.handshakes, before.history.queued)) : Unheard peer before after := by
  simp only [Prod.mk.injEq] at same
  obtain ⟨sessions, handshakes, queued⟩ := same
  exact ⟨sessions, handshakes, [], by rw [queued, append_nil], nofun⟩

theorem Unheard.trans (first : Unheard peer before middle) (second : Unheard peer middle after) :
    Unheard peer before after := by
  obtain ⟨early, earlyQueued, earlyCalm⟩ := first.queued
  obtain ⟨late, lateQueued, lateCalm⟩ := second.queued
  refine ⟨second.sessions.trans first.sessions, second.handshakes.trans first.handshakes,
    early ++ late, by rw [lateQueued, earlyQueued, append_assoc], ?_⟩
  exact forall_mem_append.mpr ⟨earlyCalm, lateCalm⟩

/-- A packet of another type is no handshake packet. -/
theorem greets_of_ptype (other : packet.header.ptype ≠ .handshake) :
    packet.greets peer = false := by
  simp [Packet.greets, other]

/-- A packet for another destination is no handshake packet for the peer. -/
theorem greets_of_dst (other : packet.header.dst ≠ peer) : packet.greets peer = false := by
  simp [Packet.greets, other]

theorem emit_unheard {event : NodeEvent} : Unheard peer node (node.emit event) := by
  simp only [emit]
  split <;> exact .ofSame rfl

end

/-- A quiet change that queues packets of other kinds. -/
theorem Unheard.ofQuiet {added : List Packet} (quiet : Quiet False before after)
    (queued : after.history.queued = before.history.queued ++ added)
    (calm : ∀ packet ∈ added, packet.greets peer = false) : Unheard peer before after :=
  ⟨congrArg Core.sessions quiet.core, congrArg Core.handshakes quiet.core, added, queued, calm⟩

theorem enqueuePacket_unheard {notBefore priority : Nat}
    {isRelay : Bool} (calm : packet.greets peer = false) :
    Unheard peer node (node.enqueuePacket packet notBefore priority isRelay).1 := by
  obtain ⟨added, queued, choice⟩ := node.enqueuePacket_added packet notBefore priority isRelay
  refine .ofQuiet (node.enqueuePacket_quiet packet notBefore priority isRelay nofun) queued ?_
  rcases choice with rfl | rfl
  · exact nofun
  · exact forall_mem_singleton.mpr calm

theorem startDiscovery_unheard {target : Address} {park : Option Packet}
    {now : Nat} : Unheard peer node (node.startDiscovery target park now) := by
  obtain ⟨request, kind, queued⟩ := node.startDiscovery_queued target park now
  refine .ofQuiet (node.startDiscovery_quiet target park now nofun) queued ?_
  split
  · exact forall_mem_singleton.mpr (greets_of_ptype (kind ▸ by decide))
  · exact nofun

theorem routeUnicast_unheard (packet : Packet) (now : Nat) (calm : packet.greets peer = false) :
    Unheard peer node (node.routeUnicast packet now).1 := by
  obtain ⟨added, queued, choice⟩ := node.routeUnicast_queued packet now
  refine .ofQuiet (node.routeUnicast_parked packet now nofun) queued ?_
  split at choice
  · obtain ⟨request, kind, rfl⟩ := choice
    exact forall_mem_singleton.mpr (greets_of_ptype (kind ▸ by decide))
  · rcases choice with rfl | ⟨nextHop, rfl⟩
    · exact nofun
    · exact forall_mem_singleton.mpr calm

omit [Primitives] in
theorem draw_unheard (header : Header) (first : Bool) :
    Unheard peer node (if first then (node, header.packetId) else node.newPacketId).1 := by
  split <;> exact .ofSame rfl

theorem sendFragments_unheard {header : Header} {now : Nat} (calm : header.ptype ≠ .handshake)
    {parts : List (FragHeader × Bytes)} (first : Bool) (node : Node) :
    Unheard peer node (sendFragments header now parts first node).1 := by
  induction parts generalizing first node with
  | nil => exact .ofSame rfl
  | cons part rest ih =>
    have routed : Unheard peer node _ := (node.draw_unheard header first).trans
      (routeUnicast_unheard _ ⟨{ header with packetId :=
        (if first then (node, header.packetId) else node.newPacketId).2 },
        frameFragment part.1 part.2⟩ now (greets_of_ptype calm))
    simp only [sendFragments]
    split
    · rename_i outcome
      rw [outcome] at routed
      exact routed
    · rename_i outcome
      rw [outcome] at routed
      exact routed.trans (ih false _)

theorem sendEnvelopeFragments_unheard {header : Header} {now : Nat}
    (calm : header.ptype ≠ .handshake) {parts : List (FragHeader × Bytes)} (first : Bool)
    (node : Node) : Unheard peer node (sendEnvelopeFragments header now parts first node) := by
  induction parts generalizing first node with
  | nil => exact .ofSame rfl
  | cons part rest ih =>
    exact ((node.draw_unheard header first).trans
      (routeUnicast_unheard _ _ now (greets_of_ptype calm))).trans (ih false _)

theorem sendEnvelopeData_unheard :
    Unheard peer node (node.sendEnvelopeData dst envelopeId envelope now) := by
  have calm : (node.baseHeader .data dst (node.ttlFor dst)).2.ptype ≠ .handshake := by
    rw [(node.baseHeader_fields .data dst (node.ttlFor dst)).2.2]
    decide
  have drawn : Unheard peer node (node.baseHeader .data dst (node.ttlFor dst)).1 := .ofSame rfl
  simp only [sendEnvelopeData]
  generalize node.baseHeader .data dst (node.ttlFor dst) = based at calm drawn
  split
  · apply Unheard.trans _ (routeUnicast_unheard _ _ _ (greets_of_ptype calm))
    exact drawn.trans (.ofSame rfl)
  · split
    · refine Unheard.trans ?_ (sendEnvelopeFragments_unheard ?_ _ _)
      · exact drawn.trans (.ofSame rfl)
      · exact calm
    · exact drawn.trans (.ofSame rfl)

theorem flushMailboxTo_unheard : Unheard peer node (node.flushMailboxTo dst now) := by
  simp only [flushMailboxTo]
  split
  · exact .ofSame rfl
  · apply Unheard.trans _ (Trail.loop (Unheard peer) (fun _ => .ofSame rfl) .trans _ _
      (fun _ _ _ _ => sendEnvelopeData_unheard _ _ _ _ _))
    exact .ofSame rfl

theorem depositForHosted_unheard :
    Unheard peer node (node.depositForHosted dst envelopeId envelope now).1 := by
  simp only [depositForHosted]
  split
  · split
    · split
      · split
        · dsimp only
          apply Unheard.trans _ (flushMailboxTo_unheard _ _ _)
          exact .ofSame rfl
        · exact .ofSame rfl
      · exact .ofSame rfl
    · exact .ofSame rfl
  · exact .ofSame rfl

theorem routeUnicastEnvelope_unheard :
    Unheard peer node (node.routeUnicastEnvelope dst envelopeId envelope now).1 := by
  have calm : (node.baseHeader .data dst node.cfg.defaultTtl).2.ptype ≠ .handshake := by
    rw [(node.baseHeader_fields .data dst node.cfg.defaultTtl).2.2]
    decide
  have drawn : Unheard peer node (node.baseHeader .data dst node.cfg.defaultTtl).1 := .ofSame rfl
  simp only [routeUnicastEnvelope]
  generalize node.baseHeader .data dst node.cfg.defaultTtl = based at calm drawn
  split
  · split
    · exact drawn
    · exact drawn.trans (routeUnicast_unheard _ _ _ (greets_of_ptype calm))
  · exact sendEnvelopeData_unheard node dst envelopeId envelope now

omit [Primitives] in
theorem trackOrFail_unheard (message : Outstanding) (now : Nat) :
    Unheard peer node (node.trackOrFail message now).1 := by
  simp only [trackOrFail]
  split
  · exact .ofSame rfl
  · exact emit_unheard node

/-- A change that leaves the session with the peer its keys, leaves the handshake with the
peer alone and queues no handshake packet for the peer. -/
def Steady (peer : Address) (before after : Node) : Prop :=
  ∀ session, before.sessions.get peer = some session →
    (∃ kept, after.sessions.get peer = some kept ∧ kept.sendKey = session.sendKey ∧
      kept.recvKey = session.recvKey) ∧
    after.handshakes.get peer = before.handshakes.get peer ∧
    ∃ added, after.history.queued = before.history.queued ++ added ∧
      ∀ packet ∈ added, packet.greets peer = false

section

omit [Primitives]

theorem Unheard.steady (unheard : Unheard peer before after) : Steady peer before after :=
  fun session present => ⟨⟨session, unheard.sessions ▸ present, rfl, rfl⟩,
    congrArg (fun map => OrderedMap.get map peer) unheard.handshakes, unheard.queued⟩

theorem Steady.refl : Steady peer node node := (Unheard.ofSame rfl).steady

theorem Steady.trans (first : Steady peer before middle) (second : Steady peer middle after) :
    Steady peer before after := by
  intro session present
  obtain ⟨⟨kept, keptPresent, sendKey, recvKey⟩, handshake, early, earlyQueued, earlyCalm⟩ :=
    first session present
  obtain ⟨⟨last, lastPresent, lastSend, lastRecv⟩, lastHandshake, late, lateQueued, lateCalm⟩ :=
    second kept keptPresent
  refine ⟨⟨last, lastPresent, lastSend.trans sendKey, lastRecv.trans recvKey⟩,
    lastHandshake.trans handshake, early ++ late,
    by rw [lateQueued, earlyQueued, append_assoc], ?_⟩
  exact forall_mem_append.mpr ⟨earlyCalm, lateCalm⟩

end

/-- Storing the state of a session after an encryption. -/
theorem encrypt_steady {dst : Address} {session : Session}
    (present : node.sessions.get dst = some session) (now : Nat) (aad body : Bytes) :
    Steady peer node { node with
      sessions := node.sessions.insert dst (session.encrypt now aad body).1 } := by
  have keys : (session.encrypt now aad body).1.sendKey = session.sendKey ∧
      (session.encrypt now aad body).1.recvKey = session.recvKey := by
    unfold Session.encrypt
    split <;> exact ⟨rfl, rfl⟩
  intro known found
  constructor
  · by_cases same : peer = dst
    · subst same
      obtain rfl : known = session := Option.some.inj (found.symm.trans present)
      exact ⟨_, get_insert_self _ _ _, keys⟩
    · exact ⟨known, (get_insert_of_ne _ _ same).trans found, rfl, rfl⟩
  · exact ⟨rfl, [], (append_nil _).symm, fun _ member => nomatch member⟩

theorem sendSessionPacket_steady {ptype : PacketType} (body : Bytes)
    (seq : UInt16) (ackRequest : Bool) (now : Nat) (calm : ptype ≠ .handshake) :
    Steady peer node (node.sendSessionPacket dst ptype body seq ackRequest now).1 := by
  rcases node.sendSessionPacket_parts dst ptype body seq ackRequest now
    (fun _ => (.ofSame rfl : Unheard peer _ _)) (fun _ => .ofSame rfl)
    (fun header state kind _ => ⟨fun _ => routeUnicast_unheard _ _ _
      (greets_of_ptype (kind ▸ calm)),
      fun _ => sendFragments_unheard (kind ▸ calm) _ _⟩) with
    ⟨_, quiet⟩ | ⟨session, aad, prepared, found, same, quiet, sent⟩
  · exact quiet.steady
  · have stored : Steady peer prepared _ := prepared.encrypt_steady (same ▸ found) now aad body
    exact (quiet.steady.trans stored).trans sent.steady

theorem sendSequenced_steady {ptype : PacketType} {body : Bytes}
    {now : Nat} (calm : ptype ≠ .handshake) :
    Steady peer node (node.sendSequenced dst ptype body now) := by
  have numbered : Unheard peer node { node with transport := node.transport.nextSeq.1 } :=
    .ofSame rfl
  exact numbered.steady.trans (sendSessionPacket_steady _ _ _ _ _ _ calm)

theorem sendControl_steady {sub : UInt8} {body : Bytes}
    {now : Nat} : Steady peer node (node.sendControl recipient sub body now) := by
  simp only [sendControl]
  split
  · exact sendSequenced_steady _ _ (by decide)
  · exact .refl node

theorem sendDataInSession_steady {send : QueuedSend} {now : Nat} :
    Steady peer node (node.sendDataInSession send now) := by
  have numbered : Unheard peer node { node with transport := node.transport.nextSeq.1 } :=
    .ofSame rfl
  have sent := numbered.steady.trans (sendSessionPacket_steady _ send.dst send.payload
    node.transport.nextSeq.2 (send.reliability == .acknowledged) now
    (show PacketType.data ≠ .handshake by decide))
  simp only [sendDataInSession]
  split
  · rename_i outcome
    rw [outcome] at sent
    split
    · exact sent.trans (trackOrFail_unheard _ _ _).steady
    · exact sent
  all_goals
    rename_i outcome
    rw [outcome] at sent
    exact sent.trans (emit_unheard _).steady

theorem sendHandshakePacket_unheard {other : Address} {number : HandshakeMessage}
    {message : Bytes} {now : Nat} (distinct : other ≠ peer) :
    Unheard peer node (node.sendHandshakePacket other number message now) := by
  have drawn : Unheard peer node (node.baseHeader .handshake other (node.ttlFor other)).1 :=
    .ofSame rfl
  have dst := (node.baseHeader_fields .handshake other (node.ttlFor other)).2.1
  exact drawn.trans (routeUnicast_unheard _ _ _ (greets_of_dst (by
    change (node.baseHeader .handshake other (node.ttlFor other)).2.dst ≠ peer
    rw [dst]
    exact distinct)))

omit [Primitives] in
/-- A change of the handshakes with others. -/
theorem Steady.handshakes {handshakes : OrderedMap Address PendingHandshake} (node : Node)
    (same : handshakes.get peer = node.handshakes.get peer) :
    Steady peer node { node with handshakes := handshakes } :=
  fun session present => ⟨⟨session, present, rfl, rfl⟩, same, [], (append_nil _).symm,
    fun _ member => nomatch member⟩

/-- Opening a handshake with another peer. -/
theorem startAndPush_steady {anchor : Address} {send : QueuedSend} {now : Nat}
    (distinct : anchor ≠ peer) :
    Steady peer node ((node.startHandshake anchor now).pushQueued anchor send) := by
  have started : Steady peer node (node.startHandshake anchor now) := by
    simp only [startHandshake]
    split
    · exact .refl node
    · split
      · exact (Unheard.ofSame rfl).steady
      · rename_i pending _
        have drawn : Unheard peer node { node with rng := (node.openHandshake anchor now).1 } :=
          .ofSame rfl
        have inserted := drawn.steady.trans (Steady.handshakes _
          (get_insert_of_ne node.handshakes pending distinct.symm))
        exact inserted.trans (sendHandshakePacket_unheard _ distinct).steady
  exact started.trans (Steady.handshakes _ (get_modify_of_ne _ _ distinct.symm))

/-- A deposit opens a handshake only with a host that has no session yet. -/
theorem sendStore_steady {anchor dst : Address} {envelopeId : UInt32}
    {envelope : Bytes} {now : Nat} :
    Steady peer node (node.sendStore anchor dst envelopeId envelope now) := by
  intro session present
  have recorded : Unheard peer node { node with history := { node.history with
      deposits := node.history.deposits ++ [Deposit.mk anchor dst envelopeId] } } := .ofSame rfl
  have sent : Steady peer node (node.sendStore anchor dst envelopeId envelope now) := by
    simp only [sendStore]
    split
    · exact recorded.steady.trans (sendSequenced_steady _ _ (by decide))
    · rename_i unknown
      have distinct : anchor ≠ peer := by
        rintro rfl
        apply unknown
        rw [contains_eq_true_iff]
        exact ⟨session, present⟩
      exact recorded.steady.trans (startAndPush_steady _ distinct)
  exact sent session present

theorem deliverEnvelope_steady :
    Steady peer node (node.deliverEnvelope dst envelopeId envelope now) := by
  simp only [deliverEnvelope]
  split
  · exact (depositForHosted_unheard node dst envelopeId envelope now).steady
  · split
    · exact sendStore_steady _
    · have routed : Unheard peer node _ :=
        routeUnicastEnvelope_unheard node dst envelopeId envelope now
      split
      · rename_i outcome
        rw [outcome] at routed
        exact routed.steady
      · rename_i outcome
        rw [outcome] at routed
        split
        · exact routed.steady.trans (sendStore_steady _)
        · exact routed.steady

theorem sealAndSendEnvelope_steady {payload : Bytes} {handle : UInt32} {now : Nat} :
    Steady peer node (node.sealAndSendEnvelope dst payload handle now) := by
  simp only [sealAndSendEnvelope]
  split
  · exact (emit_unheard _).steady
  · rename_i recipient _
    generalize sealEnvelope node.id recipient node.newPacketId.2 payload node.newPacketId.1.rng =
      sealed
    have drained : Unheard peer node { node.newPacketId.1 with rng := sealed.1 } := .ofSame rfl
    have tracked (message : Outstanding) : Steady peer node
        (trackOrFail { node.newPacketId.1 with rng := sealed.1 } message now).1 :=
      (drained.trans (trackOrFail_unheard _ message now)).steady
    split
    · exact (drained.trans (emit_unheard _)).steady
    · split
      · exact (drained.trans (emit_unheard _)).steady
      · split
        · exact (tracked _).trans (deliverEnvelope_steady _ _ _ _ _)
        · exact tracked _

theorem queueEnvelope_steady {payload : Bytes} {handle : UInt32}
    {now : Nat} : Steady peer node (node.queueEnvelope dst payload handle now) := by
  simp only [queueEnvelope]
  split
  · exact sealAndSendEnvelope_steady _ _
  · split
    · exact (emit_unheard _).steady
    · split
      · apply Unheard.steady
        apply Unheard.trans _ (startDiscovery_unheard _)
        exact .ofSame rfl
      · exact (Unheard.ofSame rfl).steady

theorem tryPendingEnvelopes_steady : Steady peer node (node.tryPendingEnvelopes dst now) := by
  simp only [tryPendingEnvelopes]
  apply Steady.trans _ (Trail.loop (Steady peer) (fun _ => .refl _) .trans _ _
    (fun _ _ _ _ => sealAndSendEnvelope_steady _ _))
  exact (Unheard.ofSame rfl).steady

theorem drainOne_steady (node : Node) (send : QueuedSend) :
    Steady peer node (drainOne recipient now node send) := by
  simp only [drainOne]
  split
  · exact sendSequenced_steady _ _ (by decide)
  · split
    · exact sendSequenced_steady _ _ (by decide)
    · split
      · split
        · exact sendControl_steady _ _
        · exact .refl node
      · split
        · exact queueEnvelope_steady _ _
        · exact sendDataInSession_steady _

/-- Issuing the sends that waited for a session leaves an established session alone. -/
theorem drainQueued_steady {queued : List QueuedSend}
    {now : Nat} : Steady peer node (node.drainQueued recipient queued now) :=
  Trail.loop (Steady peer) (fun _ => .refl _) .trans queued node
    (fun state send _ _ => drainOne_steady recipient now state send)

/-- A session that a handshake yielded, as the node keeps it once everything that waited
was sent. -/
structure Established (peer : Address) (keys : TransportKeys) (announced after : Node) : Prop where
  session : ∃ kept, after.sessions.get peer = some kept ∧ kept.sendKey = keys.send ∧
    kept.recvKey = keys.recv
  handshake : after.handshakes.get peer = announced.handshakes.get peer
  queued : ∃ added, after.history.queued = announced.history.queued ++ added ∧
    ∀ packet ∈ added, packet.greets peer = false

omit [Primitives] in
/-- A steady change keeps what is established. -/
theorem Established.steady {announced : Node} {keys : TransportKeys}
    (established : Established peer keys announced middle) (steady : Steady peer middle after) :
    Established peer keys announced after := by
  obtain ⟨early, earlyQueued, earlyCalm⟩ := established.queued
  obtain ⟨session, present, sendKey, recvKey⟩ := established.session
  obtain ⟨⟨kept, keptPresent, keptSend, keptRecv⟩, handshake, late, lateQueued, lateCalm⟩ :=
    steady session present
  refine ⟨⟨kept, keptPresent, keptSend.trans sendKey, keptRecv.trans recvKey⟩,
    handshake.trans established.handshake, early ++ late,
    by rw [lateQueued, earlyQueued, append_assoc], ?_⟩
  exact forall_mem_append.mpr ⟨earlyCalm, lateCalm⟩

theorem installSession_established (peer : Address) (epoch : UInt8)
    (keys : TransportKeys) (remote : PublicIdentity) (now : Nat) :
    Established peer keys node (node.installSession peer epoch keys remote now) := by
  let installed := { node with
    keyDir := node.keyDir.insert peer remote
    sessions := node.sessions.insert peer (Session.new remote epoch keys now) }
  have sent : Steady peer installed ((installed.emit (.sessionEstablished peer)).tryPendingEnvelopes
      peer now) := (emit_unheard _).steady.trans (tryPendingEnvelopes_steady _ _ _)
  have attached (state : Node) (hosts : Prop) [Decidable hosts] : Steady peer state
      (if hosts then { state with attachedAnchor := some peer } else state) := by
    split
    · exact (Unheard.ofSame rfl).steady
    · exact .refl state
  have kept : Steady peer installed (node.installSession peer epoch keys remote now) :=
    sent.trans (attached _ _)
  obtain ⟨session, handshake, queued⟩ := kept _
    (get_insert_self node.sessions peer (Session.new remote epoch keys now))
  exact ⟨session, handshake, queued⟩

omit [Primitives] in
/-- Keeping the third message in the session for a resend. -/
theorem rememberM3_steady (m3 : Bytes) :
    Steady peer node { node with sessions := node.sessions.modify peer (fun session =>
      { session with m3 := some m3 }) } := by
  intro session present
  refine ⟨⟨{ session with m3 := some m3 }, ?_, rfl, rfl⟩, rfl, [], (append_nil _).symm,
    fun _ member => nomatch member⟩
  rw [get_modify_self, present]
  rfl

/-- The node that no longer holds the handshake and has sent its last message, if that is
its to send. -/
def announce (node : Node) (peer : Address) (m3 : Option Bytes) (now : Nat) : Node :=
  let removed := { node with handshakes := node.handshakes.remove peer }
  match m3 with
  | some message => removed.sendHandshakePacket peer .three message now
  | none => removed

/-- A handshake that yields keys ends in a session with those keys, and queues no handshake
packet for the peer but its own last message. -/
theorem finishHandshake_established {pending : PendingHandshake} {keys : TransportKeys}
    {remote : PublicIdentity} (node : Node) (peer : Address) (m3 : Option Bytes) (now : Nat)
    (finished : pending.hs.finish = .ok (keys, remote)) :
    Established peer keys (node.announce peer m3 now)
      (node.finishHandshake peer pending m3 now).1 := by
  have installed := (node.announce peer m3 now).installSession_established peer pending.epoch keys
    remote now
  unfold finishHandshake
  rw [finished]
  cases m3 with
  | none => exact installed.steady (drainQueued_steady _ _)
  | some message =>
    exact (installed.steady (rememberM3_steady _ message)).steady (drainQueued_steady _ _)

end Node

end MeshStar

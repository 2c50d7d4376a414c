import MeshStar.Node.Effects

/-!
# The transmit path is quiet

No function of the transmit path touches the core. Each keeps the forwarding law
because a packet it queues, tracks or parks is the node's own; the two functions that
also carry foreign packets, queueing and hop tracking, ask for the law of the packet.
-/

namespace MeshStar

open List

variable [Primitives]

omit [Primitives] in
/-- A node may send its own packets. -/
theorem MaySend.own {received : List Packet} {me : Address} {header : Header}
    (own : header.src = me) : MaySend received me header := Or.inl own

namespace Node

variable (node : Node) (ptype : PacketType) (dst : Address) (packet : Packet) (ttl : UInt8)
  (now : Nat)

variable {law : Prop}

theorem newPacketId_quiet : Quiet law node node.newPacketId.1 := .outside rfl rfl rfl

theorem baseHeader_quiet : Quiet law node (node.baseHeader ptype dst ttl).1 :=
  node.newPacketId_quiet

/-- A header of our own names us as its source. -/
theorem baseHeader_src : (node.baseHeader ptype dst ttl).2.src = node.address :=
  (node.baseHeader_fields ptype dst ttl).1

theorem congestion_quiet : Quiet law node node.congestion.1 := .outside rfl rfl rfl

theorem linkCostTo_quiet (addr : Address) : Quiet law node (node.linkCostTo addr).1 :=
  node.congestion_quiet

theorem learnRoute_reroutes {nextHop : Address} {hops : UInt8} {cost : Nat}
    {source : RouteSource} {viaAnchor : Option Address} {now : Nat} :
    Reroutes law node (node.learnRoute dst nextHop hops cost source viaAnchor now) := by
  unfold learnRoute
  split
  · exact .refl
  · exact .ofRoutes rfl rfl rfl

omit [Primitives] in
/-- Making room only removes frames. -/
theorem makeTxRoom_sublist {node : Node} {queue : List TxItem}
    (room : node.makeTxRoom = some queue) : queue.Sublist node.txQueue := by
  unfold makeTxRoom at room
  split at room
  · split at room
    · cases room
      exact eraseIdx_sublist _ _
    · cases room
  · cases room
    exact List.Sublist.refl _

/-- Queueing a packet keeps the law when the packet obeys it. -/
theorem enqueuePacket_quiet (notBefore priority : Nat) (isRelay : Bool)
    (may : law → node.Lawful → MaySend node.history.received node.address packet.header) :
    Quiet law node (node.enqueuePacket packet notBefore priority isRelay).1 := by
  unfold enqueuePacket
  cases encoded : packet.encode node.cfg.networkKey with
  | error _ => exact .refl node
  | ok frame =>
    cases room : node.makeTxRoom with
    | none => exact .refl node
    | some queue =>
      refine ⟨rfl, rfl, rfl, rfl, rfl, ?_⟩
      intro holds lawful
      refine { lawful with queued := ?_, transmitted := ?_ }
      · intro other member
        rcases mem_append.mp member with earlier | new
        · exact lawful.queued other earlier
        · rw [mem_singleton.mp new]
          exact may holds lawful
      · intro item member
        rcases mem_append.mp member with earlier | new
        · obtain ⟨sent, sentMember, sentFrame⟩ :=
            lawful.transmitted item ((makeTxRoom_sublist room).subset earlier)
          exact ⟨sent, mem_append_left _ sentMember, sentFrame⟩
        · rw [mem_singleton.mp new]
          exact ⟨packet, mem_append_right _ mem_cons_self, encoded⟩

theorem enqueuePacket_own {notBefore priority : Nat}
    {isRelay : Bool} (own : packet.header.src = node.address) :
    Quiet law node (node.enqueuePacket packet notBefore priority isRelay).1 :=
  node.enqueuePacket_quiet packet notBefore priority isRelay (fun _ _ => MaySend.own own)

/-- Tracking a hop keeps the law when the packet obeys it. -/
theorem trackHop_quiet (nextHop : Address) (now : Nat) (isRelay : Bool)
    (may : law → node.Lawful → MaySend node.history.received node.address packet.header) :
    Quiet law node (node.trackHop packet nextHop now isRelay) := by
  unfold trackHop
  split
  · exact .refl node
  · refine ⟨rfl, rfl, rfl, rfl, bearings_of_sight node
      (node.neighbors.recordTxAttempt_sight nextHop), ?_⟩
    intro holds lawful
    refine { lawful with hops := ?_ }
    intro hop member
    rcases mem_append.mp member with earlier | new
    · exact lawful.hops hop (mem_filter.mp earlier).1
    · rw [mem_singleton.mp new]
      exact may holds lawful

theorem hopConfirmed_quiet (key : PacketKey) {sender : Address} :
    Quiet law node (node.hopConfirmed key sender) := by
  have filtered (after : Node) (core : after.core = node.core) (cfg : after.cfg = node.cfg)
      (id : after.id = node.id)
      (radio : after.radio = { node.radio with hopPending := node.hopPending.filter (fun hop =>
        !(hop.key == key && hop.nextHop == sender)) })
      (bearings : after.bearings = node.bearings) : Quiet law node after := by
    refine ⟨core, cfg, id, congrArg Radio.received radio, bearings, ?_⟩
    intro _ lawful
    unfold Node.Lawful at lawful ⊢
    rw [radio, cfg, Node.address, id]
    exact { lawful with hops := fun hop member => lawful.hops hop (mem_filter.mp member).1 }
  simp only [hopConfirmed]
  split
  · refine filtered _ rfl rfl rfl rfl (bearings_of_sight node ?_)
    rw [NeighborTable.modify_sight, NeighborTable.recordSuccess_sight]
    exact fun _ => ⟨rfl, rfl⟩
  · exact filtered _ rfl rfl rfl rfl rfl

theorem sendRouteRequest_quiet {target : Address} {reqId : UInt32} {ttl : UInt8}
    (now : Nat) : Quiet law node (node.sendRouteRequest target reqId ttl now) := by
  have based : Quiet law node _ := node.baseHeader_quiet .routeRequest Address.broadcast ttl
  refine based.trans (enqueuePacket_own _ _ ?_)
  rw [based.address]
  exact node.baseHeader_src .routeRequest Address.broadcast ttl

/-- Replacing the discovery table keeps the law when only own packets wait in it. -/
theorem withIerp_quiet {ierp : Ierp}
    (parked : law → node.Lawful → ∀ packet, Ierp.Parks ierp.pending packet →
      packet.header.src = node.address) : Quiet law node { node with ierp := ierp } :=
  ⟨rfl, rfl, rfl, rfl, rfl, fun holds lawful => { lawful with parked := parked holds lawful }⟩

/-- A discovery keeps the law when the packet parked behind it is our own. -/
theorem startDiscovery_quiet (target : Address) (park : Option Packet) (now : Nat)
    (own : law → ∀ packet ∈ park, packet.header.src = node.address) :
    Quiet law node (node.startDiscovery target park now) := by
  have drawn : Quiet law node _ := node.newPacketId_quiet
  refine (drawn.trans (withIerp_quiet _ ?_)).trans (sendRouteRequest_quiet _ _)
  intro holds lawful packet parks
  have before : Ierp.Parks node.newPacketId.1.ierp.pending packet →
      packet.header.src = node.newPacketId.1.address := lawful.parked packet
  cases park with
  | none => exact before (Ierp.parks_start parks)
  | some parked =>
    rcases Ierp.parks_queue parks with same | earlier
    · rw [same, drawn.address]
      exact own holds parked rfl
    · exact before (Ierp.parks_start earlier)

/-- Routing a packet is quiet when the law makes it one of our own. -/
theorem routeUnicast_parked (own : law → packet.header.src = node.address) :
    Quiet law node (node.routeUnicast packet now).1 := by
  simp only [routeUnicast]
  split
  · exact enqueuePacket_quiet _ _ _ _ _ (fun holds _ => MaySend.own (own holds))
  · cases node.nextHopFor packet.header.dst now with
    | some hop =>
      simp only
      have touched : Quiet law node
          { node with routes := node.routes.touch packet.header.dst hop now } :=
        .outside rfl rfl (bearings_of_hops (node.routes.touch_hops packet.header.dst hop now))
      have tracked := touched.trans (trackHop_quiet _
        { packet with header := { packet.header with nextHop := hop.short } } hop now false
        (fun holds _ => MaySend.own (own holds)))
      refine tracked.trans (enqueuePacket_quiet _ _ _ _ _ ?_)
      intro holds _
      rw [tracked.address]
      exact MaySend.own (own holds)
    | none =>
      simp only
      split
      · refine withIerp_quiet _ ?_
        intro holds lawful other parks
        rcases Ierp.parks_queue parks with same | earlier
        · rw [same]
          exact own holds
        · exact lawful.parked other earlier
      · split
        · exact .refl node
        · change Quiet law node (node.startDiscovery packet.header.dst (some packet) now)
          refine startDiscovery_quiet _ _ _ _ ?_
          intro holds other member
          cases member
          exact own holds

/-- Routing a packet of our own is quiet. -/
theorem routeUnicast_quiet (own : packet.header.src = node.address) :
    Quiet law node (node.routeUnicast packet now).1 :=
  node.routeUnicast_parked packet now (fun _ => own)

/-- A packet built on a header of our own is routed quietly. -/
theorem routeBased_quiet {packet : Packet} {now : Nat}
    (same : packet.header.src = (node.baseHeader ptype dst ttl).2.src) :
    Quiet law node ((node.baseHeader ptype dst ttl).1.routeUnicast packet now).1 := by
  have based : Quiet law node _ := node.baseHeader_quiet ptype dst ttl
  refine based.trans (routeUnicast_quiet _ _ _ ?_)
  rw [same, based.address, baseHeader_src]

/-- A packet built on a header of our own is queued quietly. -/
theorem enqueueBased_quiet {packet : Packet} {notBefore priority : Nat}
    (same : packet.header.src = (node.baseHeader ptype dst ttl).2.src) :
    Quiet law node
      ((node.baseHeader ptype dst ttl).1.enqueuePacket packet notBefore priority false).1 := by
  have based : Quiet law node _ := node.baseHeader_quiet ptype dst ttl
  refine based.trans (enqueuePacket_own _ _ ?_)
  rw [same, based.address, baseHeader_src]

theorem sendBeacon_quiet : Quiet law node (node.sendBeacon now) := by
  have scheduled : Quiet law node (node.scheduleBeacon now) := .outside rfl rfl rfl
  exact scheduled.trans (enqueueBased_quiet _ _ _ _ rfl)

/-- Scheduling a reply of our own is quiet. -/
theorem scheduleReply_quiet {rng : Rng} {reply : PendingReply}
    (own : reply.packet.header.src = node.address) :
    Quiet law node { node with rng := rng, rrepPending := node.rrepPending.schedule reply } := by
  refine ⟨rfl, rfl, rfl, rfl, rfl, ?_⟩
  intro _ lawful
  refine { lawful with replies := ?_ }
  intro pending member
  simp only [radio, PendingReplies.schedule] at member
  split at member
  · rcases mem_append.mp member with earlier | new
    · exact lawful.replies pending earlier
    · rw [mem_singleton.mp new]
      exact own
  · exact lawful.replies pending member

theorem sendRouteReply_quiet (origin : Address) (reply : RouteReply) (now : Nat) :
    Quiet law node (node.sendRouteReply origin reply now) := by
  have marked : Quiet law node
      { node with ierp := (node.ierp.markReplied origin reply.reqId).1 } := by
    refine withIerp_quiet _ ?_
    intro _ lawful packet parks
    rw [Ierp.markReplied_pending] at parks
    exact lawful.parked packet parks
  simp only [sendRouteReply]
  split
  · exact .refl node
  · split
    · exact marked
    · refine (marked.trans (baseHeader_quiet _ _ _ _)).trans (scheduleReply_quiet _ ?_)
      exact baseHeader_src _ _ _ _

theorem sendRouteError_quiet {recipient unreachable : Address} {now : Nat} :
    Quiet law node (node.sendRouteError recipient unreachable now) := by
  simp only [sendRouteError]
  split
  · exact .refl node
  · split
    · exact routeBased_quiet _ _ _ _ rfl
    · exact baseHeader_quiet _ _ _ _

theorem sendLinkAck_quiet {recipient : Address} {packetId : UInt32} {now : Nat} :
    Quiet law node (node.sendLinkAck recipient packetId now) := enqueueBased_quiet _ _ _ _ rfl

theorem sendHandshakePacket_quiet (peer : Address) (number : HandshakeMessage)
    (message : Bytes) (now : Nat) :
    Quiet law node (node.sendHandshakePacket peer number message now) :=
  routeBased_quiet _ _ _ _ rfl

/-- The first fragment keeps the packet id of the header, the others draw their own. -/
theorem routeFragment_quiet {header : Header} (first : Bool) (part : FragHeader × Bytes)
    (now : Nat) (own : header.src = node.address) :
    Quiet law node ((if first then (node, header.packetId) else node.newPacketId).1.routeUnicast
      ⟨{ header with packetId := (if first then (node, header.packetId) else node.newPacketId).2 },
        frameFragment part.1 part.2⟩ now).1 := by
  have drawn : Quiet law node (if first then (node, header.packetId) else node.newPacketId).1 := by
    cases first with
    | true => exact .refl node
    | false => exact node.newPacketId_quiet
  exact drawn.trans (routeUnicast_quiet _ _ now (own.trans drawn.address.symm))

theorem sendEnvelopeFragments_quiet {header : Header} {now : Nat}
    {parts : List (FragHeader × Bytes)} (first : Bool) (node : Node)
    (own : header.src = node.address) :
    Quiet law node (sendEnvelopeFragments header now parts first node) := by
  induction parts generalizing first node with
  | nil => exact .refl node
  | cons part rest ih =>
    have routed : Quiet law node _ := node.routeFragment_quiet first part now own
    refine routed.trans (ih false _ ?_)
    exact own.trans routed.address.symm

theorem sendEnvelopeData_quiet (envelopeId : UInt32) (envelope : Bytes) (now : Nat) :
    Quiet law node (node.sendEnvelopeData dst envelopeId envelope now) := by
  have based : Quiet law node _ := node.baseHeader_quiet .data dst (node.ttlFor dst)
  have numbered : Quiet law node { (node.baseHeader .data dst (node.ttlFor dst)).1 with
      transport := (node.baseHeader .data dst (node.ttlFor dst)).1.transport.nextSeq.1 } :=
    based.trans (.outside rfl rfl rfl)
  have own : (node.baseHeader .data dst (node.ttlFor dst)).2.src = node.address :=
    baseHeader_src _ _ _ _
  simp only [sendEnvelopeData]
  split
  · refine numbered.trans (routeUnicast_quiet _ _ _ ?_)
    exact own.trans numbered.address.symm
  · have counted : Quiet law node { (node.baseHeader .data dst (node.ttlFor dst)).1 with
        transport := (node.baseHeader .data dst (node.ttlFor dst)).1.transport.nextSeq.1
        fragId := (node.baseHeader .data dst (node.ttlFor dst)).1.fragId + 1 } :=
      numbered.trans (.outside rfl rfl rfl)
    split
    · refine counted.trans (sendEnvelopeFragments_quiet _ _ ?_)
      exact own.trans counted.address.symm
    · exact counted

end Node

end MeshStar

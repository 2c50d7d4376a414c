import MeshStar.Node.NoticeLaw
import MeshStar.Relay.Receive

/-!
# Which relayed copies confirm a hop

A unicast transmission stays pending until its next hop confirms it, by a link
acknowledgement or by relaying the packet. The confirmation by a relayed copy stands
behind the early returns of the receive path: a packet whose source is the receiver
itself never gets that far, hence what a node sends on its own account is confirmed by a
link acknowledgement or not at all.
-/

namespace MeshStar

open List

section Awaited

/-! A table of awaited confirmations, for a node and a relay alike: an entry is a packet and
the next hop that should confirm it. -/

variable {σ α : Type}

/-- Removing what a next hop confirmed removes its entry and no other. -/
theorem mem_awaited_filter {key : α → PacketKey} {nextHop : α → Address} (table : List α)
    (confirmed : PacketKey) (sender : Address) (entry : PacketKey × Address) :
    entry ∈ (table.filter (fun hop => !(key hop == confirmed && nextHop hop == sender))).map
        (fun hop => (key hop, nextHop hop)) ↔
      entry ∈ table.map (fun hop => (key hop, nextHop hop)) ∧ entry ≠ (confirmed, sender) := by
  simp only [mem_map, mem_filter, Bool.not_eq_true', ← Bool.not_eq_true,
    Bool.and_eq_true, beq_iff_eq]
  constructor
  · rintro ⟨hop, ⟨member, other⟩, rfl⟩
    exact ⟨⟨hop, member, rfl⟩, fun same => other (Prod.mk.inj same)⟩
  · rintro ⟨⟨hop, member, rfl⟩, other⟩
    exact ⟨hop, ⟨member, fun same => other (Prod.ext same.1 same.2)⟩, rfl⟩

/-- The packets a link acknowledgement is about. -/
theorem mem_acked {key : α → PacketKey} {nextHop : α → Address} (table : List α) (id : UInt32)
    (sender : Address) (acked : PacketKey) :
    acked ∈ (table.filter (fun hop => (key hop).id == id && nextHop hop == sender)).map key ↔
      acked.id = id ∧ (acked, sender) ∈ table.map (fun hop => (key hop, nextHop hop)) := by
  simp only [mem_map, mem_filter, Bool.and_eq_true, beq_iff_eq, Prod.mk.injEq]
  constructor
  · rintro ⟨hop, ⟨member, sameId, sameHop⟩, rfl⟩
    exact ⟨sameId, hop, member, rfl, sameHop⟩
  · rintro ⟨sameId, hop, member, rfl, sameHop⟩
    exact ⟨hop, ⟨member, sameId, sameHop⟩, rfl⟩

variable {awaits : σ → List (PacketKey × Address)} {confirm : σ → PacketKey → σ} {sender : Address}

/-- What is awaited after a series of confirmations by one sender. -/
theorem mem_awaits_foldl (each : ∀ state key entry,
      entry ∈ awaits (confirm state key) ↔ entry ∈ awaits state ∧ entry ≠ (key, sender))
    (keys : List PacketKey) (state : σ) (entry : PacketKey × Address) :
    entry ∈ awaits (keys.foldl confirm state) ↔
      entry ∈ awaits state ∧ ∀ key ∈ keys, entry ≠ (key, sender) := by
  induction keys generalizing state with
  | nil => simp
  | cons key rest ih =>
    rw [foldl_cons, ih, each, forall_mem_cons, and_assoc]

/-- What is awaited after the confirmation of all packets of one id. -/
theorem mem_awaits_acked (each : ∀ state key entry,
      entry ∈ awaits (confirm state key) ↔ entry ∈ awaits state ∧ entry ≠ (key, sender))
    {keys : List PacketKey} {state : σ} {id : UInt32}
    (listed : ∀ key, key ∈ keys ↔ key.id = id ∧ (key, sender) ∈ awaits state)
    (entry : PacketKey × Address) :
    entry ∈ awaits (keys.foldl confirm state) ↔
      entry ∈ awaits state ∧ ¬(entry.1.id = id ∧ entry.2 = sender) := by
  rw [mem_awaits_foldl each]
  apply and_congr_right
  intro member
  constructor
  · rintro untouched ⟨sameId, rfl⟩
    exact untouched entry.1 ((listed entry.1).mpr ⟨sameId, member⟩) rfl
  · rintro other key acked rfl
    exact other ⟨((listed key).mp acked).1, rfl⟩

end Awaited

/-- The packet id that a link acknowledgement names. -/
def acknowledgedId (packet : Packet) : UInt32 :=
  UInt32.ofNat (BigEndian.decode (packet.payload.drop 1))

/-- What is awaited, a packet and the next hop that should confirm it, is released on the way
through a list of states: one of them no longer awaits it. -/
def Released {σ : Type} (awaits : σ → List (PacketKey × Address)) (states : List σ)
    (entry : PacketKey × Address) : Prop :=
  ∃ state ∈ states, entry ∉ awaits state

variable [Primitives]

variable {entry : PacketKey × Address}

namespace Node

variable (node : Node) {packet : Packet} (peer : Address) {before : Node} (now : Nat)

/-- The packets that wait for a confirmation, each with its next hop. -/
def awaits (node : Node) : List (PacketKey × Address) :=
  node.hopPending.map (fun hop => (hop.key, hop.nextHop))

section

omit [Primitives]

/-- A confirmation by a next hop removes the packet it confirms. -/
theorem mem_hopConfirmed (key : PacketKey) (sender : Address) (entry : PacketKey × Address) :
    entry ∈ (node.hopConfirmed key sender).awaits ↔
      entry ∈ node.awaits ∧ entry ≠ (key, sender) := by
  have filtered : (node.hopConfirmed key sender).hopPending =
      node.hopPending.filter (fun hop => !(hop.key == key && hop.nextHop == sender)) := by
    simp only [hopConfirmed]
    split <;> rfl
  rw [awaits, filtered]
  exact mem_awaited_filter node.hopPending key sender entry

/-- A link acknowledgement removes what waits for its sender under its packet id. -/
theorem mem_handleLinkAck (packet : Packet) (sender : Address) (entry : PacketKey × Address) :
    entry ∈ (node.handleLinkAck packet (some sender)).awaits ↔
      entry ∈ node.awaits ∧ ¬(entry.1.id = acknowledgedId packet ∧ entry.2 = sender) :=
  mem_awaits_acked (fun state key => mem_hopConfirmed state key sender)
    (mem_acked node.hopPending (acknowledgedId packet) sender) entry

end

/-- The state in which the acknowledgement that a packet is, or stands for, has been taken. -/
def acknowledge (node : Node) (packet : Packet) (rxMeta : RxMeta) (now : Nat) : Node :=
  let active := node.attend packet rxMeta now
  if active.isLinkAck packet then active.handleLinkAck packet (node.transmitterOf packet)
  else if active.isNoSessionNotice packet then active
  else active.implicitAck packet (node.transmitterOf packet)

/-- What follows once a packet was taken as an acknowledgement. -/
def proceed (node : Node) (packet : Packet) (prev : Option Address) (rxMeta : RxMeta)
    (now : Nat) : Node :=
  if node.isLinkAck packet then node
  else if node.isNoSessionNotice packet then node.onNoSessionNotice packet.header.src now
  else
    let passed := node.passesOnce packet now
    if passed.2 then (passed.1.prepare packet prev now).dispatch packet prev rxMeta now
    else passed.1.onDuplicate packet prev now

/-- Only the address of a node decides what it takes for a link acknowledgement. -/
theorem isLinkAck_congr {node other : Node} (same : other.address = node.address)
    (packet : Packet) : other.isLinkAck packet = node.isLinkAck packet := by
  rw [isLinkAck, isLinkAck, same]

/-- Only the address of a node decides what it takes for a notice. -/
theorem isNoSessionNotice_congr {node other : Node} (same : other.address = node.address)
    (packet : Packet) : other.isNoSessionNotice packet = node.isNoSessionNotice packet := by
  rw [isNoSessionNotice, isNoSessionNotice, same]

/-- Attending to a packet leaves the address and the pending hops alone. -/
theorem attend_pending (packet : Packet) (rxMeta : RxMeta) (now : Nat) :
    (node.attend packet rxMeta now).address = node.address ∧
      (node.attend packet rxMeta now).hopPending = node.hopPending := by
  have heard : (node.hear (node.transmitterOf packet) rxMeta now).address = node.address ∧
      (node.hear (node.transmitterOf packet) rxMeta now).hopPending = node.hopPending := by
    cases node.transmitterOf packet with
    | none => exact ⟨rfl, rfl⟩
    | some transmitter => exact ⟨rfl, rfl⟩
  simp only [attend]
  split <;> exact heard

/-- Taking acknowledgements leaves the address alone. -/
theorem acknowledge_address (packet : Packet) (rxMeta : RxMeta) (now : Nat) :
    (node.acknowledge packet rxMeta now).address = node.address := by
  have attended := (node.attend_pending packet rxMeta now).1
  have linked : Quiet False _ ((node.attend packet rxMeta now).handleLinkAck packet
      (node.transmitterOf packet)) := handleLinkAck_quiet _ _ _
  have implied : Quiet False _ ((node.attend packet rxMeta now).implicitAck packet
      (node.transmitterOf packet)) := implicitAck_quiet _ _ _
  simp only [acknowledge]
  split
  · exact linked.address.trans attended
  · split
    · exact attended
    · exact implied.address.trans attended

/-- A packet other than a beacon is handled in two stages. -/
theorem onPacket_stages (packet : Packet) (rxMeta : RxMeta) {now : Nat}
    (kind : packet.header.ptype ≠ .beacon) :
    node.onPacket packet rxMeta now = (node.acknowledge packet rxMeta now).proceed packet
      (node.transmitterOf packet) rxMeta now := by
  have attended := (node.attend_pending packet rxMeta now).1
  have address := node.acknowledge_address packet rxMeta now
  simp only [onPacket_attend _ _ _ _ kind]
  rw [proceed, isLinkAck_congr attended, isNoSessionNotice_congr attended,
    isLinkAck_congr address, isNoSessionNotice_congr address, acknowledge,
    isLinkAck_congr attended, isNoSessionNotice_congr attended]
  by_cases linked : node.isLinkAck packet = true
  · simp only [if_pos linked]
  · by_cases notice : node.isNoSessionNotice packet = true
    · simp only [if_neg linked, if_pos notice]
    · simp only [if_neg linked, if_neg notice]

/-- The states a node passes through while it handles a frame: for a foreign packet the
one in which its acknowledgement has been taken, and the last. -/
def handled (node : Node) (frame : Bytes) (rxMeta : RxMeta) : List Node :=
  match node.incoming frame with
  | none => [node.onRadioRx frame rxMeta]
  | some packet =>
    [(node.noted frame rxMeta packet).acknowledge packet rxMeta (max node.now rxMeta.timestampMs),
      node.onRadioRx frame rxMeta]

/-- Whether a relayed packet counts as a confirmation: it is not our own, it is no notice of
a missing session, and a link acknowledgement names its own packet id. -/
def confirmsHop (node : Node) (packet : Packet) : Bool :=
  packet.header.src != node.address && !node.isNoSessionNotice packet &&
    (!node.isLinkAck packet || acknowledgedId packet == packet.header.packetId)

/-- What is pending for packets of other sources stays pending. -/
def KeepsForeign (before after : Node) : Prop :=
  after.address = before.address ∧
    ∀ hop ∈ before.hopPending, hop.key.src ≠ before.address → hop ∈ after.hopPending

variable {after : Node}

theorem KeepsForeign.trans {middle : Node} (first : KeepsForeign before middle)
    (second : KeepsForeign middle after) : KeepsForeign before after :=
  ⟨second.1.trans first.1, fun hop member foreign =>
    second.2 hop (first.2 hop member foreign) (first.1 ▸ foreign)⟩

/-- A change that leaves the pending hops and the address alone. -/
theorem KeepsForeign.ofSame (id : after.id = before.id)
    (hops : after.hopPending = before.hopPending) : KeepsForeign before after :=
  ⟨congrArg Identity.address id, fun _ member _ => hops ▸ member⟩

/-- Tracking a packet of our own keeps what is pending for others. -/
theorem trackHop_keepsForeign (packet : Packet) (nextHop : Address) (now : Nat)
    (isRelay : Bool) (own : packet.header.src = node.address) :
    KeepsForeign node (node.trackHop packet nextHop now isRelay) := by
  simp only [trackHop]
  split
  · exact .ofSame rfl rfl
  · constructor
    · rfl
    · intro hop member foreign
      apply mem_append_left
      apply mem_filter.mpr
      constructor
      · exact member
      · rw [bne_iff_ne]
        rintro same
        exact foreign ((congrArg PacketKey.src same).trans own)

/-- Queueing a frame leaves the pending hops alone. -/
theorem enqueuePacket_keepsForeign {packet : Packet} {notBefore priority : Nat} {isRelay : Bool} :
    KeepsForeign node (node.enqueuePacket packet notBefore priority isRelay).1 := by
  simp only [enqueuePacket]
  split
  · exact .ofSame rfl rfl
  · split
    · exact .ofSame rfl rfl
    · exact .ofSame rfl rfl

/-- Flooding a request leaves the pending hops alone. -/
theorem sendRouteRequest_keepsForeign {target : Address} {reqId : UInt32}
    {ttl : UInt8} {now : Nat} : KeepsForeign node (node.sendRouteRequest target reqId ttl now) := by
  have drawn : KeepsForeign node (node.baseHeader .routeRequest Address.broadcast ttl).1 :=
    .ofSame rfl rfl
  exact drawn.trans (enqueuePacket_keepsForeign _)

theorem startDiscovery_keepsForeign {target : Address} {park : Option Packet}
    {now : Nat} : KeepsForeign node (node.startDiscovery target park now) := by
  simp only [startDiscovery]
  apply KeepsForeign.trans _ (sendRouteRequest_keepsForeign _)
  exact .ofSame rfl rfl

/-- Routing a packet of our own keeps what is pending for others. -/
theorem routeUnicast_keepsForeign (own : packet.header.src = node.address) :
    KeepsForeign node (node.routeUnicast packet now).1 := by
  simp only [routeUnicast]
  split
  · exact enqueuePacket_keepsForeign _
  · split
    · rename_i hop _
      have touched : KeepsForeign node { node with
          routes := node.routes.touch packet.header.dst hop now } := .ofSame rfl rfl
      have tracked := touched.trans (trackHop_keepsForeign { node with
          routes := node.routes.touch packet.header.dst hop now }
        { packet with header := { packet.header with nextHop := hop.short } } hop now false own)
      exact tracked.trans (enqueuePacket_keepsForeign _)
    · split
      · exact .ofSame rfl rfl
      · split
        · exact .ofSame rfl rfl
        · exact startDiscovery_keepsForeign _

theorem sendHandshakePacket_keepsForeign {number : HandshakeMessage} {message : Bytes} {now : Nat} :
    KeepsForeign node (node.sendHandshakePacket peer number message now) := by
  have drawn : KeepsForeign node (node.baseHeader .handshake peer (node.ttlFor peer)).1 :=
    .ofSame rfl rfl
  exact drawn.trans (routeUnicast_keepsForeign _ _
    (node.baseHeader_fields .handshake peer (node.ttlFor peer)).1)

theorem startHandshake_keepsForeign : KeepsForeign node (node.startHandshake peer now) := by
  simp only [startHandshake]
  split
  · exact .ofSame rfl rfl
  · split
    · exact .ofSame rfl rfl
    · apply KeepsForeign.trans _ (sendHandshakePacket_keepsForeign _ _)
      exact .ofSame rfl rfl

theorem emit_keepsForeign {event : NodeEvent} : KeepsForeign node (node.emit event) := by
  simp only [emit]
  split <;> exact .ofSame rfl rfl

/-- Queueing a message for a peer without a session keeps what is pending for others. -/
theorem sendOrQueue_keepsForeign {send : QueuedSend} {now : Nat}
    (absent : node.sessions.get send.dst = none) :
    KeepsForeign node (node.sendOrQueue send now) := by
  have none_ : ¬node.sessions.contains send.dst = true := by
    rw [OrderedMap.contains, absent]
    exact Bool.false_ne_true
  simp only [sendOrQueue, if_neg none_]
  split
  · split
    · exact .ofSame rfl rfl
    · exact emit_keepsForeign _
  · have started := node.startHandshake_keepsForeign send.dst now
    split
    · exact started.trans (.ofSame rfl rfl)
    · exact started.trans (emit_keepsForeign _)

theorem requeue_keepsForeign (message : Outstanding) (absent : node.sessions.get peer = none) :
    KeepsForeign node (requeue peer now node message) := by
  simp only [requeue]
  split
  · exact .ofSame rfl rfl
  · exact sendOrQueue_keepsForeign _ absent

/-- Queueing a series of messages again keeps what is pending for others. -/
theorem requeueAll_keepsForeign {messages : List Outstanding}
    (node : Node) (absent : node.sessions.get peer = none) :
    KeepsForeign node (messages.foldl (requeue peer now) node) := by
  induction messages generalizing node with
  | nil => exact .ofSame rfl rfl
  | cons message rest ih =>
    have still : (requeue peer now node message).sessions.get peer = none :=
      Moves.session_absent (requeue_moves peer now node message) absent
    exact (node.requeue_keepsForeign peer now message absent).trans (ih _ still)

theorem resetSession_keepsForeign : KeepsForeign node (node.resetSession peer now) := by
  have dropped : (node.dropSession peer).sessions.get peer = none := by
    simp only [dropSession, emit]
    split <;> exact OrderedMap.get_remove_self _
  have dropping : KeepsForeign node (node.dropSession peer) := by
    apply KeepsForeign.trans _ (emit_keepsForeign _)
    exact .ofSame rfl rfl
  have cleared : KeepsForeign (node.dropSession peer) { node.dropSession peer with
      transport := ((node.dropSession peer).transport.failAllTo peer).1 } := .ofSame rfl rfl
  exact (dropping.trans cleared).trans (requeueAll_keepsForeign peer now _ dropped)

/-- Answering a notice keeps what is pending for the packets of others. -/
theorem onNoSessionNotice_keepsForeign : KeepsForeign node (node.onNoSessionNotice peer now) := by
  simp only [onNoSessionNotice]
  split
  · exact .ofSame rfl rfl
  · split
    · split
      · apply KeepsForeign.trans _ (sendHandshakePacket_keepsForeign _ _)
        exact .ofSame rfl rfl
      · exact node.resetSession_keepsForeign peer now
    · exact node.resetSession_keepsForeign peer now

theorem KeepsForeign.awaits (kept : KeepsForeign before after) (member : entry ∈ before.awaits)
    (foreign : entry.1.src ≠ before.address) : entry ∈ after.awaits := by
  obtain ⟨hop, pending, rfl⟩ := mem_map.mp member
  exact mem_map.mpr ⟨hop, kept.2 hop pending foreign, rfl⟩

variable {node}

/-- A packet is not a link acknowledgement and a notice at once. -/
theorem isNoSessionNotice_of_isLinkAck (linked : node.isLinkAck packet = true) :
    node.isNoSessionNotice packet = false := by
  simp only [isLinkAck, Bool.and_eq_true, beq_iff_eq] at linked
  have long : packet.payload ≠ [Control.noSession] := by
    intro short
    have length := linked.1.2
    rw [short] at length
    cases length
  simp [isNoSessionNotice, long]

variable (rxMeta : RxMeta)

/-- What a node awaits once the acknowledgement of a packet relayed by `sender` has been
taken. -/
theorem mem_acknowledge (now : Nat) (relayed : packet.header.hops > 0) {sender : Address}
    (transmitter : node.transmitterOf packet = some sender) (entry : PacketKey × Address) :
    entry ∈ (node.acknowledge packet rxMeta now).awaits ↔ entry ∈ node.awaits ∧
      if node.isLinkAck packet then ¬(entry.1.id = acknowledgedId packet ∧ entry.2 = sender)
      else if node.isNoSessionNotice packet then True
      else entry ≠ (packet.header.key, sender) := by
  obtain ⟨address, pending⟩ := node.attend_pending packet rxMeta now
  have same : (node.attend packet rxMeta now).awaits = node.awaits := by
    rw [awaits, pending, awaits]
  rw [acknowledge, isLinkAck_congr address, isNoSessionNotice_congr address, transmitter]
  by_cases linked : node.isLinkAck packet = true
  · simp only [if_pos linked]
    rw [mem_handleLinkAck, same]
  · by_cases notice : node.isNoSessionNotice packet = true
    · simp only [if_neg linked, if_pos notice, and_true]
      rw [same]
    · simp only [if_neg linked, if_neg notice, implicitAck, if_pos relayed]
      rw [mem_hopConfirmed, same]

/-- Taking the acknowledgement releases what waits for the relay of a packet, unless the
packet is a link acknowledgement for another or a notice. -/
theorem notMem_acknowledge (now : Nat) (foreign : packet.header.src ≠ node.address)
    (pending : entry ∈ node.awaits) (key : packet.header.key = entry.1)
    (relayed : packet.header.hops > 0) (transmitter : node.transmitterOf packet = some entry.2) :
    entry ∉ (node.acknowledge packet rxMeta now).awaits ↔ node.confirmsHop packet = true := by
  have id : entry.1.id = packet.header.packetId := (congrArg PacketKey.id key).symm
  have confirms : node.confirmsHop packet = (!node.isNoSessionNotice packet &&
      (!node.isLinkAck packet || acknowledgedId packet == packet.header.packetId)) := by
    rw [confirmsHop, bne_iff_ne.mpr foreign, Bool.true_and]
  rw [mem_acknowledge rxMeta now relayed transmitter, confirms]
  by_cases linked : node.isLinkAck packet = true
  · rw [if_pos linked, isNoSessionNotice_of_isLinkAck linked, linked, id]
    by_cases named : acknowledgedId packet = packet.header.packetId
    · simp [pending, named]
    · simp [pending, named, Ne.symm named]
  · by_cases notice : node.isNoSessionNotice packet = true
    · simp [linked, notice, pending]
    · simp [linked, notice, key]

/-- A packet that is no confirmation leaves what is awaited for its source. -/
theorem mem_proceed {prev : Option Address} (rxMeta : RxMeta)
    (now : Nat) (foreign : packet.header.src ≠ node.address)
    {refused : node.confirmsHop packet = false}
    (key : packet.header.key = entry.1) (member : entry ∈ node.awaits) :
    entry ∈ (node.proceed packet prev rxMeta now).awaits := by
  simp only [proceed]
  by_cases linked : node.isLinkAck packet = true
  · rw [if_pos linked]
    exact member
  · rw [if_neg linked]
    have notice : node.isNoSessionNotice packet = true := by
      simpa [confirmsHop, foreign, linked] using refused
    rw [if_pos notice]
    apply (node.onNoSessionNotice_keepsForeign packet.header.src now).awaits member
    rw [← key]
    exact foreign

/-- What waits for the relay of a foreign packet is released while the packet is handled
exactly when the acknowledgement stage releases it. -/
theorem released_foreign (now : Nat) (foreign : packet.header.src ≠ node.address)
    (pending : entry ∈ node.awaits) (key : packet.header.key = entry.1)
    (relayed : packet.header.hops > 0) (transmitter : node.transmitterOf packet = some entry.2) :
    Released awaits [node.acknowledge packet rxMeta now,
        (node.acknowledge packet rxMeta now).proceed packet (node.transmitterOf packet) rxMeta
          now] entry ↔ node.confirmsHop packet = true := by
  have taken := notMem_acknowledge rxMeta now foreign pending key relayed transmitter
  have address := node.acknowledge_address packet rxMeta now
  constructor
  · rintro ⟨state, member, gone⟩
    by_contra refused
    have still : entry ∈ (node.acknowledge packet rxMeta now).awaits :=
      not_not.mp (fun absent => refused (taken.mp absent))
    rcases mem_pair.mp member with rfl | rfl
    · exact gone still
    · apply gone
      apply mem_proceed rxMeta now (fun same => foreign (same.trans address)) key still
      rw [confirmsHop, address, isLinkAck_congr address, isNoSessionNotice_congr address]
      exact Bool.not_eq_true _ ▸ refused
  · intro confirmed
    exact ⟨_, mem_cons_self, taken.mpr confirmed⟩

/-- An awake node receives a frame that decodes to a packet it awaits, relayed by the next
hop that should confirm it. -/
structure Overhears (node : Node) (frame : Bytes) (packet : Packet)
    (entry : PacketKey × Address) : Prop where
  awake : node.power.awake = true
  decoded : Packet.decode frame node.cfg.networkKey node.cfg.maxTtl = .ok packet
  kind : packet.header.ptype ≠ .beacon
  pending : entry ∈ node.awaits
  key : packet.header.key = entry.1
  relayed : packet.header.hops > 0
  resolved : (node.neighbors.resolveShort packet.header.relay).map Neighbor.addr = some entry.2

/-- A frame relayed by the next hop releases what waits for it exactly when it gets past the
early returns of the receive path. -/
theorem released_iff {frame : Bytes} (overheard : node.Overhears frame packet entry) :
    Released awaits (node.handled frame rxMeta) entry ↔ node.confirmsHop packet = true := by
  obtain ⟨awake, decoded, kind, pending, key, relayed, resolved⟩ := overheard
  by_cases own : packet.header.src = node.address
  · have incoming : node.incoming frame = none := by
      rw [Node.incoming, if_pos awake, decoded]
      exact if_pos own
    have dropped : node.onRadioRx frame rxMeta = node.tuned frame rxMeta := by
      rw [onRadioRx_eq, awake, decoded]
      exact if_pos own
    have refused : node.confirmsHop packet = false := by
      simp [confirmsHop, own]
    rw [handled, incoming, dropped, refused]
    have still : entry ∈ (node.tuned frame rxMeta).awaits := pending
    simpa [Released] using still
  · have incoming : node.incoming frame = some packet := by
      rw [Node.incoming, if_pos awake, decoded]
      exact if_neg own
    have received : node.onRadioRx frame rxMeta = (node.noted frame rxMeta packet).onPacket packet
        rxMeta (node.clock rxMeta) := by
      rw [onRadioRx_eq, awake, decoded]
      exact if_neg own
    have transmitter : (node.noted frame rxMeta packet).transmitterOf packet = some entry.2 := by
      rw [transmitterOf, if_neg (UInt8.pos_iff_ne_zero.mp relayed)]
      exact resolved
    rw [handled, incoming, received, onPacket_stages _ packet rxMeta kind]
    exact released_foreign rxMeta _ own pending key relayed transmitter

end Node

namespace Relay

/-- The packets that wait for a confirmation, each with its next hop. -/
def awaits (relay : Relay) : List (PacketKey × Address) :=
  relay.hopPending.map (fun hop => (hop.key, hop.nextHop))

variable (relay : Relay)

omit [Primitives] in
/-- A confirmation by a next hop removes the packet it confirms. -/
theorem mem_hopConfirmed (key : PacketKey) (sender : Address) (entry : PacketKey × Address) :
    entry ∈ (relay.hopConfirmed key sender).awaits ↔
      entry ∈ relay.awaits ∧ entry ≠ (key, sender) := by
  have filtered : (relay.hopConfirmed key sender).hopPending =
      relay.hopPending.filter (fun hop => !(hop.key == key && hop.nextHop == sender)) := by
    simp only [hopConfirmed]
    split <;> rfl
  rw [awaits, filtered]
  exact mem_awaited_filter relay.hopPending key sender entry

omit [Primitives] in
/-- A link acknowledgement removes what waits for its sender under its packet id. -/
theorem mem_handleLinkAck (packet : Packet) (sender : Address) (entry : PacketKey × Address) :
    entry ∈ (relay.handleLinkAck packet (some sender)).awaits ↔
      entry ∈ relay.awaits ∧ ¬(entry.1.id = acknowledgedId packet ∧ entry.2 = sender) :=
  mem_awaits_acked (fun state key => mem_hopConfirmed state key sender)
    (mem_acked relay.hopPending (acknowledgedId packet) sender) entry

/-- The states a relay passes through while it handles a frame: for a foreign packet the one
in which its acknowledgement has been taken, and the last. -/
def handled (relay : Relay) (frame : Bytes) (rxMeta : RxMeta) : List Relay :=
  let accounted := relay.hearFrame frame rxMeta
  match Packet.decode frame relay.cfg.networkKey relay.cfg.maxTtl with
  | .error _ => [relay.onRadioRx frame rxMeta]
  | .ok packet =>
    let prev := accounted.transmitterOf packet
    if packet.header.src = relay.address then [relay.onRadioRx frame rxMeta]
    else [(accounted.hear prev rxMeta accounted.now).acknowledge packet prev,
      relay.onRadioRx frame rxMeta]

/-- Whether a relayed packet counts as a confirmation: it is not our own, and a link
acknowledgement names its own packet id. -/
def confirmsHop (relay : Relay) (packet : Packet) : Bool :=
  packet.header.src != relay.address &&
    (!relay.isLinkAck packet || acknowledgedId packet == packet.header.packetId)

omit [Primitives] in
/-- Hearing a neighbour leaves the identity and what is awaited alone. -/
theorem hear_awaits (prev : Option Address) (rxMeta : RxMeta) (now : Nat) :
    (relay.hear prev rxMeta now).id = relay.id ∧
      (relay.hear prev rxMeta now).awaits = relay.awaits := by
  cases prev with
  | none => exact ⟨rfl, rfl⟩
  | some transmitter => exact ⟨rfl, rfl⟩

omit [Primitives] in
/-- Taking a link acknowledgement leaves the identity alone. -/
theorem handleLinkAck_id (packet : Packet) (prev : Option Address) :
    (relay.handleLinkAck packet prev).id = relay.id := by
  have confirmed (state : Relay) (key : PacketKey) (sender : Address) :
      (state.hopConfirmed key sender).id = state.id := by
    simp only [hopConfirmed]
    split <;> rfl
  simp only [handleLinkAck]
  cases prev with
  | none => rfl
  | some sender =>
    apply List.foldlRecOn (motive := fun state => Relay.id state = relay.id) _ _ rfl
    intro state same key _
    exact (confirmed state key sender).trans same

/-- What waits for the relay of a foreign packet is released while the packet is handled
exactly when the acknowledgement stage releases it. -/
theorem released_foreign {relay : Relay} {packet : Packet} (rxMeta : RxMeta) (now : Nat)
    (foreign : packet.header.src ≠ relay.address)
    (pending : entry ∈ relay.awaits) (key : packet.header.key = entry.1)
    (relayed : packet.header.hops > 0) :
    Released awaits [relay.acknowledge packet (some entry.2),
        (relay.acknowledge packet (some entry.2)).proceed packet (some entry.2) rxMeta now] entry ↔
      relay.confirmsHop packet = true := by
  have id : entry.1.id = packet.header.packetId := (congrArg PacketKey.id key).symm
  have confirms : relay.confirmsHop packet =
      (!relay.isLinkAck packet || acknowledgedId packet == packet.header.packetId) := by
    rw [confirmsHop, bne_iff_ne.mpr foreign, Bool.true_and]
  rw [confirms, acknowledge]
  by_cases linked : relay.isLinkAck packet = true
  · have same : (relay.handleLinkAck packet (some entry.2)).isLinkAck packet = true := by
      rw [isLinkAck, address, handleLinkAck_id]
      exact linked
    have finished : (relay.handleLinkAck packet (some entry.2)).proceed packet (some entry.2)
        rxMeta now = relay.handleLinkAck packet (some entry.2) := if_pos same
    have taken := relay.mem_handleLinkAck packet entry.2 entry
    rw [if_pos linked, finished, linked]
    constructor
    · rintro ⟨state, member, gone⟩
      have only : state = relay.handleLinkAck packet (some entry.2) := by
        rcases mem_pair.mp member with rfl | rfl <;> rfl
      rw [only, taken, id] at gone
      by_contra other
      apply gone
      constructor
      · exact pending
      · rintro ⟨named, _⟩
        exact other (beq_iff_eq.mpr named.symm)
    · intro named
      rw [Bool.not_true, Bool.false_or, beq_iff_eq] at named
      exact ⟨_, mem_cons_self, fun still => (taken.mp still).2 ⟨id.trans named.symm, rfl⟩⟩
  · rw [if_neg linked]
    apply iff_of_true
    · refine ⟨_, mem_cons_self, ?_⟩
      rw [implicitAck]
      simp only [if_pos relayed]
      rw [mem_hopConfirmed, key]
      exact fun still => still.2 rfl
    · simp [linked]

/-- A relay receives a frame that decodes to a packet it awaits, relayed by the next hop that
should confirm it. -/
structure Overhears (relay : Relay) (frame : Bytes) (packet : Packet)
    (entry : PacketKey × Address) : Prop where
  decoded : Packet.decode frame relay.cfg.networkKey relay.cfg.maxTtl = .ok packet
  kind : packet.header.ptype ≠ .beacon
  pending : entry ∈ relay.awaits
  key : packet.header.key = entry.1
  relayed : packet.header.hops > 0
  resolved : (relay.neighbors.resolveShort packet.header.relay).map Neighbor.addr = some entry.2

/-- A frame relayed by the next hop releases what waits for it exactly when it gets past the
early returns of the receive path. -/
theorem released_iff {relay : Relay} {frame : Bytes} (rxMeta : RxMeta) {packet : Packet}
    (overheard : relay.Overhears frame packet entry) :
    Released awaits (relay.handled frame rxMeta) entry ↔ relay.confirmsHop packet = true := by
  obtain ⟨decoded, kind, pending, key, relayed, resolved⟩ := overheard
  let accounted := relay.hearFrame frame rxMeta
  have received : relay.onRadioRx frame rxMeta = if packet.header.src = relay.address then accounted
      else accounted.onPacket packet rxMeta accounted.now := by
    rw [onRadioRx]
    change (match Packet.decode frame relay.cfg.networkKey relay.cfg.maxTtl with
      | .error _ => accounted
      | .ok packet => if packet.header.src = relay.address then accounted
        else accounted.onPacket packet rxMeta accounted.now) = _
    rw [decoded]
  by_cases own : packet.header.src = relay.address
  · have refused : relay.confirmsHop packet = false := by
      simp [confirmsHop, own]
    simp only [handled, decoded, if_pos own, received, refused]
    have still : entry ∈ accounted.awaits := pending
    simpa [Released] using still
  · have transmitter : accounted.transmitterOf packet = some entry.2 := by
      rw [transmitterOf, if_neg (UInt8.pos_iff_ne_zero.mp relayed)]
      exact resolved
    obtain ⟨sameId, same⟩ := accounted.hear_awaits (some entry.2) rxMeta accounted.now
    have address : (accounted.hear (some entry.2) rxMeta accounted.now).address = relay.address :=
      congrArg RelayIdentity.address sameId
    have confirms : (accounted.hear (some entry.2) rxMeta accounted.now).confirmsHop packet =
        relay.confirmsHop packet := by
      rw [confirmsHop, confirmsHop, isLinkAck, isLinkAck, address]
    simp only [handled, decoded, if_neg own, received, onPacket, if_neg kind]
    rw [← confirms, show (relay.hearFrame frame rxMeta).transmitterOf packet = some entry.2 from
      transmitter]
    exact released_foreign rxMeta accounted.now (address ▸ own) (same ▸ pending) key relayed

end Relay

/-- Overhearing the next hop releases what waits for it exactly when the packet confirms the
hop; a packet of the receiver's own never does. -/
theorem hop_released_iff : (∀ (node : Node) (frame : Bytes) (rxMeta : RxMeta) (packet : Packet)
        (entry : PacketKey × Address), node.Overhears frame packet entry →
      (Released Node.awaits (node.handled frame rxMeta) entry ↔ node.confirmsHop packet = true)) ∧
    ∀ (relay : Relay) (frame : Bytes) (rxMeta : RxMeta) (packet : Packet)
        (entry : PacketKey × Address), relay.Overhears frame packet entry →
      (Released Relay.awaits (relay.handled frame rxMeta) entry ↔
        relay.confirmsHop packet = true) := by
  constructor
  · intro node frame rxMeta packet entry overheard
    exact Node.released_iff rxMeta overheard
  · intro relay frame rxMeta packet entry overheard
    exact Relay.released_iff rxMeta overheard

end MeshStar

namespace MeshStar.Overheard

local instance overheardSuite : Primitives := Transparent.primitives

open Transparent

def host : Node := Node.new NodeConfig.default (identity 1) generator 0

def relay : Relay := Relay.withIdentity RelayConfig.default
  (signedIdentity (identity 1)) generator 0

/-- The next hop, the destination behind it and another source. -/
def hop : Address := (identity 2).address
def target : Address := (identity 4).address
def source : Address := (identity 3).address

/-- A beacon of the next hop that advertises the destination. -/
def beacon : Packet :=
  ⟨Header.new .beacon hop Address.broadcast 5 0 1,
    { Beacon.shortBeacon .normal 1 2 1 with zone := [⟨target, 1, 200, 0⟩] }.encode⟩

/-- The host knows its next hop and traces the destination through it. -/
def traced : Node :=
  (host.step (.receive (frame beacon) (heardAt 10))).step (.trace target)

/-- The trace packet, as the host transmits it to its next hop. -/
def ours : Packet :=
  ⟨{ Header.new .control host.address target 11 0 4 with nextHop := hop.short },
    [Control.traceReq]⟩

/-- The copy of a packet that the next hop transmits. -/
def copyOf (packet : Packet) : Packet :=
  traceStamp ((packet.nextCopy target.short).relayedBy hop) hop

/-- A packet of another source that the host, or the relay in its place, should forward. -/
def passing : Packet :=
  ⟨{ Header.new .data source target 7 3 5 with nextHop := host.address.short }, [1, 2, 3]⟩

/-- What the next hop transmits after the passing packet was forwarded to it. -/
def onward : Packet := copyOf ((passing.nextCopy hop.short).relayedBy host.address)

def forwarded : Node :=
  (host.step (.receive (frame beacon) (heardAt 10))).step
    (.receive (frame passing) (heardAt 15))

def relayed : Relay :=
  (relay.onRadioRx (frame beacon) (heardAt 10)).onRadioRx
    (frame passing) (heardAt 15)

/-- The next hop relays the host's own packet, and the host goes on waiting for it. -/
theorem own_packet_unreleased :
    traced.Overhears (frame (copyOf ours)) (copyOf ours) (ours.header.key, hop) ∧
      ¬Released Node.awaits (traced.handled (frame (copyOf ours)) (heardAt 20))
        (ours.header.key, hop) := by
  constructor
  · constructor <;> decide +kernel
  · unfold Released
    decide +kernel

/-- A forwarded packet is confirmed when the next hop relays it. -/
theorem forwarded_packet_released : Released Node.awaits
        (forwarded.handled (frame onward) (heardAt 20))
        (passing.header.key, hop) ∧
      Released Relay.awaits (relayed.handled (frame onward) (heardAt 20))
        (passing.header.key, hop) := by
  have byNode : forwarded.Overhears (frame onward) onward (passing.header.key, hop) := by
    constructor <;> decide +kernel
  have byRelay : relayed.Overhears (frame onward) onward (passing.header.key, hop) := by
    constructor <;> decide +kernel
  constructor
  · exact (hop_released_iff.1 forwarded _ _ onward _ byNode).mpr (by decide +kernel)
  · exact (hop_released_iff.2 relayed _ _ onward _ byRelay).mpr (by decide +kernel)

end MeshStar.Overheard

import MeshStar.Node.Admission

/-!
# A send that is reported as failed

Inside a session a message is sealed, cut into packets and routed before the table of
messages in flight is asked for a place, and a later fragment can be refused by a full
discovery after earlier ones were parked. In both cases the application is told that the
send failed while packets of it wait for transmission. A failed send has left nothing
behind exactly when the failure came before the router took anything, or the router had no
place for any of it.
-/

namespace MeshStar

open List

variable [Primitives]

namespace Node

/-- The transmit queue, the packets that wait for confirmation and the queues of the
discoveries hold no packet that was not there before. -/
def NothingNew (before after : Node) : Prop :=
  after.txQueue.Subperm before.txQueue ∧
    (after.hopPending.map HopPending.packet).Subperm (before.hopPending.map HopPending.packet) ∧
    ∀ target, (after.parkedFor target).Subperm (before.parkedFor target)

/-- The failure of a message was reported between two states. -/
def ReportsFailure (before after : Node) (handle : UInt32) : Prop :=
  ∃ recipient reason,
    NodeEvent.failed handle recipient reason ∈ after.events.drop before.events.length

/-- If the call reports the failure of its own message, it has left nothing of it. -/
def FailedUnsent (node : Node) (dst : Address) (payload : Bytes) (reliability : Reliability) :
    Prop :=
  ∀ handle, (node.sendMessage dst payload reliability).2 = .ok handle →
    ReportsFailure node (node.sendMessage dst payload reliability).1 handle →
      NothingNew node (node.sendMessage dst payload reliability).1

/-- The next packet with a next hop is tracked until it is confirmed. -/
def TracksHops (node : Node) : Prop :=
  node.cfg.routingMode ≠ .flood ∧ node.cfg.hopRetries ≠ 0 ∧ node.hopPending.length < 24

/-- The first packet to a destination leaves something behind: it is queued or tracked with
a next hop, and parked or preceded by a route request without one. -/
def Occupies (node : Node) (dst : Address) (now : Nat) : Prop :=
  if node.directs dst now then 0 < node.freeSlots ∨ node.TracksHops
  else 0 < node.waitingRoom dst now ∨ node.floodsRequest dst now = true

/-- A message of some packets is refused: the table of messages in flight is full, or the
discovery has no room for all of them. -/
def Refuses (node : Node) (dst : Address) (count : Nat) (reliability : Reliability) (now : Nat) :
    Prop :=
  (reliability = .acknowledged ∧
      node.transport.outstanding.length ≥ node.transport.cfg.maxInFlight) ∨
    (node.directs dst now = false ∧ node.waitingRoom dst now < count ∧
      ¬(count = 1 ∧ node.ierp.mayStart dst now = true))

/-- A message that is refused after the router took something of it. -/
def RefusedMidway (node : Node) (dst : Address) (payload : Bytes) (reliability : Reliability) :
    Prop :=
  ((dst.isNull || dst == node.address) = false ∧ payload.length ≤ 2048 ∧ dst.isBroadcast = false) ∧
    node.events.length < 256 ∧
    (∃ session, node.sessions.get dst = some session ∧ session.sendCtr < counterRekeyThreshold) ∧
    node.Refuses dst (packetCount node.cfg.networkKey.isSome (payload.length + transportOverhead))
      reliability node.now ∧
    node.Occupies dst node.now

/-! ## What the router leaves alone -/

variable {node : Node} {dst : Address} {now : Nat} {packets : List Packet}
  {result : Node × Except Error Unit}

omit [Primitives] in
/-- What a first packet leaves depends on what the router sees and on the request it would
flood. -/
theorem SameRouter.occupies {ready : Node} (same : SameRouter node ready)
    (asks : ∀ target, ready.requestFor target = node.requestFor target) :
    ready.Occupies dst now ↔ node.Occupies dst now := by
  have hops : ready.nextHopFor dst now = node.nextHopFor dst now := by
    simp only [nextHopFor, directHop, zoneHop, cachedHop, same.cfg, same.neighbors, same.zone,
      same.routes, same.attachedAnchor]
  simp only [Occupies, TracksHops, freeSlots, waitingRoom, floodsRequest, makeTxRoom,
    same.directs, same.cfg, same.txQueue, same.hopPending, same.ierp, hops, asks]

theorem routeUnicast_transport {node : Node} {packet : Packet} {now : Nat} :
    (node.routeUnicast packet now).1.transport = node.transport := by
  have queued (base : Node) (other : Packet) (priority : Nat) :
      (base.enqueuePacket other now priority false).1.transport = base.transport := by
    unfold enqueuePacket
    split
    · rfl
    · split
      · rfl
      · rfl
  have tracked (base : Node) (other : Packet) (hop : Address) :
      (base.trackHop other hop now false).transport = base.transport := by
    unfold trackHop
    split
    · rfl
    · rfl
  unfold routeUnicast
  simp only
  split
  · exact queued _ _ _
  · split
    · exact (queued _ _ _).trans (tracked _ _ _)
    · split
      · rfl
      · split
        · rfl
        · exact queued _ _ _

theorem Bursts.transport (bursts : Bursts now node packets result) :
    result.1.transport = node.transport := by
  induction bursts with
  | done => rfl
  | draw _ ih => exact ih
  | stop _ => exact routeUnicast_transport
  | route _ _ ih =>
    exact ih.trans routeUnicast_transport

/-! ## Without a next hop -/

/-- A packet that finds a place in the transmit queue is one more of our own there; any
other changes nothing. -/
theorem enqueuePacket_ownQueued (node : Node) (packet : Packet) (notBefore priority : Nat) :
    (node.enqueuePacket packet notBefore priority false).1.hopPending = node.hopPending ∧
      if node.queuesPacket packet = true then
        (node.enqueuePacket packet notBefore priority false).1.ownQueued = node.ownQueued + 1
      else (node.enqueuePacket packet notBefore priority false).1.txQueue = node.txQueue := by
  unfold enqueuePacket queuesPacket
  cases packet.encode node.cfg.networkKey with
  | error _ => exact ⟨rfl, rfl⟩
  | ok frame =>
    rcases node.makeTxRoom_cases with ⟨_, refused⟩ | ⟨queue, room, own, _⟩
    · rw [refused]
      exact ⟨rfl, rfl⟩
    · rw [room]
      refine ⟨rfl, ?_⟩
      simp [ownQueued, countP_append, own, Except.isOk, Except.toBool]

/-- A discovery that starts queues its request, if that finds a place. -/
theorem startDiscovery_queue (undirected : node.directs dst now = false)
    (may : node.ierp.mayStart dst now = true) (packet : Packet) :
    (node.startDiscovery dst (some packet) now).hopPending = node.hopPending ∧
      if node.floodsRequest dst now = true then
        (node.startDiscovery dst (some packet) now).ownQueued = node.ownQueued + 1
      else (node.startDiscovery dst (some packet) now).txQueue = node.txQueue := by
  have ways : node.cfg.routingMode ≠ .flood ∧ node.nextHopFor dst now = none := by
    simpa [directs] using undirected
  have idle : node.ierp.isPending dst = false := by
    rw [Ierp.isPending, OrderedMap.contains, Ierp.mayStart_idle may]
    rfl
  let ready : Node := { node.newPacketId.1 with
    ierp := ((node.ierp.start dst node.newPacketId.2 now).1.queue dst packet).1 }
  let ttl := (node.ierp.start dst node.newPacketId.2 now).2
  let request := ready.requestPacket dst node.newPacketId.2 ttl
  have encoded : (request.encode node.cfg.networkKey).isOk =
      decide ((node.requestFor dst).encode.length ≤ maxPayload node.cfg.networkKey.isSome) :=
    encode_isOk (ready.baseHeader_netAuth .routeRequest Address.broadcast ttl)
  have floods : node.floodsRequest dst now =
      (ready.baseHeader .routeRequest Address.broadcast ttl).1.queuesPacket request := by
    change _ = ((request.encode node.cfg.networkKey).isOk && node.makeTxRoom.isSome)
    rw [encoded]
    simp [floodsRequest, ways.1, ways.2, idle, may, Bool.and_comm]
  rw [floods]
  exact enqueuePacket_ownQueued _ request now Priority.beacon

/-- Behind a pending discovery packets leave the queues of the radio alone, and all of them
are accepted only if all are parked. -/
theorem Bursts.pending (bursts : Bursts now node packets result)
    (undirected : node.directs dst now = false) (pending : node.ierp.isPending dst = true)
    (toDst : ∀ packet ∈ packets, packet.header.dst = dst) :
    result.1.hopPending = node.hopPending ∧ result.1.txQueue = node.txQueue ∧
      (result.2 = .ok () → packets.length ≤ node.waitingRoom dst now) := by
  induction bursts with
  | done => exact ⟨rfl, rfl, fun _ => Nat.zero_le _⟩
  | draw _ ih => exact ih undirected pending toDst
  | @stop node packet rest error refused =>
    have waiting := (routeUnicast_waiting undirected (toDst packet mem_cons_self)).2 error refused
    rw [waiting.1]
    exact ⟨rfl, rfl, nofun⟩
  | @route node packet rest result taken _ ih =>
    have shelved := (routeUnicast_waiting undirected (toDst packet mem_cons_self)).1
    rcases routeUnicast_undirected undirected (toDst packet mem_cons_self) with
      ⟨discovery, found, ⟨room, parked⟩ | ⟨_, refused⟩⟩ | ⟨absent, _⟩
    · have still : (node.routeUnicast packet now).1.ierp.isPending dst = true := by
        rw [parked, Ierp.isPending, OrderedMap.contains, Ierp.queue_get found, if_pos rfl]
        rfl
      obtain ⟨hops, queue, few⟩ := ih shelved.undirected still
        (fun other member => toDst other (mem_cons_of_mem _ member))
      have left := shelved.room
      have open_ : 0 < node.waitingRoom dst now := by
        rw [waitingRoom, found]
        exact Nat.sub_pos_of_lt room
      rw [length_take, length_singleton] at left
      refine ⟨hops.trans (by rw [parked]), queue.trans (by rw [parked]), fun accepted => ?_⟩
      have enough := few accepted
      rw [length_cons]
      omega
    · rw [refused] at taken
      cases taken
    · rw [Ierp.isPending, OrderedMap.contains, absent] at pending
      cases pending

/-- What the packets of a message without a next hop leave behind: at most the request of a
discovery besides the parked ones. The message is accepted when all of it is parked; the
packet that starts a discovery is accepted in any case. -/
theorem Bursts.undirected_outcome (bursts : Bursts now node packets result)
    (undirected : node.directs dst now = false)
    (toDst : ∀ packet ∈ packets, packet.header.dst = dst) (several : 0 < packets.length) :
    result.1.hopPending = node.hopPending ∧
      (if node.floodsRequest dst now = true then result.1.ownQueued = node.ownQueued + 1
        else result.1.txQueue = node.txQueue) ∧
      (result.2 = .ok () ↔ packets.length ≤ node.waitingRoom dst now ∨
        (packets.length = 1 ∧ node.ierp.mayStart dst now = true)) := by
  have accepted (enough : packets.length ≤ node.waitingRoom dst now) : result.2 = .ok () := by
    cases outcome : result.2 with
    | ok => rfl
    | error error =>
      have short := (bursts.waiting undirected toDst).2 error outcome
      omega
  by_cases pending : node.ierp.isPending dst = true
  · obtain ⟨hops, queue, few⟩ := bursts.pending undirected pending toDst
    have calm : node.floodsRequest dst now = false := by simp [floodsRequest, pending]
    have closed : ¬node.ierp.mayStart dst now = true := by
      intro may
      rw [Ierp.isPending, OrderedMap.contains, Ierp.mayStart_idle may] at pending
      cases pending
    rw [calm, if_neg Bool.false_ne_true]
    refine ⟨hops, queue, fun taken => .inl (few taken), ?_⟩
    exact fun either => accepted (either.resolve_right (fun both => closed both.2))
  · clear accepted
    induction bursts with
    | done => exact absurd several (Nat.lt_irrefl 0)
    | draw _ ih => exact ih undirected toDst several pending
    | @stop node packet rest error refused =>
      rcases routeUnicast_undirected undirected (toDst packet mem_cons_self) with
        ⟨_, found, _⟩ | ⟨absent, ⟨_, started⟩ | ⟨resting, unrouted⟩⟩
      · exact absurd ((OrderedMap.contains_eq_true_iff _ _).mpr ⟨_, found⟩) pending
      · rw [started] at refused
        cases refused
      · have calm : node.floodsRequest dst now = false := by simp [floodsRequest, resting]
        have closed : node.waitingRoom dst now = 0 := by
          rw [waitingRoom, absent]
          exact if_neg (by simp [resting])
        rw [unrouted, calm, closed, resting]
        refine ⟨rfl, rfl, by simp, ?_⟩
        rintro (none | ⟨_, never⟩)
        · exact absurd none (Nat.not_succ_le_zero _)
        · cases never
    | @route node packet rest result taken later _ =>
      rcases routeUnicast_undirected undirected (toDst packet mem_cons_self) with
        ⟨_, found, _⟩ | ⟨absent, ⟨may, started⟩ | ⟨_, unrouted⟩⟩
      · exact absurd ((OrderedMap.contains_eq_true_iff _ _).mpr ⟨_, found⟩) pending
      · have shelved := (routeUnicast_waiting undirected (toDst packet mem_cons_self)).1
        have toRest (other : Packet) (member : other ∈ rest) : other.header.dst = dst :=
          toDst other (mem_cons_of_mem _ member)
        obtain ⟨hops, queue⟩ := startDiscovery_queue undirected may packet
        have waits : (node.routeUnicast packet now).1.ierp.isPending dst = true := by
          rw [started, startDiscovery_ierp, Ierp.isPending, OrderedMap.contains,
            Ierp.start_queue_get, if_pos rfl]
          rfl
        obtain ⟨laterHops, laterQueue, few⟩ := later.pending shelved.undirected waits toRest
        have refused := (later.waiting shelved.undirected toRest).2
        have left := shelved.room
        rw [length_take, length_singleton] at left
        rw [started] at laterHops laterQueue
        refine ⟨laterHops.trans hops, ?_, ?_, ?_⟩
        · split at queue
          · rename_i floods
            rw [if_pos floods, ← queue, ownQueued, ownQueued, laterQueue]
          · rename_i calm
            rw [if_neg calm, laterQueue, queue]
        · intro accepted
          have enough := few accepted
          rw [length_cons]
          by_cases single : rest.length = 0
          · exact .inr ⟨by omega, may⟩
          · exact .inl (by omega)
        · intro either
          cases outcome : result.2 with
          | ok => rfl
          | error error =>
            have short := refused error outcome
            rw [length_cons] at either
            omega
      · rw [unrouted] at taken
        cases taken

/-! ## With a next hop -/

/-- A packet with a next hop takes its place in the hop table, if hops are tracked. A full
transmit queue stays as it is. -/
theorem routeUnicast_hops {packet : Packet} (directed : node.directs dst now = true)
    (sendable : node.Sendable dst packet) :
    (node.freeSlots = 0 → (node.routeUnicast packet now).1.txQueue = node.txQueue) ∧
      ((¬node.TracksHops ∧ (node.routeUnicast packet now).1.hopPending = node.hopPending) ∨
        (node.TracksHops ∧ ∃ entry : HopPending, entry.key = packet.header.key ∧
          entry.packet.header.key = packet.header.key ∧
          (node.routeUnicast packet now).1.hopPending =
            node.hopPending.filter (fun hop => hop.key != packet.header.key) ++ [entry])) := by
  have offered (ready : Node) (hop : UInt16) (priority : Nat) (cfg : ready.cfg = node.cfg)
      (same : ready.txQueue = node.txQueue) :
      (node.freeSlots = 0 → (ready.enqueuePacket { packet with
          header := { packet.header with nextHop := hop } } now priority false).1.txQueue =
            node.txQueue) ∧
        (ready.enqueuePacket { packet with header := { packet.header with nextHop := hop } } now
          priority false).1.hopPending = ready.hopPending := by
    obtain ⟨hops, queue⟩ := ready.enqueuePacket_ownQueued { packet with
      header := { packet.header with nextHop := hop } } now priority
    refine ⟨fun full => ?_, hops⟩
    have closed : ready.makeTxRoom = none := by
      rcases ready.makeTxRoom_cases with ⟨_, none⟩ | ⟨_, _, _, slots⟩
      · exact none
      · rw [freeSlots, cfg, same] at slots
        rw [freeSlots] at full
        omega
    rw [queuesPacket, closed, Option.isSome_none, Bool.and_false, if_neg Bool.false_ne_true]
      at queue
    rw [queue, same]
  obtain ⟨rfl, _, _⟩ := sendable
  simp only [routeUnicast]
  by_cases flooding : node.cfg.routingMode = .flood
  · rw [if_pos flooding]
    obtain ⟨queue, hops⟩ := offered node nextHopAny Priority.data rfl rfl
    exact ⟨queue, .inl ⟨fun tracks => tracks.1 flooding, hops⟩⟩
  · rw [if_neg flooding]
    cases known : node.nextHopFor packet.header.dst now with
    | none =>
      rw [directs, known] at directed
      simp [flooding] at directed
    | some hop =>
      simp only
      have uses := node.trackHop_uses { packet with
        header := { packet.header with nextHop := hop.short } } packet.header.dst hop now false
      obtain ⟨queue, hops⟩ := offered _ hop.short (if packet.header.ptype = .data then
        Priority.data else Priority.control) uses.cfg (by unfold trackHop; split <;> rfl)
      refine ⟨queue, ?_⟩
      rw [hops]
      unfold trackHop
      by_cases untracked : node.cfg.hopRetries = 0 ∨ node.hopPending.length ≥ 24
      · rw [if_pos untracked]
        refine .inl ⟨?_, rfl⟩
        rintro ⟨_, retries, room⟩
        omega
      · rw [if_neg untracked]
        refine .inr ⟨⟨flooding, by omega, by omega⟩, _, rfl, rfl, rfl⟩

/-- Where nothing is free and nothing is tracked, the packets of a message leave nothing. -/
theorem Bursts.nowhere (bursts : Bursts now node packets result)
    (distinct : node.routes.Distinct) (directed : node.directs dst now = true)
    (sendable : ∀ packet ∈ packets, node.Sendable dst packet) (full : node.freeSlots = 0)
    (untracked : ¬node.TracksHops) :
    result.1.txQueue = node.txQueue ∧ result.1.hopPending = node.hopPending := by
  induction bursts with
  | done => exact ⟨rfl, rfl⟩
  | draw _ ih =>
    exact ih distinct directed
      (fun packet member => (sendable packet member).ofCfg rfl) full untracked
  | @stop node packet _ _ refused =>
    cases refused.symm.trans (routeUnicast_directed directed
      (sendable packet mem_cons_self)).1
  | @route node packet rest _ _ _ ih =>
    obtain ⟨_, copies, onward, _⟩ := routeUnicast_directed directed
      (sendable packet mem_cons_self)
    obtain ⟨queue, hops⟩ := routeUnicast_hops directed (sendable packet mem_cons_self)
    have same : (node.routeUnicast packet now).1.hopPending = node.hopPending :=
      (hops.resolve_right (fun tracked => untracked tracked.1)).2
    have slots := onward.slots
    obtain ⟨laterQueue, laterHops⟩ := ih (onward.distinct distinct) (onward.directs distinct)
      (fun other member => (sendable other (mem_cons_of_mem _ member)).ofCfg onward.cfg)
      (by omega) (by rw [TracksHops, onward.cfg, same]; exact untracked)
    exact ⟨laterQueue.trans (queue full), laterHops.trans same⟩

/-- The hop table has an entry for one of some packets. -/
def TracksOne (node : Node) (packets : List Packet) : Prop :=
  ∃ entry ∈ node.hopPending, entry.key = entry.packet.header.key ∧
    ∃ packet ∈ packets, entry.key = packet.header.key

/-- A message of which a packet is tracked stays tracked: an entry is replaced only by one
for another of its packets. -/
theorem Bursts.tracks {all : List Packet} (bursts : Bursts now node packets result)
    (distinct : node.routes.Distinct) (directed : node.directs dst now = true)
    (sendable : ∀ packet ∈ packets, node.Sendable dst packet) (among : packets ⊆ all)
    (tracked : (node.TracksHops ∧ 0 < packets.length) ∨ node.TracksOne all) :
    result.1.TracksOne all := by
  induction bursts with
  | done => exact tracked.resolve_left (fun both => Nat.lt_irrefl 0 both.2)
  | draw _ ih =>
    exact ih distinct directed
      (fun packet member => (sendable packet member).ofCfg rfl) among tracked
  | @stop node packet _ _ refused =>
    cases refused.symm.trans (routeUnicast_directed directed
      (sendable packet mem_cons_self)).1
  | @route node packet rest _ _ _ ih =>
    obtain ⟨_, copies, onward, _⟩ := routeUnicast_directed directed
      (sendable packet mem_cons_self)
    refine ih (onward.distinct distinct) (onward.directs distinct) (fun other member => ?_)
      (fun other member => among (mem_cons_of_mem _ member)) (.inr ?_)
    · exact (sendable other (mem_cons_of_mem _ member)).ofCfg onward.cfg
    · rcases (routeUnicast_hops directed (sendable packet mem_cons_self)).2 with
        ⟨untracked, same⟩ | ⟨_, entry, key, own, added⟩
      · rw [TracksOne, same]
        exact tracked.resolve_left (fun both => untracked both.1)
      · refine ⟨entry, ?_, key.trans own.symm, packet, among mem_cons_self, key⟩
        rw [added]
        exact mem_append_right _ mem_cons_self

/-! ## What a message leaves behind -/

variable {after : Node}

section

omit [Primitives]

theorem NothingNew.ofSame (queue : after.txQueue = node.txQueue)
    (hops : after.hopPending = node.hopPending)
    (parked : ∀ target, after.parkedFor target = node.parkedFor target) :
    NothingNew node after := by
  refine ⟨queue ▸ .refl _, hops ▸ .refl _, fun target => ?_⟩
  rw [parked]

/-- One more packet of our own in the transmit queue is new. -/
theorem NothingNew.ownQueued_le (nothing : NothingNew node after) :
    after.ownQueued ≤ node.ownQueued := nothing.1.countP_le _

/-- An entry for a packet whose id is not in the hop table yet is new. -/
theorem NothingNew.not_tracks (nothing : NothingNew node after)
    (fresh : ∀ hop ∈ node.hopPending, ∀ packet ∈ packets,
      hop.packet.header.key ≠ packet.header.key) : ¬after.TracksOne packets := by
  rintro ⟨entry, member, own, packet, present, key⟩
  obtain ⟨hop, old, same⟩ := mem_map.mp (nothing.2.1.subset (mem_map_of_mem member))
  apply fresh hop old packet present
  rw [same, ← own, key]

theorem packetCount_pos {netAuth : Bool} {length : Nat} : 0 < packetCount netAuth length := by
  have chunk : 0 < maxPayload netAuth - fragHeaderLen := by cases netAuth <;> decide
  unfold packetCount
  split
  · exact Nat.one_pos
  · exact Nat.div_pos (by omega) chunk

end

section leaves

variable {header : Header} {body : Bytes} {fragment : Option UInt16}

variable (leaves : node.Leaves dst now header body packets fragment result)

include leaves

theorem Leaves.several : 0 < packets.length := leaves.count ▸ packetCount_pos

variable (distinct : node.routes.Distinct)

include distinct

/-- A message with a next hop is accepted; one without is when all of it is parked, or its
only packet starts the discovery. -/
theorem Leaves.accepted_iff :
    result.2 = .ok () ↔ node.directs dst now = true ∨ packets.length ≤ node.waitingRoom dst now ∨
      (packets.length = 1 ∧ node.ierp.mayStart dst now = true) := by
  obtain ⟨ready, same, _, bursts⟩ := leaves.bursts
  have sendable (packet : Packet) (member : packet ∈ packets) : ready.Sendable dst packet :=
    (leaves.sendable packet member).ofCfg same.cfg
  have room : ready.waitingRoom dst now = node.waitingRoom dst now := by
    rw [waitingRoom, waitingRoom, same.ierp]
  cases way : node.directs dst now with
  | true =>
    have taken := (bursts.directed (same.routes ▸ distinct) ((same.directs dst now).trans way)
      sendable).1
    simp [taken]
  | false =>
    have outcome := (bursts.undirected_outcome ((same.directs dst now).trans way)
      (fun packet member => (sendable packet member).dst) leaves.several).2.2
    rw [outcome, room, same.ierp]
    simp

/-- Where the first packet finds no place, none does. -/
theorem Leaves.nothingNew (vacant : ¬node.Occupies dst now) : NothingNew node result.1 := by
  obtain ⟨ready, same, asks, bursts⟩ := leaves.bursts
  have sendable (packet : Packet) (member : packet ∈ packets) : ready.Sendable dst packet :=
    (leaves.sendable packet member).ofCfg same.cfg
  rw [← same.occupies asks] at vacant
  unfold Occupies at vacant
  cases way : ready.directs dst now with
  | true =>
    rw [if_pos way, not_or] at vacant
    obtain ⟨_, copies, onward, _⟩ := bursts.directed (same.routes ▸ distinct) way sendable
    obtain ⟨queue, hops⟩ := bursts.nowhere (same.routes ▸ distinct) way sendable
      (Nat.eq_zero_of_not_pos vacant.1) vacant.2
    refine .ofSame (queue.trans same.txQueue) (hops.trans same.hopPending) (fun target => ?_)
    rw [parkedFor, onward.ierp, same.ierp, parkedFor]
  | false =>
    rw [if_neg (by simp [way]), not_or] at vacant
    have toDst (packet : Packet) (member : packet ∈ packets) : packet.header.dst = dst :=
      (sendable packet member).dst
    obtain ⟨hops, queue, _⟩ := bursts.undirected_outcome way toDst leaves.several
    rw [if_neg vacant.2] at queue
    have shelved := (bursts.waiting way toDst).1
    rw [Nat.eq_zero_of_not_pos vacant.1, take_zero] at shelved
    refine .ofSame (queue.trans same.txQueue) (hops.trans same.hopPending) (fun target => ?_)
    rw [← same.parkedFor]
    by_cases here : target = dst
    · rw [here, shelved.held, append_nil]
    · exact shelved.others target here

/-- Where the first packet finds a place, something of the message stays behind. -/
theorem Leaves.not_nothingNew (occupies : node.Occupies dst now)
    (fresh : ∀ hop ∈ node.hopPending, ∀ packet ∈ packets,
      hop.packet.header.key ≠ packet.header.key) : ¬NothingNew node result.1 := by
  intro nothing
  obtain ⟨ready, same, asks, bursts⟩ := leaves.bursts
  have several := leaves.several
  have sendable (packet : Packet) (member : packet ∈ packets) : ready.Sendable dst packet :=
    (leaves.sendable packet member).ofCfg same.cfg
  have owned : ready.ownQueued = node.ownQueued := by rw [ownQueued, same.txQueue, ownQueued]
  have own := nothing.ownQueued_le
  rw [← same.occupies asks] at occupies
  unfold Occupies at occupies
  cases way : ready.directs dst now with
  | true =>
    rw [if_pos way] at occupies
    rcases occupies with free | tracks
    · obtain ⟨_, copies, onward, copied⟩ := bursts.directed (same.routes ▸ distinct) way sendable
      have count := copied.length_eq
      have more := onward.own
      rw [length_take] at count
      omega
    · exact nothing.not_tracks fresh (bursts.tracks (same.routes ▸ distinct) way sendable
        (List.Subset.refl _) (.inl ⟨tracks, several⟩))
  | false =>
    rw [if_neg (by simp [way])] at occupies
    have toDst (packet : Packet) (member : packet ∈ packets) : packet.header.dst = dst :=
      (sendable packet member).dst
    rcases occupies with room | floods
    · have held := (bursts.waiting way toDst).1.held
      have fewer := (nothing.2.2 dst).length_le
      rw [held, same.parkedFor, length_append, length_take] at fewer
      omega
    · obtain ⟨_, queue, _⟩ := bursts.undirected_outcome way toDst several
      rw [if_pos floods] at queue
      omega

end leaves

/-! ## The send -/

/-- A session send leaves the table of messages in flight alone. -/
theorem sendSessionPacket_transport {node : Node} {dst : Address} {ptype : PacketType}
    {body : Bytes} {seq : UInt16} {ackRequest : Bool} {now : Nat} :
    (node.sendSessionPacket dst ptype body seq ackRequest now).1.transport = node.transport := by
  have kept (state : Node) : InvImage Eq Node.transport state state := rfl
  rcases node.sendSessionPacket_parts dst ptype body seq ackRequest now kept (fun _ => rfl)
    (fun _ _ _ _ => ⟨fun _ => (routeUnicast_transport).symm,
      fun _ => (sendFragments_bursts _ _).transport.symm⟩) with
    ⟨_, same⟩ | ⟨_, _, _, _, _, drawn, sent⟩
  · exact same.symm
  · exact (Eq.trans drawn sent).symm

section

omit [Primitives]

theorem not_reportsFailure {handle : UInt32} (same : after.events = node.events) :
    ¬ReportsFailure node after handle := by
  rintro ⟨recipient, reason, member⟩
  rw [same, drop_length] at member
  cases member

/-- A failure is reported as long as the event queue takes it. -/
theorem reportsFailure_emit {handle : UInt32} {recipient : Address} {reason : FailReason}
    (same : after.events = node.events) :
    ReportsFailure node (after.emit (.failed handle recipient reason)) handle ↔
      node.events.length < 256 := by
  unfold emit
  rw [same]
  split
  · rename_i room
    refine ⟨fun _ => room, fun _ => ⟨recipient, reason, ?_⟩⟩
    simp
  · rename_i full
    exact ⟨fun reported => absurd reported (not_reportsFailure same), fun room => absurd room full⟩

/-- What a failure leaves to the router is what the packets left. -/
theorem emit_nothingNew {event : NodeEvent} : NothingNew node (after.emit event) ↔
    NothingNew node after := by
  unfold emit
  split <;> rfl

/-- A message is tracked while the table of messages in flight has a place. -/
theorem trackOrFail_outcome (node : Node) (message : Outstanding) (now : Nat) :
    if node.transport.outstanding.length ≥ node.transport.cfg.maxInFlight then
      (node.trackOrFail message now).1 = node.emit (.failed message.handle message.dst .queueFull)
    else ∃ transport, (node.trackOrFail message now).1 = { node with transport := transport } := by
  unfold trackOrFail Transport.track
  split
  · rfl
  · exact ⟨_, rfl⟩

end

/-- A send inside a session is reported as failed when the router refused it, or when it is
to be acknowledged and the table of messages in flight is full. -/
theorem sendDataInSession_reports {send : QueuedSend} {sent : Node × Except Error Unit}
    (router : sendSessionPacket { node with transport := node.transport.nextSeq.1 } send.dst .data
      send.payload node.transport.nextSeq.2 (send.reliability == .acknowledged) now = sent) :
    (NothingNew node (node.sendDataInSession send now) ↔ NothingNew node sent.1) ∧
      (ReportsFailure node (node.sendDataInSession send now) send.handle ↔
        node.events.length < 256 ∧ (sent.2 ≠ .ok () ∨ (send.reliability = .acknowledged ∧
          node.transport.outstanding.length ≥ node.transport.cfg.maxInFlight))) := by
  have moved : Moves False Effects.sending { node with transport := node.transport.nextSeq.1 }
      sent.1 := router ▸ sendSessionPacket_moves _ _ _ _ _ _ _
  have events : sent.1.events = node.events := moved.same CoreStep.events_same (by decide)
  have transport : sent.1.transport = node.transport.nextSeq.1 :=
    router ▸ sendSessionPacket_transport
  rw [sendDataInSession, router]
  obtain ⟨sent, outcome⟩ := sent
  cases outcome with
  | error error =>
    cases error with
    | tooLarge => exact ⟨emit_nothingNew, by rw [reportsFailure_emit events]; simp⟩
    | noRoute => exact ⟨emit_nothingNew, by rw [reportsFailure_emit events]; simp⟩
    | _ => exact ⟨emit_nothingNew, by rw [reportsFailure_emit events]; simp⟩
  | ok =>
    simp only
    by_cases acknowledged : send.reliability = .acknowledged
    · have asked : (send.reliability == .acknowledged) = true := by rw [acknowledged]; rfl
      have tracked := sent.trackOrFail_outcome ⟨send.dst, node.transport.nextSeq.2, send.handle,
        send.reliability, send.payload, 0, 0, now, none, false⟩ now
      rw [transport] at tracked
      rw [if_pos asked]
      by_cases full : node.transport.outstanding.length ≥ node.transport.cfg.maxInFlight
      · rw [(if_pos full).mp tracked]
        refine ⟨emit_nothingNew, ?_⟩
        rw [reportsFailure_emit events]
        simp [acknowledged, full]
      · obtain ⟨_, tracked⟩ := (if_neg full).mp tracked
        rw [tracked]
        refine ⟨Iff.rfl, iff_of_false (not_reportsFailure events) ?_⟩
        simp [full]
    · have plain : ¬(send.reliability == .acknowledged) = true := by
        cases kind : send.reliability <;> simp_all
      rw [if_neg plain]
      refine ⟨Iff.rfl, iff_of_false (not_reportsFailure events) ?_⟩
      simp [acknowledged]

/-- The packets a message inside a session is cut into. -/
def messagePackets (node : Node) (dst : Address) (payload : Bytes) (reliability : Reliability) :
    List Packet :=
  sessionPackets { node.newHandle.1 with transport := node.transport.nextSeq.1 } dst .data payload
    node.transport.nextSeq.2 (reliability == .acknowledged) node.now

/-- The ids drawn for the packets of a message are not those of packets that wait for a
confirmation. -/
def FreshIds (node : Node) (dst : Address) (payload : Bytes) (reliability : Reliability) : Prop :=
  ∀ hop ∈ node.hopPending, ∀ packet ∈ node.messagePackets dst payload reliability,
    hop.packet.header.key ≠ packet.header.key

/-- A call that sends nothing inside a session reports no failure. -/
theorem failedUnsent_outside {payload : Bytes} {reliability : Reliability}
    (outside : ¬((dst.isNull || dst == node.address) = false ∧ payload.length ≤ 2048 ∧
      dst.isBroadcast = false)) : node.FailedUnsent dst payload reliability := by
  intro handle accepted reported
  exfalso
  unfold sendMessage at accepted reported
  by_cases reserved : (dst.isNull || dst == node.address) = true
  · rw [if_pos reserved] at accepted
    cases accepted
  · rw [if_neg reserved] at accepted reported
    by_cases large : payload.length > 2048
    · rw [if_pos large] at accepted
      cases accepted
    · rw [if_neg large] at accepted reported
      by_cases broadcast : dst.isBroadcast = true
      · rw [if_pos broadcast] at reported
        have quiet : Quiet False node (node.sendBroadcast payload).1 :=
          node.sendBroadcast_quiet payload
        exact not_reportsFailure (congrArg Core.events quiet.core) reported
      · exact outside ⟨by simpa using reserved, by omega, by simpa using broadcast⟩

section

variable {session : Session} {payload : Bytes} {reliability : Reliability}
  (found : node.sessions.get dst = some session) (direct : reliability ≠ .storeAndForward)
  (inside : (dst.isNull || dst == node.address) = false ∧ payload.length ≤ 2048 ∧
    dst.isBroadcast = false)

include found direct inside

/-- Any other call to a peer with a session is a send inside the session. -/
theorem sendMessage_inside : node.sendMessage dst payload reliability =
    (node.newHandle.1.sendDataInSession ⟨dst, payload, reliability, node.newHandle.2, node.now⟩
      node.now, .ok node.newHandle.2) := by
  have known : node.newHandle.1.sessions.contains dst = true :=
    (OrderedMap.contains_eq_true_iff _ _).mpr ⟨session, found⟩
  obtain ⟨reserved, short, unicast⟩ := inside
  rw [sendMessage, if_neg (by simp [reserved]), if_neg (by omega), if_neg (by simp [unicast])]
  cases reliability with
  | storeAndForward => exact absurd rfl direct
  | unreliable => exact congrArg (·, _) (if_pos known)
  | acknowledged => exact congrArg (·, _) (if_pos known)

/-- It obeys the law if that send does. -/
theorem failedUnsent_inside : node.FailedUnsent dst payload reliability ↔
    (ReportsFailure node (node.newHandle.1.sendDataInSession
        ⟨dst, payload, reliability, node.newHandle.2, node.now⟩ node.now) node.newHandle.2 →
      NothingNew node (node.newHandle.1.sendDataInSession
        ⟨dst, payload, reliability, node.newHandle.2, node.now⟩ node.now)) := by
  unfold FailedUnsent
  rw [sendMessage_inside found direct inside]
  constructor
  · exact fun all => all _ rfl
  · rintro one handle accepted
    cases accepted
    exact one

end

omit [Primitives] in
/-- A message is refused when the router does not accept it, or the table is full. -/
theorem refuses_iff {count : Nat} {reliability : Reliability}
    (accepted : result.2 = .ok () ↔ node.directs dst now = true ∨
      count ≤ node.waitingRoom dst now ∨ (count = 1 ∧ node.ierp.mayStart dst now = true)) :
    node.Refuses dst count reliability now ↔ result.2 ≠ .ok () ∨ (reliability = .acknowledged ∧
      node.transport.outstanding.length ≥ node.transport.cfg.maxInFlight) := by
  rw [Refuses, ne_eq, accepted, not_or, not_or, Bool.not_eq_true, Nat.not_le, or_comm]

/-- With a session to the destination, a message that its send reports as failed has left
nothing in the queues exactly when it was not refused midway: the failure came before the
router saw it, or the router had no place for any of it. That such a message leaves
something needs packet ids that are not in the hop table yet. -/
theorem failed_send_unsent_iff {session : Session} {payload : Bytes} {reliability : Reliability}
    (honest : HonestPrimitives) (built : node.routes.Built)
    (found : node.sessions.get dst = some session) (direct : reliability ≠ .storeAndForward) :
    (¬node.RefusedMidway dst payload reliability → node.FailedUnsent dst payload reliability) ∧
      (node.FreshIds dst payload reliability → (node.FailedUnsent dst payload reliability ↔
          ¬node.RefusedMidway dst payload reliability)) := by
  have distinct := built.distinct
  by_cases inside : (dst.isNull || dst == node.address) = false ∧ payload.length ≤ 2048 ∧
      dst.isBroadcast = false
  · -- The call is a send inside the session: the packets first, the report after them.
    let numbered : Node := { node.newHandle.1 with transport := node.transport.nextSeq.1 }
    let send : QueuedSend := ⟨dst, payload, reliability, node.newHandle.2, node.now⟩
    obtain ⟨left, reports⟩ := @sendDataInSession_reports _ node.newHandle.1 node.now send _ rfl
    have unsent : node.FailedUnsent dst payload reliability ↔ _ :=
      failedUnsent_inside found direct inside
    by_cases below : session.sendCtr < counterRekeyThreshold
    · have few : payload.length + transportOverhead ≤
          255 * (maxPayload numbered.cfg.networkKey.isSome - fragHeaderLen) := by
        obtain ⟨_, short, _⟩ := inside
        have enough : 2048 + transportOverhead ≤
            255 * (maxPayload numbered.cfg.networkKey.isSome - fragHeaderLen) := by
          cases numbered.cfg.networkKey.isSome <;> decide
        omega
      obtain ⟨header, fragment, ciphertext, _, sealed, leaves⟩ := sendSessionPacket_leaves honest
        .data node.transport.nextSeq.2 (reliability == .acknowledged) node.now
        (show numbered.sessions.get dst = some session from found) below few
      have router : SameRouter node numbered := by constructor <;> rfl
      have count : (node.messagePackets dst payload reliability).length =
          packetCount node.cfg.networkKey.isSome (payload.length + transportOverhead) := by
        rw [← encrypt_length honest sealed]
        exact leaves.count
      have accepted := leaves.accepted_iff distinct
      rw [router.directs, show numbered.waitingRoom dst node.now = node.waitingRoom dst node.now
        from rfl, show numbered.ierp = node.ierp from rfl, show (numbered.sessionPackets dst .data
          payload node.transport.nextSeq.2 (reliability == .acknowledged) node.now).length = _
            from count] at accepted
      have refused : node.Refuses dst (packetCount node.cfg.networkKey.isSome
          (payload.length + transportOverhead)) reliability node.now ↔ _ := refuses_iff accepted
      have midway : node.RefusedMidway dst payload reliability ↔
          ReportsFailure node (node.newHandle.1.sendDataInSession send node.now)
              node.newHandle.2 ∧ node.Occupies dst node.now := by
        rw [show ReportsFailure node _ _ ↔ _ from reports]
        constructor
        · rintro ⟨_, room, _, refuses, occupies⟩
          exact ⟨⟨room, refused.mp refuses⟩, occupies⟩
        · rintro ⟨⟨room, refuses⟩, occupies⟩
          exact ⟨inside, room, ⟨session, found, below⟩, refused.mpr refuses, occupies⟩
      rw [unsent, midway]
      refine ⟨fun apart reported => ?_, fun fresh => ⟨?_, fun apart reported => ?_⟩⟩
      · exact left.mpr (leaves.nothingNew distinct (fun occupies => apart ⟨reported, occupies⟩))
      · rintro clean ⟨reported, occupies⟩
        exact leaves.not_nothingNew distinct occupies fresh (left.mp (clean reported))
      · exact left.mpr (leaves.nothingNew distinct (fun occupies => apart ⟨reported, occupies⟩))
    · -- The counter is used up: nothing reaches the router.
      obtain ⟨_, same⟩ := @sendSessionPacket_exhausted _ dst numbered session .data payload
        node.transport.nextSeq.2 (reliability == .acknowledged) node.now found
        (Nat.le_of_not_lt below)
      have nothing : NothingNew node (node.newHandle.1.sendDataInSession send node.now) :=
        left.mpr (.ofSame same.txQueue same.hopPending same.parkedFor)
      have fine := unsent.mpr (fun _ => nothing)
      refine ⟨fun _ => fine, fun _ => ⟨?_, fun _ => fine⟩⟩
      rintro _ ⟨_, _, ⟨other, known, room⟩, _⟩
      obtain rfl : session = other := Option.some.inj (found.symm.trans known)
      exact below room
  · have fine : node.FailedUnsent dst payload reliability := failedUnsent_outside inside
    exact ⟨fun _ => fine, fun _ => ⟨fun _ refused => inside refused.1, fun _ => fine⟩⟩

/-! ## A trace that is refused -/

/-- The pending traces when one to the destination is noted before it is routed. -/
def retraced (node : Node) (dst : Address) : List (Address × Nat) :=
  node.pendingTraces.filter (fun other => other.1 != dst) ++ [(dst, node.now)]

/-- If the call fails, it has left the pending traces alone. -/
def FailedUntraced (node : Node) (dst : Address) : Prop :=
  ∀ error, (node.trace dst).2 = .error error →
    (node.trace dst).1.pendingTraces = node.pendingTraces

/-- A failed trace leaves no pending trace exactly when it is refused before it is noted,
when the router has a way for it and it does not fail, or when the same trace was noted at
the same time already. -/
theorem failed_trace_untraced_iff (node : Node) (dst : Address) :
    node.FailedUntraced dst ↔ dst = node.address ∨ dst.isBroadcast = true ∨
      4 ≤ node.pendingTraces.length ∨ node.Routable dst node.now ∨
        node.retraced dst = node.pendingTraces := by
  unfold FailedUntraced trace
  split
  · rename_i reserved
    exact iff_of_true (fun _ _ => rfl) (reserved.imp_right .inl)
  · rename_i ordinary
    split
    · rename_i many
      exact iff_of_true (fun _ _ => rfl) (.inr (.inr (.inl many)))
    · rename_i few
      obtain ⟨other, unicast⟩ := not_or.mp ordinary
      simp only [other, unicast, Bool.false_eq_true, false_or,
        show ¬4 ≤ node.pendingTraces.length from few]
      let based := node.baseHeader .control dst (node.ttlFor dst)
      let started := { based.1 with pendingTraces := node.retraced dst }
      have toDst : based.2.dst = dst := (node.baseHeader_fields _ _ _).2.1
      -- Noting the trace does not touch what the router looks at.
      have routes : started.Routable dst node.now ↔ node.Routable dst node.now := Iff.rfl
      rcases @routeUnicast_routable _ dst node.now started ⟨based.2, [Control.traceReq]⟩ toDst with
        ⟨routable, taken⟩ | ⟨stuck, error, refused⟩
      · refine iff_of_true (fun error failed => ?_) (.inl (routes.mp routable))
        cases taken.symm.trans failed
      · have left : (started.routeUnicast ⟨based.2, [Control.traceReq]⟩ node.now).1.pendingTraces =
            node.retraced dst := by rw [refused]
        constructor
        · intro unchanged
          exact .inr (left.symm.trans (unchanged error (by
            change (started.routeUnicast _ node.now).2 = _
            rw [refused])))
        · rintro (routable | same) _ _
          · exact absurd (routes.mpr routable) stuck
          · exact left.trans same

end Node

end MeshStar

namespace MeshStar.Refusal

local instance refusalSuite : Primitives := Transparent.primitives

open Node

/-- A node with a session to a peer it has no route to. -/
def sender : Node := Survival.endOf 1 2

def peer : Address := (Transparent.identity 2).address

/-- A message of more packets than a discovery parks. -/
def long : Bytes := List.replicate 1000 7

/-- The handle of the only event, if that is a failure. -/
def failureIn : List NodeEvent → Option UInt32
  | [.failed handle _ _] => some handle
  | _ => none

theorem reported_of_only {before after : Node} {handle : UInt32} (silent : before.events.length = 0)
    (failed : failureIn after.events = some handle) : ReportsFailure before after handle := by
  rw [ReportsFailure, silent, List.drop_zero]
  unfold failureIn at failed
  split at failed
  · rename_i handle recipient reason only
    cases failed
    exact ⟨recipient, reason, only ▸ List.mem_cons_self⟩
  · cases failed

/-- The first four packets of a long message wait for a route when its failure is
reported. -/
theorem long_message_parked : ∃ session, sender.sessions.get peer = some session ∧
    ¬sender.FailedUnsent peer long .unreliable := by
  have outcome : (sender.sessions.get peer).isSome = true ∧
      (sender.sendMessage peer long .unreliable).2.toOption = some 1 ∧
      failureIn (sender.sendMessage peer long .unreliable).1.events = some 1 ∧
      sender.events.length = 0 ∧ (sender.parkedFor peer).length = 0 ∧
      ((sender.sendMessage peer long .unreliable).1.parkedFor peer).length = 4 := by
    decide +kernel
  obtain ⟨known, accepted, failed, silent, before, after⟩ := outcome
  obtain ⟨session, found⟩ := Option.isSome_iff_exists.mp known
  refine ⟨session, found, fun unsent => ?_⟩
  have returned : (sender.sendMessage peer long .unreliable).2 = .ok 1 := by
    cases outcome : (sender.sendMessage peer long .unreliable).2 with
    | error error =>
      rw [outcome] at accepted
      cases accepted
    | ok handle =>
      rw [outcome] at accepted
      cases accepted
      rfl
  have fewer := ((unsent 1 returned (reported_of_only silent failed)).2.2 peer).length_le
  omega

/-- The node with a packet that waits for its confirmation, and with a session whose counter is
used up. -/
def worn : Node :=
  { sender.trackHop ⟨Header.new .data sender.address (Transparent.identity 3).address 9 1 4, [5]⟩
      (Transparent.identity 3).address 0 false with
    sessions := sender.sessions.modify peer (fun session =>
      { session with sendCtr := counterRekeyThreshold }) }

/-- It reports the failure of a long message, which it did not refuse midway, and leaves
nothing of it. -/
theorem worn_session_unsent : worn.hopPending.length = 1 ∧
    ReportsFailure worn (worn.sendMessage peer long .acknowledged).1 1 ∧
    worn.FreshIds peer long .acknowledged ∧ ¬worn.RefusedMidway peer long .acknowledged ∧
    worn.FailedUnsent peer long .acknowledged := by
  have state : worn.hopPending.length = 1 ∧ worn.events.length = 0 ∧
      failureIn (worn.sendMessage peer long .acknowledged).1.events = some 1 ∧
      (worn.sessions.get peer).map Session.sendCtr = some counterRekeyThreshold ∧
      ∀ hop ∈ worn.hopPending, ∀ packet ∈ worn.messagePackets peer long .acknowledged,
        hop.packet.header.key ≠ packet.header.key := by
    decide +kernel
  obtain ⟨waiting, silent, failed, used, fresh⟩ := state
  obtain ⟨session, found, spent⟩ := Option.map_eq_some_iff.mp used
  have early : ¬worn.RefusedMidway peer long .acknowledged := by
    rintro ⟨_, _, ⟨other, known, below⟩, _⟩
    cases found.symm.trans known
    exact absurd below (Nat.not_lt.mpr (Nat.le_of_eq spent.symm))
  exact ⟨waiting, reported_of_only silent failed, fresh, early,
    ((failed_send_unsent_iff Transparent.honest (.new _) found (by decide)).2 fresh).mpr early⟩

/-- The sender after a message that filled the discovery for the peer. -/
def crowded : Node := (sender.sendMessage peer long .unreliable).1

/-- The destinations that were reported as not reached by a trace. -/
def unreached : List NodeEvent → List Address :=
  List.filterMap (fun event => match event with
    | .traceResult dst false _ _ => some dst
    | _ => none)

/-- A trace that the full discovery refuses is pending all the same, and half a minute later
it is reported as unanswered. -/
theorem refused_trace_reported : (crowded.trace peer).2.toOption = none ∧
    crowded.pendingTraces.length = 0 ∧ (crowded.trace peer).1.pendingTraces.length = 1 ∧
    unreached (crowded.poll 31000).events = [] ∧
    unreached ((crowded.trace peer).1.poll 31000).events = [peer] ∧
    ¬crowded.FailedUntraced peer := by
  have outcome : (crowded.trace peer).2.toOption = none ∧
      crowded.pendingTraces.length = 0 ∧ (crowded.trace peer).1.pendingTraces.length = 1 := by
    decide +kernel
  obtain ⟨failed, before, after⟩ := outcome
  refine ⟨failed, before, after, by decide +kernel, by decide +kernel, fun untraced => ?_⟩
  cases result : (crowded.trace peer).2 with
  | error error =>
    rw [untraced error result, before] at after
    cases after
  | ok done =>
    rw [result] at failed
    cases failed

end MeshStar.Refusal

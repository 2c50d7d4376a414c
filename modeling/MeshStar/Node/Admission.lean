import Mathlib.Data.List.Perm.Basic
import MeshStar.Node.NoticeLaw
import MeshStar.Node.RouteUse
import MeshStar.Node.SessionPackets
import MeshStar.NoiseAgreement

/-!
# What the router takes of a message

The packets of a message go to the router one after the other. With a next hop each is
queued for transmission as long as there is a free place, or a relay that can be dropped
for it. Without one they are parked behind a discovery up to the length of its queue.
Either way the router takes the packets in order up to a capacity that the state before
the first of them determines.
-/

namespace MeshStar

open List OrderedMap

namespace Packet

/-- A packet with its next hop filled in. -/
def CopyOf (copy packet : Packet) : Prop :=
  ∃ hop : UInt16, copy = { packet with header := { packet.header with nextHop := hop } }

theorem CopyOf.refl (packet : Packet) : packet.CopyOf packet := ⟨packet.header.nextHop, rfl⟩

theorem CopyOf.symm {copy packet : Packet} (same : copy.CopyOf packet) : packet.CopyOf copy := by
  obtain ⟨hop, rfl⟩ := same
  exact ⟨packet.header.nextHop, rfl⟩

theorem CopyOf.trans {first second third : Packet} (former : first.CopyOf second)
    (latter : second.CopyOf third) : first.CopyOf third := by
  obtain ⟨hop, rfl⟩ := former
  obtain ⟨other, rfl⟩ := latter
  exact ⟨hop, rfl⟩

end Packet

/-- A discovery with more packets parked behind it. -/
def Discovery.park (discovery : Discovery) (packets : List Packet) : Discovery :=
  { discovery with queued := discovery.queued ++ packets }

namespace Ierp

variable {ierp : Ierp} {dst : Address} {discovery : Discovery}

/-- A discovery that may start is not pending. -/
theorem mayStart_idle {now : Nat} (may : ierp.mayStart dst now = true) :
    ierp.pending.get dst = none := by
  apply get_eq_none
  intro pending
  rw [mayStart, if_pos pending] at may
  cases may

/-- A packet is parked behind a pending discovery if there is room for it. -/
theorem queue_get (pending : ierp.pending.get dst = some discovery) (packet : Packet)
    (other : Address) :
    (ierp.queue dst packet).1.pending.get other = if other = dst then
      some (discovery.park
        ([packet].take (ierp.cfg.maxQueuedPerDiscovery - discovery.queued.length)))
    else ierp.pending.get other := by
  by_cases room : discovery.queued.length < ierp.cfg.maxQueuedPerDiscovery
  · have free : ierp.hasRoom dst = true := by simp [hasRoom, pending, room]
    obtain ⟨left, enough⟩ := Nat.exists_eq_add_of_lt room
    have taken : [packet].take (ierp.cfg.maxQueuedPerDiscovery - discovery.queued.length) =
        [packet] := take_of_length_le (by rw [length_singleton]; omega)
    rw [queue, if_pos free, taken]
    by_cases same : other = dst
    · rw [same, if_pos rfl, get_modify_self, pending]
      rfl
    · rw [if_neg same, get_modify_of_ne _ _ same]
  · have full : ¬ierp.hasRoom dst = true := by simp [hasRoom, pending, room]
    have none : ierp.cfg.maxQueuedPerDiscovery - discovery.queued.length = 0 := by omega
    rw [queue, if_neg full, none, take_zero, Discovery.park, append_nil]
    by_cases same : other = dst
    · rw [same, if_pos rfl, pending]
    · rw [if_neg same]

/-- The first packet of a discovery that starts is parked if its queue holds any. -/
theorem start_queue_get (ierp : Ierp) (dst : Address) (reqId : UInt32) (now : Nat)
    (packet : Packet) (other : Address) :
    ((ierp.start dst reqId now).1.queue dst packet).1.pending.get other = if other = dst then
      some ⟨dst, now, 0, now + ierp.timeoutFor (Discovery.ttl 0), reqId,
        [packet].take ierp.cfg.maxQueuedPerDiscovery⟩
    else ierp.pending.get other := by
  have started : (ierp.start dst reqId now).1.pending.get dst =
      some ⟨dst, now, 0, now + ierp.timeoutFor (Discovery.ttl 0), reqId, []⟩ :=
    get_insert_self _ _ _
  rw [queue_get started]
  by_cases same : other = dst
  · rw [if_pos same, if_pos same]
    rfl
  · rw [if_neg same, if_neg same]
    exact get_insert_of_ne _ _ same

theorem queue_cfg (ierp : Ierp) (dst : Address) (packet : Packet) :
    (ierp.queue dst packet).1.cfg = ierp.cfg := by
  unfold queue
  split
  · rfl
  · rfl

end Ierp

variable [Primitives]

namespace Node

variable {dst : Address} {now : Nat} {node : Node} {packet : Packet} {packets : List Packet}

/-! ## The transmit queue -/

/-- How many packets of our own the transmit queue still takes: its free places and the
relays it may drop. -/
def freeSlots (node : Node) : Nat :=
  (node.cfg.maxTxQueue - node.txQueue.length) + node.txQueue.countP TxItem.isRelay

omit [Primitives] in
/-- A full queue has room as long as it holds a relay. -/
theorem makeTxRoom_cases (node : Node) : (node.freeSlots = 0 ∧ node.makeTxRoom = none) ∨
      ∃ queue, node.makeTxRoom = some queue ∧ queue.countP (fun item => !item.isRelay) =
          node.txQueue.countP (fun item => !item.isRelay) ∧
        (node.cfg.maxTxQueue - (queue.length + 1)) + queue.countP TxItem.isRelay + 1 =
          node.freeSlots := by
  unfold makeTxRoom freeSlots
  by_cases full : node.txQueue.length ≥ node.cfg.maxTxQueue
  · rw [if_pos full]
    cases chosen : Selection.lastMaxBy (fun entry : TxItem × Nat => entry.1.priority)
        (node.txQueue.zipIdx.filter (fun entry => entry.1.isRelay)) with
    | none =>
      refine .inl ⟨?_, rfl⟩
      have none : node.txQueue.countP TxItem.isRelay = 0 := by
        refine countP_eq_zero.mpr (fun item member relay => ?_)
        obtain ⟨index, found⟩ := mem_iff_getElem?.mp member
        have candidate : (item, index) ∈ node.txQueue.zipIdx.filter (fun entry =>
            entry.1.isRelay) := mem_filter.mpr ⟨mk_mem_zipIdx_iff_getElem?.mpr found, relay⟩
        have best : (Selection.lastMaxBy (fun entry : TxItem × Nat => entry.1.priority)
            (node.txQueue.zipIdx.filter (fun entry => entry.1.isRelay))).isSome = true :=
          Selection.lastMaxBy_isSome candidate
        rw [chosen] at best
        cases best
      omega
    | some victim =>
      right
      obtain ⟨member, relay⟩ := mem_filter.mp (Selection.lastMaxBy_mem chosen)
      have found : node.txQueue[victim.2]? = some victim.1 := mk_mem_zipIdx_iff_getElem?.mp member
      obtain ⟨inside, here⟩ := List.getElem?_eq_some_iff.mp found
      have same := getElem_cons_eraseIdx_perm inside
      rw [here] at same
      refine ⟨_, rfl, ?_, ?_⟩
      · rw [← same.countP_eq, countP_cons_of_neg (by simp [relay])]
      · have shorter := length_eraseIdx_of_lt inside
        rw [← same.countP_eq, countP_cons_of_pos relay, shorter]
        omega
  · rw [if_neg full]
    refine .inr ⟨_, rfl, rfl, ?_⟩
    omega

/-- How many packets of our own wait for transmission. -/
def ownQueued (node : Node) : Nat := node.txQueue.countP (fun item => !item.isRelay)

/-- Queueing a packet of our own takes a free slot, or changes nothing. -/
theorem enqueuePacket_slots (node : Node) (notBefore priority : Nat)
    (encoded : (packet.encode node.cfg.networkKey).isOk = true) :
    (node.freeSlots = 0 ∧ (node.enqueuePacket packet notBefore priority false).1 = node) ∨
      ∃ queue history, (node.enqueuePacket packet notBefore priority false).1 =
          { node with txQueue := queue, history := history } ∧
        history.queued = node.history.queued ++ [packet] ∧
        { node with txQueue := queue, history := history }.freeSlots + 1 = node.freeSlots ∧
        { node with txQueue := queue, history := history }.ownQueued = node.ownQueued + 1 := by
  unfold enqueuePacket
  cases framed : packet.encode node.cfg.networkKey with
  | error _ =>
    rw [framed] at encoded
    cases encoded
  | ok frame =>
    rcases node.makeTxRoom_cases with ⟨full, refused⟩ | ⟨queue, room, own, slots⟩
    · rw [refused]
      exact .inl ⟨full, rfl⟩
    · rw [room]
      refine .inr ⟨_, _, rfl, rfl, ?_, ?_⟩
      · rw [← slots, freeSlots]
        simp [countP_append]
      · simp [ownQueued, countP_append, own]

/-! ## Packets with a next hop -/

/-- The router queues packets to a destination without asking for a route. -/
def directs (node : Node) (dst : Address) (now : Nat) : Bool :=
  node.cfg.routingMode == .flood || (node.nextHopFor dst now).isSome

/-- A packet of our own to a destination, of a size that a frame carries. -/
structure Sendable (node : Node) (dst : Address) (packet : Packet) : Prop where
  dst : packet.header.dst = dst
  marked : packet.header.has Flags.netAuth = node.cfg.networkKey.isSome
  fits : packet.payload.length ≤ maxPayload node.cfg.networkKey.isSome

omit [Primitives] in
/-- What can be sent depends on the configuration only. -/
theorem Sendable.ofCfg {after : Node} (sendable : node.Sendable dst packet)
    (cfg : after.cfg = node.cfg) :
    after.Sendable dst packet := ⟨sendable.dst, cfg ▸ sendable.marked, cfg ▸ sendable.fits⟩

/-- Packets were queued through a next hop, which stays known if no two routes share it. -/
structure Onward (dst : Address) (now : Nat) (before after : Node) (copies : List Packet) :
    Prop where
  cfg : after.cfg = before.cfg
  ierp : after.ierp = before.ierp
  distinct : before.routes.Distinct → after.routes.Distinct
  directs : before.routes.Distinct → after.directs dst now = true
  queued : after.history.queued = before.history.queued ++ copies
  slots : after.freeSlots + copies.length = before.freeSlots
  own : after.ownQueued = before.ownQueued + copies.length

omit [Primitives] in
theorem Onward.trans {before middle after : Node} {first second : List Packet}
    (former : Onward dst now before middle first) (latter : Onward dst now middle after second) :
    Onward dst now before after (first ++ second) := by
  constructor
  · rw [latter.cfg, former.cfg]
  · rw [latter.ierp, former.ierp]
  · exact latter.distinct ∘ former.distinct
  · exact latter.directs ∘ former.distinct
  · rw [latter.queued, former.queued, append_assoc]
  · rw [length_append, ← former.slots, ← latter.slots]
    omega
  · rw [length_append, latter.own, former.own]
    omega

omit [Primitives] in
/-- Sending through a next hop counts the attempt at the neighbour. -/
theorem trackHop_uses (node : Node) (packet : Packet) (dst hop : Address) (now : Nat)
    (isRelay : Bool) :
    UsesHop dst hop now node (trackHop { node with routes := node.routes.touch dst hop now }
      packet hop now isRelay) := by
  unfold trackHop
  split
  · exact ⟨rfl, rfl, rfl, rfl, fun _ => rfl⟩
  · exact ⟨rfl, rfl, rfl, rfl, recordTxAttempt_watch node.neighbors hop⟩

/-- One packet with a next hop: it is queued if there is a free slot, and never refused. -/
theorem routeUnicast_directed (directed : node.directs dst now = true)
    (sendable : node.Sendable dst packet) :
    (node.routeUnicast packet now).2 = .ok () ∧
      ∃ copies : List Packet, Onward dst now node (node.routeUnicast packet now).1 copies ∧
        List.Forall₂ Packet.CopyOf copies ([packet].take node.freeSlots) := by
  have encoded (hop : UInt16) : (Packet.encode { packet with
      header := { packet.header with nextHop := hop } } node.cfg.networkKey).isOk = true := by
    have framed : (Packet.encode { packet with
        header := { packet.header with nextHop := hop } } node.cfg.networkKey).isOk =
          decide (packet.payload.length ≤ maxPayload node.cfg.networkKey.isSome) :=
      encode_isOk sendable.marked
    rw [framed]
    exact decide_eq_true sendable.fits
  -- Both modes end with a packet offered to the transmit queue of a node that still
  -- knows the way.
  have offered (ready : Node) (hop : UInt16) (priority : Nat) (cfg : ready.cfg = node.cfg)
      (ierp : ready.ierp = node.ierp)
      (routes : node.routes.Distinct → ready.routes.Distinct)
      (way : node.routes.Distinct → ready.directs dst now = true)
      (history : ready.history = node.history)
      (same : ready.txQueue = node.txQueue) :
      ∃ copies : List Packet, Onward dst now node (ready.enqueuePacket { packet with
          header := { packet.header with nextHop := hop } } now priority false).1 copies ∧
        List.Forall₂ Packet.CopyOf copies ([packet].take node.freeSlots) := by
    have slots : ready.freeSlots = node.freeSlots := by rw [freeSlots, freeSlots, cfg, same]
    rcases ready.enqueuePacket_slots now priority (cfg ▸ encoded hop) with
      ⟨full, unchanged⟩ | ⟨queue, log, taken, added, fewer, more⟩
    · rw [unchanged, ← slots, full]
      refine ⟨[], ⟨cfg, ierp, routes, way, by rw [history, append_nil], slots, ?_⟩, .nil⟩
      rw [ownQueued, same]
      rfl
    · rw [taken, ← slots, ← fewer, take_succ_cons, take_nil]
      refine ⟨[_], ⟨cfg, ierp, routes, way, ?_, ?_, ?_⟩, .cons ⟨hop, rfl⟩ .nil⟩
      · rw [added, history]
      · rw [← slots, ← fewer]
        rfl
      · rw [more, ownQueued, ownQueued, same]
        rfl
  obtain ⟨rfl, _, _⟩ := sendable
  simp only [routeUnicast]
  by_cases flooding : node.cfg.routingMode = .flood
  · rw [if_pos flooding]
    exact ⟨rfl, offered node nextHopAny Priority.data rfl rfl (fun distinct => distinct)
      (fun _ => directed) rfl rfl⟩
  · rw [if_neg flooding]
    cases known : node.nextHopFor packet.header.dst now with
    | none =>
      rw [directs, known] at directed
      simp [flooding] at directed
    | some hop =>
      refine ⟨rfl, ?_⟩
      have uses := node.trackHop_uses { packet with
        header := { packet.header with nextHop := hop.short } } packet.header.dst hop now false
      have tracked (base : Node) (other : Packet) : (base.trackHop other hop now false).history =
          base.history ∧ (base.trackHop other hop now false).txQueue = base.txQueue ∧
          (base.trackHop other hop now false).ierp = base.ierp := by
        unfold trackHop
        split <;> exact ⟨rfl, rfl, rfl⟩
      refine offered _ hop.short _ uses.cfg (tracked _ _).2.2 ?_ ?_ (tracked _ _).1
        (tracked _ _).2.1
      · intro distinct
        rw [uses.routes]
        exact distinct.modify packet.header.dst hop (fun entry => rfl)
      · intro distinct
        rw [directs, uses.reaches distinct known, Bool.or_true]

/-! ## Packets without a next hop -/

/-- The packets parked for a destination. -/
def parkedFor (node : Node) (dst : Address) : List Packet :=
  match node.ierp.pending.get dst with
  | some discovery => discovery.queued
  | none => []

/-- How many packets a discovery for the destination still parks. -/
def waitingRoom (node : Node) (dst : Address) (now : Nat) : Nat :=
  match node.ierp.pending.get dst with
  | some discovery => node.ierp.cfg.maxQueuedPerDiscovery - discovery.queued.length
  | none => if node.ierp.mayStart dst now then node.ierp.cfg.maxQueuedPerDiscovery else 0

/-- Packets were parked behind a discovery, which may have flooded a request. -/
structure Shelved (dst : Address) (now : Nat) (before after : Node) (parked : List Packet) :
    Prop where
  cfg : after.cfg = before.cfg
  undirected : after.directs dst now = false
  held : after.parkedFor dst = before.parkedFor dst ++ parked
  others : ∀ other, other ≠ dst → after.parkedFor other = before.parkedFor other
  room : after.waitingRoom dst now + parked.length = before.waitingRoom dst now
  requests : ∃ requests : List Packet,
    after.history.queued = before.history.queued ++ requests ∧
      ∀ request ∈ requests, request.header.ptype = .routeRequest

omit [Primitives] in
theorem Shelved.refl (undirected : node.directs dst now = false) : Shelved dst now node node [] :=
  ⟨rfl, undirected, (append_nil _).symm, fun _ _ => rfl, rfl, [], (append_nil _).symm,
    nofun⟩

omit [Primitives] in
theorem Shelved.trans {before middle after : Node} {first second : List Packet}
    (former : Shelved dst now before middle first) (latter : Shelved dst now middle after second) :
    Shelved dst now before after (first ++ second) := by
  obtain ⟨requests, asked, kind⟩ := former.requests
  obtain ⟨later, more, alike⟩ := latter.requests
  constructor
  · rw [latter.cfg, former.cfg]
  · exact latter.undirected
  · rw [latter.held, former.held, append_assoc]
  · intro other different
    rw [latter.others other different, former.others other different]
  · rw [length_append, ← former.room, ← latter.room]
    omega
  · refine ⟨requests ++ later, by rw [more, asked, append_assoc], ?_⟩
    exact forall_mem_append.mpr ⟨kind, alike⟩

theorem sendRouteRequest_unmoved (node : Node) (target : Address) (reqId : UInt32) (ttl : UInt8)
    (now : Nat) (dst : Address) :
    (node.sendRouteRequest target reqId ttl now).ierp = node.ierp ∧
      (node.sendRouteRequest target reqId ttl now).cfg = node.cfg ∧
      (node.sendRouteRequest target reqId ttl now).directs dst now = node.directs dst now := by
  unfold sendRouteRequest enqueuePacket
  simp only
  split
  · exact ⟨rfl, rfl, rfl⟩
  · split
    · exact ⟨rfl, rfl, rfl⟩
    · exact ⟨rfl, rfl, rfl⟩

/-- The discoveries after one was started for a packet. -/
theorem startDiscovery_ierp (node : Node) (dst : Address) (packet : Packet) (now : Nat) :
    (node.startDiscovery dst (some packet) now).ierp =
      ((node.ierp.start dst node.newPacketId.2 now).1.queue dst packet).1 :=
  (sendRouteRequest_unmoved { node.newPacketId.1 with
      ierp := ((node.newPacketId.1.ierp.start dst node.newPacketId.2 now).1.queue dst packet).1 }
    dst node.newPacketId.2 (node.newPacketId.1.ierp.start dst node.newPacketId.2 now).2 now dst).1

/-- A discovery that starts parks its packet, if its queue holds any. -/
theorem startDiscovery_waiting (undirected : node.directs dst now = false)
    (may : node.ierp.mayStart dst now = true) :
    Shelved dst now node (node.startDiscovery dst (some packet) now)
      ([packet].take (node.waitingRoom dst now)) := by
  have idle := Ierp.mayStart_idle may
  obtain ⟨request, kind, asked⟩ := node.startDiscovery_queued dst (some packet) now
  have requests : ∃ requests : List Packet, (node.startDiscovery dst (some packet)
      now).history.queued =
      node.history.queued ++ requests ∧
        ∀ request ∈ requests, request.header.ptype = .routeRequest := by
    refine ⟨_, asked, ?_⟩
    split
    · intro other member
      rw [mem_singleton.mp member]
      exact kind
    · exact nofun
  have parked := node.startDiscovery_ierp dst packet now
  obtain ⟨_, cfg, way⟩ := sendRouteRequest_unmoved { node.newPacketId.1 with
      ierp := ((node.newPacketId.1.ierp.start dst node.newPacketId.2 now).1.queue dst packet).1 }
    dst node.newPacketId.2 (node.newPacketId.1.ierp.start dst node.newPacketId.2 now).2 now dst
  have table := node.ierp.start_queue_get dst node.newPacketId.2 now packet
  have limits : ((node.ierp.start dst node.newPacketId.2 now).1.queue dst packet).1.cfg =
      node.ierp.cfg := Ierp.queue_cfg _ _ _
  have room : node.waitingRoom dst now = node.ierp.cfg.maxQueuedPerDiscovery := by
    rw [waitingRoom, idle]
    exact if_pos may
  rw [room]
  refine ⟨cfg, way.trans undirected, ?_, ?_, ?_, requests⟩
  · rw [parkedFor, parked, table, if_pos rfl, parkedFor, idle]
    rfl
  · intro other different
    rw [parkedFor, parked, table, if_neg different]
    rfl
  · rw [room, waitingRoom, parked, table, if_pos rfl, limits]
    simp only
    rw [length_take, length_singleton]
    omega

/-- What routing a packet without a next hop comes to: it is parked behind the pending
discovery or refused by it, it starts a discovery, or it is refused because none may start. -/
theorem routeUnicast_undirected (undirected : node.directs dst now = false)
    (toDst : packet.header.dst = dst) :
    (∃ discovery, node.ierp.pending.get dst = some discovery ∧
      ((discovery.queued.length < node.ierp.cfg.maxQueuedPerDiscovery ∧
          node.routeUnicast packet now =
            ({ node with ierp := (node.ierp.queue dst packet).1 }, .ok ())) ∨
        (¬discovery.queued.length < node.ierp.cfg.maxQueuedPerDiscovery ∧
          node.routeUnicast packet now = (node, .error .full)))) ∨
    (node.ierp.pending.get dst = none ∧ ((node.ierp.mayStart dst now = true ∧
          node.routeUnicast packet now = (node.startDiscovery dst (some packet) now, .ok ())) ∨
        (node.ierp.mayStart dst now = false ∧
          node.routeUnicast packet now = (node, .error .noRoute)))) := by
  subst toDst
  have ways : node.cfg.routingMode ≠ .flood ∧ node.nextHopFor packet.header.dst now = none := by
    simpa [directs] using undirected
  simp only [routeUnicast]
  rw [if_neg ways.1, ways.2]
  simp only
  by_cases pending : node.ierp.isPending packet.header.dst = true
  · obtain ⟨discovery, found⟩ := (contains_eq_true_iff _ _).mp pending
    refine .inl ⟨discovery, found, ?_⟩
    rw [if_pos pending]
    by_cases room : discovery.queued.length < node.ierp.cfg.maxQueuedPerDiscovery
    · have free : node.ierp.hasRoom packet.header.dst = true := by simp [Ierp.hasRoom, found, room]
      refine .inl ⟨room, ?_⟩
      rw [Ierp.queue, if_pos free]
      rfl
    · have full : ¬node.ierp.hasRoom packet.header.dst = true := by
        simp [Ierp.hasRoom, found, room]
      refine .inr ⟨room, ?_⟩
      rw [Ierp.queue, if_neg full]
      rfl
  · refine .inr ⟨get_eq_none pending, ?_⟩
    rw [if_neg pending]
    cases node.ierp.mayStart packet.header.dst now with
    | true => exact .inl ⟨rfl, rfl⟩
    | false => exact .inr ⟨rfl, rfl⟩

/-- The router has a way for a packet: a next hop, or a discovery that parks it. -/
def Routable (node : Node) (dst : Address) (now : Nat) : Prop :=
  node.directs dst now = true ∨ node.ierp.hasRoom dst = true ∨ node.ierp.mayStart dst now = true

/-- A packet is taken when there is a way for it. A packet that is refused changes nothing. -/
theorem routeUnicast_routable (toDst : packet.header.dst = dst) :
    (node.Routable dst now ∧ (node.routeUnicast packet now).2 = .ok ()) ∨
      (¬node.Routable dst now ∧ ∃ error, node.routeUnicast packet now = (node, .error error)) := by
  cases directed : node.directs dst now with
  | true =>
    refine .inl ⟨.inl directed, ?_⟩
    subst toDst
    simp only [routeUnicast]
    split
    · rfl
    · rename_i zrp
      simp only [directs, beq_eq_false_iff_ne.mpr zrp, Bool.false_or] at directed
      obtain ⟨hop, known⟩ := Option.isSome_iff_exists.mp directed
      rw [known]
  | false =>
    rcases routeUnicast_undirected directed toDst with
      ⟨discovery, found, ⟨room, parked⟩ | ⟨full, refused⟩⟩ |
        ⟨absent, ⟨may, started⟩ | ⟨resting, refused⟩⟩
    · exact .inl ⟨.inr (.inl (by simp [Ierp.hasRoom, found, room])), by rw [parked]⟩
    · refine .inr ⟨?_, _, refused⟩
      simp [Routable, directed, Ierp.hasRoom, found, full, Ierp.mayStart, OrderedMap.contains]
    · exact .inl ⟨.inr (.inr may), by rw [started]⟩
    · refine .inr ⟨?_, _, refused⟩
      simp [Routable, directed, Ierp.hasRoom, absent, resting]

/-- One packet without a next hop: it is parked if there is room. A packet that is refused
changes nothing. -/
theorem routeUnicast_waiting (undirected : node.directs dst now = false)
    (toDst : packet.header.dst = dst) :
    Shelved dst now node (node.routeUnicast packet now).1
        ([packet].take (node.waitingRoom dst now)) ∧
      ∀ error, (node.routeUnicast packet now).2 = .error error →
        (node.routeUnicast packet now).1 = node ∧ node.waitingRoom dst now = 0 := by
  rcases routeUnicast_undirected undirected toDst with
    ⟨discovery, found, ⟨_, parked⟩ | ⟨full, refused⟩⟩ |
      ⟨absent, ⟨may, started⟩ | ⟨resting, refused⟩⟩
  · have table := Ierp.queue_get found packet
    have limits := node.ierp.queue_cfg dst packet
    have room : node.waitingRoom dst now =
        node.ierp.cfg.maxQueuedPerDiscovery - discovery.queued.length := by
      rw [waitingRoom, found]
    rw [parked, room]
    refine ⟨⟨rfl, undirected, ?_, ?_, ?_, [], (append_nil _).symm, nofun⟩, nofun⟩
    · simp only [parkedFor, table, found, if_pos, Discovery.park]
    · intro other different
      simp only [parkedFor, table, if_neg different]
    · simp only [waitingRoom, table, found, if_pos, limits, Discovery.park]
      rw [length_append, length_take, length_singleton]
      omega
  · have closed : node.waitingRoom dst now = 0 := by
      rw [waitingRoom, found]
      simp only
      omega
    rw [refused, closed]
    exact ⟨Shelved.refl undirected, fun _ _ => ⟨rfl, rfl⟩⟩
  · rw [started]
    exact ⟨startDiscovery_waiting undirected may, nofun⟩
  · have closed : node.waitingRoom dst now = 0 := by
      rw [waitingRoom, absent]
      exact if_neg (by simp [resting])
    rw [refused, closed]
    exact ⟨Shelved.refl undirected, fun _ _ => ⟨rfl, rfl⟩⟩

/-! ## The packets of a message -/

/-- Packets handed to the router one after the other until one is refused; a fresh packet
id may be drawn before each. -/
inductive Bursts (now : Nat) : Node → List Packet → Node × Except Error Unit → Prop where
  | done {node : Node} : Bursts now node [] (node, .ok ())
  | draw {node : Node} {packets : List Packet} {result : Node × Except Error Unit}
      (rest : Bursts now node.newPacketId.1 packets result) : Bursts now node packets result
  | stop {node : Node} {packet : Packet} {packets : List Packet} {error : Error}
      (refused : (node.routeUnicast packet now).2 = .error error) :
      Bursts now node (packet :: packets) ((node.routeUnicast packet now).1, .error error)
  | route {node : Node} {packet : Packet} {packets : List Packet}
      {result : Node × Except Error Unit} (taken : (node.routeUnicast packet now).2 = .ok ())
      (rest : Bursts now (node.routeUnicast packet now).1 packets result) :
      Bursts now node (packet :: packets) result

/-- How many packets of a message to the destination the router takes. -/
def capacity (node : Node) (dst : Address) (now : Nat) : Nat :=
  if node.directs dst now then node.freeSlots else node.waitingRoom dst now

/-- The packets of one message that were queued or parked: nothing but copies of them and
route requests is new, and each of them is. -/
def Admits (dst : Address) (before after : Node) (taken : List Packet) : Prop :=
  ∃ copies added : List Packet,
    after.history.queued = before.history.queued ++ copies ∧
    after.parkedFor dst = before.parkedFor dst ++ added ∧
    (∀ other, other ≠ dst → after.parkedFor other = before.parkedFor other) ∧
    (∀ copy ∈ copies ++ added, copy.header.ptype = .routeRequest ∨
      ∃ packet ∈ taken, copy.CopyOf packet) ∧
    ∀ packet ∈ taken, ∃ copy ∈ copies ++ added, copy.CopyOf packet

section

omit [Primitives]

/-- Lists that match element by element have a match for each member. -/
theorem matched {α β : Type} {related : α → β → Prop} {copies : List α} {taken : List β}
    (same : List.Forall₂ related copies taken) :
    ∀ copy ∈ copies, ∃ packet ∈ taken, related copy packet := by
  induction same with
  | nil => exact nofun
  | cons first _ ih =>
    intro copy member
    rcases mem_cons.mp member with rfl | later
    · exact ⟨_, mem_cons_self, first⟩
    · obtain ⟨packet, present, match_⟩ := ih copy later
      exact ⟨packet, mem_cons_of_mem _ present, match_⟩

theorem Onward.admits {before after : Node} {copies taken : List Packet}
    (onward : Onward dst now before after copies) (same : List.Forall₂ Packet.CopyOf copies taken)
    : Admits dst before after taken := by
  have parked (other : Address) : after.parkedFor other = before.parkedFor other := by
    rw [parkedFor, onward.ierp, parkedFor]
  refine ⟨copies, [], onward.queued, by rw [parked, append_nil], fun other _ => parked other,
    ?_, ?_⟩
  · rw [append_nil]
    exact fun copy member => .inr (matched same copy member)
  · rw [append_nil]
    exact matched same.flip

theorem Shelved.admits {before after : Node} {taken : List Packet}
    (waiting : Shelved dst now before after taken) : Admits dst before after taken := by
  obtain ⟨requests, asked, kind⟩ := waiting.requests
  refine ⟨requests, taken, asked, waiting.held, waiting.others, ?_, ?_⟩
  · intro copy member
    rcases mem_append.mp member with request | parked
    · exact .inl (kind copy request)
    · exact .inr ⟨copy, parked, .refl copy⟩
  · exact fun packet member => ⟨packet, mem_append_right _ member, .refl packet⟩

/-- The first packets up to a bound, one step at a time. -/
theorem take_cons (packet : Packet) (packets : List Packet) (bound : Nat) :
    (packet :: packets).take bound = [packet].take bound ++ packets.take (bound - 1) := by
  rw [← singleton_append, take_append]
  rfl

end

/-- One packet is queued or parked while the router has room for it. -/
theorem routeUnicast_admits (sendable : node.Sendable dst packet) :
    Admits dst node (node.routeUnicast packet now).1 ([packet].take (node.capacity dst now)) := by
  cases way : node.directs dst now with
  | true =>
    obtain ⟨_, copies, onward, same⟩ := routeUnicast_directed way sendable
    rw [capacity, if_pos way]
    exact onward.admits same
  | false =>
    rw [capacity, if_neg (by simp [way])]
    exact (routeUnicast_waiting way sendable.dst).1.admits

variable {result : Node × Except Error Unit}

section

variable (bursts : Bursts now node packets result)

include bursts

/-- With a next hop no packet is refused, and those up to the free slots are queued. -/
theorem Bursts.directed (distinct : node.routes.Distinct) (directed : node.directs dst now = true)
    (sendable : ∀ packet ∈ packets, node.Sendable dst packet) :
    result.2 = .ok () ∧ ∃ copies, Onward dst now node result.1 copies ∧
      List.Forall₂ Packet.CopyOf copies (packets.take node.freeSlots) := by
  induction bursts with
  | @done node =>
    refine ⟨rfl, [], ⟨rfl, rfl, fun _ => distinct, fun _ => directed, (append_nil _).symm,
      rfl, rfl⟩, ?_⟩
    rw [take_nil]
    exact .nil
  | @draw node _ _ _ ih =>
    obtain ⟨accepted, copies, onward, same⟩ := ih distinct directed
      (fun packet member => (sendable packet member).ofCfg rfl)
    have drawn : Onward dst now node node.newPacketId.1 [] :=
      ⟨rfl, rfl, fun _ => distinct, fun _ => directed, (append_nil _).symm, rfl, rfl⟩
    exact ⟨accepted, copies, drawn.trans onward, same⟩
  | @stop node packet _ _ refused =>
    cases refused.symm.trans (routeUnicast_directed directed
      (sendable packet mem_cons_self)).1
  | @route node packet rest _ _ _ ih =>
    obtain ⟨_, first, onward, copied⟩ := routeUnicast_directed directed
      (sendable packet mem_cons_self)
    obtain ⟨accepted, copies, later, same⟩ := ih (onward.distinct distinct)
      (onward.directs distinct)
      (fun other member => (sendable other (mem_cons_of_mem _ member)).ofCfg onward.cfg)
    refine ⟨accepted, first ++ copies, onward.trans later, ?_⟩
    have used := copied.length_eq
    rw [length_take, length_singleton] at used
    have left := onward.slots
    rw [take_cons, show node.freeSlots - 1 = (node.routeUnicast packet now).1.freeSlots by omega]
    exact rel_append copied same

/-- Without a next hop the packets up to the room of the discovery are parked. -/
theorem Bursts.waiting (undirected : node.directs dst now = false)
    (toDst : ∀ packet ∈ packets, packet.header.dst = dst) :
    Shelved dst now node result.1 (packets.take (node.waitingRoom dst now)) ∧
      ∀ error, result.2 = .error error → node.waitingRoom dst now < packets.length := by
  induction bursts with
  | @done node =>
    rw [take_nil]
    exact ⟨Shelved.refl undirected, nofun⟩
  | @draw node _ _ _ ih =>
    obtain ⟨waiting, refused⟩ := ih undirected toDst
    have drawn : Shelved dst now node node.newPacketId.1 [] :=
      ⟨rfl, undirected, (append_nil _).symm, fun _ _ => rfl, rfl, [], (append_nil _).symm, nofun⟩
    exact ⟨drawn.trans waiting, refused⟩
  | @stop node packet rest error refused =>
    obtain ⟨same, full⟩ := (routeUnicast_waiting undirected
      (toDst packet mem_cons_self)).2 error refused
    rw [full, same, take_zero]
    exact ⟨Shelved.refl undirected, fun _ _ => Nat.succ_pos _⟩
  | @route node packet rest _ _ _ ih =>
    have first := (routeUnicast_waiting undirected (toDst packet mem_cons_self)).1
    obtain ⟨waiting, refused⟩ := ih first.undirected
      (fun other member => toDst other (mem_cons_of_mem _ member))
    have left := first.room
    rw [length_take, length_singleton] at left
    have fewer : node.waitingRoom dst now - 1 =
        (node.routeUnicast packet now).1.waitingRoom dst now := by omega
    rw [take_cons, fewer]
    refine ⟨first.trans waiting, ?_⟩
    intro error failed
    have shorter := refused error failed
    rw [length_cons]
    omega

/-- The router takes the packets of a message in order up to its capacity. -/
theorem Bursts.admits (distinct : node.routes.Distinct)
    (sendable : ∀ packet ∈ packets, node.Sendable dst packet) :
    Admits dst node result.1 (packets.take (node.capacity dst now)) := by
  cases way : node.directs dst now with
  | true =>
    obtain ⟨_, copies, onward, same⟩ := bursts.directed distinct way sendable
    rw [capacity, if_pos way]
    exact onward.admits same
  | false =>
    have waiting := (bursts.waiting way (fun packet member => (sendable packet member).dst)).1
    rw [capacity, if_neg (by simp [way])]
    exact waiting.admits

end

/-! ## The packets a message needs -/

omit [Primitives] in
theorem chunks_short {chunk count : Nat} (body : Bytes) :
    ∀ item ∈ chunks chunk count body, item.length ≤ chunk := by
  induction count generalizing body with
  | zero => exact nofun
  | succ count ih =>
    intro item member
    rcases mem_cons.mp member with rfl | later
    · exact length_take_le _ _
    · exact ih _ item later

/-- How many packets carry a body of a length. -/
def packetCount (netAuth : Bool) (length : Nat) : Nat :=
  if length ≤ maxPayload netAuth then 1
  else (length + (maxPayload netAuth - fragHeaderLen) - 1) / (maxPayload netAuth - fragHeaderLen)

omit [Primitives] in
/-- A body of at most 255 chunks is split, into chunks that fit. -/
theorem split_large {fragId : UInt16} {body : Bytes} (netAuth : Bool)
    (large : maxPayload netAuth < body.length)
    (few : body.length ≤ 255 * (maxPayload netAuth - fragHeaderLen)) :
    ∃ parts, split fragId body (maxPayload netAuth - fragHeaderLen) = some parts ∧
      parts.length = packetCount netAuth body.length ∧
      ∀ part ∈ parts, (frameFragment part.1 part.2).length ≤ maxPayload netAuth := by
  have payload : fragHeaderLen + 1 ≤ maxPayload netAuth := by cases netAuth <;> decide
  rw [packetCount, if_neg (by omega), split, if_neg (by omega)]
  generalize size : maxPayload netAuth - fragHeaderLen = chunk at *
  have positive : 0 < chunk := by omega
  have several : 1 ≤ (body.length + chunk - 1) / chunk :=
    (Nat.one_le_div_iff positive).mpr (by omega)
  have counted : (body.length + chunk - 1) / chunk < 256 := by
    rw [Nat.div_lt_iff_lt_mul positive]
    omega
  simp only [Nat.max_eq_left several]
  rw [if_neg (by omega)]
  refine ⟨_, rfl, ?_, ?_⟩
  · rw [length_map, length_zipIdx, chunks_length]
  · intro part member
    obtain ⟨⟨item, index⟩, present, rfl⟩ := mem_map.mp member
    have short := chunks_short body item (fst_mem_of_mem_zipIdx present)
    have framed : (frameFragment (FragHeader.mk fragId (UInt8.ofNat index)
        (UInt8.ofNat ((body.length + chunk - 1) / chunk))) item).length =
          fragHeaderLen + item.length := by
      simp [frameFragment, FragHeader.write, fragHeaderLen]
      omega
    rw [framed]
    omega

/-- Two nodes that the router sees as one. -/
structure SameRouter (before after : Node) : Prop where
  cfg : after.cfg = before.cfg
  neighbors : after.neighbors = before.neighbors
  zone : after.zone = before.zone
  routes : after.routes = before.routes
  attachedAnchor : after.attachedAnchor = before.attachedAnchor
  ierp : after.ierp = before.ierp
  txQueue : after.txQueue = before.txQueue
  hopPending : after.hopPending = before.hopPending
  queued : after.history.queued = before.history.queued

namespace SameRouter

variable {before after final : Node}

section

omit [Primitives]

variable (same : SameRouter before after)

include same

theorem directs (dst : Address) (now : Nat) : after.directs dst now = before.directs dst now := by
  simp only [Node.directs, nextHopFor, directHop, zoneHop, cachedHop, same.cfg, same.neighbors,
    same.zone, same.routes, same.attachedAnchor]

theorem capacity (dst : Address) (now : Nat) :
    after.capacity dst now = before.capacity dst now := by
  rw [Node.capacity, Node.capacity, same.directs]
  simp only [freeSlots, waitingRoom, same.cfg, same.txQueue, same.ierp]

theorem parkedFor (dst : Address) : after.parkedFor dst = before.parkedFor dst := by
  rw [Node.parkedFor, Node.parkedFor, same.ierp]

theorem admits {taken : List Packet}
    (admits : Admits dst after final taken) : Admits dst before final taken := by
  simpa only [Admits, same.queued, same.parkedFor] using admits

end

end SameRouter

section

variable {node : Node} {packet : Packet}

/-- A burst goes on with what follows the packet, if the router takes it. -/
theorem Bursts.next (follow : Node → Node × Except Error Unit)
    (later : Bursts now (node.routeUnicast packet now).1 packets
      (follow (node.routeUnicast packet now).1)) :
    Bursts now node (packet :: packets) (match node.routeUnicast packet now with
      | (routed, .error error) => (routed, .error error)
      | (routed, .ok ()) => follow routed) := by
  rw [← Prod.mk.eta (p := node.routeUnicast packet now)]
  cases outcome : (node.routeUnicast packet now).2 with
  | error error => exact .stop outcome
  | ok => exact .route outcome later

/-- A packet is a burst of its own. -/
theorem Bursts.single : Bursts now node [packet] (node.routeUnicast packet now) := by
  rw [← Prod.mk.eta (p := node.routeUnicast packet now)]
  cases outcome : (node.routeUnicast packet now).2 with
  | error error => exact .stop outcome
  | ok => exact .route outcome .done

end

/-- The fragments of a body as a burst. -/
theorem sendFragments_bursts {header : Header} {now : Nat} {parts : List (FragHeader × Bytes)}
    (first : Bool) (node : Node) :
    Bursts now node (fragmentPackets header now parts first node)
      (sendFragments header now parts first node) := by
  induction parts generalizing first node with
  | nil => exact .done
  | cons part rest ih =>
    simp only [sendFragments, fragmentPackets]
    cases first with
    | true => exact .next _ (ih false _)
    | false => exact .draw (.next _ (ih false _))

/-- The fragments of an envelope as a burst, when none can be refused. -/
theorem sendEnvelopeFragments_bursts {header : Header} {parts : List (FragHeader × Bytes)}
    {first : Bool} (distinct : node.routes.Distinct) (directed : node.directs header.dst now = true)
    (marked : header.has Flags.netAuth = node.cfg.networkKey.isSome)
    (fits : ∀ part ∈ parts, (frameFragment part.1 part.2).length ≤
      maxPayload node.cfg.networkKey.isSome) :
    Bursts now node (fragmentPackets header now parts first node)
      (sendEnvelopeFragments header now parts first node, .ok ()) := by
  induction parts generalizing first node with
  | nil => exact .done
  | cons part rest ih =>
    have step (drawn : Node × UInt32) (same : SameRouter node drawn.1) : Bursts now drawn.1
        (⟨{ header with packetId := drawn.2 }, frameFragment part.1 part.2⟩ ::
          fragmentPackets header now rest false (drawn.1.routeUnicast
            ⟨{ header with packetId := drawn.2 }, frameFragment part.1 part.2⟩ now).1)
        (sendEnvelopeFragments header now rest false (drawn.1.routeUnicast
          ⟨{ header with packetId := drawn.2 }, frameFragment part.1 part.2⟩ now).1, .ok ()) := by
      have sendable : drawn.1.Sendable header.dst
          ⟨{ header with packetId := drawn.2 }, frameFragment part.1 part.2⟩ :=
        ⟨rfl, same.cfg ▸ marked, same.cfg ▸ fits part mem_cons_self⟩
      obtain ⟨taken, copies, onward, _⟩ := routeUnicast_directed
        ((same.directs _ _).trans directed) sendable
      have routes : drawn.1.routes.Distinct := same.routes ▸ distinct
      refine .route taken (ih (onward.distinct routes) (onward.directs routes) ?_ ?_)
      · rw [onward.cfg, same.cfg, marked]
      · intro other member
        rw [onward.cfg, same.cfg]
        exact fits other (mem_cons_of_mem _ member)
    simp only [sendEnvelopeFragments, fragmentPackets]
    cases first with
    | true => exact step (node, header.packetId) (by constructor <;> rfl)
    | false => exact .draw (step node.newPacketId (by constructor <;> rfl))

/-- The packets of a fragmented body can be sent when its header and chunks can. -/
theorem fragmentPackets_sendable {header : Header} (now : Nat) {parts : List (FragHeader × Bytes)}
    (first : Bool) {ready : Node} (toDst : header.dst = dst)
    (marked : header.has Flags.netAuth = node.cfg.networkKey.isSome)
    (fits : ∀ part ∈ parts, (frameFragment part.1 part.2).length ≤
      maxPayload node.cfg.networkKey.isSome) :
    ∀ packet ∈ fragmentPackets header now parts first ready, node.Sendable dst packet := by
  intro packet member
  obtain ⟨index, found⟩ := mem_iff_getElem?.mp member
  obtain ⟨part, packetId, present, rfl⟩ :=
    (fragmentPackets_parts header now parts first ready).2 index packet found
  exact ⟨toDst, marked, fits part (mem_of_getElem? present)⟩

/-- How a body leaves a node: packets that carry it, as many as its length needs, are handed
to the router one after the other. -/
structure Leaves (node : Node) (dst : Address) (now : Nat) (header : Header) (body : Bytes)
    (packets : List Packet) (fragment : Option UInt16) (result : Node × Except Error Unit) :
    Prop where
  carries : Carries header body packets fragment
  count : packets.length = packetCount node.cfg.networkKey.isSome body.length
  sendable : ∀ packet ∈ packets, node.Sendable dst packet
  bursts : ∃ ready : Node, SameRouter node ready ∧
    (∀ target, ready.requestFor target = node.requestFor target) ∧
    Bursts now ready packets result

theorem Leaves.admits {header : Header} {body : Bytes} {fragment : Option UInt16}
    (leaves : node.Leaves dst now header body packets fragment result)
    (distinct : node.routes.Distinct) :
    Admits dst node result.1 (packets.take (node.capacity dst now)) := by
  obtain ⟨ready, same, _, bursts⟩ := leaves.bursts
  rw [← same.capacity]
  refine same.admits (bursts.admits (same.routes ▸ distinct) ?_)
  exact fun packet member => (leaves.sendable packet member).ofCfg same.cfg

/-- A ciphertext is longer than its body by a fixed overhead. -/
theorem encrypt_length (honest : HonestPrimitives) {session : Session} {aad body payload : Bytes}
    (sealed : (session.encrypt now aad body).2 = .ok payload) :
    payload.length = body.length + transportOverhead := by
  obtain ⟨-, -, rfl⟩ := Session.encrypt_ok (Prod.ext rfl sealed)
  simp only [CipherState.encryptN, length_append, FixedBytes.length_val,
    BigEndian.encode_length, transportOverhead, tagLen, honest.inPlace, length_singleton]
  omega

/-- A session send whose counter is not used up seals its body and lets it leave. -/
theorem sendSessionPacket_leaves (honest : HonestPrimitives) {session : Session} {body : Bytes}
    (ptype : PacketType) (seq : UInt16) (ackRequest : Bool) (now : Nat)
    (found : node.sessions.get dst = some session)
    (below : session.sendCtr < counterRekeyThreshold)
    (few : body.length + transportOverhead ≤
      255 * (maxPayload node.cfg.networkKey.isSome - fragHeaderLen)) :
    ∃ (header : Header) (fragment : Option UInt16) (ciphertext : Bytes),
      (header.src = node.address ∧ header.dst = dst ∧ header.ptype = ptype ∧ header.seq = seq) ∧
      (session.encrypt now (transportAad header fragment) body).2 = .ok ciphertext ∧
      node.Leaves dst now header ciphertext
        (node.sessionPackets dst ptype body seq ackRequest now) fragment
        (node.sendSessionPacket dst ptype body seq ackRequest now) := by
  have kept : (node.baseHeader ptype dst (node.ttlFor dst)).1.sessions = node.sessions := rfl
  have base := node.baseHeader_fields ptype dst (node.ttlFor dst)
  have netAuth := node.baseHeader_netAuth ptype dst (node.ttlFor dst)
  have unmarked : (node.baseHeader ptype dst (node.ttlFor dst)).2.has Flags.fragmented = false :=
    node.baseHeader_has ptype dst (node.ttlFor dst) rfl
  have router : SameRouter node (node.baseHeader ptype dst (node.ttlFor dst)).1 := by
    constructor <;> rfl
  have asks (target : Address) : (node.baseHeader ptype dst (node.ttlFor dst)).1.requestFor target =
      node.requestFor target := rfl
  have encrypts (aad : Bytes) : ∃ advanced ciphertext, session.encrypt now aad body =
      (advanced, .ok ciphertext) := by
    rw [Session.encrypt, if_neg (by omega)]
    exact ⟨_, _, rfl⟩
  simp only [sendSessionPacket, sessionPackets]
  generalize node.baseHeader ptype dst (node.ttlFor dst) = based at *
  have whole := (based.1.sessionHeader_has based.2 seq ackRequest (by decide) (by decide)
    (by decide)).trans unmarked
  have fields := based.1.sessionHeader_fields based.2 seq ackRequest
  have marked := based.1.sessionHeader_has based.2 seq ackRequest
    (show Flags.encrypted &&& Flags.netAuth = 0 by decide) (by decide) (by decide)
  rw [base.1, base.2.1, base.2.2] at fields
  rw [netAuth] at marked
  generalize based.1.sessionHeader based.2 seq ackRequest = header at *
  rw [marked]
  by_cases large : body.length + transportOverhead > maxPayload node.cfg.networkKey.isSome
  · obtain ⟨advanced, ciphertext, sealed⟩ := encrypts (transportAad
      (header.set Flags.fragmented true) (some (based.1.fragId + 1)))
    have length := encrypt_length honest (congrArg Prod.snd sealed)
    obtain ⟨parts, splitted, count, fits⟩ := @split_large (based.1.fragId + 1) ciphertext
      node.cfg.networkKey.isSome (by omega) (by omega)
    have flagged : (header.set Flags.fragmented true).has Flags.netAuth =
        node.cfg.networkKey.isSome := by
      rw [Header.has_set_of_disjoint (by decide), marked]
    simp only [large, if_true, kept, found, sealed, splitted]
    refine ⟨header.set Flags.fragmented true, some (based.1.fragId + 1), ciphertext, fields,
      by rw [sealed], carries_fragments (header.has_set_self (by decide)) splitted, ?_, ?_, _, ?_,
      ?_, sendFragments_bursts _ _⟩
    · rw [(fragmentPackets_parts _ _ _ _ _).1, count]
    · exact fragmentPackets_sendable now true fields.2.1 flagged fits
    · exact { router with }
    · exact asks
  · obtain ⟨advanced, ciphertext, sealed⟩ := encrypts (transportAad header none)
    have length := encrypt_length honest (congrArg Prod.snd sealed)
    simp only [large, if_false, kept, found, sealed]
    refine ⟨header, none, ciphertext, fields, by rw [sealed],
      ⟨whole, rfl⟩, ?_, ?_, { based.1 with sessions := node.sessions.insert dst advanced },
      { router with }, asks, ?_⟩
    · rw [packetCount, if_pos (by omega)]
      rfl
    · intro packet member
      rw [mem_singleton.mp member]
      exact ⟨fields.2.1, marked, by simp only; omega⟩
    · exact .single

/-- A session send whose counter is used up leaves everything the router sees. -/
theorem sendSessionPacket_exhausted {session : Session} (ptype : PacketType) (body : Bytes)
    (seq : UInt16) (ackRequest : Bool) (now : Nat) (found : node.sessions.get dst = some session)
    (exhausted : session.sendCtr ≥ counterRekeyThreshold) :
    (node.sendSessionPacket dst ptype body seq ackRequest now).2 = .error .expired ∧
      SameRouter node (node.sendSessionPacket dst ptype body seq ackRequest now).1 := by
  have kept : (node.baseHeader ptype dst (node.ttlFor dst)).1.sessions = node.sessions := rfl
  have router : SameRouter node (node.baseHeader ptype dst (node.ttlFor dst)).1 := by
    constructor <;> rfl
  have refused (aad : Bytes) : session.encrypt now aad body = (session, .error .expired) := by
    rw [Session.encrypt, if_pos exhausted]
  simp only [sendSessionPacket]
  generalize node.baseHeader ptype dst (node.ttlFor dst) = based at *
  generalize based.1.sessionHeader based.2 seq ackRequest = header
  by_cases large : body.length + transportOverhead > maxPayload (header.has Flags.netAuth)
  · simp only [large, if_true, kept, found, refused]
    exact ⟨trivial, { router with }⟩
  · simp only [large, if_false, kept, found, refused]
    exact ⟨trivial, { router with }⟩

omit [Primitives] in
/-- The marks of an envelope leave the marks of the network and of fragments alone. -/
theorem envelopeMarks_has (header : Header) :
    ((header.set Flags.envelope true).set Flags.storeForward true).has Flags.envelope = true ∧
      ((header.set Flags.envelope true).set Flags.storeForward true).has Flags.netAuth =
        header.has Flags.netAuth ∧
      ((header.set Flags.envelope true).set Flags.storeForward true).has Flags.fragmented =
        header.has Flags.fragmented := by
  refine ⟨?_, ?_, ?_⟩
  · rw [Header.has_set_of_disjoint (by decide), Header.has_set_self _ (by decide)]
  · rw [Header.has_set_of_disjoint (by decide), Header.has_set_of_disjoint (by decide)]
  · rw [Header.has_set_of_disjoint (by decide), Header.has_set_of_disjoint (by decide)]

/-- An envelope with a next hop leaves as data. -/
theorem sendEnvelopeData_leaves (envelopeId : UInt32) {envelope : Bytes}
    (distinct : node.routes.Distinct) (directed : node.directs dst now = true)
    (few : (frameEnvelope envelopeId envelope).length ≤
      255 * (maxPayload node.cfg.networkKey.isSome - fragHeaderLen)) :
    ∃ (header : Header) (fragment : Option UInt16) (packets : List Packet),
      (header.ptype = .data ∧ header.dst = dst ∧ header.has Flags.envelope = true) ∧
      node.Leaves dst now header (frameEnvelope envelopeId envelope) packets fragment
        (node.sendEnvelopeData dst envelopeId envelope now, .ok ()) := by
  have base := node.baseHeader_fields .data dst (node.ttlFor dst)
  have netAuth := node.baseHeader_netAuth .data dst (node.ttlFor dst)
  have unmarked : (node.baseHeader .data dst (node.ttlFor dst)).2.has Flags.fragmented = false :=
    node.baseHeader_has .data dst (node.ttlFor dst) rfl
  have router : SameRouter node (node.baseHeader .data dst (node.ttlFor dst)).1 := by
    constructor <;> rfl
  have asks (target : Address) : (node.baseHeader .data dst (node.ttlFor dst)).1.requestFor target =
      node.requestFor target := rfl
  simp only [sendEnvelopeData]
  generalize node.baseHeader .data dst (node.ttlFor dst) = based at *
  obtain ⟨flagged, marked, whole⟩ := envelopeMarks_has based.2
  rw [netAuth] at marked
  rw [unmarked] at whole
  have fields : ((based.2.set Flags.envelope true).set Flags.storeForward true).ptype = .data ∧
      ((based.2.set Flags.envelope true).set Flags.storeForward true).dst = dst :=
    ⟨base.2.2, base.2.1⟩
  generalize (based.2.set Flags.envelope true).set Flags.storeForward true = plain at *
  have numbered : ∃ header : Header, header = { plain with
      seq := based.1.transport.nextSeq.2 } ∧ header.has Flags.envelope = true ∧
      header.has Flags.netAuth = node.cfg.networkKey.isSome ∧
      header.has Flags.fragmented = false ∧ header.ptype = .data ∧ header.dst = dst :=
    ⟨_, rfl, flagged, marked, whole, fields.1, fields.2⟩
  obtain ⟨header, isHeader, envelopes, network, single, kind, toDst⟩ := numbered
  have ready : SameRouter node { based.1 with transport := based.1.transport.nextSeq.1 } :=
    { router with }
  rw [← isHeader, network]
  by_cases small : (frameEnvelope envelopeId envelope).length ≤
      maxPayload node.cfg.networkKey.isSome
  · rw [if_pos small]
    have sendable : node.Sendable dst ⟨header, frameEnvelope envelopeId envelope⟩ :=
      ⟨toDst, network, small⟩
    refine ⟨header, none, [⟨header, frameEnvelope envelopeId envelope⟩],
      ⟨kind, toDst, envelopes⟩, ⟨single, rfl⟩, ?_, ?_, _, ready, asks, ?_⟩
    · rw [packetCount, if_pos small]
      rfl
    · intro packet member
      rw [mem_singleton.mp member]
      exact sendable
    · have again : Sendable { based.1 with transport := based.1.transport.nextSeq.1 } dst
          ⟨header, frameEnvelope envelopeId envelope⟩ :=
        ⟨toDst, ready.cfg ▸ network, ready.cfg ▸ small⟩
      have taken := (routeUnicast_directed ((ready.directs dst now).trans directed) again).1
      exact .route taken .done
  · obtain ⟨parts, splitted, count, fits⟩ := @split_large (based.1.fragId + 1)
      (frameEnvelope envelopeId envelope) node.cfg.networkKey.isSome (by omega) few
    have flags : (header.set Flags.fragmented true).has Flags.netAuth =
        node.cfg.networkKey.isSome := by
      rw [Header.has_set_of_disjoint (by decide), network]
    have letter : (header.set Flags.fragmented true).has Flags.envelope = true := by
      rw [Header.has_set_of_disjoint (by decide), envelopes]
    have counted : SameRouter node { based.1 with
        transport := based.1.transport.nextSeq.1, fragId := based.1.fragId + 1 } := { ready with }
    rw [if_neg small, splitted]
    refine ⟨header.set Flags.fragmented true, some (based.1.fragId + 1), _,
      ⟨kind, toDst, letter⟩, carries_fragments (header.has_set_self (by decide)) splitted, ?_, ?_,
      _, counted, ?_, sendEnvelopeFragments_bursts (counted.routes ▸ distinct) ?_ ?_ ?_⟩
    · rw [(fragmentPackets_parts _ _ _ _ _).1, count]
    · exact fragmentPackets_sendable now true toDst flags fits
    · exact asks
    · rw [show (header.set Flags.fragmented true).dst = dst from toDst, counted.directs, directed]
    · rw [counted.cfg, flags]
    · rw [counted.cfg]
      exact fits

omit [Primitives] in
/-- Fewer packets than a message has carry none. -/
theorem carries_not_cut {header other : Header} {body whole : Bytes} {all : List Packet}
    {fragment mark : Option UInt16} {bound : Nat} (carries : Carries header body packets fragment)
    (complete : Carries other whole all mark) (short : bound < all.length)
    (among : ∀ packet ∈ packets, ∃ copy ∈ all.take bound, packet.CopyOf copy) : False := by
  cases mark with
  | none =>
    obtain ⟨_, rfl⟩ := complete
    obtain rfl : bound = 0 := Nat.lt_one_iff.mp short
    obtain ⟨packet, member⟩ := carries.nonempty
    obtain ⟨copy, present, _⟩ := among packet member
    cases present
  | some mark =>
    obtain ⟨marked, items, countable, _, length, each⟩ := complete
    -- Each fragment says how many there are: the last one of them is missing.
    have placed (packet : Packet) (member : packet ∈ packets) : ∃ index item, index < bound ∧
        items[index]? = some item ∧ packet.header.has Flags.fragmented = true ∧
        packet.payload = frameFragment (fragmentHeader mark items index) item := by
      obtain ⟨copy, present, hop, rfl⟩ := among packet member
      obtain ⟨index, found⟩ := mem_iff_getElem?.mp present
      have inside : index < bound := by
        have bounded := (List.getElem?_eq_some_iff.mp found).1
        rw [length_take] at bounded
        omega
      rw [List.getElem?_take_of_lt inside] at found
      obtain ⟨item, packetId, here, rfl⟩ := each index copy found
      exact ⟨index, item, inside, here, marked, rfl⟩
    cases fragment with
    | none =>
      obtain ⟨plain, rfl⟩ := carries
      obtain ⟨_, _, _, _, flagged, _⟩ := placed _ (mem_singleton_self _)
      exact Bool.false_ne_true (plain.symm.trans flagged)
    | some fragId =>
      obtain ⟨_, others, few, _, same, every⟩ := carries
      have located (place : Nat) (inside : place < others.length) :
          place < bound ∧ others.length = items.length := by
        have present := List.getElem?_eq_getElem (same ▸ inside)
        obtain ⟨index, item, early, here, _, payload⟩ := placed _ (getElem_mem (same ▸ inside))
        obtain ⟨_, _, _, shape⟩ := every place _ present
        rw [shape] at payload
        have within : index < items.length := (List.getElem?_eq_some_iff.mp here).1
        have parsed := congrArg FragHeader.parse payload
        rw [FragHeader.parse_frameFragment (few.proper fragId inside),
          FragHeader.parse_frameFragment (countable.proper mark within), Except.ok.injEq] at parsed
        have index_ := congrArg (fun header : FragHeader => header.index.toNat) parsed
        have total := congrArg (fun header : FragHeader => header.total.toNat) parsed
        simp only [few.index fragId inside, countable.index mark within] at index_
        simp only [few.total, countable.total] at total
        exact ⟨index_ ▸ early, total⟩
      obtain ⟨_, total⟩ := located 0 few.nonempty
      have last := (located (others.length - 1) (by have := few.nonempty; omega)).1
      omega

end Node

end MeshStar

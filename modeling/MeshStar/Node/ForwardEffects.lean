import MeshStar.Node.HandshakeEffects

/-!
# Effects of relaying

A foreign packet is passed on one hop further under the relay's own short id. The two
branches that keep a foreign packet for later, holding it for a sleeping neighbour and
parking it behind a route repair, do not count the hop; a law that rules them out keeps
the forwarding law.
-/

namespace MeshStar

open List

variable [Primitives]

/-- A header the node has received. -/
def Node.Heard (node : Node) (header : Header) : Prop :=
  ∃ packet ∈ node.history.received, packet.header = header

omit [Primitives] in
/-- A copy with one less to live and one more hop is a passing packet. -/
theorem Packet.nextCopy_passing {received : List Packet} {packet : Packet} (nextHop : UInt16)
    (heard : ∃ other ∈ received, other.header = packet.header) (alive : ¬packet.header.ttl ≤ 1)
    (short : packet.header.hops.toNat + packet.header.ttl.toNat ≤ 255) :
    Passing received (packet.nextCopy nextHop).header := by
  obtain ⟨other, member, same⟩ := heard
  refine ⟨other, member, ?_⟩
  rw [same]
  have living : (1 : UInt8).toNat < packet.header.ttl.toNat :=
    UInt8.lt_iff_toNat_lt.mp (UInt8.not_le.mp alive)
  have one : (1 : UInt8).toNat = 1 := rfl
  have ttl : (packet.header.ttl - 1).toNat = packet.header.ttl.toNat - 1 := by
    rw [UInt8.toNat_sub_of_le _ _ (UInt8.le_iff_toNat_le.mpr (Nat.le_of_lt living)), one]
  have hops : (Node.saturatingAdd packet.header.hops 1).toNat = packet.header.hops.toNat + 1 := by
    rw [Node.saturatingAdd, UInt8.toNat_ofNat', one]
    omega
  refine ⟨rfl, rfl, ?_, hops, rfl, rfl, rfl, rfl⟩
  change (packet.header.ttl - 1).toNat + 1 = packet.header.ttl.toNat
  omega

omit [Primitives] in
/-- Stamping a trace leaves the header alone. -/
theorem traceStamp_header (packet : Packet) (me : Address) :
    (traceStamp packet me).header = packet.header := by
  unfold traceStamp
  split <;> rfl

namespace Effects

/-- Learning a key and sending what waited for it. -/
def learning : List Effect := sealing ++ [.learn, .reroute]

/-- Handling a route reply addressed to us. -/
def replying : List Effect := establishing ++ [.learn]

end Effects

open Effects

namespace Node

variable (node : Node) (packet : Packet) (prev : Option Address) (rxMeta : RxMeta)
  (reply : RouteReply) (now : Nat)

variable {law : Prop}

/-- Replacing the relay scheduler keeps the law when only passing packets wait in it. -/
theorem withSched_quiet (rng : Rng) {sched : RebroadcastScheduler}
    (passing : law → node.Lawful → ∀ relay ∈ sched.pending,
      Passing node.history.received relay.packet.header) :
    Quiet law node { node with rng := rng, sched := sched } :=
  ⟨rfl, rfl, rfl, rfl, rfl, fun holds lawful => { lawful with scheduled := passing holds lawful }⟩

theorem scheduleRelay_quiet {key : PacketKey} {packet : Packet} {rxMeta : RxMeta} {now : Nat}
    (passing : law → node.Lawful → Passing node.history.received packet.header) :
    Quiet law node (node.scheduleRelay key packet rxMeta now) := by
  refine withSched_quiet _ _ ?_
  intro holds lawful relay member
  unfold RebroadcastScheduler.schedule at member
  split at member
  · exact lawful.scheduled relay member
  · rcases mem_append.mp member with earlier | new
    · exact lawful.scheduled relay earlier
    · rw [mem_singleton.mp new]
      exact passing holds lawful

/-- Drawing a random number is quiet. -/
theorem drawn_quiet (rng : Rng) : Quiet law node { node with rng := rng } := .outside rfl rfl rfl

theorem maybeRelayFlood_quiet (heard : node.Heard packet.header) :
    Quiet law node (node.maybeRelayFlood packet prev rxMeta now) := by
  simp only [maybeRelayFlood]
  split
  · exact .refl node
  · rename_i relays
    split
    · exact .refl node
    · split
      · exact drawn_quiet _ _
      · refine (drawn_quiet _ _).trans (scheduleRelay_quiet _ ?_)
        intro _ lawful
        obtain ⟨other, member, same⟩ := heard
        have short := (lawful.received other member).2
        rw [same] at short
        exact Packet.nextCopy_passing _ ⟨other, member, same⟩ (fun dead => relays (.inr dead)) short

theorem relayRequest_quiet {request : RouteRequest} {cost : Nat}
    {prev : Option Address} {rxMeta : RxMeta} {now : Nat} (heard : node.Heard packet.header) :
    Quiet law node (node.relayRequest packet request cost prev rxMeta now) := by
  simp only [relayRequest]
  split
  · exact .refl node
  · rename_i relays
    split
    · exact .refl node
    · split
      · exact drawn_quiet _ _
      · have cancelled (rng : Rng) : Quiet law node
            { node with rng := rng, sched := node.sched.cancel packet.header.key } := by
          refine withSched_quiet _ _ ?_
          intro _ lawful relay member
          exact lawful.scheduled relay (mem_filter.mp member).1
        refine (cancelled _).trans (scheduleRelay_quiet _ ?_)
        intro _ lawful
        obtain ⟨other, member, same⟩ := heard
        have short := (lawful.received other member).2
        rw [same] at short
        exact Packet.nextCopy_passing nextHopAny ⟨other, member, same⟩
          (fun dead => relays (.inr dead)) short

theorem breakLoop_reroutes {hop : Address} {now : Nat} :
    Reroutes law node (node.breakLoop packet hop now) := by
  have failed (routes : RouteCache) : Reroutes law node { node with routes := routes } :=
    .ofRoutes rfl rfl rfl
  exact (failed _).trans (sendRouteError_quiet _)

theorem relayUnicast_quiet {hop : Address} {now : Nat}
    (heard : node.Heard packet.header) (alive : ¬packet.header.ttl ≤ 1) :
    Quiet law node (node.relayUnicast packet hop now) := by
  have may (state : Node) (received : state.history.received = node.history.received)
      (lawful : state.Lawful) : MaySend state.history.received node.address
        (traceStamp ((packet.nextCopy hop.short).relayedBy node.address) node.address).header := by
    obtain ⟨other, member, same⟩ := heard
    rw [← received] at member
    have short := (lawful.received other member).2
    rw [same] at short
    obtain ⟨source, sourceMember, onward⟩ :=
      Packet.nextCopy_passing hop.short ⟨other, member, same⟩ alive short
    rw [traceStamp_header]
    exact .inr ⟨⟨source, sourceMember, { onward with }⟩, rfl⟩
  have touched (rng : Rng) : Quiet law node { node with
      routes := node.routes.touch packet.header.dst hop now
      rng := rng } :=
    .outside rfl rfl (bearings_of_hops (node.routes.touch_hops packet.header.dst hop now))
  simp only [relayUnicast]
  generalize now + _ = later
  have tracked := (touched node.rng.nextU32.1).trans (trackHop_quiet _
    (traceStamp ((packet.nextCopy hop.short).relayedBy node.address) node.address) hop later true
    (fun _ lawful => may _ rfl lawful))
  refine tracked.trans (enqueuePacket_quiet _ _ _ _ _ ?_)
  intro _ lawful
  rw [tracked.address]
  exact may _ tracked.received lawful

theorem repairRoute_quiet (unparked : law → node.ierp.isPending packet.header.dst = false ∧
      node.ierp.mayStart packet.header.dst now = false) :
    Quiet law node (node.repairRoute packet now) := by
  simp only [repairRoute]
  split
  · rename_i pending
    refine withIerp_quiet _ ?_
    intro holds
    rw [(unparked holds).1] at pending
    cases pending
  · split
    · rename_i start
      refine startDiscovery_quiet _ _ _ _ ?_
      intro holds
      rw [(unparked holds).2] at start
      cases start
    · exact sendRouteError_quiet _

theorem depositPassing_moves : Moves law [.deposit] node (node.depositPassing packet now).1 := by
  unfold depositPassing
  split
  · split
    · rename_i mailbox _ present
      simp only
      split
      · rename_i stored accepted
        exact .ofCore (.deposit node.core mailbox stored now _ _ present
          accepted) rfl rfl (by decide)
      · exact .refl
    · exact .refl
  · exact .refl

/-- Whether forwarding a packet keeps it for later: held for a sleeping neighbour whose
mail it does not become, or parked until a route is found. -/
def defers (node : Node) (packet : Packet) (now : Nat) : Bool :=
  node.mayForward packet &&
    match node.sleepingHosted packet.header.dst now with
    | some _ => !(node.depositPassing packet now).2
    | none => (node.nextHopFor packet.header.dst now).isNone &&
        (node.ierp.isPending packet.header.dst || node.ierp.mayStart packet.header.dst now)

theorem holdForSleeping_moves {neighbor : Neighbor} {now : Nat}
    (kept : law → (node.depositPassing packet now).2 = true) :
    Moves law [.silent, .deposit] node (node.holdForSleeping packet neighbor now) := by
  have deposited : Moves law [.silent, .deposit] node (node.depositPassing packet now).1 :=
    (depositPassing_moves _ _ _).mono (by decide)
  simp only [holdForSleeping]
  split
  · exact deposited
  · rename_i unkept
    split
    · refine deposited.trans (Quiet.moves ⟨rfl, rfl, rfl, rfl, rfl, ?_⟩ (by decide))
      intro holds
      exact absurd (kept holds) unkept
    · exact deposited

theorem forwardUnicast_moves (heard : node.Heard packet.header)
    (prompt : law → node.defers packet now = false) :
    Moves law [.silent, .reroute, .deposit] node (node.forwardUnicast packet prev rxMeta now) := by
  unfold forwardUnicast
  split
  · exact .refl
  · split
    · exact (maybeRelayFlood_quiet _ _ _ _ _ heard).moves (by decide)
    · split
      · exact .refl
      · rename_i forwardable
        have mine : node.mayForward packet = true := by simpa using forwardable
        have alive : ¬packet.header.ttl ≤ 1 := by
          unfold mayForward at mine
          simp only [Bool.and_eq_true, decide_eq_true_eq] at mine
          exact UInt8.not_le.mpr mine.2
        unfold defers at prompt
        rw [mine, Bool.true_and] at prompt
        cases asleep : node.sleepingHosted packet.header.dst now with
        | some neighbor =>
          rw [asleep] at prompt
          exact (holdForSleeping_moves _ _ (fun holds => by simpa using prompt holds)).mono
            (by decide)
        | none =>
          rw [asleep] at prompt
          cases hop : node.nextHopFor packet.header.dst now with
          | some next =>
            simp only
            split
            · exact (breakLoop_reroutes _ _).mono (by decide)
            · exact (relayUnicast_quiet _ _ heard alive).moves (by decide)
          | none =>
            rw [hop] at prompt
            exact (repairRoute_quiet _ _ _ (fun holds => by simpa using prompt holds)).moves
              (by decide)

/-- Counting another copy of a packet is quiet. -/
theorem countCopy_quiet {key : PacketKey} :
    Quiet law node { node with sched := node.sched.heard key } := by
  refine withSched_quiet node node.rng ?_
  intro _ lawful relay member
  have listed := mem_map_of_mem (f := PendingRelay.packet) member
  rw [RebroadcastScheduler.heard, RebroadcastScheduler.countHeard_packets, mem_map] at listed
  obtain ⟨other, otherMember, same⟩ := listed
  rw [← same]
  exact lawful.scheduled other otherMember

theorem linkCostFrom_quiet : Quiet law node (node.linkCostFrom prev).1 := by
  cases prev with
  | none => exact .refl node
  | some transmitter => exact linkCostTo_quiet _ _

theorem learnThrough_reroutes (dst : Address) (hops : UInt8)
    (cost now : Nat) : Reroutes law node (node.learnThrough prev dst hops cost now) := by
  cases prev with
  | none => exact .refl
  | some transmitter => exact learnRoute_reroutes _ _

theorem answerAsTarget_moves {request : RouteRequest} {wantKey : Bool} {now : Nat} :
    Moves law [.silent, .answer, .abandon] node
      (node.answerAsTarget packet request wantKey now) := by
  have replied (answered : Node) (reply : RouteReply) :
      Moves law [.silent, .answer, .abandon] answered
        (answered.sendRouteReply packet.header.src reply now) :=
    (sendRouteReply_quiet _ _ _ _).moves (by decide)
  simp only [answerAsTarget]
  split
  · exact (responderStart_moves _ _ _ _).trans (replied _ _)
  · exact replied _ _

/-- A heard header is still heard after any effects. -/
theorem Moves.heard {effects : List Effect} {before after : Node} {header : Header}
    (moves : Moves law effects before after) (heard : before.Heard header) :
    after.Heard header := by
  unfold Heard
  rw [moves.received]
  exact heard

/-- A route request only changes routes unless this node is its target. -/
theorem handleRouteRequest_cases (heard : node.Heard packet.header) :
    Reroutes law node (node.handleRouteRequest packet prev rxMeta now) ∨
      ∃ learned request wantKey, Reroutes law node learned ∧
        node.handleRouteRequest packet prev rxMeta now =
          learned.answerAsTarget packet request wantKey now := by
  unfold handleRouteRequest
  split
  · exact .inl .refl
  · rename_i request _
    simp only
    have linked : Quiet law node _ := node.linkCostFrom_quiet prev
    generalize node.linkCostFrom prev = link at linked
    generalize min (request.cost.toNat + link.2) 65535 = cost
    have recorded : Quiet law node { link.1 with ierp := (link.1.ierp.observeRequest
        packet.header.src packet.header.packetId cost now).1 } := by
      refine linked.trans (withIerp_quiet _ ?_)
      intro _ lawful parked parks
      rw [Ierp.observeRequest_pending] at parks
      exact lawful.parked parked parks
    have learned : Reroutes law node _ := Trail.trans recorded.reroutes (learnThrough_reroutes _
      prev packet.header.src (saturatingAdd packet.header.hops 1) cost now)
    split
    · exact .inl (recorded.trans (countCopy_quiet _)).reroutes
    · split
      · exact .inl learned
      · split
        · exact .inr ⟨_, request, _, learned, rfl⟩
        · split
          · exact .inl (learned.trans (sendRouteReply_quiet _ _ _ _))
          · exact .inl (learned.trans (relayRequest_quiet _ _ (Moves.heard learned heard)))

theorem handleRouteRequest_moves (heard : node.Heard packet.header) :
    Moves law [.silent, .reroute, .answer, .abandon] node
      (node.handleRouteRequest packet prev rxMeta now) := by
  rcases node.handleRouteRequest_cases packet prev rxMeta now heard with
    quiet | ⟨learned, request, wantKey, quiet, answered⟩
  · exact quiet.moves (by decide)
  · rw [answered]
    exact (quiet.moves (by decide)).trans ((answerAsTarget_moves _ _).mono (by decide))

/-- Storing a key under the address it hashes to. -/
theorem learn_move (addr : Address) (identity : PublicIdentity) (bound : identity.address = addr) :
    Move law .learn node { node with keyDir := node.keyDir.insert addr identity } :=
  Move.ofCore (.learn node.core addr identity bound) rfl rfl

/-- A new key lets the envelopes go that waited for it. -/
theorem learnAndSeal_seals {addr : Address} {identity : PublicIdentity} {now : Nat}
    (bound : identity.address = addr) :
    Seals law learning node
      (tryPendingEnvelopes { node with keyDir := node.keyDir.insert addr identity } addr now) :=
  .trans (.single (node.learn_move addr identity bound) (by decide))
    ((tryPendingEnvelopes_seals _ _ _).mono (by decide))

theorem absorbKey_seals : Seals law learning node (node.absorbKey reply now) := by
  unfold absorbKey
  split
  · exact .refl node
  · split
    · exact .refl node
    · split
      · rename_i bound
        exact learnAndSeal_seals _ bound
      · exact .refl node

theorem absorbRouteReply_seals (prev : Option Address) (now : Nat) :
    Seals law learning node (node.absorbRouteReply packet reply prev now).1 := by
  have linked : Quiet law node _ := node.linkCostTo_quiet (prev.getD packet.header.src)
  exact Seals.trans (.of (Trail.trans linked.reroutes (learnRoute_reroutes _ _))
    (by decide)) (absorbKey_seals _ _ _)

/-- Routing packets that waited keeps the law when they are our own. -/
theorem routeAllParked_quiet (queued : List Packet) (now : Nat)
    (own : law → ∀ packet ∈ queued, packet.header.src = node.address) :
    Quiet law node (queued.foldl (routeParked now) node) := by
  refine Quiet.foldl queued node ?_
  intro state packet member reached
  refine routeUnicast_parked _ _ _ ?_
  intro holds
  rw [own holds packet member, reached.address]

theorem foundRoute_seals (prev : Option Address) (now : Nat) :
    Seals law learning node (node.foundRoute packet reply prev now).1 := by
  have absorbed : Seals law learning node _ := node.absorbRouteReply_seals packet reply prev now
  simp only [foundRoute]
  generalize node.absorbRouteReply packet reply prev now = result at absorbed
  have succeeded : Seals law learning node
      { result.1 with ierp := (result.1.ierp.succeed reply.target now).1 } := by
    refine absorbed.trans (.quiet (withIerp_quiet _ ?_) (by decide))
    intro _ lawful waiting parks
    exact lawful.parked waiting (Ierp.parks_succeed (.inl parks))
  exact succeeded.trans (.of (emit_moves _ _) (by decide))

/-- The packets a reply releases are the node's own, as all parked ones are. -/
theorem foundRoute_released (prev : Option Address) (now : Nat) (lawful : node.Lawful) :
    ∀ waiting ∈ (node.foundRoute packet reply prev now).2, waiting.header.src = node.address := by
  intro waiting member
  have absorbed : Moves True learning node _ :=
    (node.absorbRouteReply_seals packet reply prev now).moves
  change waiting ∈ ((node.absorbRouteReply packet reply prev now).1.ierp.succeed reply.target
    now).2 at member
  rw [← absorbed.address]
  exact (absorbed.lawful trivial lawful).parked waiting (Ierp.parks_succeed (.inr member))

theorem handleRouteReply_seals
    (foreign : packet.header.src ≠ node.address) (sound : law → node.Lawful) :
    Seals law replying node (node.handleRouteReply packet prev now) := by
  unfold handleRouteReply
  split
  · exact .refl node
  · rename_i reply _
    simp only
    have found : Seals law replying node (node.foundRoute packet reply prev now).1 :=
      (node.foundRoute_seals packet reply prev now).mono (by decide)
    have released : law → ∀ waiting ∈ (node.foundRoute packet reply prev now).2,
        waiting.header.src = node.address :=
      fun holds => node.foundRoute_released packet reply prev now (sound holds)
    generalize node.foundRoute packet reply prev now = result at found released
    obtain ⟨reported, queue⟩ := result
    have routed (state : Node) (continued : Seals law replying node state)
        (chosen : List Packet) (among : chosen ⊆ queue) :
        Seals law replying node (chosen.foldl (routeParked now) state) := by
      refine continued.trans (.quiet (routeAllParked_quiet _ _ _ ?_) (by decide))
      intro holds waiting member
      rw [continued.moves.address]
      exact released holds waiting (among member)
    have among (continued : Bool) : (if continued then
        queue.filter (fun waiting => waiting.header.ptype != .handshake) else queue) ⊆ queue := by
      cases continued with
      | true => exact filter_subset_self _
      | false => exact List.Subset.refl _
    refine routed _ ?_ _ ?_
    · split
      · rename_i piggybacked
        simp only [Bool.and_eq_true, beq_iff_eq] at piggybacked
        refine found.trans ((initiatorContinue_seals _ _ _ _ ?_).mono (by decide))
        rw [found.moves.address, ← piggybacked.2]
        exact foreign
      · exact found
    · exact among _

theorem forwardRouteReply_seals (heard : node.Heard packet.header)
    (prompt : law → ∀ reply, RouteReply.decode packet.payload = .ok reply →
      (node.absorbRouteReply packet reply prev now).1.defers { packet with
        payload := { reply with
          cost := UInt16.ofNat (node.absorbRouteReply packet reply prev now).2 }.encode } now =
        false) :
    Seals law (.deposit :: learning) node (node.forwardRouteReply packet prev rxMeta now) := by
  unfold forwardRouteReply
  split
  · exact .refl node
  · rename_i reply decoded
    have absorbed : Seals law (.deposit :: learning) node _ :=
      (node.absorbRouteReply_seals packet reply prev now).mono (by decide)
    refine absorbed.trans (.of (forwardUnicast_moves _ _ _ _ _ ?_ ?_) (by decide))
    · unfold Heard
      rw [absorbed.moves.received]
      exact heard
    · exact fun holds => prompt holds reply decoded

theorem loseRoute_moves {via : Address} (node : Node) (dst : Address) :
    Moves law [.silent, .reroute, .report] node (loseRoute via node dst) := by
  have dropped (routes : RouteCache) :
      Moves law [.silent, .reroute, .report] node { node with routes := routes } := by
    have changed : Reroutes law node { node with routes := routes } := .ofRoutes rfl rfl rfl
    exact changed.mono (by decide)
  simp only [loseRoute]
  split
  · exact (dropped _).tail (emit_move _ _) (by decide)
  · exact dropped _

theorem handleRouteError_moves :
    Moves law [.silent, .reroute, .report] node (node.handleRouteError packet prev) := by
  unfold handleRouteError
  split
  · exact .refl
  · exact Trail.foldl _ _ (fun state dst _ => loseRoute_moves state dst)

end Node

end MeshStar

import MeshStar.Node.ReceiveEffects

/-!
# Effects of timers and application calls

Every stage of `poll` and every application call as a trail of effects. Retransmission
repeats packets that obeyed the forwarding law when they were first sent, and the relay
slots carry passing packets only.
-/

namespace MeshStar

open List

variable [Primitives]

namespace Effects

/-- Waking up or falling asleep. -/
def powering : List Effect := [.silent, .reroute, .adjust, .envelopes, .retime, .report]

/-- Delivering mail and handing it over to another host. -/
def serving : List Effect := depositing ++ [.attempt]

/-- Expiring caches and sessions, rekeying sessions and giving up on keys. -/
def tidying : List Effect := [.silent, .reroute, .survey, .close, .rekey, .envelopes, .report]

/-- A housekeeping pass. -/
def housekeeping : List Effect := tidying ++ serving ++ [.collect]

/-- The timers without housekeeping. -/
def ticking : List Effect := sealing ++ givingUp ++ [.reroute, .lose, .adjust, .dismiss]

/-- The timers of a node. -/
def timing : List Effect := powering ++ ticking ++ housekeeping

end Effects

open Effects

namespace Node

variable (node : Node) (hop : HopPending) (now : Nat)

variable {law : Prop}

/-- Rewriting the pending handshakes without touching the sends behind them. -/
theorem adjust_move (change : Address → PendingHandshake → PendingHandshake)
    (sameQueue : ∀ peer pending, (change peer pending).queued = pending.queued) :
    Move law .adjust node { node with handshakes := node.handshakes.mapValues change } :=
  Move.ofCore (.adjust node.core change sameQueue) rfl rfl

theorem shiftTimers_moves (slept : Nat) : Moves law powering node (node.shiftTimers slept) := by
  unfold shiftTimers
  split
  · exact .refl
  · simp only
    have shifted : Moves law powering node _ := Trail.single (node.adjust_move
      (fun _ pending => { pending with startedAt := min (pending.startedAt + slept) timeMax })
        (fun _ _ => rfl)) (by decide)
    have waiting := shifted.trans (Trail.single (envelopes_move _ (node.pendingEnvelopes.map
      (fun pending => { pending with queuedAt := min (pending.queuedAt + slept) timeMax })))
        (by decide))
    have retimed (before : Node) : Move law .retime before { before with
        transport := before.transport.shiftTimers slept } :=
      Move.ofCore (.retime before.core (Transport.shift slept)
        (fun _ => ⟨rfl, rfl, rfl, rfl, rfl, rfl⟩) (fun _ => rfl)) rfl rfl
    refine (waiting.trans (Trail.single (retimed _) (by decide))).trans
      (Quiet.moves (withIerp_quiet _ ?_) (by decide))
    intro _ lawful packet parks
    have earlier : Ierp.Parks node.ierp.pending packet := by
      refine Ierp.parks_mapValues ?_ parks
      exact fun _ _ => rfl
    exact lawful.parked packet earlier

theorem onWake_reroutes : Reroutes law node (node.onWake now) := by
  unfold onWake
  simp only
  split
  · split
    · exact .ofRoutes rfl rfl rfl
    · exact Quiet.reroutes (.outside rfl rfl rfl)
  · exact Quiet.reroutes (.outside rfl rfl rfl)

/-- Dropping frames from the transmit queue keeps the law. -/
theorem dropFrames_quiet {keep : TxItem → Bool} :
    Quiet law node { node with txQueue := node.txQueue.filter keep } :=
  ⟨rfl, rfl, rfl, rfl, rfl, fun _ lawful => { lawful with
    transmitted := fun item member => lawful.transmitted item (mem_filter.mp member).1 }⟩

theorem wakeUp_moves : Moves law powering node (node.wakeUp now) := by
  have woken : Moves law powering node { node with lastWake := now } :=
    Quiet.moves (.outside rfl rfl rfl) (by decide)
  have shifted := woken.trans (shiftTimers_moves _ (now - node.sleptAt))
  have reported := shifted.trans ((emit_moves _ (.powerState true)).mono (by decide))
  exact reported.trans ((onWake_reroutes _ _).mono (by decide))

theorem spreadWake_quiet : Quiet law node node.spreadWake := by
  have delayed (delay : Nat) : (node.power.delayWake delay).awake = node.power.awake := by
    unfold PowerManager.delayWake
    split <;> rfl
  unfold spreadWake
  split
  · refine .outside rfl rfl ?_
    simp only [bearings, rest, delayed]
    rfl
  · exact .refl node

theorem fallAsleep_moves : Moves law powering node (node.fallAsleep now) := by
  have resting : Reroutes law node { node with sleptAt := now } := .ofRoutes rfl rfl rfl
  have spread : Moves law powering node _ := (resting.trans (spreadWake_quiet _)).mono (by decide)
  have reported := spread.trans ((emit_moves _ (.powerState false)).mono (by decide))
  exact reported.trans ((dropFrames_quiet _).moves (by decide))

theorem pollPower_moves : Moves law powering node (node.pollPower now) := by
  have advanced : Moves law powering node { node with power := (node.power.tick now).1 } :=
    Reroutes.moves (Reroutes.ofRoutes rfl rfl rfl) (by decide)
  simp only [pollPower]
  split
  · exact advanced
  · exact advanced.trans (wakeUp_moves _ _)
  · exact advanced.trans (fallAsleep_moves _ _)

theorem pollBeacon_quiet : Quiet law node (node.pollBeacon now) := by
  unfold pollBeacon
  split
  · exact sendBeacon_quiet _ _
  · exact .refl node

theorem pollFetch_moves : Moves law waiting node (node.pollFetch now) := by
  have cleared : Moves law waiting node { node with pendingFetch := none } :=
    Quiet.moves (.outside rfl rfl rfl) (by decide)
  simp only [pollFetch]
  split
  · exact .refl
  · split
    · split
      · exact cleared.trans (sendFetch_moves _)
      · exact cleared
    · exact .refl

/-- A relay slot that is due transmits a passing packet under our own name. -/
theorem pollRelays_quiet (sound : law → node.Lawful) : Quiet law node (node.pollRelays now) := by
  have waiting : Quiet law node { node with
      sched := (node.sched.due now node.cfg.storm.counterThreshold).1 } := by
    refine withSched_quiet node node.rng ?_
    intro _ lawful relay member
    exact lawful.scheduled relay (mem_filter.mp member).1
  refine waiting.trans (Quiet.foldl _ _ ?_)
  intro state due member reached
  have marked : Quiet law state { state with seen := state.seen.markForwarded due.1 } :=
    .outside rfl rfl rfl
  refine marked.trans (enqueuePacket_quiet _ _ _ _ _ ?_)
  intro holds _
  obtain ⟨relay, scheduled, same⟩ := mem_map.mp member
  obtain ⟨source, sourceMember, onward⟩ := (sound holds).scheduled relay (mem_filter.mp scheduled).1
  have received : state.history.received = node.history.received :=
    reached.received.trans waiting.received
  rw [← same]
  refine .inr ⟨⟨source, ?_, { onward with }⟩, rfl⟩
  change source ∈ state.history.received
  rw [received]
  exact sourceMember

omit [Primitives] in
/-- The next hop is not part of the law. -/
theorem maySend_nextHop {received : List Packet} {me : Address} {header : Header}
    {nextHop : UInt16} (may : MaySend received me header) :
    MaySend received me { header with nextHop := nextHop } := by
  rcases may with own | ⟨⟨packet, member, onward⟩, relayed⟩
  · exact .inl own
  · exact .inr ⟨⟨packet, member, { onward with }⟩, relayed⟩

/-- Replacing the pending hops keeps the law when their packets obey it. -/
theorem withHops_quiet (hops : List HopPending) (may : law → node.Lawful → ∀ hop ∈ hops,
      MaySend node.history.received node.address hop.packet.header) :
    Quiet law node { node with hopPending := hops } :=
  ⟨rfl, rfl, rfl, rfl, rfl, fun holds lawful => { lawful with hops := may holds lawful }⟩

omit [Primitives] in
/-- Marking a hop as rerouted changes no packet. -/
theorem markRerouted_packets (key : PacketKey) (hops : List HopPending) :
    (markRerouted key hops).map (·.packet) = hops.map (·.packet) := by
  induction hops with
  | nil => rfl
  | cons head rest ih =>
    unfold markRerouted
    split
    · rfl
    · rw [map_cons, map_cons, ih]

theorem rerouteHop_quiet
    (may : law → MaySend node.history.received node.address hop.packet.header) :
    Quiet law node (node.rerouteHop hop now) := by
  unfold rerouteHop
  split
  · exact .refl node
  · split
    · exact .refl node
    · rename_i alt _
      simp only
      have directed (holds : law) : MaySend node.history.received node.address
          { hop.packet.header with nextHop := alt.short } := maySend_nextHop (may holds)
      have tracked : Quiet law node _ := trackHop_quiet node { hop.packet with
        header := { hop.packet.header with nextHop := alt.short } } alt now hop.isRelay
        (fun holds _ => directed holds)
      have marked := tracked.trans (withHops_quiet _ (markRerouted
        { hop.packet.header with nextHop := alt.short }.key _) (by
          intro _ lawful pending member
          have listed := mem_map_of_mem (f := (·.packet)) member
          rw [markRerouted_packets, mem_map] at listed
          obtain ⟨other, otherMember, same⟩ := listed
          rw [← same]
          exact lawful.hops other otherMember))
      refine marked.trans (enqueuePacket_quiet _ _ _ _ _ ?_)
      intro holds _
      rw [marked.address, marked.received]
      exact directed holds

theorem failHop_moves {index : Nat} {hop : HopPending} {now : Nat}
    (may : law → MaySend node.history.received node.address hop.packet.header) :
    Moves law [.silent, .reroute, .report] node (node.failHop index hop now) := by
  have removed : Quiet law node { node with hopPending := node.hopPending.eraseIdx index } :=
    withHops_quiet _ _ (fun _ lawful other member =>
      lawful.hops other ((eraseIdx_sublist _ _).subset member))
  have counted : Reroutes law node _ := (removed.trans
    (measured_quiet _ (node.neighbors.recordFailure_sight hop.nextHop))).reroutes
  have withRoutes (before : Node) (routes : RouteCache) :
      Reroutes law before { before with routes := routes } := Reroutes.ofRoutes rfl rfl rfl
  have rerouted (doubted : Node) (reached : Moves law [.silent, .reroute, .report] node doubted) :
      Moves law [.silent, .reroute, .report] node (doubted.rerouteHop hop now) := by
    refine reached.trans (Quiet.moves (rerouteHop_quiet _ _ _ ?_) (by decide))
    intro holds
    rw [reached.received, reached.address]
    exact may holds
  simp only [failHop]
  refine rerouted _ ?_
  split
  · exact (Trail.mono (Trail.trans counted (withRoutes _ _)) (by decide)).trans
      ((emitAll_moves _ _).mono (by decide))
  · exact Trail.mono (Trail.trans counted (withRoutes _ _)) (by decide)

theorem retransmitHop_quiet {index : Nat} {hop : HopPending} {now : Nat}
    (may : law → MaySend node.history.received node.address hop.packet.header) :
    Quiet law node (node.retransmitHop index hop now) := by
  have drawn (rng : Rng) : Quiet law node { node with
      rng := rng
      neighbors := node.neighbors.modify hop.nextHop Neighbor.recordTxAttempt } :=
    (drawn_quiet node rng).trans
      (measured_quiet _ (node.neighbors.recordTxAttempt_sight hop.nextHop))
  have repeated (rng : Rng) (attempts due : Nat) : Quiet law node { node with
        rng := rng
        neighbors := node.neighbors.modify hop.nextHop Neighbor.recordTxAttempt
        hopPending := node.hopPending.set index
          { hop with attempts := attempts, due := due } } := by
    refine (drawn rng).trans (withHops_quiet _ _ ?_)
    intro holds lawful other member
    rcases mem_or_eq_of_mem_set member with earlier | same
    · exact lawful.hops other earlier
    · rw [same]
      exact may holds
  refine (repeated _ _ _).trans (enqueuePacket_quiet _ _ _ _ _ ?_)
  exact fun holds _ => may holds

/-- The walk over the pending hops, by induction on its bound. -/
theorem hopLoop_moves (fuel index : Nat) (node : Node) (sound : law → node.Lawful) :
    Moves law [.silent, .reroute, .report] node (hopLoop now fuel index node) := by
  induction fuel generalizing index node with
  | zero => exact .refl
  | succ fuel ih =>
    unfold hopLoop
    split
    · exact .refl
    · rename_i hop found
      have may (holds : law) : MaySend node.history.received node.address hop.packet.header :=
        (sound holds).hops hop (mem_of_getElem? found)
      split
      · exact ih _ _ sound
      · split
        · have failed : Moves law [.silent, .reroute, .report] node (node.failHop index hop now) :=
            failHop_moves _ may
          exact failed.trans (ih _ _ (fun holds => failed.lawful holds (sound holds)))
        · have sent : Quiet law node (node.retransmitHop index hop now) :=
            retransmitHop_quiet _ may
          exact (sent.moves (by decide)).trans (ih _ _
            (fun holds => sent.lawful holds (sound holds)))

theorem pollHops_moves (sound : law → node.Lawful) :
    Moves law [.silent, .reroute, .report] node (node.pollHops now) :=
  hopLoop_moves now _ 0 node sound

theorem pollReplies_quiet (sound : law → node.Lawful) : Quiet law node (node.pollReplies now) := by
  have waiting : Quiet law node { node with rrepPending := (node.rrepPending.due now).1 } :=
    ⟨rfl, rfl, rfl, rfl, rfl, fun _ lawful => { lawful with
      replies := fun reply member => lawful.replies reply (mem_filter.mp member).1 }⟩
  refine waiting.trans (routeAllParked_quiet _ _ _ ?_)
  intro holds packet member
  obtain ⟨reply, scheduled, same⟩ := mem_map.mp member
  rw [← same]
  exact (sound holds).replies reply (mem_filter.mp scheduled).1

/-- The repeated requests of a discovery tick are quiet. -/
theorem repeatRequests_quiet :
    Quiet law node ((node.ierp.tick now node.rng).retries.foldl (repeatRequest now) { node with
      ierp := (node.ierp.tick now node.rng).ierp
      rng := (node.ierp.tick now node.rng).rng }) := by
  have ticked : Quiet law node { node with
      ierp := (node.ierp.tick now node.rng).ierp
      rng := (node.ierp.tick now node.rng).rng } := by
    refine (drawn_quiet node (node.ierp.tick now node.rng).rng).trans (withIerp_quiet _ ?_)
    intro _ lawful packet parks
    exact lawful.parked packet ((node.ierp.tick_keeps now node.rng).1 packet parks)
  exact ticked.trans (Quiet.foldl _ _ (fun state retry _ _ =>
    sendRouteRequest_quiet state now))

theorem pollDiscovery_moves : Moves law givingUp node (node.pollDiscovery now) := by
  have repeated : Moves law givingUp node _ := (node.repeatRequests_quiet now).moves (by decide)
  exact repeated.trans (Trail.foldl _ _ (fun state failure _ =>
    onDiscoveryFailed_moves state failure.1 failure.2 now))

theorem reportExhausted_moves (message : Outstanding) :
    Moves law [.silent, .reroute, .report] node (node.reportExhausted message) := by
  have doubted (routes : RouteCache) : Moves law [.silent, .reroute, .report] node
      { node with routes := routes } := .ofCore (.reroute _) rfl rfl (by decide)
  unfold reportExhausted
  split
  · exact .refl
  · exact (doubted _).tail (emit_move _ _) (by decide)

theorem pollTransport_moves :
    Moves law (.lose :: .reroute :: sealing) node (node.pollTransport now) := by
  have ticked : Moves law (.lose :: .reroute :: sealing) node { node with
      transport := (node.transport.tick now node.rng).1
      rng := (node.transport.tick now node.rng).2.rng } :=
    .trans (Trail.single (node.lose_move (node.transport.tick now node.rng).1) (by decide))
      ((drawn_quiet _ _).moves (by decide))
  have retried := ticked.trans (Trail.foldl (node.transport.tick now node.rng).2.retry _
    (fun state message _ => state.retryOutstanding_moves message now))
  exact retried.trans (Trail.foldl _ _ (fun state message _ =>
    (reportExhausted_moves state message).mono (by decide)))

theorem resendHandshake_moves (node : Node) (entry : Address × Bytes) :
    Moves law [.silent, .adjust] node (resendHandshake now node entry) := by
  have counted : Moves law [.silent, .adjust] node { node with
      handshakes := node.handshakes.modify entry.1 (fun pending =>
        { pending with attempts := pending.attempts + 1 }) } := by
    refine .single (node.adjust_move _ ?_) (by decide)
    intro peer pending
    split <;> rfl
  exact counted.trans ((sendHandshakePacket_quiet _ _ _ _ _).moves (by decide))

theorem pollHandshakeResend_moves :
    Moves law [.silent, .adjust] node (node.pollHandshakeResend now) :=
  Trail.foldl _ _ (fun state entry _ => resendHandshake_moves now state entry)

/-- A handshake that took too long is removed together with the reports of its sends. -/
theorem dismiss_move {peer : Address} {pending : PendingHandshake}
    (present : node.handshakes.get peer = some pending) :
    Move law .dismiss node (pending.reports.foldl emit
      { node with handshakes := node.handshakes.remove peer }) := by
  obtain ⟨core, setting, bearings⟩ :=
    emitAll_frame { node with handshakes := node.handshakes.remove peer } pending.reports
  refine Move.ofCore ?_ setting bearings
  rw [core]
  exact .dismiss node.core peer pending present

theorem expireHandshake_moves (peer : Address) :
    Moves law [.dismiss] node (node.expireHandshake peer) := by
  unfold expireHandshake
  split
  · exact .refl
  · rename_i pending present
    exact .single (node.dismiss_move present) (by decide)

theorem pollHandshakeExpire_moves : Moves law [.dismiss] node (node.pollHandshakeExpire now) :=
  Trail.foldl _ _ (fun state peer _ => expireHandshake_moves state peer)

theorem pollTraces_moves : Moves law [.silent, .report] node (node.pollTraces now) := by
  refine Trail.foldl _ _ ?_
  intro state dst _
  exact .trans ((withTraces_quiet _ _).moves (by decide)) ((emit_moves _ _).mono (by decide))

theorem onNeighborLost_moves (addr : Address) :
    Moves law [.reroute, .survey, .report] node (node.onNeighborLost addr) := by
  have announced : Moves law [.reroute, .survey, .report] node (node.emit (.neighborDown addr)) :=
    (emit_moves _ _).mono (by decide)
  have unlinked (before : Node) (zone : ZoneTable) (routes : RouteCache) :
      Move law .survey before { before with zone := zone, routes := routes } :=
    Move.ofCore (.survey _) rfl trivial
  have detached (before : Node) : Move law .reroute before { before with attachedAnchor := none } :=
    Move.ofCore (.reroute _) rfl rfl
  have lost := announced.trans (Trail.single (unlinked _
    ((node.emit (.neighborDown addr)).zone.removeVia addr)
    ((node.emit (.neighborDown addr)).routes.invalidateVia addr).1) (by decide))
  have reported := lost.trans ((emitAll_moves _
    (((node.emit (.neighborDown addr)).routes.invalidateVia addr).2.map NodeEvent.routeLost)).mono
      (show [Effect.report] ⊆ [.reroute, .survey, .report] by decide))
  simp only [onNeighborLost]
  split
  · exact reported.trans (Trail.single (detached _) (by decide))
  · exact reported

theorem expireCaches_moves : Moves law [.survey] node (node.expireCaches now) :=
  .ofCore (.survey _) rfl trivial (by decide)

theorem expireNeighbors_moves :
    Moves law [.reroute, .survey, .report] node (node.expireNeighbors now) := by
  simp only [expireNeighbors]
  split
  · exact .refl
  · exact .trans ((withNeighbors_moves _).mono (by decide))
      (Trail.foldl _ _ (fun state addr _ => onNeighborLost_moves state addr))

theorem expireSessions_moves : Moves law [.close, .report] node (node.expireSessions now) :=
  Trail.foldl _ _ (fun state peer _ => dropSession_moves state peer)

/-- The flag and the handshake of a rekey are set in one step of the core. -/
theorem rekeySession_moves (node : Node) (peer : Address) :
    Moves law [.silent, .rekey] node (rekeySession now node peer) := by
  unfold rekeySession
  rcases startHandshake_cases { node with sessions := node.sessions.modify peer (fun session =>
      { session with rekeyInProgress := true }) } peer now with ⟨known, same⟩ |
    ⟨pending, started, emptyQueue, absent, core, setting, bearings, sent⟩
  · rw [same]
    exact .ofCore (.rekey node.core peer node.handshakes (.inl ⟨rfl, known⟩)) rfl rfl (by decide)
  · rw [sent]
    have flagged : Move law .rekey node started := by
      refine Move.ofCore ?_ setting bearings
      rw [core]
      exact .rekey node.core peer _ (.inr ⟨pending, emptyQueue, absent, rfl⟩)
    exact .trans (Trail.single flagged (by decide))
      ((sendHandshakePacket_quiet _ _ _ _ _).moves (by decide))

theorem rekeySessions_moves : Moves law [.silent, .rekey] node (node.rekeySessions now) :=
  Trail.foldl _ _ (fun state peer _ => rekeySession_moves now state peer)

theorem discoverKeys_quiet : Quiet law node (node.discoverKeys now) := by
  refine Quiet.foldl _ _ ?_
  intro state dst _ _
  unfold discoverKey
  split
  · refine startDiscovery_quiet _ _ _ _ ?_
    intro _ packet impossible
    cases impossible
  · exact .refl state

theorem expireEnvelopes_moves : Moves law [.envelopes, .report] node (node.expireEnvelopes now) :=
  .trans (Trail.single (node.envelopes_move _) (by decide)) ((emitAll_moves _ _).mono (by decide))

theorem handOver_moves {host dst : Address} {now : Nat} :
    Moves law serving node (node.handOver host dst now) := by
  unfold handOver
  cases present : node.mailbox with
  | none => exact .refl
  | some mailbox =>
    exact .trans (Trail.single (node.attempt_move dst now 2 present) (by decide))
      (Trail.foldl _ _ (fun state item _ => (sendStore_moves state).mono (by decide)))

theorem serveDestination_moves (node : Node) (dst : Address) :
    Moves law serving node (serveDestination now node dst) := by
  unfold serveDestination
  split
  · exact (flushMailboxTo_moves _ _ _).mono (by decide)
  · split
    · exact .refl
    · split
      · exact handOver_moves _
      · exact .refl

theorem serveMailbox_moves : Moves law (.collect :: serving) node (node.serveMailbox now) := by
  unfold serveMailbox
  cases present : node.mailbox with
  | none => exact .refl
  | some mailbox =>
    have collected : Moves law (.collect :: serving) node (node.withMailbox (mailbox.gc now)) :=
      .ofCore (.collect node.core mailbox now present) rfl rfl (by decide)
    exact collected.trans (Trail.foldl _ _ (fun state dst _ =>
      (serveDestination_moves now state dst).mono (by decide)))

theorem expireQueues_quiet : Quiet law node (node.expireQueues now) := by
  refine ⟨rfl, rfl, rfl, rfl, rfl, ?_⟩
  intro _ lawful
  have vacant : node.heldForSleeping = [] := lawful.held
  refine { lawful with transmitted := ?_, held := ?_ }
  · exact fun item member => lawful.transmitted item (mem_filter.mp member).1
  · change node.heldForSleeping.filter _ = []
    rw [vacant]
    rfl

theorem housekeepingSessions_moves : Moves law tidying node (node.housekeepingSessions now) := by
  have cached : Moves law tidying node (node.expireCaches now) :=
    (expireCaches_moves _ _).mono (by decide)
  have neighbors := cached.trans ((expireNeighbors_moves _ now).mono (by decide))
  have sessions := neighbors.trans ((expireSessions_moves _ now).mono (by decide))
  exact sessions.trans ((rekeySessions_moves _ now).mono (by decide))

theorem housekeepingEarly_moves : Moves law tidying node (node.housekeepingEarly now) := by
  have keyed : Moves law tidying node _ := (node.housekeepingSessions_moves now).trans
    ((discoverKeys_quiet _ now).moves (by decide))
  exact keyed.trans ((expireEnvelopes_moves _ now).mono (by decide))

theorem housekeeping_moves : Moves law Effects.housekeeping node (node.housekeeping now) := by
  have early : Moves law Effects.housekeeping node (node.housekeepingEarly now) :=
    (node.housekeepingEarly_moves now).mono (by decide)
  have served := early.trans ((serveMailbox_moves _ now).mono (by decide))
  exact served.trans ((expireQueues_quiet _ now).moves (by decide))

theorem pollRadio_moves (sound : law → node.Lawful) :
    Moves law (.report :: .reroute :: waiting) node (node.pollRadio now) := by
  have beaconed : Moves law (.report :: .reroute :: waiting) node (node.pollBeacon now) :=
    (pollBeacon_quiet _ _).moves (by decide)
  have fetched := beaconed.trans ((pollFetch_moves _ now).mono (by decide))
  have relayed := fetched.trans (Quiet.moves (pollRelays_quiet _ now
    (fun holds => Moves.lawful fetched holds (sound holds))) (by decide))
  have hopped := relayed.trans ((pollHops_moves _ now
    (fun holds => Moves.lawful relayed holds (sound holds))).mono (by decide))
  exact hopped.trans (Quiet.moves (pollReplies_quiet _ now
    (fun holds => Moves.lawful hopped holds (sound holds))) (by decide))

theorem pollLate_moves :
    Moves law [.silent, .adjust, .dismiss, .report] node (node.pollLate now) := by
  have resent : Moves law [.silent, .adjust, .dismiss, .report] node
      (node.pollHandshakeResend now) := (pollHandshakeResend_moves _ _).mono (by decide)
  have expired := resent.trans ((pollHandshakeExpire_moves _ now).mono (by decide))
  exact expired.trans ((pollTraces_moves _ now).mono (by decide))

theorem pollTimers_moves (sound : law → node.Lawful) :
    Moves law ticking node (node.pollTimers now) := by
  have radio : Moves law ticking node (node.pollRadio now) :=
    (pollRadio_moves _ _ sound).mono (by decide)
  have discovered := radio.trans ((pollDiscovery_moves _ now).mono (by decide))
  have retried := discovered.trans ((pollTransport_moves _ now).mono (by decide))
  exact retried.trans ((pollLate_moves _ now).mono (by decide))

theorem pollAwake_moves (sound : law → node.Lawful) :
    Moves law timing node (node.pollAwake now) := by
  have timed : Moves law timing node (node.pollTimers now) :=
    (pollTimers_moves _ _ sound).mono (by decide)
  simp only [pollAwake]
  split
  · exact timed.trans ((housekeeping_moves _ _).mono (by decide))
  · exact timed

theorem powered_moves (time : Nat) : Moves law powering node (node.powered time) := by
  have timed : Moves law powering node { node with now := max node.now time } :=
    Reroutes.moves (Reroutes.ofRoutes rfl rfl rfl) (by decide)
  exact timed.trans (pollPower_moves _ _)

theorem poll_moves {time : Nat} (sound : law → node.Lawful) :
    Moves law timing node (node.poll time) := by
  have powered : Moves law timing node (node.powered time) := (powered_moves _ _).mono (by decide)
  simp only [poll]
  split
  · exact powered
  · exact powered.trans (pollAwake_moves _ _
      (fun holds => Moves.lawful powered holds (sound holds)))

theorem newHandle_quiet : Quiet law node node.newHandle.1 := .outside rfl rfl rfl

theorem sendBroadcast_quiet (payload : Bytes) : Quiet law node (node.sendBroadcast payload).1 := by
  have based : Quiet law node _ := node.newHandle_quiet.trans
    (baseHeader_quiet _ .data Address.broadcast node.newHandle.1.cfg.defaultTtl)
  have own : (node.newHandle.1.baseHeader .data Address.broadcast
      node.newHandle.1.cfg.defaultTtl).2.src = node.address := baseHeader_src _ _ _ _
  simp only [sendBroadcast]
  generalize node.newHandle.1.baseHeader .data Address.broadcast
    node.newHandle.1.cfg.defaultTtl = header at based own
  have numbered : Quiet law node { header.1 with transport := header.1.transport.nextSeq.1 } :=
    based.trans (.outside rfl rfl rfl)
  cases header.1.cfg.networkKey with
  | none =>
    simp only
    split
    · exact numbered
    · refine numbered.trans (enqueuePacket_own _ _ ?_)
      rw [numbered.address]
      exact own
  | some network =>
    simp only
    split
    · exact numbered
    · refine numbered.trans (enqueuePacket_own _ _ ?_)
      rw [numbered.address]
      exact own

theorem sendMessage_moves (dst : Address) (payload : Bytes) (reliability : Reliability) :
    Moves law sealing node (node.sendMessage dst payload reliability).1 := by
  have handled : Moves law sealing node node.newHandle.1 := node.newHandle_quiet.moves (by decide)
  unfold sendMessage
  split
  · exact .refl
  · split
    · exact .refl
    · split
      · exact (sendBroadcast_quiet _ _).moves (by decide)
      · simp only
        split
        · exact handled.trans (queueEnvelope_seals _ _ _ _).moves
        · exact handled.trans ((sendOrQueue_moves _ _ _).mono (by decide))

theorem trace_quiet (dst : Address) : Quiet law node (node.trace dst).1 := by
  unfold trace
  split
  · exact .refl node
  · split
    · exact .refl node
    · have based : Quiet law node _ := node.baseHeader_quiet .control dst (node.ttlFor dst)
      have started := based.trans (withTraces_quiet _
        ((node.baseHeader .control dst (node.ttlFor dst)).1.pendingTraces.filter
          (fun other => other.1 != dst) ++ [(dst, node.now)]))
      refine started.trans (routeUnicast_quiet _ _ _ ?_)
      rw [started.address]
      exact baseHeader_src _ _ _ _

theorem nextTx_reroutes : Reroutes law node (node.nextTx now).1 := by
  have timed : Reroutes law node { node with now := max node.now now } := .ofRoutes rfl rfl rfl
  have charged (before : Node) (power : PowerManager) :
      Reroutes law before { before with power := power } := Reroutes.ofRoutes rfl rfl rfl
  have sent (before : Node) (index : Nat) : Quiet law before { before with
      txQueue := before.txQueue.eraseIdx index } :=
    ⟨rfl, rfl, rfl, rfl, rfl, fun _ lawful => { lawful with
      transmitted := fun item member =>
        lawful.transmitted item ((eraseIdx_sublist _ _).subset member) }⟩
  simp only [nextTx]
  split
  · exact timed
  · split
    · exact timed
    · split
      · exact Trail.trans timed (charged _ _)
      · exact Trail.trans (timed.trans (sent _ _)) (charged _ _)

/-- Every effect there is. -/
def Effects.all : List Effect :=
  Effects.handling ++ Effects.timing ++ [.consume]

/-- The law of a step: the forwarding law holds before it, and a received frame is not
kept for later. -/
def Prompt (node : Node) : Operation → Prop
  | .receive frame rxMeta => node.keepsForLater frame rxMeta = false
  | _ => True

/-- Every step of a node is a trail of effects, from a state that differs from the one
before the step at most in what was noted of a received frame. -/
theorem step_moves (operation : Operation) :
    ∃ receiver : Node, receiver.core = node.core ∧ receiver.cfg = node.cfg ∧
      receiver.id = node.id ∧ (node.Lawful → receiver.Lawful) ∧
      Moves (node.Lawful ∧ node.Prompt operation) Effects.all receiver (node.step operation) := by
  have direct (after : Node) (moves : Moves (node.Lawful ∧ node.Prompt operation) Effects.all node
      after) : ∃ receiver : Node, receiver.core = node.core ∧ receiver.cfg = node.cfg ∧
      receiver.id = node.id ∧ (node.Lawful → receiver.Lawful) ∧
      Moves (node.Lawful ∧ node.Prompt operation) Effects.all receiver after :=
    ⟨node, rfl, rfl, rfl, fun lawful => lawful, moves⟩
  cases operation with
  | receive frame rxMeta =>
    obtain ⟨receiver, core, cfg, id, lawful, moves⟩ := node.onRadioRx_moves frame rxMeta
      (fun holds : node.Lawful ∧ node.Prompt (.receive frame rxMeta) => holds.1)
      (fun holds => holds.2)
    exact ⟨receiver, core, cfg, id, lawful, moves.mono (by decide)⟩
  | poll now => exact direct _ ((poll_moves _ (fun holds => holds.1)).mono (by decide))
  | sendMessage dst payload reliability =>
    exact direct _ ((sendMessage_moves _ _ _ _).mono (by decide))
  | sendBroadcast payload => exact direct _ ((sendBroadcast_quiet _ _).moves (by decide))
  | trace dst => exact direct _ ((trace_quiet _ _).moves (by decide))
  | closeSession peer => exact direct _ ((closeSession_moves _ _).mono (by decide))
  | addKnownIdentity identity =>
    exact direct _ (Trail.single (node.learn_move identity.address identity rfl) (by decide))
  | editRoutes routes =>
    exact direct _ (.ofCore (.reroute _) rfl rfl (by decide))
  | diagnostics => exact direct _ (node.congestion_quiet.moves (by decide))
  | nextTx now => exact direct _ ((nextTx_reroutes _ _).moves (by decide))
  | nextEvent =>
    exact direct _ (.ofCore (.consume node.core) rfl rfl (by decide))

end Node

end MeshStar

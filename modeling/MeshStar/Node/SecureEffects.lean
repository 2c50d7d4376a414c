import MeshStar.Node.TransmitEffects

/-!
# Effects of sending, sealing and retrying

For each function of the sending side, the effects its trail may use. The lists name
what a function can do at all; nothing else can happen to the core.
-/

namespace MeshStar

open List

variable [Primitives]

namespace Effects

/-- Sending inside a session. -/
def sending : List Effect := [.silent, .advance]

/-- Opening a session and waiting for it. -/
def waiting : List Effect := sending ++ [.contact, .enlist]

/-- Sending a message, in a session or behind a handshake. -/
def messaging : List Effect := waiting ++ [.track, .report]

/-- Depositing an envelope at a host. -/
def depositing : List Effect := waiting ++ [.record]

/-- Choosing between direct delivery, our own mailbox and a host. -/
def delivering : List Effect := depositing ++ [.attempt, .shelter]

/-- Sealing an envelope and sending it. -/
def sealing : List Effect := delivering ++ [.track, .report, .envelopes]

/-- Giving up on a destination. -/
def givingUp : List Effect := depositing ++ [.settle, .abandon, .report, .envelopes]

end Effects

open Effects

namespace Node

variable (node : Node) (dst : Address) (ptype : PacketType) (envelopeId : UInt32) (body : Bytes)
  (peer : Address) (envelope : Bytes) (target : Address) (send : QueuedSend) (message : Outstanding)
  (now : Nat) (event : NodeEvent)

variable {law : Prop}

theorem emit_core :
    (node.emit event).core = { node.core with events := Core.pushEvent node.events event } := by
  unfold emit Core.pushEvent
  split <;> rfl

omit [Primitives] in
/-- An event touches only the event queue. -/
theorem emit_frame :
    (node.emit event).setting = node.setting ∧ (node.emit event).bearings = node.bearings := by
  unfold emit
  split <;> exact ⟨rfl, rfl⟩

/-- Events touch only the event queue. -/
theorem emitAll_frame (events : List NodeEvent) : (events.foldl emit node).core =
        { node.core with events := events.foldl Core.pushEvent node.events } ∧
      (events.foldl emit node).setting = node.setting ∧
      (events.foldl emit node).bearings = node.bearings := by
  induction events generalizing node with
  | nil => exact ⟨rfl, rfl, rfl⟩
  | cons event rest ih =>
    obtain ⟨core, setting, bearings⟩ := ih (node.emit event)
    obtain ⟨sameSetting, sameBearings⟩ := node.emit_frame event
    have queue : (node.emit event).events = Core.pushEvent node.events event :=
      congrArg Core.events (node.emit_core event)
    refine ⟨?_, setting.trans sameSetting, bearings.trans sameBearings⟩
    rw [foldl_cons, core, emit_core, queue]
    rfl

theorem emit_move : Move law .report node (node.emit event) := by
  obtain ⟨setting, bearings⟩ := node.emit_frame event
  refine Move.ofCore ?_ setting bearings
  rw [emit_core]
  exact .report node.core event

theorem emit_moves : Moves law [.report] node (node.emit event) :=
  .single (node.emit_move event) (by decide)

theorem emitAll_moves (events : List NodeEvent) :
    Moves law [.report] node (events.foldl emit node) :=
  Trail.foldl events node (fun state event _ => state.emit_moves event)

theorem pushQueued_moves : Moves law [.enlist] node (node.pushQueued peer send) :=
  .ofCore (.enlist node.core peer send) rfl rfl (by decide)

/-- The first message of a fresh handshake is always written, and nothing waits for it yet. -/
theorem openHandshake_some :
    ∃ pending, (node.openHandshake peer now).2 = some pending ∧ pending.queued = [] := ⟨_, rfl, rfl⟩

/-- Starting a handshake inserts a fresh one with an empty queue, unless one is in flight
or the peer is this node. -/
theorem startHandshake_cases : ((node.handshakes.contains peer = true ∨ peer = node.address) ∧
        node.startHandshake peer now = node) ∨
      ∃ (pending : PendingHandshake) (started : Node), pending.queued = [] ∧
        node.handshakes.get peer = none ∧
        started.core = { node.core with handshakes := node.handshakes.insert peer pending } ∧
        started.setting = node.setting ∧ started.bearings = node.bearings ∧
        node.startHandshake peer now = started.sendHandshakePacket peer .one pending.m1 now := by
  unfold startHandshake
  split
  · rename_i known
    exact .inl ⟨known, rfl⟩
  · rename_i unknown
    obtain ⟨pending, opened, emptyQueue⟩ := node.openHandshake_some peer now
    refine .inr ⟨pending, { node with
      rng := (node.openHandshake peer now).1
      handshakes := node.handshakes.insert peer pending }, emptyQueue,
      OrderedMap.get_eq_none (fun known => unknown (.inl known)), rfl, rfl, rfl, ?_⟩
    simp only [opened]

theorem startHandshake_moves :
    Moves law [.silent, .contact] node (node.startHandshake peer now) := by
  rcases node.startHandshake_cases peer now with ⟨_, same⟩ |
    ⟨pending, started, emptyQueue, absent, core, setting, bearings, sent⟩
  · rw [same]
    exact .refl
  · rw [sent]
    have contacted : Move law .contact node started := by
      refine Move.ofCore ?_ setting bearings
      rw [core]
      exact .contact node.core peer pending absent emptyQueue
    refine .trans (Trail.single contacted ?_)
      (Quiet.moves (sendHandshakePacket_quiet _ _ _ _ _) ?_) <;> decide

theorem sendFragments_quiet {header : Header} {now : Nat} {parts : List (FragHeader × Bytes)}
    (first : Bool) (node : Node) (own : header.src = node.address) :
    Quiet law node (sendFragments header now parts first node).1 := by
  induction parts generalizing first node with
  | nil => exact .refl node
  | cons part rest ih =>
    have routed : Quiet law node _ := node.routeFragment_quiet first part now own
    simp only [sendFragments]
    split
    · rename_i outcome
      rw [outcome] at routed
      exact routed
    · rename_i outcome
      rw [outcome] at routed
      exact routed.trans (ih false _ (own.trans routed.address.symm))

/-- Storing a session that encryption or decryption advanced. -/
theorem advance_move (session advanced : Session) (present : node.sessions.get peer = some session)
    (keeps : advanced.peer = session.peer ∧ advanced.rekeyInProgress = session.rekeyInProgress) :
    Move law .advance node { node with sessions := node.sessions.insert peer advanced } :=
  Move.ofCore (.advance node.core peer session advanced present keeps.1 keeps.2) rfl rfl

variable (seq : UInt16) (ackRequest : Bool)

/-- Without a session nothing is sent. With one, its state after one encryption is stored
before the packet or its fragments are routed: `related` holds across what is drawn before and
across the routing after, if it holds of each. -/
theorem sendSessionPacket_parts {related : Node → Node → Prop} (now : Nat)
    (same : ∀ state, related state state)
    (drawn : ∀ fragId, related node
      { (node.baseHeader ptype dst (node.ttlFor dst)).1 with fragId := fragId })
    (routed : ∀ (header : Header) (state : Node), header.ptype = ptype →
      header.src = state.address →
      (∀ body, related state (state.routeUnicast ⟨header, body⟩ now).1) ∧
        ∀ parts, related state (sendFragments header now parts true state).1) :
    (node.sessions.get dst = none ∧
      related node (node.sendSessionPacket dst ptype body seq ackRequest now).1) ∨
    ∃ session aad prepared, node.sessions.get dst = some session ∧
      prepared.sessions = node.sessions ∧ related node prepared ∧
      related { prepared with
          sessions := prepared.sessions.insert dst (session.encrypt now aad body).1 }
        (node.sendSessionPacket dst ptype body seq ackRequest now).1 := by
  unfold sendSessionPacket
  simp only
  generalize maxPayload _ = singleMax
  generalize isCounted : (if body.length + transportOverhead > singleMax then _
    else (node.baseHeader ptype dst (node.ttlFor dst)).1) = counted
  have prepared : related node counted ∧ counted.sessions = node.sessions ∧
      counted.address = node.address := by
    rw [← isCounted]
    split <;> exact ⟨drawn _, rfl, rfl⟩
  generalize (if body.length + transportOverhead > singleMax then some _ else none) = fragment
  generalize isSealed : (if body.length + transportOverhead > singleMax then
    Header.set _ Flags.fragmented true else _) = sealed
  have fields : sealed.ptype = ptype ∧ sealed.src = counted.address := by
    obtain ⟨src, _, kind⟩ := node.baseHeader_fields ptype dst (node.ttlFor dst)
    rw [← isSealed, prepared.2.2]
    unfold sessionHeader
    split <;> split <;> exact ⟨kind, src⟩
  rw [← prepared.2.1]
  cases found : counted.sessions.get dst with
  | none => exact .inl ⟨rfl, prepared.1⟩
  | some session =>
    refine .inr ⟨session, transportAad sealed fragment, counted, rfl, rfl, prepared.1, ?_⟩
    simp only
    generalize session.encrypt now (transportAad sealed fragment) body = outcome
    obtain ⟨advanced, result⟩ := outcome
    cases result with
    | error _ => exact same _
    | ok ciphertext =>
      have sent := routed sealed { counted with
        sessions := counted.sessions.insert dst advanced } fields.1 fields.2
      cases fragment with
      | none => exact sent.1 ciphertext
      | some fragment =>
        simp only
        split
        · exact same _
        · exact sent.2 _

theorem sendSessionPacket_cases (now : Nat) : (node.sessions.get dst = none ∧
      Quiet law node (node.sendSessionPacket dst ptype body seq ackRequest now).1) ∨
    ∃ session aad prepared, node.sessions.get dst = some session ∧
      prepared.sessions = node.sessions ∧ Quiet law node prepared ∧
      Quiet law { prepared with
          sessions := prepared.sessions.insert dst (session.encrypt now aad body).1 }
        (node.sendSessionPacket dst ptype body seq ackRequest now).1 := by
  refine node.sendSessionPacket_parts dst ptype body seq ackRequest now Quiet.refl ?_ ?_
  · exact fun fragId => (node.baseHeader_quiet ptype dst (node.ttlFor dst)).trans
      (Quiet.outside rfl rfl rfl)
  · exact fun header state _ own => ⟨fun body => routeUnicast_quiet _ _ _ own,
      fun parts => sendFragments_quiet _ _ own⟩

/-- A session packet advances the session and leaves the rest of the core alone. -/
theorem sendSessionPacket_moves (now : Nat) : Moves law sending node
      (node.sendSessionPacket dst ptype body seq ackRequest now).1 := by
  rcases node.sendSessionPacket_cases dst ptype body seq ackRequest now with
    ⟨_, quiet⟩ | ⟨session, aad, prepared, found, same, quiet, sent⟩
  · exact quiet.moves (by decide)
  · have present : prepared.sessions.get dst = some session := same ▸ found
    have stored : Moves law sending node _ := Trail.trans (quiet.moves (by decide))
      (Trail.single (prepared.advance_move dst session _ present
        (session.encrypt_keeps now aad body)) (by decide))
    exact stored.trans (sent.moves (by decide))

theorem sendSequenced_moves : Moves law sending node (node.sendSequenced dst ptype body now) := by
  have sequenced : Quiet law node { node with transport := node.transport.nextSeq.1 } :=
    .outside rfl rfl rfl
  exact .trans (sequenced.moves (by decide)) (sendSessionPacket_moves _ _ _ _ _ _ _)

theorem sendAck_moves {recipient : Address} {seq : UInt16} {status : UInt8}
    {now : Nat} : Moves law sending node (node.sendAck recipient seq status now) := by
  unfold sendAck
  split
  · exact sendSequenced_moves _ _ _ _ _
  · exact .refl

theorem sendControl_moves (recipient : Address) (sub : UInt8) (body : Bytes)
    (now : Nat) : Moves law sending node (node.sendControl recipient sub body now) := by
  unfold sendControl
  split
  · exact sendSequenced_moves _ _ _ _ _
  · exact .refl

/-- Tracking a message appends it, or reports a full table. -/
theorem trackOrFail_moves : Moves law [.track, .report] node (node.trackOrFail message now).1 := by
  simp only [trackOrFail, Transport.track]
  split
  · split
    · rename_i impossible
      cases impossible
    · exact (emit_moves _ _).mono (by decide)
  · exact .ofCore (.track node.core _) rfl rfl (by decide)

theorem sendDataInSession_moves : Moves law messaging node (node.sendDataInSession send now) := by
  have sequenced : Quiet law node { node with transport := node.transport.nextSeq.1 } :=
    .outside rfl rfl rfl
  have numbered : Moves law sending node _ := sequenced.moves (by decide)
  have sent := (numbered.trans (sendSessionPacket_moves _ send.dst .data send.payload
    node.transport.nextSeq.2 (send.reliability == .acknowledged) now)).mono
      (show sending ⊆ messaging by decide)
  simp only [sendDataInSession]
  split
  · rename_i outcome
    rw [outcome] at sent
    split
    · exact sent.trans ((trackOrFail_moves _ _ _).mono (by decide))
    · exact sent
  all_goals
    rename_i outcome
    rw [outcome] at sent
    exact sent.tail (emit_move _ _) (by decide)

theorem sendOrQueue_moves : Moves law messaging node (node.sendOrQueue send now) := by
  unfold sendOrQueue
  split
  · exact sendDataInSession_moves _ _ _
  · split
    · split
      · exact (pushQueued_moves _ _ _).mono (by decide)
      · exact (emit_moves _ _).mono (by decide)
    · have started : Moves law messaging node (node.startHandshake send.dst now) :=
        (startHandshake_moves _ _ _).mono (by decide)
      simp only
      split
      · exact started.trans ((pushQueued_moves _ _ _).mono (by decide))
      · exact started.tail (emit_move _ _) (by decide)

/-- Opening a session and leaving a send behind its handshake. -/
theorem startAndPush_moves :
    Moves law waiting node ((node.startHandshake peer now).pushQueued peer send) :=
  .trans ((startHandshake_moves _ _ _).mono (by decide)) ((pushQueued_moves _ _ _).mono (by decide))

theorem sendFetch_moves {anchor : Address} {now : Nat} :
    Moves law waiting node (node.sendFetch anchor now) := by
  have asked : Moves law waiting node
      (if node.sessions.contains anchor then node.sendSequenced anchor .fetch [8] now
      else (node.startHandshake anchor now).pushQueued anchor
        ⟨anchor, [], .unreliable, 0, now⟩) := by
    split
    · exact (sendSequenced_moves _ _ _ _ _).mono (by decide)
    · exact startAndPush_moves _ _ _ _
  unfold sendFetch
  simp only
  split
  · split
    · exact .refl
    · exact asked
  · exact asked

theorem sendStore_moves {anchor dst : Address} {envelopeId : UInt32}
    {envelope : Bytes} {now : Nat} :
    Moves law depositing node (node.sendStore anchor dst envelopeId envelope now) := by
  have recorded : Moves law depositing node { node with history := { node.history with
      deposits := node.history.deposits ++ [Deposit.mk anchor dst envelopeId] } } :=
    .ofCore (.record node.core _) rfl rfl (by decide)
  simp only [sendStore]
  split
  · exact recorded.trans ((sendSequenced_moves _ _ _ _ _).mono (by decide))
  · exact recorded.trans ((startAndPush_moves _ _ _ _).mono (by decide))

/-- Marking delivery attempts in the mailbox. -/
theorem attempt_move {mailbox : Mailbox} (dst : Address) (now maximum : Nat)
    (present : node.mailbox = some mailbox) :
    Move law .attempt node
      { node with mailbox := some (mailbox.takeDeliverable dst now maximum).1 } :=
  Move.ofCore (.attempt node.core mailbox dst now maximum present) rfl rfl

theorem flushMailboxTo_moves :
    Moves law [.silent, .attempt] node (node.flushMailboxTo dst now) := by
  unfold flushMailboxTo
  cases present : node.mailbox with
  | none => exact .refl
  | some mailbox =>
    refine .trans (Trail.single (node.attempt_move dst now 4 present) (by decide)) ?_
    refine Quiet.moves ?_ (by decide)
    exact Quiet.foldl _ _ (fun state item _ _ => sendEnvelopeData_quiet state dst item.1 item.2 now)

theorem depositForHosted_moves : Moves law [.silent, .attempt, .shelter] node
      (node.depositForHosted dst envelopeId envelope now).1 := by
  unfold depositForHosted
  split
  · rename_i neighbor mailbox _ present
    split
    · split
      · rename_i stored accepted
        have both : Moves law [.silent, .attempt, .shelter] node { node with
            mailbox := some stored
            transport := (node.transport.onStoreAccepted envelopeId).1 } :=
          .ofCore (.shelter node.core mailbox stored now _ _ present accepted) rfl rfl (by decide)
        simp only
        split
        · exact both.trans ((flushMailboxTo_moves _ _ _).mono (by decide))
        · exact both
      · exact .refl
    · exact .refl
  · exact .refl

theorem routeUnicastEnvelope_quiet :
    Quiet law node (node.routeUnicastEnvelope dst envelopeId envelope now).1 := by
  simp only [routeUnicastEnvelope]
  split
  · split
    · exact node.baseHeader_quiet .data dst node.cfg.defaultTtl
    · exact routeBased_quiet _ _ _ _ rfl
  · exact sendEnvelopeData_quiet _ _ _ _ _

theorem deliverEnvelope_moves :
    Moves law delivering node (node.deliverEnvelope dst envelopeId envelope now) := by
  simp only [deliverEnvelope]
  split
  · exact (depositForHosted_moves _ _ _ _ _).mono (by decide)
  · split
    · exact (sendStore_moves _).mono (by decide)
    · have routed : Quiet law node _ := node.routeUnicastEnvelope_quiet dst envelopeId envelope now
      split
      · rename_i outcome
        rw [outcome] at routed
        exact routed.moves (by decide)
      · rename_i outcome
        rw [outcome] at routed
        split
        · exact .trans (routed.moves (by decide)) ((sendStore_moves _).mono (by decide))
        · exact routed.moves (by decide)

theorem sealAndSendEnvelope_moves {payload : Bytes} {handle : UInt32}
    {now : Nat} : Moves law sealing node (node.sealAndSendEnvelope dst payload handle now) := by
  unfold sealAndSendEnvelope
  cases node.keyDir.get dst with
  | none => exact (emit_moves _ _).mono (by decide)
  | some recipient =>
    simp only
    have drained : Moves law sealing node { node.newPacketId.1 with
        rng := (sealEnvelope node.id recipient node.newPacketId.2 payload
          node.newPacketId.1.rng).1 } := Quiet.moves (.outside rfl rfl rfl) (by decide)
    split
    · exact drained.tail (emit_move _ _) (by decide)
    · split
      · exact drained.tail (emit_move _ _) (by decide)
      · split
        · exact (drained.trans ((trackOrFail_moves _ _ _).mono (by decide))).trans
            ((deliverEnvelope_moves _ _ _ _ _).mono (by decide))
        · exact drained.trans ((trackOrFail_moves _ _ _).mono (by decide))

/-- Replacing the envelopes that wait for a key. -/
theorem envelopes_move (waiting : List PendingEnvelope) :
    Move law .envelopes node { node with pendingEnvelopes := waiting } :=
  Move.ofCore (.envelopes node.core waiting) rfl rfl

theorem doubtRoute_moves :
    Moves law [.silent, .reroute, .report] node (node.doubtRoute message now) := by
  simp only [doubtRoute]
  split
  · split
    · rename_i route _
      have doubted : Moves law [.silent, .reroute, .report] node { node with
          routes := (node.routes.markFailure message.dst route.nextHop).1 } :=
        .ofCore (.reroute _) rfl rfl (by decide)
      split
      · exact doubted
      · have reported : Moves law [.silent, .reroute, .report] node
            (if (node.routes.markFailure message.dst route.nextHop).2 then
              emit { node with routes := (node.routes.markFailure message.dst route.nextHop).1 }
                (.routeLost message.dst)
            else { node with routes := (node.routes.markFailure message.dst
              route.nextHop).1 }) := by
          split
          · exact doubted.tail (emit_move _ _) (by decide)
          · exact doubted
        refine reported.trans (Quiet.moves (.outside rfl rfl ?_) (by decide))
        exact bearings_of_sight _ (NeighborTable.recordFailure_sight _ _)
    · exact .refl
  · exact .refl

/-- Messages removed without a report. -/
theorem lose_move (transport : Transport) :
    Move law .lose node { node with transport := transport } :=
  Move.ofCore (.lose node.core transport.outstanding) rfl rfl

theorem retryOutstanding_moves :
    Moves law (.lose :: .reroute :: sealing) node (node.retryOutstanding message now) := by
  have doubted : Moves law (.lose :: .reroute :: sealing) node (node.doubtRoute message now) :=
    (doubtRoute_moves _ _ _).mono (by decide)
  have resent : Moves law (.lose :: .reroute :: sealing) node
      (if !(node.doubtRoute message now).sessions.contains message.dst then
        sendOrQueue { node.doubtRoute message now with
          transport := ((node.doubtRoute message now).transport.failAllTo message.dst).1 }
          ⟨message.dst, message.body, message.reliability, message.handle, now⟩ now
      else ((node.doubtRoute message now).sendSessionPacket message.dst .data message.body
        message.seq true now).1) := by
    split
    · exact doubted.trans (Trail.trans (Trail.single (lose_move _ _) (by decide))
        ((sendOrQueue_moves _ _ _).mono (by decide)))
    · exact doubted.trans ((sendSessionPacket_moves _ _ _ _ _ _ _).mono (by decide))
  simp only [retryOutstanding]
  split
  · split
    · exact doubted.trans ((deliverEnvelope_moves _ _ _ _ _).mono (by decide))
    · exact .refl
  · exact resent

/-- Messages that leave the table together with reports that conclude them; a quiet change
may come in between. -/
theorem settle_move {middle : Node} {transport : Transport} (events : List NodeEvent)
    (quiet : Quiet law { node with transport := transport } middle)
    (fewer : transport.outstanding.Sublist node.transport.outstanding)
    (concluded : ∀ message ∈ node.transport.outstanding, message ∈ transport.outstanding ∨
      ∃ event ∈ events, event.concludes message.handle = true) :
    Move law .settle node (events.foldl emit middle) := by
  obtain ⟨core, setting, bearings⟩ := emitAll_frame middle events
  obtain ⟨cfg, id, received, lawful⟩ := setting_parts setting
  have queue : middle.events = node.events := congrArg Core.events quiet.core
  refine ⟨?_, cfg.trans quiet.cfg, id.trans quiet.id, received.trans quiet.received,
    bearings.trans quiet.bearings, fun holds before => lawful (quiet.lawful holds before)⟩
  rw [core, quiet.core, queue]
  exact .settle node.core transport.outstanding events fewer concluded

/-- An envelope that is reported leaves the table. -/
theorem settleEnvelope_moves (report : Outstanding → NodeEvent)
    (concludes : ∀ message, (report message).concludes message.handle = true) :
    Moves law [.settle] node (match (node.transport.onEnvelopeDelivered envelopeId).2 with
      | some message =>
        emit { node with transport := (node.transport.onEnvelopeDelivered envelopeId).1 }
          (report message)
      | none => { node with transport := (node.transport.onEnvelopeDelivered envelopeId).1 }) := by
  cases found : (node.transport.onEnvelopeDelivered envelopeId).2 with
  | none =>
    have same : (node.transport.onEnvelopeDelivered envelopeId).1 = node.transport := by
      have absent := List.find?_eq_none.mp found
      simp only [Transport.onEnvelopeDelivered, eraseP_of_forall_not absent]
    simp only [same]
    exact .refl
  | some message =>
    refine .single (node.settle_move [report message] (Quiet.refl _) eraseP_sublist ?_)
      mem_cons_self
    intro other member
    rcases Selection.mem_eraseP_or_found member with kept | removed
    · exact .inl kept
    · rw [Transport.onEnvelopeDelivered] at found
      rw [show other = message from Option.some.inj (removed.symm.trans found)]
      exact .inr ⟨_, mem_cons_self, concludes message⟩

/-- Giving up on a destination reports every message it drops. -/
theorem failTracked_moves : Moves law [.settle] node (node.failTracked target) := by
  refine .single (node.settle_move _ (Quiet.refl _) filter_sublist ?_) mem_cons_self
  intro message member
  by_cases dropped : Transport.failsTo target message = true
  · refine .inr ⟨_, mem_map_of_mem (mem_filter.mpr ⟨member, dropped⟩), ?_⟩
    exact beq_self_eq_true message.handle
  · refine .inl (mem_filter.mpr ⟨member, ?_⟩)
    rw [Bool.eq_false_of_not_eq_true dropped]
    rfl

theorem failParked_moves (anchor : Option Address) (now : Nat) (node : Node) (packet : Packet) :
    Moves law (.settle :: depositing) node (failParked target anchor now node packet) := by
  unfold failParked
  split
  · split
    · exact (sendStore_moves _).mono (by decide)
    · exact (settleEnvelope_moves node _ (fun message => .failed message.handle target .noRoute)
        (fun message => beq_self_eq_true message.handle)).mono (by decide)
    · exact .refl
  · exact .refl

/-- Removing a pending handshake. -/
theorem abandon_move :
    Move law .abandon node { node with handshakes := node.handshakes.remove peer } :=
  Move.ofCore (.abandon node.core peer) rfl rfl

theorem failHandshake_moves : Moves law [.abandon, .report] node (node.failHandshake target) := by
  unfold failHandshake
  split
  · exact .refl
  · exact .trans (Trail.single (node.abandon_move target) (by decide))
      ((emitAll_moves _ _).mono (by decide))

theorem failEnvelopes_moves : Moves law [.envelopes, .report] node (node.failEnvelopes target) :=
  .trans (Trail.single (node.envelopes_move _) (by decide)) ((emitAll_moves _ _).mono (by decide))

theorem failAllParked_moves (anchor : Option Address) (now : Nat) (node : Node)
    (queued : List Packet) :
    Moves law (.settle :: depositing) node (queued.foldl (failParked target anchor now) node) :=
  Trail.foldl queued node (fun state packet _ => failParked_moves target anchor now state packet)

theorem onDiscoveryFailed_moves (queued : List Packet)
    (now : Nat) : Moves law givingUp node (node.onDiscoveryFailed target queued now) := by
  simp only [onDiscoveryFailed]
  generalize (node.neighbors.bestAnchor.map Neighbor.addr).filter
    (fun addr => addr != node.address) = anchor
  have parked : Moves law givingUp node (queued.foldl (failParked target anchor now) node) :=
    (failAllParked_moves _ _ _ _ _).mono (by decide)
  have unlinked := parked.trans ((failHandshake_moves _ target).mono (by decide))
  have reported := unlinked.trans ((failTracked_moves _ target).mono (by decide))
  exact reported.trans ((failEnvelopes_moves _ target).mono (by decide))

end Node

end MeshStar

import MeshStar.Node.ForwardEffects

/-!
# Effects of the receive path

What each handler of a received packet may do to the core, up to the dispatch by type.
The handlers that remove tracked messages or mail are the acknowledgement and the control
handler; everything else only adds, advances or reports.
-/

namespace MeshStar

open List

variable [Primitives]

namespace Effects

/-- Opening a session payload. -/
def opening : List Effect := sending ++ [.answer]

/-- Receiving data, in a session or in an envelope. -/
def receiving : List Effect := waiting ++ [.answer, .learn, .report]

/-- Handling an acknowledgement. -/
def acknowledging : List Effect := opening ++ [.settle, .lose, .confirm, .report]

/-- Handling an opened deposit. -/
def accepting : List Effect := sending ++ [.deposit, .attempt]

/-- Handling an opened control message. -/
def deciding : List Effect := sending ++ [.confirm, .discard, .settle, .close, .report]

/-- Handling a deposit or a request for mail. -/
def hosting : List Effect := opening ++ [.deposit, .attempt]

/-- Handling a control message in a session. -/
def controlling : List Effect := opening ++ [.confirm, .discard, .settle, .close, .report]

/-- Handling any received packet. -/
def handling : List Effect := replying ++ [.settle, .lose, .confirm, .deposit, .discard, .close]

end Effects

open Effects

namespace Node

variable (node : Node) (packet : Packet) (prev : Option Address) (src : Address) (rxMeta : RxMeta)
  (envelopeId : UInt32) (beacon : Beacon) (now : Nat) (frame : Bytes)

variable {law : Prop}

theorem absorbBeaconKey_seals
    (bound : ∀ identity, (node.neighbors.get src).bind Neighbor.identity = some identity →
      identity.address = src) :
    Seals law learning node (node.absorbBeaconKey src now) := by
  unfold absorbBeaconKey
  split
  · rename_i identity known
    exact learnAndSeal_seals _ (bound identity known)
  · exact .refl node

theorem hastenBeacon_quiet : Quiet law node (node.hastenBeacon beacon now) := by
  unfold hastenBeacon
  split
  · exact .outside rfl rfl rfl
  · exact .refl node

/-- Releasing held packets keeps the law, under which there are none. -/
theorem releaseHeld_quiet {leaf : Address} {now : Nat} {node : Node} {held : List HeldPacket}
    (vacant : law → held = []) : Quiet law node (held.foldl (releaseOne leaf now) node) := by
  refine Quiet.foldl held node ?_
  intro state item member _
  refine enqueuePacket_quiet _ _ _ _ _ ?_
  intro holds
  rw [vacant holds] at member
  cases member

theorem serveLeaf_moves {leaf : Address} {now : Nat} (sound : law → node.Lawful) :
    Moves law [.silent, .attempt] node (node.serveLeaf leaf now) := by
  have flushed : Moves law [.silent, .attempt] node (node.flushMailboxTo leaf now) :=
    flushMailboxTo_moves _ _ _
  have vacant : law → (node.flushMailboxTo leaf now).heldForSleeping = [] :=
    fun holds => (flushed.lawful holds (sound holds)).held
  simp only [serveLeaf]
  generalize node.flushMailboxTo leaf now = served at flushed vacant
  have taken (kept : List HeldPacket) (none : law → kept = []) :
      Quiet law served { served with heldForSleeping := kept } :=
    ⟨rfl, rfl, rfl, rfl, rfl, fun holds lawful => { lawful with held := none holds }⟩
  refine flushed.trans (((taken _ ?_).trans (releaseHeld_quiet ?_)).moves (by decide))
  · intro holds
    rw [vacant holds]
    rfl
  · intro holds
    rw [vacant holds]
    rfl

theorem chooseHost_moves : Moves law (.reroute :: waiting) node (node.chooseHost now) := by
  have attached (anchor : Address) : Moves law (.reroute :: waiting) node
      { node with attachedAnchor := some anchor } := .ofCore (.reroute _) rfl rfl (by decide)
  simp only [chooseHost]
  split
  · exact .refl
  · split
    all_goals
      split
      · exact (attached _).trans ((sendFetch_moves _).mono (by decide))
      · exact .refl

/-- A new measurement of a neighbour is quiet. -/
theorem measured_quiet {neighbors : NeighborTable} (same : neighbors.sight = node.neighbors.sight) :
    Quiet law node { node with neighbors := neighbors } :=
  .outside rfl rfl (bearings_of_sight node same)

/-- Replacing the neighbour table changes who is around and nothing else. -/
theorem withNeighbors_moves {neighbors : NeighborTable} :
    Moves law [.survey] node { node with neighbors := neighbors } :=
  .ofCore (.survey _) rfl trivial (by decide)

omit [Primitives] in
/-- An event leaves the neighbours alone. -/
theorem emit_neighbors {event : NodeEvent} : (node.emit event).neighbors = node.neighbors := by
  unfold emit
  split <;> rfl

theorem welcome_seals (observation : BeaconObservation) (now : Nat)
    (bound : observation.identityVerified = true → ∀ identity,
      (node.neighbors.get src).bind Neighbor.identity = some identity → identity.address = src) :
    Seals law learning node (node.welcome src observation now) := by
  have announced : Seals law learning node
      (if observation.isNew then node.emit (.neighborUp src) else node) ∧
      (if observation.isNew then node.emit (.neighborUp src) else node).neighbors =
        node.neighbors := by
    split
    · exact ⟨.of (emit_moves _ _) (by decide), emit_neighbors _⟩
    · exact ⟨.refl node, rfl⟩
  obtain ⟨moved, sameNeighbors⟩ := announced
  simp only [welcome]
  split
  · rename_i verified
    refine moved.trans (absorbBeaconKey_seals _ _ _ ?_)
    rw [sameNeighbors]
    exact bound verified
  · exact moved

theorem noteBeacon_moves :
    Moves law [.silent, .reroute, .survey] node (node.noteBeacon src beacon now) := by
  have zoned (zone : ZoneTable) : Moves law [.silent, .reroute, .survey] node
      { node with zone := zone } := .ofCore (.survey _) rfl trivial (by decide)
  have followed (placed : Node) : Reroutes law placed
      (((placed.linkCostTo src).1.learnRoute src src 1 (placed.linkCostTo src).2 .zone none
        now).hastenBeacon beacon now) :=
    Reroutes.trans (Trail.trans (linkCostTo_quiet _ src).reroutes
      (learnRoute_reroutes _ _)) (hastenBeacon_quiet _ _ _)
  exact (zoned _).trans ((followed _).mono (by decide))

theorem reactToBeacon_seals (sound : law → node.Lawful) :
    Seals law learning node (node.reactToBeacon src beacon now) := by
  unfold reactToBeacon
  split
  · exact .of (serveLeaf_moves _ sound) (by decide)
  · split
    · exact .of (chooseHost_moves _ _) (by decide)
    · exact .refl node

theorem handleBeacon_seals (sound : law → node.Lawful) :
    Seals law (.survey :: learning) node (node.handleBeacon packet rxMeta now) := by
  unfold handleBeacon
  simp only
  split
  · exact .refl node
  · rename_i beacon _
    have seen : Seals law (.survey :: learning) node { node with
        neighbors := (node.neighbors.observeBeaconAs now packet.header.src beacon rxMeta
          (some node.address)).1 } := .of (withNeighbors_moves _) (by decide)
    split
    · exact seen
    · have welcomed := seen.trans ((welcome_seals _ packet.header.src _ now
        (fun verified identity known =>
          NeighborTable.observeBeaconAs_identity verified known)).mono (by decide))
      have noted : Seals law (.survey :: learning) node _ := welcomed.trans
        (.of (noteBeacon_moves _ packet.header.src beacon now) (by decide))
      exact noted.trans ((reactToBeacon_seals _ _ _ _
        (fun holds => noted.moves.lawful holds (sound holds))).mono (by decide))

theorem handleBroadcastData_moves :
    Moves law [.report] node (node.handleBroadcastData packet rxMeta) := by
  simp only [handleBroadcastData]
  split
  · split
    · exact .refl
    · split
      · exact emit_moves _ _
      · exact .refl
  · exact emit_moves _ _

theorem reassemble_quiet : Quiet law node (node.reassemble packet now).1 := by
  unfold reassemble
  split
  · exact .refl node
  · exact .outside rfl rfl rfl

theorem noticeNoSession_moves {peer : Address} {now : Nat} :
    Moves law opening node (node.noticeNoSession peer now) := by
  unfold noticeNoSession
  cases found : node.handshakes.get peer with
  | none => exact .refl
  | some pending =>
    simp only
    split
    · have counted : Moves law opening node _ := Trail.single (node.answer_move peer pending
        { pending with attempts := pending.attempts + 1 } found rfl) (by decide)
      exact counted.trans ((routeBased_quiet _ _ _ _ rfl).moves (by decide))
    · exact .refl

theorem openSessionPayload_moves :
    Moves law opening node (node.openSessionPayload packet now).1 := by
  have collected : Moves law opening node (node.reassemble packet now).1 :=
    (reassemble_quiet _ _ _).moves (by decide)
  unfold openSessionPayload
  simp only
  split
  · rename_i outcome
    rw [outcome] at collected
    exact collected
  · rename_i state ciphertext fragment outcome
    rw [outcome] at collected
    cases found : state.sessions.get packet.header.src with
    | none => exact collected.trans (noticeNoSession_moves _)
    | some session =>
      refine collected.trans (Trail.single (advance_move _ _ session _ found ?_) (by decide))
      simp only [Session.decrypt]
      repeat' split
      all_goals exact ⟨rfl, rfl⟩

/-- What a handler does once its packet is opened: nothing without a payload, and at most the
given effects with one. -/
def Resumes (law : Prop) (effects : List Effect) (opened : Node × Option Bytes) (after : Node) :
    Prop :=
  (opened.2 = none → after = opened.1) ∧ Moves law effects opened.1 after

theorem Resumes.moves {node after : Node} {packet : Packet} {now : Nat} {effects more : List Effect}
    (resumes : Resumes law effects (node.openSessionPayload packet now) after)
    (few : opening ++ effects ⊆ more) : Moves law more node after :=
  ((openSessionPayload_moves _ _ _).mono (append_subset.mp few).1).trans
    (resumes.2.mono (append_subset.mp few).2)

theorem deliverOpened_moves (sender : Address) (envelopeId : UInt32) (plaintext : Bytes) :
    Moves law [.silent, .report] node
      (node.deliverOpened packet rxMeta sender envelopeId plaintext) := by
  have remembered : Moves law [.silent, .report] node
      (node.rememberEnvelope ⟨sender, envelopeId⟩) := Quiet.moves (.outside rfl rfl rfl) (by decide)
  simp only [deliverOpened]
  split
  · exact .refl
  · exact remembered.tail (emit_move _ _) (by decide)

theorem ackMailbox_moves {host : Address} {envelopeId : UInt32} {now : Nat} :
    Moves law waiting node (node.ackMailbox host envelopeId now) := by
  simp only [ackMailbox]
  split
  · exact (sendControl_moves _ _ _ _ _).mono (by decide)
  · exact startAndPush_moves _ _ _ _

theorem ackEnvelope_quiet {sender : PublicIdentity} {envelopeId : UInt32} {now : Nat} :
    Quiet law node (node.ackEnvelope packet sender envelopeId now) := by
  simp only [ackEnvelope]
  split
  · exact drawn_quiet _ _
  · exact (drawn_quiet _ _).trans (routeBased_quiet _ _ _ _ rfl)

theorem handleEnvelope_moves :
    Moves law receiving node (node.handleEnvelope packet rxMeta now) := by
  have collected : Moves law receiving node (node.reassemble packet now).1 :=
    (reassemble_quiet _ _ _).moves (by decide)
  unfold handleEnvelope
  generalize node.reassemble packet now = gathered at collected
  obtain ⟨state, body⟩ := gathered
  cases body with
  | none => exact collected
  | some content =>
    simp only
    split
    · exact collected
    · split
      · exact collected
      · rename_i envelopeId _ _ _ sender plaintext _
        have keyed := collected.trans (Trail.single
          (state.learn_move sender.address sender rfl) (by decide))
        have delivered := keyed.trans ((deliverOpened_moves _ packet rxMeta sender.address
          envelopeId plaintext).mono (show [Effect.silent, .report] ⊆ receiving by decide))
        split
        · exact (delivered.trans ((ackMailbox_moves _).mono (by decide))).trans
            ((ackEnvelope_quiet _ _).moves (by decide))
        · exact delivered.trans ((ackEnvelope_quiet _ _).moves (by decide))

theorem handleSessionData_resumes (unsealed : packet.header.has Flags.envelope = false)
    (encrypted : packet.header.has Flags.encrypted = true) :
    Resumes law (sending ++ [.report]) (node.openSessionPayload packet now)
      (node.handleUnicastData packet rxMeta now) := by
  simp only [handleUnicastData, unsealed, encrypted, Bool.false_eq_true, if_false, Bool.not_true]
  generalize node.openSessionPayload packet now = result
  obtain ⟨state, body⟩ := result
  cases body with
  | none => exact ⟨fun _ => rfl, .refl⟩
  | some content =>
    refine ⟨nofun, ?_⟩
    simp only
    have recorded : Moves law (sending ++ [.report]) state { state with
        transport := (state.transport.acceptIncoming packet.header.src packet.header.seq now).1 } :=
      Quiet.moves (.outside rfl rfl rfl) (by decide)
    have acked (before : Node) : Moves law (sending ++ [.report]) before
        (if packet.header.has Flags.ackRequest then
          before.sendAck packet.header.src packet.header.seq AckStatus.delivered now
        else before) := by
      split
      · exact (sendAck_moves _).mono (by decide)
      · exact .refl
    split
    · exact recorded.trans (acked _)
    · exact (recorded.trans (acked _)).tail (emit_move _ _) (by decide)

theorem handleUnicastData_moves :
    Moves law receiving node (node.handleUnicastData packet rxMeta now) := by
  cases sealed : packet.header.has Flags.envelope with
  | true =>
    simp only [handleUnicastData, sealed, if_true]
    exact handleEnvelope_moves _ _ _ _
  | false =>
    cases encrypted : packet.header.has Flags.encrypted with
    | true => exact (handleSessionData_resumes _ _ _ _ sealed encrypted).moves (by decide)
    | false =>
      simp only [handleUnicastData, sealed, encrypted, Bool.false_eq_true, if_false, Bool.not_false,
        if_true]
      exact .refl

theorem openEnvelopeAck_quiet : Quiet law node (node.openEnvelopeAck packet now).1 := by
  have collected : Quiet law node (node.reassemble packet now).1 := reassemble_quiet _ _ _
  unfold openEnvelopeAck
  generalize node.reassemble packet now = gathered at collected
  obtain ⟨state, body⟩ := gathered
  cases body with
  | none => exact collected
  | some content =>
    simp only
    split
    · exact collected
    · split
      · exact collected
      · exact collected

theorem onEnvelopeAck_moves {sender : Address} {envelopeId : UInt32} {now : Nat} :
    Moves law [.lose, .report] node (node.onEnvelopeAck sender envelopeId now) := by
  have removed : Moves law [.lose, .report] node _ := Trail.single
    (node.lose_move (node.transport.onEnvelopeDelivered envelopeId).1) (by decide)
  simp only [onEnvelopeAck]
  split
  · split
    · exact removed.tail (emit_move _ _) (by decide)
    · exact removed
  · exact removed

theorem handleEnvelopeAck_moves :
    Moves law acknowledging node (node.handleEnvelopeAck packet now) := by
  have collected : Moves law acknowledging node (node.openEnvelopeAck packet now).1 :=
    (openEnvelopeAck_quiet _ _ _).moves (by decide)
  unfold handleEnvelopeAck
  generalize node.openEnvelopeAck packet now = opened at collected
  obtain ⟨state, content⟩ := opened
  cases content with
  | none => exact collected
  | some named => exact collected.trans ((onEnvelopeAck_moves _).mono (by decide))

theorem confirmRoute_quiet {dst : Address} {now : Nat} :
    Quiet law node (node.confirmRoute dst now) := by
  unfold confirmRoute
  split
  · refine .outside rfl rfl ?_
    exact (bearings_of_sight _ (NeighborTable.recordSuccess_sight _ _)).trans
      (bearings_of_hops (RouteCache.markSuccess_hops _ _ _))
  · exact .refl node

/-- Marking the first message a test selects as kept by a host. -/
theorem confirm_move {transport : Transport} (test : Outstanding → Bool)
    (marked : transport.outstanding = Transport.updateFirst test node.transport.outstanding) :
    Move law .confirm node { node with transport := transport } := by
  refine Move.ofCore ?_ rfl rfl
  have core := CoreStep.confirm node.core test
  rw [show node.core.outstanding = node.transport.outstanding from rfl, ← marked] at core
  exact core

/-- Which effect an acknowledgement has on the table, and what is reported. -/
theorem onAck_moves (ack : Ack) (now : Nat) :
    Moves law [.silent, .settle, .confirm, .report] node (node.onAck src ack now) := by
  unfold onAck
  cases found : node.transport.outstanding.find? (Transport.acknowledges src ack) with
  | none =>
    have ignored : node.transport.onAck src ack = (node.transport, none) := by
      simp only [Transport.onAck, found]
    simp only [ignored, reportAck, found]
    split
    · exact .refl
    · exact .refl
  | some message =>
    by_cases stored : ack.status = AckStatus.stored
    · have marked : (node.transport.onAck src ack).1.outstanding = Transport.updateFirst
          (Transport.acknowledges src ack) node.transport.outstanding := by
        simp only [Transport.onAck, found, if_pos stored]
      have open_ : (node.transport.onAck src ack).2 = none := by
        simp only [Transport.onAck, found, if_pos stored]
      have confirmed : Moves law [.silent, .settle, .confirm, .report] node _ :=
        .single (node.confirm_move _ marked) (by decide)
      simp only [open_, reportAck, if_pos stored]
      split
      · exact confirmed.tail (emit_move _ _) (by decide)
      · exact confirmed
    · have erased : (node.transport.onAck src ack).1.outstanding =
          node.transport.outstanding.eraseP (Transport.acknowledges src ack) := by
        simp only [Transport.onAck, found, if_neg stored]
      have completed : (node.transport.onAck src ack).2 = some message := by
        simp only [Transport.onAck, found, if_neg stored]
      simp only [completed, reportAck]
      split
      all_goals
        refine .single (node.settle_move [_] (confirmRoute_quiet _) ?_ ?_) (by decide)
        · rw [erased]
          exact eraseP_sublist
        · intro other member
          rw [erased]
          rcases Selection.mem_eraseP_or_found member with kept | removed
          · exact .inl kept
          · rw [show other = message from Option.some.inj (removed.symm.trans found)]
            exact .inr ⟨_, mem_cons_self, beq_self_eq_true message.handle⟩

theorem openAck_moves : Moves law opening node (node.openAck packet now).1 := by
  have opened : Moves law opening node (node.openSessionPayload packet now).1 :=
    openSessionPayload_moves _ _ _
  unfold openAck
  generalize node.openSessionPayload packet now = result at opened
  obtain ⟨state, body⟩ := result
  cases body with
  | none => exact opened
  | some content =>
    simp only
    split <;> exact opened

theorem handleAck_resumes (unsealed : packet.header.has Flags.envelope = false) :
    Resumes law [.silent, .settle, .confirm, .report] (node.openSessionPayload packet now)
      (node.handleAck packet now) := by
  simp only [handleAck, openAck, unsealed, Bool.false_eq_true, if_false]
  generalize node.openSessionPayload packet now = result
  obtain ⟨state, body⟩ := result
  cases body with
  | none => exact ⟨fun _ => rfl, .refl⟩
  | some content =>
    refine ⟨nofun, ?_⟩
    simp only
    cases Ack.decode content with
    | error _ => exact .refl
    | ok ack => exact onAck_moves _ _ _ _

theorem handleAck_moves : Moves law acknowledging node (node.handleAck packet now) := by
  cases sealed : packet.header.has Flags.envelope with
  | true =>
    simp only [handleAck, sealed, if_true]
    exact handleEnvelopeAck_moves _ _ _
  | false => exact (handleAck_resumes _ _ _ sealed).moves (by decide)

/-- A deposit is kept, or the node stays as it is. -/
theorem storeDeposit_moves (request : StoreRequest) (now : Nat) :
    Moves law [.deposit] node (node.storeDeposit src request now).1 := by
  unfold storeDeposit
  cases present : node.mailbox with
  | none => exact .refl
  | some mailbox =>
    simp only
    cases outcome : mailbox.store now src request with
    | mk stored result =>
      cases result with
      | ok _ =>
        exact .ofCore (.deposit node.core mailbox stored now _ _ present
          outcome) rfl rfl (by decide)
      | error reason =>
        rw [Mailbox.store_refused outcome, withMailbox, ← present]
        exact .refl

theorem handleDeposit_moves {request : StoreRequest} {now : Nat} :
    Moves law accepting node (node.handleDeposit src request now) := by
  have kept : Moves law accepting node (node.storeDeposit src request now).1 :=
    (node.storeDeposit_moves src request now).mono (by decide)
  simp only [handleDeposit]
  generalize node.depositAnswer src request now = answer
  generalize node.storeDeposit src request now = stored at kept
  have answered : Moves law accepting node (stored.1.sendControl src answer.1 answer.2 now) :=
    kept.trans ((sendControl_moves _ _ _ _ _).mono (by decide))
  split
  · split
    · exact answered.trans ((flushMailboxTo_moves _ _ _).mono (by decide))
    · exact answered
  · exact answered

theorem handleStore_resumes : Resumes law accepting (node.openSessionPayload packet now)
      (node.handleStore packet now) := by
  unfold handleStore
  generalize node.openSessionPayload packet now = result
  obtain ⟨state, body⟩ := result
  cases body with
  | none => exact ⟨fun _ => rfl, .refl⟩
  | some content =>
    refine ⟨nofun, ?_⟩
    simp only
    cases StoreRequest.decode content with
    | error _ => exact .refl
    | ok request => exact handleDeposit_moves _ _

theorem handleStore_moves : Moves law hosting node (node.handleStore packet now) :=
  (handleStore_resumes _ _ _).moves (by decide)

theorem handleFetch_resumes : Resumes law [.silent, .attempt] (node.openSessionPayload packet now)
      (node.handleFetch packet now) := by
  simp only [handleFetch]
  generalize node.openSessionPayload packet now = result
  obtain ⟨state, body⟩ := result
  cases body with
  | none => exact ⟨fun _ => rfl, .refl⟩
  | some content =>
    refine ⟨nofun, ?_⟩
    simp only
    split
    · exact .refl
    · refine .trans (Quiet.moves (measured_quiet _ ?_) (by decide)) (flushMailboxTo_moves _ _ _)
      exact NeighborTable.modify_sight _ _ (fun _ => ⟨rfl, rfl⟩)

theorem handleFetch_moves : Moves law hosting node (node.handleFetch packet now) :=
  (handleFetch_resumes _ _ _).moves (by decide)

/-- Replacing the pending traces is quiet. -/
theorem withTraces_quiet (traces : List (Address × Nat)) :
    Quiet law node { node with pendingTraces := traces } := .outside rfl rfl rfl

theorem handleTrace_moves : Moves law [.silent, .report] node (node.handleTrace packet now) := by
  unfold handleTrace
  simp only
  split
  · exact .refl
  · split
    · exact (routeBased_quiet _ _ _ _ rfl).moves (by decide)
    · split
      · split
        · exact .trans ((withTraces_quiet _ _).moves (by decide))
            ((emit_moves _ _).mono (by decide))
        · exact .refl
      · exact .refl

/-- Deleting one entry of the mailbox. -/
theorem discard_move {mailbox : Mailbox} (dst : Address) (envelopeId : UInt32)
    (present : node.mailbox = some mailbox) :
    Move law .discard node (node.withMailbox (mailbox.delivered dst envelopeId).1) :=
  Move.ofCore (.discard node.core mailbox dst envelopeId present) rfl rfl

theorem onStoreAccepted_moves :
    Moves law [.confirm, .discard, .report] node (node.onStoreAccepted src envelopeId) := by
  simp only [onStoreAccepted]
  split
  · have marked : Moves law [.confirm, .discard, .report] node { node with
        transport := (node.transport.onStoreAccepted envelopeId).1 } :=
      .single (node.confirm_move (Transport.inEnvelope envelopeId) rfl) (by decide)
    split
    · exact marked.tail (emit_move _ _) (by decide)
    · exact marked
  · cases present : node.mailbox with
    | none => exact .refl
    | some mailbox =>
      simp only
      split
      · exact .single (node.discard_move _ _ present) (by decide)
      · exact .refl

theorem onStoreRejected_moves : Moves law [.settle] node (node.onStoreRejected envelopeId) :=
  node.settleEnvelope_moves envelopeId (fun message => .failed message.handle message.dst .rejected)
    (fun message => beq_self_eq_true message.handle)

theorem onMailboxAck_moves :
    Moves law [.discard, .report] node (node.onMailboxAck src envelopeId) := by
  unfold onMailboxAck
  cases present : node.mailbox with
  | none => exact .refl
  | some mailbox =>
    have deleted : Moves law [.discard, .report] node _ :=
      .single (node.discard_move src envelopeId present) (by decide)
    simp only
    split
    · exact deleted.tail (emit_move _ _) (by decide)
    · exact deleted

theorem onControl_moves {sub : UInt8} {rest : Bytes} {now : Nat} :
    Moves law deciding node (node.onControl src sub rest now) := by
  unfold onControl
  split
  · split
    · exact (onStoreAccepted_moves _ _ _).mono (by decide)
    · exact .refl
  · split
    · split
      · exact (onStoreRejected_moves _ _).mono (by decide)
      · exact .refl
    · split
      · exact (dropSession_moves _ _).mono (by decide)
      · split
        · exact (sendControl_moves _ _ _ _ _).mono (by decide)
        · split
          · exact .refl
          · split
            · split
              · exact (onMailboxAck_moves _ _ _).mono (by decide)
              · exact .refl
            · exact .refl

theorem handleControl_resumes : Resumes law deciding (node.openSessionPayload packet now)
      (node.handleControl packet now) := by
  unfold handleControl
  generalize node.openSessionPayload packet now = result
  obtain ⟨state, body⟩ := result
  cases body with
  | none => exact ⟨fun _ => rfl, .refl⟩
  | some content =>
    refine ⟨nofun, ?_⟩
    cases content with
    | nil => exact .refl
    | cons sub rest => exact onControl_moves _ _

theorem handleControl_moves : Moves law controlling node (node.handleControl packet now) :=
  (handleControl_resumes _ _ _).moves (by decide)

theorem handleForMe_moves (foreign : packet.header.src ≠ node.address) (sound : law → node.Lawful) :
    Moves law handling node (node.handleForMe packet prev rxMeta now) := by
  have active : Moves law handling node { node with power := node.power.onActivity now } :=
    Quiet.moves (.outside rfl rfl (node.bearings_of_activity now)) (by decide)
  unfold handleForMe
  simp only
  split
  · exact .refl
  · exact .refl
  · exact (handleRouteReply_seals _ _ _ _ foreign sound).moves.mono (by decide)
  · exact (handleRouteError_moves _ _ _).mono (by decide)
  · refine active.trans ((handleHandshake_seals _ _ _ ?_).moves.mono (by decide))
    exact foreign
  · exact active.trans ((handleUnicastData_moves _ _ _ _).mono (by decide))
  · exact active.trans ((handleAck_moves _ _ _).mono (by decide))
  · exact active.trans ((handleStore_moves _ _ _).mono (by decide))
  · exact active.trans ((handleFetch_moves _ _ _).mono (by decide))
  · split
    · exact active.trans ((handleTrace_moves _ _ _).mono (by decide))
    · exact active.trans ((handleControl_moves _ _ _).mono (by decide))

theorem handleFlooded_moves (heard : node.Heard packet.header) :
    Moves law [.silent, .reroute, .answer, .abandon, .report] node
      (node.handleFlooded packet prev rxMeta now) := by
  unfold handleFlooded
  split
  · exact (handleRouteRequest_moves _ _ _ _ _ heard).mono (by decide)
  · have reported : Moves law [.silent, .reroute, .answer, .abandon, .report] node _ :=
      (node.handleBroadcastData_moves packet rxMeta).mono (by decide)
    refine reported.trans (Quiet.moves (maybeRelayFlood_quiet _ _ _ _ _ ?_) (by decide))
    unfold Heard
    rw [reported.received]
    exact heard
  · exact .refl

/-- Whether the packet of another node is kept for later instead of being passed on. A
route reply is forwarded after the node has learned from it. -/
def keepsTransit (node : Node) (packet : Packet) (prev : Option Address) (now : Nat) : Bool :=
  match packet.header.ptype with
  | .beacon => false
  | .routeRequest => false
  | .routeReply =>
    match RouteReply.decode packet.payload with
    | .error _ => false
    | .ok reply =>
      let absorbed := node.absorbRouteReply packet reply prev now
      absorbed.1.defers { packet with
        payload := { reply with cost := UInt16.ofNat absorbed.2 }.encode } now
  | _ => node.defers packet now

theorem handleTransit_seals (heard : node.Heard packet.header)
    (prompt : law → node.keepsTransit packet prev now = false) :
    Seals law (.deposit :: learning) node (node.handleTransit packet prev rxMeta now) := by
  unfold handleTransit
  unfold keepsTransit at prompt
  cases kind : packet.header.ptype with
  | beacon => exact .refl node
  | routeRequest => exact .refl node
  | routeReply =>
    refine forwardRouteReply_seals _ _ _ _ _ heard ?_
    intro holds reply decoded
    have kept := prompt holds
    rw [kind, decoded] at kept
    exact kept
  | _ =>
    rw [kind] at prompt
    exact .of (forwardUnicast_moves _ _ _ _ _ heard prompt) (by decide)

theorem overhearReply_quiet : Quiet law node (node.overhearReply packet) := by
  unfold overhearReply
  split
  · split
    · rename_i reply _
      refine ⟨rfl, rfl, rfl, rfl, rfl, ?_⟩
      intro _ lawful
      refine { lawful with replies := ?_ }
      intro pending member
      exact lawful.replies pending (mem_filter.mp member).1
    · exact .refl node
  · exact .refl node

/-- Whether a packet is on its way to another node. -/
def transits (node : Node) (packet : Packet) : Bool :=
  !isFlooded packet && packet.header.dst != node.address && !packet.header.dst.isBroadcast

theorem dispatch_moves (foreign : packet.header.src ≠ node.address)
    (heard : node.Heard packet.header)
    (sound : law → node.Lawful)
    (prompt : law → node.transits packet = true →
      (node.overhearReply packet).keepsTransit packet prev now = false) :
    Moves law handling node (node.dispatch packet prev rxMeta now) := by
  have quiet : Quiet law node (node.overhearReply packet) := overhearReply_quiet _ _
  have overheard : Moves law handling node (node.overhearReply packet) := quiet.moves (by decide)
  unfold dispatch
  simp only
  split
  · exact overheard.trans ((handleFlooded_moves _ _ _ _ _ (Moves.heard overheard heard)).mono
      (by decide))
  · rename_i unflooded
    split
    · refine overheard.trans (handleForMe_moves _ _ _ _ _ ?_ ?_)
      · rw [quiet.address]
        exact foreign
      · exact fun holds => quiet.lawful holds (sound holds)
    · rename_i elsewhere
      split
      · exact overheard
      · rename_i unicast
        refine overheard.trans ((handleTransit_seals _ _ _ _ _ (Moves.heard overheard heard)
          ?_).moves.mono
          (by decide))
        intro holds
        refine prompt holds ?_
        simp only [transits, Bool.and_eq_true, Bool.not_eq_true', bne_iff_ne]
        exact ⟨⟨Bool.eq_false_of_not_eq_true unflooded, elsewhere⟩,
          Bool.eq_false_of_not_eq_true unicast⟩

theorem confirmFinalHop_quiet : Quiet law node (node.confirmFinalHop packet prev now) := by
  unfold confirmFinalHop
  split
  · split
    · exact sendLinkAck_quiet _
    · exact .refl node
  · exact .refl node

theorem learnReverse_reroutes : Reroutes law node (node.learnReverse packet prev now) := by
  unfold learnReverse
  split
  · rename_i transmitter
    simp only
    split
    · exact Trail.trans (linkCostTo_quiet _ transmitter).reroutes (learnRoute_reroutes _ _)
    · exact .refl
  · exact .refl

theorem prepare_reroutes : Reroutes law node (node.prepare packet prev now) := by
  have learned : Reroutes law node _ := Trail.trans
    (node.confirmFinalHop_quiet packet prev now).reroutes (learnReverse_reroutes _ packet prev now)
  simp only [prepare]
  split
  · exact learned.trans (.outside rfl rfl rfl)
  · exact learned

theorem onDuplicate_quiet : Quiet law node (node.onDuplicate packet prev now) := by
  have counted : Quiet law node { node with sched := node.sched.heard packet.header.key } :=
    countCopy_quiet _
  simp only [onDuplicate]
  split
  · split
    · exact counted.trans (sendLinkAck_quiet _)
    · exact counted
  · exact counted

theorem handleLinkAck_quiet : Quiet law node (node.handleLinkAck packet prev) := by
  unfold handleLinkAck
  split
  · exact .refl node
  · exact Quiet.foldl _ _ (fun state key _ _ => hopConfirmed_quiet state key)

theorem implicitAck_quiet : Quiet law node (node.implicitAck packet prev) := by
  unfold implicitAck
  split
  · split
    · exact hopConfirmed_quiet _ _
    · exact .refl node
  · exact .refl node

theorem passesOnce_quiet : Quiet law node (node.passesOnce packet now).1 := by
  unfold passesOnce
  split
  · exact .refl node
  · exact .outside rfl rfl rfl

theorem hear_quiet : Quiet law node (node.hear prev rxMeta now) := by
  unfold hear
  split
  · exact measured_quiet node (node.neighbors.observePacket_sight now rxMeta)
  · exact .refl node

/-- The node after it noted who transmitted a packet. -/
def attend (node : Node) (packet : Packet) (rxMeta : RxMeta) (now : Nat) : Node :=
  let heard := node.hear (node.transmitterOf packet) rxMeta now
  if packet.header.dst = heard.address then { heard with power := heard.power.onActivity now }
  else heard

/-- The node in which a packet is dispatched, when it gets that far. -/
def arrival (node : Node) (packet : Packet) (rxMeta : RxMeta) (now : Nat) : Option Node :=
  let active := node.attend packet rxMeta now
  if packet.header.ptype = .beacon ∨ active.isLinkAck packet ∨ active.isNoSessionNotice packet then
    none
  else
    let passed := (active.implicitAck packet (node.transmitterOf packet)).passesOnce packet now
    if passed.2 then some (passed.1.prepare packet (node.transmitterOf packet) now) else none

/-- What becomes of a packet other than a beacon once its transmitter was noted. -/
theorem onPacket_attend (kind : packet.header.ptype ≠ .beacon) : node.onPacket packet rxMeta now =
      let active := node.attend packet rxMeta now
      let prev := node.transmitterOf packet
      if active.isLinkAck packet then active.handleLinkAck packet prev
      else if active.isNoSessionNotice packet then active.onNoSessionNotice packet.header.src now
      else
        let passed := (active.implicitAck packet prev).passesOnce packet now
        if passed.2 then (passed.1.prepare packet prev now).dispatch packet prev rxMeta now
        else passed.1.onDuplicate packet prev now := if_neg kind

theorem attend_quiet : Quiet law node (node.attend packet rxMeta now) := by
  have heard : Quiet law node _ := node.hear_quiet (node.transmitterOf packet) rxMeta now
  simp only [attend]
  split
  · exact heard.trans (.outside rfl rfl (bearings_of_activity _ now))
  · exact heard

/-- What becomes of a packet: a beacon is handled, a notice restarts a session, a packet
that gets to the dispatch is dispatched, and anything else is quiet. -/
inductive Reception (node : Node) (packet : Packet) (rxMeta : RxMeta) (now : Nat) :
  Node → Prop where
  | quiet (after : Node) (quiet : ∀ law, Quiet law node after) :
      Reception node packet rxMeta now after
  | beacon (heard : Node) (quiet : ∀ law, Quiet law node heard)
      (kind : packet.header.ptype = .beacon) :
      Reception node packet rxMeta now (heard.handleBeacon packet rxMeta now)
  | notice (active : Node) (quiet : ∀ law, Quiet law node active)
      (noticed : node.isNoSessionNotice packet = true) :
      Reception node packet rxMeta now (active.onNoSessionNotice packet.header.src now)
  | dispatch (ready : Node) (quiet : ∀ law, Reroutes law node ready)
      (arrived : node.arrival packet rxMeta now = some ready) :
      Reception node packet rxMeta now
        (ready.dispatch packet (node.transmitterOf packet) rxMeta now)

theorem onPacket_reception :
    Reception node packet rxMeta now (node.onPacket packet rxMeta now) := by
  have attended (law : Prop) : Quiet law node (node.attend packet rxMeta now) :=
    attend_quiet _ _ _ _
  have sameAddress : (node.attend packet rxMeta now).address = node.address :=
    (attended True).address
  by_cases kind : packet.header.ptype = .beacon
  · unfold onPacket
    simp only [if_pos kind]
    exact .beacon _ (fun _ => hear_quiet _ _ _ _) kind
  · simp only [onPacket_attend _ _ _ _ kind]
    split
    · exact .quiet _ (fun law => (attended law).trans (handleLinkAck_quiet _ _ _))
    · rename_i unlinked
      split
      · rename_i noticed
        refine .notice _ attended ?_
        rw [isNoSessionNotice, sameAddress] at noticed
        exact noticed
      · rename_i unnoticed
        have passed (law : Prop) : Quiet law node (((node.attend packet rxMeta now).implicitAck
            packet (node.transmitterOf packet)).passesOnce packet now).1 :=
          ((attended law).trans (implicitAck_quiet _ _ _)).trans (passesOnce_quiet _ _ _)
        split
        · rename_i first
          refine .dispatch _ (fun law => Trail.trans (passed law).reroutes
            (prepare_reroutes _ _ _ _)) ?_
          simp only [arrival, kind, unlinked, unnoticed, first, or_self, if_true, if_false,
            Bool.false_eq_true]
        · exact .quiet _ (fun law => (passed law).trans (onDuplicate_quiet _ _ _ _))

omit [Primitives] in
/-- More received packets allow no less to be sent. -/
theorem maySend_mono {received more : List Packet} {me : Address} {header : Header}
    (included : received ⊆ more) (may : MaySend received me header) : MaySend more me header := by
  rcases may with own | ⟨⟨packet, member, onward⟩, relayed⟩
  · exact .inl own
  · exact .inr ⟨⟨packet, included member, onward⟩, relayed⟩

/-- Noting a foreign packet within the hop limit keeps the forwarding law. -/
theorem recordReceived_lawful (foreign : packet.header.src ≠ node.address)
    (short : packet.header.hops.toNat + packet.header.ttl.toNat ≤ 255) (lawful : node.Lawful) :
    (node.recordReceived packet).Lawful := by
  have included : node.history.received ⊆ (node.recordReceived packet).history.received :=
    subset_append_left _ _
  refine { lawful with
    received := ?_
    queued := fun sent member => maySend_mono included (lawful.queued sent member)
    hops := fun hop member => maySend_mono included (lawful.hops hop member)
    scheduled := ?_ }
  · intro other member
    rcases mem_append.mp member with earlier | new
    · exact lawful.received other earlier
    · rw [mem_singleton.mp new]
      exact ⟨foreign, short⟩
  · intro relay member
    obtain ⟨source, sourceMember, onward⟩ := lawful.scheduled relay member
    exact ⟨source, included sourceMember, onward⟩

/-- The node that handles a frame, before it looks at the packet. -/
def tuned (node : Node) (frame : Bytes) (rxMeta : RxMeta) : Node :=
  hearFrame { node with now := max node.now rxMeta.timestampMs } frame

/-- How a frame is received: a sleeping node ignores it, a frame that is rejected or our own
is accounted for, a foreign packet is noted and handled. -/
theorem onRadioRx_eq (rxMeta : RxMeta) : node.onRadioRx frame rxMeta =
      if !node.power.awake then { node with now := max node.now rxMeta.timestampMs }
      else match Packet.decode frame node.cfg.networkKey node.cfg.maxTtl with
      | .error _ => node.tuned frame rxMeta
      | .ok packet =>
        if packet.header.src = node.address then node.tuned frame rxMeta
        else ((node.tuned frame rxMeta).recordReceived packet).onPacket packet rxMeta
          (node.clock rxMeta) := rfl

/-- The foreign packet a node takes from a frame. -/
def incoming (node : Node) (frame : Bytes) : Option Packet :=
  if node.power.awake then
    match Packet.decode frame node.cfg.networkKey node.cfg.maxTtl with
    | .error _ => none
    | .ok packet => if packet.header.src = node.address then none else some packet
  else none

/-- A frame without a foreign packet only sets the clock; a foreign packet is noted and
received. -/
theorem onRadioRx_cases (rxMeta : RxMeta) :
    (node.incoming frame = none ∧ ∀ law, Reroutes law node (node.onRadioRx frame rxMeta)) ∨
      ∃ packet, node.incoming frame = some packet ∧ packet.header.src ≠ node.address ∧
        packet.header.hops.toNat + packet.header.ttl.toNat ≤ 255 ∧
        node.onRadioRx frame rxMeta = ((node.tuned frame rxMeta).recordReceived packet).onPacket
          packet rxMeta (node.clock rxMeta) := by
  have timed (law : Prop) (time : Nat) : Reroutes law node { node with now := time } :=
    .ofRoutes rfl rfl rfl
  have accounted (law : Prop) : Reroutes law node (node.tuned frame rxMeta) := .ofRoutes rfl rfl rfl
  rw [onRadioRx_eq, incoming]
  cases node.power.awake with
  | false => exact .inl ⟨rfl, fun law => timed law _⟩
  | true =>
    cases decoded : Packet.decode frame node.cfg.networkKey node.cfg.maxTtl with
    | error _ => exact .inl ⟨rfl, accounted⟩
    | ok packet =>
      by_cases own : packet.header.src = node.address
      · left
        simp only [if_pos own]
        exact ⟨rfl, accounted⟩
      · right
        simp only [if_neg own]
        obtain ⟨length, parsed⟩ := Packet.decode_parse decoded
        exact ⟨packet, rfl, own, le_trans (Header.parse_hops parsed) (by decide), rfl⟩

/-- The node that receives a packet: time and airtime are accounted for, the packet noted. -/
def noted (node : Node) (frame : Bytes) (rxMeta : RxMeta) (packet : Packet) : Node :=
  (node.tuned frame rxMeta).recordReceived packet

/-- Whether a received frame carries a foreign packet that is kept for later: held for a
sleeping neighbour or parked until a route is found. -/
def keepsForLater (node : Node) (frame : Bytes) (rxMeta : RxMeta) : Bool :=
  let now := max node.now rxMeta.timestampMs
  match node.incoming frame with
  | none => false
  | some packet =>
    let receiver := node.noted frame rxMeta packet
    match receiver.arrival packet rxMeta now with
    | none => false
    | some ready => ready.transits packet &&
        (ready.overhearReply packet).keepsTransit packet (receiver.transmitterOf packet) now

/-- Handling a packet that was noted. -/
theorem onPacket_moves
    (foreign : packet.header.src ≠ node.address) (heard : node.Heard packet.header)
    (sound : law → node.Lawful)
    (prompt : law → ∀ ready, node.arrival packet rxMeta now = some ready →
      ready.transits packet = true →
      (ready.overhearReply packet).keepsTransit packet (node.transmitterOf packet) now = false) :
    Moves law (.survey :: handling) node (node.onPacket packet rxMeta now) := by
  have reception := node.onPacket_reception packet rxMeta now
  generalize node.onPacket packet rxMeta now = after at reception ⊢
  cases reception with
  | quiet _ quiet => exact (quiet law).moves (by decide)
  | beacon heard quiet kind =>
    refine ((quiet law).moves (by decide)).trans ((handleBeacon_seals _ _ _ _ ?_).moves.mono
      (by decide))
    exact fun holds => (quiet law).lawful holds (sound holds)
  | notice active quiet noticed =>
    exact ((quiet law).moves (by decide)).trans ((onNoSessionNotice_moves _ _ _).mono (by decide))
  | dispatch ready quiet arrived =>
    refine ((quiet law).moves (by decide)).trans ((dispatch_moves _ _ _ _ _ ?_ ?_ ?_ ?_).mono
      (by decide))
    · rw [Moves.address (quiet law)]
      exact foreign
    · exact Moves.heard (quiet law) heard
    · exact fun holds => Moves.lawful (quiet law) holds (sound holds)
    · exact fun holds passing => prompt holds ready arrived passing

/-- A received frame is noted, which leaves the core alone and keeps the forwarding law,
and then handled. -/
theorem onRadioRx_moves (rxMeta : RxMeta)
    (sound : law → node.Lawful) (prompt : law → node.keepsForLater frame rxMeta = false) :
    ∃ receiver : Node, receiver.core = node.core ∧ receiver.cfg = node.cfg ∧
      receiver.id = node.id ∧ (node.Lawful → receiver.Lawful) ∧
      Moves law (.survey :: handling) receiver (node.onRadioRx frame rxMeta) := by
  rcases node.onRadioRx_cases frame rxMeta with ⟨_, quiet⟩ |
    ⟨packet, incoming, foreign, short, handled⟩
  · exact ⟨node, rfl, rfl, rfl, fun lawful => lawful, (quiet law).moves (by decide)⟩
  · have lawful (kept : node.Lawful) : (node.noted frame rxMeta packet).Lawful :=
      recordReceived_lawful _ _ foreign short kept
    refine ⟨node.noted frame rxMeta packet, rfl, rfl, rfl, lawful, ?_⟩
    rw [handled]
    refine onPacket_moves _ _ _ _ foreign ⟨packet, mem_append_right _ mem_cons_self, rfl⟩
      (fun holds => lawful (sound holds)) ?_
    intro holds ready arrived passing
    have kept := prompt holds
    unfold keepsForLater at kept
    simp only [incoming] at kept
    change (match (node.noted frame rxMeta packet).arrival packet rxMeta (node.clock rxMeta) with
      | none => false
      | some ready => ready.transits packet && (ready.overhearReply packet).keepsTransit packet
        ((node.noted frame rxMeta packet).transmitterOf packet)
        (node.clock rxMeta)) = false at kept
    change (node.noted frame rxMeta packet).arrival packet rxMeta _ = some ready at arrived
    rw [arrived] at kept
    simp only [passing, Bool.true_and] at kept
    exact kept

end Node

end MeshStar

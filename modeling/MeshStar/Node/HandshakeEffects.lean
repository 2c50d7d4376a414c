import MeshStar.Node.Sealing

/-!
# Effects of session establishment

A session is installed in one place only, together with the key of the peer and the
removal of its handshake, and only after the identity the handshake recorded was found to
hash to the peer's address. Every other change of the handshake table is a replacement
that keeps the sends waiting there, or a removal.
-/

namespace MeshStar

variable [Primitives]

namespace Effects

/-- Installing a session and sending what waited for it. -/
def installing : List Effect := sealing ++ [.install, .reroute]

/-- Establishing a session and sending what waited for it. -/
def establishing : List Effect := installing ++ [.answer, .abandon]

/-- Starting over with a peer that lost its session. -/
def restarting : List Effect := messaging ++ [.close, .lose]

end Effects

open Effects

namespace Node

variable (node : Node) (peer : Address) (pending : PendingHandshake) (message : Bytes) (now : Nat)

variable {law : Prop}

theorem drainOne_seals (node : Node) (send : QueuedSend) :
    Seals law sealing node (drainOne peer now node send) := by
  unfold drainOne
  split
  · exact .of (sendSequenced_moves _ _ _ _ _) (by decide)
  · split
    · exact .of (sendSequenced_moves _ _ _ _ _) (by decide)
    · split
      · split
        · exact .of (sendControl_moves _ _ _ _ _) (by decide)
        · exact .refl node
      · split
        · exact queueEnvelope_seals _ _ _ _
        · exact .of (sendDataInSession_moves _ _ _) (by decide)

theorem drainQueued_seals {queued : List QueuedSend} {now : Nat} :
    Seals law sealing node (node.drainQueued peer queued now) :=
  Trail.loop (Seals law _) (fun _ => .refl _) .trans queued node
    (fun state send _ _ => drainOne_seals peer now state send)

/-- Replacing the handshake with a peer by one with the same sends behind it. -/
theorem answer_move (replaced : PendingHandshake)
    (present : node.handshakes.get peer = some pending)
    (sameQueue : replaced.queued = pending.queued) :
    Move law .answer node { node with handshakes := node.handshakes.insert peer replaced } := by
  refine Move.ofCore (.answer node.core peer replaced ?_) rfl rfl
  simp only [Core.queueOf, Node.core, present, sameQueue]

/-- The restart of a handshake as responder keeps the queue, or drops the handshake. -/
theorem restartHandshake_moves
    {queued : List QueuedSend} {now : Nat} (sameQueue : queued = node.core.queueOf peer) :
    Moves law [.silent, .answer, .abandon] node
      (node.restartHandshake peer message queued now).1 := by
  have cleared (rng : Rng) : Moves law [.silent, .answer, .abandon] node { node with
      rng := rng
      handshakes := node.handshakes.remove peer } :=
    .ofCore (.abandon node.core peer) rfl rfl (by decide)
  have answered (rng : Rng) (pending : PendingHandshake) (waiting : pending.queued = queued) :
      Move law .answer node { node with
        rng := rng
        handshakes := (node.handshakes.remove peer).insert peer pending } := by
    refine Move.ofCore ?_ rfl rfl
    have core := CoreStep.answer node.core peer pending (waiting.trans sameQueue)
    rw [← OrderedMap.insert_remove] at core
    exact core
  unfold restartHandshake
  simp only
  split
  · exact cleared _
  · split
    · exact cleared _
    · exact .single (answered _ _ rfl) (by decide)

/-- Whether a first message makes the node start over as responder. -/
def restarts (node : Node) (peer : Address) (message : Bytes) : Bool :=
  !decide (message.length < 32) &&
    match node.handshakes.get peer with
    | none => true
    | some pending =>
      if pending.hs.role = .initiator then !decide (node.address.value < peer.value)
      else pending.re != FixedBytes.ofSlice 32 message

/-- A first message makes the node start over with the sends it had queued for the peer, or
changes nothing. -/
theorem responderStart_eq : node.responderStart peer message now =
    if node.restarts peer message = true then
      node.restartHandshake peer message (node.core.queueOf peer) now
    else (node, (node.responderStart peer message now).2) := by
  unfold responderStart restarts Core.queueOf core
  by_cases short : message.length < 32
  · simp [short]
  · simp only [short, decide_false, Bool.not_false, Bool.true_and, if_false]
    cases node.handshakes.get peer with
    | none => rfl
    | some pending =>
      by_cases initiator : pending.hs.role = .initiator
      · by_cases lower : node.address.value < peer.value <;> simp [initiator, lower]
      · by_cases repeated : pending.re = FixedBytes.ofSlice 32 message <;>
          simp [initiator, repeated]

theorem responderStart_moves :
    Moves law [.silent, .answer, .abandon] node (node.responderStart peer message now).1 := by
  rw [responderStart_eq]
  split
  · exact restartHandshake_moves _ _ _ rfl
  · exact .refl

/-- A session's third message is kept for a resend. -/
theorem rememberM3_moves (m3 : Bytes) :
    Moves law [.advance] node { node with sessions := node.sessions.modify peer (fun session =>
      { session with m3 := some m3 }) } := by
  cases found : node.sessions.get peer with
  | none =>
    rw [OrderedMap.modify_absent _ found]
    exact .refl
  | some session =>
    rw [OrderedMap.modify_eq_insert _ found]
    exact .single (node.advance_move peer session _ found ⟨rfl, rfl⟩) (by decide)

theorem installSession_seals {announced : Node} (peer : Address) (remote : PublicIdentity)
    (epoch : UInt8) (keys : TransportKeys) (now : Nat)
    (quiet : Quiet law { node with handshakes := node.handshakes.remove peer } announced)
    (bound : remote.address = peer) (foreign : peer ≠ node.address) :
    Seals law installing node (announced.installSession peer epoch keys remote now) := by
  -- The third message is announced and the session installed in one step of the core.
  have step : CoreStep .install node.core { announced.core with
      keyDir := announced.core.keyDir.insert peer remote
      sessions := announced.core.sessions.insert peer (Session.new remote epoch keys now) } := by
    rw [quiet.core]
    exact .install node.core peer remote epoch keys now bound foreign
  have installed : Seals law installing node { announced with
      keyDir := announced.keyDir.insert peer remote
      sessions := announced.sessions.insert peer (Session.new remote epoch keys now) } := .single
    ⟨step, quiet.cfg, quiet.id, quiet.received, quiet.bearings, quiet.lawful⟩ (by decide)
  have reported := installed.trans (.of (emit_moves _ (.sessionEstablished peer)) (by decide))
  have sent := reported.trans ((tryPendingEnvelopes_seals _ peer now).mono (by decide))
  have attached (after : Node) (hosts : Prop) [Decidable hosts] : Seals law installing after
        (if hosts then { after with attachedAnchor := some peer } else after) := by
    split
    · exact .single (Move.ofCore (.reroute _) rfl rfl) (by decide)
    · exact .refl after
  exact sent.trans (attached _ _)

/-- A handshake that yields a session installs it and sends what waited. -/
theorem finishHandshake_installs
    (m3 : Option Bytes) (now : Nat) (keys : TransportKeys) (remote : PublicIdentity)
    (finished : pending.hs.finish = .ok (keys, remote)) (foreign : peer ≠ node.address)
    (checked : pending.hs.remote.map PublicIdentity.address = some peer) :
    Seals law installing node (node.finishHandshake peer pending m3 now).1 := by
  have bound : remote.address = peer := by
    rw [HandshakeXX.finish_remote finished] at checked
    exact Option.some.inj checked
  unfold finishHandshake
  rw [finished]
  cases m3 with
  | none =>
    exact (installSession_seals node peer remote pending.epoch keys now (Quiet.refl _) bound
      foreign).trans ((drainQueued_seals _ _).mono (by decide))
  | some message =>
    have installed : Seals law installing node _ :=
      installSession_seals node peer remote pending.epoch keys now
        (sendHandshakePacket_quiet _ peer .three message now) bound foreign
    exact (installed.trans (.of (rememberM3_moves _ peer message) (by decide))).trans
      ((drainQueued_seals _ _).mono (by decide))

theorem finishHandshake_seals {m3 : Option Bytes} {now : Nat} (foreign : peer ≠ node.address)
    (checked : pending.hs.remote.map PublicIdentity.address = some peer) :
    Seals law establishing node (node.finishHandshake peer pending m3 now).1 := by
  cases finished : pending.hs.finish with
  | error _ =>
    unfold finishHandshake
    rw [finished]
    exact .single (node.abandon_move peer) (by decide)
  | ok result =>
    exact (node.finishHandshake_installs peer pending m3 now result.1 result.2 finished foreign
      checked).mono (by decide)

theorem initiatorContinue_seals (foreign : peer ≠ node.address) :
    Seals law establishing node (node.initiatorContinue peer message now).1 := by
  unfold initiatorContinue
  cases found : node.handshakes.get peer with
  | none => exact .refl node
  | some pending =>
    have kept (hs : HandshakeXX) : Seals law establishing node { node with
        handshakes := node.handshakes.insert peer { pending with hs := hs } } :=
      .single (node.answer_move peer pending _ found rfl) (by decide)
    simp only
    split
    · exact .refl node
    · split
      · exact kept _
      · split
        · exact .single (node.abandon_move peer) (by decide)
        · rename_i read _ _ checked
          split
          · exact kept _
          · rename_i hs m3 written
            refine finishHandshake_seals _ _ _ foreign ?_
            change hs.remote.map PublicIdentity.address = some peer
            rw [HandshakeXX.writeMessage3_remote written]
            exact not_not.mp checked

theorem responderFinish_seals (foreign : peer ≠ node.address) :
    Seals law establishing node (node.responderFinish peer message now) := by
  unfold responderFinish
  cases found : node.handshakes.get peer with
  | none => exact .refl node
  | some pending =>
    simp only
    split
    · exact .refl node
    · split
      · exact .single (node.answer_move peer pending _ found rfl) (by decide)
      · split
        · exact .single (node.abandon_move peer) (by decide)
        · rename_i checked
          exact finishHandshake_seals _ _ _ foreign (not_not.mp checked)

theorem handleHandshake_seals (packet : Packet) (now : Nat)
    (foreign : packet.header.src ≠ node.address) :
    Seals law establishing node (node.handleHandshake packet now) := by
  unfold handleHandshake
  cases packet.payload with
  | nil => exact .refl node
  | cons number message =>
    simp only
    split
    · exact .refl node
    · have started : Seals law establishing node _ :=
        .of (node.responderStart_moves packet.header.src message now) (by decide)
      split
      · rename_i outcome
        rw [outcome] at started
        exact started.trans (.quiet (sendHandshakePacket_quiet _ _ _ _ _) (by decide))
      · rename_i outcome
        rw [outcome] at started
        exact started
    · exact initiatorContinue_seals _ _ _ _ foreign
    · exact responderFinish_seals _ _ _ _ foreign

/-- Dropping a session. -/
theorem close_move : Move law .close node { node with
      sessions := node.sessions.remove peer
      transport := node.transport.resetPeer peer } := Move.ofCore (.close node.core peer) rfl rfl

theorem dropSession_moves : Moves law [.close, .report] node (node.dropSession peer) :=
  .trans (Trail.single (node.close_move peer) (by decide)) ((emit_moves _ _).mono (by decide))

theorem requeue_moves (node : Node) (message : Outstanding) :
    Moves law messaging node (requeue peer now node message) := by
  unfold requeue
  split
  · exact .refl
  · exact sendOrQueue_moves _ _ _

theorem resetSession_moves : Moves law restarting node (node.resetSession peer now) := by
  have dropped : Moves law restarting node (node.dropSession peer) :=
    (dropSession_moves _ _).mono (by decide)
  have cleared := dropped.trans (Trail.single (lose_move _
    ((node.dropSession peer).transport.failAllTo peer).1) (by decide))
  exact cleared.trans (Trail.foldl _ _ (fun state message _ =>
    (requeue_moves peer now state message).mono (by decide)))

theorem onNoSessionNotice_moves : Moves law restarting node (node.onNoSessionNotice peer now) := by
  unfold onNoSessionNotice
  cases found : node.sessions.get peer with
  | none => exact .refl
  | some session =>
    simp only
    split
    · split
      · have counted : Moves law restarting node _ := Trail.single
          (node.advance_move peer session { session with m3Resends := session.m3Resends + 1 }
            found ⟨rfl, rfl⟩) (by decide)
        exact counted.trans ((sendHandshakePacket_quiet _ _ _ _ _).moves (by decide))
      · exact resetSession_moves _ _ _
    · exact resetSession_moves _ _ _

theorem closeSession_moves :
    Moves law (sending ++ [.close, .report]) node (node.closeSession peer) := by
  unfold closeSession
  split
  · exact .trans ((sendControl_moves _ _ _ _ _).mono (by decide))
      ((dropSession_moves _ _).mono (by decide))
  · exact .refl

end Node

end MeshStar

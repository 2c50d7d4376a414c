import MeshStar.Node.Established
import MeshStar.NoiseExchange
import MeshStar.PacketCodec
import Mathlib.Data.Multiset.AddSub

/-!
# Two nodes that open a handshake with each other at once

Both first messages cross on the way. The node with the lower address keeps its own
handshake and ignores the other's, the other one gives up its own and answers. A first
message that comes late, after its receiver has finished, makes that receiver answer it,
and the answer is ignored.

A crossing is a run of the two nodes in which handshake packets in flight are delivered
in any order, each one once. Every crossing ends after at most five deliveries, and then
the two hold sessions with the same keys.
-/

namespace MeshStar

open Multiset

variable [Primitives]

/-- A packet carries a handshake message from one node to another. -/
structure Packet.Carries (packet : Packet) (src dst : Address) (number : HandshakeMessage)
    (message : Bytes) : Prop where
  kind : packet.header.ptype = .handshake
  src : packet.header.src = src
  dst : packet.header.dst = dst
  payload : packet.payload = number.toU8 :: message

variable {packet : Packet} {dst : Address} {number : HandshakeMessage} {message : Bytes}

omit [Primitives] in
/-- A relay does not change the message. -/
theorem Packet.Carries.of_same {sent : Packet} {src : Address}
    (same : Packet.SameMessage packet sent)
    (carries : sent.Carries src dst number message) : packet.Carries src dst number message :=
  ⟨same.ptype.trans carries.kind, same.src.trans carries.src, same.dst.trans carries.dst,
    same.payload.trans carries.payload⟩

omit [Primitives] in
theorem Packet.Carries.greets {src : Address} (carries : packet.Carries src dst number message) :
    packet.greets dst = true := by
  simp [Packet.greets, carries.kind, carries.dst]

namespace Node

/-- Whether a packet for a peer can be queued at once: its next hop is known, or packets are
flooded, and the transmit queue has room. -/
def reaches (node : Node) (peer : Address) (now : Nat) : Bool :=
  (decide (node.cfg.routingMode = .flood) || (node.nextHopFor peer now).isSome) &&
    node.makeTxRoom.isSome

/-- The handshake packets for a peer that a change has queued. -/
def handshakesTo (peer : Address) (before after : Node) : List Packet :=
  (after.history.queued.drop before.history.queued.length).filter (fun packet => packet.greets peer)

/-- A change queues the given handshake packets for the peer, beside other packets. -/
def Queues (peer : Address) (before after : Node) (sent : List Packet) : Prop :=
  ∃ added, after.history.queued = before.history.queued ++ added ∧
    added.filter (fun packet => packet.greets peer) = sent

variable {peer : Address} {before middle after : Node} {sent later : List Packet}

section

omit [Primitives]

theorem Queues.handshakesTo_eq (queues : Queues peer before after sent) :
    handshakesTo peer before after = sent := by
  obtain ⟨added, queued, filtered⟩ := queues
  rw [handshakesTo, queued, List.drop_left, filtered]

theorem Queues.trans (first : Queues peer before middle sent)
    (second : Queues peer middle after later) :
    Queues peer before after (sent ++ later) := by
  obtain ⟨early, earlyQueued, earlySent⟩ := first
  obtain ⟨late, lateQueued, lateSent⟩ := second
  refine ⟨early ++ late, ?_, ?_⟩
  · rw [lateQueued, earlyQueued, List.append_assoc]
  · rw [List.filter_append, earlySent, lateSent]

theorem Queues.ofCalm (queued : ∃ added, after.history.queued = before.history.queued ++ added ∧
    ∀ packet ∈ added, packet.greets peer = false) : Queues peer before after [] := by
  obtain ⟨added, same, calm⟩ := queued
  refine ⟨added, same, ?_⟩
  rw [List.filter_eq_nil_iff]
  intro packet member
  rw [calm packet member]
  exact Bool.false_ne_true

/-- A change that leaves the queue alone. -/
theorem Queues.ofSame (same : after.history.queued = before.history.queued) :
    Queues peer before after [] := ⟨[], by rw [same, List.append_nil], rfl⟩

end

variable {node : Node} {now : Nat}

/-- A packet whose destination is reached is queued with its next hop filled in. -/
theorem routeUnicast_reached (now : Nat) (reached : node.reaches packet.header.dst now = true)
    (encoded : ∀ nextHop, (Packet.encode { packet with
      header := { packet.header with nextHop := nextHop } } node.cfg.networkKey).isOk = true) :
    ∃ nextHop, (node.routeUnicast packet now).1.history.queued = node.history.queued ++
      [{ packet with header := { packet.header with nextHop := nextHop } }] := by
  simp only [reaches, Bool.and_eq_true, Bool.or_eq_true, decide_eq_true_eq] at reached
  obtain ⟨routed, room⟩ := reached
  simp only [routeUnicast]
  split
  · refine ⟨nextHopAny, ?_⟩
    rw [enqueuePacket_queued, queuesPacket, encoded nextHopAny, room]
    rfl
  · rename_i directed
    cases known : node.nextHopFor packet.header.dst now with
    | none =>
      rw [known] at routed
      exact absurd routed (by simp [directed])
    | some hop =>
      refine ⟨hop.short, ?_⟩
      have kept : (trackHop { node with routes := node.routes.touch packet.header.dst hop now }
          { packet with header := { packet.header with nextHop := hop.short } } hop now
            false).cfg = node.cfg ∧
          (trackHop { node with routes := node.routes.touch packet.header.dst hop now }
            { packet with header := { packet.header with nextHop := hop.short } } hop now
            false).makeTxRoom = node.makeTxRoom := by
        unfold trackHop
        split <;> exact ⟨rfl, rfl⟩
      simp only
      rw [enqueuePacket_queued, trackHop_history, queuesPacket, kept.1, kept.2,
        encoded hop.short, room]
      rfl

/-- A handshake message for a peer that is reached is queued. -/
theorem sendHandshakePacket_reached
    (reached : node.reaches peer now = true) (short : message.length ≤ 129) :
    ∃ packet : Packet, packet.Carries node.address peer number message ∧
      Queues peer node (node.sendHandshakePacket peer number message now) [packet] := by
  let based := node.baseHeader .handshake peer (node.ttlFor peer)
  obtain ⟨src, dst, kind⟩ := node.baseHeader_fields .handshake peer (node.ttlFor peer)
  have marked := node.baseHeader_netAuth .handshake peer (node.ttlFor peer)
  have fits : (number.toU8 :: message).length ≤ maxPayload node.cfg.networkKey.isSome := by
    have room : 130 ≤ maxPayload node.cfg.networkKey.isSome := by
      cases node.cfg.networkKey.isSome <;> decide
    rw [List.length_cons]
    omega
  obtain ⟨nextHop, queued⟩ := routeUnicast_reached now
    (show based.1.reaches (Packet.mk based.2 (number.toU8 :: message)).header.dst now = true by
      rw [show based.2.dst = peer from dst]
      exact reached)
    (by
      intro nextHop
      rw [encode_isOk (show (Packet.mk { based.2 with nextHop := nextHop }
        (number.toU8 :: message)).header.has Flags.netAuth = based.1.cfg.networkKey.isSome
        from marked)]
      exact decide_eq_true fits)
  have carries : Packet.Carries ⟨{ based.2 with nextHop := nextHop }, number.toU8 :: message⟩
      node.address peer number message := ⟨kind, src, dst, rfl⟩
  refine ⟨_, carries, _, queued, ?_⟩
  simp [carries.greets]

section Handlers

variable {node : Node} {packet : Packet} {now : Nat} {message m1 m2 m3 : Bytes}
  {initiator responder : HandshakeXX} {offering answering : Identity}

/-- The node has sent the first message of a handshake that it initiated. -/
def Waiting (node : Node) (peer : Address) (m1 : Bytes) : Prop :=
  ∃ (pending : PendingHandshake) (offering : Identity),
    node.handshakes.get peer = some pending ∧ offering.address = node.address ∧
    HandshakeXX.Offers (prologue node.address peer) offering pending.hs m1

/-- The node has answered the first message of a peer's handshake. -/
def Answering (node : Node) (peer : Address) (m1 m2 : Bytes) : Prop :=
  ∃ (pending : PendingHandshake) (answering : Identity),
    node.handshakes.get peer = some pending ∧ answering.address = node.address ∧
    HandshakeXX.Answers (prologue peer node.address) answering pending.hs m1 m2

/-- The node has answered a peer's handshake, and the given third message completes it with
the given keys. -/
def Awaiting (node : Node) (peer : Address) (m3 : Bytes) (keys : TransportKeys) : Prop :=
  ∃ (pending : PendingHandshake) (last : HandshakeXX) (extra : Bytes) (remote : PublicIdentity),
    node.handshakes.get peer = some pending ∧ pending.hs.role = .responder ∧
    HandshakeXX.run (HandshakeXX.readMessage3 m3) pending.hs = (last, .ok extra) ∧
    last.finish = .ok (keys, remote) ∧ remote.address = peer

/-- The node has a session with a peer, with the given keys. -/
def Keyed (node : Node) (peer : Address) (send recv : Bytes32) : Prop :=
  ∃ session, node.sessions.get peer = some session ∧ session.sendKey = send ∧
    session.recvKey = recv

theorem handleHandshake_one (carries : packet.Carries peer dst .one message) :
    node.handleHandshake packet now =
      match node.responderStart peer message now with
      | (started, some m2) => started.sendHandshakePacket peer .two m2 now
      | (started, none) => started := by
  rw [handleHandshake, carries.payload, carries.src]
  rfl

theorem handleHandshake_two (carries : packet.Carries peer dst .two message) :
    node.handleHandshake packet now = (node.initiatorContinue peer message now).1 := by
  rw [handleHandshake, carries.payload, carries.src]
  rfl

theorem handleHandshake_three (carries : packet.Carries peer dst .three message) :
    node.handleHandshake packet now = node.responderFinish peer message now := by
  rw [handleHandshake, carries.payload, carries.src]
  rfl

/-- The node with the lower address keeps the handshake it initiated. -/
theorem handleHandshake_keeps (waiting : node.Waiting peer m1)
    (lower : node.address.value < peer.value) (carries : packet.Carries peer dst .one message) :
    node.handleHandshake packet now = node := by
  obtain ⟨pending, offering, held, _, offers⟩ := waiting
  rw [handleHandshake_one carries, responderStart]
  split
  · rename_i outcome
    simp only [held, offers.role, if_true, if_pos lower] at outcome
    split at outcome <;> cases outcome
  · rename_i outcome
    simp only [held, offers.role, if_true, if_pos lower] at outcome
    split at outcome <;> cases outcome <;> rfl

/-- The node with the higher address gives up the handshake it initiated and answers. -/
theorem handleHandshake_yields {pending : PendingHandshake} (honest : HonestPrimitives)
    (held : node.handshakes.get peer = some pending) (role : pending.hs.role = .initiator)
    (higher : ¬node.address.value < peer.value)
    (offers : HandshakeXX.Offers (prologue peer node.address) offering initiator m1)
    (carries : packet.Carries peer node.address .one m1)
    (reached : node.reaches peer now = true) :
    ∃ (m2 : Bytes) (answer : Packet), answer.Carries node.address peer .two m2 ∧
      Queues peer node (node.handleHandshake packet now) [answer] ∧
      (node.handleHandshake packet now).Answering peer m1 m2 := by
  obtain ⟨payload, read, responder, m2, readFirst, wroteSecond⟩ :=
    offers.answered honest node.id node.rng [node.cfg.role.toU8]
  let answered : PendingHandshake := ⟨responder, now, byteAt payload 1, pending.queued, 1, [],
    FixedBytes.ofSlice 32 m1, m2⟩
  let restarted := { node with
    rng := (HandshakeXX.new .responder node.id (prologue peer node.address) node.rng).1
    handshakes := (node.handshakes.remove peer).insert peer answered }
  have started : node.responderStart peer m1 now = (restarted, some m2) := by
    simp only [responderStart, if_neg (HandshakeXX.readMessage1_long readFirst), held,
      role, if_true,
      if_neg higher, restartHandshake, readFirst, wroteSecond, restarted, answered]
  have short := HandshakeXX.writeMessage2_length honest _ _ _ wroteSecond
  obtain ⟨answer, carried, queues⟩ := sendHandshakePacket_reached
    (show restarted.reaches peer now = true from reached) short
  have quiet : Quiet False restarted (restarted.sendHandshakePacket peer .two m2 now) :=
    sendHandshakePacket_quiet _ _ _ _ _
  rw [handleHandshake_one carries, started]
  refine ⟨m2, answer, carried, queues, answered, node.id, ?_, quiet.address.symm, ?_⟩
  · rw [show (restarted.sendHandshakePacket peer .two m2 now).handshakes = restarted.handshakes from
      congrArg Core.handshakes quiet.core]
    exact OrderedMap.get_insert_self _ _ _
  · rw [quiet.address]
    exact ⟨node.rng, payload, [node.cfg.role.toU8], read, readFirst, wroteSecond⟩

/-- Preparing an answer queues nothing. -/
theorem responderStart_history (node : Node) (peer : Address) (message : Bytes) (now : Nat) :
    (node.responderStart peer message now).1.history = node.history := by
  have restarted (queued : List QueuedSend) :
      (node.restartHandshake peer message queued now).1.history = node.history := by
    simp only [restartHandshake]
    split
    · rfl
    · split <;> rfl
  simp only [responderStart]
  split
  · rfl
  · split
    · exact restarted _
    · split
      · split
        · rfl
        · exact restarted _
      · split
        · rfl
        · exact restarted _

/-- Whatever a first message finds, it leaves the sessions alone and is answered at most
once. -/
theorem handleHandshake_answers (node : Node) (now : Nat)
    (carries : packet.Carries peer dst .one message) :
    (node.handleHandshake packet now).sessions = node.sessions ∧
      ∃ sent, Queues peer node (node.handleHandshake packet now) sent ∧ sent.length ≤ 1 ∧
        ∀ answer ∈ sent, ∃ m2, answer.Carries node.address peer .two m2 := by
  have moves : Moves False [.silent, .answer, .abandon] node _ :=
    node.responderStart_moves peer message now
  have history := node.responderStart_history peer message now
  rw [handleHandshake_one carries]
  generalize node.responderStart peer message now = outcome at moves history
  obtain ⟨started, answer⟩ := outcome
  have sessions : started.sessions = node.sessions := moves.sessions_same (by decide)
  cases answer with
  | none =>
    exact ⟨sessions, [], .ofSame (congrArg History.queued history), Nat.zero_le 1,
      fun _ member => nomatch member⟩
  | some m2 =>
    have quiet : Quiet False started (started.sendHandshakePacket peer .two m2 now) :=
      sendHandshakePacket_quiet _ _ _ _ _
    refine ⟨(congrArg Core.sessions quiet.core).trans sessions, ?_⟩
    obtain ⟨added, queued, choice⟩ := started.sendHandshakePacket_queued peer .two m2 now
    rw [show started.history.queued = node.history.queued from
      congrArg History.queued history] at queued
    refine ⟨added.filter (fun packet => packet.greets peer), ⟨added, queued, rfl⟩, ?_⟩
    split at choice
    · obtain ⟨request, kind, rfl⟩ := choice
      have calm : request.greets peer = false := greets_of_ptype (by rw [kind]; decide)
      rw [List.filter_cons_of_neg (by rw [calm]; exact Bool.false_ne_true)]
      exact ⟨Nat.zero_le 1, fun _ member => nomatch member⟩
    · rcases choice with rfl | ⟨answer, rfl, kind, src, dst, payload⟩
      · exact ⟨Nat.zero_le 1, fun _ member => nomatch member⟩
      · refine ⟨List.length_filter_le _ _, ?_⟩
        intro other member
        rw [List.mem_singleton.mp (List.mem_filter.mp member).1]
        exact ⟨m2, kind, src.trans moves.address, dst, payload⟩

/-- The initiator finishes with the answer to its first message: it has the session and
sends the third message, with which the responder will finish too. -/
theorem handleHandshake_finishes (honest : HonestPrimitives) (waiting : node.Waiting peer m1)
    (answers : HandshakeXX.Answers (prologue node.address peer) answering responder m1 m2)
    (named : answering.address = peer) (carries : packet.Carries peer dst .two m2)
    (reached : node.reaches peer now = true) :
    ∃ (m3 : Bytes) (conclusion : Packet) (last : HandshakeXX) (extra : Bytes)
      (keys : TransportKeys) (remote : PublicIdentity),
      conclusion.Carries node.address peer .three m3 ∧
      Queues peer node (node.handleHandshake packet now) [conclusion] ∧
      (node.handleHandshake packet now).Keyed peer keys.recv keys.send ∧
      HandshakeXX.run (HandshakeXX.readMessage3 m3) responder = (last, .ok extra) ∧
      last.finish = .ok (keys, remote) ∧ remote.address = node.address := by
  obtain ⟨pending, offering, held, owned, offers⟩ := waiting
  obtain ⟨payload, read, finished, m3, last, ours, theirs, readSecond, wroteThird, initiatorKeys,
    readThird, responderKeys, sending, receiving⟩ :=
      offers.concluded honest [node.cfg.role.toU8] answers
  have remote : read.remote.map PublicIdentity.address = some peer := by
    rw [← HandshakeXX.writeMessage3_remote wroteThird, HandshakeXX.finish_remote initiatorKeys]
    exact congrArg some named
  have continued : node.initiatorContinue peer m2 now =
      node.finishHandshake peer { pending with hs := finished } (some m3) now := by
    simp only [initiatorContinue, held, offers.role, ne_eq, not_true_eq_false, if_false, readSecond,
      remote, wroteThird]
  have established := node.finishHandshake_established peer (some m3) now
    (show ({ pending with hs := finished } : PendingHandshake).hs.finish = _ from initiatorKeys)
  have short := HandshakeXX.writeMessage3_length honest _ _ _ wroteThird
  obtain ⟨conclusion, carried, queues⟩ := sendHandshakePacket_reached
    (show reaches { node with handshakes := node.handshakes.remove peer } peer now = true
      from reached) (show m3.length ≤ 129 from short.trans (by simp))
  rw [handleHandshake_two carries, continued]
  refine ⟨m3, conclusion, last, [node.cfg.role.toU8], theirs, offering.publicIdentity, carried, ?_,
    ?_, readThird, responderKeys, owned⟩
  · exact queues.trans (.ofCalm established.queued)
  · obtain ⟨session, present, sendKey, recvKey⟩ := established.session
    exact ⟨session, present, sendKey.trans sending, recvKey.trans receiving⟩

/-- The responder finishes with the third message. -/
theorem handleHandshake_completes {keys : TransportKeys} (now : Nat)
    (awaiting : node.Awaiting peer m3 keys) (carries : packet.Carries peer dst .three m3) :
    (node.handleHandshake packet now).Keyed peer keys.send keys.recv ∧
      (node.handleHandshake packet now).handshakes.get peer = none ∧
      Queues peer node (node.handleHandshake packet now) [] := by
  obtain ⟨pending, last, extra, remote, held, role, readThird, finished, named⟩ := awaiting
  have recorded : last.remote.map PublicIdentity.address = some peer := by
    rw [HandshakeXX.finish_remote finished]
    exact congrArg some named
  have concluded : node.responderFinish peer m3 now =
      (node.finishHandshake peer { pending with hs := last } none now).1 := by
    simp only [responderFinish, held, role, ne_eq, not_true_eq_false, if_false, readThird, recorded]
  have established := node.finishHandshake_established peer none now
    (show ({ pending with hs := last } : PendingHandshake).hs.finish = _ from finished)
  rw [handleHandshake_three carries, concluded]
  refine ⟨established.session, ?_, .ofCalm established.queued⟩
  exact established.handshake.trans (OrderedMap.get_remove_self _)

end Handlers

/-- A node that starts a handshake with a peer it reaches waits for the answer. -/
theorem startHandshake_opens (honest : HonestPrimitives)
    (idle : node.handshakes.get peer = none) (foreign : peer ≠ node.address)
    (reached : node.reaches peer now = true) :
    ∃ (m1 : Bytes) (offer : Packet), offer.Carries node.address peer .one m1 ∧
      Queues peer node (node.startHandshake peer now) [offer] ∧
      (node.startHandshake peer now).Waiting peer m1 ∧
      (node.startHandshake peer now).address = node.address := by
  let payload := [node.cfg.role.toU8, node.nextEpoch peer]
  let created := HandshakeXX.new .initiator node.id (prologue node.address peer) node.rng
  obtain ⟨hs, m1, wrote⟩ := HandshakeXX.new_offers node.id (prologue node.address peer) node.rng
    payload
  let pending : PendingHandshake := ⟨hs, now, node.nextEpoch peer, [], 1, m1,
    FixedBytes.ofSlice 32 [], []⟩
  let opened := { node with
    rng := created.1
    handshakes := node.handshakes.insert peer pending }
  have absent : node.handshakes.contains peer = false := by
    rw [Bool.eq_false_iff, ne_eq, OrderedMap.contains_eq_true_iff, idle]
    rintro ⟨_, present⟩
    cases present
  have started : node.startHandshake peer now = opened.sendHandshakePacket peer .one m1 now := by
    simp only [startHandshake, absent, foreign, Bool.false_eq_true, or_self, if_false,
      openHandshake]
    rw [show HandshakeXX.run (HandshakeXX.writeMessage1 [node.cfg.role.toU8, node.nextEpoch peer])
      (HandshakeXX.new .initiator node.id (prologue node.address peer) node.rng).2 = _ from wrote]
  have short := HandshakeXX.writeMessage1_length honest _ _ _ wrote
  obtain ⟨offer, carried, queues⟩ := sendHandshakePacket_reached
    (show opened.reaches peer now = true from reached)
    (show m1.length ≤ 129 from short.trans (by simp [payload]))
  have quiet : Quiet False opened (opened.sendHandshakePacket peer .one m1 now) :=
    sendHandshakePacket_quiet _ _ _ _ _
  rw [started]
  refine ⟨m1, offer, carried, queues, ⟨pending, node.id, ?_, quiet.address.symm, ?_⟩, quiet.address⟩
  · rw [show (opened.sendHandshakePacket peer .one m1 now).handshakes = opened.handshakes from
      congrArg Core.handshakes quiet.core]
    exact OrderedMap.get_insert_self _ _ _
  · rw [quiet.address]
    exact ⟨node.rng, payload, wrote⟩

/-- On its way to the dispatch a packet makes the node queue a link acknowledgement at most. -/
theorem arrival_unheard {ready : Node} {rxMeta : RxMeta}
    (arrived : node.arrival packet rxMeta now = some ready) : Unheard peer node ready := by
  have noted : Unheard peer node (node.hear (node.transmitterOf packet) rxMeta now) := by
    simp only [hear]
    split <;> exact .ofSame rfl
  have heard : Unheard peer node (node.attend packet rxMeta now) := by
    simp only [attend]
    split
    · exact noted.trans (.ofSame rfl)
    · exact noted
  have confirmed (state : Node) (prev : Option Address) :
      Unheard peer state (state.implicitAck packet prev) := by
    simp only [implicitAck, hopConfirmed]
    repeat' split
    all_goals exact .ofSame rfl
  have passed (state : Node) : Unheard peer state (state.passesOnce packet now).1 := by
    simp only [passesOnce]
    split <;> exact .ofSame rfl
  have linked (state : Node) (prev : Option Address) :
      Unheard peer state (state.confirmFinalHop packet prev now) := by
    simp only [confirmFinalHop]
    split
    · rename_i transmitter
      split
      · have drawn : Unheard peer state (state.baseHeader .control transmitter 1).1 :=
          .ofSame rfl
        have kind := (state.baseHeader_fields .control transmitter 1).2.2
        refine drawn.trans (enqueuePacket_unheard _ (greets_of_ptype ?_))
        change (state.baseHeader .control transmitter 1).2.ptype ≠ _
        rw [kind]
        decide
      · exact .ofSame rfl
    · exact .ofSame rfl
  have learned (state : Node) (prev : Option Address) :
      Unheard peer state (state.learnReverse packet prev now) := by
    simp only [learnReverse, learnRoute]
    repeat' split
    all_goals exact .ofSame rfl
  have prepared (state : Node) (prev : Option Address) :
      Unheard peer state (state.prepare packet prev now) := by
    have ready := (linked state prev).trans (learned _ prev)
    simp only [prepare]
    split
    · exact ready.trans (.ofSame rfl)
    · exact ready
  simp only [arrival] at arrived
  split at arrived
  · cases arrived
  · split at arrived
    · cases arrived
      exact ((heard.trans (confirmed _ _)).trans (passed _)).trans (prepared _ _)
    · cases arrived

/-- A handshake packet for us is handled as such. -/
theorem dispatch_handshake {prev : Option Address}
    {rxMeta : RxMeta} (kind : packet.header.ptype = .handshake)
    (mine : packet.header.dst = node.address) :
    node.dispatch packet prev rxMeta now =
      (node.engaged packet now).handleHandshake packet now := by
  rw [dispatch_unflooded mine (by simp [isFlooded, kind])]
  simp only [handleForMe, kind]
  rfl

/-- A handshake packet in flight gets to a node: the node receives a frame with its message,
which passes the duplicate filter, and reaches the peer at that time. -/
def Takes (peer : Address) (sent : Packet) (before after : Node) : Prop :=
  ∃ (frame : Bytes) (rxMeta : RxMeta) (packet : Packet) (ready : Node),
    before.incoming frame = some packet ∧ Packet.SameMessage packet sent ∧
    (before.noted frame rxMeta packet).arrival packet rxMeta (max before.now rxMeta.timestampMs) =
      some ready ∧
    (ready.engaged packet (max before.now rxMeta.timestampMs)).reaches peer
      (max before.now rxMeta.timestampMs) = true ∧
    after = before.onRadioRx frame rxMeta

/-- Two states of a node that handle handshake packets alike. -/
structure Alike (before ready : Node) : Prop where
  sessions : ready.sessions = before.sessions
  handshakes : ready.handshakes = before.handshakes
  address : ready.address = before.address

section Alike

variable {ready : Node} {m1 m2 m3 : Bytes}

theorem Reroutes.alike (reroutes : Reroutes False before ready) : Alike before ready :=
  ⟨congrArg Core.sessions reroutes.core, congrArg Core.handshakes reroutes.core, reroutes.address⟩

variable (alike : Alike before ready)

include alike

theorem Alike.waiting (waiting : before.Waiting peer m1) : ready.Waiting peer m1 := by
  unfold Waiting
  rw [alike.handshakes, alike.address]
  exact waiting

theorem Alike.answering (answering : before.Answering peer m1 m2) : ready.Answering peer m1 m2 := by
  unfold Answering
  rw [alike.handshakes, alike.address]
  exact answering

theorem Alike.awaiting {keys : TransportKeys}
    (awaiting : before.Awaiting peer m3 keys) : ready.Awaiting peer m3 keys := by
  unfold Awaiting
  rw [alike.handshakes]
  exact awaiting

theorem Alike.keyed {send recv : Bytes32}
    (keyed : before.Keyed peer send recv) : ready.Keyed peer send recv := by
  unfold Keyed
  rw [alike.sessions]
  exact keyed

end Alike

/-- A packet that was taken is handled. -/
theorem Takes.handled {sent : Packet} (taken : Takes peer sent before after)
    (carries : sent.Carries peer before.address number message) :
    ∃ (ready : Node) (packet : Packet) (now : Nat), Alike before ready ∧
      Queues peer before ready [] ∧ packet.Carries peer ready.address number message ∧
      ready.reaches peer now = true ∧ after = ready.handleHandshake packet now ∧
      after.address = before.address := by
  obtain ⟨frame, rxMeta, packet, ready, incoming, same, arrived, reached, rfl⟩ := taken
  have carried := Packet.Carries.of_same same carries
  rcases before.onRadioRx_cases frame rxMeta with ⟨none, _⟩ | ⟨heard, found, foreign, _, received⟩
  · rw [incoming] at none
    cases none
  obtain rfl : packet = heard := Option.some.inj (incoming.symm.trans found)
  have quiet : Reroutes False (before.noted frame rxMeta packet) ready := arrival_reroutes arrived
  have address : ready.address = before.address := quiet.address
  have noted : Unheard peer before (before.noted frame rxMeta packet) := .ofSame rfl
  have heard : Unheard peer before ready := noted.trans (arrival_unheard arrived)
  have dispatched := (received.trans (onPacket_arrival arrived)).trans
    (dispatch_handshake carried.kind (carried.dst.trans address.symm))
  let now := before.clock rxMeta
  have engaging : Unheard peer ready (ready.engaged packet now) := by
    simp only [engaged, overhearReply]
    repeat' split
    all_goals exact .ofSame rfl
  have engagedAddress : (ready.engaged packet now).address = before.address :=
    (show Quiet False ready _ from engaged_quiet _ _ _).address.trans address
  obtain ⟨sessions, handshakes, queued⟩ := heard.trans engaging
  rw [← engagedAddress] at carried
  refine ⟨_, packet, now, ⟨sessions, handshakes, engagedAddress⟩, .ofCalm queued, carried, reached,
    dispatched, ?_⟩
  rw [dispatched]
  have seals : Seals False Effects.establishing _ _ := handleHandshake_seals
    (ready.engaged packet now) packet now (by
      rw [engagedAddress]
      exact foreign)
  exact seals.moves.address.trans engagedAddress

/-- A crossing of two handshakes: two nodes start one with each other, and then the handshake
packets in flight are delivered in any order. It counts the deliveries, and lists the
packets on their way to the second node and to the first. The radios may transmit in
between; no timer fires. -/
inductive Crossing (first second : Node) (firstTime secondTime : Nat) :
    Nat → Node → Node → Multiset Packet → Multiset Packet → Prop where
  | opened :
      Crossing first second firstTime secondTime 0
        (first.startHandshake second.address firstTime)
        (second.startHandshake first.address secondTime)
        (handshakesTo second.address first (first.startHandshake second.address firstTime))
        (handshakesTo first.address second (second.startHandshake first.address secondTime))
  | toSecond {count : Nat} {one two after : Node} {sent : Packet} {up down : Multiset Packet}
      (crossing : Crossing first second firstTime secondTime count one two (sent ::ₘ up) down)
      (taken : Takes first.address sent two after) :
      Crossing first second firstTime secondTime (count + 1) one after up
        (down + (handshakesTo first.address two after : List Packet))
  | toFirst {count : Nat} {one two after : Node} {sent : Packet} {up down : Multiset Packet}
      (crossing : Crossing first second firstTime secondTime count one two up (sent ::ₘ down))
      (taken : Takes second.address sent one after) :
      Crossing first second firstTime secondTime (count + 1) after two
        (up + (handshakesTo second.address one after : List Packet)) down
  | secondTransmits {count : Nat} {one two : Node} {up down : Multiset Packet} (now : Nat)
      (crossing : Crossing first second firstTime secondTime count one two up down) :
      Crossing first second firstTime secondTime count one (two.nextTx now).1 up down
  | firstTransmits {count : Nat} {one two : Node} {up down : Multiset Packet} (now : Nat)
      (crossing : Crossing first second firstTime secondTime count one two up down) :
      Crossing first second firstTime secondTime count (one.nextTx now).1 two up down

/-- First messages of the higher node that are still on their way. -/
def Delayed (lower higher : Address) (late : Multiset Packet) : Prop :=
  ∀ packet ∈ late, ∃ message, packet.Carries higher lower .one message

/-- Answers of the lower node to first messages that came late. -/
def Strays (lower higher : Address) (stray : Multiset Packet) : Prop :=
  ∀ packet ∈ stray, ∃ message, packet.Carries lower higher .two message

/-- How far a crossing has come, with a bound on the deliveries that are left: a late first
message can cost two, its own and that of its answer. -/
inductive Phase (lower higher : Address) :
    Nat → Node → Node → Multiset Packet → Multiset Packet → Prop where
  | offered {low high : Node} {offer : Packet} {m1 : Bytes} {late : Multiset Packet}
      (waiting : low.Waiting higher m1) (carries : offer.Carries lower higher .one m1)
      (contends : ∃ pending, high.handshakes.get lower = some pending ∧
        pending.hs.role = .initiator)
      (delayed : Delayed lower higher late) :
      Phase lower higher (3 + 2 * late.card) low high {offer} late
  | answered {low high : Node} {answer : Packet} {m1 m2 : Bytes} {late : Multiset Packet}
      (waiting : low.Waiting higher m1) (answering : high.Answering lower m1 m2)
      (carries : answer.Carries higher lower .two m2) (delayed : Delayed lower higher late) :
      Phase lower higher (2 + 2 * late.card) low high 0 (answer ::ₘ late)
  | concluding {low high : Node} {conclusion : Packet} {m3 : Bytes} {keys : TransportKeys}
      {stray late : Multiset Packet} (keyed : low.Keyed higher keys.recv keys.send)
      (awaiting : high.Awaiting lower m3 keys)
      (carries : conclusion.Carries lower higher .three m3)
      (strays : Strays lower higher stray) (delayed : Delayed lower higher late) :
      Phase lower higher (1 + 2 * late.card + stray.card) low high (conclusion ::ₘ stray) late
  | settled {low high : Node} {send recv : Bytes32} {stray late : Multiset Packet}
      (lowKeyed : low.Keyed higher send recv) (highKeyed : high.Keyed lower recv send)
      (done : high.handshakes.get lower = none) (strays : Strays lower higher stray)
      (delayed : Delayed lower higher late) :
      Phase lower higher (2 * late.card + stray.card) low high stray late

section Phases

variable {lower higher : Address} {weight : Nat} {low high steady : Node} {sent : Packet}
  {up down all rest : Multiset Packet}

section

omit [Primitives]

theorem Delayed.tail (delayed : Delayed lower higher (sent ::ₘ rest)) : Delayed lower higher rest :=
  fun packet member => delayed packet (mem_cons_of_mem member)

theorem Strays.tail (strays : Strays lower higher (sent ::ₘ rest)) : Strays lower higher rest :=
  fun packet member => strays packet (mem_cons_of_mem member)

theorem Strays.add {more : List Packet} (strays : Strays lower higher rest)
    (added : ∀ packet ∈ more, ∃ message, packet.Carries lower higher .two message) :
    Strays lower higher (rest + (more : Multiset Packet)) := by
  intro packet member
  rcases mem_add.mp member with member | member
  · exact strays packet member
  · exact added packet (mem_coe.mp member)

end

/-- A phase depends on how the two nodes handle handshake packets only. -/
theorem Phase.alike {ready : Node} (lowAlike : Alike low steady) (highAlike : Alike high ready)
    (phase : Phase lower higher weight low high up down) :
    Phase lower higher weight steady ready up down := by
  cases phase with
  | offered waiting carries contends delayed =>
    refine .offered (lowAlike.waiting waiting) carries ?_ delayed
    rw [highAlike.handshakes]
    exact contends
  | answered waiting answering carries delayed =>
    exact .answered (lowAlike.waiting waiting) (highAlike.answering answering) carries delayed
  | concluding keyed awaiting carries strays delayed =>
    exact .concluding (lowAlike.keyed keyed) (highAlike.awaiting awaiting) carries strays delayed
  | settled lowKeyed highKeyed done strays delayed =>
    refine .settled (lowAlike.keyed lowKeyed) (highAlike.keyed highKeyed) ?_ strays delayed
    rw [highAlike.handshakes]
    exact done

/-- A first message that comes before the answer is ignored by the lower node. -/
theorem Takes.ignored {m1 : Bytes} (taken : Takes higher sent low after)
    (order : low.address.value < higher.value) (waiting : low.Waiting higher m1)
    (carries : sent.Carries higher low.address .one message) :
    Alike low after ∧ handshakesTo higher low after = [] := by
  obtain ⟨ready, packet, now, alike, queues, carried, _, handled, _⟩ := taken.handled carries
  have kept : after = ready := by
    rw [handled]
    exact handleHandshake_keeps (alike.waiting waiting) (alike.address ▸ order) carried
  rw [kept]
  exact ⟨alike, queues.handshakesTo_eq⟩

/-- A first message that comes after the answer leaves the session of the lower node alone. -/
theorem Takes.strayed {send recv : Bytes32} (taken : Takes higher sent low after)
    (keyed : low.Keyed higher send recv)
    (carries : sent.Carries higher low.address .one message) :
    after.Keyed higher send recv ∧ after.address = low.address ∧
      (handshakesTo higher low after).length ≤ 1 ∧
      ∀ answer ∈ handshakesTo higher low after,
        ∃ m2, answer.Carries low.address higher .two m2 := by
  obtain ⟨ready, packet, now, alike, queues, carried, _, handled, address⟩ := taken.handled carries
  obtain ⟨sessions, answers, queued, few, answering⟩ := ready.handleHandshake_answers now carried
  rw [← handled] at sessions queued
  rw [(queues.trans queued).handshakesTo_eq, List.nil_append, ← alike.address]
  refine ⟨?_, address.trans alike.address.symm, few, answering⟩
  unfold Keyed
  rw [sessions]
  exact alike.keyed keyed

/-- The lower node finishes with the answer to its first message. -/
theorem Takes.concluded {m1 m2 : Bytes} (honest : HonestPrimitives)
    (taken : Takes higher sent low after) (waiting : low.Waiting higher m1)
    (highAddress : high.address = higher) (answering : high.Answering low.address m1 m2)
    (carries : sent.Carries higher low.address .two m2) :
    ∃ (m3 : Bytes) (conclusion : Packet) (keys : TransportKeys),
      handshakesTo higher low after = [conclusion] ∧
      conclusion.Carries low.address higher .three m3 ∧ after.Keyed higher keys.recv keys.send ∧
      high.Awaiting low.address m3 keys ∧ after.address = low.address := by
  obtain ⟨ready, packet, now, alike, queues, carried, reached, handled, address⟩ :=
    taken.handled carries
  obtain ⟨pending, identity, held, named, answers⟩ := answering
  rw [highAddress] at answers named
  rw [← alike.address] at answers
  obtain ⟨m3, conclusion, last, extra, keys, remote, carriedOn, queued, keyed, readThird, finished,
    remoteNamed⟩ := handleHandshake_finishes honest (alike.waiting waiting) answers named carried
      reached
  rw [← handled] at queued keyed
  rw [alike.address] at carriedOn remoteNamed
  exact ⟨m3, conclusion, keys, (queues.trans queued).handshakesTo_eq, carriedOn, keyed,
    ⟨pending, last, extra, remote, held, answers.role, readThird, finished, remoteNamed⟩, address⟩

/-- A delivery to the lower node brings the crossing closer to its end. -/
theorem Phase.toLow (honest : HonestPrimitives) (order : low.address.value < higher.value)
    (highAddress : high.address = higher)
    (phase : Phase low.address higher weight low high up all) (parts : all = sent ::ₘ down)
    (taken : Takes higher sent low after) :
    ∃ left < weight, Phase low.address higher left after high
      (up + (handshakesTo higher low after : List Packet)) down ∧ after.address = low.address := by
  have same : Alike high high := ⟨rfl, rfl, rfl⟩
  cases phase with
  | offered waiting carries contends delayed =>
    subst parts
    obtain ⟨message, carried⟩ := delayed sent (mem_cons_self _ _)
    obtain ⟨alike, nothing⟩ := taken.ignored order waiting carried
    rw [nothing, coe_nil, Multiset.add_zero, card_cons]
    exact ⟨3 + 2 * down.card, by omega,
      .alike alike same (.offered waiting carries contends delayed.tail), alike.address⟩
  | answered waiting answering carries delayed =>
    rcases cons_eq_cons.mp parts with ⟨rfl, rfl⟩ | ⟨_, others, rfl, rfl⟩
    · obtain ⟨m3, conclusion, keys, only, carriedOn, keyed, awaiting, address⟩ :=
        taken.concluded honest waiting highAddress answering carries
      rw [only, coe_singleton, Multiset.zero_add]
      exact ⟨1 + 2 * Multiset.card _ + 0, by omega,
        .concluding keyed awaiting carriedOn (fun _ member => absurd member (notMem_zero _))
          delayed, address⟩
    · obtain ⟨message, carried⟩ := delayed sent (mem_cons_self _ _)
      obtain ⟨alike, nothing⟩ := taken.ignored order waiting carried
      rw [nothing, coe_nil, Multiset.add_zero, card_cons]
      exact ⟨2 + 2 * others.card, by omega,
        .alike alike same (.answered waiting answering carries delayed.tail), alike.address⟩
  | concluding keyed awaiting carries strays delayed =>
    subst parts
    obtain ⟨message, carried⟩ := delayed sent (mem_cons_self _ _)
    obtain ⟨kept, address, few, answers⟩ := taken.strayed keyed carried
    rw [cons_add, card_cons]
    refine ⟨_, ?_, .concluding kept awaiting carries (strays.add answers) delayed.tail, address⟩
    rw [card_add, coe_card]
    omega
  | settled lowKeyed highKeyed done strays delayed =>
    subst parts
    obtain ⟨message, carried⟩ := delayed sent (mem_cons_self _ _)
    obtain ⟨kept, address, few, answers⟩ := taken.strayed lowKeyed carried
    rw [card_cons]
    refine ⟨_, ?_, .settled kept highKeyed done (strays.add answers) delayed.tail, address⟩
    rw [card_add, coe_card]
    omega

/-- An answer to a late first message is ignored by the higher node. -/
theorem Takes.passed (taken : Takes lower sent high after)
    (passive : ∀ pending, high.handshakes.get lower = some pending → pending.hs.role = .responder)
    (carries : sent.Carries lower high.address .two message) :
    Alike high after ∧ handshakesTo lower high after = [] := by
  obtain ⟨ready, packet, now, alike, queues, carried, _, handled, _⟩ := taken.handled carries
  have kept : after = ready := by
    rw [handled, handleHandshake_two carried, initiatorContinue]
    cases held : ready.handshakes.get lower with
    | none => rfl
    | some pending => simp [passive pending (alike.handshakes ▸ held)]
  rw [kept]
  exact ⟨alike, queues.handshakesTo_eq⟩

/-- A delivery to the higher node brings the crossing closer to its end. -/
theorem Phase.toHigh (honest : HonestPrimitives) (order : lower.value < high.address.value)
    (lowAddress : low.address = lower)
    (phase : Phase lower high.address weight low high all down) (parts : all = sent ::ₘ up)
    (taken : Takes lower sent high after) :
    ∃ left < weight, Phase lower high.address left low after up
      (down + (handshakesTo lower high after : List Packet)) ∧ after.address = high.address := by
  have same : Alike low low := ⟨rfl, rfl, rfl⟩
  cases phase with
  | offered waiting carries contends delayed =>
    obtain ⟨rfl, rfl⟩ := (singleton_eq_cons_iff _).mp parts
    obtain ⟨ready, packet, now, alike, queues, carried, reached, handled, address⟩ :=
      taken.handled carries
    have offered := waiting
    obtain ⟨pending, offering, held, named, offers⟩ := offered
    obtain ⟨own, contending, role⟩ := contends
    rw [lowAddress, ← alike.address] at offers
    rw [← alike.handshakes] at contending
    have higher : ¬ready.address.value < lower.value := by
      rw [alike.address]
      exact UInt64.lt_asymm order
    obtain ⟨m2, answer, carriedOn, queued, answering⟩ :=
      handleHandshake_yields honest contending role higher offers carried reached
    rw [← handled] at queued answering
    rw [alike.address] at carriedOn
    rw [(queues.trans queued).handshakesTo_eq, List.nil_append, coe_singleton,
      Multiset.add_comm, singleton_add]
    exact ⟨_, by omega, .answered waiting answering carriedOn delayed, address⟩
  | answered waiting answering carries delayed =>
    exact absurd parts (zero_ne_cons)
  | concluding keyed awaiting carries strays delayed =>
    rcases cons_eq_cons.mp parts with ⟨rfl, rfl⟩ | ⟨_, others, rfl, rfl⟩
    · obtain ⟨ready, packet, now, alike, queues, carried, reached, handled, address⟩ :=
        taken.handled carries
      obtain ⟨highKeyed, done, queued⟩ :=
        handleHandshake_completes now (alike.awaiting awaiting) carried
      rw [← handled] at highKeyed done queued
      rw [(queues.trans queued).handshakesTo_eq, List.nil_append, coe_nil, Multiset.add_zero]
      exact ⟨_, by omega, .settled keyed highKeyed done strays delayed, address⟩
    · obtain ⟨message, carried⟩ := strays sent (mem_cons_self _ _)
      have passive (pending : PendingHandshake)
          (held : high.handshakes.get lower = some pending) : pending.hs.role = .responder := by
        obtain ⟨waiting, _, _, _, present, role, _⟩ := awaiting
        rw [Option.some.inj (held.symm.trans present)]
        exact role
      obtain ⟨alike, nothing⟩ := taken.passed passive carried
      rw [nothing, coe_nil, Multiset.add_zero, card_cons]
      exact ⟨_, by omega, .alike same alike (.concluding keyed awaiting carries
        strays.tail delayed),
        alike.address⟩
  | settled lowKeyed highKeyed done strays delayed =>
    subst parts
    obtain ⟨message, carried⟩ := strays sent (mem_cons_self _ _)
    have passive (pending : PendingHandshake)
        (held : high.handshakes.get lower = some pending) : pending.hs.role = .responder := by
      rw [done] at held
      cases held
    obtain ⟨alike, nothing⟩ := taken.passed passive carried
    rw [nothing, coe_nil, Multiset.add_zero, card_cons]
    exact ⟨_, by omega, .alike same alike (.settled lowKeyed highKeyed done strays.tail delayed),
      alike.address⟩

end Phases

section Crossings

variable {first second low high : Node} {firstTime secondTime count : Nat}
  {up down : Multiset Packet}

section

variable (honest : HonestPrimitives) (order : first.address.value < second.address.value)
  (firstIdle : first.handshakes.get second.address = none)
  (secondIdle : second.handshakes.get first.address = none)
  (firstReaches : first.reaches second.address firstTime = true)
  (secondReaches : second.reaches first.address secondTime = true)

include honest order firstIdle secondIdle firstReaches secondReaches

/-- Two nodes that reach each other start a crossing with both first messages in flight. -/
theorem Phase.opened :
    Phase first.address second.address 5 (first.startHandshake second.address firstTime)
        (second.startHandshake first.address secondTime)
        (handshakesTo second.address first (first.startHandshake second.address firstTime))
        (handshakesTo first.address second (second.startHandshake first.address secondTime)) ∧
      (first.startHandshake second.address firstTime).address = first.address ∧
      (second.startHandshake first.address secondTime).address = second.address := by
  have apart : second.address ≠ first.address := by
    intro same
    rw [same] at order
    exact UInt64.lt_irrefl _ order
  obtain ⟨m1, offer, carries, queues, waiting, address⟩ :=
    startHandshake_opens honest firstIdle apart firstReaches
  obtain ⟨other, contender, contends, otherQueues, ⟨pending, _, held, _, offers⟩, otherAddress⟩ :=
    startHandshake_opens honest secondIdle apart.symm secondReaches
  have delayed : Delayed first.address second.address {contender} := by
    intro packet member
    rw [mem_singleton.mp member]
    exact ⟨other, contends⟩
  rw [queues.handshakesTo_eq, otherQueues.handshakesTo_eq]
  exact ⟨.offered waiting carries ⟨pending, held, offers.role⟩ delayed, address, otherAddress⟩

/-- Every crossing is in some phase, and its deliveries and those left are five at most. -/
theorem Crossing.phase
    (crossing : Crossing first second firstTime secondTime count low high up down) :
    ∃ left, count + left ≤ 5 ∧ Phase first.address second.address left low high up down ∧
      low.address = first.address ∧ high.address = second.address := by
  induction crossing with
  | opened =>
    obtain ⟨phase, address, otherAddress⟩ :=
      Phase.opened honest order firstIdle secondIdle firstReaches secondReaches
    exact ⟨5, Nat.le_refl 5, phase, address, otherAddress⟩
  | toSecond _ taken ih =>
    obtain ⟨left, bound, phase, lowAddress, highAddress⟩ := ih
    rw [← highAddress] at phase order ⊢
    obtain ⟨less, fewer, next, address⟩ := phase.toHigh honest order lowAddress rfl taken
    exact ⟨less, by omega, next, lowAddress, address⟩
  | toFirst _ taken ih =>
    obtain ⟨left, bound, phase, lowAddress, highAddress⟩ := ih
    rw [← lowAddress] at phase order ⊢
    obtain ⟨less, fewer, next, address⟩ := phase.toLow honest order highAddress rfl taken
    exact ⟨less, by omega, next, address, highAddress⟩
  | @secondTransmits _ one two _ _ now _ ih =>
    obtain ⟨left, bound, phase, lowAddress, highAddress⟩ := ih
    have alike : Alike two (two.nextTx now).1 := (nextTx_reroutes two now).alike
    exact ⟨left, bound, phase.alike ⟨rfl, rfl, rfl⟩ alike, lowAddress,
      alike.address.trans highAddress⟩
  | @firstTransmits _ one two _ _ now _ ih =>
    obtain ⟨left, bound, phase, lowAddress, highAddress⟩ := ih
    have alike : Alike one (one.nextTx now).1 := (nextTx_reroutes one now).alike
    exact ⟨left, bound, phase.alike alike ⟨rfl, rfl, rfl⟩, alike.address.trans lowAddress,
      highAddress⟩

end

/-- When two nodes that reach each other start a handshake with each other, then in whatever
order the handshake packets are delivered, at most five are, and once none is left in
flight both nodes have a session with the other, each with the other's keys. -/
theorem simultaneous_open_converges (honest : HonestPrimitives)
    (order : first.address.value < second.address.value)
    (firstIdle : first.handshakes.get second.address = none)
    (secondIdle : second.handshakes.get first.address = none)
    (firstReaches : first.reaches second.address firstTime = true)
    (secondReaches : second.reaches first.address secondTime = true)
    (crossing : Crossing first second firstTime secondTime count low high up down) :
    count ≤ 5 ∧ (up = 0 → down = 0 → ∃ ours theirs, low.sessions.get second.address = some ours ∧
        high.sessions.get first.address = some theirs ∧
        ours.sendKey = theirs.recvKey ∧ ours.recvKey = theirs.sendKey) := by
  obtain ⟨left, bound, phase, _, _⟩ := crossing.phase honest order firstIdle secondIdle firstReaches
    secondReaches
  refine ⟨by omega, ?_⟩
  intro noneUp noneDown
  cases phase with
  | offered => exact absurd noneUp (singleton_ne_zero _)
  | answered => exact absurd noneDown cons_ne_zero
  | concluding => exact absurd noneUp cons_ne_zero
  | settled lowKeyed highKeyed done strays delayed =>
    obtain ⟨ours, held, ourSend, ourRecv⟩ := lowKeyed
    obtain ⟨theirs, otherHeld, theirSend, theirRecv⟩ := highKeyed
    exact ⟨ours, theirs, held, otherHeld, ourSend.trans theirRecv.symm,
      ourRecv.trans theirSend.symm⟩

end Crossings

end Node

end MeshStar

namespace MeshStar.Contention

local instance contentionSuite : Primitives := Transparent.primitives

open Transparent

/-- A node that floods its packets. -/
def opener (byte : UInt8) : Node :=
  Node.new { NodeConfig.default with routingMode := .flood } (identity byte)
    generator 0

def lower : Node := opener 1
def higher : Node := opener 2

/-- The one handshake packet for a peer that a change has queued. -/
def sentTo (peer : Address) (before after : Node) : Packet :=
  (Node.handshakesTo peer before after).headD ⟨Header.new .handshake peer peer 0 0 1, []⟩

/-- A packet is delivered. -/
def deliver (node : Node) (packet : Packet) (time : Nat) : Node :=
  node.onRadioRx (frame packet) (heardAt time)

/-- Whether a packet that is delivered is taken. -/
def accepts (node : Node) (peer : Address) (packet : Packet) (time : Nat) : Bool :=
  let now := max node.now time
  decide (node.incoming (frame packet) = some packet) &&
    ((node.noted (frame packet) (heardAt time) packet).arrival packet
      (heardAt time) now).any (fun ready => (ready.engaged packet now).reaches peer now)

theorem takes_of_accepts {node : Node} {peer : Address} {packet : Packet} {time : Nat}
    (accepted : accepts node peer packet time = true) :
    Node.Takes peer packet node (deliver node packet time) := by
  simp only [accepts, Bool.and_eq_true, decide_eq_true_eq, Option.any_eq_true] at accepted
  obtain ⟨incoming, ready, arrived, reached⟩ := accepted
  exact ⟨_, heardAt time, packet, ready, incoming, ⟨rfl, rfl, rfl, rfl, rfl, rfl, rfl⟩,
    arrived, reached, rfl⟩

section Deliveries

variable {count time : Nat} {one two : Node} {sent : Packet} {more : List Packet}
  {up down : Multiset Packet}

theorem toHigher (crossing : Node.Crossing lower higher 0 0 count one two (sent ::ₘ up) down)
    (accepted : accepts two lower.address sent time = true)
    (queued : Node.handshakesTo lower.address two (deliver two sent time) = more) :
    Node.Crossing lower higher 0 0 (count + 1) one (deliver two sent time) up (down + more) :=
  queued ▸ crossing.toSecond (takes_of_accepts accepted)

theorem toLower (crossing : Node.Crossing lower higher 0 0 count one two up (sent ::ₘ down))
    (accepted : accepts one higher.address sent time = true)
    (queued : Node.handshakesTo higher.address one (deliver one sent time) = more) :
    Node.Crossing lower higher 0 0 (count + 1) (deliver one sent time) two (up + more) down :=
  queued ▸ crossing.toFirst (takes_of_accepts accepted)

end Deliveries

/-- The higher node answers, the lower one finishes and gets the other first message late;
its answer comes last. -/
def lowerOpened : Node := lower.startHandshake higher.address 0
def higherOpened : Node := higher.startHandshake lower.address 0
def offer : Packet := sentTo higher.address lower lowerOpened
def contender : Packet := sentTo lower.address higher higherOpened
def higherAnswered : Node := deliver higherOpened offer 10
def answer : Packet := sentTo lower.address higherOpened higherAnswered
def lowerFinished : Node := deliver lowerOpened answer 20
def conclusion : Packet := sentTo higher.address lowerOpened lowerFinished
def lowerStrayed : Node := deliver lowerFinished contender 30
def stray : Packet := sentTo higher.address lowerFinished lowerStrayed
def higherFinished : Node := deliver higherAnswered conclusion 40
def higherPassed : Node := deliver higherFinished stray 50

/-- Every packet in flight is delivered, in an order in which one first message is late. -/
theorem crossed : Node.Crossing lower higher 0 0 5 lowerStrayed higherPassed 0 0 := by
  have queued : Node.handshakesTo higher.address lower lowerOpened = [offer] ∧
      Node.handshakesTo lower.address higher higherOpened = [contender] ∧
      Node.handshakesTo lower.address higherOpened higherAnswered = [answer] ∧
      Node.handshakesTo higher.address lowerOpened lowerFinished = [conclusion] ∧
      Node.handshakesTo higher.address lowerFinished lowerStrayed = [stray] ∧
      Node.handshakesTo lower.address higherAnswered higherFinished = [] ∧
      Node.handshakesTo lower.address higherFinished higherPassed = [] := by
    decide +kernel
  have accepted : accepts higherOpened lower.address offer 10 = true ∧
      accepts lowerOpened higher.address answer 20 = true ∧
      accepts lowerFinished higher.address contender 30 = true ∧
      accepts higherAnswered lower.address conclusion 40 = true ∧
      accepts higherFinished lower.address stray 50 = true := by
    decide +kernel
  obtain ⟨offered, contended, answered, concluded, strayed, nothing, nothingMore⟩ := queued
  obtain ⟨offerTaken, answerTaken, contenderTaken, conclusionTaken, strayTaken⟩ := accepted
  have start : Node.Crossing lower higher 0 0 0 lowerOpened higherOpened
      (Node.handshakesTo higher.address lower lowerOpened)
      (Node.handshakesTo lower.address higher higherOpened) := .opened
  rw [offered, contended] at start
  have first : Node.Crossing lower higher 0 0 1 lowerOpened higherAnswered 0
      (([contender] : List Packet) + ([answer] : List Packet)) := toHigher start offerTaken answered
  rw [Multiset.add_comm] at first
  have second : Node.Crossing lower higher 0 0 2 lowerFinished higherAnswered
      (0 + ([conclusion] : List Packet)) ([contender] : List Packet) :=
    toLower first answerTaken concluded
  have third : Node.Crossing lower higher 0 0 3 lowerStrayed higherAnswered
      (0 + ([conclusion] : List Packet) + ([stray] : List Packet)) 0 :=
    toLower second contenderTaken strayed
  have fourth : Node.Crossing lower higher 0 0 4 lowerStrayed higherFinished
      ([stray] : List Packet) (0 + ([] : List Packet)) := toHigher third conclusionTaken nothing
  have fifth : Node.Crossing lower higher 0 0 5 lowerStrayed higherPassed 0
      (0 + ([] : List Packet) + ([] : List Packet)) := toHigher fourth strayTaken nothingMore
  exact fifth

/-- The crossing ends with sessions that match. -/
theorem simultaneous_open_converges_met : HonestPrimitives ∧
    lower.address.value < higher.address.value ∧
    Node.Crossing lower higher 0 0 5 lowerStrayed higherPassed 0 0 ∧
    ∃ ours theirs, lowerStrayed.sessions.get higher.address = some ours ∧
      higherPassed.sessions.get lower.address = some theirs ∧
      ours.sendKey = theirs.recvKey ∧ ours.recvKey = theirs.sendKey := by
  have order : lower.address.value < higher.address.value := by decide +kernel
  exact ⟨honest, order, crossed, (Node.simultaneous_open_converges honest
    order (by rfl) (by rfl) (by decide +kernel) (by decide +kernel) crossed).2 rfl rfl⟩

end MeshStar.Contention

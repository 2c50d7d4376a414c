import MeshStar.Node.Handling
import MeshStar.Node.Partner

/-!
# Sessions that are being rekeyed

Housekeeping marks a session that passed a limit and starts a handshake to replace it;
a marked session is not rekeyed again. The mark is cleared only when the session is
replaced, while the handshake can also end without a session: it can take too long, the
route can be given up, or the peer's message can be refused. The invariant that a marked
session has a handshake pending holds as long as none of this happens to a marked peer.
-/

namespace MeshStar

open List OrderedMap

open OrderedMap (get_insert_self get_insert_of_ne get_remove_of_ne get_modify_of_ne get_eq_some_iff)

namespace Core

/-- Whether the session with a peer is marked as being rekeyed. -/
def flagged (core : Core) (peer : Address) : Bool :=
  match core.sessions.get peer with
  | some session => session.rekeyInProgress
  | none => false

/-- No session with oneself, and a handshake pending for every marked session. -/
structure Rekeying (core : Core) : Prop where
  foreign : core.sessions.get core.address = none
  pending : ∀ peer, core.flagged peer = true → ∃ handshake, core.handshakes.get peer =
    some handshake

theorem flagged_iff {core : Core} {peer : Address} : core.flagged peer = true ↔
      ∃ session, core.sessions.get peer = some session ∧ session.rekeyInProgress = true := by
  unfold flagged
  cases found : core.sessions.get peer with
  | none => simp
  | some session => simp

end Core

namespace Core.Rekeying

variable {core : Core}

variable (holds : core.Rekeying)

include holds

/-- The invariant survives a change of the handshakes that loses none of a marked peer. -/
theorem withHandshakes {handshakes : OrderedMap Address PendingHandshake}
    (kept : ∀ peer, core.flagged peer = true → ∀ pending, core.handshakes.get peer = some pending →
      ∃ handshake, handshakes.get peer = some handshake) :
    Rekeying { core with handshakes := handshakes } := by
  refine ⟨holds.foreign, ?_⟩
  intro peer marked
  obtain ⟨pending, found⟩ := holds.pending peer marked
  exact kept peer marked pending found

theorem insertHandshake (peer : Address) (pending : PendingHandshake) :
    Rekeying { core with handshakes := core.handshakes.insert peer pending } := by
  refine holds.withHandshakes ?_
  intro other _ earlier found
  by_cases same : other = peer
  · rw [same]
    exact ⟨pending, get_insert_self _ _ _⟩
  · exact ⟨earlier, (get_insert_of_ne _ _ same).trans found⟩

/-- A handshake may be dropped for a peer whose session is not marked. -/
theorem removeHandshake {peer : Address} (unmarked : core.flagged peer = false) :
    Rekeying { core with handshakes := core.handshakes.remove peer } := by
  refine holds.withHandshakes ?_
  intro other marked earlier found
  have distinct : other ≠ peer := by
    rintro rfl
    exact Bool.false_ne_true (unmarked.symm.trans marked)
  exact ⟨earlier, (get_remove_of_ne _ distinct).trans found⟩

theorem mapHandshakes (change : Address → PendingHandshake → PendingHandshake) :
    Rekeying { core with handshakes := core.handshakes.mapValues change } := by
  refine holds.withHandshakes ?_
  intro other _ earlier found
  exact ⟨change other earlier, by rw [get_mapValues, found]; rfl⟩

/-- A new session is not marked, and its handshake is done. -/
theorem installSession (peer : Address) (session : Session)
    (foreign : peer ≠ core.address) (unmarked : session.rekeyInProgress = false)
    (keyDir : OrderedMap Address PublicIdentity) :
    Rekeying { core with
      sessions := core.sessions.insert peer session
      keyDir := keyDir
      handshakes := core.handshakes.remove peer } := by
  refine ⟨(get_insert_of_ne _ _ foreign.symm).trans holds.foreign, ?_⟩
  intro other marked
  by_cases same : other = peer
  · simp [flagged, same, unmarked] at marked
  · have earlier : core.flagged other = true := by
      simpa only [flagged, get_insert_of_ne _ _ same] using marked
    obtain ⟨pending, found⟩ := holds.pending other earlier
    exact ⟨pending, (get_remove_of_ne _ same).trans found⟩

/-- A session is marked while its handshake is pending. -/
theorem markSession {peer : Address} {handshakes : OrderedMap Address PendingHandshake}
    (started : (handshakes = core.handshakes ∧
        (core.handshakes.contains peer = true ∨ peer = core.address)) ∨
      ∃ pending, pending.queued = [] ∧ core.handshakes.get peer = none ∧
        handshakes = core.handshakes.insert peer pending) :
    Rekeying { core with
      sessions := core.sessions.modify peer (fun session =>
        { session with rekeyInProgress := true })
      handshakes := handshakes } := by
  have kept : ∀ other, (∃ pending, core.handshakes.get other = some pending) →
      ∃ pending, handshakes.get other = some pending := by
    rintro other ⟨pending, found⟩
    rcases started with ⟨same, _⟩ | ⟨fresh, _, _, inserted⟩
    · exact ⟨pending, same ▸ found⟩
    · by_cases same : other = peer
      · exact ⟨fresh, by rw [inserted, same, get_insert_self]⟩
      · exact ⟨pending, by rw [inserted, get_insert_of_ne _ _ same, found]⟩
  refine ⟨?_, ?_⟩
  · rw [show _ = core.address from rfl, get_modify]
    split
    · rw [holds.foreign]
      rfl
    · exact holds.foreign
  · intro other marked
    by_cases same : other = peer
    · subst same
      rcases started with ⟨sameMap, known | own⟩ | ⟨fresh, _, _, inserted⟩
      · exact sameMap ▸ (contains_eq_true_iff _ _).mp known
      · subst own
        simp [flagged, holds.foreign] at marked
      · exact ⟨fresh, by rw [inserted, get_insert_self]⟩
    · refine kept other (holds.pending other ?_)
      simpa only [flagged, get_modify_of_ne _ _ same] using marked

end Core.Rekeying

variable [Primitives]

/-- Whether an effect may drop a pending handshake without a session in its place. -/
def Effect.dropsHandshakes : Effect → Bool
  | .abandon | .dismiss => true
  | _ => false

/-- Whether an effect may change which sessions are marked. -/
def Effect.touchesFlags : Effect → Bool
  | .close | .install | .rekey => true
  | _ => false

/-- Using a session leaves its mark alone. -/
theorem CoreStep.flagged_same {effect : Effect} {before after : Core}
    (step : CoreStep effect before after) (spared : effect.touchesFlags = false) (peer : Address) :
    after.flagged peer = before.flagged peer := by
  cases step with
  | advance _ other session advanced present samePeer sameFlag =>
    by_cases same : peer = other
    · subst same
      simp only [Core.flagged, get_insert_self, present, sameFlag]
    · simp only [Core.flagged, get_insert_of_ne _ _ same]
  | close => cases spared
  | install => cases spared
  | rekey => cases spared
  | _ => rfl

/-- Every effect that drops no handshake keeps the invariant. -/
theorem CoreStep.rekeying {effect : Effect} {before after : Core}
    (step : CoreStep effect before after) (spared : effect.dropsHandshakes = false)
    (holds : before.Rekeying) : after.Rekeying := by
  cases step with
  | advance _ peer session advanced present samePeer sameFlag =>
    have distinct : before.address ≠ peer := by
      rintro rfl
      cases holds.foreign.symm.trans present
    refine ⟨(get_insert_of_ne _ _ distinct).trans holds.foreign, ?_⟩
    intro other marked
    rw [CoreStep.flagged_same (.advance before peer session advanced present samePeer sameFlag)
      rfl] at marked
    exact holds.pending other marked
  | close _ peer =>
    refine ⟨?_, ?_⟩
    · change (before.sessions.remove peer).get before.address = none
      rw [get_remove, holds.foreign, ite_self]
    · intro other marked
      refine holds.pending other ?_
      by_cases same : other = peer
      · simp [Core.flagged, same] at marked
      · simpa only [Core.flagged, get_remove_of_ne _ same] using marked
  | install _ peer remote epoch keys now bound foreign =>
    exact holds.installSession peer (Session.new remote epoch keys now) foreign rfl _
  | rekey _ peer handshakes started => exact holds.markSession started
  | contact _ peer pending absent emptyQueue => exact holds.insertHandshake peer pending
  | answer _ peer pending sameQueue => exact holds.insertHandshake peer pending
  | adjust _ change sameQueue => exact holds.mapHandshakes change
  | enlist _ peer send => exact holds.mapHandshakes _
  | abandon => cases spared
  | dismiss => cases spared
  | _ => exact ⟨holds.foreign, holds.pending⟩

namespace Node

variable (node : Node) (peer : Address) (packet : Packet) (message : Bytes) (time : Nat)
  (target : Address) (now : Nat)

variable {law : Prop} {effects : List Effect} {before after : Node}

/-- Whether the session with a peer is marked as being rekeyed. -/
def flagged (node : Node) (peer : Address) : Bool := node.core.flagged peer

/-- A handshake is pending for every marked session. -/
def Rekeying (node : Node) : Prop := node.core.Rekeying

theorem Moves.rekeying (moves : Moves law effects before after)
    (spared : ∀ effect ∈ effects, effect.dropsHandshakes = false) (holds : before.Rekeying) :
    after.Rekeying :=
  moves.invariant Rekeying holds
    (fun effect member _ _ move => move.core.rekeying (spared effect member))

theorem Moves.flagged_same (moves : Moves law effects before after)
    (spared : ∀ effect ∈ effects, effect.touchesFlags = false) (peer : Address) :
    after.flagged peer = before.flagged peer :=
  moves.unchanged (fun node => node.flagged peer)
    (fun effect member _ _ move => move.core.flagged_same (spared effect member) peer)

theorem Quiet.rekeying (quiet : Quiet law before after) (holds : before.Rekeying) :
    after.Rekeying := by
  unfold Rekeying
  rw [quiet.core]
  exact holds

theorem Quiet.flagged_same (quiet : Quiet law before after) (peer : Address) :
    after.flagged peer = before.flagged peer := by
  unfold flagged
  rw [quiet.core]

/-- Whether a restart as responder cannot answer the first message, so that only the old
handshake is gone. -/
def restartFails (node : Node) (peer : Address) (message : Bytes) : Bool :=
  let created := HandshakeXX.new .responder node.id (prologue peer node.address) node.rng
  match HandshakeXX.run (HandshakeXX.readMessage1 message) created.2 with
  | (_, .error _) => true
  | (read, .ok _) =>
    match HandshakeXX.run (HandshakeXX.writeMessage2 [node.cfg.role.toU8]) read with
    | (_, .error _) => true
    | (_, .ok _) => false

/-- Whether a completed handshake yields no session. -/
def finishFails (hs : HandshakeXX) : Bool :=
  match hs.finish with
  | .error _ => true
  | .ok _ => false

/-- Whether a second message makes the initiator drop its handshake: the message is
authentic, but from another identity or without a session at the end. -/
def dropsAtSecond (node : Node) (peer : Address) (message : Bytes) : Bool :=
  match node.handshakes.get peer with
  | none => false
  | some pending =>
    if pending.hs.role ≠ .initiator then false
    else
      match HandshakeXX.run (HandshakeXX.readMessage2 message) pending.hs with
      | (_, .error _) => false
      | (read, .ok _) =>
        if read.remote.map PublicIdentity.address ≠ some peer then true
        else
          match HandshakeXX.run (HandshakeXX.writeMessage3 [node.cfg.role.toU8]) read with
          | (_, .error _) => false
          | (hs, .ok _) => finishFails hs

/-- Whether a third message makes the responder drop its handshake. -/
def dropsAtThird (node : Node) (peer : Address) (message : Bytes) : Bool :=
  match node.handshakes.get peer with
  | none => false
  | some pending =>
    if pending.hs.role ≠ .responder then false
    else
      match HandshakeXX.run (HandshakeXX.readMessage3 message) pending.hs with
      | (_, .error _) => false
      | (hs, .ok _) =>
        if hs.remote.map PublicIdentity.address ≠ some peer then true else finishFails hs

/-- Whether a handshake packet makes the node drop the handshake with its sender. -/
def dropsHandshake (node : Node) (packet : Packet) : Bool :=
  let peer := packet.header.src
  match packet.payload with
  | [] => false
  | number :: message =>
    match HandshakeMessage.fromU8 number with
    | none => false
    | some .one => node.restarts peer message && node.restartFails peer message
    | some .two => node.dropsAtSecond peer message
    | some .three => node.dropsAtThird peer message

/-- Dropping the handshake of a peer whose session is not marked. -/
theorem abandon_rekeying (rng : Rng) {peer : Address} (holds : node.Rekeying)
    (unmarked : node.flagged peer = false) :
    Rekeying { node with rng := rng, handshakes := node.handshakes.remove peer } :=
  Core.Rekeying.removeHandshake holds unmarked

theorem restartHandshake_rekeying {queued : List QueuedSend} (now : Nat) (holds : node.Rekeying)
    (safe : node.restartFails peer message = true → node.flagged peer = false) :
    (node.restartHandshake peer message queued now).1.Rekeying := by
  have replaced (rng : Rng) (pending : PendingHandshake) : Rekeying { node with
      rng := rng
      handshakes := (node.handshakes.remove peer).insert peer pending } := by
    rw [insert_remove]
    exact Core.Rekeying.insertHandshake holds peer pending
  unfold restartHandshake
  unfold restartFails at safe
  simp only at safe ⊢
  split
  · rename_i failed
    rw [failed] at safe
    exact node.abandon_rekeying _ holds (safe rfl)
  · rename_i read payload passed
    rw [passed] at safe
    simp only at safe
    split
    · rename_i failed
      rw [failed] at safe
      exact node.abandon_rekeying _ holds (safe rfl)
    · exact replaced _ _

theorem responderStart_rekeying (holds : node.Rekeying)
    (safe : (node.restarts peer message && node.restartFails peer message) = true →
      node.flagged peer = false) : (node.responderStart peer message now).1.Rekeying := by
  rw [responderStart_eq]
  split
  · rename_i restarted
    rw [restarted, Bool.true_and] at safe
    exact node.restartHandshake_rekeying peer message now holds safe
  · exact holds

theorem finishHandshake_rekeying {pending : PendingHandshake}
    {m3 : Option Bytes} (now : Nat) (foreign : peer ≠ node.address)
    (checked : pending.hs.remote.map PublicIdentity.address = some peer) (holds : node.Rekeying)
    (safe : finishFails pending.hs = true → node.flagged peer = false) :
    (node.finishHandshake peer pending m3 now).1.Rekeying := by
  unfold finishFails at safe
  cases finished : pending.hs.finish with
  | error _ =>
    rw [finished] at safe
    unfold finishHandshake
    rw [finished]
    exact node.abandon_rekeying node.rng holds (safe rfl)
  | ok result =>
    have moves : Moves False Effects.installing node _ :=
      (node.finishHandshake_installs peer pending
      m3 now result.1 result.2 finished foreign checked).moves
    exact Moves.rekeying moves (by decide) holds

theorem initiatorContinue_rekeying (foreign : peer ≠ node.address) (holds : node.Rekeying)
    (safe : node.dropsAtSecond peer message = true → node.flagged peer = false) :
    (node.initiatorContinue peer message now).1.Rekeying := by
  unfold initiatorContinue
  unfold dropsAtSecond at safe
  cases found : node.handshakes.get peer with
  | none => exact holds
  | some pending =>
    rw [found] at safe
    have kept (hs : HandshakeXX) : Rekeying { node with
        handshakes := node.handshakes.insert peer { pending with hs := hs } } :=
      Core.Rekeying.insertHandshake holds peer _
    simp only at safe ⊢
    split
    · exact holds
    · rename_i initiator
      rw [if_neg initiator] at safe
      split
      · exact kept _
      · rename_i read _ passed
        simp only [passed] at safe
        split
        · rename_i stranger
          rw [if_pos stranger] at safe
          exact node.abandon_rekeying node.rng holds (safe rfl)
        · rename_i checked
          rw [if_neg checked] at safe
          split
          · exact kept _
          · rename_i hs m3 written
            simp only [written] at safe
            refine node.finishHandshake_rekeying peer now foreign ?_ holds safe
            change hs.remote.map PublicIdentity.address = some peer
            rw [HandshakeXX.writeMessage3_remote written]
            exact not_not.mp checked

theorem responderFinish_rekeying (foreign : peer ≠ node.address) (holds : node.Rekeying)
    (safe : node.dropsAtThird peer message = true → node.flagged peer = false) :
    (node.responderFinish peer message now).Rekeying := by
  unfold responderFinish
  unfold dropsAtThird at safe
  cases found : node.handshakes.get peer with
  | none => exact holds
  | some pending =>
    rw [found] at safe
    simp only at safe ⊢
    split
    · exact holds
    · rename_i responder
      rw [if_neg responder] at safe
      split
      · exact Core.Rekeying.insertHandshake holds peer _
      · rename_i hs _ passed
        simp only [passed] at safe
        split
        · rename_i stranger
          rw [if_pos stranger] at safe
          exact node.abandon_rekeying node.rng holds (safe rfl)
        · rename_i checked
          rw [if_neg checked] at safe
          exact node.finishHandshake_rekeying peer now foreign (not_not.mp checked) holds safe

theorem handleHandshake_rekeying
    (foreign : packet.header.src ≠ node.address) (holds : node.Rekeying)
    (safe : node.dropsHandshake packet = true → node.flagged packet.header.src = false) :
    (node.handleHandshake packet now).Rekeying := by
  unfold handleHandshake
  unfold dropsHandshake at safe
  cases payload : packet.payload with
  | nil => exact holds
  | cons number message =>
    simp only [payload] at safe ⊢
    cases kind : HandshakeMessage.fromU8 number with
    | none => exact holds
    | some step =>
      rw [kind] at safe
      cases step with
      | one =>
        have started := node.responderStart_rekeying packet.header.src message now holds safe
        simp only
        split
        · rename_i state m2 outcome
          rw [outcome] at started
          have sent : Quiet False state _ :=
            state.sendHandshakePacket_quiet packet.header.src .two m2 now
          exact sent.rekeying started
        · rename_i outcome
          rw [outcome] at started
          exact started
      | two => exact node.initiatorContinue_rekeying _ message now foreign holds safe
      | three => exact node.responderFinish_rekeying _ message now foreign holds safe

/-- A piggybacked first message is answered only without a session, hence for a peer that
is not marked. -/
theorem answerAsTarget_rekeying (request : RouteRequest)
    (wantKey : Bool) (now : Nat) (holds : node.Rekeying) :
    (node.answerAsTarget packet request wantKey now).Rekeying := by
  have replied (state : Node) (reply : RouteReply) (kept : state.Rekeying) :
      (state.sendRouteReply packet.header.src reply now).Rekeying := by
    have sent : Quiet False state _ := state.sendRouteReply_quiet packet.header.src reply now
    exact sent.rekeying kept
  simp only [answerAsTarget]
  split
  · rename_i piggybacked
    have unknown : node.sessions.contains packet.header.src = false := by
      simp only [Bool.and_eq_true, Bool.not_eq_true'] at piggybacked
      exact piggybacked.2
    have unmarked : node.flagged packet.header.src = false := by
      have absent : node.sessions.get packet.header.src = none :=
        get_eq_none (by rw [unknown]; exact Bool.false_ne_true)
      change Core.flagged node.core packet.header.src = false
      unfold Core.flagged
      rw [show node.core.sessions = node.sessions from rfl, absent]
    exact replied _ _ (node.responderStart_rekeying _ _ now holds (fun _ => unmarked))
  · exact replied _ _ holds

theorem handleRouteRequest_rekeying {prev : Option Address}
    (rxMeta : RxMeta) {now : Nat} (heard : node.Heard packet.header) (holds : node.Rekeying) :
    (node.handleRouteRequest packet prev rxMeta now).Rekeying := by
  have handled : Reroutes False node _ ∨ _ :=
    node.handleRouteRequest_cases packet prev rxMeta now heard
  rcases handled with quiet | ⟨learned, request, wantKey, quiet, answered⟩
  · exact Moves.rekeying quiet (by decide) holds
  · rw [answered]
    exact learned.answerAsTarget_rekeying packet request wantKey now
      (Moves.rekeying quiet (by decide) holds)

/-- Whether a reply carries a second message that makes the node drop its handshake. -/
def dropsInReply (node : Node) (packet : Packet) (prev : Option Address) (now : Nat) : Bool :=
  match RouteReply.decode packet.payload with
  | .error _ => false
  | .ok reply =>
    !reply.handshake.isEmpty && packet.header.src == reply.target &&
      (node.foundRoute packet reply prev now).1.dropsAtSecond reply.target reply.handshake

theorem handleRouteReply_rekeying {prev : Option Address}
    {now : Nat} (foreign : packet.header.src ≠ node.address) (holds : node.Rekeying)
    (safe : node.dropsInReply packet prev now = true → node.flagged packet.header.src = false) :
    (node.handleRouteReply packet prev now).Rekeying := by
  unfold handleRouteReply
  unfold dropsInReply at safe
  cases decoded : RouteReply.decode packet.payload with
  | error _ => exact holds
  | ok reply =>
    rw [decoded] at safe
    simp only at safe ⊢
    have found : Moves False Effects.learning node (node.foundRoute packet reply prev now).1 :=
      (node.foundRoute_seals packet reply prev now).moves
    have foundHolds := Moves.rekeying found (by decide) holds
    have sameFlags := Moves.flagged_same found (by decide) packet.header.src
    have sameAddress := Moves.address found
    revert safe found foundHolds sameFlags sameAddress
    generalize node.foundRoute packet reply prev now = result
    intro safe found foundHolds sameFlags sameAddress
    obtain ⟨reported, queue⟩ := result
    have routed (state : Node) (chosen : List Packet) (kept : state.Rekeying) :
        (chosen.foldl (routeParked now) state).Rekeying := by
      have quiet : Quiet False state _ := state.routeAllParked_quiet chosen now False.elim
      exact quiet.rekeying kept
    refine routed _ _ ?_
    split
    · rename_i piggybacked
      simp only [Bool.and_eq_true, beq_iff_eq] at piggybacked
      rw [← piggybacked.2] at safe ⊢
      refine reported.initiatorContinue_rekeying _ _ now ?_ foundHolds ?_
      · rw [sameAddress]
        exact foreign
      · intro drops
        rw [sameFlags]
        refine safe ?_
        simp only [piggybacked.1, drops, beq_self_eq_true, Bool.and_self]
    · exact foundHolds

theorem failHandshake_rekeying (holds : node.Rekeying)
    (unmarked : node.flagged target = false) : (node.failHandshake target).Rekeying := by
  unfold failHandshake
  split
  · exact holds
  · rename_i pending _
    have reported : Moves False [.report]
        { node with handshakes := node.handshakes.remove target } _ := emitAll_moves _
      ((pending.queued.filter (fun send => send.handle != 0 && send.handle != queuedStore)).map
        (fun send => NodeEvent.failed send.handle send.dst .noRoute))
    exact Moves.rekeying reported (by decide) (node.abandon_rekeying node.rng holds unmarked)

theorem onDiscoveryFailed_rekeying {queued : List Packet}
    (now : Nat) (holds : node.Rekeying) (unmarked : node.flagged target = false) :
    (node.onDiscoveryFailed target queued now).Rekeying := by
  simp only [onDiscoveryFailed]
  generalize (node.neighbors.bestAnchor.map Neighbor.addr).filter
    (fun addr => addr != node.address) = anchor
  have parked : Moves False _ node _ := failAllParked_moves target anchor now node queued
  have parkedHolds := Moves.rekeying parked (by decide) holds
  have sameFlags := Moves.flagged_same parked (by decide) target
  generalize queued.foldl (failParked target anchor now) node = state at parkedHolds sameFlags
  have unlinked := state.failHandshake_rekeying target parkedHolds (sameFlags.trans unmarked)
  have tracked : Moves False _ (state.failHandshake target) _ := failTracked_moves _ target
  have envelopes : Moves False _ ((state.failHandshake target).failTracked target) _ :=
    failEnvelopes_moves _ target
  exact Moves.rekeying envelopes (by decide) (Moves.rekeying tracked (by decide) unlinked)

theorem onDiscoveryFailed_flagged {queued : List Packet} (now : Nat) {peer : Address} :
    (node.onDiscoveryFailed target queued now).flagged peer = node.flagged peer := by
  have moves : Moves False _ node _ := node.onDiscoveryFailed_moves target queued now
  exact Moves.flagged_same moves (by decide) peer

/-- Giving up on destinations none of which is marked. -/
theorem giveUp_rekeying {failures : List (Address × List Packet)} (node : Node)
    (holds : node.Rekeying) (unmarked : ∀ failure ∈ failures, node.flagged failure.1 = false) :
    (failures.foldl (giveUpDiscovery now) node).Rekeying := by
  induction failures generalizing node with
  | nil => exact holds
  | cons failure rest ih =>
    refine ih _ ?_ ?_
    · exact node.onDiscoveryFailed_rekeying _ now holds (unmarked failure mem_cons_self)
    · intro other member
      exact (node.onDiscoveryFailed_flagged _ now).trans (unmarked other (mem_cons_of_mem _ member))

theorem pollDiscovery_rekeying (holds : node.Rekeying)
    (unmarked : ∀ failure ∈ (node.ierp.tick now node.rng).failures,
      node.flagged failure.1 = false) : (node.pollDiscovery now).Rekeying := by
  have repeated : Quiet False node _ := node.repeatRequests_quiet now
  refine giveUp_rekeying now _ (repeated.rekeying holds) ?_
  intro failure member
  exact (repeated.flagged_same _).trans (unmarked failure member)

/-- A handshake that took too long is dropped for a peer that is not marked. -/
theorem expireHandshake_rekeying (holds : node.Rekeying)
    (unmarked : node.flagged peer = false) : (node.expireHandshake peer).Rekeying := by
  unfold expireHandshake
  split
  · exact holds
  · rename_i pending _
    have reported : Moves False [.report]
        { node with handshakes := node.handshakes.remove peer } _ := emitAll_moves _ pending.reports
    exact Moves.rekeying reported (by decide) (node.abandon_rekeying node.rng holds unmarked)

theorem pollHandshakeExpire_rekeying (holds : node.Rekeying)
    (unmarked : ∀ entry ∈ node.handshakes.entries, node.handshakeExpired now entry = true →
      node.flagged entry.1 = false) : (node.pollHandshakeExpire now).Rekeying := by
  have expired (peers : List Address) (state : Node) (kept : state.Rekeying)
      (free : ∀ peer ∈ peers, state.flagged peer = false) :
      (peers.foldl expireHandshake state).Rekeying := by
    induction peers generalizing state with
    | nil => exact kept
    | cons peer rest ih =>
      have moves : Moves False _ state _ := state.expireHandshake_moves peer
      refine ih _ ?_ ?_
      · exact state.expireHandshake_rekeying peer kept (free peer mem_cons_self)
      · intro other member
        exact (Moves.flagged_same moves (by decide) other).trans
          (free other (mem_cons_of_mem _ member))
  refine expired _ node holds ?_
  intro peer member
  obtain ⟨entry, chosen, rfl⟩ := mem_map.mp member
  obtain ⟨present, late⟩ := mem_filter.mp chosen
  exact unmarked entry present late

/-- The sessions after at most a number of messages were sent in them: age and mark stay,
the counters grow by at most that number. -/
def GrownBy (count : Nat) (before after : Node) : Prop :=
  ∀ peer session, after.sessions.get peer = some session →
    ∃ earlier, before.sessions.get peer = some earlier ∧
      session.establishedAt = earlier.establishedAt ∧
      session.rekeyInProgress = earlier.rekeyInProgress ∧
      session.sent ≤ earlier.sent + count ∧ session.sendCtr ≤ earlier.sendCtr + count

namespace GrownBy

section

omit [Primitives]

theorem ofSame (same : after.sessions = before.sessions) : GrownBy 0 before after := by
  intro peer session found
  exact ⟨session, same ▸ found, rfl, rfl, Nat.le_refl _, Nat.le_refl _⟩

theorem trans {middle : Node} {few many : Nat} (first : GrownBy few before middle)
    (second : GrownBy many middle after) : GrownBy (few + many) before after := by
  intro peer session found
  obtain ⟨between, present, age, mark, sent, counter⟩ := second peer session found
  obtain ⟨earlier, start, startAge, startMark, startSent, startCounter⟩ :=
    first peer between present
  exact ⟨earlier, start, age.trans startAge, mark.trans startMark, by omega, by omega⟩

theorem mono {few many : Nat} (grown : GrownBy few before after) (fewer : few ≤ many) :
    GrownBy many before after := by
  intro peer session found
  obtain ⟨earlier, start, age, mark, sent, counter⟩ := grown peer session found
  exact ⟨earlier, start, age, mark, by omega, by omega⟩

/-- A loop whose body sends at most a number of messages. -/
theorem foldl {α : Type} {body : Node → α → Node} {count : Nat} (items : List α) (first : Node)
    (each : ∀ node item, GrownBy count node (body node item)) :
    GrownBy (count * items.length) first (items.foldl body first) := by
  induction items generalizing first with
  | nil => exact ofSame rfl
  | cons head rest ih =>
    refine ((each first head).trans (ih (body first head))).mono ?_
    rw [length_cons, Nat.mul_add, Nat.mul_one]
    omega

end

end GrownBy

theorem sendSessionPacket_grown {dst : Address} {ptype : PacketType} {body : Bytes}
    {seq : UInt16} {ackRequest : Bool} {now : Nat} :
    GrownBy 1 node (node.sendSessionPacket dst ptype body seq ackRequest now).1 := by
  have outcome : _ ∧ Quiet False node _ ∨ _ :=
    node.sendSessionPacket_cases dst ptype body seq ackRequest now
  rcases outcome with ⟨_, quiet⟩ | ⟨session, aad, prepared, present, sameSessions, quiet, sent⟩
  · exact (GrownBy.ofSame (congrArg Core.sessions quiet.core)).mono (Nat.zero_le 1)
  · intro peer later found
    rw [show (node.sendSessionPacket dst ptype body seq ackRequest now).1.sessions =
      prepared.sessions.insert dst (session.encrypt now aad body).1 from
        congrArg Core.sessions sent.core, sameSessions] at found
    by_cases same : peer = dst
    · subst same
      rw [get_insert_self] at found
      cases found
      refine ⟨session, present, ?_⟩
      unfold Session.encrypt
      split
      · exact ⟨rfl, rfl, Nat.le_succ _, Nat.le_succ _⟩
      · exact ⟨rfl, rfl, Nat.le_refl _, Nat.le_refl _⟩
    · rw [get_insert_of_ne _ _ same] at found
      exact ⟨later, found, rfl, rfl, Nat.le_succ _, Nat.le_succ _⟩

theorem sendStore_grown (anchor dst : Address) (envelopeId : UInt32)
    (envelope : Bytes) (now : Nat) :
    GrownBy 1 node (node.sendStore anchor dst envelopeId envelope now) := by
  simp only [sendStore]
  split
  · exact sendSessionPacket_grown _
  · refine (GrownBy.ofSame ?_).mono (Nat.zero_le 1)
    have waited (state : Node) (send : QueuedSend) :
        ((state.startHandshake anchor now).pushQueued anchor send).sessions = state.sessions := by
      have started : Moves False _ state _ := state.startHandshake_moves anchor now
      have queued : Moves False _ (state.startHandshake anchor now) _ :=
        pushQueued_moves _ anchor send
      exact (queued.sessions_same (by decide)).trans (started.sessions_same (by decide))
    exact waited _ _

theorem flushMailboxTo_sessions (dst : Address) (now : Nat) :
    (node.flushMailboxTo dst now).sessions = node.sessions := by
  have moves : Moves False _ node _ := node.flushMailboxTo_moves dst now
  exact moves.sessions_same (by decide)

theorem serveDestination_grown (node : Node) (dst : Address) :
    GrownBy 2 node (serveDestination now node dst) := by
  have idle : GrownBy 2 node node := (GrownBy.ofSame rfl).mono (Nat.zero_le 2)
  unfold serveDestination
  split
  · exact (GrownBy.ofSame (node.flushMailboxTo_sessions dst now)).mono (Nat.zero_le 2)
  · split
    · exact idle
    · split
      · rename_i host _
        unfold handOver
        split
        · exact idle
        · rename_i mailbox _
          have few := Mailbox.takeFrom_length mailbox.cfg dst now 2 mailbox.entries
          have handed := GrownBy.foldl (mailbox.takeDeliverable dst now 2).2
            (node.withMailbox (mailbox.takeDeliverable dst now 2).1)
            (fun state item => state.sendStore_grown host dst item.1 item.2 now)
          rw [Nat.one_mul] at handed
          exact handed.mono few
      · exact idle

/-- The number of destinations with mail that a service finds alive. -/
def servedDestinations (node : Node) (now : Nat) : Nat :=
  match node.mailbox with
  | none => 0
  | some mailbox => (mailbox.gc now).destinations.length

/-- Serving mail sends at most two messages for each destination. -/
theorem serveMailbox_grown :
    GrownBy (2 * node.servedDestinations now) node (node.serveMailbox now) := by
  unfold serveMailbox servedDestinations
  cases node.mailbox with
  | none => exact GrownBy.ofSame rfl
  | some mailbox =>
    exact GrownBy.foldl (mailbox.gc now).destinations (node.withMailbox (mailbox.gc now))
      (serveDestination_grown now)

/-- Marking sessions changes nothing but their mark. -/
theorem rekeySession_sessions (node : Node) (peer : Address) :
    (rekeySession now node peer).sessions = node.sessions.modify peer (fun session =>
      { session with rekeyInProgress := true }) := by
  have started : Moves False _ { node with sessions := node.sessions.modify peer (fun session =>
      { session with rekeyInProgress := true }) } _ := startHandshake_moves _ peer now
  exact started.sessions_same (by decide)

/-- After a loop of rekeys every chosen session is marked and the limits are unchanged. -/
theorem rekeyLoop_marks {peers : List Address} (node : Node) {peer : Address} {session : Session}
    (found : (peers.foldl (rekeySession now) node).sessions.get peer = some session) :
    ∃ earlier, node.sessions.get peer = some earlier ∧
      (∀ time limits, session.pastLimits time limits = earlier.pastLimits time limits) ∧
      (earlier.rekeyInProgress = true ∨ peer ∈ peers → session.rekeyInProgress = true) := by
  induction peers generalizing node with
  | nil =>
    refine ⟨session, found, fun _ _ => rfl, ?_⟩
    rintro (marked | impossible)
    · exact marked
    · cases impossible
  | cons head rest ih =>
    obtain ⟨middle, present, sameLimits, marks⟩ := ih _ found
    rw [rekeySession_sessions] at present
    by_cases same : peer = head
    · subst same
      rw [get_modify_self] at present
      obtain ⟨earlier, start, rfl⟩ := Option.map_eq_some_iff.mp present
      exact ⟨earlier, start, sameLimits, fun _ => marks (.inl rfl)⟩
    · rw [get_modify_of_ne _ _ same] at present
      refine ⟨middle, present, sameLimits, ?_⟩
      rintro (marked | member)
      · exact marks (.inl marked)
      · rcases mem_cons.mp member with isHead | later
        · exact absurd isHead same
        · exact marks (.inr later)

/-- After the rekeys of a housekeeping pass every session past a limit is marked. -/
theorem rekeySessions_marks {peer : Address} {session : Session}
    (found : (node.rekeySessions now).sessions.get peer = some session)
    (past : session.pastLimits now node.cfg.session = true) :
    session.rekeyInProgress = true := by
  obtain ⟨earlier, start, sameLimits, marks⟩ := rekeyLoop_marks now node found
  rw [sameLimits] at past
  cases marked : earlier.rekeyInProgress with
  | true => exact marks (.inl marked)
  | false =>
    refine marks (.inr (mem_map.mpr ⟨(peer, earlier), mem_filter.mpr ⟨?_, ?_⟩, rfl⟩))
    · exact (get_eq_some_iff _ _ _).mp start
    · simp only [Session.needsRekey, marked, past, Bool.not_false, Bool.and_self]

/-- The discoveries a poll gives up. -/
def failedDiscoveries (node : Node) (time : Nat) : List (Address × List Packet) :=
  let radio := (node.powered time).pollRadio (max node.now time)
  (radio.ierp.tick (max node.now time) radio.rng).failures

/-- The node in which a poll looks for handshakes that took too long. -/
def beforeExpiry (node : Node) (time : Nat) : Node :=
  ((((node.powered time).pollRadio (max node.now time)).pollDiscovery
    (max node.now time)).pollTransport (max node.now time)).pollHandshakeResend (max node.now time)

/-- Every session that is not marked has room for two messages for each destination whose
mail is served. -/
def HasRoom (node : Node) (now : Nat) : Prop :=
  ∀ peer session, node.sessions.get peer = some session → session.rekeyInProgress = false →
    session.sent + 2 * node.servedDestinations now < node.cfg.session.maxMessages ∧
      session.sendCtr + 2 * node.servedDestinations now < counterRekeyThreshold

/-- No handshake of a marked peer is dropped: the peer's messages are not refused, no
discovery for it is given up, its handshake does not take too long; and the mail served in
a housekeeping pass carries no session over its limits. -/
def CompletesRekeys (node : Node) : Operation → Prop
  | .receive frame rxMeta =>
    ∀ packet ready, node.incoming frame = some packet →
      (node.noted frame rxMeta packet).arrival packet rxMeta (max node.now rxMeta.timestampMs) =
        some ready →
      packet.header.dst = node.address → node.flagged packet.header.src = true →
      (packet.header.ptype = .handshake →
        (ready.engaged packet (max node.now rxMeta.timestampMs)).dropsHandshake packet = false) ∧
      (packet.header.ptype = .routeReply →
        (ready.overhearReply packet).dropsInReply packet
          ((node.noted frame rxMeta packet).transmitterOf packet)
          (max node.now rxMeta.timestampMs) = false)
  | .poll time =>
    (node.powered time).power.awake = true →
      (∀ failure ∈ node.failedDiscoveries time, node.flagged failure.1 = false) ∧
      (∀ entry ∈ (node.beforeExpiry time).handshakes.entries,
        (node.beforeExpiry time).handshakeExpired (max node.now time) entry = true →
          node.flagged entry.1 = false) ∧
      (node.housekeeps time = true → (node.beforeService time).HasRoom (max node.now time))
  | _ => True

theorem receive_rekeying {frame : Bytes} {rxMeta : RxMeta}
    (completes : node.CompletesRekeys (.receive frame rxMeta)) (holds : node.Rekeying) :
    (node.onRadioRx frame rxMeta).Rekeying := by
  rcases node.onRadioRx_handling frame rxMeta with ⟨_, quiet⟩ |
    ⟨packet, incoming, foreign, handling⟩
  · exact Moves.rekeying quiet (by decide) holds
  · have notedHolds : (node.noted frame rxMeta packet).Rekeying := holds
    have safe := fun ready => completes packet ready incoming
    generalize node.onRadioRx frame rxMeta = after at handling
    cases handling with
    | ordinary _ moves => exact Moves.rekeying moves (by decide) notedHolds
    | notice active quiet _ =>
      have moved : Moves False _ active _ :=
        active.onNoSessionNotice_moves packet.header.src (node.clock rxMeta)
      exact Moves.rekeying moved (by decide) (Moves.rekeying quiet (by decide) notedHolds)
    | ack ready quiet _ _ _ =>
      have engaged := quiet.trans (ready.engaged_quiet packet (node.clock rxMeta))
      have moved : Moves False _ (ready.engaged packet (node.clock rxMeta)) _ :=
        handleAck_moves _ packet (node.clock rxMeta)
      exact Moves.rekeying moved (by decide) (Moves.rekeying engaged (by decide) notedHolds)
    | control ready quiet _ _ _ _ =>
      have engaged := quiet.trans (ready.engaged_quiet packet (node.clock rxMeta))
      have moved : Moves False _ (ready.engaged packet (node.clock rxMeta)) _ :=
        handleControl_moves _ packet (node.clock rxMeta)
      exact Moves.rekeying moved (by decide) (Moves.rekeying engaged (by decide) notedHolds)
    | handshake ready quiet arrived mine kind =>
      have engaged := quiet.trans (ready.engaged_quiet packet (node.clock rxMeta))
      refine handleHandshake_rekeying _ packet _ ?_
        (Moves.rekeying engaged (by decide) notedHolds) ?_
      · rw [engaged.address]
        exact foreign
      · intro drops
        rw [Moves.flagged_same engaged (by decide)]
        by_contra marked
        have kept := (safe ready arrived mine (Bool.eq_true_of_not_eq_false marked)).1 kind
        exact Bool.false_ne_true (kept.symm.trans drops)
    | reply ready quiet arrived mine kind =>
      have overheard := quiet.trans (ready.overhearReply_quiet packet)
      refine handleRouteReply_rekeying _ packet ?_
        (Moves.rekeying overheard (by decide) notedHolds) ?_
      · rw [overheard.address]
        exact foreign
      · intro drops
        rw [Moves.flagged_same overheard (by decide)]
        by_contra marked
        have kept := (safe ready arrived mine (Bool.eq_true_of_not_eq_false marked)).2 kind
        exact Bool.false_ne_true (kept.symm.trans drops)
    | request ready quiet _ _ heard =>
      have overheard := quiet.trans (ready.overhearReply_quiet packet)
      exact handleRouteRequest_rekeying _ packet rxMeta (overheard.heard heard)
        (Moves.rekeying overheard (by decide) notedHolds)

/-- The timers of a poll keep the invariant, if no marked peer is given up. -/
theorem pollTimers_rekeying (holds : node.Rekeying)
    (found : ∀ failure ∈ node.failedDiscoveries time, node.flagged failure.1 = false)
    (prompt : ∀ entry ∈ (node.beforeExpiry time).handshakes.entries,
      (node.beforeExpiry time).handshakeExpired (max node.now time) entry = true →
        node.flagged entry.1 = false) :
    ((node.powered time).pollTimers (max node.now time)).Rekeying := by
  have powered : Moves False _ node _ := node.powered_moves time
  have radio : Moves False _ (node.powered time) _ :=
    pollRadio_moves _ (max node.now time) False.elim
  have discovered : Moves False _ ((node.powered time).pollRadio (max node.now time)) _ :=
    pollDiscovery_moves _ (max node.now time)
  have retried : Moves False _ (((node.powered time).pollRadio (max node.now time)).pollDiscovery
      (max node.now time)) _ := pollTransport_moves _ (max node.now time)
  have resent : Moves False _ ((((node.powered time).pollRadio (max node.now time)).pollDiscovery
      (max node.now time)).pollTransport (max node.now time)) (node.beforeExpiry time) :=
    pollHandshakeResend_moves _ (max node.now time)
  have traced : Moves False _ ((node.beforeExpiry time).pollHandshakeExpire
      (max node.now time)) _ :=
    pollTraces_moves _ (max node.now time)
  have radioFlags (peer : Address) :=
    (Moves.flagged_same radio (by decide) peer).trans (Moves.flagged_same powered (by decide) peer)
  have expiryFlags (peer : Address) := ((Moves.flagged_same resent (by decide) peer).trans
    (Moves.flagged_same retried (by decide) peer)).trans
      ((Moves.flagged_same discovered (by decide) peer).trans (radioFlags peer))
  have radioHolds := Moves.rekeying radio (by decide) (Moves.rekeying powered (by decide) holds)
  have discoveredHolds := pollDiscovery_rekeying _ (max node.now time) radioHolds
    (fun failure member => (radioFlags failure.1).trans (found failure member))
  have beforeHolds := Moves.rekeying resent (by decide)
    (Moves.rekeying retried (by decide) discoveredHolds)
  have expiredHolds := pollHandshakeExpire_rekeying _ (max node.now time) beforeHolds
    (fun entry member late => (expiryFlags entry.1).trans (prompt entry member late))
  exact Moves.rekeying traced (by decide) expiredHolds

theorem poll_rekeying (completes : node.CompletesRekeys (.poll time))
    (holds : node.Rekeying) : (node.poll time).Rekeying := by
  have powered : Moves False _ node _ := node.powered_moves time
  simp only [poll]
  split
  · exact Moves.rekeying powered (by decide) holds
  · rename_i waking
    have awake : (node.powered time).power.awake = true := by simpa using waking
    obtain ⟨found, prompt, _⟩ := completes awake
    have timed := node.pollTimers_rekeying time holds found prompt
    simp only [pollAwake]
    split
    · have kept : Moves False _ ((node.powered time).pollTimers (max node.now time)) _ :=
        housekeeping_moves _ (max node.now time)
      exact Moves.rekeying kept (by decide) timed
    · exact timed

theorem step_rekeying {operation : Operation}
    (completes : node.CompletesRekeys operation) (holds : node.Rekeying) :
    (node.step operation).Rekeying := by
  cases called : operation.isCall with
  | true => exact Moves.rekeying (node.call_moves called) (by decide) holds
  | false =>
    cases operation with
    | receive frame rxMeta => exact node.receive_rekeying completes holds
    | poll time => exact node.poll_rekeying time completes holds
    | _ => cases called

/-- When the mail is served, a session that is not marked is within its limits. -/
theorem beforeService_marks {peer : Address} {session : Session}
    (found : (node.beforeService time).sessions.get peer = some session)
    (past : session.pastLimits (max node.now time) node.cfg.session = true) :
    session.rekeyInProgress = true := by
  have powered : Moves False _ node _ := node.powered_moves time
  have timed : Moves False _ (node.powered time) _ :=
    pollTimers_moves _ (max node.now time) False.elim
  generalize isTimed : (node.powered time).pollTimers (max node.now time) = state at timed
  have sameCfg : state.cfg = node.cfg := (Moves.cfg timed).trans (Moves.cfg powered)
  have discovered : Quiet False (state.housekeepingSessions (max node.now time)) _ :=
    discoverKeys_quiet _ (max node.now time)
  have expired : Moves False _ ((state.housekeepingSessions (max node.now time)).discoverKeys
      (max node.now time)) _ := expireEnvelopes_moves _ (max node.now time)
  have sameSessions : (node.beforeService time).sessions =
      (state.housekeepingSessions (max node.now time)).sessions := by
    unfold beforeService
    rw [isTimed]
    exact (expired.sessions_same (by decide)).trans (congrArg Core.sessions discovered.core)
  have cleared : Moves False [.reroute, .survey, .report, .close] state
      (((state.expireCaches (max node.now time)).expireNeighbors (max node.now time)).expireSessions
        (max node.now time)) :=
    (((expireCaches_moves state _).mono (by decide)).trans
      ((expireNeighbors_moves _ _).mono (by decide))).trans
        ((expireSessions_moves _ _).mono (by decide))
  rw [sameSessions] at found
  refine rekeySessions_marks _ (max node.now time) found ?_
  rw [Moves.cfg cleared, sameCfg]
  exact past

omit [Primitives] in
theorem expireQueues_sessions : (node.expireQueues now).sessions = node.sessions := rfl

/-- At the end of a housekeeping pass with room for the mail, every session past a limit is
marked. -/
theorem housekept_marks (due : node.housekeeps time = true)
    (room : (node.beforeService time).HasRoom (max node.now time)) {peer : Address}
    {session : Session} (found : (node.poll time).sessions.get peer = some session)
    (past : session.pastLimits (max node.now time) node.cfg.session = true) :
    session.rekeyInProgress = true := by
  have sameCfg : (node.beforeService time).cfg = node.cfg := by
    have powered : Moves False _ node _ := node.powered_moves time
    have timed : Moves False _ (node.powered time) _ :=
      pollTimers_moves _ (max node.now time) False.elim
    have early : Moves False _ ((node.powered time).pollTimers (max node.now time)) _ :=
      housekeepingEarly_moves _ (max node.now time)
    exact (Moves.cfg early).trans ((Moves.cfg timed).trans (Moves.cfg powered))
  rw [poll_housekeeping due, expireQueues_sessions] at found
  obtain ⟨earlier, present, age, mark, sent, counter⟩ :=
    (node.beforeService time).serveMailbox_grown (max node.now time) peer session found
  rw [mark]
  by_contra unmarked
  have unmarked : earlier.rekeyInProgress = false := Bool.eq_false_of_not_eq_true unmarked
  obtain ⟨fewSent, lowCounter⟩ := room peer earlier present unmarked
  rw [sameCfg] at fewSent
  have within : earlier.pastLimits (max node.now time) node.cfg.session = false := by
    by_contra exceeded
    exact Bool.false_ne_true (unmarked.symm.trans
      (node.beforeService_marks time present (Bool.eq_true_of_not_eq_false exceeded)))
  simp only [Session.pastLimits, age, Bool.or_eq_true, decide_eq_true_eq, ge_iff_le] at past
  simp only [Session.pastLimits, Bool.or_eq_false_iff, decide_eq_false_iff_not] at within
  omega

/-- In every run in which no handshake of a marked peer is dropped, every marked session has
a handshake pending, and after a housekeeping pass so has every session past a limit. -/
theorem rekeyed_sessions_pending (config : NodeConfig) (id : Identity) (rng : Rng) (start : Nat)
    (node : Node) (run : Run CompletesRekeys (new config id rng start) node) :
    (∀ peer session, node.sessions.get peer = some session → session.rekeyInProgress = true →
      node.handshakes.contains peer = true) ∧
    ∀ time, node.CompletesRekeys (.poll time) → node.housekeeps time = true →
      ∀ peer session, (node.poll time).sessions.get peer = some session →
        session.pastLimits (max node.now time) node.cfg.session = true →
        (node.poll time).handshakes.contains peer = true := by
  have holds : node.Rekeying := by
    refine run.invariant Rekeying ⟨rfl, ?_⟩
      (fun before operation completes kept => before.step_rekeying completes kept)
    intro peer marked
    cases marked
  have pending (state : Node) (kept : state.Rekeying) (peer : Address) (session : Session)
      (found : state.sessions.get peer = some session) (marked : session.rekeyInProgress = true) :
      state.handshakes.contains peer = true := by
    refine (contains_eq_true_iff _ _).mpr (kept.pending peer ?_)
    exact Core.flagged_iff.mpr ⟨session, found, marked⟩
  refine ⟨pending node holds, ?_⟩
  intro time completes due peer session found past
  have awake : (node.powered time).power.awake = true := by
    simp only [housekeeps, Bool.and_eq_true] at due
    exact due.1
  obtain ⟨_, _, room⟩ := completes awake
  exact pending _ (node.poll_rekeying time completes holds) peer session found
    (node.housekept_marks time due (room due) found past)

end Node

end MeshStar

namespace MeshStar

local instance rekeyingSuite : Primitives := Transparent.primitives

open Transparent

namespace Rekeying

/-- A host whose sessions are replaced after a minute. -/
def config : NodeConfig :=
  { NodeConfig.default with session := { SessionLimits.default with maxAgeMs := 60000 } }

def host : Node := Node.new config (identity 1) generator 0

def peer : Address := (identity 2).address

/-- The host after the peer opened a session with it. -/
def met : Node := (Partner.meet (identity 2) host 10).2

/-- The host after it began to replace the session. -/
def aged : Node := met.step (.poll 70000)

/-- The host after it gave up the handshake that the peer never answered. -/
def expired : Node := aged.step (.poll 200000)

theorem expired_run : Node.Run Node.Unrestricted host expired :=
  .step _ (.step _ Partner.meet_run trivial) trivial

/-- Without a marked session every received frame meets the condition. -/
theorem receive_completes {node : Node} (vacant : node.sessions.entries = []) {frame : Bytes}
    {rxMeta : RxMeta} : node.CompletesRekeys (.receive frame rxMeta) := by
  intro packet ready _ _ _ marked
  obtain ⟨session, found, _⟩ := Core.flagged_iff.mp marked
  have member := (OrderedMap.get_eq_some_iff _ _ _).mp found
  have vacant : node.core.sessions.entries = [] := vacant
  rw [vacant] at member
  cases member

theorem met_run : Node.Run Node.CompletesRekeys host met :=
  Partner.meet_permitted _ _ _ .refl (fun _ => receive_completes (by decide +kernel))
    (fun _ => receive_completes (by decide +kernel))

theorem aged_run : Node.Run Node.CompletesRekeys host aged := by
  refine .step _ met_run ?_
  intro _
  refine ⟨by decide +kernel, by decide +kernel, ?_⟩
  intro _ other session found _
  have roomy : ∀ entry ∈ (met.beforeService 70000).sessions.entries,
      entry.2.sent + 2 * (met.beforeService 70000).servedDestinations 70000 <
        (met.beforeService 70000).cfg.session.maxMessages ∧
      entry.2.sendCtr + 2 * (met.beforeService 70000).servedDestinations 70000 <
        counterRekeyThreshold := by decide +kernel
  have arrived : max met.now 70000 = 70000 := by decide +kernel
  rw [arrived]
  exact roomy (other, session) ((OrderedMap.get_eq_some_iff _ _ _).mp found)

end Rekeying

open Rekeying

/-- A peer that leaves the host's rekey handshake unanswered is never rekeyed again: the
handshake times out, the session stays marked, and housekeeping leaves it past its age with
no handshake pending. -/
theorem rekey_mark_outlives_handshake :
    Node.Run Node.Unrestricted host expired ∧ aged.housekeeps 200000 = true ∧
      expired = aged.poll 200000 ∧
      (expired.sessions.get peer).map (fun session => (session.rekeyInProgress,
        session.pastLimits 200000 config.session)) = some (true, true) ∧
      expired.handshakes.contains peer = false :=
  ⟨expired_run, by decide +kernel, rfl, by decide +kernel, by decide +kernel⟩

/-- As long as the handshake is not given up, the aged session is the marked one. -/
theorem rekeyed_sessions_pending_aged :
    (aged.sessions.get peer).map Session.rekeyInProgress = some true ∧
      aged.handshakes.contains peer = true := by
  have marked : (aged.sessions.get peer).map Session.rekeyInProgress = some true := by
    decide +kernel
  obtain ⟨session, found, flag⟩ := Option.map_eq_some_iff.mp marked
  exact ⟨marked, (Node.rekeyed_sessions_pending config (identity 1)
    generator 0 aged aged_run).1 peer session found flag⟩

end MeshStar

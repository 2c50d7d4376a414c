import MeshStar.Node.TimerEffects

/-!
# Frames of the effects, and the handlers that matter

Which part of the core each effect can touch, and a classification of what a received
packet leads to. Most packets are ordinary: they remove no tracked message, no mail, no
session and no pending handshake. The others reach one of six handlers in a state whose
core is the one before the packet.
-/

namespace MeshStar

open List

variable [Primitives]

namespace Effect

def touchesMailbox : Effect → Bool
  | .deposit | .shelter | .attempt | .collect | .discard => true
  | _ => false

def touchesSessions : Effect → Bool
  | .advance | .close | .install | .rekey => true
  | _ => false

def touchesHandshakes : Effect → Bool
  | .install | .rekey | .contact | .answer | .adjust | .enlist | .abandon | .dismiss => true
  | _ => false

def touchesEvents : Effect → Bool
  | .report | .settle | .dismiss | .consume => true
  | _ => false

def touchesEnvelopes : Effect → Bool
  | .envelopes => true
  | _ => false

def touchesDeposits : Effect → Bool
  | .record => true
  | _ => false

end Effect

omit [Primitives] in
/-- The event queue takes events until it is full. -/
theorem Core.pushEvents_take (added events : List NodeEvent) :
    added.foldl Core.pushEvent events = events ++ added.take (256 - events.length) := by
  induction added generalizing events with
  | nil => simp
  | cons head rest ih =>
    rw [foldl_cons, ih]
    unfold Core.pushEvent
    by_cases room : events.length < 256
    · rw [if_pos room, length_append, length_singleton,
        show 256 - events.length = (256 - (events.length + 1)) + 1 by omega, take_succ_cons,
        append_assoc, singleton_append]
    · rw [if_neg room, show 256 - events.length = 0 by omega, take_zero, take_zero]

namespace CoreStep

variable {effect : Effect} {before after : Core}

variable (step : CoreStep effect before after)

include step

theorem mailbox_same (spared : effect.touchesMailbox = false) : after.mailbox = before.mailbox := by
  cases step <;> first | rfl | cases spared

theorem sessions_same (spared : effect.touchesSessions = false) :
    after.sessions = before.sessions := by
  cases step <;> first | rfl | cases spared

theorem handshakes_same (spared : effect.touchesHandshakes = false) :
    after.handshakes = before.handshakes := by
  cases step <;> first | rfl | cases spared

theorem events_same (spared : effect.touchesEvents = false) : after.events = before.events := by
  cases step <;> first | rfl | cases spared

theorem envelopes_same (spared : effect.touchesEnvelopes = false) :
    after.pendingEnvelopes = before.pendingEnvelopes := by
  cases step <;> first | rfl | cases spared

theorem deposits_same (spared : effect.touchesDeposits = false) :
    after.deposits = before.deposits := by
  cases step <;> first | rfl | cases spared

end CoreStep

namespace Node

variable (node : Node) (packet : Packet) (now : Nat)

variable {law : Prop} {effects : List Effect} {before after : Node}

namespace Moves

/-- A part of the core that only some effects touch is the same after moves that spare it. -/
theorem same {β : Type} {view : Core → β} {touches : Effect → Bool}
    (moves : Moves law effects before after)
    (spares : ∀ {effect : Effect} {first last : Core}, CoreStep effect first last →
      touches effect = false → view last = view first)
    (spared : ∀ effect ∈ effects, touches effect = false) : view after.core = view before.core :=
  moves.unchanged (fun node => view node.core)
    (fun effect member _ _ move => spares move.core (spared effect member))

theorem sessions_same (moves : Moves law effects before after)
    (spared : ∀ effect ∈ effects, effect.touchesSessions = false) :
    after.sessions = before.sessions := moves.same CoreStep.sessions_same spared

end Moves

/-- What an ordinary packet may do. -/
def Effects.ordinary : List Effect :=
  Effects.sealing ++ [.learn, .answer, .deposit, .reroute, .survey]

/-- The node that handles a packet addressed to it. -/
def engaged (node : Node) (packet : Packet) (now : Nat) : Node :=
  { node.overhearReply packet with power := (node.overhearReply packet).power.onActivity now }

theorem engaged_quiet : Quiet law node (node.engaged packet now) :=
  (overhearReply_quiet node packet).trans (Quiet.outside rfl rfl (bearings_of_activity _ now))

/-- What a received packet leads to. Apart from ordinary packets, the handler runs in a
state whose core is the one before the packet. -/
inductive Handling (node : Node) (packet : Packet) (rxMeta : RxMeta) (now : Nat) : Node → Prop where
  | ordinary (after : Node) (moves : Moves False Effects.ordinary node after) :
      Handling node packet rxMeta now after
  | notice (active : Node) (quiet : Reroutes False node active)
      (noticed : node.isNoSessionNotice packet = true) :
      Handling node packet rxMeta now (active.onNoSessionNotice packet.header.src now)
  | ack (ready : Node) (quiet : Reroutes False node ready)
      (arrived : node.arrival packet rxMeta now = some ready)
      (mine : packet.header.dst = node.address) (kind : packet.header.ptype = .ack) :
      Handling node packet rxMeta now ((ready.engaged packet now).handleAck packet now)
  | control (ready : Node) (quiet : Reroutes False node ready)
      (arrived : node.arrival packet rxMeta now = some ready)
      (mine : packet.header.dst = node.address) (kind : packet.header.ptype = .control)
      (untraced : isTrace packet = false) :
      Handling node packet rxMeta now ((ready.engaged packet now).handleControl packet now)
  | handshake (ready : Node) (quiet : Reroutes False node ready)
      (arrived : node.arrival packet rxMeta now = some ready)
      (mine : packet.header.dst = node.address) (kind : packet.header.ptype = .handshake) :
      Handling node packet rxMeta now ((ready.engaged packet now).handleHandshake packet now)
  | reply (ready : Node) (quiet : Reroutes False node ready)
      (arrived : node.arrival packet rxMeta now = some ready)
      (mine : packet.header.dst = node.address) (kind : packet.header.ptype = .routeReply) :
      Handling node packet rxMeta now
        ((ready.overhearReply packet).handleRouteReply packet (node.transmitterOf packet) now)
  | request (ready : Node) (quiet : Reroutes False node ready)
      (arrived : node.arrival packet rxMeta now = some ready)
      (kind : packet.header.ptype = .routeRequest) (heard : node.Heard packet.header) :
      Handling node packet rxMeta now
        ((ready.overhearReply packet).handleRouteRequest packet (node.transmitterOf packet) rxMeta
          now)

variable {rxMeta : RxMeta} {ready : Node} {frame : Bytes}

/-- A handler that only does what an ordinary packet may do. -/
theorem Handling.ofMoves {node middle after : Node} {packet : Packet} {now : Nat}
    {effects : List Effect} (quiet : Reroutes False node middle)
    (moves : Moves False effects middle after) (few : effects ⊆ Effects.ordinary) :
    Handling node packet rxMeta now after :=
  .ordinary after ((quiet.moves (by decide)).trans (moves.mono few))

theorem Handling.ofQuiet {node after : Node} {packet : Packet} {now : Nat}
    (quiet : Reroutes False node after) : Handling node packet rxMeta now after :=
  .ordinary after (quiet.moves (by decide))

section

variable (ready : Node) (rxMeta : RxMeta) (quiet : Reroutes False node ready)
  (arrived : node.arrival packet rxMeta now = some ready)

include quiet arrived

theorem handleForMe_handling (mine : packet.header.dst = node.address) :
    Handling node packet rxMeta now ((ready.overhearReply packet).handleForMe packet
      (node.transmitterOf packet) rxMeta now) := by
  have overheard := quiet.trans (ready.overhearReply_quiet packet)
  have active : Reroutes False node (ready.engaged packet now) := quiet.trans (engaged_quiet _ _ _)
  unfold handleForMe
  cases kind : packet.header.ptype with
  | beacon => exact .ofQuiet overheard
  | routeRequest => exact .ofQuiet overheard
  | routeReply => exact .reply ready quiet arrived mine kind
  | routeError => exact .ofMoves overheard (handleRouteError_moves _ _ _) (by decide)
  | handshake => exact .handshake ready quiet arrived mine kind
  | data => exact .ofMoves active (handleUnicastData_moves _ _ _ _) (by decide)
  | ack => exact .ack ready quiet arrived mine kind
  | store => exact .ofMoves active (handleStore_moves _ _ _) (by decide)
  | fetch => exact .ofMoves active (handleFetch_moves _ _ _) (by decide)
  | control =>
    cases traced : isTrace packet with
    | true => exact .ofMoves active (handleTrace_moves _ _ _) (by decide)
    | false => exact .control ready quiet arrived mine kind traced

theorem handleFlooded_handling (heard : node.Heard packet.header) :
    Handling node packet rxMeta now ((ready.overhearReply packet).handleFlooded packet
      (node.transmitterOf packet) rxMeta now) := by
  have overheard := quiet.trans (ready.overhearReply_quiet packet)
  unfold handleFlooded
  cases kind : packet.header.ptype with
  | routeRequest => exact .request ready quiet arrived kind heard
  | data =>
    have reported : Moves False [.silent, .reroute, .report] node _ :=
      (overheard.moves (by decide)).trans
      (((ready.overhearReply packet).handleBroadcastData_moves packet rxMeta).mono (by decide))
    refine .ofMoves .refl (reported.trans ?_) (by decide)
    refine Quiet.moves (maybeRelayFlood_quiet _ _ _ _ _ ?_) (by decide)
    unfold Heard
    rw [reported.received]
    exact heard
  | _ => exact .ofQuiet overheard

theorem dispatch_handling (heard : node.Heard packet.header) : Handling node packet rxMeta now
      (ready.dispatch packet (node.transmitterOf packet) rxMeta now) := by
  have overheard := quiet.trans (ready.overhearReply_quiet packet)
  simp only [dispatch]
  split
  · exact handleFlooded_handling node packet now ready rxMeta quiet arrived heard
  · split
    · rename_i mine
      rw [quiet.address] at mine
      exact handleForMe_handling node packet now ready rxMeta quiet arrived mine
    · split
      · exact .ofQuiet overheard
      · exact .ofMoves overheard (handleTransit_seals _ _ _ _ _ (overheard.heard heard)
          False.elim).moves (by decide)

end

/-- Every decoded foreign packet is handled in one of the listed ways. -/
theorem onPacket_handling {rxMeta : RxMeta} {now : Nat} (heard : node.Heard packet.header) :
    Handling node packet rxMeta now (node.onPacket packet rxMeta now) := by
  have reception := node.onPacket_reception packet rxMeta now
  generalize node.onPacket packet rxMeta now = after at reception ⊢
  cases reception with
  | quiet _ quiet => exact .ofQuiet (quiet False).reroutes
  | beacon heard quiet kind =>
    exact .ofMoves (quiet False).reroutes (handleBeacon_seals _ _ _ _ False.elim).moves (by decide)
  | notice active quiet noticed => exact .notice active (quiet False).reroutes noticed
  | dispatch ready quiet arrived =>
    exact dispatch_handling node packet now ready rxMeta (quiet False) arrived heard

/-- A received frame carries no foreign packet and leaves the core alone, or its packet is
handled in one of the listed ways. -/
theorem onRadioRx_handling (frame : Bytes) (rxMeta : RxMeta) :
    (node.incoming frame = none ∧ Reroutes False node (node.onRadioRx frame rxMeta)) ∨
      ∃ packet, node.incoming frame = some packet ∧ packet.header.src ≠ node.address ∧
        Handling (node.noted frame rxMeta packet) packet rxMeta (node.clock rxMeta)
          (node.onRadioRx frame rxMeta) := by
  rcases node.onRadioRx_cases frame rxMeta with ⟨unheard, quiet⟩ |
    ⟨packet, incoming, foreign, _, handled⟩
  · exact .inl ⟨unheard, quiet False⟩
  · refine .inr ⟨packet, incoming, foreign, ?_⟩
    rw [handled]
    exact onPacket_handling _ _ ⟨packet, mem_append_right _ mem_cons_self, rfl⟩

/-- What a packet may do that is no control message in a session. -/
def Effects.uncontrolled : List Effect :=
  Effects.replying ++ [.survey, .settle, .lose, .confirm, .deposit, .close]

section

variable {node packet now} {prev : Option Address}

/-- A foreign packet is a control message in a session, or it deletes no mail. -/
theorem Handling.uncontrolled_or_control (handling : Handling node packet rxMeta now after)
    (foreign : packet.header.src ≠ node.address) :
    Moves False Effects.uncontrolled node after ∨
      ∃ ready, Reroutes False node (ready.engaged packet now) ∧
        node.arrival packet rxMeta now = some ready ∧ packet.header.dst = node.address ∧
        packet.header.ptype = .control ∧ isTrace packet = false ∧
        after = (ready.engaged packet now).handleControl packet now := by
  cases handling with
  | ordinary _ moves => exact .inl (moves.mono (by decide))
  | notice active quiet _ =>
    exact .inl ((quiet.moves (by decide)).trans ((onNoSessionNotice_moves _ _ _).mono (by decide)))
  | ack ready quiet _ _ _ =>
    exact .inl (((quiet.trans (engaged_quiet _ _ _)).moves (by decide)).trans
      ((handleAck_moves _ _ _).mono (by decide)))
  | control ready quiet arrived mine kind untraced =>
    exact .inr ⟨ready, quiet.trans (engaged_quiet _ _ _), arrived, mine, kind, untraced, rfl⟩
  | handshake ready quiet _ _ _ =>
    have engaged : Reroutes False node (ready.engaged packet now) :=
      quiet.trans (engaged_quiet _ _ _)
    refine .inl ((engaged.moves (by decide)).trans ((handleHandshake_seals _ _ _ ?_).moves.mono
      (by decide)))
    rw [engaged.address]
    exact foreign
  | reply ready quiet _ _ _ =>
    have overheard := quiet.trans (ready.overhearReply_quiet packet)
    refine .inl ((overheard.moves (by decide)).trans ((handleRouteReply_seals _ _ _ _ ?_
      False.elim).moves.mono (by decide)))
    rw [overheard.address]
    exact foreign
  | request ready quiet _ _ heard =>
    have overheard := quiet.trans (ready.overhearReply_quiet packet)
    exact .inl ((overheard.moves (by decide)).trans
      ((handleRouteRequest_moves _ _ _ _ _ (overheard.heard heard)).mono (by decide)))

section

variable (arrived : node.arrival packet rxMeta now = some ready)

include arrived

/-- A packet that gets to the dispatch is dispatched. -/
theorem onPacket_arrival : node.onPacket packet rxMeta now =
      ready.dispatch packet (node.transmitterOf packet) rxMeta now := by
  simp only [arrival] at arrived
  split at arrived
  · cases arrived
  · rename_i passing
    obtain ⟨unbeaconed, others⟩ := not_or.mp passing
    obtain ⟨unlinked, unnoticed⟩ := not_or.mp others
    split at arrived
    · rename_i first
      cases arrived
      simp only [onPacket_attend _ _ _ _ unbeaconed, if_neg unlinked, if_neg unnoticed,
        if_pos first]
    · cases arrived

/-- The node in which a packet is dispatched has the core of the node that received it. -/
theorem arrival_reroutes : Reroutes law node ready := by
  have passed : Quiet law node (((node.attend packet rxMeta now).implicitAck packet
      (node.transmitterOf packet)).passesOnce packet now).1 :=
    ((attend_quiet _ _ _ _).trans (implicitAck_quiet _ _ _)).trans (passesOnce_quiet _ _ _)
  simp only [arrival] at arrived
  split at arrived
  · cases arrived
  · split at arrived
    · cases arrived
      exact Trail.trans passed.reroutes (prepare_reroutes _ _ _ _)
    · cases arrived

/-- So has the node that handles a packet for us. -/
theorem arrival_engaged : Reroutes law node (ready.engaged packet now) :=
  (arrival_reroutes arrived).trans (engaged_quiet _ _ _)

end

/-- A packet of a type that is never flooded is handled by the node it is addressed to. -/
theorem dispatch_unflooded (mine : packet.header.dst = node.address)
    (unflooded : isFlooded packet = false) :
    node.dispatch packet prev rxMeta now =
      (node.overhearReply packet).handleForMe packet prev rxMeta now := by
  simp only [dispatch, unflooded, Bool.false_eq_true, if_false, if_pos mine]

theorem dispatch_mine (mine : packet.header.dst = node.address)
    (unrequested : packet.header.ptype ≠ .routeRequest) (nodata : packet.header.ptype ≠ .data) :
    node.dispatch packet prev rxMeta now =
      (node.overhearReply packet).handleForMe packet prev rxMeta now := by
  apply dispatch_unflooded mine
  simp only [isFlooded, beq_false_of_ne unrequested, beq_false_of_ne nodata, Bool.or_self,
    Bool.and_false]

end

/-- What an application call may do. -/
def Effects.calling : List Effect := Effects.sealing ++ [.close, .learn, .consume, .reroute]

/-- Whether an operation is a call of the application or the driver. -/
def Operation.isCall : Operation → Bool
  | .receive _ _ | .poll _ => false
  | _ => true

theorem call_moves {operation : Operation} (called : operation.isCall = true) :
    Moves False Effects.calling node (node.step operation) := by
  cases operation with
  | receive frame rxMeta => cases called
  | poll time => cases called
  | sendMessage dst payload reliability => exact (sendMessage_moves _ _ _ _).mono (by decide)
  | sendBroadcast payload => exact (sendBroadcast_quiet _ _).moves (by decide)
  | trace dst => exact (trace_quiet _ _).moves (by decide)
  | closeSession peer => exact (closeSession_moves _ _).mono (by decide)
  | addKnownIdentity identity =>
    exact .single (node.learn_move identity.address identity rfl) (by decide)
  | editRoutes routes =>
    exact .ofCore (.reroute _) rfl rfl (by decide)
  | diagnostics => exact node.congestion_quiet.moves (by decide)
  | nextTx now => exact (nextTx_reroutes _ _).moves (by decide)
  | nextEvent =>
    exact .ofCore (.consume node.core) rfl rfl (by decide)

/-- The node whose mail is collected and served in a poll. -/
def beforeService (node : Node) (time : Nat) : Node :=
  ((node.powered time).pollTimers (max node.now time)).housekeepingEarly (max node.now time)

/-- Whether a poll includes a housekeeping pass. -/
def housekeeps (node : Node) (time : Nat) : Bool :=
  (node.powered time).power.awake && decide (max node.now time -
    ((node.powered time).pollTimers (max node.now time)).lastHousekeeping ≥ 1000)

/-- A poll with a housekeeping pass ends with the service of the mail. -/
theorem poll_housekeeping {node : Node} {time : Nat} (due : node.housekeeps time = true) :
    node.poll time = ((node.beforeService time).serveMailbox (max node.now time)).expireQueues
      (max node.now time) := by
  simp only [housekeeps, Bool.and_eq_true, decide_eq_true_eq] at due
  simp only [poll, pollAwake, due.1, Bool.not_true, Bool.false_eq_true, if_false, if_pos due.2]
  rfl

/-- A foreign packet is noted and handled. -/
theorem onRadioRx_incoming {node : Node} {packet : Packet}
    (incoming : node.incoming frame = some packet) :
    node.onRadioRx frame rxMeta = (node.noted frame rxMeta packet).onPacket packet rxMeta
      (node.clock rxMeta) := by
  rcases node.onRadioRx_cases frame rxMeta with ⟨unheard, _⟩ | ⟨other, found, _, _, handled⟩
  · cases incoming.symm.trans unheard
  · cases incoming.symm.trans found
    exact handled

/-- The control body a received frame carries in a session, with its sender. -/
def controlBody (node : Node) (frame : Bytes) (rxMeta : RxMeta) : Option (Address × Bytes) :=
  let now := max node.now rxMeta.timestampMs
  match node.incoming frame with
  | none => none
  | some packet =>
    if packet.header.dst = node.address ∧ packet.header.ptype = .control ∧
        isTrace packet = false then
      match (node.noted frame rxMeta packet).arrival packet rxMeta now with
      | none => none
      | some ready => ((ready.engaged packet now).openSessionPayload packet now).2.map
          (fun body => (packet.header.src, body))
    else none

/-- A frame with a control body is handled as a control packet, in a state with the core
of the node before it. -/
theorem controlBody_handled {node : Node} {src : Address}
    {body : Bytes} (received : node.controlBody frame rxMeta = some (src, body)) :
    ∃ ready packet, Reroutes False (node.noted frame rxMeta packet) ready ∧
      packet.header.src = src ∧
      (ready.openSessionPayload packet (node.clock rxMeta)).2 = some body ∧
      node.onRadioRx frame rxMeta = ready.handleControl packet (node.clock rxMeta) := by
  simp only [controlBody] at received
  split at received
  · cases received
  · rename_i packet incoming
    split at received
    · rename_i addressed
      obtain ⟨mine, kind, untraced⟩ := addressed
      split at received
      · cases received
      · rename_i ready arrived
        obtain ⟨opened, decrypted, named⟩ := Option.map_eq_some_iff.mp received
        cases named
        have quiet : Reroutes False (node.noted frame rxMeta packet) ready :=
          arrival_reroutes arrived
        refine ⟨ready.engaged packet (node.clock rxMeta), packet,
          arrival_engaged arrived, rfl, decrypted, ?_⟩
        rw [onRadioRx_incoming incoming, onPacket_arrival arrived,
          dispatch_mine (mine.trans quiet.address.symm) (by simp [kind]) (by simp [kind])]
        simp only [handleForMe, kind, untraced, Bool.false_eq_true, if_false]
        rfl
    · cases received

theorem controlBody_eq {node : Node} {packet : Packet}
    {body : Bytes} (incoming : node.incoming frame = some packet)
    (mine : packet.header.dst = node.address) (kind : packet.header.ptype = .control)
    (untraced : isTrace packet = false)
    (arrived : (node.noted frame rxMeta packet).arrival packet rxMeta
      (node.clock rxMeta) = some ready)
    (opened : ((ready.engaged packet (node.clock rxMeta)).openSessionPayload packet
      (node.clock rxMeta)).2 = some body) :
    node.controlBody frame rxMeta = some (packet.header.src, body) := by
  simp only [controlBody, incoming, mine, kind, untraced, and_self, if_true, arrived, opened,
    Option.map_some]

/-- What an acknowledgement says: an envelope arrived at the one who sealed the
acknowledgement, or a session peer answers for a sequence number. -/
inductive Receipt where
  | envelope (sender : Address) (envelopeId : UInt32)
  | session (sender : Address) (ack : Ack)
  deriving DecidableEq

/-- Open an acknowledgement of either kind. -/
def openReceipt (node : Node) (packet : Packet) (now : Nat) : Node × Option Receipt :=
  if packet.header.has Flags.envelope then
    let opened := node.openEnvelopeAck packet now
    (opened.1, opened.2.map (fun named => .envelope named.2 named.1))
  else
    let opened := node.openAck packet now
    (opened.1, opened.2.map (.session packet.header.src))

/-- Apply an acknowledgement of either kind. -/
def onReceipt (node : Node) (now : Nat) : Receipt → Node
  | .envelope sender envelopeId => node.onEnvelopeAck sender envelopeId now
  | .session sender ack => node.onAck sender ack now

theorem openReceipt_moves : Moves law Effects.opening node (node.openReceipt packet now).1 := by
  unfold openReceipt
  split
  · exact (openEnvelopeAck_quiet _ _ _).moves (by decide)
  · exact openAck_moves _ _ _

/-- An acknowledgement that opens is applied. -/
theorem handleAck_eq : node.handleAck packet now = match (node.openReceipt packet now).2 with
      | none => (node.openReceipt packet now).1
      | some receipt => (node.openReceipt packet now).1.onReceipt now receipt := by
  unfold handleAck openReceipt
  split
  · unfold handleEnvelopeAck
    cases node.openEnvelopeAck packet now with
    | mk opened content => cases content <;> rfl
  · cases node.openAck packet now with
    | mk opened content => cases content <;> rfl

/-- The acknowledgement a received frame carries. -/
def receipt (node : Node) (frame : Bytes) (rxMeta : RxMeta) : Option Receipt :=
  let now := max node.now rxMeta.timestampMs
  match node.incoming frame with
  | none => none
  | some packet =>
    if packet.header.dst = node.address ∧ packet.header.ptype = .ack then
      match (node.noted frame rxMeta packet).arrival packet rxMeta now with
      | none => none
      | some ready => ((ready.engaged packet now).openReceipt packet now).2
    else none

theorem receipt_eq {node : Node} {packet : Packet}
    (incoming : node.incoming frame = some packet) (mine : packet.header.dst = node.address)
    (kind : packet.header.ptype = .ack)
    (arrived : (node.noted frame rxMeta packet).arrival packet rxMeta
      (node.clock rxMeta) = some ready) :
    node.receipt frame rxMeta = ((ready.engaged packet
      (node.clock rxMeta)).openReceipt packet (node.clock rxMeta)).2 := by
  simp only [receipt, incoming, mine, kind, and_self, if_true, arrived]

section Ruling

variable (prev : Option Address) (rxMeta : RxMeta) {envelopeId : UInt32}

/-- Apart from acknowledgements and control messages, a packet for us leaves the tracked
messages to sealing. -/
theorem handleForMe_retains (foreign : packet.header.src ≠ node.address)
    (unacknowledged : packet.header.ptype ≠ .ack)
    (traced : packet.header.ptype = .control → isTrace packet = true) :
    Retains envelopeId node (node.handleForMe packet prev rxMeta now) := by
  have active : Retains envelopeId node { node with power := node.power.onActivity now } :=
    .ofSame rfl
  unfold handleForMe
  dsimp only
  cases kind : packet.header.ptype with
  | beacon => exact .refl node
  | routeRequest => exact .refl node
  | routeReply => exact (handleRouteReply_seals _ _ _ _ foreign False.elim).retains _
  | routeError => exact Moves.retains (handleRouteError_moves _ _ _) (by decide)
  | handshake =>
    have seals : Seals False Effects.establishing _ _ :=
      handleHandshake_seals { node with power := node.power.onActivity now } packet now foreign
    exact active.trans (seals.retains _)
  | data => exact active.trans (Moves.retains (handleUnicastData_moves _ _ _ _) (by decide))
  | ack => exact absurd kind unacknowledged
  | store => exact active.trans (Moves.retains (handleStore_moves _ _ _) (by decide))
  | fetch => exact active.trans (Moves.retains (handleFetch_moves _ _ _) (by decide))
  | control =>
    simp only [traced kind, if_true]
    exact active.trans (Moves.retains (handleTrace_moves _ _ _) (by decide))

theorem dispatch_retains (foreign : packet.header.src ≠ node.address)
    (heard : node.Heard packet.header)
    (plain : packet.header.dst = node.address → packet.header.ptype ≠ .ack ∧
      (packet.header.ptype = .control → isTrace packet = true)) :
    Retains envelopeId node (node.dispatch packet prev rxMeta now) := by
  have overheard : Quiet False node (node.overhearReply packet) := overhearReply_quiet _ _
  have known := overheard.reroutes.heard heard
  unfold dispatch
  dsimp only
  split
  · exact overheard.retains.trans (Moves.retains (handleFlooded_moves _ _ _ _ _ known) (by decide))
  · split
    · rename_i mine
      obtain ⟨unacknowledged, traced⟩ := plain mine
      exact overheard.retains.trans (handleForMe_retains _ _ _ _ _
        (overheard.address ▸ foreign) unacknowledged traced)
    · split
      · exact overheard.retains
      · exact overheard.retains.trans ((handleTransit_seals _ _ _ _ _ known False.elim).retains _)

/-- What a packet does to the tracked messages: it leaves them to sealing, or it is a notice,
an acknowledgement for us or a control message for us in a session. -/
inductive Ruling (node : Node) (packet : Packet) (rxMeta : RxMeta) (now : Nat) : Node → Prop where
  | retained (after : Node) (each : ∀ envelopeId, Retains envelopeId node after) :
      Ruling node packet rxMeta now after
  | notice (active : Node) (quiet : Quiet False node active)
      (noticed : node.isNoSessionNotice packet = true) :
      Ruling node packet rxMeta now (active.onNoSessionNotice packet.header.src now)
  | ack (ready : Node) (arrived : node.arrival packet rxMeta now = some ready)
      (mine : packet.header.dst = node.address) (kind : packet.header.ptype = .ack) :
      Ruling node packet rxMeta now ((ready.engaged packet now).handleAck packet now)
  | control (ready : Node) (arrived : node.arrival packet rxMeta now = some ready)
      (mine : packet.header.dst = node.address) (kind : packet.header.ptype = .control)
      (untraced : isTrace packet = false) :
      Ruling node packet rxMeta now ((ready.engaged packet now).handleControl packet now)

theorem onPacket_ruling (foreign : packet.header.src ≠ node.address)
    (heard : node.Heard packet.header) :
    Ruling node packet rxMeta now (node.onPacket packet rxMeta now) := by
  have reception := node.onPacket_reception packet rxMeta now
  generalize node.onPacket packet rxMeta now = after at reception ⊢
  cases reception with
  | quiet _ quiet => exact .retained _ (fun _ => (quiet False).retains)
  | beacon heard quiet kind =>
    exact .retained _ (fun _ => (quiet False).retains.trans
      ((handleBeacon_seals _ _ _ _ False.elim).retains _))
  | notice active quiet noticed => exact .notice active (quiet False) noticed
  | dispatch ready quiet arrived =>
    have same : ready.address = node.address := (quiet False).address
    have dispatched (plain : packet.header.dst = node.address → packet.header.ptype ≠ .ack ∧
        (packet.header.ptype = .control → isTrace packet = true)) :
        Ruling node packet rxMeta now
          (ready.dispatch packet (node.transmitterOf packet) rxMeta now) := by
      refine .retained _ (fun _ => (quiet False).retains.trans
        (dispatch_retains _ _ _ _ _ (same ▸ foreign) ((quiet False).heard heard) ?_))
      rw [same]
      exact plain
    by_cases mine : packet.header.dst = node.address
    · by_cases acknowledged : packet.header.ptype = .ack
      · rw [dispatch_mine (mine.trans same.symm) (by simp [acknowledged]) (by simp [acknowledged])]
        simp only [handleForMe, acknowledged]
        exact .ack ready arrived mine acknowledged
      · by_cases controlled : packet.header.ptype = .control ∧ isTrace packet = false
        · obtain ⟨kind, untraced⟩ := controlled
          rw [dispatch_mine (mine.trans same.symm) (by simp [kind]) (by simp [kind])]
          simp only [handleForMe, kind, untraced, Bool.false_eq_true, if_false]
          exact .control ready arrived mine kind untraced
        · refine dispatched (fun _ => ⟨acknowledged, fun kind => ?_⟩)
          exact Bool.eq_true_of_not_eq_false (fun untraced => controlled ⟨kind, untraced⟩)
    · exact dispatched (fun addressed => absurd addressed mine)

end Ruling

end Node

end MeshStar

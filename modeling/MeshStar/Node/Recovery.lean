import MeshStar.Node.Admission
import MeshStar.Node.Handling
import MeshStar.Node.Partner

/-!
# Recovery from the loss of the third handshake message

A responder has no session until the third message arrives. An initiator that has sent it
already uses the new session, and the responder learns of the loss from that traffic. It
tells the peer when it has no session at all, as far as the router takes the notice. During
a rekey it still has the old one, tries that on the traffic of the new one, and tells nobody.
-/

namespace MeshStar

variable [Primitives]

/-- A whole packet with a session payload, as a session send builds it. -/
structure Packet.CarriesSession (packet : Packet) : Prop where
  kind : packet.header.ptype ∈ [PacketType.data, .ack, .store, .fetch, .control]
  encrypted : packet.header.has Flags.encrypted = true
  unsealed : packet.header.has Flags.envelope = false
  whole : packet.header.has Flags.fragmented = false
  unicast : packet.header.dst.isBroadcast = false

/-- A packet was encrypted under the keys of a pending handshake, those that its third
message will give, by a session of its epoch. -/
def PendingHandshake.Encrypted (pending : PendingHandshake) (packet : Packet) : Prop :=
  ∃ (m3 extra : Bytes) (read : HandshakeXX) (keys : TransportKeys) (remote : PublicIdentity)
    (session : Session) (time : Nat) (body : Bytes),
    HandshakeXX.run (HandshakeXX.readMessage3 m3) pending.hs = (read, .ok extra) ∧
    read.finish = .ok (keys, remote) ∧ session.sendKey = keys.recv ∧
    session.epoch = pending.epoch ∧
    (session.encrypt time (transportAad packet.header none) body).2 = .ok packet.payload

/-- Handling an opened session payload. -/
def Effects.continuing : List Effect :=
  Effects.sending ++ [.deposit, .attempt, .confirm, .discard, .settle, .close, .report]

namespace Node

variable {packet : Packet} (node : Node) (now : Nat)

/-- The node as it opens a packet addressed to it, when the packet of a frame gets that far. -/
def opening (frame : Bytes) (rxMeta : RxMeta) (packet : Packet) : Option Node :=
  ((node.noted frame rxMeta packet).arrival packet rxMeta (node.clock rxMeta)).map
    (fun ready => ready.engaged packet (node.clock rxMeta))

/-- Between two states a notice of the missing session, in plain text, was queued for the peer
or parked until a route is found, nothing else but route requests, and the notice was
counted. -/
def Notifies (before after : Node) (peer : Address) (pending : PendingHandshake) : Prop :=
  ∃ notice : Packet, notice.header.ptype = .control ∧ notice.header.src = before.address ∧
    notice.header.dst = peer ∧ notice.header.has Flags.encrypted = false ∧
    notice.payload = [Control.noSession] ∧ Admits peer before after [notice] ∧
    after.handshakes.get peer = some { pending with attempts := pending.attempts + 1 }

omit [Primitives] in
/-- A whole packet needs no reassembly. -/
theorem reassemble_whole (whole : packet.header.has Flags.fragmented = false) :
    node.reassemble packet now = (node, some (packet.payload, none)) := by
  simp only [reassemble, Packet.fragHeader, whole, Bool.false_eq_true, if_false]

/-- What the handler of a session payload does after it opened the payload. -/
structure Continues (opened : Node × Option Bytes) (after : Node) : Prop where
  unopened : opened.2 = none → after = opened.1
  moves : Moves False Effects.continuing opened.1 after

theorem Resumes.continues {effects : List Effect} {opened : Node × Option Bytes} {after : Node}
    (resumes : Resumes False effects opened after) (few : effects ⊆ Effects.continuing) :
    Continues opened after := ⟨resumes.1, resumes.2.mono few⟩

/-- A session packet for us that is not taken for a trace is opened. -/
theorem handleForMe_continues (prev : Option Address)
    (rxMeta : RxMeta) (now : Nat) (carried : packet.CarriesSession)
    (untraced : packet.header.ptype = .control → isTrace packet = false) :
    Continues ({ node with power := node.power.onActivity now }.openSessionPayload packet now)
      (node.handleForMe packet prev rxMeta now) := by
  have kind := carried.kind
  simp only [handleForMe]
  cases ptype : packet.header.ptype with
  | beacon | routeRequest | routeReply | routeError | handshake =>
    rw [ptype] at kind
    exact absurd kind (by decide)
  | data =>
    exact (handleSessionData_resumes _ _ _ _ carried.unsealed
      carried.encrypted).continues (by decide)
  | ack => exact (handleAck_resumes _ _ _ carried.unsealed).continues (by decide)
  | store => exact (handleStore_resumes _ _ _).continues (by decide)
  | fetch => exact (handleFetch_resumes _ _ _).continues (by decide)
  | control =>
    simp only [untraced ptype, Bool.false_eq_true, if_false]
    exact (handleControl_resumes _ _ _).continues (by decide)

variable {node now} {pending : PendingHandshake}

/-- The payload of a packet encrypted under a pending handshake starts with its epoch and
is longer than any plain notice. -/
theorem encrypted_payload (encrypted : pending.Encrypted packet) :
    packet.payload.head? = some pending.epoch ∧ transportOverhead ≤ packet.payload.length := by
  obtain ⟨_, _, _, _, _, session, _, _, _, _, _, epoch, sealed⟩ := encrypted
  rw [← epoch]
  exact Session.encrypt_framed sealed

/-- A control packet is taken for a trace when the session's epoch is that of a trace. -/
theorem isTrace_iff (encrypted : pending.Encrypted packet) : isTrace packet = true ↔
      pending.epoch = Control.traceReq ∨ pending.epoch = Control.traceRep := by
  simp [isTrace, (encrypted_payload encrypted).1]

omit [Primitives] in
/-- Confirming a hop leaves the duplicate filter alone. -/
theorem implicitAck_seen (node : Node) (packet : Packet) (prev : Option Address) :
    (node.implicitAck packet prev).seen = node.seen := by
  simp only [implicitAck, hopConfirmed]
  repeat' split
  all_goals rfl

theorem attend_seen (node : Node) (packet : Packet) (rxMeta : RxMeta) (now : Nat) :
    (node.attend packet rxMeta now).seen = node.seen := by
  have heard : (node.hear (node.transmitterOf packet) rxMeta now).seen = node.seen := by
    simp only [hear]
    split <;> rfl
  simp only [attend]
  split
  · exact heard
  · exact heard

section

variable (kind : packet.header.ptype ≠ .beacon ∧ packet.header.ptype ≠ .routeRequest)

include kind

/-- A packet with a long payload that is neither a beacon nor a route request is dispatched
exactly when the duplicate filter has not seen it. -/
theorem arrival_isSome {rxMeta : RxMeta} (long : transportOverhead ≤ packet.payload.length) :
    (node.arrival packet rxMeta now).isSome = (node.seen.observe packet.header.key now).2 := by
  have more : 5 < packet.payload.length := Nat.lt_of_lt_of_le (by decide) long
  have unlinked : (node.attend packet rxMeta now).isLinkAck packet = false := by
    have apart : (packet.payload.length == 5) = false := by
      rw [beq_eq_false_iff_ne]
      omega
    rw [isLinkAck, apart, Bool.and_false, Bool.false_and]
  have unnoticed : (node.attend packet rxMeta now).isNoSessionNotice packet = false := by
    have apart : (packet.payload == [Control.noSession]) = false := by
      rw [beq_eq_false_iff_ne]
      intro same
      rw [same] at more
      exact absurd more (by decide)
    rw [isNoSessionNotice, apart, Bool.and_false]
  have passes : (((node.attend packet rxMeta now).implicitAck packet
      (node.transmitterOf packet)).passesOnce packet now).2 =
        (node.seen.observe packet.header.key now).2 := by
    simp only [passesOnce, if_neg kind.2, implicitAck_seen, attend_seen]
  simp only [arrival, kind.1, unlinked, unnoticed, Bool.false_eq_true, or_self, if_false, passes]
  split
  · rename_i fresh
    exact fresh.symm
  · rename_i seen
    exact (Bool.not_eq_true _ ▸ seen).symm

end

omit [Primitives] in
/-- What was added between two states is a notice, or only route requests. -/
theorem Admits.not_none {before after : Node} {dst : Address}
    (admits : Admits dst before after [packet]) (kind : packet.header.ptype ≠ .routeRequest) :
    ¬Admits dst before after [] := by
  rintro ⟨copies, added, queued, parked, _, requests, _⟩
  obtain ⟨sameCopies, sameAdded, queuedToo, parkedToo, _, _, present⟩ := admits
  obtain rfl := List.append_cancel_left (queued.symm.trans queuedToo)
  obtain rfl := List.append_cancel_left (parked.symm.trans parkedToo)
  obtain ⟨copy, member, hop, rfl⟩ := present packet List.mem_cons_self
  rcases requests _ member with request | ⟨_, none, _⟩
  · exact kind request
  · cases none

/-- A waiting responder counts its notice, and the notice is on its way exactly when the router
takes a packet to the peer. -/
theorem noticeNoSession_notifies_iff {peer : Address} (now : Nat)
    (held : node.handshakes.get peer = some pending) (responder : pending.hs.role = .responder)
    (few : pending.attempts < 4) :
    Notifies node (node.noticeNoSession peer now) peer pending ↔ 0 < node.capacity peer now := by
  let noticed := { pending with attempts := pending.attempts + 1 }
  let counted := { node with handshakes := node.handshakes.insert peer noticed }
  let based := counted.baseHeader .control peer (counted.ttlFor peer)
  let notice : Packet := ⟨based.2, [Control.noSession]⟩
  obtain ⟨src, dst, kind⟩ := counted.baseHeader_fields .control peer (counted.ttlFor peer)
  have routed : node.noticeNoSession peer now = (based.1.routeUnicast notice now).1 := by
    simp only [noticeNoSession, held]
    rw [if_pos ⟨responder, few⟩]
  have same : SameRouter node based.1 := by constructor <;> rfl
  have sendable : based.1.Sendable peer notice := by
    refine ⟨dst, counted.baseHeader_netAuth _ _ _, ?_⟩
    change 1 ≤ _
    cases based.1.cfg.networkKey.isSome <;> decide
  have taken : Admits peer node (based.1.routeUnicast notice now).1
      ([notice].take (node.capacity peer now)) :=
    same.capacity peer now ▸ same.admits (routeUnicast_admits sendable)
  have quiet : Quiet False counted (based.1.routeUnicast notice now).1 :=
    routeBased_quiet _ _ _ _ rfl
  rw [routed]
  constructor
  · rintro ⟨other, control, _, _, _, _, admits, _⟩
    by_contra full
    rw [Nat.eq_zero_of_not_pos full] at taken
    exact admits.not_none (by rw [control]; decide) taken
  · intro room
    obtain ⟨more, capacity⟩ := Nat.exists_eq_add_of_lt room
    rw [capacity, Nat.zero_add, List.take_succ_cons, List.take_nil] at taken
    refine ⟨notice, kind, src, dst, counted.baseHeader_has _ _ _ rfl, rfl, taken, ?_⟩
    rw [show (based.1.routeUnicast notice now).1.handshakes = counted.handshakes from
      congrArg Core.handshakes quiet.core]
    exact OrderedMap.get_insert_self _ _ _

/-- Nothing was notified while the handshakes stayed as they were. -/
theorem not_notifies {before after : Node} {peer : Address}
    (held : before.handshakes.get peer = some pending) (same : after.handshakes = before.handshakes)
    : ¬Notifies before after peer pending := by
  rintro ⟨_, _, _, _, _, _, _, counted⟩
  rw [same, held, Option.some.injEq] at counted
  have attempts := congrArg PendingHandshake.attempts counted
  simp at attempts

/-- Handling a session packet of the pending handshake notifies the peer exactly when there is
no session with it, the packet is not taken for a trace and the router takes the notice. -/
theorem handleForMe_notifies_iff (prev : Option Address) (rxMeta : RxMeta) (now : Nat)
    (held : node.handshakes.get packet.header.src = some pending)
    (responder : pending.hs.role = .responder) (few : pending.attempts < 4)
    (carried : packet.CarriesSession) :
    Notifies { node with power := node.power.onActivity now }
        (node.handleForMe packet prev rxMeta now) packet.header.src pending ↔
      node.sessions.get packet.header.src = none ∧
      ¬(packet.header.ptype = .control ∧ isTrace packet = true) ∧
      0 < capacity { node with power := node.power.onActivity now } packet.header.src now := by
  let active := { node with power := node.power.onActivity now }
  by_cases traced : packet.header.ptype = .control ∧ isTrace packet = true
  · -- The trace handler neither opens the packet nor looks at the handshakes.
    have answered : node.handleForMe packet prev rxMeta now = active.handleTrace packet now := by
      simp only [handleForMe, traced.1, traced.2, if_true]
      rfl
    have moves : Moves False [.silent, .report] active _ := handleTrace_moves _ packet now
    rw [answered]
    exact iff_of_false (not_notifies held (moves.same CoreStep.handshakes_same (by decide)))
      (fun noticed => noticed.2.1 traced)
  · have untraced : packet.header.ptype = .control → isTrace packet = false := by
      intro control
      rw [← Bool.not_eq_true]
      exact fun trace => traced ⟨control, trace⟩
    have continues := node.handleForMe_continues prev rxMeta now carried untraced
    simp only [openSessionPayload, reassemble_whole _ _ carried.whole] at continues
    cases found : node.sessions.get packet.header.src with
    | none =>
      simp only [found] at continues
      rw [continues.unopened rfl]
      exact (active.noticeNoSession_notifies_iff now held responder few).trans
        ⟨fun room => ⟨rfl, traced, room⟩, fun noticed => noticed.2.2⟩
    | some session =>
      simp only [found] at continues
      refine iff_of_false (not_notifies held ?_) (fun noticed => by cases noticed.1)
      exact continues.moves.same CoreStep.handshakes_same (by decide)

/-- A responder that waits for the third message and receives traffic of the session it would
give sends a notice to the peer exactly when it has no older session with the peer, the packet
is new to it, the epoch does not make a control packet look like a trace, and the router takes
a packet to the peer: a next hop and a free slot, or a discovery with room. -/
theorem lost_third_noticed_iff (node : Node) (frame : Bytes) (rxMeta : RxMeta) (packet : Packet)
    (pending : PendingHandshake) (received : node.incoming frame = some packet)
    (mine : packet.header.dst = node.address)
    (held : node.handshakes.get packet.header.src = some pending)
    (responder : pending.hs.role = .responder) (few : pending.attempts < 4)
    (carried : packet.CarriesSession) (encrypted : pending.Encrypted packet) :
    (∃ ready, node.opening frame rxMeta packet = some ready ∧
      Notifies ready (node.onRadioRx frame rxMeta) packet.header.src pending) ↔
      node.sessions.get packet.header.src = none ∧
      (node.seen.observe packet.header.key (max node.now rxMeta.timestampMs)).2 = true ∧
      ¬(packet.header.ptype = .control ∧
        (pending.epoch = Control.traceReq ∨ pending.epoch = Control.traceRep)) ∧
      ∀ ready, node.opening frame rxMeta packet = some ready →
        0 < ready.capacity packet.header.src (max node.now rxMeta.timestampMs) := by
  have kinds : packet.header.ptype ≠ .beacon ∧ packet.header.ptype ≠ .routeRequest := by
    have kind := carried.kind
    constructor
    · intro same
      rw [same] at kind
      exact absurd kind (by decide)
    · intro same
      rw [same] at kind
      exact absurd kind (by decide)
  have reached : ((node.noted frame rxMeta packet).arrival packet rxMeta
      (node.clock rxMeta)).isSome = (node.seen.observe packet.header.key (node.clock rxMeta)).2 :=
    arrival_isSome kinds (encrypted_payload encrypted).2
  rw [← isTrace_iff encrypted, opening, ← clock, ← reached]
  cases arrived : (node.noted frame rxMeta packet).arrival packet rxMeta (node.clock rxMeta) with
  | none => simp
  | some ready =>
    have arrival : Reroutes False (node.noted frame rxMeta packet) ready := arrival_reroutes arrived
    have overheard : Reroutes False (node.noted frame rxMeta packet) (ready.overhearReply packet) :=
      arrival.trans (overhearReply_quiet _ _)
    have core : (ready.overhearReply packet).core = node.core := overheard.core
    have holding : (ready.overhearReply packet).handshakes.get packet.header.src = some pending :=
      (congrArg (fun core => core.handshakes.get packet.header.src) core).trans held
    have handled : Notifies (ready.engaged packet (node.clock rxMeta)) _ _ _ ↔
        _ ∧ _ ∧ 0 < (ready.engaged packet (node.clock rxMeta)).capacity _ _ :=
      (ready.overhearReply packet).handleForMe_notifies_iff
        ((node.noted frame rxMeta packet).transmitterOf packet) rxMeta (node.clock rxMeta) holding
        responder few carried
    rw [show (ready.overhearReply packet).sessions = node.sessions from
      congrArg Core.sessions core] at handled
    rw [onRadioRx_incoming received, onPacket_arrival arrived,
      dispatch_unflooded (mine.trans arrival.address.symm)
        (by rw [isFlooded, carried.unicast, Bool.false_and])]
    simpa using handled

end Node

end MeshStar

namespace MeshStar.LostThird

local instance lostThirdSuite : Primitives := Transparent.primitives

open Transparent

def host : Node := Node.new NodeConfig.default (identity 1) generator 0

def peer : Identity := identity 2

/-- The host after the first message of a first handshake. -/
def greeted : Node := Partner.greeted peer host 10

/-- The peer after it answered the second message; its third one is lost. -/
def partner : Partner × Bytes := (Partner.greet peer host.address).1.conclude greeted

/-- The host after a complete handshake. -/
def met : Node := (Partner.meet peer host 10).2

/-- The peer starts over with the next epoch. -/
def rekeying : Partner × Bytes :=
  let drawn := { generator with position := 40 }
  let created := HandshakeXX.new .initiator peer (prologue peer.address host.address) drawn
  match HandshakeXX.run (HandshakeXX.writeMessage1 [Role.normal.toU8, 1]) created.2 with
  | (hs, .ok m1) => (⟨peer, host.address, hs⟩, m1)
  | (hs, .error _) => (⟨peer, host.address, hs⟩, [])

/-- The host after the first message of the second handshake. -/
def regreeted : Node :=
  met.step (.receive (rekeying.1.handshakeFrame 3 .one rekeying.2) (heardAt 20))

/-- The peer after it answered; again its third message is lost. -/
def rekeyed : Partner × Bytes := rekeying.1.conclude regreeted

/-- The session a partner has installed. -/
def sessionOf (partner : Partner) (epoch : UInt8) : Option Session :=
  match partner.hs.finish with
  | .ok (keys, remote) => some (Session.new remote epoch keys 30)
  | .error _ => none

/-- A message a partner sends in it. -/
def traffic (partner : Partner) (epoch : UInt8) : Packet :=
  let draft := partner.packet .data Flags.encrypted 50 7 []
  match sessionOf partner epoch with
  | none => draft
  | some session =>
    match (session.encrypt 30 (transportAad draft.header none) [1, 2, 3]).2 with
    | .ok ciphertext => { draft with payload := ciphertext }
    | .error _ => draft

theorem traffic_header (partner : Partner) (epoch : UInt8) :
    (traffic partner epoch).header = (partner.packet .data Flags.encrypted 50 7 []).header := by
  simp only [traffic]
  repeat' split
  all_goals rfl

theorem traffic_carries {partner : Partner} {epoch : UInt8}
    (unicast : partner.host.isBroadcast = false) : (traffic partner epoch).CarriesSession := by
  constructor
  all_goals rw [traffic_header]
  · exact List.mem_cons_self
  · exact show decide (Flags.encrypted &&& Flags.encrypted ≠ 0) = true by decide
  · exact show decide (Flags.encrypted &&& Flags.envelope ≠ 0) = false by decide
  · exact show decide (Flags.encrypted &&& Flags.fragmented ≠ 0) = false by decide
  · exact unicast

/-- Whether a message was encrypted under a pending handshake that the third message ends. -/
def checks (m3 : Bytes) (packet : Packet) : Option PendingHandshake → Option Session → Bool
  | some pending, some session =>
    match HandshakeXX.run (HandshakeXX.readMessage3 m3) pending.hs with
    | (read, .ok _) =>
      match read.finish with
      | .ok (keys, _) => session.sendKey = keys.recv && session.epoch = pending.epoch &&
          (session.encrypt 30 (transportAad packet.header none) [1, 2, 3]).2 = .ok packet.payload &&
          pending.hs.role = .responder && pending.attempts < 4
      | .error _ => false
    | (_, .error _) => false
  | _, _ => false

theorem checks_encrypted {m3 : Bytes} {packet : Packet} {held : Option PendingHandshake}
    {session : Option Session} (checked : checks m3 packet held session = true) :
    ∃ pending, held = some pending ∧ pending.hs.role = .responder ∧ pending.attempts < 4 ∧
      pending.Encrypted packet := by
  unfold checks at checked
  split at checked
  · rename_i pending session
    split at checked
    · rename_i read extra done
      split at checked
      · rename_i keys remote finished
        simp only [Bool.and_eq_true, decide_eq_true_eq] at checked
        obtain ⟨⟨⟨⟨key, epoch⟩, sealed⟩, responder⟩, few⟩ := checked
        exact ⟨pending, rfl, responder, few, m3, extra, read, keys, remote, session, 30, [1, 2, 3],
          done, finished, key, epoch, sealed⟩
      · cases checked
    · cases checked
  · cases checked

/-- A message in a session that replaces another one. -/
def late : Packet := traffic rekeyed.1 1

/-- During a rekey the loss of the third message goes unnoticed: the node opens the packet and
neither queues nor parks a packet for the peer. -/
theorem rekey_loss_unnoticed : ∃ pending ready,
    regreeted.handshakes.get late.header.src = some pending ∧
    pending.hs.role = .responder ∧ pending.attempts < 4 ∧
    regreeted.incoming (frame late) = some late ∧
    late.header.dst = regreeted.address ∧ late.CarriesSession ∧ pending.Encrypted late ∧
    regreeted.opening (frame late) (heardAt 40) late = some ready ∧
    0 < ready.capacity late.header.src 40 ∧
    ¬Node.Notifies ready (regreeted.onRadioRx (frame late) (heardAt 40)) late.header.src
      pending := by
  have facts : checks rekeyed.2 late (regreeted.handshakes.get late.header.src)
        (sessionOf rekeyed.1 1) = true ∧
      rekeyed.1.host.isBroadcast = false ∧
      (regreeted.opening (frame late) (heardAt 40) late).isSome = true ∧
      (∀ ready ∈ regreeted.opening (frame late) (heardAt 40) late,
        0 < ready.capacity late.header.src 40) ∧
      ((regreeted.onRadioRx (frame late)
        (heardAt 40)).handshakes.get late.header.src).map PendingHandshake.attempts =
          (regreeted.handshakes.get late.header.src).map PendingHandshake.attempts := by
    decide +kernel
  obtain ⟨checked, unicast, reached, room, silent⟩ := facts
  obtain ⟨pending, held, responder, few, encrypted⟩ := checks_encrypted checked
  obtain ⟨ready, opened⟩ := Option.isSome_iff_exists.mp reached
  refine ⟨pending, ready, held, responder, few, by decide +kernel, by decide +kernel,
    traffic_carries unicast, encrypted, opened, room ready opened, ?_⟩
  rintro ⟨_, _, _, _, _, _, _, counted⟩
  rw [counted, held, Option.map_some, Option.map_some, Option.some.injEq] at silent
  exact absurd silent (Nat.succ_ne_self _)

/-- A message in a first session. -/
def early : Packet := traffic partner.1 0

/-- In a first handshake the loss is noticed. -/
theorem lost_third_noticed_first : ∃ pending ready,
    greeted.handshakes.get early.header.src = some pending ∧
    greeted.opening (frame early) (heardAt 40) early = some ready ∧
    Node.Notifies ready (greeted.onRadioRx (frame early) (heardAt 40)) early.header.src
      pending := by
  have facts : checks partner.2 early (greeted.handshakes.get early.header.src)
        (sessionOf partner.1 0) = true ∧
      greeted.incoming (frame early) = some early ∧
      early.header.dst = greeted.address ∧ partner.1.host.isBroadcast = false ∧
      (greeted.sessions.get early.header.src).isNone = true ∧
      (greeted.seen.observe early.header.key
        (max greeted.now (heardAt 40).timestampMs)).2 = true ∧
      ∀ ready ∈ greeted.opening (frame early) (heardAt 40) early,
        0 < ready.capacity early.header.src (max greeted.now (heardAt 40).timestampMs) := by
    decide +kernel
  obtain ⟨checked, incoming, mine, unicast, absent, fresh, room⟩ := facts
  obtain ⟨pending, held, responder, few, encrypted⟩ := checks_encrypted checked
  have other : ¬early.header.ptype = .control := by
    rw [early, traffic_header]
    decide
  obtain ⟨ready, opened, notified⟩ := (Node.lost_third_noticed_iff greeted (frame early)
    (heardAt 40) early pending incoming mine held responder few
    (traffic_carries unicast) encrypted).mpr
    ⟨Option.isNone_iff_eq_none.mp absent, fresh, fun traced => other traced.1, room⟩
  exact ⟨pending, ready, held, opened, notified⟩

end MeshStar.LostThird

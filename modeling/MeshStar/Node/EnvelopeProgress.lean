import MeshStar.Node.Admission
import MeshStar.Node.MailboxLaw

/-!
# What a delivery attempt leaves behind

A sealed envelope goes to our own mailbox when we host its destination, to the anchor known
for the destination, or along the route. Without a route it is parked behind a discovery as
one packet. An envelope that does not fit into one packet is not parked: it goes to the
best anchor among the neighbours, and when there is none nothing happens at all. No
discovery starts, and nothing remembers the envelope until its next retry does the same.

A delivery attempt makes progress exactly when the node can do something for the envelope.
Besides the missing anchor, what it needs is a place in the queues: packets that find no
place in the transmit queue or behind a discovery are dropped without a trace.
-/

namespace MeshStar

open List OrderedMap

namespace Mailbox

/-- The mailbox has a place for an envelope it does not have yet. -/
def HasPlace (mailbox : Mailbox) (request : StoreRequest) : Prop :=
  mailbox.entries.any (isFor request.dst request.envelopeId) = false ∧
    (mailbox.entries.filter (fun entry => entry.dst == request.dst)).length <
      mailbox.cfg.maxPerDestination ∧
    mailbox.entries.length < mailbox.cfg.maxEntries ∧
    mailbox.bytes + request.envelope.length ≤ mailbox.cfg.maxBytes

/-- An envelope is accepted exactly when there is a place for it. -/
theorem store_ok_iff (mailbox : Mailbox) (now : Nat) (depositor : Address)
    (request : StoreRequest) :
    (mailbox.store now depositor request).2 = .ok () ↔ mailbox.HasPlace request := by
  unfold store HasPlace
  cases mailbox.entries.any (isFor request.dst request.envelopeId) with
  | true => simp
  | false =>
    simp only [Bool.false_eq_true, if_false, true_and]
    split
    · rename_i many
      simp [Nat.not_lt.mpr many]
    · rename_i few
      split
      · rename_i full
        simp only [reduceCtorEq, false_iff, not_and, not_le]
        omega
      · rename_i room
        simp only [true_iff]
        omega

end Mailbox

variable [Primitives]

namespace Node

/-- A discovery for the destination is pending with room, or may be started. -/
def MayDiscover (node : Node) (dst : Address) (now : Nat) : Prop :=
  node.ierp.hasRoom dst = true ∨ node.ierp.mayStart dst now = true

/-- The deposit request for an envelope. -/
def depositRequest (node : Node) (dst : Address) (envelopeId : UInt32) (envelope : Bytes) :
    StoreRequest :=
  ⟨dst, envelopeId, node.cfg.envelopeTtlS, envelope⟩

/-- Packets that carry an envelope to its destination. -/
def EnvelopePackets (dst : Address) (envelopeId : UInt32) (envelope : Bytes)
    (packets : List Packet) : Prop :=
  ∃ (header : Header) (fragment : Option UInt16), header.ptype = .data ∧ header.dst = dst ∧
    header.has Flags.envelope = true ∧
    Carries header (frameEnvelope envelopeId envelope) packets fragment

/-- A packet was queued for transmission, or parked behind a discovery for its destination,
between two states. -/
def Placed (before after : Node) (packet : Packet) : Prop :=
  ∃ copy ∈ after.history.queued.drop before.history.queued.length ++
    (after.parkedFor packet.header.dst).drop (before.parkedFor packet.header.dst).length,
      copy.CopyOf packet

/-- A discovery for the destination holds the envelope. -/
def Parked (node : Node) (dst : Address) (envelopeId : UInt32) (envelope : Bytes) : Prop :=
  ∃ packets, EnvelopePackets dst envelopeId envelope packets ∧
    ∀ packet ∈ packets, packet ∈ node.parkedFor dst

/-- Data packets that carry the envelope were placed. -/
def DataSent (before after : Node) (dst : Address) (envelopeId : UInt32) (envelope : Bytes) :
    Prop :=
  ∃ packets, EnvelopePackets dst envelopeId envelope packets ∧
    ∀ packet ∈ packets, Placed before after packet

/-- The packets of a deposit, sealed in the session with an anchor, were placed. -/
def StoreSent (before after : Node) (request : StoreRequest) (now : Nat) : Prop :=
  ∃ (anchor : Address) (session : Session) (header : Header) (fragment : Option UInt16)
    (ciphertext : Bytes) (packets : List Packet),
    before.sessions.get anchor = some session ∧ header.ptype = .store ∧ header.dst = anchor ∧
    (session.encrypt now (transportAad header fragment) request.encode).2 = .ok ciphertext ∧
    Carries header ciphertext packets fragment ∧ ∀ packet ∈ packets, Placed before after packet

/-- A deposit was queued behind the handshake with an anchor. -/
def StoreQueued (before after : Node) (request : StoreRequest) : Prop :=
  ∃ anchor, ∃ send ∈ (after.core.queueOf anchor).drop (before.core.queueOf anchor).length,
    send.handle = queuedStore ∧ send.payload = request.encode

/-- What a delivery attempt may achieve: the envelope is stored in our mailbox, its data
packets are queued, a deposit of it is sent or queued, or a discovery for its destination
holds it. -/
def Progresses (before after : Node) (dst : Address) (envelopeId : UInt32) (envelope : Bytes)
    (now : Nat) : Prop :=
  (¬before.Holds (before.depositRequest dst envelopeId envelope) ∧
      after.Holds (before.depositRequest dst envelopeId envelope)) ∨
    DataSent before after dst envelopeId envelope ∨
    (StoreSent before after (before.depositRequest dst envelopeId envelope) now ∨
      StoreQueued before after (before.depositRequest dst envelopeId envelope)) ∨
    after.Parked dst envelopeId envelope

/-- Our mailbox has a place for the envelope and we host its destination. -/
def TakesMail (node : Node) (dst : Address) (envelopeId : UInt32) (envelope : Bytes) : Prop :=
  ∃ neighbor mailbox, node.neighbors.get dst = some neighbor ∧ node.mailbox = some mailbox ∧
    (node.cfg.role.relays && neighbor.hostedByUs) = true ∧
    mailbox.HasPlace (node.depositRequest dst envelopeId envelope)

/-- A deposit at an anchor gets somewhere: there is a session with unused counters and the
router takes the packets, or the deposit can wait for a session. -/
def CanDeposit (node : Node) (anchor : Address) (request : StoreRequest) (now : Nat) : Prop :=
  match node.sessions.get anchor with
  | some session => session.sendCtr < counterRekeyThreshold ∧
      packetCount node.cfg.networkKey.isSome (request.encode.length + transportOverhead) ≤
        node.capacity anchor now
  | none => node.handshakes.contains anchor = true ∨ anchor ≠ node.address

/-- Something can be done for an envelope. -/
def CanDeliver (node : Node) (dst : Address) (envelopeId : UInt32) (envelope : Bytes)
    (now : Nat) : Prop :=
  node.Parked dst envelopeId envelope ∨ node.TakesMail dst envelopeId envelope ∨
    match node.knownAnchor dst now with
    | some anchor => node.CanDeposit anchor (node.depositRequest dst envelopeId envelope) now
    | none =>
      if (node.nextHopFor dst now).isSome = true then
        packetCount node.cfg.networkKey.isSome (frameEnvelope envelopeId envelope).length ≤
          node.freeSlots
      else if (frameEnvelope envelopeId envelope).length ≤
          maxPayload node.cfg.networkKey.isSome then 0 < node.waitingRoom dst now
      else ∃ anchor ∈ node.neighbors.bestAnchor,
        node.CanDeposit anchor.addr (node.depositRequest dst envelopeId envelope) now

/-! ## Attempts that achieve nothing -/

variable {node after : Node} {dst target : Address} {taken : List Packet}

variable {packet : Packet} {header : Header} {body envelope : Bytes} {packets : List Packet}
  {fragment : Option UInt16} {now : Nat}

omit [Primitives] in
theorem Admits.placed (admits : Admits target node after taken)
    (member : packet ∈ taken) (toTarget : packet.header.dst = target) :
    Placed node after packet := by
  obtain ⟨copies, added, queued, parked, _, _, every⟩ := admits
  subst toTarget
  rw [Placed, queued, parked, drop_left, drop_left]
  exact every packet member

omit [Primitives] in
theorem Admits.of_placed (admits : Admits target node after taken)
    (placed : Placed node after packet) (notRequest : packet.header.ptype ≠ .routeRequest) :
    ∃ original ∈ taken, packet.CopyOf original := by
  obtain ⟨copies, added, queued, parked, others, only, _⟩ := admits
  obtain ⟨copy, member, same⟩ := placed
  rw [queued, drop_left] at member
  have among : copy ∈ copies ++ added := by
    by_cases here : packet.header.dst = target
    · rwa [here, parked, drop_left] at member
    · rw [others _ here, drop_length, append_nil] at member
      exact mem_append_left _ member
  rcases only copy among with request | ⟨original, present, equal⟩
  · obtain ⟨hop, rfl⟩ := same
    exact absurd request notRequest
  · exact ⟨original, present, same.symm.trans equal⟩

/-- No message is complete among some packets. -/
def Incomplete (taken : List Packet) : Prop :=
  ∀ (header : Header) (body : Bytes) (packets : List Packet) (fragment : Option UInt16),
    Carries header body packets fragment →
      ¬∀ packet ∈ packets, ∃ original ∈ taken, packet.CopyOf original

/-- Nothing came of a delivery attempt. -/
structure Fruitless (dst : Address) (before after : Node) : Prop where
  mailbox : after.mailbox = before.mailbox
  handshakes : after.handshakes = before.handshakes
  parked : before.parkedFor dst <+: after.parkedFor dst
  unparked : ∀ packet ∈ after.parkedFor dst, packet.header.ptype = .data →
    packet ∈ before.parkedFor dst
  packets : ∃ target taken, Admits target before after taken ∧ Incomplete taken

omit [Primitives] in
/-- The packets of a carried body have its header's type. -/
theorem Carries.ptype (carries : Carries header body packets fragment) :
    ∀ packet ∈ packets, packet.header.ptype = header.ptype ∧ packet.header.dst = header.dst := by
  cases fragment with
  | none =>
    obtain ⟨_, rfl⟩ := carries
    intro packet member
    rw [mem_singleton.mp member]
    exact ⟨rfl, rfl⟩
  | some fragId =>
    obtain ⟨_, items, _, _, _, each⟩ := carries
    intro packet member
    obtain ⟨index, found⟩ := mem_iff_getElem?.mp member
    obtain ⟨_, _, _, rfl⟩ := each index packet found
    exact ⟨rfl, rfl⟩

/-- An attempt that succeeds when it is possible and is fruitless otherwise. -/
def Attempt (dst : Address) (before after : Node) (possible : Prop) (success : Node → Prop) :
    Prop :=
  (possible ∧ success after) ∨ (¬possible ∧ Fruitless dst before after)

theorem Fruitless.progresses_iff (fruitless : Fruitless dst node after) (envelopeId : UInt32)
    (envelope : Bytes) (now : Nat) :
    Progresses node after dst envelopeId envelope now ↔ node.Parked dst envelopeId envelope := by
  obtain ⟨target, taken, admits, incomplete⟩ := fruitless.packets
  constructor
  · rintro (⟨absent, present⟩ | ⟨packets, ⟨header, fragment, kind, _, _, carries⟩, placed⟩ |
      (⟨anchor, session, header, fragment, ciphertext, packets, _, kind, _, _, carries, placed⟩ |
        ⟨anchor, send, added, _⟩) | ⟨packets, ⟨header, fragment, kind, rest⟩, held⟩)
    · rw [Holds, fruitless.mailbox] at present
      exact absurd present absent
    · refine absurd (fun packet member => ?_) (incomplete _ _ _ _ carries)
      refine admits.of_placed (placed packet member) ?_
      rw [(Carries.ptype carries packet member).1, kind]
      decide
    · refine absurd (fun packet member => ?_) (incomplete _ _ _ _ carries)
      refine admits.of_placed (placed packet member) ?_
      rw [(Carries.ptype carries packet member).1, kind]
      decide
    · have same : after.core.queueOf anchor = node.core.queueOf anchor := by
        simp only [Core.queueOf, core, fruitless.handshakes]
      rw [same, drop_length] at added
      cases added
    · refine ⟨packets, ⟨header, fragment, kind, rest⟩, fun packet member => ?_⟩
      refine fruitless.unparked packet (held packet member) ?_
      rw [(Carries.ptype rest.2.2 packet member).1, kind]
  · rintro ⟨packets, carried, held⟩
    refine .inr (.inr (.inr ⟨packets, carried, fun packet member => ?_⟩))
    exact fruitless.parked.subset (held packet member)

section

omit [Primitives]

theorem incomplete_nil : Incomplete [] := by
  intro header body packets fragment carries among
  obtain ⟨packet, member⟩ := carries.nonempty
  obtain ⟨_, absent, _⟩ := among packet member
  cases absent

theorem incomplete_take {bound : Nat} (carries : Carries header body packets fragment)
    (short : bound < packets.length) : Incomplete (packets.take bound) :=
  fun _ _ _ _ other among => carries_not_cut other carries short among

/-- An attempt that moved nothing the router sees. -/
theorem Fruitless.ofSame (same : SameRouter node after) (mailbox : after.mailbox = node.mailbox)
    (handshakes : after.handshakes = node.handshakes) (dst : Address) :
    Fruitless dst node after := by
  refine ⟨mailbox, handshakes, ?_, ?_, dst, [], ?_, incomplete_nil⟩
  · simp only [same.parkedFor, prefix_rfl]
  · intro packet member _
    rwa [same.parkedFor] at member
  · refine ⟨[], [], ?_, ?_, fun other _ => same.parkedFor other, nofun, nofun⟩
    · rw [same.queued, append_nil]
    · rw [same.parkedFor, append_nil]

end

/-! ## Our own mailbox -/

/-- The mailbox stores the envelope exactly when it takes it; otherwise nothing happens. -/
theorem depositForHosted_outcome (node : Node) (dst : Address) (envelopeId : UInt32)
    (envelope : Bytes) (now : Nat) :
    (node.TakesMail dst envelopeId envelope ∧
      (node.depositForHosted dst envelopeId envelope now).2 = true ∧
      ¬node.Holds (node.depositRequest dst envelopeId envelope) ∧
      (node.depositForHosted dst envelopeId envelope now).1.Holds
        (node.depositRequest dst envelopeId envelope)) ∨
    (¬node.TakesMail dst envelopeId envelope ∧
      node.depositForHosted dst envelopeId envelope now = (node, false)) := by
  unfold depositForHosted
  cases known : node.neighbors.get dst with
  | none =>
    refine .inr ⟨?_, rfl⟩
    rintro ⟨neighbor, _, found, _⟩
    cases known.symm.trans found
  | some neighbor =>
    cases present : node.mailbox with
    | none =>
      refine .inr ⟨?_, rfl⟩
      rintro ⟨_, mailbox, _, found, _⟩
      cases present.symm.trans found
    | some mailbox =>
      simp only
      by_cases hosted : (node.cfg.role.relays && neighbor.hostedByUs) = true
      · rw [if_pos hosted]
        have place := mailbox.store_ok_iff now node.address
          (node.depositRequest dst envelopeId envelope)
        change (mailbox.store now node.address ⟨dst, envelopeId, node.cfg.envelopeTtlS,
          envelope⟩).2 = _ ↔ _ at place
        cases outcome : mailbox.store now node.address
            ⟨dst, envelopeId, node.cfg.envelopeTtlS, envelope⟩ with
        | mk stored result =>
          rw [outcome] at place
          cases result with
          | error reason =>
            refine .inr ⟨?_, rfl⟩
            rintro ⟨_, other, _, found, _, room⟩
            cases present.symm.trans found
            cases place.mpr room
          | ok =>
            have room := place.mp rfl
            obtain ⟨entry, sameDst, sameId, sameContent, appended⟩ := Mailbox.store_accepted outcome
            have member : entry ∈ stored.entries := by
              rw [appended]
              exact mem_append_right _ mem_cons_self
            refine .inl ⟨⟨neighbor, mailbox, known, present, hosted, room⟩, rfl, ?_, ?_⟩
            · rintro ⟨other, found, held, among, toDst, id_, _⟩
              cases present.symm.trans found
              have taken : mailbox.entries.any (Mailbox.isFor dst envelopeId) = true :=
                any_eq_true.mpr ⟨held, among, by
                  simp only [Mailbox.isFor, toDst, id_, depositRequest, beq_self_eq_true,
                    Bool.and_self]⟩
              exact Bool.false_ne_true (room.1.symm.trans taken)
            · have kept : Holds { node with
                  mailbox := some stored
                  transport := (node.transport.onStoreAccepted envelopeId).1 }
                    (node.depositRequest dst envelopeId envelope) :=
                ⟨stored, rfl, entry, member, sameDst, sameId, sameContent⟩
              simp only
              split
              · have flushed : Moves False _ { node with
                    mailbox := some stored
                    transport := (node.transport.onStoreAccepted envelopeId).1 } _ :=
                  flushMailboxTo_moves _ dst now
                exact flushed.holds (by decide) kept
              · exact kept
      · rw [if_neg hosted]
        refine .inr ⟨?_, rfl⟩
        rintro ⟨other, _, found, _, hosting, _⟩
        cases known.symm.trans found
        exact hosted hosting

/-! ## A deposit at an anchor -/

/-- A message the router has the capacity for is placed. -/
theorem Leaves.placed {result : Node × Except Error Unit}
    (leaves : node.Leaves target now header body packets fragment result)
    (distinct : node.routes.Distinct)
    (enough : packetCount node.cfg.networkKey.isSome body.length ≤ node.capacity target now) :
    ∀ packet ∈ packets, Placed node result.1 packet := by
  have admits := leaves.admits distinct
  rw [take_of_length_le (leaves.count ▸ enough)] at admits
  exact fun packet member => admits.placed member (leaves.sendable packet member).dst

/-- A message beyond the capacity of the router is not complete. -/
theorem Leaves.incomplete {result : Node × Except Error Unit}
    (leaves : node.Leaves target now header body packets fragment result)
    (distinct : node.routes.Distinct)
    (short : ¬packetCount node.cfg.networkKey.isSome body.length ≤ node.capacity target now) :
    ∃ taken, Admits target node result.1 taken ∧ Incomplete taken ∧ ∀ packet ∈ taken,
      packet.header.ptype = header.ptype := by
  refine ⟨_, leaves.admits distinct, incomplete_take leaves.carries ?_, ?_⟩
  · rw [leaves.count]
    omega
  · exact fun packet member =>
      (Carries.ptype leaves.carries packet (mem_of_mem_take member)).1

omit [Primitives] in
/-- New packets of another type park no data. -/
theorem Admits.unparked (dst : Address) (admits : Admits target node after taken)
    (other : ∀ packet ∈ taken, packet.header.ptype ≠ .data) :
    node.parkedFor dst <+: after.parkedFor dst ∧ ∀ packet ∈ after.parkedFor dst,
      packet.header.ptype = .data → packet ∈ node.parkedFor dst := by
  obtain ⟨copies, added, _, parked, others, only, _⟩ := admits
  by_cases here : dst = target
  · subst here
    rw [parked]
    refine ⟨prefix_append _ _, fun packet member kind => ?_⟩
    rcases mem_append.mp member with early | new
    · exact early
    · rcases only packet (mem_append_right _ new) with request | ⟨original, present, hop, same⟩
      · rw [request] at kind
        cases kind
      · rw [same] at kind
        exact absurd kind (other original present)
  · rw [others dst here]
    exact ⟨prefix_rfl, fun packet member _ => member⟩

/-- A deposit in a session: sealed and placed, or nothing comes of it. -/
theorem sendStore_session (honest : HonestPrimitives) {session : Session} {anchor : Address}
    (dst : Address) (envelopeId : UInt32) (now : Nat)
    (distinct : node.routes.Distinct) (bounded : envelope.length + 4 ≤ 1500)
    (found : node.sessions.get anchor = some session) :
    Attempt dst node (node.sendStore anchor dst envelopeId envelope now)
      (node.CanDeposit anchor (node.depositRequest dst envelopeId envelope) now)
      (StoreSent node · (node.depositRequest dst envelopeId envelope) now) := by
  let recorded := { node with history := { node.history with
    deposits := node.history.deposits ++ [Deposit.mk anchor dst envelopeId] } }
  let numbered := { recorded with transport := recorded.transport.nextSeq.1 }
  let request := node.depositRequest dst envelopeId envelope
  have sent : node.sendStore anchor dst envelopeId envelope now =
      (numbered.sendSessionPacket anchor .store request.encode recorded.transport.nextSeq.2 false
        now).1 := by
    simp only [sendStore]
    rw [if_pos ((contains_eq_true_iff _ _).mpr ⟨session, found⟩)]
    rfl
  have moved : Moves False Effects.sending recorded (node.sendStore anchor dst envelopeId envelope
      now) := by
    rw [sent]
    exact recorded.sendSequenced_moves anchor .store request.encode now
  have mailbox : (node.sendStore anchor dst envelopeId envelope now).mailbox = node.mailbox :=
    moved.same CoreStep.mailbox_same (by decide)
  have handshakes : (node.sendStore anchor dst envelopeId envelope now).handshakes =
      node.handshakes := moved.same CoreStep.handshakes_same (by decide)
  have router : SameRouter node numbered := by constructor <;> rfl
  have can : node.CanDeposit anchor request now ↔ session.sendCtr < counterRekeyThreshold ∧
      packetCount node.cfg.networkKey.isSome (request.encode.length + transportOverhead) ≤
        node.capacity anchor now := by
    rw [CanDeposit, found]
  have length : request.encode.length = 16 + envelope.length := by
    simp only [request, depositRequest, StoreRequest.encode, Address.asBytes, length_append,
      BigEndian.encode_length, addressLen]
  by_cases below : session.sendCtr < counterRekeyThreshold
  · have payload : 200 ≤ maxPayload node.cfg.networkKey.isSome - fragHeaderLen := by
      cases node.cfg.networkKey.isSome <;> decide
    obtain ⟨header, fragment, ciphertext, ⟨_, toAnchor, kind, _⟩, sealed, leaves⟩ :=
      @sendSessionPacket_leaves _ anchor numbered honest session request.encode .store
        recorded.transport.nextSeq.2 false now found below (by
          rw [length, transportOverhead, tagLen]
          change _ ≤ 255 * (maxPayload node.cfg.networkKey.isSome - fragHeaderLen)
          omega)
    have sealedLength := encrypt_length honest sealed
    by_cases enough : packetCount node.cfg.networkKey.isSome
        (request.encode.length + transportOverhead) ≤ node.capacity anchor now
    · refine .inl ⟨can.mpr ⟨below, enough⟩, anchor, session, header, fragment, ciphertext, _,
        found, kind, toAnchor, sealed, leaves.carries, ?_⟩
      rw [sent]
      refine leaves.placed distinct ?_
      rw [sealedLength]
      exact enough
    · refine .inr ⟨fun both => enough (can.mp both).2, ?_⟩
      obtain ⟨taken, admits, incomplete, kinds⟩ := leaves.incomplete distinct (by
        rw [sealedLength]
        exact enough)
      have own := router.admits admits
      rw [← sent] at own
      obtain ⟨parked, unparked⟩ := own.unparked dst (fun packet member => by
        rw [kinds packet member, kind]
        decide)
      exact ⟨mailbox, handshakes, parked, unparked, anchor, taken, own, incomplete⟩
  · refine .inr ⟨fun both => below (can.mp both).1, ?_⟩
    obtain ⟨_, same⟩ := @sendSessionPacket_exhausted _ anchor numbered session .store
      request.encode recorded.transport.nextSeq.2 false now found (Nat.le_of_not_lt below)
    rw [← sent] at same
    refine Fruitless.ofSame ?_ mailbox handshakes dst
    exact { same with }

/-- A deposit without a session: queued behind a handshake, unless the anchor is this node
itself. -/
theorem sendStore_waiting {anchor : Address} (dst : Address) (envelopeId : UInt32)
    (envelope : Bytes) (now : Nat) (absent : node.sessions.get anchor = none) :
    Attempt dst node (node.sendStore anchor dst envelopeId envelope now)
      (node.CanDeposit anchor (node.depositRequest dst envelopeId envelope) now)
      (StoreQueued node · (node.depositRequest dst envelopeId envelope)) := by
  let recorded := { node with history := { node.history with
    deposits := node.history.deposits ++ [Deposit.mk anchor dst envelopeId] } }
  let request := node.depositRequest dst envelopeId envelope
  let send : QueuedSend := ⟨anchor, request.encode, .unreliable, queuedStore, now⟩
  have sent : node.sendStore anchor dst envelopeId envelope now =
      (recorded.startHandshake anchor now).pushQueued anchor send := by
    simp only [sendStore]
    rw [if_neg (by simp [OrderedMap.contains, absent])]
    rfl
  have can : node.CanDeposit anchor request now ↔
      node.handshakes.contains anchor = true ∨ anchor ≠ node.address := by
    rw [CanDeposit, absent]
  have queues {pending : PendingHandshake} (started : Node)
      (there : started.handshakes.get anchor = some pending)
      (earlier : node.core.queueOf anchor = pending.queued) :
      StoreQueued node (started.pushQueued anchor send) request := by
    refine ⟨anchor, send, ?_, rfl, rfl⟩
    have added : (started.pushQueued anchor send).core.queueOf anchor =
        pending.queued ++ [send] := by
      simp only [Core.queueOf, core, pushQueued, get_modify_self, there, Option.map_some]
    rw [added, earlier, drop_left]
    exact mem_cons_self
  rw [sent]
  by_cases known : node.handshakes.contains anchor = true
  · have unchanged : recorded.startHandshake anchor now = recorded := by
      unfold startHandshake
      exact if_pos (.inl known)
    obtain ⟨pending, there⟩ := (contains_eq_true_iff _ _).mp known
    rw [unchanged]
    refine .inl ⟨can.mpr (.inl known), queues recorded there ?_⟩
    simp only [Core.queueOf, core, there]
  · have nowhere : node.handshakes.get anchor = none := get_eq_none known
    by_cases self : anchor = node.address
    · have unchanged : recorded.startHandshake anchor now = recorded := by
        unfold startHandshake
        exact if_pos (.inr self)
      have same : (recorded.pushQueued anchor send).handshakes = node.handshakes :=
        modify_absent node.handshakes nowhere
          (fun pending => { pending with queued := pending.queued ++ [send] })
      have router : SameRouter node (recorded.pushQueued anchor send) := by
        constructor <;> rfl
      rw [unchanged]
      refine .inr ⟨fun possible => ?_, Fruitless.ofSame router rfl same dst⟩
      exact (can.mp possible).elim known (fun other => other self)
    · rcases recorded.startHandshake_cases anchor now with ⟨blocked, _⟩ |
        ⟨pending, started, empty, _, contents, _, _, opened⟩
      · exact absurd blocked (not_or.mpr ⟨known, self⟩)
      · have quiet : Quiet False started (recorded.startHandshake anchor now) := by
          rw [opened]
          exact started.sendHandshakePacket_quiet anchor .one pending.m1 now
        have inserted : (recorded.startHandshake anchor now).handshakes =
            node.handshakes.insert anchor pending :=
          congrArg Core.handshakes (quiet.core.trans contents)
        have there : (recorded.startHandshake anchor now).handshakes.get anchor = some pending := by
          rw [inserted, get_insert_self]
        refine .inl ⟨can.mpr (.inr self), queues _ there ?_⟩
        simp only [Core.queueOf, core, nowhere, empty]

/-- A deposit that can be made is sent or queued, and one that cannot comes to nothing. -/
theorem sendStore_outcome (honest : HonestPrimitives) (node : Node) (anchor dst : Address)
    (envelopeId : UInt32) (now : Nat) (distinct : node.routes.Distinct)
    (bounded : envelope.length + 4 ≤ 1500) :
    Attempt dst node (node.sendStore anchor dst envelopeId envelope now)
      (node.CanDeposit anchor (node.depositRequest dst envelopeId envelope) now)
      (fun after => StoreSent node after (node.depositRequest dst envelopeId envelope) now ∨
        StoreQueued node after (node.depositRequest dst envelopeId envelope)) := by
  cases found : node.sessions.get anchor with
  | some session =>
    exact (sendStore_session honest dst envelopeId now distinct bounded found).imp_left
      (fun both => ⟨both.1, .inl both.2⟩)
  | none =>
    exact (sendStore_waiting dst envelopeId envelope now found).imp_left
      (fun both => ⟨both.1, .inr both.2⟩)

/-! ## Along the route -/

variable (envelopeId : UInt32)

/-- Data of an envelope with a next hop. -/
theorem sendEnvelopeData_outcome {now : Nat} (distinct : node.routes.Distinct)
    (directed : node.directs dst now = true) (bounded : envelope.length + 4 ≤ 1500) :
    Attempt dst node (node.sendEnvelopeData dst envelopeId envelope now)
      (packetCount node.cfg.networkKey.isSome (frameEnvelope envelopeId envelope).length ≤
        node.freeSlots)
      (DataSent node · dst envelopeId envelope) := by
  have payload : 200 ≤ maxPayload node.cfg.networkKey.isSome - fragHeaderLen := by
    cases node.cfg.networkKey.isSome <;> decide
  have length : (frameEnvelope envelopeId envelope).length = 4 + envelope.length := by
    simp [frameEnvelope]
  obtain ⟨header, fragment, packets, ⟨kind, toDst, letter⟩, leaves⟩ :=
    @sendEnvelopeData_leaves _ dst now node envelopeId envelope distinct directed (by omega)
  have room : node.capacity dst now = node.freeSlots := if_pos directed
  have quiet : Quiet False node (node.sendEnvelopeData dst envelopeId envelope now) :=
    node.sendEnvelopeData_quiet dst envelopeId envelope now
  by_cases enough : packetCount node.cfg.networkKey.isSome
      (frameEnvelope envelopeId envelope).length ≤ node.freeSlots
  · refine .inl ⟨enough, packets, ⟨header, fragment, kind, toDst, letter, leaves.carries⟩, ?_⟩
    exact leaves.placed distinct (room ▸ enough)
  · obtain ⟨taken, admits, incomplete, _⟩ := leaves.incomplete distinct (room ▸ enough)
    obtain ⟨ready, same, _, bursts⟩ := leaves.bursts
    obtain ⟨_, copies, onward, _⟩ := bursts.directed (same.routes ▸ distinct)
      ((same.directs dst now).trans directed) (fun packet member =>
        ⟨(leaves.sendable packet member).dst, same.cfg ▸ (leaves.sendable packet member).marked,
          same.cfg ▸ (leaves.sendable packet member).fits⟩)
    have parked : (node.sendEnvelopeData dst envelopeId envelope now).parkedFor dst =
        node.parkedFor dst := by
      rw [← same.parkedFor, parkedFor, onward.ierp, parkedFor]
    refine .inr ⟨enough, congrArg Core.mailbox quiet.core, congrArg Core.handshakes quiet.core,
      ?_, ?_, dst, taken, admits, incomplete⟩
    · simp only [parked, prefix_rfl]
    · intro packet member _
      rwa [parked] at member

/-- An envelope without a next hop that fits into one packet is parked, if the discovery
holds packets at all. -/
theorem routeUnicastEnvelope_parks {now : Nat} (zrp : node.cfg.routingMode = .zrp)
    (unknown : node.nextHopFor dst now = none) (may : node.MayDiscover dst now)
    (fits : (frameEnvelope envelopeId envelope).length ≤ maxPayload node.cfg.networkKey.isSome) :
    (node.routeUnicastEnvelope dst envelopeId envelope now).2 = .ok () ∧
      Attempt dst node (node.routeUnicastEnvelope dst envelopeId envelope now).1
        (0 < node.waitingRoom dst now)
        (Parked · dst envelopeId envelope) := by
  have quiet : Quiet False node (node.routeUnicastEnvelope dst envelopeId envelope now).1 :=
    node.routeUnicastEnvelope_quiet dst envelopeId envelope now
  have base := node.baseHeader_fields .data dst node.cfg.defaultTtl
  have netAuth := node.baseHeader_netAuth .data dst node.cfg.defaultTtl
  have unmarked : (node.baseHeader .data dst node.cfg.defaultTtl).2.has Flags.fragmented = false :=
    node.baseHeader_has .data dst node.cfg.defaultTtl rfl
  have undirected : node.directs dst now = false := by simp [directs, zrp, unknown]
  let header := ((node.baseHeader .data dst node.cfg.defaultTtl).2.set Flags.envelope true).set
    Flags.storeForward true
  obtain ⟨letter, marked, whole⟩ :=
    envelopeMarks_has (node.baseHeader .data dst node.cfg.defaultTtl).2
  rw [netAuth] at marked
  rw [unmarked] at whole
  have toDst : header.dst = dst := base.2.1
  let packet : Packet := ⟨header, frameEnvelope envelopeId envelope⟩
  let drawn := (node.baseHeader .data dst node.cfg.defaultTtl).1
  have routed : node.routeUnicastEnvelope dst envelopeId envelope now =
      drawn.routeUnicast packet now := by
    simp only [routeUnicastEnvelope]
    rw [if_pos ⟨by rw [unknown]; rfl, zrp⟩]
    rw [marked]
    exact if_neg (Nat.not_lt.mpr fits)
  have shelved := (@routeUnicast_waiting _ dst now drawn packet undirected toDst).1
  have accepted : (drawn.routeUnicast packet now).2 = .ok () := by
    rcases @routeUnicast_routable _ dst now drawn packet toDst with ⟨_, taken⟩ | ⟨stuck, _⟩
    · exact taken
    · exact absurd (.inr may) stuck
  rw [routed] at quiet ⊢
  refine ⟨accepted, ?_⟩
  by_cases room : 0 < node.waitingRoom dst now
  · refine .inl ⟨room, [packet], ⟨header, none, base.2.2, toDst, letter, whole, rfl⟩, ?_⟩
    intro other member
    rw [mem_singleton.mp member, shelved.held]
    refine mem_append_right _ ?_
    rw [take_of_length_le]
    · exact mem_cons_self
    · exact room
  · refine .inr ⟨room, ?_⟩
    have none : node.waitingRoom dst now = 0 := by omega
    change Shelved dst now drawn _ ([packet].take (node.waitingRoom dst now)) at shelved
    rw [none, take_zero] at shelved
    have same := shelved.held
    rw [append_nil] at same
    change _ = node.parkedFor dst at same
    refine ⟨congrArg Core.mailbox quiet.core, congrArg Core.handshakes quiet.core, ?_, ?_, dst, [],
      shelved.admits, incomplete_nil⟩
    · simp only [same, prefix_rfl]
    · intro packet member _
      rwa [same] at member

/-- An envelope without a next hop that does not fit into one packet is refused. -/
theorem routeUnicastEnvelope_large (zrp : node.cfg.routingMode = .zrp)
    (unknown : node.nextHopFor dst now = none)
    (large : ¬(frameEnvelope envelopeId envelope).length ≤ maxPayload node.cfg.networkKey.isSome) :
    node.routeUnicastEnvelope dst envelopeId envelope now =
      ((node.baseHeader .data dst node.cfg.defaultTtl).1, .error .tooLarge) := by
  have marked := (envelopeMarks_has (node.baseHeader .data dst node.cfg.defaultTtl).2).2.1
  rw [node.baseHeader_netAuth] at marked
  simp only [routeUnicastEnvelope]
  rw [if_pos ⟨by rw [unknown]; rfl, zrp⟩, marked]
  exact if_pos (Nat.lt_of_not_le large)

/-- Nothing happens to a large envelope without a next hop and without an anchor. -/
theorem deliverEnvelope_stranded (zrp : node.cfg.routingMode = .zrp)
    (unknown : node.nextHopFor dst now = none)
    (large : ¬(frameEnvelope envelopeId envelope).length ≤ maxPayload node.cfg.networkKey.isSome)
    (refuses : ¬node.TakesMail dst envelopeId envelope) (nowhere : node.knownAnchor dst now = none)
    (alone : node.neighbors.bestAnchor = none) :
    Fruitless dst node (node.deliverEnvelope dst envelopeId envelope now) := by
  let drawn := (node.baseHeader .data dst node.cfg.defaultTtl).1
  have router : SameRouter node drawn := by constructor <;> rfl
  have unchanged : node.deliverEnvelope dst envelopeId envelope now = drawn := by
    have hosted : node.depositForHosted dst envelopeId envelope now = (node, false) :=
      ((node.depositForHosted_outcome dst envelopeId envelope now).resolve_left
        (fun stored => refuses stored.1)).2
    have hostless : drawn.neighbors.bestAnchor = none := alone
    simp only [deliverEnvelope, hosted, nowhere,
      routeUnicastEnvelope_large envelopeId zrp unknown large]
    rw [if_neg Bool.false_ne_true, hostless]
  rw [unchanged]
  exact Fruitless.ofSame router rfl rfl dst

/-- A delivery attempt makes progress exactly when something can be done for the envelope. -/
theorem envelope_progress_iff (honest : HonestPrimitives) (node : Node) (dst : Address)
    (envelopeId : UInt32) (envelope : Bytes) (now : Nat) (zrp : node.cfg.routingMode = .zrp)
    (built : node.routes.Built) (may : node.MayDiscover dst now)
    (bounded : envelope.length + 4 ≤ 1500) :
    Progresses node (node.deliverEnvelope dst envelopeId envelope now) dst envelopeId envelope
      now ↔ node.CanDeliver dst envelopeId envelope now := by
  have distinct := built.distinct
  have either {after : Node} {condition : Prop} (outcome : Attempt dst node after condition
        (Progresses node · dst envelopeId envelope now)) :
      Progresses node after dst envelopeId envelope now ↔
        node.Parked dst envelopeId envelope ∨ condition := by
    rcases outcome with ⟨holds, progress⟩ | ⟨fails, fruitless⟩
    · exact ⟨fun _ => .inr holds, fun _ => progress⟩
    · rw [fruitless.progresses_iff]
      exact ⟨.inl, fun possible => possible.resolve_right fails⟩
  unfold CanDeliver deliverEnvelope
  rcases node.depositForHosted_outcome dst envelopeId envelope now with
    ⟨takes, accepted, before, after⟩ | ⟨refuses, unchanged⟩
  · simp only [accepted, if_true]
    exact ⟨fun _ => .inr (.inl takes), fun _ => .inl ⟨before, after⟩⟩
  · simp only [unchanged, Bool.false_eq_true, if_false, refuses, false_or]
    cases node.knownAnchor dst now with
    | some anchor =>
      refine either ((node.sendStore_outcome honest anchor dst envelopeId now distinct
        bounded).imp_left ?_)
      rintro ⟨can, sent⟩
      exact ⟨can, .inr (.inr (.inl sent))⟩
    | none =>
      simp only
      cases known : node.nextHopFor dst now with
      | some hop =>
        have routed : node.routeUnicastEnvelope dst envelopeId envelope now =
            (node.sendEnvelopeData dst envelopeId envelope now, .ok ()) := by
          simp [routeUnicastEnvelope, known]
        have directed : node.directs dst now = true := by simp [directs, known]
        rw [routed, Option.isSome_some, if_pos rfl]
        refine either ((sendEnvelopeData_outcome envelopeId distinct directed bounded).imp_left ?_)
        rintro ⟨room, sent⟩
        exact ⟨room, .inr (.inl sent)⟩
      | none =>
        rw [Option.isSome_none, if_neg Bool.false_ne_true]
        by_cases fits : (frameEnvelope envelopeId envelope).length ≤
            maxPayload node.cfg.networkKey.isSome
        · rw [if_pos fits]
          obtain ⟨accepted, outcome⟩ := routeUnicastEnvelope_parks envelopeId zrp known may fits
          cases routed : node.routeUnicastEnvelope dst envelopeId envelope now with
          | mk sent result =>
            rw [routed] at accepted outcome
            simp only at accepted outcome
            rw [accepted]
            refine either (outcome.imp_left ?_)
            rintro ⟨room, parked⟩
            exact ⟨room, .inr (.inr (.inr parked))⟩
        · rw [if_neg fits]
          let drawn := (node.baseHeader .data dst node.cfg.defaultTtl).1
          have router : SameRouter node drawn := by constructor <;> rfl
          rw [routeUnicastEnvelope_large envelopeId zrp known fits]
          simp only [show (node.baseHeader .data dst node.cfg.defaultTtl).1.neighbors =
            node.neighbors from rfl]
          cases node.neighbors.bestAnchor with
          | none =>
            refine either (.inr ⟨by simp, Fruitless.ofSame router rfl rfl dst⟩)
          | some anchor =>
            have same : drawn.CanDeposit anchor.addr (drawn.depositRequest dst envelopeId envelope)
                now ↔ node.CanDeposit anchor.addr (node.depositRequest dst envelopeId envelope)
                  now := by
              simp only [CanDeposit, router.capacity]
              rfl
            have outcome := drawn.sendStore_outcome honest anchor.addr dst envelopeId now distinct
              bounded
            rw [same] at outcome
            simp only [Option.mem_def, Option.some.injEq, exists_eq_left']
            refine either (outcome.imp ?_ ?_)
            · rintro ⟨can, sent⟩
              exact ⟨can, .inr (.inr (.inl sent))⟩
            · rintro ⟨cannot, nothing⟩
              exact ⟨cannot, nothing.mailbox, nothing.handshakes, nothing.parked, nothing.unparked,
                nothing.packets⟩

end Node

end MeshStar

namespace MeshStar.Progress

local instance progressSuite : Primitives := Transparent.primitives

open Transparent

open Node

/-- A node that knows nobody yet. -/
def alone : Node :=
  Node.new NodeConfig.default (identity 1) generator 0

def peer : Address := (identity 2).address

/-- An envelope that needs two packets. -/
def large : Bytes := List.replicate 300 7

theorem alone_unknown : alone.nextHopFor peer 10 = none ∧ alone.knownAnchor peer 10 = none ∧
    (alone.ierp.mayStart peer 10 = true) ∧ (alone.neighbors.get peer).isNone = true := by
  decide +kernel

theorem alone_refuses (envelopeId : UInt32) (envelope : Bytes) :
    ¬alone.TakesMail peer envelopeId envelope := by
  rintro ⟨neighbor, _, found, _⟩
  have nobody := alone_unknown.2.2.2
  rw [found] at nobody
  cases nobody

/-- A node that may start a discovery does nothing for an envelope of two packets. -/
theorem large_envelope_stranded : alone.cfg.routingMode = .zrp ∧ alone.MayDiscover peer 10 ∧
    large.length + 4 ≤ 1500 ∧
    ¬Progresses alone (alone.deliverEnvelope peer 5 large 10) peer 5 large 10 := by
  obtain ⟨unknown, nowhere, may, _⟩ := alone_unknown
  have sizes : large.length + 4 ≤ 1500 ∧
      ¬(frameEnvelope 5 large).length ≤ maxPayload alone.cfg.networkKey.isSome := by
    decide +kernel
  refine ⟨rfl, .inr may, sizes.1, ?_⟩
  have fruitless : Fruitless peer alone (alone.deliverEnvelope peer 5 large 10) :=
    deliverEnvelope_stranded 5 rfl unknown sizes.2 (alone_refuses 5 large) nowhere rfl
  rw [fruitless.progresses_iff]
  rintro ⟨packets, ⟨_, _, _, _, _, carries⟩, parked⟩
  refine incomplete_nil _ _ _ _ carries (fun packet member => ?_)
  exact absurd (parked packet member) nofun

/-- An envelope that fits into one packet is parked by the same node. -/
theorem small_envelope_parked : Progresses alone (alone.deliverEnvelope peer 5 [1, 2, 3] 10) peer 5
    [1, 2, 3] 10 := by
  obtain ⟨unknown, nowhere, may, _⟩ := alone_unknown
  refine (envelope_progress_iff honest alone peer 5 [1, 2, 3] 10 rfl (.new _) (.inr may)
    (by decide)).mpr (.inr (.inr ?_))
  have fits : (frameEnvelope 5 [1, 2, 3]).length ≤ maxPayload alone.cfg.networkKey.isSome ∧
      0 < alone.waitingRoom peer 10 := by
    decide +kernel
  rw [nowhere, unknown]
  simp only [Option.isSome_none, Bool.false_eq_true, if_false]
  rw [if_pos fits.1]
  exact fits.2

end MeshStar.Progress

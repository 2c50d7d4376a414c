import MeshStar.Node.Receive
import MeshStar.Reassembly

/-!
# Session messages across the network

A session send seals its body once and hands one packet, or one packet for each fragment,
to the router. Relays rewrite the hop fields only, and the packets arrive in any order
with repetitions. Whichever fragment comes last, the receiver has the sender's ciphertext
and computes the sender's associated data: it binds the fragment id where the packets
differ and leaves out the flag that marks them as fragments.
-/

namespace MeshStar

open List

variable [Primitives]

namespace Node

/-- The packets a fragmented send hands to the router, in order. -/
def fragmentPackets (header : Header) (now : Nat) :
    List (FragHeader × Bytes) → Bool → Node → List Packet
  | [], _, _ => []
  | part :: rest, first, node =>
    let drawn := if first then (node, header.packetId) else node.newPacketId
    let packet : Packet := ⟨{ header with packetId := drawn.2 }, frameFragment part.1 part.2⟩
    packet :: fragmentPackets header now rest false (drawn.1.routeUnicast packet now).1

/-- The packets a session send hands to the router, in order. -/
def sessionPackets (node : Node) (dst : Address) (ptype : PacketType) (body : Bytes)
    (seq : UInt16) (ackRequest : Bool) (now : Nat) : List Packet :=
  let based := node.baseHeader ptype dst (node.ttlFor dst)
  let whole := based.1.sessionHeader based.2 seq ackRequest
  let singleMax := maxPayload (whole.has Flags.netAuth)
  let fragmented := body.length + transportOverhead > singleMax
  let counted := if fragmented then { based.1 with fragId := based.1.fragId + 1 } else based.1
  let fragId := if fragmented then some counted.fragId else none
  let header := if fragmented then whole.set Flags.fragmented true else whole
  match counted.sessions.get dst with
  | none => []
  | some session =>
    match session.encrypt now (transportAad header fragId) body with
    | (_, .error _) => []
    | (advanced, .ok ciphertext) =>
      match fragId with
      | none => [⟨header, ciphertext⟩]
      | some fragment =>
        match split fragment ciphertext (singleMax - fragHeaderLen) with
        | none => []
        | some parts => fragmentPackets header now parts true
            { counted with sessions := counted.sessions.insert dst advanced }

/-- Packets handed to the router one after the other, each taken; a fresh packet id may be
drawn before each. -/
inductive Hands (now : Nat) : Node → List Packet → Node → Prop where
  | done {node : Node} : Hands now node [] node
  | draw {node after : Node} {packets : List Packet}
      (rest : Hands now node.newPacketId.1 packets after) : Hands now node packets after
  | route {node routed after : Node} {packet : Packet} {packets : List Packet}
      (taken : node.routeUnicast packet now = (routed, .ok ()))
      (rest : Hands now routed packets after) : Hands now node (packet :: packets) after

variable {header : Header} {now : Nat} {node : Node} {ciphertext : Bytes} {packets : List Packet}

/-- The packets of a fragmented send are what it hands to the router. -/
theorem sendFragments_hands {parts : List (FragHeader × Bytes)} {first : Bool} {sent : Node}
    (accepted : sendFragments header now parts first node = (sent, .ok ())) :
    Hands now node (fragmentPackets header now parts first node) sent := by
  induction parts generalizing first node with
  | nil =>
    cases accepted
    exact .done
  | cons part rest ih =>
    simp only [sendFragments] at accepted
    simp only [fragmentPackets]
    split at accepted
    · cases accepted
    · rename_i routed taken
      have later := ih accepted
      have step : Hands now (if first then (node, header.packetId) else node.newPacketId).1
          (fragmentPackets header now (part :: rest) first node) sent := by
        simp only [fragmentPackets]
        refine .route taken ?_
        rwa [taken]
      cases first with
      | true => exact step
      | false => exact .draw step

/-- Every part of a fragmented send gets a packet of its own. -/
theorem fragmentPackets_parts (header : Header) (now : Nat) (parts : List (FragHeader × Bytes))
    (first : Bool) (node : Node) :
    (fragmentPackets header now parts first node).length = parts.length ∧
    ∀ (index : Nat) (packet : Packet),
      (fragmentPackets header now parts first node)[index]? = some packet →
        ∃ (part : FragHeader × Bytes) (packetId : UInt32), parts[index]? = some part ∧
          packet = ⟨{ header with packetId := packetId }, frameFragment part.1 part.2⟩ := by
  induction parts generalizing first node with
  | nil => exact ⟨rfl, fun _ _ found => nomatch found⟩
  | cons part rest ih =>
    simp only [fragmentPackets]
    obtain ⟨length, later⟩ := ih false (Node.routeUnicast
      (if first then (node, header.packetId) else node.newPacketId).1
      ⟨{ header with packetId := (if first then (node, header.packetId) else node.newPacketId).2 },
        frameFragment part.1 part.2⟩ now).1
    refine ⟨by rw [length_cons, length, length_cons], ?_⟩
    intro index packet found
    cases index with
    | zero => exact ⟨part, _, rfl, (Option.some.inj found).symm⟩
    | succ index => exact later index packet found

/-- The packets of a session message: one that carries the ciphertext, or one for each
chunk of it, with packet ids of their own and the fragment id in common. -/
def Carries (header : Header) (ciphertext : Bytes) (packets : List Packet) : Option UInt16 → Prop
  | none => header.has Flags.fragmented = false ∧ packets = [⟨header, ciphertext⟩]
  | some fragId => header.has Flags.fragmented = true ∧
      ∃ items, Countable items ∧ items.flatten = ciphertext ∧ packets.length = items.length ∧
        ∀ (index : Nat) (packet : Packet), packets[index]? = some packet →
          ∃ (item : Bytes) (packetId : UInt32), items[index]? = some item ∧
            packet = ⟨{ header with packetId := packetId },
              frameFragment (fragmentHeader fragId items index) item⟩

omit [Primitives] in
theorem Carries.nonempty
    {fragment : Option UInt16} (carries : Carries header ciphertext packets fragment) :
    ∃ packet, packet ∈ packets := by
  cases fragment with
  | none => exact ⟨_, carries.2 ▸ mem_singleton_self _⟩
  | some _ =>
    obtain ⟨_, items, countable, _, length, _⟩ := carries
    exact exists_mem_of_length_pos (length ▸ countable.nonempty)

omit [Primitives] in
/-- A session header keeps the flags it does not set. -/
theorem sessionHeader_has (node : Node) (header : Header) (seq : UInt16) (ackRequest : Bool)
    {flag : UInt8} (encrypted : Flags.encrypted &&& flag = 0)
    (acked : Flags.ackRequest &&& flag = 0) (sourced : Flags.leafSource &&& flag = 0) :
    (node.sessionHeader header seq ackRequest).has flag = header.has flag := by
  have numbered : { header with seq := seq }.has flag = header.has flag := rfl
  simp only [sessionHeader]
  split
  · rw [Header.has_set_of_disjoint sourced, Header.has_set_of_disjoint acked,
      Header.has_set_of_disjoint encrypted, numbered]
  · rw [Header.has_set_of_disjoint acked, Header.has_set_of_disjoint encrypted, numbered]

omit [Primitives] in
/-- A session header keeps sender, destination and type, and has its number. -/
theorem sessionHeader_fields (node : Node) (header : Header) (seq : UInt16) (ackRequest : Bool) :
    (node.sessionHeader header seq ackRequest).src = header.src ∧
      (node.sessionHeader header seq ackRequest).dst = header.dst ∧
      (node.sessionHeader header seq ackRequest).ptype = header.ptype ∧
      (node.sessionHeader header seq ackRequest).seq = seq := by
  simp only [sessionHeader]
  split <;> exact ⟨rfl, rfl, rfl, rfl⟩

/-- The packets of a ciphertext that was split carry it. -/
theorem carries_fragments {fragId : UInt16} {chunk : Nat}
    {parts : List (FragHeader × Bytes)} {first : Bool}
    (marked : header.has Flags.fragmented = true)
    (splitted : split fragId ciphertext chunk = some parts) :
    Carries header ciphertext (fragmentPackets header now parts first node) (some fragId) := by
  obtain ⟨items, countable, whole, rfl⟩ := split_fragments splitted
  obtain ⟨length, each⟩ := fragmentPackets_parts header now (fragmentsOf fragId items) first node
  refine ⟨marked, items, countable, whole, ?_, ?_⟩
  · rw [length, fragmentsOf, length_map, length_zipIdx]
  · intro index packet found
    obtain ⟨part, packetId, present, rfl⟩ := each index packet found
    rw [fragmentsOf_getElem] at present
    obtain ⟨item, here, rfl⟩ := Option.map_eq_some_iff.mp present
    exact ⟨item, packetId, here, rfl⟩

/-- What a session send that was accepted has done: its session sealed the body under the
associated data of one header, and the packets that carry the ciphertext were routed. -/
theorem sendSessionPacket_sends {sent : Node} {dst : Address} {ptype : PacketType}
    {body : Bytes} {seq : UInt16} {ackRequest : Bool}
    (accepted : node.sendSessionPacket dst ptype body seq ackRequest now = (sent, .ok ())) :
    ∃ (session : Session) (header : Header) (fragment : Option UInt16) (ciphertext : Bytes)
      (ready : Node),
      node.sessions.get dst = some session ∧
      (header.src = node.address ∧ header.dst = dst ∧ header.ptype = ptype ∧ header.seq = seq) ∧
      (session.encrypt now (transportAad header fragment) body).2 = .ok ciphertext ∧
      Carries header ciphertext (node.sessionPackets dst ptype body seq ackRequest now) fragment ∧
      Hands now ready (node.sessionPackets dst ptype body seq ackRequest now) sent := by
  have kept : (node.baseHeader ptype dst (node.ttlFor dst)).1.sessions = node.sessions := rfl
  have base := node.baseHeader_fields ptype dst (node.ttlFor dst)
  have unmarked : (node.baseHeader ptype dst (node.ttlFor dst)).2.has Flags.fragmented = false :=
    node.baseHeader_has ptype dst (node.ttlFor dst) rfl
  simp only [sendSessionPacket] at accepted
  simp only [sessionPackets]
  generalize node.baseHeader ptype dst (node.ttlFor dst) = based at *
  have whole := (based.1.sessionHeader_has based.2 seq ackRequest (by decide) (by decide)
    (by decide)).trans unmarked
  have fields := based.1.sessionHeader_fields based.2 seq ackRequest
  rw [base.1, base.2.1, base.2.2] at fields
  generalize based.1.sessionHeader based.2 seq ackRequest = header at *
  by_cases large : body.length + transportOverhead > maxPayload (header.has Flags.netAuth)
  · simp only [large, if_true, kept] at accepted ⊢
    cases found : node.sessions.get dst with
    | none =>
      rw [found] at accepted
      cases accepted
    | some session =>
      simp only [found] at accepted ⊢
      cases sealed : session.encrypt now (transportAad (header.set Flags.fragmented true)
          (some (based.1.fragId + 1))) body with
      | mk advanced result =>
        cases result with
        | error =>
          simp only [sealed] at accepted
          cases accepted
        | ok ciphertext =>
          simp only [sealed] at accepted ⊢
          cases splitted : split (based.1.fragId + 1) ciphertext
              (maxPayload (header.has Flags.netAuth) - fragHeaderLen) with
          | none =>
            simp only [splitted] at accepted
            cases accepted
          | some parts =>
            simp only [splitted] at accepted ⊢
            exact ⟨session, header.set Flags.fragmented true, some (based.1.fragId + 1), ciphertext,
              _, rfl, fields, by rw [sealed], carries_fragments (header.has_set_self (by decide))
                splitted, sendFragments_hands accepted⟩
  · simp only [large, if_false, kept] at accepted ⊢
    cases found : node.sessions.get dst with
    | none =>
      rw [found] at accepted
      cases accepted
    | some session =>
      simp only [found] at accepted ⊢
      cases sealed : session.encrypt now (transportAad header none) body with
      | mk advanced result =>
        cases result with
        | error =>
          simp only [sealed] at accepted
          cases accepted
        | ok ciphertext =>
          simp only [sealed] at accepted ⊢
          exact ⟨session, header, none, ciphertext, _, rfl, fields, by rw [sealed], ⟨whole, rfl⟩,
            .route accepted .done⟩

section

omit [Primitives]

/-- Reassembly leaves the sessions alone. -/
theorem reassemble_sessions (node : Node) (packet : Packet) (now : Nat) :
    (node.reassemble packet now).1.sessions = node.sessions := by
  unfold reassemble
  split <;> rfl

end

/-- A received packet: the state of the node that receives it, and the time. -/
structure Arrival where
  node : Node
  packet : Packet
  now : Nat

/-- What the node has of the message a packet belongs to. -/
def partialOf (node : Node) (packet : Packet) : Option FragSet :=
  packet.fragHeader.bind (fun header =>
    node.reassembler.sets.get ⟨packet.header.src, header.fragId⟩)

namespace Arrival

/-- What the receiver had of the message when the packet came. -/
def found (arrival : Arrival) : Option FragSet := arrival.node.partialOf arrival.packet

/-- What the receiver has of the message afterwards. -/
def left (arrival : Arrival) : Option FragSet :=
  (arrival.node.openSessionPayload arrival.packet arrival.now).1.partialOf arrival.packet

/-- The reassembler has room for a fragment. -/
def Fits (arrival : Arrival) : Prop :=
  ∀ header, arrival.packet.fragHeader = some header →
    (arrival.node.reassembler.push arrival.now arrival.packet.header.src header
      arrival.packet.body).2 ≠ .error .full

/-- Each arrival finds of the message what the one before left, whatever else the receiver
did in between. -/
def Follows (held : Option FragSet) : List Arrival → Arrival → Prop
  | [], last => last.found = held
  | arrival :: rest, last => arrival.found = held ∧ Follows arrival.left rest last

/-- Packets are delivered in any order, with repetitions before the one that comes last
and any change of the hop fields. The receiver had nothing of the message before, and
keeps what it has until the message is complete. -/
structure Delivers (packets : List Packet) (arrivals : List Arrival) (last : Arrival) : Prop where
  genuine : ∀ arrival ∈ last :: arrivals, ∃ packet ∈ packets, arrival.packet.SameMessage packet
  complete : ∀ packet ∈ packets, ∃ arrival ∈ last :: arrivals, arrival.packet.SameMessage packet
  missing : ∀ arrival ∈ arrivals, ¬arrival.packet.SameMessage last.packet
  fits : ∀ arrival ∈ last :: arrivals, arrival.Fits
  kept : Follows none arrivals last

/-- An arrival brings the chunk at an index. -/
structure Brings (src : Address) (fragId : UInt16) (items : List Bytes) (arrival : Arrival)
    (index : Nat) : Prop where
  src : arrival.packet.header.src = src
  header : arrival.packet.fragHeader = some (fragmentHeader fragId items index)
  body : items[index]? = some arrival.packet.body

variable {src : Address} {fragId : UInt16} {items : List Bytes} {arrival last : Arrival}
  {index final : Nat}

omit [Primitives] in
theorem Brings.partialOf (brings : Brings src fragId items arrival index) (node : Node) :
    node.partialOf arrival.packet = node.reassembler.sets.get ⟨src, fragId⟩ := by
  simp only [Node.partialOf, brings.header, brings.src, Option.bind_some]
  rfl

omit [Primitives] in
/-- Reassembly of a chunk is a push. -/
theorem Brings.reassemble (brings : Brings src fragId items arrival index) :
    arrival.node.reassemble arrival.packet arrival.now =
      ({ arrival.node with reassembler := (arrival.node.reassembler.push arrival.now src
          (fragmentHeader fragId items index) arrival.packet.body).1 },
        match (arrival.node.reassembler.push arrival.now src
            (fragmentHeader fragId items index) arrival.packet.body).2 with
        | .ok (some full) => some (full, some fragId)
        | _ => none) := by
  simp only [Node.reassemble, brings.header, brings.src]
  rfl

/-- An arrival before the last leaves the message incomplete, with its own chunk added. -/
theorem Brings.adds (countable : Countable items) (brings : Brings src fragId items arrival index)
    (fits : arrival.Fits) {seen : List Nat} (sofar : Collected items seen arrival.found)
    (inside : final < items.length) (missing : final ∉ index :: seen) :
    ∃ later, (∀ position, position ∈ later ↔ position ∈ index :: seen) ∧
      Collected items later arrival.left := by
  have room := fits _ brings.header
  rw [found, brings.partialOf] at sofar
  rw [brings.src] at room
  have reassembled := brings.reassemble
  by_cases arrived : index ∈ seen
  · obtain ⟨duplicate, kept⟩ :=
      Reassembler.push_repeated countable brings.body sofar rfl room arrived
    refine ⟨seen, fun position => ?_, ?_⟩
    · simp only [mem_cons, iff_or_self]
      rintro rfl
      exact arrived
    · rw [left, openSessionPayload, reassembled]
      simp only [duplicate]
      rw [brings.partialOf]
      exact kept
  · obtain ⟨incomplete, kept⟩ := Reassembler.push_incomplete countable brings.body sofar rfl room
      arrived ⟨final, inside, missing⟩
    refine ⟨index :: seen, fun position => Iff.rfl, ?_⟩
    rw [left, openSessionPayload, reassembled]
    simp only [incomplete]
    rw [brings.partialOf]
    exact kept

variable {arrivals : List Arrival}

/-- Arrivals one after the other collect their chunks. -/
theorem follows_collected (countable : Countable items) (inside : final < items.length)
    (indexOf : Arrival → Nat) {seen : List Nat} {held : Option FragSet}
    (brought : ∀ arrival ∈ arrivals, Brings src fragId items arrival (indexOf arrival))
    (fits : ∀ arrival ∈ arrivals, arrival.Fits) (missing : final ∉ arrivals.map indexOf ++ seen)
    (sofar : Collected items seen held) (follows : Follows held arrivals last) :
    ∃ later, (∀ position, position ∈ later ↔ position ∈ arrivals.map indexOf ++ seen) ∧
      Collected items later last.found := by
  induction arrivals generalizing seen held with
  | nil =>
    rw [show last.found = held from follows]
    exact ⟨seen, fun position => Iff.rfl, sofar⟩
  | cons arrival rest ih =>
    obtain ⟨found, follows⟩ := follows
    rw [← found] at sofar
    rw [map_cons, cons_append, mem_cons, mem_append, not_or, not_or] at missing
    obtain ⟨distinct, absent, unseen⟩ := missing
    obtain ⟨added, members, collected⟩ := (brought arrival mem_cons_self).adds countable
      (fits arrival mem_cons_self) sofar inside (by simp [distinct, unseen])
    obtain ⟨later, all, complete⟩ := ih
      (fun other member => brought other (mem_cons_of_mem _ member))
      (fun other member => fits other (mem_cons_of_mem _ member))
      (by simp [members, absent, distinct, unseen]) collected follows
    refine ⟨later, fun position => ?_, complete⟩
    simp only [all, mem_append, members, mem_cons, cons_append, map_cons]
    tauto

omit [Primitives] in
/-- A packet of a chunk brings it, however its hop fields were rewritten. -/
theorem Brings.of_same {packetId : UInt32} {item : Bytes}
    (marked : header.has Flags.fragmented = true) (countable : Countable items)
    (present : items[index]? = some item)
    (same : arrival.packet.SameMessage ⟨{ header with packetId := packetId },
      frameFragment (fragmentHeader fragId items index) item⟩) :
    Brings header.src fragId items arrival index := by
  have inside : index < items.length := (List.getElem?_eq_some_iff.mp present).1
  have flagged : arrival.packet.header.has Flags.fragmented = true := by
    rw [Header.has, same.flags]
    exact marked
  constructor
  · exact same.src
  · rw [Packet.fragHeader, if_pos flagged, same.payload,
      FragHeader.parse_frameFragment (countable.proper fragId inside)]
    rfl
  · rw [Packet.body, if_pos flagged, same.payload, frameFragment_drop]
    exact present

omit [Primitives] in
/-- The index of a chunk can be read off its packet. -/
theorem Brings.index_eq {other : Nat} (countable : Countable items)
    (first : Brings src fragId items arrival index)
    (second : Brings src fragId items arrival other) : index = other := by
  have firstInside := (List.getElem?_eq_some_iff.mp first.body).1
  have secondInside := (List.getElem?_eq_some_iff.mp second.body).1
  have same : fragmentHeader fragId items index = fragmentHeader fragId items other :=
    Option.some.inj (first.header.symm.trans second.header)
  rw [← countable.index fragId firstInside, same, countable.index fragId secondInside]

/-- The last chunk to arrive completes the message. -/
theorem Delivers.fragments (carries : Carries header ciphertext packets (some fragId))
    (delivers : Delivers packets arrivals last) :
    (last.node.reassemble last.packet last.now).2 = some (ciphertext, some fragId) := by
  obtain ⟨marked, items, countable, whole, length, each⟩ := carries
  have located : ∀ arrival ∈ last :: arrivals, ∃ (index : Nat) (packet : Packet),
      packets[index]? = some packet ∧ arrival.packet.SameMessage packet := by
    intro arrival member
    obtain ⟨packet, sent, same⟩ := delivers.genuine arrival member
    obtain ⟨index, found⟩ := mem_iff_getElem?.mp sent
    exact ⟨index, packet, found, same⟩
  choose! indexOf packetOf place same using located
  have brings : ∀ arrival ∈ last :: arrivals,
      Brings header.src fragId items arrival (indexOf arrival) := by
    intro arrival member
    obtain ⟨item, packetId, present, shape⟩ := each _ _ (place arrival member)
    have shaped := same arrival member
    rw [shape] at shaped
    exact Brings.of_same marked countable present shaped
  have final := brings last mem_cons_self
  have inside : indexOf last < items.length := (List.getElem?_eq_some_iff.mp final.body).1
  have missing : indexOf last ∉ arrivals.map indexOf ++ [] := by
    rw [append_nil, mem_map]
    rintro ⟨arrival, member, equal⟩
    have first := place arrival (mem_cons_of_mem _ member)
    rw [equal, place last mem_cons_self, Option.some.injEq] at first
    have together := same arrival (mem_cons_of_mem _ member)
    rw [← first] at together
    exact delivers.missing arrival member (together.trans (same last mem_cons_self).symm)
  obtain ⟨later, members, collected⟩ := follows_collected countable inside indexOf
    (fun arrival member => brings arrival (mem_cons_of_mem _ member))
    (fun arrival member => delivers.fits arrival (mem_cons_of_mem _ member))
    missing (show Collected items [] none from rfl) delivers.kept
  have absent : indexOf last ∉ later := by
    rw [members]
    exact missing
  have all : ∀ position < items.length, position ∈ indexOf last :: later := by
    intro position bounded
    rw [← length] at bounded
    have sent := List.getElem?_eq_getElem bounded
    obtain ⟨arrival, member, arrived⟩ := delivers.complete _ (getElem_mem bounded)
    obtain ⟨item, packetId, present, shape⟩ := each _ _ sent
    rw [shape] at arrived
    have here := (Brings.of_same marked countable present arrived).index_eq countable
      (brings arrival member)
    rw [here, mem_cons, members]
    rcases mem_cons.mp member with rfl | earlier
    · exact .inl rfl
    · exact .inr (by simpa using ⟨arrival, earlier, rfl⟩)
  have room := delivers.fits last mem_cons_self _ final.header
  rw [final.src] at room
  rw [found, final.partialOf] at collected
  have completed := Reassembler.push_complete countable final.body collected rfl room absent all
  rw [final.reassemble, completed, whole]

/-- A delivery of a session message ends with the sender's ciphertext under the sender's
associated data. -/
theorem Delivers.reassembled {fragment : Option UInt16} {last : Arrival}
    (carries : Carries header ciphertext packets fragment)
    (delivers : Delivers packets arrivals last) :
    (last.node.reassemble last.packet last.now).2 = some (ciphertext, fragment) ∧
      transportAad last.packet.header fragment = transportAad header fragment ∧
      last.packet.header.src = header.src := by
  cases fragment with
  | none =>
    obtain ⟨whole, rfl⟩ := carries
    obtain ⟨packet, member, same⟩ := delivers.genuine last mem_cons_self
    rw [mem_singleton] at member
    subst member
    have unmarked : last.packet.header.has Flags.fragmented = false := by
      rw [Header.has, same.flags]
      exact whole
    refine ⟨?_, ?_, same.src⟩
    · simp only [reassemble, Packet.fragHeader, unmarked, Bool.false_eq_true, if_false,
        same.payload]
    · simp only [transportAad, Header.aad, same.ptype, same.flags, same.src, same.dst,
        same.packetId, same.seq]
  | some fragId =>
    have whole := delivers.fragments carries
    obtain ⟨packet, sent, same⟩ := delivers.genuine last mem_cons_self
    obtain ⟨_, _, _, _, _, each⟩ := carries
    obtain ⟨index, found⟩ := mem_iff_getElem?.mp sent
    obtain ⟨item, packetId, present, rfl⟩ := each index packet found
    refine ⟨whole, ?_, same.src⟩
    -- neither the packet id nor what relays rewrite is part of the data
    simp only [transportAad, Header.aad, same.ptype, same.flags, same.src, same.dst, same.seq]

/-- A session message survives the network. Whatever was accepted for sending, its packets
were routed, and every delivery of them ends with the ciphertext the sender sealed, under
the associated data the sender used. A receiver whose session mirrors the sender's opens
the body that was sent. -/
theorem session_message_survives (roundTrip : CipherState.AeadRoundTrip) {sender sent : Node}
    {dst : Address} {ptype : PacketType} {body : Bytes} {seq : UInt16} {ackRequest : Bool}
    {now : Nat}
    (accepted : sender.sendSessionPacket dst ptype body seq ackRequest now = (sent, .ok ())) :
    ∃ (session : Session) (header : Header) (fragment : Option UInt16) (ciphertext : Bytes)
      (ready : Node),
      sender.sessions.get dst = some session ∧
      (session.encrypt now (transportAad header fragment) body).2 = .ok ciphertext ∧
      Hands now ready (sender.sessionPackets dst ptype body seq ackRequest now) sent ∧
      ∀ (arrivals : List Arrival) (last : Arrival),
        Delivers (sender.sessionPackets dst ptype body seq ackRequest now) arrivals last →
          (last.node.reassemble last.packet last.now).2 = some (ciphertext, fragment) ∧
          transportAad last.packet.header fragment = transportAad header fragment ∧
          ∀ receiving, last.node.sessions.get sender.address = some receiving →
            receiving.Mirrors session →
              (last.node.openSessionPayload last.packet last.now).2 = some body := by
  obtain ⟨session, header, fragment, ciphertext, ready, found, ⟨src, _, _, _⟩, sealed, carries,
    hands⟩ := sendSessionPacket_sends accepted
  refine ⟨session, header, fragment, ciphertext, ready, found, sealed, hands, ?_⟩
  intro arrivals last delivers
  obtain ⟨whole, associated, origin⟩ := delivers.reassembled carries
  refine ⟨whole, associated, ?_⟩
  intro receiving held mirrors
  have opened : (receiving.decrypt last.now (transportAad header fragment) ciphertext).2 =
      .ok body := Session.decrypt_encrypt roundTrip mirrors sealed
  rw [src] at origin
  rw [← associated] at opened
  cases collected : last.node.reassemble last.packet last.now with
  | mk node result =>
    rw [collected] at whole
    simp only at whole
    have kept : node.sessions = last.node.sessions := by
      have sessions := last.node.reassemble_sessions last.packet last.now
      rwa [collected] at sessions
    simp only [openSessionPayload, collected, whole, kept, origin, held, opened]
    rfl

end Arrival

end Node

end MeshStar

namespace MeshStar.Survival

local instance survivalSuite : Primitives := Transparent.primitives

open Transparent List

open Node

/-- One end of a session between two nodes: what the first seals the second opens. -/
def endOf (self peer : UInt8) : Node :=
  let node := Node.new NodeConfig.default (identity self) generator 0
  let keys : TransportKeys := ⟨(identity self).seed, (identity peer).seed,
    (identity 3).seed⟩
  let session := Session.new (identity peer).publicIdentity 0 keys 0
  { node with sessions := node.sessions.insert (identity peer).address session }

def sender : Node := endOf 1 2

def receiver : Node := endOf 2 1

/-- A body that needs two fragments. -/
def body : Bytes := List.replicate 210 7

def packets : List Packet := sender.sessionPackets receiver.address .data body 5 true 10

/-- A packet after two relays. -/
def relayed (packet : Packet) : Packet :=
  { packet with header := { packet.header with ttl := 3, hops := 2, relay := 9 } }

def nothing : Packet := ⟨Header.new .data sender.address receiver.address 0 0 1, []⟩

/-- The second fragment comes first. -/
def second : Arrival := ⟨receiver, relayed (packets.getD 1 nothing), 20⟩

/-- It is repeated. -/
def again : Arrival := ⟨(receiver.openSessionPayload second.packet 20).1, second.packet, 30⟩

/-- The first fragment comes last. -/
def first : Arrival :=
  ⟨(again.node.openSessionPayload again.packet 30).1, relayed (packets.getD 0 nothing), 40⟩

theorem relayed_same (packet : Packet) : (relayed packet).SameMessage packet :=
  ⟨rfl, rfl, rfl, rfl, rfl, rfl, rfl⟩

/-- Two packets of different content, the second delivered twice before the first. -/
theorem delivers_two {one two : Packet} {early repeated last : Arrival}
    (packets : early.packet = relayed two ∧ repeated.packet = relayed two ∧
      last.packet = relayed one)
    (different : two.payload ≠ one.payload)
    (fits : ∀ arrival ∈ [last, early, repeated], arrival.Fits)
    (kept : Arrival.Follows none [early, repeated] last) :
    Arrival.Delivers [one, two] [early, repeated] last := by
  obtain ⟨first, second, third⟩ := packets
  constructor
  · intro arrival member
    simp only [mem_cons, not_mem_nil, or_false] at member
    rcases member with rfl | rfl | rfl
    · exact ⟨one, by simp, third ▸ relayed_same one⟩
    · exact ⟨two, by simp, first ▸ relayed_same two⟩
    · exact ⟨two, by simp, second ▸ relayed_same two⟩
  · intro packet member
    simp only [mem_cons, not_mem_nil, or_false] at member
    rcases member with rfl | rfl
    · exact ⟨last, by simp, third ▸ relayed_same packet⟩
    · exact ⟨early, by simp, first ▸ relayed_same packet⟩
  · intro arrival member same
    have content := same.payload
    simp only [mem_cons, not_mem_nil, or_false] at member
    rcases member with rfl | rfl
    · rw [first, third] at content
      exact different content
    · rw [second, third] at content
      exact different content
  · exact fits
  · exact kept

/-- A fragment fits when its push is not refused. -/
theorem fits_of_pushed {arrival : Arrival} (pushed : (arrival.packet.fragHeader.all (fun header =>
      decide ((arrival.node.reassembler.push arrival.now arrival.packet.header.src header
        arrival.packet.body).2 ≠ .error .full))) = true) : arrival.Fits := by
  intro header parsed
  rw [parsed, Option.all_some, decide_eq_true_eq] at pushed
  exact pushed

theorem packets_eq : packets = [packets.getD 0 nothing, packets.getD 1 nothing] := by
  decide +kernel

theorem delivered : Arrival.Delivers packets [second, again] first := by
  have different : (packets.getD 1 nothing).payload ≠ (packets.getD 0 nothing).payload := by
    decide +kernel
  have kept : second.found = none ∧ again.found = second.left ∧ first.found = again.left := by
    decide +kernel
  rw [packets_eq]
  refine delivers_two ⟨rfl, rfl, rfl⟩ different ?_ kept
  intro arrival member
  simp only [mem_cons, not_mem_nil, or_false] at member
  rcases member with rfl | rfl | rfl
  · exact fits_of_pushed (by decide +kernel)
  · exact fits_of_pushed (by decide +kernel)
  · exact fits_of_pushed (by decide +kernel)

theorem accepted : sender.sendSessionPacket receiver.address .data body 5 true 10 =
    ((sender.sendSessionPacket receiver.address .data body 5 true 10).1, .ok ()) := by
  have outcome : (sender.sendSessionPacket receiver.address .data body 5 true 10).2 = .ok () := by
    decide +kernel
  rw [← outcome]

/-- Whether the one session, if there is one, mirrors the other. -/
def mirrored : Option Session → Option Session → Bool
  | some receiving, some sending => receiving.epoch = sending.epoch &&
      receiving.recvKey = sending.sendKey && receiving.replay.check sending.sendCtr
  | _, _ => false

theorem mirrored_some {held : Option Session} {sending : Session}
    (checked : mirrored held (some sending) = true) :
    ∃ receiving, held = some receiving ∧ receiving.Mirrors sending := by
  cases held with
  | none => cases checked
  | some receiving =>
    simp only [mirrored, Bool.and_eq_true, decide_eq_true_eq] at checked
    exact ⟨receiving, rfl, checked.1.1, checked.1.2, checked.2⟩

/-- A body in two fragments of which the first arrives last is opened. -/
theorem session_message_survives_reversed :
    (first.node.openSessionPayload first.packet first.now).2 = some body := by
  obtain ⟨session, _, _, _, _, found, _, _, every⟩ :=
    Arrival.session_message_survives roundTrip accepted
  obtain ⟨_, _, opens⟩ := every [second, again] first delivered
  have checked : mirrored (first.node.sessions.get sender.address)
      (sender.sessions.get receiver.address) = true := by
    decide +kernel
  rw [found] at checked
  obtain ⟨receiving, held, mirrors⟩ := mirrored_some checked
  exact opens receiving held mirrors

end MeshStar.Survival

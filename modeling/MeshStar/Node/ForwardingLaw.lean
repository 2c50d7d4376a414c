import MeshStar.Node.TimerEffects
import MeshStar.Transparent

/-!
# The hop law of forwarding

A foreign packet leaves a node one hop further: one less to live, one more hop counted,
the node's own short id as relay, everything else as received. The law holds along every
run in zone routing mode in which no received frame is kept for later. It fails for a
frame that is kept: neither the release of a packet held for a sleeping neighbour nor the
routing of a packet parked behind a route repair counts the hop.
-/

namespace MeshStar

variable [Primitives]

namespace Node

/-- A node starts with nothing received and nothing to send. -/
theorem new_lawful {config : NodeConfig} (id : Identity) (rng : Rng) (now : Nat)
    (zoned : config.routingMode = .zrp) : (Node.new config id rng now).Lawful := by
  refine ⟨zoned, ?_, ?_, ?_, ?_, ?_, ?_, rfl, ?_⟩
  · intro packet member
    cases member
  · intro packet member
    cases member
  · intro item member
    cases member
  · intro hop member
    cases member
  · intro relay member
    cases member
  · rintro packet ⟨target, discovery, found, _⟩
    cases found
  · intro reply member
    cases member

/-- A prompt step keeps the forwarding law. -/
theorem step_lawful (node : Node) {operation : Operation} (prompt : node.Prompt operation)
    (lawful : node.Lawful) : (node.step operation).Lawful := by
  obtain ⟨receiver, _, _, _, noted, moves⟩ := node.step_moves operation
  exact Moves.lawful moves ⟨lawful, prompt⟩ (noted lawful)

/-- Along every run in zone routing mode in which no received frame is kept for later,
every packet ever queued for transmission is the node's own or a received one, one hop
further and under the node's own short id; and every frame waiting for the radio encodes a
queued packet. -/
theorem forwarded_one_hop_on (config : NodeConfig) (zoned : config.routingMode = .zrp)
    (id : Identity) (rng : Rng) (now : Nat) (node : Node)
    (run : Run Prompt (Node.new config id rng now) node) :
    (∀ sent ∈ node.history.queued, sent.header.src = node.address ∨
      ∃ received ∈ node.history.received, received.header.src ≠ node.address ∧
        received.header.OneHopOn sent.header ∧ sent.header.relay = node.address.short) ∧
      ∀ item ∈ node.txQueue, ∃ sent ∈ node.history.queued,
        sent.encode node.cfg.networkKey = .ok item.frame := by
  have lawful : node.Lawful :=
    run.invariant Node.Lawful (new_lawful id rng now zoned)
      (fun before operation prompt kept => before.step_lawful prompt kept)
  refine ⟨?_, lawful.transmitted⟩
  intro sent member
  rcases lawful.queued sent member with own | ⟨⟨received, receivedMember, onward⟩, relayed⟩
  · exact .inl own
  · exact .inr ⟨received, receivedMember, (lawful.received received receivedMember).1, onward,
      relayed⟩

end Node

end MeshStar

namespace MeshStar

local instance forwardingSuite : Primitives := Transparent.primitives

open Transparent

namespace ForwardingLaw

/-- A relay that knows nobody. -/
abbrev relay : Node := Node.new NodeConfig.default (identity 1) generator 0

/-- A packet from one stranger to another. -/
def passing : Packet :=
  ⟨⟨.data, 0, 5, 0, (identity 2).address, (identity 3).address, 7, 9,
    nextHopAny, 0⟩, [1, 2, 3]⟩

/-- The reply of the destination, which repairs the route. -/
def repair : Packet :=
  ⟨⟨.routeReply, 0, 5, 0, (identity 3).address, (identity 1).address, 8, 9,
    nextHopAny, 0⟩, (RouteReply.mk (identity 3).address 1 0 0 0 none []).encode⟩

/-- The relay parks the packet until the reply arrives. -/
def repaired : Node :=
  (relay.step (.receive (frame passing) (heardAt 10))).step
    (.receive (frame repair) (heardAt 20))

end ForwardingLaw

open ForwardingLaw

/-- The relay queues the parked packet as it was received: the same time to live, the same
hop count and a relay id that is not its own. -/
theorem parked_packet_not_counted :
    ∃ sent ∈ repaired.history.queued, sent.header.src ≠ repaired.address ∧
      ∃ received ∈ repaired.history.received, received.header.key = sent.header.key ∧
        sent.header.ttl = received.header.ttl ∧ sent.header.hops = received.header.hops ∧
        sent.header.relay ≠ repaired.address.short ∧
        ∀ other ∈ repaired.history.received, other.header.key = sent.header.key →
          other = received := by
  decide +kernel

/-- A relay that has learned the route from an earlier reply forwards the packet at once. -/
theorem forwarded_one_hop_on_routed :
    let node := (relay.step (.receive (frame repair) (heardAt 10))).step
      (.receive (frame passing) (heardAt 20))
    (∃ sent ∈ node.history.queued, sent.header.src ≠ node.address) ∧
      ∀ sent ∈ node.history.queued, sent.header.src = node.address ∨
        ∃ received ∈ node.history.received, received.header.src ≠ node.address ∧
          received.header.OneHopOn sent.header ∧ sent.header.relay = node.address.short := by
  refine ⟨by decide +kernel, ?_⟩
  have first : relay.Prompt (.receive (frame repair) (heardAt 10)) := by
    change relay.keepsForLater _ _ = false
    decide +kernel
  have second : (relay.step (.receive (frame repair) (heardAt 10))).Prompt
      (.receive (frame passing) (heardAt 20)) := by
    change (relay.step _).keepsForLater _ _ = false
    decide +kernel
  have run : Node.Run Node.Prompt relay ((relay.step (.receive (frame repair) (heardAt 10))).step
        (.receive (frame passing) (heardAt 20))) := .step _ (.step _ .refl first) second
  exact (Node.forwarded_one_hop_on NodeConfig.default rfl (identity 1) generator 0 _ run).1

end MeshStar

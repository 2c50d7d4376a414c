import MeshStar.Node.Timers
import MeshStar.Transparent

/-!
# A partner of a node

The other side of a session, played over the transparent primitives: the partner opens
the handshake, answers the second message it finds pending at the node, and seals
packets in the session both now share. Concrete runs of a node are built from its
frames.
-/

namespace MeshStar

local instance partnerSuite : Primitives := Transparent.primitives

open Transparent

/-- A node's counterpart: who it is, whom it talks to and how far its handshake got. -/
structure Partner where
  identity : Identity
  host : Address
  hs : HandshakeXX

namespace Partner

/-- A packet of the partner, one hop away. -/
def packet (partner : Partner) (ptype : PacketType) (flags : UInt8) (packetId : UInt32)
    (seq : UInt16) (payload : Bytes) : Packet :=
  ⟨{ Header.new ptype partner.identity.address partner.host packetId seq 2 with flags := flags },
    payload⟩

/-- The first handshake message for a session of the first epoch. -/
def greet (identity : Identity) (host : Address) : Partner × Bytes :=
  let created := HandshakeXX.new .initiator identity (prologue identity.address host)
    generator
  match HandshakeXX.run (HandshakeXX.writeMessage1 [Role.normal.toU8, 0]) created.2 with
  | (hs, .ok m1) => (⟨identity, host, hs⟩, m1)
  | (hs, .error _) => (⟨identity, host, hs⟩, [])

/-- The third handshake message, written after the second one that is pending at the node. -/
def conclude (partner : Partner) (node : Node) : Partner × Bytes :=
  match node.handshakes.get partner.identity.address with
  | none => (partner, [])
  | some pending =>
    let read := HandshakeXX.run (HandshakeXX.readMessage2 pending.m2) partner.hs
    match HandshakeXX.run (HandshakeXX.writeMessage3 [Role.normal.toU8]) read.1 with
    | (hs, .ok m3) => ({ partner with hs := hs }, m3)
    | (hs, .error _) => ({ partner with hs := hs }, [])

/-- A handshake frame. -/
def handshakeFrame (partner : Partner) (packetId : UInt32) (number : HandshakeMessage)
    (message : Bytes) : Bytes :=
  frame (partner.packet .handshake 0 packetId 0 (number.toU8 :: message))

/-- The partner's session once its handshake is complete. -/
def session (partner : Partner) (now : Nat) : Option Session :=
  match partner.hs.finish with
  | .ok (keys, remote) => some (Session.new remote 0 keys now)
  | .error _ => none

/-- A packet sealed in the partner's session, with a chosen counter. -/
def sealedPacket (partner : Partner) (ptype : PacketType) (counter : Nat) (body : Bytes) : Packet :=
  let draft := partner.packet ptype Flags.encrypted (UInt32.ofNat (100 + counter)) 0 []
  match partner.session 0 with
  | none => draft
  | some session =>
    match ({ session with sendCtr := counter }.encrypt 0 (transportAad draft.header none)
      body).2 with
    | .ok ciphertext => { draft with payload := ciphertext }
    | .error _ => draft

/-- The frame of a sealed packet. -/
def sealedFrame (partner : Partner) (ptype : PacketType) (counter : Nat) (body : Bytes) : Bytes :=
  frame (partner.sealedPacket ptype counter body)

/-- A node after the partner's first handshake message. -/
def greeted (identity : Identity) (node : Node) (time : Nat) : Node :=
  let greeting := greet identity node.address
  node.step (.receive (greeting.1.handshakeFrame 1 .one greeting.2) (heardAt time))

/-- The partner after its handshake with a node, and the node after it. -/
def meet (identity : Identity) (node : Node) (time : Nat) : Partner × Node :=
  let concluding := (greet identity node.address).1.conclude (greeted identity node time)
  (concluding.1, (greeted identity node time).step
    (.receive (concluding.1.handshakeFrame 2 .three concluding.2) (heardAt time)))

/-- The encounter is a run of the node, under every condition that both frames meet. -/
theorem meet_permitted {allowed : Node → Node.Operation → Prop} (identity : Identity)
    {start : Node} (node : Node) (time : Nat) (run : Node.Run allowed start node)
    (first : ∀ frame, allowed node (.receive frame (heardAt time)))
    (second : ∀ frame, allowed (greeted identity node time) (.receive frame (heardAt time))) :
    Node.Run allowed start (meet identity node time).2 :=
  .step _ (.step _ run (first _)) (second _)

theorem meet_later {identity : Identity} {start node : Node} {time : Nat}
    (run : Node.Run Node.Unrestricted start node) :
    Node.Run Node.Unrestricted start (meet identity node time).2 :=
  meet_permitted identity node time run (fun _ => trivial) (fun _ => trivial)

theorem meet_run {identity : Identity} {node : Node} {time : Nat} :
    Node.Run Node.Unrestricted node (meet identity node time).2 :=
  meet_later .refl

end Partner

end MeshStar

import MeshStar.Node.TransmitEffects
import MeshStar.Transparent

/-!
# The beacon a node sends

A beacon is built in three steps: the description of the sender with the nodes attached
to it, the zone part cut to the size budget, and the attached part cut to what is left.
The lemmas below say what the cuts keep.
-/

namespace MeshStar

open List

variable [Primitives]

namespace Node

variable (node : Node) (full : Bool) (now : Nat)

/-- Whether the next beacon carries the identity of its sender. -/
def announcesIdentity (node : Node) : Bool :=
  decide (node.beaconsSent.toNat % max node.cfg.neighbor.fullBeaconEvery.toNat 1 = 0 ∨
    node.cfg.role = .leaf)

/-- The beacon a node sends at a time. -/
def announcement (node : Node) (now : Nat) : Beacon :=
  (node.scheduleBeacon now).beaconContent node.announcesIdentity now

/-- What `sendBeacon` queues is the encoded announcement under the node's own address. -/
theorem sendBeacon_announces :
    ∃ header priority, header.src = node.address ∧ header.ptype = .beacon ∧
      node.sendBeacon now = (enqueuePacket ((node.scheduleBeacon now).baseHeader .beacon
        Address.broadcast 1).1 ⟨header, (node.announcement now).encode⟩ now priority false).1 := by
  have fields := (node.scheduleBeacon now).baseHeader_fields .beacon Address.broadcast 1
  exact ⟨_, _, fields.1, fields.2.2, rfl⟩

/-- The description of the sender, before anything else is said. -/
def introduction (node : Node) (full : Bool) (now : Nat) : Beacon :=
  let plain := Beacon.shortBeacon node.cfg.role node.beaconSeq node.zone.radius
    (UInt8.ofNat (min node.neighbors.size 255))
  let signed := if full then plain.sign node.id (UInt32.ofNat (now / 1000)) else plain
  { signed with
    sleepIntervalS := UInt16.ofNat (min ((node.nextBeacon - now + 999) / 1000) 65535) }

/-- The description with the wake-up schedule and the host of a sleeping-role node. -/
def timetable (node : Node) (full : Bool) (now : Nat) : Beacon :=
  match node.cfg.power.mode with
  | .leaf wakeIntervalS awakeWindowMs =>
    let remaining := min (node.power.awakeUntil - now) 65535
    { node.introduction full now with
      sleepIntervalS := wakeIntervalS
      awakeWindowMs := UInt16.ofNat (max remaining (min awakeWindowMs.toNat (max remaining 1)))
      attached := (node.introduction full now).attached ++ node.attachedAnchor.toList }
  | _ => node.introduction full now

/-- The beacon before its zone part is added: a host lists the nodes attached to it. -/
def unzoned (node : Node) (full : Bool) (now : Nat) : Beacon :=
  if node.cfg.role.relays then
    { node.timetable full now with
      mailboxAvailable := match node.mailbox with
        | some mailbox => mailbox.hasSpace
        | none => false
      attached := (node.neighbors.hostedLeaves.map Neighbor.addr).take 8 }
  else node.timetable full now

/-- The zone entries a node wants to advertise. -/
def advertised (node : Node) : List ZoneEntry :=
  node.zone.advertisement node.cfg.zrp.maxAdvertisedEntries node.beaconsSent.toNat

/-- The beacon with its zone part, cut to the size budget. -/
def zoned (node : Node) (full : Bool) (now : Nat) : Beacon :=
  if node.cfg.role ≠ .leaf then
    fitZone (maxPayload node.cfg.networkKey.isSome) (node.unzoned full now) node.advertised.length
      node.advertised
  else node.unzoned full now

/-- A beacon is built in three steps. -/
theorem beaconContent_eq : node.beaconContent full now =
      fitAttached (maxPayload node.cfg.networkKey.isSome) (node.zoned full now).attached.length
        (node.zoned full now) := by
  unfold beaconContent zoned unzoned timetable introduction advertised
  rfl

omit [Primitives] in
/-- Cutting the zone part keeps a beginning of it and everything else. -/
theorem fitZone_kept (budget : Nat) (beacon : Beacon) (fuel : Nat) (entries : List ZoneEntry) :
    ∃ kept, kept <+: entries ∧ fitZone budget beacon fuel entries =
      { beacon with zone := kept } := by
  induction fuel generalizing entries with
  | zero => exact ⟨entries, prefix_refl _, rfl⟩
  | succ fuel ih =>
    unfold fitZone
    simp only
    split
    · obtain ⟨kept, shorter, cut⟩ := ih entries.dropLast
      exact ⟨kept, shorter.trans (List.dropLast_prefix entries), cut⟩
    · exact ⟨entries, prefix_refl _, rfl⟩

omit [Primitives] in
/-- Cutting the attached part keeps a beginning of it and everything else. -/
theorem fitAttached_kept (budget fuel : Nat) (beacon : Beacon) : ∃ kept, kept <+: beacon.attached ∧
      fitAttached budget fuel beacon = { beacon with attached := kept } := by
  induction fuel generalizing beacon with
  | zero => exact ⟨beacon.attached, prefix_refl _, rfl⟩
  | succ fuel ih =>
    unfold fitAttached
    split
    · obtain ⟨kept, shorter, cut⟩ := ih { beacon with attached := beacon.attached.dropLast }
      exact ⟨kept, shorter.trans (List.dropLast_prefix beacon.attached), cut⟩
    · exact ⟨beacon.attached, prefix_refl _, rfl⟩

theorem beaconContent_zone : (node.beaconContent full now).zone = (node.zoned full now).zone := by
  rw [beaconContent_eq]
  obtain ⟨kept, _, cut⟩ := fitAttached_kept (maxPayload node.cfg.networkKey.isSome)
    (node.zoned full now).attached.length (node.zoned full now)
  rw [cut]

/-- The description names the role and advertises nobody. -/
theorem introduction_parts : (node.introduction full now).role = node.cfg.role ∧
      (node.introduction full now).zone = [] := by
  unfold introduction
  simp only
  split
  · exact ⟨rfl, rfl⟩
  · exact ⟨rfl, rfl⟩

theorem unzoned_parts :
    (node.unzoned full now).role = node.cfg.role ∧ (node.unzoned full now).zone = [] := by
  have described := node.introduction_parts full now
  have scheduled : (node.timetable full now).role = node.cfg.role ∧
      (node.timetable full now).zone = [] := by
    unfold timetable
    split
    · exact described
    · exact described
  unfold unzoned
  split
  · exact scheduled
  · exact scheduled

/-- A beacon carries the role of its sender; it advertises a beginning of what the sender
wants to advertise, and nobody if the sender has the sleeping role. -/
theorem beaconContent_parts : (node.beaconContent full now).role = node.cfg.role ∧
      (node.beaconContent full now).zone <+: node.advertised ∧
      (node.cfg.role = .leaf → (node.beaconContent full now).zone = []) ∧
      (node.beaconContent full now).attached <+: (node.unzoned full now).attached := by
  obtain ⟨role, zone⟩ := node.unzoned_parts full now
  rw [beaconContent_eq]
  obtain ⟨hosted, fewer, cut⟩ := fitAttached_kept (maxPayload node.cfg.networkKey.isSome)
    (node.zoned full now).attached.length (node.zoned full now)
  rw [cut]
  unfold zoned at fewer ⊢
  split
  · rename_i relaying
    rw [if_pos relaying] at fewer
    obtain ⟨kept, shorter, trimmed⟩ := fitZone_kept (maxPayload node.cfg.networkKey.isSome)
      (node.unzoned full now) node.advertised.length node.advertised
    rw [trimmed] at fewer ⊢
    exact ⟨role, shorter, fun leaf => absurd leaf relaying, fewer⟩
  · rename_i sleeping
    rw [if_neg sleeping] at fewer
    refine ⟨role, ?_, fun _ => zone, fewer⟩
    simp only [zone]
    exact nil_prefix

end Node

end MeshStar

namespace MeshStar

local instance announcementSuite : Primitives := Transparent.primitives

namespace Transparent

/-- The announcement of a node as the frame its radio sends. -/
def announcedFrame (node : Node) (time : Nat) : Bytes :=
  frame ⟨Header.new .beacon node.address Address.broadcast 7 0 1, (node.announcement time).encode⟩

/-- Hearing the announcement of a node. -/
def announced (node : Node) (time : Nat) : Node.Operation :=
  .receive (announcedFrame node time) (heardAt time)

/-- A fresh relaying node and a fresh sleeping-role node. -/
def relay (byte : UInt8) : Node := Node.new NodeConfig.default (identity byte) generator 0

def sleeper (byte : UInt8) : Node :=
  Node.new { NodeConfig.default with
    role := .leaf
    power := { PowerConfig.default with mode := .leaf 60 500 } } (identity byte) generator 0

end Transparent

end MeshStar

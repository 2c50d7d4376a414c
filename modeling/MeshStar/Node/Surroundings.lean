import MeshStar.BeaconCodec
import MeshStar.Node.NeighborLoss
import MeshStar.ZoneMerge

/-!
# The surroundings of a node in every run

Whatever a node receives, its neighbour table files every neighbour under its own
address, neither the neighbour table nor the zone table has an entry for the node itself,
and a zone entry at distance one is its own next hop. Housekeeping only removes entries.
-/

namespace MeshStar

variable [Primitives]

namespace Node

/-- Neighbours are filed under their address, and a node is not in its own tables. -/
structure Oriented (node : Node) : Prop where
  keyed : ∀ addr who, node.neighbors.sight addr = some who → who.1 = addr
  foreign : node.neighbors.sight node.address = none
  zone : node.zone.Sound node.address

/-- One terrain is part of another. -/
structure Within (after before : Node) : Prop where
  sight : ∀ addr who, after.neighbors.sight addr = some who →
    before.neighbors.sight addr = some who
  zone : ∀ addr known, after.zone.get addr = some known → before.zone.get addr = some known

section

omit [Primitives]

theorem Within.refl (node : Node) : node.Within node :=
  ⟨fun _ _ found => found, fun _ _ found => found⟩

theorem Within.trans {first middle last : Node} (later : last.Within middle)
    (earlier : middle.Within first) : last.Within first :=
  ⟨fun addr who found => earlier.sight addr who (later.sight addr who found),
    fun addr known found => earlier.zone addr known (later.zone addr known found)⟩

theorem Within.ofTerrain {after before : Node} (same : after.terrain = before.terrain) :
    after.Within before := by
  constructor
  · rw [sight_of_terrain same]
    exact fun _ _ found => found
  · rw [zone_of_terrain same]
    exact fun _ _ found => found

theorem onNeighborLost_within (node : Node) (addr : Address) :
    (node.onNeighborLost addr).Within node := by
  apply (Within.ofTerrain (terrain_of_bearings (node.onNeighborLost_bearings addr))).trans
  constructor
  · exact fun _ _ found => found
  · intro dst known found
    exact (ZoneTable.removeVia_included found).1

/-- Dropping silent neighbours. -/
theorem expire_sight {table : NeighborTable} {now : Nat} {addr : Address} {who : Address × Role}
    (found : (table.expire now).1.sight addr = some who) : table.sight addr = some who := by
  unfold NeighborTable.sight NeighborTable.get at found ⊢
  rw [show (table.expire now).1.map.get addr = if addr ∈ (table.expire now).2 then none
    else table.map.get addr from NeighborTable.removeAll_get _] at found
  split at found
  · cases found
  · exact found

theorem losses_within {lost : List Address} (node : Node) :
    (lost.foldl onNeighborLost node).Within node := by
  induction lost generalizing node with
  | nil => exact Within.refl node
  | cons head rest ih =>
    exact (ih _).trans (node.onNeighborLost_within head)

end

/-- A housekeeping pass only removes. -/
theorem housekeeping_within {node : Node} {now : Nat} : (node.housekeeping now).Within node := by
  apply (Within.ofTerrain (terrain_of_bearings (node.housekeeping_bearings now))).trans
  have caches : (node.expireCaches now).Within node :=
    ⟨fun _ _ found => found, fun _ _ found => ZoneTable.expire_included found⟩
  apply Within.trans _ caches
  unfold expireNeighbors
  simp only
  split
  · exact Within.refl _
  · apply (losses_within _).trans
    exact ⟨fun _ _ found => expire_sight found, fun _ _ found => found⟩

/-- A poll only removes. -/
theorem poll_within (node : Node) (time : Nat) : (node.poll time).Within node := by
  rcases node.poll_terrain time with same | housekept
  · exact Within.ofTerrain same
  · rw [housekept]
    exact (housekeeping_within).trans (Within.ofTerrain (node.ticked_terrain time))

/-- What is within well-ordered surroundings is well ordered. -/
theorem Oriented.ofWithin {before after : Node} (oriented : before.Oriented)
    (within : after.Within before) (address : after.address = before.address) : after.Oriented := by
  refine ⟨?_, ?_, ?_⟩
  · intro addr who found
    exact oriented.keyed addr who (within.sight addr who found)
  · rw [address]
    cases found : after.neighbors.sight before.address with
    | none => rfl
    | some who => cases oriented.foreign.symm.trans (within.sight _ who found)
  · rw [address]
    exact oriented.zone.ofFewer within.zone

/-- The address of a node is the same after every step. -/
theorem step_address (node : Node) (operation : Operation) :
    (node.step operation).address = node.address := by
  obtain ⟨receiver, _, _, id, _, moves⟩ := node.step_moves operation
  rw [moves.address, address, id]
  rfl

/-- A beacon keeps the surroundings well ordered. -/
theorem Heeds.oriented {node after : Node} {now : Nat} {src : Address} {beacon : Beacon}
    (heeds : node.Heeds now src beacon node.neighbors after) (oriented : node.Oriented)
    (address : after.address = node.address) (other : src ≠ node.address)
    (apart : ∀ entry ∈ beacon.zone, entry.distance ≠ 0) : after.Oriented := by
  cases heeds with
  | ignored same => exact oriented.ofWithin (Within.ofTerrain same) address
  | admitted judged admits zone sight =>
    refine ⟨?_, ?_, ?_⟩
    · intro addr who found
      rw [sight] at found
      by_cases sender : addr = src
      · obtain ⟨filed, entered, fresh, known⟩ := admits.entered
        rw [sender] at found ⊢
        cases entered.symm.trans found
        cases earlier : node.neighbors.sight src with
        | none => exact fresh earlier
        | some who => exact (known who earlier).trans (oriented.keyed src who earlier)
      · rw [admits.others addr sender] at found
        split at found
        · cases found
        · exact oriented.keyed addr who found
    · rw [sight, address, admits.others _ (fun same => other same.symm)]
      split
      · rfl
      · exact oriented.foreign
    · rw [zone, address]
      exact oriented.zone.updateFromBeacon now judged beacon.attached other apart

/-- A beacon in a frame is a decodable packet of another node. -/
theorem beaconIn_parts {node : Node} {frame : Bytes} {packet : Packet} {beacon : Beacon}
    (heard : node.beaconIn frame = some (packet, beacon)) :
    node.incoming frame = some packet ∧ packet.header.ptype = .beacon ∧
      Beacon.decode packet.payload = .ok beacon ∧ packet.header.src ≠ node.address := by
  unfold beaconIn at heard
  cases taken : node.incoming frame with
  | none =>
    rw [taken] at heard
    cases heard
  | some other =>
    have foreign : other.header.src ≠ node.address := by
      unfold incoming at taken
      split at taken
      · split at taken
        · cases taken
        · split at taken
          · cases taken
          · rename_i foreign
            cases taken
            exact foreign
      · cases taken
    rw [taken] at heard
    simp only at heard
    split at heard
    · rename_i kind
      split at heard
      · cases heard
      · rename_i decoded
        cases heard
        exact ⟨rfl, kind, decoded, foreign⟩
    · cases heard

/-- Every step keeps the surroundings well ordered. -/
theorem step_oriented (node : Node) (operation : Operation) (oriented : node.Oriented) :
    (node.step operation).Oriented := by
  have address := node.step_address operation
  cases called : operation.isCall with
  | true => exact oriented.ofWithin (Within.ofTerrain (call_terrain called)) address
  | false =>
    cases operation with
    | poll time => exact oriented.ofWithin (node.poll_within time) address
    | receive frame rxMeta =>
      rcases node.receive_terrain frame rxMeta with ⟨_, same⟩ | ⟨packet, beacon, heard, heeds⟩
      · exact oriented.ofWithin (Within.ofTerrain same) address
      · have listening := node.listening_terrain frame rxMeta packet
        have me := node.listening_address frame rxMeta packet
        have there : (node.listening frame rxMeta packet).Oriented :=
          oriented.ofWithin (Within.ofTerrain listening) me
        obtain ⟨_, _, decoded, foreign⟩ := beaconIn_parts heard
        rw [← me] at address foreign
        exact heeds.oriented there address foreign (Beacon.decode_apart decoded)
    | _ => cases called

/-- The surroundings of a node are well ordered in every run. -/
theorem Run.oriented {config : NodeConfig} {id : Identity} {rng : Rng} {start : Nat} {node : Node}
    {allowed : Node → Operation → Prop} (run : Run allowed (new config id rng start) node) :
    node.Oriented := by
  refine run.invariant Oriented ?_ (fun before operation _ => before.step_oriented operation)
  exact ⟨nofun, rfl, ZoneTable.new_sound _ _ _ _⟩

end Node

end MeshStar

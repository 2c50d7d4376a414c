import MeshStar.Node.Announcement
import MeshStar.Node.Surroundings

/-!
# Routes through sleeping nodes

A sleeping-role node does not relay. The zone table should lead to it and never through
it. A beacon's attached list means the hosted nodes when a host sent it, and the chosen
host when a sleeping-role node sent it; a receiver merges both lists in the same way, so
the host of a sleeping-role node appears behind that node. A neighbour that is evicted or
takes the sleeping role leaves the entries behind it as they are.

In every run whose beacons name nobody behind a sleeping-role node, and neither evict nor
put to the sleeping role a neighbour that leads somewhere, every zone entry beyond the
direct neighbours leads through a relaying neighbour.
-/

namespace MeshStar

variable [Primitives]

namespace Node

/-- A neighbour that relays. -/
def RelaysFor (node : Node) (hop : Address) : Prop :=
  ∃ neighbor, node.neighbors.get hop = some neighbor ∧ neighbor.role.relays = true

/-- Zone entries beyond the direct neighbours lead through relaying neighbours. -/
def TransitRelays (node : Node) : Prop :=
  ∀ dst known, node.zone.get dst = some known → 2 ≤ known.distance → node.RelaysFor known.nextHop

/-- Beyond the direct neighbours the zone table leads through relaying neighbours, and what
it contributes to the choice of a next hop is the destination itself or a relaying
neighbour. -/
structure AvoidsLeaves (node : Node) : Prop where
  entries : node.TransitRelays
  choice : ∀ dst best, node.zoneHop dst best = best ∨
    ∃ cost hop, node.zoneHop dst best = some (cost, hop) ∧ (hop = dst ∨ node.RelaysFor hop)

/-- No zone entry beyond the direct neighbours goes through a neighbour. -/
def LeadsNowhere (node : Node) (hop : Address) : Prop :=
  ∀ dst known, node.zone.get dst = some known → known.nextHop = hop → ¬2 ≤ known.distance

/-- A received beacon is the announcement of a node. -/
def FromNodes (node : Node) : Operation → Prop
  | .receive frame _ => ∀ heard ∈ node.beaconIn frame, ∃ (sender : Node) (time : Nat),
      heard.1.header.src = sender.address ∧
        heard.1.payload = (sender.announcement time).encode
  | _ => True

/-- A received beacon of a sleeping-role node names no other host than this node, and
neither that node nor a neighbour the beacon evicts leads anywhere. -/
def SparesTransit (node : Node) : Operation → Prop
  | .receive frame rxMeta => ∀ heard ∈ node.beaconIn frame,
      (heard.2.role = .leaf → (∀ host ∈ heard.2.attached, host = node.address) ∧
        node.LeadsNowhere heard.1.header.src) ∧
      ∀ gone ∈ (node.listening frame rxMeta heard.1).neighbors.evicted heard.1.header.src,
        node.LeadsNowhere gone
  | _ => True

omit [Primitives] in
theorem relaysFor_iff {node : Node} {hop : Address} :
    node.RelaysFor hop ↔ ∃ who, node.neighbors.sight hop = some who ∧ who.2.relays = true := by
  unfold RelaysFor NeighborTable.sight
  cases node.neighbors.get hop with
  | none => simp
  | some neighbor => simp

omit [Primitives] in
/-- The candidate of the zone table is the next hop of an entry. -/
theorem zoneHop_cases (node : Node) (dst : Address) (best : Option (Nat × Address)) :
    node.zoneHop dst best = best ∨ ∃ cost known, node.zone.get dst = some known ∧
      node.zoneHop dst best = some (cost, known.nextHop) := by
  unfold zoneHop
  cases node.zone.get dst with
  | none => exact .inl rfl
  | some known =>
    simp only
    cases node.neighbors.get known.nextHop with
    | none => exact .inl rfl
    | some neighbor =>
      unfold consider
      simp only
      split
      · split
        · exact .inr ⟨_, known, rfl, rfl⟩
        · exact .inl rfl
      · exact .inr ⟨_, known, rfl, rfl⟩

/-- The choice follows from the entries. -/
theorem AvoidsLeaves.ofEntries {node : Node} (oriented : node.Oriented)
    (entries : node.TransitRelays) : node.AvoidsLeaves := by
  refine ⟨entries, ?_⟩
  intro dst best
  rcases node.zoneHop_cases dst best with same | ⟨cost, known, found, chosen⟩
  · exact .inl same
  · right
    refine ⟨cost, known.nextHop, chosen, ?_⟩
    rcases oriented.zone.placed dst known found with ⟨_, direct⟩ | far
    · exact .inl direct
    · exact .inr (entries dst known found far)

omit [Primitives] in
/-- The same terrain has the same relaying next hops. -/
theorem TransitRelays.ofTerrain {before after : Node} (relaying : before.TransitRelays)
    (same : after.terrain = before.terrain) : after.TransitRelays := by
  intro dst known found far
  rw [zone_of_terrain same] at found
  rw [relaysFor_iff, sight_of_terrain same, ← relaysFor_iff]
  exact relaying dst known found far

/-- A poll loses a neighbour together with everything behind it. -/
theorem poll_transit {node : Node} (time : Nat) (relaying : node.TransitRelays) :
    (node.poll time).TransitRelays := by
  have within := node.poll_within time
  intro dst known found far
  obtain ⟨who, seen, relays⟩ := relaysFor_iff.mp
    (relaying dst known (within.zone dst known found) far)
  cases left : (node.poll time).neighbors.sight known.nextHop with
  | some still =>
    rw [relaysFor_iff]
    refine ⟨still, left, ?_⟩
    cases (within.sight _ still left).symm.trans seen
    exact relays
  | none =>
    have present : node.neighbors.contains known.nextHop = true := by
      rw [← Bool.not_eq_false, ← NeighborTable.sight_eq_none_iff, seen]
      nofun
    have gone := (NeighborTable.sight_eq_none_iff _ _).mp left
    have forgets := (node.poll_handles time known.nextHop present gone).2
    exact absurd rfl (forgets.zone dst known found)

omit [Primitives] in
/-- A sleeping-role node whose beacon names no other host offers only itself. -/
theorem leafOffers {table : ZoneTable} {now : Nat} {me src : Address} {neighbor : Neighbor}
    {attached : List Address} (own : ∀ host ∈ attached, host = me) {offer : ZoneNode}
    (offered : offer ∈ table.beaconOffers now me src neighbor [] attached) :
    ¬2 ≤ offer.distance := by
  have none : attached.filter (fun host => host ≠ me) = [] := by
    rw [List.filter_eq_nil_iff]
    intro host member
    simp [own host member]
  unfold ZoneTable.beaconOffers at offered
  rw [none] at offered
  rcases List.mem_cons.mp offered with rfl | later
  · simp only [ZoneTable.directOffer]
    decide
  · cases later

/-- What a heeded beacon leaves behind. -/
theorem Heeds.transit {node after : Node} {now : Nat} {src : Address} {beacon : Beacon}
    (heeds : node.Heeds now src beacon node.neighbors after) (relaying : node.TransitRelays)
    (sleeping : beacon.role = .leaf → beacon.zone = [] ∧
      (∀ host ∈ beacon.attached, host = node.address) ∧ node.LeadsNowhere src)
    (evicted : ∀ gone ∈ node.neighbors.evicted src, node.LeadsNowhere gone) :
      after.TransitRelays := by
  cases heeds with
  | ignored same => exact relaying.ofTerrain same
  | admitted judged admits zone sight =>
    obtain ⟨filed, entered, _⟩ := admits.entered
    -- The sender relays unless its beacon has the sleeping role.
    have sender (awake : beacon.role ≠ .leaf) : after.RelaysFor src := by
      rw [relaysFor_iff, sight]
      refine ⟨_, entered, ?_⟩
      cases role : beacon.role with
      | leaf => exact absurd role awake
      | normal => rfl
      | anchor => rfl
    obtain ⟨neighbor, present⟩ : ∃ neighbor, judged.get src = some neighbor := by
      obtain ⟨neighbor, present, _⟩ := Option.map_eq_some_iff.mp entered
      exact ⟨neighbor, present⟩
    intro dst known found far
    rw [zone] at found
    rcases ZoneTable.updateFromBeacon_origin present found with old | ⟨offered, _⟩
    · by_cases through : known.nextHop = src
      · rw [through]
        apply sender
        intro leaf
        exact (sleeping leaf).2.2 dst known old through far
      · rw [relaysFor_iff, sight, admits.others _ through]
        split
        · rename_i gone
          exact absurd far (evicted _ gone dst known old rfl)
        · exact relaysFor_iff.mp (relaying dst known old far)
    · rw [ZoneTable.beaconOffers_through _ _ _ _ _ _ _ known offered]
      apply sender
      intro leaf
      obtain ⟨nobody, own, _⟩ := sleeping leaf
      rw [nobody] at offered
      exact leafOffers own offered far

/-- A sleeping-role node advertises nobody. -/
theorem announcement_leaf {sender : Node} {time : Nat} {beacon : Beacon}
    (decoded : Beacon.decode (sender.announcement time).encode = .ok beacon)
    (leaf : beacon.role = .leaf) : beacon.zone = [] := by
  obtain ⟨role, _, none, _⟩ :=
    (sender.scheduleBeacon time).beaconContent_parts sender.announcesIdentity time
  apply Beacon.decode_encode_zone decoded
  apply none
  rw [← role]
  exact (Beacon.decode_encode_role decoded).symm.trans leaf

/-- Every permitted step keeps the next hops relaying. -/
theorem step_transit {node : Node} {operation : Operation} (sent : node.FromNodes operation)
    (spares : node.SparesTransit operation) (relaying : node.TransitRelays) :
    (node.step operation).TransitRelays := by
  cases called : operation.isCall with
  | true => exact relaying.ofTerrain (call_terrain called)
  | false =>
    cases operation with
    | poll time => exact poll_transit time relaying
    | receive frame rxMeta =>
      rcases node.receive_terrain frame rxMeta with ⟨_, same⟩ | ⟨packet, beacon, heard, heeds⟩
      · exact relaying.ofTerrain same
      · have terrain := node.listening_terrain frame rxMeta packet
        have nowhere {hop : Address} (leads : node.LeadsNowhere hop) :
            (node.listening frame rxMeta packet).LeadsNowhere hop := by
          intro dst known found
          rw [zone_of_terrain terrain] at found
          exact leads dst known found
        obtain ⟨_, _, decoded, _⟩ := beaconIn_parts heard
        obtain ⟨sleeping, evicted⟩ := spares _ heard
        obtain ⟨sender, time, _, payload⟩ := sent _ heard
        rw [payload] at decoded
        apply heeds.transit (relaying.ofTerrain terrain)
        · intro leaf
          obtain ⟨own, leads⟩ := sleeping leaf
          rw [node.listening_address frame rxMeta packet]
          exact ⟨announcement_leaf decoded leaf, own, nowhere leads⟩
        · intro gone lost
          exact nowhere (evicted gone lost)
    | _ => cases called

/-- In every run fed with the beacons of nodes, in which no sleeping-role node names
another host and no neighbour that leads somewhere is evicted or takes the sleeping role,
no route of the zone table goes through a sleeping-role node. -/
theorem transit_avoids_leaves {config : NodeConfig} {id : Identity} {rng : Rng} {start : Nat}
    {node : Node} (run : Run (fun before operation => before.FromNodes operation ∧
      before.SparesTransit operation) (new config id rng start) node) : node.AvoidsLeaves := by
  apply AvoidsLeaves.ofEntries run.oriented
  apply run.invariant TransitRelays
  · intro dst known found
    cases found
  · intro before operation permitted
    exact step_transit permitted.1 permitted.2

end Node

end MeshStar

namespace MeshStar

local instance leafTransitSuite : Primitives := Transparent.primitives

namespace LeafTransit

open Transparent

/-- The sleeping-role node after it heard a relaying node, which it chose as its host. -/
def attached : Node := (sleeper 2).step (announced (relay 3) 10)

/-- A third node that hears the sleeping-role node only. -/
def listener : Node := (relay 1).step (announced attached 20)

/-- A node that heard a relaying node, which heard another relaying node. -/
def middle : Node := (relay 3).step (announced (relay 4) 10)

end LeafTransit

open Transparent LeafTransit

theorem carried_leaf : ∀ heard ∈ (relay 1).beaconIn (announcedFrame attached 20),
    heard.1.header.src = attached.address ∧
      heard.1.payload = (attached.announcement 20).encode := by
  decide +kernel

/-- A node that hears a sleeping-role node routes to the host of that node through it. -/
theorem leaf_becomes_next_hop : attached.attachedAnchor = some (relay 3).address ∧
      (relay 1).FromNodes (announced attached 20) ∧
      listener.nextHopFor (relay 3).address 30 = some (sleeper 2).address ∧
      (listener.neighbors.get (sleeper 2).address).map Neighbor.role = some .leaf ∧
      ¬listener.AvoidsLeaves := by
  have facts : attached.attachedAnchor = some (relay 3).address ∧
      listener.nextHopFor (relay 3).address 30 = some (sleeper 2).address ∧
      (listener.neighbors.get (sleeper 2).address).map Neighbor.role = some .leaf ∧
      (listener.zone.get (relay 3).address).map (fun known => (known.distance, known.nextHop)) =
        some (2, (sleeper 2).address) := by
    decide +kernel
  obtain ⟨host, hop, role, entry⟩ := facts
  refine ⟨host, ?_, hop, role, ?_⟩
  · intro heard inside
    exact ⟨attached, 20, carried_leaf heard inside⟩
  · intro avoids
    obtain ⟨known, found, placed⟩ := Option.map_eq_some_iff.mp entry
    obtain ⟨distance, through⟩ := Prod.mk.inj placed
    obtain ⟨neighbor, present, relays⟩ := avoids.entries _ known found (by rw [distance]; decide)
    rw [through] at present
    rw [present] at role
    cases neighborRole : neighbor.role with
    | leaf =>
      rw [neighborRole] at relays
      cases relays
    | normal =>
      simp [neighborRole] at role
    | anchor =>
      simp [neighborRole] at role

/-- A node that hears a relaying node reaches the neighbours of that node through it. -/
theorem transit_avoids_leaves_relayed :
    (((relay 1).step (announced middle 20)).zone.get (relay 4).address).map
        (fun known => (known.distance, known.nextHop)) = some (2, (relay 3).address) ∧
      ((relay 1).step (announced middle 20)).AvoidsLeaves := by
  have facts : (((relay 1).step (announced middle 20)).zone.get (relay 4).address).map
        (fun known => (known.distance, known.nextHop)) = some (2, (relay 3).address) ∧
      ∀ heard ∈ (relay 1).beaconIn (announcedFrame middle 20),
        (heard.1.header.src = middle.address ∧ heard.1.payload = (middle.announcement 20).encode) ∧
        heard.2.role ≠ .leaf ∧
        ((relay 1).listening (announcedFrame middle 20) (heardAt 20)
          heard.1).neighbors.evicted heard.1.header.src = none := by
    decide +kernel
  obtain ⟨entry, permitted⟩ := facts
  refine ⟨entry, ?_⟩
  apply Node.transit_avoids_leaves
  apply Node.Run.step _ Node.Run.refl
  constructor
  · intro heard inside
    exact ⟨middle, 20, (permitted heard inside).1⟩
  · intro heard inside
    obtain ⟨_, awake, nobody⟩ := permitted heard inside
    refine ⟨fun leaf => absurd leaf awake, ?_⟩
    intro gone lost
    cases nobody.symm.trans lost

end MeshStar

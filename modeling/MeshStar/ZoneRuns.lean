import MeshStar.ZoneCost

/-!
# The zone table over whole runs

The table is built by beacons, by the loss of neighbours and by expiry. Whatever the
beacons advertise, it stays within its bound and radius and routes only through senders.
-/

namespace MeshStar

open List OrderedMap

namespace ZoneTable

/-! ## Runs -/

/-- The tables that the operations build at a node, with the nodes whose beacons were
processed and that were not lost since. -/
inductive Run (me : Address) (radius : UInt8) (maxEntries : Nat) :
    ZoneTable → List Address → Prop where
  | new (entryTtlMs : Nat) : Run me radius maxEntries (new radius maxEntries entryTtlMs) []
  | beacon {table : ZoneTable} {heard : List Address} (run : Run me radius maxEntries table heard)
      (now : Nat) (neighbors : NeighborTable) {src : Address} (other : src ≠ me) {payload : Bytes}
      {beacon : Beacon} (decoded : Beacon.decode payload = .ok beacon) :
      Run me radius maxEntries
        (table.updateFromBeacon now me neighbors src beacon.zone beacon.attached)
        (if (neighbors.get src).isSome then src :: heard else heard)
  | removeVia {table : ZoneTable} {heard : List Address}
      (run : Run me radius maxEntries table heard) (neighbor : Address) :
      Run me radius maxEntries (table.removeVia neighbor) (heard.filter (· ≠ neighbor))
  | expire {table : ZoneTable} {heard : List Address} (run : Run me radius maxEntries table heard)
      (now : Nat) : Run me radius maxEntries (table.expire now) heard

/-- What every entry of a table satisfies. -/
structure Within (table : ZoneTable) (me : Address) (radius maxEntries : Nat)
    (heard : List Address) : Prop where
  sound : table.Sound me
  reach : table.radius.toNat ≤ max radius 2
  capacity : table.maxEntries = maxEntries
  bounded : table.nodes.size ≤ maxEntries
  near : ∀ addr known, table.get addr = some known → known.distance.toNat ≤ max radius 2
  through : ∀ addr known, table.get addr = some known → known.nextHop ∈ heard

/-- Each round removes an entry, so as many rounds as there are entries too many do. -/
theorem enforceBound_size {maxEntries fuel : Nat} {nodes : OrderedMap Address ZoneNode}
    (keyed : ∀ addr known, nodes.get addr = some known → known.addr = addr)
    (enough : nodes.size ≤ maxEntries + fuel) :
    (enforceBound maxEntries fuel nodes).size ≤ maxEntries := by
  induction fuel generalizing nodes with
  | zero => exact enough
  | succ fuel ih =>
    unfold enforceBound
    split
    · cases selected : Selection.lastMaxBy (fun node : ZoneNode =>
          node.distance.toNat * 256 + (255 - node.quality.toNat)) nodes.values with
      | none =>
        rename_i many
        obtain ⟨entry, member⟩ := exists_mem_of_length_pos (Nat.zero_lt_of_lt many)
        have listed : entry.2 ∈ nodes.values := mem_map.mpr ⟨entry, member, rfl⟩
        rw [← Option.not_isSome_iff_eq_none] at selected
        exact absurd (Selection.lastMaxBy_isSome listed) selected
      | some victim =>
        obtain ⟨addr, found⟩ := (mem_values_iff _).mp (Selection.lastMaxBy_mem selected)
        have own := keyed addr victim found
        have smaller := size_remove_lt found
        refine ih ?_ ?_
        · intro other known kept
          rw [get_remove] at kept
          split at kept
          · cases kept
          · exact keyed other known kept
        · rw [own]
          omega
    · rename_i fits
      exact Nat.not_lt.mp fits

/-- An offer of a beacon is within the radius or attached. -/
theorem beaconOffers_near {table : ZoneTable} {now : Nat} {me src : Address} {neighbor : Neighbor}
    {entries : List ZoneEntry} {attached : List Address} {offer : ZoneNode}
    (member : offer ∈ table.beaconOffers now me src neighbor entries attached) :
    offer.distance.toNat ≤ max table.radius.toNat 2 := by
  rcases mem_cons.mp member with rfl | later
  · exact le_max_of_le_right (Nat.le_succ 1)
  · rcases mem_append.mp later with hosted | advertised
    · obtain ⟨addr, -, rfl⟩ := mem_map.mp hosted
      exact le_max_right _ _
    · obtain ⟨entry, inside, rfl⟩ := mem_map.mp advertised
      have reached := (mem_filter.mp inside).2
      simp only [inReach, Bool.and_eq_true, decide_eq_true_eq] at reached
      rw [entryOffer_distance]
      exact le_max_of_le_left reached.2

variable {table : ZoneTable} {me : Address} {radius maxEntries : Nat} {heard : List Address}

/-- Keeping some of the entries, all of them through nodes that count as heard. -/
theorem Within.ofFewer {fewer : ZoneTable} {left : List Address}
    (within : table.Within me radius maxEntries heard) (sameRadius : fewer.radius = table.radius)
    (sameCapacity : fewer.maxEntries = table.maxEntries)
    (smaller : fewer.nodes.size ≤ table.nodes.size)
    (included : ∀ addr known, fewer.get addr = some known →
      table.get addr = some known ∧ (known.nextHop ∈ heard → known.nextHop ∈ left)) :
    fewer.Within me radius maxEntries left where
  sound := within.sound.ofFewer fun addr known found => (included addr known found).1
  reach := sameRadius ▸ within.reach
  capacity := sameCapacity.trans within.capacity
  bounded := smaller.trans within.bounded
  near addr known found := within.near addr known (included addr known found).1
  through addr known found :=
    (included addr known found).2 (within.through addr known (included addr known found).1)

theorem Within.updateFromBeacon (within : table.Within me radius maxEntries heard) (now : Nat)
    (neighbors : NeighborTable) {src : Address} (other : src ≠ me) {entries : List ZoneEntry}
    (attached : List Address) (apart : ∀ entry ∈ entries, entry.distance ≠ 0) :
    (table.updateFromBeacon now me neighbors src entries attached).Within me radius maxEntries
      (if (neighbors.get src).isSome then src :: heard else heard) := by
  have sound := within.sound.updateFromBeacon now neighbors attached other apart
  cases present : neighbors.get src with
  | none =>
    have same : table.updateFromBeacon now me neighbors src entries attached = table := by
      unfold ZoneTable.updateFromBeacon
      rw [present]
    rw [same]
    exact within
  | some neighbor =>
    have update := updateFromBeacon_eq table now me present entries attached
    have offered := table.beaconOffers_through now me src neighbor entries attached
    refine ⟨sound, ?_, ?_, ?_, ?_, ?_⟩
    · rw [update]
      exact within.reach
    · rw [update]
      exact within.capacity
    · rw [update, ← within.capacity]
      refine enforceBound_size ?_ (Nat.le_add_left _ _)
      intro addr known found
      rw [absorbed, mergeAll_get table now offered] at found
      split at found
      · exact of_decide_eq_true (mem_filter.mp (mem_of_getLast? found)).2
      · exact within.sound.keyed addr known found
    · intro addr known found
      rcases updateFromBeacon_origin present found with old | ⟨member, _⟩
      · exact within.near addr known old
      · exact (beaconOffers_near member).trans (max_le within.reach (le_max_right _ _))
    · intro addr known found
      rcases updateFromBeacon_origin present found with old | ⟨member, _⟩
      · exact mem_cons_of_mem src (within.through addr known old)
      · exact offered known member ▸ mem_cons_self

theorem new_within (me : Address) (radius : UInt8) (maxEntries entryTtlMs : Nat) :
    (new radius maxEntries entryTtlMs).Within me radius.toNat maxEntries [] where
  sound := new_sound radius maxEntries entryTtlMs me
  reach := by
    unfold new
    dsimp only
    split
    · exact le_max_of_le_right (by decide)
    · split
      · rename_i far
        exact le_max_of_le_left (UInt8.le_iff_toNat_le.mp (UInt8.le_of_lt far))
      · exact le_max_left _ _
  capacity := rfl
  bounded := Nat.zero_le _
  near := nofun
  through := nofun

theorem Run.within {radius : UInt8} (run : Run me radius maxEntries table heard) :
    table.Within me radius.toNat maxEntries heard := by
  induction run with
  | new entryTtlMs => exact new_within me radius maxEntries entryTtlMs
  | beacon run now neighbors other decoded ih =>
    exact ih.updateFromBeacon now neighbors other _ (Beacon.decode_apart decoded)
  | removeVia run neighbor ih =>
    refine ih.ofFewer rfl rfl (size_retain_le _) fun addr known found => ?_
    obtain ⟨kept, elsewhere⟩ := removeVia_included found
    exact ⟨kept, fun member => mem_filter.mpr ⟨member, decide_eq_true elsewhere⟩⟩
  | expire run now ih =>
    exact ih.ofFewer rfl rfl (size_retain_le _) fun addr known found =>
      ⟨expire_included found, id⟩

/-- In every run no entry is the node itself, distances are between one and the radius or
two, the bound holds, and every next hop is a node whose beacon was processed since it was
last lost. -/
theorem zone_invariants (me : Address) (radius : UInt8) (maxEntries : Nat) (table : ZoneTable)
    (heard : List Address) (run : Run me radius maxEntries table heard) :
    table.get me = none ∧ table.nodes.size ≤ maxEntries ∧
      ∀ addr known, table.get addr = some known →
        1 ≤ known.distance.toNat ∧ known.distance.toNat ≤ max radius.toNat 2 ∧
          known.nextHop ∈ heard := by
  have within := run.within
  refine ⟨within.sound.foreign, within.bounded, fun addr known found =>
    ⟨?_, within.near addr known found, within.through addr known found⟩⟩
  rcases within.sound.placed addr known found with ⟨one, _⟩ | far
  · rw [one]
    decide
  · exact Nat.le_of_succ_le (UInt8.le_iff_toNat_le.mp far)

/-- Node 4 advertises node 8 as its neighbour. -/
def advertising : Beacon :=
  { Beacon.shortBeacon .normal 1 2 1 with zone := [⟨⟨8⟩, 1, 255, 0⟩] }

/-- Nodes 3 and 4 are neighbours. -/
def bothNear : NeighborTable :=
  ⟨NeighborConfig.default, (OrderedMap.empty.insert ⟨3⟩ anchor).insert ⟨4⟩
    (Neighbor.new ⟨4⟩ .normal 0 ⟨-60, 10, 0⟩)⟩

/-- Beacons of node 3 and node 4, after which node 3 is lost. -/
def halfLost : ZoneTable :=
  (((new 2 96 180000).updateFromBeacon 10 ⟨1⟩ bothNear ⟨3⟩ listedTwice.zone
    listedTwice.attached).updateFromBeacon 20 ⟨1⟩ bothNear ⟨4⟩ advertising.zone
      advertising.attached).removeVia ⟨3⟩

theorem halfLost_run : Run ⟨1⟩ 2 96 halfLost [⟨4⟩] := by
  have listed : Beacon.decode listedTwice.encode = .ok listedTwice := by decide +kernel
  have advertised : Beacon.decode advertising.encode = .ok advertising := by decide +kernel
  exact (((Run.new 180000).beacon 10 bothNear (by decide) listed).beacon 20 bothNear (by decide)
    advertised).removeVia ⟨3⟩

/-- Nodes 4 and 8 stay in the table, through node 4. -/
theorem zone_invariants_lost : (halfLost.get ⟨9⟩).isSome = false ∧
    ∃ known, halfLost.get ⟨8⟩ = some known ∧ 1 ≤ known.distance.toNat ∧
      known.distance.toNat ≤ 2 ∧ known.nextHop ∈ [⟨4⟩] := by
  have facts : (halfLost.get ⟨9⟩).isSome = false ∧ (halfLost.get ⟨8⟩).isSome = true :=
    ⟨rfl, rfl⟩
  obtain ⟨known, found⟩ := Option.isSome_iff_exists.mp facts.2
  exact ⟨facts.1, known, found,
    (zone_invariants ⟨1⟩ 2 96 halfLost [⟨4⟩] halfLost_run).2.2 ⟨8⟩ known found⟩

end ZoneTable

end MeshStar

import MeshStar.Library.Rotation
import MeshStar.Node.Announcement
import MeshStar.Node.Surroundings

/-!
# Whether every zone entry is advertised in turn

A node advertises its zone entries in windows that rotate with the beacon counter, so that
every entry should be heard within as many beacons as there are windows. A window is cut
when the beacon does not fit into a frame: a signed beacon that also lists hosted nodes
has less room than a window may need. The cut takes the end of the window, and the entry
there is in no other window.

Every entry is advertised in turn exactly when the node does not have the sleeping role,
every beacon has room for its window, and the counter does not wrap in between.
-/

namespace MeshStar

open List

open Rotation (window windows share)

/-- What a beacon says about a known node. -/
def ZoneNode.entry (node : ZoneNode) : ZoneEntry :=
  ⟨node.addr, node.distance, node.quality, node.flags⟩

namespace ZoneTable

/-- The nodes near enough to be advertised. -/
def nearby (table : ZoneTable) : List ZoneNode :=
  table.nodes.values.filter (fun node => node.distance.toNat < max table.radius.toNat 2)

/-- An advertisement is a window of what is near. -/
theorem advertisement_eq (table : ZoneTable) {maximum : Nat} (positive : 0 < maximum)
    {round : Nat} :
    table.advertisement maximum round = window (table.nearby.map ZoneNode.entry) maximum
      (round % windows (table.nearby.map ZoneNode.entry).length maximum) := by
  unfold advertisement
  change (if table.nearby.isEmpty || decide (maximum = 0) then [] else _) = _
  split
  · rename_i none
    have empty : table.nearby = [] := by
      simpa [Nat.ne_of_gt positive] using none
    rw [empty]
    simp [window]
  · simp only [window, windows, length_map, map_take, map_append, map_drop]
    rfl

/-- A sound table advertises every node once. -/
theorem nearby_nodup {table : ZoneTable} {me : Address} (sound : table.Sound me) :
    (table.nearby.map ZoneNode.entry).Nodup := by
  have keys : table.nodes.values.map ZoneNode.addr = table.nodes.keys := by
    unfold OrderedMap.values OrderedMap.keys
    rw [map_map]
    apply map_congr_left
    intro entry member
    exact sound.keyed entry.1 entry.2 ((OrderedMap.get_eq_some_iff _ _ _).mpr member)
  apply List.Nodup.of_map ZoneEntry.addr
  rw [map_map]
  change (table.nearby.map ZoneNode.addr).Nodup
  apply List.Nodup.sublist (filter_sublist.map ZoneNode.addr)
  rw [keys]
  exact table.nodes.keys_nodup

end ZoneTable

namespace Node

variable [Primitives]

/-- The length of a beacon without its zone part. -/
def unzonedLen (beacon : Beacon) : Nat := { beacon with zone := [] }.encodedLen

omit [Primitives] in
theorem encodedLen_zone (beacon : Beacon) (entries : List ZoneEntry) :
    { beacon with zone := entries }.encodedLen =
      unzonedLen beacon + if entries.isEmpty then 0 else 1 + Beacon.zoneEntryLen *
        entries.length := by
  unfold unzonedLen Beacon.encodedLen
  simp

omit [Primitives] in
/-- The cut keeps as many entries as fit. -/
theorem fitZone_room {budget : Nat} {beacon : Beacon} {count fuel : Nat} {entries : List ZoneEntry}
    (positive : 0 < count) (listed : count ≤ entries.length) (enough : entries.length ≤ fuel) :
    count ≤ (fitZone budget beacon fuel entries).zone.length ↔
      unzonedLen beacon + (1 + Beacon.zoneEntryLen * count) ≤ budget := by
  induction fuel generalizing entries with
  | zero => omega
  | succ fuel ih =>
    have nonempty : entries.isEmpty = false := by
      cases entries with
      | nil => simp at listed; omega
      | cons head tail => rfl
    have size := encodedLen_zone beacon entries
    rw [nonempty] at size
    simp only [Bool.false_eq_true, if_false] at size
    unfold fitZone
    simp only [size, nonempty, Bool.false_eq_true, not_false_eq_true, and_true]
    unfold Beacon.zoneEntryLen
    split
    · rename_i long
      by_cases fewer : count ≤ entries.dropLast.length
      · exact ih fewer (by rw [length_dropLast]; omega)
      · obtain ⟨kept, shorter, cut⟩ := fitZone_kept budget beacon fuel entries.dropLast
        have length : kept.length ≤ entries.dropLast.length := shorter.length_le
        rw [cut]
        simp only [length_dropLast] at fewer length ⊢
        omega
    · rename_i short
      simp only [listed, true_iff]
      omega

/-- What a beacon of a relaying node takes besides its zone part. -/
def beaconOverhead (node : Node) : Nat :=
  let hosted := (node.neighbors.hostedLeaves.map Neighbor.addr).take 8
  Beacon.fixedLen + (if node.announcesIdentity then Beacon.fullLen else 0) +
    if hosted.isEmpty then 0 else 1 + 8 * hosted.length

theorem unzonedLen_announced {node : Node} (time : Nat) (relaying : node.cfg.role.relays = true) :
    unzonedLen ((node.scheduleBeacon time).unzoned node.announcesIdentity time) =
      node.beaconOverhead := by
  have signed (scheduled : Node) (full : Bool) :
      (scheduled.introduction full time).full.isSome = full := by
    unfold introduction
    cases full with
    | true => rfl
    | false => rfl
  have described (scheduled : Node) (full : Bool) :
      (scheduled.timetable full time).full = (scheduled.introduction full time).full := by
    unfold timetable
    split
    · rfl
    · rfl
  unfold unzoned unzonedLen beaconOverhead Beacon.encodedLen
  rw [if_pos (show (node.scheduleBeacon time).cfg.role.relays = true from relaying)]
  simp only [described, signed, isEmpty_nil, if_true, Nat.add_zero]
  rfl

/-- The entries a node advertises in turn. -/
def advertisable (node : Node) : List ZoneEntry := node.zone.nearby.map ZoneNode.entry

/-- The number of beacons a full turn takes. -/
def turn (node : Node) : Nat :=
  windows node.advertisable.length node.cfg.zrp.maxAdvertisedEntries

/-- The window the next beacon is about. -/
def nextWindow (node : Node) : Nat := (node.beaconsSent + 1).toNat % node.turn

/-- The window of the beacon a number of rounds later. -/
def windowAfter (node : Node) (rounds : Nat) : Nat :=
  ((node.beaconsSent + 1).toNat + rounds) % 2 ^ 32 % node.turn

/-- The next beacon fits into a frame together with the entries of its window, not counting
those the last window repeats from the front. -/
def FitsWindow (node : Node) : Prop :=
  node.beaconOverhead + (1 + Beacon.zoneEntryLen * share node.advertisable.length
    node.cfg.zrp.maxAdvertisedEntries node.nextWindow) ≤ maxPayload node.cfg.networkKey.isSome

omit [Primitives] in
theorem relays_of_ne_leaf {role : Role} (awake : role ≠ .leaf) : role.relays = true := by
  cases role with
  | leaf => exact absurd rfl awake
  | normal => rfl
  | anchor => rfl

/-- What a relaying node advertises: a beginning of its window, with all entries of its own
exactly when they have room. -/
theorem announcement_window {node : Node} (awake : node.cfg.role ≠ .leaf)
    (positive : 0 < node.cfg.zrp.maxAdvertisedEntries) (turning : 0 < node.turn) (time : Nat) :
    (node.announcement time).zone = (window node.advertisable
        node.cfg.zrp.maxAdvertisedEntries node.nextWindow).take
          (node.announcement time).zone.length ∧
      (share node.advertisable.length node.cfg.zrp.maxAdvertisedEntries node.nextWindow ≤
        (node.announcement time).zone.length ↔ node.FitsWindow) := by
  have wanted : (node.scheduleBeacon time).advertised = window node.advertisable
      node.cfg.zrp.maxAdvertisedEntries node.nextWindow := node.zone.advertisement_eq positive
  obtain ⟨_, zone, _⟩ := (node.scheduleBeacon time).beaconContent_parts node.announcesIdentity time
  rw [wanted] at zone
  refine ⟨prefix_iff_eq_take.mp zone, ?_⟩
  have inside : node.nextWindow < node.turn := Nat.mod_lt _ turning
  have start := Rotation.window_start positive inside
  have cut : (node.announcement time).zone = (fitZone (maxPayload node.cfg.networkKey.isSome)
      ((node.scheduleBeacon time).unzoned node.announcesIdentity time)
      (node.scheduleBeacon time).advertised.length (node.scheduleBeacon time).advertised).zone := by
    rw [announcement, beaconContent_zone, zoned,
      if_pos (show (node.scheduleBeacon time).cfg.role ≠ .leaf from awake)]
    rfl
  rw [cut, fitZone_room, unzonedLen_announced time (relays_of_ne_leaf awake)]
  · rfl
  · unfold share
    omega
  · rw [wanted]
    unfold share window
    simp only [length_take, length_append, length_drop]
    omega
  · exact Nat.le_refl _

/-- Nodes that send one beacon after another, at given times, while what they advertise and
their configuration stay the same. -/
structure SteadyBeacons (nodes : Nat → Node) (times : Nat → Nat) (count : Nat) : Prop where
  zone : ∀ round < count, (nodes round).zone = (nodes 0).zone
  hosted : ∀ round < count, (nodes round).neighbors.hostedLeaves.map Neighbor.addr =
    (nodes 0).neighbors.hostedLeaves.map Neighbor.addr
  cfg : ∀ round < count, (nodes round).cfg = (nodes 0).cfg
  counter : ∀ round, round + 1 < count →
    (nodes (round + 1)).beaconsSent = ((nodes round).sendBeacon (times round)).beaconsSent

/-- Every entry near enough is in one of a number of consecutive beacons. -/
def Advertised (nodes : Nat → Node) (times : Nat → Nat) (count : Nat) : Prop :=
  ∀ known ∈ (nodes 0).zone.nearby, ∃ round < count,
    known.entry ∈ ((nodes round).announcement (times round)).zone

/-- Sending a beacon leaves the tables and the configuration alone. -/
theorem sendBeacon_tables (node : Node) (now : Nat) :
    (node.sendBeacon now).zone = node.zone ∧ (node.sendBeacon now).neighbors = node.neighbors ∧
      (node.sendBeacon now).cfg = node.cfg := by
  obtain ⟨header, priority, _, _, sent⟩ := node.sendBeacon_announces now
  rw [sent]
  unfold enqueuePacket
  split
  · exact ⟨rfl, rfl, rfl⟩
  · split
    · exact ⟨rfl, rfl, rfl⟩
    · exact ⟨rfl, rfl, rfl⟩

/-- Sending a beacon counts it. -/
theorem sendBeacon_counter (node : Node) (now : Nat) :
    (node.sendBeacon now).beaconsSent = node.beaconsSent + 1 := by
  obtain ⟨header, priority, _, _, sent⟩ := node.sendBeacon_announces now
  rw [sent]
  unfold enqueuePacket
  split
  · rfl
  · split
    · rfl
    · rfl

variable {nodes : Nat → Node} {times : Nat → Nat} {count : Nat}

section

variable (steady : SteadyBeacons nodes times count)

include steady

theorem SteadyBeacons.counted {round : Nat} (inside : round < count) :
    (nodes round).beaconsSent = (nodes 0).beaconsSent + UInt32.ofNat round := by
  induction round with
  | zero => exact (UInt32.add_zero _).symm
  | succ round ih =>
    rw [steady.counter round inside, sendBeacon_counter, ih (by omega),
      UInt32.ofNat_add, UInt32.add_assoc]
    rfl

/-- The windows that consecutive beacons are about. -/
theorem SteadyBeacons.windows {round : Nat} (inside : round < count) :
    (nodes round).advertisable = (nodes 0).advertisable ∧ (nodes round).turn = (nodes 0).turn ∧
      (nodes round).nextWindow = (nodes 0).windowAfter round := by
  have same : (nodes round).advertisable = (nodes 0).advertisable := by
    rw [advertisable, steady.zone round inside]
    rfl
  have long : (nodes round).turn = (nodes 0).turn := by
    rw [turn, same, steady.cfg round inside]
    rfl
  refine ⟨same, long, ?_⟩
  rw [nextWindow, windowAfter, long, steady.counted inside]
  congr 1
  rw [UInt32.add_assoc, UInt32.add_comm (UInt32.ofNat round), ← UInt32.add_assoc, UInt32.toNat_add,
    UInt32.toNat_ofNat', Nat.add_mod_mod]

/-- What the beacons of a turn advertise: each a beginning of its window. -/
theorem SteadyBeacons.beacons (awake : (nodes 0).cfg.role ≠ .leaf)
    (positive : 0 < (nodes 0).cfg.zrp.maxAdvertisedEntries)
    (turning : 0 < (nodes 0).turn) {round : Nat} (inside : round < count) :
    ((nodes round).announcement (times round)).zone =
        (window (nodes 0).advertisable (nodes 0).cfg.zrp.maxAdvertisedEntries
          ((nodes 0).windowAfter round)).take ((nodes round).announcement
            (times round)).zone.length ∧
      (share (nodes 0).advertisable.length (nodes 0).cfg.zrp.maxAdvertisedEntries
          ((nodes 0).windowAfter round) ≤ ((nodes round).announcement (times round)).zone.length ↔
        (nodes round).FitsWindow) := by
  obtain ⟨same, long, selected⟩ := steady.windows inside
  have cfg := steady.cfg round inside
  have sent := announcement_window (cfg ▸ awake) (cfg ▸ positive) (long ▸ turning) (times round)
  rw [same, selected, cfg] at sent
  exact sent

end

/-- While nothing changes, every entry a node should advertise is in one of as many
consecutive beacons as a turn takes, exactly when there is no such entry, or the node does
not have the sleeping role, its counter does not wrap unevenly, and every beacon has room
for its window. -/
theorem advertised_in_turn_iff {config : NodeConfig} {id : Identity} {rng : Rng} {start : Nat}
    (reached : Run Unrestricted (new config id rng start) (nodes 0))
    (positive : 1 ≤ (nodes 0).cfg.zrp.maxAdvertisedEntries)
    (steady : SteadyBeacons nodes times (nodes 0).turn) :
    Advertised nodes times (nodes 0).turn ↔ (nodes 0).zone.nearby = [] ∨
        (nodes 0).cfg.role ≠ .leaf ∧
        (((nodes 0).beaconsSent + 1).toNat + (nodes 0).turn ≤ 2 ^ 32 ∨ (nodes 0).turn ∣ 2 ^ 32) ∧
        ∀ round < (nodes 0).turn, (nodes round).FitsWindow := by
  by_cases none : (nodes 0).zone.nearby = []
  · refine iff_of_true ?_ (.inl none)
    intro known member
    rw [none] at member
    cases member
  · obtain ⟨someone, near⟩ := exists_mem_of_ne_nil _ none
    by_cases leaf : (nodes 0).cfg.role = .leaf
    · -- A sleeping-role node advertises nobody.
      refine iff_of_false ?_ (fun either => either.elim none (fun fair => fair.1 leaf))
      intro all
      obtain ⟨round, inside, listed⟩ := all someone near
      obtain ⟨_, _, silent, _⟩ := ((nodes round).scheduleBeacon (times round)).beaconContent_parts
        (nodes round).announcesIdentity (times round)
      have nobody : ((nodes round).announcement (times round)).zone = [] := by
        apply silent
        change (nodes round).cfg.role = .leaf
        rw [steady.cfg round inside]
        exact leaf
      rw [nobody] at listed
      cases listed
    · have turning : 0 < (nodes 0).turn := by
        have length : 0 < (nodes 0).advertisable.length := by
          rw [advertisable, length_map]
          exact length_pos_of_mem near
        exact Nat.zero_lt_of_lt (Rotation.div_lt_windows positive length)
      have beacons {round : Nat} (inside : round < (nodes 0).turn) :=
        steady.beacons leaf positive turning inside
      have items : Advertised nodes times (nodes 0).turn ↔
          ∀ entry ∈ (nodes 0).advertisable, ∃ round < (nodes 0).turn,
            entry ∈ (window (nodes 0).advertisable (nodes 0).cfg.zrp.maxAdvertisedEntries
              ((nodes 0).windowAfter round)).take
                ((nodes round).announcement (times round)).zone.length := by
        constructor
        · intro all entry member
          obtain ⟨known, listed, rfl⟩ := mem_map.mp member
          obtain ⟨round, inside, sent⟩ := all known listed
          exact ⟨round, inside, (beacons inside).1 ▸ sent⟩
        · intro all known listed
          obtain ⟨round, inside, sent⟩ := all known.entry (mem_map_of_mem listed)
          refine ⟨round, inside, ?_⟩
          rw [(beacons inside).1]
          exact sent
      have distinct : (nodes 0).advertisable.Nodup := ZoneTable.nearby_nodup reached.oriented.zone
      have bounded : ∀ round < (nodes 0).turn, (nodes 0).windowAfter round <
          windows (nodes 0).advertisable.length (nodes 0).cfg.zrp.maxAdvertisedEntries :=
        fun _ _ => Nat.mod_lt _ turning
      have sent := Rotation.all_sent_iff distinct positive (nodes 0).windowAfter
        (fun round => ((nodes round).announcement (times round)).zone.length) bounded
      have selected := Rotation.consecutive_rounds_iff turning
        (UInt32.toNat_lt ((nodes 0).beaconsSent + 1)) (fun round => share
          (nodes 0).advertisable.length (nodes 0).cfg.zrp.maxAdvertisedEntries
          ((nodes 0).windowAfter round) ≤ ((nodes round).announcement (times round)).zone.length)
      refine items.trans (sent.trans (selected.trans ?_))
      constructor
      · rintro ⟨even, room⟩
        exact .inr ⟨leaf, even, fun round inside => (beacons inside).2.mp (room round inside)⟩
      · rintro (empty | ⟨_, even, room⟩)
        · exact absurd empty none
        · exact ⟨even, fun round inside => (beacons inside).2.mpr (room round inside)⟩

end Node

end MeshStar

namespace MeshStar

local instance advertisementFairnessSuite : Primitives := Transparent.primitives

namespace AdvertisementFairness

open Transparent

/-- A node that heard the beacons of sleeping-role nodes, which it hosts from then on. -/
def hosting (leaves : List UInt8) : Node :=
  leaves.foldl (fun node leaf => node.step (announced (sleeper leaf) 10)) (relay 1)

/-- The hosting node is reached by its receptions. -/
theorem hosting_reached (leaves : List UInt8) :
    Node.Run Node.Unrestricted (relay 1) (hosting leaves) := by
  have continued (rest : List UInt8) (node : Node)
      (run : Node.Run Node.Unrestricted (relay 1) node) :
      Node.Run Node.Unrestricted (relay 1)
        (rest.foldl (fun node leaf => node.step (announced (sleeper leaf) 10)) node) := by
    induction rest generalizing node with
    | nil => exact run
    | cons head tail ih =>
      exact ih _ (Node.Run.step _ run trivial)
  exact continued leaves _ Node.Run.refl

/-- One beacon is a turn of its own. -/
theorem steady_single {node : Node} {time : Nat} :
    Node.SteadyBeacons (fun _ => node) (fun _ => time) 1 :=
  ⟨fun _ _ => rfl, fun _ _ => rfl, fun _ _ => rfl, fun _ inside => by omega⟩

/-- A host of seven sleeping-role nodes, beacon after beacon. -/
def beaconing : Nat → Node
  | 0 => hosting [2, 3, 4, 5, 6, 7, 8]
  | round + 1 => (beaconing round).sendBeacon (20 + round)

theorem beaconing_steady (count : Nat) : Node.SteadyBeacons beaconing (20 + ·) count := by
  have tables (round : Nat) : (beaconing round).zone = (beaconing 0).zone ∧
      (beaconing round).neighbors = (beaconing 0).neighbors ∧
      (beaconing round).cfg = (beaconing 0).cfg := by
    induction round with
    | zero => exact ⟨rfl, rfl, rfl⟩
    | succ round ih =>
      obtain ⟨zone, neighbors, cfg⟩ := (beaconing round).sendBeacon_tables (20 + round)
      exact ⟨zone.trans ih.1, neighbors.trans ih.2.1, cfg.trans ih.2.2⟩
  exact ⟨fun round _ => (tables round).1, fun round _ => by rw [(tables round).2.1],
    fun round _ => (tables round).2.2, fun _ _ => rfl⟩

end AdvertisementFairness

open Transparent AdvertisementFairness

/-- A host of six sleeping-role nodes should name its six neighbours in every beacon. Its
first beacon is signed and has room for five. -/
theorem signed_beacon_omits_entry : (hosting [2, 3, 4, 5, 6, 7]).turn = 1 ∧
      (hosting [2, 3, 4, 5, 6, 7]).zone.nearby.length = 6 ∧
      ((hosting [2, 3, 4, 5, 6, 7]).announcement 20).zone.length = 5 ∧
      Node.SteadyBeacons (fun _ => hosting [2, 3, 4, 5, 6, 7]) (fun _ => 20) 1 ∧
      ¬Node.Advertised (fun _ => hosting [2, 3, 4, 5, 6, 7]) (fun _ => 20) 1 := by
  have facts : (hosting [2, 3, 4, 5, 6, 7]).turn = 1 ∧
      (hosting [2, 3, 4, 5, 6, 7]).zone.nearby.length = 6 ∧
      ((hosting [2, 3, 4, 5, 6, 7]).announcement 20).zone.length = 5 ∧
      ¬∀ known ∈ (hosting [2, 3, 4, 5, 6, 7]).zone.nearby,
        known.entry ∈ ((hosting [2, 3, 4, 5, 6, 7]).announcement 20).zone := by
    decide +kernel
  obtain ⟨turn, near, cut, missing⟩ := facts
  refine ⟨turn, near, cut, steady_single, ?_⟩
  intro all
  apply missing
  intro known listed
  obtain ⟨_, _, sent⟩ := all known listed
  exact sent

/-- A host of seven sleeping-role nodes names them in its first two beacons: a signed one with
the last of them, then one with the six others. -/
theorem advertised_in_turn_hosting_seven : (beaconing 0).turn = 2 ∧
      (beaconing 0).zone.nearby.length = 7 ∧
      Node.Advertised beaconing (20 + ·) (beaconing 0).turn := by
  have facts : (beaconing 0).turn = 2 ∧ (beaconing 0).zone.nearby.length = 7 ∧
      1 ≤ (beaconing 0).cfg.zrp.maxAdvertisedEntries ∧ (beaconing 0).cfg.role ≠ .leaf ∧
      ((beaconing 0).beaconsSent + 1).toNat + 2 ≤ 2 ^ 32 := by
    decide +kernel
  have room : ∀ round < 2, (beaconing round).FitsWindow := by
    unfold Node.FitsWindow
    decide +kernel
  obtain ⟨turn, seven, positive, awake, early⟩ := facts
  have reached : Node.Run Node.Unrestricted
      (Node.new NodeConfig.default (identity 1) generator 0) (beaconing 0) := hosting_reached _
  have fair := Node.advertised_in_turn_iff reached positive (beaconing_steady _)
  refine ⟨turn, seven, fair.mpr (.inr ⟨awake, .inl ?_, ?_⟩)⟩
  · rw [turn]
    exact early
  · rw [turn]
    exact room

end MeshStar

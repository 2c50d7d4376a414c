import MeshStar.Node.Announcement
import MeshStar.Node.Surroundings

/-!
# Which host serves a sleeping node

A host lists the sleeping-role nodes attached to it, and a receiver enters them as
sleeping behind the host, where `anchorFor` finds the host. The same nodes are direct
neighbours of the host, so they also appear in the zone part of its beacon, flagged as
the host flagged them, without the sleeping flag. The zone part is merged last and takes
the flag away again.

A receiver knows the host of every attached node behind it exactly when the zone part
says nothing about the node or marks it as sleeping, and the entry of the host itself
is not flagged as a sleeping-role node.
-/

namespace MeshStar

open List

/-- A better link costs no more. -/
theorem linkCost_antitone {worse better : UInt8} (order : worse ≤ better) :
    linkCost better 0 ≤ linkCost worse 0 := by
  have quality : max worse.toNat 1 ≤ max better.toNat 1 :=
    max_le_max_right 1 (UInt8.le_iff_toNat_le.mp order)
  have ratio : 255 * 256 / max better.toNat 1 ≤ 255 * 256 / max worse.toNat 1 :=
    Nat.div_le_div_left quality (by omega)
  have squared := Nat.mul_le_mul (Nat.mul_le_mul_left 100 ratio) ratio
  have base := Nat.div_le_div_right (c := 2 ^ 16) squared
  exact min_le_min_right 65535 (Nat.add_le_add_right base _)

/-- An advertised entry marks a node as a sleeping one of the sleeping role. -/
def ZoneEntry.marksSleeper (entry : ZoneEntry) : Bool :=
  entry.flags &&& ZoneFlags.leaf ≠ 0 && entry.flags &&& ZoneFlags.sleeping ≠ 0

namespace ZoneTable

/-- The advertised entry that counts for an address: the last one within reach. -/
def lastAdvertised (table : ZoneTable) (me addr : Address) (entries : List ZoneEntry) :
    Option ZoneEntry :=
  ((entries.filter (inReach table.radius me)).filter (fun entry => entry.addr = addr)).getLast?

/-- Every attached node that a table reaches through a host is known to be served by it. -/
def KnowsHost (table : ZoneTable) (me host : Address) (attached : List Address) : Prop :=
  ∀ leaf ∈ attached, leaf ≠ me → ∀ known, table.get leaf = some known → known.nextHop = host →
    table.anchorFor leaf = some host

/-- For every attached node whose entry the beacon of a host takes over, the zone part of
the beacon is silent or marks it as sleeping, and the host does not end up flagged as a
sleeping-role node. -/
def MarksAttached (table : ZoneTable) (now : Nat) (me host : Address) (neighbor : Neighbor)
    (entries : List ZoneEntry) (attached : List Address) : Prop :=
  ∀ leaf ∈ attached, leaf ≠ me →
    table.takes now (attachedOffer now host neighbor leaf) = true →
      (∀ entry ∈ table.lastAdvertised me leaf entries, entry.marksSleeper = true) ∧
      (table.takes now (directOffer now host neighbor) = true ∨
        ∀ via ∈ table.get host, via.isLeaf = false)

/-- When `anchorFor` names a host. -/
theorem anchorFor_eq_some_iff {table : ZoneTable} {leaf host : Address} {known : ZoneNode}
    (found : table.get leaf = some known) :
    table.anchorFor leaf = some host ↔
      (known.isLeaf = true ∧ known.isSleeping = true) ∧ 2 ≤ known.distance ∧
        ∃ via, table.get known.nextHop = some via ∧ via.isLeaf = false ∧ via.addr = host := by
  unfold get at found
  unfold anchorFor get
  rw [found]
  simp only [Bool.and_eq_true, decide_eq_true_eq]
  constructor
  · intro named
    split at named
    · rename_i marked
      split at named
      · cases named
      · rename_i via present
        split at named
        · rename_i awake
          exact ⟨⟨marked.1.1, marked.2⟩, marked.1.2, via, present, by simpa using awake,
            Option.some.inj named⟩
        · cases named
    · cases named
  · rintro ⟨⟨leafFlag, sleeping⟩, far, via, present, awake, rfl⟩
    rw [if_pos ⟨⟨leafFlag, far⟩, sleeping⟩, present]
    simp [awake]

/-- A cheaper offer for the same address through the same sender is taken as well. -/
theorem takes_cheaper {table : ZoneTable} {now : Nat} {offer dearer : ZoneNode}
    (addr : offer.addr = dearer.addr) (hop : offer.nextHop = dearer.nextHop)
    (cost : offer.cost ≤ dearer.cost) (taken : table.takes now dearer = true) :
    table.takes now offer = true := by
  unfold takes at taken ⊢
  rw [addr, hop]
  cases present : table.nodes.get dearer.addr with
  | none => rfl
  | some current =>
    rw [present] at taken
    simp only [Bool.or_eq_true, beq_iff_eq, decide_eq_true_eq] at taken ⊢
    rcases taken with (same | cheaper) | stale
    · exact .inl (.inl same)
    · exact .inl (.inr (Nat.lt_of_le_of_lt cost cheaper))
    · exact .inr stale

section Offers

variable {table : ZoneTable} {now : Nat} {me src leaf : Address} {neighbor : Neighbor}
  {entries : List ZoneEntry} {attached : List Address}

/-- The offers for an attached node. -/
theorem offersFor_attached (other : leaf ≠ src) :
    offersFor (table.beaconOffers now me src neighbor entries attached) leaf =
      ((attached.filter (fun addr => addr ≠ me)).filter (fun addr => addr = leaf)).map
          (attachedOffer now src neighbor) ++
        ((entries.filter (inReach table.radius me)).filter (fun entry => entry.addr = leaf)).map
          (entryOffer now src neighbor) := by
  have direct : ¬(directOffer now src neighbor).addr = leaf := fun same => other same.symm
  unfold offersFor beaconOffers
  rw [filter_cons_of_neg (by simpa using direct), filter_append, filter_map, filter_map]
  rfl

/-- The last offer for an attached node is the advertised one, if there is one. -/
theorem lastOffer_attached (hosted : leaf ∈ attached) (foreign : leaf ≠ me) (other : leaf ≠ src) :
    (offersFor (table.beaconOffers now me src neighbor entries attached) leaf).getLast? =
      match table.lastAdvertised me leaf entries with
      | some entry => some (entryOffer now src neighbor entry)
      | none => some (attachedOffer now src neighbor leaf) := by
  rw [offersFor_attached other, List.getLast?_append, List.getLast?_map, List.getLast?_map]
  change Option.or ((table.lastAdvertised me leaf entries).map (entryOffer now src neighbor)) _ = _
  cases table.lastAdvertised me leaf entries with
  | some entry => rfl
  | none =>
    have member : leaf ∈ (attached.filter (fun addr => addr ≠ me)).filter
        (fun addr => addr = leaf) := by
      simp [hosted, foreign]
    obtain ⟨last, found⟩ : ∃ last, ((attached.filter (fun addr => addr ≠ me)).filter
        (fun addr => addr = leaf)).getLast? = some last :=
      ⟨_, List.getLast?_eq_some_getLast (ne_nil_of_mem member)⟩
    have same : last = leaf := by
      simpa using (mem_filter.mp (mem_of_getLast? found)).2
    rw [found, same]
    rfl

/-- An advertised node costs at least as much as an attached one. -/
theorem attachedOffer_cheaper {entry : ZoneEntry} (apart : entry.distance ≠ 0) :
    (attachedOffer now src neighbor leaf).cost ≤ (entryOffer now src neighbor entry).cost := by
  unfold ZoneNode.cost
  apply Nat.mul_le_mul
  · exact UInt8.le_iff_toNat_le.mp (entryOffer_far now src neighbor apart)
  · apply linkCost_antitone
    change (if entry.quality ≤ neighbor.linkQuality then entry.quality else _) ≤ _
    split
    · assumption
    · exact UInt8.le_refl _

section

variable (hosted : leaf ∈ attached) (foreign : leaf ≠ me) (other : leaf ≠ src)
  (apart : ∀ entry ∈ entries, entry.distance ≠ 0)

include hosted foreign other apart

/-- The table takes an offer for an attached node if it takes the one of the attached
list. -/
theorem takes_attached :
    (offersFor (table.beaconOffers now me src neighbor entries attached) leaf).any
        (table.takes now) = table.takes now (attachedOffer now src neighbor leaf) := by
  rw [offersFor_attached other, Bool.eq_iff_iff, any_eq_true]
  constructor
  · rintro ⟨offer, member, taken⟩
    rcases mem_append.mp member with listed | advertised
    · obtain ⟨addr, inside, rfl⟩ := mem_map.mp listed
      have same : addr = leaf := by simpa using (mem_filter.mp inside).2
      rwa [same] at taken
    · obtain ⟨entry, inside, rfl⟩ := mem_map.mp advertised
      obtain ⟨reached, same⟩ := mem_filter.mp inside
      have filed : (attachedOffer now src neighbor leaf).addr =
          (entryOffer now src neighbor entry).addr := (of_decide_eq_true same).symm
      exact takes_cheaper filed rfl (attachedOffer_cheaper (apart entry (mem_filter.mp reached).1))
        taken
  · intro taken
    refine ⟨attachedOffer now src neighbor leaf, ?_, taken⟩
    apply mem_append_left
    exact mem_map_of_mem (by simp [hosted, foreign])

/-- The entry of an attached node after the beacon. -/
theorem absorbed_attached : (table.absorbed now me src neighbor entries attached).get leaf =
      if table.takes now (attachedOffer now src neighbor leaf) then
        match table.lastAdvertised me leaf entries with
        | some entry => some (entryOffer now src neighbor entry)
        | none => some (attachedOffer now src neighbor leaf)
      else table.nodes.get leaf := by
  rw [absorbed, mergeAll_get table now (table.beaconOffers_through now me src neighbor entries
    attached), takes_attached hosted foreign other apart, lastOffer_attached hosted foreign other]

/-- An attached node goes through the sender after the beacon exactly when the table takes
it. -/
theorem through_iff_taken :
    (∃ known, (table.absorbed now me src neighbor entries attached).get leaf = some known ∧
      known.nextHop = src) ↔ table.takes now (attachedOffer now src neighbor leaf) = true := by
  rw [absorbed_attached hosted foreign other apart]
  constructor
  · rintro ⟨known, found, through⟩
    by_contra refused
    rw [if_neg refused] at found
    apply refused
    unfold takes
    rw [show table.nodes.get (attachedOffer now src neighbor leaf).addr = some known from found]
    simp [through, attachedOffer]
  · intro taken
    rw [if_pos taken]
    cases table.lastAdvertised me leaf entries with
    | some entry => exact ⟨_, rfl, rfl⟩
    | none => exact ⟨_, rfl, rfl⟩

end

/-- Only the sender itself is offered under its address when it does not list itself. -/
theorem offersFor_sender (unlisted : src ∉ attached)
    (unadvertised : ∀ entry ∈ entries, entry.addr ≠ src) :
    offersFor (table.beaconOffers now me src neighbor entries attached) src =
      [directOffer now src neighbor] := by
  unfold offersFor beaconOffers
  rw [filter_cons_of_pos (by simp [directOffer])]
  congr 1
  rw [filter_eq_nil_iff]
  intro offer member same
  have filed : offer.addr = src := by simpa using same
  rcases mem_append.mp member with listed | advertised
  · obtain ⟨addr, inside, rfl⟩ := mem_map.mp listed
    change addr = src at filed
    rw [filed] at inside
    exact unlisted (mem_filter.mp inside).1
  · obtain ⟨entry, inside, rfl⟩ := mem_map.mp advertised
    exact unadvertised entry (mem_filter.mp inside).1 filed

/-- A relaying sender is flagged as such after its beacon, unless a cheaper entry stays. -/
theorem sender_awake_iff (now : Nat) (sound : table.Sound me) (awake : neighbor.isLeaf = false)
    (unlisted : src ∉ attached) (unadvertised : ∀ entry ∈ entries, entry.addr ≠ src) :
    (∃ via, (table.absorbed now me src neighbor entries attached).get src = some via ∧
      via.isLeaf = false ∧ via.addr = src) ↔
      table.takes now (directOffer now src neighbor) = true ∨
        ∀ via ∈ table.get src, via.isLeaf = false := by
  rw [absorbed, mergeAll_get table now (table.beaconOffers_through now me src neighbor entries
    attached), offersFor_sender unlisted unadvertised]
  simp only [any_cons, any_nil, Bool.or_false, List.getLast?_singleton]
  by_cases taken : table.takes now (directOffer now src neighbor) = true
  · have relaying : (directOffer now src neighbor).isLeaf = false := by
      unfold ZoneNode.isLeaf directOffer
      rw [awake]
      simp only [Bool.false_eq_true, if_false]
      split
      · decide
      · decide
    rw [if_pos taken]
    exact iff_of_true ⟨_, rfl, relaying, rfl⟩ (.inl taken)
  · rw [if_neg taken]
    constructor
    · rintro ⟨via, present, relaying, _⟩
      right
      intro other found
      cases found.symm.trans present
      exact relaying
    · rintro (direct | relaying)
      · exact absurd direct taken
      · cases present : table.nodes.get src with
        | none =>
          exfalso
          apply taken
          unfold takes
          rw [show table.nodes.get (directOffer now src neighbor).addr = none from present]
        | some via => exact ⟨via, rfl, relaying via present, sound.keyed src via present⟩

/-- A node knows the host of the attached nodes behind it after the beacon of that host
exactly when the zone part of the beacon does not unmark them. -/
theorem knowsHost_iff {neighbors : NeighborTable} (sound : table.Sound me)
    (known : neighbors.get src = some neighbor) (awake : neighbor.isLeaf = false)
    (unlisted : src ∉ attached) (unadvertised : ∀ entry ∈ entries, entry.addr ≠ src)
    (apart : ∀ entry ∈ entries, entry.distance ≠ 0)
    (fits : (table.absorbed now me src neighbor entries attached).size ≤ table.maxEntries) :
    (table.updateFromBeacon now me neighbors src entries attached).KnowsHost me src attached ↔
      table.MarksAttached now me src neighbor entries attached := by
  have after (addr : Address) :
      (table.updateFromBeacon now me neighbors src entries attached).get addr =
        (table.absorbed now me src neighbor entries attached).get addr := by
    rw [updateFromBeacon_eq table now me known, get, enforceBound_fits fits]
  have sender := sender_awake_iff now sound awake unlisted unadvertised
  constructor
  · intro knows leaf hosted foreign taken
    have other : leaf ≠ src := fun same => unlisted (same ▸ hosted)
    obtain ⟨final, found, through⟩ := (through_iff_taken hosted foreign other apart).mpr taken
    have named := knows leaf hosted foreign final ((after leaf).trans found) through
    rw [anchorFor_eq_some_iff ((after leaf).trans found), through, after] at named
    obtain ⟨marked, _, via, present, relaying, filed⟩ := named
    refine ⟨?_, sender.mp ⟨via, present, relaying, filed⟩⟩
    intro entry last
    rw [absorbed_attached hosted foreign other apart, if_pos taken,
      show table.lastAdvertised me leaf entries = some entry from last] at found
    cases found
    unfold ZoneEntry.marksSleeper
    rw [Bool.and_eq_true]
    exact marked
  · intro marks leaf hosted foreign final found through
    have other : leaf ≠ src := fun same => unlisted (same ▸ hosted)
    rw [anchorFor_eq_some_iff found, through, after]
    rw [after] at found
    have taken := (through_iff_taken hosted foreign other apart).mp ⟨final, found, through⟩
    obtain ⟨marked, relaying⟩ := marks leaf hosted foreign taken
    rw [absorbed_attached hosted foreign other apart, if_pos taken] at found
    cases last : table.lastAdvertised me leaf entries with
    | none =>
      rw [last] at found
      cases found
      have flags : (ZoneFlags.leaf ||| ZoneFlags.sleeping) &&& ZoneFlags.leaf ≠ 0 ∧
          (ZoneFlags.leaf ||| ZoneFlags.sleeping) &&& ZoneFlags.sleeping ≠ 0 := by
        decide
      exact ⟨⟨decide_eq_true flags.1, decide_eq_true flags.2⟩, UInt8.le_refl 2, sender.mpr relaying⟩
    | some entry =>
      rw [last] at found
      cases found
      have flags := marked entry last
      unfold ZoneEntry.marksSleeper at flags
      rw [Bool.and_eq_true] at flags
      have listed := (mem_filter.mp (mem_filter.mp (mem_of_getLast? last)).1).1
      exact ⟨flags, entryOffer_far now src neighbor (apart entry listed), sender.mpr relaying⟩

end Offers

end ZoneTable

namespace Node

variable [Primitives]

omit [Primitives] in
/-- An entry of an advertisement is an entry of the table. -/
theorem advertisement_mem {table : ZoneTable} {maximum round : Nat} {entry : ZoneEntry}
    (advertised : entry ∈ table.advertisement maximum round) :
    ∃ known ∈ table.nodes.values, entry = ⟨known.addr, known.distance, known.quality,
      known.flags⟩ := by
  unfold ZoneTable.advertisement at advertised
  simp only at advertised
  split at advertised
  · cases advertised
  · obtain ⟨known, member, rfl⟩ := mem_map.mp advertised
    refine ⟨known, ?_, rfl⟩
    have rotated := mem_of_mem_take member
    rcases mem_append.mp rotated with later | earlier
    · exact (mem_filter.mp (mem_of_mem_drop later)).1
    · exact (mem_filter.mp (mem_of_mem_take earlier)).1

/-- The announcement of a host with well-ordered surroundings: it names itself nowhere, and
what it advertises is at least one hop away. -/
theorem Oriented.announcement {host : Node} (oriented : host.Oriented)
    (relaying : host.cfg.role ≠ .leaf) (time : Nat) :
    host.address ∉ (host.announcement time).attached ∧
      ∀ entry ∈ (host.announcement time).zone, entry.addr ≠ host.address ∧ entry.distance ≠ 0 := by
  obtain ⟨_, zone, _, attached⟩ :=
    (host.scheduleBeacon time).beaconContent_parts host.announcesIdentity time
  have hosts : (host.scheduleBeacon time).cfg.role.relays = true := by
    change host.cfg.role.relays = true
    cases role : host.cfg.role with
    | leaf => exact absurd role relaying
    | normal => rfl
    | anchor => rfl
  constructor
  · intro listed
    have hosting := attached.subset listed
    unfold unzoned at hosting
    rw [if_pos hosts] at hosting
    obtain ⟨neighbor, member, filed⟩ := mem_map.mp (mem_of_mem_take hosting)
    obtain ⟨key, found⟩ := (OrderedMap.mem_values_iff _).mp (mem_filter.mp member).1
    have seen : host.neighbors.sight key = some (neighbor.addr, neighbor.role) := by
      unfold NeighborTable.sight
      rw [show host.neighbors.get key = some neighbor from found]
      rfl
    have own : key = host.address := (oriented.keyed key _ seen).symm.trans filed
    rw [own, oriented.foreign] at seen
    cases seen
  · intro entry listed
    obtain ⟨known, member, rfl⟩ := advertisement_mem (zone.subset listed)
    obtain ⟨key, found⟩ := (OrderedMap.mem_values_iff _).mp member
    have filed : known.addr = key := oriented.zone.keyed key known found
    constructor
    · rintro (own : known.addr = host.address)
      rw [← filed, own] at found
      cases oriented.zone.foreign.symm.trans found
    · rintro (zero : known.distance = 0)
      rcases oriented.zone.placed key known found with ⟨near, _⟩ | far
      · rw [zero] at near
        cases near
      · rw [zero] at far
        revert far
        decide

/-- A table that is told by a reachable relaying host who is attached to it knows the host of
every attached node it reaches through that host, exactly when the zone part of the beacon
does not unmark the node and the host is not kept as a sleeping-role node. -/
theorem host_knowledge_survives_iff {config : NodeConfig} {id : Identity} {rng : Rng}
    {start : Nat} {host : Node} (reached : Run Unrestricted (new config id rng start) host)
    (relaying : host.cfg.role ≠ .leaf) (time now : Nat) {table : ZoneTable} {me : Address}
    (sound : table.Sound me) {neighbors : NeighborTable} {neighbor : Neighbor}
    (known : neighbors.get host.address = some neighbor) (awake : neighbor.isLeaf = false)
    (fits : (table.absorbed now me host.address neighbor (host.announcement time).zone
      (host.announcement time).attached).size ≤ table.maxEntries) :
    (table.updateFromBeacon now me neighbors host.address (host.announcement time).zone
        (host.announcement time).attached).KnowsHost me host.address
          (host.announcement time).attached ↔
      table.MarksAttached now me host.address neighbor (host.announcement time).zone
        (host.announcement time).attached := by
  obtain ⟨unlisted, advertised⟩ := reached.oriented.announcement relaying time
  exact ZoneTable.knowsHost_iff sound known awake unlisted
    (fun entry member => (advertised entry member).1)
      (fun entry member => (advertised entry member).2)
    fits

end Node

end MeshStar

namespace MeshStar

local instance hostKnowledgeSuite : Primitives := Transparent.primitives

namespace HostKnowledge

open Transparent

/-- A host after the beacon of a sleeping-role node that names no host yet. -/
def host : Node := (relay 3).step (announced (sleeper 2) 10)

/-- The same host when its configuration leaves no room for zone entries. -/
def terse : Node :=
  (Node.new { NodeConfig.default with
    zrp := { ZrpConfig.default with maxAdvertisedEntries := 0 } } (identity 3) generator 0).step
      (announced (sleeper 2) 10)

/-- A node that has just entered the host as its neighbour. -/
def neighbors : NeighborTable := ((relay 1).step (announced (relay 3) 5)).neighbors

/-- The zone table of a fresh node after the beacon of a host. -/
def told (host : Node) : ZoneTable :=
  (relay 1).zone.updateFromBeacon 20 (relay 1).address neighbors host.address
    (host.announcement 20).zone (host.announcement 20).attached

end HostKnowledge

open Transparent HostKnowledge

/-- The zone part of a host's own beacon takes the sleeping flag away from the node attached
to it, whose host is then unknown. -/
theorem own_beacon_hides_host : 2 ≤ (relay 1).zone.radius ∧
      (neighbors.get host.address).map Neighbor.isLeaf = some false ∧
      (host.announcement 20).attached = [(sleeper 2).address] ∧
      ((told host).get (sleeper 2).address).map (fun known => (known.distance, known.nextHop)) =
        some (2, host.address) ∧
      (told host).anchorFor (sleeper 2).address = none ∧
      ¬(told host).KnowsHost (relay 1).address host.address (host.announcement 20).attached := by
  have facts : (host.announcement 20).attached = [(sleeper 2).address] ∧
      ((told host).get (sleeper 2).address).map (fun known => (known.distance, known.nextHop)) =
        some (2, host.address) ∧
      (told host).anchorFor (sleeper 2).address = none ∧
      (sleeper 2).address ≠ (relay 1).address := by
    decide +kernel
  obtain ⟨attached, entry, unknown, foreign⟩ := facts
  refine ⟨by decide +kernel, by decide +kernel, attached, entry, unknown, ?_⟩
  intro knows
  rw [attached] at knows
  obtain ⟨known, found, placed⟩ := Option.map_eq_some_iff.mp entry
  have named := knows _ List.mem_cons_self foreign known found (Prod.mk.inj placed).2
  rw [unknown] at named
  cases named

/-- A host whose beacon has no zone part is known to its receiver. -/
theorem host_knowledge_survives_terse : (terse.announcement 20).attached = [(sleeper 2).address] ∧
      ((told terse).get (sleeper 2).address).map ZoneNode.nextHop = some terse.address ∧
      (told terse).KnowsHost (relay 1).address terse.address (terse.announcement 20).attached := by
  have facts : (terse.announcement 20).zone = [] ∧ terse.cfg.role ≠ .leaf ∧
      (neighbors.get terse.address).isSome = true ∧
      ∀ neighbor ∈ neighbors.get terse.address, neighbor.isLeaf = false ∧
        (relay 1).zone.takes 20 (ZoneTable.directOffer 20 terse.address neighbor) = true ∧
        ((relay 1).zone.absorbed 20 (relay 1).address terse.address neighbor
          (terse.announcement 20).zone (terse.announcement 20).attached).size ≤
            (relay 1).zone.maxEntries := by
    decide +kernel
  obtain ⟨zone, role, present, each⟩ := facts
  obtain ⟨neighbor, known⟩ := Option.isSome_iff_exists.mp present
  obtain ⟨awake, direct, fits⟩ := each neighbor known
  have reached : Node.Run Node.Unrestricted (Node.new { NodeConfig.default with
      zrp := { ZrpConfig.default with maxAdvertisedEntries := 0 } } (identity 3)
        generator 0) terse :=
    Node.Run.step _ Node.Run.refl trivial
  refine ⟨by decide +kernel, by decide +kernel, ?_⟩
  apply (Node.host_knowledge_survives_iff reached role 20 20
    (ZoneTable.new_sound _ _ _ _) known awake
    fits).mpr
  intro leaf _ _ _
  refine ⟨?_, .inl direct⟩
  rw [zone]
  nofun

end MeshStar

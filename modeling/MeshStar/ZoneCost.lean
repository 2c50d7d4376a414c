import MeshStar.BeaconCodec
import MeshStar.ZoneMerge

/-!
# Whether zone entries compete on path cost

A fresh entry through another neighbour should only give way to a cheaper path. A beacon
may offer one address more than once, though, and only the first offer that is taken
competes with that entry: the later ones go through the same next hop and replace it at any
cost. An anchor does so that lists a node as attached and advertises it as well.
-/

namespace MeshStar

namespace ZoneTable

/-- A beacon's offers for an address do not raise its cost: if one of them undercuts the
entry, the last one is no dearer. -/
def Undercuts (current : ZoneNode) (offers : List ZoneNode) : Prop :=
  (∃ offer ∈ offers, offer.cost < current.cost) →
    ∀ last, offers.getLast? = some last → last.cost ≤ current.cost

/-- An entry through another neighbour that is not stale keeps or lowers its cost under a
beacon exactly if the offers for it do not raise it. -/
theorem beacon_cost_iff (table : ZoneTable) (now : Nat) (me src addr : Address)
    (neighbors : NeighborTable) (neighbor : Neighbor) (beacon : Beacon) (before after : ZoneNode)
    (present : neighbors.get src = some neighbor) (known : table.get addr = some before)
    (elsewhere : before.nextHop ≠ src) (fresh : now - before.updatedAt ≤ table.entryTtlMs / 2)
    (kept : (table.updateFromBeacon now me neighbors src beacon.zone beacon.attached).get addr =
      some after) :
    after.cost ≤ before.cost ↔ Undercuts before
      (offersFor (table.beaconOffers now me src neighbor beacon.zone beacon.attached) addr) := by
  have through := table.beaconOffers_through now me src neighbor beacon.zone beacon.attached
  rw [updateFromBeacon_eq table now me present, get] at kept
  have merged := enforceBound_get kept
  rw [absorbed, mergeAll_get table now through] at merged
  generalize table.beaconOffers now me src neighbor beacon.zone beacon.attached = offers
    at merged through
  -- no offer shares the next hop of the entry and the entry is not stale, so only cost decides
  have taken : (offersFor offers addr).any (table.takes now) = true ↔
      ∃ offer ∈ offersFor offers addr, offer.cost < before.cost := by
    rw [List.any_eq_true]
    refine exists_congr fun offer => and_congr_right fun member => ?_
    obtain ⟨listed, same⟩ := List.mem_filter.mp member
    have other : before.nextHop ≠ offer.nextHop := through offer listed ▸ elsewhere
    unfold takes
    rw [of_decide_eq_true same, show table.nodes.get addr = some before from known]
    simp [other, Nat.not_lt.mpr fresh]
  unfold Undercuts
  split at merged
  · rename_i some_taken
    constructor
    · intro cheaper _ last found
      cases merged.symm.trans found
      exact cheaper
    · intro undercut
      exact undercut (taken.mp some_taken) after merged
  · rename_i none_taken
    cases merged.symm.trans known
    exact ⟨fun _ undercut => absurd (taken.mpr undercut) none_taken, fun _ => le_rfl⟩

/-- Node 9 at three hops through node 2. -/
def heardAtThree (quality : UInt8) : ZoneNode := ⟨⟨9⟩, 3, ⟨2⟩, quality, 0, 0⟩

def hearing (quality : UInt8) : ZoneTable :=
  { new 4 96 180000 with nodes := OrderedMap.empty.insert ⟨9⟩ (heardAtThree quality) }

/-- Node 3 lists node 9 as attached and advertises it at three hops. -/
def listedTwice : Beacon :=
  { Beacon.shortBeacon .anchor 1 4 1 with attached := [⟨9⟩], zone := [⟨⟨9⟩, 3, 255, 0⟩] }

def anchor : Neighbor := Neighbor.new ⟨3⟩ .anchor 0 ⟨-60, 10, 0⟩

def anchors : NeighborTable := ⟨NeighborConfig.default, OrderedMap.empty.insert ⟨3⟩ anchor⟩

/-- What that beacon offers over a link of some quality. -/
def offeredTwice (quality : UInt8) : List ZoneNode :=
  [⟨⟨3⟩, 1, ⟨3⟩, quality, ZoneFlags.anchor, 10⟩,
    ⟨⟨9⟩, 2, ⟨3⟩, quality, ZoneFlags.leaf ||| ZoneFlags.sleeping, 10⟩,
    ⟨⟨9⟩, 4, ⟨3⟩, min 255 quality, 0, 10⟩]

/-- What a beacon of node 3 leaves of the entry. The link to node 3 may have any quality. -/
theorem hearing_update (beacon : Beacon) (offers : UInt8 → List ZoneNode)
    (last : UInt8 → ZoneNode)
    (offered : (hearing anchor.linkQuality).beaconOffers 10 ⟨1⟩ ⟨3⟩ anchor beacon.zone
      beacon.attached = offers anchor.linkQuality)
    (every : ∀ level < 256,
      let nodes := ((hearing (UInt8.ofNat level)).mergeAll 10 (offers (UInt8.ofNat level))).nodes
      (enforceBound 96 nodes.size nodes).get ⟨9⟩ = some (last (UInt8.ofNat level))) :
    ((hearing anchor.linkQuality).updateFromBeacon 10 ⟨1⟩ anchors ⟨3⟩ beacon.zone
      beacon.attached).get ⟨9⟩ = some (last anchor.linkQuality) := by
  have chosen := every anchor.linkQuality.toNat (UInt8.toNat_lt _)
  rw [UInt8.ofNat_toNat] at chosen
  rw [updateFromBeacon_eq _ _ _ (show anchors.get ⟨3⟩ = some anchor from rfl)]
  unfold absorbed get
  rw [offered, show (hearing anchor.linkQuality).maxEntries = 96 from rfl]
  exact chosen

/-- The attached node at two hops undercuts the entry, the advertised one at four replaces
it. -/
theorem listedTwice_update :
    ∃ after, ((hearing anchor.linkQuality).updateFromBeacon 10 ⟨1⟩ anchors ⟨3⟩ listedTwice.zone
        listedTwice.attached).get ⟨9⟩ = some after ∧
      (heardAtThree anchor.linkQuality).cost < after.cost := by
  have dearer : ∀ level < 256, (heardAtThree (UInt8.ofNat level)).cost <
      (⟨⟨9⟩, 4, ⟨3⟩, min 255 (UInt8.ofNat level), 0, 10⟩ : ZoneNode).cost := by decide +kernel
  have costs := dearer anchor.linkQuality.toNat (UInt8.toNat_lt _)
  rw [UInt8.ofNat_toNat] at costs
  exact ⟨_, hearing_update listedTwice offeredTwice (fun quality =>
    ⟨⟨9⟩, 4, ⟨3⟩, min 255 quality, 0, 10⟩) rfl (by decide +kernel), costs⟩

/-- A beacon that is accepted raises the cost of a fresh entry that goes elsewhere. -/
theorem listed_twice_raises_cost : Beacon.decode listedTwice.encode = .ok listedTwice ∧
      ∃ before after, (hearing anchor.linkQuality).get ⟨9⟩ = some before ∧ before.nextHop ≠ ⟨3⟩ ∧
        10 - before.updatedAt ≤ (hearing anchor.linkQuality).entryTtlMs / 2 ∧
        ((hearing anchor.linkQuality).updateFromBeacon 10 ⟨1⟩ anchors ⟨3⟩ listedTwice.zone
          listedTwice.attached).get ⟨9⟩ = some after ∧ before.cost < after.cost := by
  obtain ⟨after, kept, dearer⟩ := listedTwice_update
  exact ⟨by decide +kernel, _, after, rfl, by decide, by decide, kept, dearer⟩

/-- Node 3 lists node 9 as attached only. -/
def listedOnce : Beacon := { listedTwice with zone := [] }

/-- What that beacon offers for node 9. -/
def offeredOnce (quality : UInt8) : ZoneNode :=
  ⟨⟨9⟩, 2, ⟨3⟩, quality, ZoneFlags.leaf ||| ZoneFlags.sleeping, 10⟩

/-- The last offer decides: listed twice the entry gets dearer, listed once it gets cheaper. -/
theorem beacon_cost_iff_listed :
    ¬Undercuts (heardAtThree anchor.linkQuality)
      (offersFor ((hearing anchor.linkQuality).beaconOffers
      10 ⟨1⟩ ⟨3⟩ anchor listedTwice.zone listedTwice.attached) ⟨9⟩) ∧
    (offeredOnce anchor.linkQuality).cost ≤ (heardAtThree anchor.linkQuality).cost := by
  constructor
  · obtain ⟨after, kept, dearer⟩ := listedTwice_update
    intro undercuts
    exact Nat.not_le.mpr dearer ((beacon_cost_iff (hearing anchor.linkQuality) 10 ⟨1⟩ ⟨3⟩ ⟨9⟩
      anchors anchor listedTwice _ after rfl rfl (by decide) (by decide) kept).mpr undercuts)
  · have kept := hearing_update listedOnce (fun quality =>
      [⟨⟨3⟩, 1, ⟨3⟩, quality, ZoneFlags.anchor, 10⟩, offeredOnce quality]) offeredOnce rfl
        (by decide +kernel)
    refine (beacon_cost_iff (hearing anchor.linkQuality) 10 ⟨1⟩ ⟨3⟩ ⟨9⟩ anchors anchor listedOnce
      _ _ rfl rfl (by decide) (by decide) kept).mpr ?_
    have cheaper : ∀ level < 256, (offeredOnce (UInt8.ofNat level)).cost ≤
        (heardAtThree (UInt8.ofNat level)).cost := by decide +kernel
    have costs := cheaper anchor.linkQuality.toNat (UInt8.toNat_lt _)
    rw [UInt8.ofNat_toNat] at costs
    intro _ last selected
    cases selected
    exact costs

end ZoneTable

end MeshStar

import MeshStar.Zone

/-!
# What a beacon leaves in the zone table

A beacon makes its receiver a series of offers: the sender at distance one, the attached
nodes at distance two, the advertised nodes one hop farther. All of them go through the
sender. An offer is taken when the address is unknown, when the current entry goes
through the sender already, or when it is cheaper or the current entry is stale.

Once an offer for an address has been taken the entry goes through the sender, and every
later offer for it is taken as well. Hence an address ends up with its last offer if any
of its offers is taken by the table as it was, and keeps its entry otherwise. The bound
of the table is enforced at the end and only deletes entries.
-/

namespace MeshStar

open List OrderedMap

namespace ZoneTable

variable (table : ZoneTable) (now : Nat) (src : Address) (offers : List ZoneNode) (offer : ZoneNode)
  (neighbor : Neighbor)

/-- Whether a table takes an offer. -/
def takes (table : ZoneTable) (now : Nat) (offer : ZoneNode) : Bool :=
  match table.nodes.get offer.addr with
  | some current => current.nextHop == offer.nextHop || decide (offer.cost < current.cost) ||
      decide (now - current.updatedAt > table.entryTtlMs / 2)
  | none => true

/-- Merging writes an offer that is taken and nothing else. -/
theorem merge_eq : table.merge now offer =
      if table.takes now offer then { table with nodes := table.nodes.insert offer.addr offer }
      else table := by
  unfold merge takes
  cases table.nodes.get offer.addr with
  | none => rfl
  | some current =>
    by_cases same : current.nextHop = offer.nextHop
    · simp [same]
    · by_cases better : offer.cost < current.cost ∨ now - current.updatedAt > table.entryTtlMs / 2
      · simp [same, better]
      · simp [same, better]

theorem merge_get (addr : Address) : (table.merge now offer).nodes.get addr =
      if addr = offer.addr ∧ table.takes now offer = true then some offer
      else table.nodes.get addr := by
  rw [merge_eq]
  by_cases taken : table.takes now offer = true
  · rw [if_pos taken, get_insert]
    simp only [KeyRank.rank_eq_iff, taken, and_true]
  · rw [if_neg taken, if_neg (fun both => taken both.2)]

/-- Merge a series of offers. -/
def mergeAll (table : ZoneTable) (now : Nat) (offers : List ZoneNode) : ZoneTable :=
  offers.foldl (fun zone offer => zone.merge now offer) table

theorem mergeAll_snoc (last : ZoneNode) :
    table.mergeAll now (offers ++ [last]) = (table.mergeAll now offers).merge now last := by
  simp only [mergeAll, foldl_append, foldl_cons, foldl_nil]

/-- Offers change entries only. -/
theorem mergeAll_rest :
    table.mergeAll now offers = { table with nodes := (table.mergeAll now offers).nodes } := by
  induction offers using List.reverseRecOn with
  | nil => rfl
  | append_singleton rest last ih =>
    rw [mergeAll_snoc, merge_eq]
    split
    · rw [ih]
    · exact ih

theorem mergeAll_lifetime : (table.mergeAll now offers).entryTtlMs = table.entryTtlMs := by
  rw [mergeAll_rest]

theorem mergeAll_radius : (table.mergeAll now offers).radius = table.radius := by
  rw [mergeAll_rest]

/-- The offers for one address. -/
def offersFor (offers : List ZoneNode) (addr : Address) : List ZoneNode :=
  offers.filter (fun offer => offer.addr = addr)

/-- After a series of offers through one sender, an address has its last offer if the
table took any of them, and its old entry otherwise. -/
theorem mergeAll_get {src : Address} {offers : List ZoneNode}
    (through : ∀ offer ∈ offers, offer.nextHop = src) (addr : Address) :
    (table.mergeAll now offers).nodes.get addr =
      if (offersFor offers addr).any (table.takes now) then (offersFor offers addr).getLast?
      else table.nodes.get addr := by
  induction offers using List.reverseRecOn with
  | nil => rfl
  | append_singleton rest last ih =>
    have earlier := ih (fun offer member => through offer (mem_append_left _ member))
    rw [mergeAll_snoc, merge_get]
    by_cases other : last.addr = addr
    · have split : offersFor (rest ++ [last]) addr = offersFor rest addr ++ [last] := by
        simp [offersFor, other]
      rw [split, any_append, List.getLast?_append]
      simp only [other, true_and, any_cons, any_nil, Bool.or_false, List.getLast?_singleton,
        Option.some_or]
      by_cases taken : (offersFor rest addr).any (table.takes now) = true
      · -- The entry goes through the sender already, so the last offer is taken too.
        rw [if_pos taken] at earlier
        have again : (table.mergeAll now rest).takes now last = true := by
          obtain ⟨first, inside, _⟩ := any_eq_true.mp taken
          obtain ⟨current, found⟩ : ∃ current, (offersFor rest addr).getLast? = some current :=
            ⟨_, List.getLast?_eq_some_getLast (ne_nil_of_mem inside)⟩
          have member : current ∈ rest := (mem_filter.mp (mem_of_getLast? found)).1
          unfold takes
          rw [other, earlier, found]
          simp only
          rw [through current (mem_append_left _ member),
            through last (mem_append_right _ mem_cons_self)]
          simp
        rw [if_pos again, if_pos (by rw [taken, Bool.true_or])]
      · rw [if_neg taken] at earlier
        have same : (table.mergeAll now rest).takes now last = table.takes now last := by
          rw [takes, other, earlier, mergeAll_lifetime, takes, other]
        rw [same, earlier, Bool.eq_false_iff.mpr taken, Bool.false_or]
    · have split : offersFor (rest ++ [last]) addr = offersFor rest addr := by
        simp [offersFor, other]
      rw [split, if_neg (fun both => other both.1.symm), earlier]

/-! ## The offers of a beacon -/

/-- The sender itself. -/
def directOffer (now : Nat) (src : Address) (neighbor : Neighbor) : ZoneNode :=
  ⟨src, 1, src, neighbor.linkQuality, (if neighbor.isLeaf then ZoneFlags.leaf else 0) |||
    (if neighbor.role = .anchor then ZoneFlags.anchor else 0), now⟩

/-- A node attached to the sender. -/
def attachedOffer (now : Nat) (src : Address) (neighbor : Neighbor) (addr : Address) : ZoneNode :=
  ⟨addr, 2, src, neighbor.linkQuality, ZoneFlags.leaf ||| ZoneFlags.sleeping, now⟩

/-- A node the sender advertises, one hop farther. -/
def entryOffer (now : Nat) (src : Address) (neighbor : Neighbor) (entry : ZoneEntry) : ZoneNode :=
  ⟨entry.addr, UInt8.ofNat (min (entry.distance.toNat + 1) 255), src,
    min entry.quality neighbor.linkQuality, entry.flags, now⟩

/-- Whether an advertised node is another one within the radius. -/
def inReach (radius : UInt8) (me : Address) (entry : ZoneEntry) : Bool :=
  decide (entry.addr ≠ me) && decide (min (entry.distance.toNat + 1) 255 ≤ radius.toNat)

/-- Everything a beacon offers. -/
def beaconOffers (table : ZoneTable) (now : Nat) (me src : Address) (neighbor : Neighbor)
    (entries : List ZoneEntry) (attached : List Address) : List ZoneNode :=
  directOffer now src neighbor ::
    ((attached.filter (fun addr => addr ≠ me)).map (attachedOffer now src neighbor) ++
      (entries.filter (inReach table.radius me)).map (entryOffer now src neighbor))

theorem beaconOffers_through (me src : Address)
    (neighbor : Neighbor) (entries : List ZoneEntry) (attached : List Address) :
    ∀ offer ∈ table.beaconOffers now me src neighbor entries attached, offer.nextHop = src := by
  intro offer member
  rcases mem_cons.mp member with rfl | later
  · rfl
  · rcases mem_append.mp later with hosted | advertised
    · obtain ⟨_, _, rfl⟩ := mem_map.mp hosted
      rfl
    · obtain ⟨_, _, rfl⟩ := mem_map.mp advertised
      rfl

theorem merge_radius : (table.merge now offer).radius = table.radius := by
  rw [merge_eq]
  split
  · rfl
  · rfl

/-- The loop over the attached nodes merges their offers. -/
theorem attached_loop (zone : ZoneTable) (now : Nat) (me src : Address) (neighbor : Neighbor)
    (attached : List Address) :
    attached.foldl (fun zone addr => if addr = me then zone
      else zone.merge now (attachedOffer now src neighbor addr)) zone =
      zone.mergeAll now ((attached.filter (fun addr => addr ≠ me)).map
        (attachedOffer now src neighbor)) := by
  induction attached generalizing zone with
  | nil => rfl
  | cons head rest ih =>
    rw [foldl_cons, ih]
    by_cases own : head = me
    · simp [own]
    · simp [own, mergeAll]

/-- The loop over the advertised nodes merges the offers within the radius. -/
theorem entries_loop (zone : ZoneTable) (now : Nat) (me src : Address) (neighbor : Neighbor)
    (entries : List ZoneEntry) :
    entries.foldl (fun zone entry => if entry.addr = me then zone
      else if min (entry.distance.toNat + 1) 255 > zone.radius.toNat then zone
      else zone.merge now (entryOffer now src neighbor entry)) zone =
      zone.mergeAll now ((entries.filter (inReach zone.radius me)).map
        (entryOffer now src neighbor)) := by
  induction entries generalizing zone with
  | nil => rfl
  | cons head rest ih =>
    rw [foldl_cons, ih]
    by_cases own : head.addr = me
    · simp [own, inReach]
    · by_cases far : min (head.distance.toNat + 1) 255 > zone.radius.toNat
      · have beyond : inReach zone.radius me head = false := by
          simp only [inReach, Nat.not_le.mpr far, decide_false, Bool.and_false]
        rw [if_neg own, if_pos far, filter_cons_of_neg (by simp [beyond])]
      · have within : inReach zone.radius me head = true := by
          simp only [inReach, own, Nat.not_lt.mp far, ne_eq, not_false_eq_true, decide_true,
            Bool.and_self]
        rw [if_neg own, if_neg far, merge_radius, filter_cons_of_pos within, map_cons]
        rfl

/-- The nodes of a table after the offers of a beacon, before the bound is enforced. -/
def absorbed (table : ZoneTable) (now : Nat) (me src : Address) (neighbor : Neighbor)
    (entries : List ZoneEntry) (attached : List Address) : OrderedMap Address ZoneNode :=
  (table.mergeAll now (table.beaconOffers now me src neighbor entries attached)).nodes

/-- The adjacency lists take no part in a merge. -/
theorem mergeAll_adjacency (adjacency : OrderedMap Address (List Address)) :
    { table with adjacency := adjacency }.mergeAll now offers =
      { table.mergeAll now offers with adjacency := adjacency } := by
  induction offers using List.reverseRecOn with
  | nil => rfl
  | append_singleton rest last ih =>
    rw [mergeAll_snoc, mergeAll_snoc, ih, merge_eq, merge_eq]
    change (if (table.mergeAll now rest).takes now last then _ else _) = _
    split
    · rfl
    · rfl

/-- A beacon's offers are merged in order and the bound is enforced at the end. -/
theorem updateFromBeacon_eq (me : Address)
    {neighbors : NeighborTable} {src : Address} {neighbor : Neighbor}
    (known : neighbors.get src = some neighbor) (entries : List ZoneEntry)
    (attached : List Address) :
    table.updateFromBeacon now me neighbors src entries attached = { table with
        nodes := enforceBound table.maxEntries
          (table.absorbed now me src neighbor entries attached).size
          (table.absorbed now me src neighbor entries attached)
        adjacency := table.adjacency.insert src
          ((entries.filter (fun entry => entry.distance = 1)).map ZoneEntry.addr ++
            attached) } := by
  have hosted (zone : ZoneTable) (adjacency : OrderedMap Address (List Address)) :=
    (attached_loop { zone with adjacency := adjacency } now me src neighbor attached).trans
      (mergeAll_adjacency zone now _ adjacency)
  have advertised (zone : ZoneTable) (adjacency : OrderedMap Address (List Address)) :=
    (entries_loop { zone with adjacency := adjacency } now me src neighbor entries).trans
      (mergeAll_adjacency zone now _ adjacency)
  have merged : ((table.merge now (directOffer now src neighbor)).mergeAll now ((attached.filter
        (fun addr => addr ≠ me)).map (attachedOffer now src neighbor))).mergeAll now
          ((entries.filter (inReach table.radius me)).map (entryOffer now src neighbor)) =
      table.mergeAll now (table.beaconOffers now me src neighbor entries attached) := by
    simp only [mergeAll, beaconOffers, foldl_cons, foldl_append]
  have links : (table.merge now (directOffer now src neighbor)).adjacency = table.adjacency := by
    rw [merge_eq]
    split
    · rfl
    · rfl
  have unfolded : table.updateFromBeacon now me neighbors src entries attached =
      let direct := table.merge now (directOffer now src neighbor)
      let adjacent := (entries.filter (fun entry => entry.distance = 1)).map
        ZoneEntry.addr ++ attached
      let linked := { direct with adjacency := direct.adjacency.insert src adjacent }
      let hosted := attached.foldl (fun zone addr => if addr = me then zone
        else zone.merge now (attachedOffer now src neighbor addr)) linked
      let merged := entries.foldl (fun zone entry => if entry.addr = me then zone
        else if min (entry.distance.toNat + 1) 255 > zone.radius.toNat then zone
        else zone.merge now (entryOffer now src neighbor entry)) hosted
      { merged with nodes := enforceBound merged.maxEntries merged.nodes.size merged.nodes } := by
    unfold updateFromBeacon
    rw [known]
    rfl
  rw [unfolded]
  simp only
  rw [hosted, advertised]
  simp only [mergeAll_radius, merge_radius, merged, links]
  rw [absorbed, mergeAll_rest]

/-! ## The bound -/

/-- Enforcing the bound only deletes entries. -/
theorem enforceBound_get {maxEntries fuel : Nat} {nodes : OrderedMap Address ZoneNode}
    {addr : Address} {known : ZoneNode}
    (found : (enforceBound maxEntries fuel nodes).get addr = some known) :
    nodes.get addr = some known := by
  induction fuel generalizing nodes with
  | zero => exact found
  | succ fuel ih =>
    unfold enforceBound at found
    split at found
    · split at found
      · have kept := ih found
        rw [get_remove] at kept
        split at kept
        · cases kept
        · exact kept
      · exact found
    · exact found

/-- A table within its bound is left alone. -/
theorem enforceBound_fits {maxEntries : Nat} {nodes : OrderedMap Address ZoneNode}
    (fits : nodes.size ≤ maxEntries) (fuel : Nat) : enforceBound maxEntries fuel nodes = nodes := by
  cases fuel with
  | zero => rfl
  | succ fuel =>
    unfold enforceBound
    rw [if_neg (Nat.not_lt.mpr fits)]

/-- After a beacon, an entry is an old one or an offer of the beacon. -/
theorem updateFromBeacon_origin {table : ZoneTable} {now : Nat} {me src addr : Address}
    {neighbors : NeighborTable} {neighbor : Neighbor} {known : ZoneNode}
    {entries : List ZoneEntry} {attached : List Address}
    (present : neighbors.get src = some neighbor)
    (found : (table.updateFromBeacon now me neighbors src entries attached).get addr = some known) :
    table.get addr = some known ∨
      known ∈ table.beaconOffers now me src neighbor entries attached ∧ known.addr = addr := by
  rw [updateFromBeacon_eq table now me present, get] at found
  have merged := enforceBound_get found
  rw [absorbed, mergeAll_get table now (table.beaconOffers_through now me src neighbor entries
    attached)] at merged
  split at merged
  · obtain ⟨member, same⟩ := mem_filter.mp (mem_of_getLast? merged)
    exact .inr ⟨member, by simpa using same⟩
  · exact .inl merged

/-! ## What holds in every table -/

/-- Entries are filed under their address, none is this node, and an entry at distance one
is its own next hop. -/
structure Sound (table : ZoneTable) (me : Address) : Prop where
  keyed : ∀ addr known, table.get addr = some known → known.addr = addr
  foreign : table.get me = none
  placed : ∀ addr known, table.get addr = some known →
    known.distance = 1 ∧ known.nextHop = addr ∨ 2 ≤ known.distance

theorem new_sound (radius : UInt8) (maxEntries entryTtlMs : Nat) (me : Address) :
    (new radius maxEntries entryTtlMs).Sound me := ⟨nofun, rfl, nofun⟩

/-- Keeping some of the entries. -/
theorem Sound.ofFewer {table fewer : ZoneTable} {me : Address} (sound : table.Sound me)
    (included : ∀ addr known, fewer.get addr = some known → table.get addr = some known) :
    fewer.Sound me := by
  refine ⟨?_, ?_, ?_⟩
  · intro addr known found
    exact sound.keyed addr known (included addr known found)
  · cases found : fewer.get me with
    | none => rfl
    | some known =>
      cases sound.foreign.symm.trans (included me known found)
  · intro addr known found
    exact sound.placed addr known (included addr known found)

theorem removeVia_included {table : ZoneTable} {neighbor addr : Address} {known : ZoneNode}
    (found : (table.removeVia neighbor).get addr = some known) :
    table.get addr = some known ∧ known.nextHop ≠ neighbor := by
  obtain ⟨kept, other⟩ := (get_retain_eq_some_iff _).mp found
  exact ⟨kept, by simpa using other⟩

theorem expire_included {table : ZoneTable} {now : Nat} {addr : Address} {known : ZoneNode}
    (found : (table.expire now).get addr = some known) : table.get addr = some known :=
  ((get_retain_eq_some_iff _).mp found).1

/-- The distance of an advertised node, one hop farther. -/
theorem entryOffer_distance (entry : ZoneEntry) :
    (entryOffer now src neighbor entry).distance.toNat = min (entry.distance.toNat + 1) 255 := by
  simp only [entryOffer, UInt8.toNat_ofNat']
  omega

/-- An advertised node is at least two hops away. -/
theorem entryOffer_far {entry : ZoneEntry}
    (apart : entry.distance ≠ 0) : 2 ≤ (entryOffer now src neighbor entry).distance := by
  have positive : 0 < entry.distance.toNat := by
    rw [Ne, ← UInt8.toNat_inj] at apart
    exact Nat.pos_of_ne_zero apart
  rw [UInt8.le_iff_toNat_le, entryOffer_distance]
  change 2 ≤ _
  omega

/-- A beacon with advertised distances of at least one keeps a table sound. -/
theorem Sound.updateFromBeacon {table : ZoneTable} {me src : Address} (sound : table.Sound me)
    (now : Nat) (neighbors : NeighborTable) {entries : List ZoneEntry} (attached : List Address)
    (other : src ≠ me) (apart : ∀ entry ∈ entries, entry.distance ≠ 0) :
    (table.updateFromBeacon now me neighbors src entries attached).Sound me := by
  cases present : neighbors.get src with
  | none =>
    have same : table.updateFromBeacon now me neighbors src entries attached = table := by
      unfold ZoneTable.updateFromBeacon
      rw [present]
    rw [same]
    exact sound
  | some neighbor =>
    have offered : ∀ offer ∈ table.beaconOffers now me src neighbor entries attached,
        offer.addr ≠ me ∧ (offer.distance = 1 ∧ offer.nextHop = offer.addr ∨
          2 ≤ offer.distance) := by
      intro offer member
      rcases mem_cons.mp member with rfl | later
      · exact ⟨other, .inl ⟨rfl, rfl⟩⟩
      · rcases mem_append.mp later with hosted | advertised
        · obtain ⟨addr, inside, rfl⟩ := mem_map.mp hosted
          have foreign : addr ≠ me := by simpa using (mem_filter.mp inside).2
          exact ⟨foreign, .inr (show (2 : UInt8) ≤ 2 by decide)⟩
        · obtain ⟨entry, inside, rfl⟩ := mem_map.mp advertised
          obtain ⟨listed, reached⟩ := mem_filter.mp inside
          simp only [inReach, Bool.and_eq_true, decide_eq_true_eq] at reached
          exact ⟨reached.1, .inr (entryOffer_far now src neighbor (apart entry listed))⟩
    refine ⟨?_, ?_, ?_⟩
    · intro addr known found
      rcases updateFromBeacon_origin present found with old | ⟨_, filed⟩
      · exact sound.keyed addr known old
      · exact filed
    · cases found : (table.updateFromBeacon now me neighbors src entries attached).get me with
      | none => rfl
      | some known =>
        rcases updateFromBeacon_origin present found with old | ⟨member, filed⟩
        · cases sound.foreign.symm.trans old
        · exact absurd filed (offered known member).1
    · intro addr known found
      rcases updateFromBeacon_origin present found with old | ⟨member, filed⟩
      · exact sound.placed addr known old
      · rw [← filed]
        exact (offered known member).2

end ZoneTable

end MeshStar

import MeshStar.Node.Handling

/-!
# The terrain along a step

The effects of the handlers of every packet but a beacon, of the timers before
housekeeping and of every application call contain no survey, so they leave the terrain of
a node alone. What remains are the two ways in which it changes: a beacon enters its
sender into the neighbour table and its advertisement into the zone, and housekeeping
expires zone entries and drops silent neighbours.
-/

namespace MeshStar

open OrderedMap

variable [Primitives]

namespace Node

variable (node : Node) (packet : Packet) (rxMeta : RxMeta) (src : Address) (now : Nat)

/-- A packet that is no beacon leaves the terrain alone. -/
theorem onPacket_terrain (foreign : packet.header.src ≠ node.address)
    (heard : node.Heard packet.header) (kind : packet.header.ptype ≠ .beacon) :
    (node.onPacket packet rxMeta now).terrain = node.terrain := by
  have reception := node.onPacket_reception packet rxMeta now
  generalize node.onPacket packet rxMeta now = after at reception ⊢
  cases reception with
  | quiet _ quiet => exact terrain_of_bearings (quiet False).bearings
  | beacon _ _ beacon => exact absurd beacon kind
  | notice active quiet noticed =>
    have moved : Moves False _ active _ := onNoSessionNotice_moves active packet.header.src now
    exact (moved.terrain (by decide)).trans (terrain_of_bearings (quiet False).bearings)
  | dispatch ready quiet arrived =>
    have prepared : Reroutes False node ready := quiet False
    have moved : Moves False Effects.handling ready _ := dispatch_moves ready packet
      (node.transmitterOf packet) rxMeta now (by rw [Moves.address prepared]; exact foreign)
      (Moves.heard prepared heard) False.elim False.elim
    exact (moved.terrain (by decide)).trans (Moves.terrain prepared (by decide))

/-- Nothing in a housekeeping pass after the expiry of caches and neighbours changes the
bearings. -/
theorem housekeeping_bearings : (node.housekeeping now).bearings =
      ((node.expireCaches now).expireNeighbors now).bearings := by
  let expired := (node.expireCaches now).expireNeighbors now
  have sessions : Moves False [.silent, .rekey, .close, .report] expired
      (node.housekeepingSessions now) :=
    ((expireSessions_moves expired now).mono (by decide)).trans
      ((rekeySessions_moves _ now).mono (by decide))
  have early : Moves False (.silent :: .rekey :: .close :: .report :: .envelopes :: .collect ::
      Effects.serving) expired (node.housekeepingEarly now) :=
    ((sessions.mono (by decide)).trans ((discoverKeys_quiet _ now).moves (by decide))).trans
      ((expireEnvelopes_moves _ now).mono (by decide))
  have served := early.trans ((serveMailbox_moves _ now).mono (by decide))
  have queued : Quiet False ((node.housekeepingEarly now).serveMailbox now)
      (node.housekeeping now) := expireQueues_quiet _ now
  exact queued.bearings.trans (Moves.bearings served (by decide))

/-- No application call changes the terrain. -/
theorem call_terrain {node : Node} {operation : Operation} (call : operation.isCall = true) :
    (node.step operation).terrain = node.terrain :=
  (call_moves node call : Moves False _ _ _).terrain (by decide)

/-! ## Beacons -/

/-- The node that has noted the transmitter of a beacon. -/
def listening (node : Node) (frame : Bytes) (rxMeta : RxMeta) (packet : Packet) : Node :=
  let receiver := node.noted frame rxMeta packet
  receiver.hear (receiver.transmitterOf packet) rxMeta (max node.now rxMeta.timestampMs)

variable (frame : Bytes)

theorem listening_quiet (rxMeta : RxMeta) (packet : Packet) :
    Quiet False (node.noted frame rxMeta packet) (node.listening frame rxMeta packet) :=
  hear_quiet _ _ _ _

theorem listening_terrain (rxMeta : RxMeta) (packet : Packet) :
    (node.listening frame rxMeta packet).terrain = node.terrain :=
  (terrain_of_bearings (node.listening_quiet frame rxMeta packet).bearings).trans rfl

theorem listening_address (rxMeta : RxMeta) (packet : Packet) :
    (node.listening frame rxMeta packet).address = node.address :=
  (node.listening_quiet frame rxMeta packet).address

/-- The beacon a received frame carries, with its packet. -/
def beaconIn (node : Node) (frame : Bytes) : Option (Packet × Beacon) :=
  match node.incoming frame with
  | none => none
  | some packet =>
    if packet.header.ptype = .beacon then
      match Beacon.decode packet.payload with
      | .error _ => none
      | .ok beacon => some (packet, beacon)
    else none

theorem noteBeacon_terrain (beacon : Beacon) (now : Nat) :
    (node.noteBeacon src beacon now).terrain =
      (node.zone.updateFromBeacon now node.address node.neighbors src beacon.zone beacon.attached,
        node.neighbors.sight) := by
  let zoned := { node with zone :=
    node.zone.updateFromBeacon now node.address node.neighbors src beacon.zone beacon.attached }
  have learned : Reroutes False zoned ((zoned.linkCostTo src).1.learnRoute src src 1
      (zoned.linkCostTo src).2 .zone none now) :=
    Trail.trans (linkCostTo_quiet zoned src).reroutes (learnRoute_reroutes _ _)
  exact Moves.terrain (learned.trans (hastenBeacon_quiet _ beacon now)) (by decide)

theorem reactToBeacon_terrain (beacon : Beacon) (now : Nat) :
    (node.reactToBeacon src beacon now).terrain = node.terrain :=
  (reactToBeacon_seals node src beacon now False.elim : Seals False _ _ _).moves.terrain (by decide)

/-- A beacon that is believed changes the neighbour table by its observation and the zone
by its advertisement, which is judged by a table with the same neighbours. -/
theorem handleBeacon_terrain {node : Node} {packet : Packet} {beacon : Beacon} {rxMeta : RxMeta}
    {now : Nat} (decoded : Beacon.decode packet.payload = .ok beacon)
    (believed : (node.neighbors.observeBeaconAs now packet.header.src beacon rxMeta
      (some node.address)).2.identityRejected = false) :
    ∃ judged : NeighborTable, judged.sight = (node.neighbors.observeBeaconAs now packet.header.src
        beacon rxMeta (some node.address)).1.sight ∧
      (node.handleBeacon packet rxMeta now).terrain =
        (node.zone.updateFromBeacon now node.address judged packet.header.src beacon.zone
          beacon.attached, judged.sight) := by
  have moved : Seals False Effects.learning _ _ := welcome_seals
    { node with neighbors := (node.neighbors.observeBeaconAs now packet.header.src beacon rxMeta
      (some node.address)).1 } packet.header.src (node.neighbors.observeBeaconAs now
        packet.header.src beacon rxMeta (some node.address)).2 now
    (fun verified identity known => NeighborTable.observeBeaconAs_identity verified known)
  have address := moved.moves.address
  have welcomed := moved.moves.terrain (by decide)
  unfold handleBeacon
  simp only [decoded, believed, Bool.false_eq_true, if_false]
  clear moved
  generalize node.neighbors.observeBeaconAs now packet.header.src beacon rxMeta
    (some node.address) = observed at address welcomed
  generalize welcome { node with neighbors := observed.1 } packet.header.src observed.2 now = met
    at welcomed address
  refine ⟨met.neighbors, sight_of_terrain welcomed, ?_⟩
  rw [reactToBeacon_terrain, noteBeacon_terrain, zone_of_terrain welcomed, address]
  rfl

end Node

namespace NeighborTable

/-- The neighbour that has to go when a beacon of `src` arrives: the worst link of a full
table, when the sender is unknown and the link is bad enough. -/
def evicted (table : NeighborTable) (src : Address) : Option Address :=
  if table.contains src || table.size < table.cfg.maxNeighbors then none
  else
    ((Selection.firstMinBy (fun neighbor => neighbor.linkQuality.toNat) table.map.values).filter
      (fun worst => worst.linkQuality < 64)).map Neighbor.addr

/-- A beacon entered its sender under the beacon's role, and evicted at most one other. -/
structure Admits (table after : NeighborTable) (src : Address) (role : Role) : Prop where
  entered : ∃ addr, after.sight src = some (addr, role) ∧ (table.sight src = none → addr = src) ∧
    ∀ who, table.sight src = some who → addr = who.1
  others : ∀ addr, addr ≠ src → after.sight addr =
    if table.evicted src = some addr then none else table.sight addr

/-- A believed beacon enters its sender, unless there is no room; a rejected one changes
nothing. -/
def Judges (table : NeighborTable) (src : Address) (role : Role)
    (result : NeighborTable × BeaconObservation) : Prop :=
  (result.2.identityRejected = true ∧ result.1.sight = table.sight) ∨
    (result.2.identityRejected = false ∧
      ((table.sight src = none ∧ result.1.sight = table.sight) ∨ table.Admits result.1 src role))

section

omit [Primitives]

variable (table : NeighborTable)

theorem sight_eq_none_iff (addr : Address) :
    table.sight addr = none ↔ table.contains addr = false := by
  unfold sight get contains OrderedMap.contains
  cases table.map.get addr with
  | none => simp
  | some neighbor => simp

/-- Who is known after an entry was written. -/
theorem insert_sight (map : OrderedMap Address Neighbor) (src addr : Address) (fresh : Neighbor) :
    { table with map := map.insert src fresh }.sight addr =
      if addr = src then some (fresh.addr, fresh.role) else
        { table with map := map }.sight addr := by
  unfold sight get
  simp only [get_insert, KeyRank.rank_eq_iff]
  split
  · rfl
  · rfl

/-- Who is known after an entry was deleted. -/
theorem remove_sight (gone addr : Address) :
    { table with map := table.map.remove gone }.sight addr =
      if addr = gone then none else table.sight addr := by
  unfold sight get
  simp only [get_remove, KeyRank.rank_eq_iff]
  split
  · rfl
  · rfl

/-- Making room keeps everybody but the evicted neighbour. -/
theorem reserve_sight {table reserved : NeighborTable} {now : Nat} {src : Address}
    {beacon : Beacon} {rxMeta : RxMeta} {isNew : Bool}
    (room : table.reserve now src beacon rxMeta = some (reserved, isNew)) :
    (table.sight src = none → reserved.sight src = some (src, beacon.role)) ∧
      (∀ who, table.sight src = some who → reserved.sight src = some who) ∧
      ∀ addr, addr ≠ src → reserved.sight addr =
        if table.evicted src = some addr then none else table.sight addr := by
  unfold reserve at room
  by_cases known : table.map.contains src = true
  · rw [if_pos known] at room
    cases room
    have spared : table.evicted src = none := by
      simp only [evicted, contains, known, Bool.true_or, if_true]
    refine ⟨fun absent => ?_, fun _ found => found, fun addr _ => ?_⟩
    · rw [sight_eq_none_iff, contains, known] at absent
      cases absent
    · rw [spared, if_neg nofun]
  · rw [if_neg known] at room
    have absent : table.sight src = none := by
      rw [sight_eq_none_iff]
      exact Bool.eq_false_iff.mpr known
    have unknown : table.contains src = false := Bool.eq_false_iff.mpr known
    suffices added : ∃ map fresh, reserved = { table with map := map.insert src fresh } ∧
        (fresh.addr, fresh.role) = (src, beacon.role) ∧ ∀ addr,
          { table with map := map }.sight addr =
          if table.evicted src = some addr then none else table.sight addr by
      obtain ⟨map, fresh, rfl, named, others⟩ := added
      refine ⟨fun _ => ?_, fun who found => ?_, fun addr other => ?_⟩
      · rw [insert_sight, if_pos rfl, named]
      · cases absent.symm.trans found
      · rw [insert_sight, if_neg other, others]
    simp only at room
    split at room
    · rename_i crowded
      have full : ¬table.size < table.cfg.maxNeighbors := Nat.not_lt.mpr crowded
      split at room
      · rename_i worst found
        split at room
        · rename_i bad
          cases room
          have gone : table.evicted src = some worst.addr := by
            simp only [evicted, unknown, full, found, Option.filter, bad, decide_true, decide_false,
              Bool.or_self, Bool.false_eq_true, if_false, if_true, Option.map_some]
          refine ⟨_, _, rfl, rfl, fun addr => ?_⟩
          rw [remove_sight, gone]
          simp only [Option.some.injEq, eq_comm]
        · cases room
      · rename_i nobody
        cases room
        have spared : table.evicted src = none := by
          simp only [evicted, unknown, full, nobody, Option.filter, decide_false, Bool.or_self,
            Bool.false_eq_true, if_false, Option.map_none]
        exact ⟨_, _, rfl, rfl, fun addr => by rw [spared, if_neg nofun]⟩
    · rename_i roomy
      cases room
      have spared : table.evicted src = none := by
        have fits : table.size < table.cfg.maxNeighbors := Nat.not_le.mp roomy
        simp only [evicted, unknown, fits, decide_true, Bool.or_true, if_true]
      exact ⟨_, _, rfl, rfl, fun addr => by rw [spared, if_neg nofun]⟩

/-- A new entry has no identity yet. -/
theorem reserve_identity {table reserved : NeighborTable} {now : Nat} {src : Address}
    {beacon : Beacon} {rxMeta : RxMeta} {isNew : Bool}
    (room : table.reserve now src beacon rxMeta = some (reserved, isNew))
    (absent : table.sight src = none) : (reserved.get src).bind Neighbor.identity = none := by
  have unknown : ¬table.map.contains src = true := by
    rw [sight_eq_none_iff] at absent
    exact Bool.eq_false_iff.mp absent
  have inserted (map : OrderedMap Address Neighbor) (fresh : Neighbor)
      (unproved : fresh.identity = none) :
      (NeighborTable.get { table with map := map.insert src fresh } src).bind Neighbor.identity =
        none := by
    simp only [get, get_insert_self, Option.bind_some, unproved]
  unfold reserve at room
  rw [if_neg unknown] at room
  simp only at room
  split at room
  · split at room
    · split at room
      · cases room
        exact inserted _ _ rfl
      · cases room
    · cases room
      exact inserted _ _ rfl
  · cases room
    exact inserted _ _ rfl

/-- A beacon without a contradicted identity enters its sender, unless there is no room. -/
theorem observeVerified_sight {now : Nat} {src : Address} {beacon : Beacon} {rxMeta : RxMeta}
    {me : Option Address} {verified : Option PublicIdentity} :
    table.Judges src beacon.role (table.observeVerified now src beacon rxMeta me verified) := by
  unfold observeVerified
  cases room : table.reserve now src beacon rxMeta with
  | none =>
    refine .inr ⟨rfl, .inl ⟨?_, rfl⟩⟩
    simp only [sight, get_of_reserve_none room, Option.map_none]
  | some outcome =>
    obtain ⟨reserved, isNew⟩ := outcome
    obtain ⟨entered, kept, others⟩ := reserve_sight room
    simp only
    split
    · -- A known identity belongs to an old entry, hence nobody was evicted for it.
      rename_i impostor
      refine .inl ⟨rfl, ?_⟩
      cases found : table.sight src with
      | none =>
        rw [reserve_identity room found] at impostor
        cases impostor.1
      | some who =>
        have spared : table.evicted src = none := by
          have known : table.contains src = true := by
            cases known : table.contains src with
            | true => rfl
            | false =>
              rw [(table.sight_eq_none_iff src).mpr known] at found
              cases found
          simp only [evicted, known, Bool.true_or, if_true]
        funext addr
        by_cases same : addr = src
        · rw [same, kept who found, found]
        · rw [others addr same, spared, if_neg (by simp)]
    · refine .inr ⟨rfl, .inr ⟨?_, ?_⟩⟩
      · have refreshed : ∀ who, reserved.sight src = some who →
            (reserved.modify src (refresh reserved.cfg now beacon rxMeta me verified)).sight src =
              some (who.1, beacon.role) := by
          intro who found
          unfold sight get at found
          unfold sight get modify
          rw [get_modify_self, Option.map_map]
          obtain ⟨neighbor, present, same⟩ := Option.map_eq_some_iff.mp found
          -- a beacon changes the role of its sender, not the address
          have counted (updated : Neighbor) : (countBeacon updated beacon.seq).addr = updated.addr ∧
              (countBeacon updated beacon.seq).role = updated.role := by
            simp only [countBeacon]
            repeat' split
            all_goals exact ⟨rfl, rfl⟩
          rw [present, Option.map_some, Function.comp_apply]
          change some ((countBeacon _ beacon.seq).addr, (countBeacon _ beacon.seq).role) = _
          rw [(counted _).1, (counted _).2, ← same]
        cases found : table.sight src with
        | none =>
          exact ⟨src, refreshed _ (entered found), fun _ => rfl, by simp⟩
        | some who =>
          refine ⟨who.1, refreshed who (kept who found), by simp, ?_⟩
          intro other same
          rw [Option.some.inj same]
      · intro addr other
        rw [← others addr other]
        unfold sight get modify
        rw [get_modify_of_ne _ _ other]

end

/-- A beacon whose identity does not verify is rejected. -/
theorem observeBeaconAs_sight (table : NeighborTable) (now : Nat) (src : Address) (beacon : Beacon)
    (rxMeta : RxMeta) (me : Option Address) :
    table.Judges src beacon.role (table.observeBeaconAs now src beacon rxMeta me) := by
  unfold observeBeaconAs
  split
  · exact observeVerified_sight _
  · split
    · exact .inl ⟨rfl, rfl⟩
    · exact observeVerified_sight _

end NeighborTable

namespace Node

/-- What a received beacon does to the terrain: nothing, or its sender is entered and its
advertisement merged, judged by the neighbours as they are afterwards. -/
inductive Heeds (node : Node) (now : Nat) (src : Address) (beacon : Beacon)
    (table : NeighborTable) (after : Node) : Prop where
  | ignored (same : after.terrain = node.terrain)
  | admitted (judged : NeighborTable) (admits : table.Admits judged src beacon.role)
      (zone : after.zone = node.zone.updateFromBeacon now node.address judged src beacon.zone
        beacon.attached)
      (sight : after.neighbors.sight = judged.sight)

/-- A decoded beacon is ignored or heeded. -/
theorem handleBeacon_heeds {node : Node} {packet : Packet} {beacon : Beacon} (rxMeta : RxMeta)
    {now : Nat} (decoded : Beacon.decode packet.payload = .ok beacon) :
    node.Heeds now packet.header.src beacon node.neighbors
      (node.handleBeacon packet rxMeta now) := by
  rcases node.neighbors.observeBeaconAs_sight now packet.header.src beacon rxMeta
      (some node.address) with ⟨rejected, same⟩ | ⟨believed, outcome⟩
  · apply Heeds.ignored
    unfold handleBeacon
    simp only [decoded, rejected, if_true]
    exact terrain_of_bearings (bearings_of_sight node same)
  · obtain ⟨judged, sameSight, terrain⟩ := handleBeacon_terrain decoded believed
    rcases outcome with ⟨unknown, same⟩ | admits
    · apply Heeds.ignored
      have unseen : judged.sight packet.header.src = none := by
        rw [sameSight, same]
        exact unknown
      have absent : judged.get packet.header.src = none := Option.map_eq_none_iff.mp unseen
      rw [terrain, ZoneTable.updateFromBeacon, absent, sameSight, same]
      rfl
    · refine Heeds.admitted judged ⟨?_, ?_⟩ (congrArg Prod.fst terrain) (congrArg Prod.snd terrain)
      · rw [sameSight]
        exact admits.entered
      · rw [sameSight]
        exact admits.others

variable (node : Node) (time : Nat)

/-- A received frame changes the terrain at most by the beacon it carries. -/
theorem receive_terrain (frame : Bytes) (rxMeta : RxMeta) :
    (node.beaconIn frame = none ∧ (node.onRadioRx frame rxMeta).terrain = node.terrain) ∨
    ∃ packet beacon, node.beaconIn frame = some (packet, beacon) ∧
      (node.listening frame rxMeta packet).Heeds (node.clock rxMeta)
        packet.header.src beacon (node.listening frame rxMeta packet).neighbors
        (node.onRadioRx frame rxMeta) := by
  rcases node.onRadioRx_cases frame rxMeta with ⟨unheard, quiet⟩ | ⟨packet, heard, foreign, _, _⟩
  · left
    refine ⟨?_, Moves.terrain (quiet False) (by decide)⟩
    simp only [beaconIn, unheard]
  · rw [onRadioRx_incoming heard]
    by_cases kind : packet.header.ptype = .beacon
    · have handled : (node.noted frame rxMeta packet).onPacket packet rxMeta
          (node.clock rxMeta) = (node.listening frame rxMeta packet).handleBeacon
            packet rxMeta (node.clock rxMeta) := by
        unfold onPacket
        simp only [if_pos kind]
        rfl
      rw [handled]
      cases decoded : Beacon.decode packet.payload with
      | error _ =>
        left
        refine ⟨by simp only [beaconIn, heard, if_pos kind, decoded], ?_⟩
        unfold handleBeacon
        simp only [decoded]
        exact listening_terrain _ _ _ _
      | ok beacon =>
        right
        refine ⟨packet, beacon, ?_, handleBeacon_heeds rxMeta decoded⟩
        simp only [beaconIn, heard, if_pos kind, decoded]
    · left
      refine ⟨by simp only [beaconIn, heard, if_neg kind], ?_⟩
      exact onPacket_terrain (node.noted frame rxMeta packet) packet rxMeta _ foreign
        ⟨packet, List.mem_append_right _ List.mem_cons_self, rfl⟩ kind

/-! ## Polls -/

/-- The node at the end of the timers of a poll, before its housekeeping. -/
def ticked (node : Node) (time : Nat) : Node :=
  (node.powered time).pollTimers (max node.now time)

theorem powered_terrain : (node.powered time).terrain = node.terrain :=
  Moves.terrain (node.powered_moves time : Moves False _ _ _) (by decide)

theorem ticked_terrain : (node.ticked time).terrain = node.terrain := by
  have timed : Moves False Effects.ticking (node.powered time) (node.ticked time) :=
    pollTimers_moves _ _ False.elim
  exact (timed.terrain (by decide)).trans (node.powered_terrain time)

/-- A poll leaves the terrain alone unless it includes a housekeeping pass. -/
theorem poll_terrain : (node.poll time).terrain = node.terrain ∨
      node.poll time = (node.ticked time).housekeeping (max node.now time) := by
  unfold poll
  simp only
  split
  · exact .inl (powered_terrain node time)
  · unfold pollAwake
    simp only
    split
    · exact .inr rfl
    · exact .inl (node.ticked_terrain time)

end Node

end MeshStar

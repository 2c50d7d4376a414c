import MeshStar.Node.Accounting
import MeshStar.Node.Terrain

/-!
# What a node does when it loses a neighbour

A neighbour leaves the table in two ways: housekeeping drops it after a long silence,
or the beacon of a newcomer evicts it from a full table. The first way reports the loss
and removes everything that led through the neighbour. The second does neither, hence
the promise holds in every run in which no beacon evicts anybody.
-/

namespace MeshStar

open List OrderedMap

open NeighborTable (sight_eq_none_iff)

variable [Primitives]

namespace RouteCache

omit [Primitives] in
/-- A destination whose routes avoid a next hop. -/
theorem hops_avoid {cache : RouteCache} {dst addr : Address} :
    (∀ entries, cache.routes.get dst = some entries → ∀ entry ∈ entries, entry.nextHop ≠ addr) ↔
      ∀ hops, cache.hops dst = some hops → addr ∉ hops := by
  constructor
  · intro avoids hops found member
    obtain ⟨entries, present, rfl⟩ := Option.map_eq_some_iff.mp found
    obtain ⟨entry, inside, same⟩ := mem_map.mp member
    exact avoids entries present entry inside same
  · intro avoids entries present entry inside same
    apply avoids (entries.map RouteEntry.nextHop)
    · rw [hops, present]
      rfl
    · exact mem_map.mpr ⟨entry, inside, same⟩

omit [Primitives] in
/-- Invalidation keeps some of the routes, none of them through the lost next hop. -/
theorem invalidateVia_get {cache : RouteCache} {lost dst : Address} {entries : List RouteEntry}
    (found : (cache.invalidateVia lost).1.routes.get dst = some entries) :
    ∃ earlier, cache.routes.get dst = some earlier ∧
      ∀ entry ∈ entries, entry ∈ earlier ∧ entry.nextHop ≠ lost := by
  unfold invalidateVia at found
  simp only [get_retain_eq_some_iff, get_mapValues] at found
  obtain ⟨earlier, present, rfl⟩ := Option.map_eq_some_iff.mp found.1
  refine ⟨earlier, present, ?_⟩
  intro entry member
  obtain ⟨inside, other⟩ := mem_filter.mp member
  exact ⟨inside, by simpa using other⟩

end RouteCache

namespace Node

/-- Nothing a node knows leads through an address any more. -/
structure Forgets (node : Node) (addr : Address) : Prop where
  zone : ∀ dst known, node.zone.get dst = some known → known.nextHop ≠ addr
  routes : ∀ dst entries, node.routes.routes.get dst = some entries →
    ∀ entry ∈ entries, entry.nextHop ≠ addr
  anchor : node.attachedAnchor ≠ some addr

/-- In between, an event was handed to the event queue, which drops it only when full. -/
def Announces (before after : Node) (event : NodeEvent) : Prop :=
  ∃ earlier, before.events <+: earlier ∧ Core.pushEvent earlier event <+: after.events

/-- Every neighbour that is gone was reported as lost and is forgotten. -/
def LossHandled (before after : Node) : Prop :=
  ∀ addr, before.neighbors.contains addr = true → after.neighbors.contains addr = false →
    before.Announces after (.neighborDown addr) ∧ after.Forgets addr

variable {before after : Node} {addr : Address}

section

omit [Primitives]

/-- Only the bearings matter for what is forgotten. -/
theorem Forgets.ofBearings (forgets : before.Forgets addr)
    (same : after.bearings = before.bearings) : after.Forgets addr := by
  have zone : after.zone = before.zone := zone_of_terrain (terrain_of_bearings same)
  have hops : after.routes.hops = before.routes.hops := congrArg (fun view => view.2.1) same
  have anchor : after.attachedAnchor = before.attachedAnchor :=
    congrArg (fun view => view.2.2.1) same
  refine ⟨?_, ?_, ?_⟩
  · rw [zone]
    exact forgets.zone
  · intro dst
    rw [RouteCache.hops_avoid, hops]
    exact RouteCache.hops_avoid.mp (forgets.routes dst)
  · rw [anchor]
    exact forgets.anchor

/-- Fewer zone entries, fewer routes and no new attachment forget no less. -/
theorem Forgets.ofFewer (forgets : before.Forgets addr)
    (zone : ∀ dst known, after.zone.get dst = some known → before.zone.get dst = some known)
    (routes : ∀ dst entries, after.routes.routes.get dst = some entries →
      ∃ earlier, before.routes.routes.get dst = some earlier ∧ ∀ entry ∈ entries, entry ∈ earlier)
    (anchor : after.attachedAnchor = before.attachedAnchor ∨ after.attachedAnchor = none) :
    after.Forgets addr := by
  refine ⟨?_, ?_, ?_⟩
  · intro dst known found
    exact forgets.zone dst known (zone dst known found)
  · intro dst entries found entry member
    obtain ⟨earlier, present, included⟩ := routes dst entries found
    exact forgets.routes dst earlier present entry (included entry member)
  · rcases anchor with same | detached
    · rw [same]
      exact forgets.anchor
    · rw [detached]
      nofun

/-- What was announced in between was announced in a longer span as well. -/
theorem Announces.widen {first last : Node} {event : NodeEvent}
    (announces : before.Announces after event) (earlier : first.events <+: before.events)
    (later : after.events <+: last.events) : first.Announces last event := by
  obtain ⟨moment, since, pushed⟩ := announces
  exact ⟨moment, earlier.trans since, pushed.trans later⟩

end

/-- A node without anything that leads through an address. -/
def severed (node : Node) (addr : Address) : Node :=
  { node with
    zone := node.zone.removeVia addr
    routes := (node.routes.invalidateVia addr).1
    attachedAnchor := if node.attachedAnchor = some addr then none else node.attachedAnchor }

section

omit [Primitives]

/-- Losing a neighbour severs it. -/
theorem onNeighborLost_bearings (node : Node) (addr : Address) :
    (node.onNeighborLost addr).bearings = (node.severed addr).bearings := by
  have bearings : (node.emit (.neighborDown addr)).bearings = node.bearings := (node.emit_frame _).2
  have zone : (node.emit (.neighborDown addr)).zone = node.zone :=
    zone_of_terrain (terrain_of_bearings bearings)
  have routes : (node.emit (.neighborDown addr)).routes = node.routes := by
    unfold emit
    split
    · rfl
    · rfl
  have anchor : (node.emit (.neighborDown addr)).attachedAnchor = node.attachedAnchor :=
    congrArg (fun view => view.2.2.1) bearings
  have sight : (node.emit (.neighborDown addr)).neighbors.sight = node.neighbors.sight :=
    sight_of_terrain (terrain_of_bearings bearings)
  have rested : (node.emit (.neighborDown addr)).rest = node.rest := rest_of_bearings bearings
  unfold onNeighborLost
  simp only
  generalize node.emit (.neighborDown addr) = announced at zone routes anchor sight rested
  rw [routes, zone]
  generalize isReported : List.foldl emit _ _ = reported
  have reports : reported.bearings = ((node.zone.removeVia addr, node.neighbors.sight),
      (node.routes.invalidateVia addr).1.hops, node.attachedAnchor, node.rest) := by
    rw [← isReported, foldl_same Node.bearings (fun state event => (state.emit_frame event).2)]
    simp only [Node.bearings, terrain, anchor, sight, ← rested]
    rfl
  have host : reported.attachedAnchor = node.attachedAnchor :=
    congrArg (fun view => view.2.2.1) reports
  split
  · rename_i lost
    have detached : (severed node addr).attachedAnchor = none := if_pos (host ▸ lost)
    simp only [Node.bearings, terrain, Prod.mk.injEq] at reports ⊢
    exact ⟨reports.1, reports.2.1, detached.symm, reports.2.2.2⟩
  · rename_i other
    have kept : (severed node addr).attachedAnchor = node.attachedAnchor := if_neg (host ▸ other)
    rw [reports]
    simp only [Node.bearings, terrain, kept]
    rfl

/-- What is severed is forgotten. -/
theorem severed_forgets (node : Node) (addr : Address) : (node.severed addr).Forgets addr := by
  refine ⟨?_, ?_, ?_⟩
  · intro dst known found
    have kept := ((get_retain_eq_some_iff _).mp found).2
    simpa using kept
  · intro dst entries found entry member
    obtain ⟨_, _, avoids⟩ := RouteCache.invalidateVia_get found
    exact (avoids entry member).2
  · unfold severed
    simp only
    split
    · nofun
    · assumption

/-- Severing another address forgets no less. -/
theorem Forgets.severed (forgets : before.Forgets addr) (other : Address) :
    (before.severed other).Forgets addr := by
  apply forgets.ofFewer
  · intro dst known found
    exact ((get_retain_eq_some_iff _).mp found).1
  · intro dst entries found
    obtain ⟨earlier, present, kept⟩ := RouteCache.invalidateVia_get found
    exact ⟨earlier, present, fun entry member => (kept entry member).1⟩
  · unfold Node.severed
    simp only
    split
    · exact .inr rfl
    · exact .inl rfl

end

/-- Events only pile up while neighbours are lost. -/
theorem onNeighborLost_events (node : Node) (addr : Address) :
    node.events <+: (node.onNeighborLost addr).events :=
  Moves.events_prefix (node.onNeighborLost_moves addr) (by decide)

/-- A lost neighbour is announced first. -/
theorem onNeighborLost_announces (node : Node) (addr : Address) :
    node.Announces (node.onNeighborLost addr) (.neighborDown addr) := by
  refine ⟨node.events, prefix_refl _, ?_⟩
  have announced : (node.emit (.neighborDown addr)).events =
      Core.pushEvent node.events (.neighborDown addr) := congrArg Core.events (node.emit_core _)
  rw [← announced]
  unfold onNeighborLost
  simp only
  generalize node.emit (.neighborDown addr) = heralded
  have reports (zone : ZoneTable) (routes : RouteCache) (events : List NodeEvent) :
      heralded.events <+: (events.foldl emit { heralded with
        zone := zone, routes := routes }).events := by
    have moved : Moves False [.report] { heralded with zone := zone, routes := routes } _ :=
      emitAll_moves _ events
    exact moved.events_prefix (by decide)
  split
  · exact reports _ _ _
  · exact reports _ _ _

/-- After a series of losses every lost neighbour is announced and forgotten, and what was
forgotten before still is. -/
theorem losses_handled (lost : List Address) (node : Node) :
    (∀ addr, node.Forgets addr → (lost.foldl onNeighborLost node).Forgets addr) ∧
      node.events <+: (lost.foldl onNeighborLost node).events ∧
      ∀ addr ∈ lost, node.Announces (lost.foldl onNeighborLost node) (.neighborDown addr) ∧
        (lost.foldl onNeighborLost node).Forgets addr := by
  induction lost generalizing node with
  | nil =>
    refine ⟨fun _ forgets => forgets, prefix_refl _, ?_⟩
    intro addr member
    cases member
  | cons head rest ih =>
    obtain ⟨keeps, piles, handles⟩ := ih (node.onNeighborLost head)
    have bearings := node.onNeighborLost_bearings head
    refine ⟨?_, (node.onNeighborLost_events head).trans piles, ?_⟩
    · intro addr forgets
      exact keeps addr ((forgets.severed head).ofBearings bearings)
    · intro addr member
      rcases mem_cons.mp member with same | later
      · rw [same]
        constructor
        · exact (node.onNeighborLost_announces head).widen (prefix_refl _) piles
        · exact keeps head ((node.severed_forgets head).ofBearings bearings)
      · obtain ⟨announces, forgets⟩ := handles addr later
        exact ⟨announces.widen (node.onNeighborLost_events head) (prefix_refl _), forgets⟩

end Node

namespace NeighborTable

omit [Primitives] in
/-- Deleting several entries deletes exactly those. -/
theorem removeAll_get {gone : List Address} (map : OrderedMap Address Neighbor) {addr : Address} :
    (gone.foldl (fun map addr => map.remove addr) map).get addr =
      if addr ∈ gone then none else map.get addr := by
  induction gone generalizing map with
  | nil => simp
  | cons head rest ih =>
    rw [foldl_cons, ih, get_remove]
    by_cases same : addr = head
    · simp [same]
    · simp [same, KeyRank.rank_eq_iff]

omit [Primitives] in
/-- Who leaves the table in an expiry is on the returned list. -/
theorem expire_lost {table : NeighborTable} {now : Nat} {addr : Address}
    (present : table.contains addr = true) (gone : (table.expire now).1.contains addr = false) :
    addr ∈ (table.expire now).2 := by
  by_contra other
  have kept : (table.expire now).1.contains addr = table.contains addr := by
    unfold contains OrderedMap.contains
    rw [show (table.expire now).1.map.get addr =
      if addr ∈ (table.expire now).2 then none else table.map.get addr from removeAll_get _]
    rw [if_neg other]
  rw [kept, present] at gone
  cases gone

end NeighborTable

namespace Node

/-- The check of the neighbours handles every loss. -/
theorem expireNeighbors_handles (node : Node) (now : Nat) :
    node.LossHandled (node.expireNeighbors now) := by
  intro addr present gone
  unfold expireNeighbors at gone ⊢
  split at gone
  · rw [present] at gone
    cases gone
  · rename_i checked
    rw [if_neg checked]
    simp only at gone ⊢
    have each (state : Node) (lost : Address) :
        (state.onNeighborLost lost).neighbors.sight = state.neighbors.sight :=
      (sight_of_terrain (terrain_of_bearings (state.onNeighborLost_bearings lost))).trans rfl
    have sight := foldl_same (fun state => state.neighbors.sight) each
      (node.neighbors.expire now).2 { node with neighbors := (node.neighbors.expire now).1 }
    have left : (node.neighbors.expire now).1.contains addr = false := by
      rw [← sight_eq_none_iff] at gone ⊢
      rw [← gone]
      exact (congrFun sight addr).symm
    obtain ⟨_, _, handles⟩ := losses_handled (node.neighbors.expire now).2
      { node with neighbors := (node.neighbors.expire now).1 }
    exact handles addr (NeighborTable.expire_lost present left)

/-- The events since the check of the neighbours in a housekeeping pass. -/
theorem housekeeping_events (node : Node) (now : Nat) :
    ((node.expireCaches now).expireNeighbors now).events <+: (node.housekeeping now).events := by
  have sessions : Moves False Effects.housekeeping
      ((node.expireCaches now).expireNeighbors now) (node.housekeepingSessions now) :=
    .trans ((expireSessions_moves _ now).mono (by decide))
      ((rekeySessions_moves _ now).mono (by decide))
  have keyed := sessions.trans ((discoverKeys_quiet _ now).moves (by decide))
  have early := keyed.trans ((expireEnvelopes_moves _ now).mono (by decide))
  have served := early.trans ((serveMailbox_moves _ now).mono (by decide))
  have tidied : Moves False Effects.housekeeping _ (node.housekeeping now) :=
    served.trans ((expireQueues_quiet _ now).moves (by decide))
  exact tidied.events_prefix (by decide)

/-- A housekeeping pass handles every loss. -/
theorem housekeeping_handles {node : Node} {now : Nat} :
    node.LossHandled (node.housekeeping now) := by
  have bearings := node.housekeeping_bearings now
  have sight := sight_of_terrain (terrain_of_bearings bearings)
  intro addr present gone
  have left : ((node.expireCaches now).expireNeighbors now).neighbors.contains addr = false := by
    rw [← sight_eq_none_iff] at gone ⊢
    rw [← sight]
    exact gone
  obtain ⟨announces, forgets⟩ := (node.expireCaches now).expireNeighbors_handles now addr
      present left
  exact ⟨announces.widen (prefix_refl _) (node.housekeeping_events now),
    forgets.ofBearings bearings⟩

omit [Primitives] in
/-- Where the neighbours are the same, nobody was lost. -/
theorem LossHandled.ofSight {before after : Node}
    (same : after.neighbors.sight = before.neighbors.sight) :
    before.LossHandled after := by
  intro addr present gone
  rw [← sight_eq_none_iff, same, sight_eq_none_iff, present] at gone
  cases gone

/-- A poll handles every loss. -/
theorem poll_handles (node : Node) (time : Nat) : node.LossHandled (node.poll time) := by
  rcases node.poll_terrain time with same | housekept
  · exact LossHandled.ofSight (sight_of_terrain same)
  · rw [housekept]
    have sight := sight_of_terrain (node.ticked_terrain time)
    have piles : node.events <+: (node.ticked time).events := by
      have powered : Moves False Effects.timing node (node.powered time) :=
        (powered_moves _ _).mono (by decide)
      have ticked : Moves False Effects.timing node (node.ticked time) :=
        powered.trans ((pollTimers_moves _ _ nofun).mono (by decide))
      exact ticked.events_prefix (by decide)
    intro addr present gone
    have still : (node.ticked time).neighbors.contains addr = true := by
      rw [← Bool.not_eq_false, ← sight_eq_none_iff, sight, sight_eq_none_iff, Bool.not_eq_false]
      exact present
    obtain ⟨announces, forgets⟩ := housekeeping_handles addr still gone
    exact ⟨announces.widen piles (prefix_refl _), forgets⟩

/-- A received beacon evicts nobody. -/
def EvictsNobody (node : Node) : Operation → Prop
  | .receive frame rxMeta => ∀ heard ∈ node.beaconIn frame,
      (node.listening frame rxMeta heard.1).neighbors.evicted heard.1.header.src = none
  | _ => True

/-- Every neighbour that leaves the table in a step is reported as lost and forgotten. -/
def HandlesLosses (node : Node) (operation : Operation) : Prop :=
  node.LossHandled (node.step operation)

/-- A step that evicts nobody handles every loss. -/
theorem step_handles (node : Node) (operation : Operation) (spares : node.EvictsNobody operation) :
    node.HandlesLosses operation := by
  cases called : operation.isCall with
  | true => exact LossHandled.ofSight (sight_of_terrain (call_terrain called))
  | false =>
    cases operation with
    | poll time => exact node.poll_handles time
    | receive frame rxMeta =>
      rcases node.receive_terrain frame rxMeta with ⟨_, same⟩ | ⟨packet, beacon, heard, heeds⟩
      · exact LossHandled.ofSight (sight_of_terrain same)
      · have listening := sight_of_terrain (node.listening_terrain frame rxMeta packet)
        cases heeds with
        | ignored same => exact LossHandled.ofSight ((sight_of_terrain same).trans listening)
        | admitted judged admits zone sight =>
          intro addr present gone
          change (node.onRadioRx frame rxMeta).neighbors.contains addr = false at gone
          rw [← sight_eq_none_iff, sight] at gone
          by_cases sender : addr = packet.header.src
          · obtain ⟨_, entered, _⟩ := admits.entered
            rw [sender, entered] at gone
            cases gone
          · rw [admits.others addr sender, spares _ heard, if_neg nofun, listening,
              sight_eq_none_iff, present] at gone
            cases gone
    | _ => cases called

/-- In every run in which no beacon evicts a neighbour, every neighbour that leaves the
table is reported as lost in the same step, and no zone entry, no route and no attachment
leads through it afterwards. -/
theorem neighbor_losses_handled (config : NodeConfig) (id : Identity) (rng : Rng) (start : Nat)
    (operations : List Operation)
    (permitted : Throughout EvictsNobody (new config id rng start) operations) :
    Throughout HandlesLosses (new config id rng start) operations := permitted.imp step_handles

end Node

end MeshStar

namespace MeshStar

local instance neighborLossSuite : Primitives := Transparent.primitives

open Transparent

namespace NeighborLoss

/-- A node that keeps one neighbour. -/
def host : Node := Node.new { NodeConfig.default with
  neighbor := { NeighborConfig.default with maxNeighbors := 1 } } (identity 1)
  generator 0

/-- A beacon without identity, heard over a noisy link. -/
def beacon (identity : Identity) (seq : UInt16) (time : Nat) : Node.Operation :=
  .receive (frame ⟨Header.new .beacon identity.address Address.broadcast
    (seq.toUInt32 + 1) 0 1, (Beacon.shortBeacon .normal seq 2 0).encode⟩) ⟨-120, -15, time⟩

/-- The first neighbour, which lost most of its beacons, and a newcomer. -/
def first : Address := (identity 2).address

def crowded : Node :=
  (host.step (beacon (identity 2) 0 10)).step (beacon (identity 2) 63 20)

def newcomer : Node.Operation := beacon (identity 3) 0 30

end NeighborLoss

open NeighborLoss

/-- A newcomer evicts a neighbour: no loss is reported, and the zone table and the route
cache still lead through it. -/
theorem evicted_neighbor_remains_next_hop : crowded.neighbors.contains first = true ∧
      (crowded.step newcomer).neighbors.contains first = false ∧
      ¬Node.Throughout Node.HandlesLosses host
        [beacon (identity 2) 0 10, beacon (identity 2) 63 20, newcomer] := by
  have facts : crowded.neighbors.contains first = true ∧
      (crowded.step newcomer).neighbors.contains first = false ∧
      ((crowded.step newcomer).zone.get first).map ZoneNode.nextHop = some first := by
    decide +kernel
  obtain ⟨present, gone, linked⟩ := facts
  refine ⟨present, gone, ?_⟩
  rintro ⟨_, _, handles, _⟩
  obtain ⟨known, found, through⟩ := Option.map_eq_some_iff.mp linked
  exact (handles first present gone).2.zone first known found through

/-- A neighbour that falls silent is reported and forgotten. -/
theorem neighbor_losses_handled_silent :
    (host.step (beacon (identity 2) 0 10)).neighbors.contains first = true ∧
      ((host.step (beacon (identity 2) 0 10)).step
        (.poll 600000)).neighbors.contains first = false ∧
      Node.Throughout Node.HandlesLosses host [beacon (identity 2) 0 10, .poll 600000] := by
  refine ⟨by decide +kernel, by decide +kernel, ?_⟩
  have spares : host.EvictsNobody (beacon (identity 2) 0 10) := by
    unfold beacon Node.EvictsNobody
    decide +kernel
  exact Node.neighbor_losses_handled _ _ _ _ _ ⟨spares, trivial, trivial⟩

end MeshStar

import MeshStar.Node.Timers

/-!
# Who changes what a node knows of its surroundings

The terrain of a node is its zone table together with who its neighbours are and which
role each has. Its bearings are the terrain, the next hops of the cached routes, the
host it is attached to and its rest. The bearings are the same after everything a node sends. The
terrain is the same after every function but three: the processing of a beacon, the
loss of a silent neighbour and the expiry of the caches.

Link measurements of a neighbour are no part of the terrain; every packet changes them.
-/

namespace MeshStar

open List

variable [Primitives]

namespace NeighborTable

/-- Who the neighbour under an address is: its own address and its role. -/
def sight (table : NeighborTable) (addr : Address) : Option (Address × Role) :=
  (table.get addr).map (fun neighbor => (neighbor.addr, neighbor.role))

section

omit [Primitives]

variable (table : NeighborTable)

variable (addr : Address)

/-- Rewriting a neighbour without touching its address and role. -/
theorem modify_sight {change : Neighbor → Neighbor}
    (same : ∀ neighbor, (change neighbor).addr = neighbor.addr ∧
      (change neighbor).role = neighbor.role)
    : (table.modify addr change).sight = table.sight := by
  funext other
  unfold sight get modify
  rw [OrderedMap.get_modify]
  split
  · rw [Option.map_map]
    congr 1
    funext neighbor
    exact Prod.ext (same neighbor).1 (same neighbor).2
  · rfl

theorem recordTxAttempt_sight :
    (table.modify addr Neighbor.recordTxAttempt).sight = table.sight := by
  apply modify_sight
  intro neighbor
  unfold Neighbor.recordTxAttempt
  simp only
  split
  · exact ⟨rfl, rfl⟩
  · exact ⟨rfl, rfl⟩

theorem recordSuccess_sight : (table.recordSuccess addr).sight = table.sight :=
  table.modify_sight addr (fun _ => ⟨rfl, rfl⟩)

theorem recordFailure_sight : (table.recordFailure addr).1.sight = table.sight :=
  table.modify_sight addr (fun _ => ⟨rfl, rfl⟩)

theorem observePacket_sight (now : Nat) {addr : Address} (rxMeta : RxMeta) :
    (table.observePacket now addr rxMeta).sight = table.sight :=
  table.modify_sight addr (fun _ => ⟨rfl, rfl⟩)

end

end NeighborTable

namespace RouteCache

/-- The next hops of the routes to a destination. -/
def hops (cache : RouteCache) (dst : Address) : Option (List Address) :=
  (cache.routes.get dst).map (List.map RouteEntry.nextHop)

variable (cache : RouteCache) (dst nextHop : Address)

omit [Primitives] in
/-- Rewriting a route without touching its next hop. -/
theorem modifyVia_nextHop {change : RouteEntry → RouteEntry}
    (same : ∀ entry, (change entry).nextHop = entry.nextHop) (entries : List RouteEntry) :
    (modifyVia nextHop change entries).map RouteEntry.nextHop = entries.map RouteEntry.nextHop := by
  induction entries with
  | nil => rfl
  | cons entry rest ih =>
    unfold modifyVia
    split
    · rw [map_cons, map_cons, same]
    · rw [map_cons, map_cons, ih]

omit [Primitives] in
/-- Rewriting the routes to a destination without touching their next hops. -/
theorem modify_hops {change : RouteEntry → RouteEntry}
    (same : ∀ entry, (change entry).nextHop = entry.nextHop) :
    { cache with routes := cache.routes.modify dst (modifyVia nextHop change) }.hops =
      cache.hops := by
  funext other
  unfold hops
  simp only [OrderedMap.get_modify]
  split
  · rw [Option.map_map]
    congr 1
    funext entries
    exact modifyVia_nextHop nextHop same entries
  · rfl

omit [Primitives] in
/-- Using a route does not change where it leads. -/
theorem touch_hops (now : Nat) : (cache.touch dst nextHop now).hops = cache.hops :=
  cache.modify_hops dst nextHop (fun _ => rfl)

omit [Primitives] in
theorem markSuccess_hops {now : Nat} : (cache.markSuccess dst nextHop now).hops = cache.hops :=
  cache.modify_hops dst nextHop (fun _ => rfl)

end RouteCache

namespace Node

/-- The zone table, and who the neighbours are. -/
def terrain (node : Node) : ZoneTable × (Address → Option (Address × Role)) :=
  (node.zone, node.neighbors.sight)

/-- Whether a node is awake, since when it last slept, and its clock. -/
def rest (node : Node) : Bool × Nat × Nat := (node.power.awake, node.sleptAt, node.now)

/-- The terrain, where the cached routes lead, the host of a sleeping-role node, and its
rest. -/
def bearings (node : Node) :
    (ZoneTable × (Address → Option (Address × Role))) × (Address → Option (List Address)) ×
      Option Address × Bool × Nat × Nat :=
  (node.terrain, node.routes.hops, node.attachedAnchor, node.rest)

section

omit [Primitives]

variable {before after : Node}

theorem terrain_of_bearings (same : after.bearings = before.bearings) :
    after.terrain = before.terrain := congrArg Prod.fst same

theorem rest_of_bearings (same : after.bearings = before.bearings) : after.rest = before.rest :=
  congrArg (fun view => view.2.2.2) same

theorem zone_of_terrain (same : after.terrain = before.terrain) : after.zone = before.zone :=
  congrArg Prod.fst same

theorem sight_of_terrain (same : after.terrain = before.terrain) :
    after.neighbors.sight = before.neighbors.sight := congrArg Prod.snd same

/-- A new measurement of a neighbour. -/
theorem bearings_of_sight (node : Node) {neighbors : NeighborTable}
    (same : neighbors.sight = node.neighbors.sight) :
    { node with neighbors := neighbors }.bearings = node.bearings := by
  simp only [bearings, terrain, same]
  rfl

theorem bearings_of_hops {node : Node} {routes : RouteCache}
    (same : routes.hops = node.routes.hops) :
    { node with routes := routes }.bearings = node.bearings := by
  simp only [bearings, terrain, same]
  rfl

/-- Activity keeps a node awake longer but wakes none up. -/
theorem bearings_of_activity (node : Node) (now : Nat) :
    { node with power := node.power.onActivity now }.bearings = node.bearings := by
  have awake : (node.power.onActivity now).awake = node.power.awake := by
    unfold PowerManager.onActivity
    simp only
    repeat' split
    all_goals rfl
  simp only [bearings, rest, awake]
  rfl

/-- What the body of a loop leaves alone, the loop leaves alone. -/
theorem foldl_same {α β : Type} (view : Node → β) {body : Node → α → Node}
    (each : ∀ node item, view (body node item) = view node) (items : List α) (first : Node) :
    view (items.foldl body first) = view first := by
  induction items generalizing first with
  | nil => rfl
  | cons head rest ih =>
    exact (ih (body first head)).trans (each first head)

end

end Node

end MeshStar

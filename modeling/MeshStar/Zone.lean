import MeshStar.Neighbor
import MeshStar.Routing

/-!
# The intra-zone table

Every node knows the topology within its zone radius from the bounded distance vectors
that beacons carry. Entries compete on path cost, the table is bounded, and the
advertised neighbours of a transmitter decide whether a relay would add coverage.
-/

namespace MeshStar

/-- A node known within the zone. -/
structure ZoneNode where
  addr : Address
  distance : UInt8
  nextHop : Address
  quality : UInt8
  flags : UInt8
  updatedAt : Nat
  deriving DecidableEq, Repr

namespace ZoneNode

def isLeaf (node : ZoneNode) : Bool := node.flags &&& ZoneFlags.leaf ≠ 0

def isSleeping (node : ZoneNode) : Bool := node.flags &&& ZoneFlags.sleeping ≠ 0

/-- Hops times the cost of the worst link on the path. -/
def cost (node : ZoneNode) : Nat := node.distance.toNat * linkCost node.quality 0

end ZoneNode

/-- Zone table with the advertised neighbours of our neighbours. -/
structure ZoneTable where
  radius : UInt8
  maxEntries : Nat
  entryTtlMs : Nat
  nodes : OrderedMap Address ZoneNode
  adjacency : OrderedMap Address (List Address)

namespace ZoneTable

def new (radius : UInt8) (maxEntries entryTtlMs : Nat) : ZoneTable :=
  { radius := if radius < 1 then 1 else if radius > 4 then 4 else radius
    maxEntries := maxEntries
    entryTtlMs := entryTtlMs
    nodes := OrderedMap.empty
    adjacency := OrderedMap.empty }

def get (table : ZoneTable) (addr : Address) : Option ZoneNode := table.nodes.get addr

/-- Keep the cheaper path unless the current one is stale. -/
def merge (table : ZoneTable) (now : Nat) (candidate : ZoneNode) : ZoneTable :=
  match table.nodes.get candidate.addr with
  | some current =>
    if current.nextHop ≠ candidate.nextHop then
      let stale := now - current.updatedAt > table.entryTtlMs / 2
      if candidate.cost < current.cost ∨ stale then
        { table with nodes := table.nodes.insert candidate.addr candidate }
      else table
    else { table with nodes := table.nodes.insert candidate.addr candidate }
  | none => { table with nodes := table.nodes.insert candidate.addr candidate }

/-- Drop the farthest, worst entries until the bound holds. The fuel is the number of
entries, each round removes one. -/
def enforceBound (maxEntries : Nat) : Nat → OrderedMap Address ZoneNode →
    OrderedMap Address ZoneNode
  | 0, nodes => nodes
  | fuel + 1, nodes =>
    if nodes.size > maxEntries then
      match Selection.lastMaxBy
          (fun node : ZoneNode => node.distance.toNat * 256 + (255 - node.quality.toNat))
          nodes.values with
      | some victim => enforceBound maxEntries fuel (nodes.remove victim.addr)
      | none => nodes
    else nodes

/-- Merge a neighbour's advertisement. -/
def updateFromBeacon (table : ZoneTable) (now : Nat) (me : Address) (neighbors : NeighborTable)
    (src : Address) (entries : List ZoneEntry) (attached : List Address) : ZoneTable :=
  match neighbors.get src with
  | none => table
  | some neighbor =>
    let quality := neighbor.linkQuality
    let flags := (if neighbor.isLeaf then ZoneFlags.leaf else 0) |||
      (if neighbor.role = .anchor then ZoneFlags.anchor else 0)
    let direct := table.merge now ⟨src, 1, src, quality, flags, now⟩
    let adjacent := (entries.filter (fun entry => entry.distance = 1)).map
      ZoneEntry.addr ++ attached
    let linked := { direct with adjacency := direct.adjacency.insert src adjacent }
    let hosted := attached.foldl (fun zone addr =>
      if addr = me then zone
      else zone.merge now ⟨addr, 2, src, quality, ZoneFlags.leaf ||| ZoneFlags.sleeping,
        now⟩) linked
    let merged := entries.foldl (fun zone entry =>
      if entry.addr = me then zone
      else
        let distance := min (entry.distance.toNat + 1) 255
        if distance > zone.radius.toNat then zone
        else zone.merge now ⟨entry.addr, UInt8.ofNat distance, src, min entry.quality quality,
          entry.flags, now⟩) hosted
    { merged with nodes := enforceBound merged.maxEntries merged.nodes.size merged.nodes }

/-- A neighbour is lost: drop everything learned through it. -/
def removeVia (table : ZoneTable) (neighbor : Address) : ZoneTable :=
  { table with
    nodes := table.nodes.retain (fun _ node => node.nextHop ≠ neighbor)
    adjacency := table.adjacency.remove neighbor }

def expire (table : ZoneTable) (now : Nat) : ZoneTable :=
  let nodes := table.nodes.retain (fun _ node => now - node.updatedAt ≤ table.entryTtlMs)
  { table with
    nodes := nodes
    adjacency := table.adjacency.retain (fun addr _ => nodes.contains addr) }

/-- Entries to advertise: nodes closer than the radius, at most `maximum`, rotating with
the beacon round. -/
def advertisement (table : ZoneTable) (maximum round : Nat) : List ZoneEntry :=
  let nodes := table.nodes.values.filter (fun node =>
    node.distance.toNat < max table.radius.toNat 2)
  if nodes.isEmpty || maximum = 0 then []
  else
    let windows := (nodes.length + maximum - 1) / maximum
    let start := round % windows * maximum
    ((nodes.drop start ++ nodes.take start).take (min maximum nodes.length)).map (fun node =>
      ⟨node.addr, node.distance, node.quality, node.flags⟩)

/-- Whether every relaying neighbour of ours is already a neighbour of the transmitter. -/
def coveredBy (table : ZoneTable) (transmitter : Address) (neighbors : NeighborTable) : Bool :=
  match table.adjacency.get transmitter with
  | none => false
  | some adjacent =>
    (neighbors.map.values.filter (fun neighbor =>
      neighbor.role.relays && neighbor.addr ≠ transmitter)).all (fun neighbor =>
        adjacent.contains neighbor.addr)

/-- Host of a sleeping leaf, learned from the host's attached list. -/
def anchorFor (table : ZoneTable) (leaf : Address) : Option Address :=
  match table.nodes.get leaf with
  | none => none
  | some node =>
    if node.isLeaf && node.distance ≥ 2 && node.isSleeping then
      match table.nodes.get node.nextHop with
      | none => none
      | some via => if !via.isLeaf then some via.addr else none
    else none

end ZoneTable

end MeshStar

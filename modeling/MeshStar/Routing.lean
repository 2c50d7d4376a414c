import MeshStar.Library.Selection
import MeshStar.Protocol

/-!
# The route cache

Routes are kept for each destination, cheapest first, with an age and failure penalty
applied when they are compared. The cache is bounded in destinations and in
alternatives for each destination.
-/

namespace MeshStar

/-- Where a route was learned. -/
inductive RouteSource where
  | zone
  | discovery
  | reverse
  | anchorProxy
  | static
  deriving DecidableEq, Repr

/-- One cached route. -/
structure RouteEntry where
  dst : Address
  nextHop : Address
  hops : UInt8
  cost : Nat
  learnedAt : Nat
  expiresAt : Nat
  lastUsed : Nat
  failures : Nat
  source : RouteSource
  viaAnchor : Option Address
  deriving DecidableEq, Repr

/-- Cost with an age penalty of ten percent an hour, capped, and a failure penalty. -/
def RouteEntry.effectiveCost (entry : RouteEntry) (now : Nat) : Nat :=
  let ageHours := (now - entry.learnedAt) / 3600000
  entry.cost + min ageHours 10 * entry.cost / 10 + entry.failures * 50

structure RoutingConfig where
  maxDestinations : Nat
  alternatives : Nat
  routeTtlMs : Nat
  maxFailures : Nat
  deriving DecidableEq, Repr

def RoutingConfig.default : RoutingConfig := ⟨128, 2, 30 * 60 * 1000, 3⟩

/-- Cost of one link from its quality and the local congestion. -/
def linkCost (quality congestion : UInt8) : Nat :=
  let q := max quality.toNat 1
  let ratio := 255 * 256 / q
  let base := 100 * ratio * ratio / 2 ^ 16
  min (base + congestion.toNat * 100 / 255) 65535

/-- Bounded route cache. -/
structure RouteCache where
  cfg : RoutingConfig
  routes : OrderedMap Address (List RouteEntry)

namespace RouteCache

def new (cfg : RoutingConfig) : RouteCache := ⟨cfg, OrderedMap.empty⟩

/-- The destination used least recently. -/
def leastRecentlyUsed (cache : RouteCache) : Option Address :=
  (Selection.firstMinBy
    (fun entry : Address × List RouteEntry => (entry.2.map RouteEntry.lastUsed).foldl max 0)
    cache.routes.entries).map Prod.fst

/-- Replace the first entry through the same next hop. -/
def replaceVia (entry : RouteEntry) (better : Bool) : List RouteEntry → List RouteEntry
  | [] => []
  | existing :: rest =>
    if existing.nextHop = entry.nextHop then
      (if better then entry
        else { existing with expiresAt := max existing.expiresAt entry.expiresAt }) :: rest
    else existing :: replaceVia entry better rest

/-- Insert or refresh a route. Times have 64 bits and their sums wrap, as in a release build. -/
def insert (cache : RouteCache) (route : RouteEntry) (now : Nat) : RouteCache :=
  let entry := { route with
    learnedAt := now
    lastUsed := now
    expiresAt := if route.expiresAt = 0 then (now + cache.cfg.routeTtlMs) % 2 ^ 64
      else route.expiresAt }
  let evicted :=
    if !cache.routes.contains entry.dst && cache.routes.size ≥ cache.cfg.maxDestinations then
      match cache.leastRecentlyUsed with
      | some victim => cache.routes.remove victim
      | none => cache.routes
    else cache.routes
  let list := evicted.getOrDefault entry.dst []
  let updated := match list.find? (fun existing => existing.nextHop == entry.nextHop) with
    | some existing =>
      let better := entry.cost ≤ existing.cost || entry.source == .discovery
      Selection.sortByKey (fun other => other.effectiveCost now) (replaceVia entry better list)
    | none =>
      (Selection.sortByKey (fun other => other.effectiveCost now) (list ++ [entry])).take
        cache.cfg.alternatives
  { cache with routes := evicted.insert entry.dst updated }

/-- Best live route. -/
def lookup (cache : RouteCache) (dst : Address) (now : Nat) : Option RouteEntry :=
  match cache.routes.get dst with
  | none => none
  | some list =>
    Selection.firstMinBy (fun entry => entry.effectiveCost now)
      (list.filter (fun entry => entry.expiresAt > now))

/-- Rewrite the first route through a next hop. -/
def modifyVia (nextHop : Address) (change : RouteEntry → RouteEntry) :
    List RouteEntry → List RouteEntry
  | [] => []
  | entry :: rest =>
    if entry.nextHop = nextHop then change entry :: rest
    else entry :: modifyVia nextHop change rest

def touch (cache : RouteCache) (dst nextHop : Address) (now : Nat) : RouteCache :=
  { cache with routes := cache.routes.modify dst (modifyVia nextHop (fun entry =>
      { entry with
        lastUsed := now
        expiresAt := max entry.expiresAt ((now + cache.cfg.routeTtlMs / 2) % 2 ^ 64) })) }

/-- Record a failure on a route. The result tells whether the route was removed. -/
def markFailure (cache : RouteCache) (dst nextHop : Address) : RouteCache × Bool :=
  match cache.routes.get dst with
  | none => (cache, false)
  | some list =>
    let counted := modifyVia nextHop
      (fun entry => { entry with failures := min (entry.failures + 1) 255 }) list
    let removed := match counted.find? (fun entry => entry.nextHop == nextHop) with
      | some entry => entry.failures ≥ cache.cfg.maxFailures
      | none => false
    let kept := if removed then counted.filter (fun entry => entry.nextHop != nextHop) else counted
    ({ cache with routes := if kept.isEmpty then cache.routes.remove dst
        else cache.routes.insert dst kept }, removed)

def markSuccess (cache : RouteCache) (dst nextHop : Address) (now : Nat) : RouteCache :=
  { cache with routes := cache.routes.modify dst (modifyVia nextHop (fun entry =>
      { entry with
        failures := 0
        lastUsed := now
        expiresAt := (now + cache.cfg.routeTtlMs) % 2 ^ 64 })) }

/-- Remove every route through a next hop, returning the destinations affected. -/
def invalidateVia (cache : RouteCache) (nextHop : Address) : RouteCache × List Address :=
  let affected := (cache.routes.entries.filter (fun entry =>
    entry.2.any (fun route => route.nextHop == nextHop))).map Prod.fst
  let kept := cache.routes.mapValues (fun _ list =>
    list.filter (fun route => route.nextHop != nextHop))
  ({ cache with routes := kept.retain (fun _ list => !list.isEmpty) }, affected)

/-- Drop expired routes. -/
def expire (cache : RouteCache) (now : Nat) : RouteCache :=
  let kept := cache.routes.mapValues (fun _ list =>
    list.filter (fun route => route.expiresAt > now))
  { cache with routes := kept.retain (fun _ list => !list.isEmpty) }

end RouteCache

end MeshStar

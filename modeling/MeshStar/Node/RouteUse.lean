import Mathlib.Data.List.Nodup
import MeshStar.Node.Bearings
import MeshStar.RouteFreshness

/-!
# A next hop stays known while packets are sent through it

Sending a packet writes to what the choice of a next hop reads: the route it uses is
touched and the neighbour it goes to counts the attempt. Neither makes the destination
unreachable. For the route cache this rests on a fact about its table that every operation
keeps, that the routes to a destination lead through different next hops: otherwise a use
could revive another route through the same next hop.
-/

namespace MeshStar

open List OrderedMap

namespace RouteCache

/-- The routes to each destination lead through different next hops. -/
def Distinct (cache : RouteCache) : Prop :=
  ∀ dst list, cache.routes.get dst = some list → (list.map RouteEntry.nextHop).Nodup

/-- The caches that the operations of the cache build; its table is private to them. -/
inductive Built : RouteCache → Prop where
  | new (cfg : RoutingConfig) : Built (new cfg)
  | insert {cache : RouteCache} (built : Built cache) (route : RouteEntry) (now : Nat) :
      Built (cache.insert route now)
  | touch {cache : RouteCache} (built : Built cache) (dst nextHop : Address) (now : Nat) :
      Built (cache.touch dst nextHop now)
  | markFailure {cache : RouteCache} (built : Built cache) (dst nextHop : Address) :
      Built (cache.markFailure dst nextHop).1
  | markSuccess {cache : RouteCache} (built : Built cache) (dst nextHop : Address) (now : Nat) :
      Built (cache.markSuccess dst nextHop now)
  | invalidateVia {cache : RouteCache} (built : Built cache) (nextHop : Address) :
      Built (cache.invalidateVia nextHop).1
  | expire {cache : RouteCache} (built : Built cache) (now : Nat) : Built (cache.expire now)

variable {cache : RouteCache}

/-- Rewriting one route without touching its next hop. -/
theorem Distinct.modify (distinct : cache.Distinct) (dst nextHop : Address)
    {change : RouteEntry → RouteEntry} (same : ∀ entry, (change entry).nextHop = entry.nextHop) :
    Distinct { cache with routes := cache.routes.modify dst (modifyVia nextHop change) } := by
  intro other list found
  simp only [get_modify] at found
  split at found
  · obtain ⟨before, present, rfl⟩ := Option.map_eq_some_iff.mp found
    rw [modifyVia_nextHop nextHop same]
    exact distinct other before present
  · exact distinct other list found

/-- Dropping routes. -/
theorem Distinct.filter (distinct : cache.Distinct) (keep : RouteEntry → Bool) :
    Distinct { cache with routes := (cache.routes.mapValues (fun _ list =>
      list.filter keep)).retain (fun _ list => !list.isEmpty) } := by
  intro other list found
  simp only [get_retain_eq_some_iff, get_mapValues] at found
  obtain ⟨before, present, rfl⟩ := Option.map_eq_some_iff.mp found.1
  exact (distinct other before present).sublist (filter_sublist.map _)

variable {list : List RouteEntry}

theorem Distinct.set (distinct : cache.Distinct) (dst : Address)
    (different : (list.map RouteEntry.nextHop).Nodup) :
    Distinct { cache with routes := cache.routes.insert dst list } := by
  intro other found present
  simp only [get_insert] at present
  split at present
  · cases present
    exact different
  · exact distinct other found present

theorem Distinct.remove (distinct : cache.Distinct) (dst : Address) :
    Distinct { cache with routes := cache.routes.remove dst } := by
  intro other found present
  simp only [get_remove] at present
  split at present
  · cases present
  · exact distinct other found present

/-- A list that became empty is removed. -/
theorem Distinct.replace (distinct : cache.Distinct) (dst : Address)
    (different : (list.map RouteEntry.nextHop).Nodup) :
    Distinct { cache with routes := if list.isEmpty then cache.routes.remove dst
      else cache.routes.insert dst list } := by
  cases list.isEmpty with
  | true => exact distinct.remove dst
  | false => exact distinct.set dst different

theorem replaceVia_nextHop (entry : RouteEntry) (better : Bool) (list : List RouteEntry) :
    (replaceVia entry better list).map RouteEntry.nextHop = list.map RouteEntry.nextHop := by
  induction list with
  | nil => rfl
  | cons existing rest ih =>
    unfold replaceVia
    split
    · rename_i same
      cases better with
      | true => exact congrArg (· :: _) same.symm
      | false => rfl
    · rw [map_cons, map_cons, ih]

theorem merged_nextHops (cfg : RoutingConfig) (entry : RouteEntry) (now : Nat)
    (before : (list.map RouteEntry.nextHop).Nodup) :
    ((merged cfg entry now list).map RouteEntry.nextHop).Nodup := by
  unfold merged
  cases found : list.find? (fun existing => existing.nextHop == entry.nextHop) with
  | some existing =>
    simp only
    rw [((Selection.sortByKey_perm).map _).nodup_iff, replaceVia_nextHop]
    exact before
  | none =>
    simp only
    refine List.Nodup.sublist ((take_sublist _ _).map _) ?_
    rw [((Selection.sortByKey_perm).map _).nodup_iff, map_append, nodup_append]
    refine ⟨before, pairwise_singleton _ _, ?_⟩
    intro hop member other single same
    obtain ⟨existing, present, rfl⟩ := mem_map.mp member
    have absent := List.find?_eq_none.mp found existing present
    rw [map_singleton, mem_singleton] at single
    exact absent (by rw [same, single, beq_self_eq_true])

theorem Distinct.insert (distinct : cache.Distinct) (route : RouteEntry) (now : Nat) :
    (cache.insert route now).Distinct := by
  obtain ⟨evicted, origin, -, routes⟩ := insert_eq cache route now
  have room : Distinct { cache with routes := evicted } := by
    rcases origin with rfl | ⟨victim, rfl⟩
    · exact distinct
    · exact distinct.remove victim
  have before : ((cache.routes.getOrDefault route.dst []).map RouteEntry.nextHop).Nodup := by
    unfold OrderedMap.getOrDefault
    cases found : cache.routes.get route.dst with
    | none => exact nodup_nil
    | some list => exact distinct route.dst list found
  have after := room.set route.dst (merged_nextHops cache.cfg (cache.stamped route now) now before)
  intro dst list found
  exact after dst list (routes ▸ found)

theorem Distinct.markFailure (distinct : cache.Distinct) (dst nextHop : Address) :
    (cache.markFailure dst nextHop).1.Distinct := by
  unfold RouteCache.markFailure
  cases found : cache.routes.get dst with
  | none => exact distinct
  | some list =>
    have counted : ((modifyVia nextHop (fun entry =>
        { entry with failures := min (entry.failures + 1) 255 }) list).map
          RouteEntry.nextHop).Nodup := by
      rw [modifyVia_nextHop nextHop]
      · exact distinct dst list found
      · exact fun entry => rfl
    simp only
    generalize modifyVia nextHop (fun entry =>
      { entry with failures := min (entry.failures + 1) 255 }) list = routes at counted ⊢
    have kept : ∀ removed : Bool, ((if removed = true then
        routes.filter (fun entry => entry.nextHop != nextHop) else routes).map
          RouteEntry.nextHop).Nodup := by
      intro removed
      split
      · exact counted.sublist (filter_sublist.map _)
      · exact counted
    exact distinct.replace dst (kept _)

/-- Every cache that can be built has different next hops for a destination. -/
theorem Built.distinct (built : cache.Built) : cache.Distinct := by
  induction built with
  | new cfg => exact nofun
  | insert _ route now ih => exact ih.insert route now
  | touch _ dst nextHop now ih =>
    exact ih.modify dst nextHop (fun entry => rfl)
  | markFailure _ dst nextHop ih =>
    exact ih.markFailure dst nextHop
  | markSuccess _ dst nextHop now ih =>
    exact ih.modify dst nextHop (fun entry => rfl)
  | invalidateVia _ nextHop ih => exact ih.filter _
  | expire _ now ih => exact ih.filter _

theorem modifyVia_eq_map {nextHop : Address} {change : RouteEntry → RouteEntry}
    (different : (list.map RouteEntry.nextHop).Nodup) :
    modifyVia nextHop change list =
      list.map (fun entry => if entry.nextHop = nextHop then change entry else entry) := by
  induction list with
  | nil => rfl
  | cons entry rest ih =>
    obtain ⟨absent, later⟩ := nodup_cons.mp different
    unfold modifyVia
    split
    · rename_i same
      rw [map_cons, if_pos same, map_congr_left (g := id), map_id]
      intro other member
      refine if_neg (fun also => absent ?_)
      rw [same, ← also]
      exact mem_map_of_mem member
    · rename_i other
      rw [map_cons, if_neg other, ih later]

/-- A route that is used stays the best one. -/
theorem lookup_touch (distinct : cache.Distinct) {dst : Address} {now : Nat} {route : RouteEntry}
    (found : cache.lookup dst now = some route) :
    ∃ used, (cache.touch dst route.nextHop now).lookup dst now = some used ∧
      used.nextHop = route.nextHop ∧ used.hops = route.hops := by
  unfold lookup at found
  cases present : cache.routes.get dst with
  | none =>
    rw [present] at found
    cases found
  | some list =>
    rw [present] at found
    simp only at found
    have different := distinct dst list present
    have chosen := mem_filter.mp (Selection.firstMinBy_mem found)
    let use := fun entry : RouteEntry => if entry.nextHop = route.nextHop then { entry with
      lastUsed := now, expiresAt := max entry.expiresAt
        ((now + cache.cfg.routeTtlMs / 2) % 2 ^ 64) } else entry
    have live : ∀ entry ∈ list, decide ((use entry).expiresAt > now) =
        decide (entry.expiresAt > now) := by
      intro entry member
      simp only [use]
      split
      · rename_i same
        have only : entry = route := inj_on_of_nodup_map different member chosen.1 same
        have alive : route.expiresAt > now := of_decide_eq_true chosen.2
        rw [only]
        simp only [decide_eq_decide]
        omega
      · rfl
    have kept : ∀ entry, (use entry).effectiveCost now = entry.effectiveCost now := by
      intro entry
      simp only [use]
      split
      · rfl
      · rfl
    refine ⟨use route, ?_, ?_, ?_⟩
    · simp only [lookup, touch, get_modify_self, present, Option.map_some]
      rw [modifyVia_eq_map different, filter_map,
        filter_congr (q := fun entry => decide (entry.expiresAt > now)) live,
        Selection.firstMinBy_map kept, found]
      rfl
    · simp only [use, if_pos]
    · simp only [use, if_pos]

end RouteCache

namespace Node

/-- The destination is a neighbour that can be sent to. -/
def Linked (node : Node) (dst : Address) (now : Nat) : Prop :=
  ∃ neighbor, node.neighbors.get dst = some neighbor ∧
    (!neighbor.isSleeping now || node.cfg.role == .anchor) = true

/-- The zone table knows a neighbour that leads to the destination. -/
def Zoned (node : Node) (dst : Address) : Prop :=
  ∃ known, node.zone.get dst = some known ∧ node.neighbors.contains known.nextHop = true

/-- The best cached route leads through a neighbour, or is a single hop. -/
def Cached (node : Node) (dst : Address) (now : Nat) : Prop :=
  ∃ route, node.routes.lookup dst now = some route ∧
    (node.neighbors.contains route.nextHop = true ∨ route.hops ≤ 1)

/-- A sleeping-role node has a host, or a relay among its neighbours. -/
def Hosted (node : Node) : Prop :=
  node.cfg.role = .leaf ∧ ((node.attachedAnchor.filter node.neighbors.contains).isSome = true ∨
    node.neighbors.bestRelay.isSome = true)

theorem consider_isSome {best : Option (Nat × Address)} {cost : Nat} {hop : Address} :
    (consider best cost hop).isSome = true := by
  unfold consider
  cases best with
  | none => rfl
  | some found =>
    simp only
    split
    · rfl
    · rfl

variable (node : Node) (dst : Address)

theorem directHop_isSome (now : Nat) :
    (node.directHop dst now none).isSome = true ↔ node.Linked dst now := by
  unfold directHop Linked
  cases node.neighbors.get dst with
  | none => simp
  | some neighbor =>
    simp only [Option.some.injEq, exists_eq_left']
    split
    · rename_i awake
      exact ⟨fun _ => awake, fun _ => consider_isSome⟩
    · rename_i asleep
      exact ⟨nofun, fun awake => absurd awake asleep⟩

theorem zoneHop_isSome (best : Option (Nat × Address)) :
    (node.zoneHop dst best).isSome = true ↔ best.isSome = true ∨ node.Zoned dst := by
  unfold zoneHop Zoned NeighborTable.contains OrderedMap.contains
  cases node.zone.get dst with
  | none => simp
  | some known =>
    simp only [Option.some.injEq, exists_eq_left', NeighborTable.get]
    cases node.neighbors.map.get known.nextHop with
    | none => simp
    | some neighbor => simp [consider_isSome]

theorem cachedHop_isSome (now : Nat) (best : Option (Nat × Address)) :
    (node.cachedHop dst now best).isSome = true ↔ best.isSome = true ∨ node.Cached dst now := by
  unfold cachedHop Cached NeighborTable.contains OrderedMap.contains
  cases node.routes.lookup dst now with
  | none => simp
  | some route =>
    simp only [Option.some.injEq, exists_eq_left', NeighborTable.get]
    cases node.neighbors.map.get route.nextHop with
    | none =>
      simp only
      split
      · rename_i near
        simp [consider_isSome, near]
      · rename_i far
        simp [far]
    | some neighbor => simp [consider_isSome]

/-- A next hop is known exactly through one of the four sources. -/
theorem nextHopFor_isSome (now : Nat) : (node.nextHopFor dst now).isSome = true ↔
      node.Linked dst now ∨ node.Zoned dst ∨ node.Cached dst now ∨ node.Hosted := by
  have chosen := node.cachedHop_isSome dst now (node.zoneHop dst (node.directHop dst now none))
  rw [zoneHop_isSome, directHop_isSome, or_assoc] at chosen
  unfold nextHopFor
  cases best : node.cachedHop dst now (node.zoneHop dst (node.directHop dst now none)) with
  | some found =>
    rw [best] at chosen
    have known := chosen.mp rfl
    simp only [Option.isSome_some, true_iff]
    tauto
  | none =>
    rw [best] at chosen
    have unknown := mt chosen.mpr Bool.false_ne_true
    simp only [Hosted]
    split
    · rename_i sleeping
      cases node.attachedAnchor.filter node.neighbors.contains with
      | some anchor => simp [sleeping]
      | none =>
        simp only [Option.isSome_map, Option.isSome_none, Bool.false_eq_true, false_or, sleeping,
          true_and]
        tauto
    · rename_i awake
      simp only [Option.isSome_none, Bool.false_eq_true, awake, false_and, or_false, false_iff]
      tauto

/-- A destination that is no neighbour and in no zone is reached by its cached route. -/
theorem nextHopFor_cached {node : Node} {dst : Address} {now : Nat} {route : RouteEntry}
    (unlinked : ¬node.Linked dst now) (unzoned : ¬node.Zoned dst)
    (found : node.routes.lookup dst now = some route)
    (usable : node.neighbors.contains route.nextHop = true ∨ route.hops ≤ 1) :
    node.nextHopFor dst now = some route.nextHop := by
  have direct : node.directHop dst now none = none := by
    rw [← directHop_isSome] at unlinked
    simpa using unlinked
  have zoned : node.zoneHop dst none = none := by
    have sides := mt (node.zoneHop_isSome dst none).mp (by simp [unzoned])
    simpa using sides
  unfold nextHopFor
  rw [direct, zoned]
  unfold cachedHop
  rw [found]
  unfold NeighborTable.contains OrderedMap.contains at usable
  simp only [NeighborTable.get]
  cases linked : node.neighbors.map.get route.nextHop with
  | some neighbor => rfl
  | none =>
    rw [linked, or_iff_right (by simp)] at usable
    simp only [if_pos usable]
    rfl

/-- A transmission to a neighbour changes link statistics only. -/
theorem recordTxAttempt_watch (table : NeighborTable) (hop addr : Address) :
    ((table.modify hop Neighbor.recordTxAttempt).get addr).map (fun neighbor =>
      (neighbor.role, neighbor.awakeUntil)) = (table.get addr).map (fun neighbor =>
        (neighbor.role, neighbor.awakeUntil)) := by
  simp only [NeighborTable.get, NeighborTable.modify, get_modify]
  split
  · rw [Option.map_map]
    congr 1
    funext neighbor
    simp only [Function.comp, Neighbor.recordTxAttempt]
    split
    · rfl
    · rfl
  · rfl

/-- What a node becomes when it sends through a next hop: the route is touched, and of the
neighbours only link statistics change. -/
structure UsesHop (dst hop : Address) (now : Nat) (before after : Node) : Prop where
  cfg : after.cfg = before.cfg
  zone : after.zone = before.zone
  attachedAnchor : after.attachedAnchor = before.attachedAnchor
  routes : after.routes = before.routes.touch dst hop now
  neighbors : ∀ addr, (after.neighbors.get addr).map (fun neighbor =>
    (neighbor.role, neighbor.awakeUntil)) = (before.neighbors.get addr).map (fun neighbor =>
      (neighbor.role, neighbor.awakeUntil))

namespace UsesHop

variable {dst hop other : Address} {now : Nat} {before after : Node}

variable (uses : UsesHop dst hop now before after)

include uses

theorem contains (addr : Address) :
    after.neighbors.contains addr = before.neighbors.contains addr := by
  have same := congrArg Option.isSome (uses.neighbors addr)
  rwa [Option.isSome_map, Option.isSome_map] at same

theorem neighbor {addr : Address} {found : Neighbor}
    (known : before.neighbors.get addr = some found) :
    ∃ later, after.neighbors.get addr = some later ∧ later.role = found.role ∧
      later.awakeUntil = found.awakeUntil := by
  have same := uses.neighbors addr
  rw [known] at same
  obtain ⟨later, present, equal⟩ := Option.map_eq_some_iff.mp same
  exact ⟨later, present, (Prod.mk.inj equal).1, (Prod.mk.inj equal).2⟩

theorem linked (known : before.Linked other now) : after.Linked other now := by
  obtain ⟨neighbor, found, awake⟩ := known
  obtain ⟨later, present, role, window⟩ := uses.neighbor found
  refine ⟨later, present, ?_⟩
  rw [uses.cfg]
  simpa only [Neighbor.isSleeping, Neighbor.isLeaf, role, window] using awake

theorem zoned (known : before.Zoned other) : after.Zoned other := by
  obtain ⟨entry, found, near⟩ := known
  refine ⟨entry, ?_, ?_⟩
  · rw [uses.zone, found]
  · rw [uses.contains, near]

theorem hosted (known : before.Hosted) :
    after.Hosted := by
  obtain ⟨sleeping, attached | relay⟩ := known
  · refine ⟨uses.cfg ▸ sleeping, .inl ?_⟩
    have same : after.neighbors.contains = before.neighbors.contains := funext uses.contains
    rwa [uses.attachedAnchor, same]
  · refine ⟨uses.cfg ▸ sleeping, .inr ?_⟩
    obtain ⟨best, chosen⟩ := Option.isSome_iff_exists.mp relay
    obtain ⟨member, relays⟩ := mem_filter.mp (Selection.lastMaxBy_mem chosen)
    obtain ⟨addr, found⟩ := (mem_values_iff _).mp member
    obtain ⟨later, present, role, _⟩ := uses.neighbor found
    have candidate : later ∈ after.neighbors.map.values.filter (fun neighbor =>
        neighbor.role.relays) := by
      refine mem_filter.mpr ⟨(mem_values_iff _).mpr ⟨addr, present⟩, ?_⟩
      rw [role]
      exact relays
    exact Selection.lastMaxBy_isSome candidate

/-- The destination stays reachable. -/
theorem reaches (distinct : before.routes.Distinct) (known : before.nextHopFor dst now = some hop) :
    (after.nextHopFor dst now).isSome = true := by
  have sources := (before.nextHopFor_isSome dst now).mp (by rw [known]; rfl)
  refine (after.nextHopFor_isSome dst now).mpr ?_
  by_cases linked : before.Linked dst now
  · exact .inl (uses.linked linked)
  by_cases zoned : before.Zoned dst
  · exact .inr (.inl (uses.zoned zoned))
  rcases sources with direct | zone | ⟨route, found, usable⟩ | hosted
  · exact absurd direct linked
  · exact absurd zone zoned
  · -- The cached route is the one in use: its next hop is the chosen one.
    have same := nextHopFor_cached linked zoned found usable
    rw [known, Option.some.injEq] at same
    obtain ⟨used, present, sameHop, sameHops⟩ := RouteCache.lookup_touch distinct found
    refine .inr (.inr (.inl ⟨used, ?_, ?_⟩))
    · rw [uses.routes, same, present]
    · rw [sameHop, sameHops, uses.contains]
      exact usable
  · exact .inr (.inr (.inr (uses.hosted hosted)))

end UsesHop

end Node

end MeshStar

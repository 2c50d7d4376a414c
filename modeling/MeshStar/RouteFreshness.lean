import MeshStar.Routing

/-!
# Whether a fresh route is usable

A route is inserted among the stored routes of its destination by cost, and the list is
cut to the number of alternatives. Expired routes count there until they are dropped, while
a lookup passes them over: cheap expired routes can leave a destination without a usable
one right after a fresh route to it was inserted.
-/

namespace MeshStar

open List

namespace RouteCache

/-- A route as it is stored. -/
def stamped (cache : RouteCache) (route : RouteEntry) (now : Nat) : RouteEntry :=
  { route with
    learnedAt := now
    lastUsed := now
    expiresAt := if route.expiresAt = 0 then (now + cache.cfg.routeTtlMs) % 2 ^ 64
      else route.expiresAt }

/-- The routes of a destination with one more. -/
def merged (cfg : RoutingConfig) (entry : RouteEntry) (now : Nat) (list : List RouteEntry) :
    List RouteEntry :=
  match list.find? (fun existing => existing.nextHop == entry.nextHop) with
  | some existing =>
    Selection.sortByKey (fun other => other.effectiveCost now)
      (replaceVia entry (entry.cost ≤ existing.cost || entry.source == .discovery) list)
  | none =>
    (Selection.sortByKey (fun other => other.effectiveCost now) (list ++ [entry])).take
      cfg.alternatives

variable (cache : RouteCache)

/-- Room for a new destination is made by removing another one. -/
theorem insert_eq (route : RouteEntry) (now : Nat) :
    ∃ evicted, (evicted = cache.routes ∨ ∃ victim, evicted = cache.routes.remove victim) ∧
      (cache.insert route now).cfg = cache.cfg ∧
      (cache.insert route now).routes = evicted.insert route.dst
        (merged cache.cfg (cache.stamped route now) now
          (cache.routes.getOrDefault route.dst [])) := by
  unfold RouteCache.insert
  dsimp only
  split
  · rename_i full
    split
    · rename_i victim least
      have absent : cache.routes.get route.dst = none := by
        rw [Bool.and_eq_true, Bool.not_eq_true'] at full
        exact OrderedMap.get_eq_none (full.1 ▸ Bool.false_ne_true)
      have still : (cache.routes.remove victim).get route.dst = none := by
        rw [OrderedMap.get_remove]
        split
        · rfl
        · exact absent
      refine ⟨_, .inr ⟨victim, rfl⟩, rfl, ?_⟩
      unfold OrderedMap.getOrDefault
      rw [absent, still]
      rfl
    · exact ⟨_, .inl rfl, rfl, rfl⟩
  · exact ⟨_, .inl rfl, rfl, rfl⟩

/-- A lookup finds a route exactly if a stored one has not expired. -/
theorem lookup_isSome (dst : Address) (now : Nat) : (cache.lookup dst now).isSome = true ↔
      ∃ route ∈ cache.routes.getOrDefault dst [], now < route.expiresAt := by
  unfold lookup OrderedMap.getOrDefault
  cases cache.routes.get dst with
  | none => simp
  | some list =>
    dsimp only
    rw [Selection.firstMinBy_isSome]
    simp

variable {entry existing : RouteEntry} {list : List RouteEntry}

/-- Replacing a route leaves the others. -/
theorem replaceVia_perm {better : Bool}
    (found : list.find? (fun other => other.nextHop == entry.nextHop) = some existing) :
    (replaceVia entry better list).Perm ((if better then entry
        else { existing with expiresAt := max existing.expiresAt entry.expiresAt }) ::
        list.eraseP (fun other => other.nextHop == entry.nextHop)) := by
  induction list with
  | nil => cases found
  | cons head tail ih =>
    unfold replaceVia
    split
    · rename_i same
      rw [List.find?_cons_of_pos (by simp [same])] at found
      cases found
      rw [eraseP_cons_of_pos (by simp [same])]
    · rename_i different
      rw [List.find?_cons_of_neg (by simp [different])] at found
      rw [eraseP_cons_of_neg (by simp [different])]
      exact ((ih found).cons head).trans (.swap _ _ _)

/-- When a destination has a usable route after an insertion. The new route has to last at
all: the sum of time and lifetime neither adds nothing nor wraps. Beside it other live routes
count. A new next hop must also have room: stored routes
that cost no more come first, live or not. -/
def StaysUsable (cache : RouteCache) (route : RouteEntry) (now : Nat) : Prop :=
  let stored := cache.routes.getOrDefault route.dst []
  let lasts := route.expiresAt = 0 → now < (now + cache.cfg.routeTtlMs) % 2 ^ 64
  match stored.find? (fun other => other.nextHop == route.nextHop) with
  | some existing =>
    lasts ∨
      (now < existing.expiresAt ∧ existing.cost < route.cost ∧ route.source ≠ .discovery) ∨
      ∃ other ∈ stored.eraseP (fun other => other.nextHop == route.nextHop), now < other.expiresAt
  | none =>
    let ranked := Selection.sortByKey (fun other => other.effectiveCost now) stored
    let ahead := (ranked.takeWhile (fun other =>
      other.effectiveCost now ≤ route.cost + route.failures * 50)).length
    (lasts ∧ ahead < cache.cfg.alternatives) ∨
      ∃ other ∈ ranked.take (if ahead < cache.cfg.alternatives then cache.cfg.alternatives - 1
        else cache.cfg.alternatives), now < other.expiresAt

theorem stamped_live {route : RouteEntry} {now : Nat}
    (fresh : route.expiresAt = 0 ∨ now < route.expiresAt) :
    now < (cache.stamped route now).expiresAt ↔
      (route.expiresAt = 0 → now < (now + cache.cfg.routeTtlMs) % 2 ^ 64) := by
  unfold stamped
  dsimp only
  split
  · omega
  · omega

theorem stamped_effectiveCost (route : RouteEntry) (now : Nat) :
    (cache.stamped route now).effectiveCost now = route.cost + route.failures * 50 := by
  simp [stamped, RouteEntry.effectiveCost]

/-- After a fresh route is inserted its destination can be looked up exactly under that
condition. -/
theorem insert_usable_iff (route : RouteEntry) (now : Nat)
    (fresh : route.expiresAt = 0 ∨ now < route.expiresAt) :
    ((cache.insert route now).lookup route.dst now).isSome = true ↔
      cache.StaysUsable route now := by
  obtain ⟨evicted, -, -, routes⟩ := insert_eq cache route now
  rw [lookup_isSome, routes, OrderedMap.getOrDefault, OrderedMap.get_insert_self, Option.getD_some]
  have lives := stamped_live cache fresh
  have costs := stamped_effectiveCost cache route now
  unfold StaysUsable merged
  dsimp only
  generalize cache.routes.getOrDefault route.dst [] = stored
  cases found : stored.find? (fun other => other.nextHop == route.nextHop) with
  | some existing =>
    have same : stored.find? (fun other => other.nextHop == (cache.stamped route now).nextHop) =
      some existing := found
    rw [same]
    simp only [(Selection.sortByKey_perm).mem_iff, (replaceVia_perm same).mem_iff,
      mem_cons, or_and_right, exists_or, exists_eq_left]
    rw [← or_assoc]
    refine or_congr ?_ Iff.rfl
    have replaces : (decide ((cache.stamped route now).cost ≤ existing.cost) ||
        (cache.stamped route now).source == .discovery) = true ↔
        route.cost ≤ existing.cost ∨ route.source = .discovery := by
      rw [Bool.or_eq_true, decide_eq_true_iff, beq_iff_eq]
      rfl
    by_cases better : route.cost ≤ existing.cost ∨ route.source = .discovery
    · rw [if_pos (replaces.mpr better), lives]
      have replaced : ¬(existing.cost < route.cost ∧ route.source ≠ .discovery) := by
        rintro ⟨dearer, guessed⟩
        exact better.elim (Nat.not_le.mpr dearer) guessed
      tauto
    · rw [if_neg (better ∘ replaces.mp)]
      rw [not_or, Nat.not_le] at better
      simp only [lt_max_iff, lives]
      tauto
  | none =>
    have same : stored.find? (fun other => other.nextHop == (cache.stamped route now).nextHop) =
      none := found
    rw [same]
    simp only [Selection.sortByKey, foldl_append, foldl_cons, foldl_nil,
      Selection.mem_take_insertByKey, or_and_right, exists_or, and_assoc, exists_eq_left, costs]
    rw [and_comm, lives]
    exact Iff.rfl

/-- A route to node 1 through a next hop. -/
def sampleRoute (nextHop : UInt64) (cost expiresAt : Nat) : RouteEntry :=
  ⟨⟨1⟩, ⟨nextHop⟩, 2, cost, 0, expiresAt, 0, 0, .discovery, none⟩

/-- Two routes that cost less, both expired, keep a fresh route out. -/
theorem expired_routes_win :
    let cache := ((RouteCache.new .default).insert (sampleRoute 2 100 5) 0).insert
      (sampleRoute 3 100 5) 0
    (cache.insert (sampleRoute 4 200 0) 10).lookup ⟨1⟩ 10 = none := by
  decide

/-- A fresh route between two expired ones takes the place of the dearer. -/
theorem insert_usable_between :
    let cache := ((RouteCache.new .default).insert (sampleRoute 2 100 5) 0).insert
      (sampleRoute 3 300 5) 0
    (cache.routes.getOrDefault ⟨1⟩ []).length = 2 ∧
      ((cache.insert (sampleRoute 4 200 0) 10).lookup ⟨1⟩ 10).isSome = true :=
  ⟨by decide, (insert_usable_iff _ (sampleRoute 4 200 0) 10 (by decide)).mpr
    (.inl ⟨by decide, by decide⟩)⟩

end RouteCache

end MeshStar

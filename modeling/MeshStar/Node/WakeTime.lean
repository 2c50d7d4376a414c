import MeshStar.Node.NeighborLoss
import MeshStar.Node.Sleep

/-!
# When a sleeping node is polled next

`nextWakeup` tells the platform how long it may sleep. It is the earliest of all timers,
whether the node is awake or not. A poll of a sleeping node stops after the power schedule,
hence a timer that is due before the wake-up wakes the platform for nothing, and once it is
due it does so until the node wakes up. Housekeeping alone is due within a second, hence a node
that falls asleep for longer is never left alone.
-/

namespace MeshStar

def RebroadcastScheduler.nextDue (sched : RebroadcastScheduler) : Option Nat :=
  (sched.pending.map PendingRelay.due).min?

def PendingReplies.nextDue (replies : PendingReplies) : Option Nat :=
  (replies.items.map PendingReply.due).min?

def Ierp.nextDeadline (ierp : Ierp) : Option Nat :=
  (ierp.pending.values.map Discovery.deadline).min?

def Transport.nextDeadline (transport : Transport) : Option Nat :=
  ((transport.outstanding.filter (fun message => !message.stored)).map Outstanding.nextRetry).min?

/-- The next change of the schedule. -/
def PowerManager.nextEvent (power : PowerManager) : Nat :=
  if power.awake then power.awakeUntil else power.nextWake

/-- By how much the wake-up is spread. -/
def PowerMode.delay (rng : Rng) : PowerMode → Nat
  | .leaf wakeIntervalS _ => rng.nextU64.2 % max (wakeIntervalS.toNat * 1000 / 5) 1
  | _ => 0

namespace Node

/-- When the platform should poll next. -/
def nextWakeup (node : Node) : Nat :=
  let timers := [node.sched.nextDue, node.ierp.nextDeadline, node.rrepPending.nextDue,
    (node.hopPending.map HopPending.due).min?, node.transport.nextDeadline,
    (node.txQueue.map TxItem.notBefore).min?]
  let due := timers.foldl (fun time timer => timer.elim time (min time)) node.nextBeacon
  min (min due node.power.nextEvent) (node.lastHousekeeping + 1000)

/-- The timers that keep their deadlines while the node sleeps. -/
def standing (node : Node) : List Nat :=
  node.nextBeacon :: (node.lastHousekeeping + 1000) :: (node.sched.pending.map PendingRelay.due ++
    node.ierp.pending.values.map Discovery.deadline ++ node.rrepPending.items.map
      PendingReply.due ++
    node.hopPending.map HopPending.due ++
    (node.transport.outstanding.filter (fun message => !message.stored)).map Outstanding.nextRetry)

/-- The frames that a sleeping node has queued, or those that survive when it falls asleep. -/
def kept (node : Node) : List TxItem :=
  if node.power.awake then node.txQueue.filter (fun item => item.priority == 0) else node.txQueue

/-- When a node that sleeps after a poll wakes up. -/
def wakesAt (node : Node) (time : Nat) : Nat :=
  if node.power.awake then
    max node.now time + node.power.cfg.mode.sleepLen + node.cfg.power.mode.delay node.rng
  else node.power.nextWake

variable {node : Node}

theorem le_earlier_iff {bound time : Nat} {times : List Nat} :
    bound ≤ times.min?.elim time (min time) ↔ bound ≤ time ∧ ∀ due ∈ times, bound ≤ due := by
  cases least : times.min? with
  | none => simp [List.min?_eq_none_iff.mp least]
  | some due => simp [← List.le_min?_iff least]

/-- The next poll is the earliest of the timers, the queued frames and the power schedule. -/
theorem le_nextWakeup_iff {bound : Nat} : bound ≤ node.nextWakeup ↔
    bound ≤ node.power.nextEvent ∧ (∀ due ∈ node.standing, bound ≤ due) ∧
      ∀ item ∈ node.txQueue, bound ≤ item.notBefore := by
  simp only [nextWakeup, RebroadcastScheduler.nextDue, Ierp.nextDeadline, PendingReplies.nextDue,
    Transport.nextDeadline, List.foldl_cons, List.foldl_nil, le_min_iff, le_earlier_iff, standing,
    List.forall_mem_cons, List.forall_mem_append, List.forall_mem_map]
  tauto

/-- A poll that leaves the node asleep leaves its timers alone. -/
theorem powered_standing {time : Nat} (asleep : (node.powered time).power.awake = false) :
    (node.powered time).standing = node.standing ∧ (node.powered time).txQueue = node.kept ∧
      (node.powered time).power.nextWake = node.wakesAt time := by
  unfold kept wakesAt
  cases before : node.power.awake with
  | false =>
    rcases powered_asleep before time with ⟨_, same⟩ | ⟨wakes, _⟩
    · rw [same]
      exact ⟨rfl, rfl, rfl⟩
    · cases asleep.symm.trans wakes
  | true =>
    rw [powered_eq] at asleep ⊢
    rcases PowerManager.tick_awake before (max node.now time) with
      ⟨calm, awake⟩ | ⟨rests, down, wake⟩
    · rw [calm] at asleep
      cases asleep.symm.trans awake
    · rw [rests]
      have rested (base : Node) (down : base.power.awake = false) :
          (base.spreadWake.emit (.powerState false)).standing = base.standing ∧
          (base.spreadWake.emit (.powerState false)).txQueue = base.txQueue ∧
          (base.spreadWake.emit (.powerState false)).power.nextWake =
            base.power.nextWake + base.cfg.power.mode.delay base.rng := by
        unfold emit spreadWake PowerMode.delay
        generalize base.cfg.power.mode = mode
        cases mode with
        | leaf wakeIntervalS awakeWindowMs =>
          simp only [PowerManager.delayWake, down, Bool.not_false, if_true]
          split <;> exact ⟨rfl, rfl, rfl⟩
        | _ =>
          simp only
          split <;> exact ⟨rfl, rfl, rfl⟩
      obtain ⟨timers, frames, later⟩ :=
        rested { node.clocked time with sleptAt := max node.now time } down
      refine ⟨timers, congrArg (List.filter _) frames, later.trans ?_⟩
      exact congrArg (· + node.cfg.power.mode.delay node.rng) wake

section

variable [Primitives]

/-- A failed hop puts no node to sleep. -/
theorem failHop_rest (node : Node) (index : Nat) (hop : HopPending) (now : Nat) :
    (node.failHop index hop now).rest = node.rest := by
  have rerouted (doubted : Node) : (doubted.rerouteHop hop now).rest = doubted.rest := by
    have quiet : Quiet False doubted (doubted.rerouteHop hop now) :=
      rerouteHop_quiet _ _ _ False.elim
    exact rest_of_bearings quiet.bearings
  simp only [failHop, rerouted]
  split
  · exact (rest_of_bearings (emitAll_frame _ _).2.2).trans rfl
  · rfl

/-- The walk over the pending hops, by induction on its bound. -/
theorem hopLoop_rest (now fuel index : Nat) (node : Node) :
    (hopLoop now fuel index node).rest = node.rest := by
  induction fuel generalizing index node with
  | zero => rfl
  | succ fuel ih =>
    unfold hopLoop
    split
    · rfl
    · rename_i hop found
      split
      · exact ih _ _
      · split
        · exact (ih _ _).trans (node.failHop_rest index hop now)
        · have quiet : Quiet False node (node.retransmitHop index hop now) :=
            retransmitHop_quiet _ False.elim
          exact (ih _ _).trans (rest_of_bearings quiet.bearings)

theorem doubtRoute_rest (node : Node) (message : Outstanding) (now : Nat) :
    (node.doubtRoute message now).rest = node.rest := by
  have reported (doubted : Node) (event : NodeEvent) : (doubted.emit event).rest = doubted.rest :=
    rest_of_bearings (doubted.emit_frame event).2
  unfold doubtRoute
  split
  · split
    · simp only
      split
      · rfl
      · split
        · exact reported _ _
        · rfl
    · rfl
  · rfl

theorem retryOutstanding_rest (node : Node) (message : Outstanding) (now : Nat) :
    (node.retryOutstanding message now).rest = node.rest := by
  have doubted := node.doubtRoute_rest message now
  have sent {effects : List Effect} {middle after : Node} (same : middle.rest = node.rest)
      (moves : Moves False effects middle after)
      (spared : Effect.reroute ∉ effects ∧ Effect.survey ∉ effects) : after.rest = node.rest :=
    (rest_of_bearings (moves.bearings spared)).trans same
  simp only [retryOutstanding]
  split
  · split
    · exact sent doubted (deliverEnvelope_moves _ _ _ _ _) (by decide)
    · rfl
  · split
    · have cleared : { node.doubtRoute message now with
          transport := ((node.doubtRoute message now).transport.failAllTo message.dst).1 }.rest =
          node.rest := doubted
      exact sent cleared (sendOrQueue_moves _ _ _) (by decide)
    · exact sent doubted (sendSessionPacket_moves _ _ _ _ _ _ _) (by decide)

theorem pollTransport_rest (node : Node) (now : Nat) :
    (node.pollTransport now).rest = node.rest := by
  have exhausted (state : Node) (message : Outstanding) :
      (state.reportExhausted message).rest = state.rest := by
    unfold reportExhausted
    split
    · rfl
    · exact (rest_of_bearings (emit_frame _ _).2).trans rfl
  have retried (state : Node) (message : Outstanding) :
      (retryOne now state message).rest = state.rest := state.retryOutstanding_rest message now
  simp only [pollTransport]
  rw [foldl_same rest exhausted, foldl_same rest retried]
  rfl

theorem housekeeping_rest (node : Node) (now : Nat) : (node.housekeeping now).rest = node.rest := by
  have lost (state : Node) (addr : Address) : (state.onNeighborLost addr).rest = state.rest :=
    (rest_of_bearings (state.onNeighborLost_bearings addr)).trans rfl
  rw [rest_of_bearings (node.housekeeping_bearings now), expireNeighbors]
  split
  · rfl
  · exact foldl_same rest lost _ _

/-- The timers of a node that is awake never put it to sleep. -/
theorem pollAwake_rest (node : Node) (now : Nat) : (node.pollAwake now).rest = node.rest := by
  have radio : (node.pollRadio now).rest = node.rest := by
    have beacon : Quiet False node _ := node.pollBeacon_quiet now
    have fetch : Moves False _ (node.pollBeacon now) _ := pollFetch_moves _ now
    have relays : Quiet False ((node.pollBeacon now).pollFetch now) _ :=
      pollRelays_quiet _ now False.elim
    have replies : Quiet False ((((node.pollBeacon now).pollFetch now).pollRelays now).pollHops
      now) _ := pollReplies_quiet _ now False.elim
    exact (rest_of_bearings replies.bearings).trans ((hopLoop_rest _ _ _ _).trans
      ((rest_of_bearings relays.bearings).trans ((rest_of_bearings
        (fetch.bearings (by decide))).trans (rest_of_bearings beacon.bearings))))
  have timed : (node.pollTimers now).rest = node.rest := by
    have discovered : Moves False _ (node.pollRadio now) _ := pollDiscovery_moves _ now
    have late : Moves False _ (((node.pollRadio now).pollDiscovery now).pollTransport now) _ :=
      pollLate_moves _ now
    exact (rest_of_bearings (late.bearings (by decide))).trans ((pollTransport_rest _ _).trans
      ((rest_of_bearings (discovered.bearings (by decide))).trans radio))
  simp only [pollAwake]
  split
  · exact (housekeeping_rest _ _).trans timed
  · exact timed

/-- A poll that leaves a node asleep ends with the power schedule. -/
theorem poll_asleep {time : Nat} (asleep : (node.poll time).power.awake = false) :
    node.poll time = node.powered time ∧ (node.powered time).power.awake = false := by
  unfold poll at asleep ⊢
  simp only at asleep ⊢
  split
  · rename_i resting
    exact ⟨rfl, by simpa using resting⟩
  · rename_i awake
    rw [if_neg awake] at asleep
    have sameAwake {before after : Node} (same : after.rest = before.rest) :
        after.power.awake = before.power.awake := congrArg Prod.fst same
    rw [← sameAwake ((node.powered time).pollAwake_rest (max node.now time)), asleep] at awake
    exact absurd rfl awake

/-- After a poll that leaves a node asleep the platform may sleep until the node wakes up
exactly when no timer that stands still and no frame that it keeps is due before. A node that
falls asleep for more than a second is never left asleep, because housekeeping is due first. -/
theorem left_asleep_iff (node : Node) (time : Nat)
    (asleep : (node.poll time).power.awake = false) :
    ((node.poll time).power.nextWake ≤ (node.poll time).nextWakeup ↔
      (∀ due ∈ node.standing, node.wakesAt time ≤ due) ∧
        ∀ item ∈ node.kept, node.wakesAt time ≤ item.notBefore) ∧
    (node.power.awake = true → node.lastHousekeeping ≤ max node.now time →
      1000 < node.power.cfg.mode.sleepLen →
      (node.poll time).nextWakeup < (node.poll time).power.nextWake) := by
  obtain ⟨resting, down⟩ := poll_asleep asleep
  obtain ⟨standing, queue, wake⟩ := powered_standing down
  have next : (node.powered time).power.nextEvent = node.wakesAt time := by
    rw [PowerManager.nextEvent, down, ← wake]
    rfl
  have exact : (node.poll time).power.nextWake ≤ (node.poll time).nextWakeup ↔
      (∀ due ∈ node.standing, node.wakesAt time ≤ due) ∧
        ∀ item ∈ node.kept, node.wakesAt time ≤ item.notBefore := by
    rw [resting, le_nextWakeup_iff, next, standing, queue, wake]
    exact and_iff_right (Nat.le_refl _)
  refine ⟨exact, fun awake recent long => ?_⟩
  by_contra left
  have tidy : node.wakesAt time ≤ node.lastHousekeeping + 1000 :=
    (exact.mp (Nat.le_of_not_lt left)).1 _ (by simp [Node.standing])
  rw [wakesAt, if_pos awake] at tidy
  omega

end

end Node

namespace Nap

local instance wakeSuite : Primitives := Transparent.primitives

/-- Housekeeping is due when the node falls asleep, five seconds before it wakes up. -/
theorem housekeeping_wakes_platform : (listener.poll 1000).power.awake = false ∧
    (listener.poll 1000).power.nextWake = 6000 ∧ (listener.poll 1000).nextWakeup = 1000 := by
  decide +kernel

/-- A node that listens for a second and a half and sleeps for less than half a second, with a
housekeeping pass in between. -/
def dozer : Node :=
  let cfg := NodeConfig.default
  ((Node.new { cfg with power := { cfg.power with mode := .dutyCycle 1500 400 } }
    (Transparent.identity 1) Transparent.generator 0).poll 0).poll 1000

/-- It is left asleep; the node that sleeps for five seconds is not. -/
theorem left_asleep_dozer :
    (dozer.poll 1500).power.nextWake ≤ (dozer.poll 1500).nextWakeup ∧
      (listener.poll 1000).nextWakeup < (listener.poll 1000).power.nextWake :=
  ⟨(Node.left_asleep_iff dozer 1500 (by decide +kernel)).1.mpr (by decide +kernel),
    (Node.left_asleep_iff listener 1000 (by decide +kernel)).2 (by decide +kernel)
      (by decide +kernel) (by decide +kernel)⟩

end Nap

end MeshStar

import MeshStar.Node.TimerEffects
import MeshStar.Transparent

/-!
# Timers of a node that sleeps

A node that wakes up shifts its timers by the time it slept, so that sleeping does not
consume them: handshakes, discoveries, tracked messages and envelopes that wait for a key
have the same time left as when the node fell asleep. Hop confirmations and route traces
are left out, and run on while the node sleeps. A timer keeps its time exactly when it is
of a kind that is shifted and its shifted time is still below the end of the clock, when
it had run out before, or when no time was slept.
-/

namespace MeshStar

open OrderedMap

/-- How long a node sleeps. -/
def PowerMode.sleepLen : PowerMode → Nat
  | .alwaysOn => 0
  | .dutyCycle _ sleepMs => sleepMs
  | .leaf wakeIntervalS _ => wakeIntervalS.toNat * 1000

namespace PowerManager

variable {power : PowerManager}

/-- A sleeping node stays as it is or wakes up. -/
theorem tick_asleep (asleep : power.awake = false) (now : Nat) : power.tick now = (power, none) ∨
      ((power.tick now).2 = some true ∧ (power.tick now).1.awake = true) := by
  unfold tick
  split
  · rw [if_pos (by simp [asleep])]
    exact .inr ⟨rfl, rfl⟩
  all_goals
    rw [step, if_neg (by simp [asleep])]
    split
    · exact .inr ⟨rfl, rfl⟩
    · exact .inl rfl

/-- A node that is awake stays awake or falls asleep. -/
theorem tick_awake (awake : power.awake = true) (now : Nat) :
    ((power.tick now).2 = none ∧ (power.tick now).1.awake = true) ∨
      ((power.tick now).2 = some false ∧ (power.tick now).1.awake = false ∧
        (power.tick now).1.nextWake = now + power.cfg.mode.sleepLen) := by
  unfold tick
  generalize power.cfg.mode = mode
  cases mode with
  | alwaysOn =>
    simp only
    rw [if_neg (by simp [awake])]
    exact .inl ⟨rfl, awake⟩
  | _ =>
    simp only
    rw [step, if_pos awake]
    split
    · exact .inl ⟨rfl, awake⟩
    · split
      · exact .inr ⟨rfl, rfl, rfl⟩
      · exact .inl ⟨rfl, awake⟩

end PowerManager

namespace Node

variable [Primitives] {node : Node}

/-! ## Falling asleep and waking up -/

/-- The clock and the power schedule come first in a poll. -/
def clocked (node : Node) (time : Nat) : Node :=
  { node with
    now := max node.now time
    power := (node.power.tick (max node.now time)).1 }

omit [Primitives] in
theorem powered_eq (node : Node) (time : Nat) : node.powered time =
    match (node.power.tick (max node.now time)).2 with
    | none => node.clocked time
    | some true => (node.clocked time).wakeUp (max node.now time)
    | some false => (node.clocked time).fallAsleep (max node.now time) := rfl

/-- A node that sleeps, and since when. -/
structure AsleepSince (node : Node) (since : Nat) : Prop where
  asleep : node.power.awake = false
  slept : node.sleptAt = since
  past : since ≤ node.now

/-- A poll puts a node that is awake to sleep. -/
def FallsAsleep (node : Node) (time : Nat) : Prop :=
  node.power.awake = true ∧ (node.powered time).power.awake = false

/-- A poll wakes a node up. -/
def WakesUp (node : Node) (time : Nat) : Prop := (node.powered time).power.awake = true

/-- What may happen to a node while it sleeps: anything but a poll that wakes it up. -/
def Dozes (node : Node) : Operation → Prop
  | .poll time => ¬node.WakesUp time
  | _ => True

/-- A node that falls asleep notes the time and does nothing else in that poll. -/
theorem FallsAsleep.asleepSince {time : Nat} (falls : node.FallsAsleep time) :
    AsleepSince (node.poll time) (max node.now time) := by
  obtain ⟨awake, asleep⟩ := falls
  have resting : node.poll time = node.powered time := if_pos (by simp [asleep])
  have noted : (node.powered time).sleptAt = max node.now time ∧
      (node.powered time).now = max node.now time := by
    rw [powered_eq] at asleep ⊢
    rcases PowerManager.tick_awake awake (max node.now time) with ⟨calm, still⟩ | ⟨rests, _⟩
    · rw [calm] at asleep
      exact absurd (still.symm.trans asleep) (by decide)
    · have spread (base : Node) :
          base.spreadWake.sleptAt = base.sleptAt ∧ base.spreadWake.now = base.now := by
        unfold spreadWake
        split <;> exact ⟨rfl, rfl⟩
      have reported (base : Node) : (base.emit (.powerState false)).rest = base.rest :=
        rest_of_bearings (base.emit_frame _).2
      rw [rests]
      exact ⟨(congrArg (fun view => view.2.1) (reported _)).trans (spread _).1,
        (congrArg (fun view => view.2.2) (reported _)).trans (spread _).2⟩
  rw [resting]
  exact ⟨asleep, noted.1, noted.2 ▸ le_refl _⟩

omit [Primitives] in
/-- A poll leaves a sleeping node asleep, or wakes it up. -/
theorem powered_asleep (asleep : node.power.awake = false) (time : Nat) :
    (¬node.WakesUp time ∧ node.powered time = { node with now := max node.now time }) ∨
      (node.WakesUp time ∧ node.powered time = (node.clocked time).wakeUp (max node.now time)) := by
  have roused (base : Node) (now : Nat) (awake : base.power.awake = true) :
      (base.wakeUp now).power.awake = true := by
    have shifted (slept : Nat) (other : Node) : (other.shiftTimers slept).power = other.power := by
      unfold shiftTimers
      split <;> rfl
    have announced (other : Node) : (other.emit (.powerState true)).power = other.power := by
      unfold emit
      split <;> rfl
    have prepared (other : Node) : (other.onWake now).power = other.power := by
      unfold onWake
      simp only
      split
      · split <;> rfl
      · rfl
    rw [wakeUp, prepared, announced, shifted]
    exact awake
  unfold WakesUp
  rw [powered_eq]
  rcases PowerManager.tick_asleep asleep (max node.now time) with still | ⟨wakes, awake⟩
  · rw [still]
    refine .inl ⟨?_, ?_⟩
    · rw [clocked, still]
      exact fun awake => absurd (asleep.symm.trans awake) (by decide)
    · rw [clocked, still]
  · rw [wakes]
    exact .inr ⟨roused _ _ awake, rfl⟩

/-- Nothing that happens to a sleeping node changes since when it sleeps. -/
theorem AsleepSince.step {since : Nat} (sleeps : AsleepSince node since) {operation : Operation}
    (dozes : node.Dozes operation) : AsleepSince (node.step operation) since := by
  have sent {after : Node} (bearings : after.bearings = node.bearings) :
      AsleepSince after since := by
    have same := rest_of_bearings bearings
    simp only [rest, Prod.mk.injEq] at same
    exact ⟨same.1.trans sleeps.asleep, same.2.1.trans sleeps.slept, same.2.2 ▸ sleeps.past⟩
  have timed (time : Nat) : AsleepSince { node with now := max node.now time } since :=
    ⟨sleeps.asleep, sleeps.slept, sleeps.past.trans (Nat.le_max_left _ _)⟩
  cases operation with
  | receive frame rxMeta =>
    have ignored : node.onRadioRx frame rxMeta =
        { node with now := max node.now rxMeta.timestampMs } := if_pos (by simp [sleeps.asleep])
    rw [Node.step, ignored]
    exact timed _
  | poll time =>
    rcases powered_asleep sleeps.asleep time with ⟨_, same⟩ | ⟨wakes, _⟩
    · have resting : node.poll time = node.powered time :=
        if_pos (by simp [same, sleeps.asleep])
      rw [Node.step, resting, same]
      exact timed time
    · exact absurd wakes dozes
  | sendMessage dst payload reliability =>
    have moves : Moves False Effects.sealing node _ := sendMessage_moves _ dst payload reliability
    exact sent (moves.bearings (by decide))
  | sendBroadcast payload =>
    have quiet : Quiet False node _ := sendBroadcast_quiet _ payload
    exact sent quiet.bearings
  | trace dst =>
    have quiet : Quiet False node _ := trace_quiet _ dst
    exact sent quiet.bearings
  | closeSession peer =>
    have moves : Moves False _ node _ := closeSession_moves _ peer
    exact sent (moves.bearings (by decide))
  | addKnownIdentity identity => exact ⟨sleeps.asleep, sleeps.slept, sleeps.past⟩
  | editRoutes routes => exact ⟨sleeps.asleep, sleeps.slept, sleeps.past⟩
  | diagnostics => exact ⟨sleeps.asleep, sleeps.slept, sleeps.past⟩
  | nextTx now =>
    have silent : node.nextTx now = ({ node with now := max node.now now }, none) :=
      if_pos (by simp [sleeps.asleep])
    rw [Node.step, silent]
    exact timed now
  | nextEvent => exact ⟨sleeps.asleep, sleeps.slept, sleeps.past⟩

/-- A whole nap: since a node fell asleep it sleeps, whatever happened to it. -/
theorem FallsAsleep.nap {time : Nat} {before : Node} (falls : node.FallsAsleep time)
    (nap : Run Dozes (node.poll time) before) : AsleepSince before (max node.now time) :=
  nap.invariant (fun state => AsleepSince state (max node.now time)) falls.asleepSince
    (fun _ _ dozes sleeps => sleeps.step dozes)

end Node

/-! ## Timers -/

/-- A timer of a node; the entries of a list are named by their position. -/
inductive TimerId where
  | handshake (peer : Address)
  | discovery (target : Address)
  | message (index : Nat)
  | envelope (index : Nat)
  | hop (index : Nat)
  | trace (index : Nat)
  deriving DecidableEq, Repr

/-- Whether waking up shifts a timer of this kind. -/
def TimerId.shifted : TimerId → Bool
  | .hop _ => false
  | .trace _ => false
  | _ => true

namespace Node

/-- How long after its start a handshake is repeated or given up, whichever comes first. -/
def handshakeWait (node : Node) (entry : Address × PendingHandshake) : Nat :=
  if !entry.2.m1.isEmpty && entry.2.attempts < 3 && !node.ierp.isPending entry.1 then
    min (node.cfg.handshakeTimeoutMs / 3 * entry.2.attempts) (node.handshakeBudget entry) + 1
  else node.handshakeBudget entry + 1

/-- The time a timer is kept by. -/
def stamp (node : Node) : TimerId → Option Nat
  | .handshake peer => (node.handshakes.get peer).map PendingHandshake.startedAt
  | .discovery target => (node.ierp.pending.get target).map Discovery.deadline
  | .message index => node.transport.outstanding[index]?.map (fun message =>
      if message.stored then message.startedAt else message.nextRetry)
  | .envelope index => node.pendingEnvelopes[index]?.map PendingEnvelope.queuedAt
  | .hop index => node.hopPending[index]?.map HopPending.due
  | .trace index => node.pendingTraces[index]?.map Prod.snd

/-- How long after that time the timer runs out: the first instant at which a poll acts on
it. -/
def wait (node : Node) : TimerId → Nat
  | .handshake peer => ((node.handshakes.get peer).map (fun pending =>
      node.handshakeWait (peer, pending))).getD 0
  | .discovery _ => 0
  | .message index => (node.transport.outstanding[index]?.map (fun message =>
      if message.stored then node.transport.cfg.maxRtoMs * 8 + 1 else 0)).getD 0
  | .envelope _ => 180001
  | .hop _ => 0
  | .trace _ => 30001

/-- When a timer runs out, if there is such a timer. -/
def timeout (node : Node) (timer : TimerId) : Option Nat :=
  (node.stamp timer).map (· + node.wait timer)

/-- Sleeping consumes no timer: whatever was running when the node fell asleep, and was not
changed until it woke up, has as much time left then as before. -/
def KeepsTimers (asleep before woken : Node) (fell woke : Nat) : Prop :=
  ∀ timer deadline, asleep.timeout timer = some deadline → before.timeout timer = some deadline →
    ∃ later, woken.timeout timer = some later ∧ later - woke = deadline - fell

/-- Every timer that was running when the node fell asleep, and was not changed until it
woke up, is of a kind that is shifted and stays below the end of the clock; unless no time
was slept. -/
def ShiftableTimers (asleep before : Node) (fell woke : Nat) : Prop :=
  ∀ timer deadline, asleep.timeout timer = some deadline → before.timeout timer = some deadline →
    fell < deadline → fell = woke ∨ (timer.shifted = true ∧
      ∀ time ∈ before.stamp timer, time + (woke - fell) ≤ timeMax)

/-- Shifting moves the time a timer is kept by, the kinds left out apart. -/
theorem shiftTimers_stamp {slept : Nat} (positive : slept ≠ 0) (node : Node) (timer : TimerId) :
    (node.shiftTimers slept).stamp timer = (node.stamp timer).map (fun time =>
      if timer.shifted then min (time + slept) timeMax else time) := by
  unfold shiftTimers
  rw [if_neg positive]
  cases timer with
  | handshake peer =>
    simp only [stamp, get_mapValues, Option.map_map]
    rfl
  | discovery target =>
    simp only [stamp, get_mapValues, Option.map_map]
    rfl
  | message index =>
    simp only [stamp, Transport.shiftTimers, List.getElem?_map, Option.map_map]
    congr 1
    funext message
    -- A stored message has no retry, which the end of the clock stands for.
    by_cases ends : message.nextRetry = timeMax
    · by_cases stored : message.stored = true
      · simp [Transport.shift, stored, TimerId.shifted]
      · simp [Transport.shift, stored, TimerId.shifted, ends]
    · by_cases stored : message.stored = true
      · simp [Transport.shift, stored, TimerId.shifted]
      · simp [Transport.shift, stored, TimerId.shifted, ends]
  | envelope index =>
    simp only [stamp, List.getElem?_map, Option.map_map]
    rfl
  | hop index => exact Option.map_id'.symm
  | trace index => exact Option.map_id'.symm

/-- Shifting leaves how long each timer runs. -/
theorem shiftTimers_wait (node : Node) (slept : Nat) (timer : TimerId) :
    (node.shiftTimers slept).wait timer = node.wait timer := by
  unfold shiftTimers
  split
  · rfl
  · cases timer with
    | handshake peer =>
      simp only [wait, get_mapValues, Option.map_map]
      congr 2
      funext pending
      simp only [Function.comp, handshakeWait, handshakeBudget, Ierp.isPending,
        OrderedMap.contains, get_mapValues, Option.isSome_map]
      rfl
    | message index =>
      simp only [wait, Transport.shiftTimers, List.getElem?_map, Option.map_map]
      rfl
    | _ => rfl

/-- What waking up does to the timers is the shift. -/
theorem wakeUp_timeout (node : Node) (now : Nat) (timer : TimerId) :
    (node.wakeUp now).timeout timer = (node.shiftTimers (now - node.sleptAt)).timeout timer := by
  have announced (base : Node) (event : NodeEvent) :
      (base.emit event).timeout timer = base.timeout timer := by
    unfold emit
    split
    · cases timer <;> rfl
    · rfl
  have prepared (base : Node) : (base.onWake now).timeout timer = base.timeout timer := by
    unfold onWake
    simp only
    split
    · split <;> cases timer <;> rfl
    · cases timer <;> rfl
  have shifted : ({ node with lastWake := now }.shiftTimers (now - node.sleptAt)).timeout timer =
      (node.shiftTimers (now - node.sleptAt)).timeout timer := by
    unfold shiftTimers
    split <;> cases timer <;> rfl
  rw [wakeUp, prepared, announced, shifted]

/-- A time shifted by what was slept keeps what is left, as long as it does not meet the end
of the clock. -/
theorem shifted_left {time wait fell woke : Nat} (order : fell ≤ woke) :
    min (time + (woke - fell)) timeMax + wait - woke = time + wait - fell ↔
      (fell < time + wait → time + (woke - fell) ≤ timeMax) := by
  constructor
  · intro same running
    omega
  · intro below
    by_cases running : fell < time + wait
    · have fits := below running
      omega
    · omega

variable [Primitives] {awake before : Node} {time later : Nat}

/-- A node that falls asleep and wakes up has consumed none of its timers exactly when those
that were running are of the kinds that are shifted, or it slept no time at all. -/
theorem nap_keeps_timers_iff (falls : awake.FallsAsleep time)
    (nap : Run Dozes (awake.poll time) before) (wakes : before.WakesUp later) :
    KeepsTimers (awake.poll time) before (before.powered later) (max awake.now time)
        (max before.now later) ↔
      ShiftableTimers (awake.poll time) before (max awake.now time) (max before.now later) := by
  have sleeps := falls.nap nap
  have woken : before.powered later = (before.clocked later).wakeUp (max before.now later) :=
    ((powered_asleep sleeps.asleep later).resolve_left (fun still => still.1 wakes)).2
  have order : max awake.now time ≤ max before.now later := sleeps.past.trans (Nat.le_max_left _ _)
  generalize max awake.now time = fell at *
  generalize max before.now later = woke at *
  have timeouts (timer : TimerId) : (before.powered later).timeout timer =
      (before.shiftTimers (woke - fell)).timeout timer := by
    rw [woken, wakeUp_timeout, show (before.clocked later).sleptAt = fell from sleeps.slept]
    unfold shiftTimers
    split <;> cases timer <;> rfl
  unfold KeepsTimers ShiftableTimers
  refine forall_congr' fun timer => forall_congr' fun deadline => forall_congr' fun _ =>
    forall_congr' fun held => ?_
  obtain ⟨stamped, present, rfl⟩ := Option.map_eq_some_iff.mp held
  rw [timeouts]
  by_cases rested : fell = woke
  · have nothing : before.shiftTimers (woke - fell) = before := if_pos (by omega)
    rw [nothing, held]
    exact ⟨fun _ _ => .inl rested, fun _ => ⟨_, rfl, by omega⟩⟩
  · have positive : woke - fell ≠ 0 := by omega
    have moved : (before.shiftTimers (woke - fell)).timeout timer =
        some ((if timer.shifted then min (stamped + (woke - fell)) timeMax else stamped) +
          before.wait timer) := by
      rw [timeout, shiftTimers_stamp positive, shiftTimers_wait, present]
      rfl
    rw [moved, present]
    cases kind : timer.shifted with
    | true =>
      simpa [rested] using shifted_left order
    | false =>
      simp [rested]
      omega

end Node

end MeshStar

namespace MeshStar.Nap

local instance napSuite : Primitives := Transparent.primitives

open Transparent List

open Node

/-- A node that listens for a second and sleeps for five. -/
def listener : Node :=
  let cfg := NodeConfig.default
  (Node.new { cfg with power := { cfg.power with mode := .dutyCycle 1000 5000 } }
    (identity 1) generator 0).poll 0

def peer : Address := (identity 2).address

/-- It traces a route before it falls asleep. -/
def tracing : Node := (listener.trace peer).1

/-- The trace runs on while the node sleeps. -/
theorem trace_runs_asleep : tracing.FallsAsleep 1000 ∧ (tracing.poll 1000).WakesUp 6000 ∧
    ¬KeepsTimers (tracing.poll 1000) (tracing.poll 1000) ((tracing.poll 1000).powered 6000)
      1000 6000 := by
  have facts : (tracing.power.awake = true ∧ (tracing.powered 1000).power.awake = false) ∧
      ((tracing.poll 1000).powered 6000).power.awake = true ∧
      (tracing.poll 1000).timeout (.trace 0) = some 30001 ∧
      ((tracing.poll 1000).powered 6000).timeout (.trace 0) = some 30001 := by
    decide +kernel
  obtain ⟨falls, wakes, before, after⟩ := facts
  refine ⟨falls, wakes, fun keeps => ?_⟩
  obtain ⟨later, found, left⟩ := keeps (.trace 0) 30001 before before
  rw [after] at found
  cases found
  exact absurd left (by decide)

/-- A node with a handshake and a discovery that wait for an unknown peer. -/
def waiting : Node := (listener.sendMessage peer [1, 2, 3] .acknowledged).1

/-- Its timers are all shifted, so its nap consumes none of them. -/
theorem handshake_waits_asleep : waiting.FallsAsleep 1000 ∧ (waiting.poll 1000).WakesUp 6000 ∧
    (waiting.poll 1000).handshakes.size = 1 ∧
    KeepsTimers (waiting.poll 1000) (waiting.poll 1000) ((waiting.poll 1000).powered 6000)
      1000 6000 := by
  have facts : (waiting.power.awake = true ∧ (waiting.powered 1000).power.awake = false) ∧
      ((waiting.poll 1000).powered 6000).power.awake = true ∧
      (waiting.poll 1000).handshakes.size = 1 ∧
      max waiting.now 1000 = 1000 ∧ max (waiting.poll 1000).now 6000 = 6000 := by
    decide +kernel
  have entries : (waiting.poll 1000).hopPending.length = 0 ∧
      (waiting.poll 1000).pendingTraces.length = 0 ∧
      (waiting.poll 1000).transport.outstanding.length = 0 ∧
      (waiting.poll 1000).pendingEnvelopes.length = 0 ∧
      (waiting.poll 1000).handshakes.entries.all (fun entry => entry.2.startedAt ≤ 1000000) ∧
      (waiting.poll 1000).ierp.pending.entries.all (fun entry => entry.2.deadline ≤ 1000000) := by
    decide +kernel
  obtain ⟨falls, wakes, pending, fell, woke⟩ := facts
  obtain ⟨hops, traces, messages, envelopes, handshakes, discoveries⟩ := entries
  have kept := (nap_keeps_timers_iff falls .refl wakes).mpr
  rw [fell, woke] at kept
  refine ⟨falls, wakes, pending, kept (fun timer deadline held _ _ => .inr ?_)⟩
  clear kept falls wakes pending fell woke
  generalize waiting.poll 1000 = asleep at *
  obtain ⟨time, stamped, _⟩ := Option.map_eq_some_iff.mp held
  have early : timer.shifted = true ∧ time ≤ 1000000 := by
    cases timer with
    | handshake target =>
      obtain ⟨pending, found, rfl⟩ := Option.map_eq_some_iff.mp stamped
      exact ⟨rfl, of_decide_eq_true (all_eq_true.mp handshakes _
        ((OrderedMap.get_eq_some_iff _ _ _).mp found))⟩
    | discovery target =>
      obtain ⟨discovery, found, rfl⟩ := Option.map_eq_some_iff.mp stamped
      exact ⟨rfl, of_decide_eq_true (all_eq_true.mp discoveries _
        ((OrderedMap.get_eq_some_iff _ _ _).mp found))⟩
    | message index => simp [stamp, eq_nil_of_length_eq_zero messages] at stamped
    | envelope index => simp [stamp, eq_nil_of_length_eq_zero envelopes] at stamped
    | hop index => simp [stamp, eq_nil_of_length_eq_zero hops] at stamped
    | trace index => simp [stamp, eq_nil_of_length_eq_zero traces] at stamped
  refine ⟨early.1, fun other member => ?_⟩
  rw [stamped] at member
  cases member
  exact (Nat.add_le_add_right early.2 _).trans (by decide)

end MeshStar.Nap

import MeshStar.Packet
import MeshStar.Platform

/-!
# Broadcast storm protection

A bounded cache remembers which packets were seen, a scheduler holds the packets that
wait for their randomised relay slot, and a relay is cancelled when the same packet is
heard often enough meanwhile.
-/

namespace MeshStar

structure StormConfig where
  seenCacheSize : Nat
  seenTtlMs : Nat
  minDelayMs : Nat
  maxDelayMs : Nat
  counterThreshold : Nat
  densityThreshold : Nat
  minForwardPercent : Nat
  maxPending : Nat
  deriving DecidableEq, Repr

def StormConfig.default : StormConfig := ⟨256, 5 * 60 * 1000, 40, 600, 3, 4, 25, 16⟩

structure SeenEntry where
  firstSeen : Nat
  count : Nat
  forwarded : Bool
  deriving DecidableEq, Repr

/-- Bounded cache of packet identifiers, evicted in order of arrival. -/
structure SeenCache where
  map : OrderedMap PacketKey SeenEntry
  order : List PacketKey
  cap : Nat
  ttlMs : Nat

namespace SeenCache

def new (cap ttlMs : Nat) : SeenCache := ⟨OrderedMap.empty, [], max cap 1, ttlMs⟩

/-- Drop the oldest keys until the map has room, or no key is left. -/
def makeRoom (cap : Nat) : OrderedMap PacketKey SeenEntry → List PacketKey →
    OrderedMap PacketKey SeenEntry × List PacketKey
  | map, [] => (map, [])
  | map, oldest :: rest =>
    if map.size ≥ cap then makeRoom cap (map.remove oldest) rest else (map, oldest :: rest)

/-- Record an observation. The result tells whether the packet is new. -/
def observe (cache : SeenCache) (key : PacketKey) (now : Nat) : SeenCache × Bool :=
  if cache.map.contains key then
    ({ cache with map := cache.map.modify key (fun entry =>
        { entry with count := min (entry.count + 1) 65535 }) }, false)
  else
    let room := makeRoom cache.cap cache.map cache.order
    ({ cache with map := room.1.insert key ⟨now, 1, false⟩, order := room.2 ++ [key] }, true)

def markForwarded (cache : SeenCache) (key : PacketKey) : SeenCache :=
  { cache with map := cache.map.modify key (fun entry => { entry with forwarded := true }) }

/-- Drop expired keys from the front of the order. -/
def expireFrom (ttlMs now : Nat) : OrderedMap PacketKey SeenEntry → List PacketKey →
    OrderedMap PacketKey SeenEntry × List PacketKey
  | map, [] => (map, [])
  | map, oldest :: rest =>
    match map.get oldest with
    | some entry =>
      if now - entry.firstSeen > ttlMs then expireFrom ttlMs now (map.remove oldest) rest
      else (map, oldest :: rest)
    | none => expireFrom ttlMs now map rest

def expire (cache : SeenCache) (now : Nat) : SeenCache :=
  let kept := expireFrom cache.ttlMs now cache.map cache.order
  { cache with map := kept.1, order := kept.2 }

end SeenCache

/-- Random forwarding delay: the farther the transmitter, the shorter. -/
def forwardDelayMs (rng : Rng) (cfg : StormConfig) (snrDb : Float32) : Rng × Nat :=
  let span := max (cfg.maxDelayMs - cfg.minDelayMs) 1
  let scaled := (snrDb + 20.0) / 30.0
  let weight : Float32 := if scaled < 0.0 then 0.0 else if scaled > 1.0 then 1.0 else scaled
  let base := cfg.minDelayMs + (Float32.ofNat span * 0.6 * weight).toUInt32.toNat
  let drawn := rng.nextU32
  (drawn.1, base + drawn.2.toNat % (span * 2 / 5 + 1))

/-- Forwarding probability in percent for a number of neighbours. -/
def forwardPercent (cfg : StormConfig) (neighborCount : Nat) : Nat :=
  if neighborCount ≤ cfg.densityThreshold then 100
  else max (cfg.densityThreshold * 100 / neighborCount) cfg.minForwardPercent

/-- Draw only when the outcome is not certain. -/
def rollPercent (rng : Rng) (percent : Nat) : Rng × Bool :=
  if percent ≥ 100 then (rng, true)
  else
    let drawn := rng.nextU32
    (drawn.1, drawn.2.toNat % 100 < percent)

/-- A packet waiting for its relay slot. -/
structure PendingRelay where
  key : PacketKey
  due : Nat
  packet : Packet
  heard : Nat
  deriving DecidableEq, Repr

/-- Packets waiting for their randomised relay slot, in order of arrival. -/
structure RebroadcastScheduler where
  pending : List PendingRelay
  deriving DecidableEq, Repr

namespace RebroadcastScheduler

def new : RebroadcastScheduler := ⟨[]⟩

/-- Queue a packet for relaying, unless the queue is full. -/
def schedule (scheduler : RebroadcastScheduler) (key : PacketKey) (packet : Packet) (due : Nat)
    (maxPending : Nat) : RebroadcastScheduler :=
  if scheduler.pending.length ≥ maxPending then scheduler
  else ⟨scheduler.pending ++ [⟨key, due, packet, 1⟩]⟩

/-- Count a copy for the first pending relay of the key. -/
def countHeard (key : PacketKey) : List PendingRelay → List PendingRelay
  | [] => []
  | relay :: rest =>
    if relay.key = key then { relay with heard := min (relay.heard + 1) 255 } :: rest
    else relay :: countHeard key rest

/-- Counting a copy changes no packet. -/
theorem countHeard_packets (key : PacketKey) (relays : List PendingRelay) :
    (countHeard key relays).map (·.packet) = relays.map (·.packet) := by
  induction relays with
  | nil => rfl
  | cons head rest ih =>
    unfold countHeard
    split
    · rfl
    · rw [List.map_cons, List.map_cons, ih]

/-- Another copy of a packet was heard. -/
def heard (scheduler : RebroadcastScheduler) (key : PacketKey) : RebroadcastScheduler :=
  ⟨countHeard key scheduler.pending⟩

def cancel (scheduler : RebroadcastScheduler) (key : PacketKey) : RebroadcastScheduler :=
  ⟨scheduler.pending.filter (fun relay => relay.key ≠ key)⟩

/-- Take the packets whose slot arrived; those heard too often are cancelled. -/
def due (scheduler : RebroadcastScheduler) (now counterThreshold : Nat) :
    RebroadcastScheduler × List (PacketKey × Packet) :=
  (⟨scheduler.pending.filter (fun relay => !decide (relay.due ≤ now))⟩,
    (scheduler.pending.filter (fun relay =>
      decide (relay.due ≤ now) && !decide (relay.heard ≥ counterThreshold))).map
      (fun relay => (relay.key, relay.packet)))

end RebroadcastScheduler

end MeshStar

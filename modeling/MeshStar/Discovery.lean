import MeshStar.Packet
import MeshStar.Platform

/-!
# Route discovery

The payloads of route requests, replies and errors, the discoveries in progress with
the packets parked behind them, the requests a relay has seen, and the replies waiting
for their transmission slot.
-/

namespace MeshStar

open List OrderedMap

namespace RreqFlags

def proxyOk : UInt8 := 1
def wantKey : UInt8 := 2
def handshake : UInt8 := 4

end RreqFlags

namespace RrepFlags

def proxy : UInt8 := 1
def hasKey : UInt8 := 2
def targetLeaf : UInt8 := 4
def handshake : UInt8 := 8

end RrepFlags

/-- Read an address that must be a real destination. -/
def decodeTarget (bytes : Bytes) : Except Error Address := do
  let target ← Address.fromBytes (bytes.take 8)
  if target.isNull || target.isBroadcast then throw .badField
  return target

structure RouteRequest where
  target : Address
  cost : UInt16
  flags : UInt8
  handshake : Bytes
  deriving DecidableEq, Repr

namespace RouteRequest

def len : Nat := 11

def encode (request : RouteRequest) : Bytes :=
  let cleared := request.flags &&& ~~~RreqFlags.handshake
  let flags := if request.handshake.isEmpty then cleared else cleared ||| RreqFlags.handshake
  request.target.asBytes ++ BigEndian.encode 2 request.cost.toNat ++ [flags] ++ request.handshake

def decode (bytes : Bytes) : Except Error RouteRequest := do
  if bytes.length < len then throw .truncated
  let target ← decodeTarget bytes
  let flags := byteAt bytes 10
  let handshake ←
    if flags &&& RreqFlags.handshake ≠ 0 then
      if bytes.length < len + 32 then throw .truncated else pure (bytes.drop len)
    else if bytes.length ≠ len then throw .badField
    else pure []
  return ⟨target, UInt16.ofNat (BigEndian.decode (slice bytes 8 10)), flags, handshake⟩

end RouteRequest

structure RouteReply where
  target : Address
  reqId : UInt32
  hopsToTarget : UInt8
  cost : UInt16
  flags : UInt8
  targetKey : Option Bytes32
  handshake : Bytes
  deriving DecidableEq

namespace RouteReply

def minLen : Nat := 16

def encode (reply : RouteReply) : Bytes :=
  let cleared := reply.flags &&& ~~~(RrepFlags.hasKey ||| RrepFlags.handshake)
  let keyed := if reply.targetKey.isSome then cleared ||| RrepFlags.hasKey else cleared
  let flags := if reply.handshake.isEmpty then keyed else keyed ||| RrepFlags.handshake
  let key := match reply.targetKey with
    | some bytes => bytes.val
    | none => []
  reply.target.asBytes ++ BigEndian.encode 4 reply.reqId.toNat ++ [reply.hopsToTarget] ++
    BigEndian.encode 2 reply.cost.toNat ++ [flags] ++ key ++ reply.handshake

def decode (bytes : Bytes) : Except Error RouteReply := do
  if bytes.length < minLen then throw .truncated
  let target ← decodeTarget bytes
  let flags := byteAt bytes 15
  let (targetKey, rest) ←
    if flags &&& RrepFlags.hasKey ≠ 0 then
      if bytes.length < minLen + 32 then throw .truncated
      else pure (some (FixedBytes.ofSlice 32 (bytes.drop minLen)), bytes.drop (minLen + 32))
    else pure (none, bytes.drop minLen)
  let handshake ←
    if flags &&& RrepFlags.handshake ≠ 0 then
      if rest.length < 32 + 48 + 16 then throw .truncated else pure rest
    else if rest ≠ [] then throw .badField
    else pure []
  return { target := target
           reqId := UInt32.ofNat (BigEndian.decode (slice bytes 8 12))
           hopsToTarget := byteAt bytes 12
           cost := UInt16.ofNat (BigEndian.decode (slice bytes 13 15))
           flags := flags
           targetKey := targetKey
           handshake := handshake }

end RouteReply

/-- Destinations a relay could not reach. -/
structure RouteError where
  unreachable : List Address
  deriving DecidableEq, Repr

namespace RouteError

def encode (error : RouteError) : Bytes :=
  UInt8.ofNat (min error.unreachable.length 16) ::
    (error.unreachable.take 16).flatMap Address.asBytes

/-- Read `count` addresses from a payload of exactly that many. -/
def decodeAddresses : Nat → Bytes → Except Error (List Address)
  | 0, _ => .ok []
  | count + 1, bytes => do
    let addr ← decodeTarget bytes
    let rest ← decodeAddresses count (bytes.drop 8)
    return addr :: rest

def decode (bytes : Bytes) : Except Error RouteError := do
  if bytes.isEmpty then throw .truncated
  let count := (byteAt bytes 0).toNat
  if count = 0 ∨ count > 16 ∨ bytes.length ≠ 1 + 8 * count then throw .badField
  let unreachable ← decodeAddresses count (bytes.drop 1)
  return ⟨unreachable⟩

end RouteError

structure ZrpConfig where
  zoneRadius : UInt8
  discoveryAttempts : Nat
  discoveryTimeoutMs : Nat
  discoveryPerHopMs : Nat
  maxPendingDiscoveries : Nat
  maxQueuedPerDiscovery : Nat
  maxZoneEntries : Nat
  maxAdvertisedEntries : Nat
  betterCostPercent : Nat
  discoveryHoldoffMs : Nat
  deriving DecidableEq, Repr

def ZrpConfig.default : ZrpConfig := ⟨2, 3, 3000, 1600, 8, 4, 96, 6, 70, 20000⟩

/-- A route discovery in progress. -/
structure Discovery where
  target : Address
  startedAt : Nat
  attempt : Nat
  deadline : Nat
  reqId : UInt32
  queued : List Packet
  deriving DecidableEq, Repr

/-- Time to live of an attempt: expanding ring search. -/
def Discovery.ttl (attempt : Nat) : UInt8 :=
  discoveryTtlSteps.getD (min attempt (discoveryTtlSteps.length - 1)) 0

/-- A route reply waiting for its slot. -/
structure PendingReply where
  origin : Address
  reqId : UInt32
  cost : UInt16
  due : Nat
  packet : Packet
  deriving DecidableEq, Repr

/-- Staggered replies. A reply is dropped when one at least as good is overheard. -/
structure PendingReplies where
  items : List PendingReply
  deriving DecidableEq, Repr

namespace PendingReplies

def schedule (replies : PendingReplies) (reply : PendingReply) : PendingReplies :=
  if replies.items.length < 16 then ⟨replies.items ++ [reply]⟩ else replies

def heard (replies : PendingReplies) (origin : Address) (reqId : UInt32) (cost : UInt16) :
    PendingReplies :=
  ⟨replies.items.filter (fun reply =>
    !(reply.origin == origin && reply.reqId == reqId && reply.cost ≥ cost))⟩

def due (replies : PendingReplies) (now : Nat) : PendingReplies × List Packet :=
  (⟨replies.items.filter (fun reply => !decide (reply.due ≤ now))⟩,
    (replies.items.filter (fun reply => decide (reply.due ≤ now))).map PendingReply.packet)

end PendingReplies

/-- A route request a relay has seen. -/
structure SeenRequest where
  bestCost : Nat
  relays : Nat
  firstSeen : Nat
  replied : Bool
  deriving DecidableEq, Repr

/-- Pending discoveries, seen requests and the last outcome for each target. -/
structure Ierp where
  cfg : ZrpConfig
  pending : OrderedMap Address Discovery
  seenRequests : OrderedMap PacketKey SeenRequest
  lastFinished : OrderedMap Address (Nat × Bool)

namespace Ierp

def new (cfg : ZrpConfig) : Ierp :=
  ⟨cfg, OrderedMap.empty, OrderedMap.empty, OrderedMap.empty⟩

def isPending (ierp : Ierp) (target : Address) : Bool := ierp.pending.contains target

/-- Whether a new discovery may start now. -/
def mayStart (ierp : Ierp) (target : Address) (now : Nat) : Bool :=
  if ierp.pending.contains target then false
  else if ierp.pending.size ≥ ierp.cfg.maxPendingDiscoveries then false
  else
    match ierp.lastFinished.get target with
    | some (time, false) => now - time ≥ ierp.cfg.discoveryHoldoffMs
    | some (time, true) => now - time ≥ ierp.cfg.discoveryHoldoffMs / 4
    | none => true

def timeoutFor (ierp : Ierp) (ttl : UInt8) : Nat :=
  ierp.cfg.discoveryTimeoutMs + ttl.toNat * ierp.cfg.discoveryPerHopMs

/-- Start a discovery, returning the time to live of the first request. -/
def start (ierp : Ierp) (target : Address) (reqId : UInt32) (now : Nat) : Ierp × UInt8 :=
  let ttl := Discovery.ttl 0
  let discovery : Discovery := ⟨target, now, 0, now + ierp.timeoutFor ttl, reqId, []⟩
  ({ ierp with pending := ierp.pending.insert target discovery }, ttl)

/-- Whether a pending discovery has room for one more packet. -/
def hasRoom (ierp : Ierp) (target : Address) : Bool :=
  match ierp.pending.get target with
  | some discovery => discovery.queued.length < ierp.cfg.maxQueuedPerDiscovery
  | none => false

/-- Queue a packet until the route is known; false if full. -/
def queue (ierp : Ierp) (target : Address) (packet : Packet) : Ierp × Bool :=
  if ierp.hasRoom target then
    ({ ierp with pending := ierp.pending.modify target (fun discovery =>
        { discovery with queued := discovery.queued ++ [packet] }) }, true)
  else (ierp, false)

/-- The route was found: drain the queued packets. -/
def succeed (ierp : Ierp) (target : Address) (now : Nat) : Ierp × List Packet :=
  ({ ierp with
      lastFinished := ierp.lastFinished.insert target (now, true)
      pending := ierp.pending.remove target },
    match ierp.pending.get target with
    | some discovery => discovery.queued
    | none => [])

/-- What a timer pass has produced so far. -/
structure Pass where
  rng : Rng
  pending : OrderedMap Address Discovery
  retries : List (Address × UInt32 × UInt8)
  exhausted : List (Address × List Packet)

/-- One discovery of a timer pass: retried on a wider ring, or given up. -/
def passStep (cfg : ZrpConfig) (now : Nat) (pass : Pass) (entry : Address × Discovery) : Pass :=
  if now < entry.2.deadline then pass
  else
    let attempt := entry.2.attempt + 1
    if attempt ≥ cfg.discoveryAttempts then
      { pass with exhausted := pass.exhausted ++ [(entry.1, entry.2.queued)] }
    else
      let drawn := pass.rng.nextU32
      let ttl := Discovery.ttl attempt
      { pass with
        rng := drawn.1
        pending := pass.pending.modify entry.1 (fun discovery =>
          { discovery with
            attempt := attempt
            reqId := drawn.2
            deadline := now + cfg.discoveryTimeoutMs + ttl.toNat * cfg.discoveryPerHopMs })
        retries := pass.retries ++ [(entry.1, drawn.2, ttl)] }

/-- Result of the discovery timers: requests to repeat and targets given up. -/
structure TickResult where
  ierp : Ierp
  rng : Rng
  retries : List (Address × UInt32 × UInt8)
  failures : List (Address × List Packet)

/-- Advance timed-out discoveries. -/
def tick (ierp : Ierp) (now : Nat) (rng : Rng) : TickResult :=
  let pass := ierp.pending.entries.foldl (passStep ierp.cfg now) ⟨rng, ierp.pending, [], []⟩
  { ierp := { ierp with
      pending := pass.exhausted.foldl (fun map failure => map.remove failure.1) pass.pending
      lastFinished := pass.exhausted.foldl
        (fun map failure => map.insert failure.1 (now, false)) ierp.lastFinished }
    rng := pass.rng
    retries := pass.retries
    failures := pass.exhausted }

/-- Record a request copy. True if this copy should be relayed: the first copy, or a much
better one while relays are left. -/
def observeRequest (ierp : Ierp) (origin : Address) (reqId : UInt32) (cost now : Nat) :
    Ierp × Bool :=
  let key : PacketKey := ⟨origin, reqId⟩
  let seen := if ierp.seenRequests.size > 512 then
      ierp.seenRequests.retain (fun _ request => request.firstSeen > now - 60000)
    else ierp.seenRequests
  match seen.get key with
  | none => ({ ierp with seenRequests := seen.insert key ⟨cost, 1, now, false⟩ }, true)
  | some request =>
    if cost * 100 < request.bestCost * ierp.cfg.betterCostPercent ∧ request.relays < 2 then
      let better := { request with bestCost := cost, relays := request.relays + 1 }
      ({ ierp with seenRequests := seen.insert key better }, true)
    else if cost < request.bestCost then
      ({ ierp with seenRequests := seen.insert key { request with bestCost := cost } }, false)
    else ({ ierp with seenRequests := seen }, false)

/-- Mark a request as answered; false if it already was. -/
def markReplied (ierp : Ierp) (origin : Address) (reqId : UInt32) : Ierp × Bool :=
  let key : PacketKey := ⟨origin, reqId⟩
  match ierp.seenRequests.get key with
  | none => (ierp, true)
  | some request =>
    if request.replied then (ierp, false)
    else
      let answered := { request with replied := true }
      ({ ierp with seenRequests := ierp.seenRequests.insert key answered }, true)

def expire (ierp : Ierp) (now : Nat) : Ierp :=
  { ierp with
    seenRequests := ierp.seenRequests.retain (fun _ request => request.firstSeen > now - 120000)
    lastFinished := ierp.lastFinished.retain (fun _ finished =>
      now - finished.1 < ierp.cfg.discoveryHoldoffMs * 4) }

/-- A packet waits behind some discovery. -/
def Parks (pending : OrderedMap Address Discovery) (packet : Packet) : Prop :=
  ∃ target discovery, pending.get target = some discovery ∧ packet ∈ discovery.queued

variable {ierp : Ierp} {target : Address} {now : Nat} {packet : Packet}

/-- A new discovery parks nothing. -/
theorem parks_start {reqId : UInt32}
    (parks : Parks (ierp.start target reqId now).1.pending packet) : Parks ierp.pending packet := by
  obtain ⟨other, discovery, found, member⟩ := parks
  simp only [start, get_insert] at found
  split at found
  · cases found
    cases member
  · exact ⟨other, discovery, found, member⟩

/-- Queueing parks the queued packet only. -/
theorem parks_queue {parked : Packet} (parks : Parks (ierp.queue target parked).1.pending packet) :
    packet = parked ∨ Parks ierp.pending packet := by
  obtain ⟨other, discovery, found, member⟩ := parks
  unfold queue at found
  split at found
  · simp only [get_modify] at found
    split at found
    · obtain ⟨earlier, present, same⟩ := Option.map_eq_some_iff.mp found
      subst same
      rcases mem_append.mp member with old | new
      · exact .inr ⟨other, earlier, present, old⟩
      · exact .inl (mem_singleton.mp new)
    · exact .inr ⟨other, discovery, found, member⟩
  · exact .inr ⟨other, discovery, found, member⟩

/-- A found route releases packets that were parked, and parks no other. -/
theorem parks_succeed (parks : Parks (ierp.succeed target now).1.pending packet ∨
      packet ∈ (ierp.succeed target now).2) : Parks ierp.pending packet := by
  rcases parks with ⟨other, discovery, found, member⟩ | member
  · simp only [succeed, get_remove] at found
    split at found
    · cases found
    · exact ⟨other, discovery, found, member⟩
  · simp only [succeed] at member
    split at member
    · rename_i discovery present
      exact ⟨target, discovery, present, member⟩
    · cases member

/-- Rewriting discoveries without touching their queues parks nothing new. -/
theorem parks_mapValues {pending : OrderedMap Address Discovery}
    {change : Address → Discovery → Discovery}
    (sameQueue : ∀ target discovery, (change target discovery).queued = discovery.queued)
    (parks : Parks (pending.mapValues change) packet) : Parks pending packet := by
  obtain ⟨target, discovery, found, member⟩ := parks
  rw [get_mapValues] at found
  obtain ⟨earlier, present, same⟩ := Option.map_eq_some_iff.mp found
  subst same
  rw [sameQueue] at member
  exact ⟨target, earlier, present, member⟩

/-- What a timer pass holds so far was parked before. -/
structure PassKeeps (ierp : Ierp) (pass : Pass) : Prop where
  pending : ∀ packet, Parks pass.pending packet → Parks ierp.pending packet
  exhausted : ∀ failure ∈ pass.exhausted, ∀ packet ∈ failure.2, Parks ierp.pending packet

theorem passStep_keeps {pass : Pass} {entry : Address × Discovery}
    (kept : PassKeeps ierp pass) (member : entry ∈ ierp.pending.entries) :
    PassKeeps ierp (passStep ierp.cfg now pass entry) := by
  have present : ierp.pending.get entry.1 = some entry.2 :=
    (ierp.pending.get_eq_some_iff entry.1 entry.2).mpr member
  simp only [passStep]
  split
  · exact kept
  · split
    · refine ⟨kept.pending, ?_⟩
      intro failure inside packet parked
      rcases mem_append.mp inside with earlier | new
      · exact kept.exhausted failure earlier packet parked
      · rw [mem_singleton.mp new] at parked
        exact ⟨entry.1, entry.2, present, parked⟩
    · refine ⟨?_, kept.exhausted⟩
      intro packet parks
      apply kept.pending
      refine parks_mapValues ?_ parks
      intro target discovery
      dsimp only
      split <;> rfl

theorem pass_keeps {pass : Pass} {entries : List (Address × Discovery)}
    (kept : PassKeeps ierp pass) (members : ∀ entry ∈ entries, entry ∈ ierp.pending.entries) :
    PassKeeps ierp (entries.foldl (passStep ierp.cfg now) pass) := by
  induction entries generalizing pass with
  | nil => exact kept
  | cons head rest ih =>
    refine ih (passStep_keeps kept (members head mem_cons_self)) ?_
    intro entry member
    exact members entry (mem_cons_of_mem _ member)

theorem parks_removals {pending : OrderedMap Address Discovery}
    {failures : List (Address × List Packet)}
    (parks : Parks (failures.foldl (fun map failure => map.remove failure.1) pending) packet) :
    Parks pending packet := by
  induction failures generalizing pending with
  | nil => exact parks
  | cons head rest ih =>
    obtain ⟨target, discovery, found, member⟩ := ih parks
    rw [get_remove] at found
    split at found
    · cases found
    · exact ⟨target, discovery, found, member⟩

/-- The discovery timers park nothing, and give up only packets that were parked. -/
theorem tick_keeps (ierp : Ierp) (now : Nat) (rng : Rng) :
    (∀ packet, Parks (ierp.tick now rng).ierp.pending packet → Parks ierp.pending packet) ∧
      ∀ failure ∈ (ierp.tick now rng).failures, ∀ packet ∈ failure.2,
        Parks ierp.pending packet := by
  have kept : PassKeeps ierp (ierp.pending.entries.foldl (passStep ierp.cfg now)
      ⟨rng, ierp.pending, [], []⟩) :=
    pass_keeps ⟨fun _ parks => parks, fun _ impossible => by cases impossible⟩
      (fun _ member => member)
  refine ⟨?_, kept.exhausted⟩
  intro packet parks
  exact kept.pending packet (parks_removals parks)

/-- Recording a request copy touches no discovery. -/
@[simp] theorem observeRequest_pending (ierp : Ierp) (origin : Address) (reqId : UInt32)
    (cost now : Nat) : (ierp.observeRequest origin reqId cost now).1.pending = ierp.pending := by
  simp only [observeRequest]
  repeat' split
  all_goals rfl

/-- Marking a request as answered touches no discovery. -/
@[simp] theorem markReplied_pending (ierp : Ierp) (origin : Address) (reqId : UInt32) :
    (ierp.markReplied origin reqId).1.pending = ierp.pending := by
  simp only [markReplied]
  repeat' split
  all_goals rfl

end Ierp

end MeshStar
